import MandateGateway.Policy.Dedicated
import Mathlib.Data.Finset.Card

/-! # The trace of a mandate evaluation

    The trace of a checklist whose rules go by fixed names lists the names in
    order: all of them passed, or the last one failed (`trace_of_clear`,
    `trace_of_refused`).  The mandate evaluator is one; its scopes only restrict,
    so that a mandate with less in its scopes finds fewer requests valid
    (`Valid.of_narrowed`). -/

namespace MandateGateway

open Clock Checklist

/-! ## Traces of named rules -/

section

/-- A step of the trace, without its detail. -/
def RuleEvaluationStep.outcome (step : RuleEvaluationStep) : String × Bool :=
  (step.ruleName, step.passed)

/-- The rule goes by the name, whether it passes or refuses. -/
structure Rule.GoesBy (name : String) (rule : Rule) : Prop where
  label   : ∀ step, rule.label = some step → step.outcome = (name, true)
  labeled : rule.label ≠ none
  failure : ∀ refusal, rule.failure = some refusal → refusal.step.outcome = (name, false)

theorem evaluatedRules_of_failed {rule : Rule} {refusal : RuleRefusal} (rules : List Rule)
    (h : rule.failure = some refusal) : evaluatedRules (scan (rule :: rules)) = [refusal.step] := by
  rw [scan, h]
  rfl

theorem evaluatedRules_of_passed {rule : Rule} {step : RuleEvaluationStep} (rules : List Rule)
    (h : rule.failure = none) (hlabel : rule.label = some step) :
    evaluatedRules (scan (rule :: rules)) = step :: evaluatedRules (scan rules) := by
  rw [scan, h, hlabel]
  rfl

theorem scan_of_passed {rule : Rule} (rules : List Rule) (h : rule.failure = none) :
    (scan (rule :: rules)).2 = (scan rules).2 := by
  rw [scan, h]

variable {names : List String} {rules : List Rule}

/-- **Where no rule refuses, the trace lists all rules as passed.** -/
theorem trace_of_clear (h : List.Forall₂ Rule.GoesBy names rules)
    (hclear : (scan rules).2 = none) :
    (evaluatedRules (scan rules)).map RuleEvaluationStep.outcome = names.map (·, true) := by
  induction h with
  | nil => rfl
  | @cons name rule names rules hrule _ ih =>
      have hpassed : rule.failure = none := scan_clear_iff.mp hclear rule List.mem_cons_self
      obtain ⟨step, hstep⟩ := Option.ne_none_iff_exists'.mp hrule.labeled
      rw [scan_of_passed rules hpassed] at hclear
      rw [evaluatedRules_of_passed rules hpassed hstep, List.map_cons, List.map_cons, ih hclear,
        hrule.label step hstep]

/-- **Where a rule refuses, the trace lists the rules up to it, and only it as
    failed.** -/
theorem trace_of_refused (h : List.Forall₂ Rule.GoesBy names rules)
    (hrefused : (scan rules).2 ≠ none) :
    ∃ before name after, names = before ++ name :: after
      ∧ (evaluatedRules (scan rules)).map RuleEvaluationStep.outcome
        = before.map (·, true) ++ [(name, false)] := by
  induction h with
  | nil => exact absurd rfl hrefused
  | @cons name rule names rules hrule _ ih =>
      cases hfailure : rule.failure with
      | some refusal =>
          refine ⟨[], name, names, rfl, ?_⟩
          rw [evaluatedRules_of_failed rules hfailure, List.map_singleton,
            hrule.failure refusal hfailure]
          rfl
      | none =>
          -- the refusal is one of the later rules
          rw [scan_of_passed rules hfailure] at hrefused
          obtain ⟨before, failed, after, hnames, htrace⟩ := ih hrefused
          obtain ⟨step, hstep⟩ := Option.ne_none_iff_exists'.mp hrule.labeled
          refine ⟨name :: before, failed, after, by rw [hnames]; rfl, ?_⟩
          rw [evaluatedRules_of_passed rules hfailure hstep, List.map_cons, htrace,
            hrule.label step hstep]
          rfl

theorem Rule.goesBy_named {name passDetail : String} {refusal : Option RuleRefusal}
    (h : ∀ r, refusal = some r → r.step.outcome = (name, false)) :
    Rule.GoesBy name (.named name refusal passDetail) where
  label := by
    intro step hstep
    obtain rfl := Option.some.inj hstep
    rfl
  labeled := Option.some_ne_none _
  failure := h

theorem outcome_of_refuseUnless {ok : Bool} {name stepDetail detail : String}
    {reason : RejectionReason} {r : RuleRefusal}
    (h : refuseUnless ok (.of name stepDetail reason detail) = some r) :
    r.step.outcome = (name, false) := by
  cases ok with
  | true => cases h
  | false =>
      obtain rfl := Option.some.inj h
      rfl

end

namespace MandateEvaluator

variable {m : BuyerMandate} {intent : CommerceIntent} {cart : Option Cart} {evalTime : Instant}

/-! ## The trace of the nine rules -/

def ruleNames : List String :=
  ["mandate_status", "autonomous_execution", "validity_window", "buyer_binding",
    "merchant_scope", "currency_allowed", "region_allowed", "category_scope",
    "amount_within_mandate_cap"]

theorem outcome_of_status {r : RuleRefusal} (h : statusRefusal m = some r) :
    r.step.outcome = ("mandate_status", false) := by
  rw [statusRefusal] at h
  cases hstatus : m.status <;> rw [hstatus] at h <;> cases h <;> rfl

theorem outcome_of_window {r : RuleRefusal} (h : windowRefusal m evalTime = some r) :
    r.step.outcome = ("validity_window", false) := by
  rcases (Option.orElse_eq_some _ _ _).mp h with h | ⟨-, h⟩
  · exact outcome_of_refuseUnless h
  · exact outcome_of_refuseUnless h

theorem outcome_of_merchant {r : RuleRefusal} (h : merchantRefusal m intent cart = some r) :
    r.step.outcome = ("merchant_scope", false) := by
  rw [merchantRefusal] at h
  by_cases hscope : m.merchantScope = ∅
  · rw [if_pos hscope] at h
    cases h
  rw [if_neg hscope] at h
  rcases (Option.orElse_eq_some _ _ _).mp h with h | ⟨-, h⟩
  · obtain ⟨target, -, h⟩ := Option.bind_eq_some_iff.mp h
    exact outcome_of_refuseUnless h
  · obtain ⟨c, -, h⟩ := Option.bind_eq_some_iff.mp h
    exact outcome_of_refuseUnless h

theorem outcome_of_category {r : RuleRefusal} (h : categoryRefusal m intent cart = some r) :
    r.step.outcome = ("category_scope", false) := by
  rw [categoryRefusal] at h
  by_cases hscope : m.categoryScope = ∅
  · rw [if_pos hscope] at h
    cases h
  rw [if_neg hscope] at h
  rcases (Option.orElse_eq_some _ _ _).mp h with h | ⟨-, h⟩
  · obtain ⟨category, -, h⟩ := Option.bind_eq_some_iff.mp h
    exact outcome_of_refuseUnless h
  · obtain ⟨c, -, h⟩ := Option.bind_eq_some_iff.mp h
    obtain ⟨item, -, h⟩ := List.exists_of_findSome?_eq_some h
    exact outcome_of_refuseUnless h

/-- The nine rules go by their names. -/
theorem rules_named (m : BuyerMandate) (intent : CommerceIntent) (cart : Option Cart)
    (evalTime : Instant) :
    List.Forall₂ Rule.GoesBy ruleNames (rules m intent cart evalTime) :=
  .cons (Rule.goesBy_named fun _ => outcome_of_status) <|
  .cons (Rule.goesBy_named fun _ => outcome_of_refuseUnless) <|
  .cons (Rule.goesBy_named fun _ => outcome_of_window) <|
  .cons (Rule.goesBy_named fun _ => outcome_of_refuseUnless) <|
  .cons (Rule.goesBy_named fun _ => outcome_of_merchant) <|
  .cons (Rule.goesBy_named fun _ => outcome_of_refuseUnless) <|
  .cons (Rule.goesBy_named fun _ => outcome_of_refuseUnless) <|
  .cons (Rule.goesBy_named fun _ => outcome_of_category) <|
  .cons (Rule.goesBy_named fun _ => outcome_of_refuseUnless) .nil

/-! ## Narrower scopes -/

def withScopes (m : BuyerMandate) (merchants categories : Finset String)
    (regions : Finset Region) : BuyerMandate :=
  { m with merchantScope := merchants, categoryScope := categories, allowedRegions := regions }

/-- The scope has less in it, and something if the other has: an empty scope
    restricts nothing. -/
def Narrows {α : Type} (narrow wide : Finset α) : Prop :=
  narrow ⊆ wide ∧ (narrow = ∅ → wide = ∅)

theorem Narrows.refl {α : Type} (scope : Finset α) : Narrows scope scope := ⟨fun _ h => h, id⟩

theorem narrows_erase {α : Type} [DecidableEq α] {scope : Finset α} {x : α}
    (hx : x ∈ scope) (hcard : scope.card ≠ 1) : Narrows (scope.erase x) scope := by
  refine ⟨Finset.erase_subset x scope, fun hempty => ?_⟩
  have hcard' := Finset.card_erase_of_mem hx
  rw [hempty, Finset.card_empty] at hcard'
  have hpos : 0 < scope.card := Finset.card_pos.mpr ⟨x, hx⟩
  omega

theorem authorizesCategory_of_subset {m' : BuyerMandate}
    (hscope : m'.categoryScope ⊆ m.categoryScope) {category : String}
    (h : m'.authorizesCategory category = true) : m.authorizesCategory category = true :=
  decide_eq_true (hscope (of_decide_eq_true h))

/-- **What is valid under narrower scopes is valid.** -/
theorem Valid.of_narrowed {merchants categories : Finset String} {regions : Finset Region}
    (hmerchants : Narrows merchants m.merchantScope)
    (hcategories : Narrows categories m.categoryScope)
    (hregions : Narrows regions m.allowedRegions)
    (h : Valid (withScopes m merchants categories regions) intent cart evalTime) :
    Valid m intent cart evalTime where
  status := h.status
  autonomous := h.autonomous
  window := h.window
  buyer := h.buyer
  merchant := by
    intro hne
    obtain ⟨htarget, hcart⟩ := h.merchant fun hempty => hne (hmerchants.2 hempty)
    exact ⟨fun target ht => hmerchants.1 (htarget target ht),
      fun c hc => hmerchants.1 (hcart c hc)⟩
  currency := h.currency
  region := h.region.imp hregions.2 fun hregion => hregions.1 hregion
  category := by
    intro hne
    obtain ⟨hnamed, hitems⟩ := h.category fun hempty => hne (hcategories.2 hempty)
    exact ⟨fun category hc => authorizesCategory_of_subset hcategories.1 (hnamed category hc),
      fun c hc item hitem => authorizesCategory_of_subset hcategories.1 (hitems c hc item hitem)⟩
  amount := h.amount

/-! ## The law -/

/-- The trace lists the rules in order: all of them passed where the mandate is
    valid, and those up to the one that failed where it is not. -/
def Traced (result : MandateEvaluationResult) : Prop :=
  (result.valid = true →
      result.evaluatedRules.map RuleEvaluationStep.outcome = ruleNames.map (·, true))
    ∧ (result.valid = false → ∃ before name after, ruleNames = before ++ name :: after
      ∧ result.evaluatedRules.map RuleEvaluationStep.outcome
        = before.map (·, true) ++ [(name, false)])

theorem evaluate_traced (m : BuyerMandate) (intent : CommerceIntent) (cart : Option Cart)
    (evalTime : Instant) : Traced (evaluate m intent cart evalTime) := by
  have hnamed := rules_named m intent cart evalTime
  constructor
  · intro hvalid
    exact trace_of_clear hnamed (Option.isNone_iff_eq_none.mp hvalid)
  · intro hvalid
    refine trace_of_refused hnamed fun hclear => ?_
    have htrue : (evaluate m intent cart evalTime).valid = true :=
      Option.isNone_iff_eq_none.mpr hclear
    rw [htrue] at hvalid
    cases hvalid

/-- The mandate with a member less in one of its scopes, which has not just one. -/
inductive Removal (m : BuyerMandate) : BuyerMandate → Prop where
  | merchant {x : String} (hx : x ∈ m.merchantScope) (hcard : m.merchantScope.card ≠ 1) :
      Removal m (withScopes m (m.merchantScope.erase x) m.categoryScope m.allowedRegions)
  | category {x : String} (hx : x ∈ m.categoryScope) (hcard : m.categoryScope.card ≠ 1) :
      Removal m (withScopes m m.merchantScope (m.categoryScope.erase x) m.allowedRegions)
  | region {x : Region} (hx : x ∈ m.allowedRegions) (hcard : m.allowedRegions.card ≠ 1) :
      Removal m (withScopes m m.merchantScope m.categoryScope (m.allowedRegions.erase x))

theorem valid_of_removal {m' : BuyerMandate} (hremoval : Removal m m')
    (h : Valid m' intent cart evalTime) : Valid m intent cart evalTime := by
  cases hremoval with
  | merchant hx hcard => exact h.of_narrowed (narrows_erase hx hcard) (.refl _) (.refl _)
  | category hx hcard => exact h.of_narrowed (.refl _) (narrows_erase hx hcard) (.refl _)
  | region hx hcard => exact h.of_narrowed (.refl _) (.refl _) (narrows_erase hx hcard)

theorem evaluate_of_metadata (m : BuyerMandate) (intent : CommerceIntent) (cart : Option Cart)
    (evalTime : Instant) (metadata : OrderedMap String PyValue) :
    evaluate m { intent with metadata := metadata } cart evalTime
      = evaluate m intent cart evalTime :=
  rfl

/-- **The mandate is valid exactly when its nine rules hold, whatever operation is
    asked for, its trace says so rule by rule, and a member less in a scope of
    several makes nothing valid.** -/
theorem evaluate_law (m : BuyerMandate) (intent : CommerceIntent) (cart : Option Cart)
    (evalTime : Instant) :
    ((evaluate m intent cart evalTime).valid = true ↔ Valid m intent cart evalTime)
      ∧ (∀ metadata, evaluate m { intent with metadata := metadata } cart evalTime
        = evaluate m intent cart evalTime)
      ∧ Traced (evaluate m intent cart evalTime)
      ∧ ∀ m', Removal m m' → (evaluate m' intent cart evalTime).valid = true →
        (evaluate m intent cart evalTime).valid = true := by
  refine ⟨evaluate_valid_iff, evaluate_of_metadata m intent cart evalTime,
    evaluate_traced m intent cart evalTime, ?_⟩
  intro m' hremoval hvalid
  exact evaluate_valid_iff.mpr (valid_of_removal hremoval (evaluate_valid_iff.mp hvalid))

/-! ## A mandate that does not act on its own -/

/-- The sample mandate with its autonomous execution turned off. -/
def supervised : BuyerMandate :=
  { PolicyEngine.Sample.mandate with autonomousExecution := false }

open PolicyEngine in
/-- **Status, window, buyer, scopes, currency and amount are as they should be,
    and yet the mandate is not valid.** -/
theorem supervised_invalid :
    supervised.status = .active
      ∧ (supervised.issuedAt ≤ 1709210096000000 ∧ 1709210096000000 < supervised.expiresAt)
      ∧ Sample.intent.buyerId = supervised.buyerId
      ∧ (∀ target, Sample.intent.namedMerchant = some target → target ∈ supervised.merchantScope)
      ∧ Sample.cart.merchantId ∈ supervised.merchantScope
      ∧ (∀ category, Sample.intent.namedCategory = some category →
        supervised.authorizesCategory category = true)
      ∧ (∀ item ∈ Sample.cart.items, supervised.authorizesCategory item.category = true)
      ∧ Sample.intent.requestedOperation = .createOrder
      ∧ Sample.intent.region ∈ supervised.allowedRegions
      ∧ Sample.intent.currency = supervised.currency
      ∧ Sample.cart.totalPaise ≤ supervised.maximumAmountPaise
      ∧ (evaluate supervised Sample.intent (some Sample.cart) 1709210096000000).valid
        = false := by
  refine ⟨rfl, by decide, rfl, ?_, by decide, ?_, ?_, rfl, by decide, rfl, by decide, rfl⟩
  · intro target htarget
    obtain rfl := Option.some.inj htarget
    decide
  · intro category hcategory
    obtain rfl := Option.some.inj hcategory
    rfl
  · intro item hitem
    obtain rfl := List.mem_singleton.mp hitem
    rfl

end MandateEvaluator

end MandateGateway
