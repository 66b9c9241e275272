import MandateGateway.Db.MandateRepository
import MandateGateway.Policy.MerchantPolicyEngine
import MandateGateway.Policy.SamePurchase

/-! # The lifecycle of a mandate

    A mandate is moved to a status in memory, where the caller gets a copy, or
    in the database under the lock of its row.  Both look the move up in one
    table, which has none out of REVOKED and EXPIRED, and neither evaluator
    accepts a request under a mandate that has got there:

    * `asyncTransitionMandate_cases`, what a call does to the table;
    * `refused_of_terminal`, what the evaluators make of a terminal status. -/

/-! ## The mandate evaluator

    `MandateEvaluator.evaluate`: nine rules of the buyer's mandate over an
    intent and, when there is one, its cart.  A scope that is empty restricts
    nothing. -/

namespace MandateGateway

open Clock Checklist

namespace MandateEvaluator

/-! ## The refusals of the rules -/

def statusRefusal (m : BuyerMandate) : Option RuleRefusal :=
  match m.status with
  | .suspended => some (.of "mandate_status" "Mandate is currently SUSPENDED."
      .mandateNotActive s!"Mandate '{m.mandateId}' is suspended.")
  | .revoked => some (.of "mandate_status" "Mandate has been REVOKED."
      .mandateRevoked s!"Mandate '{m.mandateId}' has been permanently revoked.")
  | .expired => some (.of "mandate_status" "Mandate has EXPIRED."
      .mandateExpired s!"Mandate '{m.mandateId}' is marked expired.")
  | .draft => some (.of "mandate_status" s!"Mandate status '{m.status.value}' is not ACTIVE."
      .mandateNotActive s!"Mandate '{m.mandateId}' is in status '{m.status.value}'.")
  | .active => none

def autonomousRefusal (m : BuyerMandate) : Option RuleRefusal :=
  refuseUnless m.autonomousExecution
    (.of "autonomous_execution" "Autonomous execution is disabled on this mandate."
      .autonomousExecutionDisabled
      s!"Mandate '{m.mandateId}' has autonomous execution disabled.")

def windowRefusal (m : BuyerMandate) (evalTime : Instant) : Option RuleRefusal :=
  refuseUnless (decide (m.issuedAt ≤ evalTime))
    (.of "validity_window"
      (s!"Evaluation time ({isoformat evalTime}) is before mandate "
        ++ s!"issued_at ({isoformat m.issuedAt}).")
      .mandateTtlExpired s!"Mandate '{m.mandateId}' is not yet effective.")
  <|> refuseUnless (decide (evalTime < m.expiresAt))
    (.of "validity_window"
      (s!"Evaluation time ({isoformat evalTime}) is at or after mandate "
        ++ s!"expires_at ({isoformat m.expiresAt}).")
      .mandateExpired s!"Mandate '{m.mandateId}' expired at {isoformat m.expiresAt}.")

def buyerRefusal (m : BuyerMandate) (intent : CommerceIntent) : Option RuleRefusal :=
  refuseUnless (intent.buyerId == m.buyerId)
    (.of "buyer_binding"
      (s!"Intent buyer_id '{intent.buyerId}' does not match mandate "
        ++ s!"buyer_id '{m.buyerId}'.")
      .mandateNotInScope
      s!"Intent buyer '{intent.buyerId}' does not own mandate '{m.mandateId}'.")

def merchantRefusal (m : BuyerMandate) (intent : CommerceIntent) (cart : Option Cart) :
    Option RuleRefusal :=
  if m.merchantScope = ∅ then none
  else
    (intent.namedMerchant.bind fun target => refuseUnless (m.authorizesMerchant target)
      (.of "merchant_scope" s!"Target merchant '{target}' is not in mandate merchant_scope."
        .merchantNotInScope s!"Merchant '{target}' is outside mandate scope."))
    <|> cart.bind fun cart => refuseUnless (m.authorizesMerchant cart.merchantId)
      (.of "merchant_scope"
        s!"Cart merchant '{cart.merchantId}' is not in mandate merchant_scope."
        .merchantNotInScope s!"Cart merchant '{cart.merchantId}' is outside mandate scope.")

def currencyRefusal (m : BuyerMandate) (intent : CommerceIntent) : Option RuleRefusal :=
  refuseUnless (intent.currency == m.currency)
    (.of "currency_allowed"
      (s!"Intent currency '{intent.currency.value}' does not match "
        ++ s!"mandate currency '{m.currency.value}'.")
      .currencyMismatch
      (s!"Currency '{intent.currency.value}' conflicts with "
        ++ s!"mandate currency '{m.currency.value}'."))

def regionRefusal (m : BuyerMandate) (intent : CommerceIntent) : Option RuleRefusal :=
  refuseUnless (decide (m.allowedRegions = ∅) || m.authorizesRegion intent.region)
    (.of "region_allowed"
      s!"Intent region '{intent.region.value}' is not in mandate allowed_regions."
      .regionNotAllowed s!"Region '{intent.region.value}' is outside mandate region scope.")

def categoryRefusal (m : BuyerMandate) (intent : CommerceIntent) (cart : Option Cart) :
    Option RuleRefusal :=
  if m.categoryScope = ∅ then none
  else
    (intent.namedCategory.bind fun category => refuseUnless (m.authorizesCategory category)
      (.of "category_scope" s!"Category '{category}' is not in mandate category_scope."
        .categoryNotInScope s!"Category '{category}' is outside mandate category scope."))
    <|> cart.bind fun cart => cart.items.findSome? fun item =>
      refuseUnless (m.authorizesCategory item.category)
        (.of "category_scope"
          (s!"Cart item '{item.productId}' category '{item.category}' "
            ++ "is not in mandate scope.")
          .categoryNotInScope
          s!"Cart item category '{item.category}' is outside mandate scope.")

def amountRefusal (m : BuyerMandate) (evalAmountPaise : Int) : Option RuleRefusal :=
  refuseUnless (m.authorizesAmount evalAmountPaise)
    (.of "amount_within_mandate_cap"
      (s!"Amount ({evalAmountPaise} paise) exceeds mandate "
        ++ s!"maximum_amount_paise of {m.maximumAmountPaise} paise.")
      .amountExceedsMandate
      (s!"Requested amount ({evalAmountPaise} paise) exceeds mandate limit of "
        ++ s!"{m.maximumAmountPaise} paise."))

/-! ## The evaluation -/

/-- The nine rules, in order. -/
def rules (m : BuyerMandate) (intent : CommerceIntent) (cart : Option Cart)
    (evalTime : Instant) : List Rule :=
  let evalAmountPaise := intent.evalAmountPaise cart
  [ .named "mandate_status" (statusRefusal m) "Mandate status is ACTIVE.",
    .named "autonomous_execution" (autonomousRefusal m) "Autonomous execution is enabled.",
    .named "validity_window" (windowRefusal m evalTime)
      "Mandate is within valid time window.",
    .named "buyer_binding" (buyerRefusal m intent)
      s!"Buyer identity '{m.buyerId}' verified.",
    .named "merchant_scope" (merchantRefusal m intent cart) "Merchant scope satisfied.",
    .named "currency_allowed" (currencyRefusal m intent)
      s!"Currency '{intent.currency.value}' matches mandate.",
    .named "region_allowed" (regionRefusal m intent)
      s!"Region '{intent.region.value}' is authorized.",
    .named "category_scope" (categoryRefusal m intent cart) "Category scope satisfied.",
    .named "amount_within_mandate_cap" (amountRefusal m evalAmountPaise)
      s!"Amount ({evalAmountPaise} paise) is within mandate cap." ]

def evaluate (m : BuyerMandate) (intent : CommerceIntent) (cart : Option Cart)
    (evalTime : Instant) : MandateEvaluationResult :=
  let outcome := scan (rules m intent cart evalTime)
  { valid := outcome.2.isNone
    mandateId := m.mandateId
    buyerId := m.buyerId
    status := m.status
    rejectionReason := outcome.2.map RuleRefusal.reason
    rejectionDetail := outcome.2.map RuleRefusal.detail
    evaluatedRules := evaluatedRules outcome
    evaluatedAt := evalTime }

/-! ## The mandates it finds valid -/

/-- What the nine rules demand. -/
structure Valid (m : BuyerMandate) (intent : CommerceIntent) (cart : Option Cart)
    (evalTime : Instant) : Prop where
  status     : m.status = .active
  autonomous : m.autonomousExecution = true
  window     : m.issuedAt ≤ evalTime ∧ evalTime < m.expiresAt
  buyer      : intent.buyerId = m.buyerId
  merchant   : m.merchantScope ≠ ∅ →
    (∀ target, intent.namedMerchant = some target → target ∈ m.merchantScope)
      ∧ ∀ c, cart = some c → c.merchantId ∈ m.merchantScope
  currency   : intent.currency = m.currency
  region     : m.allowedRegions = ∅ ∨ intent.region ∈ m.allowedRegions
  category   : m.categoryScope ≠ ∅ →
    (∀ category, intent.namedCategory = some category → m.authorizesCategory category = true)
      ∧ ∀ c, cart = some c → ∀ item ∈ c.items, m.authorizesCategory item.category = true
  amount     : intent.evalAmountPaise cart ≤ m.maximumAmountPaise

theorem statusRefusal_eq_none_iff {m : BuyerMandate} :
    statusRefusal m = none ↔ m.status = .active := by
  rw [statusRefusal]
  cases m.status <;> simp

theorem merchantRefusal_eq_none_iff {m : BuyerMandate} {intent : CommerceIntent}
    {cart : Option Cart} :
    merchantRefusal m intent cart = none ↔ (m.merchantScope ≠ ∅ →
      (∀ target, intent.namedMerchant = some target → target ∈ m.merchantScope)
        ∧ ∀ c, cart = some c → c.merchantId ∈ m.merchantScope) := by
  rw [merchantRefusal]
  by_cases hscope : m.merchantScope = ∅
  · rw [if_pos hscope]
    exact ⟨fun _ hne => absurd hscope hne, fun _ => rfl⟩
  · rw [if_neg hscope]
    simp [hscope, refuseUnless_eq_none_iff, BuyerMandate.authorizesMerchant]

theorem categoryRefusal_eq_none_iff {m : BuyerMandate} {intent : CommerceIntent}
    {cart : Option Cart} :
    categoryRefusal m intent cart = none ↔ (m.categoryScope ≠ ∅ →
      (∀ category, intent.namedCategory = some category → m.authorizesCategory category = true)
        ∧ ∀ c, cart = some c → ∀ item ∈ c.items, m.authorizesCategory item.category = true) := by
  rw [categoryRefusal]
  by_cases hscope : m.categoryScope = ∅
  · rw [if_pos hscope]
    exact ⟨fun _ hne => absurd hscope hne, fun _ => rfl⟩
  · rw [if_neg hscope]
    simp [hscope, refuseUnless_eq_none_iff]

/-- **The mandate is valid exactly when every rule is met.** -/
theorem evaluate_valid_iff {m : BuyerMandate} {intent : CommerceIntent} {cart : Option Cart}
    {evalTime : Instant} :
    (evaluate m intent cart evalTime).valid = true ↔ Valid m intent cart evalTime := by
  show (scan (rules m intent cart evalTime)).2.isNone = true ↔ _
  rw [Option.isNone_iff_eq_none, scan_clear_iff, rules]
  simp only [List.forall_mem_cons, Rule.named, statusRefusal_eq_none_iff, autonomousRefusal,
    windowRefusal, buyerRefusal, merchantRefusal_eq_none_iff, currencyRefusal, regionRefusal,
    categoryRefusal_eq_none_iff, amountRefusal, Option.orElse_eq_none,
    refuseUnless_eq_none_iff, BuyerMandate.authorizesAmount,
    BuyerMandate.authorizesRegion, Bool.or_eq_true, decide_eq_true_iff, beq_iff_eq]
  constructor
  · rintro ⟨hstatus, hautonomous, hwindow, hbuyer, hmerchant, hcurrency, hregion, hcategory,
      hamount, -⟩
    exact ⟨hstatus, hautonomous, hwindow, hbuyer, hmerchant, hcurrency, hregion, hcategory,
      hamount⟩
  · intro h
    exact ⟨h.status, h.autonomous, h.window, h.buyer, h.merchant, h.currency, h.region,
      h.category, h.amount, fun c hc => absurd hc List.not_mem_nil⟩

end MandateEvaluator

end MandateGateway

namespace MandateGateway

open Clock Raising MandateRepository

namespace MandateLifecycle

/-! ## In memory -/

def transitionMandate (mandate : BuyerMandate) (target : MandateStatus) :
    Except MandateError BuyerMandate :=
  if target ∈ mandateLegalTransitions mandate.status then .ok { mandate with status := target }
  else .error (illegalMandateTransition mandate.status target)

def activateMandate (mandate : BuyerMandate) : Except MandateError BuyerMandate :=
  transitionMandate mandate .active

def suspendMandate (mandate : BuyerMandate) : Except MandateError BuyerMandate :=
  transitionMandate mandate .suspended

def resumeMandate (mandate : BuyerMandate) : Except MandateError BuyerMandate :=
  transitionMandate mandate .active

def revokeMandate (mandate : BuyerMandate) : Except MandateError BuyerMandate :=
  transitionMandate mandate .revoked

def expireMandate (mandate : BuyerMandate) : Except MandateError BuyerMandate :=
  transitionMandate mandate .expired

/-! ## In the database -/

/-- The fields of a row that `BuyerMandate(...)` refuses on their own. -/
def faultyFields (model : MandateModel) : List String :=
  (if Text.strip model.buyerId = "" then ["buyer_id"] else [])
    ++ (if model.dailyBudgetPaise < 0 then ["maximum_amount_paise", "daily_budget_paise"] else [])

theorem faultyFields_eq_nil_iff {model : MandateModel} :
    faultyFields model = [] ↔ Text.strip model.buyerId ≠ "" ∧ 0 ≤ model.dailyBudgetPaise := by
  simp [faultyFields]

theorem firstVersion_pos : (1 : Int) ≤ 1 := Int.le_refl 1

/-- The mandate of a row, as `BuyerMandate(...)` makes it or raises. -/
def ofModel (model : MandateModel) : Except MandateError BuyerMandate := do
  let status ← parseMandateStatus model.status
  if hfields : faultyFields model = [] then
    if hwindow : model.createdAt < model.expiresAt then
      .ok {
        mandateId := model.mandateId
        buyerId := Text.strip model.buyerId
        version := 1
        merchantScope :=
          match model.merchantId with
          | none => ∅
          | some merchant => if merchant = "" then ∅ else {merchant}
        categoryScope :=
          match model.categoryScope with
          | none => ∅
          | some category => if category = "" then ∅ else {Text.lower (Text.strip category)}
        allowedRegions := {.inRegion}
        maximumAmountPaise := model.dailyBudgetPaise
        dailyBudgetPaise := model.dailyBudgetPaise
        currency := .inr
        autonomousExecution := true
        issuedAt := model.createdAt
        expiresAt := model.expiresAt
        status := status
        buyerId_ne := (faultyFields_eq_nil_iff.mp hfields).1
        version_pos := firstVersion_pos
        maximum_nonneg := (faultyFields_eq_nil_iff.mp hfields).2
        daily_ge_maximum := Int.le_refl _
        issued_lt_expires := hwindow }
    else .error (.raised (.validationError "BuyerMandate" [""]))
  else .error (.raised (.validationError "BuyerMandate" (faultyFields model)))

def asyncGetMandate (mandateId : String) (db : MandateTable) :
    Except MandateError (Option BuyerMandate) :=
  if Text.strip mandateId = "" then .ok none
  else match getMandate (Text.strip mandateId) db with
  | none => .ok none
  | some model => (ofModel model).map some

def asyncTransitionMandate (mandateId : String) (target : MandateStatus) :
    Action BuyerMandate := do
  match ← asks (lockMandateForUpdate (Text.strip mandateId)) with
  | none => raise (.lifecycleError
      s!"Mandate {Text.quoted (Text.strip mandateId)} not found in database."
      "MANDATE_LIFECYCLE_ERROR")
  | some model =>
      let current ← ofExcept (parseMandateStatus model.status)
      ofExcept (checkMandateTransition current target)
      let updated ← transitionMandateStatus (Text.strip mandateId) (.inr target)
      ofExcept (ofModel updated)

/-- **What a call does to the table, whether it raises or not: nothing, or a
    legal transition of its mandate.** -/
theorem asyncTransitionMandate_cases (mandateId : String) (target : MandateStatus)
    (db : MandateTable) :
    (asyncTransitionMandate mandateId target db).2 = db
      ∨ ∃ row target', Legal (Text.strip mandateId) row target' db
        ∧ (asyncTransitionMandate mandateId target db).2
          = moved (Text.strip mandateId) target' db := by
  rw [asyncTransitionMandate]
  cases hrow : lockMandateForUpdate (Text.strip mandateId) db with
  | none =>
      rw [bind_of_ok (asks_of_eq hrow)]
      exact .inl rfl
  | some row =>
      rw [bind_of_ok (asks_of_eq hrow)]
      dsimp only
      cases hcurrent : parseMandateStatus row.status with
      | error err => exact .inl rfl
      | ok current =>
          rw [bind_of_ok (ofExcept_of_eq rfl db)]
          cases hlegal : checkMandateTransition current target with
          | error err => exact .inl rfl
          | ok u =>
              rw [bind_of_ok (ofExcept_of_eq rfl db)]
              -- the repository makes the check once more
              rcases transitionMandateStatus_cases (Text.strip mandateId) (.inr target) db with
                ⟨err, hrun⟩ | ⟨row', target', hmove, hrun⟩
              · rw [bind_of_error hrun]
                exact .inl rfl
              · rw [bind_of_ok hrun]
                exact .inr ⟨row', target', hmove, rfl⟩

theorem status_of_ofModel {model : MandateModel} {m : BuyerMandate} (h : ofModel model = .ok m) :
    model.status = m.status.value := by
  obtain ⟨status, hstatus, hbuilt⟩ := Exceptions.seq_eq_ok_iff.mp h
  have hsame : m.status = status := by
    by_cases hfields : faultyFields model = []
    · by_cases hwindow : model.createdAt < model.expiresAt
      · rw [dif_pos hfields, dif_pos hwindow] at hbuilt
        rw [← Except.ok.inj hbuilt]
      · rw [dif_pos hfields, dif_neg hwindow] at hbuilt
        cases hbuilt
    · rw [dif_neg hfields] at hbuilt
      cases hbuilt
  rw [hsame]
  exact parseMandateStatus_eq_ok_iff.mp hstatus

/-! ## What the evaluators make of a terminal status -/

/-- No request under the mandate is accepted: the evaluator of mandates finds it
    invalid, and the policy engine rejects. -/
structure Refused (m : BuyerMandate) : Prop where
  evaluator : ∀ intent cart evalTime,
    (MandateEvaluator.evaluate m intent cart evalTime).valid = false
  engine    : ∀ q : PolicyRequest, q.mandate = m →
    ∃ r, PolicyEngine.evaluate q = .ok r ∧ r.decision = .reject

theorem ne_active_of_terminal {s : MandateStatus} (h : s.Terminal) : s ≠ .active := by
  rcases h with rfl | rfl <;> decide

/-- **A mandate that is not active is refused by both.** -/
theorem refused_of_not_active {m : BuyerMandate} (h : m.status ≠ .active) : Refused m where
  evaluator := by
    intro intent cart evalTime
    refine eq_false_of_ne_true ?_
    intro hvalid
    exact h (MandateEvaluator.evaluate_valid_iff.mp hvalid).status
  engine := by
    rintro q rfl
    have hrefused : (Checklist.scan (PolicyEngine.checks q)).2 ≠ none := by
      intro hclear
      exact h (PolicyEngine.scan_checks_eq_none_iff.mp hclear).mandateActive.1
    rw [PolicyEngine.evaluate]
    cases hscan : Checklist.scan (PolicyEngine.checks q) with
    | mk passed refusal =>
        cases refusal with
        | none =>
            rw [hscan] at hrefused
            exact absurd rfl hrefused
        | some refusal => exact ⟨_, rfl, rfl⟩

theorem refused_of_terminal {m : BuyerMandate} (h : m.status.Terminal) : Refused m :=
  refused_of_not_active (ne_active_of_terminal h)

end MandateLifecycle

end MandateGateway
