import MandateGateway.Payments.UapRuns
import Mathlib.Algebra.Order.BigOperators.Group.List

/-! # The limits of a delegation

    An authorization carries a daily limit that no operation reads, and the
    amount of a payment is compared with its maximum alone.  So a live
    authorization validates the same payment again and again, and negative
    amounts with it.

    * `delegated_limits_iff`: when the payments of an authorization stay within
      its daily limit. -/

namespace MandateGateway

open Runs

namespace UAPAuthorizationLayer

variable {hmac : HmacSha256} {u : UAPAuthorizationLayer} {ref : Nat}

/-! ## What is validated on a day -/

/-- The amount that a step validates under the authorization on the day. -/
def amountOn (day : Rat → Int) (d : Int) (ref : Nat) (c : UapStep) : Option Int :=
  match c.act.operation, c.out with
  | .validateAuthorization q, .validated (.ok (ref', _)) =>
      if ref' = ref ∧ day c.act.now = d then some q.amountPaise else none
  | _, _ => none

def amountsOn (day : Rat → Int) (d : Int) (ref : Nat) (history : List UapStep) : List Int :=
  history.filterMap (amountOn day d ref)

def askedOn (day : Rat → Int) (d : Int) (c : UapStep) : Option Int :=
  match c.act.operation with
  | .validateAuthorization q => if day c.act.now = d then some q.amountPaise else none
  | _ => none

def WithinDaily (day : Rat → Int) (limit : Int) (ref : Nat) (history : List UapStep) : Prop :=
  ∀ d, amountsOn day d ref history ≠ [] → (amountsOn day d ref history).sum ≤ limit

/-- No negative amount is validated. -/
def NoNegative (ref : Nat) (history : List UapStep) : Prop :=
  ∀ c ∈ history, ∀ q, ValidatesUnder ref q c → 0 ≤ q.amountPaise

theorem amountOn_eq_some_iff {day : Rat → Int} {d a : Int} {c : UapStep} :
    amountOn day d ref c = some a
      ↔ ∃ q, ValidatesUnder ref q c ∧ day c.act.now = d ∧ q.amountPaise = a := by
  constructor
  · intro h
    rw [amountOn] at h
    split at h
    · next q ref' policy hact hout =>
        by_cases hon : ref' = ref ∧ day c.act.now = d
        · rw [if_pos hon] at h
          exact ⟨q, ⟨policy, hact, by rw [hout, hon.1]⟩, hon.2, Option.some.inj h⟩
        · rw [if_neg hon] at h
          cases h
    · cases h
  · rintro ⟨q, ⟨policy, hact, hout⟩, hday, rfl⟩
    rw [amountOn, hact, hout]
    exact if_pos ⟨rfl, hday⟩

theorem askedOn_of_amountOn {day : Rat → Int} {d a : Int} {c : UapStep}
    (h : amountOn day d ref c = some a) : askedOn day d c = some a := by
  obtain ⟨q, ⟨policy, hact, -⟩, hday, rfl⟩ := amountOn_eq_some_iff.mp h
  rw [askedOn, hact]
  exact if_pos hday

theorem filterMap_sublist_of_imp {α β : Type*} {f g : α → Option β}
    (h : ∀ a b, f a = some b → g a = some b) (l : List α) :
    (l.filterMap f).Sublist (l.filterMap g) := by
  induction l with
  | nil => exact List.Sublist.refl _
  | cons a l ih =>
      rw [List.filterMap_cons, List.filterMap_cons]
      cases hf : f a with
      | some b =>
          rw [h a b hf]
          exact ih.cons_cons b
      | none =>
          cases g a with
          | none => exact ih
          | some b => exact ih.cons b

theorem sum_le_of_nonpos {m : Int} (hm : m ≤ 0) {l : List Int} (hne : l ≠ [])
    (h : ∀ a ∈ l, a ≤ m) : l.sum ≤ m := by
  induction l with
  | nil => exact absurd rfl hne
  | cons a l ih =>
      rw [List.forall_mem_cons] at h
      rw [List.sum_cons]
      by_cases hl : l = []
      · subst hl
        rw [List.sum_nil, add_zero]
        exact h.1
      · have hsum := ih hl h.2
        have hfirst := h.1
        omega

/-! ## A new authorization -/

section
variable {hex : String} {now : Rat} {r : DelegationRequest}

def afterIssue (hmac : HmacSha256) (hex : String) (now : Rat) (r : DelegationRequest)
    (u : UAPAuthorizationLayer) : UAPAuthorizationLayer :=
  (u.issueAuthorization hmac hex now r).2

theorem afterIssue_getElem : (u.afterIssue hmac hex now r).policies[u.policies.length]?
    = some (u.policyOf hmac hex now r) :=
  List.getElem?_concat_length

theorem afterIssue_named : (u.afterIssue hmac hex now r).find
    ((u.afterIssue hmac hex now r).authId (u.policyOf hmac hex now r).token)
      = some (u.policies.length, u.policyOf hmac hex now r) := by
  have hid : (u.afterIssue hmac hex now r).authId (u.policyOf hmac hex now r).token
      = (u.policyOf hmac hex now r).authorizationId := by
    show ((u.tokens.set _ _).get _).getD _ = _
    rw [OrderedMap.get_set_self]
    rfl
  rw [hid, find_eq_some_iff]
  exact ⟨OrderedMap.get_set_self _ _ _, afterIssue_getElem⟩

def scopedPayment (token : String) (r : DelegationRequest) (amountPaise : Int) :
    DelegatedPayment where
  tokenOrId := token
  agentId := r.agentId
  merchantId := (r.scopeMerchants.getD []).headD ""
  category := r.categories.headD ""
  amountPaise := amountPaise

theorem covers_scopedPayment (token : String) {amountPaise : Int}
    (h : amountPaise ≤ r.maxAmountPaise) :
    Covers (u.policyOf hmac hex now r) (scopedPayment token r amountPaise) := by
  refine ⟨rfl, ?_, .inr ?_, h⟩
  · show r.scopeMerchants.getD [] = [] ∨ (r.scopeMerchants.getD []).headD ""
      ∈ r.scopeMerchants.getD []
    cases r.scopeMerchants.getD [] with
    -- without merchants in its scope an authorization covers all of them
    | nil => exact .inl rfl
    | cons m ms => exact .inr List.mem_cons_self
  · show Text.lower (r.categories.headD "") ∈ r.categories.map Text.lower
    have hne := categories_ne_nil r
    cases hcategories : r.categories with
    | nil => exact absurd hcategories hne
    | cons c cs => exact List.mem_map_of_mem List.mem_cons_self

/-- The authorization is over at the time of its issuance. -/
def OverAtIssue (now : Rat) (r : DelegationRequest) : Prop :=
  Binary64.lt (Binary64.add (.finite now) r.ttlSeconds) (.finite now) = true

theorem validates_scopedPayment (hlive : ¬ OverAtIssue now r) {amountPaise : Int}
    (h : amountPaise ≤ r.maxAmountPaise) :
    Validates now (scopedPayment (u.policyOf hmac hex now r).token r amountPaise)
      u.policies.length (u.policyOf hmac hex now r) (u.afterIssue hmac hex now r) :=
  ⟨afterIssue_named, rfl, Bool.eq_false_iff.mpr hlive, covers_scopedPayment _ h⟩

/-- The same payment, shown some number of times at the time of the issuance. -/
def repeated (hmac : HmacSha256) (hex : String) (now : Rat) (r : DelegationRequest)
    (u : UAPAuthorizationLayer) (amountPaise : Int) (k : Nat) : List UapCall :=
  List.replicate k ⟨now, .validateAuthorization
    (scopedPayment (u.policyOf hmac hex now r).token r amountPaise)⟩

theorem amountsOn_repeated (hlive : ¬ OverAtIssue now r) {amountPaise : Int}
    (h : amountPaise ≤ r.maxAmountPaise) (day : Rat → Int) (k : Nat) :
    amountsOn day (day now) u.policies.length (steps (step hmac) (u.afterIssue hmac hex now r)
        (u.repeated hmac hex now r amountPaise k))
      = List.replicate k amountPaise := by
  have hvalid : Validates now (scopedPayment (u.policyOf hmac hex now r).token r amountPaise)
      u.policies.length (u.policyOf hmac hex now r) (u.afterIssue hmac hex now r) :=
    validates_scopedPayment hlive h
  have hpost : (step hmac (u.afterIssue hmac hex now r) ⟨now, .validateAuthorization
      (scopedPayment (u.policyOf hmac hex now r).token r amountPaise)⟩).2
        = u.afterIssue hmac hex now r :=
    congrArg Prod.snd hvalid.validateAuthorization_eq
  -- a validation leaves the layer as it is, so the next one finds the same policy
  induction k with
  | zero => rfl
  | succ k ih =>
      have hamount : amountOn day (day now) u.policies.length
          (stepAt (step hmac) (u.afterIssue hmac hex now r) ⟨now, .validateAuthorization
            (scopedPayment (u.policyOf hmac hex now r).token r amountPaise)⟩)
          = some amountPaise :=
        amountOn_eq_some_iff.mpr
          ⟨_, validatesUnder_stepAt_iff.mpr ⟨rfl, _, hvalid⟩, rfl, rfl⟩
      rw [repeated, List.replicate_succ, steps_cons, hpost, amountsOn, List.filterMap_cons, hamount,
        List.replicate_succ]
      exact congrArg _ ih

theorem forward_repeated {amountPaise : Int} {k : Nat} :
    ClockForward (u.repeated hmac hex now r amountPaise k) :=
  List.pairwise_replicate.mpr (.inr Rat.le_refl)

theorem later_repeated {amountPaise : Int} {k : Nat} :
    ∀ call ∈ u.repeated hmac hex now r amountPaise k, now ≤ call.now := by
  intro call hcall
  obtain ⟨-, rfl⟩ := List.mem_replicate.mp hcall
  exact Rat.le_refl

theorem afterIssue_kept (calls : List UapCall) :
    ∃ status, (exec (step hmac) (u.afterIssue hmac hex now r) calls).policies[u.policies.length]?
      = some ((u.policyOf hmac hex now r).withStatus status) := by
  refine exec_inv (I := fun u' : UAPAuthorizationLayer => ∃ status, u'.policies[u.policies.length]?
    = some ((u.policyOf hmac hex now r).withStatus status)) ?_
    ⟨.active, afterIssue_getElem⟩ calls
  rintro u' call ⟨status, hget⟩
  obtain ⟨status', hget', -⟩ := (step_effect hmac u' call).kept hget
  exact ⟨status', hget'⟩

theorem amount_le_of_validatesUnder {calls : List UapCall} {c : UapStep}
    (hc : c ∈ steps (step hmac) (u.afterIssue hmac hex now r) calls) {q : DelegatedPayment}
    (h : ValidatesUnder u.policies.length q c) : q.amountPaise ≤ r.maxAmountPaise := by
  obtain ⟨l, call, _, rfl, rfl⟩ := mem_steps_iff.mp hc
  obtain ⟨-, policy, hvalid⟩ := validatesUnder_stepAt_iff.mp h
  obtain ⟨status, hget⟩ : ∃ status, (exec (step hmac) (u.afterIssue hmac hex now r)
      l).policies[u.policies.length]? = some ((u.policyOf hmac hex now r).withStatus status) :=
    afterIssue_kept l
  obtain rfl := Option.some.inj (hget.symm.trans (find_eq_some_iff.mp hvalid.named).2)
  exact hvalid.covers.amount

theorem not_validatesUnder_of_over (hover : OverAtIssue now r) {calls : List UapCall}
    (hlater : ∀ call ∈ calls, now ≤ call.now) {c : UapStep}
    (hc : c ∈ steps (step hmac) (u.afterIssue hmac hex now r) calls) (q : DelegatedPayment) :
    ¬ ValidatesUnder u.policies.length q c := by
  intro h
  obtain ⟨l, call, _, rfl, rfl⟩ := mem_steps_iff.mp hc
  obtain ⟨-, policy, hvalid⟩ := validatesUnder_stepAt_iff.mp h
  have hended : Ended now u.policies.length (u.afterIssue hmac hex now r) :=
    ⟨_, afterIssue_getElem, .inr hover⟩
  exact (hended.exec l).not_validates
    (hlater call (List.mem_append_right _ List.mem_cons_self)) hvalid

theorem amountsOn_mem {day : Rat → Int} {d a : Int} {history : List UapStep}
    (h : a ∈ amountsOn day d ref history) :
    ∃ c ∈ history, ∃ q, ValidatesUnder ref q c ∧ q.amountPaise = a := by
  obtain ⟨c, hc, hamount⟩ := List.mem_filterMap.mp h
  obtain ⟨q, hvalid, -, hq⟩ := amountOn_eq_some_iff.mp hamount
  exact ⟨c, hc, q, hvalid, hq⟩

/-- The law holds of every continuation of an issuance. -/
def Always (hmac : HmacSha256) (hex : String) (now : Rat) (r : DelegationRequest)
    (u : UAPAuthorizationLayer) (Law : List UapStep → Prop) : Prop :=
  ∀ calls, ClockForward calls → (∀ call ∈ calls, now ≤ call.now) →
    Law (steps (step hmac) (u.afterIssue hmac hex now r) calls)

theorem withinDaily_iff (day : Rat → Int) :
    Always hmac hex now r u (WithinDaily day r.dailyLimitPaise u.policies.length)
      ↔ OverAtIssue now r ∨ (r.maxAmountPaise ≤ 0 ∧ r.maxAmountPaise ≤ r.dailyLimitPaise) := by
  constructor
  · intro hlaw
    by_contra hlive
    rw [not_or] at hlive
    have htotal : ∀ k : Nat, k ≠ 0 → k * r.maxAmountPaise ≤ r.dailyLimitPaise := by
      intro k hk
      have hday := hlaw (u.repeated hmac hex now r r.maxAmountPaise k) forward_repeated
        later_repeated (day now)
      rw [amountsOn_repeated hlive.1 (le_refl _), List.sum_replicate, nsmul_eq_mul] at hday
      exact hday (fun hnil => hk (List.replicate_eq_nil_iff _ |>.mp hnil))
    refine hlive.2 ⟨?_, by simpa using htotal 1 (by decide)⟩
    by_contra hpos
    -- as often as it takes to go over the limit
    have hmany := htotal (r.dailyLimitPaise.toNat + 1) (Nat.succ_ne_zero _)
    have hover : (r.dailyLimitPaise.toNat + 1 : Int) * 1
        ≤ (r.dailyLimitPaise.toNat + 1) * r.maxAmountPaise :=
      Int.mul_le_mul_of_nonneg_left (by omega) (by omega)
    push_cast at hmany
    omega
  · rintro (hover | ⟨hmax, hdaily⟩) calls - hlater d hne
    · obtain ⟨a, ha⟩ := List.exists_mem_of_ne_nil _ hne
      obtain ⟨c, hc, q, hvalid, -⟩ := amountsOn_mem ha
      exact absurd hvalid (not_validatesUnder_of_over hover hlater hc q)
    · refine le_trans (sum_le_of_nonpos hmax hne ?_) hdaily
      intro a ha
      obtain ⟨c, hc, q, hvalid, rfl⟩ := amountsOn_mem ha
      exact amount_le_of_validatesUnder hc hvalid

theorem noNegative_iff :
    Always hmac hex now r u (NoNegative u.policies.length) ↔ OverAtIssue now r := by
  constructor
  · intro hlaw
    by_contra hlive
    -- amounts are compared from above only
    have hvalid : Validates now (scopedPayment (u.policyOf hmac hex now r).token r
        (min r.maxAmountPaise (-1))) u.policies.length (u.policyOf hmac hex now r)
        (u.afterIssue hmac hex now r) :=
      validates_scopedPayment hlive (min_le_left _ _)
    have hnonneg := hlaw (u.repeated hmac hex now r (min r.maxAmountPaise (-1)) 1)
      forward_repeated later_repeated _ List.mem_cons_self _
      (validatesUnder_stepAt_iff.mpr ⟨rfl, _, hvalid⟩)
    have hnegative : min r.maxAmountPaise (-1) ≤ -1 := min_le_right _ _
    exact absurd (le_trans hnonneg hnegative) (by decide)
  · intro hover calls _ hlater c hc q hvalid
    exact absurd hvalid (not_validatesUnder_of_over hover hlater hc q)

end

theorem withinDaily_of_asked {day : Rat → Int} {limit : Int} {history : List UapStep}
    (hnonneg : ∀ d, ∀ a ∈ history.filterMap (askedOn day d), 0 ≤ a)
    (htotal : ∀ d, (history.filterMap (askedOn day d)).sum ≤ limit) :
    WithinDaily day limit ref history ∧ NoNegative ref history := by
  constructor
  · intro d _
    have hsub : (amountsOn day d ref history).Sublist (history.filterMap (askedOn day d)) :=
      filterMap_sublist_of_imp (fun _ _ => askedOn_of_amountOn) history
    exact le_trans (hsub.sum_le_sum (hnonneg d)) (htotal d)
  · intro c hc q hvalid
    have hasked : askedOn day (day c.act.now) c = some q.amountPaise :=
      askedOn_of_amountOn (amountOn_eq_some_iff.mpr ⟨q, hvalid, rfl, rfl⟩)
    exact hnonneg _ _ (List.mem_filterMap.mpr ⟨c, hc, hasked⟩)

/-- **After an issuance, no run breaks the daily limit or validates a negative
    amount exactly when the authorization is over from the start; the limit alone
    also holds when no positive amount can be paid; and else both are up to the
    payments that are asked for.** -/
theorem delegated_limits_iff (hmac : HmacSha256) (hex : String) (now : Rat)
    (r : DelegationRequest) (u : UAPAuthorizationLayer) (day : Rat → Int) :
    (Always hmac hex now r u (fun history =>
        WithinDaily day r.dailyLimitPaise u.policies.length history
          ∧ NoNegative u.policies.length history)
      ↔ OverAtIssue now r)
    ∧ (Always hmac hex now r u (WithinDaily day r.dailyLimitPaise u.policies.length)
      ↔ OverAtIssue now r ∨ (r.maxAmountPaise ≤ 0 ∧ r.maxAmountPaise ≤ r.dailyLimitPaise))
    ∧ ∀ history : List UapStep,
        (∀ d, ∀ a ∈ history.filterMap (askedOn day d), 0 ≤ a) →
        (∀ d, (history.filterMap (askedOn day d)).sum ≤ r.dailyLimitPaise) →
        WithinDaily day r.dailyLimitPaise u.policies.length history
          ∧ NoNegative u.policies.length history := by
  refine ⟨?_, withinDaily_iff day, fun _ hnonneg htotal => withinDaily_of_asked hnonneg htotal⟩
  constructor
  · intro hlaw
    exact noNegative_iff.mp fun calls hclock hlater => (hlaw calls hclock hlater).2
  · intro hover calls hclock hlater
    exact ⟨(withinDaily_iff day).mpr (.inl hover) calls hclock hlater,
      noNegative_iff.mpr hover calls hclock hlater⟩

end UAPAuthorizationLayer

/-- The day of a reading of the clock, in UTC. -/
def utcDay (t : Rat) : Int := (t / 86400).floor

namespace SampleDelegation

open UAPAuthorizationLayer

def hexDigits : String := "0123456789abcdef"

theorem request_live : ¬ OverAtIssue 0 request := by
  rw [OverAtIssue, request]
  decide +kernel

def paid (amountPaise : Int) (k : Nat) : List UapStep :=
  steps (step hmac) (new secretKey)
    (issue :: repeated hmac hexDigits 0 request (new secretKey) amountPaise k)

theorem amountsOn_paid {amountPaise : Int} (h : amountPaise ≤ 50000) (k : Nat) :
    amountsOn utcDay 0 0 (paid amountPaise k) = List.replicate k amountPaise := by
  have hday : utcDay 0 = 0 := by decide +kernel
  have hamounts : amountsOn utcDay (utcDay 0) (new secretKey).policies.length
      (steps (step hmac) ((new secretKey).afterIssue hmac hexDigits 0 request)
        (repeated hmac hexDigits 0 request (new secretKey) amountPaise k))
      = List.replicate k amountPaise :=
    amountsOn_repeated request_live h utcDay k
  rw [hday] at hamounts
  rw [paid, steps_cons, amountsOn, List.filterMap_cons_none]
  · exact hamounts
  · rfl

end SampleDelegation

open SampleDelegation UAPAuthorizationLayer in
/-- Two payments of 500 rupees on one day, under a daily limit of 600; and a
    payment of less than nothing. -/
theorem daily_limit_exceeded :
    ¬ WithinDaily utcDay request.dailyLimitPaise 0 (paid 50000 2)
    ∧ ¬ NoNegative 0 (paid (-1) 1) := by
  constructor
  · intro hwithin
    have hday := hwithin 0
    rw [amountsOn_paid (le_refl _) 2] at hday
    exact absurd (hday (List.cons_ne_nil _ _)) (by decide)
  · intro hnonneg
    have hmem : (-1 : Int) ∈ amountsOn utcDay 0 0 (paid (-1) 1) := by
      rw [amountsOn_paid (by decide) 1]
      exact List.mem_cons_self
    obtain ⟨c, hc, q, hvalid, hq⟩ := amountsOn_mem hmem
    have hle := hnonneg c hc q hvalid
    rw [hq] at hle
    exact absurd hle (by decide)

end MandateGateway
