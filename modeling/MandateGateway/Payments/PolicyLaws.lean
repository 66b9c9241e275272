import MandateGateway.Payments.PolicyEngine

/-! # What an evaluation of a payment looks at

    An evaluation goes through eight rules, and each of them asks something of
    the payment and of its context.  None of them asks for more when the amount
    or the risk gets less, and none of them reads the merchants of the policy.

    * `allows_iff`: a payment is allowed exactly when it passes the eight rules;
    * `allows_mono`: a payment that is allowed is allowed with less risk;
    * `restrictions_iff`: when an allowed payment meets all that its policy
      declares. -/

namespace MandateGateway

namespace Payments

open Clock

/-! ## The rules -/

/-- The category, cleaned, or its singular is in the scope of the policy. -/
def CategoryAllowed (limits : AgentSpendingLimits) (category : String) : Prop :=
  limits.allowedCategories = ∅
    ∨ Text.strip (Text.lower category) ∈ limits.allowedCategories
    ∨ AgentPaymentPolicyEngine.singular (Text.strip (Text.lower category))
        ∈ limits.allowedCategories

def ProviderAllowed (policy : AgentPaymentPolicy) (provider : String) : Prop :=
  policy.allowedProviders = ∅ ∨ Text.lower provider ∈ policy.allowedProviders

/-- Empty means that all are allowed. -/
def MerchantAllowed (limits : AgentSpendingLimits) (merchantId : String) : Prop :=
  limits.allowedMerchants = ∅ ∨ merchantId ∈ limits.allowedMerchants

/-- Everything that the eight rules ask of a payment, when `spent` is recorded
    for the day. -/
structure Passes (upper : String → String) (policy : AgentPaymentPolicy) (spent : Int)
    (ctx : PolicyEvaluationContext) : Prop where
  product      : policy.requireVerifiedProduct = true → ctx.isProductVerified = true
  confirmation : policy.requireHumanConfirmation = true →
    ctx.hasHumanConfirmation = true ∧ ctx.confirmationExpired = false
  currency     : upper ctx.currency ∈ policy.limits.allowedCurrencies
  transaction  : ctx.amountPaise ≤ policy.limits.perTransactionLimitPaise
  daily        : spent + ctx.amountPaise ≤ policy.limits.dailyLimitPaise
  category     : CategoryAllowed policy.limits ctx.category
  provider     : ProviderAllowed policy ctx.provider
  risk         : (AgentPaymentPolicyEngine.classifyRisk ctx).rank
    ≤ policy.maxAllowedRiskLevel.rank

structure Restrictions (upper : String → String) (policy : AgentPaymentPolicy) (spent : Int)
    (ctx : PolicyEvaluationContext) : Prop where
  merchant    : MerchantAllowed policy.limits ctx.merchantId
  currency    : upper ctx.currency ∈ policy.limits.allowedCurrencies
  category    : CategoryAllowed policy.limits ctx.category
  provider    : ProviderAllowed policy ctx.provider
  amount      : 0 ≤ ctx.amountPaise
  transaction : ctx.amountPaise ≤ policy.limits.perTransactionLimitPaise
  daily       : ctx.amountPaise ≤ policy.limits.dailyLimitPaise - spent
  risk        : (AgentPaymentPolicyEngine.classifyRisk ctx).rank
    ≤ policy.maxAllowedRiskLevel.rank

/-- The same payment with no higher an amount, in a context that is no riskier. -/
structure LessRisky (ctx' ctx : PolicyEvaluationContext) : Prop where
  agent     : ctx'.agentId = ctx.agentId
  merchant  : ctx'.merchantId = ctx.merchantId
  category  : ctx'.category = ctx.category
  currency  : ctx'.currency = ctx.currency
  provider  : ctx'.provider = ctx.provider
  amount    : ctx'.amountPaise ≤ ctx.amountPaise
  verified  : ctx.isProductVerified = true → ctx'.isProductVerified = true
  known     : ctx.isNewMerchant = false → ctx'.isNewMerchant = false
  confirmed : ctx.hasHumanConfirmation = true → ctx'.hasHumanConfirmation = true
  unexpired : ctx.confirmationExpired = false → ctx'.confirmationExpired = false
  failures  : ctx'.recentFailureCount ≤ ctx.recentFailureCount

namespace AgentPaymentPolicyEngine

/-- An evaluation that returns, and allows the payment. -/
def Granted (answer : Except PyError PolicyEvaluationResult) : Prop :=
  ∃ result, answer = .ok result ∧ result.allowed = true

/-- The payment is allowed. -/
def Allows (upper : String → String) (now : Instant) (ctx : PolicyEvaluationContext)
    (e : AgentPaymentPolicyEngine) : Prop :=
  Granted (e.evaluate upper now ctx)

variable {e : AgentPaymentPolicyEngine} {policy : AgentPaymentPolicy}
variable {ctx ctx' : PolicyEvaluationContext}

/-! ## One rule after the other -/

theorem granted_ok_iff {result : PolicyEvaluationResult} :
    Granted (.ok result) ↔ result.allowed = true := by
  constructor
  · rintro ⟨_, heq, hallowed⟩
    cases heq
    exact hallowed
  · intro hallowed
    exact ⟨result, rfl, hallowed⟩

theorem not_granted_block (riskLevel : RiskLevel) (reason code : String) :
    ¬ Granted (.ok (block policy riskLevel reason code)) := by
  rw [granted_ok_iff]
  exact Bool.false_ne_true

theorem granted_ite_iff {c : Prop} [Decidable c]
    {blocked next : Except PyError PolicyEvaluationResult} (hblocked : ¬ Granted blocked) :
    Granted (if c then blocked else next) ↔ ¬ c ∧ Granted next := by
  by_cases h : c
  · rw [if_pos h]
    exact iff_of_false hblocked fun hboth => hboth.1 h
  · rw [if_neg h]
    exact (and_iff_right h).symm

theorem granted_ok_ite_iff {c : Prop} [Decidable c] {blocked next : PolicyEvaluationResult}
    (hblocked : ¬ Granted (.ok blocked)) :
    Granted (.ok (if c then blocked else next)) ↔ ¬ c ∧ Granted (.ok next) := by
  rw [apply_ite Except.ok]
  exact granted_ite_iff hblocked

theorem required_iff {required met : Bool} :
    ¬ (required && !met) = true ↔ (required = true → met = true) := by
  cases required <;> cases met <;> decide

theorem excluded_iff {required found : Bool} :
    ¬ (required && found) = true ↔ (required = true → found = false) := by
  cases required <;> cases found <;> decide

theorem granted_evaluateScope_iff :
    Granted (.ok (evaluateScope policy ctx))
      ↔ CategoryAllowed policy.limits ctx.category ∧ ProviderAllowed policy ctx.provider
        ∧ (classifyRisk ctx).rank ≤ policy.maxAllowedRiskLevel.rank := by
  rw [evaluateScope, granted_ok_ite_iff (not_granted_block _ _ _),
    granted_ok_ite_iff (not_granted_block _ _ _), granted_ok_ite_iff (not_granted_block _ _ _),
    granted_ok_iff, eq_self_iff_true, and_true, not_and_or, not_and_or, not_and_or, not_not,
    not_not, not_not, not_not, not_not, not_lt, CategoryAllowed, ProviderAllowed]

/-- **A payment is allowed exactly when it passes the eight rules.** -/
theorem allows_iff {upper : String → String} {now : Instant} :
    Allows upper now ctx e
      ↔ Passes upper (e.getPolicy ctx.agentId) (e.getDailySpending now ctx.agentId) ctx := by
  rw [Allows, evaluate, granted_ite_iff (not_granted_block _ _ _),
    granted_ite_iff (not_granted_block _ _ _), granted_ite_iff (not_granted_block _ _ _),
    granted_ite_iff (not_granted_block _ _ _), granted_ite_iff ?transaction,
    granted_ite_iff (not_granted_block _ _ _), granted_evaluateScope_iff, required_iff,
    required_iff, excluded_iff, not_not, not_lt, not_lt]
  case transaction =>
    -- the text of the rule can be out of range, and then nothing is returned
    split
    · rintro ⟨_, heq, _⟩
      cases heq
    · exact not_granted_block _ _ _
  constructor
  · rintro ⟨hproduct, hconfirmed, hunexpired, hcurrency, htransaction, hdaily, hcategory,
      hprovider, hrisk⟩
    exact ⟨hproduct, fun h => ⟨hconfirmed h, hunexpired h⟩, hcurrency, htransaction, hdaily,
      hcategory, hprovider, hrisk⟩
  · intro h
    exact ⟨h.product, fun hr => (h.confirmation hr).1, fun hr => (h.confirmation hr).2,
      h.currency, h.transaction, h.daily, h.category, h.provider, h.risk⟩

/-! ## Less risk -/

/-- The points of `classify_risk` for an amount. -/
def amountPoints (amountPaise : Int) : Nat :=
  if 100000 < amountPaise then 3
  else if 50000 < amountPaise then 2
  else if 20000 < amountPaise then 1 else 0

def failurePoints (count : Int) : Nat :=
  if 3 ≤ count then 4 else if 1 ≤ count then 1 else 0

/-- The points for something that is found in a context. -/
def penalty (found : Bool) (points : Nat) : Nat := if found then points else 0

def contextPoints (ctx : PolicyEvaluationContext) : Nat :=
  penalty (!ctx.isProductVerified) 3 + penalty ctx.isNewMerchant 2
    + penalty (!ctx.hasHumanConfirmation || ctx.confirmationExpired) 5

def levelOf (score : Nat) : RiskLevel :=
  if 6 ≤ score then .high else if 3 ≤ score then .medium else .low

theorem classifyRisk_eq (ctx : PolicyEvaluationContext) :
    classifyRisk ctx = levelOf (amountPoints ctx.amountPaise + contextPoints ctx
      + failurePoints ctx.recentFailureCount) := by
  have hproduct : penalty (!ctx.isProductVerified) 3 = if ctx.isProductVerified then 0 else 3 := by
    cases ctx.isProductVerified <;> rfl
  rw [contextPoints, hproduct, ← Nat.add_assoc, ← Nat.add_assoc]
  rfl

theorem amountPoints_mono {a b : Int} (hle : a ≤ b) : amountPoints a ≤ amountPoints b := by
  rw [amountPoints, amountPoints]
  split_ifs <;> omega

theorem failurePoints_mono {a b : Int} (hle : a ≤ b) : failurePoints a ≤ failurePoints b := by
  rw [failurePoints, failurePoints]
  split_ifs <;> omega

theorem rank_levelOf_mono {a b : Nat} (hle : a ≤ b) : (levelOf a).rank ≤ (levelOf b).rank := by
  rw [levelOf, levelOf]
  split_ifs
  all_goals first | omega | decide

theorem penalty_mono {found' found : Bool} (h : found' = true → found = true) (points : Nat) :
    penalty found' points ≤ penalty found points := by
  cases found' with
  | false => exact Nat.zero_le _
  | true => rw [h rfl]

theorem contextPoints_mono (h : LessRisky ctx' ctx) : contextPoints ctx' ≤ contextPoints ctx := by
  refine Nat.add_le_add (Nat.add_le_add (penalty_mono ?product 3) (penalty_mono ?merchant 2))
    (penalty_mono ?confirmation 5)
  case product =>
    rw [Bool.not_eq_true', Bool.not_eq_true']
    intro hproduct'
    by_contra hproduct
    rw [h.verified (Bool.not_eq_false _ ▸ hproduct)] at hproduct'
    cases hproduct'
  case merchant =>
    intro hnew'
    by_contra hnew
    rw [h.known (Bool.eq_false_of_not_eq_true hnew)] at hnew'
    cases hnew'
  case confirmation =>
    intro hlacking'
    by_contra hlacking
    obtain ⟨hconfirmed, hunexpired⟩ := Bool.or_eq_false_iff.mp
      (Bool.eq_false_of_not_eq_true hlacking)
    rw [Bool.not_eq_false'] at hconfirmed
    rw [h.confirmed hconfirmed, h.unexpired hunexpired] at hlacking'
    cases hlacking'

theorem rank_classifyRisk_mono (h : LessRisky ctx' ctx) :
    (classifyRisk ctx').rank ≤ (classifyRisk ctx).rank := by
  rw [classifyRisk_eq, classifyRisk_eq]
  exact rank_levelOf_mono (Nat.add_le_add
    (Nat.add_le_add (amountPoints_mono h.amount) (contextPoints_mono h))
    (failurePoints_mono h.failures))

end AgentPaymentPolicyEngine

/-- Every rule asks for no more of the less risky payment. -/
theorem Passes.mono {upper : String → String} {policy : AgentPaymentPolicy} {spent : Int}
    {ctx ctx' : PolicyEvaluationContext} (hpasses : Passes upper policy spent ctx)
    (hless : LessRisky ctx' ctx) : Passes upper policy spent ctx' where
  product := fun hrequired => hless.verified (hpasses.product hrequired)
  confirmation := fun hrequired =>
    ⟨hless.confirmed (hpasses.confirmation hrequired).1,
      hless.unexpired (hpasses.confirmation hrequired).2⟩
  currency := hless.currency ▸ hpasses.currency
  transaction := hless.amount.trans hpasses.transaction
  daily := (Int.add_le_add_left hless.amount spent).trans hpasses.daily
  category := hless.category ▸ hpasses.category
  provider := hless.provider ▸ hpasses.provider
  risk := (AgentPaymentPolicyEngine.rank_classifyRisk_mono hless).trans hpasses.risk

namespace AgentPaymentPolicyEngine

/-- **A payment that is allowed is allowed again, by the same engine on the same
    day, with any smaller amount and in any context that is less risky.** -/
theorem allows_mono {upper : String → String} {now : Instant} {e : AgentPaymentPolicyEngine}
    {ctx ctx' : PolicyEvaluationContext} (hallows : Allows upper now ctx e)
    (hless : LessRisky ctx' ctx) : Allows upper now ctx' e := by
  rw [allows_iff] at hallows ⊢
  rw [hless.agent]
  exact hallows.mono hless

/-! ## What a policy declares -/

theorem restrictions_of_passes_iff {upper : String → String} {policy : AgentPaymentPolicy}
    {spent : Int} {ctx : PolicyEvaluationContext} (h : Passes upper policy spent ctx) :
    Restrictions upper policy spent ctx
      ↔ MerchantAllowed policy.limits ctx.merchantId ∧ 0 ≤ ctx.amountPaise := by
  constructor
  · intro hall
    exact ⟨hall.merchant, hall.amount⟩
  · rintro ⟨hmerchant, hamount⟩
    exact ⟨hmerchant, h.currency, h.category, h.provider, hamount, h.transaction,
      Int.le_sub_left_of_add_le h.daily, h.risk⟩

/-- **A payment is allowed only with all that its policy declares, exactly when
    it breaks one of the eight rules, or its merchant is among the merchants of
    the policy, if there are any, and its amount is not negative.** -/
theorem restrictions_iff (upper : String → String) (now : Instant)
    (e : AgentPaymentPolicyEngine) (ctx : PolicyEvaluationContext) :
    (Allows upper now ctx e →
      Restrictions upper (e.getPolicy ctx.agentId) (e.getDailySpending now ctx.agentId) ctx)
    ↔ (¬ Passes upper (e.getPolicy ctx.agentId) (e.getDailySpending now ctx.agentId) ctx
      ∨ MerchantAllowed (e.getPolicy ctx.agentId).limits ctx.merchantId
        ∧ 0 ≤ ctx.amountPaise) := by
  rw [allows_iff, imp_iff_not_or]
  -- of what is declared, the rules leave the merchant and the sign
  refine or_congr_right' ?_
  intro hpasses
  exact restrictions_of_passes_iff (not_not.mp hpasses)

end AgentPaymentPolicyEngine

/-! Payments under the standard policy, and under one for a single merchant. -/

namespace SamplePolicyLaws

def ctx : PolicyEvaluationContext where
  agentId := "shopping_agent_01"
  merchantId := "mer_cafe_acme"
  category := "groceries"
  currency := "INR"
  amountPaise := 60000
  provider := "razorpay_test"
  isProductVerified := true
  hasHumanConfirmation := true
  confirmationExpired := false
  isNewMerchant := true
  recentFailureCount := 0

def smaller : PolicyEvaluationContext :=
  { ctx with amountPaise := 10000, isNewMerchant := false }

def negative : PolicyEvaluationContext := { ctx with amountPaise := -60000 }

def standard : AgentPaymentPolicyEngine := .new none

def elsewhere : AgentPaymentPolicyEngine :=
  .new (some { AgentPaymentPolicyEngine.standardPolicy with
    limits := { AgentPaymentPolicyEngine.standardPolicy.limits with
      allowedMerchants := {"mer_allowed_only"} } })

end SamplePolicyLaws

open SamplePolicyLaws AgentPaymentPolicyEngine

theorem smaller_allowed : Allows Text.upperAscii 0 ctx standard
    ∧ Allows Text.upperAscii 0 smaller standard := by
  have hallows : Allows Text.upperAscii 0 ctx standard := ⟨_, rfl, rfl⟩
  refine ⟨hallows, allows_mono hallows ?_⟩
  exact ⟨rfl, rfl, rfl, rfl, rfl, by decide, id, fun _ => rfl, id, id, le_refl _⟩

/-- A payment to a merchant that the policy leaves out, and one of a negative
    amount, are allowed. -/
theorem merchant_not_looked_at :
    ¬ (Allows Text.upperAscii 0 ctx elsewhere →
        Restrictions Text.upperAscii (elsewhere.getPolicy ctx.agentId)
          (elsewhere.getDailySpending 0 ctx.agentId) ctx)
    ∧ ¬ (Allows Text.upperAscii 0 negative standard →
        Restrictions Text.upperAscii (standard.getPolicy negative.agentId)
          (standard.getDailySpending 0 negative.agentId) negative) := by
  constructor
  · intro hlaw
    rcases (hlaw ⟨_, rfl, rfl⟩).merchant with hempty | hmem
    · exact absurd hempty (by decide)
    · exact absurd hmem (by decide)
  · intro hlaw
    exact absurd (hlaw ⟨_, rfl, rfl⟩).amount (by decide)

end Payments

end MandateGateway
