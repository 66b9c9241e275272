import MandateGateway.Lib.OrderedMap
import MandateGateway.Values
import Mathlib.Data.Finset.Insert

/-! # The payment policy of an agent

    A payment is evaluated against the rules of its agent's policy, among them
    the daily limit, and spending is recorded by another operation.

    * `daily_of_allowed`: what an evaluation that allows a payment has seen;
    * `spentOn_recordSpending`: what recording adds, and where. -/

namespace MandateGateway

namespace Payments

open Clock OrderedMap

inductive RiskLevel where
  | low | medium | high | blocked
deriving DecidableEq

def RiskLevel.value : RiskLevel → String
  | .low => "LOW"
  | .medium => "MEDIUM"
  | .high => "HIGH"
  | .blocked => "BLOCKED"

/-- `risk_hierarchy`. -/
def RiskLevel.rank : RiskLevel → Nat
  | .low => 1
  | .medium => 2
  | .high => 3
  | .blocked => 4

structure AgentSpendingLimits where
  perTransactionLimitPaise : Int
  dailyLimitPaise          : Int
  allowedCurrencies        : Finset String
  allowedCategories        : Finset String
  /-- Empty means that all are allowed; `evaluate` does not look at it. -/
  allowedMerchants         : Finset String

structure AgentPaymentPolicy where
  policyId                 : String
  agentId                  : String
  limits                   : AgentSpendingLimits
  requireHumanConfirmation : Bool
  requireVerifiedProduct   : Bool
  maxAllowedRiskLevel      : RiskLevel
  allowedProviders         : Finset String

/-- The fields of a context that an evaluation reads, and the merchant. -/
structure PolicyEvaluationContext where
  agentId              : String
  merchantId           : String
  category             : String
  currency             : String
  amountPaise          : Int
  provider             : String
  isProductVerified    : Bool
  hasHumanConfirmation : Bool
  confirmationExpired  : Bool
  isNewMerchant        : Bool
  recentFailureCount   : Int

structure PolicyEvaluationResult where
  allowed   : Bool
  riskLevel : RiskLevel
  reason    : String
  blockCode : Option String
  policyId  : Option String
deriving DecidableEq

structure AgentPaymentPolicyEngine where
  defaultPolicy  : AgentPaymentPolicy
  customPolicies : OrderedMap String AgentPaymentPolicy
  /-- `agent_id -> date -> paise` -/
  dailySpending  : OrderedMap String (OrderedMap String Int)

namespace AgentPaymentPolicyEngine

/-- The policy of an engine that is given none. -/
def standardPolicy : AgentPaymentPolicy where
  policyId := "pol_default_shopping"
  agentId := "shopping_agent_01"
  limits := {
    perTransactionLimitPaise := 150000
    dailyLimitPaise := 500000
    allowedCurrencies := {"INR"}
    allowedCategories := {"grocery", "groceries", "beverage", "beverages", "electronics",
      "general", "dairy", "office", "stationery", "clothing", "food", "retail", "supplies"}
    allowedMerchants := ∅ }
  requireHumanConfirmation := true
  requireVerifiedProduct := true
  maxAllowedRiskLevel := .medium
  allowedProviders := {"razorpay", "razorpay_test", "x402", "uap_delegated"}

/-- `AgentPaymentPolicyEngine(default_policy)`. -/
def new (defaultPolicy : Option AgentPaymentPolicy) : AgentPaymentPolicyEngine :=
  ⟨defaultPolicy.getD standardPolicy, .empty, .empty⟩

def registerPolicy (policy : AgentPaymentPolicy) (e : AgentPaymentPolicyEngine) :
    AgentPaymentPolicyEngine :=
  { e with customPolicies := e.customPolicies.set policy.agentId policy }

def getPolicy (agentId : String) (e : AgentPaymentPolicyEngine) : AgentPaymentPolicy :=
  (e.customPolicies.get agentId).getD e.defaultPolicy

/-- What is recorded for an agent on a day, if anything is. -/
def spentOn (agentId day : String) (e : AgentPaymentPolicyEngine) : Option Int :=
  (e.dailySpending.get agentId).bind fun days => days.get day

def getDailySpending (now : Instant) (agentId : String) (e : AgentPaymentPolicyEngine) : Int :=
  (e.spentOn agentId (dateText now)).getD 0

def recordSpending (now : Instant) (agentId : String) (amountPaise : Int)
    (e : AgentPaymentPolicyEngine) : AgentPaymentPolicyEngine :=
  let today := dateText now
  let days := (e.dailySpending.get agentId).getD .empty
  let curr := (days.get today).getD 0
  { e with dailySpending := e.dailySpending.set agentId (days.set today (curr + amountPaise)) }

def classifyRisk (ctx : PolicyEvaluationContext) : RiskLevel :=
  let amount := if 100000 < ctx.amountPaise then 3
    else if 50000 < ctx.amountPaise then 2
    else if 20000 < ctx.amountPaise then 1 else 0
  let product := if ctx.isProductVerified then 0 else 3
  let merchant := if ctx.isNewMerchant then 2 else 0
  let confirmation := if !ctx.hasHumanConfirmation || ctx.confirmationExpired then 5 else 0
  let failures := if 3 ≤ ctx.recentFailureCount then 4
    else if 1 ≤ ctx.recentFailureCount then 1 else 0
  let score := amount + product + merchant + confirmation + failures
  if 6 ≤ score then .high else if 3 ≤ score then .medium else .low

/-- `text.rstrip("s")`. -/
def singular (text : String) : String :=
  String.ofList (text.toList.reverse.dropWhile (· == 's')).reverse

def block (policy : AgentPaymentPolicy) (riskLevel : RiskLevel) (reason code : String) :
    PolicyEvaluationResult where
  allowed := false
  riskLevel := riskLevel
  reason := reason
  blockCode := some code
  policyId := some policy.policyId

/-- The text of rule 4; the amount in rupees can be out of range. -/
def transactionReason (amountPaise limitPaise : Int) : Except PyError String :=
  match trueDiv amountPaise 100 with
  | .error err => .error err
  | .ok rupees => .ok (s!"Transaction amount ₹{rupees.fixed2 false} exceeds "
      ++ s!"per-transaction limit ₹{limitPaise / 100}.")

/-- Rules 6 to 8. -/
def evaluateScope (policy : AgentPaymentPolicy) (ctx : PolicyEvaluationContext) :
    PolicyEvaluationResult :=
  let clean := Text.strip (Text.lower ctx.category)
  let categories := policy.limits.allowedCategories
  if categories ≠ ∅ ∧ clean ∉ categories ∧ singular clean ∉ categories then
    block policy .medium
      s!"Product category '{ctx.category}' is not in allowed agent category scope."
      "DISALLOWED_CATEGORY"
  else if policy.allowedProviders ≠ ∅ ∧ Text.lower ctx.provider ∉ policy.allowedProviders then
    block policy .blocked s!"Payment provider '{ctx.provider}' is not permitted by policy."
      "DISALLOWED_PROVIDER"
  else if policy.maxAllowedRiskLevel.rank < (classifyRisk ctx).rank then
    block policy (classifyRisk ctx)
      (s!"Calculated risk level ({(classifyRisk ctx).value}) "
        ++ s!"exceeds policy threshold ({policy.maxAllowedRiskLevel.value}).")
      "RISK_THRESHOLD_EXCEEDED"
  else {
    allowed := true
    riskLevel := classifyRisk ctx
    reason := "Transaction policy evaluation passed successfully."
    blockCode := none
    policyId := some policy.policyId }

/-- `evaluate`; `upper` is `str.upper`. -/
def evaluate (upper : String → String) (now : Instant) (ctx : PolicyEvaluationContext)
    (e : AgentPaymentPolicyEngine) : Except PyError PolicyEvaluationResult :=
  let policy := e.getPolicy ctx.agentId
  let limits := policy.limits
  let currentSpent := e.getDailySpending now ctx.agentId
  if policy.requireVerifiedProduct && !ctx.isProductVerified then
    .ok (block policy .high "Product state is UNVERIFIED. Autonomous purchase blocked."
      "UNVERIFIED_PRODUCT")
  else if policy.requireHumanConfirmation && !ctx.hasHumanConfirmation then
    .ok (block policy .high "Human confirmation missing. Purchase requires user authorization."
      "HUMAN_CONFIRMATION_REQUIRED")
  else if policy.requireHumanConfirmation && ctx.confirmationExpired then
    .ok (block policy .high
      "Human confirmation token has expired. Re-authorization required."
      "CONFIRMATION_EXPIRED")
  else if upper ctx.currency ∉ limits.allowedCurrencies then
    .ok (block policy .blocked s!"Currency '{ctx.currency}' is not permitted by agent policy."
      "DISALLOWED_CURRENCY")
  else if limits.perTransactionLimitPaise < ctx.amountPaise then
    match transactionReason ctx.amountPaise limits.perTransactionLimitPaise with
    | .error err => .error err
    | .ok reason => .ok (block policy .high reason "PER_TRANSACTION_LIMIT_EXCEEDED")
  else if limits.dailyLimitPaise < currentSpent + ctx.amountPaise then
    .ok (block policy .high
      (s!"Daily spending limit ₹{limits.dailyLimitPaise / 100} exceeded. "
        ++ s!"Already spent: ₹{currentSpent / 100}.") "DAILY_LIMIT_EXCEEDED")
  else .ok (evaluateScope policy ctx)

/-! ## What an evaluation and a record do -/

variable {e : AgentPaymentPolicyEngine}

/-- **A payment that is allowed fits under the daily limit, with what was
    recorded when it was evaluated.** -/
theorem daily_of_allowed {upper : String → String} {now : Instant}
    {ctx : PolicyEvaluationContext} {result : PolicyEvaluationResult}
    (h : e.evaluate upper now ctx = .ok result) (hallowed : result.allowed = true) :
    e.getDailySpending now ctx.agentId + ctx.amountPaise
      ≤ (e.getPolicy ctx.agentId).limits.dailyLimitPaise := by
  by_contra hover
  have hover := Int.not_le.mp hover
  rw [evaluate] at h
  -- every rule up to the daily one blocks, or is passed on to it
  simp only [if_pos hover] at h
  split at h
  · cases h; cases hallowed
  split at h
  · cases h; cases hallowed
  split at h
  · cases h; cases hallowed
  split at h
  · cases h; cases hallowed
  split at h
  · split at h
    · cases h
    · cases h; cases hallowed
  · cases h; cases hallowed

@[simp] theorem getPolicy_recordSpending (now : Instant) (agentId agentId' : String)
    (amountPaise : Int) :
    (e.recordSpending now agentId' amountPaise).getPolicy agentId = e.getPolicy agentId :=
  rfl

/-- **Recording adds to the day of the record and to the agent, and to nothing
    else.** -/
theorem spentOn_recordSpending (now : Instant) (agentId agentId' day : String)
    (amountPaise : Int) :
    (e.recordSpending now agentId' amountPaise).spentOn agentId day
      = if agentId = agentId' ∧ day = dateText now then
          some (e.getDailySpending now agentId' + amountPaise)
        else e.spentOn agentId day := by
  show (((e.dailySpending.set agentId' _).get agentId).bind fun days => days.get day) = _
  by_cases hagent : agentId = agentId'
  · subst hagent
    rw [get_set_self, Option.bind_some]
    have hdays : ∀ day, ((e.dailySpending.get agentId).getD .empty).get day
        = e.spentOn agentId day := by
      intro day
      rw [spentOn]
      cases e.dailySpending.get agentId <;> rfl
    by_cases hday : day = dateText now
    · subst hday
      rw [get_set_self, if_pos ⟨rfl, rfl⟩, hdays, getDailySpending]
    · rw [get_set_of_ne _ hday, if_neg (fun h => hday h.2), hdays]
  · rw [get_set_of_ne _ hagent, if_neg (fun h => hagent h.1), spentOn]

end AgentPaymentPolicyEngine

end Payments

end MandateGateway
