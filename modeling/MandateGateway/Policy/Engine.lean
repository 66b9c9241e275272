import MandateGateway.Budget.Engine
import MandateGateway.Lib.Checklist
import MandateGateway.Nonce.Record
import MandateGateway.Policy.Records
import MandateGateway.StepUp.Engine

/-! # The policy engine

    `PolicyEngine.evaluate`: thirteen checks of a proposed purchase in a fixed
    order.  The first twelve end in a rejection or pass on; the last
    classifies the total and is the only one that can raise. -/

namespace MandateGateway

open Clock Checklist Exceptions

/-- Machine-readable trace of a decision. -/
structure DecisionTraceResponse where
  decision        : PolicyDecision
  checksPassed    : List String
  checksFailed    : List String
  rejectionReason : Option RejectionReason
  stepUpDiff      : Option StepUpDiff
deriving DecidableEq

/-- Outcome of `evaluate`. -/
structure PolicyEvaluationResult where
  decision        : PolicyDecision
  rejectionReason : Option RejectionReason
  rejectionDetail : Option String
  stepUpDiff      : Option StepUpDiff
  trace           : DecisionTraceResponse
deriving DecidableEq

/-- Why a check rejects. -/
structure PolicyRefusal where
  reason : RejectionReason
  detail : String
deriving DecidableEq

/-- What is evaluated: the proposed purchase, and the time of evaluation. -/
structure PolicyRequest where
  mandate        : BuyerMandate
  merchantPolicy : MerchantPolicy
  cart           : Cart
  budget         : Option DailyBudget
  operation      : McpOperation
  region         : Region
  nonceRecord    : Option NonceRecord
  now            : Instant

namespace PolicyEngine

/-- Why the mandate is not active. -/
def mandateRefusal (mandate : BuyerMandate) (now : Instant) : PolicyRefusal :=
  if mandate.expiresAt ≤ now then
    ⟨.mandateExpired, s!"Buyer mandate expired at {isoformat mandate.expiresAt}."⟩
  else
    ⟨.mandateNotActive,
      s!"Buyer mandate status is '{mandate.status.value}', expected ACTIVE."⟩

/-- Why an item's category is refused, by the mandate first. -/
def categoryRefusal (mandate : BuyerMandate) (policy : MerchantPolicy) (item : CartItem) :
    Option PolicyRefusal :=
  if ¬ mandate.authorizesCategory item.category then
    some ⟨.categoryNotInScope,
      s!"Product category '{item.category}' is not in mandate category_scope."⟩
  else if ¬ policy.isCategoryAllowed item.category then
    some ⟨.merchantCategoryNotAllowed,
      s!"Product category '{item.category}' is not allowed by merchant policy."⟩
  else none

/-- A check by a function that raises when it fails, on an optional record. -/
def raisingCheck (reason : RejectionReason) (label : String)
    (result : Option (Except PyError Unit)) : Check PolicyRefusal String :=
  match result with
  | none => ⟨none, none⟩
  | some (.ok ()) => ⟨none, some label⟩
  | some (.error err) => ⟨some ⟨reason, err.text⟩, none⟩

/-- The checks before the classification of the total. -/
def checks (q : PolicyRequest) : List (Check PolicyRefusal String) :=
  let m := q.mandate
  let p := q.merchantPolicy
  let c := q.cart
  [ .require p.aiCommerceEnabled
      ⟨.aiCommerceDisabled, s!"Merchant '{p.merchantId}' has disabled AI commerce."⟩
      (some "MERCHANT_AI_COMMERCE_ENABLED"),
    .require (p.isActive q.now)
      ⟨.policyVersionInvalid, s!"Merchant policy (v{p.policyVersion}) has expired."⟩
      (some "MERCHANT_POLICY_ACTIVE"),
    .require (p.isRegionAllowed q.region)
      ⟨.regionNotAllowed,
        s!"Region '{q.region.value}' is not permitted by merchant policy."⟩
      (some "MERCHANT_REGION_ALLOWED"),
    -- the two operation checks share one label, as do the two of the currency
    .require (decide (q.operation ∉ p.blockedOperations))
      ⟨.operationNotAllowed,
        s!"Operation '{q.operation.value}' is explicitly blocked by merchant policy."⟩
      none,
    .require (decide (q.operation ∈ p.allowedOperations))
      ⟨.operationNotAllowed,
        s!"Operation '{q.operation.value}' is not in merchant allowed_operations."⟩
      (some "OPERATION_ALLOWED"),
    .require (m.isActive q.now) (mandateRefusal m q.now) (some "BUYER_MANDATE_ACTIVE"),
    .require (m.authorizesMerchant c.merchantId)
      ⟨.merchantNotInScope,
        s!"Merchant '{c.merchantId}' is not in mandate merchant_scope."⟩
      (some "MANDATE_MERCHANT_IN_SCOPE"),
    ⟨c.items.findSome? (categoryRefusal m p), some "CATEGORIES_ALLOWED"⟩,
    .require (c.currency == m.currency)
      ⟨.currencyMismatch,
        s!"Cart currency '{c.currency.value}' does not match "
          ++ s!"mandate currency '{m.currency.value}'."⟩
      none,
    .require (c.currency == p.currency)
      ⟨.merchantCurrencyNotSupported,
        s!"Cart currency '{c.currency.value}' does not match "
          ++ s!"merchant currency '{p.currency.value}'."⟩
      (some "CURRENCY_MATCHED"),
    .require (c.cartHash != "")
      ⟨.cartIntegrityViolation, "Cart missing valid cart_hash digest."⟩
      (some "CART_INTEGRITY_VALID"),
    raisingCheck .nonceAlreadyConsumed "NONCE_VALID"
      (q.nonceRecord.map fun record => assertNonceConsumable record q.now),
    .require m.autonomousExecution
      ⟨.autonomousExecutionDisabled, "Buyer mandate has autonomous_execution set to False."⟩
      (some "AUTONOMOUS_EXECUTION_PERMITTED"),
    .require (decide (c.totalPaise ≤ p.autonomousPurchaseLimitPaise))
      ⟨.merchantAmountLimitExceeded,
        s!"Cart total ({c.totalPaise} paise) exceeds merchant autonomous purchase limit "
          ++ s!"({p.autonomousPurchaseLimitPaise} paise)."⟩
      (some "MERCHANT_AMOUNT_LIMIT_OK"),
    raisingCheck .budgetInsufficient "BUDGET_AVAILABLE"
      (q.budget.map fun budget => assertCanReserve budget c.totalPaise) ]

def reject (passed : List String) (refusal : PolicyRefusal) : PolicyEvaluationResult where
  decision := .reject
  rejectionReason := some refusal.reason
  rejectionDetail := some refusal.detail
  stepUpDiff := none
  trace := {
    decision := .reject
    checksPassed := passed
    checksFailed := [s!"{refusal.reason.value}: {refusal.detail}"]
    rejectionReason := some refusal.reason
    stepUpDiff := none }

/-- The decision on a request that passed the checks. -/
def classified (passed : List String) (stepUp : StepUpResult) : PolicyEvaluationResult :=
  match stepUp.zone with
  | .hardReject => reject passed ⟨.exceedsStepUpHardLimit, stepUp.reason⟩
  | .stepUpRequired => {
      decision := .stepUpRequired
      rejectionReason := none
      rejectionDetail := none
      stepUpDiff := stepUp.diff
      trace := {
        decision := .stepUpRequired
        checksPassed := passed
        checksFailed := ["STEP_UP_REQUIRED"]
        rejectionReason := none
        stepUpDiff := stepUp.diff } }
  | .autoExecute => {
      decision := .allow
      rejectionReason := none
      rejectionDetail := none
      stepUpDiff := none
      trace := {
        decision := .allow
        checksPassed := passed ++ ["STEP_UP_NOT_REQUIRED"]
        checksFailed := []
        rejectionReason := none
        stepUpDiff := none } }

def evaluate (q : PolicyRequest) : Except PyError PolicyEvaluationResult :=
  match scan (checks q) with
  | (passed, some refusal) => .ok (reject passed refusal)
  | (passed, none) =>
      (classifyStepUpZone q.cart.totalPaise q.mandate.maximumAmountPaise
        q.merchantPolicy.maxStepUpPercent).map (classified passed)

end PolicyEngine

end MandateGateway
