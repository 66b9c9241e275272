import MandateGateway.Authorization.ControlResults

/-! # The authorization aggregator

    `AuthorizationAggregator.aggregate`: seven control results, each supplied
    or missing, become one decision.  Six of them are checked in a fixed order
    by the same pattern, with their own names and defaults; the step-up result
    is only asked whether it requires one. -/

namespace MandateGateway

open Clock

/-- Outcomes of all independent security controls. -/
structure AuthorizationAggregationInput where
  mandateOutcome        : Option (SecurityControlOutcome ⊕ MandateEvaluationResult)
  merchantPolicyOutcome : Option (SecurityControlOutcome ⊕ MerchantPolicyEvaluationResult)
  cartIntegrityOutcome  : Option SecurityControlOutcome
  budgetOutcome         : Option SecurityControlOutcome
  replayOutcome         : Option SecurityControlOutcome
  nonceOutcome          : Option SecurityControlOutcome
  stepUpOutcome         : Option SecurityControlOutcome

/-- The definitive authorization decision. -/
structure AggregatedAuthorizationResult where
  decision        : PolicyDecision
  requestId       : String
  rejectionReason : Option RejectionReason
  rejectionDetail : Option String
  stepUpDiff      : Option StepUpDiff
  checksPassed    : List String
  checksFailed    : List String
  evaluatedAt     : Instant
deriving DecidableEq

structure ControlFailure where
  control : String
  reason  : RejectionReason
  detail  : String
deriving DecidableEq

/-! ## The checks on one control -/

/-- How the result of one control is checked: whether its `passed` flag counts
    beside its decision, and what it is refused with when it says nothing. -/
structure ControlCheck where
  name          : String
  readsPassed   : Bool
  defaultReason : RejectionReason
  defaultDetail : String
deriving DecidableEq

namespace ControlCheck

def mandate : ControlCheck :=
  ⟨"MANDATE_SCOPE_LIFECYCLE", true, .mandateNotActive, "Mandate scope/lifecycle check failed."⟩

/-- A merchant policy fails by its decision alone. -/
def merchantPolicy : ControlCheck :=
  ⟨"MERCHANT_COMMERCE_POLICY", false, .operationNotAllowed, "Merchant policy check failed."⟩

def cartIntegrity : ControlCheck :=
  ⟨"CART_INTEGRITY", true, .cartIntegrityViolation, "Cart integrity check failed."⟩

def budget : ControlCheck :=
  ⟨"BUDGET_RESERVATION", true, .budgetInsufficient, "Budget availability check failed."⟩

def replay : ControlCheck :=
  ⟨"REPLAY_PROTECTION", true, .replayAttemptDetected, "Replay protection check failed."⟩

def nonce : ControlCheck :=
  ⟨"NONCE_VALIDATION", true, .nonceAlreadyConsumed, "Nonce validation check failed."⟩

def fails (k : ControlCheck) (o : SecurityControlOutcome) : Bool :=
  (k.readsPassed && !o.passed) || o.decision == .reject

def reason (k : ControlCheck) (o : SecurityControlOutcome) : RejectionReason :=
  o.rejectionReason.getD k.defaultReason

def failure (k : ControlCheck) (o : SecurityControlOutcome) : ControlFailure :=
  ⟨k.name, k.reason o, orElseText o.detail k.defaultDetail⟩

end ControlCheck

namespace AuthorizationAggregationInput

def mandateCtrl (i : AuthorizationAggregationInput) : Option SecurityControlOutcome :=
  i.mandateOutcome.map (Sum.elim id .fromMandate)

/-- The merchant policy outcome, normalized. -/
def policyCtrl (i : AuthorizationAggregationInput) : Option SecurityControlOutcome :=
  i.merchantPolicyOutcome.map (Sum.elim id .fromMerchantPolicy)

/-- The controls that are checked, in order of precedence. -/
def checked (i : AuthorizationAggregationInput) :
    List (ControlCheck × Option SecurityControlOutcome) :=
  [(.mandate, i.mandateCtrl), (.merchantPolicy, i.policyCtrl),
    (.cartIntegrity, i.cartIntegrityOutcome), (.budget, i.budgetOutcome),
    (.replay, i.replayOutcome), (.nonce, i.nonceOutcome)]

/-- Those of them that were supplied. -/
def supplied (i : AuthorizationAggregationInput) :
    List (ControlCheck × SecurityControlOutcome) :=
  i.checked.filterMap fun c => c.2.map fun o => (c.1, o)

/-- The first supplied control that fails its check. -/
def firstFailing (i : AuthorizationAggregationInput) :
    Option (ControlCheck × SecurityControlOutcome) :=
  i.supplied.find? fun c => c.1.fails c.2

/-- The labels of the supplied controls before the first one that fails. -/
def labelsPassed (i : AuthorizationAggregationInput) : List String :=
  (i.supplied.takeWhile fun c => !c.1.fails c.2).map fun c => c.1.name ++ "_OK"

end AuthorizationAggregationInput

/-! ## The aggregation -/

namespace AuthorizationAggregator

def reject (requestId : String) (evalTime : Instant) (passed : List String)
    (f : ControlFailure) : AggregatedAuthorizationResult where
  decision := .reject
  requestId := requestId
  rejectionReason := some f.reason
  rejectionDetail := some f.detail
  stepUpDiff := none
  checksPassed := passed
  checksFailed := [s!"{f.control}: {f.reason.value} — {f.detail}"]
  evaluatedAt := evalTime

/-- The difference to step up by: the policy's when it asks for a step-up, else
    that of a step-up result which does. -/
def stepUpDiff (policy : SecurityControlOutcome) (stepUp : Option SecurityControlOutcome) :
    Option StepUpDiff :=
  if policy.decision = .stepUpRequired then policy.stepUpDiff
  else stepUp.bind fun s => if s.decision = .stepUpRequired then s.stepUpDiff else none

/-- The step-up classification, on a request that no control refuses. -/
def classify (requestId : String) (evalTime : Instant) (passed : List String)
    (policy : SecurityControlOutcome) (stepUp : Option SecurityControlOutcome) :
    AggregatedAuthorizationResult :=
  if (stepUpDiff policy stepUp).isSome ∨ policy.decision = .stepUpRequired then {
    decision := .stepUpRequired
    requestId := requestId
    rejectionReason := none
    rejectionDetail := none
    stepUpDiff := stepUpDiff policy stepUp
    checksPassed := passed
    checksFailed := ["STEP_UP_REQUIRED"]
    evaluatedAt := evalTime }
  else {
    decision := .allow
    requestId := requestId
    rejectionReason := none
    rejectionDetail := none
    stepUpDiff := none
    checksPassed := passed ++ ["STEP_UP_NOT_REQUIRED"]
    checksFailed := []
    evaluatedAt := evalTime }

def aggregate (env : Ambient) (requestId : String) (i : AuthorizationAggregationInput)
    (at? : Option Instant) : AggregatedAuthorizationResult :=
  let evalTime := env.time at?
  match i.mandateCtrl, i.policyCtrl, i.cartIntegrityOutcome with
  | none, _, _ =>
      reject requestId evalTime [] ⟨"MANDATE_SCOPE_LIFECYCLE", .controlResultMissing,
        "Mandate evaluation control result is missing."⟩
  | some _, none, _ =>
      reject requestId evalTime [] ⟨"MERCHANT_COMMERCE_POLICY", .controlResultMissing,
        "Merchant policy evaluation control result is missing."⟩
  | some _, some _, none =>
      reject requestId evalTime [] ⟨"CART_INTEGRITY", .controlResultMissing,
        "Cart integrity evaluation control result is missing."⟩
  | some _, some policy, some _ =>
      -- the other four controls are not missed when they were not supplied
      match i.firstFailing with
      | some (k, o) => reject requestId evalTime i.labelsPassed (k.failure o)
      | none => classify requestId evalTime i.labelsPassed policy i.stepUpOutcome

end AuthorizationAggregator

end MandateGateway
