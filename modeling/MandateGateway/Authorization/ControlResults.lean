import MandateGateway.Nonce.Record
import MandateGateway.Types
import MandateGateway.Values

/-! # What the control engines report

    The result record of each security control, and its conversion into the
    standard outcome.  The names a conversion gives its control are those the
    source writes there. -/

/-! ## Outcomes of the security controls

    The standard form in which every control reports to the authorization
    aggregator and to the payment gate. -/

namespace MandateGateway

/-- How a proposed amount exceeds the approved one. -/
structure StepUpDiff where
  approvedPaise : Int
  proposedPaise : Int
  deltaPaise    : Int
  deltaPercent  : Binary64
  reason        : String
deriving DecidableEq

/-- Standardized evaluation outcome of an individual security control. -/
structure SecurityControlOutcome where
  controlName     : String
  passed          : Bool
  decision        : PolicyDecision
  rejectionReason : Option RejectionReason
  detail          : Option String
  stepUpDiff      : Option StepUpDiff
deriving DecidableEq

end MandateGateway

namespace MandateGateway

open Clock

/-- Trace of one evaluated rule, of a mandate or of a merchant policy. -/
structure RuleEvaluationStep where
  ruleName : String
  passed   : Bool
  detail   : String
deriving DecidableEq, Repr

structure MandateEvaluationResult where
  valid           : Bool
  mandateId       : String
  buyerId         : String
  status          : MandateStatus
  rejectionReason : Option RejectionReason
  rejectionDetail : Option String
  evaluatedRules  : List RuleEvaluationStep
  evaluatedAt     : Instant
deriving DecidableEq

/-- `SecurityControlOutcome.from_mandate`. -/
def SecurityControlOutcome.fromMandate (res : MandateEvaluationResult) :
    SecurityControlOutcome where
  controlName := "MANDATE_SCOPE_LIFECYCLE"
  passed := res.valid
  decision := if res.valid then .allow else .reject
  rejectionReason := res.rejectionReason
  detail := res.rejectionDetail
  stepUpDiff := none

structure MerchantPolicyEvaluationResult where
  decision        : PolicyDecision
  merchantId      : String
  policyId        : String
  policyVersion   : Int
  rejectionReason : Option RejectionReason
  rejectionDetail : Option String
  evaluatedRules  : List RuleEvaluationStep
  evaluatedAt     : Instant
deriving DecidableEq

namespace MerchantPolicyEvaluationResult

def isAllowed (r : MerchantPolicyEvaluationResult) : Bool := r.decision == .allow

def isStepUpRequired (r : MerchantPolicyEvaluationResult) : Bool :=
  r.decision == .stepUpRequired

end MerchantPolicyEvaluationResult

/-- `SecurityControlOutcome.from_merchant_policy`; the result record has no
    step-up difference to hand on. -/
def SecurityControlOutcome.fromMerchantPolicy (res : MerchantPolicyEvaluationResult) :
    SecurityControlOutcome where
  controlName := "MERCHANT_COMMERCE_POLICY"
  passed := res.isAllowed || res.isStepUpRequired
  decision := res.decision
  rejectionReason := res.rejectionReason
  detail := res.rejectionDetail
  stepUpDiff := none

/-- Outcome of a cart integrity verification. -/
structure CartIntegrityResult where
  valid           : Bool
  authorizedHash  : String
  currentHash     : String
  rejectionReason : Option RejectionReason
  rejectionDetail : Option String
  fieldMismatches : List String
  evaluatedAt     : Instant
deriving DecidableEq

def CartIntegrityResult.toSecurityControlOutcome (r : CartIntegrityResult) :
    SecurityControlOutcome where
  controlName := "CART_INTEGRITY"
  passed := r.valid
  decision := if r.valid then .allow else .reject
  rejectionReason := r.rejectionReason
  detail := r.rejectionDetail
  stepUpDiff := none

/-- Outcome of a replay protection evaluation. -/
structure ReplayEvaluationResult where
  valid           : Bool
  decision        : PolicyDecision
  fingerprint     : String
  mandateId       : String
  transactionId   : String
  rejectionReason : Option RejectionReason
  rejectionDetail : Option String
  evaluatedAt     : Instant
deriving DecidableEq

namespace ReplayEvaluationResult

def isAllowed (r : ReplayEvaluationResult) : Bool := r.valid && r.decision == .allow

def toSecurityControlOutcome (r : ReplayEvaluationResult) : SecurityControlOutcome where
  controlName := "REPLAY_PROTECTION"
  passed := r.valid
  decision := r.decision
  rejectionReason := r.rejectionReason
  detail := r.rejectionDetail
  stepUpDiff := none

end ReplayEvaluationResult

/-- Outcome of a nonce validation. -/
structure NonceEvaluationResult where
  valid           : Bool
  decision        : PolicyDecision
  nonceValue      : String
  mandateId       : String
  transactionId   : String
  record          : Option NonceRecord
  rejectionReason : Option RejectionReason
  rejectionDetail : Option String
  evaluatedAt     : Instant
deriving DecidableEq

namespace NonceEvaluationResult

def isAllowed (r : NonceEvaluationResult) : Bool := r.valid && r.decision == .allow

def toSecurityControlOutcome (r : NonceEvaluationResult) : SecurityControlOutcome where
  controlName := "NONCE_VALIDATION"
  passed := r.valid
  decision := r.decision
  rejectionReason := r.rejectionReason
  detail := r.rejectionDetail
  stepUpDiff := none

end NonceEvaluationResult

structure StepUpEvaluationResult where
  valid           : Bool
  decision        : PolicyDecision
  zone            : StepUpZone
  challengeId     : Option String
  diff            : Option StepUpDiff
  rejectionReason : Option RejectionReason
  rejectionDetail : Option String
  evaluatedAt     : Instant
deriving DecidableEq

namespace StepUpEvaluationResult

def isAllowed (r : StepUpEvaluationResult) : Bool := r.valid && r.decision == .allow

/-- The difference is not handed on. -/
def toSecurityControlOutcome (r : StepUpEvaluationResult) : SecurityControlOutcome where
  controlName := "STEP_UP_AUTHORIZATION"
  passed := r.valid
  decision := r.decision
  rejectionReason := r.rejectionReason
  detail := r.rejectionDetail
  stepUpDiff := none

end StepUpEvaluationResult

end MandateGateway
