import MandateGateway.Authorization.ControlResults
import MandateGateway.Lib.OrderedMap
import MandateGateway.Transaction

/-! # Payment execution records

    What a payment execution is asked, what it hands to the provider, and
    what it reports. -/

namespace MandateGateway

open Clock

/-- Safe internal classification of payment execution failures. -/
inductive ExecutionFailureCategory where
  | authorizationFailed | authenticationError | validationError | rateLimitExceeded
  | timeout | connectionFailed | providerRejected | idempotencyConflict
  | unknownProviderError | invalidContext
deriving DecidableEq, Repr

def ExecutionFailureCategory.value : ExecutionFailureCategory → String
  | .authorizationFailed => "AUTHORIZATION_FAILED"
  | .authenticationError => "AUTHENTICATION_ERROR"
  | .validationError => "VALIDATION_ERROR"
  | .rateLimitExceeded => "RATE_LIMIT_EXCEEDED"
  | .timeout => "TIMEOUT"
  | .connectionFailed => "CONNECTION_FAILED"
  | .providerRejected => "PROVIDER_REJECTED"
  | .idempotencyConflict => "IDEMPOTENCY_CONFLICT"
  | .unknownProviderError => "UNKNOWN_PROVIDER_ERROR"
  | .invalidContext => "INVALID_CONTEXT"

/-- Execution request, constructed by the gateway alone. -/
structure TrustedExecutionRequest where
  transactionId          : String
  merchantId             : String
  buyerId                : String
  mandateId              : String
  amountPaise            : Int
  currency               : Currency
  cartHash               : String
  operation              : McpOperation
  authorizationReference : PyValue
  idempotencyKey         : String

/-- Normalized payment execution outcome. -/
structure ExecutionResult where
  success             : Bool
  transactionId       : String
  state               : TransactionState
  externalReference   : Option String
  failureCode         : Option RejectionReason
  failureCategory     : Option ExecutionFailureCategory
  safeMessage         : String
  idempotentReplay    : Bool
  providerStatus      : Option PaymentResultState
  rawResponseRedacted : Option (OrderedMap String PyValue)
  executedAt          : Instant

/-- The copy of a recorded result that a repeated request gets. -/
def ExecutionResult.replay (r : ExecutionResult) : ExecutionResult :=
  { r with idempotentReplay := true }

structure ExecutionAuditEvidence where
  transactionId          : String
  merchantId             : String
  buyerId                : String
  mandateId              : String
  operation              : String
  amountPaise            : Int
  currency               : String
  authorizationReference : PyValue
  executionResultSuccess : Bool
  externalReference      : Option String
  failureCategory        : Option String
  providerStatus         : Option String
  timestamp              : Instant

/-- Execution proposal of an untrusted caller. -/
structure PaymentExecuteProposalRequest where
  transactionId     : String
  merchantId        : String
  buyerId           : String
  mandateId         : String
  amountPaise       : Int
  currency          : Currency
  cartHash          : String
  operation         : McpOperation
  idempotencyKey    : String
  untrustedMetadata : List (String × PyValue)

/-- The aggregated authorization a payment is executed under. -/
structure AuthorizationResult where
  decision        : PolicyDecision
  controlOutcomes : List SecurityControlOutcome
  rejectionReason : Option RejectionReason
  rejectionDetail : Option String
  decisionTrace   : OrderedMap String PyValue

namespace AuthorizationResult

/-- `{c.control_name: c for c in control_outcomes}`. -/
def outcomesByName (auth : AuthorizationResult) : OrderedMap String SecurityControlOutcome :=
  OrderedMap.ofList SecurityControlOutcome.controlName auth.controlOutcomes

/-- The last outcome that a control reported. -/
def lastOutcome (auth : AuthorizationResult) (name : String) :
    Option SecurityControlOutcome :=
  auth.controlOutcomes.reverse.find? fun c => c.controlName == name

theorem get_outcomesByName (auth : AuthorizationResult) (name : String) :
    auth.outcomesByName.get name = auth.lastOutcome name :=
  OrderedMap.get_ofList ..

end AuthorizationResult

/-- The provider, as it answers during one call: a result, or an exception. -/
structure RazorpayAdapter where
  executePayment     : TrustedExecutionRequest → Except PyError ExecutionResult
  fetchPaymentStatus : String → Except PyError ExecutionResult

/-- The provider's calls return. -/
def RazorpayAdapter.Returns (adapter : RazorpayAdapter) : Prop :=
  (∀ request, ∃ r, adapter.executePayment request = .ok r)
    ∧ ∀ ref, ∃ r, adapter.fetchPaymentStatus ref = .ok r

end MandateGateway
