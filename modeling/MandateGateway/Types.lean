import Mathlib.Data.List.Basic

/-! # Domain enumerations

    The closed vocabularies of the gateway, each with the text the program
    stores and prints for its members, and the transaction state machine. -/

namespace MandateGateway

/-- Supported transaction currencies. -/
inductive Currency where
  | inr | usd
deriving DecidableEq, Repr

def Currency.value : Currency → String
  | .inr => "INR"
  | .usd => "USD"

/-- Allowed transaction regions. -/
inductive Region where
  | inRegion | us
deriving DecidableEq, Repr

def Region.value : Region → String
  | .inRegion => "IN"
  | .us => "US"

/-- Buyer mandate lifecycle states. -/
inductive MandateStatus where
  | draft | active | suspended | revoked | expired
deriving DecidableEq, Repr

def MandateStatus.value : MandateStatus → String
  | .draft => "DRAFT"
  | .active => "ACTIVE"
  | .suspended => "SUSPENDED"
  | .revoked => "REVOKED"
  | .expired => "EXPIRED"

/-! ## Transaction state machine -/

inductive TransactionState where
  | draft | proposed | validating | rejected | stepUpRequired | userApproved
  | reserved | authorized | executing | success | failure | committed
  | rolledBack | completed | receipt | expired | consumed
deriving DecidableEq, Repr

namespace TransactionState

def value : TransactionState → String
  | .draft => "DRAFT"
  | .proposed => "PROPOSED"
  | .validating => "VALIDATING"
  | .rejected => "REJECTED"
  | .stepUpRequired => "STEP_UP_REQUIRED"
  | .userApproved => "USER_APPROVED"
  | .reserved => "RESERVED"
  | .authorized => "AUTHORIZED"
  | .executing => "EXECUTING"
  | .success => "SUCCESS"
  | .failure => "FAILURE"
  | .committed => "COMMITTED"
  | .rolledBack => "ROLLED_BACK"
  | .completed => "COMPLETED"
  | .receipt => "RECEIPT"
  | .expired => "EXPIRED"
  | .consumed => "CONSUMED"

def all : List TransactionState :=
  [.draft, .proposed, .validating, .rejected, .stepUpRequired, .userApproved, .reserved,
    .authorized, .executing, .success, .failure, .committed, .rolledBack, .completed, .receipt,
    .expired, .consumed]

/-- `TransactionState(text)`. -/
def ofValue (text : String) : Option TransactionState := all.find? fun s => s.value == text

theorem ofValue_value (s : TransactionState) : ofValue s.value = some s := by
  cases s <;> decide

theorem ofValue_eq_some_iff {text : String} {s : TransactionState} :
    ofValue text = some s ↔ text = s.value := by
  constructor
  · intro h
    rw [ofValue] at h
    exact (beq_iff_eq.mp (by simpa using List.find?_some h)).symm
  · rintro rfl
    exact ofValue_value s

/-- `_TRANSACTION_LEGAL_TRANSITIONS`; successors in the order of their names. -/
def legalNextStates : TransactionState → List TransactionState
  | .draft => [.proposed]
  | .proposed => [.validating]
  | .validating => [.rejected, .reserved, .stepUpRequired]
  | .stepUpRequired => [.userApproved]
  | .userApproved => [.reserved]
  | .reserved => [.authorized]
  | .authorized => [.executing]
  | .executing => [.committed, .failure, .rolledBack, .success]
  | .success => [.committed]
  | .failure => [.rolledBack]
  | .committed => [.completed]
  | .rolledBack => [.completed]
  | .completed => [.receipt]
  | .rejected | .receipt | .expired | .consumed => []

def canTransitionTo (s target : TransactionState) : Bool :=
  s.legalNextStates.contains target

/-- `is_terminal`: settled payments (`committed`, `rolledBack`) are not in it. -/
def isTerminal (s : TransactionState) : Bool :=
  [rejected, completed, expired, receipt].contains s

def canExecute (s : TransactionState) : Bool := s == .authorized

end TransactionState

inductive PolicyDecision where
  | allow | stepUpRequired | reject
deriving DecidableEq, Repr

def PolicyDecision.value : PolicyDecision → String
  | .allow => "ALLOW"
  | .stepUpRequired => "STEP_UP_REQUIRED"
  | .reject => "REJECT"

inductive StepUpZone where
  | autoExecute | stepUpRequired | hardReject
deriving DecidableEq, Repr

/-- Budget reservation lifecycle. -/
inductive BudgetState where
  | available | reserved | committed | spent | expired | released
deriving DecidableEq, Repr

def BudgetState.value : BudgetState → String
  | .available => "AVAILABLE"
  | .reserved => "RESERVED"
  | .committed => "COMMITTED"
  | .spent => "SPENT"
  | .expired => "EXPIRED"
  | .released => "RELEASED"

/-- Nonce lifecycle. -/
inductive NonceState where
  | issued | consumed
deriving DecidableEq, Repr

/-- Known provider operations. -/
inductive McpOperation where
  | createOrder | createPaymentLink | fetchPayment | payout | settlement | bankTransfer
deriving DecidableEq, Repr

namespace McpOperation

def value : McpOperation → String
  | .createOrder => "create_order"
  | .createPaymentLink => "create_payment_link"
  | .fetchPayment => "fetch_payment"
  | .payout => "payout"
  | .settlement => "settlement"
  | .bankTransfer => "bank_transfer"

def all : List McpOperation :=
  [.createOrder, .createPaymentLink, .fetchPayment, .payout, .settlement, .bankTransfer]

/-- `McpOperation(text)`. -/
def ofValue (text : String) : Option McpOperation := all.find? fun op => op.value == text

def isBlockedByDefault (op : McpOperation) : Bool :=
  [payout, settlement, bankTransfer].contains op

end McpOperation

/-- `Currency(text)`. -/
def Currency.ofValue (text : String) : Option Currency :=
  [Currency.inr, Currency.usd].find? fun c => c.value == text

inductive PaymentResultState where
  | pending | success | failed | expired | unknown
deriving DecidableEq, Repr

def PaymentResultState.value : PaymentResultState → String
  | .pending => "PENDING"
  | .success => "SUCCESS"
  | .failed => "FAILED"
  | .expired => "EXPIRED"
  | .unknown => "UNKNOWN"

/-- Structured rejection reason codes. -/
inductive RejectionReason where
  | mandateExpired | mandateRevoked | mandateNotActive | mandateNotInScope
  | merchantNotInScope | categoryNotInScope | amountExceedsMandate | currencyMismatch
  | autonomousExecutionDisabled | mandateTtlExpired | aiCommerceDisabled
  | merchantCategoryNotAllowed | merchantAmountLimitExceeded | operationNotAllowed
  | regionNotAllowed | merchantCurrencyNotSupported | policyVersionInvalid
  | merchantPolicyExpired | merchantMismatch | cartIntegrityViolation | cartTotalMismatch
  | cartCurrencyMismatch | productUnavailable | nonceAlreadyConsumed
  | authorizationExpired | nonceInvalid | invalidTransactionState | toolOutsideMandate
  | methodNotAuthorized | controlResultMissing | replayAttemptDetected
  | budgetInsufficient | dailyLimitExceeded | budgetExceeded | budgetCurrencyMismatch
  | invalidAmount | exceedsStepUpHardLimit | stepUpConfirmationInvalid
  | stepUpConfirmationExpired
deriving DecidableEq, Repr

def RejectionReason.value : RejectionReason → String
  | .mandateExpired => "MANDATE_EXPIRED"
  | .mandateRevoked => "MANDATE_REVOKED"
  | .mandateNotActive => "MANDATE_NOT_ACTIVE"
  | .mandateNotInScope => "MANDATE_NOT_IN_SCOPE"
  | .merchantNotInScope => "MERCHANT_NOT_IN_SCOPE"
  | .categoryNotInScope => "CATEGORY_NOT_IN_SCOPE"
  | .amountExceedsMandate => "AMOUNT_EXCEEDS_MANDATE"
  | .currencyMismatch => "CURRENCY_MISMATCH"
  | .autonomousExecutionDisabled => "AUTONOMOUS_EXECUTION_DISABLED"
  | .mandateTtlExpired => "MANDATE_TTL_EXPIRED"
  | .aiCommerceDisabled => "AI_COMMERCE_DISABLED"
  | .merchantCategoryNotAllowed => "MERCHANT_CATEGORY_NOT_ALLOWED"
  | .merchantAmountLimitExceeded => "MERCHANT_AMOUNT_LIMIT_EXCEEDED"
  | .operationNotAllowed => "OPERATION_NOT_ALLOWED"
  | .regionNotAllowed => "REGION_NOT_ALLOWED"
  | .merchantCurrencyNotSupported => "MERCHANT_CURRENCY_NOT_SUPPORTED"
  | .policyVersionInvalid => "POLICY_VERSION_INVALID"
  | .merchantPolicyExpired => "MERCHANT_POLICY_EXPIRED"
  | .merchantMismatch => "MERCHANT_MISMATCH"
  | .cartIntegrityViolation => "CART_INTEGRITY_VIOLATION"
  | .cartTotalMismatch => "CART_TOTAL_MISMATCH"
  | .cartCurrencyMismatch => "CART_CURRENCY_MISMATCH"
  | .productUnavailable => "PRODUCT_UNAVAILABLE"
  | .nonceAlreadyConsumed => "NONCE_ALREADY_CONSUMED"
  | .authorizationExpired => "AUTHORIZATION_EXPIRED"
  | .nonceInvalid => "NONCE_INVALID"
  | .invalidTransactionState => "INVALID_TRANSACTION_STATE"
  | .toolOutsideMandate => "TOOL_OUTSIDE_MANDATE"
  | .methodNotAuthorized => "METHOD_NOT_AUTHORIZED"
  | .controlResultMissing => "CONTROL_RESULT_MISSING"
  | .replayAttemptDetected => "REPLAY_ATTEMPT_DETECTED"
  | .budgetInsufficient => "BUDGET_INSUFFICIENT"
  | .dailyLimitExceeded => "DAILY_LIMIT_EXCEEDED"
  | .budgetExceeded => "BUDGET_EXCEEDED"
  | .budgetCurrencyMismatch => "BUDGET_CURRENCY_MISMATCH"
  | .invalidAmount => "INVALID_AMOUNT"
  | .exceedsStepUpHardLimit => "EXCEEDS_STEP_UP_HARD_LIMIT"
  | .stepUpConfirmationInvalid => "STEP_UP_CONFIRMATION_INVALID"
  | .stepUpConfirmationExpired => "STEP_UP_CONFIRMATION_EXPIRED"

end MandateGateway
