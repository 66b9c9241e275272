import MandateGateway.Db.AuditRepository
import MandateGateway.Execution.Records

/-! # Recovery of stuck transactions

    `reconcile_transaction` of the recovery service: ask the provider for the
    status of a stored transaction and settle its row, with an audit event and
    an outbox event in the same unit of work. -/

namespace MandateGateway

open Clock Raising

/-- Diagnostic outcome of a single recovery attempt. -/
structure RecoveryRecord where
  transactionId  : String
  previousState  : String
  finalState     : String
  providerStatus : String
  recovered      : Bool
  message        : String
  timestamp      : Instant
deriving DecidableEq, Repr

/-- What one reconciliation meets: the process, the provider, the hash of the
    ledger and the fresh identifier of an audit event. -/
structure RecoveryEnv where
  db      : DbEnv
  adapter : RazorpayAdapter
  sha256  : String → String
  auditId : String

namespace RecoveryEnv

/-- The environment of an append with this identifier. -/
def audit (env : RecoveryEnv) (eventId : String) : AuditEnv := ⟨env.db.now, env.sha256, eventId⟩

end RecoveryEnv

namespace TransactionRecoveryService

open AuditedAction TransactionRepository

def terminalStates : List String := ["COMMITTED", "ROLLED_BACK", "REJECTED"]

/-- `tx.provider_payment_id or transaction_id`. -/
def paymentRef (row : TransactionRow) (transactionId : String) : String :=
  orElseText row.providerPaymentId transactionId

def auditEntry (eventType : AuditEventType) (transactionId : String) (row : TransactionRow) :
    AuditEntry where
  eventType := eventType
  transactionId := some transactionId
  mandateId := some row.mandateId
  merchantId := some row.merchantId
  buyerId := some row.buyerId
  payload := .obj [
    ("provider_reference", .str (paymentRef row transactionId)),
    ("reconciliation", .bool true),
    ("recovered_from", .str row.state)]

def eventPayload (transactionId : String) (row : TransactionRow) : Json :=
  .obj [
    ("amount_paise", .int row.amountPaise),
    ("merchant_id", .str row.merchantId),
    ("reconciled", .bool true),
    ("transaction_id", .str transactionId)]

def notFound (env : RecoveryEnv) (transactionId : String) : RecoveryRecord where
  transactionId := transactionId
  previousState := "UNKNOWN"
  finalState := "UNKNOWN"
  providerStatus := "NOT_FOUND"
  recovered := false
  message := s!"Transaction '{transactionId}' not found in database."
  timestamp := env.db.now

def alreadyTerminal (env : RecoveryEnv) (transactionId : String) (row : TransactionRow) :
    RecoveryRecord where
  transactionId := transactionId
  previousState := row.state
  finalState := row.state
  providerStatus := orElseText row.providerStatus "TERMINAL"
  recovered := true
  message := s!"Transaction '{transactionId}' already in terminal state '{row.state}'."
  timestamp := env.db.now

/-- Record the success, commit, and leave an audit event and an outbox event. -/
def settleSuccess (env : RecoveryEnv) (transactionId : String) (row : TransactionRow) :
    AuditedAction RecoveryRecord := do
  onRows (recordProviderOutcome env.db transactionId "SUCCESS"
    (some (paymentRef row transactionId)))
  onRows (transitionTransactionState env.db transactionId .committed)
  appendEvent (env.audit env.auditId) (auditEntry .paymentSuccess transactionId row)
  onRows (createEvent env.db "PAYMENT_COMMITTED" "TRANSACTION" transactionId
    (eventPayload transactionId row))
  pure {
    transactionId := transactionId
    previousState := row.state
    finalState := TransactionState.committed.value
    providerStatus := "SUCCESS"
    recovered := true
    message := "Status successfully reconciled to COMMITTED."
    timestamp := env.db.now }

/-- Record the failure, roll back, and leave an audit event and an outbox event. -/
def settleFailure (env : RecoveryEnv) (transactionId : String) (row : TransactionRow) :
    AuditedAction RecoveryRecord := do
  onRows (recordProviderOutcome env.db transactionId "FAILED"
    (some (paymentRef row transactionId)))
  -- the outcome has already moved the row to FAILURE
  onRows (transitionTransactionState env.db transactionId .failure)
  onRows (transitionTransactionState env.db transactionId .rolledBack)
  appendEvent (env.audit env.auditId) (auditEntry .paymentFailed transactionId row)
  onRows (createEvent env.db "PAYMENT_ROLLED_BACK" "TRANSACTION" transactionId
    (eventPayload transactionId row))
  pure {
    transactionId := transactionId
    previousState := row.state
    finalState := TransactionState.rolledBack.value
    providerStatus := "FAILED"
    recovered := true
    message := "Status successfully reconciled to ROLLED_BACK."
    timestamp := env.db.now }

/-- The provider does not tell: the row is left alone. -/
def unresolved (env : RecoveryEnv) (transactionId : String) (row : TransactionRow) :
    RecoveryRecord where
  transactionId := transactionId
  previousState := row.state
  finalState := TransactionState.executing.value
  providerStatus := "UNKNOWN"
  recovered := false
  message := "Provider status remains UNKNOWN. Transaction preserved in EXECUTING state."
  timestamp := env.db.now

/-- The part after the provider has answered. -/
def settle (env : RecoveryEnv) (transactionId : String) (row : TransactionRow)
    (status : Option PaymentResultState) : AuditedAction RecoveryRecord :=
  if status = some .success then settleSuccess env transactionId row
  else if status = some .failed ∨ status = some .expired then
    settleFailure env transactionId row
  else pure (unresolved env transactionId row)

def reconcileTransaction (env : RecoveryEnv) (transactionId : String) :
    AuditedAction RecoveryRecord := do
  match ← onRows (getTransaction transactionId) with
  | none => pure (notFound env transactionId)
  | some row =>
      if row.state ∈ terminalStates then pure (alreadyTerminal env transactionId row)
      else do
        let answer ← ofExcept (env.adapter.fetchPaymentStatus (paymentRef row transactionId))
        settle env transactionId row answer.providerStatus

/-! ## What a settlement does to an EXECUTING transaction -/

variable {env : RecoveryEnv} {t : String} {row : TransactionRow} {u : AuditedUnitOfWork}

theorem reconcileTransaction_of_missing (h : u.rows.session.transactions.get t = none) :
    reconcileTransaction env t u = (.ok (notFound env t), u) := by
  rw [reconcileTransaction, bind_of_ok (onRows_getTransaction h)]
  rfl

theorem reconcileTransaction_of_terminal (hrow : u.rows.session.transactions.get t = some row)
    (hterminal : row.state ∈ terminalStates) :
    reconcileTransaction env t u = (.ok (alreadyTerminal env t row), u) := by
  rw [reconcileTransaction, bind_of_ok (onRows_getTransaction hrow)]
  dsimp only
  rw [if_pos hterminal]
  rfl

theorem reconcileTransaction_of_error {err : PyError}
    (hrow : u.rows.session.transactions.get t = some row) (hlive : row.state ∉ terminalStates)
    (hanswer : env.adapter.fetchPaymentStatus (paymentRef row t) = .error err) :
    reconcileTransaction env t u = (.error err, u) := by
  rw [reconcileTransaction, bind_of_ok (onRows_getTransaction hrow)]
  dsimp only
  rw [if_neg hlive, bind_of_error (ofExcept_of_eq hanswer u)]

/-- **The provider's answer about a live transaction settles it.** -/
theorem reconcileTransaction_of_answer {answer : ExecutionResult}
    (hrow : u.rows.session.transactions.get t = some row) (hlive : row.state ∉ terminalStates)
    (hanswer : env.adapter.fetchPaymentStatus (paymentRef row t) = .ok answer) :
    reconcileTransaction env t u = settle env t row answer.providerStatus u := by
  rw [reconcileTransaction, bind_of_ok (onRows_getTransaction hrow)]
  dsimp only
  rw [if_neg hlive, bind_of_ok (ofExcept_of_eq hanswer u)]

end TransactionRecoveryService

end MandateGateway
