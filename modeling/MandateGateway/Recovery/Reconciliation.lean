import MandateGateway.Db.AuditRepository
import MandateGateway.Recovery.Service

/-! # Provider status reconciliation

    `async_reconcile_transaction` of the reconciliation service: ask the
    provider for the status of a transaction whose outcome is uncertain, and
    move its row straight to the final state, with an audit event. -/

namespace MandateGateway

open Raising

namespace ReconciliationService

open AuditedAction TransactionRepository

def prefixText (n : Nat) (s : String) : String := String.ofList (s.toList.take n)

def notFound (env : RecoveryEnv) (transactionId : String) : ExecutionResult where
  success := false
  transactionId := transactionId
  state := .rejected
  externalReference := none
  failureCode := some .invalidTransactionState
  failureCategory := some .invalidContext
  safeMessage := s!"Transaction '{transactionId}' not found."
  idempotentReplay := false
  providerStatus := none
  rawResponseRedacted := none
  executedAt := env.db.now

/-- The answer for a transaction that is already paid. -/
def previouslyCommitted (env : RecoveryEnv) (transactionId : String) (row : TransactionRow) :
    ExecutionResult where
  success := true
  transactionId := transactionId
  state := .committed
  externalReference :=
    some (orElseText row.providerPaymentId s!"pay_{prefixText 8 transactionId}")
  failureCode := none
  failureCategory := none
  safeMessage := "Transaction previously committed successfully."
  idempotentReplay := true
  providerStatus := some .success
  rawResponseRedacted := none
  executedAt := env.db.now

/-- The answer for a transaction that has already failed. -/
def previouslyFailed (env : RecoveryEnv) (transactionId : String) (row : TransactionRow)
    (current : TransactionState) : ExecutionResult where
  success := false
  transactionId := transactionId
  state := current
  externalReference := row.providerPaymentId
  failureCode := some .methodNotAuthorized
  failureCategory := some .providerRejected
  safeMessage := "Transaction previously failed or rolled back."
  idempotentReplay := true
  providerStatus := some .failed
  rawResponseRedacted := none
  executedAt := env.db.now

/-- The identifier of the audit event of a reconciliation. -/
def auditId (transactionId : String) : String := s!"evt_rec_{prefixText 12 transactionId}"

def auditEntry (eventType : AuditEventType) (transactionId : String) (row : TransactionRow)
    (status : PaymentResultState) : AuditEntry where
  eventType := eventType
  transactionId := some transactionId
  mandateId := some row.mandateId
  merchantId := some row.merchantId
  buyerId := some row.buyerId
  payload := .obj [
    ("provider_reference",
      .str (TransactionRecoveryService.paymentRef row transactionId)),
    ("reconciled_status", .str status.value)]

/-- Move the row to its final state and append the audit event. -/
def settle (env : RecoveryEnv) (transactionId : String) (row : TransactionRow)
    (target : TransactionState) (eventType : AuditEventType) (status : PaymentResultState)
    (result : ExecutionResult) : AuditedAction ExecutionResult := do
  onRows (transitionTransactionState env.db transactionId target)
  appendEvent (env.audit (auditId transactionId)) (auditEntry eventType transactionId row status)
  pure result

def confirmedSuccess (env : RecoveryEnv) (transactionId ref : String) : ExecutionResult where
  success := true
  transactionId := transactionId
  state := .committed
  externalReference := some ref
  failureCode := none
  failureCategory := none
  safeMessage := "Reconciliation confirmed payment success."
  idempotentReplay := false
  providerStatus := some .success
  rawResponseRedacted := none
  executedAt := env.db.now

def confirmedFailure (env : RecoveryEnv) (transactionId ref : String) : ExecutionResult where
  success := false
  transactionId := transactionId
  state := .rolledBack
  externalReference := some ref
  failureCode := some .methodNotAuthorized
  failureCategory := some .providerRejected
  safeMessage := "Reconciliation confirmed payment failure."
  idempotentReplay := false
  providerStatus := some .failed
  rawResponseRedacted := none
  executedAt := env.db.now

def stillUnknown (env : RecoveryEnv) (transactionId ref : String) (current : TransactionState) :
    ExecutionResult where
  success := false
  transactionId := transactionId
  state := current
  externalReference := some ref
  failureCode := some .authorizationExpired
  failureCategory := some .timeout
  safeMessage := "Provider status reconciliation returned UNKNOWN. Transaction remains pending."
  idempotentReplay := false
  providerStatus := some .unknown
  rawResponseRedacted := none
  executedAt := env.db.now

/-- The part after the provider has answered. -/
def applyStatus (env : RecoveryEnv) (transactionId : String) (row : TransactionRow)
    (current : TransactionState) (status : Option PaymentResultState) :
    AuditedAction ExecutionResult :=
  let ref := TransactionRecoveryService.paymentRef row transactionId
  if status = some .success then
    settle env transactionId row .committed .paymentSuccess .success
      (confirmedSuccess env transactionId ref)
  else if status = some .failed then
    settle env transactionId row .rolledBack .paymentFailed .failed
      (confirmedFailure env transactionId ref)
  else
    -- an expired payment is one of these
    pure (stillUnknown env transactionId ref current)

/-- The part after the row is found, under its trimmed identifier. -/
def reconcileRow (env : RecoveryEnv) (transactionId : String) (row : TransactionRow) :
    AuditedAction ExecutionResult := do
  let current ← ofExcept (parseState row.state)
  if current = .committed ∨ current = .success then
    pure (previouslyCommitted env transactionId row)
  else if current = .rolledBack ∨ current = .failure ∨ current = .rejected then
    pure (previouslyFailed env transactionId row current)
  else do
    let answer ← ofExcept (env.adapter.fetchPaymentStatus
      (TransactionRecoveryService.paymentRef row transactionId))
    applyStatus env transactionId row current answer.providerStatus

def asyncReconcileTransaction (env : RecoveryEnv) (transactionId : String) :
    AuditedAction ExecutionResult := do
  let clean := Text.strip transactionId
  match ← onRows (getTransaction clean) with
  | none => pure (notFound env clean)
  | some row => reconcileRow env clean row

/-! ## What becomes of an EXECUTING transaction -/

variable {env : RecoveryEnv} {t : String} {row : TransactionRow} {u : AuditedUnitOfWork}

/-- **The provider's answer about an EXECUTING transaction is applied.** -/
theorem asyncReconcileTransaction_of_executing {answer : ExecutionResult}
    (htrimmed : Text.strip t = t) (hrow : u.rows.session.transactions.get t = some row)
    (hstate : row.state = "EXECUTING")
    (hanswer : env.adapter.fetchPaymentStatus (TransactionRecoveryService.paymentRef row t)
      = .ok answer) :
    asyncReconcileTransaction env t u
      = applyStatus env t row .executing answer.providerStatus u := by
  have hparse : parseState row.state = .ok .executing := by
    rw [hstate]
    rfl
  have hpaid : ¬ (TransactionState.executing = .committed
      ∨ TransactionState.executing = .success) := by decide
  have hfailed : ¬ (TransactionState.executing = .rolledBack
      ∨ TransactionState.executing = .failure ∨ TransactionState.executing = .rejected) := by
    decide
  rw [asyncReconcileTransaction, htrimmed, bind_of_ok (onRows_getTransaction hrow)]
  dsimp only
  rw [reconcileRow, bind_of_ok (ofExcept_of_eq hparse u), if_neg hpaid, if_neg hfailed,
    bind_of_ok (ofExcept_of_eq hanswer u)]

/-- **A settlement moves the row when its audit event can be stored**, and else
    raises and breaks the session. -/
theorem settle_of_accepts {target : TransactionState} {eventType : AuditEventType}
    {status : PaymentResultState} {result : ExecutionResult}
    (h : StoredIn t .executing u.rows)
    (hlegal : target ∈ TransactionState.executing.legalNextStates)
    (haccepts : u.ledger.Accepts (env.audit (auditId t)) (auditEntry eventType t row status)) :
    ∃ ledger, settle env t row target eventType status result u
        = (.ok result, { u.withSession (moved env.db t target u.rows.session) with
            ledger := ledger })
      ∧ ledger.rows = u.ledger.rows
        ++ [auditEvent (env.audit (auditId t)) (auditEntry eventType t row status) u.ledger] := by
  have hmove : onRows (transitionTransactionState env.db t target) u
      = (.ok (), u.withSession (moved env.db t target u.rows.session)) :=
    onRows_of_session (transitionTransactionState_of_legal h rfl hlegal)
  obtain ⟨ledger, happend, hrows⟩ := appendEvent_of_accepts
    (u := u.withSession (moved env.db t target u.rows.session)) haccepts
  refine ⟨ledger, ?_, hrows⟩
  rw [settle, bind_of_ok hmove, bind_of_ok happend]
  rfl

theorem settle_of_not_accepts {target : TransactionState} {eventType : AuditEventType}
    {status : PaymentResultState} {result : ExecutionResult}
    (h : StoredIn t .executing u.rows)
    (hlegal : target ∈ TransactionState.executing.legalNextStates)
    (htaken : ¬ u.ledger.Accepts (env.audit (auditId t)) (auditEntry eventType t row status)) :
    ∃ err, settle env t row target eventType status result u = (.error err, u.broken) := by
  have hmove : onRows (transitionTransactionState env.db t target) u
      = (.ok (), u.withSession (moved env.db t target u.rows.session)) :=
    onRows_of_session (transitionTransactionState_of_legal h rfl hlegal)
  obtain ⟨err, happend⟩ := appendEvent_of_not_accepts
    (u := u.withSession (moved env.db t target u.rows.session)) htaken
  refine ⟨err, ?_⟩
  rw [settle, bind_of_ok hmove, bind_of_error happend]
  rfl

/-! ## What it leaves alone -/

variable {t' : String}

theorem spares_settle (hne : t' ≠ t) (target : TransactionState) (eventType : AuditEventType)
    (status : PaymentResultState) (result : ExecutionResult) :
    Spares (fun db => db.transactions.get t')
      (settle env t row target eventType status result) :=
  Spares.bind (spares_transition hne target) fun _ =>
    Spares.bind Spares.appendEvent fun _ => Spares.pure _

/-- **Only the row under the trimmed identifier is touched.** -/
theorem spares_asyncReconcileTransaction (env : RecoveryEnv) (hne : t' ≠ Text.strip t) :
    Spares (fun db => db.transactions.get t') (asyncReconcileTransaction env t) := by
  refine Spares.bind spares_getTransaction fun found => ?_
  cases found with
  | none => exact Spares.pure _
  | some row =>
      refine Spares.bind (Spares.ofExcept _) fun current => ?_
      by_cases hpaid : current = .committed ∨ current = .success
      · rw [if_pos hpaid]
        exact Spares.pure _
      rw [if_neg hpaid]
      by_cases hfailed : current = .rolledBack ∨ current = .failure ∨ current = .rejected
      · rw [if_pos hfailed]
        exact Spares.pure _
      rw [if_neg hfailed]
      refine Spares.bind (Spares.ofExcept _) fun answer => ?_
      rw [applyStatus]
      by_cases hsuccess : answer.providerStatus = some .success
      · rw [if_pos hsuccess]
        exact spares_settle hne _ _ _ _
      rw [if_neg hsuccess]
      by_cases hstatus : answer.providerStatus = some .failed
      · rw [if_pos hstatus]
        exact spares_settle hne _ _ _ _
      · rw [if_neg hstatus]
        exact Spares.pure _

end ReconciliationService

end MandateGateway
