import MandateGateway.Execution.AsyncEffects
import MandateGateway.Recovery.Service

/-! # What becomes of each provider outcome

    An EXECUTING transaction is settled by the outcome handling of
    `async_execute_payment` and by the recovery service.  Both record a
    success and commit; both let `record_provider_outcome` move the row to
    FAILURE for a failure and then ask for the same transition again, which is
    illegal. -/

namespace MandateGateway

open Raising ExecutionAttemptRepository TransactionRepository

/-! ## The recovery service on an EXECUTING transaction -/

namespace TransactionRecoveryService

open AuditedAction

variable {env : RecoveryEnv} {t : String} {row : TransactionRow} {u : AuditedUnitOfWork}

/-- The database after a recovered success, less the event. -/
def committedRows (env : RecoveryEnv) (t : String) (row : TransactionRow) (db : Database) :
    Database :=
  moved env.db t .committed
    (moved env.db t .success (outcomeNoted env.db t "SUCCESS" (some (paymentRef row t)) db))

/-- The audit event and the outbox event of a recovered success can be stored. -/
structure EventsFree (env : RecoveryEnv) (t : String) (row : TransactionRow)
    (u : AuditedUnitOfWork) : Prop where
  audit  : u.ledger.Accepts (env.audit env.auditId) (auditEntry .paymentSuccess t row)
  outbox : OutboxFree env.db u.rows.session

def committedRecord (env : RecoveryEnv) (t : String) (row : TransactionRow) : RecoveryRecord where
  transactionId := t
  previousState := row.state
  finalState := TransactionState.committed.value
  providerStatus := "SUCCESS"
  recovered := true
  message := "Status successfully reconciled to COMMITTED."
  timestamp := env.db.now

def committedEvent (env : RecoveryEnv) (t : String) (row : TransactionRow) : OutboxEventRow :=
  outboxEvent env.db "PAYMENT_COMMITTED" "TRANSACTION" t (eventPayload t row)

theorem settleSuccess_of_executing (h : StoredIn t .executing u.rows) :
    settleSuccess env t row u
      = (do
          appendEvent (env.audit env.auditId) (auditEntry .paymentSuccess t row)
          onRows (createEvent env.db "PAYMENT_COMMITTED" "TRANSACTION" t (eventPayload t row))
          pure (committedRecord env t row) : AuditedAction RecoveryRecord)
        (u.withSession (committedRows env t row u.rows.session)) := by
  let paid := moved env.db t .success
    (outcomeNoted env.db t "SUCCESS" (some (paymentRef row t)) u.rows.session)
  have hrecord := onRows_of_session (recordProviderOutcome_success h env.db
    (some (paymentRef row t)))
  have hpaid : StoredIn t .success (u.withSession paid).rows :=
    (h.outcomeNoted env.db "SUCCESS" (some (paymentRef row t))).moved env.db .success
  have hcommit : onRows (transitionTransactionState env.db t .committed) (u.withSession paid)
      = (.ok (), u.withSession (committedRows env t row u.rows.session)) :=
    onRows_of_session (transitionTransactionState_of_legal hpaid rfl (by decide))
  rw [settleSuccess, bind_of_ok hrecord]
  exact bind_of_ok hcommit

/-- **A recovered success is committed, with its two events.** -/
theorem settleSuccess_of_free (h : StoredIn t .executing u.rows) (hfree : EventsFree env t row u) :
    ∃ events ledger, settleSuccess env t row u
        = (.ok (committedRecord env t row),
          { u.withSession
              { committedRows env t row u.rows.session with outboxEvents := events } with
            ledger := ledger })
      ∧ events.rows = u.rows.session.outboxEvents.rows ++ [committedEvent env t row]
      ∧ ledger.rows = u.ledger.rows
        ++ [auditEvent (env.audit env.auditId) (auditEntry .paymentSuccess t row) u.ledger] := by
  let paid := u.withSession (committedRows env t row u.rows.session)
  have houtbox : OutboxFree env.db paid.rows.session := hfree.outbox
  obtain ⟨ledger, happend, hledger⟩ := appendEvent_of_accepts (u := paid) hfree.audit
  obtain ⟨events, hcreate, hevents⟩ := createEvent_of_free houtbox
  refine ⟨events, ledger, ?_, hevents, hledger⟩
  rw [settleSuccess_of_executing h, bind_of_ok happend]
  exact bind_of_ok (onRows_of_ok (u := { paid with ledger := ledger }) hcreate)

/-- **Else it raises, and breaks the session.** -/
theorem settleSuccess_of_taken (h : StoredIn t .executing u.rows)
    (htaken : ¬ EventsFree env t row u) :
    ∃ err, settleSuccess env t row u = (.error err, u.broken) := by
  let paid := u.withSession (committedRows env t row u.rows.session)
  rw [settleSuccess_of_executing h]
  by_cases haudit : u.ledger.Accepts (env.audit env.auditId) (auditEntry .paymentSuccess t row)
  · have houtbox : ¬ OutboxFree env.db paid.rows.session := fun hfree => htaken ⟨haudit, hfree⟩
    obtain ⟨ledger, happend, -⟩ := appendEvent_of_accepts (u := paid) haudit
    refine ⟨.integrityError env.db.constraintText, ?_⟩
    rw [bind_of_ok happend]
    exact bind_of_error (onRows_of_integrityError (u := { paid with ledger := ledger })
      (createEvent_of_taken houtbox))
  · obtain ⟨err, happend⟩ := appendEvent_of_not_accepts (u := paid) haudit
    exact ⟨err, bind_of_error happend⟩

def failedRows (env : RecoveryEnv) (t : String) (row : TransactionRow) (db : Database) : Database :=
  moved env.db t .failure (outcomeNoted env.db t "FAILED" (some (paymentRef row t)) db)

/-- **A recovered failure raises**, and leaves the row in FAILURE. -/
theorem settleFailure_of_executing (h : StoredIn t .executing u.rows) :
    settleFailure env t row u
      = (.error (illegalTransition .failure .failure),
        u.withSession (failedRows env t row u.rows.session)) := by
  let failed := u.withSession (failedRows env t row u.rows.session)
  have hrecord : onRows (recordProviderOutcome env.db t "FAILED" (some (paymentRef row t))) u
      = (.ok (), failed) :=
    onRows_of_session (recordProviderOutcome_failed h env.db _)
  have hfailure : StoredIn t .failure failed.rows :=
    (h.outcomeNoted env.db "FAILED" (some (paymentRef row t))).moved env.db .failure
  have hagain : transitionTransactionState env.db t .failure failed.rows
      = (.error (illegalTransition .failure .failure), failed.rows) :=
    transitionTransactionState_of_illegal hfailure (by decide)
  rw [settleFailure, bind_of_ok hrecord]
  refine bind_of_error (onRows_of_error (u := failed) hagain ?_)
  intro message herr
  cases herr

end TransactionRecoveryService

/-! ## What an outcome should leave behind -/

/-- The outcome of an execution: a reported success, or else the status. -/
def ExecutionResult.outcome (answer : ExecutionResult) : Option PaymentResultState :=
  if answer.success then some .success else answer.providerStatus

def outcomeState : Option PaymentResultState → TransactionState
  | some .success => .committed
  | some .failed | some .expired => .rolledBack
  | some .pending | some .unknown | none => .executing

def outcomeEvents : Option PaymentResultState → List String
  | some .success => ["PAYMENT_COMMITTED"]
  | some .failed | some .expired => ["PAYMENT_ROLLED_BACK"]
  | some .pending | some .unknown | none => []

theorem outcome_of_undecided {status : Option PaymentResultState}
    (hsuccess : status ≠ some .success)
    (hfailed : ¬ (status = some .failed ∨ status = some .expired)) :
    outcomeState status = .executing ∧ outcomeEvents status = [] := by
  cases status with
  | none => exact ⟨rfl, rfl⟩
  | some status =>
      cases status with
      | pending => exact ⟨rfl, rfl⟩
      | unknown => exact ⟨rfl, rfl⟩
      | success => exact absurd rfl hsuccess
      | failed => exact absurd (Or.inl rfl) hfailed
      | expired => exact absurd (Or.inr rfl) hfailed

/-- The row is in the state of the outcome, and the outbox has gained exactly
    the events of the outcome. -/
def Settles (t : String) (outcome : Option PaymentResultState) (before after : UnitOfWork) :
    Prop :=
  StoredIn t (outcomeState outcome) after
    ∧ ∃ events, after.session.outboxEvents.rows = before.session.outboxEvents.rows ++ events
      ∧ events.map OutboxEventRow.eventType = outcomeEvents outcome
      ∧ ∀ e ∈ events, e.aggregateType = "TRANSACTION" ∧ e.aggregateId = t

/-- The outcome handling of `async_execute_payment` returns, and settles. -/
def AsyncHandles (env : AsyncEnv) (q : AsyncRequest) (a : ExecutionAttemptRow)
    (answer : ExecutionResult) (s : AsyncState) : Prop :=
  ∃ r s', AsyncPaymentExecution.invokeProvider env q a s = (.ok r, s')
    ∧ Settles q.transactionId answer.outcome s.uow s'.uow

/-- The reconciliation of the recovery service returns, and settles. -/
def RecoveryHandles (env : RecoveryEnv) (t : String) (answer : ExecutionResult)
    (u : AuditedUnitOfWork) : Prop :=
  ∃ r u', TransactionRecoveryService.reconcileTransaction env t u = (.ok r, u')
    ∧ Settles t answer.providerStatus u.rows u'.rows

/-! ## The outcome handling of an execution -/

section Execution

open AsyncPaymentExecution

variable {env : AsyncEnv} {q : AsyncRequest} {a stored : ExecutionAttemptRow}
  {answer : ExecutionResult} {s : AsyncState}

theorem asyncHandles_of_success (hexecuting : StoredIn q.transactionId .executing s.uow)
    (hattempt : s.uow.session.executionAttempts.get (Text.strip a.attemptId) = some stored)
    (hanswer : env.adapter.executePayment q.trusted = .ok answer)
    (hsuccess : answer.success = true) :
    AsyncHandles env q a answer s ↔ OutboxFree env.db s.uow.session := by
  let paid : UnitOfWork :=
    { s.uow with session := successRecorded env q a answer.externalReference s.uow.session }
  have hrecord : recordAnswer env q a answer s.uow = createEvent env.db "PAYMENT_COMMITTED"
      "TRANSACTION" q.transactionId (q.eventPayload answer.externalReference) paid :=
    recordAnswer_of_success hexecuting hsuccess hattempt
  by_cases hfree : OutboxFree env.db paid.session
  · refine iff_of_true ?_ hfree
    obtain ⟨events, hcreate, hevents⟩ := createEvent_of_free hfree
    refine ⟨_, _, invokeProvider_of_recorded hanswer (hrecord.trans hcreate), ?_⟩
    have hpaid := (hexecuting.outcomeNoted env.db "SUCCESS" answer.externalReference).moved
      env.db .success
    rw [ExecutionResult.outcome, if_pos hsuccess]
    refine ⟨hpaid.moved env.db .committed, _, hevents, rfl, ?_⟩
    intro e he
    rw [List.mem_singleton.mp he]
    exact ⟨rfl, rfl⟩
  · refine iff_of_false ?_ hfree
    rintro ⟨r, s', hrun, -⟩
    rw [invokeProvider_of_not_recorded hanswer
      (hrecord.trans (createEvent_of_taken hfree))] at hrun
    cases (Prod.mk.inj hrun).1

theorem asyncHandles_of_unknown (hexecuting : StoredIn q.transactionId .executing s.uow)
    (hattempt : s.uow.session.executionAttempts.get (Text.strip a.attemptId) = some stored)
    (hanswer : env.adapter.executePayment q.trusted = .ok answer)
    (hfailed : answer.success = false) (hunknown : answer.providerStatus = some .unknown) :
    AsyncHandles env q a answer s := by
  have hnot : ¬ answer.success = true := by
    rw [hfailed]
    exact Bool.false_ne_true
  have hrecord : recordAnswer env q a answer s.uow = _ :=
    recordAnswer_of_unknown hexecuting hfailed hunknown hattempt
  refine ⟨_, _, invokeProvider_of_recorded hanswer hrecord, ?_⟩
  rw [ExecutionResult.outcome, if_neg hnot, hunknown]
  refine ⟨hexecuting.outcomeNoted env.db "UNKNOWN" answer.externalReference, [], ?_, rfl, ?_⟩
  · exact (List.append_nil _).symm
  · intro e he
    cases he

theorem not_asyncHandles_of_failed (hexecuting : StoredIn q.transactionId .executing s.uow)
    (hanswer : env.adapter.executePayment q.trusted = .ok answer)
    (hfailed : answer.success = false) (hknown : answer.providerStatus ≠ some .unknown) :
    ¬ AsyncHandles env q a answer s := by
  rintro ⟨r, s', hrun, -⟩
  have hrecord : recordAnswer env q a answer s.uow = _ :=
    recordAnswer_of_failed hexecuting hfailed hknown
  rw [invokeProvider_of_not_recorded hanswer hrecord] at hrun
  cases (Prod.mk.inj hrun).1

/-- **The outcome handling settles exactly the outcomes it can record.** -/
theorem asyncHandles_iff (hexecuting : StoredIn q.transactionId .executing s.uow)
    (hattempt : s.uow.session.executionAttempts.get (Text.strip a.attemptId) = some stored)
    (hanswer : env.adapter.executePayment q.trusted = .ok answer) :
    AsyncHandles env q a answer s
      ↔ answer.success = true ∧ OutboxFree env.db s.uow.session
        ∨ answer.success = false ∧ answer.providerStatus = some .unknown := by
  by_cases hsuccess : answer.success = true
  · rw [asyncHandles_of_success hexecuting hattempt hanswer hsuccess]
    constructor
    · intro hfree
      exact Or.inl ⟨hsuccess, hfree⟩
    · rintro (⟨-, hfree⟩ | ⟨hfailed, -⟩)
      · exact hfree
      · rw [hsuccess] at hfailed
        cases hfailed
  rw [Bool.not_eq_true] at hsuccess
  by_cases hunknown : answer.providerStatus = some .unknown
  · exact iff_of_true (asyncHandles_of_unknown hexecuting hattempt hanswer hsuccess hunknown)
      (Or.inr ⟨hsuccess, hunknown⟩)
  · refine iff_of_false (not_asyncHandles_of_failed hexecuting hanswer hsuccess hunknown) ?_
    rintro (⟨htrue, -⟩ | ⟨-, hstatus⟩)
    · rw [hsuccess] at htrue
      cases htrue
    · exact hunknown hstatus

end Execution

/-! ## The reconciliation of the recovery service -/

section Recovery

open TransactionRecoveryService

variable {env : RecoveryEnv} {t : String} {row : TransactionRow} {u : AuditedUnitOfWork}
  {answer : ExecutionResult}

theorem recoveryHandles_of_success (hexecuting : StoredIn t .executing u.rows)
    (hrun : reconcileTransaction env t u = settle env t row answer.providerStatus u)
    (hsuccess : answer.providerStatus = some .success) :
    RecoveryHandles env t answer u ↔ EventsFree env t row u := by
  rw [RecoveryHandles, hrun, hsuccess, settle, if_pos rfl]
  by_cases hfree : EventsFree env t row u
  · refine iff_of_true ?_ hfree
    obtain ⟨events, ledger, hsettle, hevents, -⟩ := settleSuccess_of_free hexecuting hfree
    refine ⟨_, _, hsettle, ?_⟩
    have hpaid := (hexecuting.outcomeNoted env.db "SUCCESS" (some (paymentRef row t))).moved
      env.db .success
    refine ⟨hpaid.moved env.db .committed, _, hevents, rfl, ?_⟩
    intro e he
    rw [List.mem_singleton.mp he]
    exact ⟨rfl, rfl⟩
  · refine iff_of_false ?_ hfree
    rintro ⟨r, u', hsettle, -⟩
    obtain ⟨err, hraises⟩ := settleSuccess_of_taken hexecuting hfree
    rw [hraises] at hsettle
    cases (Prod.mk.inj hsettle).1

theorem not_recoveryHandles_of_failed (hexecuting : StoredIn t .executing u.rows)
    (hrun : reconcileTransaction env t u = settle env t row answer.providerStatus u)
    (hfailed : answer.providerStatus = some .failed ∨ answer.providerStatus = some .expired) :
    ¬ RecoveryHandles env t answer u := by
  have hnot : ¬ answer.providerStatus = some .success := by
    intro hsuccess
    rw [hsuccess] at hfailed
    rcases hfailed with h | h
    · cases h
    · cases h
  rintro ⟨r, u', hsettle, -⟩
  rw [hrun, settle, if_neg hnot, if_pos hfailed, settleFailure_of_executing hexecuting] at hsettle
  cases (Prod.mk.inj hsettle).1

theorem recoveryHandles_of_unresolved (hexecuting : StoredIn t .executing u.rows)
    (hrun : reconcileTransaction env t u = settle env t row answer.providerStatus u)
    (hsuccess : answer.providerStatus ≠ some .success)
    (hfailed : ¬ (answer.providerStatus = some .failed ∨ answer.providerStatus = some .expired)) :
    RecoveryHandles env t answer u := by
  rw [RecoveryHandles, hrun, settle, if_neg hsuccess, if_neg hfailed]
  refine ⟨_, _, rfl, ?_⟩
  obtain ⟨hstays, hnone⟩ := outcome_of_undecided hsuccess hfailed
  rw [Settles, hstays, hnone]
  refine ⟨hexecuting, [], (List.append_nil _).symm, rfl, ?_⟩
  intro e he
  cases he

/-- **The recovery service settles exactly the outcomes that are no failure**,
    if the events of a success can be stored. -/
theorem recoveryHandles_iff (hrow : u.rows.session.transactions.get t = some row)
    (hstate : row.state = "EXECUTING")
    (hanswer : env.adapter.fetchPaymentStatus (paymentRef row t) = .ok answer) :
    RecoveryHandles env t answer u
      ↔ (answer.providerStatus = some .success → EventsFree env t row u)
        ∧ answer.providerStatus ≠ some .failed ∧ answer.providerStatus ≠ some .expired := by
  have hexecuting : StoredIn t .executing u.rows := ⟨row, hrow, hstate⟩
  have hlive : row.state ∉ terminalStates := by
    rw [hstate]
    decide
  have hrun := reconcileTransaction_of_answer hrow hlive hanswer
  by_cases hsuccess : answer.providerStatus = some .success
  · rw [recoveryHandles_of_success hexecuting hrun hsuccess]
    constructor
    · intro hfree
      refine ⟨fun _ => hfree, ?_, ?_⟩
      · rw [hsuccess]
        decide
      · rw [hsuccess]
        decide
    · intro h
      exact h.1 hsuccess
  by_cases hfailed : answer.providerStatus = some .failed ∨ answer.providerStatus = some .expired
  · refine iff_of_false (not_recoveryHandles_of_failed hexecuting hrun hfailed) ?_
    rintro ⟨-, hnotFailed, hnotExpired⟩
    exact hfailed.elim hnotFailed hnotExpired
  · exact iff_of_true (recoveryHandles_of_unresolved hexecuting hrun hsuccess hfailed)
      ⟨fun h => absurd h hsuccess, fun h => hfailed (Or.inl h), fun h => hfailed (Or.inr h)⟩

end Recovery

/-! ## Both -/

/-- **When each of the two settles an EXECUTING transaction as its outcome
    asks**, without raising and with exactly the outcome's outbox events. -/
theorem outcomes_handled_iff (env : AsyncEnv) (q : AsyncRequest) (a stored : ExecutionAttemptRow)
    (answer : ExecutionResult) (s : AsyncState)
    (hexecuting : StoredIn q.transactionId .executing s.uow)
    (hattempt : s.uow.session.executionAttempts.get (Text.strip a.attemptId) = some stored)
    (hanswer : env.adapter.executePayment q.trusted = .ok answer)
    (renv : RecoveryEnv) (t : String) (row : TransactionRow) (status : ExecutionResult)
    (u : AuditedUnitOfWork) (hrow : u.rows.session.transactions.get t = some row)
    (hstate : row.state = "EXECUTING")
    (hstatus : renv.adapter.fetchPaymentStatus (TransactionRecoveryService.paymentRef row t)
      = .ok status) :
    (AsyncHandles env q a answer s
        ↔ answer.success = true ∧ OutboxFree env.db s.uow.session
          ∨ answer.success = false ∧ answer.providerStatus = some .unknown)
      ∧ (RecoveryHandles renv t status u
        ↔ (status.providerStatus = some .success →
            TransactionRecoveryService.EventsFree renv t row u)
          ∧ status.providerStatus ≠ some .failed ∧ status.providerStatus ≠ some .expired) :=
  ⟨asyncHandles_iff hexecuting hattempt hanswer, recoveryHandles_iff hrow hstate hstatus⟩

/-! ## A captured and a failed payment -/

namespace Sample

open AsyncPaymentExecution.Sample

def executingRow : TransactionRow :=
  { authorizedRow with state := "EXECUTING", providerStatus := some "DISPATCHED" }

def executing : Database where
  transactions := Table.singleton executingRow
  executionAttempts := Table.singleton claimedAttempt
  outboxEvents := Table.empty

def awaiting : AsyncState := ⟨PaymentExecutionService.new, ⟨executing, executing⟩, []⟩

def stuck : AuditedUnitOfWork :=
  ⟨⟨executing, executing⟩, AuditLedger.empty, AuditLedger.empty, true⟩

def asyncAnswered (success : Bool) (status : PaymentResultState) : AsyncEnv :=
  { asyncEnv with adapter := answering success status }

def recoveryAnswered (status : PaymentResultState) : RecoveryEnv :=
  ⟨asyncEnv.db, answering false status, fun _ => payloadFingerprint, "audit-1"⟩

def answerOf (success : Bool) (status : PaymentResultState) : ExecutionResult where
  success := success
  transactionId := "tx-1"
  state := .executing
  externalReference := some "order-1"
  failureCode := none
  failureCategory := none
  safeMessage := "answered"
  idempotentReplay := false
  providerStatus := some status
  rawResponseRedacted := none
  executedAt := 1709210097000000

theorem awaiting_executing : StoredIn request.transactionId .executing awaiting.uow :=
  ⟨executingRow, rfl, rfl⟩

end Sample

theorem outcomes_handled_iff_captured :
    (AsyncHandles (Sample.asyncAnswered true .success) AsyncPaymentExecution.Sample.request
          AsyncPaymentExecution.Sample.claimedAttempt (Sample.answerOf true .success)
          Sample.awaiting
        ↔ (Sample.answerOf true .success).success = true
            ∧ OutboxFree (Sample.asyncAnswered true .success).db Sample.awaiting.uow.session
          ∨ (Sample.answerOf true .success).success = false
            ∧ (Sample.answerOf true .success).providerStatus = some .unknown)
      ∧ (RecoveryHandles (Sample.recoveryAnswered .success) "tx-1"
            (Sample.answerOf false .success) Sample.stuck
        ↔ ((Sample.answerOf false .success).providerStatus = some .success →
            TransactionRecoveryService.EventsFree (Sample.recoveryAnswered .success) "tx-1"
              Sample.executingRow Sample.stuck)
          ∧ (Sample.answerOf false .success).providerStatus ≠ some .failed
          ∧ (Sample.answerOf false .success).providerStatus ≠ some .expired) :=
  outcomes_handled_iff (Sample.asyncAnswered true .success) AsyncPaymentExecution.Sample.request
    AsyncPaymentExecution.Sample.claimedAttempt AsyncPaymentExecution.Sample.claimedAttempt
    (Sample.answerOf true .success) Sample.awaiting Sample.awaiting_executing (by decide +kernel)
    rfl (Sample.recoveryAnswered .success) "tx-1" Sample.executingRow
    (Sample.answerOf false .success) Sample.stuck rfl rfl rfl

/-- A FAILED outcome makes both raise, and leaves the row FAILURE in the session
    of the recovery service. -/
theorem failed_outcome_raises :
    (∃ err s', AsyncPaymentExecution.invokeProvider (Sample.asyncAnswered false .failed)
        AsyncPaymentExecution.Sample.request AsyncPaymentExecution.Sample.claimedAttempt
        Sample.awaiting = (.error err, s'))
      ∧ ∃ err u', TransactionRecoveryService.reconcileTransaction
          (Sample.recoveryAnswered .failed) "tx-1" Sample.stuck = (.error err, u')
        ∧ StoredIn "tx-1" .failure u'.rows :=
  ⟨⟨_, _, rfl⟩, _, _, rfl, ⟨_, rfl, rfl⟩⟩

end MandateGateway
