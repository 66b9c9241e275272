import MandateGateway.Execution.AsyncEffects
import MandateGateway.Lib.Runs

/-! # Processes that crash

    Runs of `async_execute_payment` against one durable database.  A call works
    in a unit of work of its own, whose session starts from what is committed;
    it ends with a commit, with a rollback, or with the death of the process,
    which takes the service's memory and every uncommitted write along.  What
    the provider was asked stays asked. -/

namespace MandateGateway

open Raising Runs ExecutionAttemptRepository TransactionRepository

/-- The service of the running process, the durable database, and what the
    provider was asked to execute. -/
structure GatewayState where
  service    : PaymentExecutionService
  database   : Database
  dispatched : List TrustedExecutionRequest

/-- How the unit of work of a call ends. -/
inductive CallEnding where
  /-- the caller commits when the call has returned; an exception rolls back -/
  | commit
  /-- the caller leaves without a commit -/
  | leave
  /-- the process dies before the commit, and before or after the provider is
      asked; one that dies after the commit is a commit and a restart -/
  | crash (asked : Bool)
deriving DecidableEq, Repr

/-- A call, or the restart of an idle process. -/
inductive ProcessAction where
  | call (env : AsyncEnv) (q : AsyncRequest) (ending : CallEnding)
  | restart

namespace GatewayState

/-- What a call starts from. -/
def begin (g : GatewayState) : AsyncState := ⟨g.service, ⟨g.database, g.database⟩, g.dispatched⟩

/-- What the caller gets, if the process lives, and the state after the call. -/
def step (g : GatewayState) :
    ProcessAction → Option (Except PyError ExecutionResult) × GatewayState
  | .restart => (none, { g with service := PaymentExecutionService.new })
  | .call env q ending =>
      let run := AsyncPaymentExecution.asyncExecutePayment env q g.begin
      match ending with
      | .commit =>
          match run.1 with
          | .ok r => (some (.ok r), ⟨run.2.service, run.2.uow.session, run.2.dispatched⟩)
          | .error err => (some (.error err), ⟨run.2.service, g.database, run.2.dispatched⟩)
      | .leave => (some run.1, ⟨run.2.service, g.database, run.2.dispatched⟩)
      | .crash asked =>
          (none, ⟨PaymentExecutionService.new, g.database,
            if asked then run.2.dispatched else g.dispatched⟩)

end GatewayState

/-- The merchant and key that the attempt of a request is claimed under. -/
def TrustedExecutionRequest.attemptKey (r : TrustedExecutionRequest) : String × String :=
  (Text.strip r.merchantId, Text.strip r.idempotencyKey)

def AsyncRequest.attemptKey (q : AsyncRequest) : String × String := q.trusted.attemptKey

namespace GatewayState

open AsyncPaymentExecution

variable {g : GatewayState} {env : AsyncEnv} {q : AsyncRequest} {a : ExecutionAttemptRow}
  {isExisting : Bool} {v : UnitOfWork}

/-! ## What a call claims -/

/-- The database in which a call claims its attempt. -/
def marked (g : GatewayState) (env : AsyncEnv) (q : AsyncRequest) : Database :=
  dispatchStarted env.db q.transactionId g.database

/-- The one attempt under the key is claimed, or a new one if there is none:
    a session that starts from what is committed has nothing to recover. -/
theorem claims_cases (h : Claims env q g.begin a isExisting v) :
    isExisting = true ∧ attemptsByKey q.attemptKey.1 q.attemptKey.2 g.database = [a]
        ∧ v = ⟨g.marked env q, g.database⟩
      ∨ isExisting = false ∧ a = (q.claim env).clean.newAttempt env.db
        ∧ attemptsByKey q.attemptKey.1 q.attemptKey.2 g.database = []
        ∧ ∃ attempts, g.database.executionAttempts.insert a = some attempts
          ∧ v = ⟨{ g.marked env q with executionAttempts := attempts }, g.database⟩ := by
  have hgranted := h.granted
  cases hgranted with
  | existing hfound htransaction hpayload => exact Or.inl ⟨rfl, hfound, rfl⟩
  | new hfree hinsert => exact Or.inr ⟨rfl, rfl, hfree, _, hinsert, rfl⟩
  | recovered hfree htaken hfound htransaction =>
      have hnone : attemptsByKey q.attemptKey.1 q.attemptKey.2 g.database = [] := hfree
      have hsome : attemptsByKey q.attemptKey.1 q.attemptKey.2 g.database = [a] := hfound
      rw [hnone] at hsome
      cases hsome

theorem mem_attemptsByKey_iff {db : Database} :
    a ∈ attemptsByKey q.attemptKey.1 q.attemptKey.2 db
      ↔ a ∈ db.executionAttempts.rows ∧ (a.merchantId, a.idempotencyKey) = q.attemptKey := by
  have htrim (t : String) : Text.strip (Text.strip t) = Text.strip t := Text.strip_strip t
  show a ∈ db.executionAttempts.rows.filter _ ↔ _
  rw [List.mem_filter, Bool.and_eq_true, beq_iff_eq, beq_iff_eq, AsyncRequest.attemptKey,
    TrustedExecutionRequest.attemptKey, Prod.mk.injEq]
  dsimp only
  rw [htrim, htrim]

/-- What is known of the claimed attempt and of the session it is claimed in. -/
structure Claimed (g : GatewayState) (q : AsyncRequest) (a : ExecutionAttemptRow)
    (v : UnitOfWork) : Prop where
  stored    : a ∈ v.session.executionAttempts.rows
  key       : (a.merchantId, a.idempotencyKey) = q.attemptKey
  kept      : ∀ b ∈ g.database.executionAttempts.rows, b ∈ v.session.executionAttempts.rows
  executing : StoredIn q.transactionId .executing v
  events    : v.session.outboxEvents = g.database.outboxEvents

theorem claimed_of_claims (h : Claims env q g.begin a isExisting v) : Claimed g q a v := by
  obtain ⟨row, hrow, -⟩ := h.claimable.stored
  have hexecuting := get_dispatchStarted env.db hrow
  rcases claims_cases h with ⟨-, hfound, rfl⟩ | ⟨-, rfl, -, attempts, hinsert, rfl⟩
  · have hmem : a ∈ attemptsByKey q.attemptKey.1 q.attemptKey.2 g.database := by
      rw [hfound]
      exact List.mem_singleton_self a
    obtain ⟨hstored, hkey⟩ := mem_attemptsByKey_iff.mp hmem
    exact ⟨hstored, hkey, fun b hb => hb, hexecuting, rfl⟩
  · have hrows := Table.rows_of_insert hinsert
    refine ⟨?_, rfl, ?_, hexecuting, rfl⟩
    · show _ ∈ attempts.rows
      rw [hrows]
      exact List.mem_append_right _ (List.mem_singleton_self _)
    · intro b hb
      show b ∈ attempts.rows
      rw [hrows]
      exact List.mem_append_left _ hb

/-! ## What a call asks -/

/-- The call claims an attempt that nothing answers but the provider. -/
structure Asks (g : GatewayState) (env : AsyncEnv) (q : AsyncRequest) (a : ExecutionAttemptRow)
    (isExisting : Bool) (v : UnitOfWork) : Prop where
  claims     : Claims env q g.begin a isExisting v
  unanswered : answerWithoutProvider env q g.service a isExisting = none

/-- The call gets to the provider. -/
def Reaches (g : GatewayState) (env : AsyncEnv) (q : AsyncRequest) : Prop :=
  ∃ a isExisting v, Asks g env q a isExisting v

theorem asyncExecutePayment_of_asks (h : Asks g env q a isExisting v) :
    asyncExecutePayment env q g.begin = invokeProvider env q a { g.begin with uow := v } := by
  rw [asyncExecutePayment_of_claims h.claims]
  exact resolveAttempt_of_no_answer h.unanswered

theorem dispatched_of_not_reaches (h : ¬ Reaches g env q) :
    (asyncExecutePayment env q g.begin).2.dispatched = g.dispatched := by
  have heff := asyncExecutePayment_effect env q g.begin
  generalize (asyncExecutePayment env q g.begin).1 = r at heff
  generalize (asyncExecutePayment env q g.begin).2 = s' at heff
  cases heff with
  | repeated => rfl
  | raised hkept => exact hkept
  | @rejected rej result s'' hunpaid hfails hrun =>
      have hkept := dispatched_rejectStored env q rej g.begin
      rw [hrun] at hkept
      exact hkept
  | notExecutable hstate hrun =>
      obtain ⟨-, rfl⟩ := Prod.mk.inj hrun
      rfl
  | answered => rfl
  | asked hclaims hanswer => exact absurd ⟨_, _, _, hclaims, hanswer⟩ h

theorem dispatched_of_reaches (h : Reaches g env q) :
    (asyncExecutePayment env q g.begin).2.dispatched = g.dispatched ++ [q.trusted] := by
  obtain ⟨a, isExisting, v, hasks⟩ := h
  rw [asyncExecutePayment_of_asks hasks]
  exact dispatched_invokeProvider env q a _

/-- The provider's answer to the claimed attempt is one that can be recorded: a
    success, with the identifier of its event free, or an UNKNOWN. -/
structure Recordable (g : GatewayState) (env : AsyncEnv) (q : AsyncRequest)
    (a : ExecutionAttemptRow) (answer : ExecutionResult) : Prop where
  answered : env.adapter.executePayment q.trusted = .ok answer
  trimmed  : Text.strip a.attemptId = a.attemptId
  recorded : answer.success = true
      ∧ OutboxFree env.db g.database
    ∨ answer.success = false ∧ answer.providerStatus = some .unknown

/-- The database after a call whose answer was recorded. -/
def RecordedIn (env : AsyncEnv) (q : AsyncRequest) (a : ExecutionAttemptRow)
    (answer : ExecutionResult) (db db' : Database) : Prop :=
  if answer.success then
    ∃ events, db' = { successRecorded env q a answer.externalReference db with
        outboxEvents := events }
  else db' = unknownRecorded env q a answer.externalReference db

/-- **A recordable answer is recorded and returned.** -/
theorem asyncExecutePayment_of_recordable {answer : ExecutionResult}
    (hasks : Asks g env q a isExisting v) (h : Recordable g env q a answer) :
    ∃ db', asyncExecutePayment env q g.begin
        = (.ok (finalResult q answer),
          afterAnswer q answer ⟨db', v.committed⟩ { g.begin with uow := v })
      ∧ RecordedIn env q a answer v.session db' := by
  have hclaimed := claimed_of_claims hasks.claims
  have hattempt : v.session.executionAttempts.get (Text.strip a.attemptId) = some a := by
    rw [h.trimmed]
    exact Table.get_eq_some_iff.mpr ⟨hclaimed.stored, rfl⟩
  rw [asyncExecutePayment_of_asks hasks]
  rcases h.recorded with ⟨hsuccess, hfree⟩ | ⟨hfailed, hunknown⟩
  · let paid : UnitOfWork :=
      { v with session := successRecorded env q a answer.externalReference v.session }
    have hpaidfree : OutboxFree env.db paid.session := by
      show s!"outbox_{env.db.eventToken}" ∉ v.session.outboxEvents.rows.map OutboxEventRow.outboxId
      rw [hclaimed.events]
      exact hfree
    have hrecord : recordAnswer env q a answer v = createEvent env.db "PAYMENT_COMMITTED"
        "TRANSACTION" q.transactionId (q.eventPayload answer.externalReference) paid :=
      recordAnswer_of_success hclaimed.executing hsuccess hattempt
    obtain ⟨events, hcreate, -⟩ := createEvent_of_free hpaidfree
    refine ⟨_, invokeProvider_of_recorded h.answered (hrecord.trans hcreate), ?_⟩
    rw [RecordedIn, if_pos hsuccess]
    exact ⟨events, rfl⟩
  · have hnot : ¬ answer.success = true := by
      rw [hfailed]
      exact Bool.false_ne_true
    have hrecord : recordAnswer env q a answer v = _ :=
      recordAnswer_of_unknown hclaimed.executing hfailed hunknown hattempt
    refine ⟨_, invokeProvider_of_recorded h.answered hrecord, ?_⟩
    rw [RecordedIn, if_neg hnot]

end GatewayState

end MandateGateway
