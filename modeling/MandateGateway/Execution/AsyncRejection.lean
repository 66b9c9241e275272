import MandateGateway.Execution.AsyncEffects

/-! # Rejections that cannot be stored

    A call whose proposal or authorization fails a check rejects in memory,
    caches the rejection, and then moves the stored row to REJECTED.  A row
    that is AUTHORIZED has no such transition: the call raises, and the cached
    rejection stays behind. -/

namespace MandateGateway

open Exceptions OrderedMap Raising ExecutionAttemptRepository TransactionRepository

namespace AsyncPaymentExecution

open AsyncAction

variable {env : AsyncEnv} {q : AsyncRequest} {s : AsyncState} {rej : Rejection}

/-- The service after the rejection in memory. -/
def refusedService (env : AsyncEnv) (q : AsyncRequest) (rej : Rejection)
    (service : PaymentExecutionService) : PaymentExecutionService :=
  (service.rejectExecution ⟨env.db.now, ""⟩ q.transaction rej).2

/-- The call returns a rejection, and afterwards the database and the cache
    agree: the row is REJECTED, or neither of them has recorded anything. -/
def RejectsCleanly (env : AsyncEnv) (q : AsyncRequest) (s : AsyncState) : Prop :=
  ∃ r s', asyncExecutePayment env q s = (.ok r, s') ∧ r.success = false ∧ r.state = .rejected
    ∧ (StoredIn q.transactionId .rejected s'.uow
      ∨ s'.uow.session = s.uow.session
        ∧ s'.service.results.get q.transactionId = s.service.results.get q.transactionId)

theorem foundPaid_of_storedIn {state : TransactionState}
    (h : StoredIn q.transactionId state s.uow) (hstate : state.value ∉ paidStates) :
    foundPaid q s.uow.session = none := by
  obtain ⟨row, hrow, hvalue⟩ := h
  have hno : ¬ row.state ∈ paidStates := by
    rw [hvalue]
    exact hstate
  rw [foundPaid, hrow, Option.filter_some, if_neg]
  rw [decide_eq_false hno]
  exact Bool.false_ne_true

/-- **A failed check of an AUTHORIZED transaction raises**, after it has cached
    the rejection. -/
theorem asyncExecutePayment_of_failsCheck_authorized
    (hstored : StoredIn q.transactionId .authorized s.uow) (hfails : FailsCheck q rej) :
    asyncExecutePayment env q s
      = (.error (illegalTransition .authorized .rejected),
        { s with service := refusedService env q rej s.service }) := by
  let refused : AsyncState := { s with service := refusedService env q rej s.service }
  have hunpaid := foundPaid_of_storedIn hstored (by decide)
  have hreject : rejectWith env q rej s
      = (.ok (s.service.rejectExecution ⟨env.db.now, ""⟩ q.transaction rej).1, refused) := rfl
  have htransition : transitionTransactionState env.db q.transactionId .rejected refused.uow
      = (.error (illegalTransition .authorized .rejected), refused.uow) :=
    transitionTransactionState_of_illegal hstored (by decide)
  rw [asyncExecutePayment_of_failsCheck hunpaid hfails, rejectStored, bind_of_ok hreject]
  exact bind_of_error (onDb_of_run (s := refused) htransition)

/-- **No proposal or authorization that fails a check is rejected cleanly**,
    when its transaction is stored as AUTHORIZED. -/
theorem rejection_never_clean (env : AsyncEnv) (q : AsyncRequest) (s : AsyncState)
    (hstored : StoredIn q.transactionId .authorized s.uow)
    (hfails : ¬ (Authorized q.authorization ∧ ContextMatches q.proposal q.transaction)) :
    ¬ RejectsCleanly env q s := by
  rintro ⟨r, s', hrun, -⟩
  have hreject (rej : Rejection) (hrej : FailsCheck q rej) : False := by
    rw [asyncExecutePayment_of_failsCheck_authorized hstored hrej] at hrun
    cases (Prod.mk.inj hrun).1
  cases hauth : verifyPreExecutionAuth q.authorization with
  | some rej => exact hreject rej (Or.inl hauth)
  | none =>
      cases hcontext : verifyContextAndOperation q.proposal q.transaction with
      | ok verdict =>
          cases verdict with
          | some rej => exact hreject rej (Or.inr ⟨hauth, hcontext⟩)
          | none =>
              exact hfails ⟨verifyPreExecutionAuth_eq_none_iff.mp hauth,
                verifyContextAndOperation_eq_none_iff.mp hcontext⟩
      | error err =>
          have hunpaid := foundPaid_of_storedIn hstored (by decide)
          rw [asyncExecutePayment_of_check_error hunpaid hauth hcontext] at hrun
          cases (Prod.mk.inj hrun).1

/-! ## A tampered proposal and a valid one after it -/

namespace Sample

def authorized : Database where
  transactions := Table.singleton authorizedRow
  executionAttempts := Table.empty
  outboxEvents := Table.empty

def started : AsyncState := ⟨PaymentExecutionService.new, ⟨authorized, authorized⟩, []⟩

def tampered : AsyncRequest :=
  { request with proposal := { request.proposal with merchantId := "merchant-2" } }

theorem started_authorized : StoredIn tampered.transactionId .authorized started.uow :=
  ⟨authorizedRow, rfl, rfl⟩

theorem tampered_fails :
    ¬ (Authorized tampered.authorization
      ∧ ContextMatches tampered.proposal tampered.transaction) := by
  rintro ⟨-, hcontext⟩
  exact absurd hcontext.merchantId (by decide)

end Sample

theorem rejection_never_clean_tampered :
    ¬ RejectsCleanly Sample.asyncEnv Sample.tampered Sample.started :=
  rejection_never_clean Sample.asyncEnv Sample.tampered Sample.started Sample.started_authorized
    Sample.tampered_fails

/-- The tampered call raises, and after its rollback the valid call reports a
    rejection, with the row EXECUTING and the provider never asked. -/
theorem tampered_poisons_valid :
    ∃ err s₁ r s₂,
      asyncExecutePayment Sample.asyncEnv Sample.tampered Sample.started = (.error err, s₁)
      ∧ asyncExecutePayment Sample.asyncEnv Sample.request { s₁ with uow := s₁.uow.rollback }
        = (.ok r, s₂)
      ∧ r.state = .rejected ∧ StoredIn "tx-1" .executing s₂.uow ∧ s₂.dispatched = [] :=
  ⟨_, _, _, _, rfl, rfl, rfl, ⟨_, rfl, rfl⟩, rfl⟩

end AsyncPaymentExecution

end MandateGateway
