import MandateGateway.Execution.AsyncService
import MandateGateway.Execution.AsyncSettlement

/-! # What a persistent execution does

    `asyncExecutePayment_effect` says once how a call can end: it repeats a
    success, rejects, raises before the provider is asked, answers a claimed
    attempt without the provider, or asks it.  What holds of runs of calls is
    derived from it. -/

/-! ## Recording the provider's answer

    What `async_execute_payment` does with each answer to a transaction that
    is EXECUTING.  `record_provider_outcome` already moves the row for a
    success and for a failure, and its caller moves it again: after a success
    that is the next legal transition, after a failure it is not. -/

namespace MandateGateway

open Raising ExecutionAttemptRepository TransactionRepository

namespace AsyncPaymentExecution

variable {env : AsyncEnv} {q : AsyncRequest} {attempt : ExecutionAttemptRow}
  {answer : ExecutionResult} {uow : UnitOfWork}

/-- The database after a recorded success, less the event. -/
def successRecorded (env : AsyncEnv) (q : AsyncRequest) (attempt : ExecutionAttemptRow)
    (ref : Option String) (db : Database) : Database :=
  finished env.db attempt.attemptId "SUCCESS" ref
    (moved env.db q.transactionId .committed
      (moved env.db q.transactionId .success
        (outcomeNoted env.db q.transactionId "SUCCESS" ref db)))

/-- The database after a recorded UNKNOWN. -/
def unknownRecorded (env : AsyncEnv) (q : AsyncRequest) (attempt : ExecutionAttemptRow)
    (ref : Option String) (db : Database) : Database :=
  finished env.db attempt.attemptId "UNKNOWN" ref
    (outcomeNoted env.db q.transactionId "UNKNOWN" ref db)

/-- The event of a recorded success. -/
def committedEvent (env : AsyncEnv) (q : AsyncRequest) (ref : Option String) : OutboxEventRow :=
  outboxEvent env.db "PAYMENT_COMMITTED" "TRANSACTION" q.transactionId (q.eventPayload ref)

/-- **A success is recorded as COMMITTED, and then its event is.** -/
theorem recordAnswer_of_success (h : StoredIn q.transactionId .executing uow)
    (hsuccess : answer.success = true) {a : ExecutionAttemptRow}
    (hattempt : uow.session.executionAttempts.get (Text.strip attempt.attemptId) = some a) :
    recordAnswer env q attempt answer uow
      = createEvent env.db "PAYMENT_COMMITTED" "TRANSACTION" q.transactionId
          (q.eventPayload answer.externalReference)
          { uow with
            session := successRecorded env q attempt answer.externalReference uow.session } := by
  let ref := answer.externalReference
  let settled := moved env.db q.transactionId .committed
    (moved env.db q.transactionId .success
      (outcomeNoted env.db q.transactionId "SUCCESS" ref uow.session))
  have hnoted := (h.outcomeNoted env.db "SUCCESS" ref).moved env.db .success
  have hfinished : recordOutcome env.db attempt.attemptId "SUCCESS" ref
      { uow with session := settled }
        = (.ok (), { uow with session := successRecorded env q attempt ref uow.session }) :=
    recordOutcome_of_get hattempt
  rw [recordAnswer, if_pos hsuccess, bind_of_ok (recordProviderOutcome_success h env.db _),
    bind_of_ok (transitionTransactionState_of_legal hnoted rfl (by decide))]
  exact bind_of_ok hfinished

/-- **An UNKNOWN is recorded and leaves the row EXECUTING.** -/
theorem recordAnswer_of_unknown (h : StoredIn q.transactionId .executing uow)
    (hfailed : answer.success = false) (hunknown : answer.providerStatus = some .unknown)
    {a : ExecutionAttemptRow}
    (hattempt : uow.session.executionAttempts.get (Text.strip attempt.attemptId) = some a) :
    recordAnswer env q attempt answer uow
      = (.ok (), { uow with
          session := unknownRecorded env q attempt answer.externalReference uow.session }) := by
  have hnot : ¬ answer.success = true := by
    rw [hfailed]
    exact Bool.false_ne_true
  rw [recordAnswer, if_neg hnot, if_pos hunknown,
    bind_of_ok (recordProviderOutcome_unknown h env.db _)]
  exact recordOutcome_of_get hattempt

/-- **Every other answer raises**: the row is FAILURE when its caller moves it
    to FAILURE. -/
theorem recordAnswer_of_failed (h : StoredIn q.transactionId .executing uow)
    (hfailed : answer.success = false) (hknown : answer.providerStatus ≠ some .unknown) :
    recordAnswer env q attempt answer uow
      = (.error (illegalTransition .failure .failure), { uow with
          session := moved env.db q.transactionId .failure
            (outcomeNoted env.db q.transactionId "FAILED" answer.externalReference
              uow.session) }) := by
  have hnot : ¬ answer.success = true := by
    rw [hfailed]
    exact Bool.false_ne_true
  have hnoted := (h.outcomeNoted env.db "FAILED" answer.externalReference).moved env.db .failure
  rw [recordAnswer, if_neg hnot, if_neg hknown,
    bind_of_ok (recordProviderOutcome_failed h env.db _)]
  exact bind_of_error (transitionTransactionState_of_illegal hnoted (by decide))

end AsyncPaymentExecution

end MandateGateway

namespace MandateGateway

open Exceptions Raising ExecutionAttemptRepository TransactionRepository

namespace AsyncPaymentExecution

open AsyncAction

variable {env : AsyncEnv} {q : AsyncRequest} {s s' : AsyncState} {a : ExecutionAttemptRow}

/-! ## Asking the provider -/

theorem onDb_of_run {α : Type} {x : DbAction α} {r : Except PyError α} {uow : UnitOfWork}
    (h : x s.uow = (r, uow)) : onDb x s = (r, { s with uow := uow }) := by
  show ((x s.uow).1, { s with uow := (x s.uow).2 }) = _
  rw [h]

/-- The state in which the provider's answer is recorded. -/
def afterDispatch (q : AsyncRequest) (s : AsyncState) : AsyncState where
  service := enterFlight q.transactionId s.service
  uow := s.uow
  dispatched := s.dispatched ++ [q.trusted]

/-- The state after the answer is recorded and its result cached. -/
def afterAnswer (q : AsyncRequest) (answer : ExecutionResult) (uow : UnitOfWork)
    (s : AsyncState) : AsyncState :=
  let t := afterDispatch q s
  leaveFlight q.transactionId
    { t with
      service := { t.service with
        results := t.service.results.set q.transactionId (finalResult q answer) }
      uow := uow }

theorem invokeProvider_of_error {err : PyError}
    (h : env.adapter.executePayment q.trusted = .error err) :
    invokeProvider env q a s = (.error err, leaveFlight q.transactionId (afterDispatch q s)) := by
  have henter : onService (enterFlight q.transactionId) s
      = ((.ok () : Except PyError Unit),
        { s with service := enterFlight q.transactionId s.service }) := rfl
  have hdispatch : dispatch env q { s with service := enterFlight q.transactionId s.service }
      = (.error err, afterDispatch q s) := by
    rw [dispatch, h]
    rfl
  rw [invokeProvider, andFinally, bind_of_ok henter, bind_of_error hdispatch]

theorem dispatch_of_ok {answer : ExecutionResult}
    (h : env.adapter.executePayment q.trusted = .ok answer) :
    dispatch env q { s with service := enterFlight q.transactionId s.service }
      = (.ok answer, afterDispatch q s) := by
  rw [dispatch, h]
  rfl

/-- **A recorded answer is returned.** -/
theorem invokeProvider_of_recorded {answer : ExecutionResult} {uow : UnitOfWork}
    (h : env.adapter.executePayment q.trusted = .ok answer)
    (hrecord : recordAnswer env q a answer s.uow = (.ok (), uow)) :
    invokeProvider env q a s = (.ok (finalResult q answer), afterAnswer q answer uow s) := by
  have henter : onService (enterFlight q.transactionId) s
      = ((.ok () : Except PyError Unit),
        { s with service := enterFlight q.transactionId s.service }) := rfl
  have hon := onDb_of_run (s := afterDispatch q s) hrecord
  rw [invokeProvider, andFinally, bind_of_ok henter, bind_of_ok (dispatch_of_ok h), bind_of_ok hon]
  rfl

/-- **An answer whose record raises is lost.** -/
theorem invokeProvider_of_not_recorded {answer : ExecutionResult} {uow : UnitOfWork}
    {err : PyError} (h : env.adapter.executePayment q.trusted = .ok answer)
    (hrecord : recordAnswer env q a answer s.uow = (.error err, uow)) :
    invokeProvider env q a s
      = (.error err, leaveFlight q.transactionId { afterDispatch q s with uow := uow }) := by
  have henter : onService (enterFlight q.transactionId) s
      = ((.ok () : Except PyError Unit),
        { s with service := enterFlight q.transactionId s.service }) := rfl
  have hon := onDb_of_run (s := afterDispatch q s) hrecord
  rw [invokeProvider, andFinally, bind_of_ok henter, bind_of_ok (dispatch_of_ok h),
    bind_of_error hon]

theorem dispatched_invokeProvider (env : AsyncEnv) (q : AsyncRequest) (a : ExecutionAttemptRow)
    (s : AsyncState) :
    (invokeProvider env q a s).2.dispatched = s.dispatched ++ [q.trusted] := by
  cases h : env.adapter.executePayment q.trusted with
  | error err =>
      rw [invokeProvider_of_error h]
      rfl
  | ok answer =>
      cases hrecord : recordAnswer env q a answer s.uow with
      | mk r uow =>
          cases r with
          | ok u =>
              rw [invokeProvider_of_recorded h hrecord]
              rfl
          | error err =>
              rw [invokeProvider_of_not_recorded h hrecord]
              rfl

/-! ## The ends of a call -/

/-- A check of the proposal or of the authorization fails with this rejection. -/
def FailsCheck (q : AsyncRequest) (rej : Rejection) : Prop :=
  verifyPreExecutionAuth q.authorization = some rej
    ∨ verifyPreExecutionAuth q.authorization = none
      ∧ verifyContextAndOperation q.proposal q.transaction = .ok (some rej)

/-- The call claims this attempt in this unit of work. -/
structure Claims (env : AsyncEnv) (q : AsyncRequest) (s : AsyncState) (a : ExecutionAttemptRow)
    (isExisting : Bool) (v : UnitOfWork) : Prop where
  claimable : Claimable q s.uow.session
  checked   : (q.claim env).check = .ok ()
  granted   : (q.claim env).clean.Grants env.db
    { s.uow with session := dispatchStarted env.db q.transactionId s.uow.session } a isExisting v

theorem asyncExecutePayment_of_claims {isExisting : Bool} {v : UnitOfWork}
    (h : Claims env q s a isExisting v) :
    asyncExecutePayment env q s = resolveAttempt env q a isExisting { s with uow := v } := by
  let marked : UnitOfWork :=
    { s.uow with session := dispatchStarted env.db q.transactionId s.uow.session }
  have hmark : markProviderDispatchStarted env.db q.transactionId s.uow = (.ok (), marked) :=
    markProviderDispatchStarted_eq_ok_iff.mpr ⟨h.claimable.stored, rfl⟩
  have hclaim : claimAttempt env.db (q.claim env) marked = (.ok (a, isExisting), v) :=
    claimAttempt_eq_ok_iff.mpr ⟨h.checked, h.granted⟩
  rw [asyncExecutePayment_of_claimable h.claimable, claimAndResolve,
    bind_of_ok (onDb_of_run hmark)]
  exact bind_of_ok (onDb_of_run (s := { s with uow := marked }) hclaim)

/-- How a call can end. -/
inductive Effect (env : AsyncEnv) (q : AsyncRequest) (s : AsyncState) :
    Except PyError ExecutionResult → AsyncState → Prop where
  | repeated {paid : TransactionRow} (hpaid : foundPaid q s.uow.session = some paid) :
      Effect env q s (.ok (replayedSuccess env q paid.providerPaymentId
        "Payment previously executed successfully.")) s
  | raised {err : PyError} {s' : AsyncState} (hkept : s'.dispatched = s.dispatched) :
      Effect env q s (.error err) s'
  | rejected {rej : Rejection} {r : ExecutionResult} {s' : AsyncState}
      (hunpaid : foundPaid q s.uow.session = none) (hfails : FailsCheck q rej)
      (hrun : rejectStored env q rej s = (.ok r, s')) : Effect env q s (.ok r) s'
  | notExecutable {r : ExecutionResult} {s' : AsyncState}
      (hstate : q.transaction.state ≠ .authorized)
      (hrun : rejectWith env q (notExecutable q.transaction) s = (.ok r, s')) :
      Effect env q s (.ok r) s'
  | answered {a : ExecutionAttemptRow} {isExisting : Bool} {v : UnitOfWork}
      {r : ExecutionResult} (hclaims : Claims env q s a isExisting v)
      (hanswer : answerWithoutProvider env q s.service a isExisting = some r) :
      Effect env q s (.ok r) { s with uow := v }
  | asked {a : ExecutionAttemptRow} {isExisting : Bool} {v : UnitOfWork}
      (hclaims : Claims env q s a isExisting v)
      (hanswer : answerWithoutProvider env q s.service a isExisting = none) :
      Effect env q s (invokeProvider env q a { s with uow := v }).1
        (invokeProvider env q a { s with uow := v }).2

theorem asyncExecutePayment_of_failsCheck {rej : Rejection}
    (hunpaid : foundPaid q s.uow.session = none) (h : FailsCheck q rej) :
    asyncExecutePayment env q s = rejectStored env q rej s := by
  rw [asyncExecutePayment_of_unpaid hunpaid, executeUnpaid]
  rcases h with hauth | ⟨hauth, hcontext⟩
  · rw [hauth]
  · rw [hauth]
    dsimp only
    rw [bind_of_ok (ofExcept_of_eq hcontext s)]

theorem asyncExecutePayment_of_check_error {err : PyError}
    (hunpaid : foundPaid q s.uow.session = none)
    (hauth : verifyPreExecutionAuth q.authorization = none)
    (hcontext : verifyContextAndOperation q.proposal q.transaction = .error err) :
    asyncExecutePayment env q s = (.error err, s) := by
  rw [asyncExecutePayment_of_unpaid hunpaid, executeUnpaid, hauth]
  exact bind_of_error (ofExcept_of_eq hcontext s)

theorem dispatched_rejectStored (env : AsyncEnv) (q : AsyncRequest) (rej : Rejection)
    (s : AsyncState) : (rejectStored env q rej s).2.dispatched = s.dispatched := by
  let refused : AsyncState :=
    { s with service := (s.service.rejectExecution ⟨env.db.now, ""⟩ q.transaction rej).2 }
  have hreject : rejectWith env q rej s
      = (.ok (s.service.rejectExecution ⟨env.db.now, ""⟩ q.transaction rej).1, refused) := rfl
  rw [rejectStored, bind_of_ok hreject]
  cases hrun : transitionTransactionState env.db q.transactionId .rejected s.uow with
  | mk r uow =>
      have hon := onDb_of_run (s := refused) hrun
      cases r with
      | ok u =>
          rw [bind_of_ok hon]
          rfl
      | error err => rw [bind_of_error hon]

theorem claims_of_claimable (h : Claimable q s.uow.session) {v : UnitOfWork} {isExisting : Bool}
    (hclaimed : claimAttempt env.db (q.claim env)
      { s.uow with session := dispatchStarted env.db q.transactionId s.uow.session }
        = (.ok (a, isExisting), v)) : Claims env q s a isExisting v := by
  obtain ⟨hcheck, hgrants⟩ := claimAttempt_eq_ok_iff.mp hclaimed
  exact ⟨h, hcheck, hgrants⟩

theorem resolveAttempt_effect {v : UnitOfWork} {isExisting : Bool}
    (hclaims : Claims env q s a isExisting v) :
    Effect env q s (resolveAttempt env q a isExisting { s with uow := v }).1
      (resolveAttempt env q a isExisting { s with uow := v }).2 := by
  cases hanswer : answerWithoutProvider env q s.service a isExisting with
  | some r =>
      rw [resolveAttempt_of_answer (s := { s with uow := v }) hanswer]
      exact Effect.answered hclaims hanswer
  | none =>
      rw [resolveAttempt_of_no_answer (s := { s with uow := v }) hanswer]
      exact Effect.asked hclaims hanswer

theorem effect_of_checked (hunpaid : foundPaid q s.uow.session = none)
    (hauth : verifyPreExecutionAuth q.authorization = none)
    (hcontext : verifyContextAndOperation q.proposal q.transaction = .ok none) :
    Effect env q s (asyncExecutePayment env q s).1 (asyncExecutePayment env q s).2 := by
  rw [asyncExecutePayment_of_unpaid hunpaid, executeUnpaid, hauth]
  dsimp only
  rw [bind_of_ok (ofExcept_of_eq hcontext s)]
  dsimp only
  by_cases hexecutable : q.transaction.isExecutable = false
  · rw [if_pos hexecutable]
    refine Effect.notExecutable ?_ rfl
    intro hstate
    have htrue : q.transaction.isExecutable = true := beq_iff_eq.mpr hstate
    rw [htrue] at hexecutable
    cases hexecutable
  rw [if_neg hexecutable, claimAndResolve]
  rw [Bool.not_eq_false] at hexecutable
  cases hmark : markProviderDispatchStarted env.db q.transactionId s.uow with
  | mk r uow =>
      cases r with
      | error err =>
          rw [bind_of_error (onDb_of_run hmark)]
          exact Effect.raised rfl
      | ok u =>
          rw [bind_of_ok (onDb_of_run hmark)]
          obtain ⟨hstored, rfl⟩ := markProviderDispatchStarted_eq_ok_iff.mp hmark
          have hclaimable : Claimable q s.uow.session :=
            ⟨verifyPreExecutionAuth_eq_none_iff.mp hauth,
              verifyContextAndOperation_eq_none_iff.mp hcontext, beq_iff_eq.mp hexecutable,
              hstored⟩
          let marked : UnitOfWork :=
            { s.uow with session := dispatchStarted env.db q.transactionId s.uow.session }
          cases hclaim : claimAttempt env.db (q.claim env) marked with
          | mk r v =>
              have hon := onDb_of_run (s := { s with uow := marked }) hclaim
              cases r with
              | error err =>
                  rw [bind_of_error hon]
                  exact Effect.raised rfl
              | ok claimed =>
                  rw [bind_of_ok hon]
                  exact resolveAttempt_effect (claims_of_claimable hclaimable hclaim)

/-- **Every call ends in one of these ways.** -/
theorem asyncExecutePayment_effect (env : AsyncEnv) (q : AsyncRequest) (s : AsyncState) :
    Effect env q s (asyncExecutePayment env q s).1 (asyncExecutePayment env q s).2 := by
  cases hpaid : foundPaid q s.uow.session with
  | some paid =>
      rw [asyncExecutePayment_of_paid hpaid]
      exact Effect.repeated hpaid
  | none =>
      have hreject (rej : Rejection) (hfails : FailsCheck q rej) :
          Effect env q s (asyncExecutePayment env q s).1 (asyncExecutePayment env q s).2 := by
        rw [asyncExecutePayment_of_failsCheck hpaid hfails]
        have hkept := dispatched_rejectStored env q rej s
        cases hrun : rejectStored env q rej s with
        | mk r s' =>
            rw [hrun] at hkept
            cases r with
            | ok result => exact Effect.rejected hpaid hfails hrun
            | error err => exact Effect.raised hkept
      cases hauth : verifyPreExecutionAuth q.authorization with
      | some rej => exact hreject rej (Or.inl hauth)
      | none =>
          cases hcontext : verifyContextAndOperation q.proposal q.transaction with
          | error err =>
              rw [asyncExecutePayment_of_check_error hpaid hauth hcontext]
              exact Effect.raised rfl
          | ok verdict =>
              cases verdict with
              | some rej => exact hreject rej (Or.inr ⟨hauth, hcontext⟩)
              | none => exact effect_of_checked hpaid hauth hcontext

/-! ## The calls that return -/

theorem invokeProvider_eq_ok_iff {r : ExecutionResult} :
    invokeProvider env q a s = (.ok r, s')
      ↔ ∃ answer uow, env.adapter.executePayment q.trusted = .ok answer
        ∧ recordAnswer env q a answer s.uow = (.ok (), uow)
        ∧ r = finalResult q answer ∧ s' = afterAnswer q answer uow s := by
  constructor
  · intro h
    cases hadapter : env.adapter.executePayment q.trusted with
    | error err =>
        rw [invokeProvider_of_error hadapter] at h
        cases (Prod.mk.inj h).1
    | ok answer =>
        cases hrecord : recordAnswer env q a answer s.uow with
        | mk outcome uow =>
            cases outcome with
            | ok u =>
                rw [invokeProvider_of_recorded hadapter hrecord] at h
                obtain ⟨hr, rfl⟩ := Prod.mk.inj h
                exact ⟨answer, uow, rfl, hrecord, (Except.ok.inj hr).symm, rfl⟩
            | error err =>
                rw [invokeProvider_of_not_recorded hadapter hrecord] at h
                cases (Prod.mk.inj h).1
  · rintro ⟨answer, uow, hadapter, hrecord, rfl, rfl⟩
    exact invokeProvider_of_recorded hadapter hrecord

/-- How a call can return. -/
inductive Returned (env : AsyncEnv) (q : AsyncRequest) (s : AsyncState) :
    ExecutionResult → AsyncState → Prop where
  | repeated {paid : TransactionRow} (hpaid : foundPaid q s.uow.session = some paid) :
      Returned env q s (replayedSuccess env q paid.providerPaymentId
        "Payment previously executed successfully.") s
  | rejected {r : ExecutionResult} {service : PaymentExecutionService} {uow : UnitOfWork}
      (hmove : transitionTransactionState env.db q.transactionId .rejected s.uow
        = (.ok (), uow)) : Returned env q s r { s with service := service, uow := uow }
  | notExecutable {r : ExecutionResult} {service : PaymentExecutionService}
      (hstate : q.transaction.state ≠ .authorized) :
      Returned env q s r { s with service := service }
  | answered {a : ExecutionAttemptRow} {isExisting : Bool} {v : UnitOfWork}
      {r : ExecutionResult} (hclaims : Claims env q s a isExisting v)
      (hanswer : answerWithoutProvider env q s.service a isExisting = some r) :
      Returned env q s r { s with uow := v }
  | recorded {a : ExecutionAttemptRow} {isExisting : Bool} {v uow : UnitOfWork}
      {answer : ExecutionResult} (hclaims : Claims env q s a isExisting v)
      (hanswer : answerWithoutProvider env q s.service a isExisting = none)
      (hadapter : env.adapter.executePayment q.trusted = .ok answer)
      (hrecord : recordAnswer env q a answer v = (.ok (), uow)) :
      Returned env q s (finalResult q answer) (afterAnswer q answer uow { s with uow := v })

/-- **Every call that returns does so in one of these ways.** -/
theorem asyncExecutePayment_returned {r : ExecutionResult}
    (hrun : asyncExecutePayment env q s = (.ok r, s')) : Returned env q s r s' := by
  have heff := asyncExecutePayment_effect env q s
  rw [hrun] at heff
  dsimp only at heff
  generalize hresult : (Except.ok r : Except PyError ExecutionResult) = result at heff
  cases heff with
  | repeated hpaid =>
      obtain rfl := Except.ok.inj hresult
      exact .repeated hpaid
  | raised => cases hresult
  | rejected hunpaid hfails hstored =>
      obtain rfl := Except.ok.inj hresult
      obtain ⟨res, s₁, hreject, hrest⟩ := bind_eq_ok_iff.mp hstored
      obtain ⟨-, rfl⟩ := Prod.mk.inj hreject
      obtain ⟨u, s₂, hmove, hpure⟩ := bind_eq_ok_iff.mp hrest
      obtain ⟨uow, hmoved, rfl⟩ := zoom_eq_ok_iff.mp hmove
      obtain ⟨-, rfl⟩ := Prod.mk.inj hpure
      exact .rejected hmoved
  | notExecutable hstate hreject =>
      obtain rfl := Except.ok.inj hresult
      obtain ⟨-, rfl⟩ := Prod.mk.inj hreject
      exact .notExecutable hstate
  | answered hclaims hanswer =>
      obtain rfl := Except.ok.inj hresult
      exact .answered hclaims hanswer
  | @asked a isExisting v hclaims hanswer =>
      obtain ⟨answer, uow, hadapter, hrecord, rfl, hend⟩ :=
        invokeProvider_eq_ok_iff.mp (Prod.ext hresult.symm rfl)
      have hrecorded := Returned.recorded hclaims hanswer hadapter hrecord
      rw [← hend] at hrecorded
      exact hrecorded

end AsyncPaymentExecution

end MandateGateway
