import MandateGateway.Execution.CrashRetry

/-! # Repeated calls

    A call that is repeated finds the row that the first one committed.  A row
    that stands for a payment answers the repeat; every other row that a call
    returns with is EXECUTING or REJECTED, and makes the repeat raise before
    the attempt or the cache are looked at. -/

namespace MandateGateway

open Exceptions Raising Runs ExecutionAttemptRepository TransactionRepository

namespace GatewayState

open AsyncPaymentExecution

variable {g : GatewayState} {env : AsyncEnv} {q : AsyncRequest} {t : String}

/-- The result is the outcome recorded in the transaction's row: paid, rolled
    back, or EXECUTING with an UNKNOWN provider status. -/
def ReportsRecord (r : ExecutionResult) (t : String) (db : Database) : Prop :=
  ∃ row, db.transactions.get t = some row
    ∧ (row.state ∈ paidStates ∧ r.success = true ∧ r.state = .committed
      ∨ row.state = "ROLLED_BACK" ∧ r.success = false ∧ r.state = .rolledBack
      ∨ row.state = "EXECUTING" ∧ row.providerStatus = some "UNKNOWN"
        ∧ r.success = false ∧ r.state = .executing ∧ r.providerStatus = some .unknown)

/-- If the step is a call with this request, it asks the provider nothing, and
    unless the process dies it returns the recorded outcome. -/
def RepeatsRecord (q : AsyncRequest)
    (c : Step GatewayState ProcessAction (Option (Except PyError ExecutionResult))) : Prop :=
  ∀ env ending, c.act = .call env q ending →
    c.post.dispatched = c.pre.dispatched
      ∧ ∀ outcome, c.out = some outcome →
        ∃ r, outcome = .ok r ∧ ReportsRecord r q.transactionId c.pre.database

/-- The call returns, and its unit of work is committed in this state. -/
def CommittedIn (g : GatewayState) (env : AsyncEnv) (q : AsyncRequest) (g' : GatewayState) :
    Prop :=
  ∃ r, g.step (.call env q .commit) = (some (.ok r), g')

/-! ## Paid rows stay paid -/

theorem exists_foundPaid {db : Database} (h : db.PaidRow q.transactionId) :
    ∃ paid, foundPaid q db = some paid ∧ paid.state ∈ paidStates
      ∧ db.transactions.get q.transactionId = some paid := by
  obtain ⟨row, hrow, hpaid⟩ := h
  refine ⟨row, ?_, hpaid, hrow⟩
  rw [foundPaid, hrow, Option.filter_some, if_pos (decide_eq_true hpaid)]

section Rows

variable {denv : DbEnv} {t' : String}

theorem transition_keepsRow {target : TransactionState} (hne : t ≠ t') :
    Keeps (fun uow => uow.session.transactions.get t)
      (transitionTransactionState denv t' target) :=
  keeps_of_sameBut (fun _ _ h => h.rows t hne) (transition_sameBut denv t' target)

theorem recordProviderOutcome_keepsRow {status : String} {ref : Option String}
    (hne : t ≠ t') :
    Keeps (fun uow => uow.session.transactions.get t)
      (recordProviderOutcome denv t' status ref) :=
  keeps_of_sameBut (fun _ _ h => h.rows t hne) (recordProviderOutcome_sameBut denv t' status ref)

theorem recordOutcome_keepsRow {attemptId status : String} {ref : Option String} :
    Keeps (fun uow => uow.session.transactions.get t)
      (recordOutcome denv attemptId status ref) :=
  fun _ _ _ h => congrArg (Table.get · t) (recordOutcome_transactions h)

theorem createEvent_keepsRow {eventType aggregateType aggregateId : String} {payload : Json} :
    Keeps (fun uow => uow.session.transactions.get t)
      (createEvent denv eventType aggregateType aggregateId payload) :=
  fun _ _ _ h => congrArg (Table.get · t) (createEvent_transactions h)

theorem recordAnswer_keepsRow {a : ExecutionAttemptRow} {answer : ExecutionResult}
    (hne : t ≠ q.transactionId) :
    Keeps (fun uow => uow.session.transactions.get t) (recordAnswer env q a answer) := by
  rw [recordAnswer]
  by_cases hsuccess : answer.success = true
  · rw [if_pos hsuccess]
    refine Keeps.bind (recordProviderOutcome_keepsRow hne) fun _ => ?_
    refine Keeps.bind (transition_keepsRow hne) fun _ => ?_
    exact Keeps.bind recordOutcome_keepsRow fun _ => createEvent_keepsRow
  rw [if_neg hsuccess]
  by_cases hunknown : answer.providerStatus = some .unknown
  · rw [if_pos hunknown]
    exact Keeps.bind (recordProviderOutcome_keepsRow hne) fun _ => recordOutcome_keepsRow
  · rw [if_neg hunknown]
    refine Keeps.bind (recordProviderOutcome_keepsRow hne) fun _ => ?_
    refine Keeps.bind (transition_keepsRow hne) fun _ => ?_
    refine Keeps.bind (transition_keepsRow hne) fun _ => ?_
    exact Keeps.bind recordOutcome_keepsRow fun _ => createEvent_keepsRow

end Rows

theorem get_of_claims {a : ExecutionAttemptRow} {isExisting : Bool} {v : UnitOfWork}
    (h : Claims env q g.begin a isExisting v) (hne : t ≠ q.transactionId) :
    v.session.transactions.get t = g.database.transactions.get t := by
  have hmarked : (g.marked env q).transactions.get t = g.database.transactions.get t := by
    have hmoved := get_updated_of_ne env.db (setState .executing) (fun _ => rfl) g.database hne
    rw [marked, dispatchStarted, get_updated_of_ne env.db _ _ _ hne]
    exact hmoved
  rcases claims_cases h with ⟨-, -, rfl⟩ | ⟨-, -, -, attempts, -, rfl⟩
  · exact hmarked
  · exact hmarked

/-- **A call that returns keeps the paid rows**: that of its own transaction
    answers it, and the others are left alone. -/
theorem paidRow_of_returned {r : ExecutionResult} {s' : AsyncState}
    (hrun : asyncExecutePayment env q g.begin = (.ok r, s')) (hpaid : g.database.PaidRow t) :
    s'.uow.session.PaidRow t := by
  by_cases hown : t = q.transactionId
  · rw [hown] at hpaid
    obtain ⟨paid, hfound, -⟩ := exists_foundPaid hpaid
    rw [asyncExecutePayment_of_paid (s := g.begin) hfound] at hrun
    obtain ⟨-, rfl⟩ := Prod.mk.inj hrun
    rw [hown]
    exact hpaid
  have hkept {db : Database} (heq : db.transactions.get t = g.database.transactions.get t) :
      db.PaidRow t := by
    rw [Database.PaidRow, heq]
    exact hpaid
  have hreturned := asyncExecutePayment_returned hrun
  cases hreturned with
  | repeated => exact hpaid
  | @rejected result service uow hmove =>
      exact hkept (transition_keepsRow hown g.begin.uow () uow hmove)
  | notExecutable => exact hpaid
  | answered hclaims => exact hkept (get_of_claims hclaims hown)
  | @recorded a isExisting v uow answer hclaims hanswer hadapter hrecord =>
      have hrow := recordAnswer_keepsRow (t := t) hown v () uow hrecord
      exact hkept (hrow.trans (get_of_claims hclaims hown))

theorem step_keepsPaid (action : ProcessAction) (hpaid : g.database.PaidRow t) :
    (g.step action).2.database.PaidRow t := by
  cases action with
  | restart => exact hpaid
  | call env q ending =>
      cases ending with
      | commit =>
          cases hrun : asyncExecutePayment env q g.begin with
          | mk outcome s' =>
              rw [step, hrun]
              cases outcome with
              | ok r => exact paidRow_of_returned hrun hpaid
              | error err => exact hpaid
      | leave => exact hpaid
      | crash asked => exact hpaid

/-- **A paid row answers every call for it.** -/
theorem step_repeatsRecord (action : ProcessAction)
    (hpaid : g.database.PaidRow q.transactionId) :
    RepeatsRecord q (stepAt step g action) := by
  rintro env ending rfl
  obtain ⟨paid, hfound, hstate, hrow⟩ := exists_foundPaid hpaid
  have hrun : asyncExecutePayment env q g.begin = _ := asyncExecutePayment_of_paid hfound
  have hreports : ReportsRecord (replayedSuccess env q paid.providerPaymentId
      "Payment previously executed successfully.") q.transactionId g.database :=
    ⟨paid, hrow, Or.inl ⟨hstate, rfl, rfl⟩⟩
  rw [stepAt_post, stepAt_out, stepAt_pre]
  cases ending with
  | commit =>
      rw [step, hrun]
      refine ⟨rfl, ?_⟩
      intro outcome houtcome
      obtain rfl := Option.some.inj houtcome
      exact ⟨_, rfl, hreports⟩
  | leave =>
      rw [step, hrun]
      refine ⟨rfl, ?_⟩
      intro outcome houtcome
      obtain rfl := Option.some.inj houtcome
      exact ⟨_, rfl, hreports⟩
  | crash asked =>
      rw [step, hrun]
      refine ⟨?_, ?_⟩
      · cases asked with
        | true => rfl
        | false => rfl
      · intro outcome houtcome
        cases houtcome

/-! ## Rows that make a repeat raise -/

/-- A row that is neither paid nor AUTHORIZED, and that cannot be rejected,
    makes every call with an AUTHORIZED snapshot raise. -/
theorem raises_of_stuck {state : TransactionState} (hsnapshot : q.transaction.state = .authorized)
    (hstored : StoredIn q.transactionId state g.begin.uow) (hunpaid : state.value ∉ paidStates)
    (hstuck : .rejected ∉ state.legalNextStates) (hunclaimable : state ≠ .authorized) :
    ∃ err s', asyncExecutePayment env q g.begin = (.error err, s') := by
  cases hrun : asyncExecutePayment env q g.begin with
  | mk outcome s' =>
      cases outcome with
      | error err => exact ⟨err, s', rfl⟩
      | ok r =>
          exfalso
          have hnotClaimable {a : ExecutionAttemptRow} {isExisting : Bool} {v : UnitOfWork}
              (hclaims : Claims env q g.begin a isExisting v) : False := by
            obtain ⟨row, hrow, hvalue⟩ := hclaims.claimable.stored
            obtain ⟨row', hrow', hvalue'⟩ := hstored
            obtain rfl := Option.some.inj (hrow.symm.trans hrow')
            have hsame : TransactionState.ofValue state.value = some .authorized := by
              rw [← hvalue', hvalue]
              rfl
            rw [TransactionState.ofValue_value] at hsame
            exact hunclaimable (Option.some.inj hsame)
          have hreturned := asyncExecutePayment_returned hrun
          cases hreturned with
          | repeated hpaid =>
              rw [foundPaid_of_storedIn (s := g.begin) hstored hunpaid] at hpaid
              cases hpaid
          | rejected hmove =>
              rw [transitionTransactionState_of_illegal hstored hstuck] at hmove
              cases (Prod.mk.inj hmove).1
          | notExecutable hstate => exact hstate hsnapshot
          | answered hclaims => exact hnotClaimable hclaims
          | recorded hclaims => exact hnotClaimable hclaims

theorem not_repeatsRecord_of_raises {err : PyError} {s' : AsyncState}
    (hrun : asyncExecutePayment env q g.begin = (.error err, s')) :
    ¬ RepeatsRecord q (stepAt step g (.call env q .commit)) := by
  intro hrepeats
  obtain ⟨-, hreturns⟩ := hrepeats env .commit rfl
  have hout : (stepAt step g (.call env q .commit)).out = some (.error err) := by
    rw [stepAt_out, step, hrun]
  obtain ⟨r, hr, -⟩ := hreturns _ hout
  cases hr

/-! ## What a call leaves behind -/

/-- The call is one for a paid row, or the provider is asked and pays. -/
def Paying (g : GatewayState) (env : AsyncEnv) (q : AsyncRequest) : Prop :=
  g.database.PaidRow q.transactionId
    ∨ Reaches g env q
      ∧ ∃ answer, env.adapter.executePayment q.trusted = .ok answer ∧ answer.success = true

theorem committedIn_iff {g' : GatewayState} :
    CommittedIn g env q g'
      ↔ ∃ r s', asyncExecutePayment env q g.begin = (.ok r, s')
        ∧ g' = ⟨s'.service, s'.uow.session, s'.dispatched⟩ := by
  rw [CommittedIn, step]
  cases hrun : asyncExecutePayment env q g.begin with
  | mk outcome s' =>
      cases outcome with
      | ok r =>
          constructor
          · rintro ⟨r', h⟩
            exact ⟨r, s', rfl, (Prod.mk.inj h).2.symm⟩
          · rintro ⟨r', s'', h, rfl⟩
            obtain ⟨-, rfl⟩ := Prod.mk.inj h
            exact ⟨r, rfl⟩
      | error err =>
          constructor
          · rintro ⟨r', h⟩
            cases (Prod.mk.inj h).1
          · rintro ⟨r', s'', h, -⟩
            cases (Prod.mk.inj h).1

theorem paidRow_of_paying {g' : GatewayState} (hcommitted : CommittedIn g env q g')
    (h : Paying g env q) : g'.database.PaidRow q.transactionId := by
  obtain ⟨r, s', hrun, rfl⟩ := committedIn_iff.mp hcommitted
  rcases h with hpaid | ⟨⟨a, isExisting, v, hasks⟩, answer, hadapter, hsuccess⟩
  · exact paidRow_of_returned hrun hpaid
  · rw [asyncExecutePayment_of_asks hasks] at hrun
    obtain ⟨answer', uow, hadapter', hrecord, -, rfl⟩ := invokeProvider_eq_ok_iff.mp hrun
    obtain rfl := Except.ok.inj (hadapter.symm.trans hadapter')
    exact paidRow_of_committed (recordAnswer_returns env q a hsuccess v () uow trivial hrecord)

theorem storedIn_of_recorded_unknown {a : ExecutionAttemptRow} {answer : ExecutionResult}
    {v uow : UnitOfWork} (hstored : StoredIn q.transactionId .executing v)
    (hfailed : answer.success = false) (hrecord : recordAnswer env q a answer v = (.ok (), uow)) :
    StoredIn q.transactionId .executing uow := by
  have hnot : ¬ answer.success = true := by
    rw [hfailed]
    exact Bool.false_ne_true
  by_cases hunknown : answer.providerStatus = some .unknown
  · rw [recordAnswer, if_neg hnot, if_pos hunknown,
      bind_of_ok (recordProviderOutcome_unknown hstored env.db _)] at hrecord
    have hnoted := hstored.outcomeNoted env.db "UNKNOWN" answer.externalReference
    exact hnoted.of_transactions_eq (recordOutcome_transactions hrecord)
  · rw [recordAnswer_of_failed hstored hfailed hunknown] at hrecord
    cases (Prod.mk.inj hrecord).1

theorem storedIn_of_not_paying {g' : GatewayState} (hsnapshot : q.transaction.state = .authorized)
    (hcommitted : CommittedIn g env q g') (h : ¬ Paying g env q) :
    StoredIn q.transactionId .executing g'.begin.uow
      ∨ StoredIn q.transactionId .rejected g'.begin.uow := by
  obtain ⟨r, s', hrun, rfl⟩ := committedIn_iff.mp hcommitted
  have hreturned := asyncExecutePayment_returned hrun
  cases hreturned with
  | repeated hpaid =>
      obtain ⟨hrow, hstate⟩ := Option.filter_eq_some_iff.mp hpaid
      exact absurd (Or.inl ⟨_, hrow, of_decide_eq_true hstate⟩) h
  | @rejected result service uow hmove =>
      exact Or.inr (transition_returns (P := fun _ => True) g.begin.uow () uow trivial hmove)
  | notExecutable hstate => exact absurd hsnapshot hstate
  | answered hclaims => exact Or.inl (claimed_of_claims hclaims).executing
  | @recorded a isExisting v uow answer hclaims hanswer hadapter hrecord =>
      by_cases hsuccess : answer.success = true
      · exact absurd (Or.inr ⟨⟨a, isExisting, v, hclaims, hanswer⟩, answer, hadapter, hsuccess⟩) h
      · rw [Bool.not_eq_true] at hsuccess
        have hstored := storedIn_of_recorded_unknown (claimed_of_claims hclaims).executing hsuccess
          hrecord
        exact Or.inl hstored

/-- **Every repeat of a returned and committed call returns the recorded
    outcome**, whatever else is called in between, exactly when the call paid
    or found the row paid. -/
theorem repeats_record_iff (g g' : GatewayState) (env : AsyncEnv) (q : AsyncRequest)
    (hsnapshot : q.transaction.state = .authorized) (hcommitted : CommittedIn g env q g') :
    (∀ actions, ∀ c ∈ steps step g' actions, RepeatsRecord q c) ↔ Paying g env q := by
  constructor
  · intro h
    by_contra hnot
    have hrepeats : RepeatsRecord q (stepAt step g' (.call env q .commit)) :=
      h [.call env q .commit] _ (List.mem_singleton_self _)
    have hraises : ∃ err s', asyncExecutePayment env q g'.begin = (.error err, s') := by
      rcases storedIn_of_not_paying hsnapshot hcommitted hnot with hstored | hstored
      · exact raises_of_stuck hsnapshot hstored (by decide) (by decide) (by decide)
      · exact raises_of_stuck hsnapshot hstored (by decide) (by decide) (by decide)
    obtain ⟨err, s', hrun⟩ := hraises
    exact not_repeatsRecord_of_raises hrun hrepeats
  · intro h actions c hc
    obtain ⟨before, action, after, -, rfl⟩ := mem_steps_iff.mp hc
    have hpaid := exec_inv (I := fun g => g.database.PaidRow q.transactionId)
      (fun (g : GatewayState) action hpaid => step_keepsPaid action hpaid)
      (paidRow_of_paying hcommitted h) before
    exact step_repeatsRecord action hpaid

/-! ## A payment and an UNKNOWN outcome, repeated -/

namespace Sample

open AsyncPaymentExecution.Sample

def unknownEnv : AsyncEnv :=
  { asyncEnv with adapter := MandateGateway.Sample.answering false .unknown }

def afterCall (env : AsyncEnv) : GatewayState := (idle.step (.call env request .commit)).2

theorem paid_committedIn : CommittedIn idle paidEnv request (afterCall paidEnv) :=
  ⟨_, rfl⟩

end Sample

theorem repeats_record_iff_paid :
    (∀ actions, ∀ c ∈ steps step (Sample.afterCall Sample.paidEnv) actions,
        RepeatsRecord AsyncPaymentExecution.Sample.request c)
      ↔ Paying Sample.idle Sample.paidEnv AsyncPaymentExecution.Sample.request :=
  repeats_record_iff Sample.idle (Sample.afterCall Sample.paidEnv) Sample.paidEnv
    AsyncPaymentExecution.Sample.request rfl Sample.paid_committedIn

/-- The call returns an UNKNOWN outcome and is committed, and its repeat raises. -/
theorem unknown_repeat_raises :
    CommittedIn Sample.idle Sample.unknownEnv AsyncPaymentExecution.Sample.request
        (Sample.afterCall Sample.unknownEnv)
      ∧ StoredIn "tx-1" .executing (Sample.afterCall Sample.unknownEnv).begin.uow
      ∧ ∃ err, ((Sample.afterCall Sample.unknownEnv).step (.call Sample.unknownEnv
        AsyncPaymentExecution.Sample.request .commit)).1 = some (.error err) :=
  ⟨⟨_, rfl⟩, ⟨_, rfl, rfl⟩, _, rfl⟩

end GatewayState

end MandateGateway
