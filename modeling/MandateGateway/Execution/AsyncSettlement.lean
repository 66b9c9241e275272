import MandateGateway.Execution.AsyncService
import MandateGateway.Execution.ToolProxy

/-! # When a reported success is a payment

    A persistent execution may report success without asking the provider: for
    a row or an attempt that is recorded as paid, but also for an attempt that
    is merely claimed, for a cached result, and after waiting in vain.  This
    file says which calls report a success that the database does not bear
    out. -/

namespace MandateGateway

open Exceptions Raising ExecutionAttemptRepository TransactionRepository

/-- The transaction's row is SUCCESS or COMMITTED. -/
def Database.PaidRow (db : Database) (t : String) : Prop :=
  ∃ row, db.transactions.get t = some row ∧ row.state ∈ AsyncPaymentExecution.paidStates

/-- An attempt of the transaction is recorded as SUCCESS. -/
def Database.PaidAttempt (db : Database) (t : String) : Prop :=
  ∃ a ∈ db.executionAttempts.rows, a.transactionId = Text.strip t ∧ a.status = "SUCCESS"

/-- The database records that the provider reported SUCCESS. -/
def Database.Settled (db : Database) (t : String) : Prop := db.PaidRow t ∨ db.PaidAttempt t

theorem Database.not_paidRow {db : Database} {t : String} {row : TransactionRow}
    (hrow : db.transactions.get t = some row)
    (hstate : row.state ∉ AsyncPaymentExecution.paidStates) : ¬ db.PaidRow t := by
  rintro ⟨row', hrow', hpaid⟩
  obtain rfl := Option.some.inj (hrow.symm.trans hrow')
  exact hstate hpaid

namespace AsyncPaymentExecution

open AsyncAction

/-- The checks pass, and the row is there to be claimed. -/
structure Claimable (q : AsyncRequest) (db : Database) : Prop where
  authorized : Authorized q.authorization
  context    : ContextMatches q.proposal q.transaction
  executable : q.transaction.state = .authorized
  stored     : ∃ row, db.transactions.get q.transactionId = some row ∧ row.state = "AUTHORIZED"

/-- How an attempt that is not recorded as SUCCESS is answered with a success
    without the provider. -/
inductive AnswersSuccess (env : AsyncEnv) (q : AsyncRequest) (service : PaymentExecutionService)
    (a : ExecutionAttemptRow) (isExisting : Bool) : Prop where
  /-- an unfinished attempt was there, and the cache is empty or has a success -/
  | unfinished (hexisting : isExisting = true) (hstatus : a.status ∈ inFlightStatuses)
      (hcached : ∀ r, service.results.get q.transactionId = some r → r.success = true)
  /-- the attempt is new or has failed, and the cache has a success -/
  | cached (hstatus : ¬ (isExisting = true ∧ a.status ∈ inFlightStatuses)) {r : ExecutionResult}
      (hcached : service.results.get q.transactionId = some r) (hsuccess : r.success = true)
  /-- the attempt is new or has failed, another caller is in flight, and the
      first result that appears in the cache is a success or none appears -/
  | waited (hstatus : ¬ (isExisting = true ∧ a.status ∈ inFlightStatuses))
      (hempty : service.results.get q.transactionId = none)
      (hflight : q.transactionId ∈ service.inFlightTxs)
      (hobserved : ∀ r, (List.finRange 51).findSome? env.observed = some r → r.success = true)

/-- The calls that report a success which the database does not bear out. -/
def Misreports (env : AsyncEnv) (q : AsyncRequest) (s : AsyncState) : Prop :=
  Claimable q s.uow.session ∧ (q.claim env).check = .ok ()
    ∧ ∃ a isExisting uow, (q.claim env).clean.Grants env.db s.uow a isExisting uow
      ∧ ¬ uow.session.Settled q.transactionId
      ∧ AnswersSuccess env q s.service a isExisting

/-! ## Answers without the provider -/

variable {env : AsyncEnv} {q : AsyncRequest} {s : AsyncState}

theorem awaited_success_iff {a : ExecutionAttemptRow} :
    (awaited env q a).success = true
      ↔ ∀ r, (List.finRange 51).findSome? env.observed = some r → r.success = true := by
  rw [awaited]
  cases (List.finRange 51).findSome? env.observed with
  | none => exact ⟨fun _ r h => (nomatch h), fun _ => rfl⟩
  | some r =>
      constructor
      · intro h r' hr'
        obtain rfl := Option.some.inj hr'
        exact h
      · intro h
        exact h r rfl

variable {service : PaymentExecutionService} {a : ExecutionAttemptRow} {isExisting : Bool}

/-- A success without the provider repeats that of the attempt, or is one of
    the answers to an attempt that is not recorded as SUCCESS. -/
theorem answersSuccess_of_answer {r : ExecutionResult}
    (h : answerWithoutProvider env q service a isExisting = some r)
    (hsuccess : r.success = true) :
    (isExisting = true ∧ a.status = "SUCCESS") ∨ AnswersSuccess env q service a isExisting := by
  rw [answerWithoutProvider] at h
  by_cases hpaid : isExisting = true ∧ a.status = "SUCCESS"
  · exact .inl hpaid
  rw [if_neg hpaid] at h
  refine .inr ?_
  by_cases hunfinished : isExisting = true ∧ a.status ∈ inFlightStatuses
  · rw [if_pos hunfinished] at h
    refine .unfinished hunfinished.1 hunfinished.2 ?_
    intro r' hr'
    rw [hr'] at h
    obtain rfl := Option.some.inj h
    exact hsuccess
  rw [if_neg hunfinished] at h
  cases hcached : service.results.get q.transactionId with
  | some r' =>
      rw [hcached] at h
      obtain rfl := Option.some.inj h
      exact .cached hunfinished hcached hsuccess
  | none =>
      rw [hcached] at h
      dsimp only at h
      by_cases hflight : q.transactionId ∈ service.inFlightTxs
      · rw [if_pos hflight] at h
        obtain rfl := Option.some.inj h
        exact .waited hunfinished hcached hflight (awaited_success_iff.mp hsuccess)
      · rw [if_neg hflight] at h
        cases h

theorem AnswersSuccess.exists_answer (h : AnswersSuccess env q service a isExisting)
    (hunpaid : ¬ (isExisting = true ∧ a.status = "SUCCESS")) :
    ∃ r, answerWithoutProvider env q service a isExisting = some r ∧ r.success = true := by
  rw [answerWithoutProvider, if_neg hunpaid]
  cases h with
  | unfinished hexisting hstatus hcached =>
      rw [if_pos ⟨hexisting, hstatus⟩]
      refine ⟨_, rfl, ?_⟩
      cases hget : service.results.get q.transactionId with
      | none => rfl
      | some r => exact hcached r hget
  | cached hstatus hcached hsuccess =>
      rw [if_neg hstatus, hcached]
      exact ⟨_, rfl, hsuccess⟩
  | waited hstatus hempty hflight hobserved =>
      rw [if_neg hstatus, hempty]
      dsimp only
      rw [if_pos hflight]
      exact ⟨_, rfl, awaited_success_iff.mpr hobserved⟩

/-! ## The provider's own success -/

theorem success_of_finalResult {answer : ExecutionResult}
    (h : (finalResult q answer).success = true) : answer.success = true := by
  rw [finalResult] at h
  by_cases hsuccess : answer.success = true
  · exact hsuccess
  · rw [if_neg hsuccess] at h
    by_cases hunknown : answer.providerStatus = some .unknown
    · rw [if_pos hunknown] at h
      cases h
    · rw [if_neg hunknown] at h
      cases h

theorem recordAnswer_returns (env : AsyncEnv) (q : AsyncRequest) (a : ExecutionAttemptRow)
    {answer : ExecutionResult} (hsuccess : answer.success = true) :
    Returns (fun _ => True) (recordAnswer env q a answer)
      fun _ => StoredIn q.transactionId .committed := by
  rw [recordAnswer, if_pos hsuccess]
  refine Returns.bind (Q := fun _ _ => True) (Returns.of_forall fun _ _ => trivial) fun _ => ?_
  refine Returns.bind transition_returns fun _ => ?_
  refine Returns.bind (Q := fun _ => StoredIn q.transactionId .committed) ?_ fun _ => ?_
  · intro uow u uow' hstored hrun
    exact hstored.of_transactions_eq (recordOutcome_transactions hrun)
  · intro uow u uow' hstored hrun
    exact hstored.of_transactions_eq (createEvent_transactions hrun)

theorem paidRow_of_committed {t : String} {uow : UnitOfWork} (h : StoredIn t .committed uow) :
    uow.session.PaidRow t := by
  obtain ⟨row, hrow, hstate⟩ := h
  refine ⟨row, hrow, ?_⟩
  rw [hstate]
  exact List.mem_cons_self

/-- **A success that the provider reports is settled in the database.** -/
theorem invokeProvider_returns (env : AsyncEnv) (q : AsyncRequest) (a : ExecutionAttemptRow) :
    Returns (fun _ => True) (invokeProvider env q a)
      fun r s => r.success = true → s.uow.session.Settled q.transactionId := by
  rw [invokeProvider]
  refine Returns.andFinally ?_
  refine Returns.bind (Q := fun _ _ => True) (Returns.of_forall fun _ _ => trivial) fun _ => ?_
  refine Returns.bind (Q := fun _ _ => True) (Returns.of_forall fun _ _ => trivial)
    fun answer => ?_
  by_cases hsuccess : answer.success = true
  · -- the record settles the transaction, and what follows leaves the database alone
    refine Returns.bind
      ((recordAnswer_returns env q a hsuccess).zoom fun _ _ => rfl) fun _ => ?_
    intro s r s' hstored hrun _
    obtain ⟨-, rfl⟩ := Prod.mk.inj hrun
    exact .inl (paidRow_of_committed hstored)
  · intro s r s' _ hrun hr
    obtain ⟨u, s₁, -, hcache⟩ := bind_eq_ok_iff.mp hrun
    obtain ⟨hfinal, -⟩ := Prod.mk.inj hcache
    obtain rfl := Except.ok.inj hfinal
    exact absurd (success_of_finalResult hr) hsuccess

/-! ## Claiming the attempt -/

theorem not_paidRow_of_authorized {t : String} {uow : UnitOfWork}
    (h : StoredIn t .authorized uow) : ¬ uow.session.PaidRow t := by
  obtain ⟨row, hrow, hstate⟩ := h
  exact Database.not_paidRow hrow (by rw [hstate]; decide)

theorem not_paidRow_dispatchStarted (env : DbEnv) {t : String} {uow : UnitOfWork}
    (h : StoredIn t .authorized uow) : ¬ (dispatchStarted env t uow.session).PaidRow t := by
  obtain ⟨row, hrow, -⟩ := h
  obtain ⟨row', hrow', hstate'⟩ := get_dispatchStarted env hrow
  exact Database.not_paidRow hrow' (by rw [hstate']; decide)

theorem paidRow_dispatchStarted_iff (env : DbEnv) {t : String} {uow : UnitOfWork}
    (h : StoredIn t .authorized uow) :
    (dispatchStarted env t uow.session).PaidRow t ↔ uow.session.PaidRow t :=
  iff_of_false (not_paidRow_dispatchStarted env h) (not_paidRow_of_authorized h)

/-- Units of work that differ in their transaction rows only grant a claim
    alike, and settle the transaction alike if their rows do. -/
theorem grants_congr {env : DbEnv} {c : AttemptClaim} {uow v : UnitOfWork} (uow' : UnitOfWork)
    {a : ExecutionAttemptRow} {isExisting : Bool} {t : String}
    (h : c.Grants env uow a isExisting v)
    (hattempts : uow'.session.executionAttempts = uow.session.executionAttempts)
    (hcommitted : uow'.committed = uow.committed)
    (hrow : uow'.session.PaidRow t ↔ uow.session.PaidRow t) :
    ∃ v', c.Grants env uow' a isExisting v' ∧ (v'.session.Settled t ↔ v.session.Settled t) := by
  have hfind (m k : String) : attemptsByKey m k uow'.session = attemptsByKey m k uow.session := by
    rw [attemptsByKey, attemptsByKey, hattempts]
  cases h with
  | existing hfound htx hpayload =>
      refine ⟨uow', .existing ((hfind _ _).trans hfound) htx hpayload, ?_⟩
      rw [Database.Settled, Database.Settled, hrow, Database.PaidAttempt, hattempts]
      exact Iff.rfl
  | @new hfree attempts hinsert =>
      have hinsert' : uow'.session.executionAttempts.insert (c.newAttempt env) = some attempts := by
        rw [hattempts]
        exact hinsert
      exact ⟨_, .new ((hfind _ _).trans hfree) hinsert', or_congr hrow Iff.rfl⟩
  | @recovered hfree htaken a hfound htx =>
      have htaken' : uow'.session.executionAttempts.insert (c.newAttempt env) = none := by
        rw [hattempts]
        exact htaken
      have hfound' : attemptsByKey c.merchantId c.idempotencyKey uow'.committed = [a] := by
        rw [hcommitted]
        exact hfound
      refine ⟨_, .recovered ((hfind _ _).trans hfree) htaken' hfound' htx, ?_⟩
      rw [UnitOfWork.rollback, UnitOfWork.rollback, hcommitted]

theorem settled_of_grants {env : DbEnv} {c : AttemptClaim} {uow v : UnitOfWork}
    {a : ExecutionAttemptRow} {isExisting : Bool} {t : String}
    (htx : c.transactionId = Text.strip t) (h : c.Grants env uow a isExisting v)
    (hexisting : isExisting = true) (hstatus : a.status = "SUCCESS") : v.session.Settled t := by
  cases h with
  | existing hfound htransaction _ =>
      exact .inr ⟨a, mem_of_attemptsByKey hfound, htransaction.trans htx, hstatus⟩
  | new _ _ => cases hexisting
  | recovered _ _ hfound htransaction =>
      exact .inr ⟨a, mem_of_attemptsByKey hfound, htransaction.trans htx, hstatus⟩

/-! ## From the call to the claim -/

theorem rejectStored_returns (env : AsyncEnv) (q : AsyncRequest) (rej : Rejection) :
    Returns (fun _ => True) (rejectStored env q rej) fun r _ => r.success = false := by
  intro s r s' _ h
  obtain ⟨res, s₁, hreject, hrest⟩ := bind_eq_ok_iff.mp h
  obtain ⟨hres, -⟩ := Prod.mk.inj hreject
  obtain ⟨u, s₂, -, hpure⟩ := bind_eq_ok_iff.mp hrest
  obtain ⟨hr, -⟩ := Prod.mk.inj hpure
  rw [← Except.ok.inj hr, ← Except.ok.inj hres]
  rfl

theorem claimAndResolve_eq_ok_iff {r : ExecutionResult} {s' : AsyncState} :
    claimAndResolve env q s = (.ok r, s')
      ↔ StoredIn q.transactionId .authorized s.uow
        ∧ (q.claim env).check = .ok ()
        ∧ ∃ a isExisting v,
          (q.claim env).clean.Grants env.db
            { s.uow with session := dispatchStarted env.db q.transactionId s.uow.session }
            a isExisting v
          ∧ resolveAttempt env q a isExisting { s with uow := v } = (.ok r, s') := by
  rw [claimAndResolve, bind_eq_ok_iff]
  constructor
  · rintro ⟨u, s₁, hmark, hrest⟩
    obtain ⟨uow₁, hmarked, rfl⟩ := zoom_eq_ok_iff.mp hmark
    obtain ⟨hstored, rfl⟩ := markProviderDispatchStarted_eq_ok_iff.mp hmarked
    obtain ⟨⟨a, isExisting⟩, s₂, hclaim, hresolve⟩ := bind_eq_ok_iff.mp hrest
    obtain ⟨v, hclaimed, rfl⟩ := zoom_eq_ok_iff.mp hclaim
    obtain ⟨hcheck, hgrants⟩ := claimAttempt_eq_ok_iff.mp hclaimed
    exact ⟨hstored, hcheck, a, isExisting, v, hgrants, hresolve⟩
  · rintro ⟨hstored, hcheck, a, isExisting, v, hgrants, hresolve⟩
    refine ⟨(), _, zoom_eq_ok_iff.mpr
      ⟨_, markProviderDispatchStarted_eq_ok_iff.mpr ⟨hstored, rfl⟩, rfl⟩, bind_eq_ok_iff.mpr ?_⟩
    exact ⟨(a, isExisting), _, zoom_eq_ok_iff.mpr
      ⟨v, claimAttempt_eq_ok_iff.mpr ⟨hcheck, hgrants⟩, rfl⟩, hresolve⟩

theorem resolveAttempt_of_answer {r : ExecutionResult}
    (h : answerWithoutProvider env q s.service a isExisting = some r) :
    resolveAttempt env q a isExisting s = (.ok r, s) := by
  have hasks : asks (fun s : AsyncState => answerWithoutProvider env q s.service a isExisting) s
      = ((.ok (some r) : Except PyError _), s) := by
    rw [asks, h]
  rw [resolveAttempt, bind_of_ok hasks]
  rfl

theorem resolveAttempt_of_no_answer
    (h : answerWithoutProvider env q s.service a isExisting = none) :
    resolveAttempt env q a isExisting s = invokeProvider env q a s := by
  have hasks : asks (fun s : AsyncState => answerWithoutProvider env q s.service a isExisting) s
      = ((.ok none : Except PyError _), s) := by
    rw [asks, h]
  rw [resolveAttempt, bind_of_ok hasks]

/-- The row that a call takes for paid. -/
def foundPaid (q : AsyncRequest) (db : Database) : Option TransactionRow :=
  (db.transactions.get q.transactionId).filter fun r => decide (r.state ∈ paidStates)

theorem asyncExecutePayment_of_paid {paid : TransactionRow}
    (h : foundPaid q s.uow.session = some paid) :
    asyncExecutePayment env q s = (.ok (replayedSuccess env q paid.providerPaymentId
      "Payment previously executed successfully."), s) := by
  have hread : onDb (getTransaction q.transactionId) s
      = (.ok (s.uow.session.transactions.get q.transactionId), s) := rfl
  rw [foundPaid] at h
  rw [asyncExecutePayment, bind_of_ok hread, h]
  rfl

theorem asyncExecutePayment_of_unpaid (h : foundPaid q s.uow.session = none) :
    asyncExecutePayment env q s = executeUnpaid env q s := by
  have hread : onDb (getTransaction q.transactionId) s
      = (.ok (s.uow.session.transactions.get q.transactionId), s) := rfl
  rw [foundPaid] at h
  rw [asyncExecutePayment, bind_of_ok hread, h]

/-- **A claimable call is decided by its claim.** -/
theorem asyncExecutePayment_of_claimable (h : Claimable q s.uow.session) :
    asyncExecutePayment env q s = claimAndResolve env q s := by
  obtain ⟨row, hrow, hstate⟩ := h.stored
  have hunpaid : foundPaid q s.uow.session = none := by
    rw [foundPaid, hrow, Option.filter_some, hstate]
    rfl
  have hcontext := verifyContextAndOperation_eq_none_iff.mpr h.context
  have hexecutable : ¬ q.transaction.isExecutable = false := by
    rw [Bool.not_eq_false]
    exact beq_iff_eq.mpr h.executable
  rw [asyncExecutePayment_of_unpaid hunpaid, executeUnpaid,
    verifyPreExecutionAuth_eq_none_iff.mpr h.authorized]
  dsimp only
  rw [bind_of_ok (ofExcept_of_eq hcontext s)]
  dsimp only
  rw [if_neg hexecutable]

theorem executeUnpaid_success {r : ExecutionResult} {s' : AsyncState}
    (h : executeUnpaid env q s = (.ok r, s')) (hsuccess : r.success = true) :
    Authorized q.authorization ∧ ContextMatches q.proposal q.transaction
      ∧ q.transaction.state = .authorized ∧ claimAndResolve env q s = (.ok r, s') := by
  have hreject (rej : Rejection) {s₁ : AsyncState}
      (hrun : rejectStored env q rej s₁ = (.ok r, s')) : False := by
    have hfalse : r.success = false := rejectStored_returns env q rej s₁ r s' trivial hrun
    rw [hsuccess] at hfalse
    cases hfalse
  rw [executeUnpaid] at h
  cases hauth : verifyPreExecutionAuth q.authorization with
  | some rej =>
      rw [hauth] at h
      exact (hreject rej h).elim
  | none =>
      rw [hauth] at h
      obtain ⟨verdict, s₁, hcontext, hrest⟩ := bind_eq_ok_iff.mp h
      obtain ⟨hverdict, rfl⟩ := ofExcept_eq_ok_iff.mp hcontext
      cases verdict with
      | some rej => exact (hreject rej hrest).elim
      | none =>
          dsimp only at hrest
          by_cases hexecutable : q.transaction.isExecutable = false
          · rw [if_pos hexecutable] at hrest
            obtain ⟨hr, -⟩ := Prod.mk.inj hrest
            rw [← Except.ok.inj hr] at hsuccess
            cases hsuccess
          · rw [if_neg hexecutable] at hrest
            rw [Bool.not_eq_false] at hexecutable
            exact ⟨verifyPreExecutionAuth_eq_none_iff.mp hauth,
              verifyContextAndOperation_eq_none_iff.mp hverdict,
              beq_iff_eq.mp hexecutable, hrest⟩

theorem success_cases {r : ExecutionResult} {s' : AsyncState}
    (h : asyncExecutePayment env q s = (.ok r, s')) (hsuccess : r.success = true) :
    (s.uow.session.PaidRow q.transactionId ∧ s' = s)
      ∨ (Authorized q.authorization ∧ ContextMatches q.proposal q.transaction
        ∧ q.transaction.state = .authorized ∧ claimAndResolve env q s = (.ok r, s')) := by
  cases hfound : foundPaid q s.uow.session with
  | some paid =>
      rw [asyncExecutePayment_of_paid hfound] at h
      obtain ⟨-, rfl⟩ := Prod.mk.inj h
      obtain ⟨hrow, hpaid⟩ := Option.filter_eq_some_iff.mp hfound
      exact .inl ⟨⟨paid, hrow, of_decide_eq_true hpaid⟩, rfl⟩
  | none =>
      rw [asyncExecutePayment_of_unpaid hfound] at h
      exact .inr (executeUnpaid_success h hsuccess)

/-- **Every success that a call reports is settled in the database, exactly
    when the call is not one of those that misreport.** -/
theorem success_settled_iff (env : AsyncEnv) (q : AsyncRequest) (s : AsyncState) :
    (∀ r s', asyncExecutePayment env q s = (.ok r, s') → r.success = true →
        s'.uow.session.Settled q.transactionId)
      ↔ ¬ Misreports env q s := by
  constructor
  · -- the call claims the attempt, and answers with the success that misreports
    rintro h ⟨hclaimable, hcheck, a, isExisting, v, hgrants, hunsettled, hanswers⟩
    have hstored : StoredIn q.transactionId .authorized s.uow := hclaimable.stored
    obtain ⟨v', hgrants', hsettled⟩ := grants_congr
      { s.uow with session := dispatchStarted env.db q.transactionId s.uow.session }
      hgrants rfl rfl (paidRow_dispatchStarted_iff env.db hstored)
    have hunpaid : ¬ (isExisting = true ∧ a.status = "SUCCESS") := fun hpaid =>
      hunsettled (settled_of_grants rfl hgrants hpaid.1 hpaid.2)
    obtain ⟨r, hanswer, hsuccess⟩ := hanswers.exists_answer hunpaid
    refine hunsettled (hsettled.mp (h r { s with uow := v' } ?_ hsuccess))
    rw [asyncExecutePayment_of_claimable hclaimable]
    exact claimAndResolve_eq_ok_iff.mpr
      ⟨hstored, hcheck, a, isExisting, v', hgrants', resolveAttempt_of_answer hanswer⟩
  · intro hnot r s' hrun hsuccess
    rcases success_cases hrun hsuccess with ⟨hpaid, rfl⟩ | ⟨hauth, hcontext, hstate, hclaimed⟩
    · exact .inl hpaid
    obtain ⟨hstored, hcheck, a, isExisting, v, hgrants, hresolve⟩ :=
      claimAndResolve_eq_ok_iff.mp hclaimed
    cases hanswer : answerWithoutProvider env q s.service a isExisting with
    | none =>
        -- the provider was asked, and its success is recorded before it is returned
        rw [resolveAttempt_of_no_answer (s := { s with uow := v }) hanswer] at hresolve
        exact invokeProvider_returns env q a _ r s' trivial hresolve hsuccess
    | some r' =>
        rw [resolveAttempt_of_answer (s := { s with uow := v }) hanswer] at hresolve
        obtain ⟨hr, rfl⟩ := Prod.mk.inj hresolve
        obtain rfl := Except.ok.inj hr
        by_contra hunsettled
        obtain ⟨v', hgrants', hsettled⟩ := grants_congr s.uow hgrants rfl rfl
          (paidRow_dispatchStarted_iff env.db hstored).symm
        rcases answersSuccess_of_answer hanswer hsuccess with hpaid | hanswers
        · exact hunsettled (settled_of_grants rfl hgrants hpaid.1 hpaid.2)
        · exact hnot ⟨⟨hauth, hcontext, hstate, hstored⟩, hcheck, a, isExisting, v', hgrants',
            fun h => hunsettled (hsettled.mp h), hanswers⟩

/-! ## A retry after a crash

    A crash has left the attempt CLAIMED and the row AUTHORIZED: the provider
    was not asked, and the retry does not ask it. -/

namespace Sample

open MandateGateway.Sample

def payloadFingerprint : String :=
  "bf011ded7a333868511874b86a90205bfa1f3d575173af4435537ec4a313c4ae"

def request : AsyncRequest := ⟨proposal, authorization, transaction⟩

def asyncEnv : AsyncEnv where
  db := ⟨1709210096000000, "0a1b2c3d", "4e5f6a7b", ""⟩
  adapter := answering false .failed
  sha256 := fun _ => payloadFingerprint
  observed := fun _ => none

def authorizedRow : TransactionRow where
  transactionId := "tx-1"
  buyerId := "buyer-1"
  merchantId := "merchant-1"
  mandateId := "mandate-1"
  cartHash := "hash-1"
  amountPaise := 25000
  currency := "INR"
  region := "IN"
  authDecision := "ALLOW"
  state := "AUTHORIZED"
  providerPaymentId := none
  providerStatus := none
  idempotencyKey := "key-1"
  createdAt := 1709210000000000
  updatedAt := 1709210000000000

def claimedAttempt : ExecutionAttemptRow where
  attemptId := "attempt_tx-1_00000001"
  transactionId := "tx-1"
  merchantId := "merchant-1"
  idempotencyKey := "exec:tx-1"
  payloadFingerprint := payloadFingerprint
  status := "CLAIMED"
  providerReference := none
  createdAt := 1709210000000000
  completedAt := none

def crashed : Database where
  transactions := ⟨[authorizedRow], List.nodup_singleton _⟩
  executionAttempts := ⟨[claimedAttempt], List.nodup_singleton _⟩
  outboxEvents := Table.empty

def afterCrash : AsyncState := ⟨PaymentExecutionService.new, ⟨crashed, crashed⟩, []⟩

end Sample

/-- The retry reports a payment that the provider was never asked for. -/
theorem claimed_reported_paid :
    ∃ r s', asyncExecutePayment Sample.asyncEnv Sample.request Sample.afterCrash = (.ok r, s')
      ∧ r.success = true ∧ ¬ s'.uow.session.Settled "tx-1" ∧ s'.dispatched = [] := by
  refine ⟨_, _, rfl, rfl, ?_, rfl⟩
  rintro (hrow | hattempt)
  · exact not_paidRow_dispatchStarted _ ⟨Sample.authorizedRow, rfl, rfl⟩ hrow
  · obtain ⟨a, ha, -, hstatus⟩ := hattempt
    obtain rfl := List.mem_singleton.mp ha
    exact absurd hstatus (by decide)

end AsyncPaymentExecution

end MandateGateway
