import MandateGateway.Execution.Effects
import MandateGateway.Recovery.Outcomes
import Mathlib.Data.List.Sort

/-! # The recovery worker

    `process_batch` scans for stuck transactions, reconciles each of them in
    one shared unit of work, swallows what a reconciliation raises, and
    commits.  What a failed reconciliation has written is committed along with
    the rest. -/

/-! ## What a reconciliation of the recovery service does

    `reconcileTransaction_effect` says once what a reconciliation leaves in its
    unit of work, whether it returns or raises: nothing, a committed payment
    with its events, a row whose provider status is noted without a legal
    transition, or a broken session. -/

namespace MandateGateway

open Raising ExecutionAttemptRepository TransactionRepository

namespace TransactionRecoveryService

open AuditedAction

variable {env : RecoveryEnv} {t : String} {row : TransactionRow} {u : AuditedUnitOfWork}

/-- The provider answers the query about this row. -/
def Answers (env : RecoveryEnv) (t : String) (row : TransactionRow) (answer : ExecutionResult) :
    Prop :=
  env.adapter.fetchPaymentStatus (paymentRef row t) = .ok answer

/-- What a reconciliation of transaction `t` leaves. -/
inductive Effect (env : RecoveryEnv) (t : String) (u : AuditedUnitOfWork) :
    AuditedUnitOfWork → Prop where
  | missing (hrow : u.rows.session.transactions.get t = none) : Effect env t u u
  /-- the row is final, the provider raises, or its answer decides nothing -/
  | untouched {row : TransactionRow} (hrow : u.rows.session.transactions.get t = some row)
      (hkept : row.state ∈ terminalStates
        ∨ ∀ answer, Answers env t row answer → Undecided answer) : Effect env t u u
  | committed {row : TransactionRow} {answer : ExecutionResult}
      {events : Table OutboxEventRow.outboxId} {ledger : AuditLedger}
      (hrow : u.rows.session.transactions.get t = some row) (hstate : row.state = "EXECUTING")
      (hanswer : Answers env t row answer) (hsuccess : answer.providerStatus = some .success)
      (hfree : EventsFree env t row u)
      (hevents : events.rows
        = u.rows.session.outboxEvents.rows ++ [committedEvent env t row])
      (hledger : ledger.rows = u.ledger.rows
        ++ [auditEvent (env.audit env.auditId) (auditEntry .paymentSuccess t row) u.ledger]) :
      Effect env t u { u.withSession
        { committedRows env t row u.rows.session with outboxEvents := events } with
          ledger := ledger }
  /-- the provider's decision is noted, and raises: it may not move the row, or
      it has moved the row to FAILURE and is asked to do so again -/
  | noted {row row' : TransactionRow} {answer : ExecutionResult} {db : Database}
      (hrow : u.rows.session.transactions.get t = some row) (hlive : row.state ∉ terminalStates)
      (hanswer : Answers env t row answer) (hdecided : ¬ Undecided answer)
      (hunpaid : row.state = "EXECUTING" → answer.providerStatus ≠ some .success)
      (hsame : SameBut t u.rows.session db) (hrow' : db.transactions.get t = some row')
      (hstatus : row'.providerStatus = some "SUCCESS" ∨ row'.providerStatus = some "FAILED")
      (hstate : row'.state = if row.state = "EXECUTING" then "FAILURE" else row.state) :
      Effect env t u (u.withSession db)
  | broken {u' : AuditedUnitOfWork} (hbroken : u'.active = false) : Effect env t u u'

theorem onRows_recordProviderOutcome_of_refused {status : String} {target : TransactionState}
    (env : RecoveryEnv) (hrow : u.rows.session.transactions.get t = some row)
    (hstate : row.state ≠ "EXECUTING")
    (hsettled : settledState status = some target)
    (htarget : target = .success ∨ target = .failure) (ref : Option String) :
    ∃ err, onRows (recordProviderOutcome env.db t status ref) u
      = (.error err, u.withSession (outcomeNoted env.db t status ref u.rows.session)) := by
  obtain ⟨err, hrefused⟩ := checkTransition_of_not_executing htarget hstate
  refine ⟨err, onRows_of_error (recordProviderOutcome_of_refused hrow hsettled hrefused) ?_⟩
  rintro message rfl
  exact checkTransition_ne_integrityError message hrefused

theorem effect_of_noted {status : String} {answer : ExecutionResult}
    (hrow : u.rows.session.transactions.get t = some row) (hlive : row.state ∉ terminalStates)
    (hanswer : Answers env t row answer) (hdecided : ¬ Undecided answer)
    (hstate : row.state ≠ "EXECUTING") (hstatus : status = "SUCCESS" ∨ status = "FAILED")
    (ref : Option String) :
    Effect env t u (u.withSession (outcomeNoted env.db t status ref u.rows.session)) := by
  obtain ⟨row', hrow', hstate', hnoted⟩ := get_outcomeNoted env.db status ref hrow
  refine Effect.noted hrow hlive hanswer hdecided (fun h => absurd h hstate)
    (sameBut_outcomeNoted env.db t status ref u.rows.session) hrow' ?_ ?_
  · rw [hnoted]
    rcases hstatus with rfl | rfl
    · exact Or.inl rfl
    · exact Or.inr rfl
  · rw [if_neg hstate]
    exact hstate'

theorem settleSuccess_effect {answer : ExecutionResult}
    (hrow : u.rows.session.transactions.get t = some row) (hlive : row.state ∉ terminalStates)
    (hanswer : Answers env t row answer) (hsuccess : answer.providerStatus = some .success) :
    Effect env t u (settleSuccess env t row u).2 := by
  by_cases hstate : row.state = "EXECUTING"
  · have hexecuting : StoredIn t .executing u.rows := ⟨row, hrow, hstate⟩
    by_cases hfree : EventsFree env t row u
    · obtain ⟨events, ledger, hsettle, hevents, hledger⟩ := settleSuccess_of_free hexecuting hfree
      rw [hsettle]
      exact Effect.committed hrow hstate hanswer hsuccess hfree hevents hledger
    · obtain ⟨err, hsettle⟩ := settleSuccess_of_taken hexecuting hfree
      rw [hsettle]
      exact Effect.broken rfl
  · have hdecided : ¬ Undecided answer := fun h => h.1 hsuccess
    have hsettled : settledState "SUCCESS" = some .success := by decide
    obtain ⟨err, hnote⟩ := onRows_recordProviderOutcome_of_refused env hrow hstate hsettled
      (Or.inl rfl) (some (paymentRef row t))
    rw [settleSuccess, bind_of_error hnote]
    exact effect_of_noted hrow hlive hanswer hdecided hstate (Or.inl rfl) _

theorem settleFailure_effect {answer : ExecutionResult}
    (hrow : u.rows.session.transactions.get t = some row) (hlive : row.state ∉ terminalStates)
    (hanswer : Answers env t row answer)
    (hfailed : answer.providerStatus = some .failed ∨ answer.providerStatus = some .expired) :
    Effect env t u (settleFailure env t row u).2 := by
  have hdecided : ¬ Undecided answer := by
    rintro ⟨-, hnotFailed, hnotExpired⟩
    exact hfailed.elim hnotFailed hnotExpired
  by_cases hstate : row.state = "EXECUTING"
  · rw [settleFailure_of_executing ⟨row, hrow, hstate⟩]
    obtain ⟨row₁, hrow₁, -, hnoted⟩ :=
      get_outcomeNoted env.db "FAILED" (some (paymentRef row t)) hrow
    obtain ⟨row₂, hrow₂, hstate₂, hstatus₂⟩ := get_moved env.db .failure hrow₁
    have hsame : SameBut t u.rows.session (failedRows env t row u.rows.session) :=
      (sameBut_outcomeNoted env.db t "FAILED" (some (paymentRef row t)) u.rows.session).trans
        (sameBut_moved env.db t .failure _)
    refine Effect.noted hrow hlive hanswer hdecided ?_ hsame hrow₂
      (Or.inr (hstatus₂.trans hnoted)) ?_
    · intro _ hsuccess
      rw [hsuccess] at hfailed
      rcases hfailed with h | h
      · cases h
      · cases h
    · rw [if_pos hstate]
      exact hstate₂
  · have hsettled : settledState "FAILED" = some .failure := by decide
    obtain ⟨err, hnote⟩ := onRows_recordProviderOutcome_of_refused env hrow hstate hsettled
      (Or.inr rfl) (some (paymentRef row t))
    rw [settleFailure, bind_of_error hnote]
    exact effect_of_noted hrow hlive hanswer hdecided hstate (Or.inr rfl) _

/-- **Every reconciliation leaves one of these.** -/
theorem reconcileTransaction_effect (env : RecoveryEnv) (t : String) (u : AuditedUnitOfWork) :
    Effect env t u (reconcileTransaction env t u).2 := by
  cases hrow : u.rows.session.transactions.get t with
  | none =>
      rw [reconcileTransaction_of_missing hrow]
      exact Effect.missing hrow
  | some row =>
      by_cases hterminal : row.state ∈ terminalStates
      · rw [reconcileTransaction_of_terminal hrow hterminal]
        exact Effect.untouched hrow (Or.inl hterminal)
      cases hfetch : env.adapter.fetchPaymentStatus (paymentRef row t) with
      | error err =>
          rw [reconcileTransaction_of_error hrow hterminal hfetch]
          refine Effect.untouched hrow (Or.inr ?_)
          intro answer hanswer
          rw [Answers, hfetch] at hanswer
          cases hanswer
      | ok answer =>
          rw [reconcileTransaction_of_answer hrow hterminal hfetch, settle]
          by_cases hsuccess : answer.providerStatus = some .success
          · rw [if_pos hsuccess]
            exact settleSuccess_effect hrow hterminal hfetch hsuccess
          rw [if_neg hsuccess]
          by_cases hfailed : answer.providerStatus = some .failed
              ∨ answer.providerStatus = some .expired
          · rw [if_pos hfailed]
            exact settleFailure_effect hrow hterminal hfetch hfailed
          · rw [if_neg hfailed]
            refine Effect.untouched hrow (Or.inr ?_)
            intro answer' hanswer
            obtain rfl := Except.ok.inj (hfetch.symm.trans hanswer)
            exact ⟨hsuccess, fun h => hfailed (Or.inl h), fun h => hfailed (Or.inr h)⟩

end TransactionRecoveryService

end MandateGateway

namespace MandateGateway

open Clock ExecutionAttemptRepository TransactionRepository

/-- What a scan looks for, whatever the age of the row. -/
def Stuck (row : TransactionRow) : Prop :=
  row.state = "EXECUTING" ∨ row.providerStatus = some "UNKNOWN"
    ∨ row.providerStatus = some "DISPATCHED"

instance (row : TransactionRow) : Decidable (Stuck row) :=
  inferInstanceAs (Decidable (_ ∨ _ ∨ _))

/-- `list_transactions_requiring_reconciliation`, the oldest first. -/
def listTransactionsRequiringReconciliation (cutoff : Instant) (db : Database) :
    List TransactionRow :=
  (db.transactions.select fun r => decide (Stuck r ∧ r.updatedAt ≤ cutoff)).insertionSort
    fun a b => a.createdAt ≤ b.createdAt

/-- What is committed: the tables and the audit ledger. -/
structure Stores where
  database : Database
  ledger   : AuditLedger

/-- What a batch meets: the time, the worker's threshold, and for each
    transaction what its reconciliation meets. -/
structure BatchEnv where
  now                   : Instant
  stuckThresholdSeconds : Int
  item                  : String → RecoveryEnv

namespace RecoveryWorker

open TransactionRecoveryService

def scanStuckTransactions (env : BatchEnv) (db : Database) : List String :=
  (listTransactionsRequiringReconciliation (env.now - env.stuckThresholdSeconds * 1000000)
    db).map TransactionRow.transactionId

/-- One round of the loop, which counts the recovered transactions. -/
def reconcileOne (env : RecoveryEnv) (transactionId : String) (st : Nat × AuditedUnitOfWork) :
    Nat × AuditedUnitOfWork :=
  if st.2.active then
    match reconcileTransaction env transactionId st.2 with
    | (.ok r, u) => (if r.recovered then st.1 + 1 else st.1, u)
    | (.error _, u) => (st.1, u)
  else
    -- every statement of a broken session raises, and that is swallowed too
    st

def reconcileEach (item : String → RecoveryEnv) (ids : List String)
    (st : Nat × AuditedUnitOfWork) : Nat × AuditedUnitOfWork :=
  ids.foldl (fun st t => reconcileOne (item t) t st) st

/-- How a batch ends: there is nothing to do, it is committed, or the commit of
    a broken session raises. -/
inductive BatchEnd where
  | idle
  | committed (reconciled : Nat)
  | commitRaised
deriving DecidableEq, Repr

def processBatch (env : BatchEnv) (s : Stores) : BatchEnd × Stores :=
  let ids := scanStuckTransactions env s.database
  if ids = [] then (.idle, s)
  else
    let run := reconcileEach env.item ids (0, AuditedUnitOfWork.fresh s.database s.ledger)
    if run.2.active then (.committed run.1, ⟨run.2.rows.session, run.2.ledger⟩)
    else (.commitRaised, s)

/-! ## The scan -/

variable {env : BatchEnv} {db : Database} {t : String}

theorem stuck_of_scanned (ht : t ∈ scanStuckTransactions env db) :
    ∃ row, db.transactions.get t = some row ∧ Stuck row := by
  obtain ⟨row, hrow, rfl⟩ := List.mem_map.mp ht
  have hmem := List.mem_filter.mp ((List.mem_insertionSort _).mp hrow)
  exact ⟨row, Table.get_eq_some_iff.mpr ⟨hmem.1, rfl⟩, (of_decide_eq_true hmem.2).1⟩

theorem nodup_scanStuckTransactions (env : BatchEnv) (db : Database) :
    (scanStuckTransactions env db).Nodup := by
  have hselected : ((db.transactions.select fun r => decide (Stuck r
      ∧ r.updatedAt ≤ env.now - env.stuckThresholdSeconds * 1000000)).map
        TransactionRow.transactionId).Nodup :=
    db.transactions.nodupKeys.sublist (List.filter_sublist.map _)
  exact ((List.perm_insertionSort _ _).map _).nodup_iff.mpr hselected

/-! ## What the rounds carry along -/

/-- From `u` to `u'`, both usable, nothing is lost but rows of these
    transactions. -/
structure Carries (ids : List String) (u u' : AuditedUnitOfWork) : Prop where
  active : u.active = true
  rows   : ∀ t, t ∉ ids → u'.rows.session.transactions.get t = u.rows.session.transactions.get t
  outbox : ∀ e ∈ u.rows.session.outboxEvents.rows, e ∈ u'.rows.session.outboxEvents.rows
  ledger : ∀ e ∈ u.ledger.rows, e ∈ u'.ledger.rows

theorem Carries.refl (ids : List String) {u : AuditedUnitOfWork} (h : u.active = true) :
    Carries ids u u :=
  ⟨h, fun _ _ => rfl, fun _ he => he, fun _ he => he⟩

theorem Carries.trans {ids ids' : List String} {u₁ u₂ u₃ : AuditedUnitOfWork}
    (h : Carries ids u₁ u₂) (h' : Carries ids' u₂ u₃) : Carries (ids ++ ids') u₁ u₃ where
  active := h.active
  rows t ht := by
    rw [List.mem_append, not_or] at ht
    exact (h'.rows t ht.2).trans (h.rows t ht.1)
  outbox e he := h'.outbox e (h.outbox e he)
  ledger e he := h'.ledger e (h.ledger e he)

theorem carries_of_effect {env : RecoveryEnv} {u u' : AuditedUnitOfWork}
    (h : Effect env t u u') (hactive : u'.active = true) : Carries [t] u u' := by
  cases h with
  | missing => exact Carries.refl [t] hactive
  | untouched => exact Carries.refl [t] hactive
  | @committed row answer events ledger hrow hstate hanswer hsuccess hfree hevents hledger =>
      have hsame : SameBut t u.rows.session (committedRows env t row u.rows.session) :=
        (sameBut_outcomeNoted env.db t "SUCCESS" (some (paymentRef row t)) u.rows.session).trans
          ((sameBut_moved env.db t .success _).trans (sameBut_moved env.db t .committed _))
      refine ⟨hactive, ?_, ?_, ?_⟩
      · intro t' ht'
        exact hsame.rows t' fun heq => ht' (List.mem_singleton.mpr heq)
      · intro e he
        show e ∈ events.rows
        rw [hevents]
        exact List.mem_append_left _ he
      · intro e he
        show e ∈ ledger.rows
        rw [hledger]
        exact List.mem_append_left _ he
  | noted hrow hlive hanswer hdecided hunpaid hsame hrow' hstatus hstate =>
      refine ⟨hactive, ?_, ?_, fun _ he => he⟩
      · intro t' ht'
        exact hsame.rows t' fun heq => ht' (List.mem_singleton.mpr heq)
      · intro e he
        rw [← hsame.events] at he
        exact he
  | broken hbroken =>
      rw [hbroken] at hactive
      cases hactive

theorem reconcileOne_snd (env : RecoveryEnv) (t : String) (st : Nat × AuditedUnitOfWork) :
    (reconcileOne env t st).2
      = if st.2.active then (reconcileTransaction env t st.2).2 else st.2 := by
  rw [reconcileOne]
  by_cases hactive : st.2.active = true
  · rw [if_pos hactive, if_pos hactive]
    cases reconcileTransaction env t st.2 with
    | mk r u =>
        cases r with
        | ok record => rfl
        | error err => rfl
  · rw [if_neg hactive, if_neg hactive]

theorem effect_of_reconcileOne {env : RecoveryEnv} {st : Nat × AuditedUnitOfWork}
    (hactive : (reconcileOne env t st).2.active = true) :
    Effect env t st.2 (reconcileOne env t st).2 := by
  rw [reconcileOne_snd] at hactive ⊢
  by_cases hstart : st.2.active = true
  · rw [if_pos hstart]
    exact reconcileTransaction_effect env t st.2
  · rw [if_neg hstart] at hactive
    exact absurd hactive hstart

theorem active_of_reconcileOne {env : RecoveryEnv} {st : Nat × AuditedUnitOfWork}
    (hactive : (reconcileOne env t st).2.active = true) : st.2.active = true := by
  rw [reconcileOne_snd] at hactive
  by_cases hstart : st.2.active = true
  · exact hstart
  · rwa [if_neg hstart] at hactive

theorem carries_reconcileEach {item : String → RecoveryEnv} {ids : List String}
    {st : Nat × AuditedUnitOfWork} (hactive : (reconcileEach item ids st).2.active = true) :
    Carries ids st.2 (reconcileEach item ids st).2 := by
  induction ids generalizing st with
  | nil => exact Carries.refl [] hactive
  | cons t ids ih =>
      have hrest : Carries ids (reconcileOne (item t) t st).2
          (reconcileEach item (t :: ids) st).2 := ih hactive
      exact (carries_of_effect (effect_of_reconcileOne hrest.active) hrest.active).trans hrest

/-- **Every transaction of the batch has its turn**: the rounds before it and the
    rounds after it leave its row alone. -/
theorem exists_turn {item : String → RecoveryEnv} {ids : List String}
    {st : Nat × AuditedUnitOfWork} (hnodup : ids.Nodup) (ht : t ∈ ids)
    (hactive : (reconcileEach item ids st).2.active = true) :
    ∃ l r u₁ u₂, t ∉ l ∧ t ∉ r ∧ Carries l st.2 u₁ ∧ Effect (item t) t u₁ u₂
      ∧ Carries r u₂ (reconcileEach item ids st).2 := by
  obtain ⟨l, r, rfl⟩ := List.append_of_mem ht
  have hrun : reconcileEach item (l ++ t :: r) st
      = reconcileEach item r (reconcileOne (item t) t (reconcileEach item l st)) := by
    rw [reconcileEach, List.foldl_append]
    rfl
  rw [hrun] at hactive ⊢
  have hlater := carries_reconcileEach hactive
  have heffect := effect_of_reconcileOne hlater.active
  have hstart := active_of_reconcileOne hlater.active
  obtain ⟨-, hnodup', hdisjoint⟩ := List.nodup_append.mp hnodup
  refine ⟨l, r, _, _, ?_, (List.nodup_cons.mp hnodup').1, carries_reconcileEach hstart, heffect,
    hlater⟩
  intro hmem
  exact hdisjoint t hmem t (List.mem_cons_self ..) rfl

end RecoveryWorker

end MandateGateway
