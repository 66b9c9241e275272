import MandateGateway.Recovery.Outcomes
import MandateGateway.Recovery.Reconciliation

/-! # Three reconcilers, one payment

    `reconcile_payment_status` works on the in-memory transaction, the
    reconciliation service and the recovery service on its row.  This file
    says for which provider statuses the three end in the same state. -/

namespace MandateGateway

open OrderedMap Raising TransactionRepository

/-- What a service's unit of work leaves in the database: its session once it
    is committed, and after an exception what was there before. -/
def leftBehind {α : Type} (run : Except PyError α × AuditedUnitOfWork) : Database :=
  match run.1 with
  | .ok _ => run.2.rows.session
  | .error _ => run.2.rows.committed

/-- The provider answers every query with this status. -/
def RazorpayAdapter.AnswersWith (adapter : RazorpayAdapter)
    (status : Option PaymentResultState) : Prop :=
  ∀ ref, ∃ answer, adapter.fetchPaymentStatus ref = .ok answer ∧ answer.providerStatus = status

def stateIn (db : Database) (t : String) : Option String :=
  (db.transactions.get t).map TransactionRow.state

/-! ## In memory -/

/-- **An EXECUTING transaction in memory always ends as the status says.** -/
theorem reconcilePaymentStatus_state_of_answer {s : PaymentExecutionService} {tx : Transaction}
    {t : String} {ext : Option String} {adapter : RazorpayAdapter} {answer : ExecutionResult}
    (env : Ambient) (htx : s.transactions.get t = some tx) (hstate : tx.state = .executing)
    (hfetch : adapter.fetchPaymentStatus (PaymentExecutionService.providerRef tx ext)
      = .ok answer) :
    ((s.reconcilePaymentStatus env adapter t ext).2.transactions.get t).map Transaction.state
      = some (outcomeState answer.providerStatus) := by
  have hlive : ¬ tx.isTerminal = true := by
    rw [Transaction.isTerminal, hstate]
    decide
  rw [PaymentExecutionService.reconcilePaymentStatus, htx]
  dsimp only
  rw [if_neg hlive]
  dsimp only
  rw [hfetch]
  dsimp only
  by_cases hsuccess : answer.providerStatus = some .success
  · obtain ⟨tx', hcommit, hstate', -⟩ := commitTransaction_of_executing hstate env.now
      (some (PaymentExecutionService.providerRef tx ext))
    rw [if_pos hsuccess, hcommit, hsuccess]
    dsimp only
    rw [get_set_self, Option.map_some, hstate']
    rfl
  rw [if_neg hsuccess]
  by_cases hfailed : answer.providerStatus = some .failed
      ∨ answer.providerStatus = some .expired
  · obtain ⟨tx', hroll, hstate', -⟩ := rollBackTransaction_of_executing hstate env.now
    rw [if_pos hfailed, hroll]
    dsimp only
    rw [get_set_self, Option.map_some, hstate']
    rcases hfailed with h | h
    · rw [h]
      rfl
    · rw [h]
      rfl
  · rw [if_neg hfailed]
    dsimp only
    rw [htx, Option.map_some, hstate, (outcome_of_undecided hsuccess hfailed).1]

theorem reconcilePaymentStatus_state {s : PaymentExecutionService} {tx : Transaction} {t : String}
    {ext : Option String} {env : Ambient} {adapter : RazorpayAdapter}
    {status : Option PaymentResultState} (htx : s.transactions.get t = some tx)
    (hstate : tx.state = .executing) (hanswers : adapter.AnswersWith status) :
    ((s.reconcilePaymentStatus env adapter t ext).2.transactions.get t).map Transaction.state
      = some (outcomeState status) := by
  obtain ⟨answer, hfetch, rfl⟩ := hanswers (PaymentExecutionService.providerRef tx ext)
  exact reconcilePaymentStatus_state_of_answer env htx hstate hfetch

/-! ## In the database -/

variable {env : RecoveryEnv} {db : Database} {ledger : AuditLedger} {t : String}
  {row : TransactionRow} {status : Option PaymentResultState}

theorem stateIn_of_storedIn {uow : UnitOfWork} {state : TransactionState}
    (h : StoredIn t state uow) : stateIn uow.session t = some state.value := by
  obtain ⟨row, hrow, hstate⟩ := h
  rw [stateIn, hrow, Option.map_some, hstate]

theorem leftBehind_of_error {α : Type} {run : Except PyError α × AuditedUnitOfWork} {err : PyError}
    (hrun : run.1 = .error err) (hcommitted : run.2.rows.committed = db) :
    leftBehind run = db := by
  rw [leftBehind, hrun]
  exact hcommitted

theorem reconciliation_leaves_other (hne : t ≠ Text.strip t) :
    stateIn (leftBehind (ReconciliationService.asyncReconcileTransaction env t
      (AuditedUnitOfWork.fresh db ledger))) t = stateIn db t := by
  have hspared := ReconciliationService.spares_asyncReconcileTransaction env hne
    (AuditedUnitOfWork.fresh db ledger)
  cases hrun : ReconciliationService.asyncReconcileTransaction env t
      (AuditedUnitOfWork.fresh db ledger) with
  | mk r u =>
      rw [hrun] at hspared
      obtain ⟨hcommitted, hsession⟩ := hspared
      cases r with
      | error err => exact congrArg (stateIn · t) (leftBehind_of_error rfl hcommitted)
      | ok result =>
          rcases hsession with ⟨hrow, -⟩ | ⟨⟨err, herr⟩, -⟩
          · exact congrArg (Option.map TransactionRow.state) hrow
          · cases herr

theorem stateIn_executing (hrow : db.transactions.get t = some row)
    (hstate : row.state = "EXECUTING") : stateIn db t = some "EXECUTING" := by
  rw [stateIn, hrow, Option.map_some, hstate]

section Executing

variable (hrow : db.transactions.get t = some row) (hstate : row.state = "EXECUTING")
  (hanswers : env.adapter.AnswersWith status)

include hrow hstate hanswers

theorem reconciliation_run (htrimmed : Text.strip t = t) :
    ReconciliationService.asyncReconcileTransaction env t (AuditedUnitOfWork.fresh db ledger)
      = ReconciliationService.applyStatus env t row .executing status
        (AuditedUnitOfWork.fresh db ledger) := by
  obtain ⟨answer, hfetch, hstatus⟩ := hanswers (TransactionRecoveryService.paymentRef row t)
  rw [← hstatus]
  exact ReconciliationService.asyncReconcileTransaction_of_executing htrimmed hrow hstate hfetch

theorem recovery_run :
    TransactionRecoveryService.reconcileTransaction env t (AuditedUnitOfWork.fresh db ledger)
      = TransactionRecoveryService.settle env t row status
        (AuditedUnitOfWork.fresh db ledger) := by
  obtain ⟨answer, hfetch, hstatus⟩ := hanswers (TransactionRecoveryService.paymentRef row t)
  have hlive : row.state ∉ TransactionRecoveryService.terminalStates := by
    rw [hstate]
    decide
  rw [← hstatus]
  exact TransactionRecoveryService.reconcileTransaction_of_answer hrow hlive hfetch

theorem recovery_commits (hsuccess : status = some .success)
    (hfree : TransactionRecoveryService.EventsFree env t row (AuditedUnitOfWork.fresh db ledger)) :
    stateIn (leftBehind (TransactionRecoveryService.reconcileTransaction env t
      (AuditedUnitOfWork.fresh db ledger))) t = some "COMMITTED" := by
  have hexecuting : StoredIn t .executing (AuditedUnitOfWork.fresh db ledger).rows :=
    ⟨row, hrow, hstate⟩
  obtain ⟨events, ledger', hsettle, -, -⟩ :=
    TransactionRecoveryService.settleSuccess_of_free hexecuting hfree
  have hpaid := (hexecuting.outcomeNoted env.db "SUCCESS"
    (some (TransactionRecoveryService.paymentRef row t))).moved env.db .success
  rw [recovery_run hrow hstate hanswers, TransactionRecoveryService.settle, if_pos hsuccess,
    hsettle]
  exact stateIn_of_storedIn (hpaid.moved env.db .committed)

/-- **In every other case it leaves the row EXECUTING**, a failure included. -/
theorem recovery_stays (h : ¬ (status = some .success
      ∧ TransactionRecoveryService.EventsFree env t row (AuditedUnitOfWork.fresh db ledger))) :
    stateIn (leftBehind (TransactionRecoveryService.reconcileTransaction env t
      (AuditedUnitOfWork.fresh db ledger))) t = some "EXECUTING" := by
  have hexecuting : StoredIn t .executing (AuditedUnitOfWork.fresh db ledger).rows :=
    ⟨row, hrow, hstate⟩
  rw [recovery_run hrow hstate hanswers, TransactionRecoveryService.settle]
  by_cases hsuccess : status = some .success
  · obtain ⟨err, hraises⟩ := TransactionRecoveryService.settleSuccess_of_taken hexecuting
      fun hfree => h ⟨hsuccess, hfree⟩
    rw [if_pos hsuccess, hraises]
    exact stateIn_executing hrow hstate
  rw [if_neg hsuccess]
  by_cases hfailed : status = some .failed ∨ status = some .expired
  · rw [if_pos hfailed, TransactionRecoveryService.settleFailure_of_executing hexecuting]
    exact stateIn_executing hrow hstate
  · rw [if_neg hfailed]
    exact stateIn_executing hrow hstate

theorem reconciliation_stays_of_undecided (hsuccess : status ≠ some .success)
    (hfailed : status ≠ some .failed) :
    stateIn (leftBehind (ReconciliationService.asyncReconcileTransaction env t
      (AuditedUnitOfWork.fresh db ledger))) t = some "EXECUTING" := by
  by_cases htrimmed : Text.strip t = t
  · rw [reconciliation_run hrow hstate hanswers htrimmed, ReconciliationService.applyStatus,
      if_neg hsuccess, if_neg hfailed]
    exact stateIn_executing hrow hstate
  · rw [reconciliation_leaves_other fun heq => htrimmed heq.symm]
    exact stateIn_executing hrow hstate

/-- **It commits a success exactly when** the identifier is trimmed and the
    audit event can be stored. -/
theorem reconciliation_commits_iff (hsuccess : status = some .success) :
    stateIn (leftBehind (ReconciliationService.asyncReconcileTransaction env t
        (AuditedUnitOfWork.fresh db ledger))) t = some "COMMITTED"
      ↔ Text.strip t = t ∧ ledger.Accepts (env.audit (ReconciliationService.auditId t))
        (ReconciliationService.auditEntry .paymentSuccess t row .success) := by
  have hexecuting : StoredIn t .executing (AuditedUnitOfWork.fresh db ledger).rows :=
    ⟨row, hrow, hstate⟩
  have hstays : ¬ stateIn db t = some "COMMITTED" := by
    rw [stateIn_executing hrow hstate]
    decide
  have hlegal : TransactionState.committed ∈ TransactionState.executing.legalNextStates := by
    decide
  by_cases htrimmed : Text.strip t = t
  · rw [reconciliation_run hrow hstate hanswers htrimmed, ReconciliationService.applyStatus,
      if_pos hsuccess]
    by_cases haccepts : ledger.Accepts (env.audit (ReconciliationService.auditId t))
        (ReconciliationService.auditEntry .paymentSuccess t row .success)
    · refine iff_of_true ?_ ⟨htrimmed, haccepts⟩
      obtain ⟨ledger', hsettle, -⟩ := ReconciliationService.settle_of_accepts
        (u := AuditedUnitOfWork.fresh db ledger) hexecuting hlegal haccepts
      rw [hsettle]
      exact stateIn_of_storedIn (hexecuting.moved env.db .committed)
    · refine iff_of_false ?_ fun h => haccepts h.2
      obtain ⟨err, hsettle⟩ := ReconciliationService.settle_of_not_accepts
        (u := AuditedUnitOfWork.fresh db ledger) hexecuting hlegal haccepts
      rw [hsettle]
      exact hstays
  · rw [reconciliation_leaves_other fun heq => htrimmed heq.symm]
    exact iff_of_false hstays fun h => htrimmed h.1

end Executing

/-! ## Agreement -/

/-- The three end with the transaction in one state. -/
def ReconcilersAgree (s : PaymentExecutionService) (memory : Ambient) (adapter : RazorpayAdapter)
    (ext : Option String) (cenv renv : RecoveryEnv) (db : Database) (ledger : AuditLedger)
    (t : String) : Prop :=
  ∃ state : TransactionState,
    ((s.reconcilePaymentStatus memory adapter t ext).2.transactions.get t).map Transaction.state
        = some state
      ∧ stateIn (leftBehind (ReconciliationService.asyncReconcileTransaction cenv t
          (AuditedUnitOfWork.fresh db ledger))) t = some state.value
      ∧ stateIn (leftBehind (TransactionRecoveryService.reconcileTransaction renv t
          (AuditedUnitOfWork.fresh db ledger))) t = some state.value

/-- **The three reconcilers agree on an EXECUTING transaction exactly when** the
    status is no failure and, if it is a success, both services can store what
    they record of it. -/
theorem reconcilers_agree_iff (s : PaymentExecutionService) (memory : Ambient)
    (adapter : RazorpayAdapter) (ext : Option String) (cenv renv : RecoveryEnv) (db : Database)
    (ledger : AuditLedger) (t : String) (tx : Transaction) (row : TransactionRow)
    (status : Option PaymentResultState) (htx : s.transactions.get t = some tx)
    (hexecuting : tx.state = .executing) (hrow : db.transactions.get t = some row)
    (hstate : row.state = "EXECUTING") (hmemory : adapter.AnswersWith status)
    (hcenv : cenv.adapter.AnswersWith status) (hrenv : renv.adapter.AnswersWith status) :
    ReconcilersAgree s memory adapter ext cenv renv db ledger t
      ↔ status ≠ some .failed ∧ status ≠ some .expired
        ∧ (status = some .success → Text.strip t = t
          ∧ ledger.Accepts (cenv.audit (ReconciliationService.auditId t))
            (ReconciliationService.auditEntry .paymentSuccess t row .success)
          ∧ TransactionRecoveryService.EventsFree renv t row
            (AuditedUnitOfWork.fresh db ledger)) := by
  have hinMemory : ((s.reconcilePaymentStatus memory adapter t ext).2.transactions.get t).map
      Transaction.state = some (outcomeState status) :=
    reconcilePaymentStatus_state htx hexecuting hmemory
  constructor
  · rintro ⟨state, hstateIn, hreconciled, hrecovered⟩
    rw [hinMemory] at hstateIn
    obtain rfl := Option.some.inj hstateIn
    -- the recovery service leaves a failure EXECUTING
    have hdecided (hrolled : outcomeState status = .rolledBack) : False := by
      have hnot : status ≠ some .success := by
        rintro rfl
        cases hrolled
      rw [hrolled, recovery_stays hrow hstate hrenv fun h => hnot h.1] at hrecovered
      exact absurd hrecovered (by decide)
    refine ⟨?_, ?_, ?_⟩
    · rintro rfl
      exact hdecided rfl
    · rintro rfl
      exact hdecided rfl
    · intro hsuccess
      rw [hsuccess] at hreconciled hrecovered
      obtain ⟨htrimmed, haccepts⟩ :=
        (reconciliation_commits_iff hrow hstate hcenv hsuccess).mp hreconciled
      refine ⟨htrimmed, haccepts, ?_⟩
      by_contra htaken
      rw [recovery_stays hrow hstate hrenv fun h => htaken h.2] at hrecovered
      exact absurd hrecovered (by decide)
  · rintro ⟨hfailed, hexpired, hfree⟩
    refine ⟨outcomeState status, hinMemory, ?_⟩
    by_cases hsuccess : status = some .success
    · obtain ⟨htrimmed, haccepts, hevents⟩ := hfree hsuccess
      rw [hsuccess]
      exact ⟨(reconciliation_commits_iff hrow hstate hcenv hsuccess).mpr ⟨htrimmed, haccepts⟩,
        recovery_commits hrow hstate hrenv hsuccess hevents⟩
    · have hundecided : ¬ (status = some .failed ∨ status = some .expired) := by
        rintro (h | h)
        · exact hfailed h
        · exact hexpired h
      rw [(outcome_of_undecided hsuccess hundecided).1]
      exact ⟨reconciliation_stays_of_undecided hrow hstate hcenv hsuccess hfailed,
        recovery_stays hrow hstate hrenv fun h => hsuccess h.1⟩

/-! ## A captured and a failed payment -/

namespace Sample

theorem executing_rejection_iff :
    transaction.rejectionReason.isSome = true ↔ TransactionState.executing = .rejected := by
  decide

def executingTransaction : Transaction :=
  { transaction with state := .executing, rejection_iff := executing_rejection_iff }

def executingService : PaymentExecutionService :=
  PaymentExecutionService.new.registerTransaction executingTransaction

theorem answering_answersWith (status : PaymentResultState) :
    (answering false status).AnswersWith (some status) :=
  fun _ => ⟨_, rfl, rfl⟩

end Sample

theorem reconcilers_agree_iff_captured :
    ReconcilersAgree Sample.executingService Sample.env (Sample.answering false .success) none
        (Sample.recoveryAnswered .success) (Sample.recoveryAnswered .success) Sample.executing
        AuditLedger.empty "tx-1"
      ↔ some PaymentResultState.success ≠ some .failed
        ∧ some PaymentResultState.success ≠ some .expired
        ∧ (some PaymentResultState.success = some .success → Text.strip "tx-1" = "tx-1"
          ∧ AuditLedger.empty.Accepts
            ((Sample.recoveryAnswered .success).audit (ReconciliationService.auditId "tx-1"))
            (ReconciliationService.auditEntry .paymentSuccess "tx-1" Sample.executingRow .success)
          ∧ TransactionRecoveryService.EventsFree (Sample.recoveryAnswered .success) "tx-1"
            Sample.executingRow (AuditedUnitOfWork.fresh Sample.executing AuditLedger.empty)) :=
  reconcilers_agree_iff Sample.executingService Sample.env (Sample.answering false .success) none
    (Sample.recoveryAnswered .success) (Sample.recoveryAnswered .success) Sample.executing
    AuditLedger.empty "tx-1" Sample.executingTransaction Sample.executingRow (some .success) rfl rfl
    rfl rfl (Sample.answering_answersWith .success) (Sample.answering_answersWith .success)
    (Sample.answering_answersWith .success)

/-- After a FAILED status two of them have rolled the payment back, and the
    recovery service has left it EXECUTING. -/
theorem failed_reconcilers_disagree :
    ((Sample.executingService.reconcilePaymentStatus Sample.env (Sample.answering false .failed)
          "tx-1" none).2.transactions.get "tx-1").map Transaction.state = some .rolledBack
      ∧ stateIn (leftBehind (ReconciliationService.asyncReconcileTransaction
          (Sample.recoveryAnswered .failed) "tx-1"
          (AuditedUnitOfWork.fresh Sample.executing AuditLedger.empty))) "tx-1"
        = some "ROLLED_BACK"
      ∧ stateIn (leftBehind (TransactionRecoveryService.reconcileTransaction
          (Sample.recoveryAnswered .failed) "tx-1"
          (AuditedUnitOfWork.fresh Sample.executing AuditLedger.empty))) "tx-1"
        = some "EXECUTING" := by
  decide +kernel

end MandateGateway
