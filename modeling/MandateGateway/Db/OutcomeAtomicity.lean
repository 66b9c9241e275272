import MandateGateway.Db.TransactionRepository

/-! # Outcomes that may not move their row

    `record_provider_outcome` writes the payment reference and the provider
    status into the row before it asks for the transition, where
    `mark_provider_dispatch_started` transitions first.  An outcome whose
    transition is illegal raises with both fields written.

    * `outcomeAtomic_iff`: the outcomes that leave the row as it was whenever
      their transition is illegal. -/

namespace MandateGateway

open Exceptions Raising

namespace TransactionRepository

/-- An illegal transition raises, and then the row is as it was before the call. -/
def OutcomeAtomic (env : DbEnv) (transactionId providerStatus : String)
    (providerPaymentId : Option String) (uow : UnitOfWork) : Prop :=
  ∀ current target uow',
    recordProviderOutcome env transactionId providerStatus providerPaymentId uow
        = (.error (illegalTransition current target), uow') →
      uow'.session.transactions.get transactionId = uow.session.transactions.get transactionId

def AlreadyNoted (status : String) (ref : Option String) (row : TransactionRow) : Prop :=
  row.providerStatus = some status ∧ (ref = none ∨ ref = row.providerPaymentId)

theorem noteOutcome_eq_iff {status : String} {ref : Option String} {row : TransactionRow} :
    noteOutcome status ref row = row ↔ AlreadyNoted status ref row := by
  have href : ref.or row.providerPaymentId = row.providerPaymentId
      ↔ ref = none ∨ ref = row.providerPaymentId := by
    cases ref <;> simp
  rw [AlreadyNoted, ← href]
  constructor
  · intro h
    exact ⟨(congrArg TransactionRow.providerStatus h).symm,
      congrArg TransactionRow.providerPaymentId h⟩
  · rintro ⟨hstatus, hpayment⟩
    rw [noteOutcome, hpayment, ← hstatus]

theorem stamped_noteOutcome_eq_iff (env : DbEnv) {status : String} {ref : Option String}
    {row : TransactionRow} :
    stamped env (noteOutcome status ref) row = row ↔ AlreadyNoted status ref row := by
  rw [stamped, ← noteOutcome_eq_iff]
  by_cases hsame : noteOutcome status ref row = row
  · rw [if_pos hsame]
    exact ⟨fun _ => hsame, fun _ => rfl⟩
  · rw [if_neg hsame]
    refine ⟨fun h => ?_, fun h => absurd h hsame⟩
    -- the stamp does not touch the fields that an outcome writes
    rw [noteOutcome_eq_iff, AlreadyNoted]
    have hstatus : some status = row.providerStatus := congrArg TransactionRow.providerStatus h
    have hpayment : ref.or row.providerPaymentId = row.providerPaymentId :=
      congrArg TransactionRow.providerPaymentId h
    refine ⟨hstatus.symm, ?_⟩
    cases ref with
    | none => exact Or.inl rfl
    | some paymentId => exact Or.inr hpayment

theorem settledState_eq_some {status : String} {target : TransactionState}
    (h : settledState status = some target) : target = .success ∨ target = .failure := by
  rw [settledState] at h
  by_cases hsuccess : Text.upperAscii status ∈ ["SUCCESS", "CAPTURED", "PAID"]
  · rw [if_pos hsuccess] at h
    exact Or.inl (Option.some.inj h).symm
  rw [if_neg hsuccess] at h
  by_cases hfailure : Text.upperAscii status ∈ ["FAILURE", "FAILED", "DECLINED"]
  · rw [if_pos hfailure] at h
    exact Or.inr (Option.some.inj h).symm
  · rw [if_neg hfailure] at h
    cases h

theorem checkTransition_of_unparsed {stored : String} (h : TransactionState.ofValue stored = none)
    (target current target' : TransactionState) :
    checkTransition stored target ≠ .error (illegalTransition current target') := by
  intro hcheck
  rw [checkTransition, parseState, h] at hcheck
  cases hcheck

theorem checkTransition_settled {stored target : TransactionState}
    (htarget : target = .success ∨ target = .failure) (h : stored.value ≠ "EXECUTING") :
    checkTransition stored.value target = .error (illegalTransition stored target) := by
  refine checkTransition_of_illegal fun hmem => ?_
  cases stored with
  | executing => exact h rfl
  | draft | proposed | validating | rejected | stepUpRequired | userApproved | reserved
  | authorized | success | failure | committed | rolledBack | completed | receipt | expired
  | consumed => rcases htarget with rfl | rfl <;> exact absurd hmem (by decide)

/-- The outcome asks for no transition, or for one that the row can make, or the
    row holds no state of the life cycle, or it says the outcome already. -/
def Recordable (status : String) (ref : Option String) (row : TransactionRow) : Prop :=
  settledState status = none ∨ row.state = "EXECUTING"
    ∨ TransactionState.ofValue row.state = none ∨ AlreadyNoted status ref row

section
variable {env : DbEnv} {t status : String} {ref : Option String} {uow : UnitOfWork}

theorem outcomeAtomic_of_missing (h : uow.session.transactions.get t = none) :
    OutcomeAtomic env t status ref uow := by
  intro current target uow' hrun
  rw [recordProviderOutcome, bind_of_error (lockTransaction_of_missing h)] at hrun
  obtain ⟨-, rfl⟩ := Prod.mk.inj hrun
  rfl

theorem outcomeAtomic_of_ok {uow' : UnitOfWork}
    (h : recordProviderOutcome env t status ref uow = (.ok (), uow')) :
    OutcomeAtomic env t status ref uow := by
  intro current target uow₁ hrun
  rw [h] at hrun
  cases (Prod.mk.inj hrun).1

theorem recordProviderOutcome_of_transient {row : TransactionRow}
    (hrow : uow.session.transactions.get t = some row) (h : settledState status = none) :
    recordProviderOutcome env t status ref uow
      = (.ok (), { uow with session := outcomeNoted env t status ref uow.session }) := by
  rw [recordProviderOutcome, bind_of_ok (lockTransaction_eq_ok_iff.mpr ⟨hrow, rfl⟩),
    bind_of_ok (update_apply env), h]
  rfl

theorem recordProviderOutcome_of_executing {row : TransactionRow} {target : TransactionState}
    (hrow : uow.session.transactions.get t = some row) (hstate : row.state = "EXECUTING")
    (h : settledState status = some target) :
    ∃ uow', recordProviderOutcome env t status ref uow = (.ok (), uow') := by
  have hstored : StoredIn t .executing uow := ⟨row, hrow, hstate⟩
  rw [recordProviderOutcome_of_stored hstored, h]
  refine ⟨_, transitionTransactionState_of_legal (hstored.outcomeNoted env status ref) rfl ?_⟩
  rcases settledState_eq_some h with rfl | rfl
  · decide
  · decide

theorem outcomeAtomic_iff_of_illegal {row : TransactionRow} {current target : TransactionState}
    (hrow : uow.session.transactions.get t = some row) (h : settledState status = some target)
    (hstate : row.state = current.value) (hnot : row.state ≠ "EXECUTING") :
    OutcomeAtomic env t status ref uow ↔ AlreadyNoted status ref row := by
  have hillegal : checkTransition row.state target = .error (illegalTransition current target) := by
    rw [hstate] at hnot ⊢
    exact checkTransition_settled (settledState_eq_some h) hnot
  have hrun : recordProviderOutcome env t status ref uow = _ :=
    recordProviderOutcome_of_refused hrow h hillegal
  have hget : (outcomeNoted env t status ref uow.session).transactions.get t
      = some (stamped env (noteOutcome status ref) row) :=
    get_updated env (noteOutcome status ref) (fun _ => rfl) hrow
  rw [← stamped_noteOutcome_eq_iff env]
  constructor
  · intro hatomic
    have hsame := hatomic current target _ hrun
    rw [hget, hrow] at hsame
    exact Option.some.inj hsame
  · intro hsame current' target' uow' hrun'
    obtain ⟨-, rfl⟩ := Prod.mk.inj (hrun.symm.trans hrun')
    rw [hget, hrow, hsame]

theorem outcomeAtomic_of_unparsed {row : TransactionRow} {target : TransactionState}
    (hrow : uow.session.transactions.get t = some row) (h : settledState status = some target)
    (hstate : TransactionState.ofValue row.state = none) :
    OutcomeAtomic env t status ref uow := by
  intro current target' uow' hrun
  have hnot : row.state ≠ "EXECUTING" := by
    intro heq
    rw [heq] at hstate
    exact absurd hstate (by decide)
  obtain ⟨err, herr⟩ := checkTransition_of_not_executing (settledState_eq_some h) hnot
  have hrefused : recordProviderOutcome env t status ref uow = _ :=
    recordProviderOutcome_of_refused hrow h herr
  have heq := (Prod.mk.inj (hrefused.symm.trans hrun)).1
  rw [Except.error.inj heq] at herr
  exact absurd herr (checkTransition_of_unparsed hstate target current target')

end

/-- **An outcome is recorded atomically exactly when the row is executing, the
    outcome settles nothing, or the row says it already**: any other outcome
    leaves its two fields in a row that it may not move. -/
theorem outcomeAtomic_iff (env : DbEnv) (t status : String) (ref : Option String)
    (uow : UnitOfWork) :
    OutcomeAtomic env t status ref uow
      ↔ ∀ row, uow.session.transactions.get t = some row → Recordable status ref row := by
  cases hrow : uow.session.transactions.get t with
  | none =>
      refine ⟨fun _ row h => ?_, fun _ => outcomeAtomic_of_missing hrow⟩
      cases h
  | some row =>
      have hall : (∀ row', some row = some row' → Recordable status ref row')
          ↔ Recordable status ref row := by simp
      rw [hall, Recordable]
      cases hsettled : settledState status with
      | none =>
          simp only [true_or, iff_true]
          exact outcomeAtomic_of_ok (recordProviderOutcome_of_transient hrow hsettled)
      | some target =>
          by_cases hstate : row.state = "EXECUTING"
          · simp only [hstate, true_or, or_true, iff_true]
            obtain ⟨uow', hok⟩ : ∃ uow', recordProviderOutcome env t status ref uow
                = (.ok (), uow') := recordProviderOutcome_of_executing hrow hstate hsettled
            exact outcomeAtomic_of_ok hok
          cases hparse : TransactionState.ofValue row.state with
          | none =>
              simp only [true_or, or_true, iff_true]
              exact outcomeAtomic_of_unparsed hrow hsettled hparse
          | some current =>
              have hvalue := TransactionState.ofValue_eq_some_iff.mp hparse
              rw [outcomeAtomic_iff_of_illegal hrow hsettled hvalue hstate]
              simp [hstate]

/-! ## A failure after the commit -/

/-- A captured payment that is committed. -/
def committedRow : TransactionRow where
  transactionId := "tx-1"
  buyerId := "buyer-1"
  merchantId := "merchant-1"
  mandateId := "mandate-1"
  cartHash := "cart-1"
  amountPaise := 50000
  currency := "INR"
  region := "IN"
  authDecision := "ALLOW"
  state := "COMMITTED"
  providerPaymentId := some "pay-1"
  providerStatus := some "SUCCESS"
  idempotencyKey := "key-1"
  createdAt := 0
  updatedAt := 0

def committedTable : Database :=
  ⟨Table.singleton committedRow, Table.empty, Table.empty⟩

def committedUnit : UnitOfWork := ⟨committedTable, committedTable⟩

def outcomeEnv : DbEnv := ⟨1, "a", "e", ""⟩

/-- A late failure is refused, and the committed payment is left marked as failed. -/
theorem not_outcomeAtomic_late_failure :
    ¬ OutcomeAtomic outcomeEnv "tx-1" "FAILED" none committedUnit := by
  have hrow : committedUnit.session.transactions.get "tx-1" = some committedRow := rfl
  have hstate : committedRow.state = TransactionState.committed.value := rfl
  have hsettled : settledState "FAILED" = some .failure := by decide
  rw [outcomeAtomic_iff_of_illegal hrow hsettled hstate (by decide), AlreadyNoted]
  decide

end TransactionRepository

end MandateGateway
