import MandateGateway.Recovery.Worker

/-! # What a committed batch leaves behind

    A batch that commits should leave each scanned EXECUTING transaction as it
    was or settled with its events, and no transaction in a state that no later
    scan picks up.  It does so exactly when no scanned transaction meets a
    decision that its reconciliation notes and then fails on. -/

namespace MandateGateway

open Clock ExecutionAttemptRepository TransactionRepository TransactionRecoveryService
  RecoveryWorker

/-- Nothing is left to settle in these states. -/
def finalStates : List String :=
  ["COMMITTED", "ROLLED_BACK", "REJECTED", "COMPLETED", "RECEIPT", "EXPIRED", "CONSUMED"]

/-- The batch has written an audit event and an outbox event of the transaction. -/
structure EventsWritten (before after : Stores) (t auditType outboxType : String) : Prop where
  audit  : ∃ e ∈ after.ledger.rows, e ∉ before.ledger.rows ∧ e.transactionId = some t
    ∧ e.eventType = auditType
  outbox : ∃ e ∈ after.database.outboxEvents.rows, e ∉ before.database.outboxEvents.rows
    ∧ e.aggregateId = t ∧ e.eventType = outboxType

/-- The transaction is COMMITTED or ROLLED_BACK, with its events. -/
def SettledWithEvents (before after : Stores) (t : String) : Prop :=
  ∃ row, after.database.transactions.get t = some row
    ∧ (row.state = "COMMITTED"
        ∧ EventsWritten before after t "PAYMENT_SUCCESS" "PAYMENT_COMMITTED"
      ∨ row.state = "ROLLED_BACK"
        ∧ EventsWritten before after t "PAYMENT_FAILED" "PAYMENT_ROLLED_BACK")

/-- A batch over these transactions strands none. -/
structure LeavesNoneStranded (ids : List String) (before after : Stores) : Prop where
  executing : ∀ t ∈ ids, ∀ row, before.database.transactions.get t = some row →
    row.state = "EXECUTING" →
      after.database.transactions.get t = some row ∨ SettledWithEvents before after t
  others    : ∀ t row, after.database.transactions.get t = some row →
    before.database.transactions.get t = some row ∨ row.state ∈ finalStates ∨ Stuck row

/-- The provider decides about a row that this decision cannot settle: a failure,
    or any decision about a row that is not EXECUTING. -/
def Strands (env : RecoveryEnv) (t : String) (row : TransactionRow) : Prop :=
  ∃ answer, Answers env t row answer ∧ ¬ Undecided answer ∧ row.state ∉ finalStates
    ∧ (row.state = "EXECUTING" → answer.providerStatus ≠ some .success)

/-! ## One turn -/

section Turn

variable {env : RecoveryEnv} {t : String} {row : TransactionRow} {u u' : AuditedUnitOfWork}

theorem terminalStates_subset_finalStates : terminalStates ⊆ finalStates := by decide

theorem kept_or_settled (h : Effect env t u u')
    (hrow : u.rows.session.transactions.get t = some row)
    (hactive : u'.active = true) (hnot : ¬ Strands env t row) :
    u'.rows.session.transactions.get t = some row
      ∨ ∃ row', u'.rows.session.transactions.get t = some row'
        ∧ (row'.state = "COMMITTED" ∧ EventsFree env t row u
            ∧ committedEvent env t row ∈ u'.rows.session.outboxEvents.rows
            ∧ auditEvent (env.audit env.auditId) (auditEntry .paymentSuccess t row) u.ledger
              ∈ u'.ledger.rows
          ∨ row.state ≠ "EXECUTING" ∧ row'.state ∈ finalStates) := by
  cases h with
  | missing hmissing =>
      rw [hmissing] at hrow
      cases hrow
  | untouched => exact Or.inl hrow
  | @committed row₀ answer events ledger hrow₀ hstate hanswer hsuccess hfree hevents hledger =>
      obtain rfl := Option.some.inj (hrow₀.symm.trans hrow)
      have hexecuting : StoredIn t .executing u.rows := ⟨row₀, hrow₀, hstate⟩
      have hpaid := (hexecuting.outcomeNoted env.db "SUCCESS" (some (paymentRef row₀ t))).moved
        env.db .success
      obtain ⟨row', hrow', hstate'⟩ := hpaid.moved env.db .committed
      refine Or.inr ⟨row', hrow', Or.inl ⟨hstate', hfree, ?_, ?_⟩⟩
      · show committedEvent env t row₀ ∈ events.rows
        rw [hevents]
        exact List.mem_append_right _ (List.mem_singleton_self _)
      · show auditEvent _ _ _ ∈ ledger.rows
        rw [hledger]
        exact List.mem_append_right _ (List.mem_singleton_self _)
  | @noted row₀ row' answer db hrow₀ hlive hanswer hdecided hunpaid hsame hrow' hstatus hstate =>
      obtain rfl := Option.some.inj (hrow₀.symm.trans hrow)
      have hfinal : row₀.state ∈ finalStates := by
        by_contra hopen
        exact hnot ⟨answer, hanswer, hdecided, hopen, hunpaid⟩
      have hnotExecuting : row₀.state ≠ "EXECUTING" := by
        intro hexecuting
        rw [hexecuting] at hfinal
        exact absurd hfinal (by decide)
      rw [if_neg hnotExecuting] at hstate
      rw [← hstate] at hfinal
      exact Or.inr ⟨row', hrow', Or.inr ⟨hnotExecuting, hfinal⟩⟩
  | broken hbroken =>
      rw [hbroken] at hactive
      cases hactive

/-- **A turn that strands its row** leaves it open, and no scan looks for it. -/
theorem stranded_of_strands (h : Effect env t u u')
    (hrow : u.rows.session.transactions.get t = some row) (hactive : u'.active = true)
    (hstrands : Strands env t row) :
    ∃ row', u'.rows.session.transactions.get t = some row' ∧ row'.state ∉ finalStates
      ∧ ¬ Stuck row' := by
  obtain ⟨answer, hanswer, hdecided, hopen, hunpaid⟩ := hstrands
  cases h with
  | missing hmissing =>
      rw [hmissing] at hrow
      cases hrow
  | untouched hrow₀ hkept =>
      obtain rfl := Option.some.inj (hrow₀.symm.trans hrow)
      rcases hkept with hterminal | hundecided
      · exact absurd (terminalStates_subset_finalStates hterminal) hopen
      · exact absurd (hundecided answer hanswer) hdecided
  | committed hrow₀ hstate hanswer₀ hsuccess =>
      obtain rfl := Option.some.inj (hrow₀.symm.trans hrow)
      obtain rfl := Except.ok.inj (hanswer₀.symm.trans hanswer)
      exact absurd hsuccess (hunpaid hstate)
  | @noted row₀ row' answer₀ db hrow₀ hlive hanswer₀ hdecided₀ hunpaid₀ hsame hrow' hstatus
      hstate =>
      obtain rfl := Option.some.inj (hrow₀.symm.trans hrow)
      have hstate' : row'.state ∉ finalStates ∧ row'.state ≠ "EXECUTING" := by
        by_cases hexecuting : row₀.state = "EXECUTING"
        · rw [if_pos hexecuting] at hstate
          rw [hstate]
          decide
        · rw [if_neg hexecuting] at hstate
          rw [hstate]
          exact ⟨hopen, hexecuting⟩
      refine ⟨row', hrow', hstate'.1, ?_⟩
      rintro (hexecuting | hunknown | hdispatched)
      · exact hstate'.2 hexecuting
      · rcases hstatus with h | h
        · exact absurd (h.symm.trans hunknown) (by decide)
        · exact absurd (h.symm.trans hunknown) (by decide)
      · rcases hstatus with h | h
        · exact absurd (h.symm.trans hdispatched) (by decide)
        · exact absurd (h.symm.trans hdispatched) (by decide)
  | broken hbroken =>
      rw [hbroken] at hactive
      cases hactive

end Turn

/-! ## A whole batch -/

variable {env : BatchEnv} {before after : Stores} {n : Nat} {t : String} {row : TransactionRow}

theorem rounds_of_committed (h : processBatch env before = (.committed n, after)) :
    ∃ st, reconcileEach env.item (scanStuckTransactions env before.database)
          (0, AuditedUnitOfWork.fresh before.database before.ledger) = st
      ∧ st.2.active = true ∧ after = ⟨st.2.rows.session, st.2.ledger⟩ := by
  refine ⟨_, rfl, ?_⟩
  rw [processBatch] at h
  dsimp only at h
  by_cases hidle : scanStuckTransactions env before.database = []
  · rw [if_pos hidle] at h
    cases (Prod.mk.inj h).1
  rw [if_neg hidle] at h
  by_cases hactive : (reconcileEach env.item (scanStuckTransactions env before.database)
      (0, AuditedUnitOfWork.fresh before.database before.ledger)).2.active = true
  · rw [if_pos hactive] at h
    exact ⟨hactive, (Prod.mk.inj h).2.symm⟩
  · rw [if_neg hactive] at h
    cases (Prod.mk.inj h).1

/-- **The turn of a scanned transaction**: it starts from the row of before the
    batch and leaves the row of after, and no event is lost on the way. -/
theorem turn_of_scanned (h : processBatch env before = (.committed n, after))
    (ht : t ∈ scanStuckTransactions env before.database) :
    ∃ u₁ u₂, Effect (env.item t) t u₁ u₂ ∧ u₂.active = true
      ∧ u₁.rows.session.transactions.get t = before.database.transactions.get t
      ∧ after.database.transactions.get t = u₂.rows.session.transactions.get t
      ∧ (∀ e ∈ before.database.outboxEvents.rows, e ∈ u₁.rows.session.outboxEvents.rows)
      ∧ (∀ e ∈ before.ledger.rows, e ∈ u₁.ledger.rows)
      ∧ (∀ e ∈ u₂.rows.session.outboxEvents.rows, e ∈ after.database.outboxEvents.rows)
      ∧ ∀ e ∈ u₂.ledger.rows, e ∈ after.ledger.rows := by
  obtain ⟨st, rfl, hactive, rfl⟩ := rounds_of_committed h
  obtain ⟨l, r, u₁, u₂, hl, hr, hearlier, heffect, hlater⟩ :=
    exists_turn (nodup_scanStuckTransactions env before.database) ht hactive
  exact ⟨u₁, u₂, heffect, hlater.active, hearlier.rows t hl, hlater.rows t hr, hearlier.outbox,
    hearlier.ledger, hlater.outbox, hlater.ledger⟩

theorem kept_or_settled_of_scanned (h : processBatch env before = (.committed n, after))
    (ht : t ∈ scanStuckTransactions env before.database)
    (hrow : before.database.transactions.get t = some row)
    (hnot : ¬ Strands (env.item t) t row) :
    after.database.transactions.get t = some row
      ∨ ∃ row', after.database.transactions.get t = some row' ∧ row'.state ∈ finalStates
        ∧ (row.state = "EXECUTING" → SettledWithEvents before after t) := by
  obtain ⟨u₁, u₂, heffect, hactive, hfound, hleft, houtbox, hledger, houtbox', hledger'⟩ :=
    turn_of_scanned h ht
  rw [hleft]
  rcases kept_or_settled heffect (hfound.trans hrow) hactive hnot with hkept | ⟨row', hrow', hend⟩
  · exact Or.inl hkept
  refine Or.inr ⟨row', hrow', ?_⟩
  rcases hend with ⟨hcommitted, hfree, hevent, haudit⟩ | ⟨hnotExecuting, hfinal⟩
  · refine ⟨?_, fun _ => ⟨row', hleft.trans hrow', Or.inl ⟨hcommitted, ?_, ?_⟩⟩⟩
    · rw [hcommitted]
      decide
    · refine ⟨_, hledger' _ haudit, ?_, rfl, rfl⟩
      -- its identifier was free when it was appended
      intro hold
      exact hfree.audit.1 (List.mem_map_of_mem (f := AuditEventRow.eventId) (hledger _ hold))
    · refine ⟨_, houtbox' _ hevent, ?_, rfl, rfl⟩
      intro hold
      exact hfree.outbox (List.mem_map_of_mem (f := OutboxEventRow.outboxId) (houtbox _ hold))
  · exact ⟨hfinal, fun hexecuting => absurd hexecuting hnotExecuting⟩

theorem get_after_of_not_scanned (h : processBatch env before = (.committed n, after))
    (ht : t ∉ scanStuckTransactions env before.database) :
    after.database.transactions.get t = before.database.transactions.get t := by
  obtain ⟨st, rfl, hactive, rfl⟩ := rounds_of_committed h
  exact (carries_reconcileEach hactive).rows t ht

/-- **A committed batch strands no transaction exactly when** no scanned row
    meets a decision that its reconciliation cannot settle. -/
theorem batch_strands_none_iff (env : BatchEnv) (before after : Stores) (n : Nat)
    (hcommitted : processBatch env before = (.committed n, after)) :
    LeavesNoneStranded (scanStuckTransactions env before.database) before after
      ↔ ∀ t ∈ scanStuckTransactions env before.database, ∀ row,
          before.database.transactions.get t = some row → ¬ Strands (env.item t) t row := by
  constructor
  · intro hnone t ht row hrow hstrands
    obtain ⟨u₁, u₂, heffect, hactive, hfound, hleft, -⟩ := turn_of_scanned hcommitted ht
    obtain ⟨row', hrow', hopen, hlost⟩ :=
      stranded_of_strands heffect (hfound.trans hrow) hactive hstrands
    rcases hnone.others t row' (hleft.trans hrow') with hkept | hfinal | hstuck
    · obtain ⟨row₀, hrow₀, hstuck⟩ := stuck_of_scanned ht
      obtain rfl := Option.some.inj (hrow₀.symm.trans hkept)
      exact hlost hstuck
    · exact hopen hfinal
    · exact hlost hstuck
  · intro hnot
    constructor
    · intro t ht row hrow hexecuting
      rcases kept_or_settled_of_scanned hcommitted ht hrow (hnot t ht row hrow) with
        hkept | ⟨row', -, -, hsettled⟩
      · exact Or.inl hkept
      · exact Or.inr (hsettled hexecuting)
    · intro t row' hrow'
      by_cases ht : t ∈ scanStuckTransactions env before.database
      · obtain ⟨row, hrow, -⟩ := stuck_of_scanned ht
        rcases kept_or_settled_of_scanned hcommitted ht hrow (hnot t ht row hrow) with
          hkept | ⟨row'', hrow'', hfinal, -⟩
        · rw [hrow, ← hkept]
          exact Or.inl hrow'
        · obtain rfl := Option.some.inj (hrow''.symm.trans hrow')
          exact Or.inr (Or.inl hfinal)
      · rw [get_after_of_not_scanned hcommitted ht] at hrow'
        exact Or.inl hrow'

/-! ## A captured and a failed payment -/

namespace Sample

def batch (status : PaymentResultState) : BatchEnv where
  now := 1709210097000000
  stuckThresholdSeconds := 30
  item := fun _ => recoveryAnswered status

def stores : Stores := ⟨executing, AuditLedger.empty⟩

def afterBatch (status : PaymentResultState) : Stores := (processBatch (batch status) stores).2

def failedRow : TransactionRow :=
  { executingRow with
    state := "FAILURE"
    providerPaymentId := some "tx-1"
    providerStatus := some "FAILED"
    updatedAt := 1709210096000000 }

end Sample

theorem batch_strands_none_iff_captured :
    LeavesNoneStranded
        (scanStuckTransactions (Sample.batch .success) Sample.stores.database) Sample.stores
        (Sample.afterBatch .success)
      ↔ ∀ t ∈ scanStuckTransactions (Sample.batch .success) Sample.stores.database, ∀ row,
          Sample.stores.database.transactions.get t = some row →
            ¬ Strands ((Sample.batch .success).item t) t row :=
  batch_strands_none_iff (Sample.batch .success) Sample.stores (Sample.afterBatch .success) 1
    (Prod.ext (by decide +kernel) rfl)

/-- A batch commits the row that a failed payment is left with: it is open, and
    no scan looks for it again. -/
theorem failed_payment_stranded :
    (processBatch (Sample.batch .failed) Sample.stores).1 = .committed 0
      ∧ (Sample.afterBatch .failed).database.transactions.get "tx-1" = some Sample.failedRow
      ∧ ¬ LeavesNoneStranded
          (scanStuckTransactions (Sample.batch .failed) Sample.stores.database) Sample.stores
          (Sample.afterBatch .failed) := by
  have hleft : (Sample.afterBatch .failed).database.transactions.get "tx-1"
      = some Sample.failedRow := by decide +kernel
  refine ⟨by decide +kernel, hleft, ?_⟩
  intro hnone
  rcases hnone.others "tx-1" Sample.failedRow hleft with hkept | hfinal | hstuck
  · exact absurd hkept (by decide +kernel)
  · exact absurd hfinal (by decide)
  · exact absurd hstuck (by decide)

end MandateGateway
