import MandateGateway.Lib.DatetimeRead
import MandateGateway.Lib.Exceptions
import MandateGateway.Recovery.ListedTransaction
import Mathlib.Data.List.Forall2
import Mathlib.Logic.Relation

/-! # Stale transactions

    `audit_stale_transactions` looks for transactions that have not moved for
    some time.  The states that it looks at are a list of its own; the
    transition graph has four more from which a payment must still advance.

    * `mustAdvance_iff`: the states of the graph before a payment is settled;
    * `auditListed_iff`: when the audit is right about one transaction;
    * `reportsStale_iff`: when it reports the stale transactions and no others. -/

namespace MandateGateway

open Clock Clock.Datetime Relation

/-- A transaction that was interrupted. -/
structure StaleTransactionRecord (ι : Type) where
  transactionId        : ListedValue ι
  mandateId            : ListedValue ι
  merchantId           : ListedValue ι
  amountPaise          : Int
  state                : TransactionState
  lastUpdatedAt        : Datetime
  reconciliationStatus : String
deriving DecidableEq

/-- The arguments of the audit beside the transactions, and what it calls. -/
structure StaleAudit (ι : Type) where
  builtins       : ListedBuiltins ι
  reader         : DatetimeReader
  timeoutSeconds : Int
  evalTime       : Datetime

namespace RecoveryReconciliationEngine

variable {ι : Type}

def nonTerminalStates : List TransactionState :=
  [.proposed, .validating, .stepUpRequired, .reserved, .authorized, .executing]

/-- The time of the last update; what is no time and no text of one is the
    time of the audit. -/
def readUpdatedAt (a : StaleAudit ι) (tx : ListedTransaction ι) : Datetime :=
  match tx.get "updated_at" with
  | .text s => (a.reader.read s).getD a.evalTime
  | .datetime t => t
  | .none | .object _ => a.evalTime

/-- `int(tx.get("amount_paise", 0))`. -/
def amountPaise (a : StaleAudit ι) (tx : ListedTransaction ι) : Except ReconciliationError Int :=
  match tx "amount_paise" with
  | none => .ok 0
  | some v => a.builtins.int v

def staleRecord (a : StaleAudit ι) (tx : ListedTransaction ι) (state : TransactionState)
    (amount : Int) : StaleTransactionRecord ι where
  transactionId := tx.getD "transaction_id" (.text "unknown")
  mandateId := tx.getD "mandate_id" (.text "unknown")
  merchantId := tx.getD "merchant_id" (.text "unknown")
  amountPaise := amount
  state := state
  lastUpdatedAt := readUpdatedAt a tx
  reconciliationStatus := "RECONCILIATION_REQUIRED"

def auditState (a : StaleAudit ι) (tx : ListedTransaction ι) (state : TransactionState) :
    Except ReconciliationError (Option (StaleTransactionRecord ι)) :=
  if state ∈ nonTerminalStates then
    match a.evalTime.sub (readUpdatedAt a tx) with
    | none => .error (.typeError "can't subtract offset-naive and offset-aware datetimes")
    | some elapsed =>
        if reaches a.timeoutSeconds (totalSeconds elapsed) = true then
          (amountPaise a tx).map fun amount => some (staleRecord a tx state amount)
        else .ok none
  else .ok none

/-- One listed transaction; what is no text is looked up in the set of states. -/
def auditListed (a : StaleAudit ι) (tx : ListedTransaction ι) :
    Except ReconciliationError (Option (StaleTransactionRecord ι)) :=
  match tx.get "state" with
  | .text s =>
      match TransactionState.ofValue s with
      | none => .ok none
      | some state => auditState a tx state
  | v => (a.builtins.hash v).map fun _ => none

def auditStaleTransactions (a : StaleAudit ι) :
    List (ListedTransaction ι) → Except ReconciliationError (List (StaleTransactionRecord ι))
  | [] => .ok []
  | tx :: rest => do
      let record ← auditListed a tx
      let records ← auditStaleTransactions a rest
      .ok (record.toList ++ records)

/-! ## What the audit is for -/

/-- One legal transition leads from `s` to `s'`. -/
def Advances (s s' : TransactionState) : Prop := s' ∈ s.legalNextStates

instance (s s' : TransactionState) : Decidable (Advances s s') :=
  inferInstanceAs (Decidable (_ ∈ _))

/-- The states in which a payment is settled, or given up. -/
def endStates : List TransactionState := [.committed, .rolledBack, .rejected, .expired]

/-- The life cycle must still advance before the payment is settled or given up. -/
def MustAdvance (s : TransactionState) : Prop := ∃ e ∈ endStates, TransGen Advances s e

/-- The states of the graph before the ends, in its order. -/
def openStates : List TransactionState :=
  [.draft, .proposed, .validating, .stepUpRequired, .userApproved, .reserved, .authorized,
    .executing, .success, .failure]

theorem advances_of_not_open {s s' : TransactionState} (hs : s ∉ openStates)
    (h : Advances s s') : s' = .completed ∨ s' = .receipt := by
  cases s with
  | committed | rolledBack => exact Or.inl (List.mem_singleton.mp h)
  | completed => exact Or.inr (List.mem_singleton.mp h)
  | rejected | receipt | expired | consumed => exact absurd h List.not_mem_nil
  | draft | proposed | validating | stepUpRequired | userApproved | reserved | authorized
  | executing | success | failure => exact absurd (by decide) hs

theorem transGen_of_not_open {s s' : TransactionState} (hs : s ∉ openStates)
    (h : TransGen Advances s s') : s' = .completed ∨ s' = .receipt := by
  induction h with
  | single hstep => exact advances_of_not_open hs hstep
  | tail _ hstep ih =>
      refine advances_of_not_open ?_ hstep
      rcases ih with rfl | rfl
      · decide
      · decide

theorem mustAdvance_of_next {s : TransactionState} (s' : TransactionState) (h : Advances s s')
    (hs' : s' ∈ endStates ∨ MustAdvance s') : MustAdvance s := by
  rcases hs' with hend | ⟨e, he, hpath⟩
  · exact ⟨s', hend, TransGen.single h⟩
  · exact ⟨e, he, TransGen.head h hpath⟩

/-- **The states from which a payment must still advance** are those before the
    four ends. -/
theorem mustAdvance_iff {s : TransactionState} : MustAdvance s ↔ s ∈ openStates := by
  constructor
  · rintro ⟨e, he, hpath⟩
    by_contra hs
    rcases transGen_of_not_open hs hpath with rfl | rfl
    · exact absurd he (by decide)
    · exact absurd he (by decide)
  · intro hs
    -- backwards along the graph, from the ends
    have hexecuting : MustAdvance .executing :=
      mustAdvance_of_next .committed (by decide) (Or.inl (by decide))
    have hauthorized : MustAdvance .authorized :=
      mustAdvance_of_next .executing (by decide) (Or.inr hexecuting)
    have hreserved : MustAdvance .reserved :=
      mustAdvance_of_next .authorized (by decide) (Or.inr hauthorized)
    have happroved : MustAdvance .userApproved :=
      mustAdvance_of_next .reserved (by decide) (Or.inr hreserved)
    have hvalidating : MustAdvance .validating :=
      mustAdvance_of_next .rejected (by decide) (Or.inl (by decide))
    have hproposed : MustAdvance .proposed :=
      mustAdvance_of_next .validating (by decide) (Or.inr hvalidating)
    cases s with
    | draft => exact mustAdvance_of_next .proposed (by decide) (Or.inr hproposed)
    | proposed => exact hproposed
    | validating => exact hvalidating
    | stepUpRequired =>
        exact mustAdvance_of_next .userApproved (by decide) (Or.inr happroved)
    | userApproved => exact happroved
    | reserved => exact hreserved
    | authorized => exact hauthorized
    | executing => exact hexecuting
    | success => exact mustAdvance_of_next .committed (by decide) (Or.inl (by decide))
    | failure => exact mustAdvance_of_next .rolledBack (by decide) (Or.inl (by decide))
    | rejected | committed | rolledBack | completed | receipt | expired | consumed =>
        exact absurd hs (by decide)

instance (s : TransactionState) : Decidable (MustAdvance s) :=
  decidable_of_iff (s ∈ openStates) mustAdvance_iff.symm

def stateOf (tx : ListedTransaction ι) : Option TransactionState :=
  match tx.get "state" with
  | .text s => TransactionState.ofValue s
  | .none | .datetime _ | .object _ => none

/-- The timeout has passed since the last update; a naive time is read in UTC. -/
def PastTimeout (a : StaleAudit ι) (tx : ListedTransaction ι) : Prop :=
  reaches a.timeoutSeconds (totalSeconds (a.evalTime.micros - (readUpdatedAt a tx).micros)) = true

/-- The transaction must still advance, and has not for the timeout. -/
def Stale (a : StaleAudit ι) (tx : ListedTransaction ι) : Prop :=
  (stateOf tx).elim False MustAdvance ∧ PastTimeout a tx

instance (o : Option TransactionState) : Decidable (o.elim False MustAdvance) :=
  match o with
  | none => inferInstanceAs (Decidable False)
  | some s => inferInstanceAs (Decidable (MustAdvance s))

instance (a : StaleAudit ι) (tx : ListedTransaction ι) : Decidable (PastTimeout a tx) :=
  inferInstanceAs (Decidable (_ = true))

instance (a : StaleAudit ι) (tx : ListedTransaction ι) : Decidable (Stale a tx) :=
  inferInstanceAs (Decidable (_ ∧ _))

def staleTransactions (a : StaleAudit ι) (transactions : List (ListedTransaction ι)) :
    List (ListedTransaction ι) :=
  transactions.filter fun tx => decide (Stale a tx)

def Describes (a : StaleAudit ι) (record : StaleTransactionRecord ι) (tx : ListedTransaction ι) :
    Prop :=
  ∃ state amount, stateOf tx = some state ∧ amountPaise a tx = .ok amount
    ∧ record = staleRecord a tx state amount

/-- **The audit returns, and reports the stale transactions**, in their order. -/
def ReportsStale (a : StaleAudit ι) (transactions : List (ListedTransaction ι)) : Prop :=
  ∃ report, auditStaleTransactions a transactions = .ok report
    ∧ List.Forall₂ (Describes a) report (staleTransactions a transactions)

/-! ## One transaction -/

def Right (a : StaleAudit ι) (tx : ListedTransaction ι) : Prop :=
  if Stale a tx then ∃ record, auditListed a tx = .ok (some record) ∧ Describes a record tx
  else auditListed a tx = .ok none

/-- The open states that the audit does not look at. -/
def missedStates : List TransactionState := [.draft, .userApproved, .success, .failure]

theorem mustAdvance_iff_listed_or_missed {s : TransactionState} :
    MustAdvance s ↔ s ∈ nonTerminalStates ∨ s ∈ missedStates := by
  rw [mustAdvance_iff]
  cases s <;> decide

/-- A transaction that the audit is right about. -/
structure Timely (a : StaleAudit ι) (tx : ListedTransaction ι) : Prop where
  /-- a state that is no text has a hash -/
  hashed     : (∀ s, tx.get "state" ≠ .text s) → a.builtins.hash (tx.get "state") = .ok ()
  /-- a time of update that the audit looks at can be subtracted from its own -/
  comparable : ∀ state ∈ stateOf tx, state ∈ nonTerminalStates →
    SameKind a.evalTime (readUpdatedAt a tx)
  /-- the amount of a reported transaction is an integer -/
  integral   : ∀ state ∈ stateOf tx, state ∈ nonTerminalStates → PastTimeout a tx →
    ∃ amount, amountPaise a tx = .ok amount
  /-- a transaction in an open state that the audit leaves out is not late -/
  punctual   : ∀ state ∈ stateOf tx, state ∈ missedStates → ¬ PastTimeout a tx

section
variable {a : StaleAudit ι} {tx : ListedTransaction ι} {state : TransactionState}

theorem stale_iff (h : stateOf tx = some state) :
    Stale a tx ↔ MustAdvance state ∧ PastTimeout a tx := by
  rw [Stale, h]
  rfl

theorem not_stale_of_none (h : stateOf tx = none) : ¬ Stale a tx := by
  rw [Stale, h]
  exact fun hstale => hstale.1

theorem right_of_not_stale (h : ¬ Stale a tx) : Right a tx ↔ auditListed a tx = .ok none := by
  rw [Right, if_neg h]

theorem right_of_stale (h : Stale a tx) :
    Right a tx ↔ ∃ record, auditListed a tx = .ok (some record) ∧ Describes a record tx := by
  rw [Right, if_pos h]

theorem auditState_of_other_kind (hlisted : state ∈ nonTerminalStates)
    (hkind : ¬ SameKind a.evalTime (readUpdatedAt a tx)) :
    auditState a tx state
      = .error (.typeError "can't subtract offset-naive and offset-aware datetimes") := by
  rw [auditState, if_pos hlisted, sub, if_neg hkind]

theorem auditState_of_late (hlisted : state ∈ nonTerminalStates)
    (hkind : SameKind a.evalTime (readUpdatedAt a tx)) (hpast : PastTimeout a tx) :
    auditState a tx state
      = (amountPaise a tx).map fun amount => some (staleRecord a tx state amount) := by
  rw [auditState, if_pos hlisted, sub, if_pos hkind]
  exact if_pos hpast

theorem auditState_of_timely (hlisted : state ∈ nonTerminalStates)
    (hkind : SameKind a.evalTime (readUpdatedAt a tx)) (hpast : ¬ PastTimeout a tx) :
    auditState a tx state = .ok none := by
  rw [auditState, if_pos hlisted, sub, if_pos hkind]
  exact if_neg hpast

theorem not_right_of_error {err : ReconciliationError} (hrun : auditListed a tx = .error err) :
    ¬ Right a tx := by
  rw [Right, hrun]
  intro h
  by_cases hstale : Stale a tx
  · rw [if_pos hstale] at h
    obtain ⟨record, h, -⟩ := h
    cases h
  · rw [if_neg hstale] at h
    cases h

theorem right_iff_of_listed (hstate : stateOf tx = some state) (hlisted : state ∈ nonTerminalStates)
    (hrun : auditListed a tx = auditState a tx state) :
    Right a tx ↔ SameKind a.evalTime (readUpdatedAt a tx)
      ∧ (PastTimeout a tx → ∃ amount, amountPaise a tx = .ok amount) := by
  have hopen : MustAdvance state := mustAdvance_iff_listed_or_missed.mpr (Or.inl hlisted)
  have hstale : Stale a tx ↔ PastTimeout a tx := by
    rw [stale_iff hstate, and_iff_right hopen]
  by_cases hkind : SameKind a.evalTime (readUpdatedAt a tx)
  · rw [and_iff_right hkind]
    by_cases hpast : PastTimeout a tx
    · rw [right_of_stale (hstale.mpr hpast), hrun, auditState_of_late hlisted hkind hpast,
        forall_prop_of_true hpast]
      cases hamount : amountPaise a tx with
      | error err =>
          constructor
          · rintro ⟨record, h, -⟩
            cases h
          · rintro ⟨amount, h⟩
            cases h
      | ok amount =>
          exact ⟨fun _ => ⟨amount, rfl⟩,
            fun _ => ⟨_, rfl, state, amount, hstate, hamount, rfl⟩⟩
    · rw [right_of_not_stale (hstale.not.mpr hpast), hrun,
        auditState_of_timely hlisted hkind hpast]
      exact ⟨fun _ h => absurd h hpast, fun _ => rfl⟩
  · have hraised := hrun.trans (auditState_of_other_kind hlisted hkind)
    exact ⟨fun h => absurd h (not_right_of_error hraised), fun h => absurd h.1 hkind⟩

theorem right_iff_of_unlisted (hstate : stateOf tx = some state)
    (hlisted : state ∉ nonTerminalStates) (hrun : auditListed a tx = auditState a tx state) :
    Right a tx ↔ (state ∈ missedStates → ¬ PastTimeout a tx) := by
  have hopen : MustAdvance state ↔ state ∈ missedStates := by
    rw [mustAdvance_iff_listed_or_missed, or_iff_right hlisted]
  rw [auditState, if_neg hlisted] at hrun
  by_cases hstale : Stale a tx
  · obtain ⟨hmust, hpast⟩ := (stale_iff hstate).mp hstale
    rw [right_of_stale hstale, hrun]
    constructor
    · rintro ⟨record, h, -⟩
      cases h
    · intro h
      exact absurd hpast (h (hopen.mp hmust))
  · rw [right_of_not_stale hstale, hrun]
    refine ⟨fun _ hmissed hpast => hstale ?_, fun _ => rfl⟩
    exact (stale_iff hstate).mpr ⟨hopen.mpr hmissed, hpast⟩

theorem timely_iff_of_none (hstate : stateOf tx = none) :
    Timely a tx
      ↔ ((∀ s, tx.get "state" ≠ .text s) → a.builtins.hash (tx.get "state") = .ok ()) := by
  refine ⟨Timely.hashed, fun h => ⟨h, ?_, ?_, ?_⟩⟩
  all_goals
    intro state hmem
    rw [hstate] at hmem
    cases hmem

theorem timely_iff_of_some {s : String} (htext : tx.get "state" = .text s)
    (hstate : stateOf tx = some state) :
    Timely a tx ↔ (state ∈ nonTerminalStates → SameKind a.evalTime (readUpdatedAt a tx))
      ∧ (state ∈ nonTerminalStates → PastTimeout a tx → ∃ amount, amountPaise a tx = .ok amount)
      ∧ (state ∈ missedStates → ¬ PastTimeout a tx) := by
  constructor
  · intro h
    exact ⟨h.comparable state hstate, h.integral state hstate, h.punctual state hstate⟩
  · rintro ⟨hcomparable, hintegral, hpunctual⟩
    refine ⟨fun h => absurd htext (h s), ?_, ?_, ?_⟩
    all_goals
      intro state' hmem
      obtain rfl := Option.some.inj (hstate.symm.trans hmem)
      assumption

theorem auditListed_iff_of_no_text (hnot : ∀ s, tx.get "state" ≠ .text s) :
    Right a tx ↔ Timely a tx := by
  have hstate : stateOf tx = none := by
    rw [stateOf]
    cases htext : tx.get "state" with
    | text s => exact absurd htext (hnot s)
    | none | datetime t | object v => rfl
  have hrun : auditListed a tx = (a.builtins.hash (tx.get "state")).map fun _ => none := by
    rw [auditListed]
    cases htext : tx.get "state" with
    | text s => exact absurd htext (hnot s)
    | none | datetime t | object v => rfl
  rw [timely_iff_of_none hstate, forall_prop_of_true hnot,
    right_of_not_stale (not_stale_of_none hstate), hrun, Exceptions.map_eq_ok_iff]
  exact ⟨fun ⟨_, hhash, _⟩ => hhash, fun hhash => ⟨(), hhash, rfl⟩⟩

/-- **The audit is right about one transaction** exactly when its state can be
    looked up, its time can be compared, its amount is an integer, and it is not
    late in a state that the audit leaves out. -/
theorem auditListed_iff (a : StaleAudit ι) (tx : ListedTransaction ι) :
    Right a tx ↔ Timely a tx := by
  cases htext : tx.get "state" with
  | none | datetime t | object v =>
      refine auditListed_iff_of_no_text fun s heq => ?_
      rw [htext] at heq
      cases heq
  | text s =>
      cases hvalue : TransactionState.ofValue s with
      | none =>
          have hstate : stateOf tx = none := by
            rw [stateOf, htext]
            exact hvalue
          rw [timely_iff_of_none hstate, right_of_not_stale (not_stale_of_none hstate), auditListed,
            htext]
          simp [hvalue]
      | some state =>
          have hstate : stateOf tx = some state := by
            rw [stateOf, htext]
            exact hvalue
          have hrun : auditListed a tx = auditState a tx state := by
            rw [auditListed, htext]
            simp only [hvalue]
          rw [timely_iff_of_some htext hstate]
          by_cases hlisted : state ∈ nonTerminalStates
          · have hmissed : state ∉ missedStates := by
              revert hlisted
              cases state <;> decide
            rw [right_iff_of_listed hstate hlisted hrun]
            simp only [hlisted, hmissed, true_implies, false_implies, and_true]
          · rw [right_iff_of_unlisted hstate hlisted hrun]
            simp only [hlisted, false_implies, true_and]

/-! ## The whole audit -/

theorem stale_of_reported {record : StaleTransactionRecord ι}
    (h : auditListed a tx = .ok (some record)) : Stale a tx ∧ Describes a record tx := by
  rw [auditListed] at h
  cases htext : tx.get "state" with
  | none | datetime t | object v =>
      rw [htext] at h
      obtain ⟨-, -, hnone⟩ := Exceptions.map_eq_ok_iff.mp h
      cases hnone
  | text s =>
      rw [htext] at h
      cases hvalue : TransactionState.ofValue s with
      | none =>
          simp only [hvalue] at h
          cases h
      | some state =>
          have hstate : stateOf tx = some state := by
            rw [stateOf, htext]
            exact hvalue
          simp only [hvalue] at h
          rw [auditState] at h
          by_cases hlisted : state ∈ nonTerminalStates
          · rw [if_pos hlisted, sub] at h
            by_cases hkind : SameKind a.evalTime (readUpdatedAt a tx)
            · rw [if_pos hkind] at h
              dsimp only at h
              by_cases hpast : reaches a.timeoutSeconds
                  (totalSeconds (a.evalTime.micros - (readUpdatedAt a tx).micros)) = true
              · rw [if_pos hpast] at h
                obtain ⟨amount, hamount, hrecord⟩ := Exceptions.map_eq_ok_iff.mp h
                have hopen := mustAdvance_iff_listed_or_missed.mpr (Or.inl hlisted)
                exact ⟨(stale_iff hstate).mpr ⟨hopen, hpast⟩, state, amount, hstate, hamount,
                  (Option.some.inj hrecord).symm⟩
              · rw [if_neg hpast] at h
                cases h
            · rw [if_neg hkind] at h
              cases h
          · rw [if_neg hlisted] at h
            cases h

theorem audit_cons_eq_ok_iff {rest : List (ListedTransaction ι)}
    {report : List (StaleTransactionRecord ι)} :
    auditStaleTransactions a (tx :: rest) = .ok report
      ↔ ∃ record records, auditListed a tx = .ok record
        ∧ auditStaleTransactions a rest = .ok records ∧ report = record.toList ++ records := by
  rw [auditStaleTransactions, Exceptions.seq_eq_ok_iff]
  constructor
  · rintro ⟨record, hrecord, h⟩
    obtain ⟨records, hrecords, hreport⟩ := Exceptions.seq_eq_ok_iff.mp h
    exact ⟨record, records, hrecord, hrecords, (Except.ok.inj hreport).symm⟩
  · rintro ⟨record, records, hrecord, hrecords, rfl⟩
    exact ⟨record, hrecord, Exceptions.seq_eq_ok_iff.mpr ⟨records, hrecords, rfl⟩⟩

theorem staleTransactions_cons_of_stale {rest : List (ListedTransaction ι)} (h : Stale a tx) :
    staleTransactions a (tx :: rest) = tx :: staleTransactions a rest := by
  rw [staleTransactions, List.filter_cons, if_pos (decide_eq_true h), staleTransactions]

theorem staleTransactions_cons_of_not {rest : List (ListedTransaction ι)} (h : ¬ Stale a tx) :
    staleTransactions a (tx :: rest) = staleTransactions a rest := by
  have hdecide : ¬ decide (Stale a tx) = true := fun hd => h (of_decide_eq_true hd)
  rw [staleTransactions, List.filter_cons, if_neg hdecide, staleTransactions]

theorem length_report_le {transactions : List (ListedTransaction ι)}
    {report : List (StaleTransactionRecord ι)}
    (h : auditStaleTransactions a transactions = .ok report) :
    report.length ≤ (staleTransactions a transactions).length := by
  induction transactions generalizing report with
  | nil =>
      obtain rfl := Except.ok.inj h
      exact Nat.le_refl 0
  | cons tx rest ih =>
      obtain ⟨record, records, hrecord, hrecords, rfl⟩ := audit_cons_eq_ok_iff.mp h
      have hrest := ih hrecords
      cases record with
      | none =>
          by_cases hstale : Stale a tx
          · rw [staleTransactions_cons_of_stale hstale]
            exact Nat.le_succ_of_le hrest
          · rw [staleTransactions_cons_of_not hstale]
            exact hrest
      | some record =>
          rw [staleTransactions_cons_of_stale (stale_of_reported hrecord).1]
          exact Nat.succ_le_succ hrest

theorem right_of_length_le {transactions : List (ListedTransaction ι)}
    {report : List (StaleTransactionRecord ι)}
    (h : auditStaleTransactions a transactions = .ok report)
    (hle : (staleTransactions a transactions).length ≤ report.length) :
    ∀ tx ∈ transactions, Right a tx := by
  induction transactions generalizing report with
  | nil =>
      intro tx htx
      cases htx
  | cons tx rest ih =>
      obtain ⟨record, records, hrecord, hrecords, rfl⟩ := audit_cons_eq_ok_iff.mp h
      have hrest := length_report_le hrecords
      rw [List.forall_mem_cons]
      cases record with
      | none =>
          by_cases hstale : Stale a tx
          · -- one stale transaction more than reported
            rw [staleTransactions_cons_of_stale hstale] at hle
            exact absurd hle (Nat.not_le.mpr (Nat.lt_succ_of_le hrest))
          · rw [staleTransactions_cons_of_not hstale] at hle
            exact ⟨(right_of_not_stale hstale).mpr hrecord, ih hrecords hle⟩
      | some record =>
          obtain ⟨hstale, hdescribes⟩ := stale_of_reported hrecord
          rw [staleTransactions_cons_of_stale hstale] at hle
          exact ⟨(right_of_stale hstale).mpr ⟨record, hrecord, hdescribes⟩,
            ih hrecords (Nat.le_of_succ_le_succ hle)⟩

theorem reportsStale_of_right {transactions : List (ListedTransaction ι)}
    (h : ∀ tx ∈ transactions, Right a tx) : ReportsStale a transactions := by
  induction transactions with
  | nil => exact ⟨[], rfl, List.Forall₂.nil⟩
  | cons tx rest ih =>
      rw [List.forall_mem_cons] at h
      obtain ⟨records, hrecords, hall⟩ := ih h.2
      by_cases hstale : Stale a tx
      · obtain ⟨record, hrecord, hdescribes⟩ := (right_of_stale hstale).mp h.1
        refine ⟨record :: records, audit_cons_eq_ok_iff.mpr ⟨_, _, hrecord, hrecords, rfl⟩, ?_⟩
        rw [staleTransactions_cons_of_stale hstale]
        exact List.Forall₂.cons hdescribes hall
      · have hrecord := (right_of_not_stale hstale).mp h.1
        refine ⟨records, audit_cons_eq_ok_iff.mpr ⟨_, _, hrecord, hrecords, rfl⟩, ?_⟩
        rw [staleTransactions_cons_of_not hstale]
        exact hall

theorem right_of_reportsStale {transactions : List (ListedTransaction ι)}
    (h : ReportsStale a transactions) : ∀ tx ∈ transactions, Right a tx := by
  obtain ⟨report, hrun, hall⟩ := h
  exact right_of_length_le hrun (Nat.le_of_eq hall.length_eq.symm)

/-- **The audit reports exactly the stale transactions exactly when every
    transaction is a timely one.** -/
theorem reportsStale_iff (a : StaleAudit ι) (transactions : List (ListedTransaction ι)) :
    ReportsStale a transactions ↔ ∀ tx ∈ transactions, Timely a tx := by
  simp only [← auditListed_iff]
  exact ⟨right_of_reportsStale, reportsStale_of_right⟩

end

/-! ## A user who has approved -/

theorem firstOfMay_date : 1 ≤ 2024 ∧ 2024 ≤ 9999 ∧ 1 ≤ 5 ∧ 5 ≤ 12 ∧ 1 ≤ 1
    ∧ 1 ≤ daysInMonth 2024 5 := by decide

theorem firstOfMay_time : 0 < 24 ∧ 0 < 60 ∧ 0 < 60 ∧ 0 < 1000000 := by decide

theorem sixOClock_time : 6 < 24 ∧ 0 < 60 ∧ 0 < 60 ∧ 0 < 1000000 := by decide

theorem firstOfMay_offset : ∀ o ∈ (some 0 : Option Int), -86400000000 < o ∧ o < 86400000000 := by
  rintro o ⟨⟩
  decide

def firstOfMay : Datetime :=
  ⟨2024, 5, 1, 0, 0, 0, 0, some 0, firstOfMay_date, firstOfMay_time, firstOfMay_offset⟩

def sixOClock : Datetime :=
  ⟨2024, 5, 1, 6, 0, 0, 0, some 0, firstOfMay_date, sixOClock_time, firstOfMay_offset⟩

/-- The user has approved at midnight, and nothing has happened since. -/
def approved : ListedTransaction Empty := fun key =>
  if key = "transaction_id" then some (.text "tx-1")
  else if key = "state" then some (.text "USER_APPROVED")
  else if key = "updated_at" then some (.datetime firstOfMay)
  else none

def morningAudit : StaleAudit Empty :=
  ⟨⟨fun _ => none, fun _ => "", fun _ => .ok 0⟩, .strict, 300, sixOClock⟩

/-- Six hours after the approval, the transaction is not reported. -/
theorem not_reportsStale_approved : ¬ ReportsStale morningAudit [approved] := by
  intro h
  have hright := right_of_reportsStale h approved List.mem_cons_self
  have htimely := (auditListed_iff morningAudit approved).mp hright
  exact htimely.punctual .userApproved rfl (by decide) (by decide +kernel)

end RecoveryReconciliationEngine

end MandateGateway
