import MandateGateway.Receipt.Record
import MandateGateway.Recovery.BudgetAudit

/-! # Transactions, receipts and the audit chain

    `audit_audit_receipt_consistency` compares three collections.  It looks for
    a receipt of each listed success, and for a listed success of each receipt;
    it never looks for the audit event of a success, and a COMMITTED
    transaction is no success to it.

    * `reported_iff`: the transactions that are reported;
    * `reportsInconsistent_iff`: when these are the inconsistent ones. -/

namespace MandateGateway

open Exceptions

/-- A receipt, or the dictionary of one. -/
inductive ListedReceipt (ι : Type) where
  | receipt (r : ActionReceipt)
  | dict (fields : ListedTransaction ι)

def ListedReceipt.transactionId {ι : Type} : ListedReceipt ι → ListedValue ι
  | .receipt r => .text r.transactionId
  | .dict fields => fields.get "transaction_id"

/-- An entry of the report. -/
structure Inconsistency (ι : Type) where
  case          : String
  transactionId : Option (ListedValue ι)
  detail        : String
deriving DecidableEq

/-- The order in which a set is gone through. -/
structure SetOrder (α : Type) where
  order : List α → List α
  perm  : ∀ l, (order l).Perm l

namespace RecoveryReconciliationEngine

variable {ι : Type} [DecidableEq ι]

/-- `receipt_tx_ids`, from what is in the set already. -/
def receiptTxIds (builtins : ListedBuiltins ι) :
    List (ListedValue ι) → List (ListedReceipt ι) →
      Except ReconciliationError (List (ListedValue ι))
  | ids, [] => .ok ids
  | ids, r :: rest =>
      match builtins.hash (r.transactionId) with
      | .error err => .error err
      | .ok () =>
          let txId := r.transactionId
          receiptTxIds builtins (if txId ∈ ids then ids else ids ++ [txId]) rest

/-- Cases B and D of a listed success. -/
def auditSuccess (builtins : ListedBuiltins ι) (receiptIds : List (ListedValue ι))
    (tx : ListedTransaction ι) : List (Inconsistency ι) :=
  let txId := tx.get "transaction_id"
  (if txId ∈ receiptIds then [] else
    [⟨"CASE_B_RECEIPT_MISSING", some txId,
      s!"Transaction {builtins.str txId} is SUCCESS but action receipt is missing."⟩])
  ++ if tx.get "provider_outcome" = .text "UNKNOWN" then
    [⟨"CASE_D_UNRESOLVED_UNKNOWN_PROVIDER", some txId,
      s!"Transaction {builtins.str txId} claims SUCCESS but provider outcome is UNKNOWN."⟩]
    else []

/-- The loop over the transactions. -/
def auditSuccesses (builtins : ListedBuiltins ι) (receiptIds : List (ListedValue ι)) :
    List (ListedTransaction ι) → Except ReconciliationError (List (Inconsistency ι)) :=
  ofSuccesses builtins (auditSuccess builtins receiptIds)

/-- `matching[0]`. -/
def firstListing (transactions : List (ListedTransaction ι)) (txId : ListedValue ι) :
    Option (ListedTransaction ι) :=
  transactions.find? fun t => decide (t.get "transaction_id" = txId)

/-- Case C of the transaction of a receipt. -/
def auditReceipt (builtins : ListedBuiltins ι) (transactions : List (ListedTransaction ι))
    (txId : ListedValue ι) : Option (Inconsistency ι) :=
  let incomplete : Inconsistency ι :=
    ⟨"CASE_C_ORPHANED_RECEIPT", some txId,
      s!"Receipt exists for {builtins.str txId} but transaction is incomplete or missing."⟩
  match firstListing transactions txId with
  | none => some incomplete
  | some tx => if (tx.get "state").isState successStates = true then none else some incomplete

def chainCorrupted : Inconsistency ι :=
  ⟨"AUDIT_CHAIN_CORRUPTED", none, "Audit ledger chain verification failed."⟩

def auditAuditReceiptConsistency (sha256 : String → String) (builtins : ListedBuiltins ι)
    (set : SetOrder (ListedValue ι)) (ledger : LocalLedger) (receipts : List (ListedReceipt ι))
    (transactions : List (ListedTransaction ι)) :
    Except ReconciliationError (List (Inconsistency ι)) :=
  match ledger.verifyChain sha256 with
  | none => .error .unhashableEvent
  | some (validChain, _) => do
      let receiptIds ← receiptTxIds builtins [] receipts
      let successes ← auditSuccesses builtins receiptIds transactions
      .ok ((if validChain = true then [] else [chainCorrupted]) ++ successes
        ++ (set.order receiptIds).filterMap (auditReceipt builtins transactions))

/-! ## What the audit is for -/

def settledStates : List TransactionState := [.success, .completed, .committed]

section
variable (ledger : LocalLedger) (receipts : List (ListedReceipt ι))
  (transactions : List (ListedTransaction ι)) (txId : ListedValue ι)

def ListedIn (states : List TransactionState) : Prop :=
  ∃ tx ∈ transactions, tx.get "transaction_id" = txId ∧ (tx.get "state").isState states = true

/-- The transaction is listed so, and its provider outcome is unknown. -/
def ListedUnknown (states : List TransactionState) : Prop :=
  ∃ tx ∈ transactions, tx.get "transaction_id" = txId ∧ (tx.get "state").isState states = true
    ∧ tx.get "provider_outcome" = .text "UNKNOWN"

/-- The audit chain has the success of the transaction. -/
def HasSuccessEvent : Prop :=
  ∃ event ∈ ledger.events, event.eventType = .paymentSuccess
    ∧ event.transactionId.map ListedValue.text = some txId

def HasReceipt : Prop := ∃ r ∈ receipts, r.transactionId = txId

def CaseA : Prop := ListedIn transactions txId settledStates ∧ ¬ HasSuccessEvent ledger txId

def CaseB : Prop := ListedIn transactions txId settledStates ∧ ¬ HasReceipt receipts txId

def CaseC : Prop := HasReceipt receipts txId ∧ ¬ ListedIn transactions txId settledStates

/-- Settled while the provider outcome is unknown. -/
def CaseD : Prop := ListedUnknown transactions txId settledStates

/-- One of the documented cases holds of the transaction. -/
def Inconsistent : Prop :=
  CaseA ledger transactions txId ∨ CaseB receipts transactions txId
    ∨ CaseC receipts transactions txId ∨ CaseD transactions txId

end

/-- **The audit returns, and reports a transaction exactly when one of the
    documented cases holds of it.** -/
def ReportsInconsistent (sha256 : String → String) (builtins : ListedBuiltins ι)
    (set : SetOrder (ListedValue ι)) (ledger : LocalLedger) (receipts : List (ListedReceipt ι))
    (transactions : List (ListedTransaction ι)) : Prop :=
  ∃ report,
    auditAuditReceiptConsistency sha256 builtins set ledger receipts transactions = .ok report
      ∧ ∀ txId, (∃ x ∈ report, x.transactionId = some txId)
        ↔ Inconsistent ledger receipts transactions txId

/-! ## What is reported -/

section
variable {builtins : ListedBuiltins ι} {receipts : List (ListedReceipt ι)}
  {transactions : List (ListedTransaction ι)} {receiptIds : List (ListedValue ι)}

theorem receiptTxIds_eq_ok (ids : List (ListedValue ι))
    (h : ∀ r ∈ receipts, builtins.hash (r.transactionId) = .ok ()) :
    ∃ ids', receiptTxIds builtins ids receipts = .ok ids' := by
  induction receipts generalizing ids with
  | nil => exact ⟨ids, rfl⟩
  | cons r rest ih =>
      rw [List.forall_mem_cons] at h
      rw [receiptTxIds, h.1]
      exact ih _ h.2

theorem receiptTxIds_spec {ids ids' : List (ListedValue ι)}
    (h : receiptTxIds builtins ids receipts = .ok ids') :
    (∀ r ∈ receipts, builtins.hash (r.transactionId) = .ok ())
      ∧ ∀ v, v ∈ ids' ↔ v ∈ ids ∨ HasReceipt receipts v := by
  induction receipts generalizing ids with
  | nil =>
      obtain rfl := Except.ok.inj h
      simp [HasReceipt]
  | cons r rest ih =>
      rw [receiptTxIds] at h
      cases hhash : builtins.hash (r.transactionId) with
      | error err =>
          rw [hhash] at h
          cases h
      | ok u =>
          rw [hhash] at h
          obtain ⟨hall, hmem⟩ := ih h
          refine ⟨List.forall_mem_cons.mpr ⟨hhash, hall⟩, fun v => ?_⟩
          have hadd : v ∈ (if r.transactionId ∈ ids then ids
              else ids ++ [r.transactionId])
                ↔ v ∈ ids ∨ r.transactionId = v := by
            by_cases hin : r.transactionId ∈ ids
            · rw [if_pos hin]
              refine ⟨Or.inl, fun hv => hv.elim (fun hold => hold) ?_⟩
              rintro rfl
              exact hin
            · rw [if_neg hin, List.mem_append, List.mem_singleton, eq_comm (a := v)]
          rw [hmem, hadd, HasReceipt, HasReceipt, List.exists_mem_cons_iff, or_assoc]

variable (builtins receiptIds) in
theorem exists_mem_auditSuccess_iff {tx : ListedTransaction ι} {txId : ListedValue ι} :
    (∃ x ∈ auditSuccess builtins receiptIds tx, x.transactionId = some txId)
      ↔ tx.get "transaction_id" = txId
        ∧ (txId ∉ receiptIds ∨ tx.get "provider_outcome" = .text "UNKNOWN") := by
  have hguard : ∀ (c : Prop) [Decidable c] (x : Inconsistency ι),
      (∃ y ∈ (if c then [x] else []), y.transactionId = some txId)
        ↔ c ∧ x.transactionId = some txId := by
    intro c _ x
    by_cases hc : c <;> simp [hc]
  have hguard' : ∀ (c : Prop) [Decidable c] (x : Inconsistency ι),
      (∃ y ∈ (if c then [] else [x]), y.transactionId = some txId)
        ↔ ¬ c ∧ x.transactionId = some txId := by
    intro c _ x
    by_cases hc : c <;> simp [hc]
  simp only [auditSuccess, List.mem_append, or_and_right, exists_or, hguard, hguard',
    Option.some.injEq]
  constructor
  · rintro (⟨hmissing, rfl⟩ | ⟨hunknown, rfl⟩)
    · exact ⟨rfl, Or.inl hmissing⟩
    · exact ⟨rfl, Or.inr hunknown⟩
  · rintro ⟨rfl, hmissing | hunknown⟩
    · exact Or.inl ⟨hmissing, rfl⟩
    · exact Or.inr ⟨hunknown, rfl⟩

def FirstSuccessful (transactions : List (ListedTransaction ι)) (txId : ListedValue ι) : Prop :=
  ∃ tx, firstListing transactions txId = some tx
    ∧ (tx.get "state").isState successStates = true

def Reported (receipts : List (ListedReceipt ι)) (transactions : List (ListedTransaction ι))
    (txId : ListedValue ι) : Prop :=
  (ListedIn transactions txId successStates ∧ ¬ HasReceipt receipts txId)
    ∨ ListedUnknown transactions txId successStates
    ∨ (HasReceipt receipts txId ∧ ¬ FirstSuccessful transactions txId)

variable (builtins) in
theorem exists_auditReceipt_iff {rid txId : ListedValue ι} :
    (∃ x, auditReceipt builtins transactions rid = some x ∧ x.transactionId = some txId)
      ↔ rid = txId ∧ ¬ FirstSuccessful transactions rid := by
  rw [auditReceipt, FirstSuccessful]
  cases hfirst : firstListing transactions rid with
  | none => simp
  | some tx =>
      by_cases hstate : (tx.get "state").isState successStates = true
      · simp [hstate]
      · simp [hstate]

section
variable {sha256 : String → String} {set : SetOrder (ListedValue ι)} {ledger : LocalLedger}

theorem audit_eq_ok_iff {report : List (Inconsistency ι)} :
    auditAuditReceiptConsistency sha256 builtins set ledger receipts transactions = .ok report
      ↔ ∃ chain receiptIds successes, ledger.verifyChain sha256 = some chain
        ∧ receiptTxIds builtins [] receipts = .ok receiptIds
        ∧ auditSuccesses builtins receiptIds transactions = .ok successes
        ∧ report = (if chain.1 = true then [] else [chainCorrupted]) ++ successes
          ++ (set.order receiptIds).filterMap (auditReceipt builtins transactions) := by
  rw [auditAuditReceiptConsistency]
  cases ledger.verifyChain sha256 with
  | none => simp
  | some chain =>
      dsimp only
      rw [seq_eq_ok_iff]
      constructor
      · rintro ⟨receiptIds, hids, h⟩
        obtain ⟨successes, hsuccesses, hreport⟩ := seq_eq_ok_iff.mp h
        exact ⟨chain, receiptIds, successes, rfl, hids, hsuccesses, (Except.ok.inj hreport).symm⟩
      · rintro ⟨chain', receiptIds, successes, hchain, hids, hsuccesses, rfl⟩
        obtain rfl := Option.some.inj hchain
        exact ⟨receiptIds, hids, seq_eq_ok_iff.mpr ⟨successes, hsuccesses, rfl⟩⟩

variable (builtins) in
theorem exists_mem_auditSuccesses_iff {successes : List (Inconsistency ι)}
    (h : auditSuccesses builtins receiptIds transactions = .ok successes) (txId : ListedValue ι) :
    (∃ x ∈ successes, x.transactionId = some txId)
      ↔ (ListedIn transactions txId successStates ∧ txId ∉ receiptIds)
        ∨ ListedUnknown transactions txId successStates := by
  have hmem := (ofSuccesses_spec h).2
  have hcase : ∀ tx : ListedTransaction ι, (∃ x ∈ auditSuccess builtins receiptIds tx,
      x.transactionId = some txId) ↔ _ := fun _ => exists_mem_auditSuccess_iff builtins receiptIds
  constructor
  · rintro ⟨x, hx, hid⟩
    obtain ⟨tx, htx, hstate, hreported⟩ := (hmem x).mp hx
    obtain ⟨heq, hmissing | hunknown⟩ := (hcase tx).mp ⟨x, hreported, hid⟩
    · exact Or.inl ⟨⟨tx, htx, heq, hstate⟩, hmissing⟩
    · exact Or.inr ⟨tx, htx, heq, hstate, hunknown⟩
  · rintro (⟨⟨tx, htx, heq, hstate⟩, hmissing⟩ | ⟨tx, htx, heq, hstate, hunknown⟩)
    · obtain ⟨x, hreported, hid⟩ := (hcase tx).mpr ⟨heq, Or.inl hmissing⟩
      exact ⟨x, (hmem x).mpr ⟨tx, htx, hstate, hreported⟩, hid⟩
    · obtain ⟨x, hreported, hid⟩ := (hcase tx).mpr ⟨heq, Or.inr hunknown⟩
      exact ⟨x, (hmem x).mpr ⟨tx, htx, hstate, hreported⟩, hid⟩

variable (builtins) in
theorem exists_mem_auditReceipts_iff {ids : List (ListedValue ι)} (txId : ListedValue ι) :
    (∃ x ∈ ids.filterMap (auditReceipt builtins transactions), x.transactionId = some txId)
      ↔ txId ∈ ids ∧ ¬ FirstSuccessful transactions txId := by
  constructor
  · rintro ⟨x, hx, hid⟩
    obtain ⟨rid, hrid, hcase⟩ := List.mem_filterMap.mp hx
    obtain ⟨rfl, hnot⟩ := (exists_auditReceipt_iff builtins).mp ⟨x, hcase, hid⟩
    exact ⟨hrid, hnot⟩
  · rintro ⟨hmem, hnot⟩
    obtain ⟨x, hcase, hid⟩ := (exists_auditReceipt_iff builtins).mpr ⟨rfl, hnot⟩
    exact ⟨x, List.mem_filterMap.mpr ⟨txId, hmem, hcase⟩, hid⟩

/-- **The transactions that are reported**: a success without a receipt or with
    an unknown outcome, and one with a receipt whose first listing is no success. -/
theorem reported_iff {report : List (Inconsistency ι)}
    (h : auditAuditReceiptConsistency sha256 builtins set ledger receipts transactions
      = .ok report) (txId : ListedValue ι) :
    (∃ x ∈ report, x.transactionId = some txId)
      ↔ Reported receipts transactions txId := by
  obtain ⟨chain, receiptIds, successes, -, hids, hsuccesses, rfl⟩ := audit_eq_ok_iff.mp h
  have hreceipt : txId ∈ receiptIds ↔ HasReceipt receipts txId := by
    rw [(receiptTxIds_spec hids).2, or_iff_right List.not_mem_nil]
  have hchain : ¬ ∃ x ∈ (if chain.1 = true then [] else [chainCorrupted] : List (Inconsistency ι)),
      x.transactionId = some txId := by
    by_cases hvalid : chain.1 = true
    · simp [hvalid]
    · simp [hvalid, chainCorrupted]
  simp only [Reported, List.mem_append, or_and_right, exists_or]
  rw [or_assoc, or_iff_right hchain, exists_mem_auditSuccesses_iff builtins hsuccesses,
    exists_mem_auditReceipts_iff builtins, (set.perm receiptIds).mem_iff, hreceipt, or_assoc]

end

/-! ## When the report is right -/

/-- A transaction that the audit is right about. -/
structure AuditedRightly (ledger : LocalLedger) (receipts : List (ListedReceipt ι))
    (transactions : List (ListedTransaction ι)) (txId : ListedValue ι) : Prop where
  /-- without a receipt, it is listed as a success if it is listed as settled -/
  unreceipted : ¬ HasReceipt receipts txId → ListedIn transactions txId settledStates →
    ListedIn transactions txId successStates
  /-- with a receipt, first listed as a success and with no such listing unknown,
      it has its audit event, and no settled listing is unknown -/
  successful  : HasReceipt receipts txId → FirstSuccessful transactions txId →
    ¬ ListedUnknown transactions txId successStates →
      HasSuccessEvent ledger txId ∧ ¬ ListedUnknown transactions txId settledStates
  /-- with a receipt, first listed otherwise but listed as settled, it lacks its
      audit event, or a settled listing is unknown -/
  otherwise   : HasReceipt receipts txId → ¬ FirstSuccessful transactions txId →
    ListedIn transactions txId settledStates →
      ¬ HasSuccessEvent ledger txId ∨ ListedUnknown transactions txId settledStates

/-- Ledgers, receipts and transactions that the audit is right about. -/
structure Comparable (sha256 : String → String) (builtins : ListedBuiltins ι)
    (ledger : LocalLedger) (receipts : List (ListedReceipt ι))
    (transactions : List (ListedTransaction ι)) : Prop where
  chain      : ∃ result, ledger.verifyChain sha256 = some result
  receiptIds : ∀ r ∈ receipts, builtins.hash (r.transactionId) = .ok ()
  successIds : ∀ tx ∈ transactions, (tx.get "state").isState successStates = true →
    builtins.hash (tx.get "transaction_id") = .ok ()
  rightly    : ∀ txId, AuditedRightly ledger receipts transactions txId

theorem isState_settled_of_success {v : ListedValue ι} (h : v.isState successStates = true) :
    v.isState settledStates = true := by
  obtain ⟨s, hs, rfl⟩ := ListedValue.isState_iff.mp h
  refine ListedValue.isState_iff.mpr ⟨s, ?_, rfl⟩
  exact List.mem_append_left [TransactionState.committed] hs

theorem ListedIn.settled {txId : ListedValue ι} (h : ListedIn transactions txId successStates) :
    ListedIn transactions txId settledStates := by
  obtain ⟨tx, htx, hid, hstate⟩ := h
  exact ⟨tx, htx, hid, isState_settled_of_success hstate⟩

theorem ListedUnknown.settled {txId : ListedValue ι}
    (h : ListedUnknown transactions txId successStates) :
    ListedUnknown transactions txId settledStates := by
  obtain ⟨tx, htx, hid, hstate, hunknown⟩ := h
  exact ⟨tx, htx, hid, isState_settled_of_success hstate, hunknown⟩

theorem ListedUnknown.listed {txId : ListedValue ι} {states : List TransactionState}
    (h : ListedUnknown transactions txId states) : ListedIn transactions txId states := by
  obtain ⟨tx, htx, hid, hstate, -⟩ := h
  exact ⟨tx, htx, hid, hstate⟩

theorem FirstSuccessful.listed {txId : ListedValue ι} (h : FirstSuccessful transactions txId) :
    ListedIn transactions txId successStates := by
  obtain ⟨tx, hfirst, hstate⟩ := h
  rw [firstListing] at hfirst
  have hid := List.find?_some hfirst
  rw [decide_eq_true_eq] at hid
  exact ⟨tx, List.mem_of_find?_eq_some hfirst, hid, hstate⟩

section
variable {ledger : LocalLedger} {txId : ListedValue ι}

theorem reported_iff_of_successful (hreceipt : HasReceipt receipts txId)
    (hfirst : FirstSuccessful transactions txId) :
    (Reported receipts transactions txId ↔ Inconsistent ledger receipts transactions txId)
      ↔ AuditedRightly ledger receipts transactions txId := by
  have hset := hfirst.listed.settled
  rw [Reported, Inconsistent, CaseA, CaseB, CaseC, CaseD]
  simp only [hreceipt, hfirst, hset, not_true_eq_false, and_false, true_and, or_false, false_or]
  constructor
  · intro h
    refine ⟨fun hnot => absurd hreceipt hnot, fun _ _ hknown => ?_,
      fun _ hnot => absurd hfirst hnot⟩
    have hok := not_or.mp (h.not.mp hknown)
    exact ⟨not_not.mp hok.1, hok.2⟩
  · rintro ⟨-, hsuccessful, -⟩
    refine ⟨fun h => Or.inr h.settled, fun h => ?_⟩
    by_contra hknown
    obtain ⟨hevent, hnone⟩ := hsuccessful hreceipt hfirst hknown
    exact h.elim (fun hno => hno hevent) hnone

theorem reported_iff_of_otherwise (hreceipt : HasReceipt receipts txId)
    (hfirst : ¬ FirstSuccessful transactions txId) :
    (Reported receipts transactions txId ↔ Inconsistent ledger receipts transactions txId)
      ↔ AuditedRightly ledger receipts transactions txId := by
  rw [Reported, Inconsistent, CaseA, CaseB, CaseC, CaseD]
  simp only [hreceipt, hfirst, not_true_eq_false, not_false_eq_true, and_false, and_true,
    true_and, false_or, or_true, true_iff]
  constructor
  · intro h
    refine ⟨fun hnot => absurd hreceipt hnot, fun _ hyes => absurd hyes hfirst,
      fun _ _ hset => ?_⟩
    rcases h with ⟨-, hno⟩ | hnot | hyes
    · exact Or.inl hno
    · exact absurd hset hnot
    · exact Or.inr hyes
  · rintro ⟨-, -, hotherwise⟩
    by_cases hset : ListedIn transactions txId settledStates
    · rcases hotherwise hreceipt hfirst hset with hno | hyes
      · exact Or.inl ⟨hset, hno⟩
      · exact Or.inr (Or.inr hyes)
    · exact Or.inr (Or.inl hset)

theorem reported_iff_of_unreceipted (hreceipt : ¬ HasReceipt receipts txId) :
    (Reported receipts transactions txId ↔ Inconsistent ledger receipts transactions txId)
      ↔ AuditedRightly ledger receipts transactions txId := by
  have hlisted : ListedUnknown transactions txId successStates →
      ListedIn transactions txId successStates := ListedUnknown.listed
  have hlisted' : ListedUnknown transactions txId settledStates →
      ListedIn transactions txId settledStates := ListedUnknown.listed
  rw [Reported, Inconsistent, CaseA, CaseB, CaseC, CaseD]
  simp only [hreceipt, not_false_eq_true, and_true, false_and, or_false, false_or]
  constructor
  · intro h
    refine ⟨fun _ hset => ?_, fun hyes => absurd hyes hreceipt, fun hyes => absurd hyes hreceipt⟩
    exact (h.mpr (Or.inr (Or.inl hset))).elim (fun hin => hin) hlisted
  · rintro ⟨hunreceipted, -, -⟩
    constructor
    · rintro (hin | hin)
      · exact Or.inr (Or.inl hin.settled)
      · exact Or.inr (Or.inl (hlisted hin).settled)
    · rintro (⟨hset, -⟩ | hset | hyes)
      · exact Or.inl (hunreceipted hreceipt hset)
      · exact Or.inl (hunreceipted hreceipt hset)
      · exact Or.inl (hunreceipted hreceipt (hlisted' hyes))

/-- **What is reported is what is inconsistent**, for one transaction. -/
theorem reported_eq_inconsistent_iff :
    (Reported receipts transactions txId ↔ Inconsistent ledger receipts transactions txId)
      ↔ AuditedRightly ledger receipts transactions txId := by
  by_cases hreceipt : HasReceipt receipts txId
  · by_cases hfirst : FirstSuccessful transactions txId
    · exact reported_iff_of_successful hreceipt hfirst
    · exact reported_iff_of_otherwise hreceipt hfirst
  · exact reported_iff_of_unreceipted hreceipt

end

section
variable {sha256 : String → String} {set : SetOrder (ListedValue ι)} {ledger : LocalLedger}

theorem reportsInconsistent_of_comparable
    (h : Comparable sha256 builtins ledger receipts transactions) :
    ReportsInconsistent sha256 builtins set ledger receipts transactions := by
  obtain ⟨chain, hchain⟩ := h.chain
  obtain ⟨receiptIds, hids⟩ := receiptTxIds_eq_ok [] h.receiptIds
  obtain ⟨successes, hsuccesses⟩ :=
    ofSuccesses_eq_ok (auditSuccess builtins receiptIds) h.successIds
  have hrun : auditAuditReceiptConsistency sha256 builtins set ledger receipts transactions
      = .ok _ := audit_eq_ok_iff.mpr
    ⟨chain, receiptIds, successes, hchain, hids, hsuccesses, rfl⟩
  refine ⟨_, hrun, fun txId => ?_⟩
  exact (reported_iff hrun txId).trans (reported_eq_inconsistent_iff.mpr (h.rightly txId))

theorem comparable_of_reportsInconsistent
    (h : ReportsInconsistent sha256 builtins set ledger receipts transactions) :
    Comparable sha256 builtins ledger receipts transactions := by
  obtain ⟨report, hrun, hexact⟩ := h
  obtain ⟨chain, receiptIds, successes, hchain, hids, hsuccesses, -⟩ := audit_eq_ok_iff.mp hrun
  refine ⟨⟨chain, hchain⟩, (receiptTxIds_spec hids).1, (ofSuccesses_spec hsuccesses).1,
    fun txId => ?_⟩
  exact reported_eq_inconsistent_iff.mp ((reported_iff hrun txId).symm.trans (hexact txId))

/-- **The audit reports exactly the inconsistent transactions exactly when the
    identifiers have hashes and it is right about every transaction.** -/
theorem reportsInconsistent_iff (sha256 : String → String) (builtins : ListedBuiltins ι)
    (set : SetOrder (ListedValue ι)) (ledger : LocalLedger) (receipts : List (ListedReceipt ι))
    (transactions : List (ListedTransaction ι)) :
    ReportsInconsistent sha256 builtins set ledger receipts transactions
      ↔ Comparable sha256 builtins ledger receipts transactions :=
  ⟨comparable_of_reportsInconsistent, reportsInconsistent_of_comparable⟩

end

end

/-! ## A committed payment -/

def committed : ListedTransaction Empty := fun key =>
  if key = "transaction_id" then some (.text "tx-1")
  else if key = "state" then some (.text "COMMITTED")
  else if key = "provider_outcome" then some (.text "SUCCESS")
  else none

def receiptOfCommitted : ListedReceipt Empty := .dict fun key =>
  if key = "transaction_id" then some (.text "tx-1") else none

theorem midnight_date : 1 ≤ 2024 ∧ 2024 ≤ 9999 ∧ 1 ≤ 1 ∧ 1 ≤ 12 ∧ 1 ≤ 1
    ∧ 1 ≤ Clock.daysInMonth 2024 1 := by decide

theorem midnight_time : 0 < 24 ∧ 0 < 60 ∧ 0 < 60 ∧ 0 < 1000000 := by decide

theorem midnight_offset : ∀ o ∈ (some 0 : Option Int), -86400000000 < o ∧ o < 86400000000 := by
  rintro o ⟨⟩
  decide

def midnight : Clock.Datetime :=
  ⟨2024, 1, 1, 0, 0, 0, 0, some 0, midnight_date, midnight_time, midnight_offset⟩

def paid : AuditEvent where
  eventId := "e"
  eventType := .paymentSuccess
  timestamp := midnight
  transactionId := some "tx-1"
  mandateId := none
  merchantId := none
  buyerId := none
  payload := .dict []
  previousHash := AuditLedger.genesisHash
  eventHash := "h"

def paidLedger : LocalLedger := ⟨[paid], "h"⟩

/-- A committed payment with its receipt and its audit event is reported. -/
theorem not_reportsInconsistent_committed :
    ¬ ReportsInconsistent (fun _ => "h") noObjects ⟨id, fun l => List.Perm.refl l⟩ paidLedger
      [receiptOfCommitted] [committed] := by
  intro h
  have hrightly := (comparable_of_reportsInconsistent h).rightly (.text "tx-1")
  have hreceipt : HasReceipt [receiptOfCommitted] (.text "tx-1") :=
    ⟨receiptOfCommitted, List.mem_cons_self, rfl⟩
  have hfirst : ¬ FirstSuccessful [committed] (.text "tx-1") := by
    rintro ⟨tx, hfound, hstate⟩
    obtain rfl := Option.some.inj (show some committed = some tx from hfound)
    exact absurd hstate (by decide)
  have hsettled : ListedIn [committed] (.text "tx-1") settledStates :=
    ⟨committed, List.mem_cons_self, rfl, by decide⟩
  rcases hrightly.otherwise hreceipt hfirst hsettled with hno | ⟨tx, htx, -, -, hunknown⟩
  · exact hno ⟨paid, List.mem_cons_self, rfl, rfl⟩
  · rw [List.mem_singleton.mp htx] at hunknown
    exact absurd hunknown (by decide)

end RecoveryReconciliationEngine

end MandateGateway
