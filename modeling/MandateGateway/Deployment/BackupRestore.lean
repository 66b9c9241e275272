import MandateGateway.Audit.Repository
import MandateGateway.Db.Schema
import MandateGateway.Lib.DatetimeRead
import MandateGateway.Lib.JsonSpaces

/-! # Backup and restore

    A snapshot holds the rows of fourteen tables as dictionaries, and a checksum
    of their JSON text.  Three lists are kept by hand: what is exported, what is
    wiped and what is inserted.  The other tables are in none of them. -/

namespace MandateGateway

open Clock Json Json.Tree

/-- The tables of a snapshot. -/
inductive SnapshotField where
  | merchants | merchantPolicies | products | mandates | budgetReservations
  | stepUpChallenges | replays | nonces | transactions | executionAttempts | outboxEvents
  | auditEvents | receipts | forensicEvents
deriving DecidableEq, Repr

namespace SnapshotField

/-- In the order of the dataclass. -/
def all : List SnapshotField := [
  merchants, merchantPolicies, products, mandates, budgetReservations, stepUpChallenges,
  replays, nonces, transactions, executionAttempts, outboxEvents, auditEvents, receipts,
  forensicEvents]

def name : SnapshotField → String
  | merchants => "merchants"
  | merchantPolicies => "merchant_policies"
  | products => "products"
  | mandates => "mandates"
  | budgetReservations => "budget_reservations"
  | stepUpChallenges => "step_up_challenges"
  | replays => "replays"
  | nonces => "nonces"
  | transactions => "transactions"
  | executionAttempts => "execution_attempts"
  | outboxEvents => "outbox_events"
  | auditEvents => "audit_events"
  | receipts => "receipts"
  | forensicEvents => "forensic_events"

def model : SnapshotField → TableName
  | merchants => .merchants
  | merchantPolicies => .merchantPolicies
  | products => .products
  | mandates => .mandates
  | budgetReservations => .budgetReservations
  | stepUpChallenges => .stepUpChallenges
  | replays => .replayRecords
  | nonces => .nonceRecords
  | transactions => .transactions
  | executionAttempts => .executionAttempts
  | outboxEvents => .outboxEvents
  | auditEvents => .auditEvents
  | receipts => .actionReceipts
  | forensicEvents => .forensicEvents

end SnapshotField

structure SnapshotRow where
  members  : List (String × Tree)
  distinct : Distinct (.obj members)

structure BackupSnapshot where
  snapshotVersion  : String
  exportTimestamp  : String
  snapshotChecksum : String
  rows             : SnapshotField → List SnapshotRow

namespace BackupSnapshot

/-- The rows of a table, as one value. -/
def tableTree (snapshot : BackupSnapshot) (field : SnapshotField) : Tree :=
  .arr ((snapshot.rows field).map fun row => .obj row.members)

/-- What the checksum is computed over. -/
def payload (snapshot : BackupSnapshot) : Tree :=
  .obj (("snapshot_version", .str snapshot.snapshotVersion)
    :: SnapshotField.all.map fun field => (field.name, snapshot.tableTree field))

def computeChecksum (sha256 : String → String) (snapshot : BackupSnapshot) : String :=
  sha256 snapshot.payload.sortKeys.dumps

end BackupSnapshot

namespace BackupRestoreManager

/-! ## Export -/

def serializeCell : Cell → Tree
  | .datetime t => .str t.isoformat
  | .value v => v

def serializeCells (columns : List Column) (cells : List Cell) : List (String × Tree) :=
  (columns.zip cells).map fun p => (p.1.name, serializeCell p.2)

theorem keys_serializeCells {columns : List Column} {cells : List Cell}
    (h : Column.holdsAll columns cells = true) :
    keys (serializeCells columns cells) = columns.map Column.name := by
  induction columns generalizing cells with
  | nil => rfl
  | cons c cs ih =>
      cases cells with
      | nil => cases h
      | cons x xs =>
          rw [Column.holdsAll, Bool.and_eq_true] at h
          exact congrArg (c.name :: ·) (ih h.2)

theorem distinct_serializeCell {c : Column} {x : Cell} (h : c.holds x = true) :
    Distinct (serializeCell x) := by
  cases x with
  | datetime t => exact .str _
  | value v =>
      rw [Column.holds, Bool.or_eq_true, Bool.and_eq_true] at h
      cases v with
      | null => exact .null
      | bool b => exact .bool b
      | num n => exact .num n
      | str s => exact .str s
      | arr xs =>
          rcases h with h | ⟨-, h⟩
          · cases htype : c.type <;> rw [htype] at h <;> cases h
          · cases h
      | obj ms =>
          rcases h with h | ⟨-, h⟩
          · cases htype : c.type <;> rw [htype] at h <;> cases h
          · cases h

theorem holds_of_mem_zip {columns : List Column} {cells : List Cell}
    (h : Column.holdsAll columns cells = true) :
    ∀ p ∈ columns.zip cells, p.1.holds p.2 = true := by
  induction columns generalizing cells with
  | nil => exact fun p hp => absurd hp List.not_mem_nil
  | cons c cs ih =>
      cases cells with
      | nil => cases h
      | cons x xs =>
          rw [Column.holdsAll, Bool.and_eq_true] at h
          rw [List.zip_cons_cons, List.forall_mem_cons]
          exact ⟨h.1, ih h.2⟩

/-- The dictionary of a row. -/
def serializeRow {t : TableName} (r : Row t) : SnapshotRow where
  members := serializeCells t.columns r.cells
  distinct := by
    refine .obj ?_ ?_
    · rw [keys_serializeCells r.holds]
      exact t.nodup_columns
    · intro m hm
      obtain ⟨p, hp, rfl⟩ := List.mem_map.mp hm
      exact distinct_serializeCell (holds_of_mem_zip r.holds p hp)

def serializeTable (db : PersistentDb) (t : TableName) : List SnapshotRow :=
  (db t).map serializeRow

/-- `export_database_snapshot`, at the time with this text. -/
def exportDatabaseSnapshot (sha256 : String → String) (ts : String) (db : PersistentDb) :
    BackupSnapshot :=
  let snapshot : BackupSnapshot := {
    snapshotVersion := "1.0.0"
    exportTimestamp := ts
    snapshotChecksum := ""
    rows := fun field => serializeTable db field.model }
  { snapshot with snapshotChecksum := snapshot.computeChecksum sha256 }

/-! ## Restore -/

/-- How a restore fails: a check of its own, what the database refuses, or an
    error in the verification of the ledger. -/
inductive RestoreError where
  | valueError (message : String)
  | databaseError (message : String)
  | appendError (err : AppendError)
deriving DecidableEq, Repr

/-- What a restore receives from the process, the mapper and the database. -/
structure RestoreEnv where
  sha256      : String → String
  reader      : DatetimeReader
  /-- the row that is made of cells, with defaults and conversions -/
  store       : (t : TableName) → List Cell → Except String (Row t)
  store_cells : ∀ (t : TableName) (r : Row t), store t r.cells = .ok r
  /-- the constraint that a flush from one state to another violates -/
  flush       : PersistentDb → PersistentDb → Option String
  /-- the text of the exception that an undecodable payload raises -/
  decodeError : String → String

/-- Wiped in reverse dependency order. -/
def wipeModels : List TableName := [
  .actionReceipts, .forensicEvents, .outboxEvents, .executionAttempts, .auditEvents,
  .nonceRecords, .replayRecords, .stepUpChallenges, .budgetReservations, .transactions,
  .mandates, .products, .merchantPolicies, .merchants]

/-- Inserted in dependency order. -/
def insertSpecs : List (TableName × SnapshotField) := [
  (.merchants, .merchants),
  (.merchantPolicies, .merchantPolicies),
  (.products, .products),
  (.mandates, .mandates),
  (.transactions, .transactions),
  (.budgetReservations, .budgetReservations),
  (.stepUpChallenges, .stepUpChallenges),
  (.replayRecords, .replays),
  (.nonceRecords, .nonces),
  (.auditEvents, .auditEvents),
  (.executionAttempts, .executionAttempts),
  (.outboxEvents, .outboxEvents),
  (.forensicEvents, .forensicEvents),
  (.actionReceipts, .receipts)]

/-- The column is taken for one of dates and times, by its type or its name. -/
def isDatetime (col : Column) : Bool :=
  col.type == .dateTime || decide ("_at".toList <:+ col.name.toList) || col.name == "timestamp"
    || Text.occursIn "DATETIME" col.type.sql || Text.occursIn "TIMESTAMP" col.type.sql

/-- A cell of `_parse_row`. -/
def parseCell (reader : DatetimeReader) (col : Column) (val : Option Tree) : Cell :=
  match val with
  | none => .null
  | some (.str s) =>
      if isDatetime col then
        match reader.read s with
        | some t => .datetime t
        | none => .value (.str s)
      else .value (.str s)
  | some v => .value v

def parseRow (reader : DatetimeReader) (t : TableName) (row : List (String × Tree)) : List Cell :=
  t.columns.map fun col => parseCell reader col (OrderedMap.lookupEntries col.name row)

/-- `delete(m)` for every model of the list. -/
def wipe (models : List TableName) (db : PersistentDb) : PersistentDb :=
  fun t => if t ∈ models then [] else db t

def parseRows (env : RestoreEnv) (t : TableName) : List SnapshotRow → Except String (List (Row t))
  | [] => .ok []
  | row :: rows => do
      let obj ← env.store t (parseRow env.reader t row.members)
      let objs ← parseRows env t rows
      .ok (obj :: objs)

/-- The state that the flush is to write. -/
def insertAll (env : RestoreEnv) (snapshot : BackupSnapshot) :
    List (TableName × SnapshotField) → PersistentDb → Except String PersistentDb
  | [], db => .ok db
  | (t, field) :: specs, db => do
      let objs ← parseRows env t (snapshot.rows field)
      insertAll env snapshot specs (Function.update db t (db t ++ objs))

/-! ## Verification -/

def cellText : Cell → String
  | .value (.str s) => s
  | _ => ""

def cellTextOrNone : Cell → Option String
  | .value (.str s) => some s
  | _ => none

def cellNat : Cell → Nat
  | .value (.num (.int i)) => i.toNat
  | _ => 0

theorem epoch_date :
    1 ≤ 1970 ∧ 1970 ≤ 9999 ∧ 1 ≤ 1 ∧ 1 ≤ 12 ∧ 1 ≤ 1 ∧ 1 ≤ daysInMonth 1970 1 := by decide

theorem epoch_time : 0 < 24 ∧ 0 < 60 ∧ 0 < 60 ∧ 0 < 1000000 := by decide

theorem epoch_offset : ∀ o ∈ (none : Option Int), -86400000000 < o ∧ o < 86400000000 := by decide

def cellTime : Cell → Datetime
  | .datetime t => t
  | _ => ⟨1970, 1, 1, 0, 0, 0, 0, none, epoch_date, epoch_time, epoch_offset⟩

def auditEventOf (r : Row .auditEvents) : AuditEventModel where
  eventId := cellText (r.get "event_id")
  sequenceNumber := cellNat (r.get "sequence_number")
  eventType := cellText (r.get "event_type")
  transactionId := cellTextOrNone (r.get "transaction_id")
  mandateId := cellTextOrNone (r.get "mandate_id")
  merchantId := cellTextOrNone (r.get "merchant_id")
  buyerId := cellTextOrNone (r.get "buyer_id")
  payloadJson := cellText (r.get "payload_json")
  previousHash := cellText (r.get "previous_hash")
  eventHash := cellText (r.get "event_hash")
  timestamp := cellTime (r.get "timestamp")

/-- `verify_chain` on the rows of the table. -/
def verifyChainOf (env : RestoreEnv) (db : PersistentDb) :
    Except AppendError (Bool × Option String) :=
  AuditRepository.checkRows env.sha256 env.decodeError 0 1 AuditLedger.genesisHash
    (((db .auditEvents).map auditEventOf).insertionSort
      fun a b => a.sequenceNumber ≤ b.sequenceNumber)

structure IntegrityReport where
  allInvariantsPass                : Bool
  transactionsCount                : Nat
  auditChainValid                  : Bool
  pendingOutboxCount               : Nat
  executingTransactionsCount       : Nat
  unknownProviderTransactionsCount : Nat
deriving DecidableEq, Repr

def countWhere {t : TableName} (rows : List (Row t)) (column value : String) : Nat :=
  rows.countP fun r => cellTextOrNone (r.get column) == some value

def verifyRestoreIntegrity (env : RestoreEnv) (db : PersistentDb) (snapshot : BackupSnapshot) :
    Except RestoreError IntegrityReport :=
  let dbTxCount := (db .transactions).length
  let snapshotCount := (snapshot.rows .transactions).length
  if dbTxCount ≠ snapshotCount then
    .error (.valueError
      s!"Restored transaction count mismatch: {dbTxCount} vs {snapshotCount}")
  else
    match verifyChainOf env db with
    | .error err => .error (.appendError err)
    | .ok (false, auditErr) =>
        let reason := auditErr.getD "None"
        .error (.valueError s!"Restored audit ledger hash chain broken: {reason}")
    | .ok (true, _) =>
        .ok {
          allInvariantsPass := true
          transactionsCount := dbTxCount
          auditChainValid := true
          pendingOutboxCount := countWhere (db .outboxEvents) "status" "PENDING"
          executingTransactionsCount := countWhere (db .transactions) "state" "EXECUTING"
          unknownProviderTransactionsCount :=
            countWhere (db .transactions) "provider_status" "UNKNOWN" }

structure RestoreAnswer where
  status                : String
  restoredRecordsCount  : Nat
  snapshotChecksum      : String
  integrityVerification : IntegrityReport
deriving DecidableEq, Repr

def checksumFailed : RestoreError :=
  .valueError ("Backup snapshot checksum verification failed! Snapshot payload has been "
    ++ "tampered or corrupted.")

/-- `restore_database_snapshot`: the answer, and what the session holds
    afterwards.  A flush that fails rolls the session back. -/
def restoreDatabaseSnapshot (env : RestoreEnv) (snapshot : BackupSnapshot)
    (wipeExisting : Bool) (db : PersistentDb) : Except RestoreError RestoreAnswer × PersistentDb :=
  let computed := snapshot.computeChecksum env.sha256
  if snapshot.snapshotChecksum ≠ "" ∧ snapshot.snapshotChecksum ≠ computed then
    (.error checksumFailed, db)
  else
    let wiped := if wipeExisting then wipe wipeModels db else db
    match insertAll env snapshot insertSpecs wiped with
    | .error text => (.error (.databaseError text), db)
    | .ok restored =>
        match env.flush wiped restored with
        | some text => (.error (.databaseError text), db)
        | none =>
            match verifyRestoreIntegrity env restored snapshot with
            | .error err => (.error err, restored)
            | .ok integrityRes =>
                (.ok {
                  status := "RESTORED"
                  restoredRecordsCount :=
                    (insertSpecs.map fun spec => (snapshot.rows spec.2).length).sum
                  snapshotChecksum := snapshot.snapshotChecksum
                  integrityVerification := integrityRes }, restored)

end BackupRestoreManager

end MandateGateway
