import MandateGateway.Lib.RaisingLoop
import MandateGateway.Lib.Table
import MandateGateway.Values

/-! # The replay repository

    Fingerprints as rows.  A row has no expiry and is never replaced: its age is
    measured against a lifetime that the caller gives, and a second row with its
    fingerprint breaks the primary key. -/

namespace MandateGateway

open Clock

/-- A row of `replay_records`. -/
structure ReplayRow where
  fingerprint   : String
  transactionId : String
  createdAt     : Instant
deriving DecidableEq, Repr

/-- The table `replay_records`. -/
abbrev ReplayTable : Type := Table ReplayRow.fingerprint

namespace ReplayRepository

/-- An operation of the repository. -/
abbrev Action (α : Type) : Type := Raising ReplayTable PyError α

/-- The refusal of a fingerprint that is in use. -/
def takenMessage (fingerprint : String) : String :=
  s!"Replay fingerprint '{fingerprint}' already exists in persistence store."

def recordReplayFingerprint (now : Instant) (fingerprint transactionId : String)
    (createdAt : Option Instant) : Action ReplayRow := fun db =>
  if Text.strip fingerprint = "" then
    (.error (.valueError "Replay fingerprint cannot be empty."), db)
  else if Text.strip transactionId = "" then
    (.error (.valueError "Transaction ID cannot be empty."), db)
  else
    let record : ReplayRow :=
      ⟨Text.strip fingerprint, Text.strip transactionId, createdAt.getD now⟩
    match db.insert record with
    | none => (.error (.valueError (takenMessage fingerprint)), db)
    | some db' => (.ok record, db')

def getReplayRecord (fingerprint : String) (db : ReplayTable) : Option ReplayRow :=
  if fingerprint = "" then none else db.get (Text.strip fingerprint)

def lockReplayForUpdate (fingerprint : String) (db : ReplayTable) : Option ReplayRow :=
  db.get fingerprint

/-- `age_seconds >= ttl_seconds`, where there is a lifetime. -/
def Expired (record : ReplayRow) (ttlSeconds : Int) (checkTime : Instant) : Prop :=
  0 < ttlSeconds ∧ ttlSeconds * 1000000 ≤ checkTime - record.createdAt

instance (record : ReplayRow) (ttlSeconds : Int) (checkTime : Instant) :
    Decidable (Expired record ttlSeconds checkTime) :=
  inferInstanceAs (Decidable (_ ∧ _))

def isFingerprintReplayed (now : Instant) (fingerprint : String) (ttlSeconds : Int)
    (at? : Option Instant) (db : ReplayTable) : Bool :=
  match getReplayRecord fingerprint db with
  | none => false
  | some record => !decide (Expired record ttlSeconds (at?.getD now))

/-- The refusal of a fingerprint that is bound to another transaction. -/
def conflictMessage (cleanFp : String) (existing : ReplayRow) (cleanTx : String) : String :=
  s!"Conflicting context reuse detected for fingerprint "
    ++ s!"'{String.ofList (cleanFp.toList.take 12)}...': "
    ++ s!"original transaction '{existing.transactionId}', attempted transaction '{cleanTx}'."

def checkAndRecordReplay (now : Instant) (fingerprint transactionId : String) (ttlSeconds : Int)
    (at? : Option Instant) : Action (Bool × ReplayRow) := fun db =>
  let cleanFp := Text.strip fingerprint
  let cleanTx := Text.strip transactionId
  let checkTime := at?.getD now
  let record : Action (Bool × ReplayRow) := do
    let row ← recordReplayFingerprint now cleanFp cleanTx (some checkTime)
    pure (false, row)
  if cleanFp = "" then (.error (.valueError "Replay fingerprint cannot be empty."), db)
  else if cleanTx = "" then (.error (.valueError "Transaction ID cannot be empty."), db)
  else match lockReplayForUpdate cleanFp db with
  | none => record db
  | some existing =>
      if existing.transactionId ≠ cleanTx then
        (.error (.valueError (conflictMessage cleanFp existing cleanTx)), db)
      else if Expired existing ttlSeconds checkTime then record db
      else (.ok (true, existing), db)

/-! ## Recording a fingerprint -/

section
variable (now : Instant) {fingerprint transactionId : String} (createdAt : Option Instant)
  {db : ReplayTable}

def newRow (fingerprint transactionId : String) (createdAt : Instant) : ReplayRow :=
  ⟨fingerprint, Text.strip transactionId, createdAt⟩

theorem recordReplayFingerprint_of_fresh (hclean : Text.strip fingerprint = fingerprint)
    (hne : fingerprint ≠ "") (htx : Text.strip transactionId ≠ "")
    (hfresh : db.get fingerprint = none) :
    ∃ db', recordReplayFingerprint now fingerprint transactionId createdAt db
        = (.ok (newRow fingerprint transactionId (createdAt.getD now)), db')
      ∧ ∀ k, db'.get k = if k = fingerprint then
          some (newRow fingerprint transactionId (createdAt.getD now)) else db.get k := by
  have hfree : (newRow fingerprint transactionId (createdAt.getD now)).fingerprint
      ∉ db.rows.map ReplayRow.fingerprint := Table.get_eq_none_iff.mp hfresh
  obtain ⟨db', hinsert⟩ := Table.exists_insert hfree
  refine ⟨db', ?_, Table.get_insert hinsert⟩
  rw [newRow] at hinsert
  rw [recordReplayFingerprint, hclean, if_neg hne, if_neg htx]
  simp only [hinsert]
  rfl

theorem recordReplayFingerprint_of_taken (hclean : Text.strip fingerprint = fingerprint)
    (hne : fingerprint ≠ "") (htx : Text.strip transactionId ≠ "") {row : ReplayRow}
    (htaken : db.get fingerprint = some row) :
    recordReplayFingerprint now fingerprint transactionId createdAt db
      = (.error (.valueError (takenMessage fingerprint)), db) := by
  have hused : db.insert ⟨fingerprint, Text.strip transactionId, createdAt.getD now⟩ = none := by
    rw [Table.insert_eq_none_iff]
    by_contra hfree
    rw [Table.get_eq_none_iff.mpr hfree] at htaken
    cases htaken
  rw [recordReplayFingerprint, hclean, if_neg hne, if_neg htx]
  simp only [hused]

variable (ttlSeconds : Int) (at? : Option Instant)

theorem checkAndRecordReplay_of_fresh (hclean : Text.strip fingerprint = fingerprint)
    (hne : fingerprint ≠ "") (htx : Text.strip transactionId ≠ "")
    (hfresh : db.get fingerprint = none) :
    ∃ db', checkAndRecordReplay now fingerprint transactionId ttlSeconds at? db
        = (.ok (false, newRow fingerprint transactionId (at?.getD now)), db')
      ∧ ∀ k, db'.get k = if k = fingerprint then
          some (newRow fingerprint transactionId (at?.getD now)) else db.get k := by
  have hstripped : Text.strip (Text.strip transactionId) ≠ "" := by
    rw [Text.strip_strip]
    exact htx
  have hrow : newRow fingerprint (Text.strip transactionId) (at?.getD now)
      = newRow fingerprint transactionId (at?.getD now) := by
    rw [newRow, newRow, Text.strip_strip]
  obtain ⟨db', hrecord, hget⟩ :=
    recordReplayFingerprint_of_fresh now (some (at?.getD now)) hclean hne hstripped hfresh
  rw [Option.getD_some, hrow] at hrecord hget
  refine ⟨db', ?_, hget⟩
  rw [← lockReplayForUpdate] at hfresh
  rw [checkAndRecordReplay, hclean, if_neg hne, if_neg htx]
  simp only [hfresh]
  exact Raising.bind_of_ok hrecord

theorem checkAndRecordReplay_of_row (hclean : Text.strip fingerprint = fingerprint)
    (hne : fingerprint ≠ "") (htx : Text.strip transactionId ≠ "") {row : ReplayRow}
    (hrow : db.get fingerprint = some row) :
    checkAndRecordReplay now fingerprint transactionId ttlSeconds at? db
      = if row.transactionId ≠ Text.strip transactionId then
          (.error (.valueError (conflictMessage fingerprint row (Text.strip transactionId))), db)
        else if Expired row ttlSeconds (at?.getD now) then
          (.error (.valueError (takenMessage fingerprint)), db)
        else (.ok (true, row), db) := by
  have hstripped : Text.strip (Text.strip transactionId) ≠ "" := by
    rw [Text.strip_strip]
    exact htx
  have hconflict := recordReplayFingerprint_of_taken now (some (at?.getD now)) hclean hne hstripped
    hrow
  rw [← lockReplayForUpdate] at hrow
  rw [checkAndRecordReplay, hclean, if_neg hne, if_neg htx]
  simp only [hrow, Raising.bind_of_error hconflict]

end

end ReplayRepository

end MandateGateway
