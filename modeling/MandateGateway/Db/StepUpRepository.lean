import MandateGateway.Lib.RaisingLoop
import MandateGateway.Lib.Table
import MandateGateway.StepUp.Engine

/-! # The step-up repository

    Challenges as rows, and their resolution.  What an operation flushes before
    it raises stays in the session; whether it is kept is for the unit of work
    around it to decide. -/

namespace MandateGateway

open Clock

/-- A row of `step_up_challenges`; the status is the text that is stored. -/
structure StepUpChallengeRow where
  challengeId        : String
  transactionId      : String
  status             : String
  riskClassification : String
  createdAt          : Instant
  expiresAt          : Instant
  approvedAt         : Option Instant
  approverMetadata   : Option String
deriving DecidableEq, Repr

/-- The challenges, and the identifiers of the stored transactions, which a
    challenge refers to. -/
structure StepUpTables where
  transactions : List String
  challenges   : Table StepUpChallengeRow.challengeId

/-- What a call receives from the process and the driver: the engine's clock
    and identifiers, and the repository's own later reading of the clock. -/
structure StepUpDbEnv where
  ambient        : Ambient
  repositoryNow  : Instant
  constraintText : String
deriving DecidableEq, Repr

namespace StepUpRepository

/-- An operation of the repository. -/
abbrev Action (α : Type) : Type := Raising StepUpTables PyError α

/-- `get_challenge` and `lock_challenge_for_update`. -/
def getChallenge (challengeId : String) (db : StepUpTables) : Option StepUpChallengeRow :=
  db.challenges.get challengeId

def createChallenge (env : StepUpDbEnv) (challengeId transactionId riskClassification : String)
    (expiresAt : Instant) (status : StepUpChallengeStatus) (approverMetadata : Option String) :
    Action StepUpChallengeRow := fun db =>
  let row : StepUpChallengeRow := {
    challengeId := challengeId
    transactionId := transactionId
    status := status.value
    riskClassification := riskClassification
    createdAt := env.repositoryNow
    expiresAt := expiresAt
    approvedAt := none
    approverMetadata := approverMetadata }
  if transactionId ∉ db.transactions then (.error (.integrityError env.constraintText), db)
  else match db.challenges.insert row with
  | none => (.error (.integrityError env.constraintText), db)
  | some challenges => (.ok row, { db with challenges := challenges })

def expire (row : StepUpChallengeRow) : StepUpChallengeRow :=
  { row with status := StepUpChallengeStatus.expired.value }

def approve (checkTime : Instant) (metadata : String) (row : StepUpChallengeRow) :
    StepUpChallengeRow :=
  { row with
    status := StepUpChallengeStatus.approved.value
    approvedAt := some checkTime
    approverMetadata := some metadata }

def reject (metadata : String) (row : StepUpChallengeRow) : StepUpChallengeRow :=
  { row with
    status := StepUpChallengeStatus.rejected.value
    approverMetadata := some metadata }

theorem expire_id (row : StepUpChallengeRow) : (expire row).challengeId = row.challengeId := rfl

theorem approve_id (checkTime : Instant) (metadata : String) (row : StepUpChallengeRow) :
    (approve checkTime metadata row).challengeId = row.challengeId := rfl

theorem reject_id (metadata : String) (row : StepUpChallengeRow) :
    (reject metadata row).challengeId = row.challengeId := rfl

def updated (challengeId : String) (f : StepUpChallengeRow → StepUpChallengeRow)
    (hf : ∀ r, (f r).challengeId = r.challengeId) (db : StepUpTables) : StepUpTables :=
  { db with challenges := db.challenges.modify challengeId f hf }

def expired (challengeId : String) (db : StepUpTables) : StepUpTables :=
  updated challengeId expire expire_id db

def approved (challengeId : String) (checkTime : Instant) (metadata : String)
    (db : StepUpTables) : StepUpTables :=
  updated challengeId (approve checkTime metadata) (approve_id checkTime metadata) db

def rejected (challengeId metadata : String) (db : StepUpTables) : StepUpTables :=
  updated challengeId (reject metadata) (reject_id metadata) db

/-- `metadata or f"approved_by:{approver_id}"`. -/
def approvalMetadata (approverId : String) (metadata : Option String) : String :=
  orElseText metadata s!"approved_by:{approverId}"

/-- `reason or "rejected"`. -/
def rejectionMetadata (reason : Option String) : String := orElseText reason "rejected"

/-- `approve_challenge`: the expiry is looked at before the status. -/
def approveChallenge (env : StepUpDbEnv) (challengeId approverId : String)
    (metadata : Option String) (at? : Option Instant) : Action StepUpChallengeRow := fun db =>
  let checkTime := at?.getD env.repositoryNow
  match getChallenge challengeId db with
  | none => (.error (.valueError s!"Step-up challenge '{challengeId}' not found."), db)
  | some challenge =>
      if challenge.expiresAt ≤ checkTime then
        let expiry := isoText " " challenge.expiresAt
        (.error (.valueError
          (s!"Cannot approve step-up challenge '{challengeId}': "
            ++ s!"challenge expired at {expiry}.")), expired challengeId db)
      else if challenge.status ≠ StepUpChallengeStatus.pending.value then
        (.error (.valueError
          (s!"Cannot approve step-up challenge '{challengeId}': "
            ++ s!"challenge is in state '{challenge.status}', expected 'PENDING'.")), db)
      else
        let text := approvalMetadata approverId metadata
        (.ok (approve checkTime text challenge), approved challengeId checkTime text db)

def rejectChallenge (challengeId : String) (reason : Option String) :
    Action StepUpChallengeRow := fun db =>
  match getChallenge challengeId db with
  | none => (.error (.valueError s!"Step-up challenge '{challengeId}' not found."), db)
  | some challenge =>
      if challenge.status ≠ StepUpChallengeStatus.pending.value then
        (.error (.valueError
          (s!"Cannot reject step-up challenge '{challengeId}': "
            ++ s!"challenge is in state '{challenge.status}', expected 'PENDING'.")), db)
      else
        let text := rejectionMetadata reason
        (.ok (reject text challenge), rejected challengeId text db)

/-! ## Rows after an operation -/

theorem createChallenge_ok {env : StepUpDbEnv} {cid tx risk : String} {expiresAt : Instant}
    {status : StepUpChallengeStatus} {metadata : Option String} {db db' : StepUpTables}
    {row : StepUpChallengeRow}
    (h : createChallenge env cid tx risk expiresAt status metadata db = (.ok row, db')) :
    row = ⟨cid, tx, status.value, risk, env.repositoryNow, expiresAt, none, metadata⟩
      ∧ getChallenge cid db' = some row := by
  rw [createChallenge] at h
  by_cases htx : tx ∉ db.transactions
  · rw [if_pos htx] at h
    cases (Prod.mk.inj h).1
  · rw [if_neg htx] at h
    cases hinsert : db.challenges.insert
        ⟨cid, tx, status.value, risk, env.repositoryNow, expiresAt, none, metadata⟩ with
    | none =>
        simp only [hinsert] at h
        cases (Prod.mk.inj h).1
    | some challenges =>
        simp only [hinsert] at h
        obtain ⟨hrow, rfl⟩ := Prod.mk.inj h
        obtain rfl := Except.ok.inj hrow
        refine ⟨rfl, ?_⟩
        rw [getChallenge, Table.get_insert hinsert, if_pos rfl]

section
variable (env : StepUpDbEnv) {cid : String} (approverId : String) (metadata : Option String)
  (at? : Option Instant) (reason : Option String) {row : StepUpChallengeRow} {db : StepUpTables}

theorem approveChallenge_late (hrow : getChallenge cid db = some row)
    (h : row.expiresAt ≤ at?.getD env.repositoryNow) :
    ∃ err, approveChallenge env cid approverId metadata at? db
      = (.error err, expired cid db) := by
  rw [approveChallenge]
  simp only [hrow, if_pos h]
  exact ⟨_, rfl⟩

theorem approveChallenge_resolved (hrow : getChallenge cid db = some row)
    (htime : at?.getD env.repositoryNow < row.expiresAt)
    (h : row.status ≠ StepUpChallengeStatus.pending.value) :
    ∃ err, approveChallenge env cid approverId metadata at? db = (.error err, db) := by
  rw [approveChallenge]
  simp only [hrow, if_neg (Int.not_le.mpr htime), if_pos h]
  exact ⟨_, rfl⟩

theorem approveChallenge_pending (hrow : getChallenge cid db = some row)
    (htime : at?.getD env.repositoryNow < row.expiresAt)
    (h : row.status = StepUpChallengeStatus.pending.value) :
    approveChallenge env cid approverId metadata at? db
      = (.ok (approve (at?.getD env.repositoryNow) (approvalMetadata approverId metadata) row),
        approved cid (at?.getD env.repositoryNow) (approvalMetadata approverId metadata) db) := by
  rw [approveChallenge]
  simp only [hrow, if_neg (Int.not_le.mpr htime), if_neg (not_not.mpr h)]

theorem rejectChallenge_resolved (hrow : getChallenge cid db = some row)
    (h : row.status ≠ StepUpChallengeStatus.pending.value) :
    ∃ err, rejectChallenge cid reason db = (.error err, db) := by
  rw [rejectChallenge]
  simp only [hrow, if_pos h]
  exact ⟨_, rfl⟩

theorem rejectChallenge_pending (hrow : getChallenge cid db = some row)
    (h : row.status = StepUpChallengeStatus.pending.value) :
    rejectChallenge cid reason db
      = (.ok (reject (rejectionMetadata reason) row),
        rejected cid (rejectionMetadata reason) db) := by
  rw [rejectChallenge]
  simp only [hrow, if_neg (not_not.mpr h)]

end

theorem get_updated_self {challengeId : String} {f : StepUpChallengeRow → StepUpChallengeRow}
    (hf : ∀ r, (f r).challengeId = r.challengeId) {db : StepUpTables} {row : StepUpChallengeRow}
    (h : getChallenge challengeId db = some row) :
    getChallenge challengeId (updated challengeId f hf db) = some (f row) :=
  Table.get_modify_self hf h

theorem get_updated_of_ne {challengeId id : String}
    {f : StepUpChallengeRow → StepUpChallengeRow} (hf : ∀ r, (f r).challengeId = r.challengeId)
    {db : StepUpTables} (hne : id ≠ challengeId) :
    getChallenge id (updated challengeId f hf db) = getChallenge id db :=
  Table.get_modify_of_ne hf hne

theorem get_approveChallenge_of_ne (env : StepUpDbEnv) {challengeId id : String}
    (approverId : String) (metadata : Option String) (at? : Option Instant) {db : StepUpTables}
    (hne : id ≠ challengeId) :
    getChallenge id (approveChallenge env challengeId approverId metadata at? db).2
      = getChallenge id db := by
  cases hrow : getChallenge challengeId db with
  | none =>
      rw [approveChallenge]
      simp only [hrow]
  | some row =>
      by_cases htime : at?.getD env.repositoryNow < row.expiresAt
      · by_cases hpending : row.status = StepUpChallengeStatus.pending.value
        · rw [approveChallenge_pending env approverId metadata at? hrow htime hpending]
          exact get_updated_of_ne _ hne
        · obtain ⟨err, h⟩ := approveChallenge_resolved env approverId metadata at? hrow htime
            hpending
          rw [h]
      · obtain ⟨err, h⟩ := approveChallenge_late env approverId metadata at? hrow
            (Int.not_lt.mp htime)
        rw [h]
        exact get_updated_of_ne _ hne

theorem get_rejectChallenge_of_ne {challengeId id : String} (reason : Option String)
    {db : StepUpTables} (hne : id ≠ challengeId) :
    getChallenge id (rejectChallenge challengeId reason db).2 = getChallenge id db := by
  cases hrow : getChallenge challengeId db with
  | none =>
      rw [rejectChallenge]
      simp only [hrow]
  | some row =>
      by_cases hpending : row.status = StepUpChallengeStatus.pending.value
      · rw [rejectChallenge_pending reason hrow hpending]
        exact get_updated_of_ne _ hne
      · obtain ⟨err, h⟩ := rejectChallenge_resolved reason hrow hpending
        rw [h]

end StepUpRepository

end MandateGateway
