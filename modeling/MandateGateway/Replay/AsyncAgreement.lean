import MandateGateway.Db.ReplayRepository
import MandateGateway.Replay.Effects
import MandateGateway.Replay.Engine

/-! # Replay checks in memory and over the database

    The same checks on the engine in memory, which keeps the expiry of a record
    and replaces the record when it is over, and on the database, which measures
    the age of a row against the lifetime of the caller and has no second row
    for a fingerprint.  `Simulates` is kept by every check on which the two
    agree, and the last theorem says on which runs they do. -/

/-! ## The replay protection engine over the database

    The asynchronous check reads the row of a fingerprint against the lifetime
    that it is given itself, and stores a row for a use that it lets through. -/

namespace MandateGateway

open Clock Raising

/-- The rows, and the records that the engine keeps in memory. -/
structure AsyncReplays where
  db    : ReplayTable
  cache : OrderedMap String ReplayRecord

namespace AsyncReplays

/-- An asynchronous operation of the engine. -/
abbrev Action (α : Type) : Type := Raising AsyncReplays PyError α

/-- An operation of the repository. -/
def onRepository {α : Type} (x : ReplayRepository.Action α) : Action α :=
  zoom AsyncReplays.db (fun db s => { s with db := db }) x

/-- `self._records[fingerprint] = record`. -/
def remember (fingerprint : String) (record : ReplayRecord) : Action Unit :=
  modify fun s => { s with cache := s.cache.set fingerprint record }

/-- A unit of work of its own: the rows are what they were where it raises. -/
def inUnitOfWork {α : Type} (x : Action α) : Action α := fun s =>
  match x s with
  | (.ok a, s') => (.ok a, s')
  | (.error err, s') => (.error err, { s' with db := s.db })

/-- `async_check_and_record`: the use of a fingerprint that is not replayed. -/
def recordUse (now : Instant) (fingerprint mandateId transactionId : String) (ttlSeconds : Int)
    (evalTime : Instant) : Action ReplayEvaluationResult := do
  let model ← onRepository (ReplayRepository.recordReplayFingerprint now fingerprint
    transactionId (some evalTime))
  match addSeconds evalTime ttlSeconds with
  | none => raise .timestampOutOfRange
  | some expiresAt => do
      let _ ← remember fingerprint
        ⟨model.fingerprint, mandateId, model.transactionId, model.createdAt, some expiresAt⟩
      pure (firstUse fingerprint mandateId transactionId evalTime)

/-- `async_check_and_record`. -/
def checkAndRecord (sha256 : String → String) (env : Ambient) (mandateId transactionId : String)
    (cartHash merchantId : Option String) (ttlSeconds : Int) (at? : Option Instant) :
    Action ReplayEvaluationResult := fun s =>
  let evalTime := env.time at?
  if Text.strip mandateId = "" then
    (.ok (emptyReplayIdentifier "mandate_id" mandateId transactionId evalTime), s)
  else if Text.strip transactionId = "" then
    (.ok (emptyReplayIdentifier "transaction_id" mandateId transactionId evalTime), s)
  else
    let fingerprint := computeReplayFingerprint sha256 mandateId transactionId cartHash merchantId
    if ReplayRepository.isFingerprintReplayed env.now fingerprint ttlSeconds (some evalTime) s.db
    then (.ok (replayDetected fingerprint mandateId transactionId evalTime), s)
    else recordUse env.now fingerprint mandateId transactionId ttlSeconds evalTime s

end AsyncReplays

end MandateGateway

namespace MandateGateway

open Clock OrderedMap Raising Runs
open ReplayProtectionEngine (ReplayCall)

/-- The two paths side by side. -/
structure TwoReplays where
  memory : ReplayProtectionEngine
  async  : AsyncReplays

/-- The way a check goes over the database: `async_check_and_record` of the
    engine, or `check_and_record_replay` of the repository. -/
inductive ReplayPath where
  | engine
  | repository
deriving DecidableEq

/-- A check in memory, and the way it goes over the database. -/
structure ReplayRequest where
  call : ReplayCall
  path : ReplayPath

/-- What the database path answers. -/
inductive DatabaseReply where
  | engine (r : Except PyError ReplayEvaluationResult)
  | repository (r : Except PyError (Bool × ReplayRow))

/-- What the two paths answer. -/
structure ReplayReplies where
  memory   : Except PyError ReplayEvaluationResult
  database : DatabaseReply

/-- ALLOW or REJECT, or neither where the check raises. -/
def replayVerdict (r : Except PyError ReplayEvaluationResult) : Option Bool :=
  r.toOption.map ReplayEvaluationResult.isAllowed

/-- The repository reports whether the fingerprint is replayed. -/
def DatabaseReply.verdict : DatabaseReply → Option Bool
  | .engine r => replayVerdict r
  | .repository r => r.toOption.map fun reported => !reported.1

namespace TwoReplays

variable (sha256 : String → String)

/-- A check over the database, in a unit of work of its own. -/
def onDatabase (path : ReplayPath) (call : ReplayCall) (s : AsyncReplays) :
    DatabaseReply × AsyncReplays :=
  match path with
  | .engine =>
      let done := AsyncReplays.inUnitOfWork (AsyncReplays.checkAndRecord sha256 call.env
        call.mandateId call.transactionId call.cartHash call.merchantId call.ttlSeconds
        call.at?) s
      (.engine done.1, done.2)
  | .repository =>
      let fingerprint := computeReplayFingerprint sha256 call.mandateId call.transactionId
        call.cartHash call.merchantId
      let done := AsyncReplays.inUnitOfWork (AsyncReplays.onRepository
        (ReplayRepository.checkAndRecordReplay call.env.now fingerprint call.transactionId
          call.ttlSeconds call.at?)) s
      (.repository done.1, done.2)

/-- The same check on both paths. -/
def step (s : TwoReplays) (request : ReplayRequest) : ReplayReplies × TwoReplays :=
  let memory := ReplayProtectionEngine.step sha256 s.memory request.call
  let database := onDatabase sha256 request.path request.call s.async
  (⟨memory.1, database.1⟩, ⟨memory.2, database.2⟩)

/-- A step of a run of both paths. -/
abbrev RequestStep := Step TwoReplays ReplayRequest ReplayReplies

/-- The check has the same outcome on both paths. -/
def Agrees (c : RequestStep) : Prop := c.out.database.verdict = replayVerdict c.out.memory

/-! ## The simulation relation -/

structure Mirrors (r : ReplayRecord) (row : ReplayRow) : Prop where
  transaction : row.transactionId = Text.strip r.transactionId
  created     : row.createdAt = r.createdAt

/-- **The table has a row for each record of the engine.** -/
def Simulates (s : TwoReplays) : Prop :=
  ∀ k, Option.Rel Mirrors (s.memory.records.get k) (s.async.db.get k)

/-- The digests are texts without whitespace around them. -/
structure CleanDigests : Prop where
  stripped : ∀ text, Text.strip (sha256 text) = sha256 text
  nonempty : ∀ text, sha256 text ≠ ""

/-! ## When the paths go on together -/

/-- The lifetime that the caller gives is over, counted from the record. -/
def Lapsed (r : ReplayRecord) (call : ReplayCall) : Prop :=
  0 < call.ttlSeconds ∧ r.createdAt + call.ttlSeconds * 1000000 ≤ call.time

def RefusedInMemory (r : ReplayRecord) (call : ReplayCall) : Prop :=
  call.WellFormed → r.isExpired call.time = false

/-- The database refuses a call for which it has the row of this record;
    otherwise it raises. -/
def RefusedByRow : ReplayPath → ReplayRecord → ReplayCall → Prop
  | .engine, r, call => call.WellFormed → ¬ Lapsed r call
  | .repository, r, call =>
      Text.strip call.transactionId ≠ ""
        ∧ Text.strip r.transactionId = Text.strip call.transactionId ∧ ¬ Lapsed r call

/-- The database follows the engine on a use of a new fingerprint. -/
def FollowsFirst : ReplayPath → ReplayCall → Prop
  | .engine, call => call.WellFormed →
      (addSeconds call.time call.ttlSeconds = none
        ↔ replayExpiry call.time call.ttlSeconds = none)
  | .repository, call => call.WellFormed ∧ replayExpiry call.time call.ttlSeconds ≠ none

/-- The database follows the engine on a use of a recorded fingerprint: the
    caller's lifetime runs as long as the recorded one, and where both are over
    the engine cannot record the use either. -/
def FollowsAgain (path : ReplayPath) (r : ReplayRecord) (call : ReplayCall) : Prop :=
  (RefusedByRow path r call ↔ RefusedInMemory r call)
    ∧ (RefusedInMemory r call ∨ replayExpiry call.time call.ttlSeconds = none)

/-- The database can follow. -/
def Served (s : TwoReplays) (request : ReplayRequest) : Prop :=
  match ReplayProtectionEngine.recordOf sha256 s.memory request.call.identity with
  | none => FollowsFirst request.path request.call
  | some r => FollowsAgain request.path r request.call

/-! ## What the engine in memory answers -/

section
variable {sha256} {e : ReplayProtectionEngine} {call : ReplayCall}

theorem verdict_of_malformed (h : ¬ call.WellFormed) :
    replayVerdict (ReplayProtectionEngine.step sha256 e call).1 = some false := by
  obtain ⟨r, hrefused, hstep⟩ := ReplayProtectionEngine.step_malformed sha256 h
  rw [hstep, ← hrefused]
  rfl

theorem verdict_of_open (h : call.WellFormed)
    (hopen : ReplayProtectionEngine.OpenAt sha256 e call.identity call.time) :
    replayVerdict (ReplayProtectionEngine.step sha256 e call).1
      = (replayExpiry call.time call.ttlSeconds).map fun _ => true := by
  rw [ReplayProtectionEngine.step_open h hopen]
  cases replayExpiry call.time call.ttlSeconds with
  | none => rfl
  | some x => rfl

theorem memory_first (h : call.WellFormed)
    (hget : ReplayProtectionEngine.recordOf sha256 e call.identity = none) :
    replayVerdict (ReplayProtectionEngine.step sha256 e call).1
      = (replayExpiry call.time call.ttlSeconds).map fun _ => true := by
  refine verdict_of_open h ?_
  rw [ReplayProtectionEngine.OpenAt, ReplayProtectionEngine.closedUntil, hget]
  exact bot_le

theorem openAt_iff_isExpired {r : ReplayRecord}
    (hget : ReplayProtectionEngine.recordOf sha256 e call.identity = some r) :
    ReplayProtectionEngine.OpenAt sha256 e call.identity call.time
      ↔ r.isExpired call.time = true := by
  rw [ReplayProtectionEngine.OpenAt, ReplayProtectionEngine.closedUntil, hget,
    r.isExpired_iff]
  exact WithBot.coe_le_coe

theorem memory_again_refused {r : ReplayRecord}
    (hget : ReplayProtectionEngine.recordOf sha256 e call.identity = some r)
    (h : RefusedInMemory r call) :
    replayVerdict (ReplayProtectionEngine.step sha256 e call).1 = some false := by
  by_cases hwell : call.WellFormed
  · have hclosed : ¬ ReplayProtectionEngine.OpenAt sha256 e call.identity call.time := by
      rw [openAt_iff_isExpired hget, h hwell]
      decide
    rw [ReplayProtectionEngine.step_closed hwell hclosed]
    rfl
  · exact verdict_of_malformed hwell

theorem memory_again_open {r : ReplayRecord}
    (hget : ReplayProtectionEngine.recordOf sha256 e call.identity = some r)
    (h : ¬ RefusedInMemory r call) :
    replayVerdict (ReplayProtectionEngine.step sha256 e call).1
      = (replayExpiry call.time call.ttlSeconds).map fun _ => true := by
  rw [RefusedInMemory, Classical.not_imp, Bool.not_eq_false] at h
  exact verdict_of_open h.1 ((openAt_iff_isExpired hget).mpr h.2)

end

/-! ## What the database answers -/

/-- The table after a new fingerprint is stored. -/
def StoredFor (sha256 : String → String) (call : ReplayCall) (db db' : ReplayTable) : Prop :=
  ∀ k, db'.get k = if k = call.identity.fingerprint sha256 then
      some (ReplayRepository.newRow (call.identity.fingerprint sha256) call.transactionId
        call.time)
    else db.get k

section
variable {sha256} {call : ReplayCall} {s : AsyncReplays}

variable (sha256 s) in
theorem engine_malformed (h : ¬ call.WellFormed) :
    (onDatabase sha256 .engine call s).1.verdict = some false
      ∧ (onDatabase sha256 .engine call s).2 = s := by
  rw [onDatabase, AsyncReplays.inUnitOfWork, AsyncReplays.checkAndRecord]
  by_cases hm : Text.strip call.mandateId = ""
  · simp only [if_pos hm]
    exact ⟨rfl, trivial⟩
  · have htx : Text.strip call.transactionId = "" := by
      by_contra htx
      exact h ⟨hm, htx⟩
    simp only [if_neg hm, if_pos htx]
    exact ⟨rfl, trivial⟩

theorem CleanDigests.strip_fingerprint (hd : CleanDigests sha256) (i : ReplayIdentity) :
    Text.strip (i.fingerprint sha256) = i.fingerprint sha256 := hd.stripped _

theorem CleanDigests.fingerprint_ne (hd : CleanDigests sha256) (i : ReplayIdentity) :
    i.fingerprint sha256 ≠ "" := hd.nonempty _

/-- A digest is looked up as it is. -/
theorem CleanDigests.getReplayRecord (hd : CleanDigests sha256) (i : ReplayIdentity)
    (db : ReplayTable) :
    ReplayRepository.getReplayRecord (i.fingerprint sha256) db
      = db.get (i.fingerprint sha256) := by
  rw [ReplayRepository.getReplayRecord, if_neg (hd.fingerprint_ne i), hd.strip_fingerprint i]

theorem CleanDigests.replayed_of_row (hd : CleanDigests sha256) {row : ReplayRow}
    (hrow : s.db.get (call.identity.fingerprint sha256) = some row) (now : Instant) :
    ReplayRepository.isFingerprintReplayed now (call.identity.fingerprint sha256)
        call.ttlSeconds (some call.time) s.db
      = !decide (ReplayRepository.Expired row call.ttlSeconds call.time) := by
  rw [ReplayRepository.isFingerprintReplayed, hd.getReplayRecord, hrow]
  rfl

theorem CleanDigests.not_replayed (hd : CleanDigests sha256)
    (hrow : s.db.get (call.identity.fingerprint sha256) = none) (now : Instant) :
    ReplayRepository.isFingerprintReplayed now (call.identity.fingerprint sha256)
        call.ttlSeconds (some call.time) s.db = false := by
  rw [ReplayRepository.isFingerprintReplayed, hd.getReplayRecord, hrow]

theorem engine_wellFormed (h : call.WellFormed) :
    AsyncReplays.checkAndRecord sha256 call.env call.mandateId call.transactionId call.cartHash
        call.merchantId call.ttlSeconds call.at? s
      = if ReplayRepository.isFingerprintReplayed call.env.now (call.identity.fingerprint sha256)
            call.ttlSeconds (some call.time) s.db then
          (.ok (replayDetected (call.identity.fingerprint sha256) call.mandateId
            call.transactionId call.time), s)
        else AsyncReplays.recordUse call.env.now (call.identity.fingerprint sha256)
          call.mandateId call.transactionId call.ttlSeconds call.time s := by
  rw [AsyncReplays.checkAndRecord, if_neg h.1, if_neg h.2]
  rfl

theorem engine_again (hd : CleanDigests sha256) (h : call.WellFormed) {row : ReplayRow}
    (hrow : s.db.get (call.identity.fingerprint sha256) = some row) :
    (onDatabase sha256 .engine call s).1.verdict
        = (if ReplayRepository.Expired row call.ttlSeconds call.time then none else some false)
      ∧ (onDatabase sha256 .engine call s).2 = s := by
  rw [onDatabase, AsyncReplays.inUnitOfWork, engine_wellFormed h, hd.replayed_of_row hrow]
  by_cases hexpired : ReplayRepository.Expired row call.ttlSeconds call.time
  · have hrepo : AsyncReplays.onRepository (ReplayRepository.recordReplayFingerprint call.env.now
        (call.identity.fingerprint sha256) call.transactionId (some call.time)) s
        = (.error (.valueError
            (ReplayRepository.takenMessage (call.identity.fingerprint sha256))), s) := by
      rw [AsyncReplays.onRepository, zoom,
        ReplayRepository.recordReplayFingerprint_of_taken call.env.now (some call.time)
          (hd.strip_fingerprint call.identity) (hd.fingerprint_ne call.identity) h.2 hrow]
    simp only [hexpired, decide_true, Bool.not_true, Bool.false_eq_true, if_false, if_true]
    rw [AsyncReplays.recordUse, bind_of_error hrepo]
    exact ⟨rfl, rfl⟩
  · simp only [hexpired, decide_false, Bool.not_false, if_true, if_false]
    exact ⟨rfl, trivial⟩

theorem engine_first (hd : CleanDigests sha256) (h : call.WellFormed)
    (hfresh : s.db.get (call.identity.fingerprint sha256) = none) :
    (onDatabase sha256 .engine call s).1.verdict
        = (addSeconds call.time call.ttlSeconds).map (fun _ => true)
      ∧ if addSeconds call.time call.ttlSeconds = none then
          (onDatabase sha256 .engine call s).2.db = s.db
        else StoredFor sha256 call s.db (onDatabase sha256 .engine call s).2.db := by
  obtain ⟨db', hrecord, hget⟩ := ReplayRepository.recordReplayFingerprint_of_fresh call.env.now
    (some call.time) (hd.strip_fingerprint call.identity) (hd.fingerprint_ne call.identity) h.2
    hfresh
  have hrepo : AsyncReplays.onRepository (ReplayRepository.recordReplayFingerprint call.env.now
      (call.identity.fingerprint sha256) call.transactionId (some call.time)) s
      = (.ok (ReplayRepository.newRow (call.identity.fingerprint sha256) call.transactionId
          call.time), ⟨db', s.cache⟩) := by
    rw [AsyncReplays.onRepository, zoom, hrecord]
    rfl
  rw [onDatabase, AsyncReplays.inUnitOfWork, engine_wellFormed h, hd.not_replayed hfresh,
    if_neg Bool.false_ne_true, AsyncReplays.recordUse, bind_of_ok hrepo]
  cases addSeconds call.time call.ttlSeconds with
  | none => exact ⟨rfl, rfl⟩
  | some expiresAt => exact ⟨rfl, hget⟩

theorem computeReplayFingerprint_of_call (call : ReplayCall) :
    computeReplayFingerprint sha256 call.mandateId call.transactionId call.cartHash
      call.merchantId = call.identity.fingerprint sha256 := rfl

theorem repository_of_error {err : PyError} {db' : ReplayTable}
    (h : ReplayRepository.checkAndRecordReplay call.env.now (call.identity.fingerprint sha256)
      call.transactionId call.ttlSeconds call.at? s.db = (.error err, db')) :
    onDatabase sha256 .repository call s = (.repository (.error err), s) := by
  have hraises : AsyncReplays.onRepository (ReplayRepository.checkAndRecordReplay call.env.now
      (call.identity.fingerprint sha256) call.transactionId call.ttlSeconds call.at?) s
      = (.error err, ⟨db', s.cache⟩) := by
    rw [AsyncReplays.onRepository, zoom, h]
  simp only [onDatabase, computeReplayFingerprint_of_call, AsyncReplays.inUnitOfWork, hraises]

theorem repository_of_ok {reported : Bool × ReplayRow} {db' : ReplayTable}
    (h : ReplayRepository.checkAndRecordReplay call.env.now (call.identity.fingerprint sha256)
      call.transactionId call.ttlSeconds call.at? s.db = (.ok reported, db')) :
    onDatabase sha256 .repository call s = (.repository (.ok reported), ⟨db', s.cache⟩) := by
  have hreturns : AsyncReplays.onRepository (ReplayRepository.checkAndRecordReplay call.env.now
      (call.identity.fingerprint sha256) call.transactionId call.ttlSeconds call.at?) s
      = (.ok reported, ⟨db', s.cache⟩) := by
    rw [AsyncReplays.onRepository, zoom, h]
  simp only [onDatabase, computeReplayFingerprint_of_call, AsyncReplays.inUnitOfWork, hreturns]

variable (s) in
theorem repository_empty (hd : CleanDigests sha256) (h : Text.strip call.transactionId = "") :
    (onDatabase sha256 .repository call s).1.verdict = none
      ∧ (onDatabase sha256 .repository call s).2 = s := by
  have hrepo : ReplayRepository.checkAndRecordReplay call.env.now
      (call.identity.fingerprint sha256) call.transactionId call.ttlSeconds call.at? s.db
      = (.error (.valueError "Transaction ID cannot be empty."), s.db) := by
    rw [ReplayRepository.checkAndRecordReplay, hd.strip_fingerprint,
      if_neg (hd.fingerprint_ne call.identity), if_pos h]
  rw [repository_of_error hrepo]
  exact ⟨rfl, rfl⟩

theorem repository_first (hd : CleanDigests sha256) (h : Text.strip call.transactionId ≠ "")
    (hfresh : s.db.get (call.identity.fingerprint sha256) = none) :
    (onDatabase sha256 .repository call s).1.verdict = some true
      ∧ StoredFor sha256 call s.db (onDatabase sha256 .repository call s).2.db := by
  obtain ⟨db', hrepo, hget⟩ := ReplayRepository.checkAndRecordReplay_of_fresh call.env.now
    call.ttlSeconds call.at? (hd.strip_fingerprint call.identity)
    (hd.fingerprint_ne call.identity) h hfresh
  rw [repository_of_ok hrepo]
  exact ⟨rfl, hget⟩

theorem repository_again (hd : CleanDigests sha256) (h : Text.strip call.transactionId ≠ "")
    {row : ReplayRow} (hrow : s.db.get (call.identity.fingerprint sha256) = some row) :
    (onDatabase sha256 .repository call s).1.verdict
        = (if row.transactionId = Text.strip call.transactionId
              ∧ ¬ ReplayRepository.Expired row call.ttlSeconds call.time then some false
            else none)
      ∧ (onDatabase sha256 .repository call s).2 = s := by
  have hrepo := ReplayRepository.checkAndRecordReplay_of_row call.env.now call.ttlSeconds call.at?
    (hd.strip_fingerprint call.identity) (hd.fingerprint_ne call.identity) h hrow
  by_cases hbound : row.transactionId = Text.strip call.transactionId
  · rw [if_neg (not_not.mpr hbound)] at hrepo
    by_cases hexpired : ReplayRepository.Expired row call.ttlSeconds call.time
    · rw [if_pos (show ReplayRepository.Expired row _ (call.at?.getD _) from hexpired)] at hrepo
      rw [repository_of_error hrepo, if_neg fun hrefused => hrefused.2 hexpired]
      exact ⟨rfl, rfl⟩
    · rw [if_neg (show ¬ ReplayRepository.Expired row _ (call.at?.getD _) from hexpired)] at hrepo
      rw [repository_of_ok hrepo, if_pos ⟨hbound, hexpired⟩]
      exact ⟨rfl, rfl⟩
  · rw [if_pos hbound] at hrepo
    rw [repository_of_error hrepo, if_neg fun hrefused => hbound hrefused.1]
    exact ⟨rfl, rfl⟩

/-! ## One check -/

/-- What a row says about its record. -/
theorem Mirrors.expired_iff {r : ReplayRecord} {row : ReplayRow} (h : Mirrors r row)
    (call : ReplayCall) :
    ReplayRepository.Expired row call.ttlSeconds call.time ↔ Lapsed r call := by
  have hage : ∀ i t n : Int, n ≤ t - i ↔ i + n ≤ t := by
    intro i t n
    omega
  rw [ReplayRepository.Expired, Lapsed, h.created]
  exact and_congr_right fun _ => hage r.createdAt call.time (call.ttlSeconds * 1000000)

/-- **On the row of a record the database refuses or raises.** -/
theorem database_again (hd : CleanDigests sha256) (path : ReplayPath) {r : ReplayRecord}
    {row : ReplayRow} (hmirrors : Mirrors r row)
    (hrow : s.db.get (call.identity.fingerprint sha256) = some row) :
    (RefusedByRow path r call → (onDatabase sha256 path call s).1.verdict = some false)
      ∧ (¬ RefusedByRow path r call → (onDatabase sha256 path call s).1.verdict = none)
      ∧ (onDatabase sha256 path call s).2.db = s.db := by
  have hage := hmirrors.expired_iff call
  cases path with
  | engine =>
      by_cases hwell : call.WellFormed
      · obtain ⟨hverdict, hpost⟩ := engine_again hd hwell hrow
        rw [hverdict, hpost]
        refine ⟨fun hrefused => if_neg ?_, fun hraises => if_pos ?_, rfl⟩
        · rw [hage]
          exact hrefused hwell
        · rw [hage]
          by_contra hlive
          exact hraises fun _ => hlive
      · obtain ⟨hverdict, hpost⟩ := engine_malformed sha256 s hwell
        rw [hverdict, hpost]
        exact ⟨fun _ => rfl, fun hraises => absurd (fun h => absurd h hwell) hraises, rfl⟩
  | repository =>
      by_cases htx : Text.strip call.transactionId = ""
      · obtain ⟨hverdict, hpost⟩ := repository_empty s hd htx
        rw [hverdict, hpost]
        exact ⟨fun hrefused => absurd htx hrefused.1, fun _ => rfl, rfl⟩
      · obtain ⟨hverdict, hpost⟩ := repository_again hd htx hrow
        have hlive : (row.transactionId = Text.strip call.transactionId
              ∧ ¬ ReplayRepository.Expired row call.ttlSeconds call.time)
            ↔ RefusedByRow .repository r call := by
          rw [RefusedByRow, and_iff_right htx, hage, hmirrors.transaction]
        rw [hverdict, hpost]
        exact ⟨fun hrefused => if_pos (hlive.mpr hrefused),
          fun hraises => if_neg fun h => hraises (hlive.mp h), rfl⟩

theorem granted_eq_iff {x : Option Instant} {y : Option (Option Instant)} :
    (x.map fun _ => true) = (y.map fun _ => true) ↔ (x = none ↔ y = none) := by
  cases x <;> cases y <;> simp

/-- **On a new fingerprint it agrees exactly when it follows.** -/
theorem database_first (hd : CleanDigests sha256) (path : ReplayPath) {e : ReplayProtectionEngine}
    (hget : ReplayProtectionEngine.recordOf sha256 e call.identity = none)
    (hfresh : s.db.get (call.identity.fingerprint sha256) = none) :
    (onDatabase sha256 path call s).1.verdict
        = replayVerdict (ReplayProtectionEngine.step sha256 e call).1
      ↔ FollowsFirst path call := by
  cases path with
  | engine =>
      by_cases hwell : call.WellFormed
      · rw [(engine_first hd hwell hfresh).1, memory_first hwell hget, FollowsFirst]
        exact granted_eq_iff.trans ⟨fun hiff _ => hiff, fun hfollows => hfollows hwell⟩
      · rw [(engine_malformed sha256 s hwell).1, verdict_of_malformed hwell]
        exact iff_of_true rfl fun h => absurd h hwell
  | repository =>
      by_cases hwell : call.WellFormed
      · rw [(repository_first hd hwell.2 hfresh).1, memory_first hwell hget, FollowsFirst,
          and_iff_right hwell]
        cases replayExpiry call.time call.ttlSeconds with
        | none => exact iff_of_false (by simp) fun h => h rfl
        | some x => exact iff_of_true rfl (Option.some_ne_none x)
      · rw [verdict_of_malformed hwell]
        refine iff_of_false ?_ fun h => hwell h.1
        by_cases htx : Text.strip call.transactionId = ""
        · rw [(repository_empty s hd htx).1]
          exact (Option.some_ne_none false).symm
        · rw [(repository_first hd htx hfresh).1]
          decide

end

/-- **What a check over the database does**: it allows and stores the row of its
    fingerprint, or it does not allow and leaves the table. -/
theorem database_effect {sha256 : String → String} {call : ReplayCall} {s : AsyncReplays}
    (hd : CleanDigests sha256) (path : ReplayPath) {o : Option ReplayRecord}
    (hrel : Option.Rel Mirrors o (s.db.get (call.identity.fingerprint sha256))) :
    ((onDatabase sha256 path call s).1.verdict = some true
        ∧ StoredFor sha256 call s.db (onDatabase sha256 path call s).2.db)
      ∨ ((onDatabase sha256 path call s).1.verdict ≠ some true
        ∧ (onDatabase sha256 path call s).2.db = s.db) := by
  cases o with
  | some r =>
      obtain ⟨row, hrow, hmirrors⟩ := Table.eq_some_of_rel hrel
      obtain ⟨hrefuses, hraises, hdb⟩ := database_again hd path hmirrors hrow
      refine .inr ⟨?_, hdb⟩
      by_cases hdatabase : RefusedByRow path r call
      · rw [hrefuses hdatabase]
        decide
      · rw [hraises hdatabase]
        decide
  | none =>
      have hfresh := Table.eq_none_of_rel hrel
      cases path with
      | engine =>
          by_cases hwell : call.WellFormed
          · obtain ⟨hverdict, hdb⟩ := engine_first hd hwell hfresh
            rw [hverdict]
            by_cases hend : addSeconds call.time call.ttlSeconds = none
            · rw [if_pos hend] at hdb
              rw [hend]
              exact .inr ⟨(Option.some_ne_none true).symm, hdb⟩
            · rw [if_neg hend] at hdb
              obtain ⟨t, ht⟩ := Option.ne_none_iff_exists'.mp hend
              rw [ht]
              exact .inl ⟨rfl, hdb⟩
          · obtain ⟨hverdict, hpost⟩ := engine_malformed sha256 s hwell
            rw [hverdict, hpost]
            exact .inr ⟨by decide, rfl⟩
      | repository =>
          by_cases htx : Text.strip call.transactionId = ""
          · obtain ⟨hverdict, hpost⟩ := repository_empty s hd htx
            rw [hverdict, hpost]
            exact .inr ⟨by decide, rfl⟩
          · exact .inl (repository_first hd htx hfresh)

theorem replayVerdict_eq_true_iff {e : ReplayProtectionEngine} {call : ReplayCall} :
    replayVerdict (ReplayProtectionEngine.step sha256 e call).1 = some true
      ↔ ReplayProtectionEngine.Allows (stepAt (ReplayProtectionEngine.step sha256) e call) := by
  rw [ReplayProtectionEngine.Allows, stepAt_out, replayVerdict, Option.map_eq_some_iff]
  refine exists_congr fun r => and_congr_left fun _ => ?_
  cases (ReplayProtectionEngine.step sha256 e call).1 with
  | error err => exact iff_of_false (Option.some_ne_none r).symm (by simp)
  | ok r' => simp [Except.toOption]

section
variable {sha256} {s : TwoReplays} (hd : CleanDigests sha256) (h : Simulates s)
  (request : ReplayRequest)

include hd h in
/-- **A check has the same outcome on both paths exactly when the database can
    follow.** -/
theorem agrees_iff :
    Agrees (stepAt (step sha256) s request) ↔ Served sha256 s request := by
  obtain ⟨call, path⟩ := request
  rw [Agrees, stepAt_out, Served, step]
  dsimp only
  have hrel := h (call.identity.fingerprint sha256)
  cases hget : ReplayProtectionEngine.recordOf sha256 s.memory call.identity with
  | none =>
      rw [← ReplayProtectionEngine.recordOf, hget] at hrel
      exact database_first hd path hget (Table.eq_none_of_rel hrel)
  | some r =>
      rw [← ReplayProtectionEngine.recordOf, hget] at hrel
      obtain ⟨row, hrow, hmirrors⟩ := Table.eq_some_of_rel hrel
      obtain ⟨hrefuses, hraises, -⟩ := database_again hd path hmirrors hrow
      show _ ↔ FollowsAgain path r call
      rw [FollowsAgain]
      by_cases hmemory : RefusedInMemory r call
      · rw [memory_again_refused hget hmemory]
        by_cases hdatabase : RefusedByRow path r call
        · rw [hrefuses hdatabase]
          exact iff_of_true rfl ⟨iff_of_true hdatabase hmemory, .inl hmemory⟩
        · rw [hraises hdatabase]
          exact iff_of_false (Option.some_ne_none false).symm fun hfollows =>
            hdatabase (hfollows.1.mpr hmemory)
      · rw [memory_again_open hget hmemory]
        by_cases hdatabase : RefusedByRow path r call
        · rw [hrefuses hdatabase]
          refine iff_of_false ?_ fun hfollows => hmemory (hfollows.1.mp hdatabase)
          cases replayExpiry call.time call.ttlSeconds <;> simp
        · rw [hraises hdatabase, and_iff_right (iff_of_false hdatabase hmemory),
            or_iff_right hmemory, eq_comm, Option.map_eq_none_iff]

include hd h in
/-- **A check with the same outcome on both paths keeps them related.** -/
theorem simulates_of_agrees (hagrees : Agrees (stepAt (step sha256) s request)) :
    Simulates (step sha256 s request).2 := by
  obtain ⟨call, path⟩ := request
  rw [Agrees, stepAt_out, step] at hagrees
  have hverdict : (onDatabase sha256 path call s.async).1.verdict
      = replayVerdict (ReplayProtectionEngine.step sha256 s.memory call).1 := hagrees
  intro k
  rw [step]
  dsimp only
  rcases database_effect hd path (h (call.identity.fingerprint sha256)) with
    ⟨hallowed, hstored⟩ | ⟨hnot, hkept⟩
  · rw [hverdict, replayVerdict_eq_true_iff] at hallowed
    obtain ⟨x, -, hpost⟩ := ReplayProtectionEngine.post_of_allows hallowed
    rw [hpost, hstored k]
    by_cases hk : k = call.identity.fingerprint sha256
    · rw [if_pos hk, hk, get_set_self]
      exact .some ⟨rfl, rfl⟩
    · rw [if_neg hk, get_set_of_ne _ hk]
      exact h k
  · rw [hverdict, Ne, replayVerdict_eq_true_iff] at hnot
    rw [ReplayProtectionEngine.post_of_not_allows hnot, hkept]
    exact h k

end

/-! ## Runs -/

/-- **The two paths give the same outcome at every step of a run exactly when
    the database can follow at every step: each fingerprint is new, or the
    lifetime that the caller gives runs as long as the recorded one.** -/
theorem replays_agree_iff {sha256 : String → String} (hd : CleanDigests sha256) {s : TwoReplays}
    (h : Simulates s) (requests : List ReplayRequest) :
    (∀ c ∈ steps (step sha256) s requests, Agrees c)
      ↔ ∀ c ∈ steps (step sha256) s requests, Served sha256 c.pre c.act :=
  forall_steps_iff (I := Simulates) (Q := fun c => Served sha256 c.pre c.act)
    (fun _ request h' => agrees_iff hd h' request)
    (fun _ request h' hserved =>
      simulates_of_agrees hd h' request ((agrees_iff hd h' request).mpr hserved))
    h requests

/-! ## A use after the lifetime -/

/-- What both paths answer to a check. -/
def verdicts (c : RequestStep) : Option Bool × Option Bool :=
  (replayVerdict c.out.memory, c.out.database.verdict)

theorem Agrees.eq_of_verdicts {c : RequestStep} (h : Agrees c) {memory database : Option Bool}
    (hverdicts : verdicts c = (memory, database)) : database = memory := by
  obtain ⟨rfl, rfl⟩ := Prod.mk.inj hverdicts
  exact h

namespace Sample

def digest (_ : String) : String :=
  "7b439a585cce22d76d605f44711f3e2bbfeea0b71ebae2a17b2d45feca194f1f"

theorem digest_clean : CleanDigests digest := by
  have hstripped : Text.strip (digest "") = digest "" := by
    decide +kernel
  have hne : digest "" ≠ "" := by
    decide +kernel
  exact ⟨fun _ => hstripped, fun _ => hne⟩

def start : TwoReplays := ⟨ReplayProtectionEngine.new, ⟨Table.empty, OrderedMap.empty⟩⟩

theorem start_simulates : Simulates start := fun _ => .none

def request (path : ReplayPath) (seconds ttlSeconds : Int) : ReplayRequest where
  call :=
    { ReplayProtectionEngine.Sample.call seconds "mandate-1" "tx-1" "A1B2" with
      ttlSeconds := ttlSeconds }
  path := path

end Sample

/-- A use, a replay within the minute, and the other path's check of it. -/
theorem replays_agree_iff_live :
    (∀ c ∈ steps (step Sample.digest) Sample.start
        [Sample.request .engine 0 60, Sample.request .repository 59 60], Agrees c)
      ↔ ∀ c ∈ steps (step Sample.digest) Sample.start
          [Sample.request .engine 0 60, Sample.request .repository 59 60],
        Served Sample.digest c.pre c.act :=
  replays_agree_iff Sample.digest_clean Sample.start_simulates
    [Sample.request .engine 0 60, Sample.request .repository 59 60]

/-- A minute after its use an identity is allowed again in memory, and both
    ways over the database raise. -/
theorem expired_uses_diverge :
    CleanDigests Sample.digest ∧ Simulates Sample.start
    ∧ ∀ path,
        [Sample.request path 0 60, Sample.request path 60 60].Pairwise
            (fun a b => a.call.time ≤ b.call.time)
          ∧ (steps (step Sample.digest) Sample.start
              [Sample.request path 0 60, Sample.request path 60 60]).map verdicts
            = [(some true, some true), (some true, none)]
          ∧ ¬ ∀ c ∈ steps (step Sample.digest) Sample.start
              [Sample.request path 0 60, Sample.request path 60 60], Agrees c := by
  refine ⟨Sample.digest_clean, Sample.start_simulates, fun path => ?_⟩
  have hverdicts : (steps (step Sample.digest) Sample.start
      [Sample.request path 0 60, Sample.request path 60 60]).map verdicts
      = [(some true, some true), (some true, none)] := by
    cases path <;> decide +kernel
  refine ⟨?_, hverdicts, fun h => ?_⟩
  · cases path <;> decide
  · obtain ⟨c, hc, hdiverges⟩ := List.mem_map.mp
      (hverdicts ▸ List.mem_cons_of_mem (some true, some true) (List.mem_singleton_self _))
    cases (h c hc).eq_of_verdicts hdiverges

end TwoReplays

end MandateGateway
