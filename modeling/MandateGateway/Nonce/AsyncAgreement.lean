import MandateGateway.Db.NonceRepository
import MandateGateway.Nonce.Effects
import MandateGateway.Nonce.Engine

/-! # Nonces in memory and over the database

    The same issuances and validations on the engine in memory, which keeps
    the expiry of a nonce, and on the database, which computes one whenever a
    nonce is validated.  `Simulates` is the relation between the two that they
    keep while they agree, and the last theorem says on which runs they do. -/

/-! ## The nonce engine over the database

    The asynchronous operations of the engine.  An issuance does not store the
    expiry it computes: a validation computes one from its own lifetime, and
    the repository measures the age of the nonce against its default. -/

namespace MandateGateway

open Clock Raising

/-- The rows, and the nonces that the engine keeps in memory. -/
structure AsyncNonces where
  db    : NonceTable
  cache : OrderedMap String NonceRecord

namespace AsyncNonces

/-- An asynchronous operation of the engine. -/
abbrev Action (α : Type) : Type := Raising AsyncNonces PyError α

/-- An operation of the repository. -/
def onRepository {α : Type} (x : NonceRepository.Action α) : Action α :=
  zoom AsyncNonces.db (fun db s => { s with db := db }) x

/-- `self._records[value] = record`. -/
def remember (value : String) (record : NonceRecord) : Action Unit :=
  modify fun s => { s with cache := s.cache.set value record }

/-- The `ttl_seconds` of `consume_nonce` when it is not given. -/
def defaultTtlSeconds : Int := 300

/-- `async_issue_nonce`. -/
def issueNonce (env : NonceEnv) (mandateId transactionId : String) (ttlSeconds : Int)
    (at? : Option Instant) : Action NonceRecord :=
  if Text.strip mandateId = "" then raise (.valueError "mandate_id cannot be empty")
  else if Text.strip transactionId = "" then raise (.valueError "transaction_id cannot be empty")
  else
    let issuedTime := env.ambient.time at?
    match addSeconds issuedTime ttlSeconds with
    | none => raise .timestampOutOfRange
    | some expiresTime => do
        let row ← onRepository (NonceRepository.createNonce env.ambient.now env.value
          (Text.strip transactionId) (Text.strip mandateId) .issued (some issuedTime))
        let record ← ofExcept (NonceRecord.build env.ambient.uuid row.nonce row.transactionId
          row.mandateId .issued row.createdAt expiresTime none)
        let _ ← remember env.value record
        pure record

/-- The record that `async_validate_and_consume` makes of a row. -/
def domainRecord (env : Ambient) (row : NonceRow) (expiresTime : Instant) :
    Except PyError NonceRecord :=
  match NonceState.ofValue row.status with
  | none => .error (.valueError s!"{Text.quoted row.status} is not a valid NonceState")
  | some state =>
      NonceRecord.build env.uuid row.nonce row.transactionId row.mandateId state row.createdAt
        expiresTime row.consumedAt

/-- Why `async_validate_and_consume` refuses a nonce: that it was issued in the
    future is not looked at. -/
def domainRefusal (record : NonceRecord) (cleanNonce mandateId transactionId : String)
    (evalTime : Instant) : Option NonceRefusal :=
  nonceBindingRefusal record cleanNonce mandateId transactionId
  <|> nonceConsumedRefusal record cleanNonce
  <|> nonceExpiryRefusal record cleanNonce evalTime

/-- `async_validate_and_consume`: the consumption of a nonce that the checks
    let pass. -/
def consumeDomain (env : Ambient) (record : NonceRecord)
    (cleanNonce mandateId transactionId : String) (evalTime : Instant) :
    Action NonceEvaluationResult := do
  let row ← onRepository (NonceRepository.consumeNonce env.now cleanNonce
    (Text.strip transactionId) (Text.strip mandateId) defaultTtlSeconds (some evalTime))
  let consumed := record.consume (row.consumedAt.getD evalTime)
  let _ ← remember cleanNonce consumed
  pure (acceptedNonce cleanNonce mandateId transactionId consumed evalTime)

/-- `async_validate_and_consume`. -/
def validateAndConsume (env : Ambient) (nonceValue mandateId transactionId : String)
    (at? : Option Instant) (ttlSeconds : Int) : Action NonceEvaluationResult := fun s =>
  let evalTime := env.time at?
  let cleanNonce := Text.strip nonceValue
  if cleanNonce = "" then
    (.ok (emptyNonceRefusal.result nonceValue mandateId transactionId none evalTime), s)
  else match NonceRepository.lockNonceForUpdate cleanNonce s.db with
  | none =>
      let refusal : NonceRefusal := ⟨.nonceInvalid,
        s!"Nonce validation failed: Nonce {Text.quoted cleanNonce} not found in database."⟩
      (.ok (refusal.result cleanNonce mandateId transactionId none evalTime), s)
  | some row =>
      match addSeconds row.createdAt ttlSeconds with
      | none => (.error .timestampOutOfRange, s)
      | some expiresTime =>
          match domainRecord env row expiresTime with
          | .error err => (.error err, s)
          | .ok record =>
              match domainRefusal record cleanNonce mandateId transactionId evalTime with
              | some refusal =>
                  (.ok (refusal.result cleanNonce mandateId transactionId (some record)
                    evalTime), s)
              | none => consumeDomain env record cleanNonce mandateId transactionId evalTime s

end AsyncNonces

end MandateGateway

namespace MandateGateway

open Clock Exceptions OrderedMap Raising Runs

/-- The two paths side by side. -/
structure TwoNonces where
  memory : NonceEngine
  async  : AsyncNonces

/-- A call on both paths; a lifetime of the validation is read by the
    asynchronous one only. -/
inductive NonceRequest where
  | issue (env : NonceEnv) (mandateId transactionId : String) (ttlSeconds : Int)
      (at? : Option Instant)
  | validate (env : Ambient) (nonceValue mandateId transactionId : String)
      (at? : Option Instant) (ttlSeconds : Int)

/-- What the two paths answer. -/
inductive NonceReplies where
  | issued (memory async : Except PyError NonceRecord)
  | evaluated (memory : NonceEvaluationResult) (async : Except PyError NonceEvaluationResult)

namespace TwoNonces

/-- The same call on both paths. -/
def step (s : TwoNonces) : NonceRequest → NonceReplies × TwoNonces
  | .issue env mandateId transactionId ttlSeconds at? =>
      let memory := s.memory.issueNonce env mandateId transactionId ttlSeconds at?
      let async := AsyncNonces.issueNonce env mandateId transactionId ttlSeconds at? s.async
      (.issued memory.1 async.1, ⟨memory.2, async.2⟩)
  | .validate env nonceValue mandateId transactionId at? ttlSeconds =>
      let memory := s.memory.validateAndConsume env nonceValue mandateId transactionId at?
      let async := AsyncNonces.validateAndConsume env nonceValue mandateId transactionId at?
        ttlSeconds s.async
      (.evaluated memory.1 async.1, ⟨memory.2, async.2⟩)

/-- A step of a run of both paths. -/
abbrev RequestStep := Step TwoNonces NonceRequest NonceReplies

/-- A generated value is not in use, has no whitespace around it and the length
    that the data contract asks for. -/
def Generates (c : RequestStep) : Prop :=
  ∀ env mandateId transactionId ttlSeconds at?,
    c.act = .issue env mandateId transactionId ttlSeconds at? →
      c.pre.memory.records.get env.value = none ∧ Text.strip env.value = env.value
        ∧ 16 ≤ env.value.length

/-- A validation that is accepted or rejected in memory is so over the
    database, and does not raise there. -/
def Agrees (c : RequestStep) : Prop :=
  ∀ r r', c.out = .evaluated r r' → ∃ a, r' = .ok a ∧ a.isAllowed = r.isAllowed

/-! ## The simulation relation -/

structure Mirrors (v : String) (r : NonceRecord) (row : NonceRow) : Prop where
  value       : r.nonceValue = v
  nonce       : row.nonce = v
  mandate     : row.mandateId = r.mandateId
  transaction : row.transactionId = r.transactionId
  status      : row.status = r.state.value
  created     : row.createdAt = r.issuedAt

/-- **The table holds the nonces of the engine.** -/
def Simulates (s : TwoNonces) : Prop :=
  ∀ v, Option.Rel (Mirrors v) (s.memory.records.get v) (s.async.db.get v)

theorem Simulates.row_of_none {s : TwoNonces} (h : Simulates s) {v : String}
    (hget : s.memory.records.get v = none) : s.async.db.get v = none := by
  have hrel := h v
  rw [hget] at hrel
  exact Table.eq_none_of_rel hrel

theorem Simulates.row_of_some {s : TwoNonces} (h : Simulates s) {v : String} {record : NonceRecord}
    (hget : s.memory.records.get v = some record) :
    ∃ row, s.async.db.get v = some row ∧ Mirrors v record row := by
  have hrel := h v
  rw [hget] at hrel
  exact Table.eq_some_of_rel hrel

/-! ## When the paths go on together -/

/-- The nonce is issued, and these are its bindings. -/
structure Held (record : NonceRecord) (mandateId transactionId : String) : Prop where
  issued      : record.state = .issued
  mandate     : record.mandateId = Text.strip mandateId
  transaction : record.transactionId = Text.strip transactionId

/-- The expiry of the record is the one that the database enforces: the
    lifetime that the validation is given ends on the calendar, and for the
    nonce's own bindings the time is before that end exactly where it is within
    the validity of the nonce, and then less than the default lifetime has
    passed. -/
structure Enforced (record : NonceRecord) (mandateId transactionId : String) (t : Instant)
    (ttlSeconds : Int) : Prop where
  onCalendar : addSeconds record.issuedAt ttlSeconds ≠ none
  window     : Held record mandateId transactionId →
    (t < record.issuedAt + ttlSeconds * 1000000 ↔ record.issuedAt ≤ t ∧ t < record.expiresAt)
  young      : Held record mandateId transactionId →
    t < record.issuedAt + ttlSeconds * 1000000 →
      t < record.issuedAt + AsyncNonces.defaultTtlSeconds * 1000000

/-- The database can follow. -/
def Served (s : TwoNonces) : NonceRequest → Prop
  | .issue _ _ _ _ _ => True
  | .validate env nonceValue mandateId transactionId at? ttlSeconds =>
      ∀ record, s.memory.records.get (Text.strip nonceValue) = some record →
        Enforced record mandateId transactionId (env.time at?) ttlSeconds

end TwoNonces

/-! ## One validation over the database -/

namespace AsyncNonces

open TwoNonces

section
variable {env : Ambient} {v mandateId transactionId : String} {t : Instant} {record : NonceRecord}
  {row : NonceRow} {s : AsyncNonces}

theorem domainRecord_of_mirrors (h : TwoNonces.Mirrors v record row) (env : Ambient)
    (expiresTime : Instant) :
    ∃ r, domainRecord env row expiresTime = .ok r ∧ r.mandateId = record.mandateId
      ∧ r.transactionId = record.transactionId ∧ r.state = record.state
      ∧ r.expiresAt = expiresTime := by
  have hstate : NonceState.ofValue row.status = some record.state := by
    rw [h.status, NonceState.ofValue_value]
  have hvalid : 16 ≤ row.nonce.length ∧ row.transactionId ≠ "" ∧ row.mandateId ≠ "" := by
    rw [h.nonce, h.transaction, h.mandate, ← h.value]
    exact ⟨record.nonceValue_long, record.transactionId_ne, record.mandateId_ne⟩
  rw [domainRecord]
  simp only [hstate, NonceRecord.build, dif_pos hvalid]
  exact ⟨_, rfl, h.mandate, h.transaction, rfl, rfl⟩

theorem domainRefusal_eq_none_iff {cleanNonce : String} :
    domainRefusal record cleanNonce mandateId transactionId t = none
      ↔ Held record mandateId transactionId ∧ t < record.expiresAt := by
  have hissued : ¬ record.state = .consumed ↔ record.state = .issued := by
    cases record.state <;> decide
  rw [domainRefusal]
  simp only [Option.orElse_eq_none, nonceBindingRefusal, nonceConsumedRefusal, nonceExpiryRefusal,
    check_eq_none_iff, not_or, not_not, hissued, Int.not_le, and_true]
  constructor
  · rintro ⟨⟨hmandate, htransaction⟩, hstate, hlive⟩
    exact ⟨⟨hstate, hmandate, htransaction⟩, hlive⟩
  · rintro ⟨h, hlive⟩
    exact ⟨⟨h.mandate, h.transaction⟩, h.issued, hlive⟩

end

section
variable (env : Ambient) {nonceValue mandateId transactionId : String} (at? : Option Instant)
  (ttlSeconds : Int) {expiresTime : Instant} {record : NonceRecord} {row : NonceRow}
  {s : AsyncNonces}

variable (nonceValue mandateId transactionId) in
theorem validate_unknown
    (h : Text.strip nonceValue = "" ∨ s.db.get (Text.strip nonceValue) = none) :
    ∃ a, validateAndConsume env nonceValue mandateId transactionId at? ttlSeconds s = (.ok a, s)
      ∧ a.isAllowed = false := by
  rw [validateAndConsume]
  by_cases hne : Text.strip nonceValue = ""
  · simp only [if_pos hne]
    exact ⟨_, rfl, rfl⟩
  · have hrow := h.resolve_left hne
    rw [← NonceRepository.lockNonceForUpdate] at hrow
    simp only [if_neg hne, hrow]
    exact ⟨_, rfl, rfl⟩

variable (hne : Text.strip nonceValue ≠ "") (hrow : s.db.get (Text.strip nonceValue) = some row)
  (hmirrors : TwoNonces.Mirrors (Text.strip nonceValue) record row)

include hne hrow in
theorem validate_offCalendar (h : addSeconds row.createdAt ttlSeconds = none) :
    validateAndConsume env nonceValue mandateId transactionId at? ttlSeconds s
      = (.error .timestampOutOfRange, s) := by
  rw [← NonceRepository.lockNonceForUpdate] at hrow
  rw [validateAndConsume]
  simp only [if_neg hne, hrow, h]

include hne hrow hmirrors in
theorem validate_refused (hexpires : addSeconds row.createdAt ttlSeconds = some expiresTime)
    (h : ¬ (Held record mandateId transactionId ∧ env.time at? < expiresTime)) :
    ∃ a, validateAndConsume env nonceValue mandateId transactionId at? ttlSeconds s = (.ok a, s)
      ∧ a.isAllowed = false := by
  obtain ⟨r, hr, hmandate, htransaction, hstate, hexpiry⟩ :=
    domainRecord_of_mirrors hmirrors env expiresTime
  rw [← NonceRepository.lockNonceForUpdate] at hrow
  rw [validateAndConsume]
  simp only [if_neg hne, hrow, hexpires, hr]
  cases hrefusal : domainRefusal r (Text.strip nonceValue) mandateId transactionId
      (env.time at?) with
  | some refusal => exact ⟨_, rfl, rfl⟩
  | none =>
      obtain ⟨hheld, hlive⟩ := domainRefusal_eq_none_iff.mp hrefusal
      rw [hexpiry] at hlive
      exact absurd ⟨⟨hstate.symm.trans hheld.issued, hmandate.symm.trans hheld.mandate,
        htransaction.symm.trans hheld.transaction⟩, hlive⟩ h

include hne hrow hmirrors in
theorem validate_held (hexpires : addSeconds row.createdAt ttlSeconds = some expiresTime)
    (hheld : Held record mandateId transactionId) (hlive : env.time at? < expiresTime) :
    ∃ r, validateAndConsume env nonceValue mandateId transactionId at? ttlSeconds s
      = consumeDomain env r (Text.strip nonceValue) mandateId transactionId (env.time at?) s := by
  obtain ⟨r, hr, hmandate, htransaction, hstate, hexpiry⟩ :=
    domainRecord_of_mirrors hmirrors env expiresTime
  have hheld' : Held r mandateId transactionId :=
    ⟨hstate.trans hheld.issued, hmandate.trans hheld.mandate,
      htransaction.trans hheld.transaction⟩
  have hrefusal : domainRefusal r (Text.strip nonceValue) mandateId transactionId
      (env.time at?) = none := by
    refine domainRefusal_eq_none_iff.mpr ⟨hheld', ?_⟩
    rw [hexpiry]
    exact hlive
  rw [← NonceRepository.lockNonceForUpdate] at hrow
  refine ⟨r, ?_⟩
  rw [validateAndConsume]
  simp only [if_neg hne, hrow, hexpires, hr, hrefusal]

include hne hrow hmirrors in
theorem consumeNonce_held (hheld : Held record mandateId transactionId) (t : Instant) :
    NonceRepository.consumeNonce env.now (Text.strip nonceValue) (Text.strip transactionId)
        (Text.strip mandateId) defaultTtlSeconds (some t) s.db
      = if NonceRepository.Aged row defaultTtlSeconds t then
          (.error (.valueError (NonceRepository.agedMessage (Text.strip nonceValue) row
            defaultTtlSeconds t)), s.db)
        else (.ok (NonceRepository.consume t row),
          NonceRepository.consumed (Text.strip nonceValue) t s.db) := by
  refine NonceRepository.consumeNonce_of_consumable (Text.strip_strip _) hne hrow ⟨?_, ?_, ?_⟩
  · rw [hmirrors.transaction, hheld.transaction, Text.strip_strip]
  · rw [hmirrors.mandate, hheld.mandate, Text.strip_strip]
  · rw [hmirrors.status, hheld.issued]

include hne hrow hmirrors in
theorem validate_aged (hexpires : addSeconds row.createdAt ttlSeconds = some expiresTime)
    (hheld : Held record mandateId transactionId) (hlive : env.time at? < expiresTime)
    (h : NonceRepository.Aged row defaultTtlSeconds (env.time at?)) :
    ∃ err, validateAndConsume env nonceValue mandateId transactionId at? ttlSeconds s
      = (.error err, s) := by
  obtain ⟨r, hvalidate⟩ := validate_held env at? ttlSeconds hne hrow hmirrors hexpires hheld hlive
  have hconsume := consumeNonce_held env hne hrow hmirrors hheld (env.time at?)
  rw [if_pos h] at hconsume
  have hrepo : onRepository (NonceRepository.consumeNonce env.now (Text.strip nonceValue)
      (Text.strip transactionId) (Text.strip mandateId) defaultTtlSeconds
      (some (env.time at?))) s
      = (.error (.valueError (NonceRepository.agedMessage (Text.strip nonceValue) row
        defaultTtlSeconds (env.time at?))), s) := by
    rw [onRepository, zoom, hconsume]
  rw [hvalidate, consumeDomain]
  exact ⟨_, bind_of_error hrepo⟩

include hne hrow hmirrors in
theorem validate_consumed (hexpires : addSeconds row.createdAt ttlSeconds = some expiresTime)
    (hheld : Held record mandateId transactionId) (hlive : env.time at? < expiresTime)
    (h : ¬ NonceRepository.Aged row defaultTtlSeconds (env.time at?)) :
    ∃ a cache, validateAndConsume env nonceValue mandateId transactionId at? ttlSeconds s
        = (.ok a, ⟨NonceRepository.consumed (Text.strip nonceValue) (env.time at?) s.db, cache⟩)
      ∧ a.isAllowed = true := by
  obtain ⟨r, hvalidate⟩ := validate_held env at? ttlSeconds hne hrow hmirrors hexpires hheld hlive
  have hconsume := consumeNonce_held env hne hrow hmirrors hheld (env.time at?)
  rw [if_neg h] at hconsume
  have hrepo : onRepository (NonceRepository.consumeNonce env.now (Text.strip nonceValue)
      (Text.strip transactionId) (Text.strip mandateId) defaultTtlSeconds
      (some (env.time at?))) s
      = (.ok (NonceRepository.consume (env.time at?) row),
        ⟨NonceRepository.consumed (Text.strip nonceValue) (env.time at?) s.db, s.cache⟩) := by
    rw [onRepository, zoom, hconsume]
  rw [hvalidate, consumeDomain, bind_of_ok hrepo]
  exact ⟨_, _, rfl, rfl⟩

end

end AsyncNonces

/-! ## One validation on both paths -/

namespace NonceEngine

open TwoNonces

section
variable {env : Ambient} {nonceValue mandateId transactionId : String} {at? : Option Instant}
  {e : NonceEngine} {record : NonceRecord}

theorem presents_iff {t : Instant} :
    record.state = .issued ∧ Presents record mandateId transactionId t
      ↔ Held record mandateId transactionId ∧ record.issuedAt ≤ t ∧ t < record.expiresAt := by
  constructor
  · rintro ⟨hissued, h⟩
    exact ⟨⟨hissued, h.mandate, h.transaction⟩, h.started, h.live⟩
  · rintro ⟨h, hstarted, hlive⟩
    exact ⟨h.issued, h.mandate, h.transaction, hstarted, hlive⟩

theorem validate_rejected (hget : e.records.get (Text.strip nonceValue) = some record)
    (h : ¬ (Held record mandateId transactionId
      ∧ record.issuedAt ≤ env.time at? ∧ env.time at? < record.expiresAt)) :
    (validateAndConsume env nonceValue mandateId transactionId at? e).1.isAllowed = false
      ∧ (validateAndConsume env nonceValue mandateId transactionId at? e).2 = e := by
  rcases validate_cases env nonceValue mandateId transactionId at? e with
    hrejected | ⟨r, hr, hissued, hpresents, -⟩
  · exact hrejected
  · obtain rfl := Option.some.inj (hget.symm.trans hr)
    exact absurd (presents_iff.mp ⟨hissued, hpresents⟩) h

variable (env nonceValue mandateId transactionId at?) in
theorem validate_unknown (h : e.records.get (Text.strip nonceValue) = none) :
    (validateAndConsume env nonceValue mandateId transactionId at? e).1.isAllowed = false
      ∧ (validateAndConsume env nonceValue mandateId transactionId at? e).2 = e := by
  rcases validate_cases env nonceValue mandateId transactionId at? e with
    hrejected | ⟨r, hr, -⟩
  · exact hrejected
  · rw [h] at hr
    cases hr

end

end NonceEngine

namespace TwoNonces

section
variable {s : TwoNonces} {env : Ambient} {nonceValue mandateId transactionId : String}
  {at? : Option Instant} {ttlSeconds : Int}

/-- What a validation does on both paths. -/
inductive Outcome (s : TwoNonces) (env : Ambient) (nonceValue mandateId transactionId : String)
    (at? : Option Instant) (ttlSeconds : Int) : Prop
  /-- both reject -/
  | rejected {a : NonceEvaluationResult}
      (hm : (s.memory.validateAndConsume env nonceValue mandateId transactionId at?).1.isAllowed
        = false)
      (hm' : (s.memory.validateAndConsume env nonceValue mandateId transactionId at?).2 = s.memory)
      (ha : AsyncNonces.validateAndConsume env nonceValue mandateId transactionId at? ttlSeconds
        s.async = (.ok a, s.async)) (hrejected : a.isAllowed = false)
      (hserved : Served s (.validate env nonceValue mandateId transactionId at? ttlSeconds))
  /-- both consume -/
  | consumed {record : NonceRecord} {row : NonceRow} {a b : NonceEvaluationResult}
      {cache : OrderedMap String NonceRecord}
      (hget : s.memory.records.get (Text.strip nonceValue) = some record)
      (hrow : s.async.db.get (Text.strip nonceValue) = some row)
      (hm : s.memory.validateAndConsume env nonceValue mandateId transactionId at?
        = (b, ⟨s.memory.records.set (Text.strip nonceValue) (record.consume (env.time at?))⟩))
      (ha : AsyncNonces.validateAndConsume env nonceValue mandateId transactionId at? ttlSeconds
        s.async = (.ok a, ⟨NonceRepository.consumed (Text.strip nonceValue) (env.time at?)
          s.async.db, cache⟩))
      (haccepted : a.isAllowed = true ∧ b.isAllowed = true)
      (hserved : Served s (.validate env nonceValue mandateId transactionId at? ttlSeconds))
  /-- the database raises, or decides otherwise -/
  | diverged
      (hno : ¬ Agrees (stepAt step s
        (.validate env nonceValue mandateId transactionId at? ttlSeconds)))
      (hserved : ¬ Served s (.validate env nonceValue mandateId transactionId at? ttlSeconds))

theorem agrees_validate_iff :
    Agrees (stepAt step s (.validate env nonceValue mandateId transactionId at? ttlSeconds))
      ↔ ∃ a, (AsyncNonces.validateAndConsume env nonceValue mandateId transactionId at? ttlSeconds
          s.async).1 = .ok a
        ∧ a.isAllowed
          = (s.memory.validateAndConsume env nonceValue mandateId transactionId at?).1.isAllowed
    := by
  rw [Agrees, stepAt_out, step]
  constructor
  · intro h
    exact h _ _ rfl
  · rintro h r r' hout
    obtain ⟨rfl, rfl⟩ := NonceReplies.evaluated.inj hout
    exact h

theorem served_iff {record : NonceRecord}
    (hget : s.memory.records.get (Text.strip nonceValue) = some record) :
    Served s (.validate env nonceValue mandateId transactionId at? ttlSeconds)
      ↔ Enforced record mandateId transactionId (env.time at?) ttlSeconds := by
  constructor
  · intro h
    exact h record hget
  · intro h r hr
    obtain rfl := Option.some.inj (hget.symm.trans hr)
    exact h

theorem validate_outcome_stored {record : NonceRecord} {row : NonceRow}
    (hget : s.memory.records.get (Text.strip nonceValue) = some record)
    (hrow : s.async.db.get (Text.strip nonceValue) = some row)
    (hmirrors : Mirrors (Text.strip nonceValue) record row) :
    Outcome s env nonceValue mandateId transactionId at? ttlSeconds := by
  have hne : Text.strip nonceValue ≠ "" := by
    intro hempty
    have hlong := record.nonceValue_long
    rw [hmirrors.value, hempty] at hlong
    exact absurd hlong (by decide)
  have hdiverged : ∀ {r : Except PyError NonceEvaluationResult},
      (AsyncNonces.validateAndConsume env nonceValue mandateId transactionId at? ttlSeconds
        s.async).1 = r →
      (∀ a, r = .ok a → a.isAllowed
        ≠ (s.memory.validateAndConsume env nonceValue mandateId transactionId at?).1.isAllowed) →
      ¬ Enforced record mandateId transactionId (env.time at?) ttlSeconds →
      Outcome s env nonceValue mandateId transactionId at? ttlSeconds := by
    rintro r rfl hdiffers henforced
    refine .diverged ?_ ((served_iff hget).not.mpr henforced)
    rw [agrees_validate_iff]
    rintro ⟨a, ha, hsame⟩
    exact hdiffers a ha hsame
  have haged : NonceRepository.Aged row AsyncNonces.defaultTtlSeconds (env.time at?)
      ↔ ¬ env.time at? < record.issuedAt + AsyncNonces.defaultTtlSeconds * 1000000 := by
    rw [← hmirrors.created]
    exact NonceRepository.aged_iff (by decide)
  cases hexpires : addSeconds record.issuedAt ttlSeconds with
  | none =>
      -- the asynchronous path computes its expiry before it looks at anything else
      have hrowExpires : addSeconds row.createdAt ttlSeconds = none := by
        rw [hmirrors.created, hexpires]
      exact hdiverged (congrArg Prod.fst (AsyncNonces.validate_offCalendar env at? ttlSeconds hne
        hrow hrowExpires)) (fun a ha => by cases ha) fun h => h.onCalendar hexpires
  | some expiresTime =>
      have hcalendar : addSeconds record.issuedAt ttlSeconds ≠ none := by
        rw [hexpires]
        exact Option.some_ne_none _
      obtain rfl := addSeconds_eq_some hexpires
      replace hexpires := (congrArg (addSeconds · ttlSeconds) hmirrors.created).trans hexpires
      by_cases hlive : Held record mandateId transactionId
          ∧ env.time at? < record.issuedAt + ttlSeconds * 1000000
      · obtain ⟨hheld, hlive⟩ := hlive
        by_cases hold : NonceRepository.Aged row AsyncNonces.defaultTtlSeconds (env.time at?)
        · obtain ⟨err, hasync⟩ := AsyncNonces.validate_aged env at? ttlSeconds hne hrow hmirrors
            hexpires hheld hlive hold
          refine hdiverged (congrArg Prod.fst hasync) (fun a ha => by cases ha) ?_
          intro h
          exact haged.mp hold (h.young hheld hlive)
        · obtain ⟨a, cache, hasync, haccepted⟩ := AsyncNonces.validate_consumed env at? ttlSeconds
            hne hrow hmirrors hexpires hheld hlive hold
          by_cases hwindow : record.issuedAt ≤ env.time at? ∧ env.time at? < record.expiresAt
          · obtain ⟨hissued, hpresents⟩ := NonceEngine.presents_iff.mpr ⟨hheld, hwindow⟩
            have hmemory := NonceEngine.validate_accepted hne hget hissued hpresents
            refine .consumed hget hrow hmemory hasync ⟨haccepted, rfl⟩ ((served_iff hget).mpr ?_)
            exact ⟨hcalendar, fun _ => iff_of_true hlive hwindow,
              fun _ _ => not_not.mp (haged.not.mp hold)⟩
          · obtain ⟨hrejected, -⟩ := NonceEngine.validate_rejected hget
              (fun h => hwindow h.2)
            refine hdiverged (congrArg Prod.fst hasync) ?_ ?_
            · intro a' ha'
              obtain rfl := Except.ok.inj ha'
              rw [haccepted, hrejected]
              decide
            · intro h
              exact hwindow ((h.window hheld).mp hlive)
      · obtain ⟨a, hasync, hrefused⟩ := AsyncNonces.validate_refused env at? ttlSeconds hne hrow
          hmirrors hexpires hlive
        by_cases hwindow : Held record mandateId transactionId
            ∧ record.issuedAt ≤ env.time at? ∧ env.time at? < record.expiresAt
        · obtain ⟨hissued, hpresents⟩ := NonceEngine.presents_iff.mpr hwindow
          have hmemory := NonceEngine.validate_accepted hne hget hissued hpresents
          refine hdiverged (congrArg Prod.fst hasync) ?_ ?_
          · intro a' ha'
            obtain rfl := Except.ok.inj ha'
            rw [hrefused, hmemory]
            exact Bool.false_ne_true
          · intro h
            exact hlive ⟨hwindow.1, (h.window hwindow.1).mpr hwindow.2⟩
        · obtain ⟨hrejected, hunchanged⟩ := NonceEngine.validate_rejected hget hwindow
          refine .rejected hrejected hunchanged hasync hrefused ((served_iff hget).mpr ?_)
          refine ⟨hcalendar, fun hheld => ?_, fun hheld h => absurd ⟨hheld, h⟩ hlive⟩
          exact iff_of_false (fun h => hlive ⟨hheld, h⟩) fun h => hwindow ⟨hheld, h⟩

variable (env nonceValue mandateId transactionId at? ttlSeconds) in
/-- **One validation from related states.** -/
theorem validate_outcome (h : Simulates s) :
    Outcome s env nonceValue mandateId transactionId at? ttlSeconds := by
  cases hget : s.memory.records.get (Text.strip nonceValue) with
  | none =>
      obtain ⟨hrejected, hunchanged⟩ := NonceEngine.validate_unknown env nonceValue mandateId
        transactionId at? hget
      obtain ⟨a, hasync, hrefused⟩ := AsyncNonces.validate_unknown env nonceValue mandateId
        transactionId at? ttlSeconds (.inr (h.row_of_none hget))
      refine .rejected hrejected hunchanged hasync hrefused ?_
      intro record hrecord
      rw [hget] at hrecord
      cases hrecord
  | some record =>
      obtain ⟨row, hrow, hmirrors⟩ := h.row_of_some hget
      exact validate_outcome_stored hget hrow hmirrors

theorem Mirrors.consume {v : String} {record : NonceRecord} {row : NonceRow}
    (h : Mirrors v record row) (t : Instant) :
    Mirrors v (record.consume t) (NonceRepository.consume t row) where
  value := h.value
  nonce := h.nonce
  mandate := h.mandate
  transaction := h.transaction
  status := rfl
  created := h.created

theorem validate_simulates (h : Simulates s)
    (hserved : Served s (.validate env nonceValue mandateId transactionId at? ttlSeconds)) :
    Simulates (step s (.validate env nonceValue mandateId transactionId at? ttlSeconds)).2 := by
  rw [step]
  cases validate_outcome env nonceValue mandateId transactionId at? ttlSeconds h with
  | rejected hm hm' ha hrejected _ =>
      rw [hm', ha]
      exact h
  | diverged hno hnot => exact absurd hserved hnot
  | consumed hget hrow hm ha haccepted _ =>
      rw [hm, ha]
      intro v
      by_cases hv : v = Text.strip nonceValue
      · subst hv
        obtain ⟨row', hrow', hmirrors⟩ := h.row_of_some hget
        obtain rfl := Option.some.inj (hrow.symm.trans hrow')
        rw [get_set_self, NonceRepository.consumed, Table.get_modify_self _ hrow]
        exact .some (hmirrors.consume (env.time at?))
      · rw [get_set_of_ne _ hv, NonceRepository.consumed, Table.get_modify_of_ne _ hv]
        exact h v

theorem validate_agrees_iff (h : Simulates s) :
    Agrees (stepAt step s (.validate env nonceValue mandateId transactionId at? ttlSeconds))
      ↔ Served s (.validate env nonceValue mandateId transactionId at? ttlSeconds) := by
  cases validate_outcome env nonceValue mandateId transactionId at? ttlSeconds h with
  | rejected hm hm' ha hrejected hserved =>
      refine iff_of_true ?_ hserved
      rw [agrees_validate_iff, ha, hm]
      exact ⟨_, rfl, hrejected⟩
  | consumed hget hrow hm ha haccepted hserved =>
      refine iff_of_true ?_ hserved
      rw [agrees_validate_iff, ha, hm]
      exact ⟨_, rfl, haccepted.1.trans haccepted.2.symm⟩
  | diverged hno hserved => exact iff_of_false hno hserved

end

/-! ## Issuances -/

section
variable {s : TwoNonces} {env : NonceEnv} {mandateId transactionId : String} {ttlSeconds : Int}
  {at? : Option Instant}

theorem memory_issue (hmandate : Text.strip mandateId ≠ "") (htx : Text.strip transactionId ≠ "")
    {expiresTime : Instant} (hexpires : addSeconds (env.ambient.time at?) ttlSeconds
      = some expiresTime) {record : NonceRecord}
    (hbuild : NonceRecord.build env.ambient.uuid env.value (Text.strip transactionId)
      (Text.strip mandateId) .issued (env.ambient.time at?) expiresTime none = .ok record) :
    s.memory.issueNonce env mandateId transactionId ttlSeconds at?
      = (.ok record, ⟨s.memory.records.set env.value record⟩) := by
  rw [NonceEngine.issueNonce, if_neg hmandate, if_neg htx]
  simp only [hexpires, hbuild]

/-- The asynchronous one stores a row of it. -/
theorem async_issue (hmandate : Text.strip mandateId ≠ "") (htx : Text.strip transactionId ≠ "")
    {expiresTime : Instant} (hexpires : addSeconds (env.ambient.time at?) ttlSeconds
      = some expiresTime) {record : NonceRecord}
    (hbuild : NonceRecord.build env.ambient.uuid env.value (Text.strip transactionId)
      (Text.strip mandateId) .issued (env.ambient.time at?) expiresTime none = .ok record)
    (hclean : Text.strip env.value = env.value) (hne : env.value ≠ "")
    (hfresh : s.async.db.get env.value = none) (k : String) :
    (AsyncNonces.issueNonce env mandateId transactionId ttlSeconds at? s.async).2.db.get k
      = if k = env.value then
          some (NonceRepository.newRow env.value (Text.strip transactionId) (Text.strip mandateId)
            .issued (env.ambient.time at?))
        else s.async.db.get k := by
  obtain ⟨db', hcreate, hget⟩ := NonceRepository.createNonce_of_fresh env.ambient.now .issued
    (some (env.ambient.time at?)) hclean (Text.strip_strip transactionId)
    (Text.strip_strip mandateId) hne htx hmandate hfresh
  rw [Option.getD_some] at hcreate hget
  have hrepo : AsyncNonces.onRepository (NonceRepository.createNonce env.ambient.now env.value
      (Text.strip transactionId) (Text.strip mandateId) .issued (some (env.ambient.time at?)))
      s.async = (.ok (NonceRepository.newRow env.value (Text.strip transactionId)
        (Text.strip mandateId) .issued (env.ambient.time at?)), ⟨db', s.async.cache⟩) := by
    rw [AsyncNonces.onRepository, zoom, hcreate]
  have hissue : (AsyncNonces.issueNonce env mandateId transactionId ttlSeconds at? s.async).2.db
      = db' := by
    rw [AsyncNonces.issueNonce, if_neg hmandate, if_neg htx]
    simp only [hexpires]
    rw [bind_of_ok hrepo]
    dsimp only [NonceRepository.newRow]
    rw [bind_of_ok (ofExcept_of_eq hbuild _)]
    rfl
  rw [hissue, hget]

/-- **A nonce that both paths issue keeps them related.** -/
theorem issue_simulates (h : Simulates s)
    (hgenerates : Generates (stepAt step s (.issue env mandateId transactionId ttlSeconds at?))) :
    Simulates (step s (.issue env mandateId transactionId ttlSeconds at?)).2 := by
  obtain ⟨hfree, hclean, hlong⟩ := hgenerates env mandateId transactionId ttlSeconds at? rfl
  rw [stepAt_pre] at hfree
  rw [step]
  by_cases hmandate : Text.strip mandateId = ""
  · rw [NonceEngine.issueNonce, AsyncNonces.issueNonce, if_pos hmandate, if_pos hmandate]
    exact h
  by_cases htx : Text.strip transactionId = ""
  · rw [NonceEngine.issueNonce, AsyncNonces.issueNonce, if_neg hmandate, if_neg hmandate,
      if_pos htx, if_pos htx]
    exact h
  cases hexpires : addSeconds (env.ambient.time at?) ttlSeconds with
  | none =>
      rw [NonceEngine.issueNonce, AsyncNonces.issueNonce, if_neg hmandate, if_neg hmandate,
        if_neg htx, if_neg htx]
      simp only [hexpires]
      exact h
  | some expiresTime =>
      have hne : env.value ≠ "" := by
        intro hempty
        rw [hempty] at hlong
        exact absurd hlong (by decide)
      have hvalid : 16 ≤ env.value.length ∧ Text.strip transactionId ≠ ""
          ∧ Text.strip mandateId ≠ "" := ⟨hlong, htx, hmandate⟩
      cases hbuild : NonceRecord.build env.ambient.uuid env.value (Text.strip transactionId)
          (Text.strip mandateId) .issued (env.ambient.time at?) expiresTime none with
      | error err =>
          rw [NonceRecord.build, dif_pos hvalid] at hbuild
          cases hbuild
      | ok record =>
          have hfresh : s.async.db.get env.value = none := h.row_of_none hfree
          obtain ⟨hvalue, hrecordTx, hrecordMandate, hstate, hissuedAt, -⟩ :=
            NonceRecord.build_eq_ok hbuild
          rw [memory_issue hmandate htx hexpires hbuild]
          intro v
          show Option.Rel (Mirrors v) ((s.memory.records.set env.value record).get v) _
          rw [async_issue hmandate htx hexpires hbuild hclean hne hfresh v]
          by_cases hv : v = env.value
          · rw [if_pos hv, hv, get_set_self]
            exact .some ⟨hvalue, rfl, hrecordMandate.symm, hrecordTx.symm,
              congrArg NonceState.value hstate.symm, hissuedAt.symm⟩
          · rw [if_neg hv, get_set_of_ne _ hv]
            exact h v

end

/-! ## Runs -/

/-- **The two paths agree on the validations of a run exactly when the database
    enforces, at each of them, the expiry that was fixed at issuance.** -/
theorem validations_agree_iff {s : TwoNonces} (h : Simulates s) (requests : List NonceRequest)
    (hgenerates : ∀ c ∈ steps step s requests, Generates c) :
    (∀ c ∈ steps step s requests, Agrees c)
      ↔ ∀ c ∈ steps step s requests, Served c.pre c.act := by
  have hboth : (∀ c ∈ steps step s requests, Generates c ∧ Agrees c)
      ↔ ∀ c ∈ steps step s requests, Generates c ∧ Served c.pre c.act := by
    refine forall_steps_iff (I := Simulates) ?_ ?_ h requests
    · intro s' request h'
      cases request with
      | issue env mandateId transactionId ttlSeconds at? =>
          refine and_congr_right fun _ => iff_of_true ?_ trivial
          intro r r' hout
          cases hout
      | validate env nonceValue mandateId transactionId at? ttlSeconds =>
          exact and_congr_right fun _ => validate_agrees_iff h'
    · rintro s' request h' ⟨hnew, hserved⟩
      cases request with
      | issue env mandateId transactionId ttlSeconds at? => exact issue_simulates h' hnew
      | validate env nonceValue mandateId transactionId at? ttlSeconds =>
          exact validate_simulates h' hserved
  constructor
  · intro hagrees c hc
    exact (hboth.mp (fun c' hc' => ⟨hgenerates c' hc', hagrees c' hc'⟩) c hc).2
  · intro hserved c hc
    exact (hboth.mpr (fun c' hc' => ⟨hgenerates c' hc', hserved c' hc'⟩) c hc).2

/-! ## Two lifetimes -/

/-- Whether each path accepts a validation; the database may raise instead. -/
def verdict (c : RequestStep) : Option (Bool × Option Bool) :=
  match c.out with
  | .issued _ _ => none
  | .evaluated r r' => some (r.isAllowed, r'.toOption.map NonceEvaluationResult.isAllowed)

theorem Agrees.verdict_eq {c : RequestStep} (h : Agrees c) {accepted : Bool}
    {async : Option Bool} (hverdict : verdict c = some (accepted, async)) :
    async = some accepted := by
  rw [verdict] at hverdict
  cases hout : c.out with
  | issued r r' =>
      rw [hout] at hverdict
      cases hverdict
  | evaluated r r' =>
      obtain ⟨a, rfl, ha⟩ := h r r' hout
      rw [hout] at hverdict
      obtain ⟨rfl, rfl⟩ := Prod.mk.inj (Option.some.inj hverdict)
      rw [← ha]
      rfl

namespace Sample

def start : TwoNonces := ⟨NonceEngine.new, ⟨Table.empty, OrderedMap.empty⟩⟩

theorem start_simulates : Simulates start := fun _ => .none

def requests (ttlSeconds after validationTtl : Int) : List NonceRequest :=
  [.issue ⟨⟨1709210096000000, "1"⟩, "0123456789abcdef"⟩ "mandate-1" "tx-1" ttlSeconds none,
    .validate ⟨1709210096000000 + after * 1000000, "2"⟩ "0123456789abcdef" "mandate-1" "tx-1"
      none validationTtl]

theorem requests_generate (ttlSeconds after validationTtl : Int) :
    ∀ c ∈ steps step start (requests ttlSeconds after validationTtl), Generates c := by
  intro c hc env m tx ttl at? hact
  rcases List.mem_cons.mp hc with rfl | hc
  · obtain ⟨rfl, -⟩ := NonceRequest.issue.inj hact
    exact ⟨rfl, by decide, by decide⟩
  · obtain rfl := List.mem_singleton.mp hc
    cases hact

end Sample

/-- The default lifetime throughout. -/
theorem validations_agree_iff_default :
    (∀ c ∈ steps step Sample.start (Sample.requests 300 100 300), Agrees c)
      ↔ ∀ c ∈ steps step Sample.start (Sample.requests 300 100 300), Served c.pre c.act :=
  validations_agree_iff Sample.start_simulates (Sample.requests 300 100 300)
    (Sample.requests_generate 300 100 300)

/-- A nonce of a minute is still accepted by the database after 100 seconds,
    and one of ten minutes makes it raise after 400. -/
theorem lifetimes_diverge :
    Simulates Sample.start
    ∧ (∀ ttl after validationTtl,
        ∀ c ∈ steps step Sample.start (Sample.requests ttl after validationTtl), Generates c)
    ∧ (steps step Sample.start (Sample.requests 60 100 300)).filterMap verdict
        = [(false, some true)]
    ∧ (steps step Sample.start (Sample.requests 600 400 600)).filterMap verdict
        = [(true, none)]
    ∧ (¬ ∀ c ∈ steps step Sample.start (Sample.requests 60 100 300), Agrees c)
    ∧ ¬ ∀ c ∈ steps step Sample.start (Sample.requests 600 400 600), Agrees c := by
  have hshort : (steps step Sample.start (Sample.requests 60 100 300)).filterMap verdict
      = [(false, some true)] := by
    decide +kernel
  have hlong : (steps step Sample.start (Sample.requests 600 400 600)).filterMap verdict
      = [(true, none)] := by
    decide +kernel
  refine ⟨Sample.start_simulates, Sample.requests_generate, hshort, hlong, ?_, ?_⟩
  · intro h
    obtain ⟨c, hc, hverdict⟩ := List.mem_filterMap.mp (hshort ▸ List.mem_singleton_self _)
    cases (h c hc).verdict_eq hverdict
  · intro h
    obtain ⟨c, hc, hverdict⟩ := List.mem_filterMap.mp (hlong ▸ List.mem_singleton_self _)
    cases (h c hc).verdict_eq hverdict

end TwoNonces

end MandateGateway
