import MandateGateway.Db.Session
import MandateGateway.Lib.Exceptions
import MandateGateway.Lib.JsonDecode

/-! # Execution attempts and the outbox

    The claim that an execution makes before it calls the provider, the record
    of its outcome, and the events it leaves for later delivery. -/

namespace MandateGateway

open Exceptions Raising

namespace ExecutionAttemptRepository

def attemptsByKey (merchantId idempotencyKey : String) (db : Database) :
    List ExecutionAttemptRow :=
  db.executionAttempts.select fun a =>
    a.merchantId == Text.strip merchantId && a.idempotencyKey == Text.strip idempotencyKey

def getAttemptByKey (merchantId idempotencyKey : String) :
    DbAction (Option ExecutionAttemptRow) := do
  let found ← DbAction.query (attemptsByKey merchantId idempotencyKey)
  ofExcept (scalarOneOrNone found)

/-- What a claim is made with. -/
structure AttemptClaim where
  transactionId      : String
  merchantId         : String
  idempotencyKey     : String
  payloadFingerprint : String
deriving DecidableEq, Repr

/-- The claim without surrounding whitespace. -/
def AttemptClaim.clean (c : AttemptClaim) : AttemptClaim where
  transactionId := Text.strip c.transactionId
  merchantId := Text.strip c.merchantId
  idempotencyKey := Text.strip c.idempotencyKey
  payloadFingerprint := Text.strip c.payloadFingerprint

/-- The identifiers of a claim must not be blank. -/
def AttemptClaim.check (c : AttemptClaim) : Except PyError Unit :=
  if c.clean.transactionId = "" then
    .error (.valueError "Transaction ID cannot be empty.")
  else if c.clean.merchantId = "" then
    .error (.valueError "Merchant ID cannot be empty.")
  else if c.clean.idempotencyKey = "" then
    .error (.valueError "Idempotency key cannot be empty.")
  else .ok ()

/-- An attempt found under the key must be of the same transaction and payload. -/
def AttemptClaim.checkExisting (c : AttemptClaim) (existing : ExecutionAttemptRow) :
    Except PyError Unit :=
  if existing.transactionId ≠ c.transactionId then
    .error (.valueError
      (s!"Idempotency key context mismatch: key {Text.quoted c.idempotencyKey} "
        ++ s!"bound to transaction '{existing.transactionId}', "
        ++ s!"attempted for transaction '{c.transactionId}'."))
  else if existing.payloadFingerprint ≠ c.payloadFingerprint then
    .error (.valueError
      (s!"Idempotency key payload tamper detected: key {Text.quoted c.idempotencyKey} "
        ++ s!"bound to fingerprint '{existing.payloadFingerprint.take 16}...', "
        ++ s!"attempted with '{c.payloadFingerprint.take 16}...'."))
  else .ok ()

def AttemptClaim.newAttempt (env : DbEnv) (c : AttemptClaim) : ExecutionAttemptRow where
  attemptId := s!"attempt_{c.transactionId}_{env.attemptToken}"
  transactionId := c.transactionId
  merchantId := c.merchantId
  idempotencyKey := c.idempotencyKey
  payloadFingerprint := c.payloadFingerprint
  status := "CLAIMED"
  providerReference := none
  createdAt := env.now
  completedAt := none

/-- After a broken constraint and the rollback: the attempt that is committed
    under the key, whose payload is not compared. -/
def recoverAttempt (env : DbEnv) (c : AttemptClaim) : DbAction (ExecutionAttemptRow × Bool) := do
  match ← getAttemptByKey c.merchantId c.idempotencyKey with
  | some dup =>
      if dup.transactionId ≠ c.transactionId then
        raise (.valueError
          (s!"Idempotency key context mismatch: key {Text.quoted c.idempotencyKey} "
            ++ s!"bound to transaction '{dup.transactionId}'."))
      else pure (dup, true)
  | none =>
      raise (.valueError
        s!"Execution attempt claim failed due to database constraint: {env.constraintText}")

/-- Insert the new attempt, or roll back and recover. -/
def insertAttempt (env : DbEnv) (c : AttemptClaim) : DbAction (ExecutionAttemptRow × Bool) :=
  fun uow =>
    match uow.session.executionAttempts.insert (c.newAttempt env) with
    | some attempts =>
        (.ok (c.newAttempt env, false),
          { uow with session := { uow.session with executionAttempts := attempts } })
    | none => recoverAttempt env c uow.rollback

/-- `claim_attempt`: the attempt that owns the execution, and whether it was
    there before. -/
def claimAttempt (env : DbEnv) (c : AttemptClaim) : DbAction (ExecutionAttemptRow × Bool) := do
  ofExcept c.check
  match ← getAttemptByKey c.clean.merchantId c.clean.idempotencyKey with
  | some existing =>
      ofExcept (c.clean.checkExisting existing)
      pure (existing, true)
  | none => insertAttempt env c.clean

def recordOutcome (env : DbEnv) (attemptId status : String) (providerReference : Option String) :
    DbAction Unit := do
  match ← DbAction.query fun db => db.executionAttempts.get (Text.strip attemptId) with
  | none => raise (.valueError s!"Execution attempt '{attemptId}' not found.")
  | some _ =>
      DbAction.write fun db =>
        { db with
          executionAttempts := db.executionAttempts.modify (Text.strip attemptId)
            (fun a => { a with
              status := status
              providerReference :=
                match providerReference with
                | some ref => if ref = "" then a.providerReference else some ref
                | none => a.providerReference
              completedAt := some env.now })
            fun _ => rfl }

/-! ## When a claim is granted -/

/-- How a cleaned claim is granted: by the one attempt under its key, by a new
    attempt, or, when the new attempt's identifier is taken, by the one attempt
    that is committed under the key. -/
inductive AttemptClaim.Grants (env : DbEnv) (c : AttemptClaim) (uow : UnitOfWork) :
    ExecutionAttemptRow → Bool → UnitOfWork → Prop where
  | existing {a : ExecutionAttemptRow}
      (hfound : attemptsByKey c.merchantId c.idempotencyKey uow.session = [a])
      (htransaction : a.transactionId = c.transactionId)
      (hpayload : a.payloadFingerprint = c.payloadFingerprint) : Grants env c uow a true uow
  | new (hfree : attemptsByKey c.merchantId c.idempotencyKey uow.session = [])
      {attempts : Table ExecutionAttemptRow.attemptId}
      (hinsert : uow.session.executionAttempts.insert (c.newAttempt env) = some attempts) :
      Grants env c uow (c.newAttempt env) false
        { uow with session := { uow.session with executionAttempts := attempts } }
  | recovered (hfree : attemptsByKey c.merchantId c.idempotencyKey uow.session = [])
      (htaken : uow.session.executionAttempts.insert (c.newAttempt env) = none)
      {a : ExecutionAttemptRow}
      (hfound : attemptsByKey c.merchantId c.idempotencyKey uow.committed = [a])
      (htransaction : a.transactionId = c.transactionId) : Grants env c uow a true uow.rollback

theorem getAttemptByKey_eq_ok_iff {merchantId key : String} {uow uow' : UnitOfWork}
    {found : Option ExecutionAttemptRow} :
    getAttemptByKey merchantId key uow = (.ok found, uow')
      ↔ scalarOneOrNone (attemptsByKey merchantId key uow.session) = .ok found ∧ uow' = uow := by
  have hread : getAttemptByKey merchantId key uow
      = (scalarOneOrNone (attemptsByKey merchantId key uow.session), uow) := rfl
  rw [hread, Prod.mk.injEq]
  exact ⟨fun h => ⟨h.1, h.2.symm⟩, fun h => ⟨h.1, h.2.symm⟩⟩

theorem checkExisting_eq_ok_iff {c : AttemptClaim} {a : ExecutionAttemptRow} :
    c.checkExisting a = .ok ()
      ↔ a.transactionId = c.transactionId ∧ a.payloadFingerprint = c.payloadFingerprint := by
  rw [AttemptClaim.checkExisting, guard_eq_ok_iff, guard_eq_ok_iff, not_not, not_not]
  exact ⟨fun h => ⟨h.1, h.2.1⟩, fun h => ⟨h.1, h.2, rfl⟩⟩

theorem recoverAttempt_eq_ok_iff {env : DbEnv} {c : AttemptClaim} {uow uow' : UnitOfWork}
    {granted : ExecutionAttemptRow × Bool} :
    recoverAttempt env c uow = (.ok granted, uow')
      ↔ ∃ a, attemptsByKey c.merchantId c.idempotencyKey uow.session = [a]
        ∧ a.transactionId = c.transactionId ∧ granted = (a, true) ∧ uow' = uow := by
  rw [recoverAttempt, bind_eq_ok_iff]
  constructor
  · rintro ⟨found, uow₁, hget, hrest⟩
    obtain ⟨hfound, rfl⟩ := getAttemptByKey_eq_ok_iff.mp hget
    cases found with
    | none => exact nomatch (Prod.mk.inj hrest).1
    | some a =>
        dsimp only at hrest
        by_cases htx : a.transactionId ≠ c.transactionId
        · rw [if_pos htx] at hrest
          exact nomatch (Prod.mk.inj hrest).1
        · rw [if_neg htx] at hrest
          obtain ⟨hgranted, rfl⟩ := Prod.mk.inj hrest
          exact ⟨a, scalarOneOrNone_eq_some_iff.mp hfound, not_not.mp htx,
            (Except.ok.inj hgranted).symm, rfl⟩
  · rintro ⟨a, hfound, htx, rfl, rfl⟩
    refine ⟨some a, uow', getAttemptByKey_eq_ok_iff.mpr
      ⟨scalarOneOrNone_eq_some_iff.mpr hfound, rfl⟩, ?_⟩
    dsimp only
    rw [if_neg (not_not_intro htx)]
    rfl

theorem insertAttempt_eq_ok_iff {env : DbEnv} {c : AttemptClaim} {uow uow' : UnitOfWork}
    {a : ExecutionAttemptRow} {isExisting : Bool}
    (hfree : attemptsByKey c.merchantId c.idempotencyKey uow.session = []) :
    insertAttempt env c uow = (.ok (a, isExisting), uow') ↔ c.Grants env uow a isExisting uow' := by
  rw [insertAttempt]
  cases hinsert : uow.session.executionAttempts.insert (c.newAttempt env) with
  | some attempts =>
      constructor
      · intro h
        obtain ⟨hgranted, rfl⟩ := Prod.mk.inj h
        obtain ⟨rfl, rfl⟩ := Prod.mk.inj (Except.ok.inj hgranted)
        exact .new hfree hinsert
      · intro h
        cases h with
        | existing hfound _ _ =>
            rw [hfree] at hfound
            cases hfound
        | new _ hinsert' =>
            obtain rfl := Option.some.inj (hinsert.symm.trans hinsert')
            rfl
        | recovered _ htaken _ _ =>
            rw [hinsert] at htaken
            cases htaken
  | none =>
      dsimp only
      rw [recoverAttempt_eq_ok_iff]
      constructor
      · rintro ⟨a', hfound, htx, hgranted, rfl⟩
        obtain ⟨rfl, rfl⟩ := Prod.mk.inj hgranted
        exact .recovered hfree hinsert hfound htx
      · intro h
        cases h with
        | existing hfound _ _ =>
            rw [hfree] at hfound
            cases hfound
        | new _ hinsert' =>
            rw [hinsert] at hinsert'
            cases hinsert'
        | recovered _ _ hfound htx => exact ⟨a, hfound, htx, rfl, rfl⟩

/-- **A claim is granted exactly in these ways.** -/
theorem claimAttempt_eq_ok_iff {env : DbEnv} {c : AttemptClaim} {uow uow' : UnitOfWork}
    {a : ExecutionAttemptRow} {isExisting : Bool} :
    claimAttempt env c uow = (.ok (a, isExisting), uow')
      ↔ c.check = .ok () ∧ c.clean.Grants env uow a isExisting uow' := by
  rw [claimAttempt, bind_eq_ok_iff]
  constructor
  · rintro ⟨u, uow₁, hcheck, hrest⟩
    obtain ⟨hok, rfl⟩ := ofExcept_eq_ok_iff.mp hcheck
    refine ⟨hok, ?_⟩
    obtain ⟨found, uow₂, hget, hgrant⟩ := bind_eq_ok_iff.mp hrest
    obtain ⟨hfound, rfl⟩ := getAttemptByKey_eq_ok_iff.mp hget
    cases found with
    | some e =>
        -- an attempt under the key is granted if it is of the same transaction and payload
        obtain ⟨u', uow₃, hexisting, hpure⟩ := bind_eq_ok_iff.mp hgrant
        obtain ⟨hok', rfl⟩ := ofExcept_eq_ok_iff.mp hexisting
        obtain ⟨hgranted, rfl⟩ := Prod.mk.inj hpure
        obtain ⟨rfl, rfl⟩ := Prod.mk.inj (Except.ok.inj hgranted)
        obtain ⟨htx, hpayload⟩ := checkExisting_eq_ok_iff.mp hok'
        exact .existing (scalarOneOrNone_eq_some_iff.mp hfound) htx hpayload
    | none =>
        exact (insertAttempt_eq_ok_iff (scalarOneOrNone_eq_none_iff.mp hfound)).mp hgrant
  · rintro ⟨hcheck, hgrants⟩
    refine ⟨(), uow, ofExcept_eq_ok_iff.mpr ⟨hcheck, rfl⟩, bind_eq_ok_iff.mpr ?_⟩
    cases hgrants with
    | existing hfound htx hpayload =>
        have hsame := checkExisting_eq_ok_iff.mpr ⟨htx, hpayload⟩
        exact ⟨some a, uow, getAttemptByKey_eq_ok_iff.mpr
          ⟨scalarOneOrNone_eq_some_iff.mpr hfound, rfl⟩,
          bind_eq_ok_iff.mpr ⟨(), uow, ofExcept_eq_ok_iff.mpr ⟨hsame, rfl⟩, rfl⟩⟩
    | new hfree hinsert =>
        exact ⟨none, uow, getAttemptByKey_eq_ok_iff.mpr
          ⟨scalarOneOrNone_eq_none_iff.mpr hfree, rfl⟩,
          (insertAttempt_eq_ok_iff hfree).mpr (.new hfree hinsert)⟩
    | recovered hfree htaken hfound htx =>
        exact ⟨none, uow, getAttemptByKey_eq_ok_iff.mpr
          ⟨scalarOneOrNone_eq_none_iff.mpr hfree, rfl⟩,
          (insertAttempt_eq_ok_iff hfree).mpr (.recovered hfree htaken hfound htx)⟩

theorem mem_of_attemptsByKey {merchantId key : String} {db : Database}
    {a : ExecutionAttemptRow} (h : attemptsByKey merchantId key db = [a]) :
    a ∈ db.executionAttempts.rows := by
  have hmem : a ∈ attemptsByKey merchantId key db := by
    rw [h]
    exact List.mem_singleton_self a
  exact List.mem_of_mem_filter hmem

theorem recordOutcome_transactions {env : DbEnv} {attemptId status : String}
    {ref : Option String} {uow uow' : UnitOfWork} {u : Unit}
    (h : recordOutcome env attemptId status ref uow = (.ok u, uow')) :
    uow'.session.transactions = uow.session.transactions := by
  rw [recordOutcome] at h
  obtain ⟨found, uow₁, hread, hrest⟩ := bind_eq_ok_iff.mp h
  obtain ⟨-, rfl⟩ := Prod.mk.inj hread
  cases found with
  | none => exact nomatch (Prod.mk.inj hrest).1
  | some a =>
      obtain ⟨-, rfl⟩ := Prod.mk.inj hrest
      rfl

/-- The database after the record of an attempt's outcome. -/
def finished (env : DbEnv) (attemptId status : String) (ref : Option String) (db : Database) :
    Database :=
  { db with
    executionAttempts := db.executionAttempts.modify (Text.strip attemptId)
      (fun a => { a with
        status := status
        providerReference :=
          match ref with
          | some r => if r = "" then a.providerReference else some r
          | none => a.providerReference
        completedAt := some env.now })
      fun _ => rfl }

/-- **The outcome of a stored attempt is recorded.** -/
theorem recordOutcome_of_get {env : DbEnv} {attemptId status : String} {ref : Option String}
    {uow : UnitOfWork} {a : ExecutionAttemptRow}
    (h : uow.session.executionAttempts.get (Text.strip attemptId) = some a) :
    recordOutcome env attemptId status ref uow
      = (.ok (), { uow with session := finished env attemptId status ref uow.session }) := by
  have hread : DbAction.query (fun db => db.executionAttempts.get (Text.strip attemptId)) uow
      = (.ok (some a), uow) := by
    rw [← h]
    rfl
  rw [recordOutcome, bind_of_ok hread]
  rfl

theorem recordOutcome_of_missing {env : DbEnv} {attemptId status : String}
    {ref : Option String} {uow : UnitOfWork}
    (h : uow.session.executionAttempts.get (Text.strip attemptId) = none) :
    recordOutcome env attemptId status ref uow
      = (.error (.valueError s!"Execution attempt '{attemptId}' not found."), uow) := by
  have hread : DbAction.query (fun db => db.executionAttempts.get (Text.strip attemptId)) uow
      = (.ok none, uow) := by
    rw [← h]
    rfl
  rw [recordOutcome, bind_of_ok hread]
  rfl

end ExecutionAttemptRepository

/-- The outbox event that `create_event` stores. -/
def outboxEvent (env : DbEnv) (eventType aggregateType aggregateId : String) (payload : Json) :
    OutboxEventRow where
  outboxId := s!"outbox_{env.eventToken}"
  eventType := eventType
  aggregateType := aggregateType
  aggregateId := aggregateId
  payloadJson := payload.compact
  status := "PENDING"
  createdAt := env.now
  dispatchedAt := none

/-- `OutboxRepository.create_event`. -/
def createEvent (env : DbEnv) (eventType aggregateType aggregateId : String) (payload : Json) :
    DbAction Unit :=
  DbAction.insertOrRaise env fun db =>
    (db.outboxEvents.insert {
      outboxId := s!"outbox_{env.eventToken}"
      eventType := eventType
      aggregateType := aggregateType
      aggregateId := aggregateId
      payloadJson := payload.compact
      status := "PENDING"
      createdAt := env.now
      dispatchedAt := none }).map fun events => { db with outboxEvents := events }

theorem createEvent_transactions {env : DbEnv} {eventType aggregateType aggregateId : String}
    {payload : Json} {uow uow' : UnitOfWork} {u : Unit}
    (h : createEvent env eventType aggregateType aggregateId payload uow = (.ok u, uow')) :
    uow'.session.transactions = uow.session.transactions := by
  rw [createEvent, DbAction.insertOrRaise] at h
  cases hinsert : uow.session.outboxEvents.insert {
      outboxId := s!"outbox_{env.eventToken}"
      eventType := eventType
      aggregateType := aggregateType
      aggregateId := aggregateId
      payloadJson := payload.compact
      status := "PENDING"
      createdAt := env.now
      dispatchedAt := none } with
  | none =>
      rw [hinsert] at h
      exact nomatch (Prod.mk.inj h).1
  | some events =>
      rw [hinsert] at h
      obtain ⟨-, rfl⟩ := Prod.mk.inj h
      rfl

/-- **An event is stored when its identifier is free, and else the session is
    rolled back.** -/
theorem createEvent_eq (env : DbEnv) (eventType aggregateType aggregateId : String)
    (payload : Json) (uow : UnitOfWork) :
    createEvent env eventType aggregateType aggregateId payload uow
      = match uow.session.outboxEvents.insert
          (outboxEvent env eventType aggregateType aggregateId payload) with
        | some events =>
            (.ok (), { uow with session := { uow.session with outboxEvents := events } })
        | none => (.error (.integrityError env.constraintText), uow.rollback) := by
  cases hinsert : uow.session.outboxEvents.insert
      (outboxEvent env eventType aggregateType aggregateId payload) with
  | none =>
      rw [outboxEvent] at hinsert
      rw [createEvent, DbAction.insertOrRaise, hinsert]
      rfl
  | some events =>
      rw [outboxEvent] at hinsert
      rw [createEvent, DbAction.insertOrRaise, hinsert]
      rfl

/-- The identifier of the next event is free. -/
def OutboxFree (env : DbEnv) (db : Database) : Prop :=
  s!"outbox_{env.eventToken}" ∉ db.outboxEvents.rows.map OutboxEventRow.outboxId

variable {env : DbEnv} {eventType aggregateType aggregateId : String} {payload : Json}
  {uow : UnitOfWork}

theorem createEvent_of_free (h : OutboxFree env uow.session) :
    ∃ events, createEvent env eventType aggregateType aggregateId payload uow
        = (.ok (), { uow with session := { uow.session with outboxEvents := events } })
      ∧ events.rows = uow.session.outboxEvents.rows
        ++ [outboxEvent env eventType aggregateType aggregateId payload] := by
  rw [createEvent_eq]
  cases hinsert : uow.session.outboxEvents.insert
      (outboxEvent env eventType aggregateType aggregateId payload) with
  | none => exact absurd (Table.insert_eq_none_iff.mp hinsert) h
  | some events => exact ⟨events, rfl, Table.rows_of_insert hinsert⟩

theorem createEvent_of_taken (h : ¬ OutboxFree env uow.session) :
    createEvent env eventType aggregateType aggregateId payload uow
      = (.error (.integrityError env.constraintText), uow.rollback) := by
  have hnone : uow.session.outboxEvents.insert
      (outboxEvent env eventType aggregateType aggregateId payload) = none :=
    Table.insert_eq_none_iff.mpr (not_not.mp h)
  rw [createEvent_eq, hnone]

end MandateGateway
