import MandateGateway.Db.StepUpRepository
import MandateGateway.Lib.JsonRoundTrip

/-! # The step-up engine over the database

    The asynchronous operations of the engine.  A challenge's bindings are a
    JSON text in the `approver_metadata` column of its row, which the
    resolutions of the repository overwrite; what is read back from the column
    is of dynamic type. -/

namespace MandateGateway

open Clock Raising

/-- What leaves the asynchronous operations of the engine. -/
inductive StoreError where
  | raised (err : PyError)
  | jsonDecodeError
  | attributeError (message : String)
deriving DecidableEq, Repr

/-- A challenge as it is rebuilt from a row and its metadata. -/
structure StoredChallenge where
  challengeId   : String
  mandateId     : Json.Value
  transactionId : String
  cartHash      : Json.Value
  approvedPaise : Json.Value
  proposedPaise : Json.Value
  merchantId    : Json.Value
  status        : StepUpChallengeStatus
  createdAt     : Instant
  expiresAt     : Instant
  confirmedAt   : Option Instant
  confirmedBy   : Json.Value

/-- The tables, and the challenges that the engine keeps in memory. -/
structure AsyncStepUp where
  db    : StepUpTables
  cache : OrderedMap String StoredChallenge

/-- `StepUpChallengeStatus(text)`. -/
def StepUpChallengeStatus.ofValue (text : String) : Option StepUpChallengeStatus :=
  [pending, approved, rejected, expired].find? fun status => status.value == text

/-! ## Dynamic values -/

namespace Metadata

/-- `type(value).__name__`. -/
def typeName : Json.Value → String
  | .null => "NoneType"
  | .bool _ => "bool"
  | .int _ => "int"
  | .float _ => "float"
  | .str _ => "str"
  | .arr _ => "list"
  | .obj _ => "dict"

/-- `bool(value)`. -/
def truthy : Json.Value → Bool
  | .null => false
  | .bool b => b
  | .int i => i != 0
  | .float x => x != .finite 0
  | .str s => s != ""
  | .arr xs => !xs.isEmpty
  | .obj members => !members.isEmpty

/-- `value == text`. -/
def isText (v : Json.Value) (text : String) : Bool :=
  match v with
  | .str s => s == text
  | _ => false

/-- `json.loads(metadata) if metadata else {}`, on which `get` is called. -/
def load (metadata : Option String) : Except StoreError (List (String × Json.Value)) :=
  match metadata.filter (· != "") with
  | none => .ok []
  | some text =>
      match Json.decode text with
      | none => .error .jsonDecodeError
      | some (.obj members) => .ok members
      | some v => .error (.attributeError s!"'{typeName v}' object has no attribute 'get'")

/-- `members.get(key, default)`. -/
def get (members : List (String × Json.Value)) (key : String) (default : Json.Value) :
    Json.Value := (Json.Value.member members key).getD default

/-- The bindings that go into the column. -/
def bindings (mandateId cartHash : String) (approvedPaise proposedPaise : Int)
    (merchantId : String) : Json :=
  .obj [
    ("mandate_id", .str mandateId),
    ("cart_hash", .str cartHash),
    ("approved_paise", .int approvedPaise),
    ("proposed_paise", .int proposedPaise),
    ("merchant_id", .str merchantId)]

/-- A challenge rebuilt from a row and its metadata. -/
def challenge (row : StepUpChallengeRow) (members : List (String × Json.Value))
    (status : StepUpChallengeStatus) (confirmedAt : Option Instant) (confirmedBy : Json.Value) :
    StoredChallenge where
  challengeId := row.challengeId
  mandateId := get members "mandate_id" (.str "")
  transactionId := row.transactionId
  cartHash := get members "cart_hash" (.str "")
  approvedPaise := get members "approved_paise" (.int 0)
  proposedPaise := get members "proposed_paise" (.int 0)
  merchantId := get members "merchant_id" (.str "")
  status := status
  createdAt := row.createdAt
  expiresAt := row.expiresAt
  confirmedAt := confirmedAt
  confirmedBy := confirmedBy

end Metadata

namespace AsyncStepUp

abbrev Action (α : Type) : Type := Raising AsyncStepUp StoreError α

/-- An operation of the repository. -/
def onRepository {α : Type} (x : StepUpRepository.Action α) : Action α := fun s =>
  match x s.db with
  | (.ok a, db) => (.ok a, { s with db := db })
  | (.error err, db) => (.error (.raised err), { s with db := db })

/-- `self._challenges[cid] = record`. -/
def remember (cid : String) (record : StoredChallenge) : Action StoredChallenge := fun s =>
  (.ok record, { s with cache := s.cache.set cid record })

def raiseValueError {α : Type} (message : String) : Action α :=
  raise (.raised (.valueError message))

/-- `async_create_challenge`. -/
def createChallenge (env : StepUpDbEnv) (terms : ChallengeTerms) (at? : Option Instant) :
    Action StoredChallenge :=
  let createdTime := env.ambient.time at?
  match addSeconds createdTime terms.ttlSeconds with
  | none => raise (.raised .timestampOutOfRange)
  | some expiresTime => do
      let cid := StepUpEngine.newChallengeId env.ambient
      let metaJson := (Metadata.bindings (Text.strip terms.mandateId)
        (normalizedHash terms.cartHash) terms.approvedPaise terms.proposedPaise
        (Text.strip terms.merchantId)).dumps
      let row ← onRepository (StepUpRepository.createChallenge env cid
        (Text.strip terms.transactionId) "STEP_UP_REQUIRED" expiresTime .pending
        (some metaJson))
      remember cid {
        challengeId := row.challengeId
        mandateId := .str (Text.strip terms.mandateId)
        transactionId := row.transactionId
        cartHash := .str (normalizedHash terms.cartHash)
        approvedPaise := .int terms.approvedPaise
        proposedPaise := .int terms.proposedPaise
        merchantId := .str (Text.strip terms.merchantId)
        status := .pending
        createdAt := row.createdAt
        expiresAt := row.expiresAt
        confirmedAt := none
        confirmedBy := .null }

/-- `async_record_human_confirmation`: why the bindings refuse it.  Neither the
    amount nor the merchant is compared. -/
def confirmationRefusal (row : StepUpChallengeRow) (members : List (String × Json.Value))
    (c : TrustedConfirmation) : Option String :=
  let cid := Text.strip c.challengeId
  let recordedMandate := Metadata.get members "mandate_id" (.str "")
  let recordedCart := Metadata.get members "cart_hash" (.str "")
  if Metadata.truthy recordedMandate
      && !Metadata.isText recordedMandate (Text.strip c.mandateId) then
    some s!"Confirmation mandate_id mismatch for challenge {Text.quoted cid}."
  else if row.transactionId ≠ Text.strip c.transactionId then
    some s!"Confirmation transaction_id mismatch for challenge {Text.quoted cid}."
  else if Metadata.truthy recordedCart
      && !Metadata.isText recordedCart (normalizedHash c.cartHash) then
    some s!"Confirmation cart_hash mismatch for challenge {Text.quoted cid}."
  else none

/-- `async_record_human_confirmation`: the approval of a confirmation that the
    checks let pass. -/
def approveConfirmed (env : StepUpDbEnv) (members : List (String × Json.Value))
    (c : TrustedConfirmation) : Action StoredChallenge := do
  let cid := Text.strip c.challengeId
  let updated ← onRepository (StepUpRepository.approveChallenge env cid c.confirmedBy none none)
  let merchantId := Metadata.get members "merchant_id" (.str "")
  remember cid {
    challengeId := updated.challengeId
    mandateId := .str c.mandateId
    transactionId := updated.transactionId
    cartHash := .str c.cartHash
    approvedPaise := Metadata.get members "approved_paise" (.int 0)
    proposedPaise := Metadata.get members "proposed_paise" (.int 0)
    merchantId := if Metadata.truthy merchantId then merchantId else .str c.merchantId
    status := .approved
    createdAt := updated.createdAt
    expiresAt := updated.expiresAt
    confirmedAt := updated.approvedAt
    confirmedBy := .str c.confirmedBy }

/-- `async_record_human_confirmation`. -/
def recordHumanConfirmation (env : StepUpDbEnv) (c : TrustedConfirmation)
    (at? : Option Instant) : Action StoredChallenge := fun s =>
  let evalTime := env.ambient.time at?
  let cid := Text.strip c.challengeId
  match StepUpRepository.getChallenge cid s.db with
  | none => raiseValueError s!"Step-up challenge {Text.quoted cid} not found." s
  | some row =>
      if row.status ≠ StepUpChallengeStatus.pending.value then
        raiseValueError s!"Step-up challenge {Text.quoted cid} is already {row.status}." s
      else if row.expiresAt ≤ evalTime then
        (do let _ ← onRepository (StepUpRepository.rejectChallenge cid (some "Challenge expired"))
            raiseValueError s!"Step-up challenge {Text.quoted cid} has EXPIRED.") s
      else match Metadata.load row.approverMetadata with
      | .error err => raise err s
      | .ok members =>
          match confirmationRefusal row members c with
          | some message => raiseValueError message s
          | none => approveConfirmed env members c s

/-- `async_reject_challenge`.  The metadata is read after the rejection, which
    the session shows in the row that was looked up before it. -/
def rejectChallenge (env : StepUpDbEnv) (challengeId reason : String) (at? : Option Instant) :
    Action StoredChallenge := fun s =>
  let cid := Text.strip challengeId
  match StepUpRepository.getChallenge cid s.db with
  | none => raiseValueError s!"Step-up challenge {Text.quoted cid} not found." s
  | some _ =>
      (do let updated ← onRepository (StepUpRepository.rejectChallenge cid (some reason))
          let evalTime := env.ambient.time at?
          let members ← ofExcept (Metadata.load updated.approverMetadata)
          remember cid (Metadata.challenge updated members .rejected (some evalTime) .null)) s

/-- `async_get_challenge`. -/
def getChallenge (challengeId : String) (s : AsyncStepUp) :
    Except StoreError (Option StoredChallenge) :=
  let cid := Text.strip challengeId
  if cid = "" then .ok none
  else match StepUpRepository.getChallenge cid s.db with
  | none => .ok none
  | some row => do
      let members ← Metadata.load row.approverMetadata
      match StepUpChallengeStatus.ofValue row.status with
      | none => .error (.raised (.valueError
          s!"{Text.quoted row.status} is not a valid StepUpChallengeStatus"))
      | some status =>
          .ok (some (Metadata.challenge row members status row.approvedAt
            (Metadata.get members "confirmed_by" .null)))

/-- The operation in a unit of work, which keeps the session of an operation
    that raises or rolls it back. -/
def within {α : Type} (keeps : Bool) (x : Action α) : Action α := fun s =>
  match x s with
  | (.ok a, s') => (.ok a, s')
  | (.error err, s') => (.error err, if keeps then s' else { s' with db := s.db })

end AsyncStepUp

/-! ## Statuses and their texts -/

theorem StepUpChallengeStatus.ofValue_eq_some_iff {text : String}
    {status : StepUpChallengeStatus} : ofValue text = some status ↔ text = status.value := by
  constructor
  · intro h
    have hfound : (status.value == text) = true :=
      List.find?_some (p := fun st : StepUpChallengeStatus => st.value == text) h
    exact (beq_iff_eq.mp hfound).symm
  · rintro rfl
    cases status <;> rfl

theorem StepUpChallengeStatus.value_injective {a b : StepUpChallengeStatus}
    (h : a.value = b.value) : a = b := by
  revert h
  cases a <;> cases b <;> decide

/-! ## Operations of the repository -/

namespace AsyncStepUp

theorem onRepository_eq_ok_iff {α : Type} {x : StepUpRepository.Action α} {s s' : AsyncStepUp}
    {a : α} :
    onRepository x s = (.ok a, s') ↔ ∃ db, x s.db = (.ok a, db) ∧ s' = { s with db := db } := by
  rw [onRepository]
  cases hx : x s.db with
  | mk r db =>
      cases r with
      | ok b =>
          constructor
          · intro h
            obtain ⟨hb, rfl⟩ := Prod.mk.inj h
            obtain rfl := Except.ok.inj hb
            exact ⟨db, rfl, rfl⟩
          · rintro ⟨db', h, rfl⟩
            obtain ⟨hb, rfl⟩ := Prod.mk.inj h
            obtain rfl := Except.ok.inj hb
            rfl
      | error err =>
          constructor
          · intro h
            cases (Prod.mk.inj h).1
          · rintro ⟨db', h, -⟩
            cases (Prod.mk.inj h).1

theorem within_error {α : Type} {keeps : Bool} {x : Action α} {s s' : AsyncStepUp}
    {err : StoreError} (h : x s = (.error err, s')) :
    within keeps x s = (.error err, if keeps then s' else { s' with db := s.db }) := by
  rw [within, h]

theorem within_error_same {α : Type} {keeps : Bool} {x : Action α} {s : AsyncStepUp}
    {err : StoreError} (h : x s = (.error err, s)) : within keeps x s = (.error err, s) := by
  rw [within_error h]
  cases keeps <;> rfl

theorem within_ok {α : Type} {keeps : Bool} {x : Action α} {s s' : AsyncStepUp} {a : α}
    (h : x s = (.ok a, s')) : within keeps x s = (.ok a, s') := by
  rw [within, h]

def createdRow (env : StepUpDbEnv) (terms : ChallengeTerms) (expiresAt : Instant) :
    StepUpChallengeRow where
  challengeId := StepUpEngine.newChallengeId env.ambient
  transactionId := Text.strip terms.transactionId
  status := StepUpChallengeStatus.pending.value
  riskClassification := "STEP_UP_REQUIRED"
  createdAt := env.repositoryNow
  expiresAt := expiresAt
  approvedAt := none
  approverMetadata := some (Metadata.bindings (Text.strip terms.mandateId)
    (normalizedHash terms.cartHash) terms.approvedPaise terms.proposedPaise
    (Text.strip terms.merchantId)).dumps

theorem createChallenge_stored {env : StepUpDbEnv} {terms : ChallengeTerms} {at? : Option Instant}
    {s s' : AsyncStepUp} {r : StoredChallenge}
    (h : createChallenge env terms at? s = (.ok r, s')) :
    ∃ expires, addSeconds (env.ambient.time at?) terms.ttlSeconds = some expires
      ∧ StepUpRepository.getChallenge (StepUpEngine.newChallengeId env.ambient) s'.db
        = some (createdRow env terms expires) := by
  rw [createChallenge] at h
  cases hexpires : addSeconds (env.ambient.time at?) terms.ttlSeconds with
  | none =>
      simp only [hexpires] at h
      cases (Prod.mk.inj h).1
  | some expires =>
      simp only [hexpires] at h
      obtain ⟨row, s₁, hinsert, hremember⟩ := bind_eq_ok_iff.mp h
      obtain ⟨-, rfl⟩ := Prod.mk.inj hremember
      obtain ⟨db, hdb, rfl⟩ := onRepository_eq_ok_iff.mp hinsert
      obtain ⟨rfl, hstored⟩ := StepUpRepository.createChallenge_ok hdb
      exact ⟨expires, rfl, hstored⟩

end AsyncStepUp

/-! ## The column of the bindings -/

namespace Metadata

variable (mandateId cartHash : String) (approvedPaise proposedPaise : Int) (merchantId : String)

theorem dumps_ne_empty (j : Json) : j.dumps ≠ "" := by
  intro h
  have hlist := congrArg String.toList h
  rw [Json.dumps, String.toList_ofList] at hlist
  have hpos : 0 < (Json.render [' '] j).length := Json.length_render_pos j
  rw [hlist] at hpos
  exact absurd hpos (by decide)

/-- **The bindings of a challenge are read back from its column.** -/
theorem load_bindings :
    load (some (bindings mandateId cartHash approvedPaise proposedPaise merchantId).dumps)
      = .ok [("mandate_id", .str mandateId), ("cart_hash", .str cartHash),
          ("approved_paise", .int approvedPaise), ("proposed_paise", .int proposedPaise),
          ("merchant_id", .str merchantId)] := by
  have hdecode := Json.decode_dumps
    (bindings mandateId cartHash approvedPaise proposedPaise merchantId)
  have hne := dumps_ne_empty (bindings mandateId cartHash approvedPaise proposedPaise merchantId)
  rw [load, Option.filter_some, if_pos (bne_iff_ne.mpr hne)]
  simp only [hdecode]
  rfl

end Metadata

/-! ## A challenge in the tables -/

namespace AsyncStepUp.Sample

def terms : ChallengeTerms where
  mandateId := "mandate-1"
  transactionId := "tx-1"
  cartHash := "ab12"
  approvedPaise := 10000
  proposedPaise := 10500
  merchantId := "merchant-1"
  ttlSeconds := 300

def env : StepUpDbEnv := ⟨⟨1709210096000000, "1"⟩, 1709210096000100, "violation"⟩

def start : AsyncStepUp := ⟨⟨["tx-1"], Table.empty⟩, OrderedMap.empty⟩

def created : AsyncStepUp := (createChallenge env terms none start).2

theorem created_eq : ∃ r, createChallenge env terms none start = (.ok r, created) := ⟨_, rfl⟩

end AsyncStepUp.Sample

end MandateGateway
