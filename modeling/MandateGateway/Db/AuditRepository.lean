import MandateGateway.Db.ExecutionAttemptRepository
import MandateGateway.Db.TransactionRepository
import MandateGateway.Lib.Datetime
import MandateGateway.Lib.JsonRoundTrip

/-! # The audit ledger

    The append-only, hash-chained table of audit events, and the unit of work
    of the services that write it beside the tables of a payment execution.
    A statement that breaks a constraint rolls the session back and leaves it
    unusable. -/

namespace MandateGateway

open Clock Raising

inductive AuditEventType where
  | mandateCreated | merchantPolicyCreated | cartProposed | policyEvaluated
  | stepUpRequested | stepUpApproved | reservationCreated | toolBlocked
  | executionAuthorized | paymentStarted | paymentSuccess | paymentFailed
  | reservationReleased | nonceReplayBlocked | cartTamperBlocked | apiCredentialCreated
  | apiCredentialAuthenticated | apiCredentialAuthFailed | apiCredentialRevoked
  | authorizationDenied | tenantAccessDenied | scopeDenied
deriving DecidableEq, Repr

def AuditEventType.value : AuditEventType → String
  | .mandateCreated => "MANDATE_CREATED"
  | .merchantPolicyCreated => "MERCHANT_POLICY_CREATED"
  | .cartProposed => "CART_PROPOSED"
  | .policyEvaluated => "POLICY_EVALUATED"
  | .stepUpRequested => "STEP_UP_REQUESTED"
  | .stepUpApproved => "STEP_UP_APPROVED"
  | .reservationCreated => "RESERVATION_CREATED"
  | .toolBlocked => "TOOL_BLOCKED"
  | .executionAuthorized => "EXECUTION_AUTHORIZED"
  | .paymentStarted => "PAYMENT_STARTED"
  | .paymentSuccess => "PAYMENT_SUCCESS"
  | .paymentFailed => "PAYMENT_FAILED"
  | .reservationReleased => "RESERVATION_RELEASED"
  | .nonceReplayBlocked => "NONCE_REPLAY_BLOCKED"
  | .cartTamperBlocked => "CART_TAMPER_BLOCKED"
  | .apiCredentialCreated => "API_CREDENTIAL_CREATED"
  | .apiCredentialAuthenticated => "API_CREDENTIAL_AUTHENTICATED"
  | .apiCredentialAuthFailed => "API_CREDENTIAL_AUTH_FAILED"
  | .apiCredentialRevoked => "API_CREDENTIAL_REVOKED"
  | .authorizationDenied => "AUTHORIZATION_DENIED"
  | .tenantAccessDenied => "TENANT_ACCESS_DENIED"
  | .scopeDenied => "SCOPE_DENIED"

/-- A row of `audit_events`. -/
structure AuditEventRow where
  eventId        : String
  sequenceNumber : Nat
  eventType      : String
  transactionId  : Option String
  mandateId      : Option String
  merchantId     : Option String
  buyerId        : Option String
  payloadJson    : String
  previousHash   : String
  eventHash      : String
  timestamp      : Instant
deriving DecidableEq, Repr

/-- The events, of which no two share an identifier, a sequence number or a
    hash. -/
structure AuditLedger where
  rows          : List AuditEventRow
  nodupIds      : (rows.map AuditEventRow.eventId).Nodup
  nodupSequence : (rows.map AuditEventRow.sequenceNumber).Nodup
  nodupHashes   : (rows.map AuditEventRow.eventHash).Nodup

theorem nodup_map_concat {α β : Type} {f : α → β} {l : List α} {x : α}
    (h : (l.map f).Nodup) (hfree : f x ∉ l.map f) : ((l ++ [x]).map f).Nodup := by
  rw [List.map_append]
  exact List.nodup_append_comm.mp (List.nodup_cons.mpr ⟨hfree, h⟩)

namespace AuditLedger

def empty : AuditLedger := ⟨[], List.nodup_nil, List.nodup_nil, List.nodup_nil⟩

/-- One of the unique columns of the event is taken. -/
def Taken (ledger : AuditLedger) (e : AuditEventRow) : Prop :=
  e.eventId ∈ ledger.rows.map AuditEventRow.eventId
    ∨ e.sequenceNumber ∈ ledger.rows.map AuditEventRow.sequenceNumber
    ∨ e.eventHash ∈ ledger.rows.map AuditEventRow.eventHash

instance (ledger : AuditLedger) (e : AuditEventRow) : Decidable (ledger.Taken e) :=
  inferInstanceAs (Decidable (_ ∨ _ ∨ _))

/-- The ledger with one more event, unless a unique column of it is taken. -/
def insert (ledger : AuditLedger) (e : AuditEventRow) : Option AuditLedger :=
  if h : ledger.Taken e then none
  else some {
    rows := ledger.rows ++ [e]
    nodupIds := nodup_map_concat ledger.nodupIds fun hid => h (Or.inl hid)
    nodupSequence := nodup_map_concat ledger.nodupSequence fun hseq => h (Or.inr (Or.inl hseq))
    nodupHashes := nodup_map_concat ledger.nodupHashes fun hhash => h (Or.inr (Or.inr hhash)) }

/-- `order_by(sequence_number.desc()).limit(1)`. -/
def latestOf : List AuditEventRow → Option AuditEventRow
  | [] => none
  | e :: es =>
      match latestOf es with
      | none => some e
      | some l => if l.sequenceNumber < e.sequenceNumber then some e else some l

/-- `get_latest_event`. -/
def latest (ledger : AuditLedger) : Option AuditEventRow := latestOf ledger.rows

/-- 64 zeros. -/
def genesisHash : String := String.ofList (List.replicate 64 '0')

def nextSequence (ledger : AuditLedger) : Nat :=
  match ledger.latest with
  | none => 1
  | some l => l.sequenceNumber + 1

def headHash (ledger : AuditLedger) : String :=
  match ledger.latest with
  | none => genesisHash
  | some l => l.eventHash

end AuditLedger

/-- The arguments of `append_event`. -/
structure AuditEntry where
  eventType     : AuditEventType
  transactionId : Option String
  mandateId     : Option String
  merchantId    : Option String
  buyerId       : Option String
  payload       : Json

/-- What an append receives from the process: the time, the hash function, and
    the identifier, a fresh one or the caller's. -/
structure AuditEnv where
  now     : Instant
  sha256  : String → String
  eventId : String

def textOrNull (x : Option String) : Json := (x.map Json.str).getD .null

/-- `_compute_event_hash`; the members are sorted by name. -/
def computeEventHash (env : AuditEnv) (entry : AuditEntry) (previousHash : String) : String :=
  env.sha256 (Json.obj [
    ("buyer_id", textOrNull entry.buyerId),
    ("event_id", .str env.eventId),
    ("event_type", .str entry.eventType.value),
    ("mandate_id", textOrNull entry.mandateId),
    ("merchant_id", textOrNull entry.merchantId),
    ("payload", entry.payload),
    ("previous_hash", .str previousHash),
    ("timestamp", .str (isoformat env.now)),
    ("transaction_id", textOrNull entry.transactionId)]).compact

def auditEvent (env : AuditEnv) (entry : AuditEntry) (ledger : AuditLedger) : AuditEventRow where
  eventId := env.eventId
  sequenceNumber := ledger.nextSequence
  eventType := entry.eventType.value
  transactionId := entry.transactionId
  mandateId := entry.mandateId
  merchantId := entry.merchantId
  buyerId := entry.buyerId
  payloadJson := entry.payload.compact
  previousHash := ledger.headHash
  eventHash := computeEventHash env entry ledger.headHash
  timestamp := env.now

/-- A unit of work that also writes the ledger; `active` fails once a statement
    has broken a constraint. -/
structure AuditedUnitOfWork where
  rows            : UnitOfWork
  ledger          : AuditLedger
  committedLedger : AuditLedger
  active          : Bool

/-- A step of a service that writes the ledger. -/
abbrev AuditedAction (α : Type) : Type := Raising AuditedUnitOfWork PyError α

/-- A unit of work that has just begun. -/
def AuditedUnitOfWork.fresh (db : Database) (ledger : AuditLedger) : AuditedUnitOfWork :=
  ⟨⟨db, db⟩, ledger, ledger, true⟩

/-- The session after a statement that breaks a constraint. -/
def AuditedUnitOfWork.broken (u : AuditedUnitOfWork) : AuditedUnitOfWork where
  rows := u.rows.rollback
  ledger := u.committedLedger
  committedLedger := u.committedLedger
  active := false

/-- The unit of work whose session sees these rows. -/
def AuditedUnitOfWork.withSession (u : AuditedUnitOfWork) (db : Database) : AuditedUnitOfWork :=
  { u with rows := { u.rows with session := db } }

namespace AuditedAction

/-- A repository operation on the other tables. -/
def onRows {α : Type} (x : DbAction α) : AuditedAction α := fun u =>
  match (x u.rows).1 with
  | .error (.integrityError message) => (.error (.integrityError message), u.broken)
  | result => (result, { u with rows := (x u.rows).2 })

def appendEvent (env : AuditEnv) (entry : AuditEntry) : AuditedAction Unit := fun u =>
  match u.ledger.insert (auditEvent env entry u.ledger) with
  | some ledger => (.ok (), { u with ledger := ledger })
  | none =>
      (.error (.valueError (s!"Failed to append audit event {env.eventId} at sequence "
        ++ s!"{u.ledger.nextSequence}: integrity constraint violated.")), u.broken)

end AuditedAction

/-! ## When an append succeeds -/

namespace AuditLedger

theorem eq_nil_of_latestOf {es : List AuditEventRow} (h : latestOf es = none) : es = [] := by
  cases es with
  | nil => rfl
  | cons e es =>
      rw [latestOf] at h
      cases hrest : latestOf es with
      | none =>
          rw [hrest] at h
          cases h
      | some m =>
          rw [hrest] at h
          dsimp only at h
          by_cases hlt : m.sequenceNumber < e.sequenceNumber
          · rw [if_pos hlt] at h
            cases h
          · rw [if_neg hlt] at h
            cases h

theorem sequenceNumber_le_latestOf {es : List AuditEventRow} {l : AuditEventRow}
    (h : latestOf es = some l) : ∀ e ∈ es, e.sequenceNumber ≤ l.sequenceNumber := by
  induction es generalizing l with
  | nil => cases h
  | cons e es ih =>
      rw [latestOf] at h
      cases hrest : latestOf es with
      | none =>
          rw [hrest] at h
          obtain rfl := Option.some.inj h
          rw [eq_nil_of_latestOf hrest]
          intro e' he'
          rw [List.mem_singleton.mp he']
      | some m =>
          rw [hrest] at h
          dsimp only at h
          have hm := ih hrest
          by_cases hlt : m.sequenceNumber < e.sequenceNumber
          · rw [if_pos hlt] at h
            obtain rfl := Option.some.inj h
            intro e' he'
            rcases List.mem_cons.mp he' with rfl | hmem
            · exact Nat.le_refl _
            · have hle := hm e' hmem
              omega
          · rw [if_neg hlt] at h
            obtain rfl := Option.some.inj h
            intro e' he'
            rcases List.mem_cons.mp he' with rfl | hmem
            · omega
            · exact hm e' hmem

theorem nextSequence_free (ledger : AuditLedger) :
    ledger.nextSequence ∉ ledger.rows.map AuditEventRow.sequenceNumber := by
  intro hmem
  obtain ⟨e, he, hseq⟩ := List.mem_map.mp hmem
  rw [nextSequence] at hseq
  cases hlatest : ledger.latest with
  | none =>
      rw [eq_nil_of_latestOf hlatest] at he
      cases he
  | some l =>
      rw [hlatest] at hseq
      dsimp only at hseq
      have hle := sequenceNumber_le_latestOf hlatest e he
      omega

/-- The identifier and the hash of the next event are free. -/
def Accepts (ledger : AuditLedger) (env : AuditEnv) (entry : AuditEntry) : Prop :=
  env.eventId ∉ ledger.rows.map AuditEventRow.eventId
    ∧ computeEventHash env entry ledger.headHash
      ∉ ledger.rows.map AuditEventRow.eventHash

theorem accepts_iff_not_taken {ledger : AuditLedger} {env : AuditEnv} {entry : AuditEntry} :
    ledger.Accepts env entry ↔ ¬ ledger.Taken (auditEvent env entry ledger) := by
  constructor
  · rintro ⟨hid, hhash⟩ htaken
    rcases htaken with hid' | hseq | hhash'
    · exact hid hid'
    · exact ledger.nextSequence_free hseq
    · exact hhash hhash'
  · intro h
    exact ⟨fun hid => h (Or.inl hid), fun hhash => h (Or.inr (Or.inr hhash))⟩

end AuditLedger

namespace AuditedAction

variable {u : AuditedUnitOfWork} {env : AuditEnv} {entry : AuditEntry}

/-- **An event is appended when its identifier and its hash are free.** -/
theorem appendEvent_of_accepts (h : u.ledger.Accepts env entry) :
    ∃ ledger, appendEvent env entry u = (.ok (), { u with ledger := ledger })
      ∧ ledger.rows = u.ledger.rows ++ [auditEvent env entry u.ledger] := by
  have hfree := AuditLedger.accepts_iff_not_taken.mp h
  rw [appendEvent, AuditLedger.insert, dif_neg hfree]
  exact ⟨_, rfl, rfl⟩

/-- **Else the append raises, and the session is broken.** -/
theorem appendEvent_of_not_accepts (h : ¬ u.ledger.Accepts env entry) :
    ∃ err, appendEvent env entry u = (.error err, u.broken) := by
  have htaken : u.ledger.Taken (auditEvent env entry u.ledger) := by
    by_contra hfree
    exact h (AuditLedger.accepts_iff_not_taken.mpr hfree)
  rw [appendEvent, AuditLedger.insert, dif_pos htaken]
  exact ⟨_, rfl⟩

variable {α : Type} {x : DbAction α} {rows : UnitOfWork}

theorem onRows_of_ok {a : α} (h : x u.rows = (.ok a, rows)) :
    onRows x u = (.ok a, { u with rows := rows }) := by
  rw [onRows, h]

theorem onRows_of_session {a : α} {db : Database}
    (h : x u.rows = (.ok a, { u.rows with session := db })) :
    onRows x u = (.ok a, u.withSession db) :=
  onRows_of_ok h

theorem onRows_of_error {err : PyError} (h : x u.rows = (.error err, rows))
    (hkind : ∀ message, err ≠ .integrityError message) :
    onRows x u = (.error err, { u with rows := rows }) := by
  rw [onRows, h]
  cases err with
  | integrityError message => exact absurd rfl (hkind message)
  | _ => rfl

theorem onRows_getTransaction {t : String} {found : Option TransactionRow}
    (h : u.rows.session.transactions.get t = found) :
    onRows (TransactionRepository.getTransaction t) u = (.ok found, u) :=
  onRows_of_ok (TransactionRepository.getTransaction_of_eq h)

theorem onRows_of_integrityError {message : String}
    (h : x u.rows = (.error (.integrityError message), rows)) :
    onRows x u = (.error (.integrityError message), u.broken) := by
  rw [onRows, h]

/-! ## What a step leaves alone -/

/-- The action leaves alone what is committed.  Unless it raises and breaks the
    session, it also leaves alone this part of the rows that the session sees. -/
def Spares {β : Type} (part : Database → β) (x : AuditedAction α) : Prop :=
  ∀ u, (x u).2.rows.committed = u.rows.committed
    ∧ (part (x u).2.rows.session = part u.rows.session ∧ (x u).2.active = u.active
      ∨ (∃ err, (x u).1 = .error err) ∧ (x u).2.active = false)

section Spares

variable {β γ : Type} {part : Database → β}

theorem Spares.bind {y : AuditedAction α} {f : α → AuditedAction γ} (hy : Spares part y)
    (hf : ∀ a, Spares part (f a)) : Spares part (y >>= f) := by
  intro u
  obtain ⟨hcommitted, hspared⟩ := hy u
  cases hrun : y u with
  | mk r u' =>
      rw [hrun] at hcommitted hspared
      cases r with
      | error err =>
          rw [bind_of_error hrun]
          refine ⟨hcommitted, ?_⟩
          rcases hspared with hkept | ⟨-, hbroken⟩
          · exact Or.inl hkept
          · exact Or.inr ⟨⟨err, rfl⟩, hbroken⟩
      | ok a =>
          rw [bind_of_ok hrun]
          obtain ⟨hcommitted', hspared'⟩ := hf a u'
          refine ⟨hcommitted'.trans hcommitted, ?_⟩
          rcases hspared with ⟨hpart, hactive⟩ | ⟨⟨err, herr⟩, -⟩
          · rcases hspared' with ⟨hpart', hactive'⟩ | hbroken
            · exact Or.inl ⟨hpart'.trans hpart, hactive'.trans hactive⟩
            · exact Or.inr hbroken
          · cases herr

theorem Spares.pure (a : α) : Spares part (pure a : AuditedAction α) :=
  fun _ => ⟨rfl, Or.inl ⟨rfl, rfl⟩⟩

theorem Spares.ofExcept (r : Except PyError α) : Spares part (ofExcept r : AuditedAction α) :=
  fun _ => ⟨rfl, Or.inl ⟨rfl, rfl⟩⟩

theorem Spares.onRows (hcommitted : Fixes UnitOfWork.committed x)
    (hpart : ∀ uow, part (x uow).2.session = part uow.session
      ∨ ∃ message, (x uow).1 = .error (.integrityError message)) :
    Spares part (onRows x) := by
  intro u
  have hrows := hcommitted u.rows
  have hsession := hpart u.rows
  cases hrun : x u.rows with
  | mk r rows =>
      rw [hrun] at hrows hsession
      by_cases hbroken : ∃ message, r = .error (.integrityError message)
      · obtain ⟨message, rfl⟩ := hbroken
        rw [onRows_of_integrityError hrun]
        exact ⟨rfl, Or.inr ⟨⟨_, rfl⟩, rfl⟩⟩
      · have hkept : part rows.session = part u.rows.session := hsession.resolve_right hbroken
        cases r with
        | ok a =>
            rw [onRows_of_ok hrun]
            exact ⟨hrows, Or.inl ⟨hkept, rfl⟩⟩
        | error err =>
            have hkind (message : String) : err ≠ .integrityError message :=
              fun heq => hbroken ⟨message, congrArg Except.error heq⟩
            rw [onRows_of_error hrun hkind]
            exact ⟨hrows, Or.inl ⟨hkept, rfl⟩⟩

theorem Spares.appendEvent : Spares part (appendEvent env entry) := by
  intro u
  by_cases h : u.ledger.Accepts env entry
  · obtain ⟨ledger, happend, -⟩ := appendEvent_of_accepts h
    rw [happend]
    exact ⟨rfl, Or.inl ⟨rfl, rfl⟩⟩
  · obtain ⟨err, happend⟩ := appendEvent_of_not_accepts h
    rw [happend]
    exact ⟨rfl, Or.inr ⟨⟨err, rfl⟩, rfl⟩⟩

end Spares

section OtherRows

open TransactionRepository

variable {denv : DbEnv} {t t' : String}

theorem spares_transition (hne : t' ≠ t) (target : TransactionState) :
    Spares (fun db => db.transactions.get t') (onRows (transitionTransactionState denv t target)) :=
  Spares.onRows (transition_fixes_committed denv t target) fun uow =>
    Or.inl ((transition_sameBut denv t target uow).rows t' hne)

theorem spares_getTransaction :
    Spares (fun db => db.transactions.get t') (onRows (getTransaction t)) :=
  Spares.onRows (fun _ => rfl) fun _ => Or.inl rfl

end OtherRows

end AuditedAction

end MandateGateway

/-! ## Ledgers whose hashes are their events' own

    Where different texts have different digests, an event whose identifier is
    free has a hash that is free too, so such a ledger accepts it
    (`Genuine.accepts_iff`). -/

namespace MandateGateway

namespace AuditLedger

/-- Every stored hash is that of a record with the row's own identifier. -/
def Genuine (sha256 : String → String) (ledger : AuditLedger) : Prop :=
  ∀ row ∈ ledger.rows, ∃ now entry previousHash,
    row.eventHash = computeEventHash ⟨now, sha256, row.eventId⟩ entry previousHash

/-- The identifier is free. -/
def Free (ledger : AuditLedger) (eventId : String) : Prop :=
  eventId ∉ ledger.rows.map AuditEventRow.eventId

theorem genuine_empty (sha256 : String → String) : empty.Genuine sha256 :=
  fun _ hrow => absurd hrow List.not_mem_nil

variable {sha256 : String → String} {ledger ledger' : AuditLedger} {env : AuditEnv}
  {entry : AuditEntry}

/-- An append keeps a ledger genuine. -/
theorem Genuine.append (h : ledger.Genuine env.sha256)
    (hrows : ledger'.rows = ledger.rows ++ [auditEvent env entry ledger]) :
    ledger'.Genuine env.sha256 := by
  intro row hrow
  rw [hrows] at hrow
  rcases List.mem_append.mp hrow with hold | hnew
  · exact h row hold
  · rw [List.mem_singleton.mp hnew]
    exact ⟨env.now, entry, ledger.headHash, rfl⟩

theorem free_append_iff (hrows : ledger'.rows = ledger.rows ++ [auditEvent env entry ledger])
    {eventId : String} : ledger'.Free eventId ↔ ledger.Free eventId ∧ eventId ≠ env.eventId := by
  rw [Free, Free, hrows, List.map_append, List.mem_append, not_or]
  exact and_congr_right fun _ => not_congr List.mem_singleton

theorem eventId_of_hash_eq (hsha : Function.Injective sha256) {env env' : AuditEnv}
    {entry entry' : AuditEntry} {previous previous' : String} (henv : env.sha256 = sha256)
    (henv' : env'.sha256 = sha256)
    (h : computeEventHash env entry previous = computeEventHash env' entry' previous') :
    env.eventId = env'.eventId := by
  rw [computeEventHash, computeEventHash, henv, henv'] at h
  have hmembers := Json.obj.inj (Json.compact_injective (hsha h))
  have htail := (List.cons.inj hmembers).2
  exact Json.str.inj (Prod.mk.inj (List.cons.inj htail).1).2

/-- **A genuine ledger accepts an event exactly when its identifier is free.** -/
theorem Genuine.accepts_iff (hsha : Function.Injective sha256) (h : ledger.Genuine sha256)
    (henv : env.sha256 = sha256) : ledger.Accepts env entry ↔ ledger.Free env.eventId := by
  refine ⟨And.left, fun hfree => ⟨hfree, ?_⟩⟩
  intro hhash
  obtain ⟨row, hrow, hsame⟩ := List.mem_map.mp hhash
  obtain ⟨now, entry', previous, hown⟩ := h row hrow
  rw [hown] at hsame
  have hid : row.eventId = env.eventId := eventId_of_hash_eq hsha rfl henv hsame
  exact hfree (hid ▸ List.mem_map_of_mem hrow)

end AuditLedger

end MandateGateway
