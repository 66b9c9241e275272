import MandateGateway.Db.AuditRepository
import MandateGateway.Lib.RaisingLoop
import MandateGateway.Lib.UniqueRows
import MandateGateway.Security.Identity

/-! # The credential repository

    The table of API credentials, beside the audit ledger that authentication
    writes.  An identifier is given once; a prefix is looked up by, and nothing
    keeps two rows from sharing it.

    What happens to a row later leaves what it was created with
    (`ApiCredentialRow.asCreated`) alone. -/

namespace MandateGateway

open Clock Text

inductive CredentialStatus where
  | active | revoked | expired
deriving DecidableEq

def CredentialStatus.value : CredentialStatus → String
  | .active => "ACTIVE"
  | .revoked => "REVOKED"
  | .expired => "EXPIRED"

/-- A `datetime` without an offset, as the clock on the wall, or with one. -/
inductive ExpiryTime where
  | naive (wall : Instant)
  | aware (instant : Instant)
deriving DecidableEq

/-- A naive one is read in UTC. -/
def ExpiryTime.inUtc : ExpiryTime → Instant
  | .naive wall => wall
  | .aware instant => instant

/-- A row of `api_credentials`. -/
structure ApiCredentialRow where
  credentialId         : String
  merchantId           : String
  credentialPrefix     : String
  credentialSecretHash : String
  status               : CredentialStatus
  scopes               : String
  createdAt            : Instant
  expiresAt            : Option ExpiryTime
  revokedAt            : Option Instant
  lastUsedAt           : Option Instant
deriving DecidableEq

namespace ApiCredentialRow

/-- `exp_at < now`, where there is an expiry. -/
def Past (now : Instant) (cred : ApiCredentialRow) : Prop :=
  ∃ expiry ∈ cred.expiresAt, expiry.inUtc < now

instance (now : Instant) (cred : ApiCredentialRow) : Decidable (cred.Past now) :=
  inferInstanceAs (Decidable (∃ expiry ∈ cred.expiresAt, expiry.inUtc < now))

/-- The row without what happened to it. -/
def asCreated (cred : ApiCredentialRow) : ApiCredentialRow :=
  { cred with status := .active, revokedAt := none, lastUsedAt := none }

end ApiCredentialRow

/-- The two tables that authentication reads and writes. -/
structure CredentialStore where
  credentials : Table ApiCredentialRow.credentialId
  ledger      : AuditLedger

/-- What a session sees, and what is committed. -/
structure CredentialUow where
  session   : CredentialStore
  committed : CredentialStore

/-- `HTTPException`, and what else a call raises. -/
inductive ApiError where
  | httpException (statusCode : Nat) (detail : String) (headers : List (String × String))
  | raised (err : PyError)
  | indexError
deriving DecidableEq

abbrev CredentialAction (α : Type) : Type := Raising CredentialUow ApiError α

namespace CredentialUow

def rollback (u : CredentialUow) : CredentialUow := ⟨u.committed, u.committed⟩

def commit (u : CredentialUow) : CredentialUow := ⟨u.session, u.session⟩

def write (f : CredentialStore → CredentialStore) (u : CredentialUow) : CredentialUow :=
  { u with session := f u.session }

/-- Read something off the session, or raise. -/
def ask {α : Type} (f : CredentialStore → Except PyError α) : CredentialAction α := fun u =>
  ((f u.session).mapError .raised, u)

end CredentialUow

namespace CredentialStore

/-- Change the credential with this identifier. -/
def modifyCredential (credentialId : String) (f : ApiCredentialRow → ApiCredentialRow)
    (hf : ∀ r, (f r).credentialId = r.credentialId) (s : CredentialStore) : CredentialStore :=
  { s with credentials := s.credentials.modify credentialId f hf }

def getCredential (credentialId : String) (s : CredentialStore) : Option ApiCredentialRow :=
  if credentialId = "" then none else s.credentials.get (strip credentialId)

def getCredentialByPrefix (lookup : String) (s : CredentialStore) :
    Except PyError (Option ApiCredentialRow) :=
  if lookup = "" then .ok none
  else scalarOneOrNone (s.credentials.select fun r => r.credentialPrefix == strip lookup)

/-- `cred.status = "EXPIRED"`. -/
def expireCredential (cred : ApiCredentialRow) (s : CredentialStore) : CredentialStore :=
  s.modifyCredential cred.credentialId (fun r => { r with status := .expired }) fun _ => rfl

def updateLastUsed (credentialId : String) (timestamp : Instant) (s : CredentialStore) :
    CredentialStore :=
  match s.getCredential credentialId with
  | none => s
  | some cred =>
      s.modifyCredential cred.credentialId (fun r => { r with lastUsedAt := some timestamp })
        fun _ => rfl

end CredentialStore

/-- The arguments of `create_credential`. -/
structure CreateCredential where
  credentialId         : String
  merchantId           : String
  credentialPrefix     : String
  credentialSecretHash : String
  scopes               : String
  expiresAt            : Option ExpiryTime

namespace CreateCredential

def requireText (field text : String) : Except PyError Unit :=
  if text = "" ∨ strip text = "" then .error (.valueError s!"{field} cannot be empty.")
  else .ok ()

def check (q : CreateCredential) : Except PyError Unit := do
  requireText "credential_id" q.credentialId
  requireText "merchant_id" q.merchantId
  requireText "credential_prefix" q.credentialPrefix
  requireText "credential_secret_hash" q.credentialSecretHash

def row (now : Instant) (q : CreateCredential) : ApiCredentialRow where
  credentialId := strip q.credentialId
  merchantId := strip q.merchantId
  credentialPrefix := strip q.credentialPrefix
  credentialSecretHash := strip q.credentialSecretHash
  status := .active
  scopes := strip q.scopes
  createdAt := now
  expiresAt := q.expiresAt
  revokedAt := none
  lastUsedAt := none

end CreateCredential

namespace CredentialUow

/-- `create_credential`; a flush that breaks a constraint ends the unit of work. -/
def createCredential (constraintText : String) (now : Instant) (q : CreateCredential) :
    CredentialAction ApiCredentialRow := fun u =>
  match q.check with
  | .error err => (.error (.raised err), u)
  | .ok () =>
      match u.session.credentials.insert (q.row now) with
      | some credentials =>
          (.ok (q.row now), u.write fun s => { s with credentials := credentials })
      | none => (.error (.raised (.integrityError constraintText)), u.rollback)

def revokeCredential (now : Instant) (credentialId : String) :
    CredentialAction (Option ApiCredentialRow) := fun u =>
  match u.session.getCredential credentialId with
  | none => (.ok none, u)
  | some cred =>
      let revoke := fun r : ApiCredentialRow =>
        { r with status := CredentialStatus.revoked, revokedAt := some now }
      (.ok (some (revoke cred)),
        u.write (·.modifyCredential cred.credentialId revoke fun _ => rfl))

/-- `append_event`; a flush that breaks a constraint ends the unit of work. -/
def appendEvent (env : AuditEnv) (entry : AuditEntry) : CredentialAction Unit := fun u =>
  match u.session.ledger.insert (auditEvent env entry u.session.ledger) with
  | some ledger => (.ok (), u.write fun s => { s with ledger := ledger })
  | none =>
      (.error (.raised (.valueError (s!"Failed to append audit event {env.eventId} at sequence "
        ++ s!"{u.session.ledger.nextSequence}: integrity constraint violated."))), u.rollback)

end CredentialUow

/-! ## What happens to a credential -/

namespace ApiCredentialRow

variable {now later : Instant} {cred cred' cred'' : ApiCredentialRow}

/-- The marks of a row agree: it is revoked when it has the time of that, and
    marked as expired only past its expiry. -/
structure Consistent (now : Instant) (cred : ApiCredentialRow) : Prop where
  revoked : cred.status = .revoked ↔ cred.revokedAt ≠ none
  expired : cred.status = .expired → cred.Past now

/-- What may become of a row at this time. -/
structure Ages (now : Instant) (cred cred' : ApiCredentialRow) : Prop where
  asCreated  : cred'.asCreated = cred.asCreated
  consistent : cred.Consistent now → cred'.Consistent now

theorem Past.mono (hle : now ≤ later) (h : cred.Past now) : cred.Past later := by
  obtain ⟨expiry, hmem, hlt⟩ := h
  exact ⟨expiry, hmem, lt_of_lt_of_le hlt hle⟩

theorem Consistent.mono (hle : now ≤ later) (h : cred.Consistent now) : cred.Consistent later :=
  ⟨h.revoked, fun hexpired => (h.expired hexpired).mono hle⟩

theorem Ages.refl (now : Instant) (cred : ApiCredentialRow) : Ages now cred cred := ⟨rfl, id⟩

theorem Ages.trans (h : Ages now cred cred') (h' : Ages now cred' cred'') : Ages now cred cred'' :=
  ⟨h'.asCreated.trans h.asCreated, fun hc => h'.consistent (h.consistent hc)⟩

theorem Ages.credentialPrefix_eq (h : Ages now cred cred') :
    cred'.credentialPrefix = cred.credentialPrefix := by
  have hcreated := congrArg ApiCredentialRow.credentialPrefix h.asCreated
  exact hcreated

theorem ages_used (timestamp : Instant) :
    Ages now cred { cred with lastUsedAt := some timestamp } :=
  ⟨rfl, fun h => ⟨h.revoked, h.expired⟩⟩

theorem ages_expired (hactive : cred.status = .active) (hpast : cred.Past now) :
    Ages now cred { cred with status := .expired } := by
  refine ⟨rfl, fun h => ⟨?_, fun _ => hpast⟩⟩
  have hunrevoked : ¬ cred.revokedAt ≠ none := by
    rw [← h.revoked, hactive]
    decide
  exact iff_of_false CredentialStatus.noConfusion hunrevoked

theorem ages_revoked : Ages now cred { cred with status := .revoked, revokedAt := some now } := by
  refine ⟨rfl, fun _ => ⟨iff_of_true rfl (Option.some_ne_none now), ?_⟩⟩
  intro hexpired
  cases hexpired

end ApiCredentialRow

namespace CredentialStore

open ApiCredentialRow

variable {sha256 : String → String} {now : Instant} {s s' s'' : CredentialStore}

/-- What may become of the tables at this time, a creation apart. -/
structure Evolves (sha256 : String → String) (now : Instant) (s s' : CredentialStore) : Prop where
  prefixes : s'.credentials.rows.map credentialPrefix = s.credentials.rows.map credentialPrefix
  rows     : ∀ r' ∈ s'.credentials.rows, ∃ r ∈ s.credentials.rows, Ages now r r'
  ledger   : s.ledger.Genuine sha256 → s'.ledger.Genuine sha256

theorem Evolves.refl (sha256 : String → String) (now : Instant) (s : CredentialStore) :
    Evolves sha256 now s s :=
  ⟨rfl, fun r hr => ⟨r, hr, .refl now r⟩, id⟩

theorem Evolves.trans (h : Evolves sha256 now s s') (h' : Evolves sha256 now s' s'') :
    Evolves sha256 now s s'' := by
  refine ⟨h'.prefixes.trans h.prefixes, ?_, fun hgenuine => h'.ledger (h.ledger hgenuine)⟩
  intro r'' hr''
  obtain ⟨r', hr', hages'⟩ := h'.rows r'' hr''
  obtain ⟨r, hr, hages⟩ := h.rows r' hr'
  exact ⟨r, hr, hages.trans hages'⟩

theorem evolves_modify {credentialId : String} {f : ApiCredentialRow → ApiCredentialRow}
    {hf : ∀ r, (f r).credentialId = r.credentialId}
    (hages : ∀ r ∈ s.credentials.rows, r.credentialId = credentialId → Ages now r (f r)) :
    Evolves sha256 now s (s.modifyCredential credentialId f hf) := by
  have hchange : ∀ r ∈ s.credentials.rows,
      Ages now r (if r.credentialId = credentialId then f r else r) := by
    intro r hr
    by_cases hid : r.credentialId = credentialId
    · rw [if_pos hid]
      exact hages r hr hid
    · rw [if_neg hid]
      exact .refl now r
  have hrows : (s.modifyCredential credentialId f hf).credentials.rows
      = s.credentials.rows.map fun r => if r.credentialId = credentialId then f r else r := rfl
  refine ⟨?_, ?_, id⟩
  · rw [hrows, List.map_map]
    exact List.map_congr_left fun r hr => (hchange r hr).credentialPrefix_eq
  · intro r' hr'
    rw [hrows, List.mem_map] at hr'
    obtain ⟨r, hr, rfl⟩ := hr'
    exact ⟨r, hr, hchange r hr⟩

theorem evolves_updateLastUsed (credentialId : String) (timestamp : Instant) :
    Evolves sha256 now s (s.updateLastUsed credentialId timestamp) := by
  rw [updateLastUsed]
  cases s.getCredential credentialId with
  | none => exact .refl sha256 now s
  | some cred => exact evolves_modify fun r _ _ => ages_used timestamp

theorem evolves_expire {cred : ApiCredentialRow} (hcred : cred ∈ s.credentials.rows)
    (hactive : cred.status = .active) (hpast : cred.Past now) :
    Evolves sha256 now s (s.expireCredential cred) := by
  refine evolves_modify ?_
  intro r hr hid
  -- no other row has the identifier
  obtain rfl : r = cred := List.inj_on_of_nodup_map s.credentials.nodupKeys hr hcred hid
  exact ages_expired hactive hpast

theorem evolves_append {env : AuditEnv} {entry : AuditEntry} {ledger : AuditLedger}
    (henv : env.sha256 = sha256)
    (hrows : ledger.rows = s.ledger.rows ++ [auditEvent env entry s.ledger]) :
    Evolves sha256 now s { s with ledger := ledger } := by
  subst henv
  exact ⟨rfl, fun r hr => ⟨r, hr, .refl now r⟩, fun h => h.append hrows⟩

/-! ## Lookups by prefix -/

theorem mem_of_getCredentialByPrefix {lookup : String} {r : ApiCredentialRow}
    (h : s.getCredentialByPrefix lookup = .ok (some r)) : r ∈ s.credentials.rows := by
  rw [getCredentialByPrefix] at h
  by_cases hempty : lookup = ""
  · rw [if_pos hempty] at h
    cases h
  · rw [if_neg hempty, scalarOneOrNone_eq_some_iff] at h
    have hmem : r ∈ s.credentials.select fun r => r.credentialPrefix == strip lookup := by
      rw [h]
      exact List.mem_singleton_self r
    exact List.mem_of_mem_filter hmem

theorem getCredentialByPrefix_modifyCredential {credentialId : String}
    {f : ApiCredentialRow → ApiCredentialRow} {hf : ∀ r, (f r).credentialId = r.credentialId}
    (hlookups : ∀ r, (f r).credentialPrefix = r.credentialPrefix) (lookup : String) :
    (s.modifyCredential credentialId f hf).getCredentialByPrefix lookup
      = (s.getCredentialByPrefix lookup).map
        (Option.map fun r => if r.credentialId = credentialId then f r else r) := by
  rw [getCredentialByPrefix, getCredentialByPrefix]
  by_cases hempty : lookup = ""
  · rw [if_pos hempty, if_pos hempty]
    rfl
  · rw [if_neg hempty, if_neg hempty, ← scalarOneOrNone_map]
    refine congrArg scalarOneOrNone ?_
    have hkeep : ((fun r : ApiCredentialRow => r.credentialPrefix == strip lookup) ∘ fun r =>
        if r.credentialId = credentialId then f r else r)
        = fun r => r.credentialPrefix == strip lookup := by
      funext r
      rw [Function.comp_apply]
      by_cases hid : r.credentialId = credentialId
      · rw [if_pos hid, hlookups]
      · rw [if_neg hid]
    have hfilter := List.filter_map (f := fun r : ApiCredentialRow =>
      if r.credentialId = credentialId then f r else r)
      (p := fun r => r.credentialPrefix == strip lookup) (l := s.credentials.rows)
    rw [hkeep] at hfilter
    exact hfilter

theorem getCredentialByPrefix_updateLastUsed {lookup : String} {r : ApiCredentialRow}
    (h : s.getCredentialByPrefix lookup = .ok (some r)) (credentialId : String)
    (timestamp : Instant) :
    ∃ r', (s.updateLastUsed credentialId timestamp).getCredentialByPrefix lookup = .ok (some r')
      ∧ r'.status = r.status ∧ r'.expiresAt = r.expiresAt := by
  rw [updateLastUsed]
  cases s.getCredential credentialId with
  | none => exact ⟨r, h, rfl, rfl⟩
  | some cred =>
      have hlookups : ∀ r : ApiCredentialRow,
          { r with lastUsedAt := some timestamp }.credentialPrefix = r.credentialPrefix :=
        fun _ => rfl
      dsimp only
      rw [getCredentialByPrefix_modifyCredential hlookups, h]
      refine ⟨_, rfl, ?_⟩
      dsimp only
      by_cases hid : r.credentialId = cred.credentialId
      · rw [if_pos hid]
        exact ⟨rfl, rfl⟩
      · rw [if_neg hid]
        exact ⟨rfl, rfl⟩

end CredentialStore

namespace CredentialUow

open CredentialStore

variable {sha256 : String → String} {now : Instant} {u u' u'' : CredentialUow}

/-- What may become of a unit of work at this time, creations apart: its tables
    evolve, or those that are committed do. -/
structure Moved (sha256 : String → String) (now : Instant) (u u' : CredentialUow) : Prop where
  committed : u'.committed = u.committed
  session   : Evolves sha256 now u.session u'.session ∨ Evolves sha256 now u.committed u'.session

theorem Moved.refl (sha256 : String → String) (now : Instant) (u : CredentialUow) :
    Moved sha256 now u u :=
  ⟨rfl, .inl (.refl sha256 now u.session)⟩

theorem Moved.trans (h : Moved sha256 now u u') (h' : Moved sha256 now u' u'') :
    Moved sha256 now u u'' := by
  refine ⟨h'.committed.trans h.committed, ?_⟩
  -- a rollback forgets what the session saw before it
  obtain hsession' | hcommitted' := h'.session
  · obtain hsession | hcommitted := h.session
    · exact .inl (hsession.trans hsession')
    · exact .inr (hcommitted.trans hsession')
  · rw [h.committed] at hcommitted'
    exact .inr hcommitted'

theorem ask_of_ok {α : Type} {f : CredentialStore → Except PyError α} {a : α}
    (h : f u.session = .ok a) : ask f u = (.ok a, u) := by
  rw [ask, h]
  rfl

theorem ask_eq_ok {α : Type} {f : CredentialStore → Except PyError α} {a : α}
    (h : ask f u = (.ok a, u')) : f u.session = .ok a ∧ u' = u := by
  obtain ⟨hmap, hu⟩ := Prod.mk.inj h
  refine ⟨?_, hu.symm⟩
  cases hresult : f u.session with
  | error err =>
      rw [hresult] at hmap
      cases hmap
  | ok result =>
      rw [hresult] at hmap
      exact congrArg Except.ok (Except.ok.inj hmap)

theorem moves_ask {α : Type} (f : CredentialStore → Except PyError α) :
    Raising.Moves (Moved sha256 now) (ask f) :=
  fun u => .refl sha256 now u

theorem moved_rollback (u : CredentialUow) : Moved sha256 now u u.rollback :=
  ⟨rfl, .inr (.refl sha256 now u.committed)⟩

theorem moved_write {f : CredentialStore → CredentialStore}
    (h : Evolves sha256 now u.session (f u.session)) : Moved sha256 now u (u.write f) :=
  ⟨rfl, .inl h⟩

/-- What may become of the two views of a unit of work at this time, creations
    apart: each evolves from one of them. -/
structure Advances (sha256 : String → String) (now : Instant) (u u' : CredentialUow) : Prop where
  session   : Evolves sha256 now u.session u'.session ∨ Evolves sha256 now u.committed u'.session
  committed : Evolves sha256 now u.session u'.committed
    ∨ Evolves sha256 now u.committed u'.committed

theorem Moved.advances (h : Moved sha256 now u u') : Advances sha256 now u u' := by
  refine ⟨h.session, .inr ?_⟩
  rw [h.committed]
  exact .refl sha256 now u.committed

theorem advances_of_rollback (h : u'.committed = u.committed) :
    Advances sha256 now u u'.rollback := by
  have hsame : u'.rollback = u.rollback := by
    rw [rollback, rollback, h]
  rw [hsame]
  exact (moved_rollback u).advances

theorem advances_commit (u : CredentialUow) : Advances sha256 now u u.commit :=
  ⟨.inl (.refl sha256 now u.session), .inl (.refl sha256 now u.session)⟩

theorem appendEvent_cases (env : AuditEnv) (entry : AuditEntry) (u : CredentialUow) :
    (¬ u.session.ledger.Accepts env entry
      ∧ ∃ err, appendEvent env entry u = (.error err, u.rollback))
    ∨ (u.session.ledger.Accepts env entry
      ∧ ∃ ledger, ledger.rows = u.session.ledger.rows ++ [auditEvent env entry u.session.ledger]
        ∧ appendEvent env entry u = (.ok (), u.write fun s => { s with ledger := ledger })) := by
  by_cases haccepts : u.session.ledger.Accepts env entry
  · have hfree := AuditLedger.accepts_iff_not_taken.mp haccepts
    refine .inr ⟨haccepts, ?_⟩
    rw [appendEvent, AuditLedger.insert, dif_neg hfree]
    exact ⟨_, rfl, rfl⟩
  · have htaken := not_not.mp (mt AuditLedger.accepts_iff_not_taken.mpr haccepts)
    refine .inl ⟨haccepts, ?_⟩
    rw [appendEvent, AuditLedger.insert, dif_pos htaken]
    exact ⟨_, rfl⟩

theorem moves_appendEvent {env : AuditEnv} (henv : env.sha256 = sha256) (entry : AuditEntry) :
    Raising.Moves (Moved sha256 now) (appendEvent env entry) := by
  intro u
  obtain ⟨-, err, hrun⟩ | ⟨-, ledger, hrows, hrun⟩ := appendEvent_cases env entry u
  · rw [hrun]
    exact moved_rollback u
  · rw [hrun]
    exact ⟨rfl, .inl (evolves_append henv hrows)⟩

theorem moves_revokeCredential (credentialId : String) :
    Raising.Moves (Moved sha256 now) (revokeCredential now credentialId) := by
  intro u
  rw [revokeCredential]
  cases u.session.getCredential credentialId with
  | none => exact .refl sha256 now u
  | some cred => exact moved_write (evolves_modify fun r _ _ => ApiCredentialRow.ages_revoked)

end CredentialUow

end MandateGateway
