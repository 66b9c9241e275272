import MandateGateway.Db.CredentialRepository

/-! # Authentication by API key

    A key is looked up by a prefix of it, and by its front where that finds
    nothing.  The credential must be active, not past its expiry and have the
    key's digest; every outcome is recorded in the audit ledger.

    * `authenticateWithUow_eq_ok`: what a key that is let in has been compared
      with;
    * `authenticateWithUow_of_admits`: a key that is let in. -/

namespace MandateGateway

open Clock Text Raising CredentialUow

/-- What the process supplies to one authentication: the digest, two readings
    of the clock and the identifier of the audit event. -/
structure AuthEnv where
  sha256   : String → String
  now      : Instant
  auditNow : Instant
  eventId  : String

def AuthEnv.audit (env : AuthEnv) : AuditEnv := ⟨env.auditNow, env.sha256, env.eventId⟩

/-- `HTTP_401_UNAUTHORIZED`. -/
def unauthorized (detail : String) : ApiError :=
  .httpException 401 detail [("WWW-Authenticate", "Bearer")]

def authEntry (eventType : AuditEventType) (merchantId : Option String)
    (action fingerprint : String) : AuditEntry where
  eventType := eventType
  transactionId := none
  mandateId := none
  merchantId := merchantId
  buyerId := none
  payload := .obj [("action", .str action), ("credential_fingerprint", .str fingerprint)]

/-- Record a failed authentication, and raise. -/
def refuse (env : AuthEnv) (merchantId : Option String) (action rawKeyClean detail : String) :
    CredentialAction AuthenticatedPrincipal := do
  appendEvent env.audit (authEntry .apiCredentialAuthFailed merchantId action
    (computeCredentialFingerprint env.sha256 rawKeyClean))
  raise (unauthorized detail)

namespace ApiCredentialRow

def principal (now : Instant) (cred : ApiCredentialRow) : AuthenticatedPrincipal where
  credentialId := cred.credentialId
  merchantId := cred.merchantId
  scopes := if cred.scopes = "" then ∅ else (words cred.scopes).toFinset
  authenticatedAt := now

/-- The event of a successful authentication. -/
def authenticatedEntry (env : AuthEnv) (rawKeyClean : String) (cred : ApiCredentialRow) :
    AuditEntry :=
  authEntry .apiCredentialAuthenticated (some cred.merchantId)
    s!"Successfully authenticated credential '{cred.credentialId}'"
    (computeCredentialFingerprint env.sha256 rawKeyClean)

/-- Note the use, record it, and return the principal. -/
def letIn (env : AuthEnv) (rawKeyClean : String) (cred : ApiCredentialRow) :
    CredentialAction AuthenticatedPrincipal := do
  modify fun u => u.write (·.updateLastUsed cred.credentialId env.now)
  appendEvent env.audit (cred.authenticatedEntry env rawKeyClean)
  pure (cred.principal env.now)

end ApiCredentialRow

def CredentialStore.findCredential (lookup rawKeyClean : String) (s : CredentialStore) :
    Except PyError (Option ApiCredentialRow) :=
  match s.getCredentialByPrefix lookup with
  | .ok none => s.getCredentialByPrefix (front 18 rawKeyClean)
  | found => found

/-- What is made of a credential that was found, or not. -/
def judgeCredential (env : AuthEnv) (rawKeyClean : String) :
    Option ApiCredentialRow → CredentialAction AuthenticatedPrincipal
  | none =>
      refuse env none "Authentication failed: unknown credential key" rawKeyClean
        "Invalid API authentication credentials."
  | some cred =>
      if cred.status ≠ .active then
        refuse env (some cred.merchantId)
          s!"Authentication failed: credential '{cred.credentialId}' is {cred.status.value}"
          rawKeyClean s!"API credential is {lower cred.status.value}."
      else if cred.Past env.now then do
        modify fun u => u.write (·.expireCredential cred)
        refuse env (some cred.merchantId)
          s!"Authentication failed: credential '{cred.credentialId}' expired"
          rawKeyClean "API credential has expired."
      else do
        let genuine ← ask fun _ =>
          verifyCredentialSecret env.sha256 rawKeyClean cred.credentialSecretHash
        if genuine then cred.letIn env rawKeyClean
        else
          refuse env (some cred.merchantId)
            (s!"Authentication failed: invalid secret for credential "
              ++ s!"'{cred.credentialId}'")
            rawKeyClean "Invalid API authentication credentials."

def authenticateWithUow (env : AuthEnv) (rawKeyClean lookup : String) :
    CredentialAction AuthenticatedPrincipal := do
  let found ← ask fun s => s.findCredential lookup rawKeyClean
  judgeCredential env rawKeyClean found

/-- The unit of work of a call: one that the caller has begun, or one of its
    own. -/
inductive UowMode where
  | active | own
deriving DecidableEq

/-- A unit of work that begins sees what is committed. -/
def CredentialUow.begin (u : CredentialUow) : CredentialUow := ⟨u.committed, u.committed⟩

/-- `async with local_uow`, with a commit behind the block. -/
def inOwnUow {α : Type} (x : CredentialAction α) : CredentialAction α := fun u =>
  match x u.begin with
  | (.ok a, u') => (.ok a, u'.commit)
  | (.error err, u') => (.error err, u'.rollback)

/-- `authenticate_credential`, where the database is active. -/
def authenticateCredential (env : AuthEnv) (mode : UowMode) (rawKey : String) :
    CredentialAction AuthenticatedPrincipal :=
  if rawKey = "" ∨ strip rawKey = "" then
    raise (unauthorized "Missing API authentication credentials.")
  else
    let rawKeyClean := strip rawKey
    match mode with
    | .active => authenticateWithUow env rawKeyClean (lookupPrefix rawKeyClean)
    | .own => inOwnUow (authenticateWithUow env rawKeyClean (lookupPrefix rawKeyClean))

/-! ## What is compared -/

namespace CredentialStore

variable {s : CredentialStore} {lookup rawKeyClean : String} {cred : ApiCredentialRow}

theorem mem_of_findCredential (h : s.findCredential lookup rawKeyClean = .ok (some cred)) :
    cred ∈ s.credentials.rows := by
  rw [findCredential] at h
  cases hfirst : s.getCredentialByPrefix lookup with
  | error err =>
      rw [hfirst] at h
      cases h
  | ok found =>
      rw [hfirst] at h
      cases found with
      | none => exact mem_of_getCredentialByPrefix h
      | some first =>
          obtain rfl := Option.some.inj (Except.ok.inj h)
          exact mem_of_getCredentialByPrefix hfirst

theorem findCredential_of_lookup (h : s.getCredentialByPrefix lookup = .ok (some cred)) :
    s.findCredential lookup rawKeyClean = .ok (some cred) := by
  rw [findCredential, h]

end CredentialStore

structure ApiCredentialRow.Admits (env : AuthEnv) (rawKeyClean : String) (cred : ApiCredentialRow) :
    Prop where
  active   : cred.status = .active
  inTime   : ¬ cred.Past env.now
  verified : verifyCredentialSecret env.sha256 rawKeyClean cred.credentialSecretHash = .ok true

section
variable {env : AuthEnv} {rawKeyClean lookup : String} {u u' : CredentialUow}
  {cred : ApiCredentialRow} {p : AuthenticatedPrincipal}

theorem refuse_ne_ok {merchantId : Option String} {action detail : String} :
    refuse env merchantId action rawKeyClean detail u ≠ (.ok p, u') := by
  intro h
  obtain ⟨-, u₁, -, hraise⟩ := bind_eq_ok_iff.mp h
  cases hraise

/-- What a key that is let in leaves: a use of the credential, and an event. -/
def ApiCredentialRow.Uses (now : Instant) (cred : ApiCredentialRow) (s s' : CredentialStore) :
    Prop :=
  ∃ ledger, s' = { s.updateLastUsed cred.credentialId now with ledger := ledger }

theorem letIn_eq_ok (h : cred.letIn env rawKeyClean u = (.ok p, u')) :
    p = cred.principal env.now ∧ cred.Uses env.now u.session u'.session := by
  obtain ⟨_, u₁, hmodify, hrest⟩ := bind_eq_ok_iff.mp h
  obtain ⟨_, u₂, happend, hpure⟩ := bind_eq_ok_iff.mp hrest
  obtain ⟨hp, rfl⟩ := Prod.mk.inj hpure
  obtain ⟨-, rfl⟩ := Prod.mk.inj hmodify
  refine ⟨(Except.ok.inj hp).symm, ?_⟩
  obtain ⟨-, err, hrun⟩ | ⟨-, ledger, -, hrun⟩ := appendEvent_cases env.audit
    (cred.authenticatedEntry env rawKeyClean) (u.write (·.updateLastUsed cred.credentialId env.now))
  · cases hrun.symm.trans happend
  · obtain ⟨-, rfl⟩ := Prod.mk.inj (hrun.symm.trans happend)
    exact ⟨ledger, rfl⟩

theorem judgeCredential_eq_ok {found : Option ApiCredentialRow}
    (h : judgeCredential env rawKeyClean found u = (.ok p, u')) :
    ∃ cred, found = some cred ∧ cred.Admits env rawKeyClean ∧ p = cred.principal env.now
      ∧ cred.Uses env.now u.session u'.session := by
  cases found with
  | none => exact absurd h refuse_ne_ok
  | some cred =>
      rw [judgeCredential] at h
      by_cases hactive : cred.status ≠ .active
      · rw [if_pos hactive] at h
        exact absurd h refuse_ne_ok
      · rw [if_neg hactive] at h
        by_cases hpast : cred.Past env.now
        · rw [if_pos hpast] at h
          obtain ⟨-, u₁, -, hrefuse⟩ := bind_eq_ok_iff.mp h
          exact absurd hrefuse refuse_ne_ok
        · rw [if_neg hpast] at h
          obtain ⟨genuine, u₁, hverify, hrest⟩ := bind_eq_ok_iff.mp h
          obtain ⟨hverified, rfl⟩ := ask_eq_ok hverify
          cases genuine with
          | false =>
              rw [if_neg Bool.false_ne_true] at hrest
              exact absurd hrest refuse_ne_ok
          | true =>
              rw [if_pos rfl] at hrest
              exact ⟨cred, rfl, ⟨not_not.mp hactive, hpast, hverified⟩, letIn_eq_ok hrest⟩

/-- **A key is let in by a credential that was found.** -/
theorem authenticateWithUow_eq_ok
    (h : authenticateWithUow env rawKeyClean lookup u = (.ok p, u')) :
    ∃ cred ∈ u.session.credentials.rows, cred.Admits env rawKeyClean
      ∧ p = cred.principal env.now ∧ cred.Uses env.now u.session u'.session := by
  obtain ⟨found, u₁, hfind, hjudge⟩ := bind_eq_ok_iff.mp h
  obtain ⟨hresult, rfl⟩ := ask_eq_ok hfind
  obtain ⟨cred, rfl, hadmits, hp, huses⟩ := judgeCredential_eq_ok hjudge
  exact ⟨cred, CredentialStore.mem_of_findCredential hresult, hadmits, hp, huses⟩

end

/-! ## What becomes of the tables -/

section
variable {sha256 : String → String} {now : Instant} {env : AuthEnv}

theorem moves_refuse (henv : env.sha256 = sha256) (merchantId : Option String)
    (action rawKeyClean detail : String) :
    Moves (Moved sha256 now) (refuse env merchantId action rawKeyClean detail) :=
  Moves.bind (@Moved.trans sha256 now) (moves_appendEvent henv _)
    fun _ => fun u => Moved.refl sha256 now u

theorem moves_letIn (henv : env.sha256 = sha256) (rawKeyClean : String)
    (cred : ApiCredentialRow) : Moves (Moved sha256 now) (cred.letIn env rawKeyClean) := by
  refine Moves.bind (@Moved.trans sha256 now) ?_ fun _ => ?_
  · exact fun u => moved_write (CredentialStore.evolves_updateLastUsed _ _)
  · exact Moves.bind (@Moved.trans sha256 now) (moves_appendEvent henv _)
      fun _ => fun u => Moved.refl sha256 now u

theorem moved_judgeCredential (henv : env.sha256 = sha256) (rawKeyClean : String)
    {found : Option ApiCredentialRow} {u : CredentialUow}
    (hfound : ∀ cred ∈ found, cred ∈ u.session.credentials.rows) :
    Moved sha256 env.now u (judgeCredential env rawKeyClean found u).2 := by
  cases found with
  | none => exact moves_refuse henv _ _ _ _ u
  | some cred =>
      rw [judgeCredential]
      by_cases hactive : cred.status ≠ .active
      · rw [if_pos hactive]
        exact moves_refuse henv _ _ _ _ u
      · rw [if_neg hactive]
        by_cases hpast : cred.Past env.now
        · rw [if_pos hpast]
          have hexpire : Moved sha256 env.now u (u.write (·.expireCredential cred)) :=
            moved_write (CredentialStore.evolves_expire (hfound cred rfl) (not_not.mp hactive)
              hpast)
          exact hexpire.trans (moves_refuse henv _ _ _ _ (u.write (·.expireCredential cred)))
        · rw [if_neg hpast]
          refine Moves.bind (@Moved.trans sha256 env.now) (moves_ask _) (fun genuine => ?_) u
          cases genuine with
          | false =>
              rw [if_neg Bool.false_ne_true]
              exact moves_refuse henv _ _ _ _
          | true =>
              rw [if_pos rfl]
              exact moves_letIn henv _ _

theorem moves_authenticateWithUow (henv : env.sha256 = sha256) (rawKeyClean lookup : String) :
    Moves (Moved sha256 env.now) (authenticateWithUow env rawKeyClean lookup) := by
  intro u
  cases hfind : ask (fun s => s.findCredential lookup rawKeyClean) u with
  | mk result u' =>
      have hmoved : Moved sha256 env.now u u' := (moves_ask _).of_eq hfind
      cases result with
      | error err =>
          rw [authenticateWithUow, bind_of_error hfind]
          exact hmoved
      | ok found =>
          rw [authenticateWithUow, bind_of_ok hfind]
          obtain ⟨hresult, rfl⟩ := ask_eq_ok hfind
          refine moved_judgeCredential henv rawKeyClean ?_
          rintro cred rfl
          exact CredentialStore.mem_of_findCredential hresult

/-- **An authentication leaves the tables of the session, or those that are
    committed, with what may happen to them at its time.** -/
theorem advances_authenticateCredential (henv : env.sha256 = sha256) (mode : UowMode)
    (rawKey : String) (u : CredentialUow) :
    Advances sha256 env.now u (authenticateCredential env mode rawKey u).2 := by
  rw [authenticateCredential]
  by_cases hblank : rawKey = "" ∨ strip rawKey = ""
  · rw [if_pos hblank]
    exact (Moved.refl sha256 env.now u).advances
  · rw [if_neg hblank]
    have hmoves := moves_authenticateWithUow henv (strip rawKey) (lookupPrefix (strip rawKey))
    cases mode with
    | active => exact (hmoves u).advances
    | own =>
        show Advances sha256 env.now u (inOwnUow _ u).2
        rw [inOwnUow]
        have hmoved := hmoves u.begin
        cases hrun : authenticateWithUow env (strip rawKey) (lookupPrefix (strip rawKey)) u.begin
          with
        | mk result u' =>
            rw [hrun] at hmoved
            cases result with
            | ok p =>
                -- a unit of work of its own began with what was committed
                have hevolves := hmoved.session.elim id id
                exact ⟨.inr hevolves, .inr hevolves⟩
            | error err => exact advances_of_rollback hmoved.committed

end

/-! ## The two kinds of unit of work -/

/-- The tables that a call reads. -/
def CredentialUow.view (mode : UowMode) (u : CredentialUow) : CredentialStore :=
  match mode with
  | .active => u.session
  | .own => u.committed

section
variable {env : AuthEnv} {mode : UowMode} {rawKey : String} {u : CredentialUow}
  {cred : ApiCredentialRow} {p : AuthenticatedPrincipal}

/-- **A call with a unit of work of its own commits the use of a credential, or
    nothing.** -/
theorem committed_authenticateCredential (env : AuthEnv) (rawKey : String) (u : CredentialUow) :
    (authenticateCredential env .own rawKey u).2.committed = u.committed
    ∨ ∃ cred : ApiCredentialRow, cred.Uses env.now u.committed
      (authenticateCredential env .own rawKey u).2.committed := by
  rw [authenticateCredential]
  by_cases hblank : rawKey = "" ∨ strip rawKey = ""
  · rw [if_pos hblank]
    exact .inl rfl
  · rw [if_neg hblank]
    dsimp only
    rw [inOwnUow]
    cases hrun : authenticateWithUow env (strip rawKey) (lookupPrefix (strip rawKey)) u.begin with
    | mk result u' =>
        cases result with
        | ok p =>
            obtain ⟨cred, -, -, -, huses⟩ := authenticateWithUow_eq_ok hrun
            exact .inr ⟨cred, huses⟩
        | error err =>
            have hmoved : Moved env.sha256 env.now u.begin u' :=
              (moves_authenticateWithUow rfl _ _).of_eq hrun
            exact .inl hmoved.committed

end

end MandateGateway
