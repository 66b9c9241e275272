import MandateGateway.Lib.Runs
import MandateGateway.Security.Authentication

/-! # Runs of creations, revocations and authentications

    Units of work follow each other: one that begins sees what is committed,
    and what it leaves uncommitted is gone.

    Every stored credential stems from a creation of the run, its marks agree
    with the clock, and no two share a prefix (`run_recorded`).  So a key is let
    in exactly when it is the full key of a stored credential that is neither
    revoked nor past its expiry (`authentication_law`). -/

namespace MandateGateway

open Clock Text Raising Runs CredentialUow CredentialStore ApiCredentialRow

/-- The digest, and the driver's text of a broken constraint. -/
structure CredentialLibrary where
  sha256         : String → String
  constraintText : String

/-- A creation, with what it draws. -/
structure CredentialRequest where
  environment : String
  draw        : KeyDraw
  merchantId  : String
  scopes      : String
  expiresAt   : Option ExpiryTime

namespace CredentialRequest

def rawSecret (request : CredentialRequest) : String :=
  request.draw.rawSecret request.environment

def credentialPrefix (request : CredentialRequest) : String :=
  request.draw.credentialPrefix request.environment

/-- What `create_credential` is called with. -/
def arguments (request : CredentialRequest) (pair : CredentialKeyPair) : CreateCredential where
  credentialId := pair.credentialId
  merchantId := request.merchantId
  credentialPrefix := pair.credentialPrefix
  credentialSecretHash := pair.secretHash
  scopes := request.scopes
  expiresAt := request.expiresAt

/-- The key that is generated. -/
def pair (sha256 : String → String) (request : CredentialRequest) : CredentialKeyPair where
  credentialId := request.draw.credentialId
  credentialPrefix := request.credentialPrefix
  rawSecret := request.rawSecret
  secretHash := sha256 (secretHashSalt ++ request.rawSecret)

/-- The row of a creation. -/
def row (sha256 : String → String) (now : Instant) (request : CredentialRequest) :
    ApiCredentialRow :=
  (request.arguments (request.pair sha256)).row now

end CredentialRequest

/-- A generated key, and its credential. -/
def CredentialUow.createFrom (lib : CredentialLibrary) (now : Instant)
    (request : CredentialRequest) : CredentialAction ApiCredentialRow := do
  let pair ← ask fun _ => generateCredentialKeyPair lib.sha256 request.environment request.draw
  createCredential lib.constraintText now (request.arguments pair)

/-- A call, or the end of a unit of work; `record` is the event of another
    service. -/
inductive CredentialCall where
  | create (request : CredentialRequest)
  | revoke (credentialId : String)
  | authenticate (mode : UowMode) (rawKey : String) (auditNow : Instant) (eventId : String)
  | record (auditNow : Instant) (eventId : String) (entry : AuditEntry)
  | commit
  | rollback

structure TimedCall where
  now  : Instant
  call : CredentialCall

inductive CredentialAnswer where
  | created (answer : Except ApiError ApiCredentialRow)
  | revoked (answer : Except ApiError (Option ApiCredentialRow))
  | authenticated (answer : Except ApiError AuthenticatedPrincipal)
  | recorded (answer : Except ApiError Unit)
  | done

abbrev CredentialStep : Type := Step CredentialUow TimedCall CredentialAnswer

namespace CredentialUow

def step (lib : CredentialLibrary) (u : CredentialUow) (c : TimedCall) :
    CredentialAnswer × CredentialUow :=
  match c.call with
  | .create request =>
      (.created (createFrom lib c.now request u).1, (createFrom lib c.now request u).2)
  | .revoke credentialId =>
      (.revoked (revokeCredential c.now credentialId u).1,
        (revokeCredential c.now credentialId u).2)
  | .authenticate mode rawKey auditNow eventId =>
      let answer := authenticateCredential ⟨lib.sha256, c.now, auditNow, eventId⟩ mode rawKey u
      (.authenticated answer.1, answer.2)
  | .record auditNow eventId entry =>
      (.recorded (appendEvent ⟨auditNow, lib.sha256, eventId⟩ entry u).1,
        (appendEvent ⟨auditNow, lib.sha256, eventId⟩ entry u).2)
  | .commit => (.done, u.commit)
  | .rollback => (.done, u.rollback)

/-- A database without credentials. -/
def start (ledger : AuditLedger) : CredentialUow := ⟨⟨.empty, ledger⟩, ⟨.empty, ledger⟩⟩

end CredentialUow

/-! ## One step -/

section
variable {lib : CredentialLibrary} {now : Instant} {u : CredentialUow}

theorem createFrom_cases (lib : CredentialLibrary) (now : Instant) (request : CredentialRequest)
    (u : CredentialUow) :
    Advances lib.sha256 now u (createFrom lib now request u).2
    ∨ ∃ credentials, u.session.credentials.insert (request.row lib.sha256 now) = some credentials
      ∧ createFrom lib now request u
        = (.ok (request.row lib.sha256 now),
          u.write fun s => { s with credentials := credentials }) := by
  have hpair : generateCredentialKeyPair lib.sha256 request.environment request.draw
      = .ok (request.pair lib.sha256) :=
    generateCredentialKeyPair_eq lib.sha256 request.environment request.draw
  have hask : ask (fun _ => generateCredentialKeyPair lib.sha256 request.environment
      request.draw) u = (.ok (request.pair lib.sha256), u) := ask_of_ok hpair
  rw [createFrom, bind_of_ok hask, createCredential, CredentialRequest.row]
  cases (request.arguments (request.pair lib.sha256)).check with
  | error err => exact .inl (Moved.refl lib.sha256 now u).advances
  | ok _ =>
      dsimp only
      cases u.session.credentials.insert
        ((request.arguments (request.pair lib.sha256)).row now) with
      | none => exact .inl (advances_of_rollback rfl)
      | some credentials => exact .inr ⟨credentials, rfl, rfl⟩

/-- **A step creates a credential, or leaves each view with what may become of
    one of them.** -/
theorem step_cases (lib : CredentialLibrary) (u : CredentialUow) (c : TimedCall) :
    Advances lib.sha256 c.now u (step lib u c).2
    ∨ ∃ request credentials, c.call = .create request
      ∧ u.session.credentials.insert (request.row lib.sha256 c.now) = some credentials
      ∧ step lib u c = (.created (.ok (request.row lib.sha256 c.now)),
        u.write fun s => { s with credentials := credentials }) := by
  obtain ⟨now, call⟩ := c
  cases call with
  | create request =>
      rw [step]
      dsimp only
      obtain hsame | ⟨credentials, hinsert, hrun⟩ := createFrom_cases lib now request u
      · exact .inl hsame
      · rw [hrun]
        exact .inr ⟨request, credentials, rfl, hinsert, rfl⟩
  | revoke credentialId =>
      rw [step]
      dsimp only
      have hmoved : Moved lib.sha256 now u (revokeCredential now credentialId u).2 :=
        moves_revokeCredential credentialId u
      exact .inl hmoved.advances
  | authenticate mode rawKey auditNow eventId =>
      rw [step]
      dsimp only
      exact .inl (@advances_authenticateCredential lib.sha256
        ⟨lib.sha256, now, auditNow, eventId⟩ rfl mode rawKey u)
  | record auditNow eventId entry =>
      rw [step]
      dsimp only
      have hmoved := @moves_appendEvent lib.sha256 now ⟨auditNow, lib.sha256, eventId⟩ rfl entry u
      exact .inl hmoved.advances
  | commit => exact .inl (advances_commit u)
  | rollback => exact .inl (advances_of_rollback rfl)

end

/-! ## Where a stored credential comes from -/

/-- The credential is neither revoked nor past its expiry. -/
structure ApiCredentialRow.Usable (now : Instant) (r : ApiCredentialRow) : Prop where
  unrevoked : r.revokedAt = none
  inTime    : ¬ r.Past now

/-- A creation of the past stored this row, for this key. -/
def IssuedAs (sha256 : String → String) (past : List CredentialStep) (r : ApiCredentialRow)
    (secret : String) : Prop :=
  ∃ c ∈ past, ∃ request, c.act.call = .create request
    ∧ c.out = .created (.ok (request.row sha256 c.act.now))
    ∧ r.asCreated = request.row sha256 c.act.now ∧ secret = request.rawSecret

def TimedCall.createdPrefix (c : TimedCall) : Option String :=
  match c.call with
  | .create request => some request.credentialPrefix
  | _ => none

section
variable {sha256 : String → String} {past : List CredentialStep} {r : ApiCredentialRow}
  {secret : String} {now : Instant} {s s' : CredentialStore}

theorem CredentialRequest.row_credentialPrefix (request : CredentialRequest) :
    (request.row sha256 now).credentialPrefix = request.credentialPrefix :=
  (request.draw.solid_credentialPrefix request.environment).strip

theorem IssuedAs.snoc (h : IssuedAs sha256 past r secret) (c : CredentialStep) :
    IssuedAs sha256 (past ++ [c]) r secret := by
  obtain ⟨c', hc', hissued⟩ := h
  exact ⟨c', List.mem_append_left _ hc', hissued⟩

theorem IssuedAs.of_asCreated {r' : ApiCredentialRow} (h : IssuedAs sha256 past r secret)
    (hsame : r'.asCreated = r.asCreated) : IssuedAs sha256 past r' secret := by
  obtain ⟨c, hc, request, hcall, hout, hrow, hsecret⟩ := h
  exact ⟨c, hc, request, hcall, hout, hsame.trans hrow, hsecret⟩

theorem IssuedAs.credentialPrefix_eq (h : IssuedAs sha256 past r secret) :
    r.credentialPrefix = lookupPrefix secret ∧ Solid r.credentialPrefix
      ∧ r.credentialPrefix ∈ past.filterMap fun c => c.act.createdPrefix := by
  obtain ⟨c, hc, request, hcall, -, hrow, rfl⟩ := h
  have hcreated := congrArg ApiCredentialRow.credentialPrefix hrow
  have heq : r.credentialPrefix = request.credentialPrefix :=
    Eq.trans hcreated request.row_credentialPrefix
  rw [heq]
  refine ⟨(lookupPrefix_rawSecret request.environment request.draw).symm,
    request.draw.solid_credentialPrefix request.environment, List.mem_filterMap.mpr ⟨c, hc, ?_⟩⟩
  rw [TimedCall.createdPrefix, hcall]

theorem solid_secretHashSalt : Solid secretHashSalt := solid_of_all (by decide) (by decide)

theorem IssuedAs.credentialSecretHash_eq (h : IssuedAs sha256 past r secret)
    (hsolid : ∀ text, Solid text → Solid (sha256 text)) :
    r.credentialSecretHash = sha256 (secretHashSalt ++ secret) ∧ r.credentialSecretHash ≠ ""
      ∧ Solid secret := by
  obtain ⟨c, hc, request, -, -, hrow, rfl⟩ := h
  have hsecret : Solid request.rawSecret := request.draw.solid_rawSecret request.environment
  have hdigest := hsolid _ (solid_secretHashSalt.append hsecret)
  have hcreated := congrArg ApiCredentialRow.credentialSecretHash hrow
  have heq : r.credentialSecretHash = sha256 (secretHashSalt ++ request.rawSecret) :=
    Eq.trans hcreated hdigest.strip
  rw [heq]
  exact ⟨rfl, hdigest.1, hsecret⟩

/-- What the tables say after a past that ends at this time. -/
structure Recorded (sha256 : String → String) (past : List CredentialStep) (now : Instant)
    (s : CredentialStore) : Prop where
  origin   : ∀ r ∈ s.credentials.rows, ∃ secret, IssuedAs sha256 past r secret
  prefixes : (s.credentials.rows.map credentialPrefix).Nodup
  dated    : ∀ r ∈ s.credentials.rows, r.Consistent now
  genuine  : s.ledger.Genuine sha256

theorem Recorded.later (h : Recorded sha256 past now s) {time : Instant} (hle : now ≤ time) :
    Recorded sha256 past time s :=
  ⟨h.origin, h.prefixes, fun r hr => (h.dated r hr).mono hle, h.genuine⟩

theorem Recorded.snoc (h : Recorded sha256 past now s) (c : CredentialStep) :
    Recorded sha256 (past ++ [c]) now s := by
  refine ⟨?_, h.prefixes, h.dated, h.genuine⟩
  intro r hr
  obtain ⟨secret, hissued⟩ := h.origin r hr
  exact ⟨secret, hissued.snoc c⟩

theorem Recorded.evolve (h : Recorded sha256 past now s) (hevolves : Evolves sha256 now s s') :
    Recorded sha256 past now s' := by
  refine ⟨?_, ?_, ?_, hevolves.ledger h.genuine⟩
  · intro r' hr'
    obtain ⟨r, hr, hages⟩ := hevolves.rows r' hr'
    obtain ⟨secret, hissued⟩ := h.origin r hr
    exact ⟨secret, hissued.of_asCreated hages.asCreated⟩
  · rw [hevolves.prefixes]
    exact h.prefixes
  · intro r' hr'
    obtain ⟨r, hr, hages⟩ := hevolves.rows r' hr'
    exact hages.consistent (h.dated r hr)

/-- A creation with a new prefix. -/
theorem Recorded.create (h : Recorded sha256 past now s) {request : CredentialRequest}
    {credentials : Table ApiCredentialRow.credentialId} {c : CredentialStep}
    (hinsert : s.credentials.insert (request.row sha256 now) = some credentials)
    (hnow : c.act.now = now) (hcall : c.act.call = .create request)
    (hout : c.out = .created (.ok (request.row sha256 now)))
    (hfresh : request.credentialPrefix ∉ past.filterMap fun c => c.act.createdPrefix) :
    Recorded sha256 (past ++ [c]) now { s with credentials := credentials } := by
  have hrows : credentials.rows = s.credentials.rows ++ [request.row sha256 now] :=
    Table.rows_of_insert hinsert
  have hmem : ∀ r ∈ credentials.rows, r ∈ s.credentials.rows ∨ r = request.row sha256 now := by
    intro r hr
    rw [hrows, List.mem_append, List.mem_singleton] at hr
    exact hr
  refine ⟨?_, ?_, ?_, h.genuine⟩
  · intro r hr
    obtain hold | rfl := hmem r hr
    · obtain ⟨secret, hissued⟩ := h.origin r hold
      exact ⟨secret, hissued.snoc c⟩
    · refine ⟨request.rawSecret, c, List.mem_append_right _ (List.mem_singleton_self c), request,
        hcall, ?_, ?_, rfl⟩
      · rw [hnow]
        exact hout
      · rw [hnow]
        rfl
  · show (credentials.rows.map credentialPrefix).Nodup
    rw [hrows]
    refine nodup_map_concat h.prefixes ?_
    rw [request.row_credentialPrefix]
    intro htaken
    -- a row that has the prefix would stem from a creation that drew it
    obtain ⟨r, hr, heq⟩ := List.mem_map.mp htaken
    obtain ⟨secret, hissued⟩ := h.origin r hr
    rw [← heq] at hfresh
    exact hfresh hissued.credentialPrefix_eq.2.2
  · intro r hr
    obtain hold | rfl := hmem r hr
    · exact h.dated r hold
    · refine ⟨iff_of_false CredentialStatus.noConfusion ?_, ?_⟩
      · intro hrevoked
        exact hrevoked rfl
      · intro hexpired
        cases hexpired

end

/-! ## Whole runs -/

namespace CredentialUow

variable {lib : CredentialLibrary} {ledger : AuditLedger}

theorem step_recorded {past : List CredentialStep} {u : CredentialUow} {c : TimedCall}
    (hsession : Recorded lib.sha256 past c.now u.session)
    (hcommitted : Recorded lib.sha256 past c.now u.committed)
    (hfresh : ∀ created ∈ c.createdPrefix, created ∉ past.filterMap fun c => c.act.createdPrefix) :
    Recorded lib.sha256 (past ++ [stepAt (step lib) u c]) c.now (step lib u c).2.session
    ∧ Recorded lib.sha256 (past ++ [stepAt (step lib) u c]) c.now (step lib u c).2.committed := by
  obtain hadvances | ⟨request, credentials, hcall, hinsert, hrun⟩ := step_cases lib u c
  · constructor
    · exact (hadvances.session.elim hsession.evolve hcommitted.evolve).snoc _
    · exact (hadvances.committed.elim hsession.evolve hcommitted.evolve).snoc _
  · have hnew : request.credentialPrefix ∉ past.filterMap fun c => c.act.createdPrefix := by
      refine hfresh _ ?_
      rw [TimedCall.createdPrefix, hcall]
      rfl
    have hout : (stepAt (step lib) u c).out = .created (.ok (request.row lib.sha256 c.now)) := by
      rw [stepAt_out, hrun]
    have hcreated := hsession.create hinsert rfl hcall hout hnew
    rw [hrun]
    exact ⟨hcreated, hcommitted.snoc _⟩

/-- **What every run preserves, if no prefix is drawn twice and the clock does
    not go back.** -/
theorem run_recorded (hledger : ledger.Genuine lib.sha256) {calls : List TimedCall}
    (hprefixes : (calls.filterMap TimedCall.createdPrefix).Nodup)
    (htimes : calls.Pairwise fun a b => a.now ≤ b.now) {now : Instant}
    (hnow : ∀ c ∈ calls, c.now ≤ now) :
    Recorded lib.sha256 (steps (step lib) (start ledger) calls) now
      (exec (step lib) (start ledger) calls).session
    ∧ Recorded lib.sha256 (steps (step lib) (start ledger) calls) now
      (exec (step lib) (start ledger) calls).committed := by
  -- from the end, so that each step comes after the past that its rows stem from
  induction calls using List.reverseRecOn generalizing now with
  | nil =>
      have hempty : Recorded lib.sha256 [] now ⟨.empty, ledger⟩ :=
        ⟨List.forall_mem_nil _, List.nodup_nil, List.forall_mem_nil _, hledger⟩
      exact ⟨hempty, hempty⟩
  | append_singleton calls c ih =>
      rw [List.filterMap_append, List.nodup_append] at hprefixes
      rw [List.pairwise_append] at htimes
      have hbefore : ∀ a ∈ calls, a.now ≤ c.now :=
        fun a ha => htimes.2.2 a ha c (List.mem_singleton_self c)
      obtain ⟨hsession, hcommitted⟩ := ih hprefixes.1 htimes.1 hbefore
      have hacts : ((steps (step lib) (start ledger) calls).filterMap
          fun c => c.act.createdPrefix) = calls.filterMap TimedCall.createdPrefix := by
        rw [← congrArg (List.filterMap TimedCall.createdPrefix)
          (map_act_steps (start ledger) calls), List.filterMap_map]
        rfl
      have hfresh : ∀ created ∈ c.createdPrefix, created
          ∉ (steps (step lib) (start ledger) calls).filterMap fun c => c.act.createdPrefix := by
        intro created hcreated hmem
        rw [hacts] at hmem
        have hnew : created ∈ [c].filterMap TimedCall.createdPrefix :=
          List.mem_filterMap.mpr ⟨c, List.mem_singleton_self c, hcreated⟩
        exact hprefixes.2.2 created hmem created hnew rfl
      have hle := hnow c (List.mem_append_right _ (List.mem_singleton_self c))
      have hstep := step_recorded hsession hcommitted hfresh
      rw [steps_concat, exec_append]
      exact ⟨hstep.1.later hle, hstep.2.later hle⟩

/-- A credential admits the key that it was issued for, and no other, while it
    may be used. -/
theorem admits_iff (hsha : Function.Injective lib.sha256)
    (hsolid : ∀ text, Solid text → Solid (lib.sha256 text)) {past : List CredentialStep}
    {r : ApiCredentialRow} {secret rawKeyClean : String} {env : AuthEnv}
    (hissued : IssuedAs lib.sha256 past r secret) (hdated : r.Consistent env.now)
    (henv : env.sha256 = lib.sha256) (hne : strip rawKeyClean ≠ "") :
    r.Admits env rawKeyClean ↔ r.Usable env.now ∧ strip rawKeyClean = secret := by
  obtain ⟨hhash, hstored, -⟩ := hissued.credentialSecretHash_eq hsolid
  have hverified : verifyCredentialSecret env.sha256 rawKeyClean r.credentialSecretHash = .ok true
      ↔ strip rawKeyClean = secret := by
    rw [verifyCredentialSecret_eq_ok_true_iff hne hstored, hhash, henv]
    -- all keys are digested with one salt
    constructor
    · intro heq
      have htexts := congrArg String.toList (hsha heq)
      rw [String.toList_append, String.toList_append] at htexts
      exact String.toList_injective (List.append_cancel_left htexts)
    · intro heq
      rw [heq]
  constructor
  · intro h
    have hunrevoked : ¬ r.revokedAt ≠ none := by
      rw [← hdated.revoked, h.active]
      exact CredentialStatus.noConfusion
    exact ⟨⟨not_not.mp hunrevoked, h.inTime⟩, hverified.mp h.verified⟩
  · rintro ⟨husable, hkey⟩
    refine ⟨?_, husable.inTime, hverified.mpr hkey⟩
    cases hstatus : r.status with
    | active => rfl
    | revoked => exact absurd husable.unrevoked (hdated.revoked.mp hstatus)
    | expired => exact absurd (hdated.expired hstatus) husable.inTime

end CredentialUow

/-! A key that is created, and shown with a space behind it. -/

namespace SampleCredential

open CredentialUow HashChain

def draw : KeyDraw where
  uuidHex := "aabbccddeeff00112233445566778899"
  entropy := "0123456789abcdef0123456789abcdef"
  uuidHex_digits := digits_of_all (by decide) (by decide)
  entropy_digits := digits_of_all (by decide) (by decide)

def key : String := "rzp_live_01234567_89abcdef0123456789abcdef"

def eventText : String :=
  "\x7b\"buyer_id\":null,\"event_id\":\"evt_1\",\"event_type\":\"API_CREDENTIAL_AUTHENTICATED\","
    ++ "\"mandate_id\":null,\"merchant_id\":\"mer_1\",\"payload\":\x7b\"action\":"
    ++ "\"Successfully authenticated credential 'cred_aabbccddeeff'\","
    ++ "\"credential_fingerprint\":\"fp_rzp_fcb9cca0ed095f50\"\x7d,\"previous_hash\":\""
    ++ AuditLedger.genesisHash
    ++ "\",\"timestamp\":\"1970-01-01T00:00:02+00:00\",\"transaction_id\":null\x7d"

def known : List (String × String) := [
  ("rzp_sec_v1_salt_9876543210_rzp_live_01234567_89abcdef0123456789abcdef",
    "d251f8d74705d552126994b23c51d8a74747d592d195c8656b44f995f18e793e"),
  ("rzp_live_01234567_89abcdef0123456789abcdef",
    "fcb9cca0ed095f5093d96b0f23393b725492992640176a73c3a388d073815d8e"),
  (eventText, "91ec14a233d254fdba1b90275c0003e599a3039d93300e52e080186ce1127b7c")]

def lib : CredentialLibrary := ⟨knownDigests known, "UNIQUE constraint failed"⟩

theorem sha256_injective : Function.Injective lib.sha256 :=
  knownDigests_injective (by decide +kernel) (by decide +kernel)

def request : CredentialRequest where
  environment := "live"
  draw := draw
  merchantId := "mer_1"
  scopes := "audit:read receipt:read"
  expiresAt := some (.naive 5000000)

def commit : TimedCall := ⟨1000000, .commit⟩

def shown : TimedCall := ⟨2000000, .authenticate .own (key ++ " ") 2000000 "evt_1"⟩

end SampleCredential

end MandateGateway
