import MandateGateway.Security.Authentication

/-! # What a rejected authentication leaves behind

    A key that is rejected is recorded in the audit ledger, and a credential that
    is found expired is marked, before the call raises.  Both are only written to
    the session.  A unit of work of the call's own is rolled back by the raise; one
    that the caller has begun keeps them until it ends (`durable_iff`). -/

namespace MandateGateway

open Clock Text Raising CredentialUow

/-- Why a key is rejected. -/
inductive AuthRejection where
  | unknown
  | inactive (cred : ApiCredentialRow)
  | expired (cred : ApiCredentialRow)
  | wrongSecret (cred : ApiCredentialRow)

namespace AuthRejection

def Applies (env : AuthEnv) (rawKeyClean : String) (found : Option ApiCredentialRow) :
    AuthRejection → Prop
  | unknown => found = none
  | inactive cred => found = some cred ∧ cred.status ≠ .active
  | expired cred => found = some cred ∧ cred.status = .active ∧ cred.Past env.now
  | wrongSecret cred => found = some cred ∧ cred.status = .active ∧ ¬ cred.Past env.now
      ∧ verifyCredentialSecret env.sha256 rawKeyClean cred.credentialSecretHash = .ok false

def merchantId : AuthRejection → Option String
  | unknown => none
  | inactive cred | expired cred | wrongSecret cred => some cred.merchantId

def action : AuthRejection → String
  | unknown => "Authentication failed: unknown credential key"
  | inactive cred =>
      s!"Authentication failed: credential '{cred.credentialId}' is {cred.status.value}"
  | expired cred => s!"Authentication failed: credential '{cred.credentialId}' expired"
  | wrongSecret cred => s!"Authentication failed: invalid secret for credential "
      ++ s!"'{cred.credentialId}'"

/-- The entry that is appended. -/
def entry (env : AuthEnv) (rawKeyClean : String) (r : AuthRejection) : AuditEntry :=
  authEntry .apiCredentialAuthFailed r.merchantId r.action
    (computeCredentialFingerprint env.sha256 rawKeyClean)

/-- What is written before the entry. -/
def marked : AuthRejection → CredentialStore → CredentialStore
  | expired cred => (·.expireCredential cred)
  | _ => id

/-- The event is in these tables, and the status that was set. -/
def Recorded (event : AuditEventRow) (s : CredentialStore) (r : AuthRejection) : Prop :=
  event ∈ s.ledger.rows
    ∧ ∀ cred, r = expired cred →
      ∃ row ∈ s.credentials.rows, row.credentialId = cred.credentialId ∧ row.status = .expired

theorem ledger_marked (r : AuthRejection) (s : CredentialStore) :
    (r.marked s).ledger = s.ledger := by
  cases r <;> rfl

end AuthRejection

section
variable {env : AuthEnv} {rawKeyClean lookup : String} {u u' : CredentialUow}
  {code : Nat} {detail : String} {headers : List (String × String)}

theorem appendEvent_not_rejected {entry : AuditEntry}
    (h : appendEvent env.audit entry u = (.error (.httpException code detail headers), u')) :
    False := by
  rw [appendEvent] at h
  cases hinsert : u.session.ledger.insert (auditEvent env.audit entry u.session.ledger) with
  | none =>
      rw [hinsert] at h
      cases h
  | some ledger =>
      rw [hinsert] at h
      cases h

theorem ask_not_rejected {α : Type} {f : CredentialStore → Except PyError α}
    (h : ask f u = (.error (.httpException code detail headers), u')) : False := by
  rw [ask] at h
  cases hresult : f u.session with
  | error err =>
      rw [hresult] at h
      cases h
  | ok a =>
      rw [hresult] at h
      cases h

theorem refuse_rejected {merchantId : Option String} {action text : String}
    (h : refuse env merchantId action rawKeyClean text u
      = (.error (.httpException code detail headers), u')) :
    appendEvent env.audit (authEntry .apiCredentialAuthFailed merchantId action
      (computeCredentialFingerprint env.sha256 rawKeyClean)) u = (.ok (), u') := by
  obtain happend | ⟨_, u₁, happend, hraise⟩ := bind_eq_error h
  · exact absurd happend fun h => appendEvent_not_rejected h
  · obtain ⟨-, rfl⟩ := Prod.mk.inj hraise
    exact happend

theorem judgeCredential_rejected {found : Option ApiCredentialRow}
    (h : judgeCredential env rawKeyClean found u
      = (.error (.httpException code detail headers), u')) :
    ∃ r : AuthRejection, r.Applies env rawKeyClean found
      ∧ appendEvent env.audit (r.entry env rawKeyClean) (u.write r.marked) = (.ok (), u') := by
  cases found with
  | none => exact ⟨.unknown, rfl, refuse_rejected h⟩
  | some cred =>
      rw [judgeCredential] at h
      by_cases hactive : cred.status ≠ .active
      · rw [if_pos hactive] at h
        exact ⟨.inactive cred, ⟨rfl, hactive⟩, refuse_rejected h⟩
      rw [if_neg hactive] at h
      by_cases hpast : cred.Past env.now
      · -- the status is written before the event
        rw [if_pos hpast] at h
        obtain hmodify | ⟨_, u₁, hmodify, hrefuse⟩ := bind_eq_error h
        · cases hmodify
        · obtain ⟨-, rfl⟩ := Prod.mk.inj hmodify
          exact ⟨.expired cred, ⟨rfl, not_not.mp hactive, hpast⟩, refuse_rejected hrefuse⟩
      rw [if_neg hpast] at h
      obtain hverify | ⟨genuine, u₁, hverify, hrest⟩ := bind_eq_error h
      · exact absurd hverify fun h => ask_not_rejected h
      obtain ⟨hverified, rfl⟩ := ask_eq_ok hverify
      cases genuine with
      | false =>
          rw [if_neg Bool.false_ne_true] at hrest
          exact ⟨.wrongSecret cred, ⟨rfl, not_not.mp hactive, hpast, hverified⟩,
            refuse_rejected hrest⟩
      | true =>
          -- a key that is let in raises nothing but what a repository raises
          rw [if_pos rfl] at hrest
          obtain hmodify | ⟨_, u₂, -, hrest⟩ := bind_eq_error hrest
          · cases hmodify
          obtain happend | ⟨_, u₃, -, hpure⟩ := bind_eq_error hrest
          · exact absurd happend fun h => appendEvent_not_rejected h
          · cases hpure

/-- **A key that is rejected has its reason, and its event is in the session.** -/
theorem authenticateWithUow_rejected
    (h : authenticateWithUow env rawKeyClean lookup u
      = (.error (.httpException code detail headers), u')) :
    ∃ (r : AuthRejection) (found : Option ApiCredentialRow),
      u.session.findCredential lookup rawKeyClean = .ok found
      ∧ r.Applies env rawKeyClean found
      ∧ appendEvent env.audit (r.entry env rawKeyClean) (u.write r.marked) = (.ok (), u') := by
  obtain hfind | ⟨found, u₁, hfind, hjudge⟩ := bind_eq_error h
  · exact absurd hfind fun h => ask_not_rejected h
  · obtain ⟨hresult, rfl⟩ := ask_eq_ok hfind
    obtain ⟨r, hr, happend⟩ := judgeCredential_rejected hjudge
    exact ⟨r, found, hresult, hr, happend⟩

theorem recorded_session {r : AuthRejection} {found : Option ApiCredentialRow}
    (hfind : u.session.findCredential lookup rawKeyClean = .ok found)
    (hr : r.Applies env rawKeyClean found)
    (happend : appendEvent env.audit (r.entry env rawKeyClean) (u.write r.marked) = (.ok (), u')) :
    u'.committed = u.committed
      ∧ r.Recorded (auditEvent env.audit (r.entry env rawKeyClean) u.session.ledger)
        u'.session := by
  obtain ⟨-, err, hrun⟩ | ⟨-, ledger, hrows, hrun⟩ :=
    appendEvent_cases env.audit (r.entry env rawKeyClean) (u.write r.marked)
  · cases hrun.symm.trans happend
  obtain ⟨-, rfl⟩ := Prod.mk.inj (hrun.symm.trans happend)
  refine ⟨rfl, ?_, ?_⟩
  · have hledger : (u.write r.marked).session.ledger = u.session.ledger := r.ledger_marked u.session
    rw [hledger] at hrows
    show _ ∈ ledger.rows
    rw [hrows]
    exact List.mem_append_right _ (List.mem_singleton_self _)
  · rintro cred rfl
    obtain ⟨rfl, -, -⟩ := hr
    have hcred := CredentialStore.mem_of_findCredential hfind
    exact ⟨{ cred with status := .expired }, List.mem_map.mpr ⟨cred, hcred, if_pos rfl⟩, rfl, rfl⟩

end

/-! ## When the evidence is durable -/

/-- How the caller ends a unit of work. -/
inductive UowEnding where
  | commit | rollback
deriving DecidableEq

def CredentialUow.endedBy (ending : UowEnding) (u : CredentialUow) : CredentialUow :=
  match ending with
  | .commit => u.commit
  | .rollback => u.rollback

section
variable {env : AuthEnv} {mode : UowMode} {rawKey : String} {u u' : CredentialUow}
  {code : Nat} {detail : String} {headers : List (String × String)}

def AuthRejection.event (env : AuthEnv) (mode : UowMode) (rawKey : String) (u : CredentialUow)
    (r : AuthRejection) : AuditEventRow :=
  auditEvent env.audit (r.entry env (strip rawKey)) (u.view mode).ledger

theorem inOwnUow_eq_error {α : Type} {x : CredentialAction α} {err : ApiError}
    (h : inOwnUow x u = (.error err, u')) :
    ∃ u₁, x u.begin = (.error err, u₁) ∧ u' = u₁.rollback := by
  rw [inOwnUow] at h
  generalize x u.begin = outcome at h ⊢
  obtain ⟨result, u₁⟩ := outcome
  cases result with
  | ok a => cases h
  | error err' =>
      obtain ⟨herr, rfl⟩ := Prod.mk.inj h
      obtain rfl := Except.error.inj herr
      exact ⟨u₁, rfl, rfl⟩

/-- A rejection in a unit of work of its own leaves the tables as they were
    committed; one in a caller's leaves its evidence in the session. -/
theorem authenticateCredential_rejected (hne : strip rawKey ≠ "")
    (h : authenticateCredential env mode rawKey u
      = (.error (.httpException code detail headers), u')) :
    ∃ (r : AuthRejection) (found : Option ApiCredentialRow),
      (u.view mode).findCredential (lookupPrefix (strip rawKey)) (strip rawKey) = .ok found
      ∧ r.Applies env (strip rawKey) found
      ∧ u'.committed = u.committed
      ∧ (mode = .own → u'.session = u.committed)
      ∧ (mode = .active → r.Recorded (r.event env mode rawKey u) u'.session) := by
  have hkey : ¬ (rawKey = "" ∨ strip rawKey = "") := by
    rintro (rfl | hblank)
    · exact hne rfl
    · exact hne hblank
  rw [authenticateCredential, if_neg hkey] at h
  cases mode with
  | active =>
      obtain ⟨r, found, hfind, hr, happend⟩ := authenticateWithUow_rejected h
      obtain ⟨hcommitted, hrecorded⟩ := recorded_session hfind hr happend
      exact ⟨r, found, hfind, hr, hcommitted, fun h => UowMode.noConfusion h, fun _ => hrecorded⟩
  | own =>
      obtain ⟨u₁, hrun, rfl⟩ := inOwnUow_eq_error h
      obtain ⟨r, found, hfind, hr, happend⟩ := authenticateWithUow_rejected hrun
      have hcommitted : u₁.committed = u.committed := (recorded_session hfind hr happend).1
      exact ⟨r, found, hfind, hr, hcommitted, fun _ => hcommitted, fun h => UowMode.noConfusion h⟩

/-- **The evidence of a rejection is not in the database when the call has
    raised, and is there after the unit of work has ended exactly when that was
    the caller's and is committed.** -/
theorem durable_iff (hne : strip rawKey ≠ "")
    (hfresh : ∀ row ∈ u.committed.ledger.rows, row.eventId ≠ env.eventId)
    (h : authenticateCredential env mode rawKey u
      = (.error (.httpException code detail headers), u')) :
    ∃ (r : AuthRejection) (found : Option ApiCredentialRow),
      (u.view mode).findCredential (lookupPrefix (strip rawKey)) (strip rawKey) = .ok found
      ∧ r.Applies env (strip rawKey) found
      ∧ ¬ r.Recorded (r.event env mode rawKey u) u'.committed
      ∧ ∀ ending, r.Recorded (r.event env mode rawKey u) (u'.endedBy ending).committed
        ↔ mode = .active ∧ ending = .commit := by
  obtain ⟨r, found, hfind, hr, hcommitted, hown, hactive⟩ := authenticateCredential_rejected hne h
  have hnot : ¬ r.Recorded (r.event env mode rawKey u) u.committed :=
    fun hrecorded => hfresh _ hrecorded.1 rfl
  refine ⟨r, found, hfind, hr, hcommitted ▸ hnot, fun ending => ?_⟩
  cases ending with
  | rollback =>
      refine iff_of_false ?_ (fun h => nomatch h.2)
      show ¬ r.Recorded _ u'.committed
      exact hcommitted ▸ hnot
  | commit =>
      cases mode with
      | active => exact iff_of_true (hactive rfl) ⟨rfl, rfl⟩
      | own =>
          refine iff_of_false ?_ (fun h => nomatch h.1)
          show ¬ r.Recorded _ u'.session
          exact hown rfl ▸ hnot

end

/-! An expired credential, used with a unit of work of the call's own and in one
of its caller's. -/

namespace SampleRejection

open HashChain

def key : String := "rzp_live_01234567_89abcdef0123456789abcdef"

def eventText : String :=
  "\x7b\"buyer_id\":null,\"event_id\":\"evt_9\",\"event_type\":\"API_CREDENTIAL_AUTH_FAILED\","
    ++ "\"mandate_id\":null,\"merchant_id\":\"mer_1\",\"payload\":\x7b\"action\":"
    ++ "\"Authentication failed: credential 'cred_1' expired\","
    ++ "\"credential_fingerprint\":\"fp_rzp_fcb9cca0ed095f50\"\x7d,\"previous_hash\":\""
    ++ AuditLedger.genesisHash
    ++ "\",\"timestamp\":\"1970-01-01T00:00:06+00:00\",\"transaction_id\":null\x7d"

def known : List (String × String) := [
  (key, "fcb9cca0ed095f5093d96b0f23393b725492992640176a73c3a388d073815d8e"),
  (eventText, "190c305cf9f1eaea9b41671f2070f7039b2e2e736bba923b3b4bfaef3e04c87f")]

def env : AuthEnv := ⟨knownDigests known, 6000000, 6000000, "evt_9"⟩

def credential : ApiCredentialRow where
  credentialId := "cred_1"
  merchantId := "mer_1"
  credentialPrefix := "rzp_live_01234567"
  credentialSecretHash := "d251f8d74705d552126994b23c51d8a74747d592d195c8656b44f995f18e793e"
  status := .active
  scopes := "*"
  createdAt := 1000000
  expiresAt := some (.naive 5000000)
  revokedAt := none
  lastUsedAt := none

def store : CredentialStore := ⟨.singleton credential, .empty⟩

def uow : CredentialUow := ⟨store, store⟩

theorem rejected (mode : UowMode) :
    (authenticateCredential env mode key uow).1
      = .error (unauthorized "API credential has expired.") := by
  cases mode <;> decide +kernel

end SampleRejection

open SampleRejection in
/-- **The event of the expired credential is lost with the unit of work, and its
    status is still active.** -/
theorem expired_not_durable :
    (authenticateCredential env .own key uow).1
        = .error (unauthorized "API credential has expired.")
      ∧ (authenticateCredential env .own key uow).2.committed.ledger.rows = []
      ∧ (authenticateCredential env .own key uow).2.committed.credentials.rows
        = [credential] := by
  decide +kernel

open SampleRejection in
/-- A caller that commits keeps the event. -/
theorem expired_durable_iff :
    ∃ (r : AuthRejection) (found : Option ApiCredentialRow),
      (uow.view .active).findCredential (lookupPrefix (strip key)) (strip key) = .ok found
      ∧ r.Applies env (strip key) found
      ∧ ¬ r.Recorded (r.event env .active key uow)
        (authenticateCredential env .active key uow).2.committed
      ∧ ∀ ending, r.Recorded (r.event env .active key uow)
          ((authenticateCredential env .active key uow).2.endedBy ending).committed
        ↔ UowMode.active = .active ∧ ending = .commit := by
  have hrejected : authenticateCredential env .active key uow
      = (.error (.httpException 401 "API credential has expired." [("WWW-Authenticate", "Bearer")]),
        (authenticateCredential env .active key uow).2) :=
    Prod.ext (rejected .active) rfl
  generalize (authenticateCredential env .active key uow).2 = u' at hrejected ⊢
  have hne : strip key ≠ "" := by decide +kernel
  have hfresh : ∀ row ∈ uow.committed.ledger.rows, row.eventId ≠ env.eventId :=
    fun _ h => absurd h List.not_mem_nil
  exact durable_iff hne hfresh hrejected

end MandateGateway
