import MandateGateway.Lib.Runs
import MandateGateway.Security.Authentication
import MandateGateway.Security.RateLimiter

/-! # Guessing the key of a credential

    A request is limited by the fingerprint of the key that it shows, which
    differs with every guess, and its failure is counted only after the key has
    been compared.  So what bounds the comparisons is how often guesses are
    made.

    * `compares_iff`: which guesses are compared;
    * `guesses_bounded_iff`: over runs, when the comparisons stay within the
      limit of failures. -/

namespace MandateGateway

open Clock Text Runs RateLimiter

/-- The headers of a request, and what the process supplies to it: the times of
    the two clocks and the identifier of the audit event. -/
structure PrincipalCall where
  authHeader   : Option String
  apiKeyHeader : Option String
  time         : Rat
  now          : Instant
  auditNow     : Instant
  eventId      : String

namespace PrincipalCall

/-- `raw_key`, empty where there is none. -/
def rawKey (call : PrincipalCall) : String :=
  match call.authHeader.filter (· ≠ "") with
  | some header =>
      if "Bearer ".toList.isPrefixOf header.toList then
        strip (String.ofList (header.toList.drop 7))
      else strip header
  | none =>
      match call.apiKeyHeader.filter (· ≠ "") with
      | some header => strip header
      | none => ""

def auth (sha256 : String → String) (call : PrincipalCall) : AuthEnv :=
  ⟨sha256, call.now, call.auditNow, call.eventId⟩

def fingerprint (sha256 : String → String) (call : PrincipalCall) : String :=
  computeCredentialFingerprint sha256 call.rawKey

end PrincipalCall

/-- `global_rate_limiter`, and the database. -/
structure SecurityState where
  limiter : RateLimiter
  uow     : CredentialUow

/-- `HTTP_429_TOO_MANY_REQUESTS`. -/
def LimiterError.answer : LimiterError → ApiError
  | .rateLimitExceeded message retryAfterSeconds =>
      .httpException 429 message [("Retry-After", toString retryAfterSeconds)]
  | .indexError => .indexError

def getCurrentPrincipal (sha256 : String → String) (s : SecurityState) (call : PrincipalCall) :
    Except ApiError AuthenticatedPrincipal × SecurityState :=
  if call.rawKey = "" then
    (.error (unauthorized "Invalid API authentication credentials."), s)
  else
    match s.limiter.checkRateLimit call.time (call.fingerprint sha256) "GENERAL_API" with
    | (.error err, limiter) => (.error err.answer, { s with limiter := limiter })
    | (.ok (), limiter) =>
        match authenticateCredential (call.auth sha256) .own call.rawKey s.uow with
        -- only an `HTTPException` is counted as a failure
        | (.error (.httpException statusCode detail headers), uow) =>
            match limiter.checkRateLimit call.time (call.fingerprint sha256) "AUTH_FAILURES" with
            | (.error err, limiter') => (.error err.answer, ⟨limiter', uow⟩)
            | (.ok (), limiter') =>
                (.error (.httpException statusCode detail headers), ⟨limiter', uow⟩)
        | (answer, uow) => (answer, ⟨limiter, uow⟩)

/-! ## What is compared -/

/-- The credential is active and not past its expiry. -/
def ApiCredentialRow.Live (now : Instant) (cred : ApiCredentialRow) : Prop :=
  cred.status = .active ∧ ¬ cred.Past now

instance (now : Instant) (cred : ApiCredentialRow) : Decidable (cred.Live now) :=
  inferInstanceAs (Decidable (_ ∧ _))

/-- The credential whose digest `_authenticate_with_uow` compares a key with. -/
def comparedCredential (now : Instant) (rawKeyClean : String) (s : CredentialStore) :
    Option ApiCredentialRow :=
  match s.findCredential (lookupPrefix rawKeyClean) rawKeyClean with
  | .ok (some cred) => if cred.Live now then some cred else none
  | _ => none

def Compares (sha256 : String → String) (call : PrincipalCall) (s : SecurityState) : Prop :=
  call.rawKey ≠ ""
    ∧ (s.limiter.checkRateLimit call.time (call.fingerprint sha256) "GENERAL_API").1 = .ok ()
    ∧ (comparedCredential call.now (strip call.rawKey) s.uow.committed).isSome = true

instance (sha256 : String → String) (call : PrincipalCall) (s : SecurityState) :
    Decidable (Compares sha256 call s) :=
  inferInstanceAs (Decidable (_ ∧ _ ∧ _))

/-- The one credential with the prefix of `cred` has its status and expiry. -/
def FoundAs (cred : ApiCredentialRow) (s : CredentialStore) : Prop :=
  ∃ cred', s.getCredentialByPrefix cred.credentialPrefix = .ok (some cred')
    ∧ cred'.status = cred.status ∧ cred'.expiresAt = cred.expiresAt

/-- The call shows a key with the prefix of this credential. -/
structure Guesses (cred : ApiCredentialRow) (call : PrincipalCall) : Prop where
  shown  : call.rawKey ≠ ""
  lookup : lookupPrefix (strip call.rawKey) = cred.credentialPrefix

section
variable {sha256 : String → String} {cred : ApiCredentialRow} {call : PrincipalCall}
  {s : SecurityState} {store : CredentialStore} {now : Instant}

theorem comparedCredential_isSome_iff {rawKeyClean : String} (hfound : FoundAs cred store)
    (hlookup : lookupPrefix rawKeyClean = cred.credentialPrefix) :
    (comparedCredential now rawKeyClean store).isSome = true ↔ cred.Live now := by
  obtain ⟨cred', hget, hstatus, hexpires⟩ := hfound
  rw [← hlookup] at hget
  have hlive : cred'.Live now ↔ cred.Live now := by
    rw [ApiCredentialRow.Live, ApiCredentialRow.Live, ApiCredentialRow.Past,
      ApiCredentialRow.Past, hstatus, hexpires]
  rw [comparedCredential, CredentialStore.findCredential_of_lookup hget, ← hlive]
  dsimp only
  by_cases h : cred'.Live now
  · rw [if_pos h]
    exact iff_of_true rfl h
  · rw [if_neg h]
    exact iff_of_false Bool.false_ne_true h

/-- **A guess is compared while the credential is live, if the limit of requests
    lets it through.** -/
theorem compares_iff (hguess : Guesses cred call) (hfound : FoundAs cred s.uow.committed) :
    Compares sha256 call s ↔ cred.Live call.now
      ∧ (s.limiter.checkRateLimit call.time (call.fingerprint sha256) "GENERAL_API").1
        = .ok () := by
  rw [Compares, comparedCredential_isSome_iff hfound hguess.lookup]
  constructor
  · rintro ⟨-, hallowed, hlive⟩
    exact ⟨hlive, hallowed⟩
  · rintro ⟨hlive, hallowed⟩
    exact ⟨hguess.shown, hallowed, hlive⟩

/-! ## One call -/

theorem getCurrentPrincipal_cases (sha256 : String → String) (s : SecurityState)
    (call : PrincipalCall) :
    (getCurrentPrincipal sha256 s call).2 = s
    ∨ ∃ uow, (uow = s.uow
        ∨ uow = (authenticateCredential (call.auth sha256) .own call.rawKey s.uow).2)
      ∧ ((getCurrentPrincipal sha256 s call).2
          = ⟨(s.limiter.checkRateLimit call.time (call.fingerprint sha256) "GENERAL_API").2, uow⟩
        ∨ (getCurrentPrincipal sha256 s call).2
          = ⟨((s.limiter.checkRateLimit call.time (call.fingerprint sha256)
              "GENERAL_API").2.checkRateLimit call.time (call.fingerprint sha256)
              "AUTH_FAILURES").2, uow⟩) := by
  rw [getCurrentPrincipal]
  by_cases hempty : call.rawKey = ""
  · rw [if_pos hempty]
    exact .inl rfl
  · rw [if_neg hempty]
    refine .inr ?_
    match s.limiter.checkRateLimit call.time (call.fingerprint sha256) "GENERAL_API" with
    | (.error err, limiter) => exact ⟨s.uow, .inl rfl, .inl rfl⟩
    | (.ok (), limiter) =>
        dsimp only
        match authenticateCredential (call.auth sha256) .own call.rawKey s.uow with
        | (.ok p, uow) => exact ⟨uow, .inr rfl, .inl rfl⟩
        | (.error (.raised err), uow) => exact ⟨uow, .inr rfl, .inl rfl⟩
        | (.error .indexError, uow) => exact ⟨uow, .inr rfl, .inl rfl⟩
        | (.error (.httpException statusCode detail headers), uow) =>
            refine ⟨uow, .inr rfl, .inr ?_⟩
            dsimp only
            match limiter.checkRateLimit call.time (call.fingerprint sha256) "AUTH_FAILURES" with
            | (.error err, limiter') => rfl
            | (.ok (), limiter') => rfl

theorem foundAs_getCurrentPrincipal (hfound : FoundAs cred s.uow.committed) :
    FoundAs cred (getCurrentPrincipal sha256 s call).2.uow.committed := by
  have hown : FoundAs cred
      (authenticateCredential (call.auth sha256) .own call.rawKey s.uow).2.committed := by
    obtain hsame | ⟨used, ledger, hcommitted⟩ :=
      committed_authenticateCredential (call.auth sha256) call.rawKey s.uow
    · rw [hsame]
      exact hfound
    · obtain ⟨cred', hget, hstatus, hexpires⟩ := hfound
      obtain ⟨cred'', hget', hstatus', hexpires'⟩ :=
        CredentialStore.getCredentialByPrefix_updateLastUsed hget used.credentialId
          (call.auth sha256).now
      rw [hcommitted]
      exact ⟨cred'', hget', hstatus'.trans hstatus, hexpires'.trans hexpires⟩
  obtain hsame | ⟨uow, huow, hstate⟩ := getCurrentPrincipal_cases sha256 s call
  · rw [hsame]
    exact hfound
  · have hleft : FoundAs cred uow.committed := by
      obtain rfl | rfl := huow
      · exact hfound
      · exact hown
    obtain hgeneral | hfailures := hstate
    · rw [hgeneral]
      exact hleft
    · rw [hfailures]
      exact hleft

theorem generalKey_ne (fingerprint fingerprint' : String) :
    compositeKey "GENERAL_API" fingerprint ≠ compositeKey "AUTH_FAILURES" fingerprint' := by
  intro heq
  have hhead := congrArg (fun key => key.toList.head?) heq
  rw [compositeKey, compositeKey] at hhead
  simp at hhead

theorem timestamps_getCurrentPrincipal (fingerprint : String) :
    ((getCurrentPrincipal sha256 s call).2.limiter.timestamps
      (compositeKey "GENERAL_API" fingerprint)).Sublist
      (s.limiter.timestamps (compositeKey "GENERAL_API" fingerprint) ++ [call.time]) := by
  obtain hsame | ⟨uow, -, hgeneral | hfailures⟩ := getCurrentPrincipal_cases sha256 s call
  · rw [hsame]
    exact List.sublist_append_left _ _
  · rw [hgeneral]
    exact timestamps_checkRateLimit _
  -- failures are kept under a key of their own
  · rw [hfailures]
    show ((RateLimiter.checkRateLimit _ _ _ _).2.timestamps _).Sublist _
    rw [timestamps_checkRateLimit_of_ne (generalKey_ne _ _)]
    exact timestamps_checkRateLimit _

theorem fingerprint_ne_empty (sha256 : String → String) (call : PrincipalCall) :
    call.fingerprint sha256 ≠ "" := by
  rw [PrincipalCall.fingerprint, computeCredentialFingerprint]
  by_cases hblank : call.rawKey = "" ∨ strip call.rawKey = ""
  · rw [if_pos hblank]
    decide
  · rw [if_neg hblank]
    intro heq
    have hhead := congrArg (fun text => text.toList.head?) heq
    simp at hhead

end

/-! ## Whole runs -/

abbrev SecurityStep : Type :=
  Step SecurityState PrincipalCall (Except ApiError AuthenticatedPrincipal)

def failureLimit : Int := (RateLimiter.global.getLimitForCategory "AUTH_FAILURES").1

/-- The call is made in the window of 60 seconds that ends at this time. -/
def InWindow (t : Rat) (call : PrincipalCall) : Prop := t - 60 < call.time ∧ call.time ≤ t

instance (t : Rat) (call : PrincipalCall) : Decidable (InWindow t call) :=
  inferInstanceAs (Decidable (_ ∧ _))

/-- The comparisons of a window. -/
def comparisonsIn (sha256 : String → String) (t : Rat) (history : List SecurityStep) : Nat :=
  history.countP fun c => Compares sha256 c.act c.pre ∧ InWindow t c.act

/-- The guesses of a window that are made while the credential is live. -/
def guessesIn (cred : ApiCredentialRow) (t : Rat) (calls : List PrincipalCall) : Nat :=
  calls.countP fun call => cred.Live call.now ∧ InWindow t call

/-- The calls since a window began. -/
def callsSince (t : Rat) (history : List SecurityStep) : Nat :=
  history.countP fun c => t - 60 < c.act.time

/-- No window has more comparisons than the limit of failures. -/
def ComparisonsBounded (sha256 : String → String) (history : List SecurityStep) : Prop :=
  ∀ t, comparisonsIn sha256 t history ≤ failureLimit

/-- No window has more guesses, while the credential is live, than the limit of
    failures. -/
def GuessesBounded (cred : ApiCredentialRow) (calls : List PrincipalCall) : Prop :=
  ∀ t, guessesIn cred t calls ≤ failureLimit

structure Watched (cred : ApiCredentialRow) (past : List SecurityStep) (s : SecurityState) :
    Prop where
  found    : FoundAs cred s.uow.committed
  requests : ∀ fingerprint, (s.limiter.timestamps (compositeKey "GENERAL_API" fingerprint)).Sublist
    (past.map fun c => c.act.time)

section
variable {sha256 : String → String} {cred : ApiCredentialRow} {past : List SecurityStep}
  {call : PrincipalCall} {s : SecurityState} {u : CredentialUow} {calls : List PrincipalCall}

theorem Watched.step (h : Watched cred past s) (call : PrincipalCall) :
    Watched cred (past ++ [stepAt (getCurrentPrincipal sha256) s call])
      (getCurrentPrincipal sha256 s call).2 := by
  refine ⟨foundAs_getCurrentPrincipal h.found, ?_⟩
  intro fingerprint
  rw [List.map_append]
  exact (timestamps_getCurrentPrincipal fingerprint).trans
    ((h.requests fingerprint).append (List.Sublist.refl _))

theorem run_watched (hfound : FoundAs cred u.committed) (calls : List PrincipalCall) :
    Watched cred (steps (getCurrentPrincipal sha256) ⟨.global, u⟩ calls)
      (exec (getCurrentPrincipal sha256) ⟨.global, u⟩ calls) := by
  refine history_inv (P := fun _ => True) (fun past s call h _ => h.step call) ?_
    fun _ _ => trivial
  exact ⟨hfound, fun _ => List.nil_sublist _⟩

/-- A guess is compared if fewer than 100 calls came before it in the window. -/
theorem Watched.compares (h : Watched cred past s) (hguess : Guesses cred call)
    (hlive : cred.Live call.now)
    (hfew : callsSince call.time past < 100) :
    Compares sha256 call s := by
  refine (compares_iff hguess h.found).mpr ⟨hlive, ?_⟩
  have hlength : (s.limiter.validTimestamps call.time "GENERAL_API"
      (call.fingerprint sha256)).length < 100 := by
    refine Nat.lt_of_le_of_lt ?_ hfew
    have hsublist := (h.requests (call.fingerprint sha256)).filter fun ts => call.time - 60 < ts
    refine Nat.le_trans hsublist.length_le ?_
    -- the limiter counts the requests of one fingerprint, the past those of all
    rw [← List.countP_eq_length_filter, List.countP_map]
    exact Nat.le_refl _
  have hlt : ((s.limiter.validTimestamps call.time "GENERAL_API"
      (call.fingerprint sha256)).length : Int)
      < (s.limiter.getLimitForCategory "GENERAL_API").1 :=
    Int.ofNat_lt.mpr hlength
  rw [checkRateLimit_of_lt (fingerprint_ne_empty sha256 call) hlt]

/-- The clocks do not go back. -/
def InOrder (calls : List PrincipalCall) : Prop :=
  calls.Pairwise fun a b => a.time ≤ b.time ∧ a.now ≤ b.now

instance (calls : List PrincipalCall) : Decidable (InOrder calls) :=
  inferInstanceAs (Decidable (calls.Pairwise _))

/-- Every guess that is made while the credential is live is compared. -/
def AllCompared (sha256 : String → String) (cred : ApiCredentialRow)
    (history : List SecurityStep) : Prop :=
  ∀ c ∈ history, cred.Live c.act.now → Compares sha256 c.act c.pre

theorem ApiCredentialRow.Live.before {now earlier : Instant} (h : cred.Live now)
    (hle : earlier ≤ now) : cred.Live earlier :=
  ⟨h.1, fun hpast => h.2 (hpast.mono hle)⟩

theorem guessesIn_eq (cred : ApiCredentialRow) (t : Rat) (s : SecurityState)
    (calls : List PrincipalCall) :
    guessesIn cred t calls = (steps (getCurrentPrincipal sha256) s calls).countP fun c =>
      cred.Live c.act.now ∧ InWindow t c.act := by
  have hacts := congrArg (guessesIn cred t)
    (map_act_steps (f := getCurrentPrincipal sha256) s calls)
  rw [← hacts, guessesIn, List.countP_map]
  rfl

theorem guessesIn_le
    (hall : AllCompared sha256 cred (steps (getCurrentPrincipal sha256) s calls)) (t : Rat) :
    guessesIn cred t calls
      ≤ comparisonsIn sha256 t (steps (getCurrentPrincipal sha256) s calls) := by
  rw [@guessesIn_eq sha256 cred t s calls]
  refine List.countP_mono_left ?_
  intro c hc hmade
  obtain ⟨hlive, hwindow⟩ := of_decide_eq_true hmade
  exact decide_eq_true ⟨hall c hc hlive, hwindow⟩

theorem allCompared_of_bounded (hfound : FoundAs cred u.committed)
    (hguesses : ∀ call ∈ calls, Guesses cred call) (horder : InOrder calls)
    (hbounded : ComparisonsBounded sha256
      (steps (getCurrentPrincipal sha256) ⟨.global, u⟩ calls)) :
    AllCompared sha256 cred (steps (getCurrentPrincipal sha256) ⟨.global, u⟩ calls) := by
  induction calls using List.reverseRecOn with
  | nil => exact List.forall_mem_nil _
  | append_singleton calls call ih =>
      rw [InOrder, List.pairwise_append] at horder
      rw [steps_concat] at hbounded ⊢
      have hall := ih (fun a ha => hguesses a (List.mem_append_left _ ha)) horder.1 (by
        intro t
        refine Int.le_trans (Int.ofNat_le.mpr ?_) (hbounded t)
        rw [comparisonsIn, comparisonsIn, List.countP_append]
        exact Nat.le_add_right _ _)
      rw [AllCompared, List.forall_mem_append, List.forall_mem_singleton]
      refine ⟨hall, ?_⟩
      rw [stepAt_act, stepAt_pre]
      intro hlive
      refine (run_watched hfound calls).compares
        (hguesses call (List.mem_append_right _ (List.mem_singleton_self call))) hlive ?_
      -- the calls of the window before this one were guesses that were compared
      have hbefore : callsSince call.time (steps (getCurrentPrincipal sha256) ⟨.global, u⟩ calls)
          ≤ comparisonsIn sha256 call.time
            (steps (getCurrentPrincipal sha256) ⟨.global, u⟩ calls) := by
        refine List.countP_mono_left ?_
        intro c hc hrecent
        have hact : c.act ∈ calls := by
          rw [← map_act_steps (f := getCurrentPrincipal sha256) ⟨.global, u⟩ calls]
          exact List.mem_map_of_mem hc
        obtain ⟨htime, hnow⟩ := horder.2.2 c.act hact call (List.mem_singleton_self call)
        exact decide_eq_true
          ⟨hall c hc (hlive.before hnow), of_decide_eq_true hrecent, htime⟩
      have hlimit := hbounded call.time
      rw [comparisonsIn, List.countP_append] at hlimit
      rw [comparisonsIn] at hbefore
      have hfive : failureLimit = 5 := rfl
      omega

theorem allCompared_of_short (hfound : FoundAs cred u.committed)
    (hguesses : ∀ call ∈ calls, Guesses cred call) (hshort : calls.length ≤ 100) :
    AllCompared sha256 cred (steps (getCurrentPrincipal sha256) ⟨.global, u⟩ calls) := by
  intro c hc hlive
  obtain ⟨l, call, r, rfl, rfl⟩ := mem_steps_iff.mp hc
  have hguess := hguesses call (List.mem_append_right _ List.mem_cons_self)
  refine (run_watched hfound l).compares hguess hlive (Nat.lt_of_le_of_lt List.countP_le_length ?_)
  rw [← List.length_map (f := Step.act), map_act_steps]
  rw [List.length_append, List.length_cons] at hshort
  omega

/-- **The comparisons of every window stay within the limit of failures exactly
    when the guesses do.** -/
theorem guesses_bounded_iff (hfound : FoundAs cred u.committed)
    (hguesses : ∀ call ∈ calls, Guesses cred call) (horder : InOrder calls) :
    ComparisonsBounded sha256 (steps (getCurrentPrincipal sha256) ⟨.global, u⟩ calls)
      ↔ GuessesBounded cred calls := by
  constructor
  · intro hbounded t
    have hall := allCompared_of_bounded hfound hguesses horder hbounded
    exact Int.le_trans (Int.ofNat_le.mpr (guessesIn_le hall t)) (hbounded t)
  · intro hbounded t
    refine Int.le_trans (Int.ofNat_le.mpr ?_) (hbounded t)
    rw [@guessesIn_eq sha256 cred t ⟨.global, u⟩ calls]
    refine List.countP_mono_left ?_
    intro c hc hcompared
    obtain ⟨hcompares, hwindow⟩ := of_decide_eq_true hcompared
    obtain ⟨l, call, r, rfl, rfl⟩ := mem_steps_iff.mp hc
    have hguess := hguesses call (List.mem_append_right _ List.mem_cons_self)
    exact decide_eq_true
      ⟨((compares_iff hguess (run_watched hfound l).found).mp hcompares).1, hwindow⟩

end

/-! Six keys that are guessed in six seconds. -/

namespace SampleGuess

def known : List (String × String) := [
  ("rzp_live_01234567_guess1",
    "0198d11ff32630e7a902b940f298aedb16a862fee7208fece5734cbe7390b896"),
  ("rzp_live_01234567_guess2",
    "e6544a09ac63cf2c273cac6390306592a97abd3b62c288de19a4029baf47ede7"),
  ("rzp_live_01234567_guess3",
    "a0ac2dfe8bb0e56b046b5dc76d2404c8860600b253cb605b4e19bd3df878e09a"),
  ("rzp_live_01234567_guess4",
    "63a2af9de5c50ce387c46db11d02d0c03d8d08e0805a6f5fad35dc00b0c1660b"),
  ("rzp_live_01234567_guess5",
    "8fe6221432c2c60bc60b645627198b8c76441ba79e2650f3d6bbb8c70b37a04a"),
  ("rzp_live_01234567_guess6",
    "fe7bfd9676adc92d2ad450d17960f700f40d4067c329be3a52cb1fbee32da492"),
  ("rzp_sec_v1_salt_9876543210_rzp_live_01234567_guess1",
    "3187b8443705a3d76214d816286bd7e77f044a1f1bc4e7312b4e4c5a7a5b88fc"),
  ("rzp_sec_v1_salt_9876543210_rzp_live_01234567_guess2",
    "563dcd83ce7088490f3d8b3f116e21e44fe34983da871fa9fcab2ab6e2e10c1c"),
  ("rzp_sec_v1_salt_9876543210_rzp_live_01234567_guess3",
    "465e295115e5e1f00efe7143dec44bf7143160c8f1919925c63010ba800a90b9"),
  ("rzp_sec_v1_salt_9876543210_rzp_live_01234567_guess4",
    "ac87fbfd68a7b27b76fa67b181f787c0143c20fbc9bda0149848b050767555ad"),
  ("rzp_sec_v1_salt_9876543210_rzp_live_01234567_guess5",
    "2e8324d15f508c7144a17c3d625f6e20a7bd9f2835f762f396f1fb5fe0f036da"),
  ("rzp_sec_v1_salt_9876543210_rzp_live_01234567_guess6",
    "4a68e1bbb847aea4a7def7116d93d41822f1de071aae2584a2dc0832a80fe248")]

def sha256 : String → String := HashChain.knownDigests known

def cred : ApiCredentialRow where
  credentialId := "cred_aabbccddeeff"
  merchantId := "mer_1"
  credentialPrefix := "rzp_live_01234567"
  credentialSecretHash := "d251f8d74705d552126994b23c51d8a74747d592d195c8656b44f995f18e793e"
  status := .active
  scopes := "audit:read"
  createdAt := 0
  expiresAt := none
  revokedAt := none
  lastUsedAt := none

def store : CredentialStore := ⟨.singleton cred, .empty⟩

def uow : CredentialUow := ⟨store, store⟩

theorem foundAs : FoundAs cred uow.committed := ⟨cred, rfl, rfl, rfl⟩

def guess (n : Nat) : PrincipalCall where
  authHeader := some ("Bearer rzp_live_01234567_guess" ++ toString n)
  apiKeyHeader := none
  time := n
  now := n * 1000000
  auditNow := n * 1000000
  eventId := "evt_" ++ toString n

def five : List PrincipalCall := [guess 1, guess 2, guess 3, guess 4, guess 5]

def six : List PrincipalCall := five ++ [guess 6]

theorem guesses_six : ∀ call ∈ six, Guesses cred call := by
  have hall : six.Forall fun call =>
      call.rawKey ≠ "" ∧ lookupPrefix (strip call.rawKey) = cred.credentialPrefix := by
    decide +kernel
  intro call hcall
  obtain ⟨hshown, hlookup⟩ := List.forall_iff_forall_mem.mp hall call hcall
  exact ⟨hshown, hlookup⟩

theorem guesses_five : ∀ call ∈ five, Guesses cred call :=
  fun call hcall => guesses_six call (List.mem_append_left _ hcall)

end SampleGuess

open SampleGuess in
/-- Six different guesses are compared within a minute. -/
theorem six_guesses_compared :
    ¬ ComparisonsBounded sha256 (steps (getCurrentPrincipal sha256) ⟨.global, uow⟩ six) := by
  intro hbounded
  have hall := @allCompared_of_short sha256 cred uow six foundAs guesses_six (by decide)
  have hsix : guessesIn cred 6 six = 6 := by decide +kernel
  have hle := guessesIn_le hall 6
  have hlimit := hbounded 6
  have hfive : failureLimit = 5 := rfl
  omega

open SampleGuess in
/-- Five guesses stay within the limit. -/
theorem five_guesses_bounded :
    ComparisonsBounded sha256 (steps (getCurrentPrincipal sha256) ⟨.global, uow⟩ five) := by
  refine (guesses_bounded_iff foundAs guesses_five (by decide)).mpr ?_
  intro t
  exact Int.ofNat_le.mpr (List.countP_le_length (l := five))

end MandateGateway
