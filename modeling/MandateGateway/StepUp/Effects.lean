import MandateGateway.Lib.Runs
import MandateGateway.StepUp.Engine

/-! # What the calls of the step-up engine do

    Runs of the engine, and the effect of each step on its store: a challenge
    is created under a new identifier, expires, or is approved by a
    confirmation of its context, and nothing else is written.  A challenge
    that has left the pending status keeps the status it got. -/

namespace MandateGateway

open Clock Exceptions OrderedMap Runs

/-- A call of the engine, with what the process supplies to it. -/
inductive StepUpCall where
  | create (env : Ambient) (terms : ChallengeTerms) (at? : Option Instant)
  | confirm (env : Ambient) (confirmation : TrustedConfirmation) (at? : Option Instant)
  | evaluate (env : Ambient) (query : StepUpQuery) (at? : Option Instant)
deriving DecidableEq

/-- What a call returns or raises. -/
inductive StepUpAnswer where
  | challenge (result : Except PyError StepUpChallengeRecord)
  | evaluation (result : Except PyError StepUpEvaluationResult)

namespace StepUpEngine

def step (e : StepUpEngine) : StepUpCall → StepUpAnswer × StepUpEngine
  | .create env terms at? =>
      let (result, e') := createChallenge env terms at? e
      (.challenge result, e')
  | .confirm env confirmation at? =>
      let (result, e') := recordHumanConfirmation env confirmation at? e
      (.challenge result, e')
  | .evaluate env query at? => (.evaluation (evaluateAuthorizationStepUp env query at? e), e)

abbrev CallStep := Step StepUpEngine StepUpCall StepUpAnswer

/-! ## What steps do -/

/-- A creation takes an identifier that is not in use. -/
def FreshId (c : CallStep) : Prop :=
  ∀ env terms at?, c.act = .create env terms at? →
    c.pre.challenges.get (newChallengeId env) = none

def Creates (record : StepUpChallengeRecord) (c : CallStep) : Prop :=
  (∃ env terms at?, c.act = .create env terms at?) ∧ c.out = .challenge (.ok record)

/-- The context submitted is the one the challenge is bound to. -/
structure ContextMatches (record : StepUpChallengeRecord) (c : TrustedConfirmation) : Prop where
  mandate     : Text.strip c.mandateId = record.mandateId
  transaction : Text.strip c.transactionId = record.transactionId
  cartHash    : normalizedHash c.cartHash = record.cartHash
  amount      : c.proposedPaise = record.proposedPaise
  merchant    : Text.strip c.merchantId = record.merchantId

/-- The step records a confirmation of the challenge, before its expiry and
    with its context. -/
def Confirms (record : StepUpChallengeRecord) (c : CallStep) : Prop :=
  ∃ env confirmation at?, c.act = .confirm env confirmation at?
    ∧ (∃ approved, c.out = .challenge (.ok approved))
    ∧ Text.strip confirmation.challengeId = record.challengeId
    ∧ env.time at? < record.expiresAt ∧ ContextMatches record confirmation

/-- The two records have the same bindings and times; their resolutions may
    differ. -/
def SameChallenge (a b : StepUpChallengeRecord) : Prop :=
  { a with status := b.status, confirmedAt := b.confirmedAt, confirmedBy := b.confirmedBy } = b

theorem SameChallenge.refl (a : StepUpChallengeRecord) : SameChallenge a a := rfl

theorem SameChallenge.trans {a b c : StepUpChallengeRecord} (hab : SameChallenge a b)
    (hbc : SameChallenge b c) : SameChallenge a c := by
  rw [← hbc, ← hab]
  rfl

theorem bindingError_eq_none_iff {binding bound normalized submitted : String} :
    bindingError binding bound normalized submitted = none ↔ normalized = bound := by
  rw [bindingError, check_eq_none_iff, not_not]
  exact ⟨fun h => h.1.symm, fun h => ⟨h.symm, rfl⟩⟩

theorem amountError_eq_none_iff {bound submitted : Int} :
    amountError bound submitted = none ↔ submitted = bound := by
  rw [amountError]
  by_cases h : bound = submitted
  · rw [if_neg (not_not.mpr h)]
    exact ⟨fun _ => h.symm, fun _ => rfl⟩
  · rw [if_pos h]
    constructor
    · intro hnone
      cases hb : rupees bound with
      | error err => simp [hb] at hnone
      | ok b => cases hs : rupees submitted <;> simp [hb, hs] at hnone
    · intro heq
      exact absurd heq.symm h

theorem contextError_eq_none_iff {record : StepUpChallengeRecord} {c : TrustedConfirmation} :
    contextError record c = none ↔ ContextMatches record c := by
  rw [contextError]
  simp only [Option.orElse_eq_none, bindingError_eq_none_iff, amountError_eq_none_iff]
  constructor
  · rintro ⟨hmandate, htransaction, hcart, hamount, hmerchant⟩
    exact ⟨hmandate, htransaction, hcart, hamount, hmerchant⟩
  · intro h
    exact ⟨h.mandate, h.transaction, h.cartHash, h.amount, h.merchant⟩

/-- What a step does to the store. -/
inductive Effect (c : CallStep) : Prop
  | unchanged (hpost : c.post = c.pre)
  | created (record : StepUpChallengeRecord) (hcreates : Creates record c)
      (hid : c.pre.challenges.get record.challengeId = none) (hstatus : record.status = .pending)
      (hpost : c.post.challenges = c.pre.challenges.set record.challengeId record)
  | expired (id : String) (record : StepUpChallengeRecord)
      (hget : c.pre.challenges.get id = some record) (hpending : record.status = .pending)
      (hpost : c.post.challenges = c.pre.challenges.set id (expiredRecord record))
  | approved (id : String) (record record' : StepUpChallengeRecord)
      (hget : c.pre.challenges.get id = some record) (hpending : record.status = .pending)
      (hsame : SameChallenge record record') (hstatus : record'.status = .approved)
      (hconfirms : record.challengeId = id → Confirms record c)
      (hpost : c.post.challenges = c.pre.challenges.set id record')

theorem createChallenge_effect {env : Ambient} {terms : ChallengeTerms} {at? : Option Instant}
    {e : StepUpEngine} (hfresh : FreshId (stepAt step e (.create env terms at?))) :
    Effect (stepAt step e (.create env terms at?)) := by
  have hid := hfresh env terms at? rfl
  cases hexpires : addSeconds (env.time at?) terms.ttlSeconds with
  | none =>
      refine .unchanged ?_
      show (createChallenge env terms at? e).2 = e
      rw [createChallenge]
      simp only [hexpires]
  | some expires =>
      have hcall : createChallenge env terms at? e
          = (.ok (terms.record (newChallengeId env) (env.time at?) expires),
            ⟨e.challenges.set (newChallengeId env)
              (terms.record (newChallengeId env) (env.time at?) expires)⟩) := by
        rw [createChallenge]
        simp only [hexpires]
      refine .created (terms.record (newChallengeId env) (env.time at?) expires) ⟨?_, ?_⟩ hid rfl ?_
      · exact ⟨env, terms, at?, rfl⟩
      · show StepUpAnswer.challenge (createChallenge env terms at? e).1 = _
        rw [hcall]
      · show (createChallenge env terms at? e).2.challenges = _
        rw [hcall]
        rfl

theorem recordHumanConfirmation_effect {env : Ambient} {confirmation : TrustedConfirmation}
    {at? : Option Instant} {e : StepUpEngine} :
    Effect (stepAt step e (.confirm env confirmation at?)) := by
  -- the call and its answer, under each of the checks
  generalize hcall : recordHumanConfirmation env confirmation at? e = answer
  have hstep : step e (.confirm env confirmation at?) = (.challenge answer.1, answer.2) := by
    rw [step, hcall]
  have hpost : (stepAt step e (.confirm env confirmation at?)).post = answer.2 := by
    rw [stepAt_post, hstep]
  rw [recordHumanConfirmation] at hcall
  cases hget : e.challenges.get (Text.strip confirmation.challengeId) with
  | none =>
      simp only [hget] at hcall
      exact .unchanged (by rw [hpost, ← hcall]; rfl)
  | some record =>
      simp only [hget] at hcall
      by_cases hpending : record.status = .pending
      · rw [if_neg (not_not.mpr hpending)] at hcall
        by_cases hexpired : record.expiresAt ≤ env.time at?
        · rw [if_pos hexpired] at hcall
          exact .expired _ record hget hpending (by rw [hpost, ← hcall]; rfl)
        · rw [if_neg hexpired] at hcall
          cases hcontext : contextError record confirmation with
          | some err =>
              simp only [hcontext] at hcall
              exact .unchanged (by rw [hpost, ← hcall]; rfl)
          | none =>
              simp only [hcontext] at hcall
              refine .approved _ record (approvedRecord record confirmation.confirmedBy
                (env.time at?)) hget hpending rfl rfl ?_ (by rw [hpost, ← hcall]; rfl)
              intro hid
              refine ⟨env, confirmation, at?, rfl,
                ⟨approvedRecord record confirmation.confirmedBy (env.time at?), ?_⟩, hid.symm,
                Int.not_le.mp hexpired, contextError_eq_none_iff.mp hcontext⟩
              rw [stepAt_out, hstep, ← hcall]
      · rw [if_pos hpending] at hcall
        exact .unchanged (by rw [hpost, ← hcall]; rfl)

theorem step_effect (e : StepUpEngine) (call : StepUpCall)
    (hfresh : FreshId (stepAt step e call)) : Effect (stepAt step e call) := by
  cases call with
  | create env terms at? => exact createChallenge_effect hfresh
  | confirm env confirmation at? => exact recordHumanConfirmation_effect
  | evaluate env q at? => exact .unchanged rfl

/-! ## The status of a challenge -/

/-- The status of the challenge stored under an identifier. -/
def statusOf (e : StepUpEngine) (id : String) : Option StepUpChallengeStatus :=
  (e.challenges.get id).map StepUpChallengeRecord.status

theorem statusOf_set {e e' : StepUpEngine} {id id' : String} {record : StepUpChallengeRecord}
    (h : e'.challenges = e.challenges.set id record) :
    e'.statusOf id' = if id' = id then some record.status else e.statusOf id' := by
  rw [statusOf, h, get_set, apply_ite (Option.map StepUpChallengeRecord.status)]
  rfl

/-- The status under an identifier stays, begins as pending, or leaves pending. -/
theorem Effect.status {c : CallStep} (h : Effect c) (id : String) :
    c.post.statusOf id = c.pre.statusOf id
      ∨ (c.pre.statusOf id = none ∧ c.post.statusOf id = some .pending)
      ∨ (c.pre.statusOf id = some .pending
        ∧ (c.post.statusOf id = some .expired ∨ c.post.statusOf id = some .approved)) := by
  cases h with
  | unchanged hpost =>
      rw [hpost]
      exact .inl rfl
  | created record hcreates hid hstatus hpost =>
      rw [statusOf_set hpost]
      by_cases hne : id = record.challengeId
      · rw [if_pos hne, hstatus, statusOf, hne, hid]
        exact .inr (.inl ⟨rfl, rfl⟩)
      · rw [if_neg hne]
        exact .inl rfl
  | expired id' record hget hpending hpost =>
      rw [statusOf_set hpost]
      by_cases hne : id = id'
      · rw [if_pos hne, statusOf, hne, hget, Option.map_some, hpending]
        exact .inr (.inr ⟨rfl, .inl rfl⟩)
      · rw [if_neg hne]
        exact .inl rfl
  | approved id' record record' hget hpending hsame hstatus hconfirms hpost =>
      rw [statusOf_set hpost]
      by_cases hne : id = id'
      · rw [if_pos hne, statusOf, hne, hget, Option.map_some, hpending, hstatus]
        exact .inr (.inr ⟨rfl, .inr rfl⟩)
      · rw [if_neg hne]
        exact .inl rfl

/-- A challenge has been resolved. -/
def Resolved (id : String) (e : StepUpEngine) : Prop :=
  ∃ status, e.statusOf id = some status ∧ status ≠ .pending

/-- The step takes the challenge out of the pending status. -/
def leavesPending (id : String) (c : CallStep) : Bool :=
  decide (c.pre.statusOf id = some .pending) && decide (c.post.statusOf id ≠ some .pending)

theorem leavesPending_iff {id : String} {c : CallStep} :
    leavesPending id c = true
      ↔ c.pre.statusOf id = some .pending ∧ c.post.statusOf id ≠ some .pending := by
  rw [leavesPending, Bool.and_eq_true, decide_eq_true_iff, decide_eq_true_iff]

theorem statusOf_final {e : StepUpEngine} {call : StepUpCall} {id : String}
    {status : StepUpChallengeStatus} (hfresh : FreshId (stepAt step e call))
    (hresolved : status ≠ .pending) (h : e.statusOf id = some status) :
    (step e call).2.statusOf id = some status := by
  rcases (step_effect e call hfresh).status id with hsame | ⟨hnone, -⟩ | ⟨hpending, -⟩
  · exact hsame.trans h
  · rw [stepAt_pre, h] at hnone
    cases hnone
  · rw [stepAt_pre, h, Option.some.injEq] at hpending
    exact absurd hpending hresolved

/-- **A challenge leaves the pending status at most once.** -/
theorem countP_leavesPending_le_one (e : StepUpEngine) (calls : List StepUpCall) (id : String)
    (hfresh : ∀ c ∈ steps step e calls, FreshId c) :
    (steps step e calls).countP (leavesPending id) ≤ 1 := by
  refine countP_le_one_of_guarded_latch (L := Resolved id) ?_ ?_ ?_ e calls hfresh
  · rintro s a hleaves ⟨status, hstatus, hresolved⟩
    have hpending := (leavesPending_iff.mp hleaves).1
    rw [stepAt_pre, hstatus, Option.some.injEq] at hpending
    exact hresolved hpending
  · intro s a hP hleaves
    obtain ⟨hpending, hleft⟩ := leavesPending_iff.mp hleaves
    rcases (step_effect s a hP).status id with hsame | ⟨hnone, -⟩ | ⟨-, hexpired | happroved⟩
    · exact absurd (hsame.trans hpending) hleft
    · rw [hpending] at hnone
      cases hnone
    · exact ⟨.expired, hexpired, by decide⟩
    · exact ⟨.approved, happroved, by decide⟩
  · rintro s a hP ⟨status, hstatus, hresolved⟩
    exact ⟨status, statusOf_final hP hresolved hstatus, hresolved⟩

end StepUpEngine

end MandateGateway
