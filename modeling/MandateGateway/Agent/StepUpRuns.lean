import MandateGateway.Agent.StepUpManager
import MandateGateway.Lib.Runs

/-! # Runs of the agent's step-up manager

    A stored challenge changes in four ways only: it is created, it is found to
    be over its time, or a human approves or rejects it (`step_effect`).  So it
    keeps what it was created with (`Effect.kept`), and its status leaves the
    pending one for good (`Effect.status`).

    * `countP_resolves_le_one`: a challenge is resolved at most once;
    * `approval_warranted`: what an approval in a run rests on;
    * `refusal_keeps`: what a refused decision leaves alone. -/

namespace MandateGateway

open Clock OrderedMap Runs

/-- An operation, with what the process supplies to it. -/
inductive ManagerCall where
  | createChallenge (env : ManagerEnv) (q : ChallengeRequest)
  | getChallenge (env : ManagerEnv) (challengeId : String)
  | getActiveChallengeForSession (env : ManagerEnv) (sessionId : String)
  | resolveDecision (env : ManagerEnv) (q : DecisionRequest)

/-- The reading of the clock at the start of an operation. -/
def ManagerCall.now : ManagerCall → Instant
  | .createChallenge env _ | .getChallenge env _ | .getActiveChallengeForSession env _
  | .resolveDecision env _ => env.now

/-- What an operation returns or raises. -/
inductive ManagerAnswer where
  | created (result : Except PyError AgentStepUpChallenge)
  | found (result : Option AgentStepUpChallenge)
  | resolved (result : Except StepUpWorkflowError AgentStepUpChallenge)

namespace AgentStepUpManager

open StepUpSecurityGuard

/-- One operation. -/
def step (m : AgentStepUpManager) : ManagerCall → ManagerAnswer × AgentStepUpManager
  | .createChallenge env q =>
      let (result, m') := m.createChallenge env q
      (.created result, m')
  | .getChallenge env challengeId =>
      let (result, m') := m.getChallenge env.now challengeId
      (.found result, m')
  | .getActiveChallengeForSession env sessionId =>
      let (result, m') := m.getActiveChallengeForSession env.now sessionId
      (.found result, m')
  | .resolveDecision env q =>
      let (result, m') := m.resolveDecision env q
      (.resolved result, m')

abbrev ManagerStep := Step AgentStepUpManager ManagerCall ManagerAnswer

/-! ## What an operation does -/

/-- A creation takes an identifier that is not in use. -/
def FreshId (c : ManagerStep) : Prop :=
  ∀ env q, c.act = .createChallenge env q → c.pre.challenges.get (newChallengeId env) = none

def Creates (ch : AgentStepUpChallenge) (c : ManagerStep) : Prop :=
  ∃ env q expiresAt, c.act = .createChallenge env q ∧ expiry env.now q.ttlSeconds = .ok expiresAt
    ∧ ch = ChallengeRequest.challenge env expiresAt q

theorem Creates.pending {ch : AgentStepUpChallenge} {c : ManagerStep} (h : Creates ch c) :
    ch.status = .pending := by
  obtain ⟨env, q, expiresAt, -, -, rfl⟩ := h
  rfl

theorem Creates.unused {ch : AgentStepUpChallenge} {c : ManagerStep} (h : Creates ch c)
    (hfresh : FreshId c) : c.pre.challenges.get ch.challengeId = none := by
  obtain ⟨env, q, expiresAt, hact, -, rfl⟩ := h
  exact hfresh env q hact

/-- What an operation does to the stored challenges. -/
inductive Effect (c : ManagerStep) : Prop
  | unchanged (hpost : c.post.challenges = c.pre.challenges)
  | created (ch : AgentStepUpChallenge) (hcreates : Creates ch c)
      (hpost : c.post.challenges = c.pre.challenges.set ch.challengeId ch)
  | expired (ch : AgentStepUpChallenge) (hget : c.pre.challenges.get ch.challengeId = some ch)
      (hpending : ch.status = .pending) (htime : ch.expiresAt < c.act.now)
      (haddressed : ∀ env q, c.act = .resolveDecision env q →
        q.decision.challengeId = ch.challengeId)
      (hpost : c.post.challenges = c.pre.challenges.set ch.challengeId (ch.resolved .expired))
  | decided (env : ManagerEnv) (q : DecisionRequest) (ch : AgentStepUpChallenge)
      (status : StepUpStatus) (hact : c.act = .resolveDecision env q)
      (hid : q.decision.challengeId = ch.challengeId)
      (hget : c.pre.challenges.get ch.challengeId = some ch) (h : Decides env q ch status)
      (hout : c.out = .resolved (.ok (ch.resolved status)))
      (hpost : c.post.challenges = c.pre.challenges.set ch.challengeId (ch.resolved status))

theorem createChallenge_of_expiry {env : ManagerEnv} {q : ChallengeRequest} {expiresAt : Instant}
    (h : expiry env.now q.ttlSeconds = .ok expiresAt) (m : AgentStepUpManager) :
    (m.createChallenge env q).2.challenges
      = m.challenges.set (newChallengeId env) (ChallengeRequest.challenge env expiresAt q) := by
  rw [createChallenge, h]
  rfl

theorem Effect.of_lookup {c : ManagerStep} (id : String)
    (hpost : c.post = (c.pre.getChallenge c.act.now id).2)
    (haddressed : ∀ env q, c.act = .resolveDecision env q → q.decision.challengeId = id) :
    Effect c := by
  rcases getChallenge_cases c.act.now id c.pre with
    ⟨-, h⟩ | ⟨ch, hget, ⟨hpending, htime, h⟩ | ⟨-, h⟩⟩
  · exact .unchanged (by rw [hpost, h])
  · obtain rfl := c.pre.keyed id ch hget
    exact .expired ch hget hpending htime haddressed (by rw [hpost, h]; rfl)
  · exact .unchanged (by rw [hpost, h])

/-- **Every operation creates, expires or decides a challenge, or leaves all of
    them.** -/
theorem step_effect (m : AgentStepUpManager) (call : ManagerCall) :
    Effect (stepAt step m call) := by
  cases call with
  | createChallenge env q =>
      cases hexpiry : expiry env.now q.ttlSeconds with
      | error err =>
          refine .unchanged ?_
          show (m.createChallenge env q).2.challenges = m.challenges
          rw [createChallenge, hexpiry]
      | ok expiresAt =>
          exact .created _ ⟨env, q, expiresAt, rfl, hexpiry, rfl⟩
            (createChallenge_of_expiry hexpiry m)
  | getChallenge env challengeId => exact .of_lookup challengeId rfl nofun
  | getActiveChallengeForSession env sessionId =>
      have hpost : (stepAt step m (.getActiveChallengeForSession env sessionId)).post
          = (m.getActiveChallengeForSession env.now sessionId).2 := rfl
      rw [getActiveChallengeForSession] at hpost
      cases hindex : m.sessionIndex.get sessionId with
      | none =>
          rw [hindex] at hpost
          exact .unchanged (congrArg challenges hpost)
      | some challengeId =>
          rw [hindex] at hpost
          by_cases hempty : challengeId = ""
          · simp only [if_pos hempty] at hpost
            exact .unchanged (congrArg challenges hpost)
          · simp only [if_neg hempty] at hpost
            exact .of_lookup challengeId hpost nofun
  | resolveDecision env q =>
      have hstep : step m (.resolveDecision env q)
          = (.resolved (m.resolveDecision env q).1, (m.resolveDecision env q).2) := rfl
      rcases resolveDecision_cases env q m with ⟨err, h⟩ | ⟨ch, status, hget, hdecides, h⟩
      · refine .of_lookup q.decision.challengeId ?_ ?_
        · rw [stepAt_post, hstep, h]
          rfl
        · intro env' q' hact
          obtain ⟨rfl, rfl⟩ := ManagerCall.resolveDecision.inj hact
          rfl
      · have hid := m.keyed _ ch hget
        refine .decided env q ch status rfl hid.symm (hid.symm ▸ hget) hdecides ?_ ?_
        · rw [stepAt_out, hstep, h]
        · rw [stepAt_post, hstep, h]
          rfl

/-! ## One resolution -/

/-- The status of the challenge stored under an identifier. -/
def statusOf (m : AgentStepUpManager) (id : String) : Option StepUpStatus :=
  (m.challenges.get id).map AgentStepUpChallenge.status

theorem statusOf_set {m m' : AgentStepUpManager} {id id' : String} {ch : AgentStepUpChallenge}
    (h : m'.challenges = m.challenges.set id ch) :
    m'.statusOf id' = if id' = id then some ch.status else m.statusOf id' := by
  rw [statusOf, h, get_set, apply_ite (Option.map AgentStepUpChallenge.status)]
  rfl

theorem decidedStatus_ne_pending {choice : HumanDecisionChoice} {status : StepUpStatus}
    (h : decidedStatus choice = .ok status) : status ≠ .pending := by
  rintro rfl
  cases choice <;> cases h

/-- The status under an identifier stays, begins as pending, or leaves pending. -/
theorem Effect.status {c : ManagerStep} (h : Effect c) (id : String) :
    c.post.statusOf id = c.pre.statusOf id
      ∨ (c.post.statusOf id = some .pending ∧ (FreshId c → c.pre.statusOf id = none))
      ∨ (c.pre.statusOf id = some .pending
        ∧ ∃ status, c.post.statusOf id = some status ∧ status ≠ .pending) := by
  cases h with
  | unchanged hpost => exact .inl (by rw [statusOf, hpost, statusOf])
  | created ch hcreates hpost =>
      rw [statusOf_set hpost]
      by_cases hid : id = ch.challengeId
      · rw [if_pos hid, hcreates.pending]
        refine .inr (.inl ⟨rfl, ?_⟩)
        intro hfresh
        rw [statusOf, hid, hcreates.unused hfresh]
        rfl
      · rw [if_neg hid]
        exact .inl rfl
  | expired ch hget hpending htime haddressed hpost =>
      rw [statusOf_set hpost]
      by_cases hid : id = ch.challengeId
      · rw [if_pos hid, statusOf, hid, hget, Option.map_some, hpending]
        exact .inr (.inr ⟨rfl, .expired, rfl, by decide⟩)
      · rw [if_neg hid]
        exact .inl rfl
  | decided env q ch status hact haddressed hget hdecides hout hpost =>
      rw [statusOf_set hpost]
      by_cases hid : id = ch.challengeId
      · rw [if_pos hid, statusOf, hid, hget, Option.map_some, hdecides.pending]
        exact .inr (.inr ⟨rfl, status, rfl, decidedStatus_ne_pending hdecides.choice⟩)
      · rw [if_neg hid]
        exact .inl rfl

/-- A challenge has been resolved. -/
def Resolved (id : String) (m : AgentStepUpManager) : Prop :=
  ∃ status, m.statusOf id = some status ∧ status ≠ .pending

/-- The step gives the challenge another status than the pending one. -/
def resolves (id : String) (c : ManagerStep) : Bool :=
  decide (c.post.statusOf id ≠ c.pre.statusOf id)
    && (c.post.statusOf id).any fun status => decide (status ≠ .pending)

theorem resolves_iff {id : String} {c : ManagerStep} :
    resolves id c = true ↔ c.post.statusOf id ≠ c.pre.statusOf id ∧ Resolved id c.post := by
  rw [resolves, Bool.and_eq_true, decide_eq_true_iff, Option.any_eq_true]
  simp only [decide_eq_true_iff]
  rfl

theorem statusOf_final {m : AgentStepUpManager} {call : ManagerCall} {id : String}
    (hfresh : FreshId (stepAt step m call)) (h : Resolved id m) :
    (step m call).2.statusOf id = m.statusOf id := by
  obtain ⟨status, hstatus, hresolved⟩ := h
  rcases (step_effect m call).status id with hsame | ⟨-, hnew⟩ | ⟨hpending, -⟩
  · exact hsame
  · have hnone := hnew hfresh
    rw [stepAt_pre, hstatus] at hnone
    cases hnone
  · rw [stepAt_pre, hstatus, Option.some.injEq] at hpending
    exact absurd hpending hresolved

/-- **A challenge is resolved at most once.** -/
theorem countP_resolves_le_one (m : AgentStepUpManager) (calls : List ManagerCall) (id : String)
    (hfresh : ∀ c ∈ steps step m calls, FreshId c) :
    (steps step m calls).countP (resolves id) ≤ 1 := by
  refine countP_le_one_of_guarded_latch (L := Resolved id) ?_ ?_ ?_ m calls hfresh
  · rintro s a hresolves ⟨status, hstatus, hne⟩
    obtain ⟨hchanged, status', hstatus', hne'⟩ := resolves_iff.mp hresolves
    rcases (step_effect s a).status id with hsame | ⟨hpending, -⟩ | ⟨hpending, -⟩
    · exact hchanged hsame
    · rw [hstatus', Option.some.injEq] at hpending
      exact hne' hpending
    · rw [stepAt_pre, hstatus, Option.some.injEq] at hpending
      exact hne hpending
  · intro s a _ hresolves
    exact (resolves_iff.mp hresolves).2
  · rintro s a hP h
    rw [Resolved, statusOf_final hP h]
    exact h

/-! ## The past of a stored challenge -/

/-- A stored challenge keeps everything but its status. -/
theorem Effect.kept {c : ManagerStep} (h : Effect c) (hfresh : FreshId c) {id : String}
    {ch : AgentStepUpChallenge} (hget : c.pre.challenges.get id = some ch) :
    ∃ status, c.post.challenges.get id = some (ch.resolved status) := by
  cases h with
  | unchanged hpost => exact ⟨ch.status, hpost ▸ hget⟩
  | created new hcreates hpost =>
      refine ⟨ch.status, ?_⟩
      rw [hpost, get_set_of_ne]
      · exact hget
      · rintro rfl
        cases (hcreates.unused hfresh).symm.trans hget
  | expired old hold hpending htime haddressed hpost =>
      rw [hpost, get_set]
      by_cases hid : id = old.challengeId
      · subst hid
        obtain rfl := Option.some.inj (hold.symm.trans hget)
        exact ⟨.expired, if_pos rfl⟩
      · rw [if_neg hid]
        exact ⟨ch.status, hget⟩
  | decided env q old status hact haddressed hold hdecides hout hpost =>
      rw [hpost, get_set]
      by_cases hid : id = old.challengeId
      · subst hid
        obtain rfl := Option.some.inj (hold.symm.trans hget)
        exact ⟨status, if_pos rfl⟩
      · rw [if_neg hid]
        exact ⟨ch.status, hget⟩

/-- What is stored after a step was stored before it, or is created by it. -/
theorem Effect.origin {c : ManagerStep} (h : Effect c) {id : String} {ch : AgentStepUpChallenge}
    (hget : c.post.challenges.get id = some ch) :
    (∃ old, c.pre.challenges.get id = some old) ∨ (Creates ch c ∧ ch.challengeId = id) := by
  cases h with
  | unchanged hpost => exact .inl ⟨ch, hpost ▸ hget⟩
  | created new hcreates hpost =>
      rw [hpost, get_set] at hget
      by_cases hid : id = new.challengeId
      · rw [if_pos hid] at hget
        obtain rfl := Option.some.inj hget
        exact .inr ⟨hcreates, hid.symm⟩
      · rw [if_neg hid] at hget
        exact .inl ⟨ch, hget⟩
  | expired old hold hpending htime haddressed hpost =>
      rw [hpost, get_set] at hget
      by_cases hid : id = old.challengeId
      · exact .inl ⟨old, hid ▸ hold⟩
      · rw [if_neg hid] at hget
        exact .inl ⟨ch, hget⟩
  | decided env q old status hact haddressed hold hdecides hout hpost =>
      rw [hpost, get_set] at hget
      by_cases hid : id = old.challengeId
      · exact .inl ⟨old, hid ▸ hold⟩
      · rw [if_neg hid] at hget
        exact .inl ⟨ch, hget⟩

def Created (past : List ManagerStep) (id : String) (ch : AgentStepUpChallenge) : Prop :=
  ch.challengeId = id ∧ ∃ c₀ ∈ past, Creates ch c₀

theorem Created.snoc {past : List ManagerStep} {id : String} {ch : AgentStepUpChallenge}
    (h : Created past id ch) (c : ManagerStep) : Created (past ++ [c]) id ch := by
  obtain ⟨hid, c₀, hc₀, hcreates⟩ := h
  exact ⟨hid, c₀, List.mem_append_left _ hc₀, hcreates⟩

/-- What is stored is what the past created, up to the status. -/
structure Recorded (past : List ManagerStep) (m : AgentStepUpManager) : Prop where
  created : ∀ id ch, m.challenges.get id = some ch → ∃ original, Created past id original
  stored  : ∀ id original, Created past id original →
    ∃ status, m.challenges.get id = some (original.resolved status)

theorem Recorded.step {past : List ManagerStep} {m : AgentStepUpManager} {call : ManagerCall}
    (h : Recorded past m) (hfresh : FreshId (stepAt step m call)) :
    Recorded (past ++ [stepAt step m call]) (step m call).2 := by
  have heffect := step_effect m call
  constructor
  · intro id ch hget
    rcases heffect.origin hget with ⟨old, hold⟩ | ⟨hcreates, hid⟩
    · obtain ⟨original, horiginal⟩ := h.created id old hold
      exact ⟨original, horiginal.snoc _⟩
    · exact ⟨ch, hid, _, List.mem_append_right _ (List.mem_singleton.mpr rfl), hcreates⟩
  · rintro id original ⟨hid, c₀, hc₀, hcreates⟩
    rcases List.mem_append.mp hc₀ with hc₀ | hc₀
    · obtain ⟨status, hget⟩ := h.stored id original ⟨hid, c₀, hc₀, hcreates⟩
      -- the status of a stored challenge replaces the one before
      obtain ⟨status', hget'⟩ := heffect.kept hfresh hget
      exact ⟨status', hget'⟩
    · obtain rfl := List.mem_singleton.mp hc₀
      obtain ⟨env, q, expiresAt, hact, hexpiry, rfl⟩ := hcreates
      rw [stepAt_act] at hact
      subst hact
      subst hid
      refine ⟨.pending, ?_⟩
      show (m.createChallenge env q).2.challenges.get _ = _
      rw [createChallenge_of_expiry hexpiry]
      exact get_set_self _ _ _

theorem run_recorded {calls : List ManagerCall} (hfresh : ∀ c ∈ steps step new calls, FreshId c) :
    Recorded (steps step new calls) (exec step new calls) := by
  refine history_inv (H := Recorded) (fun past m call h hP => h.step hP) ?_ hfresh
  constructor
  · intro id ch hget
    cases hget
  · rintro id original ⟨-, c₀, hc₀, -⟩
    cases hc₀

/-! ## Approvals and refusals -/

/-- The step makes the challenge an approved one. -/
def Approves (id : String) (c : ManagerStep) : Prop :=
  c.pre.statusOf id ≠ some .approved ∧ c.post.statusOf id = some .approved

/-- The step decides the challenge, as the past created it, in favour. -/
def Warranted (past : List ManagerStep) (id : String) (c : ManagerStep) : Prop :=
  ∃ env q, c.act = .resolveDecision env q ∧ q.decision.challengeId = id
    ∧ (∃ original, Created past id original)
    ∧ ∀ original, Created past id original → Decides env q original .approved

theorem Decides.of_resolved {env : ManagerEnv} {q : DecisionRequest} {ch : AgentStepUpChallenge}
    {status status' : StepUpStatus} (h : Decides env q (ch.resolved status') status)
    (hpending : ch.status = .pending) : Decides env q ch status :=
  ⟨h.choice, h.human,
    ⟨h.bound.session, h.bound.buyer, h.bound.merchant, h.bound.cartHash, h.bound.total⟩,
    hpending, h.lookedUp, h.checked⟩

theorem approval_warranted {past : List ManagerStep} {m : AgentStepUpManager}
    {call : ManagerCall} {id : String} (h : Recorded past m)
    (happroves : Approves id (stepAt step m call)) : Warranted past id (stepAt step m call) := by
  obtain ⟨hbefore, hafter⟩ := happroves
  cases step_effect m call with
  | unchanged hpost =>
      rw [statusOf, hpost] at hafter
      exact absurd hafter hbefore
  | created ch hcreates hpost =>
      rw [statusOf_set hpost] at hafter
      by_cases hid : id = ch.challengeId
      · rw [if_pos hid, hcreates.pending] at hafter
        cases hafter
      · rw [if_neg hid] at hafter
        exact absurd hafter hbefore
  | expired ch hget hpending htime haddressed hpost =>
      rw [statusOf_set hpost] at hafter
      by_cases hid : id = ch.challengeId
      · rw [if_pos hid] at hafter
        cases hafter
      · rw [if_neg hid] at hafter
        exact absurd hafter hbefore
  | decided env q ch status hact haddressed hget hdecides hout hpost =>
      rw [statusOf_set hpost] at hafter
      by_cases hid : id = ch.challengeId
      · rw [if_pos hid] at hafter
        obtain rfl : status = .approved := Option.some.inj hafter
        subst hid
        refine ⟨env, q, hact, haddressed, h.created _ ch hget, ?_⟩
        intro original horiginal
        -- what is decided is what the past created
        obtain ⟨status', hstored⟩ := h.stored _ original horiginal
        obtain rfl := Option.some.inj (hget.symm.trans hstored)
        obtain ⟨-, c₀, -, hcreates⟩ := horiginal
        exact hdecides.of_resolved hcreates.pending
      · rw [if_neg hid] at hafter
        exact absurd hafter hbefore

/-- A refused decision leaves every challenge as it is, or finds the addressed
    one over its time. -/
def RefusalKeeps (c : ManagerStep) : Prop :=
  ∀ env q err, c.act = .resolveDecision env q → c.out = .resolved (.error err) → ∀ id,
    c.post.challenges.get id = c.pre.challenges.get id
      ∨ ∃ ch, id = q.decision.challengeId ∧ c.pre.challenges.get id = some ch
        ∧ ch.status = .pending ∧ ch.expiresAt < env.now
        ∧ c.post.challenges.get id = some (ch.resolved .expired)

theorem refusal_keeps (m : AgentStepUpManager) (call : ManagerCall) :
    RefusalKeeps (stepAt step m call) := by
  intro env q err hact hrefused id
  cases step_effect m call with
  | unchanged hpost => exact .inl (by rw [hpost])
  | created ch hcreates hpost =>
      obtain ⟨env', q', expiresAt, hact', -⟩ := hcreates
      cases hact.symm.trans hact'
  | expired ch hget hpending htime haddressed hpost =>
      rw [hpost, get_set]
      by_cases hid : id = ch.challengeId
      · rw [if_pos hid]
        rw [hact] at htime
        exact .inr ⟨ch, hid.trans (haddressed env q hact).symm, hid ▸ hget, hpending, htime, rfl⟩
      · exact .inl (if_neg hid)
  | decided env' q' ch status hact' haddressed hget hdecides hout hpost =>
      cases hout.symm.trans hrefused

/-- **In a run with fresh identifiers, every challenge is resolved at most once;
    an approval is one by a human, in time, in the context that the challenge
    was created with; and a refused decision changes nothing but the status of
    a challenge whose time is over.** -/
theorem runs_resolve_once (calls : List ManagerCall)
    (hfresh : ∀ c ∈ steps step new calls, FreshId c) :
    (∀ id, (steps step new calls).countP (resolves id) ≤ 1)
    ∧ (∀ before c after id, steps step new calls = before ++ c :: after → Approves id c →
      Warranted before id c)
    ∧ ∀ c ∈ steps step new calls, RefusalKeeps c := by
  refine ⟨fun id => countP_resolves_le_one new calls id hfresh, ?_, ?_⟩
  · intro before c after id hsplit happroves
    obtain ⟨l, call, rest, rfl, rfl, rfl, rfl⟩ := steps_eq_append_cons_iff.mp hsplit
    exact approval_warranted (run_recorded (forall_steps_append_iff.mp hfresh).1) happroves
  · intro c hc
    obtain ⟨l, call, rest, rfl, rfl⟩ := mem_steps_iff.mp hc
    exact refusal_keeps _ call

namespace Sample

def env : ManagerEnv :=
  ⟨"1f0c2a7e-5d0b-4a41-9f5e-2f6d3c8e7b10", 1709210096000000, 1709210096000250⟩

def request : ChallengeRequest where
  sessionId := "session-1"
  buyerId := "buyer-1"
  merchantId := "merchant-1"
  mandateId := "mandate-1"
  cartHash := "ab12"
  totalPaise := 10500
  reason := "Total price exceeds autonomous threshold."
  ttlSeconds := .finite 300

def approval : DecisionRequest where
  decision := ⟨"stepup_1f0c2a7e", "buyer-1", .approve⟩
  sessionId := "session-1"
  buyerId := "buyer-1"
  merchantId := "merchant-1"
  currentCartHash := "ab12"
  currentTotalPaise := 10500
  agentId := "shopping-agent"

def calls : List ManagerCall := [.createChallenge env request, .resolveDecision env approval]

theorem calls_fresh : ∀ c ∈ steps step new calls, FreshId c := by
  intro c hc env' q hact
  rcases List.mem_cons.mp hc with rfl | hc
  · rfl
  · obtain rfl := List.mem_singleton.mp hc
    cases hact

end Sample

/-- A buyer approves a challenge in its time. -/
theorem runs_resolve_once_approved :
    Warranted (steps step new [.createChallenge Sample.env Sample.request]) "stepup_1f0c2a7e"
      (stepAt step (exec step new [.createChallenge Sample.env Sample.request])
        (.resolveDecision Sample.env Sample.approval)) :=
  (runs_resolve_once Sample.calls Sample.calls_fresh).2.1 _ _ [] _ rfl
    ⟨by decide +kernel, by decide +kernel⟩

end AgentStepUpManager

end MandateGateway
