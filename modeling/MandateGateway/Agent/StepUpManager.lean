import MandateGateway.Lib.Binary64
import MandateGateway.Lib.Exceptions
import MandateGateway.Lib.OrderedMap
import MandateGateway.Lib.Text
import MandateGateway.Values

/-! # The agent's step-up challenges

    `AgentStepUpManager` keeps the challenges that a human has to decide.  A
    lookup expires a pending challenge whose time is over; a decision passes
    the guard, which reads the clock again, and resolves the challenge.

    * `verifyApproverIdentity_eq_ok_iff`, `verifyChallengeBinding_eq_ok_iff`:
      what the guard demands;
    * `getChallenge_cases`, `resolveDecision_cases`: what a lookup and a
      decision do. -/

namespace MandateGateway

open Clock Exceptions

/-! ## Challenges and decisions -/

/-- The status of an agent's challenge. -/
inductive StepUpStatus where
  | pending | approved | rejected | expired
deriving DecidableEq, Repr

def StepUpStatus.value : StepUpStatus → String
  | .pending => "PENDING"
  | .approved => "APPROVED"
  | .rejected => "REJECTED"
  | .expired => "EXPIRED"

/-- An active or resolved challenge. -/
structure AgentStepUpChallenge where
  challengeId : String
  sessionId   : String
  buyerId     : String
  merchantId  : String
  mandateId   : String
  cartHash    : String
  totalPaise  : Int
  reason      : String
  expiresAt   : Instant
  status      : StepUpStatus := .pending
  createdAt   : Instant
deriving DecidableEq

/-- `is_expired`, at a reading of the clock. -/
def AgentStepUpChallenge.isExpired (ch : AgentStepUpChallenge) (now : Instant) : Bool :=
  decide (ch.expiresAt < now)

/-- The same challenge in another status. -/
def AgentStepUpChallenge.resolved (ch : AgentStepUpChallenge) (status : StepUpStatus) :
    AgentStepUpChallenge :=
  { ch with status := status }

/-- A human's choice; the record does not refuse another value, which is kept
    as its `repr`. -/
inductive HumanDecisionChoice where
  | approve
  | reject
  | other (repr : String)
deriving DecidableEq

/-- The fields of a decision that resolving it reads. -/
structure AgentStepUpDecision where
  challengeId : String
  approverId  : String
  decision    : HumanDecisionChoice
deriving DecidableEq

inductive StepUpErrorCode where
  | stepUpChallengeExpired | stepUpBindingMismatch | stepUpUnauthorizedApprover
  | stepUpAlreadyResolved | invalidStepUpDecision | aiSelfApprovalBlocked | stepUpNotFound
deriving DecidableEq, Repr

structure StepUpWorkflowError where
  code   : StepUpErrorCode
  detail : String
deriving DecidableEq

/-! ## The guard -/

namespace StepUpSecurityGuard

open Text

/-- `text.strip().lower()`. -/
def normalized (text : String) : String := lower (strip text)

def aiPrefixes : List String :=
  ["agent:", "ai:", "bot:", "llm:", "model:", "agent_", "assistant"]

/-- A normalized identity that is taken for an automated one. -/
def isAutomated (norm : String) : Bool :=
  aiPrefixes.any fun aiPrefix =>
    aiPrefix.toList.isPrefixOf norm.toList || norm == "ai_agent" || norm == "agent_assistant_01"

def verifyApproverIdentity (approverId agentId : String) : Except StepUpWorkflowError Unit :=
  if approverId = "" ∨ strip approverId = "" then
    .error ⟨.stepUpUnauthorizedApprover, "Approver identity cannot be empty."⟩
  else if agentId ≠ "" ∧ normalized approverId = normalized agentId then
    .error ⟨.aiSelfApprovalBlocked,
      s!"AI Agent {quoted agentId} cannot approve its own step-up challenge."⟩
  else if isAutomated (normalized approverId) = true then
    .error ⟨.aiSelfApprovalBlocked,
      s!"Approver identity {quoted approverId} indicates an automated AI identity."⟩
  else .ok ()

/-- The refusal of one binding. -/
def mismatch (what expected got : String) : StepUpWorkflowError :=
  ⟨.stepUpBindingMismatch, s!"{what} mismatch: expected {quoted expected}, got {quoted got}."⟩

def verifyChallengeBinding (ch : AgentStepUpChallenge)
    (sessionId buyerId merchantId currentCartHash : String) (currentTotalPaise : Int) :
    Except StepUpWorkflowError Unit :=
  if ch.sessionId ≠ sessionId then .error (mismatch "Challenge session" ch.sessionId sessionId)
  else if ch.buyerId ≠ buyerId then .error (mismatch "Challenge buyer" ch.buyerId buyerId)
  else if ch.merchantId ≠ merchantId then
    .error (mismatch "Challenge merchant" ch.merchantId merchantId)
  else if ch.cartHash ≠ currentCartHash then
    .error ⟨.stepUpBindingMismatch, "Cart hash mismatch (post-approval cart tampering detected): "
      ++ s!"expected {quoted ch.cartHash}, got {quoted currentCartHash}."⟩
  else if ch.totalPaise ≠ currentTotalPaise then
    .error ⟨.stepUpBindingMismatch, "Price mismatch (post-approval price tampering detected): "
      ++ s!"expected {ch.totalPaise} paise, got {currentTotalPaise} paise."⟩
  else .ok ()

/-- `verify_challenge_active`, at a reading of the clock. -/
def verifyChallengeActive (ch : AgentStepUpChallenge) (now : Instant) :
    Except StepUpWorkflowError Unit :=
  if ch.status = .expired ∨ ch.isExpired now = true then
    .error ⟨.stepUpChallengeExpired, s!"Challenge {quoted ch.challengeId} has expired."⟩
  else if ch.status ≠ .pending then
    .error ⟨.stepUpAlreadyResolved,
      s!"Challenge {quoted ch.challengeId} is already in state {ch.status.value}."⟩
  else .ok ()

/-! ## What the guard demands -/

theorem normalized_ne_empty {text : String} (h : strip text ≠ "") : normalized text ≠ "" :=
  lower_ne_empty h

theorem isAutomated_eq_false_iff {norm : String} :
    isAutomated norm = false
      ↔ (∀ aiPrefix ∈ aiPrefixes, ¬ aiPrefix.toList <+: norm.toList)
        ∧ norm ≠ "ai_agent" ∧ norm ≠ "agent_assistant_01" := by
  simp only [isAutomated, List.any_eq_false, Bool.or_eq_true, List.isPrefixOf_iff_prefix,
    beq_iff_eq, not_or]
  constructor
  · intro h
    have hfirst := h "agent:" List.mem_cons_self
    exact ⟨fun aiPrefix hmem => (h aiPrefix hmem).1.1, hfirst.1.2, hfirst.2⟩
  · rintro ⟨hmarker, hagent, hassistant⟩ aiPrefix hmem
    exact ⟨⟨hmarker aiPrefix hmem, hagent⟩, hassistant⟩

/-- The identity is given, is not that of the agent, and carries no marker of
    an automated one. -/
structure Human (approverId agentId : String) : Prop where
  given     : strip approverId ≠ ""
  notAgent  : normalized approverId ≠ normalized agentId
  notPrefix : ∀ aiPrefix ∈ aiPrefixes, ¬ aiPrefix.toList <+: (normalized approverId).toList
  notNamed  : normalized approverId ≠ "ai_agent" ∧ normalized approverId ≠ "agent_assistant_01"

/-- **The guard lets through a human only**: an agent without a name has no
    identity that an approver could share. -/
theorem verifyApproverIdentity_eq_ok_iff {approverId agentId : String} :
    verifyApproverIdentity approverId agentId = .ok () ↔ Human approverId agentId := by
  simp only [verifyApproverIdentity, guard_eq_ok_iff, not_or, not_and, and_true,
    Bool.not_eq_true, isAutomated_eq_false_iff]
  constructor
  · rintro ⟨⟨-, hgiven⟩, hagent, hmarker, hnamed⟩
    refine ⟨hgiven, ?_, hmarker, hnamed⟩
    by_cases hnone : agentId = ""
    · subst hnone
      exact normalized_ne_empty hgiven
    · exact hagent hnone
  · intro h
    refine ⟨⟨?_, h.given⟩, fun _ => h.notAgent, h.notPrefix, h.notNamed⟩
    rintro rfl
    exact h.given rfl

/-- The context of a decision is the one that the challenge is bound to. -/
structure Bound (ch : AgentStepUpChallenge)
    (sessionId buyerId merchantId currentCartHash : String) (currentTotalPaise : Int) : Prop where
  session  : ch.sessionId = sessionId
  buyer    : ch.buyerId = buyerId
  merchant : ch.merchantId = merchantId
  cartHash : ch.cartHash = currentCartHash
  total    : ch.totalPaise = currentTotalPaise

theorem verifyChallengeBinding_eq_ok_iff {ch : AgentStepUpChallenge}
    {sessionId buyerId merchantId currentCartHash : String} {currentTotalPaise : Int} :
    verifyChallengeBinding ch sessionId buyerId merchantId currentCartHash currentTotalPaise
        = .ok ()
      ↔ Bound ch sessionId buyerId merchantId currentCartHash currentTotalPaise := by
  simp only [verifyChallengeBinding, guard_eq_ok_iff, not_not, and_true]
  constructor
  · rintro ⟨hsession, hbuyer, hmerchant, hcart, htotal⟩
    exact ⟨hsession, hbuyer, hmerchant, hcart, htotal⟩
  · intro h
    exact ⟨h.session, h.buyer, h.merchant, h.cartHash, h.total⟩

theorem verifyChallengeActive_eq_ok_iff {ch : AgentStepUpChallenge} {now : Instant} :
    verifyChallengeActive ch now = .ok () ↔ ch.status = .pending ∧ now ≤ ch.expiresAt := by
  simp only [verifyChallengeActive, guard_eq_ok_iff, not_or, not_not, and_true,
    AgentStepUpChallenge.isExpired, decide_eq_true_eq, Int.not_lt]
  constructor
  · rintro ⟨⟨-, htime⟩, hpending⟩
    exact ⟨hpending, htime⟩
  · rintro ⟨hpending, htime⟩
    refine ⟨⟨?_, htime⟩, hpending⟩
    rw [hpending]
    exact nofun

end StepUpSecurityGuard

/-! ## The manager -/

/-- What the running process supplies to one operation: a fresh identifier, and
    the readings of the clock at its start and after the checks of the guard. -/
structure ManagerEnv where
  uuid      : String
  now       : Instant
  checkedAt : Instant

/-- The arguments of `create_challenge`. -/
structure ChallengeRequest where
  sessionId  : String
  buyerId    : String
  merchantId : String
  mandateId  : String
  cartHash   : String
  totalPaise : Int
  reason     : String
  ttlSeconds : Binary64

/-- The arguments of `resolve_decision`. -/
structure DecisionRequest where
  decision          : AgentStepUpDecision
  sessionId         : String
  buyerId           : String
  merchantId        : String
  currentCartHash   : String
  currentTotalPaise : Int
  agentId           : String

/-- `timedelta(seconds=s)` in microseconds: the fraction of a second is
    multiplied as a float, and the sum is rounded to even. -/
def secondsDelta : Binary64 → Except PyError Int
  | .nan => .error (.valueError "cannot convert float NaN to integer")
  | .infinite _ => .error (.overflowError "cannot convert float infinity to integer")
  | .finite q =>
      let whole : Int := q.num.tdiv q.den
      let fraction : Rat := match Binary64.ofRat ((q - whole) * 1000000) with
        | .finite m => m
        | _ => 0
      let micros : Rat := whole * 1000000 + fraction
      let rounded : Int := Binary64.roundDiv micros.num.natAbs micros.den
      let delta : Int := if micros.num < 0 then -rounded else rounded
      let days : Int := delta.fdiv 86400000000
      if days.natAbs ≤ 999999999 then .ok delta
      else if -2147483648 ≤ days ∧ days < 2147483648 then
        .error (.overflowError s!"days={days}; must have magnitude <= 999999999")
      else .error (.overflowError "Python int too large to convert to C int")

/-- `now + timedelta(seconds=ttl_seconds)`. -/
def expiry (now : Instant) (ttlSeconds : Binary64) : Except PyError Instant :=
  match secondsDelta ttlSeconds with
  | .error err => .error err
  | .ok delta =>
      if minInstant ≤ now + delta ∧ now + delta ≤ maxInstant then .ok (now + delta)
      else .error (.overflowError "date value out of range")

/-- The state of an `AgentStepUpManager`; a challenge is stored under its own
    identifier. -/
structure AgentStepUpManager where
  challenges   : OrderedMap String AgentStepUpChallenge
  sessionIndex : OrderedMap String String
  keyed        : ∀ id ch, challenges.get id = some ch → ch.challengeId = id

namespace AgentStepUpManager

open StepUpSecurityGuard

theorem keyed_empty : ∀ id ch,
    (OrderedMap.empty : OrderedMap String AgentStepUpChallenge).get id = some ch →
      ch.challengeId = id :=
  nofun

/-- `AgentStepUpManager()`. -/
def new : AgentStepUpManager := ⟨.empty, .empty, keyed_empty⟩

theorem keyed_set {m : AgentStepUpManager} (ch : AgentStepUpChallenge) : ∀ id ch',
    (m.challenges.set ch.challengeId ch).get id = some ch' → ch'.challengeId = id := by
  intro id ch' h
  by_cases hid : id = ch.challengeId
  · rw [hid, OrderedMap.get_set_self] at h
    obtain rfl := Option.some.inj h
    exact hid.symm
  · exact m.keyed id ch' ((OrderedMap.get_set_of_ne _ hid _).symm.trans h)

/-- `self._challenges[ch.challenge_id] = ch`. -/
def put (ch : AgentStepUpChallenge) (m : AgentStepUpManager) : AgentStepUpManager where
  challenges := m.challenges.set ch.challengeId ch
  sessionIndex := m.sessionIndex
  keyed := keyed_set ch

/-- `f"stepup_{_new_uuid()[:8]}"`. -/
def newChallengeId (env : ManagerEnv) : String :=
  "stepup_" ++ String.ofList (env.uuid.toList.take 8)

def ChallengeRequest.challenge (env : ManagerEnv) (expiresAt : Instant) (q : ChallengeRequest) :
    AgentStepUpChallenge where
  challengeId := newChallengeId env
  sessionId := q.sessionId
  buyerId := q.buyerId
  merchantId := q.merchantId
  mandateId := q.mandateId
  cartHash := q.cartHash
  totalPaise := q.totalPaise
  reason := q.reason
  expiresAt := expiresAt
  createdAt := env.now

def createChallenge (env : ManagerEnv) (q : ChallengeRequest) (m : AgentStepUpManager) :
    Except PyError AgentStepUpChallenge × AgentStepUpManager :=
  match expiry env.now q.ttlSeconds with
  | .error err => (.error err, m)
  | .ok expiresAt =>
      let ch := ChallengeRequest.challenge env expiresAt q
      (.ok ch, { m.put ch with
        sessionIndex := m.sessionIndex.set q.sessionId ch.challengeId })

/-- `get_challenge`; what it stores anew has the identifier that it looked up. -/
def getChallenge (now : Instant) (challengeId : String) (m : AgentStepUpManager) :
    Option AgentStepUpChallenge × AgentStepUpManager :=
  match m.challenges.get challengeId with
  | none => (none, m)
  | some ch =>
      if ch.status = .pending ∧ ch.isExpired now = true then
        (some (ch.resolved .expired), m.put (ch.resolved .expired))
      else (some ch, m)

def getActiveChallengeForSession (now : Instant) (sessionId : String) (m : AgentStepUpManager) :
    Option AgentStepUpChallenge × AgentStepUpManager :=
  match m.sessionIndex.get sessionId with
  | none => (none, m)
  | some challengeId => if challengeId = "" then (none, m) else m.getChallenge now challengeId

/-- The guard's three checks of a decision. -/
def verify (env : ManagerEnv) (q : DecisionRequest) (ch : AgentStepUpChallenge) :
    Except StepUpWorkflowError Unit := do
  verifyApproverIdentity q.decision.approverId q.agentId
  verifyChallengeBinding ch q.sessionId q.buyerId q.merchantId q.currentCartHash
    q.currentTotalPaise
  verifyChallengeActive ch env.checkedAt

def decidedStatus : HumanDecisionChoice → Except StepUpWorkflowError StepUpStatus
  | .approve => .ok .approved
  | .reject => .ok .rejected
  | .other repr => .error ⟨.invalidStepUpDecision, s!"Unknown human decision choice: {repr}."⟩

def resolveDecision (env : ManagerEnv) (q : DecisionRequest) (m : AgentStepUpManager) :
    Except StepUpWorkflowError AgentStepUpChallenge × AgentStepUpManager :=
  match m.getChallenge env.now q.decision.challengeId with
  | (none, m') =>
      (.error ⟨.stepUpNotFound,
        s!"Step-up challenge {Text.quoted q.decision.challengeId} not found."⟩, m')
  | (some ch, m') =>
      match verify env q ch with
      | .error err => (.error err, m')
      | .ok () =>
          match decidedStatus q.decision.decision with
          | .error err => (.error err, m')
          | .ok status => (.ok (ch.resolved status), m'.put (ch.resolved status))

/-! ## What a lookup and a decision do -/

section
variable {env : ManagerEnv} {q : DecisionRequest} {ch : AgentStepUpChallenge}

theorem getChallenge_cases (now : Instant) (challengeId : String) (m : AgentStepUpManager) :
    (m.challenges.get challengeId = none ∧ m.getChallenge now challengeId = (none, m))
    ∨ ∃ ch, m.challenges.get challengeId = some ch
      ∧ ((ch.status = .pending ∧ ch.expiresAt < now
          ∧ m.getChallenge now challengeId
            = (some (ch.resolved .expired), m.put (ch.resolved .expired)))
        ∨ ((ch.status = .pending → now ≤ ch.expiresAt)
          ∧ m.getChallenge now challengeId = (some ch, m))) := by
  rw [getChallenge]
  cases hget : m.challenges.get challengeId with
  | none => exact .inl ⟨rfl, rfl⟩
  | some ch =>
      refine .inr ⟨ch, rfl, ?_⟩
      dsimp only
      by_cases hexpired : ch.status = .pending ∧ ch.isExpired now = true
      · rw [if_pos hexpired]
        exact .inl ⟨hexpired.1, of_decide_eq_true hexpired.2, rfl⟩
      · rw [if_neg hexpired]
        refine .inr ⟨?_, rfl⟩
        intro hpending
        exact Int.not_lt.mp fun hlt => hexpired ⟨hpending, decide_eq_true hlt⟩

theorem verify_eq_ok_iff :
    verify env q ch = .ok ()
      ↔ Human q.decision.approverId q.agentId
        ∧ Bound ch q.sessionId q.buyerId q.merchantId q.currentCartHash q.currentTotalPaise
        ∧ ch.status = .pending ∧ env.checkedAt ≤ ch.expiresAt := by
  rw [verify, seq_unit_eq_ok_iff, seq_unit_eq_ok_iff, verifyApproverIdentity_eq_ok_iff,
    verifyChallengeBinding_eq_ok_iff, verifyChallengeActive_eq_ok_iff]

/-- What resolves a challenge: a choice, by a human, in the context that the
    challenge is bound to, before its time is over. -/
structure Decides (env : ManagerEnv) (q : DecisionRequest) (ch : AgentStepUpChallenge)
    (status : StepUpStatus) : Prop where
  choice   : decidedStatus q.decision.decision = .ok status
  human    : Human q.decision.approverId q.agentId
  bound    : Bound ch q.sessionId q.buyerId q.merchantId q.currentCartHash q.currentTotalPaise
  pending  : ch.status = .pending
  lookedUp : env.now ≤ ch.expiresAt
  checked  : env.checkedAt ≤ ch.expiresAt

/-- **A decision resolves the challenge, or has only looked it up.** -/
theorem resolveDecision_cases (env : ManagerEnv) (q : DecisionRequest) (m : AgentStepUpManager) :
    (∃ err, m.resolveDecision env q
      = (.error err, (m.getChallenge env.now q.decision.challengeId).2))
    ∨ ∃ ch status, m.challenges.get q.decision.challengeId = some ch ∧ Decides env q ch status
      ∧ m.resolveDecision env q = (.ok (ch.resolved status), m.put (ch.resolved status)) := by
  rw [resolveDecision]
  rcases getChallenge_cases env.now q.decision.challengeId m with
    ⟨-, h⟩ | ⟨ch, hget, ⟨-, -, h⟩ | ⟨htime, h⟩⟩
  · rw [h]
    exact .inl ⟨_, rfl⟩
  · -- what has just expired is not pending any more
    rw [h]
    dsimp only
    cases hverify : verify env q (ch.resolved .expired) with
    | error err => exact .inl ⟨err, rfl⟩
    | ok _ =>
        have hpending := (verify_eq_ok_iff.mp hverify).2.2.1
        cases hpending
  · rw [h]
    dsimp only
    cases hverify : verify env q ch with
    | error err => exact .inl ⟨err, rfl⟩
    | ok _ =>
        obtain ⟨hhuman, hbound, hpending, hchecked⟩ := verify_eq_ok_iff.mp hverify
        cases hchoice : decidedStatus q.decision.decision with
        | error err => exact .inl ⟨err, rfl⟩
        | ok status =>
            exact .inr ⟨ch, status, hget,
              ⟨hchoice, hhuman, hbound, hpending, htime hpending, hchecked⟩, rfl⟩

end

end AgentStepUpManager


end MandateGateway
