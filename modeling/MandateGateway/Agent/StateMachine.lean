import MandateGateway.Lib.HashChain
import MandateGateway.Lib.JsonDecode
import MandateGateway.Lib.RaisingLoop
import MandateGateway.Lib.Text

/-! # The state machine of the agent

    The states of an agent run, the transitions between them, and the record of
    a run with its step history.  A history is *legal* when its steps are linked
    to one another and each is a transition of the machine; that it is belongs
    to the record, which only `transitionTo` extends.

    Main result:
    * `LegalHistory.last_of_terminal`: no step comes after one into a terminal
      state. -/

namespace MandateGateway

open HashChain

/-- The lifecycle states of the agent runtime. -/
inductive AgentStateEnum where
  | idle | receivingInput | planning | toolRequested | waitingForTool
  | processingToolResult | proposalReady | waitingForGateway
  | completed | failed | cancelled | timedOut
deriving DecidableEq, Repr

namespace AgentStateEnum

def value : AgentStateEnum → String
  | .idle => "IDLE"
  | .receivingInput => "RECEIVING_INPUT"
  | .planning => "PLANNING"
  | .toolRequested => "TOOL_REQUESTED"
  | .waitingForTool => "WAITING_FOR_TOOL"
  | .processingToolResult => "PROCESSING_TOOL_RESULT"
  | .proposalReady => "PROPOSAL_READY"
  | .waitingForGateway => "WAITING_FOR_GATEWAY"
  | .completed => "COMPLETED"
  | .failed => "FAILED"
  | .cancelled => "CANCELLED"
  | .timedOut => "TIMED_OUT"

def isTerminal (k : AgentStateEnum) : Bool := [completed, failed, cancelled, timedOut].contains k

/-- `LEGAL_TRANSITIONS[from_state]`. -/
def legalTransitions : AgentStateEnum → List AgentStateEnum
  | .idle => [.receivingInput, .failed, .cancelled]
  | .receivingInput => [.planning, .failed, .cancelled, .timedOut]
  | .planning => [.toolRequested, .proposalReady, .completed, .failed, .cancelled, .timedOut]
  | .toolRequested => [.waitingForTool, .failed, .cancelled, .timedOut]
  | .waitingForTool => [.processingToolResult, .failed, .cancelled, .timedOut]
  | .processingToolResult => [.planning, .proposalReady, .failed, .cancelled, .timedOut]
  | .proposalReady => [.waitingForGateway, .completed, .failed, .cancelled, .timedOut]
  | .waitingForGateway => [.completed, .failed, .cancelled, .timedOut]
  | .completed | .failed | .cancelled | .timedOut => []

def legalValues (k : AgentStateEnum) : List String := k.legalTransitions.map value

theorem legalTransitions_of_terminal {k : AgentStateEnum} (h : k.isTerminal = true) :
    k.legalTransitions = [] := by
  cases k <;> first | rfl | cases h

theorem failed_legal {k : AgentStateEnum} (h : k.isTerminal = false) :
    .failed ∈ k.legalTransitions := by
  cases k <;> first | decide | cases h

end AgentStateEnum

/-! ## Exceptions -/

/-- The class of an exception: one of the agent's own, another subclass of
    `Exception`, or one of `BaseException` that is none of `Exception`. -/
inductive ExceptionClass where
  | agentError | agentStateTransitionError | agentLoopLimitExceededError
  | agentToolLimitExceededError | agentTimeoutError | agentCancellationError
  | agentSecurityViolationError | agentModelError
  | exception (name : String)
  | baseException (name : String)
deriving DecidableEq

/-- An exception, by its class and its `str()`. -/
structure AgentException where
  cls  : ExceptionClass
  text : String
deriving DecidableEq

namespace AgentException

/-- The classes of the runtime's own limits, which it raises again unchanged. -/
def isControlled (e : AgentException) : Bool :=
  [ExceptionClass.agentCancellationError, .agentTimeoutError, .agentLoopLimitExceededError,
    .agentToolLimitExceededError, .agentSecurityViolationError,
    .agentStateTransitionError].contains e.cls

/-- Whether `except Exception` catches it. -/
def isOrdinary (e : AgentException) : Bool :=
  match e.cls with
  | .baseException _ => false
  | _ => true

end AgentException

/-! ## Transitions -/

/-- `validate_transition`; a set of states is printed in an order of its own. -/
def validateTransition (printed : List String → String) (fromState toState : AgentStateEnum) :
    Except AgentException Unit :=
  if fromState.isTerminal then
    .error ⟨.agentStateTransitionError,
      s!"Cannot transition out of terminal state {Text.quoted fromState.value} to "
        ++ s!"{Text.quoted toState.value}."⟩
  else if toState ∉ fromState.legalTransitions then
    .error ⟨.agentStateTransitionError,
      s!"Illegal state transition: {fromState.value} -> {toState.value}. Allowed transitions "
        ++ s!"from {fromState.value}: {printed fromState.legalValues}."⟩
  else .ok ()

theorem validateTransition_eq_ok_iff {printed : List String → String}
    {fromState toState : AgentStateEnum} :
    validateTransition printed fromState toState = .ok ()
      ↔ toState ∈ fromState.legalTransitions := by
  rw [validateTransition]
  by_cases hterminal : fromState.isTerminal = true
  · rw [if_pos hterminal, AgentStateEnum.legalTransitions_of_terminal hterminal]
    exact ⟨nofun, fun h => absurd h List.not_mem_nil⟩
  · rw [if_neg hterminal]
    by_cases hlegal : toState ∈ fromState.legalTransitions
    · rw [if_neg (not_not_intro hlegal)]
      exact ⟨fun _ => hlegal, fun _ => rfl⟩
    · rw [if_pos hlegal]
      exact ⟨nofun, fun h => absurd h hlegal⟩

/-- The record of one transition. -/
structure AgentStepRecord where
  stepIndex : Nat
  fromState : AgentStateEnum
  toState   : AgentStateEnum
  detail    : Option String
deriving DecidableEq

def AgentStepRecord.Legal (r : AgentStepRecord) : Prop := r.toState ∈ r.fromState.legalTransitions

/-- The steps lead from one state to another by transitions of the machine. -/
def LegalPath : AgentStateEnum → List AgentStepRecord → AgentStateEnum → Prop :=
  Chain AgentStepRecord.fromState AgentStepRecord.toState AgentStepRecord.Legal

/-- A history is the record of the initial state, and a legal path from there
    to the current one; the steps are numbered. -/
structure LegalHistory (history : List AgentStepRecord) (current : AgentStateEnum) : Prop where
  path     : ∃ initial steps, history = initial :: steps ∧ initial.fromState = .idle
    ∧ LegalPath initial.toState steps current
  numbered : history.map (·.stepIndex) = List.range history.length

/-- **Nothing comes after a step into a terminal state.** -/
theorem LegalPath.last_of_terminal {k k' : AgentStateEnum} {steps : List AgentStepRecord}
    (h : LegalPath k steps k') (hk : k.isTerminal = true) : steps = [] := by
  cases steps with
  | nil => rfl
  | cons r rest =>
      obtain ⟨hfrom, hlegal, -⟩ := chain_cons_iff.mp h
      rw [AgentStepRecord.Legal, hfrom, AgentStateEnum.legalTransitions_of_terminal hk] at hlegal
      exact absurd hlegal List.not_mem_nil

/-- What follows a step of a legal path is a legal path from its target. -/
theorem LegalPath.after {k k' : AgentStateEnum} {before after : List AgentStepRecord}
    {r : AgentStepRecord} (h : LegalPath k (before ++ r :: after) k') :
    LegalPath r.toState after k' := by
  induction before generalizing k with
  | nil => exact (chain_cons_iff.mp h).2.2
  | cons r' before ih => exact ih (chain_cons_iff.mp h).2.2

theorem LegalHistory.last_of_terminal {history before after : List AgentStepRecord}
    {r : AgentStepRecord} {current : AgentStateEnum} (h : LegalHistory history current)
    (heq : history = before ++ r :: after) (hr : r.toState.isTerminal = true) : after = [] := by
  obtain ⟨initial, steps, hsplit, -, hpath⟩ := h.path
  rw [hsplit] at heq
  cases before with
  | nil =>
      obtain ⟨rfl, rfl⟩ := List.cons.inj heq
      exact hpath.last_of_terminal hr
  | cons r' before =>
      obtain ⟨-, rfl⟩ := List.cons.inj heq
      exact hpath.after.last_of_terminal hr

def nextStep (history : List AgentStepRecord) (fromState toState : AgentStateEnum)
    (detail : Option String) : AgentStepRecord where
  stepIndex := history.length
  fromState := fromState
  toState := toState
  detail := detail

/-- A history goes on with a transition of the machine. -/
theorem LegalHistory.concat {history : List AgentStepRecord} {current k : AgentStateEnum}
    (h : LegalHistory history current) (hk : k ∈ current.legalTransitions)
    (detail : Option String) :
    LegalHistory (history ++ [nextStep history current k detail]) k := by
  obtain ⟨initial, steps, hsplit, hidle, hpath⟩ := h.path
  constructor
  · refine ⟨initial, steps ++ [nextStep history current k detail], ?_, hidle, ?_⟩
    · rw [hsplit, List.cons_append]
    · exact chain_concat_iff.mpr ⟨hpath, hk, rfl⟩
  · rw [List.map_append, h.numbered, List.length_append, List.length_singleton, List.range_succ]
    rfl

/-! ## The record of a run -/

inductive AgentMessageType where
  | system | user | assistant | toolRequest | toolResult
deriving DecidableEq, Repr

/-- A message of the conversation.  What a model or a tool answers is not
    checked to be a text. -/
structure AgentMessage where
  messageType : AgentMessageType
  content     : Json.Value
  toolName    : Option Json.Value := none

/-- A dictionary with texts as keys. -/
abbrev Payload := List (String × Json.Value)

/-- The execution context of a run, with a legal history. -/
structure AgentState where
  agentId          : String
  sessionId        : String
  buyerId          : String
  merchantId       : String
  mandateId        : String
  currentState     : AgentStateEnum
  messages         : List AgentMessage
  stepHistory      : List AgentStepRecord
  pendingToolCall  : Option Payload
  latestToolResult : Option Payload
  proposalPayload  : Option Payload
  iterationCount   : Nat
  toolCallCount    : Nat
  failureReason    : Option String
  legal            : LegalHistory stepHistory currentState

/-- A new history holds the initial state alone. -/
theorem LegalHistory.initial (k : AgentStateEnum) (detail : Option String) :
    LegalHistory [nextStep [] .idle k detail] k :=
  ⟨⟨nextStep [] .idle k detail, [], rfl, rfl, .nil k⟩, rfl⟩

namespace AgentState

/-- `AgentState(...)`. -/
def new (agentId sessionId buyerId merchantId mandateId : String)
    (initialState : AgentStateEnum) : AgentState where
  agentId := agentId
  sessionId := sessionId
  buyerId := buyerId
  merchantId := merchantId
  mandateId := mandateId
  currentState := initialState
  messages := []
  stepHistory := [nextStep [] .idle initialState (some "Agent state initialized")]
  pendingToolCall := none
  latestToolResult := none
  proposalPayload := none
  iterationCount := 0
  toolCallCount := 0
  failureReason := none
  legal := .initial initialState (some "Agent state initialized")

/-- The state after a transition of the machine. -/
def moved (state : AgentState) (k : AgentStateEnum) (detail : Option String)
    (hk : k ∈ state.currentState.legalTransitions) : AgentState :=
  { state with
    currentState := k
    stepHistory := state.stepHistory ++ [nextStep state.stepHistory state.currentState k detail]
    legal := state.legal.concat hk detail }

def transitionTo (printed : List String → String) (newState : AgentStateEnum)
    (detail : Option String) : Raising AgentState AgentException Unit := fun state =>
  match hcheck : validateTransition printed state.currentState newState with
  | .error e => (.error e, state)
  | .ok () => (.ok (), state.moved newState detail (validateTransition_eq_ok_iff.mp hcheck))

def addMessage (message : AgentMessage) (state : AgentState) : AgentState :=
  { state with messages := state.messages ++ [message] }

def setPendingToolCall (toolCall : Payload) (state : AgentState) : AgentState :=
  { state with pendingToolCall := some toolCall }

def clearPendingToolCall (state : AgentState) : AgentState :=
  { state with pendingToolCall := none }

def setToolResult (result : Payload) (state : AgentState) : AgentState :=
  { state with latestToolResult := some result }

def setProposalPayload (proposal : Payload) (state : AgentState) : AgentState :=
  { state with proposalPayload := some proposal }

def incrementIteration (state : AgentState) : AgentState :=
  { state with iterationCount := state.iterationCount + 1 }

def incrementToolCall (state : AgentState) : AgentState :=
  { state with toolCallCount := state.toolCallCount + 1 }

def setFailureReason (reason : String) (state : AgentState) : AgentState :=
  { state with failureReason := some reason }

/-- The getters give no empty dictionary. -/
def nonEmpty (payload : Option Payload) : Option Payload := payload.filter (!·.isEmpty)

variable {printed : List String → String}

theorem transitionTo_of_legal {state : AgentState} {k : AgentStateEnum} {detail : Option String}
    (hk : k ∈ state.currentState.legalTransitions) :
    transitionTo printed k detail state = (.ok (), state.moved k detail hk) := by
  rw [transitionTo]
  split
  next e heq =>
    rw [validateTransition_eq_ok_iff.mpr hk] at heq
    cases heq
  next heq => rfl

theorem transitionTo_of_illegal {state : AgentState} {k : AgentStateEnum}
    {detail : Option String} (hk : k ∉ state.currentState.legalTransitions) :
    ∃ e, transitionTo printed k detail state = (.error e, state) := by
  rw [transitionTo]
  split
  next e heq => exact ⟨e, rfl⟩
  next heq => exact absurd (validateTransition_eq_ok_iff.mp heq) hk

/-- **What `transition_to` does**: it moves along a transition or raises. -/
theorem transitionTo_cases (k : AgentStateEnum) (detail : Option String) (state : AgentState) :
    (∃ hk : k ∈ state.currentState.legalTransitions,
        transitionTo printed k detail state = (.ok (), state.moved k detail hk))
      ∨ ∃ e, transitionTo printed k detail state = (.error e, state) := by
  by_cases hk : k ∈ state.currentState.legalTransitions
  · exact .inl ⟨hk, transitionTo_of_legal hk⟩
  · exact .inr (transitionTo_of_illegal hk)

end AgentState

end MandateGateway
