import MandateGateway.Agent.StateMachine
import MandateGateway.Lib.RaisingLoop
import MandateGateway.Types

/-! # The nodes of the agent graph

    The steps that a run of the agent takes.  What a model, a tool, the
    registry of the tools, the clock and the token of cancellation do is an
    arbitrary world: it may answer values of any shape, raise, and remember.
    Where a value is not of the type that a node expects, what the language
    makes of it is arbitrary too.

    A run counts what it does: the turns of its loop and the tools executed. -/

namespace MandateGateway

open Json

/-- What the language makes of values. -/
structure AgentEnv where
  /-- how the values of a set are printed as a list -/
  printed : List String → String
  str : Value → String
  repr : Value → String
  upper : String → String
  /-- `json.dumps(v)` -/
  dumps : Value → Except AgentException String
  /-- `v[0]` where `v` is no list with an element -/
  item0 : Value → Except AgentException Value
  /-- `dict(v)` where `v` is no dictionary -/
  toDict : Value → Except AgentException Payload
  /-- `v.get(key)` where `v` is no dictionary -/
  noGet : Value → AgentException
  /-- `key in v` where `v` holds nothing -/
  noMembers : Value → AgentException

namespace AgentEnv

variable (env : AgentEnv)

/-- `v[0]`. -/
def first : Value → Except AgentException Value
  | .arr (x :: _) => .ok x
  | v => env.item0 v

/-- `dict(v)`. -/
def dict : Value → Except AgentException Payload
  | .obj members => .ok members
  | v => env.toDict v

/-- `v.get(key)`. -/
def get (key : String) : Value → Except AgentException Value
  | .obj members => .ok ((Value.member members key).getD .null)
  | v => .error (env.noGet v)

/-- `key in v`. -/
def contains (key : String) : Value → Except AgentException Bool
  | .obj members => .ok (members.any fun m => m.1 == key)
  | .str s => .ok (Text.occursIn key s)
  | .arr xs => .ok (xs.any fun x => match x with | .str s => s == key | _ => false)
  | v => .error (env.noMembers v)

end AgentEnv

/-! ## The world -/

structure ModelRequest where
  messages       : List AgentMessage
  availableTools : List Value

/-- The parts of a model's response that the runtime reads. -/
structure ModelResponse where
  content     : Value
  toolCalls   : Value
  rawResponse : Value

/-- The parts of a tool's result that the runtime reads. -/
structure ToolResult where
  toolName        : Value
  success         : Value
  data            : Value
  errorMessage    : Value
  executionTimeMs : Value

/-- What the runtime depends on, each with its own memory. -/
structure AgentWorld (W : Type) where
  cancelled       : Raising W AgentException Bool
  elapsed         : Raising W AgentException Binary64
  toolDefinitions : Raising W AgentException (List Value)
  generate        : ModelRequest → Raising W AgentException ModelResponse
  executeTool     : Value → Value → String → Raising W AgentException ToolResult

/-- A run: its state, the world, and what it has done so far. -/
structure AgentRun (W : Type) where
  state    : AgentState
  world    : W
  turns    : Nat
  executed : List (Value × Value)

variable {W α : Type}

namespace AgentRun

def onState (x : Raising AgentState AgentException α) :
    Raising (AgentRun W) AgentException α :=
  Raising.zoom (·.state) (fun state r => { r with state := state }) x

def onWorld (x : Raising W AgentException α) : Raising (AgentRun W) AgentException α :=
  Raising.zoom (·.world) (fun world r => { r with world := world }) x

def update (f : AgentState → AgentState) : Raising (AgentRun W) AgentException Unit :=
  onState (Raising.modify f)

def transition (env : AgentEnv) (k : AgentStateEnum) (detail : Option String) :
    Raising (AgentRun W) AgentException Unit :=
  onState (AgentState.transitionTo env.printed k detail)

/-- One more turn of the loop. -/
def turned (r : AgentRun W) : AgentRun W := { r with turns := r.turns + 1 }

def executing (toolName arguments : Value) (r : AgentRun W) : AgentRun W :=
  { r with executed := r.executed ++ [(toolName, arguments)] }

end AgentRun

open AgentRun Raising

/-! ## Receiving the input -/

def NodeReceiveInput.process (env : AgentEnv) (userPrompt : String) :
    Raising (AgentRun W) AgentException Unit := do
  transition env .receivingInput (some "Receiving user input")
  update (AgentState.addMessage { messageType := .user, content := .str userPrompt })
  transition env .planning (some "Input received, beginning planning")

/-! ## Planning -/

namespace NodePlanning

/-- The proposal where the response holds none that can be read. -/
def defaultPayload : Payload :=
  [("amount_paise", .int 1000), ("currency", .str "INR"), ("operation", .str "create_order")]

/-- The proposal that a response holds, and `none` where reading it raises. -/
def proposalOf (res : ModelResponse) : Option Value :=
  match res.content with
  | .str text =>
      if text.toList.head? = some openBrace then decode text
      else match res.rawResponse with
      | .obj members => some ((Value.member members "proposal").getD (.obj []))
      | _ => none
  | _ => none

def plannedPayload (res : ModelResponse) : Value :=
  match proposalOf res with
  | some payload => if payload.truthy then payload else .obj defaultPayload
  | none => .obj defaultPayload

/-- `"proposal" in model_res.raw_response or "amount_paise" in model_res.content`. -/
def proposes (env : AgentEnv) (res : ModelResponse) : Except AgentException Bool := do
  if ← env.contains "proposal" res.rawResponse then return true
  else env.contains "amount_paise" res.content

def requestTool (env : AgentEnv) (res : ModelResponse) :
    Raising (AgentRun W) AgentException Unit := do
  let firstTool ← ofExcept (env.first res.toolCalls)
  let toolCall ← ofExcept (env.dict firstTool)
  update (AgentState.setPendingToolCall toolCall)
  let name ← ofExcept (env.get "name" firstTool)
  transition env .toolRequested (some s!"Model requested tool: {env.str name}")

def propose (env : AgentEnv) (res : ModelResponse) :
    Raising (AgentRun W) AgentException Unit := do
  let payload ← ofExcept (env.dict (plannedPayload res))
  update (AgentState.setProposalPayload payload)
  transition env .proposalReady (some "Model generated commerce proposal")

def chooseNext (env : AgentEnv) (res : ModelResponse) :
    Raising (AgentRun W) AgentException Unit :=
  if res.toolCalls.truthy then requestTool env res
  else do
    if ← ofExcept (proposes env res) then propose env res
    else
      transition env .completed
        (some "Model completed planning without tools or proposals")

/-- The content of the response is recorded, unless it is empty. -/
def record (res : ModelResponse) : Raising (AgentRun W) AgentException Unit :=
  if res.content.truthy then
    update (AgentState.addMessage { messageType := .assistant, content := res.content })
  else pure ()

def process (env : AgentEnv) (world : AgentWorld W) :
    Raising (AgentRun W) AgentException Unit := do
  let toolDefs ← onWorld world.toolDefinitions
  let messages ← asks (·.state.messages)
  let res ← onWorld (world.generate { messages := messages, availableTools := toolDefs })
  record res
  chooseNext env res

end NodePlanning

/-! ## Executing a tool -/

namespace NodeToolExecution

/-- The call is counted, and the registry executes the tool. -/
def invoke (world : AgentWorld W) (toolName arguments : Value) :
    Raising (AgentRun W) AgentException ToolResult := do
  update AgentState.incrementToolCall
  let sessionId ← asks (·.state.sessionId)
  modify (executing toolName arguments)
  onWorld (world.executeTool toolName arguments sessionId)

def resultPayload (res : ToolResult) : Payload :=
  [("tool_name", res.toolName), ("success", res.success), ("data", res.data),
    ("error_message", res.errorMessage), ("execution_time_ms", res.executionTimeMs)]

/-- The result is kept, and the call is no longer pending. -/
def complete (env : AgentEnv) (toolName : Value) (res : ToolResult) :
    Raising (AgentRun W) AgentException Unit := do
  update (AgentState.setToolResult (resultPayload res))
  update AgentState.clearPendingToolCall
  transition env .processingToolResult (some s!"Completed tool {env.repr toolName}")

def execute (env : AgentEnv) (world : AgentWorld W) (toolCall : Payload) :
    Raising (AgentRun W) AgentException Unit := do
  let toolName := (Value.member toolCall "name").getD (.str "")
  let arguments := (Value.member toolCall "arguments").getD (.obj [])
  transition env .waitingForTool (some s!"Executing tool {env.repr toolName}")
  let res ← invoke world toolName arguments
  complete env toolName res

def process (env : AgentEnv) (world : AgentWorld W) :
    Raising (AgentRun W) AgentException Unit := do
  match ← asks (fun r => AgentState.nonEmpty r.state.pendingToolCall) with
  | none => transition env .failed (some "No pending tool call found")
  | some toolCall => execute env world toolCall

end NodeToolExecution

/-! ## Processing its result -/

namespace NodeProcessToolResult

/-- The message that a result makes. -/
def content (env : AgentEnv) (toolRes : Payload) : Except AgentException String :=
  if ((Value.member toolRes "success").getD (.bool false)).truthy then
    env.dumps ((Value.member toolRes "data").getD (.obj []))
  else
    let err := (Value.member toolRes "error_message").getD .null
    .ok s!"Error: {env.str err}"

def report (env : AgentEnv) (toolRes : Payload) : Raising (AgentRun W) AgentException Unit := do
  let toolName := (Value.member toolRes "tool_name").getD (.str "unknown")
  let text ← ofExcept (content env toolRes)
  update (AgentState.addMessage
    { messageType := .toolResult, content := .str text, toolName := some toolName })
  transition env .planning (some s!"Processed result from tool {env.repr toolName}")

def process (env : AgentEnv) : Raising (AgentRun W) AgentException Unit := do
  match ← asks (fun r => AgentState.nonEmpty r.state.latestToolResult) with
  | none => transition env .failed (some "No tool result available to process")
  | some toolRes => report env toolRes

end NodeProcessToolResult

/-! ## Preparing a proposal -/

/-- A proposal of the agent, which is never trusted. -/
structure AgentProposal where
  proposalId  : String
  sessionId   : String
  buyerId     : String
  merchantId  : String
  mandateId   : String
  operation   : McpOperation
  amountPaise : Value
  currency    : Currency
  cartId      : Value
  cartHash    : Value
  rawPrompt   : Value
  items       : Value
  isTrusted   : Bool

namespace AgentProposalBoundary

/-- `session_id[:8]`. -/
def sessionPart (sessionId : String) : String := String.ofList (sessionId.toList.take 8)

/-- What an enumeration raises for a text that is none of its values. -/
def unknownValue (env : AgentEnv) (enum text : String) : AgentException :=
  ⟨.exception "ValueError", s!"{env.repr (.str text)} is not a valid {enum}"⟩

/-- The currency that the proposal names; what is no text is ignored. -/
def currencyOf (env : AgentEnv) : Value → Except AgentException Currency
  | .str text =>
      match Currency.ofValue (env.upper text) with
      | some currency => .ok currency
      | none => .error (unknownValue env "Currency" (env.upper text))
  | _ => .ok .inr

/-- The operation that the proposal names. -/
def operationOf (env : AgentEnv) : Value → Except AgentException McpOperation
  | .str text =>
      match McpOperation.ofValue (Text.lower text) with
      | some op => .ok op
      | none => .error (unknownValue env "McpOperation" (Text.lower text))
  | _ => .ok .createOrder

/-- The one item of a proposal that names none. -/
def defaultItems (sessionId : String) (amount : Value) : Value :=
  .arr [.obj [("product_id", .str s!"prod_{sessionPart sessionId}"),
    ("name", .str "Proposed Commerce Item"), ("quantity", .int 1), ("unit_price_paise", amount)]]

def buildProposal (env : AgentEnv) (sessionId buyerId merchantId mandateId : String)
    (proposalData : Payload) : Except AgentException AgentProposal := do
  let read (key : String) (default : Value) : Value :=
    (Value.member proposalData key).getD default
  let amount := read "amount_paise" (.int 1000)
  let currency ← currencyOf env (read "currency" (.str "INR"))
  let operation ← operationOf env (read "operation" (.str "create_order"))
  return {
    proposalId := s!"prop_{sessionPart sessionId}"
    sessionId := sessionId
    buyerId := buyerId
    merchantId := merchantId
    mandateId := mandateId
    operation := operation
    amountPaise := amount
    currency := currency
    cartId := read "cart_id" (.str s!"cart_{sessionPart sessionId}")
    cartHash := read "cart_hash"
      (.str "e3b0c44298fc1c149afbf4c8996fb92427ae41e4649b934ca495991b7852b855")
    rawPrompt := read "raw_prompt" (.str "AI Commerce Agent Proposal")
    items := read "items" (defaultItems sessionId amount)
    isTrusted := false }

end AgentProposalBoundary

def NodePrepareProposal.process (env : AgentEnv) :
    Raising (AgentRun W) AgentException Unit := do
  let state ← asks AgentRun.state
  let payload := (AgentState.nonEmpty state.proposalPayload).getD []
  let proposal ← ofExcept (AgentProposalBoundary.buildProposal env state.sessionId state.buyerId
    state.merchantId state.mandateId payload)
  transition env .waitingForGateway
    (some s!"Proposal {Text.quoted proposal.proposalId} waiting for gateway")
  transition env .completed (some "Proposal submitted to gateway boundary")

/-! ## The end -/

namespace NodeFinalize

/-- A run that is not over ends. -/
def close (env : AgentEnv) (success : Bool) (reason : String) (current : AgentStateEnum) :
    Raising (AgentRun W) AgentException Unit :=
  if current.isTerminal then pure ()
  else transition env (if success then .completed else .failed) (some reason)

/-- A reason is recorded, unless it is empty. -/
def explain (reason : String) : Raising (AgentRun W) AgentException Unit :=
  if reason = "" then pure () else update (AgentState.setFailureReason reason)

def process (env : AgentEnv) (success : Bool) (reason : String) :
    Raising (AgentRun W) AgentException Unit := do
  let current ← asks (·.state.currentState)
  close env success reason current
  explain reason

end NodeFinalize

end MandateGateway
