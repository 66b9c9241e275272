import MandateGateway.Execution.Records
import MandateGateway.Intent.ValueText
import Mathlib.Data.List.Nodup

/-! # Listing and calling tools

    The gateway of the tool protocol filters what `tools/list` shows by the
    operations of the scope, and checks a `tools/call` by a lookup of its name
    and the same operations in another order.

    * `listedLaw`: where no two tools of the catalog have one name, a tool is
      listed exactly when an authorized call for its name passes, and no call
      passes without authorization. -/

namespace MandateGateway

open WideText (ofString)

structure McpToolDefinition where
  name        : WideText
  description : WideText
  inputSchema : RawValue
  operation   : McpOperation
  isBlocked   : Bool

inductive McpErrorCode where
  | mcpToolNotFound | mcpToolUnauthorized | mcpToolBlocked | mcpInvalidJsonrpc
  | mcpTransactionUnauthorized | mcpExecutionFailed | mcpPayloadSizeExceeded
deriving DecidableEq

def McpErrorCode.value : McpErrorCode → String
  | .mcpToolNotFound => "MCP_TOOL_NOT_FOUND"
  | .mcpToolUnauthorized => "MCP_TOOL_UNAUTHORIZED"
  | .mcpToolBlocked => "MCP_TOOL_BLOCKED"
  | .mcpInvalidJsonrpc => "MCP_INVALID_JSONRPC"
  | .mcpTransactionUnauthorized => "MCP_TRANSACTION_UNAUTHORIZED"
  | .mcpExecutionFailed => "MCP_EXECUTION_FAILED"
  | .mcpPayloadSizeExceeded => "MCP_PAYLOAD_SIZE_EXCEEDED"

structure McpGatewayError where
  code   : McpErrorCode
  detail : WideText
deriving DecidableEq

/-- The operations of a scope. -/
structure McpScope where
  allowedOperations : List McpOperation
  blockedOperations : List McpOperation

/-! ## The masker -/

namespace McpToolMasker

/-- A dictionary of a schema. -/
def schema (fields : List (String × RawValue)) : RawValue :=
  .dict (fields.map fun field => (RawDict.key field.1, field.2))

def text (s : String) : RawValue := .str (ofString s)

def fieldOfType (name : String) : RawValue := schema [("type", text name)]

/-- `STANDARD_MCP_TOOLS`. -/
def standardMcpTools : List McpToolDefinition :=
  [{ name := ofString "create_order"
     description := ofString "Create a Razorpay commerce purchase order."
     inputSchema := schema [("type", text "object"),
       ("properties", schema
         [("amount", schema [("type", text "integer"),
            ("description", text "Total amount in paise")]),
          ("currency", fieldOfType "string")]),
       ("required", .list [text "amount", text "currency"])]
     operation := .createOrder
     isBlocked := false },
   { name := ofString "create_payment_link"
     description := ofString "Generate a Razorpay payment link for checkout."
     inputSchema := schema [("type", text "object"),
       ("properties", schema
         [("amount", fieldOfType "integer"), ("description", fieldOfType "string")]),
       ("required", .list [text "amount"])]
     operation := .createPaymentLink
     isBlocked := false },
   { name := ofString "fetch_payment"
     description := ofString "Fetch status of a payment transaction."
     inputSchema := schema [("type", text "object"),
       ("properties", schema [("payment_id", fieldOfType "string")]),
       ("required", .list [text "payment_id"])]
     operation := .fetchPayment
     isBlocked := false },
   { name := ofString "payout"
     description := ofString "Initiate merchant payout to external bank account."
     inputSchema := schema [("type", text "object"),
       ("properties", schema [("amount", fieldOfType "integer")])]
     operation := .payout
     isBlocked := true },
   { name := ofString "settlement"
     description := ofString "Execute immediate balance settlement."
     inputSchema := fieldOfType "object"
     operation := .settlement
     isBlocked := true },
   { name := ofString "bank_transfer"
     description := ofString "Direct electronic bank transfer."
     inputSchema := fieldOfType "object"
     operation := .bankTransfer
     isBlocked := true }]

end McpToolMasker

structure McpToolMasker where
  catalog : List McpToolDefinition
  lookup  : OrderedMap WideText McpToolDefinition

namespace McpToolMasker

/-- `McpToolMasker(tool_catalog)`: no catalog, or an empty one, is the standard one. -/
def new (toolCatalog : Option (List McpToolDefinition)) : McpToolMasker :=
  let catalog :=
    match toolCatalog with
    | some (tool :: rest) => tool :: rest
    | _ => standardMcpTools
  ⟨catalog, OrderedMap.ofList McpToolDefinition.name catalog⟩

def getTool (masker : McpToolMasker) (toolName : WideText) : Option McpToolDefinition :=
  masker.lookup.get toolName

def filterToolsForScope (masker : McpToolMasker) (scope : McpScope) : List McpToolDefinition :=
  masker.catalog.filter fun tool =>
    if tool.operation ∉ scope.allowedOperations then false
    else if tool.operation ∈ scope.blockedOperations then false
    else if tool.isBlocked then false
    else true

end McpToolMasker

/-! ## The authorizer -/

structure McpRuntimeAuthorizer where
  masker : McpToolMasker

namespace McpRuntimeAuthorizer

def authorizeToolCall (authorizer : McpRuntimeAuthorizer) (toolName : WideText)
    (scope : McpScope) (gatewayAuthorized : Bool) : Except McpGatewayError Unit :=
  let quotedName := WideText.quoted toolName
  match authorizer.masker.getTool toolName with
  | none => .error ⟨.mcpToolNotFound,
      ofString "MCP tool " ++ quotedName ++ ofString " does not exist."⟩
  | some tool =>
      if tool.isBlocked ∨ tool.operation ∈ scope.blockedOperations then
        .error ⟨.mcpToolBlocked, ofString "MCP tool " ++ quotedName
          ++ ofString " is explicitly blocked by merchant or policy scope."⟩
      else if tool.operation ∉ scope.allowedOperations then
        .error ⟨.mcpToolUnauthorized, ofString "MCP tool " ++ quotedName
          ++ ofString " is not authorized under current session mandate scope."⟩
      else if gatewayAuthorized = false then
        .error ⟨.mcpTransactionUnauthorized, ofString "Execution of MCP tool " ++ quotedName
          ++ ofString " requires Gateway authorization (ALLOW)."⟩
      else .ok ()

end McpRuntimeAuthorizer

structure McpSecurityGateway where
  masker     : McpToolMasker
  authorizer : McpRuntimeAuthorizer

/-- `McpSecurityGateway(masker, authorizer)`: what is not given is made. -/
def McpSecurityGateway.new (masker : Option McpToolMasker)
    (authorizer : Option McpRuntimeAuthorizer) : McpSecurityGateway :=
  let masker := masker.getD (.new none)
  ⟨masker, authorizer.getD ⟨masker⟩⟩

/-! ## The two handlers -/

/-- `request.params`, with the identifier of the request. -/
structure McpJsonRpcRequest where
  method : WideText
  params : RawDict
  id     : RawValue

/-- The members of an error. -/
structure McpRpcError where
  code    : Int
  message : WideText
  data    : Option McpErrorCode

structure McpJsonRpcResponse where
  id     : RawValue
  result : Option RawValue
  error  : Option McpRpcError

namespace McpJsonRpcResponse

def ofResult (id result : RawValue) : McpJsonRpcResponse := ⟨id, some result, none⟩

def ofError (id : RawValue) (error : McpRpcError) : McpJsonRpcResponse := ⟨id, none, some error⟩

end McpJsonRpcResponse

namespace McpSecurityGateway

/-- A tool as it is listed. -/
def toolPayload (tool : McpToolDefinition) : RawValue :=
  .dict [(RawDict.key "name", .str tool.name), (RawDict.key "description", .str tool.description),
    (RawDict.key "inputSchema", tool.inputSchema)]

def handleToolsList (gateway : McpSecurityGateway) (request : McpJsonRpcRequest)
    (scope : McpScope) : McpJsonRpcResponse :=
  .ofResult request.id (.dict [(RawDict.key "tools",
    .list ((gateway.masker.filterToolsForScope scope).map toolPayload))])

def isAuthorized (gatewayAuthorization : Option AuthorizationResult) : Bool :=
  match gatewayAuthorization with
  | some authorization => authorization.decision = .allow
  | none => false

/-- The name of the tool that is called; its text may break a limit. -/
def calledName (room : Nat) (request : McpJsonRpcRequest) : Except IntentError WideText :=
  ((request.params.get "name" (.str [])).toText room).map WideText.strip

/-- The first part of `handle_tools_call`: what is answered to a call that is not to
    be executed, or the name of the tool. -/
def admitCall (room : Nat) (gateway : McpSecurityGateway) (request : McpJsonRpcRequest)
    (scope : McpScope) (gatewayAuthorization : Option AuthorizationResult) :
    Except IntentError (McpJsonRpcResponse ⊕ WideText) := do
  let name ← calledName room request
  if name = [] then
    pure (.inl (.ofError request.id
      ⟨-32602, ofString "Missing mandatory parameter 'name' in tools/call.", none⟩))
  else
    match gateway.authorizer.authorizeToolCall name scope (isAuthorized gatewayAuthorization) with
    | .error err => pure (.inl (.ofError request.id ⟨-32001, err.detail, some err.code⟩))
    | .ok () => pure (.inr name)

end McpSecurityGateway

/-! ## What is listed can be called -/

/-- Distinct names, none of them empty or with whitespace around it. -/
structure ProperCatalog (catalog : List McpToolDefinition) : Prop where
  nodup   : (catalog.map McpToolDefinition.name).Nodup
  ne      : ∀ tool ∈ catalog, tool.name ≠ []
  trimmed : ∀ tool ∈ catalog, WideText.strip tool.name = tool.name

/-- The scope has the operation of the tool, and the tool is not blocked. -/
structure InScope (scope : McpScope) (tool : McpToolDefinition) : Prop where
  allowed   : tool.operation ∈ scope.allowedOperations
  unblocked : tool.operation ∉ scope.blockedOperations
  enabled   : tool.isBlocked = false

theorem mem_filterToolsForScope_iff {masker : McpToolMasker} {scope : McpScope}
    {tool : McpToolDefinition} :
    tool ∈ masker.filterToolsForScope scope ↔ tool ∈ masker.catalog ∧ InScope scope tool := by
  rw [McpToolMasker.filterToolsForScope, List.mem_filter]
  refine and_congr_right fun _ => ?_
  by_cases hallowed : tool.operation ∈ scope.allowedOperations
  · by_cases hblocked : tool.operation ∈ scope.blockedOperations
    · simp only [hallowed, hblocked, not_true_eq_false, if_true, if_false, Bool.false_eq_true,
        false_iff]
      exact fun h => h.unblocked hblocked
    · simp only [hallowed, hblocked, not_true_eq_false, if_false, Bool.if_true_right]
      constructor
      · intro henabled
        exact ⟨hallowed, hblocked, by simpa using henabled⟩
      · intro h
        simpa using h.enabled
  · simp only [hallowed, not_false_eq_true, if_true, Bool.false_eq_true, false_iff]
    exact fun h => hallowed h.allowed

/-- **The authorizer passes** a call for the name of a tool in scope, when it is
    authorized. -/
theorem authorizeToolCall_eq_ok_iff {authorizer : McpRuntimeAuthorizer} {toolName : WideText}
    {scope : McpScope} {authorized : Bool} :
    authorizer.authorizeToolCall toolName scope authorized = .ok ()
      ↔ authorized = true ∧ ∃ tool, authorizer.masker.getTool toolName = some tool
        ∧ InScope scope tool := by
  rw [McpRuntimeAuthorizer.authorizeToolCall]
  cases htool : authorizer.masker.getTool toolName with
  | none => simp
  | some tool =>
      dsimp only
      rw [Exceptions.guard_eq_ok_iff, Exceptions.guard_eq_ok_iff, Exceptions.guard_eq_ok_iff]
      constructor
      · rintro ⟨hblocked, hallowed, hauthorized, -⟩
        rw [not_or, Bool.not_eq_true] at hblocked
        exact ⟨Bool.not_eq_false _ ▸ hauthorized, tool, rfl, not_not.mp hallowed, hblocked.2,
          hblocked.1⟩
      · rintro ⟨rfl, tool', hsame, hscope⟩
        obtain rfl := Option.some.inj hsame
        refine ⟨?_, not_not.mpr hscope.allowed, by simp, rfl⟩
        rw [hscope.enabled, not_or]
        exact ⟨Bool.false_ne_true, hscope.unblocked⟩

theorem getTool_eq_some_iff {catalog : List McpToolDefinition}
    (hnodup : (catalog.map McpToolDefinition.name).Nodup) {name : WideText}
    {tool : McpToolDefinition} :
    (OrderedMap.ofList McpToolDefinition.name catalog).get name = some tool
      ↔ tool ∈ catalog ∧ tool.name = name := by
  have hfound : ∀ other, (OrderedMap.ofList McpToolDefinition.name catalog).get name = some other →
      other ∈ catalog ∧ other.name = name := by
    intro other h
    rw [OrderedMap.get_ofList] at h
    exact ⟨List.mem_reverse.mp (List.mem_of_find?_eq_some h), by simpa using List.find?_some h⟩
  constructor
  · exact hfound tool
  · rintro ⟨hmem, rfl⟩
    cases hget : (OrderedMap.ofList McpToolDefinition.name catalog).get tool.name with
    | none =>
        rw [OrderedMap.get_ofList] at hget
        have hnot := List.find?_eq_none.mp hget tool (List.mem_reverse.mpr hmem)
        simp at hnot
    | some other =>
        obtain ⟨hother, hname⟩ := hfound other hget
        rw [List.inj_on_of_nodup_map hnodup hother hmem hname]

theorem properCatalog_standard : ProperCatalog McpToolMasker.standardMcpTools := by
  constructor
  · decide +kernel
  · decide +kernel
  · decide +kernel

namespace McpToolMasker

/-- The catalog that is used is proper when the given one is. -/
theorem proper_new {toolCatalog : Option (List McpToolDefinition)}
    (h : ∀ catalog, toolCatalog = some catalog → ProperCatalog catalog) :
    ProperCatalog (new toolCatalog).catalog := by
  rcases toolCatalog with _ | _ | ⟨tool, rest⟩
  · exact properCatalog_standard
  · exact properCatalog_standard
  · exact h _ rfl

end McpToolMasker

namespace McpSecurityGateway

/-- The tool is one of those that the response lists. -/
def Appears (response : McpJsonRpcResponse) (tool : McpToolDefinition) : Prop :=
  ∃ tools, response.result = some (.dict [(RawDict.key "tools", .list tools)])
    ∧ toolPayload tool ∈ tools

theorem admitCall_eq_inr_iff {room : Nat} {gateway : McpSecurityGateway}
    {request : McpJsonRpcRequest} {scope : McpScope}
    {gatewayAuthorization : Option AuthorizationResult} {name : WideText} :
    admitCall room gateway request scope gatewayAuthorization = .ok (.inr name)
      ↔ calledName room request = .ok name ∧ name ≠ []
        ∧ gateway.authorizer.authorizeToolCall name scope (isAuthorized gatewayAuthorization)
          = .ok () := by
  rw [admitCall, Exceptions.seq_eq_ok_iff]
  constructor
  · rintro ⟨called, hcalled, h⟩
    by_cases hempty : called = []
    · rw [if_pos hempty] at h
      cases h
    · rw [if_neg hempty] at h
      cases hauthorize : gateway.authorizer.authorizeToolCall called scope
          (isAuthorized gatewayAuthorization) with
      | error err =>
          rw [hauthorize] at h
          cases h
      | ok passed =>
          rw [hauthorize] at h
          cases h
          exact ⟨hcalled, hempty, hauthorize⟩
  · rintro ⟨hcalled, hne, hauthorize⟩
    refine ⟨name, hcalled, ?_⟩
    rw [if_neg hne, hauthorize]
    rfl

section
variable {toolCatalog : Option (List McpToolDefinition)} {scope : McpScope}

/-- A tool of the catalog appears in the list exactly when it is in scope. -/
theorem appears_iff (hproper : ProperCatalog (McpToolMasker.new toolCatalog).catalog)
    {request : McpJsonRpcRequest} {tool : McpToolDefinition}
    (htool : tool ∈ (McpToolMasker.new toolCatalog).catalog) :
    Appears ((new (some (.new toolCatalog)) none).handleToolsList request scope) tool
      ↔ InScope scope tool := by
  constructor
  · rintro ⟨tools, hresult, hmem⟩
    cases hresult
    obtain ⟨other, hother, hsame⟩ := List.mem_map.mp hmem
    obtain ⟨hcatalog, hscope⟩ := mem_filterToolsForScope_iff.mp hother
    -- the name is listed with the tool
    have hname : other.name = tool.name := by
      have hitems := RawValue.dict.inj hsame
      have hhead := (Prod.mk.inj (List.cons.inj hitems).1).2
      exact RawValue.str.inj hhead
    rw [← List.inj_on_of_nodup_map hproper.nodup hcatalog htool hname]
    exact hscope
  · intro hscope
    exact ⟨_, rfl, List.mem_map_of_mem (mem_filterToolsForScope_iff.mpr ⟨htool, hscope⟩)⟩

/-- **Listing and calling agree.**  A call for the name of a tool of the catalog is
    admitted, where it is authorized, exactly when the tool is listed; every call that
    is admitted is authorized and one for the name of a listed tool. -/
theorem listedLaw (room : Nat)
    (hproper : ∀ catalog, toolCatalog = some catalog → ProperCatalog catalog)
    (scope : McpScope) (gatewayAuthorization : Option AuthorizationResult)
    (listing request : McpJsonRpcRequest) :
    (∀ tool ∈ (McpToolMasker.new toolCatalog).catalog,
      isAuthorized gatewayAuthorization = true →
      request.params.get "name" (.str []) = .str tool.name →
      (Appears ((new (some (.new toolCatalog)) none).handleToolsList listing scope) tool
        ↔ admitCall room (new (some (.new toolCatalog)) none) request scope gatewayAuthorization
          = .ok (.inr tool.name)))
    ∧ ∀ name, admitCall room (new (some (.new toolCatalog)) none) request scope
        gatewayAuthorization = .ok (.inr name) →
      isAuthorized gatewayAuthorization = true ∧ ∃ tool ∈ (McpToolMasker.new toolCatalog).catalog,
        tool.name = name
        ∧ Appears ((new (some (.new toolCatalog)) none).handleToolsList listing scope) tool := by
  have hcatalog := McpToolMasker.proper_new hproper
  have hfound : ∀ {name tool}, (McpToolMasker.new toolCatalog).getTool name = some tool
      ↔ tool ∈ (McpToolMasker.new toolCatalog).catalog ∧ tool.name = name :=
    getTool_eq_some_iff hcatalog.nodup
  refine ⟨?_, ?_⟩
  · intro tool htool hauthorized hnamed
    have hcalled : calledName room request = .ok tool.name := by
      rw [calledName, hnamed]
      exact congrArg Except.ok (hcatalog.trimmed tool htool)
    rw [appears_iff hcatalog htool, admitCall_eq_inr_iff, authorizeToolCall_eq_ok_iff]
    constructor
    · intro hscope
      exact ⟨hcalled, hcatalog.ne tool htool, hauthorized, tool, hfound.mpr ⟨htool, rfl⟩, hscope⟩
    · rintro ⟨-, -, -, other, hother, hscope⟩
      obtain ⟨hmem, hname⟩ := hfound.mp hother
      rw [← List.inj_on_of_nodup_map hcatalog.nodup hmem htool hname]
      exact hscope
  · intro name hadmit
    obtain ⟨-, -, hauthorize⟩ := admitCall_eq_inr_iff.mp hadmit
    obtain ⟨hauthorized, tool, htool, hscope⟩ := authorizeToolCall_eq_ok_iff.mp hauthorize
    obtain ⟨hmem, hname⟩ := hfound.mp htool
    exact ⟨hauthorized, tool, hmem, hname, (appears_iff hcatalog hmem).mpr hscope⟩

end

end McpSecurityGateway

namespace SampleMcp

def refundTool : McpToolDefinition where
  name := ofString "refund"
  description := []
  inputSchema := .dict []
  operation := .createOrder
  isBlocked := false

def allowed : AuthorizationResult where
  decision := .allow
  controlOutcomes := []
  rejectionReason := none
  rejectionDetail := none
  decisionTrace := .empty

def scope : McpScope := ⟨[.createOrder], []⟩

def refund : McpJsonRpcRequest :=
  ⟨ofString "tools/call", [(RawDict.key "name", .str (ofString "refund"))], .int 1⟩

theorem proper : ProperCatalog [refundTool] := by
  constructor
  · exact List.nodup_singleton _
  · decide +kernel
  · decide +kernel

end SampleMcp

open SampleMcp McpSecurityGateway in
theorem listedLaw_refund :
    Appears ((new (some (.new (some [refundTool]))) none).handleToolsList refund scope) refundTool
    ↔ admitCall 900 (new (some (.new (some [refundTool]))) none) refund scope (some allowed)
      = .ok (.inr refundTool.name) := by
  have hproper : ∀ catalog, some [refundTool] = some catalog → ProperCatalog catalog := by
    rintro catalog ⟨⟩
    exact proper
  exact (listedLaw 900 hproper scope (some allowed) refund refund).1 refundTool
    List.mem_cons_self rfl rfl

end MandateGateway
