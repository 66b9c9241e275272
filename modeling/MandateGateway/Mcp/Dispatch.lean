import MandateGateway.Execution.ToolProxy
import MandateGateway.Mcp.Gateway

/-! # Dispatching raw requests

    `dispatch` reads a request out of a text or a dictionary and answers it; a call
    that is admitted goes to the execution adapter, which converts its arguments.
    The adapter's branch for an attached service asks the operations for a function
    that they do not have, so no call gets further there.

    * `answers_iff`: a request is answered as it should be exactly when it is no
      admitted call to an attached service, and all that is converted on its way
      can be. -/

namespace MandateGateway

open WideText (ofString)

/-- `json.loads`, where it returns, and how deep a value may be nested whose text
    is taken. -/
structure McpRuntime where
  loads    : WideText → Option RawValue
  textRoom : Nat

/-- An exception on the way of a call. -/
inductive McpException where
  | gateway (err : McpGatewayError)
  | attributeError
  | assertionError
  | conversion (err : ConversionError)
  | limit (err : IntentError)

/-- It is no error of the gateway: nothing on the way handles it. -/
def McpException.Escapes : McpException → Prop
  | .gateway _ => False
  | _ => True

/-- The value is this text: `value == "…"`. -/
def RawValue.isText (text : String) : RawValue → Bool
  | .str s => s = ofString text
  | _ => false

namespace RazorpayMcpAdapter

/-- `params.get(name, default)`. -/
def param (params : RawValue) (name : String) (default : RawValue) : Except McpException RawValue :=
  match params with
  | .dict d => .ok (RawDict.get d name default)
  | _ => .error .attributeError

/-- `str(params.get(name, default))`. -/
def textParam (room : Nat) (params : RawValue) (name : String) (default : WideText) :
    Except McpException WideText := do
  let value ← param params name (.str default)
  (value.toText room).mapError .limit

/-- `int(params.get("amount", 0))`. -/
def amountParam (params : RawValue) : Except McpException Int := do
  let value ← param params "amount" (.int 0)
  value.toInt.mapError .conversion

/-- The arguments of the proposal, up to the one that is looked up in vain. -/
def proposalArguments (room : Nat) (params : RawValue) : Except McpException Unit := do
  let _authorizationId ← textParam room params "authorization_id" (ofString "auth_default")
  let _mandateId ← textParam room params "mandate_id" (ofString "mandate_default")
  let _merchantId ← textParam room params "merchant_id" (ofString "merchant_default")
  let _cartHash ← textParam room params "cart_hash" (List.replicate 64 (.char '0'))
  let _amountPaise ← amountParam params
  let _currency ← textParam room params "currency" (ofString "INR")
  pure ()

/-- The result where no service is attached. -/
def testModeResult (toolName : WideText) (amount : Int) (currency : WideText) : RawValue :=
  .dict [(RawDict.key "success", .bool true), (RawDict.key "status", .str (ofString "created")),
    (RawDict.key "tool", .str toolName), (RawDict.key "amount", .int amount),
    (RawDict.key "currency", .str currency),
    (RawDict.key "provider_reference", .str (ofString "pay_test_mcp_" ++ toolName))]

def executeMcpTool (room : Nat) (toolName : WideText) (params : RawValue)
    (authorization : AuthorizationResult) (executionService : Option PaymentExecutionService) :
    Except McpException RawValue :=
  if authorization.decision ≠ .allow then
    .error (.gateway ⟨.mcpTransactionUnauthorized, ofString "Cannot execute Razorpay tool "
      ++ WideText.quoted toolName ++ ofString " without ALLOW authorization."⟩)
  else
    match executionService with
    | some _ => do
        proposalArguments room params
        -- `McpOperation.from_str(tool_name)`: the enumeration has no such attribute
        .error .attributeError
    | none => do
        let amount ← amountParam params
        let currency ← textParam room params "currency" (ofString "INR")
        pure (testModeResult toolName amount currency)

end RazorpayMcpAdapter

/-! ## Responses -/

namespace McpRpcError

def toValue (error : McpRpcError) : RawValue :=
  .dict ([(RawDict.key "code", .int error.code), (RawDict.key "message", .str error.message)]
    ++ match error.data with
      | some code => [(RawDict.key "data",
          .dict [(RawDict.key "error_code", .str (ofString code.value))])]
      | none => [])

end McpRpcError

namespace McpJsonRpcResponse

def toDict (response : McpJsonRpcResponse) : RawDict :=
  [(RawDict.key "jsonrpc", .str (ofString "2.0")), (RawDict.key "id", response.id)]
    ++ match response.error with
      | some error => [(RawDict.key "error", error.toValue)]
      | none => [(RawDict.key "result", response.result.getD (.dict []))]

/-- The response to an executed call: the text of what was returned. -/
def ofExecution (id : RawValue) (text : List Char) : McpJsonRpcResponse :=
  .ofResult id (.dict [(RawDict.key "content", .list [.dict [(RawDict.key "type",
    .str (ofString "text")), (RawDict.key "text", .str (text.map .char))]])])

end McpJsonRpcResponse

/-! ## The dispatcher -/

namespace McpSecurityGateway

/-- The second part of `handle_tools_call`: a flat dictionary is serialized. -/
def executeCall (room : Nat) (request : McpJsonRpcRequest) (name : WideText)
    (gatewayAuthorization : Option AuthorizationResult)
    (executionService : Option PaymentExecutionService) :
    Except McpException McpJsonRpcResponse :=
  match gatewayAuthorization with
  | none => .error .assertionError
  | some authorization =>
      match RazorpayMcpAdapter.executeMcpTool room name
          (request.params.get "arguments" (.dict [])) authorization executionService with
      | .ok result => ((result.encode 1).mapError .limit).map (.ofExecution request.id)
      | .error (.gateway err) => .ok (.ofError request.id ⟨-32603, err.detail, some err.code⟩)
      | .error err => .error err

def handleToolsCall (room : Nat) (gateway : McpSecurityGateway) (request : McpJsonRpcRequest)
    (scope : McpScope) (gatewayAuthorization : Option AuthorizationResult)
    (executionService : Option PaymentExecutionService) :
    Except McpException McpJsonRpcResponse := do
  match ← (admitCall room gateway request scope gatewayAuthorization).mapError .limit with
  | .inl response => pure response
  | .inr name => executeCall room request name gatewayAuthorization executionService

/-- The parameters of a request, if they are a dictionary. -/
def paramsOf (data : RawDict) : RawDict :=
  match data.get "params" (.dict []) with
  | .dict params => params
  | _ => []

/-- The request that is read out of a dictionary. -/
def requestOf (method : WideText) (data : RawDict) : McpJsonRpcRequest :=
  ⟨method, paramsOf data, data.get "id" .none⟩

/-- The answer to a dictionary that is a request. -/
def dispatchRequest (runtime : McpRuntime) (gateway : McpSecurityGateway) (scope : McpScope)
    (gatewayAuthorization : Option AuthorizationResult)
    (executionService : Option PaymentExecutionService) (data : RawDict) :
    Except McpException McpJsonRpcResponse := do
  let method := data.get "method" .none
  let methodText ← (method.toText runtime.textRoom).mapError .limit
  let request := requestOf methodText data
  if method.isText "tools/list" then pure (gateway.handleToolsList request scope)
  else if method.isText "tools/call" then
    handleToolsCall runtime.textRoom gateway request scope gatewayAuthorization executionService
  else pure (.ofError request.id
    ⟨-32601, ofString "Method '" ++ methodText ++ ofString "' not found.", none⟩)

/-- What is to be read as a request, or the answer where there is none. -/
def decode (runtime : McpRuntime) : RawValue → Except McpJsonRpcResponse RawValue
  | .str s =>
      match runtime.loads s with
      | some data => .ok data
      | none => .error (.ofError .none
          ⟨-32700, ofString "Parse error: Invalid JSON payload.", none⟩)
  | .dict d => .ok (.dict d)
  | _ => .error (.ofError .none
      ⟨-32600, ofString "Invalid Request: Payload must be JSON object.", none⟩)

def invalidRequest (id : RawValue) : McpJsonRpcResponse :=
  .ofError id ⟨-32600, ofString "Invalid Request: Missing or invalid 'jsonrpc' field.", none⟩

def dispatch (runtime : McpRuntime) (gateway : McpSecurityGateway) (scope : McpScope)
    (gatewayAuthorization : Option AuthorizationResult)
    (executionService : Option PaymentExecutionService) (rawPayload : RawValue) :
    Except McpException RawDict :=
  match decode runtime rawPayload with
  | .error response => .ok response.toDict
  | .ok (.dict data) =>
      if (RawDict.get data "jsonrpc" .none).isText "2.0" then
        (dispatchRequest runtime gateway scope gatewayAuthorization executionService data).map
          McpJsonRpcResponse.toDict
      else .ok (invalidRequest (RawDict.get data "id" .none)).toDict
  | .ok _ => .ok (invalidRequest .none).toDict

end McpSecurityGateway

/-! ## Every answer is a response -/

/-- A response of the protocol: its version, and either a result or an error. -/
structure IsResponse (d : RawDict) : Prop where
  version : d.find "jsonrpc" = some (.str (ofString "2.0"))
  either  : ((d.find "result").isSome = true ∧ d.find "error" = none)
    ∨ ((d.find "error").isSome = true ∧ d.find "result" = none)

theorem McpJsonRpcResponse.isResponse_toDict (response : McpJsonRpcResponse) :
    IsResponse response.toDict := by
  obtain ⟨id, result, error⟩ := response
  cases error with
  | none =>
      constructor
      · rfl
      · exact .inl ⟨rfl, rfl⟩
  | some error =>
      constructor
      · rfl
      · exact .inr ⟨rfl, rfl⟩

/-! ## Which calls return -/

section
variable {room : Nat} {params : RawValue}

open RazorpayMcpAdapter

theorem param_eq_ok_iff {name : String} {default value : RawValue} :
    param params name default = .ok value
      ↔ ∃ args, params = .dict args ∧ RawDict.get args name default = value := by
  cases params with
  | dict args =>
      rw [param, Exceptions.ok_eq_ok_iff]
      constructor
      · intro h
        exact ⟨args, rfl, h.symm⟩
      · rintro ⟨args', hargs, hvalue⟩
        obtain rfl := RawValue.dict.inj hargs
        exact hvalue.symm
  | none | bool _ | int _ | float _ | str _ | list _ =>
      constructor
      · intro h
        cases h
      · rintro ⟨args, h, -⟩
        cases h

theorem amountParam_eq_ok_iff {amount : Int} :
    amountParam params = .ok amount
      ↔ ∃ args, params = .dict args ∧ (RawDict.get args "amount" (.int 0)).toInt = .ok amount := by
  rw [amountParam, Exceptions.seq_eq_ok_iff]
  constructor
  · rintro ⟨value, hparam, h⟩
    obtain ⟨args, hargs, rfl⟩ := param_eq_ok_iff.mp hparam
    exact ⟨args, hargs, Exceptions.mapError_eq_ok_iff.mp h⟩
  · rintro ⟨args, hargs, h⟩
    exact ⟨_, param_eq_ok_iff.mpr ⟨args, hargs, rfl⟩, Exceptions.mapError_eq_ok_iff.mpr h⟩

theorem textParam_returns_iff {name : String} {default : WideText} :
    (∃ text, textParam room params name default = .ok text)
      ↔ ∃ args, params = .dict args
        ∧ (RawDict.get args name (.str default)).Printable room := by
  rw [textParam, Exceptions.seq_returns_iff]
  constructor
  · rintro ⟨value, hparam, text, h⟩
    obtain ⟨args, hargs, rfl⟩ := param_eq_ok_iff.mp hparam
    exact ⟨args, hargs, (RawValue.toText_ends room _).returns_iff.mp
      ⟨text, Exceptions.mapError_eq_ok_iff.mp h⟩⟩
  · rintro ⟨args, hargs, hprintable⟩
    obtain ⟨text, h⟩ := (RawValue.toText_ends room _).returns_iff.mpr hprintable
    exact ⟨_, param_eq_ok_iff.mpr ⟨args, hargs, rfl⟩, text, Exceptions.mapError_eq_ok_iff.mpr h⟩

/-- The arguments of a call can be converted and written. -/
structure Converts (room : Nat) (params : RawValue) (args : RawDict) (amount : Int) : Prop where
  dictionary : params = .dict args
  integer    : (RawDict.get args "amount" (.int 0)).toInt = .ok amount
  short      : FewDigits amount
  currency   : (RawDict.get args "currency" (.str (ofString "INR"))).Printable room

theorem encode_testModeResult_iff {toolName currency : WideText} {amount : Int} :
    (∃ text, (testModeResult toolName amount currency).encode 1 = .ok text)
      ↔ FewDigits amount := by
  rw [(RawValue.encode_ends 1 _).returns_iff]
  constructor
  · rintro ⟨-, hshort⟩
    exact hshort amount List.mem_cons_self
  · intro hamount
    refine ⟨le_rfl, ?_⟩
    show RawValue.Short [amount]
    exact RawValue.short_singleton_iff.mpr hamount

theorem mapError_escapes {ε α : Type} {x : Except ε α} {f : ε → McpException}
    (h : ∀ err, (f err).Escapes) : Exceptions.Raises McpException.Escapes (x.mapError f) := by
  cases x with
  | error err => exact Exceptions.raises_error_iff.mpr (h err)
  | ok a => exact Exceptions.raises_ok _ a

theorem param_escapes (name : String) (default : RawValue) :
    Exceptions.Raises McpException.Escapes (param params name default) := by
  cases params with
  | dict args => exact Exceptions.raises_ok _ _
  | none | bool _ | int _ | float _ | str _ | list _ =>
      exact Exceptions.raises_error_iff.mpr trivial

theorem textParam_escapes (name : String) (default : WideText) :
    Exceptions.Raises McpException.Escapes (textParam room params name default) := by
  rw [textParam, Exceptions.raises_seq_iff]
  exact ⟨param_escapes name _, fun value _ => mapError_escapes fun _ => trivial⟩

theorem amountParam_escapes : Exceptions.Raises McpException.Escapes (amountParam params) := by
  rw [amountParam, Exceptions.raises_seq_iff]
  exact ⟨param_escapes _ _, fun value _ => mapError_escapes fun _ => trivial⟩

theorem proposalArguments_escapes (room : Nat) (params : RawValue) :
    Exceptions.Raises McpException.Escapes (proposalArguments room params) := by
  simp only [proposalArguments, Exceptions.raises_seq_iff]
  refine ⟨textParam_escapes _ _, fun _ _ => ⟨textParam_escapes _ _, fun _ _ =>
    ⟨textParam_escapes _ _, fun _ _ => ⟨textParam_escapes _ _, fun _ _ =>
    ⟨amountParam_escapes, fun _ _ => ⟨textParam_escapes _ _, fun _ _ => ?_⟩⟩⟩⟩⟩⟩
  exact Exceptions.raises_ok _ _

variable {name : WideText} {authorization : AuthorizationResult}

theorem executeMcpTool_service (room : Nat) (name : WideText) (params : RawValue)
    (hallow : authorization.decision = .allow) (service : PaymentExecutionService) :
    ∃ err, executeMcpTool room name params authorization (some service) = .error err
      ∧ err.Escapes := by
  have hescapes := proposalArguments_escapes room params
  rw [executeMcpTool, if_neg (not_not.mpr hallow)]
  cases hargs : proposalArguments room params with
  | error err =>
      rw [hargs, Exceptions.raises_error_iff] at hescapes
      exact ⟨err, rfl, hescapes⟩
  | ok done => exact ⟨.attributeError, rfl, trivial⟩

theorem executeMcpTool_escapes (room : Nat) (name : WideText) (params : RawValue)
    (hallow : authorization.decision = .allow) :
    Exceptions.Raises McpException.Escapes
      (executeMcpTool room name params authorization none) := by
  rw [executeMcpTool, if_neg (not_not.mpr hallow)]
  simp only [Exceptions.raises_seq_iff]
  exact ⟨amountParam_escapes, fun _ _ => ⟨textParam_escapes _ _, fun _ _ =>
    Exceptions.raises_ok _ _⟩⟩

theorem executeMcpTool_eq_ok_iff (hallow : authorization.decision = .allow) {result : RawValue} :
    executeMcpTool room name params authorization none = .ok result
      ↔ ∃ amount, amountParam params = .ok amount
        ∧ ∃ currency, textParam room params "currency" (ofString "INR") = .ok currency
          ∧ testModeResult name amount currency = result := by
  rw [executeMcpTool, if_neg (not_not.mpr hallow)]
  simp only [Exceptions.seq_eq_ok_iff]
  constructor
  · rintro ⟨amount, hamount, currency, hcurrency, hresult⟩
    exact ⟨amount, hamount, currency, hcurrency, Except.ok.inj hresult⟩
  · rintro ⟨amount, hamount, currency, hcurrency, rfl⟩
    exact ⟨amount, hamount, currency, hcurrency, rfl⟩

/-- **What is executed**: only calls without a service, whose arguments convert. -/
theorem executeCall_returns_iff {request : McpJsonRpcRequest}
    (hallow : authorization.decision = .allow)
    {executionService : Option PaymentExecutionService} :
    (∃ response, McpSecurityGateway.executeCall room request name (some authorization)
        executionService = .ok response)
      ↔ executionService = none ∧ ∃ args amount,
        Converts room (request.params.get "arguments" (.dict [])) args amount := by
  cases executionService with
  | some service =>
      refine iff_of_false ?_ fun h => Option.some_ne_none _ h.1
      obtain ⟨err, herr, hescapes⟩ := executeMcpTool_service room name
        (request.params.get "arguments" (.dict [])) hallow service
      rw [McpSecurityGateway.executeCall, herr]
      cases err with
      | gateway err => exact hescapes.elim
      | attributeError | assertionError | conversion _ | limit _ =>
          exact Exceptions.not_exists_error_eq_ok _
  | none =>
      rw [and_iff_right rfl, McpSecurityGateway.executeCall]
      generalize request.params.get "arguments" (.dict []) = params
      constructor
      · rintro ⟨response, hresponse⟩
        have hescapes := executeMcpTool_escapes room name params hallow
        cases hresult : executeMcpTool room name params authorization none with
        | error err =>
            rw [hresult, Exceptions.raises_error_iff] at hescapes
            rw [hresult] at hresponse
            cases err with
            | gateway err => exact hescapes.elim
            | attributeError | assertionError | conversion _ | limit _ => cases hresponse
        | ok result =>
            rw [hresult] at hresponse
            obtain ⟨text, htext, -⟩ := Exceptions.map_eq_ok_iff.mp hresponse
            obtain ⟨amount, hamount, currency, hcurrency, rfl⟩ :=
              (executeMcpTool_eq_ok_iff hallow).mp hresult
            obtain ⟨args, hargs, hinteger⟩ := amountParam_eq_ok_iff.mp hamount
            obtain ⟨args', hargs', hprintable⟩ := textParam_returns_iff.mp ⟨currency, hcurrency⟩
            obtain rfl := RawValue.dict.inj (hargs.symm.trans hargs')
            exact ⟨args, amount, hargs, hinteger, encode_testModeResult_iff.mp
              ⟨text, Exceptions.mapError_eq_ok_iff.mp htext⟩, hprintable⟩
      · rintro ⟨args, amount, hconverts⟩
        have hamount : amountParam params = .ok amount :=
          amountParam_eq_ok_iff.mpr ⟨args, hconverts.dictionary, hconverts.integer⟩
        obtain ⟨currency, hcurrency⟩ : ∃ currency,
            textParam room params "currency" (ofString "INR") = .ok currency :=
          textParam_returns_iff.mpr ⟨args, hconverts.dictionary, hconverts.currency⟩
        obtain ⟨text, htext⟩ : ∃ text, (testModeResult name amount currency).encode 1 = .ok text :=
          encode_testModeResult_iff.mpr hconverts.short
        rw [(executeMcpTool_eq_ok_iff hallow).mpr ⟨amount, hamount, currency, hcurrency, rfl⟩]
        exact ⟨_, Exceptions.map_eq_ok_iff.mpr
          ⟨text, Exceptions.mapError_eq_ok_iff.mpr htext, rfl⟩⟩

end

/-! ## The answers of the dispatcher -/

namespace McpSecurityGateway

section
variable {runtime : McpRuntime} {gateway : McpSecurityGateway} {scope : McpScope}
  {gatewayAuthorization : Option AuthorizationResult}
  {executionService : Option PaymentExecutionService}

/-- The payload is this request, or a text that is read as it. -/
structure IsRequest (runtime : McpRuntime) (rawPayload : RawValue) (data : RawDict) : Prop where
  payload : rawPayload = .dict data
    ∨ ∃ text, rawPayload = .str text ∧ runtime.loads text = some (.dict data)
  version : data.find "jsonrpc" = some (.str (ofString "2.0"))

def IsCall (data : RawDict) : Prop := data.find "method" = some (.str (ofString "tools/call"))

/-- The request is an authorized call of the tool with this name. -/
structure AuthorizedCall (room : Nat) (gateway : McpSecurityGateway) (scope : McpScope)
    (gatewayAuthorization : Option AuthorizationResult) (data : RawDict) (name : WideText) :
    Prop where
  call       : IsCall data
  called     : calledName room (requestOf (ofString "tools/call") data) = .ok name
  named      : name ≠ []
  authorized : isAuthorized gatewayAuthorization = true
  inScope    : ∃ tool, gateway.authorizer.masker.getTool name = some tool ∧ InScope scope tool

/-- All that is converted on the way of the request can be, and it is no authorized
    call to an attached service. -/
structure Answerable (room : Nat) (gateway : McpSecurityGateway) (scope : McpScope)
    (gatewayAuthorization : Option AuthorizationResult)
    (executionService : Option PaymentExecutionService) (data : RawDict) : Prop where
  method : (RawDict.get data "method" .none).Printable room
  name   : IsCall data → (RawDict.get (paramsOf data) "name" (.str [])).Printable room
  call   : ∀ name, AuthorizedCall room gateway scope gatewayAuthorization data name →
    executionService = none ∧ ∃ args amount,
      Converts room (RawDict.get (paramsOf data) "arguments" (.dict [])) args amount

/-- Each payload is answered with a response, and an authorized call to an attached
    service with one that reports what the service did. -/
def Answers (runtime : McpRuntime) (gateway : McpSecurityGateway) (scope : McpScope)
    (gatewayAuthorization : Option AuthorizationResult)
    (executionService : Option PaymentExecutionService)
    (Reports : PaymentExecutionService → RawDict → RawDict → Prop) (rawPayload : RawValue) :
    Prop :=
  ∃ d, dispatch runtime gateway scope gatewayAuthorization executionService rawPayload = .ok d
    ∧ IsResponse d
    ∧ ∀ service data name, executionService = some service → IsRequest runtime rawPayload data →
      AuthorizedCall runtime.textRoom gateway scope gatewayAuthorization data name →
      Reports service data d

theorem calledName_returns_iff {room : Nat} {request : McpJsonRpcRequest} :
    (∃ name, calledName room request = .ok name)
      ↔ (RawDict.get request.params "name" (.str [])).Printable room := by
  rw [calledName, Exceptions.map_returns_iff]
  exact (RawValue.toText_ends room _).returns_iff

theorem admitCall_returns {room : Nat} {request : McpJsonRpcRequest}
    (h : (RawDict.get request.params "name" (.str [])).Printable room) :
    ∃ admitted, admitCall room gateway request scope gatewayAuthorization = .ok admitted := by
  obtain ⟨name, hname⟩ := calledName_returns_iff.mpr h
  rw [admitCall, Exceptions.seq_returns_iff]
  refine ⟨name, hname, ?_⟩
  by_cases hempty : name = []
  · rw [if_pos hempty]
    exact ⟨_, rfl⟩
  · rw [if_neg hempty]
    cases gateway.authorizer.authorizeToolCall name scope (isAuthorized gatewayAuthorization) with
    | error err => exact ⟨_, rfl⟩
    | ok passed => exact ⟨_, rfl⟩

/-- **A call is handled** exactly when its name is read and, if it is admitted, it
    is executed. -/
theorem handleToolsCall_returns_iff {room : Nat} {request : McpJsonRpcRequest} :
    (∃ response, handleToolsCall room gateway request scope gatewayAuthorization executionService
        = .ok response)
      ↔ (RawDict.get request.params "name" (.str [])).Printable room
        ∧ ∀ name, admitCall room gateway request scope gatewayAuthorization = .ok (.inr name) →
          ∃ response, executeCall room request name gatewayAuthorization executionService
            = .ok response := by
  rw [handleToolsCall, Exceptions.seq_returns_iff]
  constructor
  · rintro ⟨admitted, hadmitted, hrest⟩
    rw [Exceptions.mapError_eq_ok_iff] at hadmitted
    constructor
    · obtain ⟨name, hname, -⟩ := Exceptions.seq_eq_ok_iff.mp hadmitted
      exact calledName_returns_iff.mp ⟨name, hname⟩
    · intro name hname
      obtain rfl := Except.ok.inj (hadmitted.symm.trans hname)
      exact hrest
  · rintro ⟨hprintable, hexecuted⟩
    obtain ⟨admitted, hadmitted⟩ := admitCall_returns hprintable
    refine ⟨admitted, Exceptions.mapError_eq_ok_iff.mpr hadmitted, ?_⟩
    cases admitted with
    | inl response => exact ⟨response, rfl⟩
    | inr name => exact hexecuted name hadmitted

theorem executeCall_admitted_iff {room : Nat} {request : McpJsonRpcRequest} {name : WideText}
    (hauthorized : isAuthorized gatewayAuthorization = true) :
    (∃ response, executeCall room request name gatewayAuthorization executionService
        = .ok response)
      ↔ executionService = none ∧ ∃ args amount,
        Converts room (RawDict.get request.params "arguments" (.dict [])) args amount := by
  cases gatewayAuthorization with
  | none => exact absurd hauthorized Bool.false_ne_true
  | some authorization => exact executeCall_returns_iff (of_decide_eq_true hauthorized)

theorem authorizedCall_iff {room : Nat} {data : RawDict} {name : WideText} :
    AuthorizedCall room gateway scope gatewayAuthorization data name
      ↔ IsCall data ∧ admitCall room gateway (requestOf (ofString "tools/call") data) scope
        gatewayAuthorization = .ok (.inr name) := by
  rw [admitCall_eq_inr_iff, authorizeToolCall_eq_ok_iff]
  constructor
  · intro h
    exact ⟨h.call, h.called, h.named, h.authorized, h.inScope⟩
  · rintro ⟨hcall, hcalled, hnamed, hauthorized, hscope⟩
    exact ⟨hcall, hcalled, hnamed, hauthorized, hscope⟩

theorem isText_find_iff {data : RawDict} {name text : String} :
    (RawDict.get data name .none).isText text = true
      ↔ data.find name = some (.str (ofString text)) := by
  rw [RawDict.get]
  cases data.find name with
  | none => exact iff_of_false Bool.false_ne_true (Option.some_ne_none _).symm
  | some value =>
      rw [Option.getD_some, Option.some.injEq]
      cases value with
      | str s => rw [RawValue.isText, decide_eq_true_iff, RawValue.str.injEq]
      | none | bool _ | int _ | float _ | list _ | dict _ =>
          refine iff_of_false Bool.false_ne_true ?_
          intro h
          cases h

theorem dispatchRequest_cases (gateway : McpSecurityGateway) (scope : McpScope)
    (gatewayAuthorization : Option AuthorizationResult)
    (executionService : Option PaymentExecutionService) {data : RawDict} {methodText : WideText}
    (hmethod : (RawDict.get data "method" .none).toText runtime.textRoom = .ok methodText) :
    (IsCall data ∧ dispatchRequest runtime gateway scope gatewayAuthorization executionService data
        = handleToolsCall runtime.textRoom gateway (requestOf (ofString "tools/call") data) scope
          gatewayAuthorization executionService)
      ∨ (¬ IsCall data ∧ ∃ response, dispatchRequest runtime gateway scope gatewayAuthorization
        executionService data = .ok response) := by
  have hstart : ((RawDict.get data "method" .none).toText runtime.textRoom).mapError
      McpException.limit = .ok methodText := Exceptions.mapError_eq_ok_iff.mpr hmethod
  by_cases hcall : IsCall data
  · refine .inl ⟨hcall, ?_⟩
    have hvalue : RawDict.get data "method" .none = .str (ofString "tools/call") := by
      rw [RawDict.get, hcall]
      rfl
    rw [dispatchRequest, hvalue]
    rfl
  · refine .inr ⟨hcall, ?_⟩
    rw [dispatchRequest, hstart]
    by_cases hlist : (RawDict.get data "method" .none).isText "tools/list" = true
    · exact ⟨_, if_pos hlist⟩
    · refine ⟨_, (if_neg hlist).trans (if_neg ?_)⟩
      exact fun h => hcall (isText_find_iff.mp h)

/-- **A request is dispatched** exactly when it is answerable. -/
theorem dispatchRequest_returns_iff {data : RawDict} :
    (∃ response, dispatchRequest runtime gateway scope gatewayAuthorization executionService data
        = .ok response)
      ↔ Answerable runtime.textRoom gateway scope gatewayAuthorization executionService data := by
  have hmethod := RawValue.toText_ends runtime.textRoom (RawDict.get data "method" .none)
  constructor
  · intro hreturns
    obtain ⟨methodText, htext⟩ : ∃ text,
        (RawDict.get data "method" .none).toText runtime.textRoom = .ok text := by
      obtain ⟨response, hresponse⟩ := hreturns
      obtain ⟨text, htext, -⟩ := Exceptions.seq_eq_ok_iff.mp hresponse
      exact ⟨text, Exceptions.mapError_eq_ok_iff.mp htext⟩
    have hprintable := hmethod.returns_iff.mp ⟨methodText, htext⟩
    obtain ⟨hcall, hhandled⟩ | ⟨hcall, -⟩ :=
      dispatchRequest_cases gateway scope gatewayAuthorization executionService htext
    · rw [hhandled, handleToolsCall_returns_iff] at hreturns
      refine ⟨hprintable, fun _ => hreturns.1, fun name hname => ?_⟩
      exact (executeCall_admitted_iff hname.authorized).mp
        (hreturns.2 name (authorizedCall_iff.mp hname).2)
    · exact ⟨hprintable, fun h => absurd h hcall, fun name hname => absurd hname.call hcall⟩
  · intro h
    obtain ⟨methodText, htext⟩ := hmethod.returns_iff.mpr h.method
    obtain ⟨hcall, hhandled⟩ | ⟨-, hreturns⟩ :=
      dispatchRequest_cases gateway scope gatewayAuthorization executionService htext
    · rw [hhandled, handleToolsCall_returns_iff]
      refine ⟨h.name hcall, fun name hname => ?_⟩
      have hadmitted := authorizedCall_iff.mpr ⟨hcall, hname⟩
      exact (executeCall_admitted_iff hadmitted.authorized).mpr (h.call name hadmitted)
    · exact hreturns

theorem decode_eq_ok_iff {rawPayload : RawValue} {data : RawDict} :
    decode runtime rawPayload = .ok (.dict data)
      ↔ rawPayload = .dict data
        ∨ ∃ text, rawPayload = .str text ∧ runtime.loads text = some (.dict data) := by
  cases rawPayload with
  | str text =>
      rw [decode]
      constructor
      · intro h
        cases hloads : runtime.loads text with
        | none =>
            rw [hloads] at h
            cases h
        | some value =>
            rw [hloads] at h
            obtain rfl := Except.ok.inj h
            exact .inr ⟨text, rfl, hloads⟩
      · rintro (h | ⟨text', h, hloads⟩)
        · cases h
        · obtain rfl := RawValue.str.inj h
          rw [hloads]
  | dict d =>
      rw [decode]
      constructor
      · intro h
        exact .inl (Except.ok.inj h)
      · rintro (h | ⟨text, h, -⟩)
        · rw [h]
        · cases h
  | none | bool _ | int _ | float _ | list _ =>
      constructor
      · intro h
        cases h
      · rintro (h | ⟨text, h, -⟩)
        · cases h
        · cases h

theorem dispatch_cases (runtime : McpRuntime) (gateway : McpSecurityGateway) (scope : McpScope)
    (gatewayAuthorization : Option AuthorizationResult)
    (executionService : Option PaymentExecutionService) (rawPayload : RawValue) :
    (∃ data, IsRequest runtime rawPayload data
        ∧ dispatch runtime gateway scope gatewayAuthorization executionService rawPayload
          = (dispatchRequest runtime gateway scope gatewayAuthorization executionService data).map
            McpJsonRpcResponse.toDict)
      ∨ ((∀ data, ¬ IsRequest runtime rawPayload data)
        ∧ ∃ response : McpJsonRpcResponse, dispatch runtime gateway scope gatewayAuthorization
          executionService rawPayload = .ok response.toDict) := by
  have hnone : ∀ {value}, decode runtime rawPayload = value →
      (∀ data, value = .ok (.dict data) → (RawDict.get data "jsonrpc" .none).isText "2.0" = false) →
      ∀ data, ¬ IsRequest runtime rawPayload data := by
    intro value hdecode hversion data h
    have hdict := hversion data (hdecode.symm.trans (decode_eq_ok_iff.mpr h.payload))
    rw [isText_find_iff.mpr h.version] at hdict
    cases hdict
  cases hdecode : decode runtime rawPayload with
  | error response =>
      refine .inr ⟨hnone hdecode fun data h => ?_, response, ?_⟩
      · cases h
      · rw [dispatch, hdecode]
  | ok value =>
      cases value with
      | dict data =>
          by_cases hversion : (RawDict.get data "jsonrpc" .none).isText "2.0" = true
          · refine .inl ⟨data, ⟨decode_eq_ok_iff.mp hdecode, isText_find_iff.mp hversion⟩, ?_⟩
            rw [dispatch, hdecode]
            exact if_pos hversion
          · refine .inr ⟨hnone hdecode fun data' h => ?_,
              invalidRequest (RawDict.get data "id" .none), ?_⟩
            · obtain rfl := RawValue.dict.inj (Except.ok.inj h)
              exact Bool.eq_false_iff.mpr hversion
            · rw [dispatch, hdecode]
              exact if_neg hversion
      | none | bool _ | int _ | float _ | str _ | list _ =>
          refine .inr ⟨hnone hdecode fun data h => ?_, invalidRequest .none, ?_⟩
          · cases h
          · rw [dispatch, hdecode]

end

/-- **Which payloads are answered.**  A payload is answered with a response, and an
    authorized call with the execution of an attached service, exactly when it is no
    request or one that is answerable: no authorized call comes to an attached service,
    and all that is converted on its way can be. -/
theorem answers_iff (runtime : McpRuntime) (gateway : McpSecurityGateway) (scope : McpScope)
    (gatewayAuthorization : Option AuthorizationResult)
    (executionService : Option PaymentExecutionService)
    (Reports : PaymentExecutionService → RawDict → RawDict → Prop) (rawPayload : RawValue) :
    Answers runtime gateway scope gatewayAuthorization executionService Reports rawPayload
      ↔ ∀ data, IsRequest runtime rawPayload data →
        Answerable runtime.textRoom gateway scope gatewayAuthorization executionService data := by
  obtain ⟨data, hrequest, hdispatch⟩ | ⟨hnone, response, hdispatch⟩ :=
    dispatch_cases runtime gateway scope gatewayAuthorization executionService rawPayload
  · have hsame : ∀ data', IsRequest runtime rawPayload data' → data' = data := by
      intro data' h
      have heq := (decode_eq_ok_iff.mpr h.payload).symm.trans
        (decode_eq_ok_iff.mpr hrequest.payload)
      exact RawValue.dict.inj (Except.ok.inj heq)
    constructor
    · rintro ⟨d, hd, -⟩ data' hdata'
      obtain rfl := hsame data' hdata'
      rw [hdispatch] at hd
      exact dispatchRequest_returns_iff.mp (Exceptions.map_returns_iff.mp ⟨d, hd⟩)
    · intro h
      have hanswerable := h data hrequest
      obtain ⟨response, hresponse⟩ := dispatchRequest_returns_iff.mpr hanswerable
      refine ⟨response.toDict, ?_, response.isResponse_toDict, ?_⟩
      · rw [hdispatch, hresponse]
        rfl
      · intro service data' name hservice hdata' hname
        obtain rfl := hsame data' hdata'
        have hnot := (hanswerable.call name hname).1
        rw [hservice] at hnot
        cases hnot
  · refine iff_of_true ⟨response.toDict, hdispatch, response.isResponse_toDict, ?_⟩ ?_
    · intro service data name _ hdata _
      exact absurd hdata (hnone data)
    · intro data hdata
      exact absurd hdata (hnone data)

end McpSecurityGateway

namespace SampleMcp

def runtime : McpRuntime where
  loads _ := none
  textRoom := 900

def createOrder : RawValue :=
  .dict [(RawDict.key "jsonrpc", .str (ofString "2.0")), (RawDict.key "id", .int 1),
    (RawDict.key "method", .str (ofString "tools/call")),
    (RawDict.key "params", .dict [(RawDict.key "name", .str (ofString "create_order")),
      (RawDict.key "arguments", .dict [(RawDict.key "amount", .int 100)])])]

end SampleMcp

open SampleMcp in
theorem createOrder_unanswered :
    ¬ McpSecurityGateway.Answers runtime (.new none none) scope (some allowed)
      (some PaymentExecutionService.new) (fun _ _ _ => True) createOrder := by
  rintro ⟨d, hd, -⟩
  have hraises : McpSecurityGateway.dispatch runtime (.new none none) scope (some allowed)
      (some PaymentExecutionService.new) createOrder = .error .attributeError := rfl
  rw [hraises] at hd
  cases hd

end MandateGateway
