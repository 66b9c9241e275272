import MandateGateway.Intent.ValueScan
import MandateGateway.Lib.KeyedRuns
import MandateGateway.Tools.Registry

/-! # The gate of the tools

    `authorize_and_execute` runs the body of a tool when the name is canonical,
    the tool is found and enabled, its capabilities are allowed, the session has
    not used it up, and nothing is wrong with the arguments.

    * `authorize_eq_ok_iff`: the body is let run exactly where all of this holds;
    * `gateLaw`: over any run of calls nothing runs that is not permitted, no tool
      runs more often in a session than it may between two resets, and what a
      session sees of a tool does not depend on the others. -/

namespace MandateGateway

open WideText (ofString)

/-- The capabilities that are allowed. -/
structure CapabilityPolicy where
  allowedCapabilities : List ToolCapability

def CapabilityPolicy.isAllowed (policy : CapabilityPolicy) (cap : ToolCapability) : Bool :=
  policy.allowedCapabilities.contains cap

/-- A result of a tool, without its times. -/
structure ToolRegistry.ToolResult where
  toolName     : String
  success      : Bool
  version      : String
  data         : RawValue
  errorCode    : Option ToolErrorCode
  errorMessage : Option WideText

/-- How deep a value may be nested that the recursions take where they are called,
    and the texts of the interpreter's own errors. -/
structure ToolRuntime where
  encodeRoom : Nat
  scanRoom   : Nat
  errorText  : Escaped → WideText

abbrev ToolBody : Type := Tool → RawValue → Except WideText ToolRegistry.ToolResult

structure ToolRequest where
  toolName         : String
  arguments        : RawValue
  capabilityPolicy : CapabilityPolicy
  sessionId        : String
  version          : Option String
  body             : ToolBody

/-! ## The validator -/

/-- An exception that leaves the validator. -/
inductive ValidationFailure where
  | refused (err : ToolExecutionError)
  | escaped (err : Escaped)

namespace ToolRequestValidator

/-- `FORBIDDEN_AUTHORITY_INPUT_KEYS`. -/
def forbiddenAuthorityInputKeys : List String :=
  ["authorized", "approved", "human_confirmed", "admin_override", "payment_approved",
    "skip_policy", "skip_mandate", "skip_budget", "skip_nonce", "skip_step_up", "bypass_auth",
    "role", "is_admin", "trusted", "authorization_result", "payment_status"]

/-- The four numbers of an address, of which the first ones are given. -/
def addressPattern (start : Regex CodePoint) (octets : Nat) : Regex CodePoint :=
  .seq start ((List.replicate octets (Regex.seq (.text ".") .octet)).foldr .seq .empty)

def callPattern (name : String) : Regex CodePoint :=
  .chain [.text name, .star .space, .text "("]

/-- `PROHIBITED_TARGET_PATTERNS`. -/
def prohibitedTargetPatterns : List (Regex CodePoint) :=
  [.textIgnoreCase "localhost", .text "127.0.0.1", .text "0.0.0.0", .text "::1",
    .text "169.254.169.254", .textIgnoreCase "file://", .textIgnoreCase "data://",
    .textIgnoreCase "data:", .textIgnoreCase "javascript:",
    addressPattern (.text "10") 3, addressPattern (.text "192.168") 2,
    addressPattern (.seq (.text "172.") (.anyOf
      [.seq (.text "1") (.char fun c => decide ('6' ≤ c) && decide (c ≤ '9')),
        .seq (.text "2") (.char fun c => decide ('0' ≤ c) && decide (c ≤ '9')),
        .seq (.text "3") (.char fun c => decide ('0' ≤ c) && decide (c ≤ '1'))])) 2,
    .text "__import__", callPattern "eval", callPattern "exec", .text "os.system",
    .text "subprocess"]

/-- The key is one of those, in any case. -/
def ForbiddenInputKey : RawKey → Prop
  | .str s => WideText.lower s ∈ forbiddenAuthorityInputKeys.map ofString
  | _ => False

instance (k : RawKey) : Decidable (ForbiddenInputKey k) :=
  match k with
  | .str _ => inferInstanceAs (Decidable (_ ∈ _))
  | .none | .bool _ | .int _ | .float _ => inferInstanceAs (Decidable False)

def validateToolName (toolName : String) : Except ToolExecutionError Unit :=
  checkToolName toolName ⟨.invalidToolRequest, ofString "Tool name cannot be empty."⟩
    ⟨.invalidToolRequest, ofString
      ("Non-canonical tool identifier syntax: " ++ Text.quoted toolName ++ ".")⟩
    ⟨.invalidToolRequest, ofString
      ("Path traversal or control characters detected in tool name: "
        ++ Text.quoted toolName ++ ".")⟩
    ⟨.invalidToolRequest, ofString
      ("Forbidden execution prefix in tool name: " ++ Text.quoted toolName ++ ".")⟩

def keyText : RawKey → WideText
  | .str s => s
  | _ => []

/-- The check of a key in `_scan_authority_keys`. -/
def checkAuthorityKey (toolName : String) (k : RawKey) : Except ValidationFailure Unit :=
  if ForbiddenInputKey k then
    .error (.refused ⟨.authorityFieldRejected, ofString "Forbidden authority field "
      ++ WideText.quoted (keyText k) ++ ofString " detected in tool arguments for "
      ++ ofString (Text.quoted toolName) ++ ofString "."⟩)
  else .ok ()

/-- The check of a text in `_scan_ssrf_targets`. -/
def checkTarget (toolName : String) (s : WideText) : Except ValidationFailure Unit :=
  if prohibitedTargetPatterns.any fun pattern => pattern.search s then
    .error (.refused ⟨.unsafeTarget, ofString
      "Unsafe target URL or pattern detected in tool argument for "
      ++ ofString (Text.quoted toolName) ++ ofString ": " ++ WideText.quoted s ++ ofString "."⟩)
  else .ok ()

def checkTargetKey (toolName : String) : RawKey → Except ValidationFailure Unit
  | .str s => checkTarget toolName s
  | _ => .ok ()

def scanAuthorityKeys (toolName : String) (room : Nat) (payload : RawValue) :
    Except ValidationFailure Unit :=
  payload.scan (checkAuthorityKey toolName) (fun _ => .ok ()) (.escaped .recursionError) room

def scanSsrfTargets (toolName : String) (room : Nat) (payload : RawValue) :
    Except ValidationFailure Unit :=
  payload.scan (checkTargetKey toolName) (checkTarget toolName) (.escaped .recursionError) room

/-- The number of bytes that are sent for a value: the text is ASCII. -/
def serializedBytes (runtime : ToolRuntime) (v : RawValue) : Except IntentError Nat :=
  (v.encode runtime.encodeRoom).map List.length

def serializerText (runtime : ToolRuntime) : IntentError → WideText
  | .escaped err => runtime.errorText err
  | .normalization _ message => message

def validateInputPayload (runtime : ToolRuntime) (toolName : String) (arguments : RawValue)
    (maxBytes : Int) : Except ValidationFailure Unit :=
  match serializedBytes runtime arguments with
  | .error err => .error (.refused ⟨.invalidToolArguments,
      ofString "Failed to serialize tool arguments to JSON: " ++ serializerText runtime err⟩)
  | .ok bytes =>
      if maxBytes < bytes then
        .error (.refused ⟨.toolInputTooLarge, ofString
          s!"Tool input payload ({bytes} bytes) exceeds maximum limit ({maxBytes} bytes)."⟩)
      else do
        scanAuthorityKeys toolName runtime.scanRoom arguments
        scanSsrfTargets toolName runtime.scanRoom arguments

end ToolRequestValidator

/-! ## The gate -/

namespace ToolRegistry

/-- A result that refuses or fails. -/
def failed (toolName version : String) (code : ToolErrorCode) (message : WideText) :
    ToolResult where
  toolName := toolName
  success := false
  version := version
  data := .dict []
  errorCode := some code
  errorMessage := some message

/-- `version or "1.0.0"`. -/
def versionOrFirst (version : Option String) : String := (givenVersion version).getD "1.0.0"

/-- The answer to an exception of the first part. -/
def answer (runtime : ToolRuntime) (request : ToolRequest) : ValidationFailure → ToolResult
  | .refused err => failed request.toolName (versionOrFirst request.version) err.code err.detail
  | .escaped err => failed request.toolName (versionOrFirst request.version) .invalidToolRequest
      (ofString "Tool request validation failed: " ++ runtime.errorText err)

def invocations (r : ToolRegistry) (key : String × String) : Int :=
  (r.invocationCounts.get key).getD 0

/-- Steps 1 to 6: the tool whose body is to run. -/
def authorize (runtime : ToolRuntime) (r : ToolRegistry) (request : ToolRequest) :
    Except ToolResult Tool × ToolRegistry :=
  match ToolRequestValidator.validateToolName request.toolName with
  | .error err => (.error (answer runtime request (.refused err)), r)
  | .ok () =>
    match r.resolve request.toolName request.version with
    | .error err => (.error (answer runtime request (.refused err)), r)
    | .ok tool =>
      let toolDef := tool.definition
      let denied := failed request.toolName toolDef.version
      if !toolDef.enabled || toolDef.isBlockedByDefault then
        (.error (denied .toolDisabled (ofString ("Tool " ++ Text.quoted request.toolName
          ++ " is disabled or blocked by default."))), r)
      else
        match toolDef.capabilities.find? fun cap => !request.capabilityPolicy.isAllowed cap with
        | some cap => (.error (denied .capabilityDenied (ofString ("Capability "
            ++ Text.quoted cap.value ++ " is not authorized for tool "
            ++ Text.quoted request.toolName ++ "."))), r)
        | none =>
          let sessionKey := (request.sessionId, toolDef.name)
          let currentCount := r.invocations sessionKey
          if toolDef.maxInvocations ≤ currentCount then
            (.error (denied .toolInvocationLimit (ofString ("Tool "
              ++ Text.quoted request.toolName
              ++ s!" exceeded maximum allowed invocations ({toolDef.maxInvocations})."))), r)
          else
            let counted :=
              { r with invocationCounts := r.invocationCounts.set sessionKey (currentCount + 1) }
            match ToolRequestValidator.validateInputPayload runtime request.toolName
                request.arguments toolDef.maxInputBytes with
            | .error failure => (.error (answer runtime request failure), counted)
            | .ok () => (.ok tool, counted)

/-- Step 7: the result of the body, if it is not too large. -/
def runBody (runtime : ToolRuntime) (request : ToolRequest) (tool : Tool) : ToolResult :=
  match request.body tool request.arguments with
  | .error text => failed request.toolName tool.version .toolExecutionFailed
      (ofString "Tool execution unhandled exception: " ++ text)
  | .ok res =>
      let completed : ToolResult := { res with
        toolName := request.toolName
        version := tool.version }
      match ToolRequestValidator.serializedBytes runtime res.data with
      | .ok outBytes =>
          if tool.definition.maxOutputBytes < outBytes then
            failed request.toolName tool.version .toolOutputTooLarge (ofString
              (s!"Tool output ({outBytes} bytes) exceeded maximum limit "
                ++ s!"({tool.definition.maxOutputBytes} bytes)."))
          else completed
      | .error _ => completed

/-- The tool whose body ran, if one did, and what is returned. -/
structure ToolOutcome where
  ran    : Option Tool
  result : ToolResult

def authorizeAndExecute (runtime : ToolRuntime) (r : ToolRegistry) (request : ToolRequest) :
    ToolOutcome × ToolRegistry :=
  match authorize runtime r request with
  | (.error result, r') => (⟨none, result⟩, r')
  | (.ok tool, r') => (⟨some tool, runBody runtime request tool⟩, r')

def resetCounts (r : ToolRegistry) : ToolRegistry := { r with invocationCounts := .empty }

end ToolRegistry

/-! ## What may run -/

namespace ToolRegistry

open ToolRequestValidator

def HasText (v : RawValue) (s : WideText) : Prop := s ∈ v.texts ∨ RawKey.str s ∈ v.keys

/-- The body of the tool may run for the request. -/
structure Permitted (runtime : ToolRuntime) (r : ToolRegistry) (request : ToolRequest)
    (tool : Tool) : Prop where
  found     : r.resolve request.toolName request.version = .ok tool
  enabled   : tool.definition.enabled = true ∧ tool.definition.isBlockedByDefault = false
  allowed   : ∀ cap ∈ tool.definition.capabilities,
    cap ∈ request.capabilityPolicy.allowedCapabilities
  bounded   : ∃ bytes : Nat, serializedBytes runtime request.arguments = .ok bytes
    ∧ bytes ≤ tool.definition.maxInputBytes
  authority : ∀ k ∈ request.arguments.keys, ¬ ForbiddenInputKey k
  targets   : ∀ s, HasText request.arguments s → ∀ pattern ∈ prohibitedTargetPatterns,
    ∀ part, part <:+: s → part ∉ pattern.language

theorem checkAuthorityKey_eq_ok_iff {toolName : String} {k : RawKey} :
    checkAuthorityKey toolName k = .ok () ↔ ¬ ForbiddenInputKey k := by
  rw [checkAuthorityKey, Exceptions.guard_eq_ok_iff, and_iff_left rfl]

theorem checkTarget_eq_ok_iff {toolName : String} {s : WideText} :
    checkTarget toolName s = .ok () ↔ ∀ pattern ∈ prohibitedTargetPatterns,
      ∀ part, part <:+: s → part ∉ pattern.language := by
  rw [checkTarget, Exceptions.guard_eq_ok_iff, and_iff_left rfl, Bool.not_eq_true,
    List.any_eq_false]
  refine forall₂_congr fun pattern _ => ?_
  rw [Regex.search_iff, not_exists]
  exact forall_congr' fun part => not_and

theorem validateInputPayload_eq_ok_iff {runtime : ToolRuntime} {toolName : String}
    {arguments : RawValue} {maxBytes : Int} :
    validateInputPayload runtime toolName arguments maxBytes = .ok ()
      ↔ (∃ bytes : Nat, serializedBytes runtime arguments = .ok bytes ∧ bytes ≤ maxBytes)
        ∧ arguments.depth ≤ runtime.scanRoom
        ∧ (∀ k ∈ arguments.keys, ¬ ForbiddenInputKey k)
        ∧ ∀ s, HasText arguments s → ∀ pattern ∈ prohibitedTargetPatterns,
          ∀ part, part <:+: s → part ∉ pattern.language := by
  rw [validateInputPayload]
  cases serializedBytes runtime arguments with
  | error err => simp
  | ok bytes =>
      dsimp only
      rw [Exceptions.guard_eq_ok_iff, Exceptions.seq_unit_eq_ok_iff, scanAuthorityKeys,
        scanSsrfTargets, RawValue.scan_eq_ok_iff, RawValue.scan_eq_ok_iff, not_lt]
      simp only [checkAuthorityKey_eq_ok_iff, checkTarget_eq_ok_iff, Except.ok.injEq,
        exists_eq_left', implies_true, and_true, HasText]
      constructor
      · rintro ⟨hbytes, ⟨hdepth, hkeys⟩, -, htargetKeys, htargets⟩
        refine ⟨hbytes, hdepth, hkeys, ?_⟩
        rintro s (hs | hs)
        · exact htargets s hs
        · exact checkTarget_eq_ok_iff.mp (htargetKeys _ hs)
      · rintro ⟨hbytes, hdepth, hkeys, htargets⟩
        refine ⟨hbytes, ⟨hdepth, hkeys⟩, hdepth, ?_, fun s hs => htargets s (.inl hs)⟩
        intro k hk
        cases k with
        | str s => exact checkTarget_eq_ok_iff.mpr (htargets s (.inr hk))
        | none | bool _ | int _ | float _ => rfl

/-- The state with one more invocation. -/
def counted (r : ToolRegistry) (key : String × String) : ToolRegistry :=
  { r with invocationCounts := r.invocationCounts.set key (r.invocations key + 1) }

theorem find_denied_eq_none_iff {policy : CapabilityPolicy} {capabilities : List ToolCapability} :
    capabilities.find? (fun cap => !policy.isAllowed cap) = none
      ↔ ∀ cap ∈ capabilities, cap ∈ policy.allowedCapabilities := by
  simp [CapabilityPolicy.isAllowed]

section
variable {runtime : ToolRuntime} {r : ToolRegistry} {request : ToolRequest}

/-- **The body of a tool is let run** exactly where the name is canonical, the tool
    is permitted and not used up, and the scans have room for the arguments; the
    invocation is counted. -/
theorem authorize_eq_ok_iff {tool : Tool} {r' : ToolRegistry} :
    authorize runtime r request = (.ok tool, r')
      ↔ validateToolName request.toolName = .ok () ∧ Permitted runtime r request tool
        ∧ r.invocations (request.sessionId, tool.name) < tool.definition.maxInvocations
        ∧ request.arguments.depth ≤ runtime.scanRoom
        ∧ r' = r.counted (request.sessionId, tool.name) := by
  constructor
  · intro h
    rw [authorize] at h
    cases hname : validateToolName request.toolName with
    | error err =>
        rw [hname] at h
        cases h
    | ok canonical =>
      rw [hname] at h
      dsimp only at h
      cases hresolve : r.resolve request.toolName request.version with
      | error err =>
          rw [hresolve] at h
          cases h
      | ok found =>
        rw [hresolve] at h
        dsimp only at h
        -- each of the four refusals returns an error
        split at h
        · cases h
        next henabled =>
        split at h
        · cases h
        next hcaps =>
        split at h
        · cases h
        next hused =>
        split at h
        · cases h
        next hvalid =>
        obtain ⟨hanswer, rfl⟩ := Prod.mk.inj h
        obtain rfl := Except.ok.inj hanswer
        obtain ⟨hbounded, hdepth, hauthority, htargets⟩ :=
          validateInputPayload_eq_ok_iff.mp hvalid
        exact ⟨rfl, ⟨hresolve, by simpa using henabled, find_denied_eq_none_iff.mp hcaps, hbounded,
          hauthority, htargets⟩, not_le.mp hused, hdepth, rfl⟩
  · rintro ⟨hname, ⟨hfound, ⟨henabled, hblocked⟩, hallowed, hbounded, hauthority, htargets⟩,
      hbelow, hdepth, rfl⟩
    have hused : ¬ tool.definition.maxInvocations
        ≤ r.invocations (request.sessionId, tool.definition.name) := not_le.mpr hbelow
    rw [authorize, hname]
    dsimp only
    rw [hfound]
    dsimp only
    rw [henabled, hblocked, if_neg (by decide), find_denied_eq_none_iff.mpr hallowed]
    dsimp only
    rw [if_neg hused,
      validateInputPayload_eq_ok_iff.mpr ⟨hbounded, hdepth, hauthority, htargets⟩]
    rfl

theorem resolve_congr_tools {r r' : ToolRegistry} (h : r.tools = r'.tools) (name : String)
    (version : Option String) : r.resolve name version = r'.resolve name version := by
  refine resolve_congr ?_
  rw [get, get, h]

theorem authorize_congr (runtime : ToolRuntime) {r r' : ToolRegistry} {request : ToolRequest}
    (htools : r.tools = r'.tools)
    (hcount : ∀ tool, r.resolve request.toolName request.version = .ok tool →
      r.invocations (request.sessionId, tool.name)
        = r'.invocations (request.sessionId, tool.name)) :
    (authorize runtime r request).1 = (authorize runtime r' request).1
      ∧ (((authorize runtime r request).2 = r ∧ (authorize runtime r' request).2 = r')
        ∨ ∃ tool, r.resolve request.toolName request.version = .ok tool
          ∧ (authorize runtime r request).2 = r.counted (request.sessionId, tool.name)
          ∧ (authorize runtime r' request).2 = r'.counted (request.sessionId, tool.name)) := by
  rw [authorize, authorize, ← resolve_congr_tools htools]
  cases validateToolName request.toolName with
  | error err => exact ⟨rfl, .inl ⟨rfl, rfl⟩⟩
  | ok canonical =>
    cases hresolve : r.resolve request.toolName request.version with
    | error err => exact ⟨rfl, .inl ⟨rfl, rfl⟩⟩
    | ok tool =>
      have hsame : r'.invocations (request.sessionId, tool.definition.name)
          = r.invocations (request.sessionId, tool.definition.name) := (hcount tool hresolve).symm
      dsimp only
      rw [hsame]
      split
      · exact ⟨rfl, .inl ⟨rfl, rfl⟩⟩
      split
      · exact ⟨rfl, .inl ⟨rfl, rfl⟩⟩
      split
      · exact ⟨rfl, .inl ⟨rfl, rfl⟩⟩
      have hstate : ({ r' with
            invocationCounts := (r'.invocationCounts.set (request.sessionId, tool.definition.name)
              (r.invocations (request.sessionId, tool.definition.name) + 1)) } : ToolRegistry)
          = r'.counted (request.sessionId, tool.name) := by
        rw [← hsame]
        rfl
      rw [hstate]
      split
      · exact ⟨rfl, .inr ⟨tool, rfl, rfl, rfl⟩⟩
      · exact ⟨rfl, .inr ⟨tool, rfl, rfl, rfl⟩⟩

theorem authorize_state (runtime : ToolRuntime) (r : ToolRegistry) (request : ToolRequest) :
    (authorize runtime r request).2 = r
      ∨ ∃ tool, r.resolve request.toolName request.version = .ok tool
        ∧ (authorize runtime r request).2 = r.counted (request.sessionId, tool.name) := by
  have hcongr := @authorize_congr runtime r r request rfl fun _ _ => rfl
  obtain ⟨h, -⟩ | ⟨tool, htool, h, -⟩ := hcongr.2
  · exact .inl h
  · exact .inr ⟨tool, htool, h⟩

end

theorem invocations_counted (r : ToolRegistry) (key key' : String × String) :
    (r.counted key).invocations key' = r.invocations key' + if key' = key then 1 else 0 := by
  rw [counted, invocations, OrderedMap.get_set]
  by_cases h : key' = key
  · rw [if_pos h, if_pos h, h]
    rfl
  · rw [if_neg h, if_neg h, add_zero]
    rfl

end ToolRegistry

/-! ## Runs of the gate -/

/-- A call of the registry. -/
inductive ToolGateCall where
  | change (call : RegistryCall)
  | authorizeAndExecute (request : ToolRequest)
  | resetCounts

inductive ToolGateOutput where
  | changed (result : Except PyError Unit)
  | executed (outcome : ToolRegistry.ToolOutcome)
  | reset

namespace ToolRegistry

open ToolRequestValidator

def gateStep (runtime : ToolRuntime) (r : ToolRegistry) :
    ToolGateCall → ToolGateOutput × ToolRegistry
  | .change call => (.changed (step r call).1, (step r call).2)
  | .authorizeAndExecute request =>
      (.executed (authorizeAndExecute runtime r request).1,
        (authorizeAndExecute runtime r request).2)
  | .resetCounts => (.reset, r.resetCounts)

abbrev GateStep : Type := Runs.Step ToolRegistry ToolGateCall ToolGateOutput

def Ran (request : ToolRequest) (tool : Tool) (c : GateStep) : Prop :=
  ∃ outcome, c.act = .authorizeAndExecute request ∧ c.out = .executed outcome
    ∧ outcome.ran = some tool

def ranIn (session : String) (tool : Tool) (c : GateStep) : Bool :=
  match c.act, c.out with
  | .authorizeAndExecute request, .executed outcome =>
      request.sessionId = session && outcome.ran = some tool
  | _, _ => false

def gateKey (tools : OrderedMap String Tool) : ToolGateCall → Option (String × String)
  | .authorizeAndExecute request =>
      match resolve ⟨tools, .empty⟩ request.toolName request.version with
      | .ok tool => some (request.sessionId, tool.name)
      | .error _ => some (request.sessionId, request.toolName)
  | _ => none

section
variable {runtime : ToolRuntime}

/-- **What runs is permitted.** -/
theorem permitted_of_ran {r : ToolRegistry} {call : ToolGateCall} {request : ToolRequest}
    {tool : Tool} (h : Ran request tool (Runs.stepAt (gateStep runtime) r call)) :
    Permitted runtime r request tool
      ∧ r.invocations (request.sessionId, tool.name) < tool.definition.maxInvocations
      ∧ (gateStep runtime r call).2 = r.counted (request.sessionId, tool.name) := by
  obtain ⟨outcome, hact, hout, hran⟩ := h
  obtain rfl : call = .authorizeAndExecute request := hact
  have houtcome : (authorizeAndExecute runtime r request).1 = outcome :=
    ToolGateOutput.executed.inj hout
  rw [← houtcome, authorizeAndExecute] at hran
  cases hauthorize : authorize runtime r request with
  | mk answer r' =>
      rw [hauthorize] at hran
      cases answer with
      | error result => cases hran
      | ok found =>
          obtain rfl : found = tool := Option.some.inj hran
          obtain ⟨-, hpermitted, hbelow, -, rfl⟩ := authorize_eq_ok_iff.mp hauthorize
          refine ⟨hpermitted, hbelow, ?_⟩
          rw [gateStep, authorizeAndExecute, hauthorize]

theorem ran_of_ranIn {session : String} {tool : Tool} {c : GateStep}
    (h : ranIn session tool c = true) :
    ∃ request, request.sessionId = session ∧ Ran request tool c := by
  obtain ⟨pre, act, out, post⟩ := c
  cases act with
  | change call => cases h
  | resetCounts => cases h
  | authorizeAndExecute request =>
      cases out with
      | changed result => cases h
      | reset => cases h
      | executed outcome =>
          obtain ⟨hsession, hran⟩ := Bool.and_eq_true_iff.mp h
          exact ⟨request, of_decide_eq_true hsession, outcome, rfl, rfl, of_decide_eq_true hran⟩

theorem execute_state (runtime : ToolRuntime) (r : ToolRegistry) (request : ToolRequest) :
    (authorizeAndExecute runtime r request).2 = (authorize runtime r request).2 := by
  rw [authorizeAndExecute]
  rcases authorize runtime r request with ⟨answer, r'⟩
  cases answer <;> rfl

theorem step_invocationCounts (r : ToolRegistry) (call : RegistryCall) :
    (step r call).2.invocationCounts = r.invocationCounts := by
  cases call with
  | register tool =>
      rw [step]
      cases hregister : r.register tool with
      | error err => rfl
      | ok r' =>
          obtain ⟨-, -, rfl⟩ := register_eq_ok_iff.mp hregister
          rfl
  | unregister name version => rfl

theorem invocations_grow {r : ToolRegistry} {call : ToolGateCall} (hreset : call ≠ .resetCounts)
    (key : String × String) :
    r.invocations key ≤ (gateStep runtime r call).2.invocations key := by
  cases call with
  | resetCounts => exact absurd rfl hreset
  | change call =>
      show _ ≤ ((step r call).2.invocationCounts.get key).getD 0
      rw [step_invocationCounts]
      exact le_rfl
  | authorizeAndExecute request =>
      show _ ≤ (authorizeAndExecute runtime r request).2.invocations key
      rw [execute_state]
      rcases authorize_state runtime r request with h | ⟨tool, -, h⟩
      · rw [h]
      · rw [h, invocations_counted]
        split <;> omega

theorem invocations_nonneg (runtime : ToolRuntime) (calls : List ToolGateCall)
    (key : String × String) : 0 ≤ (Runs.exec (gateStep runtime) init calls).invocations key := by
  refine Runs.exec_inv (I := fun r => 0 ≤ ToolRegistry.invocations r key) ?_ le_rfl calls
  intro r call hpos
  by_cases hreset : call = .resetCounts
  · rw [hreset]
    exact le_rfl
  · exact hpos.trans (invocations_grow hreset key)

theorem maxInvocations_pos (tool : Tool) : 0 < tool.definition.maxInvocations := by
  have hdefined := tool.defined
  rw [ToolDefinition.postInit, Exceptions.seq_unit_eq_ok_iff, forbidden_capabilities_none]
    at hdefined
  obtain ⟨-, hchecks⟩ := hdefined
  obtain ⟨-, hchecks⟩ := Exceptions.guard_eq_ok_iff.mp hchecks
  obtain ⟨-, hchecks⟩ := Exceptions.guard_eq_ok_iff.mp hchecks
  obtain ⟨hpos, -⟩ := Exceptions.guard_eq_ok_iff.mp hchecks
  exact not_le.mp hpos

/-- **A tool runs as often as it may** in a session, in a part of a run without a
    reset. -/
theorem countP_ranIn_le (runtime : ToolRuntime) (calls more : List ToolGateCall)
    (hreset : ∀ call ∈ more, call ≠ .resetCounts) (session : String) (tool : Tool) :
    ((Runs.steps (gateStep runtime) (Runs.exec (gateStep runtime) init calls) more).countP
      (ranIn session tool) : Int) ≤ tool.definition.maxInvocations := by
  refine Runs.countP_le_of_quota (fun r => ToolRegistry.invocations r (session, tool.name))
    (fun c => c.act ≠ .resetCounts) ?_ ?_ (invocations_nonneg runtime calls _)
    (maxInvocations_pos tool).le ?_
  · intro r call hran
    obtain ⟨request, rfl, hbody⟩ := ran_of_ranIn hran
    obtain ⟨-, hbelow, hstate⟩ := permitted_of_ran hbody
    refine ⟨hbelow, ?_⟩
    rw [hstate, invocations_counted, if_pos rfl]
  · intro r call hcall
    exact invocations_grow hcall _
  · intro c hc
    obtain ⟨l, call, rest, rfl, rfl⟩ := Runs.mem_steps_iff.mp hc
    exact hreset call (List.mem_append_right _ List.mem_cons_self)

theorem step_congr {r r' : ToolRegistry} (htools : r.tools = r'.tools) (call : RegistryCall) :
    (step r call).1 = (step r' call).1 ∧ (step r call).2.tools = (step r' call).2.tools := by
  cases call with
  | unregister name version => exact ⟨rfl, by rw [step, step, unregister, unregister, htools]⟩
  | register tool =>
      rw [step, step, register, register, htools, forbidden_capabilities_none]
      by_cases htaken : r'.tools.contains tool.aliasKey = true ∨ r'.tools.contains tool.name = true
      · rw [if_pos htaken, if_pos htaken]
        exact ⟨rfl, htools⟩
      · rw [if_neg htaken, if_neg htaken]
        exact ⟨rfl, rfl⟩

theorem gateKey_of_resolve {r : ToolRegistry} {request : ToolRequest} {tool : Tool}
    (h : r.resolve request.toolName request.version = .ok tool) :
    gateKey r.tools (.authorizeAndExecute request) = some (request.sessionId, tool.name) := by
  have hresolve : resolve ⟨r.tools, .empty⟩ request.toolName request.version = .ok tool :=
    (resolve_congr_tools rfl _ _).trans h
  rw [gateKey, hresolve]

theorem gateKey_ne_none (tools : OrderedMap String Tool) (request : ToolRequest) :
    gateKey tools (.authorizeAndExecute request) ≠ none := by
  rw [gateKey]
  split <;> simp

theorem sharedKeyed_gateStep (runtime : ToolRuntime) :
    Runs.SharedKeyed (gateStep runtime) ToolRegistry.tools gateKey invocations := by
  constructor
  · intro r r' call key hkey htools hcount
    cases call with
    | resetCounts => exact ⟨rfl, htools, rfl⟩
    | change call =>
        obtain ⟨hout, hpost⟩ := step_congr htools call
        refine ⟨congrArg ToolGateOutput.changed hout, hpost, ?_⟩
        show ((step r call).2.invocationCounts.get key).getD 0
          = ((step r' call).2.invocationCounts.get key).getD 0
        rw [step_invocationCounts, step_invocationCounts]
        exact hcount
    | authorizeAndExecute request =>
        -- the count that the call reads is the one of its key
        have hcounts : ∀ tool, r.resolve request.toolName request.version = .ok tool →
            r.invocations (request.sessionId, tool.name)
              = r'.invocations (request.sessionId, tool.name) := by
          intro tool htool
          have hown := hkey.resolve_left (gateKey_ne_none r.tools request)
          rw [gateKey_of_resolve htool] at hown
          rw [Option.some.inj hown]
          exact hcount
        obtain ⟨hsame, hstate⟩ := authorize_congr runtime htools hcounts
        have hout : (authorizeAndExecute runtime r request).1
            = (authorizeAndExecute runtime r' request).1 := by
          rw [authorizeAndExecute, authorizeAndExecute]
          rcases hleft : authorize runtime r request with ⟨answer, post⟩
          rcases hright : authorize runtime r' request with ⟨answer', post'⟩
          rw [hleft, hright] at hsame
          obtain rfl : answer = answer' := hsame
          cases answer <;> rfl
        refine ⟨congrArg ToolGateOutput.executed hout, ?_⟩
        show (authorizeAndExecute runtime r request).2.tools
            = (authorizeAndExecute runtime r' request).2.tools
          ∧ (authorizeAndExecute runtime r request).2.invocations key
            = (authorizeAndExecute runtime r' request).2.invocations key
        rw [execute_state, execute_state]
        rcases hstate with ⟨h, h'⟩ | ⟨tool, -, h, h'⟩
        · rw [h, h']
          exact ⟨htools, hcount⟩
        · rw [h, h', invocations_counted, invocations_counted, hcount]
          exact ⟨htools, rfl⟩
  · intro r call key hkey
    rw [Runs.Concerns, not_or] at hkey
    cases call with
    | resetCounts => exact absurd rfl hkey.1
    | change call => exact absurd rfl hkey.1
    | authorizeAndExecute request =>
        show (authorizeAndExecute runtime r request).2.tools = r.tools
          ∧ (authorizeAndExecute runtime r request).2.invocations key = r.invocations key
        rw [execute_state]
        rcases authorize_state runtime r request with h | ⟨tool, htool, h⟩
        · rw [h]
          exact ⟨rfl, rfl⟩
        · have hne : key ≠ (request.sessionId, tool.name) := by
            rintro rfl
            exact hkey.2 (gateKey_of_resolve htool)
          rw [h, invocations_counted, if_neg hne, add_zero]
          exact ⟨rfl, rfl⟩

/-- **The law of the gate.**  Over every run of calls: the body of a tool runs only
    where it is permitted; between two resets it runs in a session at most as often
    as it may; and the calls of a session to a tool observe what they would observe
    without those of other sessions and to other tools. -/
theorem gateLaw (runtime : ToolRuntime) (calls : List ToolGateCall) :
    (∀ c ∈ Runs.steps (gateStep runtime) init calls, ∀ request tool, Ran request tool c →
      Permitted runtime c.pre request tool)
    ∧ (∀ before part after, calls = before ++ part ++ after →
      (∀ call ∈ part, call ≠ .resetCounts) → ∀ session tool,
      ((Runs.steps (gateStep runtime) (Runs.exec (gateStep runtime) init before) part).countP
        (ranIn session tool) : Int) ≤ tool.definition.maxInvocations)
    ∧ ∀ key, Runs.concerned (gateStep runtime) ToolRegistry.tools gateKey key init calls
      = Runs.concerned (gateStep runtime) ToolRegistry.tools gateKey key init
        (Runs.alone (gateStep runtime) ToolRegistry.tools gateKey key init calls) := by
  refine ⟨?_, ?_, ?_⟩
  · intro c hc request tool hran
    obtain ⟨l, call, rest, rfl, rfl⟩ := Runs.mem_steps_iff.mp hc
    exact (permitted_of_ran hran).1
  · intro before part after _ hreset session tool
    exact countP_ranIn_le runtime before part hreset session tool
  · intro key
    exact (sharedKeyed_gateStep runtime).concerned_alone rfl rfl calls

end

end ToolRegistry

namespace SampleTools

def runtime : ToolRuntime := ⟨900, 900, fun _ => []⟩

def searchFor (text : String) : ToolRequest where
  toolName := "search"
  arguments := .dict [(RawDict.key "query", .str (ofString text))]
  capabilityPolicy := ⟨[.catalogRead]⟩
  sessionId := "default"
  version := none
  body := fun _ arguments => .ok ⟨"search", true, "1.0.0", arguments, none, none⟩

def registry : ToolRegistry := (ToolRegistry.step .init (.register search)).2

end SampleTools

open SampleTools in
example : (registry.authorizeAndExecute runtime (searchFor "pens")).1.ran = some search := by
  decide +kernel

open SampleTools in
example : (registry.authorizeAndExecute runtime (searchFor "http://10.0.0.1/x")).1.ran = none
    ∧ (registry.authorizeAndExecute runtime (searchFor "LOCALHOſT")).1.ran = none := by
  decide +kernel

end MandateGateway
