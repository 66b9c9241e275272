import MandateGateway.Lib.Exceptions
import MandateGateway.Lib.OrderedMap
import MandateGateway.Lib.Regex
import MandateGateway.Lib.Runs
import MandateGateway.Values

/-! # The registry of tools

    A tool is found by its name and by an alias of its name and version, both of
    them keys of one map.  Registration takes two new keys; what is unregistered
    is the alias that the caller spells out, and the name.

    * `WellFormed`: every tool of the map is found by its two keys and no others;
    * `revokes_iff`: a run of calls revokes what it unregisters exactly when every
      call names the version of the tool, or no key at all. -/

namespace MandateGateway

inductive ToolCapability where
  | catalogRead | merchantRead | productRead | cartBuild | priceCalculation | proposalCreate
deriving DecidableEq

def ToolCapability.value : ToolCapability → String
  | .catalogRead => "CATALOG_READ"
  | .merchantRead => "MERCHANT_READ"
  | .productRead => "PRODUCT_READ"
  | .cartBuild => "CART_BUILD"
  | .priceCalculation => "PRICE_CALCULATION"
  | .proposalCreate => "PROPOSAL_CREATE"

/-- `repr(cap)`. -/
def ToolCapability.repr (cap : ToolCapability) : String :=
  "<ToolCapability." ++ cap.value ++ ": " ++ Text.quoted cap.value ++ ">"

/-- `FORBIDDEN_CAPABILITIES`. -/
def forbiddenCapabilities : List String :=
  ["payment.execute", "payment.authorize", "mandate.override", "budget.override",
    "nonce.override", "policy.override", "admin.override", "arbitrary.http", "arbitrary.python",
    "arbitrary.shell", "arbitrary.database"]

inductive ToolErrorCode where
  | unknownTool | toolDisabled | capabilityDenied | invalidToolRequest | invalidToolArguments
  | invalidToolVersion | toolTimeout | toolInputTooLarge | toolOutputTooLarge
  | toolInvocationLimit | forbiddenOperation | authorityFieldRejected | unsafeTarget
  | toolExecutionFailed
deriving DecidableEq

structure ToolExecutionError where
  code   : ToolErrorCode
  detail : WideText
deriving DecidableEq

/-! ## Tools -/

/-- `CANONICAL_TOOL_NAME_REGEX`; the end of the text may be before a last line break. -/
def canonicalToolNameRegex : Regex CodePoint :=
  let letter := Regex.char fun c =>
    (decide ('a' ≤ c) && decide (c ≤ 'z')) || (decide ('0' ≤ c) && decide (c ≤ '9'))
      || c == '_' || c == '-' || c == '.' || c == ':'
  .seq (.plus letter) (.alt (.char (· == '\n')) .empty)

def dangerousPrefixes : List String :=
  ["python:", "shell:", "exec:", "eval:", "import:", "module:"]

/-- The checks of a tool's name, with what is raised where one of them fails. -/
def checkToolName {ε : Type} (name : String) (empty nonCanonical characters dangerous : ε) :
    Except ε Unit :=
  let norm := Text.lower (Text.strip name)
  if name = "" ∨ Text.strip name = "" then .error empty
  else if canonicalToolNameRegex.fullmatch (WideText.ofString norm) = false then
    .error nonCanonical
  else if Text.occursIn ".." name ∨ '/' ∈ name.toList ∨ Char.ofNat 92 ∈ name.toList
      ∨ Char.ofNat 0 ∈ name.toList ∨ '\n' ∈ name.toList then .error characters
  else if dangerousPrefixes.any fun bad => bad.toList.isPrefixOf norm.toList then
    .error dangerous
  else .ok ()

/-- What the gateway reads of a tool's definition; a set of capabilities is given
    in the order of its iteration. -/
structure ToolDefinition where
  name               : String
  version            : String
  capabilities       : List ToolCapability
  isBlockedByDefault : Bool
  maxInputBytes      : Int
  maxOutputBytes     : Int
  maxInvocations     : Int
  timeoutSeconds     : Binary64
  enabled            : Bool
deriving DecidableEq

namespace ToolDefinition

/-- `timeout <= 0.0`. -/
def nonPositive : Binary64 → Bool
  | .finite q => q ≤ 0
  | .infinite negative => negative
  | .nan => false

def postInit (d : ToolDefinition) : Except PyError Unit := do
  checkToolName d.name (.valueError "Tool name cannot be empty.")
    (.valueError ("Invalid canonical tool name " ++ Text.quoted d.name ++ ". Tool names must be "
      ++ "lowercase alphanumeric with dots, hyphens, colons, or underscores."))
    (.valueError ("Tool name " ++ Text.quoted d.name
      ++ " contains forbidden path or control characters."))
    (.valueError ("Tool name " ++ Text.quoted d.name ++ " contains dangerous execution prefix."))
  match d.capabilities.find? fun cap => cap.value ∈ forbiddenCapabilities with
  | some cap => .error (.valueError ("Tool " ++ Text.quoted d.name
      ++ " cannot register forbidden capability " ++ cap.repr ++ "."))
  | none =>
    if d.maxInputBytes ≤ 0 then .error (.valueError "max_input_bytes must be > 0.")
    else if d.maxOutputBytes ≤ 0 then .error (.valueError "max_output_bytes must be > 0.")
    else if d.maxInvocations ≤ 0 then .error (.valueError "max_invocations must be > 0.")
    else if nonPositive d.timeoutSeconds then .error (.valueError "timeout_seconds must be > 0.0.")
    else .ok ()

end ToolDefinition

/-- A tool: an object with a definition that could be made. -/
structure Tool where
  object     : Nat
  definition : ToolDefinition
  defined    : definition.postInit = .ok ()
deriving DecidableEq

def Tool.name (tool : Tool) : String := tool.definition.name

def Tool.version (tool : Tool) : String := tool.definition.version

/-! ## The registry -/

structure ToolRegistry where
  tools            : OrderedMap String Tool
  invocationCounts : OrderedMap (String × String) Int

def aliasKey (name version : String) : String := name ++ ":" ++ version

def Tool.aliasKey (tool : Tool) : String := MandateGateway.aliasKey tool.name tool.version

def givenVersion : Option String → Option String
  | some "" => none
  | version => version

namespace ToolRegistry

def init : ToolRegistry := ⟨.empty, .empty⟩

def register (r : ToolRegistry) (tool : Tool) : Except PyError ToolRegistry :=
  if r.tools.contains tool.aliasKey ∨ r.tools.contains tool.name then
    .error (.valueError ("Tool " ++ Text.quoted tool.name ++ " version "
      ++ Text.quoted tool.version ++ " is already registered."))
  else
    match tool.definition.capabilities.find? fun cap => cap.value ∈ forbiddenCapabilities with
    | some cap => .error (.valueError ("Tool " ++ Text.quoted tool.name
        ++ " cannot declare forbidden capability " ++ cap.repr ++ "."))
    | none => .ok { r with tools := (r.tools.set tool.name tool).set tool.aliasKey tool }

def unregister (r : ToolRegistry) (toolName : String) (version : Option String) : ToolRegistry :=
  let tools :=
    match givenVersion version with
    | some v => r.tools.erase (aliasKey toolName v)
    | none => r.tools
  { r with tools := tools.erase toolName }

def get (r : ToolRegistry) (toolName : String) (version : Option String) : Option Tool :=
  match givenVersion version with
  | some v =>
      match r.tools.get (aliasKey toolName v) with
      | some tool => some tool
      | none => r.tools.get toolName
  | none => r.tools.get toolName

def resolve (r : ToolRegistry) (toolName : String) (version : Option String) :
    Except ToolExecutionError Tool :=
  match r.get toolName version with
  | none => .error ⟨.unknownTool, .ofString
      ("Tool " ++ Text.quoted toolName ++ " is not registered in ToolRegistry.")⟩
  | some tool =>
      match givenVersion version with
      | some v =>
          if tool.version ≠ v then
            .error ⟨.invalidToolVersion, .ofString ("Requested tool version " ++ Text.quoted v
              ++ " does not match registered version " ++ Text.quoted tool.version ++ ".")⟩
          else .ok tool
      | none => .ok tool

end ToolRegistry

/-! ## Registration -/

theorem length_aliasKey (name version : String) :
    (aliasKey name version).length = name.length + 1 + version.length := by
  rw [aliasKey, String.length_append, String.length_append]
  rfl

theorem aliasKey_ne (name version : String) : aliasKey name version ≠ name := by
  intro h
  have hlength := congrArg String.length h
  rw [length_aliasKey] at hlength
  omega

theorem aliasKey_inj {name v w : String} (h : aliasKey name v = aliasKey name w) : v = w := by
  have hchars := congrArg String.toList h
  simp only [aliasKey, String.toList_append] at hchars
  exact String.toList_injective (List.append_cancel_left hchars)

theorem givenVersion_eq_some_iff {version : Option String} {v : String} :
    givenVersion version = some v ↔ version = some v ∧ v ≠ "" := by
  rcases version with _ | w
  · simp [givenVersion]
  · by_cases hw : w = ""
    · subst hw
      simp only [givenVersion, reduceCtorEq, Option.some.injEq, false_iff]
      rintro ⟨rfl, hne⟩
      exact hne rfl
    · have hgiven : givenVersion (some w) = some w := by
        rw [givenVersion]
        intro h
        exact hw (Option.some.inj h)
      rw [hgiven]
      constructor
      · intro h
        exact ⟨h, Option.some.inj h ▸ hw⟩
      · exact And.left

theorem forbidden_capabilities_none (capabilities : List ToolCapability) :
    capabilities.find? (fun cap => cap.value ∈ forbiddenCapabilities) = none := by
  rw [List.find?_eq_none]
  intro cap _
  cases cap <;> decide

namespace ToolRegistry

/-- **A tool can be registered** exactly when both of its keys are free. -/
theorem register_eq_ok_iff {r r' : ToolRegistry} {tool : Tool} :
    r.register tool = .ok r'
      ↔ r.tools.get tool.aliasKey = none ∧ r.tools.get tool.name = none
        ∧ r' = { r with tools := (r.tools.set tool.name tool).set tool.aliasKey tool } := by
  rw [register, Exceptions.guard_eq_ok_iff, forbidden_capabilities_none, not_or,
    Bool.not_eq_true, Bool.not_eq_true, OrderedMap.contains_eq_false_iff,
    OrderedMap.contains_eq_false_iff, and_assoc, Exceptions.ok_eq_ok_iff]

/-! ## What is registered -/

def RegisteredAs (r : ToolRegistry) (name : String) (tool : Tool) : Prop :=
  r.tools.get name = some tool ∧ tool.name = name

/-- The keys of a tool in the map are its name and its alias. -/
structure WellFormed (r : ToolRegistry) : Prop where
  keys    : ∀ key tool, r.tools.get key = some tool → key = tool.name ∨ key = tool.aliasKey
  primary : ∀ key tool, r.tools.get key = some tool → r.tools.get tool.name = some tool
  aliased : ∀ key tool, r.tools.get key = some tool → r.tools.get tool.aliasKey = some tool

/-- One tool is registered under a name. -/
theorem RegisteredAs.unique {r : ToolRegistry} {name : String} {tool tool' : Tool}
    (h : r.RegisteredAs name tool) (h' : r.RegisteredAs name tool') : tool' = tool :=
  Option.some.inj (h'.1.symm.trans h.1)

theorem wellFormed_init : WellFormed init := by
  constructor <;> intro key tool h <;> cases h

theorem wellFormed_register {r r' : ToolRegistry} {tool : Tool} (h : r.WellFormed)
    (hok : r.register tool = .ok r') : r'.WellFormed := by
  obtain ⟨halias, hname, rfl⟩ := register_eq_ok_iff.mp hok
  have hne : tool.name ≠ tool.aliasKey := (aliasKey_ne _ _).symm
  have hgetName : ((r.tools.set tool.name tool).set tool.aliasKey tool).get tool.name
      = some tool := by
    rw [OrderedMap.get_set_of_ne _ hne, OrderedMap.get_set_self]
  -- a tool of the map is the new one, or an old one whose keys are still its keys
  have hcases : ∀ key other,
      ((r.tools.set tool.name tool).set tool.aliasKey tool).get key = some other →
      (other = tool ∧ (key = tool.name ∨ key = tool.aliasKey)) ∨ r.tools.get key = some other := by
    intro key other hget
    rw [OrderedMap.get_set, OrderedMap.get_set] at hget
    by_cases hka : key = tool.aliasKey
    · rw [if_pos hka] at hget
      exact .inl ⟨(Option.some.inj hget).symm, .inr hka⟩
    · rw [if_neg hka] at hget
      by_cases hkn : key = tool.name
      · rw [if_pos hkn] at hget
        exact .inl ⟨(Option.some.inj hget).symm, .inl hkn⟩
      · rw [if_neg hkn] at hget
        exact .inr hget
  have hold : ∀ key other, r.tools.get key = some other →
      ((r.tools.set tool.name tool).set tool.aliasKey tool).get key = some other := by
    intro key other hget
    have hka : key ≠ tool.aliasKey := by
      rintro rfl
      rw [halias] at hget
      cases hget
    have hkn : key ≠ tool.name := by
      rintro rfl
      rw [hname] at hget
      cases hget
    rw [OrderedMap.get_set_of_ne _ hka, OrderedMap.get_set_of_ne _ hkn]
    exact hget
  constructor
  · intro key other hget
    rcases hcases key other hget with ⟨rfl, hkey⟩ | hprev
    · exact hkey
    · exact h.keys key other hprev
  · intro key other hget
    rcases hcases key other hget with ⟨rfl, -⟩ | hprev
    · exact hgetName
    · exact hold _ _ (h.primary key other hprev)
  · intro key other hget
    rcases hcases key other hget with ⟨rfl, -⟩ | hprev
    · exact OrderedMap.get_set_self _ _ _
    · exact hold _ _ (h.aliased key other hprev)

/-! ## Unregistration -/

/-- The call takes the keys of the tool that is registered under the name, or no key
    where none is. -/
def Clean (r : ToolRegistry) (name : String) (version : Option String) : Prop :=
  (∃ tool, r.RegisteredAs name tool ∧ tool.version ≠ "" ∧ version = some tool.version)
    ∨ ((∀ tool, ¬ r.RegisteredAs name tool) ∧ r.tools.get name = none
      ∧ ∀ v, givenVersion version = some v → r.tools.get (aliasKey name v) = none)

/-- What is left when a name has been unregistered. -/
structure Revoked (pre post : ToolRegistry) (name : String) : Prop where
  gone   : ∀ tool, pre.RegisteredAs name tool → ∀ n v,
    post.get n v ≠ some tool ∧ post.resolve n v ≠ .ok tool
  again  : ∀ tool, pre.RegisteredAs name tool → ∃ next, post.register tool = .ok next
  others : ∀ n v, (∀ tool, pre.get n v = some tool → ¬ pre.RegisteredAs name tool) →
    post.get n v = pre.get n v ∧ post.resolve n v = pre.resolve n v

section
variable {r : ToolRegistry} {name : String} {version : Option String}

theorem get_unregister (r : ToolRegistry) (name : String) (version : Option String)
    (key : String) :
    (r.unregister name version).tools.get key
      = if key = name ∨ ∃ v, givenVersion version = some v ∧ key = aliasKey name v then none
        else r.tools.get key := by
  rw [unregister]
  cases hversion : givenVersion version with
  | none =>
      simp only [OrderedMap.get_erase, reduceCtorEq, false_and, exists_false, or_false]
  | some v =>
      simp only [OrderedMap.get_erase, Option.some.injEq, exists_eq_left']
      by_cases hname : key = name
      · rw [if_pos hname, if_pos (.inl hname)]
      · rw [if_neg hname]
        by_cases halias : key = aliasKey name v
        · rw [if_pos halias, if_pos (.inr halias)]
        · rw [if_neg halias, if_neg (not_or.mpr ⟨hname, halias⟩)]

theorem get_none (n : String) : r.get n none = r.tools.get n := rfl

/-- A lookup tries the alias of the version, if one is given, and then the name. -/
theorem get_eq (r : ToolRegistry) (n : String) (v : Option String) :
    r.get n v
      = ((givenVersion v).bind fun w => r.tools.get (aliasKey n w)).or (r.tools.get n) := by
  rw [get]
  cases givenVersion v with
  | none => rfl
  | some w => cases halias : r.tools.get (aliasKey n w) <;> simp [halias]

theorem exists_key_of_get {n : String} {v : Option String} {tool : Tool}
    (h : r.get n v = some tool) : ∃ key, r.tools.get key = some tool := by
  rw [get_eq, Option.or_eq_some_iff] at h
  rcases h with halias | ⟨-, hname⟩
  · obtain ⟨w, -, hkey⟩ := Option.bind_eq_some_iff.mp halias
    exact ⟨_, hkey⟩
  · exact ⟨n, hname⟩

theorem get_of_resolve {n : String} {v : Option String} {tool : Tool}
    (h : r.resolve n v = .ok tool) : r.get n v = some tool := by
  rw [resolve] at h
  cases hget : r.get n v with
  | none =>
      rw [hget] at h
      cases h
  | some other =>
      rw [hget] at h
      dsimp only at h
      cases hversion : givenVersion v with
      | none =>
          rw [hversion] at h
          rw [Except.ok.inj h]
      | some w =>
          rw [hversion] at h
          rw [(Exceptions.ok_eq_ok_iff.mp (Exceptions.guard_eq_ok_iff.mp h).2)]

theorem resolve_congr {r' : ToolRegistry} {n : String} {v : Option String}
    (h : r'.get n v = r.get n v) : r'.resolve n v = r.resolve n v := by
  rw [resolve, resolve, h]

theorem get_unregister_of_clean (hwf : r.WellFormed) (hclean : r.Clean name version)
    (key : String) (tool : Tool) :
    (r.unregister name version).tools.get key = some tool
      ↔ r.tools.get key = some tool ∧ ¬ r.RegisteredAs name tool := by
  rw [get_unregister]
  rcases hclean with ⟨found, hfound, hne, rfl⟩ | ⟨hnone, hname, halias⟩
  · have hgiven : givenVersion (some found.version) = some found.version :=
      givenVersion_eq_some_iff.mpr ⟨rfl, hne⟩
    simp only [hgiven, Option.some.injEq, exists_eq_left']
    have hkeyed : aliasKey name found.version = found.aliasKey := by
      rw [Tool.aliasKey, hfound.2]
    rw [hkeyed]
    have htaken : r.tools.get found.aliasKey = some found := hwf.aliased name found hfound.1
    by_cases hkey : key = name ∨ key = found.aliasKey
    · rw [if_pos hkey]
      refine iff_of_false (fun h => by cases h) ?_
      rintro ⟨hget, hnot⟩
      have hsame : tool = found := by
        rcases hkey with rfl | rfl
        · exact Option.some.inj (hget.symm.trans hfound.1)
        · exact Option.some.inj (hget.symm.trans htaken)
      exact hnot (hsame ▸ hfound)
    · rw [if_neg hkey]
      refine (and_iff_left_of_imp fun hget hregistered => ?_).symm
      obtain rfl := hregistered.unique hfound
      rcases hwf.keys key _ hget with h | h
      · exact hkey (.inl (h.trans hregistered.2))
      · exact hkey (.inr h)
  · have hkept : (if key = name ∨ ∃ v, givenVersion version = some v ∧ key = aliasKey name v
          then none else r.tools.get key) = r.tools.get key := by
      by_cases hkey : key = name ∨ ∃ v, givenVersion version = some v ∧ key = aliasKey name v
      · rw [if_pos hkey]
        rcases hkey with rfl | ⟨v, hv, rfl⟩
        · exact hname.symm
        · exact (halias v hv).symm
      · rw [if_neg hkey]
    rw [hkept]
    exact (and_iff_left_of_imp fun _ => hnone tool).symm

theorem wellFormed_unregister (hwf : r.WellFormed) (hclean : r.Clean name version) :
    (r.unregister name version).WellFormed := by
  -- the tools that are left are left with both of their keys
  have hleft : ∀ key tool, (r.unregister name version).tools.get key = some tool →
      r.tools.get key = some tool ∧ ∀ key', r.tools.get key' = some tool →
        (r.unregister name version).tools.get key' = some tool := by
    intro key tool hget
    obtain ⟨hold, hnot⟩ := (get_unregister_of_clean hwf hclean key tool).mp hget
    exact ⟨hold, fun key' hget' => (get_unregister_of_clean hwf hclean key' tool).mpr ⟨hget', hnot⟩⟩
  constructor <;> intro key tool hget <;> obtain ⟨hold, hkept⟩ := hleft key tool hget
  · exact hwf.keys key tool hold
  · exact hkept _ (hwf.primary key tool hold)
  · exact hkept _ (hwf.aliased key tool hold)

theorem revoked_of_clean (hwf : r.WellFormed) (hclean : r.Clean name version) :
    Revoked r (r.unregister name version) name := by
  have hpost := get_unregister_of_clean hwf hclean
  have hgone : ∀ tool, r.RegisteredAs name tool → ∀ key,
      (r.unregister name version).tools.get key ≠ some tool := by
    intro tool htool key hget
    exact ((hpost key tool).mp hget).2 htool
  have hsame : ∀ key, (∀ tool, r.tools.get key = some tool → ¬ r.RegisteredAs name tool) →
      (r.unregister name version).tools.get key = r.tools.get key := by
    intro key hnot
    cases hpre : r.tools.get key with
    | some tool => exact (hpost key tool).mpr ⟨hpre, hnot tool hpre⟩
    | none =>
        rw [Option.eq_none_iff_forall_ne_some]
        intro tool hget
        have hget' := ((hpost key tool).mp hget).1
        rw [hpre] at hget'
        cases hget'
  constructor
  · intro tool htool n v
    have hget : (r.unregister name version).get n v ≠ some tool := by
      intro hget
      obtain ⟨key, hkey⟩ := exists_key_of_get hget
      exact hgone tool htool key hkey
    exact ⟨hget, fun hresolve => hget (get_of_resolve hresolve)⟩
  · intro tool htool
    have hfree : ∀ key, r.tools.get key = some tool →
        (r.unregister name version).tools.get key = none := by
      intro key hkey
      rw [Option.eq_none_iff_forall_ne_some]
      intro other hget
      obtain ⟨hother, hnot⟩ := (hpost key other).mp hget
      rw [hkey] at hother
      exact hnot (Option.some.inj hother ▸ htool)
    have hname : r.tools.get tool.name = some tool := hwf.primary name tool htool.1
    have halias : r.tools.get tool.aliasKey = some tool := hwf.aliased name tool htool.1
    exact ⟨_, register_eq_ok_iff.mpr ⟨hfree _ halias, hfree _ hname, rfl⟩⟩
  · intro n v hnot
    have hget : (r.unregister name version).get n v = r.get n v := by
      rw [get_eq] at hnot
      rw [get_eq, get_eq]
      cases hversion : givenVersion v with
      | none =>
          rw [hversion] at hnot
          exact hsame n hnot
      | some w =>
          rw [hversion] at hnot
          have halias : (r.unregister name version).tools.get (aliasKey n w)
              = r.tools.get (aliasKey n w) := by
            refine hsame _ fun tool htool => hnot tool ?_
            rw [Option.bind_some, htool, Option.some_or]
          rw [Option.bind_some] at hnot ⊢
          rw [Option.bind_some, halias]
          cases hkey : r.tools.get (aliasKey n w) with
          | some tool => rfl
          | none =>
              rw [hkey] at hnot
              exact hsame n hnot
    exact ⟨hget, resolve_congr hget⟩

theorem clean_of_revoked (hwf : r.WellFormed)
    (hrevoked : Revoked r (r.unregister name version) name) : r.Clean name version := by
  by_cases hregistered : ∃ tool, r.RegisteredAs name tool
  · obtain ⟨tool, htool⟩ := hregistered
    refine .inl ⟨tool, htool, ?_⟩
    by_contra hversion
    -- the alias of the tool is not one of the keys that the call takes
    have hstays : (r.unregister name version).tools.get tool.aliasKey = some tool := by
      rw [get_unregister, if_neg, hwf.aliased name tool htool.1]
      rintro (hkey | ⟨v, hv, hkey⟩)
      · rw [← htool.2] at hkey
        exact aliasKey_ne _ _ hkey
      · obtain ⟨rfl, hne⟩ := givenVersion_eq_some_iff.mp hv
        rw [← htool.2] at hkey
        obtain rfl := aliasKey_inj hkey
        exact hversion ⟨hne, rfl⟩
    exact (hrevoked.gone tool htool tool.aliasKey none).1 hstays
  · rw [not_exists] at hregistered
    have hfree : ∀ key, (key = name ∨ ∃ v, givenVersion version = some v ∧ key = aliasKey name v) →
        r.tools.get key = none := by
      intro key hkey
      have hsame := (hrevoked.others key none fun tool _ => hregistered tool).1
      rw [get_none, get_none, get_unregister, if_pos hkey] at hsame
      exact hsame.symm
    exact .inr ⟨hregistered, hfree name (.inl rfl), fun v hv => hfree _ (.inr ⟨v, hv, rfl⟩)⟩

end

end ToolRegistry

/-! ## Runs -/

inductive RegistryCall where
  | register (tool : Tool)
  | unregister (toolName : String) (version : Option String)

namespace ToolRegistry

/-- A call that raises leaves the registry as it was. -/
def step (r : ToolRegistry) : RegistryCall → Except PyError Unit × ToolRegistry
  | .register tool =>
      match r.register tool with
      | .ok r' => (.ok (), r')
      | .error err => (.error err, r)
  | .unregister toolName version => (.ok (), r.unregister toolName version)

abbrev CallStep : Type := Runs.Step ToolRegistry RegistryCall (Except PyError Unit)

/-- A call of `unregister` revokes the name. -/
def Revokes (c : CallStep) : Prop :=
  ∀ name version, c.act = .unregister name version → Revoked c.pre c.post name

def Cleans (c : CallStep) : Prop :=
  ∀ name version, c.act = .unregister name version → c.pre.Clean name version

theorem revokes_stepAt_iff {r : ToolRegistry} (hwf : r.WellFormed) (call : RegistryCall) :
    Revokes (Runs.stepAt step r call) ↔ Cleans (Runs.stepAt step r call) := by
  cases call with
  | register tool =>
      refine iff_of_true ?_ ?_ <;> intro name version h <;> cases h
  | unregister name version =>
      constructor
      · rintro h _ _ ⟨⟩
        exact clean_of_revoked hwf (h name version rfl)
      · rintro h _ _ ⟨⟩
        exact revoked_of_clean hwf (h name version rfl)

theorem wellFormed_step {r : ToolRegistry} (hwf : r.WellFormed) (call : RegistryCall)
    (hclean : Cleans (Runs.stepAt step r call)) : (step r call).2.WellFormed := by
  cases call with
  | register tool =>
      rw [step]
      cases hregister : r.register tool with
      | error err => exact hwf
      | ok r' => exact wellFormed_register hwf hregister
  | unregister name version => exact wellFormed_unregister hwf (hclean name version rfl)

/-- **A run of calls revokes what it unregisters** exactly when each call is clean
    where it is made. -/
theorem revokes_iff (calls : List RegistryCall) :
    (∀ c ∈ Runs.steps step init calls, Revokes c) ↔ ∀ c ∈ Runs.steps step init calls, Cleans c :=
  Runs.forall_steps_iff (fun _ call hwf => revokes_stepAt_iff hwf call)
    (fun _ call hwf hclean => wellFormed_step hwf call hclean) wellFormed_init calls

end ToolRegistry

/-! A tool is unregistered by its name. -/

namespace SampleTools

def search : Tool where
  object := 1
  definition := {
    name := "search"
    version := "1.0.0"
    capabilities := [.catalogRead]
    isBlockedByDefault := false
    maxInputBytes := 65536
    maxOutputBytes := 262144
    maxInvocations := 5
    timeoutSeconds := .finite 5
    enabled := true }
  defined := by decide +kernel

def calls : List RegistryCall := [.register search, .unregister "search" none]

end SampleTools

open SampleTools ToolRegistry in
/-- The tool is still found by its alias, and cannot be registered again. -/
theorem alias_left :
    ¬ (∀ c ∈ Runs.steps step init calls, Revokes c)
    ∧ (Runs.exec step init calls).get "search" (some "1.0.0") = some search
    ∧ (Runs.exec step init calls).resolve "search" (some "1.0.0") = .ok search
    ∧ (Runs.exec step init calls).register search
      = .error (.valueError "Tool 'search' version '1.0.0' is already registered.") := by
  have hfound : (Runs.exec step init calls).get "search" (some "1.0.0") = some search := by
    decide +kernel
  refine ⟨fun h => ?_, hfound, by decide +kernel, by rfl⟩
  have hlast := h _ (List.mem_cons_of_mem _ List.mem_cons_self) "search" none rfl
  exact (hlast.gone search ⟨by decide +kernel, rfl⟩ "search" (some "1.0.0")).1 hfound

end MandateGateway
