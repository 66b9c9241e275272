import MandateGateway.Lib.JsonTree
import MandateGateway.Lib.OrderedMap
import MandateGateway.Lib.Text

/-! # Redaction

    What a tree has under a sensitive key is replaced as a whole, and a text with
    the mark of a secret in it is replaced wherever it stands.

    A position of a tree is a path of keys and indices.  Outside of the sensitive
    keys a position of the result is the redaction of the same position of the
    tree (`at_redact`), and all else follows from this.

    * `redactionLaw`: what is kept, what is hidden, and that nothing is left to
      redact. -/

namespace MandateGateway

open Json

/-- `SENSITIVE_KEY_PATTERN`. -/
def sensitiveWords : List String := [
  "secret", "password", "private_key", "token", "bearer", "api_key", "razorpay_secret",
  "key_secret", "auth_header", "cred"]

/-- The letter of the pattern that a character matches when case is ignored. -/
def ignoreCase (c : Char) : Char :=
  if c.toNat = 0x17F then 's'
  else if c.toNat = 0x212A then 'k'
  else if c.toNat = 0x130 ∨ c.toNat = 0x131 then 'i'
  else c.toLower

/-- `SENSITIVE_KEY_PATTERN.search(str(k))`. -/
def isSensitive (key : String) : Bool :=
  sensitiveWords.any fun word => Text.occursIn word (String.ofList (key.toList.map ignoreCase))

example : isSensitive "X-Api_Key" = true ∧ isSensitive "merchant_id" = false := by decide

def secretMarks : List String := ["sk_live_", "sk_test_", "eyJ"]

def hasSecretMark (s : String) : Bool := secretMarks.any fun mark => Text.occursIn mark s

namespace SecurityHardeningEngine

def redactedKey : Tree := .str "[REDACTED]"

def redactedText : Tree := .str "[REDACTED_SECRET_TOKEN]"

mutual

/-- `redact_sensitive_data`. -/
def redact : Tree → Tree
  | .null => .null
  | .bool b => .bool b
  | .num x => .num x
  | .str s => if hasSecretMark s then redactedText else .str s
  | .arr xs => .arr (redactElems xs)
  | .obj members => .obj (redactMembers members)

def redactElems : List Tree → List Tree
  | [] => []
  | x :: xs => redact x :: redactElems xs

def redactMembers : List (String × Tree) → List (String × Tree)
  | [] => []
  | (k, v) :: ms => (k, if isSensitive k then redactedKey else redact v) :: redactMembers ms

end

def redactMember (key : String) (value : Tree) : Tree :=
  if isSensitive key then redactedKey else redact value

theorem redactElems_eq_map (xs : List Tree) : redactElems xs = xs.map redact := by
  induction xs with
  | nil => rfl
  | cons x xs ih => rw [redactElems, ih, List.map_cons]

theorem redactMembers_eq_map (ms : List (String × Tree)) :
    redactMembers ms = ms.map fun m => (m.1, redactMember m.1 m.2) := by
  induction ms with
  | nil => rfl
  | cons m ms ih =>
      obtain ⟨k, v⟩ := m
      rw [redactMembers, ih, List.map_cons]
      rfl

theorem redact_arr (xs : List Tree) : redact (.arr xs) = .arr (xs.map redact) := by
  rw [redact, redactElems_eq_map]

theorem redact_obj (ms : List (String × Tree)) :
    redact (.obj ms) = .obj (ms.map fun m => (m.1, redactMember m.1 m.2)) := by
  rw [redact, redactMembers_eq_map]

theorem redact_str (s : String) :
    redact (.str s) = if hasSecretMark s then redactedText else .str s := by rw [redact]

/-! ## Positions -/

/-- A step into a tree. -/
inductive PathStep where
  | key (k : String)
  | index (i : Nat)

/-- The member of a key, or the item of an index. -/
def child : PathStep → Tree → Option Tree
  | .key k, .obj ms => OrderedMap.lookupEntries k ms
  | .index i, .arr xs => xs[i]?
  | _, _ => none

def part : List PathStep → Tree → Option Tree
  | [], t => some t
  | step :: path, t => (child step t).bind (part path)

def PathStep.Sensitive (step : PathStep) : Prop := ∃ k, step = .key k ∧ isSensitive k = true

/-- The position is under a sensitive key. -/
def Covered (path : List PathStep) : Prop := ∃ step ∈ path, step.Sensitive

variable {path : List PathStep} {step : PathStep} {t w : Tree}

theorem covered_cons : Covered (step :: path) ↔ step.Sensitive ∨ Covered path := by
  simp only [Covered, List.mem_cons, exists_eq_or_imp]

theorem lookupEntries_redact (k : String) (ms : List (String × Tree)) :
    OrderedMap.lookupEntries k (ms.map fun m => (m.1, redactMember m.1 m.2))
      = (OrderedMap.lookupEntries k ms).map (redactMember k) := by
  induction ms with
  | nil => rfl
  | cons m ms ih =>
      rw [List.map_cons, OrderedMap.lookupEntries, OrderedMap.lookupEntries]
      by_cases hk : m.1 = k
      · rw [if_pos hk, if_pos hk, hk, Option.map_some]
      · rw [if_neg hk, if_neg hk, ih]

def redactChild : PathStep → Tree → Tree
  | .key k, v => redactMember k v
  | .index _, x => redact x

theorem redactChild_of_sensitive (h : step.Sensitive) : redactChild step t = redactedKey := by
  obtain ⟨k, rfl, hk⟩ := h
  exact if_pos hk

theorem redactChild_of_not_sensitive (h : ¬ step.Sensitive) : redactChild step t = redact t := by
  cases step with
  | key k => exact if_neg fun hk => h ⟨k, rfl, hk⟩
  | index i => rfl

theorem child_str (step : PathStep) (s : String) : child step (.str s) = none := by
  cases step <;> rfl

/-- **The children of the result** are those of the tree, redacted. -/
theorem child_redact (step : PathStep) (t : Tree) :
    child step (redact t) = (child step t).map (redactChild step) := by
  cases t with
  | str s =>
      rw [redact_str, child_str]
      split <;> exact child_str step _
  | arr xs =>
      rw [redact_arr]
      cases step with
      | key k => rfl
      | index i => exact List.getElem?_map
  | obj ms =>
      rw [redact_obj]
      cases step with
      | key k => exact lookupEntries_redact k ms
      | index i => rfl
  | _ => cases step <;> rfl

/-- **Outside of the sensitive keys** a part of the result is the redaction of the
    part of the tree. -/
theorem part_redact (h : ¬ Covered path) (t : Tree) :
    part path (redact t) = (part path t).map redact := by
  induction path generalizing t with
  | nil => rfl
  | cons step path ih =>
      rw [covered_cons, not_or] at h
      rw [part, part, child_redact, Option.bind_map, Option.map_bind]
      refine Option.bind_congr fun x _ => ?_
      rw [Function.comp_apply, redactChild_of_not_sensitive h.1]
      exact ih h.2 x

/-- **Under a sensitive key** there is nothing of the tree. -/
theorem part_redact_of_covered (h : Covered path) (hpart : part path (redact t) = some w) :
    w = redactedKey := by
  induction path generalizing t with
  | nil =>
      obtain ⟨step, hmem, -⟩ := h
      cases hmem
  | cons step path ih =>
      rw [part, child_redact, Option.bind_map, Option.bind_eq_some_iff] at hpart
      obtain ⟨x, -, hx⟩ := hpart
      rw [Function.comp_apply] at hx
      by_cases hstep : step.Sensitive
      · rw [redactChild_of_sensitive hstep] at hx
        -- the replacement is a text, and has no parts
        cases path with
        | nil => exact (Option.some.inj hx).symm
        | cons next path =>
            rw [part, redactedKey, child_str] at hx
            cases hx
      · rw [redactChild_of_not_sensitive hstep] at hx
        exact ih ((covered_cons.mp h).resolve_left hstep) hx

theorem not_marked_of_redact {s : String} (h : redact t = .str s) : hasSecretMark s = false := by
  cases t with
  | str s' =>
      rw [redact_str] at h
      by_cases hmark : hasSecretMark s' = true
      · rw [if_pos hmark] at h
        rw [← Tree.str.inj h]
        decide
      · rw [if_neg hmark] at h
        rw [← Tree.str.inj h]
        exact (Bool.not_eq_true _).mp hmark
  | arr xs =>
      rw [redact_arr] at h
      cases h
  | obj ms =>
      rw [redact_obj] at h
      cases h
  | _ => cases h

theorem redact_str_of_not_marked {s : String} (h : hasSecretMark s = false) :
    redact (.str s) = .str s := by
  rw [redact_str, if_neg (Bool.eq_false_iff.mp h)]

/-- **Nothing is left to redact.** -/
theorem redact_redact (t : Tree) : redact (redact t) = redact t := by
  induction t using Tree.induct with
  | null => rfl
  | bool b => rfl
  | num x => rfl
  | str s =>
      by_cases hmark : hasSecretMark s = true
      · rw [redact_str, if_pos hmark]
        exact redact_str_of_not_marked (by decide)
      · have hleft := redact_str_of_not_marked ((Bool.not_eq_true _).mp hmark)
        rw [hleft, hleft]
  | arr xs ih =>
      rw [redact_arr, redact_arr, List.map_map]
      exact congrArg Tree.arr (List.map_congr_left ih)
  | obj ms ih =>
      rw [redact_obj, redact_obj, List.map_map]
      refine congrArg Tree.obj (List.map_congr_left fun m hm => ?_)
      by_cases hk : isSensitive m.1 = true
      · simp only [Function.comp_apply, redactMember, if_pos hk]
      · simp only [Function.comp_apply, redactMember, if_neg hk, ih m hm]

/-! ## The law -/

/-- The tree is no list and no dictionary. -/
def Leaf (t : Tree) : Prop := (∀ ms, t ≠ .obj ms) ∧ ∀ xs, t ≠ .arr xs

/-- What is kept and what is hidden: outside of the sensitive keys there are the
    same positions, dictionaries with the same keys and lists of the same length;
    under a sensitive key there is the replacement only, and no text has the mark of
    a secret; every other leaf is unchanged; and a second redaction changes nothing. -/
structure RedactionLaw (t : Tree) : Prop where
  positions  : ∀ path, ¬ Covered path → ((part path (redact t)).isSome ↔ (part path t).isSome)
  keys       : ∀ path ms, ¬ Covered path → part path t = some (.obj ms) →
    ∃ ms', part path (redact t) = some (.obj ms') ∧ ms'.map Prod.fst = ms.map Prod.fst
  lengths    : ∀ path xs, ¬ Covered path → part path t = some (.arr xs) →
    ∃ xs', part path (redact t) = some (.arr xs') ∧ xs'.length = xs.length
  hidden     : ∀ path w, Covered path → part path (redact t) = some w → w = redactedKey
  unmarked   : ∀ path s, part path (redact t) = some (.str s) → hasSecretMark s = false
  unchanged  : ∀ path w, ¬ Covered path → part path t = some w → Leaf w →
    (∀ s, w = .str s → hasSecretMark s = false) → part path (redact t) = some w
  idempotent : redact (redact t) = redact t

theorem redact_of_leaf (hleaf : Leaf t) (hmark : ∀ s, t = .str s → hasSecretMark s = false) :
    redact t = t := by
  cases t with
  | str s => exact redact_str_of_not_marked (hmark s rfl)
  | arr xs => exact absurd rfl (hleaf.2 xs)
  | obj ms => exact absurd rfl (hleaf.1 ms)
  | _ => rfl

/-- **The redaction of every tree follows the law.** -/
theorem redactionLaw (t : Tree) : RedactionLaw t := by
  constructor
  · intro path h
    rw [part_redact h, Option.isSome_map]
  · intro path ms h hpart
    refine ⟨ms.map fun m => (m.1, redactMember m.1 m.2), ?_, ?_⟩
    · rw [part_redact h, hpart, Option.map_some, redact_obj]
    · rw [List.map_map]
      rfl
  · intro path xs h hpart
    refine ⟨xs.map redact, ?_, List.length_map _⟩
    rw [part_redact h, hpart, Option.map_some, redact_arr]
  · exact fun path w => part_redact_of_covered
  · intro path s hpart
    by_cases h : Covered path
    · rw [Tree.str.inj (part_redact_of_covered h hpart)]
      decide
    · rw [part_redact h, Option.map_eq_some_iff] at hpart
      obtain ⟨w, -, hw⟩ := hpart
      exact not_marked_of_redact hw
  · intro path w h hpart hleaf hmark
    rw [part_redact h, hpart, Option.map_some, redact_of_leaf hleaf hmark]
  · exact redact_redact t

end SecurityHardeningEngine

end MandateGateway
