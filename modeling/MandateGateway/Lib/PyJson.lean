import MandateGateway.Lib.JsonKeys

/-! # The values that a JSON serializer accepts

    Lists and tuples, dictionaries with keys of several types, and objects that
    only a fallback turns into text.  Keys are sorted as the values that they
    are and written as texts; what is read back has texts as keys.  The text
    survives reading and writing exactly where the two orders agree. -/

/-- A key of a dictionary that is written as JSON; a float that is no number
    has no place in an order. -/
inductive PyKey where
  | none
  | bool (b : Bool)
  | int (i : Int)
  | float (x : Json.FloatText) (hnumber : x.text ≠ "NaN")
  | str (s : String)
deriving DecidableEq

/-- A value that is written as JSON; `other` is an object by its `str()`. -/
inductive PyJson where
  | none
  | bool (b : Bool)
  | num (x : Json.Number)
  | str (s : String)
  | list (xs : List PyJson)
  | tuple (xs : List PyJson)
  | dict (items : List (PyKey × PyJson))
  | other (text : String)

namespace PyKey

open Json

def text : PyKey → String
  | .none => "null"
  | .bool b => if b then "true" else "false"
  | .int i => toString i
  | .float x _ => x.text
  | .str s => s

/-- Where a float stands among the numbers: the infinities are at the ends. -/
def floatRank (x : FloatText) : Int × Rat :=
  if x.text = "Infinity" then (1, 0)
  else if x.text = "-Infinity" then (-1, 0)
  else match scanNumber x.text.toList with
  | some (.float (.finite q), _) => (0, q)
  | _ => (0, 0)

/-- Where a key stands among the numbers, if it is one. -/
def rank : PyKey → Option (Int × Rat)
  | .bool b => some (0, if b then 1 else 0)
  | .int i => some (0, i)
  | .float x _ => some (floatRank x)
  | _ => Option.none

/-- `a <= b`, and `none` where comparing the two raises. -/
def le? (a b : PyKey) : Option Bool :=
  match a, b with
  | .str s, .str t => some (decide (s ≤ t))
  | a, b =>
      match a.rank, b.rank with
      | some (i, q), some (j, r) => some (decide (i < j ∨ i = j ∧ q ≤ r))
      | _, _ => Option.none

end PyKey

namespace PyJson

open Json Json.Tree

section
variable {α : Type}

/-- Items are compared by their keys. -/
def ItemLe (m n : PyKey × α) : Prop := m.1.le? n.1 = some true

instance : DecidableRel (ItemLe (α := α)) :=
  fun m n => inferInstanceAs (Decidable (m.1.le? n.1 = some true))

/-- `sorted(d.items())`, which raises where two keys cannot be compared. -/
def sortItems (items : List (PyKey × α)) : Option (List (PyKey × α)) :=
  if items.Pairwise fun m n => (m.1.le? n.1).isSome = true then
    some (items.insertionSort ItemLe)
  else Option.none

/-- A member under the text of its key. -/
def keyed (item : PyKey × α) : String × α := (item.1.text, item.2)

end

mutual

/-- What `json.dumps(value, sort_keys=True)` writes, unless it raises; with
    `default=str` it knows every object. -/
def written (defaultStr : Bool) : PyJson → Option Tree
  | .none => some .null
  | .bool b => some (.bool b)
  | .num x => some (.num x)
  | .str s => some (.str s)
  | .list xs => (writtenElems defaultStr xs).map .arr
  | .tuple xs => (writtenElems defaultStr xs).map .arr
  | .dict items =>
      ((writtenItems defaultStr items).bind sortItems).map fun items =>
        .obj (items.map keyed)
  | .other text => if defaultStr then some (.str text) else Option.none

def writtenElems (defaultStr : Bool) : List PyJson → Option (List Tree)
  | [] => some []
  | x :: xs =>
      (written defaultStr x).bind fun t =>
        (writtenElems defaultStr xs).map fun ts => t :: ts

def writtenItems (defaultStr : Bool) : List (PyKey × PyJson) → Option (List (PyKey × Tree))
  | [] => some []
  | (k, v) :: items =>
      (written defaultStr v).bind fun t =>
        (writtenItems defaultStr items).map fun ts => (k, t) :: ts

end

mutual

/-- A tree as a value: its objects are dictionaries with texts as keys. -/
def ofTree : Tree → PyJson
  | .null => .none
  | .bool b => .bool b
  | .num x => .num x
  | .str s => .str s
  | .arr xs => .list (ofElems xs)
  | .obj ms => .dict (ofMembers ms)

def ofElems : List Tree → List PyJson
  | [] => []
  | x :: xs => ofTree x :: ofElems xs

def ofMembers : List (String × Tree) → List (PyKey × PyJson)
  | [] => []
  | (k, v) :: ms => (.str k, ofTree v) :: ofMembers ms

end

/-- `json.dumps(value, sort_keys=True, separators=(",", ":"))`. -/
def dumps (v : PyJson) : Option String := (written false v).map Tree.text

/-- `json.loads(text)`. -/
def loads (text : String) : Option PyJson := (decodeTree text).map fun t => ofTree t.merged

/-! ## Trees as values -/

theorem le?_str (s t : String) : PyKey.le? (.str s) (.str t) = some (decide (s ≤ t)) := rfl

theorem sortItems_str (ms : List (String × Tree)) :
    sortItems (ms.map fun m => (PyKey.str m.1, m.2))
      = some ((sortMembers ms).map fun m => (PyKey.str m.1, m.2)) := by
  have hcomparable : (ms.map fun m => (PyKey.str m.1, m.2)).Pairwise
      fun m n => (m.1.le? n.1).isSome = true := by
    rw [List.pairwise_map]
    exact List.pairwise_of_forall fun _ _ => rfl
  have hle : ∀ m ∈ ms, ∀ n ∈ ms,
      KeyLe m n ↔ ItemLe (PyKey.str m.1, m.2) (PyKey.str n.1, n.2) := by
    intro m _ n _
    show m.1 ≤ n.1 ↔ PyKey.le? (.str m.1) (.str n.1) = some true
    rw [le?_str, Option.some.injEq, decide_eq_true_eq]
  rw [sortItems, if_pos hcomparable, sortMembers,
    List.map_insertionSort KeyLe ItemLe (fun m => (PyKey.str m.1, m.2)) ms hle]

theorem writtenElems_ofElems (defaultStr : Bool) {xs : List Tree}
    (h : ∀ x ∈ xs, written defaultStr (ofTree x) = some x.sortKeys) :
    writtenElems defaultStr (ofElems xs) = some (sortElems xs) := by
  induction xs with
  | nil => rfl
  | cons x xs ih =>
      obtain ⟨hx, hxs⟩ := List.forall_mem_cons.mp h
      rw [ofElems, writtenElems, hx, ih hxs]
      rfl

theorem writtenItems_ofMembers (defaultStr : Bool) {ms : List (String × Tree)}
    (h : ∀ m ∈ ms, written defaultStr (ofTree m.2) = some m.2.sortKeys) :
    writtenItems defaultStr (ofMembers ms)
      = some ((sortValues ms).map fun m => (PyKey.str m.1, m.2)) := by
  induction ms with
  | nil => rfl
  | cons m ms ih =>
      obtain ⟨hm, hms⟩ := List.forall_mem_cons.mp h
      rw [ofMembers, writtenItems, hm, ih hms]
      rfl

/-- **What is written for a tree is the tree with its keys sorted.** -/
theorem written_ofTree (defaultStr : Bool) (t : Tree) :
    written defaultStr (ofTree t) = some t.sortKeys := by
  induction t using induct with
  | null => rfl
  | bool b => rfl
  | num x => rfl
  | str s => rfl
  | arr xs ih =>
      rw [ofTree, written, writtenElems_ofElems defaultStr ih]
      rfl
  | obj ms ih =>
      have hkeyed : (keyed ∘ fun m : String × Tree => (PyKey.str m.1, m.2)) = id := rfl
      rw [ofTree, written, writtenItems_ofMembers defaultStr ih, Option.bind_some, sortItems_str,
        Option.map_some, List.map_map, hkeyed, List.map_id]
      rfl

theorem written_str (defaultStr : Bool) (s : String) :
    written defaultStr (.str s) = some (.str s) := rfl

theorem written_dict_of_none {defaultStr : Bool} {items : List (PyKey × PyJson)}
    (h : writtenItems defaultStr items = Option.none) :
    written defaultStr (.dict items) = Option.none := by
  rw [written, h]
  rfl

theorem written_dict_of_sorted {defaultStr : Bool} {items : List (PyKey × PyJson)}
    {ms : List (String × Tree)}
    (h : writtenItems defaultStr items = some (ms.map fun m => (PyKey.str m.1, m.2)))
    (hsorted : (keys ms).Pairwise (· < ·)) :
    written defaultStr (.dict items) = some (.obj ms) := by
  have hkeyed : (keyed ∘ fun m : String × Tree => (PyKey.str m.1, m.2)) = id := rfl
  rw [written, h, Option.bind_some, sortItems_str, sortMembers_of_sorted hsorted, Option.map_some,
    List.map_map, hkeyed, List.map_id]

mutual

theorem written_default : ∀ (v : PyJson) {t : Tree}, written false v = some t →
    written true v = some t
  | .none, _, h => h
  | .bool _, _, h => h
  | .num _, _, h => h
  | .str _, _, h => h
  | .list xs, t, h => by
      rw [written, Option.map_eq_some_iff] at h
      obtain ⟨ts, hts, rfl⟩ := h
      rw [written, writtenElems_default xs hts]
      rfl
  | .tuple xs, t, h => by
      rw [written, Option.map_eq_some_iff] at h
      obtain ⟨ts, hts, rfl⟩ := h
      rw [written, writtenElems_default xs hts]
      rfl
  | .dict items, t, h => by
      rw [written, Option.map_eq_some_iff] at h
      obtain ⟨sorted, hsorted, rfl⟩ := h
      obtain ⟨ts, hts, hsort⟩ := Option.bind_eq_some_iff.mp hsorted
      rw [written, writtenItems_default items hts, Option.bind_some, hsort]
      rfl
  | .other text, _, h => by
      rw [written, if_neg Bool.false_ne_true] at h
      cases h

theorem writtenElems_default : ∀ (xs : List PyJson) {ts : List Tree},
    writtenElems false xs = some ts → writtenElems true xs = some ts
  | [], _, h => h
  | x :: xs, ts, h => by
      rw [writtenElems] at h
      obtain ⟨t, ht, hrest⟩ := Option.bind_eq_some_iff.mp h
      obtain ⟨ts', hts', rfl⟩ := Option.map_eq_some_iff.mp hrest
      rw [writtenElems, written_default x ht, Option.bind_some, writtenElems_default xs hts']
      rfl

theorem writtenItems_default : ∀ (items : List (PyKey × PyJson)) {ts : List (PyKey × Tree)},
    writtenItems false items = some ts → writtenItems true items = some ts
  | [], _, h => h
  | (k, v) :: items, ts, h => by
      rw [writtenItems] at h
      obtain ⟨t, ht, hrest⟩ := Option.bind_eq_some_iff.mp h
      obtain ⟨ts', hts', rfl⟩ := Option.map_eq_some_iff.mp hrest
      rw [writtenItems, written_default v ht, Option.bind_some, writtenItems_default items hts']
      rfl

end

/-- A written tree is read as the dictionaries of its objects. -/
theorem loads_text (t : Tree) : loads t.text = some (ofTree t.merged) := by
  rw [loads, decodeTree_text]
  rfl

/-- **A text that is written, read and written again is the one that is written
    for the dictionaries that were read.** -/
theorem written_merged (defaultStr : Bool) (t : Tree) :
    written defaultStr (ofTree t.merged) = some t.rewritten :=
  written_ofTree defaultStr t.merged

end PyJson
