import MandateGateway.Lib.Text
import MandateGateway.Lib.UnicodeCase
import Mathlib.Data.List.DropRight

/-! # Texts that may hold half a surrogate pair

    A text of the programming language is a list of code points, and a surrogate
    can stand in it alone: such a text can be trimmed, put in lower case and
    counted, but it has no encoding.  The operations are those on Unicode strings,
    and leave a surrogate as it is; the texts that have an encoding are the Unicode
    strings (`scalars?_eq_some_iff`). -/

/-- A code point: a character, or half of a surrogate pair. -/
inductive CodePoint where
  | char (c : Char)
  | surrogate (unit : Fin 2048)
deriving DecidableEq

abbrev WideText := List CodePoint

namespace WideText

def ofString (text : String) : WideText := text.toList.map .char

/-- The characters, if no surrogate stands alone. -/
def chars? : WideText → Option (List Char)
  | [] => some []
  | .char c :: rest => (chars? rest).map (c :: ·)
  | .surrogate _ :: _ => none

/-- The Unicode string that the text is, if it is one: what can be encoded. -/
def scalars? (s : WideText) : Option String := (chars? s).map String.ofList

def isSpace : CodePoint → Bool
  | .char c => Text.isSpace c
  | .surrogate _ => false

/-- `s.strip()`. -/
def strip (s : WideText) : WideText := (s.dropWhile isSpace).rdropWhile isSpace

/-- Lower-casing of the second text, which follows the reversed characters; a
    surrogate has no case, and ends what is looked at for a final sigma. -/
def lowerFrom : List Char → WideText → WideText
  | run, [] => (Text.lowerChars [] run.reverse).map .char
  | run, .char c :: rest => lowerFrom (c :: run) rest
  | run, .surrogate unit :: rest =>
      (Text.lowerChars [] run.reverse).map .char ++ .surrogate unit :: lowerFrom [] rest

/-- `s.lower()`. -/
def lower (s : WideText) : WideText := lowerFrom [] s

/-- `s.upper()`, as far as comparisons with ASCII words tell. -/
def upperAscii (s : WideText) : WideText :=
  s.flatMap fun
    | .char c => (Text.upperAsciiChar c).map .char
    | .surrogate unit => [.surrogate unit]

def surrogateEscape (unit : Fin 2048) : WideText :=
  let n := 0xD800 + unit.val
  [Char.ofNat 92, 'u', Nat.digitChar (n / 4096), Nat.digitChar (n / 256 % 16),
    Nat.digitChar (n / 16 % 16), Nat.digitChar (n % 16)].map .char

/-- `repr(s)`, as `Text.quoted` has it for strings. -/
def quoted (s : WideText) : WideText :=
  let single := Char.ofNat 39
  let double := Char.ofNat 34
  let quote := if s.contains (.char single) && !s.contains (.char double) then double else single
  .char quote :: s.flatMap (fun
    | .char c => (Text.quoteChar quote c).map .char
    | .surrogate unit => surrogateEscape unit) ++ [.char quote]

/-- `c.isdigit()`. -/
def isDigit : CodePoint → Bool
  | .char c => UnicodeDigits.isDigit c
  | .surrogate _ => false

/-- `s.isdigit()`. -/
def isDigits (s : WideText) : Bool := !s.isEmpty && s.all isDigit

def decimalValue : CodePoint → Option Nat
  | .char c => UnicodeDigits.decimalValue c
  | .surrogate _ => none

/-- The number that decimal digits write. -/
def decimal? (s : WideText) : Option Nat :=
  s.foldl (fun sum p => sum.bind fun n => (decimalValue p).map (10 * n + ·)) (some 0)

/-! ## Strings as texts -/

theorem chars?_map (cs : List Char) : chars? (cs.map .char) = some cs := by
  induction cs with
  | nil => rfl
  | cons c cs ih =>
      rw [List.map_cons, chars?, ih]
      rfl

theorem chars?_eq_some_iff {s : WideText} {cs : List Char} :
    chars? s = some cs ↔ s = cs.map .char := by
  constructor
  · intro h
    induction s generalizing cs with
    | nil =>
        obtain rfl := Option.some.inj h
        rfl
    | cons p rest ih =>
        cases p with
        | char c =>
            obtain ⟨cs', hcs', rfl⟩ := Option.map_eq_some_iff.mp h
            rw [ih hcs', List.map_cons]
        | surrogate unit => cases h
  · rintro rfl
    exact chars?_map cs

/-- **The texts that can be encoded** are the Unicode strings. -/
theorem scalars?_eq_some_iff {s : WideText} {text : String} :
    scalars? s = some text ↔ s = ofString text := by
  rw [scalars?, Option.map_eq_some_iff, ofString]
  constructor
  · rintro ⟨cs, hcs, rfl⟩
    rw [String.toList_ofList]
    exact chars?_eq_some_iff.mp hcs
  · intro h
    exact ⟨text.toList, chars?_eq_some_iff.mpr h, String.ofList_toList⟩

theorem ofString_injective : Function.Injective ofString := by
  intro a b h
  exact Option.some.inj ((scalars?_eq_some_iff.mpr rfl).symm.trans (scalars?_eq_some_iff.mpr h))

theorem length_ofString (text : String) : (ofString text).length = text.length := by
  rw [ofString, List.length_map, String.length_toList]

/-! ## Lower case -/

theorem lowerFrom_ne_nil {run : List Char} {s : WideText} (h : run ≠ [] ∨ s ≠ []) :
    lowerFrom run s ≠ [] := by
  induction s generalizing run with
  | nil =>
      have hrun : run.reverse ≠ [] := by
        rw [Ne, List.reverse_eq_nil_iff]
        exact h.resolve_right fun hne => hne rfl
      rw [lowerFrom, Ne, List.map_eq_nil_iff]
      exact Text.lowerChars_ne_nil hrun []
  | cons p rest ih =>
      cases p with
      | char c => exact ih (.inl (List.cons_ne_nil c run))
      | surrogate unit =>
          rw [lowerFrom]
          exact List.append_ne_nil_of_right_ne_nil _ (List.cons_ne_nil _ _)

theorem lower_ne_nil {s : WideText} (h : s ≠ []) : lower s ≠ [] := lowerFrom_ne_nil (.inr h)

theorem lowerFrom_map_char (run l : List Char) :
    lowerFrom run (l.map .char) = (Text.lowerChars [] (run.reverse ++ l)).map .char := by
  induction l generalizing run with
  | nil => rw [List.map_nil, lowerFrom, List.append_nil]
  | cons c l ih =>
      rw [List.map_cons, lowerFrom, ih, List.reverse_cons, List.append_assoc]
      rfl

theorem lower_of_ascii {l : List Char} (h : ∀ c ∈ l, c.toNat < 128) :
    lower (l.map .char) = (l.map Char.toLower).map .char := by
  rw [lower, lowerFrom_map_char, List.reverse_nil, List.nil_append, Text.lowerChars_of_ascii h]

/-! ## Trimming -/

/-- **Trimming twice is trimming once.** -/
theorem strip_strip (s : WideText) : strip (strip s) = strip s := by
  have hstart : (strip s).dropWhile isSpace = strip s := by
    have hhead := List.head?_dropWhile_not isSpace s
    obtain ⟨tail, htail⟩ := List.rdropWhile_prefix isSpace (s.dropWhile isSpace)
    cases hs : strip s with
    | nil => rfl
    | cons p rest =>
        -- it starts as the text does whose leading spaces are gone
        rw [← htail, ← strip, hs] at hhead
        exact List.dropWhile_cons_of_neg (Bool.not_eq_true _ ▸ hhead)
  rw [strip, hstart, strip, List.rdropWhile_idempotent]

end WideText
