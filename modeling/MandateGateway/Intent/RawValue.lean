import MandateGateway.Lib.Exceptions
import MandateGateway.Lib.JsonTree
import MandateGateway.Lib.OrderedMap
import MandateGateway.Lib.WideText

/-! # Raw intents

    What an agent proposes is a value of any shape: lists and dictionaries of
    scalars, whose texts may hold half a surrogate pair.  The interpreter reads
    and writes it within limits: an integer of more than 4300 digits has no text,
    and neither its serializer nor a recursive call goes deeper than the stack
    allows.  What breaks a limit is an error of the interpreter (`Escaped`), not
    one of the normalizer. -/

namespace MandateGateway

/-- A key of a dictionary. -/
inductive RawKey where
  | none
  | bool (b : Bool)
  | int (i : Int)
  | float (x : Json.FloatText)
  | str (s : WideText)
deriving DecidableEq

inductive RawValue where
  | none
  | bool (b : Bool)
  | int (i : Int)
  | float (x : Json.FloatText)
  | str (s : WideText)
  | list (xs : List RawValue)
  | dict (items : List (RawKey × RawValue))

abbrev RawDict : Type := List (RawKey × RawValue)

/-! ## Errors -/

/-- The subclasses of `IntentNormalizationError`. -/
inductive IntentErrorKind where
  | structural | identity | monetary | ambiguity | securityViolation
deriving DecidableEq

/-- `IntentNormalizationError.code`. -/
def IntentErrorKind.code : IntentErrorKind → String
  | .structural => "INTENT_STRUCTURAL_INVALID"
  | .identity => "INTENT_IDENTITY_INVALID"
  | .monetary => "INTENT_MONETARY_INVALID"
  | .ambiguity => "INTENT_AMBIGUOUS"
  | .securityViolation => "INTENT_SECURITY_VIOLATION"

/-- An exception that is no `IntentNormalizationError`. -/
inductive Escaped where
  | recursionError
  | valueError
  | unicodeEncodeError
  | validationError (record : String)
deriving DecidableEq

inductive IntentError where
  | normalization (kind : IntentErrorKind) (message : WideText)
  | escaped (err : Escaped)
deriving DecidableEq

namespace IntentError

/-- It is an `IntentNormalizationError`. -/
def IsNormalization : IntentError → Prop
  | .normalization _ _ => True
  | .escaped _ => False

def structural (message : WideText) : IntentError := .normalization .structural message

def identity (message : WideText) : IntentError := .normalization .identity message

def monetary (message : WideText) : IntentError := .normalization .monetary message

def ambiguity (message : WideText) : IntentError := .normalization .ambiguity message

def securityViolation (message : WideText) : IntentError :=
  .normalization .securityViolation message

end IntentError

open WideText (ofString)

/-! ## Texts of values -/

/-- `sys.get_int_max_str_digits()`. -/
def maxStrDigits : Nat := 4300

/-- The integer has a text: it is not longer than the limit. -/
def FewDigits (i : Int) : Prop := i.natAbs < 10 ^ maxStrDigits

instance (i : Int) : Decidable (FewDigits i) := inferInstanceAs (Decidable (_ < _))

-- the power is not to be computed where two such statements are compared
attribute [irreducible] FewDigits

theorem fewDigits_of_lt {i : Int} (h : i.natAbs < 10 ^ 9) : FewDigits i := by
  rw [FewDigits]
  exact h.trans_le (Nat.pow_le_pow_right (by decide) (by decide))

/-- `str(i)`. -/
def intText (i : Int) : Except IntentError String :=
  if FewDigits i then .ok (toString i) else .error (.escaped .valueError)

/-- No error but one of the normalizer leaves the computation. -/
def Contained {α : Type} (x : Except IntentError α) : Prop :=
  Exceptions.Raises IntentError.IsNormalization x

/-- The computation returns where this holds, and else breaks a limit. -/
def EndsBy {α : Type} (fits : Prop) (x : Except IntentError α) : Prop :=
  (fits ∧ ∃ a, x = .ok a) ∨ (¬ fits ∧ ∃ err, x = .error (.escaped err))

namespace EndsBy

variable {α β : Type} {fits fits' : Prop} {x : Except IntentError α}

theorem of_ok (h : fits) (a : α) : EndsBy fits (.ok a : Except IntentError α) := .inl ⟨h, a, rfl⟩

theorem congr (h : EndsBy fits x) (hiff : fits ↔ fits') : EndsBy fits' x := by
  rw [EndsBy, ← hiff]
  exact h

theorem seq {f : α → Except IntentError β} (hx : EndsBy fits x)
    (hf : ∀ a, EndsBy fits' (f a)) : EndsBy (fits ∧ fits') (x >>= f) := by
  rcases hx with ⟨hfits, a, rfl⟩ | ⟨hnot, err, rfl⟩
  · rcases hf a with ⟨hfits', b, hb⟩ | ⟨hnot', err, herr⟩
    · exact .inl ⟨⟨hfits, hfits'⟩, b, hb⟩
    · exact .inr ⟨fun h => hnot' h.2, err, herr⟩
  · exact .inr ⟨fun h => hnot h.1, err, rfl⟩

theorem map (f : α → β) (hx : EndsBy fits x) : EndsBy fits (x.map f) := by
  rcases hx with ⟨hfits, a, rfl⟩ | ⟨hnot, err, rfl⟩
  · exact .inl ⟨hfits, f a, rfl⟩
  · exact .inr ⟨hnot, err, rfl⟩

theorem seq_pure (f : α → β) (hx : EndsBy fits x) :
    EndsBy fits (x >>= fun a => (pure (f a) : Except IntentError β)) := by
  rcases hx with ⟨hfits, a, rfl⟩ | ⟨hnot, err, rfl⟩
  · exact .inl ⟨hfits, f a, rfl⟩
  · exact .inr ⟨hnot, err, rfl⟩

theorem returns_iff (h : EndsBy fits x) : (∃ a, x = .ok a) ↔ fits := by
  rcases h with ⟨hfits, a, rfl⟩ | ⟨hnot, err, rfl⟩
  · exact ⟨fun _ => hfits, fun _ => ⟨a, rfl⟩⟩
  · refine ⟨fun hok => ?_, fun hfits => absurd hfits hnot⟩
    exact (Exceptions.not_exists_error_eq_ok _ hok).elim

theorem contained_iff (h : EndsBy fits x) : Contained x ↔ fits := by
  rcases h with ⟨hfits, a, rfl⟩ | ⟨hnot, err, rfl⟩
  · exact ⟨fun _ => hfits, fun _ => Exceptions.raises_ok _ a⟩
  · exact ⟨fun hraises => (hraises _ rfl).elim, fun hfits => absurd hfits hnot⟩

end EndsBy

theorem intText_ends (i : Int) : EndsBy (FewDigits i) (intText i) := by
  rw [intText]
  by_cases h : FewDigits i
  · rw [if_pos h]
    exact .of_ok h _
  · rw [if_neg h]
    exact .inr ⟨h, _, rfl⟩

/-- `str(x)` of a float that is written as this JSON text. -/
def floatText (x : Json.FloatText) : String :=
  if x.text = "NaN" then "nan"
  else if x.text = "Infinity" then "inf"
  else if x.text = "-Infinity" then "-inf"
  else x.text

namespace RawKey

/-- `str(key)`. -/
def text : RawKey → Except IntentError WideText
  | .none => .ok (ofString "None")
  | .bool b => .ok (ofString (if b then "True" else "False"))
  | .int i => (intText i).map ofString
  | .float x => .ok (ofString (floatText x))
  | .str s => .ok s

/-- The key is an integer without a text. -/
def Unprintable (k : RawKey) : Prop := ∃ i, k = .int i ∧ ¬ FewDigits i

/-- A key has a text unless it is an integer that is too long. -/
theorem text_cases (k : RawKey) :
    (¬ k.Unprintable ∧ ∃ text, k.text = .ok text)
      ∨ (k.Unprintable ∧ k.text = .error (.escaped .valueError)) := by
  cases k with
  | int i =>
      rw [text, intText]
      by_cases h : FewDigits i
      · refine .inl ⟨?_, _, by rw [if_pos h]; rfl⟩
        rintro ⟨i', heq, hlong⟩
        obtain rfl := RawKey.int.inj heq
        exact hlong h
      · exact .inr ⟨⟨i, rfl, h⟩, by rw [if_neg h]; rfl⟩
  | none | bool _ | float _ | str _ =>
      refine .inl ⟨?_, _, rfl⟩
      rintro ⟨i, heq, -⟩
      cases heq

end RawKey

namespace RawValue

/-- `type(value).__name__`. -/
def typeName : RawValue → String
  | .none => "NoneType"
  | .bool _ => "bool"
  | .int _ => "int"
  | .float _ => "float"
  | .str _ => "str"
  | .list _ => "list"
  | .dict _ => "dict"

end RawValue

namespace RawDict

def key (name : String) : RawKey := .str (ofString name)

/-- `d.get(name)`. -/
def find (d : RawDict) (name : String) : Option RawValue := OrderedMap.lookupEntries (key name) d

/-- `d.get(name, default)`. -/
def get (d : RawDict) (name : String) (default : RawValue) : RawValue :=
  (d.find name).getD default

end RawDict

/-! ## Serialization -/

namespace RawValue

def escapeCodePoint : CodePoint → List Char
  | .char c => Json.escapeChar c
  | .surrogate unit => Json.unitEscape (0xD800 + unit.val)

def stringChars (s : WideText) : List Char :=
  Json.quoteMark :: s.flatMap escapeCodePoint ++ [Json.quoteMark]

def intChars (i : Int) : Except IntentError (List Char) := (intText i).map String.toList

/-- A key as the serializer writes it. -/
def keyChars : RawKey → Except IntentError (List Char)
  | .none => .ok (stringChars (ofString "null"))
  | .bool b => .ok (stringChars (ofString (if b then "true" else "false")))
  | .int i => (intText i).map fun text => stringChars (ofString text)
  | .float x => .ok (stringChars (ofString x.text))
  | .str s => .ok (stringChars s)

def bracketed (opening closing : Char) (parts : List (List Char)) : List Char :=
  opening :: [',', ' '].intercalate parts ++ [closing]

mutual

/-- `json.dumps(value)`, which may nest so many lists and dictionaries. -/
def encode (room : Nat) : RawValue → Except IntentError (List Char)
  | .none => .ok "null".toList
  | .bool b => .ok (if b then "true" else "false").toList
  | .int i => intChars i
  | .float x => .ok x.text.toList
  | .str s => .ok (stringChars s)
  | .list xs =>
      match room with
      | 0 => .error (.escaped .recursionError)
      | room + 1 => (encodeElems room xs).map (bracketed '[' ']')
  | .dict items =>
      match room with
      | 0 => .error (.escaped .recursionError)
      | room + 1 => (encodeItems room items).map (bracketed Json.openBrace Json.closeBrace)

def encodeElems (room : Nat) : List RawValue → Except IntentError (List (List Char))
  | [] => .ok []
  | x :: xs => do
      let part ← encode room x
      let parts ← encodeElems room xs
      pure (part :: parts)

def encodeItems (room : Nat) : List (RawKey × RawValue) → Except IntentError (List (List Char))
  | [] => .ok []
  | (k, v) :: items => do
      let key ← keyChars k
      let part ← encode room v
      let parts ← encodeItems room items
      pure ((key ++ [':', ' '] ++ part) :: parts)

end

/-! ## What can be serialized -/

def keyIntegers : RawKey → List Int
  | .int i => [i]
  | _ => []

mutual

/-- How deep lists and dictionaries are nested in a value. -/
def depth : RawValue → Nat
  | .list xs => depthElems xs + 1
  | .dict items => depthItems items + 1
  | _ => 0

def depthElems : List RawValue → Nat
  | [] => 0
  | x :: xs => max (depth x) (depthElems xs)

def depthItems : List (RawKey × RawValue) → Nat
  | [] => 0
  | (_, v) :: items => max (depth v) (depthItems items)

end

mutual

/-- The integers in a value, keys included. -/
def integers : RawValue → List Int
  | .int i => [i]
  | .list xs => integersElems xs
  | .dict items => integersItems items
  | _ => []

def integersElems : List RawValue → List Int
  | [] => []
  | x :: xs => integers x ++ integersElems xs

def integersItems : List (RawKey × RawValue) → List Int
  | [] => []
  | (k, v) :: items => keyIntegers k ++ integers v ++ integersItems items

end

/-- Every integer has a text. -/
def Short (is : List Int) : Prop := ∀ i ∈ is, FewDigits i

theorem short_nil : Short [] := fun _ h => absurd h List.not_mem_nil

theorem short_append_iff {is js : List Int} : Short (is ++ js) ↔ Short is ∧ Short js :=
  List.forall_mem_append

theorem short_singleton_iff {i : Int} : Short [i] ↔ FewDigits i := by
  rw [Short, List.forall_mem_singleton]

theorem keyChars_ends (k : RawKey) : EndsBy (Short (keyIntegers k)) (keyChars k) := by
  cases k with
  | int i =>
      have htext : EndsBy (Short [i]) (intText i) :=
        (intText_ends i).congr short_singleton_iff.symm
      exact htext.map fun text => stringChars (ofString text)
  | none | bool _ | float _ | str _ => exact .of_ok short_nil _

mutual

/-- **A value is serialized** exactly when it is not nested too deep and every
    integer in it has a text. -/
theorem encode_ends : ∀ (room : Nat) (v : RawValue),
    EndsBy (v.depth ≤ room ∧ Short v.integers) (v.encode room)
  | room, .none => .of_ok ⟨Nat.zero_le room, short_nil⟩ _
  | room, .bool _ => .of_ok ⟨Nat.zero_le room, short_nil⟩ _
  | room, .float _ => .of_ok ⟨Nat.zero_le room, short_nil⟩ _
  | room, .str _ => .of_ok ⟨Nat.zero_le room, short_nil⟩ _
  | room, .int i => by
      have hshort : EndsBy (FewDigits i) (intChars i) := (intText_ends i).map String.toList
      refine hshort.congr ?_
      show FewDigits i ↔ 0 ≤ room ∧ Short [i]
      rw [short_singleton_iff, and_iff_right (Nat.zero_le room)]
  | 0, .list xs => .inr ⟨fun h => absurd h.1 (Nat.not_succ_le_zero _), _, rfl⟩
  | 0, .dict items => .inr ⟨fun h => absurd h.1 (Nat.not_succ_le_zero _), _, rfl⟩
  | room + 1, .list xs =>
      ((encodeElems_ends room xs).map _).congr (and_congr_left' Nat.succ_le_succ_iff.symm)
  | room + 1, .dict items =>
      ((encodeItems_ends room items).map _).congr (and_congr_left' Nat.succ_le_succ_iff.symm)

theorem encodeElems_ends : ∀ (room : Nat) (xs : List RawValue),
    EndsBy (depthElems xs ≤ room ∧ Short (integersElems xs)) (encodeElems room xs)
  | room, [] => .of_ok ⟨Nat.zero_le room, short_nil⟩ _
  | room, x :: xs => by
      refine ((encode_ends room x).seq fun part =>
        (encodeElems_ends room xs).seq_pure (part :: ·)).congr ?_
      rw [depthElems, integersElems, short_append_iff, Nat.max_le]
      exact and_and_and_comm

theorem encodeItems_ends : ∀ (room : Nat) (items : List (RawKey × RawValue)),
    EndsBy (depthItems items ≤ room ∧ Short (integersItems items)) (encodeItems room items)
  | room, [] => .of_ok ⟨Nat.zero_le room, short_nil⟩ _
  | room, (k, v) :: items => by
      refine ((keyChars_ends k).seq fun key => (encode_ends room v).seq fun part =>
        (encodeItems_ends room items).seq_pure ((key ++ [':', ' '] ++ part) :: ·)).congr ?_
      rw [depthItems, integersItems, short_append_iff, short_append_iff, Nat.max_le]
      constructor
      · rintro ⟨hkey, ⟨hdepth, hvalue⟩, hdepths, hvalues⟩
        exact ⟨⟨hdepth, hdepths⟩, ⟨hkey, hvalue⟩, hvalues⟩
      · rintro ⟨⟨hdepth, hdepths⟩, ⟨hkey, hvalue⟩, hvalues⟩
        exact ⟨hkey, ⟨hdepth, hvalue⟩, hdepths, hvalues⟩

end

end RawValue

end MandateGateway
