import MandateGateway.Intent.RawValue

/-! # Texts, integers and equality of raw values

    `str`, `int` and `==` of values of any shape.  A value has a text unless it is
    nested too deep or an integer in it is too long (`toText_ends`); what `int` takes
    is a number, whose fraction it drops, or a text that writes an integer
    (`toInt_eq_ok_iff`). -/

namespace MandateGateway

open WideText (ofString)

/-! ## Texts -/

/-- `repr(key)`. -/
def RawKey.repr : RawKey → Except IntentError WideText
  | .str s => .ok (WideText.quoted s)
  | k => k.text

namespace RawValue

/-- `", ".join(parts)` in brackets. -/
def enclosed (opening closing : String) (parts : List WideText) : WideText :=
  ofString opening ++ (ofString ", ").intercalate parts ++ ofString closing

def openBrace : String := String.singleton Json.openBrace

def closeBrace : String := String.singleton Json.closeBrace

mutual

/-- `repr(value)`, which may nest so many lists and dictionaries. -/
def repr (room : Nat) : RawValue → Except IntentError WideText
  | .none => .ok (ofString "None")
  | .bool b => .ok (ofString (if b then "True" else "False"))
  | .int i => (intText i).map ofString
  | .float x => .ok (ofString (floatText x))
  | .str s => .ok (WideText.quoted s)
  | .list xs =>
      match room with
      | 0 => .error (.escaped .recursionError)
      | room + 1 => (reprElems room xs).map (enclosed "[" "]")
  | .dict items =>
      match room with
      | 0 => .error (.escaped .recursionError)
      | room + 1 => (reprItems room items).map (enclosed openBrace closeBrace)

def reprElems (room : Nat) : List RawValue → Except IntentError (List WideText)
  | [] => .ok []
  | x :: xs => do
      let part ← repr room x
      let parts ← reprElems room xs
      pure (part :: parts)

def reprItems (room : Nat) : List (RawKey × RawValue) → Except IntentError (List WideText)
  | [] => .ok []
  | (k, v) :: items => do
      let key ← k.repr
      let part ← repr room v
      let parts ← reprItems room items
      pure ((key ++ ofString ": " ++ part) :: parts)

end

/-- `str(value)`. -/
def toText (room : Nat) : RawValue → Except IntentError WideText
  | .str s => .ok s
  | v => v.repr room

def Printable (room : Nat) (v : RawValue) : Prop := v.depth ≤ room ∧ Short v.integers

theorem reprKey_ends (k : RawKey) : EndsBy (Short (keyIntegers k)) k.repr := by
  cases k with
  | int i =>
      have htext : EndsBy (Short [i]) (intText i) :=
        (intText_ends i).congr short_singleton_iff.symm
      exact htext.map ofString
  | none | bool _ | float _ | str _ => exact .of_ok short_nil _

mutual

/-- **A value has a text** exactly when it is not nested too deep and every integer
    in it has one. -/
theorem repr_ends : ∀ (room : Nat) (v : RawValue), EndsBy (v.Printable room) (v.repr room)
  | room, .none => .of_ok ⟨Nat.zero_le room, short_nil⟩ _
  | room, .bool _ => .of_ok ⟨Nat.zero_le room, short_nil⟩ _
  | room, .float _ => .of_ok ⟨Nat.zero_le room, short_nil⟩ _
  | room, .str _ => .of_ok ⟨Nat.zero_le room, short_nil⟩ _
  | room, .int i => by
      have hshort : EndsBy (FewDigits i) ((intText i).map ofString) := (intText_ends i).map ofString
      refine hshort.congr ?_
      show FewDigits i ↔ 0 ≤ room ∧ Short [i]
      rw [short_singleton_iff, and_iff_right (Nat.zero_le room)]
  | 0, .list xs => .inr ⟨fun h => absurd h.1 (Nat.not_succ_le_zero _), _, rfl⟩
  | 0, .dict items => .inr ⟨fun h => absurd h.1 (Nat.not_succ_le_zero _), _, rfl⟩
  | room + 1, .list xs =>
      ((reprElems_ends room xs).map _).congr (and_congr_left' Nat.succ_le_succ_iff.symm)
  | room + 1, .dict items =>
      ((reprItems_ends room items).map _).congr (and_congr_left' Nat.succ_le_succ_iff.symm)

theorem reprElems_ends : ∀ (room : Nat) (xs : List RawValue),
    EndsBy (depthElems xs ≤ room ∧ Short (integersElems xs)) (reprElems room xs)
  | room, [] => .of_ok ⟨Nat.zero_le room, short_nil⟩ _
  | room, x :: xs => by
      refine ((repr_ends room x).seq fun part =>
        (reprElems_ends room xs).seq_pure (part :: ·)).congr ?_
      rw [depthElems, integersElems, short_append_iff, Nat.max_le]
      exact and_and_and_comm

theorem reprItems_ends : ∀ (room : Nat) (items : List (RawKey × RawValue)),
    EndsBy (depthItems items ≤ room ∧ Short (integersItems items)) (reprItems room items)
  | room, [] => .of_ok ⟨Nat.zero_le room, short_nil⟩ _
  | room, (k, v) :: items => by
      refine ((reprKey_ends k).seq fun key => (repr_ends room v).seq fun part =>
        (reprItems_ends room items).seq_pure ((key ++ ofString ": " ++ part) :: ·)).congr ?_
      rw [depthItems, integersItems, short_append_iff, short_append_iff, Nat.max_le, Printable]
      constructor
      · rintro ⟨hkey, ⟨hdepth, hvalue⟩, hdepths, hvalues⟩
        exact ⟨⟨hdepth, hdepths⟩, ⟨hkey, hvalue⟩, hvalues⟩
      · rintro ⟨⟨hdepth, hdepths⟩, ⟨hkey, hvalue⟩, hvalues⟩
        exact ⟨hkey, ⟨hdepth, hvalue⟩, hdepths, hvalues⟩

end

theorem toText_ends (room : Nat) (v : RawValue) : EndsBy (v.Printable room) (v.toText room) := by
  cases v with
  | str s => exact .of_ok ⟨Nat.zero_le room, short_nil⟩ _
  | none | bool _ | int _ | float _ | list _ | dict _ => exact repr_ends room _

end RawValue

/-! ## Integers -/

/-- What `int` raises. -/
inductive ConversionError where
  | valueError
  | typeError
  | overflowError
deriving DecidableEq

namespace RawValue

def floatValue (x : Json.FloatText) : Binary64 :=
  match Json.scanScalar x.text.toList with
  | some (.float value, _) => value
  | _ => .nan

/-- What is left of a number without its fraction. -/
def truncate (q : Rat) : Int := if 0 ≤ q then q.floor else -(-q).floor

/-- Whitespace around an integer in a text: a text in ASCII is not looked at for
    other whitespace. -/
def isIntSpace (ascii : Bool) (p : CodePoint) : Bool :=
  match p with
  | .char c =>
      if ascii then (9 ≤ c.toNat && c.toNat ≤ 13) || c.toNat == 32 else Text.isSpace c
  | .surrogate _ => false

def isAscii : CodePoint → Bool
  | .char c => c.toNat < 128
  | .surrogate _ => false

/-- The number of decimal digits, in which single underscores may stand. -/
def digitsValue : WideText → Option Nat
  | [] => .none
  | p :: rest =>
      (WideText.decimalValue p).bind fun first => more first rest
where
  more (sum : Nat) : WideText → Option Nat
    | [] => some sum
    | p :: rest =>
        if p = .char '_' then
          match rest with
          | [] => .none
          | q :: rest => (WideText.decimalValue q).bind fun d => more (10 * sum + d) rest
        else (WideText.decimalValue p).bind fun d => more (10 * sum + d) rest

/-- `int(text)`. -/
def textToInt (s : WideText) : Except ConversionError Int :=
  let ascii := s.all isAscii
  let trimmed := (s.dropWhile (isIntSpace ascii)).rdropWhile (isIntSpace ascii)
  let (sign, digits) : Int × WideText :=
    match trimmed with
    | .char c :: rest =>
        if c = '-' then (-1, rest) else if c = '+' then (1, rest) else (1, trimmed)
    | _ => (1, trimmed)
  match digitsValue digits with
  | some n =>
      if maxStrDigits < (digits.filter fun p => p ≠ .char '_').length then .error .valueError
      else .ok (sign * n)
  | .none => .error .valueError

/-- `int(value)`. -/
def toInt : RawValue → Except ConversionError Int
  | .int i => .ok i
  | .bool b => .ok (if b then 1 else 0)
  | .float x =>
      match floatValue x with
      | .finite q => .ok (truncate q)
      | .infinite _ => .error .overflowError
      | .nan => .error .valueError
  | .str s => textToInt s
  | .none | .list _ | .dict _ => .error .typeError

/-- The number that a value is, or that it writes. -/
def amount? : RawValue → Option Rat
  | .int i => some i
  | .bool b => some (if b then 1 else 0)
  | .float x =>
      match floatValue x with
      | .finite q => some q
      | _ => .none
  | .str s =>
      match textToInt s with
      | .ok i => some i
      | .error _ => .none
  | .none | .list _ | .dict _ => .none

theorem truncate_intCast (i : Int) : truncate i = i := by
  rw [truncate]
  by_cases h : (0 : Rat) ≤ i
  · rw [if_pos h, Rat.floor_intCast]
  · rw [if_neg h, ← Rat.intCast_neg, Rat.floor_intCast, Int.neg_neg]

/-- **An integer is read** from a number by dropping its fraction. -/
theorem toInt_eq_ok_iff {v : RawValue} {i : Int} :
    v.toInt = .ok i ↔ ∃ q, v.amount? = some q ∧ truncate q = i := by
  have hwhole : ∀ j : Int, (Except.ok j : Except ConversionError Int) = .ok i
      ↔ ∃ q : Rat, some (j : Rat) = some q ∧ truncate q = i := by
    intro j
    constructor
    · intro h
      exact ⟨j, rfl, (truncate_intCast j).trans (Except.ok.inj h)⟩
    · rintro ⟨q, hq, rfl⟩
      rw [← Option.some.inj hq, truncate_intCast]
  have hnone : ∀ err : ConversionError, (Except.error err : Except ConversionError Int) = .ok i
      ↔ ∃ q : Rat, (Option.none : Option Rat) = some q ∧ truncate q = i := by
    intro err
    constructor
    · intro h
      cases h
    · rintro ⟨q, hq, -⟩
      cases hq
  cases v with
  | int j => exact hwhole j
  | bool b =>
      cases b with
      | true => exact hwhole 1
      | false => exact hwhole 0
  | float x =>
      rw [toInt, amount?]
      cases floatValue x with
      | finite q =>
          constructor
          · intro h
            exact ⟨q, rfl, Except.ok.inj h⟩
          · rintro ⟨q', hq, rfl⟩
            rw [Option.some.inj hq]
      | infinite negative => exact hnone _
      | nan => exact hnone _
  | str s =>
      rw [toInt, amount?]
      cases textToInt s with
      | ok j => exact hwhole j
      | error err => exact hnone err
  | none | list _ | dict _ => exact hnone _

theorem toInt_returns_iff {v : RawValue} : (∃ i, v.toInt = .ok i) ↔ ∃ q, v.amount? = some q := by
  constructor
  · rintro ⟨i, hi⟩
    obtain ⟨q, hq, -⟩ := toInt_eq_ok_iff.mp hi
    exact ⟨q, hq⟩
  · rintro ⟨q, hq⟩
    exact ⟨truncate q, toInt_eq_ok_iff.mpr ⟨q, hq, rfl⟩⟩

def Infinite (v : RawValue) : Prop :=
  ∃ x negative, v = .float x ∧ floatValue x = .infinite negative

theorem textToInt_ne_overflowError (s : WideText) : textToInt s ≠ .error .overflowError := by
  intro h
  rw [textToInt] at h
  -- the sign, the digits, and their number
  split at h
  split at h
  · split at h
    · cases h
    · cases h
  · cases h

/-- **Only an infinity overflows.** -/
theorem toInt_eq_overflowError_iff {v : RawValue} :
    v.toInt = .error .overflowError ↔ v.Infinite := by
  cases v with
  | float x =>
      rw [toInt]
      constructor
      · intro h
        cases hx : floatValue x with
        | infinite negative => exact ⟨x, negative, rfl, hx⟩
        | finite q =>
            rw [hx] at h
            cases h
        | nan =>
            rw [hx] at h
            cases h
      · rintro ⟨x', negative, heq, hx⟩
        rw [RawValue.float.inj heq, hx]
  | str s =>
      refine ⟨fun h => absurd h (textToInt_ne_overflowError s), ?_⟩
      rintro ⟨x, negative, heq, -⟩
      cases heq
  | none | bool _ | int _ | list _ | dict _ =>
      constructor
      · intro h
        cases h
      · rintro ⟨x, negative, heq, -⟩
        cases heq

theorem truncate_nonneg {q : Rat} (h : 0 ≤ q) : 0 ≤ truncate q := by
  rw [truncate, if_pos h]
  exact Rat.le_floor_iff.mpr h

end RawValue

/-! ## Comparison -/

namespace RawValue

/-- `bool(value)`. -/
def isTruthy : RawValue → Bool
  | .none => false
  | .bool b => b
  | .int i => i ≠ 0
  | .float x => floatValue x ≠ .finite 0
  | .str s => s ≠ []
  | .list xs => !xs.isEmpty
  | .dict items => !items.isEmpty

/-- `a or b`. -/
def orElse (a b : RawValue) : RawValue := if a.isTruthy then a else b

theorem isTruthy_of_amount? {v : RawValue} {q : Rat} (h : v.amount? = some q) (hq : q ≠ 0) :
    v.isTruthy = true := by
  cases v with
  | none | list _ | dict _ => cases h
  | bool b =>
      cases b with
      | true => rfl
      | false => exact absurd (Option.some.inj h).symm hq
  | int i =>
      rw [← Option.some.inj h] at hq
      exact decide_eq_true fun hi => hq (by rw [hi]; rfl)
  | float x =>
      rw [amount?] at h
      rw [isTruthy]
      cases hx : floatValue x with
      | finite p =>
          rw [hx] at h
          refine decide_eq_true fun hp => hq ?_
          rw [← Option.some.inj h, Binary64.finite.inj hp]
      | infinite negative => exact decide_eq_true fun hp => Binary64.noConfusion hp
      | nan => exact decide_eq_true fun hp => Binary64.noConfusion hp
  | str s =>
      refine decide_eq_true fun hs => ?_
      rw [hs] at h
      cases h

def number? : RawValue → Option Binary64
  | .bool b => some (.finite (if b then 1 else 0))
  | .int i => some (.finite i)
  | .float x => some (floatValue x)
  | _ => .none

/-- `v == w`, where one of the two is neither a list nor a dictionary. -/
def scalarEquals (v w : RawValue) : Bool :=
  match v.number?, w.number? with
  | some (.finite p), some (.finite q) => p = q
  | some (.infinite negative), some (.infinite negative') => negative = negative'
  | .none, .none =>
      match v, w with
      | .none, .none => true
      | .str s, .str t => s = t
      | _, _ => false
  | _, _ => false

end RawValue

def RawKey.value : RawKey → RawValue
  | .none => .none
  | .bool b => .bool b
  | .int i => .int i
  | .float x => .float x
  | .str s => .str s

namespace RawValue

mutual

/-- `v == w`. -/
def equals : RawValue → RawValue → Bool
  | .list xs, .list ys => equalsElems xs ys
  | .dict items, .dict items' => items.length == items'.length && equalsItems items items'
  | v, w => scalarEquals v w

def equalsElems : List RawValue → List RawValue → Bool
  | [], [] => true
  | x :: xs, y :: ys => equals x y && equalsElems xs ys
  | _, _ => false

/-- Each of the first items has an equal one among the second. -/
def equalsItems : List (RawKey × RawValue) → List (RawKey × RawValue) → Bool
  | [], _ => true
  | (k, v) :: items, items' =>
      (match items'.find? fun item => scalarEquals k.value item.1.value with
        | some item => equals v item.2
        | .none => false) && equalsItems items items'

end

end RawValue

end MandateGateway
