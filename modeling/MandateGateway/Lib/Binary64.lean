import Mathlib.Algebra.Group.Nat.Defs
import Mathlib.Data.Rat.Defs

/-! # Binary floating point numbers

    The 64-bit format by the exact rational values of its members, with
    correct rounding (to nearest, ties to even) and the decimal texts of a
    number: fixed point, and the shortest text that reads back as it. -/

/-- A 64-bit binary floating point number, by its exact value. -/
inductive Binary64 where
  | finite (q : Rat)
  | infinite (negative : Bool)
  | nan
deriving DecidableEq

namespace Binary64

/-- `n / d` rounded to the nearest integer, ties to even. -/
def roundDiv (n d : Nat) : Nat :=
  let q := n / d
  let r := n % d
  if 2 * r < d then q else if d < 2 * r then q + 1 else q + q % 2

/-- `n / d` scaled by `b ^ e`, as numerator and denominator. -/
def scale (b : Nat) (e : Int) (n d : Nat) : Nat × Nat :=
  if 0 ≤ e then (n * b ^ e.toNat, d) else (n, d * b ^ (-e).toNat)

/-- The exponent `e` with `b ^ e ≤ n / d < b ^ (e + 1)`, from an estimate that
    is at most one too high or too low. -/
def exponent (b : Nat) (estimate : Int) (n d : Nat) : Int :=
  let reaches (e : Int) : Bool := let (n', d') := scale b (-e) n d; d' ≤ n'
  if reaches (estimate + 1) then estimate + 1
  else if reaches estimate then estimate
  else estimate - 1

/-- The magnitude nearest to `n / d`, unless it is out of range. -/
def nearest (n d : Nat) : Option Rat :=
  if n = 0 then some 0
  else
    -- 53 significant bits, and no bit below 2 ^ -1074
    let u := max (exponent 2 (n.log2 - d.log2) n d - 52) (-1074)
    let (n', d') := scale 2 (-u) n d
    let (m, k) := scale 2 u (roundDiv n' d') 1
    if m < k * 2 ^ 1024 then some (mkRat m k) else none

/-- The number nearest to a rational. -/
def ofRat (q : Rat) : Binary64 :=
  match nearest q.num.natAbs q.den with
  | some m => .finite (if q < 0 then -m else m)
  | none => .infinite (q < 0)

/-- `x < y`; nothing is less than, or more than, what is no number. -/
def lt : Binary64 → Binary64 → Bool
  | .finite p, .finite q => decide (p < q)
  | .finite _, .infinite negative => !negative
  | .infinite negative, .finite _ => negative
  | .infinite negative, .infinite negative' => negative && !negative'
  | _, _ => false

theorem lt_of_lt_of_le {x : Binary64} {p q : Rat} (h : lt x (.finite p) = true) (hle : p ≤ q) :
    lt x (.finite q) = true := by
  cases x with
  | finite r =>
      have hlt : r < p := of_decide_eq_true h
      refine decide_eq_true (Rat.not_le.mp ?_)
      intro hge
      exact Rat.not_le.mpr hlt (Rat.le_trans hle hge)
  | infinite negative => exact h
  | nan => cases h

/-- `x + y`. -/
def add : Binary64 → Binary64 → Binary64
  | .finite p, .finite q => ofRat (p + q)
  | .finite _, .infinite negative => .infinite negative
  | .infinite negative, .finite _ => .infinite negative
  | .infinite negative, .infinite negative' =>
      if negative = negative' then .infinite negative else .nan
  | _, _ => .nan

/-- Multiplication by a positive number that the format represents. -/
def scaleBy (factor : Rat) : Binary64 → Binary64
  | .finite q => ofRat (q * factor)
  | x => x

/-- Rounding to two decimal places. -/
def round2 : Binary64 → Binary64
  | .finite q =>
      let cents := roundDiv (100 * q.num.natAbs) q.den
      ofRat (mkRat (if q < 0 then -cents else cents) 100)
  | x => x

/-! ## Decimal texts -/

/-- Commas between groups of three digits, on the reversed digits. -/
def groupDigits : List Char → List Char
  | a :: b :: c :: d :: rest => a :: b :: c :: ',' :: groupDigits (d :: rest)
  | ds => ds

/-- Fixed-point text with two decimals, with or without grouped thousands. -/
def fixed2 (grouped : Bool) : Binary64 → String
  | .finite q =>
      let cents := roundDiv (100 * q.num.natAbs) q.den
      let whole := toString (cents / 100)
      let whole := if grouped then String.ofList (groupDigits whole.toList.reverse).reverse
        else whole
      let frac := cents % 100
      (if q < 0 then "-" else "") ++ whole ++ "." ++ (if frac < 10 then "0" else "")
        ++ toString frac
  | .infinite neg => if neg then "-inf" else "inf"
  | .nan => "nan"

/-- Fixed-point text with one decimal. -/
def fixed1 : Binary64 → String
  | .finite q =>
      let tenths := roundDiv (10 * q.num.natAbs) q.den
      (if q < 0 then "-" else "") ++ toString (tenths / 10) ++ "." ++ toString (tenths % 10)
  | .infinite neg => if neg then "-inf" else "inf"
  | .nan => "nan"

/-- The `digits`-digit decimals on either side of `m`, scaled to integers, that
    read back as `m`; the closer one first. -/
def readsBack (m : Rat) (e : Int) (digits : Nat) : Option Nat :=
  let (n, d) := scale 10 (digits - 1 - e) m.num.natAbs m.den
  let near := roundDiv n d
  let far := if near * d ≤ n then near + 1 else near - 1
  [near, far].find? fun c =>
    let (n', d') := scale 10 (e + 1 - digits) c 1
    ofRat (mkRat n' d') = .finite m

/-- The significant digits of the shortest text that reads back as `m`. -/
def shortest (m : Rat) (e : Int) : Nat → Nat → Nat
  | 0, _ => 0
  | fuel + 1, digits => (readsBack m e digits).getD (shortest m e fuel (digits + 1))

/-- The text of a positive number with significant digits `ds` and decimal
    exponent `e`: fixed point, or scientific when far from one. -/
def decimalText (ds : List Char) (e : Int) : String :=
  if e < -4 ∨ 16 ≤ e then
    let tail := if ds.drop 1 = [] then [] else '.' :: ds.drop 1
    let exp := toString e.natAbs
    String.ofList (ds.take 1 ++ tail) ++ (if e < 0 then "e-" else "e+")
      ++ (if e.natAbs < 10 then "0" else "") ++ exp
  else if e < 0 then
    "0." ++ String.ofList (List.replicate (-e - 1).toNat '0' ++ ds)
  else
    let whole := ds.take (e.toNat + 1)
    let frac := ds.drop (e.toNat + 1)
    String.ofList (whole ++ List.replicate (e.toNat + 1 - whole.length) '0') ++ "."
      ++ (if frac = [] then "0" else String.ofList frac)

/-- `str(x)`. -/
def text : Binary64 → String
  | .finite q =>
      if q = 0 then "0.0"
      else
        let m := if q < 0 then -q else q
        let e := exponent 10 ((toString m.num.natAbs).length - (toString m.den).length)
          m.num.natAbs m.den
        let ds := (toString (shortest m e 17 1)).toList
        let e := if readsBack m e 1 = some 10 then e + 1 else e
        (if q < 0 then "-" else "")
          ++ decimalText (ds.reverse.dropWhile (· == '0')).reverse e
  | .infinite neg => if neg then "-inf" else "inf"
  | .nan => "nan"

end Binary64
