import MandateGateway.Lib.Binary64
import Mathlib.Data.List.Basic

/-! # Decoding JSON texts

    A decoder of JSON texts that accepts what the usual lenient ones do: any
    whitespace between tokens, repeated keys, and the three constants that are
    no finite number.  A text that names half of a surrogate pair denotes no
    Unicode string, and is refused.

    Recursion is on a fuel that the length of the text bounds. -/

/-! ## JSON texts

    The compact, ASCII-only text of a JSON value, as a serializer with
    separators `,` and `:` writes it. -/

/-- A JSON value; the members of an object stand in the order they are written. -/
inductive Json where
  | null
  | bool (b : Bool)
  | int (i : Int)
  | str (s : String)
  | arr (xs : List Json)
  | obj (members : List (String × Json))

namespace Json

/-- Four hexadecimal digits. -/
def hex4 (n : Nat) : List Char :=
  [Nat.digitChar (n / 4096 % 16), Nat.digitChar (n / 256 % 16), Nat.digitChar (n / 16 % 16),
    Nat.digitChar (n % 16)]

/-- The escape of one UTF-16 code unit. -/
def unitEscape (n : Nat) : List Char := Char.ofNat 92 :: 'u' :: hex4 n

/-- The characters of a JSON string for one character of its text. -/
def escapeChar (c : Char) : List Char :=
  let n := c.toNat
  if n = 34 ∨ n = 92 then [Char.ofNat 92, c]
  else if n = 10 then [Char.ofNat 92, 'n']
  else if n = 13 then [Char.ofNat 92, 'r']
  else if n = 9 then [Char.ofNat 92, 't']
  else if n = 8 then [Char.ofNat 92, 'b']
  else if n = 12 then [Char.ofNat 92, 'f']
  else if 32 ≤ n ∧ n < 127 then [c]
  else if n < 0x10000 then unitEscape n
  else
    -- outside the basic plane: a surrogate pair
    unitEscape (0xD800 + (n - 0x10000) / 1024) ++ unitEscape (0xDC00 + (n - 0x10000) % 1024)

def stringText (s : String) : String :=
  String.ofList (Char.ofNat 34 :: s.toList.flatMap escapeChar ++ [Char.ofNat 34])

mutual

/-- The compact text of a value. -/
def compact : Json → String
  | .null => "null"
  | .bool b => if b then "true" else "false"
  | .int i => toString i
  | .str s => stringText s
  | .arr xs => "[" ++ compactElems xs ++ "]"
  | .obj members => String.ofList [Char.ofNat 123] ++ compactMembers members
      ++ String.ofList [Char.ofNat 125]

def compactElems : List Json → String
  | [] => ""
  | [x] => compact x
  | x :: xs => compact x ++ "," ++ compactElems xs

def compactMembers : List (String × Json) → String
  | [] => ""
  | [(k, v)] => stringText k ++ ":" ++ compact v
  | (k, v) :: rest => stringText k ++ ":" ++ compact v ++ "," ++ compactMembers rest

end

example : compact (.obj [("a", .int 1), ("é", .null)]) = "\x7b\"a\":1,\"\\u00e9\":null\x7d" := by
  decide +kernel

end Json

namespace Json

/-- What a JSON text denotes; the members of an object stand in the order of
    the text. -/
inductive Value where
  | null
  | bool (b : Bool)
  | int (i : Int)
  | float (x : Binary64)
  | str (s : String)
  | arr (xs : List Value)
  | obj (members : List (String × Value))

/-- The member of a key; the last one counts. -/
def Value.member (members : List (String × Value)) (key : String) : Option Value :=
  (members.reverse.find? fun m => m.1 == key).map Prod.snd

/-- Whether a value counts as true: a number other than zero, a text or a
    collection that is not empty. -/
def Value.truthy : Value → Bool
  | .null => false
  | .bool b => b
  | .int i => i != 0
  | .float x => x != .finite 0
  | .str s => s != ""
  | .arr xs => !xs.isEmpty
  | .obj members => !members.isEmpty

/-! ## Tokens -/

def isSpace (c : Char) : Bool :=
  c.toNat == 0x20 || c.toNat == 0x09 || c.toNat == 0x0A || c.toNat == 0x0D

def skipSpace (cs : List Char) : List Char := cs.dropWhile isSpace

def quoteMark : Char := Char.ofNat 34

def backslash : Char := Char.ofNat 92

def openBrace : Char := Char.ofNat 123

def closeBrace : Char := Char.ofNat 125

/-- The value of a hexadecimal digit. -/
def hexValue (c : Char) : Option Nat :=
  let n := c.toNat
  if 48 ≤ n ∧ n ≤ 57 then some (n - 48)
  else if 97 ≤ n ∧ n ≤ 102 then some (n - 87)
  else if 65 ≤ n ∧ n ≤ 70 then some (n - 55)
  else none

/-- A piece of a string: a character, or an escaped UTF-16 code unit. -/
inductive Piece where
  | char (c : Char)
  | unit (n : Nat)
deriving DecidableEq

def simpleEscape (c : Char) : Option Char :=
  if c = quoteMark ∨ c = backslash ∨ c = '/' then some c
  else if c = 'b' then some (Char.ofNat 8)
  else if c = 'f' then some (Char.ofNat 12)
  else if c = 'n' then some (Char.ofNat 10)
  else if c = 'r' then some (Char.ofNat 13)
  else if c = 't' then some (Char.ofNat 9)
  else none

/-- Put a piece before the others. -/
def consPiece (p : Piece) (tail : List Piece × List Char) : List Piece × List Char :=
  (p :: tail.1, tail.2)

/-- The pieces of a string up to its closing quote, and what follows it. -/
def pieces : List Char → Option (List Piece × List Char)
  | [] => none
  | c :: rest =>
      if c = quoteMark then some ([], rest)
      else if c = backslash then
        match rest with
        | [] => none
        | e :: rest =>
            if e = 'u' then
              match rest with
              | h₃ :: h₂ :: h₁ :: h₀ :: rest =>
                  match hexValue h₃, hexValue h₂, hexValue h₁, hexValue h₀ with
                  | some d₃, some d₂, some d₁, some d₀ =>
                      (pieces rest).map
                        (consPiece (.unit (4096 * d₃ + 256 * d₂ + 16 * d₁ + d₀)))
                  | _, _, _, _ => none
              | _ => none
            else match simpleEscape e with
            | some c => (pieces rest).map (consPiece (.char c))
            | none => none
      else if c.toNat < 0x20 then none
      else (pieces rest).map (consPiece (.char c))

/-- The characters of the pieces: two escaped units that form a surrogate pair
    are one character. -/
def joined : List Piece → Option (List Char)
  | [] => some []
  | .char c :: ps => (joined ps).map (c :: ·)
  | .unit n :: ps =>
      if 0xD800 ≤ n ∧ n < 0xDC00 then
        match ps with
        | .unit m :: ps =>
            if 0xDC00 ≤ m ∧ m < 0xE000 then
              (joined ps).map (Char.ofNat (0x10000 + (n - 0xD800) * 1024 + (m - 0xDC00)) :: ·)
            else none
        | _ => none
      else if 0xDC00 ≤ n ∧ n < 0xE000 then none
      else (joined ps).map (Char.ofNat n :: ·)

/-- A string after its opening quote. -/
def scanString (cs : List Char) : Option (String × List Char) :=
  match pieces cs with
  | none => none
  | some (ps, rest) => (joined ps).map fun text => (String.ofList text, rest)

/-- The digits of a decimal integer: no zero stands before another digit. -/
def scanDigits : List Char → Option (List Char × List Char)
  | [] => none
  | c :: rest =>
      if c = '0' then some ([c], rest)
      else if c.isDigit then
        some ((c :: rest).takeWhile Char.isDigit, (c :: rest).dropWhile Char.isDigit)
      else none

/-- The fraction digits of a number, if it has any. -/
def scanFraction : List Char → List Char × List Char
  | [] => ([], [])
  | c :: rest =>
      if c = '.' ∧ rest.takeWhile Char.isDigit ≠ [] then
        (rest.takeWhile Char.isDigit, rest.dropWhile Char.isDigit)
      else ([], c :: rest)

/-- The sign of an exponent. -/
def scanSign : List Char → Bool × List Char
  | [] => (false, [])
  | c :: rest =>
      if c = '-' then (true, rest) else if c = '+' then (false, rest) else (false, c :: rest)

/-- The exponent of a number, if it has one. -/
def scanExponent : List Char → Option Int × List Char
  | [] => (none, [])
  | c :: rest =>
      let (negative, body) := scanSign rest
      let digits := body.takeWhile Char.isDigit
      if (c = 'e' ∨ c = 'E') ∧ digits ≠ [] then
        let n : Int := Nat.ofDigitChars 10 digits 0
        (some (if negative then -n else n), body.dropWhile Char.isDigit)
      else (none, c :: rest)

/-- A number: an integer, unless it has a fraction or an exponent. -/
def scanNumber (cs : List Char) : Option (Value × List Char) :=
  let negative := decide (cs.head? = some '-')
  match scanDigits (if negative then cs.tail else cs) with
  | none => none
  | some (digits, rest) =>
      let sign : Int := if negative then -1 else 1
      match scanFraction rest with
      | (fraction, rest) =>
          match fraction, scanExponent rest with
          | [], (none, rest) => some (.int (sign * Nat.ofDigitChars 10 digits 0), rest)
          | fraction, (exponent, rest) =>
              let n : Int := sign * Nat.ofDigitChars 10 (digits ++ fraction) 0
              let e : Int := exponent.getD 0 - fraction.length
              some (.float (Binary64.ofRat ((n : Rat) * (10 : Rat) ^ e)), rest)

def literal (word : String) (v : Value) (cs : List Char) : Option (Value × List Char) :=
  if word.toList <+: cs then some (v, cs.drop word.toList.length) else none

/-- A value that is no string, array or object. -/
def scanScalar (cs : List Char) : Option (Value × List Char) :=
  literal "null" .null cs <|> literal "true" (.bool true) cs <|> literal "false" (.bool false) cs
    <|> literal "NaN" (.float .nan) cs <|> literal "Infinity" (.float (.infinite false)) cs
    <|> literal "-Infinity" (.float (.infinite true)) cs <|> scanNumber cs

/-! ## Values -/

mutual

/-- A value at the start of the text, and what follows it. -/
def parseValue : Nat → List Char → Option (Value × List Char)
  | 0, _ => none
  | _ + 1, [] => none
  | fuel + 1, c :: rest =>
      if c = quoteMark then (scanString rest).map fun p => (.str p.1, p.2)
      else if c = '[' then
        match skipSpace rest with
        | [] => none
        | d :: rest =>
            if d = ']' then some (.arr [], rest)
            else (parseElems fuel (d :: rest)).map fun p => (.arr p.1, p.2)
      else if c = openBrace then
        match skipSpace rest with
        | [] => none
        | d :: rest =>
            if d = closeBrace then some (.obj [], rest)
            else (parseMembers fuel (d :: rest)).map fun p => (.obj p.1, p.2)
      else scanScalar (c :: rest)

/-- The elements of an array up to its closing bracket. -/
def parseElems : Nat → List Char → Option (List Value × List Char)
  | 0, _ => none
  | fuel + 1, cs =>
      match parseValue fuel cs with
      | none => none
      | some (v, rest) =>
          match skipSpace rest with
          | [] => none
          | d :: rest =>
              if d = ',' then
                (parseElems fuel (skipSpace rest)).map fun p => (v :: p.1, p.2)
              else if d = ']' then some ([v], rest)
              else none

/-- The members of an object up to its closing brace. -/
def parseMembers : Nat → List Char → Option (List (String × Value) × List Char)
  | 0, _ => none
  | _ + 1, [] => none
  | fuel + 1, c :: rest =>
      if c = quoteMark then
        match scanString rest with
        | none => none
        | some (key, rest) =>
            match skipSpace rest with
            | [] => none
            | d :: rest =>
                if d = ':' then
                  match parseValue fuel (skipSpace rest) with
                  | none => none
                  | some (v, rest) =>
                      match skipSpace rest with
                      | [] => none
                      | d :: rest =>
                          if d = ',' then
                            (parseMembers fuel (skipSpace rest)).map
                              fun p => ((key, v) :: p.1, p.2)
                          else if d = closeBrace then some ([(key, v)], rest)
                          else none
                else none
      else none

end

def decode (text : String) : Option Value :=
  let cs := skipSpace text.toList
  match parseValue (cs.length + 1) cs with
  | none => none
  | some (v, rest) => if skipSpace rest = [] then some v else none

/-! ## Texts that are refused -/

def starters : List Char :=
  [quoteMark, '[', openBrace, 'n', 't', 'f', 'N', 'I', '-']

theorem literal_eq_none {word : String} {c w : Char} {ws cs : List Char} {v : Value}
    (hword : word.toList = w :: ws) (h : w ≠ c) : literal word v (c :: cs) = none := by
  refine if_neg fun hprefix => ?_
  rw [hword] at hprefix
  obtain ⟨tail, htail⟩ := hprefix
  exact h (List.cons.inj htail).1

theorem scanScalar_eq_none {c : Char} {rest : List Char} (hstart : c ∉ starters)
    (hdigit : c.isDigit = false) : scanScalar (c :: rest) = none := by
  have hne : ∀ d ∈ starters, d ≠ c := by
    rintro d hd rfl
    exact hstart hd
  have hzero : c ≠ '0' := by
    rintro rfl
    exact absurd hdigit (by decide)
  have hnumber : scanNumber (c :: rest) = none := by
    rw [scanNumber]
    have hminus : ¬ (c :: rest).head? = some '-' := by
      rw [List.head?_cons, Option.some.injEq]
      exact (hne '-' (by decide)).symm
    rw [decide_eq_false hminus]
    have hdigits : scanDigits (c :: rest) = none := by
      rw [scanDigits, if_neg hzero, hdigit]
      rfl
    simp only [Bool.false_eq_true, if_false, hdigits]
  rw [scanScalar, literal_eq_none rfl (hne 'n' (by decide)),
    literal_eq_none rfl (hne 't' (by decide)), literal_eq_none rfl (hne 'f' (by decide)),
    literal_eq_none rfl (hne 'N' (by decide)), literal_eq_none rfl (hne 'I' (by decide)),
    literal_eq_none rfl (hne '-' (by decide)), hnumber]
  rfl

/-- **A text that no value starts like is no JSON text.** -/
theorem decode_eq_none {text : String} {c : Char} {rest : List Char}
    (htext : text.toList = c :: rest) (hspace : isSpace c = false) (hstart : c ∉ starters)
    (hdigit : c.isDigit = false) : decode text = none := by
  have hne : ∀ d ∈ starters, c ≠ d := by
    rintro d hd rfl
    exact hstart hd
  have hskip : skipSpace (c :: rest) = c :: rest := by
    rw [skipSpace, List.dropWhile_cons, hspace]
    rfl
  have hvalue : parseValue ((c :: rest).length + 1) (c :: rest) = none := by
    rw [parseValue, if_neg (hne quoteMark (by decide)), if_neg (hne '[' (by decide)),
      if_neg (hne openBrace (by decide)), scanScalar_eq_none hstart hdigit]
  rw [decode, htext, hskip]
  simp only [hvalue]

end Json
