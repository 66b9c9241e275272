import MandateGateway.Lib.WideText
import Mathlib.Algebra.Group.Nat.Defs

/-! # URLs, and the addresses that their hosts write

    A URL is split into its scheme and its authority as `urllib.parse` does it, and the
    host of the authority is a name or writes an address: four bytes in decimal, octal
    or hexadecimal parts, of which the last fills what the others leave, or eight groups
    between brackets.  An internal host is a loopback, unspecified, private or link-local
    address in any of these forms, or the name of the loopback. -/

namespace Url

open WideText (ofString)

/-! ## Splitting -/

/-- What the splitting takes from elsewhere: whether it accepts what stands with
    brackets in an authority, and the compatibility normalization. -/
structure Splitter where
  brackets : WideText → Bool
  nfkc     : WideText → WideText

structure Parts where
  scheme : WideText
  netloc : WideText
deriving DecidableEq

/-- A C0 control or a space. -/
def isControlOrSpace : CodePoint → Bool
  | .char c => c.toNat ≤ 32
  | .surrogate _ => false

def isRemoved (p : CodePoint) : Bool :=
  p = .char '\t' ∨ p = .char '\r' ∨ p = .char '\n'

def isLetter : CodePoint → Bool
  | .char c => c.isAlpha
  | .surrogate _ => false

def isSchemeChar : CodePoint → Bool
  | .char c => c.isAlphanum || c == '+' || c == '-' || c == '.'
  | .surrogate _ => false

def isAscii : CodePoint → Bool
  | .char c => c.toNat < 128
  | .surrogate _ => false

/-- The text in front of the first such character. -/
def upTo (c : Char) (s : WideText) : WideText := s.takeWhile (· ≠ .char c)

/-- The text behind the first such character, if there is one. -/
def behind (c : Char) (s : WideText) : WideText := (s.dropWhile (· ≠ .char c)).drop 1

def afterLast (c : Char) (s : WideText) : WideText := s.rtakeWhile (· ≠ .char c)

/-- The scheme in front of the first colon, and what follows it. -/
def splitScheme (url : WideText) : WideText × WideText :=
  let scheme := upTo ':' url
  if .char ':' ∈ url ∧ scheme.head?.any isLetter = true ∧ scheme.all isSchemeChar = true then
    (WideText.lower scheme, behind ':' url)
  else ([], url)

def isDelimiter (p : CodePoint) : Bool :=
  p = .char '/' ∨ p = .char '?' ∨ p = .char '#'

def splitNetloc : WideText → WideText
  | .char '/' :: .char '/' :: rest => rest.takeWhile fun p => !isDelimiter p
  | _ => []

/-- The normalized authority has a delimiter that it does not have itself. -/
def hidesDelimiter (nfkc : WideText → WideText) (netloc : WideText) : Bool :=
  let kept := netloc.filter fun p =>
    p ≠ .char '@' ∧ p ≠ .char ':' ∧ p ≠ .char '#' ∧ p ≠ .char '?'
  nfkc kept ≠ kept ∧ ∃ p ∈ nfkc kept, isDelimiter p ∨ p = .char '@' ∨ p = .char ':'

/-- The authority is accepted. -/
def acceptsNetloc (splitter : Splitter) (netloc : WideText) : Bool :=
  (if .char '[' ∈ netloc ∧ .char ']' ∈ netloc then splitter.brackets netloc
    else .char '[' ∉ netloc ∧ .char ']' ∉ netloc)
  && (netloc.all isAscii || !hidesDelimiter splitter.nfkc netloc)

/-- `urlsplit`, where it returns. -/
def urlsplit (splitter : Splitter) (url : WideText) : Option Parts :=
  let url := (url.dropWhile isControlOrSpace).filter fun p => !isRemoved p
  let parts := splitScheme url
  let netloc := splitNetloc parts.2
  if acceptsNetloc splitter netloc then some ⟨parts.1, netloc⟩ else none

/-! ## The authority -/

/-- The authority has a part for credentials. -/
def HasUserinfo (netloc : WideText) : Prop := .char '@' ∈ netloc

instance (netloc : WideText) : Decidable (HasUserinfo netloc) :=
  inferInstanceAs (Decidable (_ ∈ _))

/-- What stands in front of the last `@`. -/
def userinfo (netloc : WideText) : WideText :=
  (netloc.rdropWhile (· ≠ .char '@')).dropLast

def username (netloc : WideText) : WideText := upTo ':' (userinfo netloc)

def password (netloc : WideText) : WideText := behind ':' (userinfo netloc)

/-- Whether the host stands between brackets. -/
def IsBracketed (netloc : WideText) : Prop := .char '[' ∈ afterLast '@' netloc

instance (netloc : WideText) : Decidable (IsBracketed netloc) :=
  inferInstanceAs (Decidable (_ ∈ _))

/-- The host, without brackets and port. -/
def host (netloc : WideText) : WideText :=
  let hostinfo := afterLast '@' netloc
  if IsBracketed netloc then upTo ']' (behind '[' hostinfo) else upTo ':' hostinfo

/-! ## Addresses -/

def digitValue (c : Char) : Option Nat :=
  if '0' ≤ c ∧ c ≤ '9' then some (c.toNat - '0'.toNat)
  else if 'a' ≤ c ∧ c ≤ 'f' then some (c.toNat - 'a'.toNat + 10)
  else if 'A' ≤ c ∧ c ≤ 'F' then some (c.toNat - 'A'.toNat + 10)
  else none

def number (base : Nat) (digits : List Char) : Option Nat :=
  digits.foldl (fun sum c => sum.bind fun n => (digitValue c).bind fun d =>
    if d < base then some (base * n + d) else none) (some 0)

/-- A part of an address of four bytes: hexadecimal, octal or decimal. -/
def part : List Char → Option Nat
  | [] => none
  | '0' :: 'x' :: digits => number 16 digits
  | '0' :: 'X' :: digits => number 16 digits
  | '0' :: digits => number 8 digits
  | digits => number 10 digits

/-- The address of these parts. -/
def ofParts : List Nat → Option Nat
  | [d] => if d < 2 ^ 32 then some d else none
  | [a, d] => if a < 256 ∧ d < 2 ^ 24 then some (a * 2 ^ 24 + d) else none
  | [a, b, d] =>
      if a < 256 ∧ b < 256 ∧ d < 2 ^ 16 then some (a * 2 ^ 24 + b * 2 ^ 16 + d) else none
  | [a, b, c, d] =>
      if a < 256 ∧ b < 256 ∧ c < 256 ∧ d < 256 then
        some (a * 2 ^ 24 + b * 2 ^ 16 + c * 2 ^ 8 + d)
      else none
  | _ => none

/-- The address of four bytes that a text writes; a dot may follow it. -/
def ipv4? (text : List Char) : Option Nat :=
  let trimmed := if text.getLast? = some '.' then text.dropLast else text
  ((trimmed.splitOn '.').mapM part).bind ofParts

def decimal? (text : List Char) : Option Nat := if text = [] then none else number 10 text

/-- The groups that a part of an address of sixteen bytes writes: one in hexadecimal,
    or, as the last part, two as four decimal bytes. -/
def groups? (last : Bool) (text : List Char) : Option (List Nat) :=
  if last = true ∧ text.count '.' = 3 then
    (((text.splitOn '.').mapM decimal?).bind ofParts).map fun n => [n / 2 ^ 16, n % 2 ^ 16]
  else if text ≠ [] ∧ text.length ≤ 4 then (number 16 text).map fun n => [n]
  else none

def groupsBetween? (last : Bool) : List (List Char) → Option (List Nat)
  | [] => some []
  | [text] => groups? last text
  | text :: texts => (groups? false text).bind fun group =>
      (groupsBetween? last texts).map (group ++ ·)

/-- The parts between colons, none for the empty text. -/
def colonParts (text : List Char) : List (List Char) :=
  if text = [] then [] else text.splitOn ':'

/-- The text in front of the first two colons, and the text behind them. -/
def doubleColon? : List Char → Option (List Char × List Char)
  | ':' :: ':' :: rest => some ([], rest)
  | c :: rest => (doubleColon? rest).map fun cut => (c :: cut.1, cut.2)
  | [] => none

/-- The groups of the address of sixteen bytes that a text writes; a zone may follow. -/
def ipv6? (text : List Char) : Option (List Nat) :=
  let address := text.takeWhile (· ≠ '%')
  match doubleColon? address with
  | none => (groupsBetween? true (colonParts address)).filter fun groups => groups.length = 8
  | some (front, back) =>
      (groupsBetween? false (colonParts front)).bind fun front =>
        (groupsBetween? true (colonParts back)).bind fun back =>
          if front.length + back.length ≤ 7 then
            some (front ++ List.replicate (8 - front.length - back.length) 0 ++ back)
          else none

/-! ## Internal hosts -/

/-- A loopback, unspecified, private or link-local address of four bytes. -/
inductive Internal4 (n : Nat) : Prop where
  | loopback (h : n / 2 ^ 24 = 127)
  | unspecified (h : n = 0)
  | private8 (h : n / 2 ^ 24 = 10)
  | private12 (h : n / 2 ^ 20 = 172 * 2 ^ 4 + 1)
  | private16 (h : n / 2 ^ 16 = 192 * 2 ^ 8 + 168)
  | linkLocal (h : n / 2 ^ 16 = 169 * 2 ^ 8 + 254)

/-- The same for sixteen bytes; an address of four bytes can be written in them. -/
inductive Internal6 (groups : List Nat) : Prop where
  | loopback (h : groups = List.replicate 7 0 ++ [1])
  | unspecified (h : groups = List.replicate 8 0)
  | uniqueLocal (first : Nat) (h : groups.head? = some first) (hfirst : first / 2 ^ 9 = 0x7E)
  | linkLocal (first : Nat) (h : groups.head? = some first) (hfirst : first / 2 ^ 6 = 0x3FA)
  | mapped (a b : Nat) (h : groups = List.replicate 5 0 ++ [0xFFFF, a, b])
      (hinternal : Internal4 (a * 2 ^ 16 + b))

/-- The host of the authority is internal, where `fold` is what a client makes of the
    text of a host before it reads it. -/
inductive InternalHost (fold : WideText → WideText) (netloc : WideText) : Prop where
  | localhost (name : String) (h : fold (host netloc) = ofString name)
      (hname : Text.lower name = "localhost" ∨ Text.lower name = "localhost.")
  | four (hbare : ¬ IsBracketed netloc) (text : List Char) (n : Nat)
      (h : fold (host netloc) = text.map .char) (haddress : ipv4? text = some n)
      (hinternal : Internal4 n)
  | sixteen (hbracketed : IsBracketed netloc) (text : List Char) (groups : List Nat)
      (h : fold (host netloc) = text.map .char) (haddress : ipv6? text = some groups)
      (hinternal : Internal6 groups)

end Url
