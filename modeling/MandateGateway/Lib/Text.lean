import MandateGateway.Lib.UnicodeCase
import Mathlib.Data.List.Infix

/-! # Text operations on Unicode strings

    Trimming of surrounding whitespace, full Unicode lower-casing (with the
    final-sigma rule) and substring search, on lists of characters and on
    strings. -/

namespace Text

open UnicodeCase

/-- Unicode whitespace, as `str.isspace` has it for one character. -/
def isSpace (c : Char) : Bool :=
  let n := c.toNat
  (0x09 ≤ n && n ≤ 0x0D) || (0x1C ≤ n && n ≤ 0x20) || n == 0x85 || n == 0xA0
    || n == 0x1680 || (0x2000 ≤ n && n ≤ 0x200A) || n == 0x2028 || n == 0x2029
    || n == 0x202F || n == 0x205F || n == 0x3000

/-- Remove leading whitespace. -/
def trimLeft : List Char → List Char
  | [] => []
  | c :: cs => if isSpace c then trimLeft cs else c :: cs

/-- Remove leading and trailing whitespace: `str.strip()`. -/
def strip (s : String) : String :=
  String.ofList (trimLeft (trimLeft s.toList).reverse).reverse

/-- Whether the first character that is not case-ignorable is cased. -/
def startsCased : List Char → Bool
  | [] => false
  | c :: cs =>
      if inRanges c.toNat caseIgnorableRanges then startsCased cs
      else inRanges c.toNat casedRanges

/-- The lower-case mapping of a character other than capital sigma. -/
def lowerChar (c : Char) : List Char :=
  if c.toNat < 128 then [c.toLower]
  else if c.toNat = 0x130 then ['i', Char.ofNat 0x307]
  else [Char.ofNat ((c.toNat : Int) + lowerOffset c.toNat).toNat]

/-- Lower-casing of the second list, which follows the reversed first one. -/
def lowerChars : List Char → List Char → List Char
  | _, [] => []
  | seen, c :: rest =>
      let image :=
        if c.toNat = 0x3A3 then
          -- a capital sigma is final after a cased letter and before none
          if startsCased seen && !startsCased rest then [Char.ofNat 0x3C2]
          else [Char.ofNat 0x3C3]
        else lowerChar c
      image ++ lowerChars (c :: seen) rest

/-- `str.lower()`. -/
def lower (s : String) : String := String.ofList (lowerChars [] s.toList)

/-- The upper case of a character, when it is all ASCII; else the character. -/
def upperAsciiChar (c : Char) : List Char :=
  match c.toNat with
  | 0xDF => ['S', 'S']
  | 0x131 => ['I']
  | 0x17F => ['S']
  | 0xFB00 => ['F', 'F']
  | 0xFB01 => ['F', 'I']
  | 0xFB02 => ['F', 'L']
  | 0xFB03 => ['F', 'F', 'I']
  | 0xFB04 => ['F', 'F', 'L']
  | 0xFB05 | 0xFB06 => ['S', 'T']
  | _ => [c.toUpper]

/-- `str.upper()`, as far as comparisons with ASCII words tell. -/
def upperAscii (s : String) : String := String.ofList (s.toList.flatMap upperAsciiChar)

/-- Whether `needle` occurs in `hay`. -/
def occursIn (needle hay : String) : Bool :=
  decide (needle.toList <:+: hay.toList)

/-- A list without the occurrences of another one, from the left; the number
    counts what is left of the occurrence at hand. -/
def removeFrom (needle : List Char) : Nat → List Char → List Char
  | _, [] => []
  | skip + 1, _ :: cs => removeFrom needle skip cs
  | 0, c :: cs =>
      if needle.isPrefixOf (c :: cs) then removeFrom needle (needle.length - 1) cs
      else c :: removeFrom needle 0 cs

/-- `text.replace(needle, "")`, for a needle that is not empty. -/
def remove (needle text : String) : String :=
  String.ofList (removeFrom needle.toList 0 text.toList)

/-- `text.split(sep)`, for a separator of one character. -/
def splitAt (sep : Char) (text : String) : List String :=
  (text.toList.splitOn sep).map String.ofList

/-- `text.split()`. -/
def words (text : String) : List String :=
  ((text.toList.splitOnP isSpace).filter fun w => w ≠ []).map String.ofList

/-- A two-digit hexadecimal escape. -/
def hexEscape (n : Nat) : List Char :=
  [Char.ofNat 92, 'x', Nat.digitChar (n / 16), Nat.digitChar (n % 16)]

/-- The characters of a quoted string for one character of its text. -/
def quoteChar (quote c : Char) : List Char :=
  if c = quote ∨ c.toNat = 92 then [Char.ofNat 92, c]
  else if c = '\t' then [Char.ofNat 92, 't']
  else if c = '\n' then [Char.ofNat 92, 'n']
  else if c = '\r' then [Char.ofNat 92, 'r']
  else if c.toNat < 0x20 ∨ (0x7F ≤ c.toNat ∧ c.toNat ≤ 0xA0) ∨ c.toNat = 0xAD then
    hexEscape c.toNat
  else [c]

/-- `repr(s)`: single quotes, unless only they would need escaping. -/
def quoted (s : String) : String :=
  let single := Char.ofNat 39
  let double := Char.ofNat 34
  let quote := if s.toList.contains single && !s.toList.contains double then double else single
  String.ofList (quote :: s.toList.flatMap (quoteChar quote) ++ [quote])

/-! ## Trimming -/

def startsTrimmed (l : List Char) : Prop := ∀ c ∈ l.head?, isSpace c = false

theorem trimLeft_eq_self {l : List Char} (h : startsTrimmed l) : trimLeft l = l := by
  cases l with
  | nil => rfl
  | cons c cs =>
      have hc : ¬ isSpace c = true := by
        rw [h c rfl]
        exact Bool.false_ne_true
      rw [trimLeft, if_neg hc]

theorem startsTrimmed_trimLeft (l : List Char) : startsTrimmed (trimLeft l) := by
  induction l with
  | nil =>
      intro c hc
      cases hc
  | cons c cs ih =>
      rw [trimLeft]
      by_cases hc : isSpace c = true
      · rw [if_pos hc]
        exact ih
      · rw [if_neg hc]
        intro d hd
        obtain rfl := Option.some.inj hd
        exact eq_false_of_ne_true hc

theorem trimLeft_suffix (l : List Char) : trimLeft l <:+ l := by
  induction l with
  | nil => exact List.suffix_refl []
  | cons c cs ih =>
      rw [trimLeft]
      by_cases hc : isSpace c = true
      · rw [if_pos hc]
        exact ih.trans (List.suffix_cons c cs)
      · rewrite [if_neg hc]
        exact List.suffix_refl _

/-- A prefix of a text that starts trimmed starts trimmed. -/
theorem startsTrimmed.of_prefix {l m : List Char} (h : startsTrimmed l) (hm : m <+: l) :
    startsTrimmed m := by
  cases m with
  | nil =>
      intro c hc
      cases hc
  | cons c cs =>
      obtain ⟨rest, rfl⟩ := hm
      exact h

/-- **Trimming a trimmed text leaves it alone.** -/
theorem strip_strip (s : String) : strip (strip s) = strip s := by
  have hleft := startsTrimmed_trimLeft s.toList
  have hright := startsTrimmed_trimLeft (trimLeft s.toList).reverse
  -- what the second trimming leaves is a prefix of what the first one left
  have hprefix : (trimLeft (trimLeft s.toList).reverse).reverse <+: trimLeft s.toList := by
    have hsuffix := trimLeft_suffix (trimLeft s.toList).reverse
    rw [← List.reverse_prefix, List.reverse_reverse] at hsuffix
    exact hsuffix
  rw [strip, strip, String.toList_ofList, trimLeft_eq_self (hleft.of_prefix hprefix),
    List.reverse_reverse, trimLeft_eq_self hright]

theorem strip_eq_self {s : String} (h : ∀ c ∈ s.toList, isSpace c = false) : strip s = s := by
  have hstarts : startsTrimmed s.toList := by
    intro c hc
    exact h c (List.mem_of_mem_head? hc)
  have hends : startsTrimmed s.toList.reverse := by
    intro c hc
    exact h c (List.mem_reverse.mp (List.mem_of_mem_head? hc))
  rw [strip, trimLeft_eq_self hstarts, trimLeft_eq_self hends, List.reverse_reverse,
    String.ofList_toList]

/-- The text has characters, and none of them is whitespace. -/
def Solid (s : String) : Prop := s ≠ "" ∧ ∀ c ∈ s.toList, isSpace c = false

theorem solid_of_all {s : String} (hne : s ≠ "")
    (hall : (s.toList.all fun c => !isSpace c) = true) : Solid s := by
  refine ⟨hne, fun c hc => ?_⟩
  have hnot := List.all_eq_true.mp hall c hc
  rw [Bool.not_eq_true'] at hnot
  exact hnot

theorem Solid.strip {s : String} (h : Solid s) : strip s = s := strip_eq_self h.2

theorem Solid.append {s t : String} (hs : Solid s) (ht : Solid t) : Solid (s ++ t) := by
  refine ⟨?_, ?_⟩
  · intro hempty
    have hlist := congrArg String.toList hempty
    rw [String.toList_append] at hlist
    exact hs.1 (String.toList_injective (List.append_eq_nil_iff.mp hlist).1)
  · intro c hc
    rw [String.toList_append, List.mem_append] at hc
    exact hc.elim (hs.2 c) (ht.2 c)

example : strip " \tab c\n" = "ab c" := by decide

example : lower "ΟΔΟΣ Kİ" = "οδος ki̇" := by decide +kernel

/-! ## Lower-casing -/

theorem lowerChar_ne_nil (c : Char) : lowerChar c ≠ [] := by
  rw [lowerChar]
  by_cases hascii : c.toNat < 128
  · rw [if_pos hascii]
    exact List.cons_ne_nil _ _
  · rw [if_neg hascii]
    by_cases hdotted : c.toNat = 0x130
    · rw [if_pos hdotted]
      exact List.cons_ne_nil _ _
    · rw [if_neg hdotted]
      exact List.cons_ne_nil _ _

theorem lowerChars_ne_nil {l : List Char} (h : l ≠ []) (seen : List Char) :
    lowerChars seen l ≠ [] := by
  cases l with
  | nil => exact absurd rfl h
  | cons c rest =>
      rw [lowerChars]
      intro hnil
      obtain ⟨himage, -⟩ := List.append_eq_nil_iff.mp hnil
      by_cases hsigma : c.toNat = 0x3A3
      · rw [if_pos hsigma] at himage
        by_cases hfinal : (startsCased seen && !startsCased rest) = true
        · rw [if_pos hfinal] at himage
          cases himage
        · rw [if_neg hfinal] at himage
          cases himage
      · rw [if_neg hsigma] at himage
        exact lowerChar_ne_nil c himage

theorem lowerChars_of_ascii {l : List Char} (h : ∀ c ∈ l, c.toNat < 128) (seen : List Char) :
    lowerChars seen l = l.map Char.toLower := by
  induction l generalizing seen with
  | nil => rfl
  | cons c rest ih =>
      obtain ⟨hc, hrest⟩ := List.forall_mem_cons.mp h
      have hsigma : ¬ c.toNat = 0x3A3 := by omega
      rw [lowerChars, ih hrest, if_neg hsigma, lowerChar, if_pos hc]
      rfl

theorem lower_ne_empty {s : String} (h : s ≠ "") : lower s ≠ "" := by
  intro hempty
  refine lowerChars_ne_nil (l := s.toList) ?_ [] ?_
  · intro hnil
    exact h (String.toList_eq_nil_iff.mp hnil)
  · have hchars := congrArg String.toList hempty
    rwa [lower, String.toList_ofList] at hchars

end Text
