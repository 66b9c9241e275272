import MandateGateway.Lib.Binary64
import MandateGateway.Lib.Datetime
import Mathlib.Algebra.GroupWithZero.Nat

/-! # Reading dates and times

    A reader of the texts that `isoformat` writes, and the law that readers of
    ISO 8601 texts share: what `isoformat` writes is read back. -/

namespace Clock.Datetime

/-- A numeral of fixed width at the front of a text. -/
def readNumeral (width : Nat) (cs : List Char) : Option (Nat × List Char) :=
  if (cs.take width).length = width ∧ (cs.take width).all Char.isDigit = true then
    some (Nat.ofDigitChars 10 (cs.take width) 0, cs.drop width)
  else none

/-- The text behind a character. -/
def readMark (mark : Char) : List Char → Option (List Char)
  | [] => none
  | c :: cs => if c = mark then some cs else none

/-- Microseconds behind a point, if there are any. -/
def readFraction : List Char → Option (Nat × List Char)
  | [] => some (0, [])
  | c :: cs => if c = '.' then readNumeral 6 cs else some (0, c :: cs)

/-- Seconds and microseconds of an offset, up to the end of the text. -/
def readOffsetTail : List Char → Option (Nat × Nat)
  | [] => some (0, 0)
  | c :: cs =>
      if c = ':' then
        (readNumeral 2 cs).bind fun second => (readFraction second.2).bind fun fraction =>
          if fraction.2 = [] then some (second.1, fraction.1) else none
      else none

/-- The offset at the end of a text, or none. -/
def readOffset : List Char → Option (Option Int)
  | [] => some none
  | sign :: cs =>
      if sign = '+' ∨ sign = '-' then
        (readNumeral 2 cs).bind fun hour => (readMark ':' hour.2).bind fun cs =>
          (readNumeral 2 cs).bind fun minute => (readOffsetTail minute.2).map fun tail =>
            let micros : Int :=
              (((hour.1 * 60 + minute.1) * 60 + tail.1) * 1000000 + tail.2 : Nat)
            some (if sign = '-' then -micros else micros)
      else none

/-- The point with these parts, if there is one. -/
def ofParts (year month day hour minute second microsecond : Nat) (offset : Option Int) :
    Option Datetime :=
  if hdate : 1 ≤ year ∧ year ≤ 9999 ∧ 1 ≤ month ∧ month ≤ 12 ∧ 1 ≤ day
      ∧ day ≤ daysInMonth year month then
    if htime : hour < 24 ∧ minute < 60 ∧ second < 60 ∧ microsecond < 1000000 then
      if hoffset : ∀ o ∈ offset, -86400000000 < o ∧ o < 86400000000 then
        some ⟨year, month, day, hour, minute, second, microsecond, offset, hdate, htime, hoffset⟩
      else none
    else none
  else none

/-- The point whose text `isoformat` writes so. -/
def ofIsoformat (text : String) : Option Datetime :=
  (readNumeral 4 text.toList).bind fun year => (readMark '-' year.2).bind fun cs =>
  (readNumeral 2 cs).bind fun month => (readMark '-' month.2).bind fun cs =>
  (readNumeral 2 cs).bind fun day => (readMark 'T' day.2).bind fun cs =>
  (readNumeral 2 cs).bind fun hour => (readMark ':' hour.2).bind fun cs =>
  (readNumeral 2 cs).bind fun minute => (readMark ':' minute.2).bind fun cs =>
  (readNumeral 2 cs).bind fun second => (readFraction second.2).bind fun fraction =>
  (readOffset fraction.2).bind fun offset =>
    ofParts year.1 month.1 day.1 hour.1 minute.1 second.1 fraction.1 offset

/-! ## What is written is read back -/

theorem readNumeral_padded {width n : Nat} (hwidth : 0 < width) (h : n < 10 ^ width)
    (rest : List Char) :
    readNumeral width ((padded width n).toList ++ rest) = some (n, rest) := by
  have hlength := length_padded hwidth h
  have htake : ((padded width n).toList ++ rest).take width = (padded width n).toList :=
    List.take_left' hlength
  have hdrop : ((padded width n).toList ++ rest).drop width = rest :=
    List.drop_left' hlength
  have hdigits : (padded width n).toList.all Char.isDigit = true := by
    rw [List.all_eq_true, toList_padded]
    intro c hc
    rcases List.mem_append.mp hc with hzero | hdigit
    · rw [List.eq_of_mem_replicate hzero]
      rfl
    · exact Nat.isDigit_of_mem_toDigits (by decide) (by decide) hdigit
  have hvalue : Nat.ofDigitChars 10 (padded width n).toList 0 = n := by
    rw [toList_padded, ofDigitChars_zeros, Nat.ofDigitChars_ten_toDigits]
  rw [readNumeral, htake, hdrop, if_pos ⟨hlength, hdigits⟩, hvalue]

theorem readMark_cons (mark : Char) (cs : List Char) : readMark mark (mark :: cs) = some cs :=
  if_pos rfl

theorem readFraction_fractionText {micros : Nat} (h : micros < 1000000) {rest : List Char}
    (hrest : rest.head? ≠ some '.') :
    readFraction ((fractionText micros).toList ++ rest) = some (micros, rest) := by
  rw [toList_fractionText]
  by_cases hzero : micros = 0
  · rw [if_pos hzero, List.nil_append, hzero]
    cases rest with
    | nil => rfl
    | cons c cs =>
        have hc : c ≠ '.' := fun hc => hrest (congrArg some hc)
        rw [readFraction, if_neg hc]
  · rw [if_neg hzero, List.cons_append, readFraction, if_pos rfl]
    exact readNumeral_padded (by decide) h rest

theorem readOffset_offsetText {o : Int} (ho : -86400000000 < o ∧ o < 86400000000) :
    readOffset (offsetText o).toList = some (some o) := by
  obtain ⟨hhour, hminute, hsecond, hmicro⟩ := offset_parts o.natAbs (by omega)
  -- seconds and microseconds are written where they are not both zero
  have htail : readOffsetTail (if o.natAbs % 60000000 = 0 then []
      else ':' :: ((padded 2 (o.natAbs / 1000000 % 60)).toList
        ++ (fractionText (o.natAbs % 1000000)).toList))
      = some (o.natAbs / 1000000 % 60, o.natAbs % 1000000) := by
    by_cases hzero : o.natAbs % 60000000 = 0
    · have hsecond0 : o.natAbs / 1000000 % 60 = 0 := by omega
      have hmicro0 : o.natAbs % 1000000 = 0 := by omega
      rw [if_pos hzero, hsecond0, hmicro0]
      rfl
    · have hfraction : readFraction ((fractionText (o.natAbs % 1000000)).toList ++ [])
          = some (o.natAbs % 1000000, []) := readFraction_fractionText hmicro nofun
      rw [List.append_nil] at hfraction
      rw [if_neg hzero, readOffsetTail, if_pos rfl, readNumeral_padded (by decide) hsecond,
        Option.bind_some, hfraction, Option.bind_some, if_pos rfl]
  have hvalue : ((((o.natAbs / 1000000 / 3600 * 60 + o.natAbs / 1000000 / 60 % 60) * 60
      + o.natAbs / 1000000 % 60) * 1000000 + o.natAbs % 1000000 : Nat) : Int) = o.natAbs := by
    omega
  rw [toList_offsetText]
  by_cases hneg : o < 0
  · rw [if_pos hneg, readOffset, if_pos (.inr rfl), readNumeral_padded (by decide) hhour,
      Option.bind_some, readMark_cons, Option.bind_some, readNumeral_padded (by decide) hminute,
      Option.bind_some, htail, Option.map_some]
    simp only [if_pos, hvalue]
    have hsign : -(o.natAbs : Int) = o := by omega
    rw [hsign]
  · have hplus : ('+' : Char) ≠ '-' := by decide
    rw [if_neg hneg, readOffset, if_pos (.inl rfl), readNumeral_padded (by decide) hhour,
      Option.bind_some, readMark_cons, Option.bind_some, readNumeral_padded (by decide) hminute,
      Option.bind_some, htail, Option.map_some]
    simp only [if_neg hplus, hvalue]
    have hsign : (o.natAbs : Int) = o := by omega
    rw [hsign]

theorem ofParts_self (t : Datetime) :
    ofParts t.year t.month t.day t.hour t.minute t.second t.microsecond t.offset = some t := by
  rw [ofParts, dif_pos t.date_valid, dif_pos t.time_valid, dif_pos t.offset_valid]

/-- **The text of a point is read back as the point.** -/
theorem ofIsoformat_isoformat (t : Datetime) : ofIsoformat t.isoformat = some t := by
  obtain ⟨-, hyear, -, hmonth, -, hday⟩ := t.date_valid
  have hdays := daysInMonth_le t.year t.month
  obtain ⟨hhour, hminute, hsecond, hmicro⟩ := t.time_valid
  have hoffset : readOffset ((t.offset.map offsetText).getD "").toList = some t.offset := by
    cases ho : t.offset with
    | none => rfl
    | some o =>
        rw [Option.map_some, Option.getD_some]
        exact readOffset_offsetText (t.offset_valid o ho)
  have hdash : ("-" : String).toList = ['-'] := rfl
  have htee : ("T" : String).toList = ['T'] := rfl
  have hcolon : (":" : String).toList = [':'] := rfl
  have hfour : ∀ rest, readNumeral 4 ((padded 4 t.year).toList ++ rest) = some (t.year, rest) :=
    readNumeral_padded (by decide) (by omega)
  have htwo : ∀ n < 60, ∀ rest, readNumeral 2 ((padded 2 n).toList ++ rest) = some (n, rest) :=
    fun n hn => readNumeral_padded (by decide) (by omega)
  rw [ofIsoformat, isoformat]
  simp only [String.toList_append, List.append_assoc, hdash, htee, hcolon, List.cons_append,
    List.nil_append,
    hfour, htwo t.month (by omega), htwo t.day (by omega), htwo t.hour (by omega),
    htwo t.minute hminute, htwo t.second hsecond, readMark_cons, Option.bind_some,
    readFraction_fractionText hmicro (head_offset_ne t.offset), hoffset, ofParts_self]

end Clock.Datetime

namespace Clock

/-- `datetime.fromisoformat`, of which callers use only that it reads back what
    `isoformat` writes; `none` where it raises. -/
structure DatetimeReader where
  read           : String → Option Datetime
  read_isoformat : ∀ t : Datetime, read t.isoformat = some t

/-- The reader of the texts of `isoformat` and no others. -/
def DatetimeReader.strict : DatetimeReader :=
  ⟨Datetime.ofIsoformat, Datetime.ofIsoformat_isoformat⟩

end Clock

/-! ## The time between two datetimes

    Two naive datetimes are subtracted by their clocks and two aware ones by
    the points in time that they name; a naive and an aware one cannot be
    subtracted. -/

namespace Clock.Datetime

def daysBeforeMonth (year month : Nat) : Nat :=
  ((List.range (month - 1)).map fun m => daysInMonth year (m + 1)).sum

/-- `date.toordinal()`: 1 January of year 1 is day 1. -/
def ordinal (t : Datetime) : Nat :=
  let y := t.year - 1
  365 * y + y / 4 - y / 100 + y / 400 + daysBeforeMonth t.year t.month + t.day

/-- Microseconds since the beginning of year 1, in UTC where there is an offset. -/
def micros (t : Datetime) : Int :=
  ((((t.ordinal - 1) * 24 + t.hour) * 60 + t.minute) * 60 + t.second : Nat) * 1000000
    + t.microsecond - t.offset.getD 0

/-- Both are naive, or both are aware. -/
def SameKind (a b : Datetime) : Prop := a.Naive ↔ b.Naive

instance (a b : Datetime) : Decidable (SameKind a b) :=
  inferInstanceAs (Decidable (_ ↔ _))

/-- `a - b` in microseconds. -/
def sub (a b : Datetime) : Option Int := if SameKind a b then some (a.micros - b.micros) else none

/-- `timedelta.total_seconds()`. -/
def totalSeconds (micros : Int) : Binary64 := Binary64.ofRat (micros / 1000000)

/-- `x >= n` for an integer. -/
def reaches (n : Int) : Binary64 → Bool
  | .finite q => decide (n ≤ q)
  | .infinite negative => !negative
  | .nan => false

example : (ofParts 2024 3 1 0 0 0 0 none).bind
    (fun a => (ofParts 2024 2 28 23 0 0 0 none).bind a.sub) = some 90000000000 := by decide

end Clock.Datetime
