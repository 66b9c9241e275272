import Mathlib.Algebra.Group.Nat.Defs
import Mathlib.Data.Int.Notation

/-! # Dates and times with or without an offset

    A point on the calendar and the clock, to the microsecond, with its offset
    from UTC if it has one, and its ISO 8601 text.  Different points have
    different texts (`isoformat_injective`). -/

/-! ## Instants

    Points in time as microseconds since the Unix epoch, read in UTC, with
    the range that calendar years 1 to 9999 allow and the ISO 8601 text of an
    instant. -/

namespace Clock

/-- Microseconds since the Unix epoch. -/
abbrev Instant := Int

/-- The first instant of year 1. -/
def minInstant : Instant := -62135596800000000

/-- The last instant of year 9999. -/
def maxInstant : Instant := 253402300799999999

/-- The instant `seconds` after `t`, when the calendar still has it. -/
def addSeconds (t : Instant) (seconds : Int) : Option Instant :=
  let r := t + seconds * 1000000
  if minInstant ≤ r ∧ r ≤ maxInstant then some r else none

theorem addSeconds_eq_some {t r : Instant} {seconds : Int} (h : addSeconds t seconds = some r) :
    r = t + seconds * 1000000 := by
  rw [addSeconds] at h
  by_cases hrange : minInstant ≤ t + seconds * 1000000 ∧ t + seconds * 1000000 ≤ maxInstant
  · rw [if_pos hrange] at h
    exact (Option.some.inj h).symm
  · rw [if_neg hrange] at h
    cases h

/-- A decimal numeral padded with zeros to `width`. -/
def padded (width n : Nat) : String :=
  let digits := toString n
  String.ofList (List.replicate (width - digits.length) '0') ++ digits

/-- Year, month and day of a day number counted from the epoch. -/
def civil (days : Int) : Int × Nat × Nat :=
  -- eras of 400 years, counted from 1 March of year 0
  let z := days + 719468
  let era := z / 146097
  let doe := (z % 146097).toNat
  let yoe := (doe - doe / 1460 + doe / 36524 - doe / 146096) / 365
  let doy := doe - (365 * yoe + yoe / 4 - yoe / 100)
  let mp := (5 * doy + 2) / 153
  let day := doy - (153 * mp + 2) / 5 + 1
  let month := if mp < 10 then mp + 3 else mp - 9
  let year := (yoe : Int) + era * 400 + (if month ≤ 2 then 1 else 0)
  (year, month, day)

/-- The calendar date, as `%Y-%m-%d`. -/
def dateText (t : Instant) : String :=
  let (y, m, d) := civil (t / 86400000000)
  padded 4 y.toNat ++ "-" ++ padded 2 m ++ "-" ++ padded 2 d

/-- Date and time in UTC, with `sep` between the two. -/
def isoText (sep : String) (t : Instant) : String :=
  let micros := (t % 86400000000).toNat
  let secs := micros / 1000000
  let frac := micros % 1000000
  dateText t ++ sep ++ padded 2 (secs / 3600) ++ ":" ++ padded 2 (secs / 60 % 60) ++ ":"
    ++ padded 2 (secs % 60) ++ (if frac = 0 then "" else "." ++ padded 6 frac) ++ "+00:00"

/-- `datetime.isoformat()`. -/
def isoformat (t : Instant) : String := isoText "T" t

example : isoformat 1709210096000001 = "2024-02-29T12:34:56.000001+00:00" := by decide

end Clock

namespace Clock

def daysInMonth (year month : Nat) : Nat :=
  if month = 2 then
    if year % 4 = 0 ∧ (year % 100 ≠ 0 ∨ year % 400 = 0) then 29 else 28
  else if month = 4 ∨ month = 6 ∨ month = 9 ∨ month = 11 then 30
  else 31

/-- A `datetime`; the offset is in microseconds, and a naive one has none. -/
structure Datetime where
  year        : Nat
  month       : Nat
  day         : Nat
  hour        : Nat
  minute      : Nat
  second      : Nat
  microsecond : Nat
  offset      : Option Int
  date_valid   : 1 ≤ year ∧ year ≤ 9999 ∧ 1 ≤ month ∧ month ≤ 12 ∧ 1 ≤ day
    ∧ day ≤ daysInMonth year month
  time_valid   : hour < 24 ∧ minute < 60 ∧ second < 60 ∧ microsecond < 1000000
  offset_valid : ∀ o ∈ offset, -86400000000 < o ∧ o < 86400000000
deriving DecidableEq

namespace Datetime

/-- Microseconds behind a point, unless there are none. -/
def fractionText (micros : Nat) : String :=
  if micros = 0 then "" else "." ++ padded 6 micros

/-- `+HH:MM`, with seconds and microseconds where there are any. -/
def offsetText (offset : Int) : String :=
  let micros := offset.natAbs
  let seconds := micros / 1000000
  (if offset < 0 then "-" else "+") ++ padded 2 (seconds / 3600) ++ ":"
    ++ padded 2 (seconds / 60 % 60)
    ++ if micros % 60000000 = 0 then ""
      else ":" ++ padded 2 (seconds % 60) ++ fractionText (micros % 1000000)

/-- `datetime.isoformat()`. -/
def isoformat (t : Datetime) : String :=
  padded 4 t.year ++ "-" ++ padded 2 t.month ++ "-" ++ padded 2 t.day ++ "T"
    ++ padded 2 t.hour ++ ":" ++ padded 2 t.minute ++ ":" ++ padded 2 t.second
    ++ fractionText t.microsecond ++ (t.offset.map offsetText).getD ""

/-- `dt.tzinfo is None`. -/
def Naive (t : Datetime) : Prop := t.offset = none

instance (t : Datetime) : Decidable t.Naive := inferInstanceAs (Decidable (_ = _))

/-- `dt.replace(tzinfo=timezone.utc)`. -/
def inUtc (t : Datetime) : Datetime :=
  { t with
    offset := some 0
    offset_valid := by
      rintro o ⟨⟩
      decide }

/-! ## Padded numerals -/

theorem toList_padded (width n : Nat) :
    (padded width n).toList
      = List.replicate (width - (Nat.toDigits 10 n).length) '0' ++ Nat.toDigits 10 n := by
  have hdigits : (toString n).toList = Nat.toDigits 10 n := Nat.toList_repr
  have hlength : (toString n).length = (Nat.toDigits 10 n).length := by
    rw [← hdigits, String.length_toList]
  rw [padded, String.toList_append, String.toList_ofList, hdigits, hlength]

theorem length_padded {width n : Nat} (hwidth : 0 < width) (h : n < 10 ^ width) :
    (padded width n).toList.length = width := by
  have hle : (Nat.toDigits 10 n).length ≤ width :=
    (Nat.length_toDigits_le_iff (by decide) hwidth).mpr h
  rw [toList_padded, List.length_append, List.length_replicate]
  omega

theorem ofDigitChars_zeros (k : Nat) (ds : List Char) :
    Nat.ofDigitChars 10 (List.replicate k '0' ++ ds) 0 = Nat.ofDigitChars 10 ds 0 := by
  induction k with
  | zero => rfl
  | succ k ih =>
      rw [List.replicate_succ, List.cons_append]
      exact ih

theorem padded_injective {width m n : Nat}
    (h : (padded width m).toList = (padded width n).toList) : m = n := by
  have hvalue := congrArg (fun ds => Nat.ofDigitChars 10 ds 0) h
  simp only [toList_padded, ofDigitChars_zeros, Nat.ofDigitChars_ten_toDigits] at hvalue
  exact hvalue

theorem padded_append_inj (width : Nat) {m n : Nat} {rest rest' : List Char} (hwidth : 0 < width)
    (hm : m < 10 ^ width) (hn : n < 10 ^ width)
    (h : (padded width m).toList ++ rest = (padded width n).toList ++ rest') :
    m = n ∧ rest = rest' := by
  have hlength : (padded width m).toList.length = (padded width n).toList.length := by
    rw [length_padded hwidth hm, length_padded hwidth hn]
  obtain ⟨htext, hrest⟩ := List.append_inj h hlength
  exact ⟨padded_injective htext, hrest⟩

/-! ## Different points have different texts -/

theorem toList_fractionText (micros : Nat) :
    (fractionText micros).toList
      = if micros = 0 then [] else '.' :: (padded 6 micros).toList := by
  rw [fractionText]
  by_cases h : micros = 0
  · rw [if_pos h, if_pos h]
    rfl
  · rw [if_neg h, if_neg h, String.toList_append]
    rfl

theorem fractionText_append_inj {m n : Nat} {rest rest' : List Char} (hm : m < 1000000)
    (hn : n < 1000000) (hrest : rest.head? ≠ some '.') (hrest' : rest'.head? ≠ some '.')
    (h : (fractionText m).toList ++ rest = (fractionText n).toList ++ rest') :
    m = n ∧ rest = rest' := by
  rw [toList_fractionText, toList_fractionText] at h
  by_cases hm0 : m = 0
  · by_cases hn0 : n = 0
    · rw [if_pos hm0, if_pos hn0] at h
      exact ⟨hm0.trans hn0.symm, h⟩
    · rw [if_pos hm0, if_neg hn0] at h
      exact absurd (congrArg List.head? h) hrest
  · by_cases hn0 : n = 0
    · rw [if_neg hm0, if_pos hn0] at h
      exact absurd (congrArg List.head? h).symm hrest'
    · rw [if_neg hm0, if_neg hn0, List.cons_append, List.cons_append] at h
      exact padded_append_inj 6 (by decide) hm hn (List.cons.inj h).2

theorem toList_offsetText (o : Int) :
    (offsetText o).toList
      = (if o < 0 then '-' else '+') :: ((padded 2 (o.natAbs / 1000000 / 3600)).toList
        ++ ':' :: ((padded 2 (o.natAbs / 1000000 / 60 % 60)).toList
        ++ if o.natAbs % 60000000 = 0 then []
          else ':' :: ((padded 2 (o.natAbs / 1000000 % 60)).toList
            ++ (fractionText (o.natAbs % 1000000)).toList))) := by
  have hcolon : (":" : String).toList = [':'] := rfl
  have htail : (if o.natAbs % 60000000 = 0 then "" else
        ":" ++ padded 2 (o.natAbs / 1000000 % 60) ++ fractionText (o.natAbs % 1000000)).toList
      = if o.natAbs % 60000000 = 0 then []
          else ':' :: ((padded 2 (o.natAbs / 1000000 % 60)).toList
            ++ (fractionText (o.natAbs % 1000000)).toList) := by
    by_cases h : o.natAbs % 60000000 = 0
    · rw [if_pos h, if_pos h]
      rfl
    · rw [if_neg h, if_neg h]
      simp only [String.toList_append, hcolon, List.cons_append, List.nil_append]
  have hsign : (if o < 0 then "-" else "+" : String).toList = [if o < 0 then '-' else '+'] := by
    by_cases h : o < 0
    · rw [if_pos h, if_pos h]
      rfl
    · rw [if_neg h, if_neg h]
      rfl
  simp only [offsetText, String.toList_append, htail, hsign, hcolon, List.append_assoc,
    List.cons_append, List.nil_append]

theorem offset_parts (a : Nat) (ha : a < 86400000000) :
    a / 1000000 / 3600 < 10 ^ 2 ∧ a / 1000000 / 60 % 60 < 10 ^ 2
      ∧ a / 1000000 % 60 < 10 ^ 2 ∧ a % 1000000 < 1000000 := by
  omega

theorem offsetText_injective {o o' : Int} (ho : -86400000000 < o ∧ o < 86400000000)
    (ho' : -86400000000 < o' ∧ o' < 86400000000)
    (h : (offsetText o).toList = (offsetText o').toList) : o = o' := by
  obtain ⟨hhour, hminute, hsecond, hmicro⟩ := offset_parts o.natAbs (by omega)
  obtain ⟨hhour', hminute', hsecond', hmicro'⟩ := offset_parts o'.natAbs (by omega)
  rw [toList_offsetText, toList_offsetText] at h
  obtain ⟨hsign, h⟩ := List.cons.inj h
  obtain ⟨hh, h⟩ := padded_append_inj 2 (by decide) hhour hhour' h
  obtain ⟨hm, h⟩ := padded_append_inj 2 (by decide) hminute hminute' (List.cons.inj h).2
  have hrest : o.natAbs % 60000000 = o'.natAbs % 60000000 := by
    by_cases h0 : o.natAbs % 60000000 = 0
    · by_cases h0' : o'.natAbs % 60000000 = 0
      · rw [h0, h0']
      · rw [if_pos h0, if_neg h0'] at h
        cases h
    · by_cases h0' : o'.natAbs % 60000000 = 0
      · rw [if_neg h0, if_pos h0'] at h
        cases h
      · rw [if_neg h0, if_neg h0'] at h
        obtain ⟨hs, h⟩ := padded_append_inj 2 (by decide) hsecond hsecond' (List.cons.inj h).2
        rw [← List.append_nil (fractionText _).toList,
          ← List.append_nil (fractionText (o'.natAbs % 1000000)).toList] at h
        obtain ⟨hf, -⟩ := fractionText_append_inj hmicro hmicro' (by decide) (by decide) h
        omega
  have habs : o.natAbs = o'.natAbs := by
    omega
  have hnegative : o < 0 ↔ o' < 0 := by
    by_cases hneg : o < 0
    · by_cases hneg' : o' < 0
      · exact iff_of_true hneg hneg'
      · rw [if_pos hneg, if_neg hneg'] at hsign
        exact absurd hsign (by decide)
    · by_cases hneg' : o' < 0
      · rw [if_neg hneg, if_pos hneg'] at hsign
        exact absurd hsign (by decide)
      · exact iff_of_false hneg hneg'
  omega

theorem head_offset_ne (o : Option Int) :
    ((o.map offsetText).getD "").toList.head? ≠ some '.' := by
  cases o with
  | none => decide
  | some o =>
      rw [Option.map_some, Option.getD_some, toList_offsetText, List.head?_cons]
      by_cases h : o < 0
      · rw [if_pos h]
        decide
      · rw [if_neg h]
        decide

theorem offset_injective {o o' : Option Int} (ho : ∀ x ∈ o, -86400000000 < x ∧ x < 86400000000)
    (ho' : ∀ x ∈ o', -86400000000 < x ∧ x < 86400000000)
    (h : ((o.map offsetText).getD "").toList = ((o'.map offsetText).getD "").toList) : o = o' := by
  cases o with
  | none =>
      cases o' with
      | none => rfl
      | some y =>
          rw [Option.map_some, Option.getD_some, toList_offsetText] at h
          cases h
  | some x =>
      cases o' with
      | none =>
          rw [Option.map_some, Option.getD_some, toList_offsetText] at h
          cases h
      | some y => exact congrArg some (offsetText_injective (ho x rfl) (ho' y rfl) h)

theorem daysInMonth_le (year month : Nat) : daysInMonth year month ≤ 31 := by
  rw [daysInMonth]
  split
  · split <;> decide
  · split <;> decide

/-- **Different points have different texts.** -/
theorem isoformat_injective : Function.Injective isoformat := by
  intro t t' h
  have hlist := congrArg String.toList h
  obtain ⟨-, hyear, -, hmonth, -, hday⟩ := t.date_valid
  obtain ⟨-, hyear', -, hmonth', -, hday'⟩ := t'.date_valid
  have hdays := daysInMonth_le t.year t.month
  have hdays' := daysInMonth_le t'.year t'.month
  obtain ⟨hhour, hminute, hsecond, hmicro⟩ := t.time_valid
  obtain ⟨hhour', hminute', hsecond', hmicro'⟩ := t'.time_valid
  simp only [isoformat, String.toList_append, List.append_assoc] at hlist
  obtain ⟨hy, hlist⟩ := padded_append_inj 4 (by decide) (by omega) (by omega) hlist
  obtain ⟨hmo, hlist⟩ :=
    padded_append_inj 2 (by decide) (by omega) (by omega) (List.append_cancel_left hlist)
  obtain ⟨hd, hlist⟩ :=
    padded_append_inj 2 (by decide) (by omega) (by omega) (List.append_cancel_left hlist)
  obtain ⟨hh, hlist⟩ :=
    padded_append_inj 2 (by decide) (by omega) (by omega) (List.append_cancel_left hlist)
  obtain ⟨hmi, hlist⟩ :=
    padded_append_inj 2 (by decide) (by omega) (by omega) (List.append_cancel_left hlist)
  obtain ⟨hs, hlist⟩ :=
    padded_append_inj 2 (by decide) (by omega) (by omega) (List.append_cancel_left hlist)
  obtain ⟨hmu, hlist⟩ := fractionText_append_inj hmicro hmicro' (head_offset_ne t.offset)
    (head_offset_ne t'.offset) hlist
  have ho := offset_injective t.offset_valid t'.offset_valid hlist
  cases t
  cases t'
  simp only [Datetime.mk.injEq]
  exact ⟨hy, hmo, hd, hh, hmi, hs, hmu, ho⟩

end Datetime

end Clock
