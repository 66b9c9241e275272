import MandateGateway.Intent.AuthorityScan
import MandateGateway.Policy.Records

/-! # The fields of an intent

    The checks of single fields: identifiers, the prompt, the closed
    vocabularies, and amounts in paise.  Of each it is said what it accepts
    (`_eq_ok_iff`), and when no error leaves it but one of the normalizer
    (`_contained`): an amount in text is converted by `int` once `str.isdigit`
    has passed it, and `int` knows fewer digits and shorter texts. -/

namespace MandateGateway

open Exceptions
open WideText (ofString)

namespace IntentNormalizer

/-! ## Identifiers and the prompt -/

/-- A character of the class `[a-zA-Z0-9_\-\.:]`. -/
def isIdentifierChar (c : Char) : Bool :=
  c.isAlphanum || c == '_' || c == '-' || c == '.' || c == ':'

def maxIdentifierLength : Nat := 255

def unsafeIdentifier (fieldName : String) : IntentError :=
  .identity (ofString (s!"Field '{fieldName}' contains unsafe characters. "
    ++ "Allowed pattern: [a-zA-Z0-9_\\-\\.:]."))

def validateIdentifier (value : RawValue) (fieldName : String) : Except IntentError String :=
  match value with
  | .str s =>
      let clean := WideText.strip s
      let length := clean.length
      if clean = [] then
        .error (.identity (ofString s!"Field '{fieldName}' cannot be empty or whitespace."))
      else if maxIdentifierLength < length then
        .error (.identity (ofString (s!"Field '{fieldName}' length ({length}) "
          ++ s!"exceeds maximum allowed limit of {maxIdentifierLength}.")))
      else
        match WideText.scalars? clean with
        | some text =>
            if text.toList.all isIdentifierChar then .ok text
            else .error (unsafeIdentifier fieldName)
        | none => .error (unsafeIdentifier fieldName)
  | _ => .error (.identity (ofString s!"Field '{fieldName}' must be a non-empty string."))

/-- The value is this identifier, up to surrounding whitespace. -/
structure IsIdentifier (value : RawValue) (text : String) : Prop where
  named   : ∃ s, value = .str s ∧ WideText.strip s = ofString text
  ne      : text ≠ ""
  bounded : text.length ≤ maxIdentifierLength
  safe    : text.toList.all isIdentifierChar = true

theorem ofString_eq_nil_iff {text : String} : ofString text = [] ↔ text = "" :=
  ⟨fun h => WideText.ofString_injective h, fun h => by rw [h]; rfl⟩

theorem validateIdentifier_eq_ok_iff {value : RawValue} {fieldName text : String} :
    validateIdentifier value fieldName = .ok text ↔ IsIdentifier value text := by
  cases value with
  | none | bool _ | int _ | float _ | list _ | dict _ =>
      refine ⟨fun h => ?_, fun h => ?_⟩
      · cases h
      · obtain ⟨s, hvalue, -⟩ := h.named
        cases hvalue
  | str s =>
      constructor
      · intro h
        obtain ⟨hne, h⟩ := guard_eq_ok_iff.mp h
        obtain ⟨hlength, h⟩ := guard_eq_ok_iff.mp h
        cases hscalars : WideText.scalars? (WideText.strip s) with
        | none =>
            rw [hscalars] at h
            cases h
        | some text' =>
            rw [hscalars] at h
            dsimp only at h
            have htext := WideText.scalars?_eq_some_iff.mp hscalars
            by_cases hsafe : text'.toList.all isIdentifierChar = true
            · rw [if_pos hsafe] at h
              obtain rfl := Except.ok.inj h
              rw [htext, WideText.length_ofString, not_lt] at hlength
              rw [htext, ofString_eq_nil_iff] at hne
              exact ⟨⟨s, rfl, htext⟩, hne, hlength, hsafe⟩
            · rw [if_neg hsafe] at h
              cases h
      · rintro ⟨⟨s', hvalue, htext⟩, hne, hlength, hsafe⟩
        obtain rfl := RawValue.str.inj hvalue
        refine guard_eq_ok_iff.mpr ⟨?_, guard_eq_ok_iff.mpr ⟨?_, ?_⟩⟩
        · rw [htext, ofString_eq_nil_iff]
          exact hne
        · rw [htext, WideText.length_ofString, not_lt]
          exact hlength
        · rw [WideText.scalars?_eq_some_iff.mpr htext]
          exact if_pos hsafe

theorem validateIdentifier_contained (value : RawValue) (fieldName : String) :
    Contained (validateIdentifier value fieldName) := by
  cases value with
  | none | bool _ | int _ | float _ | list _ | dict _ => exact raises_error_iff.mpr trivial
  | str s =>
      refine raises_guard_iff.mpr ⟨fun _ => trivial, fun _ => raises_guard_iff.mpr
        ⟨fun _ => trivial, fun _ => ?_⟩⟩
      cases WideText.scalars? (WideText.strip s) with
      | none => exact raises_error_iff.mpr trivial
      | some text =>
          by_cases hsafe : text.toList.all isIdentifierChar = true
          · dsimp only
            rw [if_pos hsafe]
            exact raises_ok _ text
          · dsimp only
            rw [if_neg hsafe]
            exact raises_error_iff.mpr trivial

def maxRawPromptLength : Nat := 5000

def sanitizePrompt (prompt : RawValue) : Except IntentError WideText :=
  match prompt with
  | .str s =>
      let clean := WideText.strip s
      let length := clean.length
      if clean = [] then .error (.structural (ofString "Field 'raw_prompt' cannot be empty."))
      else if maxRawPromptLength < length then
        .error (.structural (ofString (s!"Field 'raw_prompt' length ({length}) exceeds maximum "
          ++ s!"allowed limit of {maxRawPromptLength}.")))
      else .ok clean
  | _ => .error (.structural (ofString "Field 'raw_prompt' must be a non-empty string."))

/-- The value is this text, up to surrounding whitespace. -/
structure IsPrompt (prompt : RawValue) (clean : WideText) : Prop where
  given   : ∃ s, prompt = .str s ∧ WideText.strip s = clean
  ne      : clean ≠ []
  bounded : clean.length ≤ maxRawPromptLength

theorem sanitizePrompt_eq_ok_iff {prompt : RawValue} {clean : WideText} :
    sanitizePrompt prompt = .ok clean ↔ IsPrompt prompt clean := by
  cases prompt with
  | none | bool _ | int _ | float _ | list _ | dict _ =>
      refine ⟨fun h => ?_, fun h => ?_⟩
      · cases h
      · obtain ⟨s, hvalue, -⟩ := h.given
        cases hvalue
  | str s =>
      constructor
      · intro h
        obtain ⟨hne, h⟩ := guard_eq_ok_iff.mp h
        obtain ⟨hlength, h⟩ := guard_eq_ok_iff.mp h
        obtain rfl := Except.ok.inj h
        exact ⟨⟨s, rfl, rfl⟩, hne, not_lt.mp hlength⟩
      · rintro ⟨⟨s', hvalue, rfl⟩, hne, hlength⟩
        obtain rfl := RawValue.str.inj hvalue
        exact guard_eq_ok_iff.mpr ⟨hne, guard_eq_ok_iff.mpr ⟨not_lt.mpr hlength, rfl⟩⟩

theorem sanitizePrompt_contained (prompt : RawValue) : Contained (sanitizePrompt prompt) := by
  cases prompt with
  | none | bool _ | int _ | float _ | list _ | dict _ => exact raises_error_iff.mpr trivial
  | str s =>
      exact raises_guard_iff.mpr ⟨fun _ => trivial, fun _ => raises_guard_iff.mpr
        ⟨fun _ => trivial, fun _ => raises_ok _ _⟩⟩

/-! ## Closed vocabularies -/

section
variable {ε : Type}

/-- A member of an enumeration, by its folded text. -/
def chosen (blank : IntentError) (unsupported : WideText → IntentError)
    (fold : WideText → WideText) (all : List ε) (value : ε → String) (val : RawValue) :
    Except IntentError ε :=
  match val with
  | .str s =>
      if WideText.strip s = [] then .error blank
      else
        match all.find? fun e => ofString (value e) = fold (WideText.strip s) with
        | some e => .ok e
        | none => .error (unsupported s)
  | _ => .error blank

theorem chosen_contained {blank : IntentError} {unsupported : WideText → IntentError}
    (hblank : blank.IsNormalization) (hunsupported : ∀ s, (unsupported s).IsNormalization)
    (fold : WideText → WideText) (all : List ε) (value : ε → String) (val : RawValue) :
    Contained (chosen blank unsupported fold all value val) := by
  cases val with
  | none | bool _ | int _ | float _ | list _ | dict _ => exact raises_error_iff.mpr hblank
  | str s =>
      refine raises_guard_iff.mpr ⟨fun _ => hblank, fun _ => ?_⟩
      cases all.find? fun e => ofString (value e) = fold (WideText.strip s) with
      | none => exact raises_error_iff.mpr (hunsupported s)
      | some e => exact raises_ok _ e

end

def validateCurrency : RawValue → Except IntentError Currency :=
  chosen (.monetary (ofString "Currency must be an explicit ISO string (e.g., 'INR')."))
    (fun val => .monetary (ofString "Unsupported currency '" ++ val
      ++ ofString "'. Supported currencies: INR, USD."))
    WideText.upperAscii [.inr, .usd] Currency.value

def validateRegion : RawValue → Except IntentError Region :=
  chosen (.structural (ofString "Region must be a non-empty string (e.g., 'IN')."))
    (fun val => .structural (ofString "Unsupported region '" ++ val
      ++ ofString "'. Supported regions: IN, US."))
    WideText.upperAscii [.inRegion, .us] Region.value

def validateOperation : RawValue → Except IntentError McpOperation :=
  chosen (.structural (ofString "Operation must be a non-empty string."))
    (fun val => .structural (ofString "Unsupported MCP operation '" ++ val
      ++ ofString ("'. Allowed operations: create_order, create_payment_link, fetch_payment, "
        ++ "payout, settlement, bank_transfer.")))
    WideText.lower McpOperation.all McpOperation.value

theorem validateCurrency_contained (val : RawValue) : Contained (validateCurrency val) := by
  rw [validateCurrency]
  apply chosen_contained
  · trivial
  · exact fun _ => trivial

theorem validateRegion_contained (val : RawValue) : Contained (validateRegion val) := by
  rw [validateRegion]
  apply chosen_contained
  · trivial
  · exact fun _ => trivial

theorem validateOperation_contained (val : RawValue) : Contained (validateOperation val) := by
  rw [validateOperation]
  apply chosen_contained
  · trivial
  · exact fun _ => trivial

/-! ## Amounts -/

/-- `int(text)` of a text of digits. -/
def readInt (digits : WideText) : Except IntentError Int :=
  match WideText.decimal? digits with
  | some n => if digits.length ≤ 4300 then .ok n else .error (.escaped .valueError)
  | none => .error (.escaped .valueError)

/-- What an amount is before its sign is looked at. -/
def amountOf (val : RawValue) (fieldName : String) : Except IntentError Int :=
  match val with
  | .float _ =>
      .error (.monetary (ofString (s!"Field '{fieldName}' must be an exact integer paise amount, "
        ++ "floats are forbidden to prevent rounding errors.")))
  | .str s =>
      if WideText.isDigits (WideText.strip s) = false then
        .error (.monetary (ofString s!"Field '{fieldName}' contains non-integer value '" ++ s
          ++ ofString "'."))
      else readInt (WideText.strip s)
  | .int i => .ok i
  | _ => .error (.monetary (ofString s!"Field '{fieldName}' must be an integer paise amount."))

def validateIntegerAmount (val : RawValue) (fieldName : String) : Except IntentError Int := do
  let intVal ← amountOf val fieldName
  if intVal < 0 then .error (.monetary (ofString s!"Field '{fieldName}' cannot be negative."))
  else .ok intVal

/-- The text writes this number in decimal digits, and `int` takes it. -/
structure Writes (digits : WideText) (n : Nat) : Prop where
  allDigits : WideText.isDigits digits = true
  value     : WideText.decimal? digits = some n
  short     : digits.length ≤ 4300

/-- The value is this amount: an integer, or a text of digits. -/
inductive IsAmount : RawValue → Int → Prop where
  | int (i : Int) (hnonneg : 0 ≤ i) : IsAmount (.int i) i
  | text (s : WideText) (n : Nat) (hwrites : Writes (WideText.strip s) n) : IsAmount (.str s) n

/-- A text that `str.isdigit` passes is one that `int` takes. -/
def Convertible (val : RawValue) : Prop :=
  ∀ s, val = .str s → WideText.isDigits (WideText.strip s) = true →
    ∃ n, Writes (WideText.strip s) n

theorem readInt_eq_ok_iff {digits : WideText} {i : Int}
    (hdigits : WideText.isDigits digits = true) :
    readInt digits = .ok i ↔ ∃ n : Nat, Writes digits n ∧ i = n := by
  rw [readInt]
  cases hvalue : WideText.decimal? digits with
  | none =>
      refine ⟨fun h => ?_, fun ⟨n, h, _⟩ => ?_⟩
      · cases h
      · rw [h.value] at hvalue
        cases hvalue
  | some n =>
      by_cases hshort : digits.length ≤ 4300
      · dsimp only
        rw [if_pos hshort, ok_eq_ok_iff]
        constructor
        · rintro rfl
          exact ⟨n, ⟨hdigits, hvalue, hshort⟩, rfl⟩
        · rintro ⟨n', hwrites, rfl⟩
          rw [Option.some.inj (hvalue.symm.trans hwrites.value)]
      · dsimp only
        rw [if_neg hshort]
        refine ⟨fun h => ?_, fun ⟨n', hwrites, _⟩ => absurd hwrites.short hshort⟩
        cases h

theorem readInt_contained_iff {digits : WideText} (hdigits : WideText.isDigits digits = true) :
    Contained (readInt digits) ↔ ∃ n, Writes digits n := by
  rw [readInt]
  cases hvalue : WideText.decimal? digits with
  | none =>
      refine ⟨fun h => (raises_error_iff.mp h).elim, fun ⟨n, h⟩ => ?_⟩
      rw [h.value] at hvalue
      cases hvalue
  | some n =>
      by_cases hshort : digits.length ≤ 4300
      · dsimp only
        rw [if_pos hshort]
        exact ⟨fun _ => ⟨n, hdigits, hvalue, hshort⟩, fun _ => raises_ok _ _⟩
      · dsimp only
        rw [if_neg hshort]
        exact ⟨fun h => (raises_error_iff.mp h).elim, fun ⟨n, h⟩ => absurd h.short hshort⟩

theorem validateIntegerAmount_eq_ok_iff {val : RawValue} {fieldName : String} {i : Int} :
    validateIntegerAmount val fieldName = .ok i ↔ IsAmount val i := by
  rw [validateIntegerAmount, seq_eq_ok_iff]
  constructor
  · rintro ⟨intVal, hval, h⟩
    obtain ⟨hnonneg, h⟩ := guard_eq_ok_iff.mp h
    obtain rfl := Except.ok.inj h
    rw [not_lt] at hnonneg
    cases val with
    | none | bool _ | float _ | list _ | dict _ => cases hval
    | int j =>
        obtain rfl := Except.ok.inj hval
        exact .int _ hnonneg
    | str s =>
        obtain ⟨hdigits, hval⟩ := guard_eq_ok_iff.mp hval
        rw [Bool.not_eq_false] at hdigits
        obtain ⟨n, hwrites, rfl⟩ := (readInt_eq_ok_iff hdigits).mp hval
        exact .text s n hwrites
  · intro h
    cases h with
    | int i hnonneg => exact ⟨i, rfl, if_neg (not_lt.mpr hnonneg)⟩
    | text s n hwrites =>
        refine ⟨n, guard_eq_ok_iff.mpr ⟨?_, ?_⟩, if_neg (not_lt.mpr (Int.natCast_nonneg n))⟩
        · rw [hwrites.allDigits]
          exact Bool.noConfusion
        · exact (readInt_eq_ok_iff hwrites.allDigits).mpr ⟨n, hwrites, rfl⟩

/-- **An amount is refused by the normalizer, not by `int`,** exactly when `int`
    takes its digits. -/
theorem validateIntegerAmount_contained_iff {val : RawValue} {fieldName : String} :
    Contained (validateIntegerAmount val fieldName) ↔ Convertible val := by
  have hsign : ∀ i : Int, Contained (if i < 0 then
      .error (.monetary (ofString s!"Field '{fieldName}' cannot be negative."))
      else (.ok i : Except IntentError Int)) := fun i =>
    raises_guard_iff.mpr ⟨fun _ => trivial, fun _ => raises_ok _ i⟩
  have hamount : Contained (validateIntegerAmount val fieldName)
      ↔ Contained (amountOf val fieldName) :=
    raises_seq_iff.trans ⟨fun h => h.1, fun h => ⟨h, fun i _ => hsign i⟩⟩
  rw [hamount, Convertible]
  cases val with
  | none | bool _ | float _ | list _ | dict _ =>
      refine ⟨fun _ s heq => ?_, fun _ => raises_error_iff.mpr trivial⟩
      cases heq
  | int i =>
      refine ⟨fun _ s heq => ?_, fun _ => raises_ok _ i⟩
      cases heq
  | str s =>
      rw [Contained, amountOf, raises_guard_iff]
      constructor
      · rintro ⟨-, h⟩ s' heq hdigits
        obtain rfl := RawValue.str.inj heq
        rw [hdigits] at h
        exact (readInt_contained_iff hdigits).mp (h Bool.noConfusion)
      · intro h
        refine ⟨fun _ => trivial, fun hdigits => ?_⟩
        rw [Bool.not_eq_false] at hdigits
        exact (readInt_contained_iff hdigits).mpr (h s rfl hdigits)

/-- An amount is not negative. -/
theorem IsAmount.nonneg {val : RawValue} {i : Int} (h : IsAmount val i) : 0 ≤ i := by
  cases h with
  | int i hnonneg => exact hnonneg
  | text s n hwrites => exact Int.natCast_nonneg n

/-- An error that shows a number. -/
def refuseWith {α : Type} (i : Int) (message : String → IntentError) : Except IntentError α := do
  let shown ← intText i
  .error (message shown)

theorem refuseWith_ne_ok {α : Type} {i : Int} {message : String → IntentError} {a : α} :
    refuseWith i message ≠ .ok a := by
  intro h
  obtain ⟨shown, -, h⟩ := seq_eq_ok_iff.mp h
  cases h

theorem refuseWith_contained_iff {α : Type} {i : Int} {message : String → IntentError}
    (hmessage : ∀ shown, (message shown).IsNormalization) :
    Contained (refuseWith i message : Except IntentError α) ↔ FewDigits i := by
  rw [Contained, refuseWith, raises_seq_iff, ← Contained, (intText_ends i).contained_iff]
  exact ⟨fun h => h.1, fun h => ⟨h, fun shown _ => raises_error_iff.mpr (hmessage shown)⟩⟩

end IntentNormalizer

end MandateGateway
