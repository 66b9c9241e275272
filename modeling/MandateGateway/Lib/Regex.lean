import MandateGateway.Lib.WideText
import Mathlib.Computability.Language

/-! # Regular expressions over classes of letters

    An expression is searched for in a text by its derivatives.  A letter of an
    expression is a test, so that a class such as "any digit" is one letter.

    * `mem_deriv_iff`: the derivative by a letter has what may follow the letter;
    * `search_iff`: a search finds exactly the texts with a match inside. -/

/-- A regular expression. -/
inductive Regex (α : Type) where
  | nothing
  | empty
  | one (p : α → Bool)
  | seq (r s : Regex α)
  | alt (r s : Regex α)
  | star (r : Regex α)

namespace Regex

open scoped Computability

variable {α : Type}

/-- What an expression matches. -/
def language : Regex α → Language α
  | nothing => 0
  | empty => 1
  | one p => Set.ofPred fun xs => ∃ a, p a = true ∧ xs = [a]
  | seq r s => r.language * s.language
  | alt r s => r.language + s.language
  | star r => r.language∗

/-- The expression matches the empty text. -/
def nullable : Regex α → Bool
  | nothing => false
  | empty => true
  | one _ => false
  | seq r s => r.nullable && s.nullable
  | alt r s => r.nullable || s.nullable
  | star _ => true

/-- The expression for what may follow the letter `a`. -/
def deriv (a : α) : Regex α → Regex α
  | nothing => nothing
  | empty => nothing
  | one p => if p a then empty else nothing
  | seq r s => if r.nullable then alt (seq (deriv a r) s) (deriv a s) else seq (deriv a r) s
  | alt r s => alt (deriv a r) (deriv a s)
  | star r => seq (deriv a r) (star r)

/-- The whole text is matched. -/
def fullmatch : Regex α → List α → Bool
  | r, [] => r.nullable
  | r, a :: xs => fullmatch (r.deriv a) xs

/-- The text starts with a match. -/
def startsWith : Regex α → List α → Bool
  | r, [] => r.nullable
  | r, a :: xs => r.nullable || startsWith (r.deriv a) xs

/-- There is a match in the text: `re.search`. -/
def search (r : Regex α) : List α → Bool
  | [] => r.nullable
  | a :: xs => startsWith r (a :: xs) || search r xs

/-! ## Derivatives -/

theorem nullable_iff (r : Regex α) : r.nullable = true ↔ [] ∈ r.language := by
  induction r with
  | nothing => simp [nullable, language]
  | empty => simp [nullable, language]
  | one p =>
      simp only [nullable, Bool.false_eq_true, false_iff]
      rintro ⟨a, -, h⟩
      cases h
  | seq r s ihr ihs =>
      simp only [nullable, language, Bool.and_eq_true, ihr, ihs, Language.mem_mul]
      constructor
      · rintro ⟨hr, hs⟩
        exact ⟨[], hr, [], hs, rfl⟩
      · rintro ⟨xs, hxs, ys, hys, happend⟩
        obtain ⟨rfl, rfl⟩ := List.append_eq_nil_iff.mp happend
        exact ⟨hxs, hys⟩
  | alt r s ihr ihs =>
      rw [nullable, language, Bool.or_eq_true, ihr, ihs]
      exact (Language.mem_add _ _ _).symm
  | star r _ => simp [nullable, language, Language.nil_mem_kstar]

theorem cons_mem_mul_iff {l m : Language α} {a : α} {xs : List α} :
    a :: xs ∈ l * m
      ↔ (∃ ys zs, ys ++ zs = xs ∧ a :: ys ∈ l ∧ zs ∈ m) ∨ ([] ∈ l ∧ a :: xs ∈ m) := by
  rw [Language.mem_mul]
  constructor
  · rintro ⟨ys, hys, zs, hzs, happend⟩
    cases ys with
    | nil =>
        rw [List.nil_append] at happend
        rw [happend] at hzs
        exact .inr ⟨hys, hzs⟩
    | cons b ys =>
        obtain ⟨rfl, rest⟩ := List.cons.inj happend
        exact .inl ⟨ys, zs, rest, hys, hzs⟩
  · rintro (⟨ys, zs, rfl, hys, hzs⟩ | ⟨hnil, hxs⟩)
    · exact ⟨a :: ys, hys, zs, hzs, rfl⟩
    · exact ⟨[], hnil, a :: xs, hxs, rfl⟩

theorem cons_mem_kstar_iff {l : Language α} {a : α} {xs : List α} :
    a :: xs ∈ l∗ ↔ ∃ ys zs, ys ++ zs = xs ∧ a :: ys ∈ l ∧ zs ∈ l∗ := by
  constructor
  · intro h
    obtain ⟨rounds, hflat, hrounds⟩ := Language.mem_kstar_iff_exists_nonempty.mp h
    cases rounds with
    | nil => cases hflat
    | cons first rest =>
        obtain ⟨hfirst, hne⟩ := hrounds first List.mem_cons_self
        obtain ⟨b, ys, rfl⟩ := List.exists_cons_of_ne_nil hne
        obtain ⟨rfl, hxs⟩ := List.cons.inj hflat
        refine ⟨ys, rest.flatten, hxs.symm, hfirst, Language.join_mem_kstar fun y hy => ?_⟩
        exact (hrounds y (List.mem_cons_of_mem _ hy)).1
  · rintro ⟨ys, zs, rfl, hys, hzs⟩
    obtain ⟨rounds, rfl, hrounds⟩ := Language.mem_kstar.mp hzs
    exact Language.mem_kstar.mpr ⟨(a :: ys) :: rounds, rfl, List.forall_mem_cons.mpr ⟨hys, hrounds⟩⟩

/-- **The derivative by a letter** matches what follows it in a match. -/
theorem mem_deriv_iff (r : Regex α) {a : α} {xs : List α} :
    xs ∈ (r.deriv a).language ↔ a :: xs ∈ r.language := by
  induction r generalizing xs with
  | nothing => simp [deriv, language]
  | empty => simp [deriv, language]
  | one p =>
      by_cases hp : p a = true
      · rw [deriv, if_pos hp]
        constructor
        · intro h
          obtain rfl := (Language.mem_one xs).mp h
          exact ⟨a, hp, rfl⟩
        · rintro ⟨b, -, h⟩
          exact (Language.mem_one xs).mpr (List.cons.inj h).2
      · rw [deriv, if_neg hp]
        constructor
        · intro h
          exact absurd h (Language.notMem_zero xs)
        · rintro ⟨b, hb, h⟩
          rw [(List.cons.inj h).1] at hp
          exact absurd hb hp
  | seq r s ihr ihs =>
      have hfirst : xs ∈ (seq (r.deriv a) s).language
          ↔ ∃ ys zs, ys ++ zs = xs ∧ a :: ys ∈ r.language ∧ zs ∈ s.language := by
        simp only [language, Language.mem_mul, ihr]
        constructor
        · rintro ⟨ys, hys, zs, hzs, happend⟩
          exact ⟨ys, zs, happend, hys, hzs⟩
        · rintro ⟨ys, zs, happend, hys, hzs⟩
          exact ⟨ys, hys, zs, hzs, happend⟩
      show _ ↔ a :: xs ∈ r.language * s.language
      rw [cons_mem_mul_iff, ← hfirst, ← nullable_iff, ← ihs, deriv]
      by_cases hnull : r.nullable = true
      · rw [if_pos hnull, and_iff_right hnull]
        exact Language.mem_add _ _ _
      · rw [if_neg hnull]
        exact ⟨Or.inl, fun h => h.resolve_right fun hboth => hnull hboth.1⟩
  | alt r s ihr ihs =>
      rw [deriv, language, language, Language.mem_add, Language.mem_add, ihr, ihs]
  | star r ih =>
      show xs ∈ (r.deriv a).language * r.language∗ ↔ a :: xs ∈ r.language∗
      rw [cons_mem_kstar_iff, Language.mem_mul]
      constructor
      · rintro ⟨ys, hys, zs, hzs, happend⟩
        exact ⟨ys, zs, happend, ih.mp hys, hzs⟩
      · rintro ⟨ys, zs, happend, hys, hzs⟩
        exact ⟨ys, ih.mpr hys, zs, hzs, happend⟩

/-! ## Matching -/

theorem startsWith_iff (r : Regex α) (xs : List α) :
    r.startsWith xs = true ↔ ∃ ys, ys <+: xs ∧ ys ∈ r.language := by
  induction xs generalizing r with
  | nil => simp [startsWith, nullable_iff]
  | cons a xs ih =>
      simp only [startsWith, Bool.or_eq_true, nullable_iff, ih, mem_deriv_iff]
      constructor
      · rintro (hnil | ⟨ys, hprefix, hys⟩)
        · exact ⟨[], List.nil_prefix, hnil⟩
        · exact ⟨a :: ys, List.cons_prefix_cons.mpr ⟨rfl, hprefix⟩, hys⟩
      · rintro ⟨ys, hprefix, hys⟩
        cases ys with
        | nil => exact .inl hys
        | cons b ys =>
            obtain ⟨rfl, hrest⟩ := List.cons_prefix_cons.mp hprefix
            exact .inr ⟨ys, hrest, hys⟩

/-- **A search finds the texts with a match inside.** -/
theorem search_iff (r : Regex α) (xs : List α) :
    r.search xs = true ↔ ∃ ys, ys <:+: xs ∧ ys ∈ r.language := by
  induction xs with
  | nil => simp [search, nullable_iff]
  | cons a xs ih =>
      rw [search, Bool.or_eq_true, startsWith_iff, ih]
      simp only [List.infix_cons_iff, or_and_right, exists_or]

/-! ## Patterns of texts -/

/-- A character of a class. -/
def char (p : Char → Bool) : Regex CodePoint :=
  one fun
    | .char c => p c
    | .surrogate _ => false

/-- The characters of a text. -/
def text (s : String) : Regex CodePoint :=
  s.toList.foldr (fun c r => seq (char (· == c)) r) empty

/-- Whether a character is a small letter of the alphabet where case is ignored:
    four letters outside the alphabet count as letters of it. -/
def sameLetter (letter c : Char) : Bool :=
  c == letter || c.toLower == letter
    || (letter == 'i' && (c.toNat == 0x130 || c.toNat == 0x131))
    || (letter == 'k' && c.toNat == 0x212A)
    || (letter == 's' && c.toNat == 0x17F)

/-- The characters of a text in small letters, where case is ignored. -/
def textIgnoreCase (s : String) : Regex CodePoint :=
  s.toList.foldr (fun c r => seq (char (sameLetter c)) r) empty

/-- Any of these expressions. -/
def anyOf (rs : List (Regex α)) : Regex α := rs.foldr alt nothing

/-- Once or more often. -/
def plus (r : Regex α) : Regex α := seq r (star r)

/-- One expression after the other. -/
def chain (rs : List (Regex α)) : Regex α := rs.foldr seq empty

/-- One to three digits. -/
def octet : Regex CodePoint :=
  let digit := char fun c => (UnicodeDigits.decimalValue c).isSome
  let optional := alt digit empty
  chain [digit, optional, optional]

/-- A character of whitespace. -/
def space : Regex CodePoint := char Text.isSpace

end Regex
