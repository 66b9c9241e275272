import Mathlib.Data.List.Basic

/-! # Checklists and validation

    Checks that are run in order up to the first one that fails, each with what it
    reports when it fails and what its pass records; and parts of a record that are
    checked one after the other with every fault kept, so that the record is built
    exactly when each part has a value. -/

namespace Checklist

variable {ρ α : Type*}

/-- A check: its failure, if it fails, and the record of its pass. -/
structure Check (ρ α : Type*) where
  failure : Option ρ
  label   : Option α

/-- The check that demands `ok`. -/
def Check.require (ok : Bool) (refusal : ρ) (label : Option α) : Check ρ α :=
  ⟨if ok then none else some refusal, label⟩

/-- The records of the checks before the first failure, and that failure. -/
def scan : List (Check ρ α) → List α × Option ρ
  | [] => ([], none)
  | c :: cs =>
      match c.failure with
      | some r => ([], some r)
      | none => (c.label.toList ++ (scan cs).1, (scan cs).2)

theorem require_failure_eq_none_iff {ok : Bool} {refusal : ρ} {label : Option α} :
    (Check.require ok refusal label).failure = none ↔ ok = true := by
  rw [Check.require]
  by_cases h : ok = true
  · rw [if_pos h]
    exact ⟨fun _ => h, fun _ => rfl⟩
  · rw [if_neg h]
    exact ⟨nofun, fun hok => absurd hok h⟩

/-- **Nothing fails exactly when every check passes.** -/
theorem scan_clear_iff {cs : List (Check ρ α)} :
    (scan cs).2 = none ↔ ∀ c ∈ cs, c.failure = none := by
  induction cs with
  | nil => exact ⟨fun _ _ hc => absurd hc List.not_mem_nil, fun _ => rfl⟩
  | cons c cs ih =>
      rw [List.forall_mem_cons, ← ih, scan]
      cases c.failure with
      | some r => exact ⟨nofun, fun h => nomatch h.1⟩
      | none => exact ⟨fun h => ⟨rfl, h⟩, fun h => h.2⟩

end Checklist

/-- A value, or everything that is wrong. -/
inductive Validated (ε α : Type) where
  | valid (a : α)
  | faulty (faults : List ε)

namespace Validated

variable {ε α β : Type}

/-- Both parts are checked; the faults of both are kept. -/
def apply : Validated ε (α → β) → Validated ε α → Validated ε β
  | .valid f, .valid a => .valid (f a)
  | .valid _, .faulty es => .faulty es
  | .faulty es, .valid _ => .faulty es
  | .faulty es, .faulty es' => .faulty (es ++ es')

instance : Applicative (Validated ε) where
  pure := .valid
  seq f x := apply f (x ())

/-- The value, if it meets a condition. -/
def check (name : ε) (p : α → Bool) : Option α → Validated ε α
  | none => .faulty [name]
  | some a => if p a then .valid a else .faulty [name]

/-- **A record is built exactly when its parts are.** -/
theorem seq_eq_valid_iff {f : Validated ε (α → β)} {x : Validated ε α} {b : β} :
    f <*> x = .valid b ↔ ∃ g a, g a = b ∧ f = .valid g ∧ x = .valid a := by
  show apply f x = .valid b ↔ _
  cases f with
  | faulty es =>
      constructor
      · intro h
        cases x <;> cases h
      · rintro ⟨g, a, -, hf, -⟩
        cases hf
  | valid g =>
      cases x with
      | faulty es =>
          constructor
          · intro h
            cases h
          · rintro ⟨g, a, -, -, hx⟩
            cases hx
      | valid a =>
          constructor
          · intro h
            cases h
            exact ⟨g, a, rfl, rfl, rfl⟩
          · rintro ⟨g', a', hb, hf, hx⟩
            cases hf
            cases hx
            exact congrArg Validated.valid hb

theorem map_eq_valid_iff {g : α → β} {x : Validated ε α} {b : β} :
    g <$> x = .valid b ↔ ∃ a, g a = b ∧ x = .valid a := by
  constructor
  · intro h
    obtain ⟨g', a, hb, hg, hx⟩ := seq_eq_valid_iff.mp h
    cases hg
    exact ⟨a, hb, hx⟩
  · rintro ⟨a, hb, hx⟩
    exact seq_eq_valid_iff.mpr ⟨g, a, hb, rfl, hx⟩

theorem check_eq_valid_iff {name : ε} {p : α → Bool} {x : Option α} {a : α} :
    check name p x = .valid a ↔ x = some a ∧ p a = true := by
  cases x with
  | none =>
      constructor
      · intro h
        cases h
      · rintro ⟨h, -⟩
        cases h
  | some b =>
      rw [check, Option.some.injEq]
      by_cases hp : p b = true
      · rw [if_pos hp]
        constructor
        · intro h
          cases h
          exact ⟨rfl, hp⟩
        · rintro ⟨rfl, -⟩
          rfl
      · rw [if_neg hp]
        constructor
        · intro h
          cases h
        · rintro ⟨rfl, h⟩
          exact absurd h hp

end Validated
