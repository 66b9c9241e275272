import Mathlib.Tactic.TypeStar

/-! # Computations that raise

    How guarded and chained `Except` computations succeed, so that callers
    take a successful computation apart without unfolding it. -/

namespace Exceptions

variable {ε α β : Type*}

theorem ite_eq_iff_of_ne {c : Prop} [Decidable c] {x k y : α} (hx : x ≠ y) :
    (if c then x else k) = y ↔ ¬ c ∧ k = y := by
  by_cases h : c
  · rw [if_pos h]
    exact ⟨fun hxy => absurd hxy hx, fun hn => absurd h hn.1⟩
  · rw [if_neg h]
    exact ⟨fun hk => ⟨h, hk⟩, fun hk => hk.2⟩

theorem guard_eq_ok_iff {c : Prop} [Decidable c] {e : ε} {k : Except ε α} {y : α} :
    (if c then .error e else k) = .ok y ↔ ¬ c ∧ k = .ok y :=
  ite_eq_iff_of_ne nofun

theorem check_eq_none_iff {c : Prop} [Decidable c] {x : β} {k : Option β} :
    (if c then some x else k) = none ↔ ¬ c ∧ k = none :=
  ite_eq_iff_of_ne nofun

theorem check_eq_ok_none_iff {c : Prop} [Decidable c] {x : β} {k : Except ε (Option β)} :
    (if c then .ok (some x) else k) = .ok none ↔ ¬ c ∧ k = .ok none :=
  ite_eq_iff_of_ne nofun

theorem seq_eq_ok_iff {ε α β : Type} {x : Except ε α} {f : α → Except ε β} {b : β} :
    (x >>= f) = .ok b ↔ ∃ a, x = .ok a ∧ f a = .ok b := by
  cases x with
  | error err =>
      constructor
      · intro h
        cases h
      · rintro ⟨a, h, -⟩
        cases h
  | ok a =>
      constructor
      · intro h
        exact ⟨a, rfl, h⟩
      · rintro ⟨a', h, hf⟩
        obtain rfl := Except.ok.inj h
        exact hf

theorem seq_unit_eq_ok_iff {ε β : Type} {x : Except ε Unit} {k : Except ε β} {b : β} :
    (x >>= fun _ => k) = .ok b ↔ x = .ok () ∧ k = .ok b := by
  rw [seq_eq_ok_iff]
  constructor
  · rintro ⟨⟨⟩, hx, hk⟩
    exact ⟨hx, hk⟩
  · rintro ⟨hx, hk⟩
    exact ⟨(), hx, hk⟩

theorem map_eq_ok_iff {x : Except ε α} {f : α → β} {b : β} :
    x.map f = .ok b ↔ ∃ a, x = .ok a ∧ f a = b := by
  cases x with
  | error err =>
      constructor
      · intro h
        cases h
      · rintro ⟨a, h, -⟩
        cases h
  | ok a =>
      constructor
      · intro h
        exact ⟨a, rfl, Except.ok.inj h⟩
      · rintro ⟨a', h, hf⟩
        obtain rfl := Except.ok.inj h
        exact congrArg Except.ok hf

theorem ok_eq_ok_iff {x y : α} : (Except.ok x : Except ε α) = .ok y ↔ y = x :=
  ⟨fun h => (Except.ok.inj h).symm, fun h => h ▸ rfl⟩

/-! ## Which errors are raised -/

def Raises (P : ε → Prop) (x : Except ε α) : Prop := ∀ err, x = .error err → P err

theorem raises_ok (P : ε → Prop) (a : α) : Raises P (.ok a) := by
  intro err h
  cases h

theorem raises_error_iff {P : ε → Prop} {err : ε} :
    Raises P (.error err : Except ε α) ↔ P err := by
  refine ⟨fun h => h err rfl, fun h err' heq => ?_⟩
  rw [← Except.error.inj heq]
  exact h

/-- **A sequence raises these errors only** exactly when its first part does and,
    where that returns, its second. -/
theorem raises_seq_iff {ε α β : Type} {P : ε → Prop} {x : Except ε α} {f : α → Except ε β} :
    Raises P (x >>= f) ↔ Raises P x ∧ ∀ a, x = .ok a → Raises P (f a) := by
  cases x with
  | error err =>
      rw [raises_error_iff]
      refine ⟨fun h => ⟨h err rfl, fun a heq => ?_⟩, fun h => raises_error_iff.mpr h.1⟩
      cases heq
  | ok a =>
      refine ⟨fun h => ⟨raises_ok P a, fun a' heq => ?_⟩, fun h => h.2 a rfl⟩
      obtain rfl := Except.ok.inj heq
      exact h

theorem raises_seq_iff_of {ε α β : Type} {P : ε → Prop} {x : Except ε α} {f : α → Except ε β}
    {S : Prop} {R T : α → Prop} (hraises : Raises P x ↔ S) (hreturns : ∀ a, x = .ok a ↔ R a)
    (hrest : ∀ a, R a → (Raises P (f a) ↔ T a)) :
    Raises P (x >>= f) ↔ S ∧ ∀ a, R a → T a := by
  rw [raises_seq_iff, hraises]
  refine and_congr_right fun _ => forall_congr' fun a => ?_
  rw [hreturns a]
  exact imp_congr_right (hrest a)

theorem raises_map_iff {P : ε → Prop} {x : Except ε α} {f : α → β} :
    Raises P (x.map f) ↔ Raises P x := by
  cases x with
  | error err => rw [Except.map, raises_error_iff, raises_error_iff]
  | ok a => exact ⟨fun _ => raises_ok P a, fun _ => raises_ok P (f a)⟩

theorem raises_guard_iff {P : ε → Prop} {c : Prop} [Decidable c] {e : ε} {k : Except ε α} :
    Raises P (if c then .error e else k) ↔ (c → P e) ∧ (¬ c → Raises P k) := by
  by_cases h : c
  · rw [if_pos h, raises_error_iff]
    exact ⟨fun he => ⟨fun _ => he, fun hn => absurd h hn⟩, fun hboth => hboth.1 h⟩
  · rw [if_neg h]
    exact ⟨fun hk => ⟨fun hc => absurd hc h, fun _ => hk⟩, fun hboth => hboth.2 h⟩

/-! ## Whether a computation returns -/

theorem not_exists_error_eq_ok (err : ε) : ¬ ∃ a : α, (.error err : Except ε α) = .ok a := by
  rintro ⟨a, h⟩
  cases h

theorem seq_returns_iff {ε α β : Type} {x : Except ε α} {f : α → Except ε β} :
    (∃ b, (x >>= f) = .ok b) ↔ ∃ a, x = .ok a ∧ ∃ b, f a = .ok b := by
  constructor
  · rintro ⟨b, h⟩
    obtain ⟨a, hx, hf⟩ := seq_eq_ok_iff.mp h
    exact ⟨a, hx, b, hf⟩
  · rintro ⟨a, hx, b, hf⟩
    exact ⟨b, seq_eq_ok_iff.mpr ⟨a, hx, hf⟩⟩

theorem map_returns_iff {x : Except ε α} {f : α → β} :
    (∃ b, x.map f = .ok b) ↔ ∃ a, x = .ok a := by
  cases x with
  | error err => exact iff_of_false (not_exists_error_eq_ok _) (not_exists_error_eq_ok _)
  | ok a => exact ⟨fun _ => ⟨a, rfl⟩, fun _ => ⟨f a, rfl⟩⟩

theorem mapError_eq_ok_iff {ε ε' α : Type*} {x : Except ε α} {f : ε → ε'} {a : α} :
    x.mapError f = .ok a ↔ x = .ok a := by
  cases x with
  | error err =>
      constructor
      · intro h
        cases h
      · intro h
        cases h
  | ok a' =>
      constructor
      · intro h
        rw [Except.ok.inj h]
      · intro h
        rw [Except.ok.inj h]
        rfl

theorem toOption_eq_some_iff {ε α : Type*} {x : Except ε α} {a : α} :
    x.toOption = some a ↔ x = .ok a := by
  cases x with
  | error err =>
      constructor
      · intro h
        cases h
      · intro h
        cases h
  | ok b =>
      constructor
      · intro h
        rw [Option.some.inj h]
      · intro h
        rw [Except.ok.inj h]
        rfl

/-! ## Loops that stop at the first error -/

/-- Of the elements, each that is reached through valid ones is sound. -/
def Reached (Valid Sound : α → Prop) (xs : List α) : Prop :=
  ∀ before x after, xs = before ++ x :: after → (∀ y ∈ before, Valid y) → Sound x

theorem reached_nil (Valid Sound : α → Prop) : Reached Valid Sound [] := by
  intro before x after h
  cases before <;> cases h

theorem reached_cons_iff {Valid Sound : α → Prop} {x : α} {xs : List α} :
    Reached Valid Sound (x :: xs) ↔ Sound x ∧ (Valid x → Reached Valid Sound xs) := by
  constructor
  · intro h
    refine ⟨h [] x xs rfl fun y hy => absurd hy List.not_mem_nil, ?_⟩
    intro hvalid before y after heq hbefore
    exact h (x :: before) y after (by rw [heq, List.cons_append])
      (List.forall_mem_cons.mpr ⟨hvalid, hbefore⟩)
  · rintro ⟨hfirst, hrest⟩ before y after heq hbefore
    cases before with
    | nil =>
        rw [← (List.cons.inj heq).1]
        exact hfirst
    | cons z before =>
        obtain ⟨hsame, hbehind⟩ := List.cons.inj heq
        obtain ⟨hvalid, hbefore⟩ := List.forall_mem_cons.mp hbefore
        exact hrest (hsame ▸ hvalid) before y after hbehind hbefore

end Exceptions
