import Mathlib.Data.List.Basic
import Mathlib.Tactic.TypeStar

/-! # Runs of a deterministic step function

    A system is a function `σ → α → ο × σ`: an action takes a state to what
    the caller observes and the next state.  A run is the list of its steps,
    each kept with the states around it.

    The file packages the inductions that arguments about runs repeat:

    * `exec_inv`: an invariant holds along every run;
    * `history_inv`: what every step adds to the past holds of every run;
    * `countP_le_one_of_guarded_latch`: an event that needs an open latch and
      closes it for good happens at most once;
    * `forall_steps_iff`: two step properties that agree while an invariant
      holds, one of which keeps that invariant, agree on whole runs. -/

namespace Runs

variable {σ α ο : Type*}

/-- One step of a run. -/
structure Step (σ α ο : Type*) where
  pre  : σ
  act  : α
  out  : ο
  post : σ

/-- The step that `f` makes from state `s` on action `a`. -/
def stepAt (f : σ → α → ο × σ) (s : σ) (a : α) : Step σ α ο :=
  ⟨s, a, (f s a).1, (f s a).2⟩

/-- The state after a run. -/
def exec (f : σ → α → ο × σ) (s : σ) : List α → σ
  | [] => s
  | a :: as => exec f (f s a).2 as

/-- The steps of a run, in order. -/
def steps (f : σ → α → ο × σ) (s : σ) : List α → List (Step σ α ο)
  | [] => []
  | a :: as => stepAt f s a :: steps f (f s a).2 as

variable {f : σ → α → ο × σ}

@[simp] theorem exec_nil (s : σ) : exec f s [] = s := rfl

@[simp] theorem exec_cons (s : σ) (a : α) (as : List α) :
    exec f s (a :: as) = exec f (f s a).2 as := rfl

@[simp] theorem steps_nil (s : σ) : steps f s [] = [] := rfl

@[simp] theorem steps_cons (s : σ) (a : α) (as : List α) :
    steps f s (a :: as) = stepAt f s a :: steps f (f s a).2 as := rfl

@[simp] theorem stepAt_pre (s : σ) (a : α) : (stepAt f s a).pre = s := rfl

@[simp] theorem stepAt_act (s : σ) (a : α) : (stepAt f s a).act = a := rfl

@[simp] theorem stepAt_out (s : σ) (a : α) : (stepAt f s a).out = (f s a).1 := rfl

@[simp] theorem stepAt_post (s : σ) (a : α) : (stepAt f s a).post = (f s a).2 := rfl

theorem exec_append (s : σ) (as bs : List α) :
    exec f s (as ++ bs) = exec f (exec f s as) bs := by
  induction as generalizing s with
  | nil => rfl
  | cons a as ih => exact ih (f s a).2

theorem steps_append (s : σ) (as bs : List α) :
    steps f s (as ++ bs) = steps f s as ++ steps f (exec f s as) bs := by
  induction as generalizing s with
  | nil => rfl
  | cons a as ih =>
      rw [List.cons_append, steps_cons, ih, steps_cons, List.cons_append, exec_cons]

theorem steps_concat (s : σ) (as : List α) (a : α) :
    steps f s (as ++ [a]) = steps f s as ++ [stepAt f (exec f s as) a] :=
  steps_append s as [a]

theorem map_act_steps (s : σ) (as : List α) : (steps f s as).map Step.act = as := by
  induction as generalizing s with
  | nil => rfl
  | cons a as ih => rw [steps_cons, List.map_cons, ih, stepAt_act]

theorem forall_steps_append_iff {P : Step σ α ο → Prop} {s : σ} {as bs : List α} :
    (∀ c ∈ steps f s (as ++ bs), P c)
      ↔ (∀ c ∈ steps f s as, P c) ∧ ∀ c ∈ steps f (exec f s as) bs, P c := by
  rw [steps_append, List.forall_mem_append]

theorem mem_steps_iff {s : σ} {as : List α} {c : Step σ α ο} :
    c ∈ steps f s as
      ↔ ∃ l a r, as = l ++ a :: r ∧ c = stepAt f (exec f s l) a := by
  induction as generalizing s with
  | nil => simp
  | cons a as ih =>
      rw [steps_cons, List.mem_cons, ih]
      constructor
      · rintro (rfl | ⟨l, b, r, rfl, rfl⟩)
        · exact ⟨[], a, as, rfl, rfl⟩
        · exact ⟨a :: l, b, r, rfl, rfl⟩
      · rintro ⟨l, b, r, heq, rfl⟩
        cases l with
        | nil =>
            obtain ⟨rfl, rfl⟩ := List.cons.inj heq
            exact Or.inl rfl
        | cons a' l =>
            obtain ⟨rfl, rfl⟩ := List.cons.inj heq
            exact Or.inr ⟨l, b, r, rfl, rfl⟩

theorem steps_eq_append_cons_iff {s : σ} {as : List α} {before after : List (Step σ α ο)}
    {c : Step σ α ο} :
    steps f s as = before ++ c :: after
      ↔ ∃ l a r, as = l ++ a :: r ∧ before = steps f s l ∧ c = stepAt f (exec f s l) a
        ∧ after = steps f (exec f s (l ++ [a])) r := by
  constructor
  · intro h
    induction as generalizing s before with
    | nil => cases before <;> cases h
    | cons a as ih =>
        rw [steps_cons] at h
        cases before with
        | nil =>
            obtain ⟨rfl, rfl⟩ := List.cons.inj h
            exact ⟨[], a, as, rfl, rfl, rfl, rfl⟩
        | cons b before =>
            obtain ⟨rfl, htail⟩ := List.cons.inj h
            obtain ⟨l, x, r, rfl, rfl, rfl, rfl⟩ := ih htail
            exact ⟨a :: l, x, r, rfl, rfl, rfl, rfl⟩
  · rintro ⟨l, a, r, rfl, rfl, rfl, rfl⟩
    rw [steps_append, steps_cons, exec_append]
    rfl

/-! ## Invariants -/

section Invariants

variable {I : σ → Prop}

/-- A property kept by every step holds after every run. -/
theorem exec_inv (hstep : ∀ s a, I s → I (f s a).2) {s : σ} (h : I s) (as : List α) :
    I (exec f s as) := by
  induction as generalizing s with
  | nil => exact h
  | cons a as ih => exact ih (hstep s a h)

theorem exec_inv_of_steps {P : Step σ α ο → Prop}
    (hstep : ∀ s a, I s → P (stepAt f s a) → I (f s a).2) {s : σ} (h : I s) {as : List α}
    (hP : ∀ c ∈ steps f s as, P c) : I (exec f s as) := by
  induction as generalizing s with
  | nil => exact h
  | cons a as ih =>
      rw [steps_cons, List.forall_mem_cons] at hP
      exact ih (hstep s a h hP.1) hP.2

/-- A relation between the past and the state that every step of a run
    extends holds of the whole run. -/
theorem history_inv {P : Step σ α ο → Prop} {H : List (Step σ α ο) → σ → Prop}
    (hstep : ∀ past s a, H past s → P (stepAt f s a) → H (past ++ [stepAt f s a]) (f s a).2)
    {s : σ} (h : H [] s) {as : List α} (hP : ∀ c ∈ steps f s as, P c) :
    H (steps f s as) (exec f s as) := by
  suffices hall : ∀ past s, H past s → (∀ c ∈ steps f s as, P c) →
      H (past ++ steps f s as) (exec f s as) from hall [] s h hP
  clear hP h s
  induction as with
  | nil =>
      intro past s h _
      rw [steps_nil, List.append_nil]
      exact h
  | cons a as ih =>
      intro past s h hP
      rw [steps_cons, List.forall_mem_cons] at hP
      have hnext := ih _ _ (hstep past s a h hP.1) hP.2
      rw [List.append_assoc] at hnext
      exact hnext

/-- Two step properties that agree under an invariant, one of which keeps the
    invariant, hold of the same runs: neither can fail first. -/
theorem forall_steps_iff {P Q : Step σ α ο → Prop}
    (hiff : ∀ s a, I s → (P (stepAt f s a) ↔ Q (stepAt f s a)))
    (hkeep : ∀ s a, I s → Q (stepAt f s a) → I (f s a).2)
    {s : σ} (h : I s) (as : List α) :
    (∀ c ∈ steps f s as, P c) ↔ ∀ c ∈ steps f s as, Q c := by
  induction as generalizing s with
  | nil => simp
  | cons a as ih =>
      rw [steps_cons, List.forall_mem_cons, List.forall_mem_cons, hiff s a h]
      -- whichever of the two is known, `Q` of the first step keeps the invariant
      constructor
      · rintro ⟨hq, hrest⟩
        exact ⟨hq, (ih (hkeep s a h hq)).mp hrest⟩
      · rintro ⟨hq, hrest⟩
        exact ⟨hq, (ih (hkeep s a h hq)).mpr hrest⟩

end Invariants

/-! ## Events that happen at most once -/

section Latch

variable {E : Step σ α ο → Bool} {L : σ → Prop} {P : Step σ α ο → Prop} {G : α → Prop}

private theorem countP_eq_zero_of_latch
    (hE : ∀ s a, E (stepAt f s a) = true → ¬ L s)
    (hL : ∀ s a, P (stepAt f s a) → L s → L (f s a).2) {s : σ} (h : L s) (as : List α)
    (hP : ∀ c ∈ steps f s as, P c) : (steps f s as).countP E = 0 := by
  induction as generalizing s with
  | nil => rfl
  | cons a as ih =>
      rw [steps_cons, List.forall_mem_cons] at hP
      have hn : ¬ E (stepAt f s a) = true := fun hEa => hE s a hEa h
      rw [steps_cons, List.countP_cons_of_neg hn]
      exact ih (hL s a hP.1 h) hP.2

/-- An event that needs the latch open and closes it occurs at most once in a
    run of steps that keep a closed latch closed. -/
theorem countP_le_one_of_guarded_latch (hE : ∀ s a, E (stepAt f s a) = true → ¬ L s)
    (hclose : ∀ s a, P (stepAt f s a) → E (stepAt f s a) = true → L (f s a).2)
    (hL : ∀ s a, P (stepAt f s a) → L s → L (f s a).2) (s : σ) (as : List α)
    (hP : ∀ c ∈ steps f s as, P c) : (steps f s as).countP E ≤ 1 := by
  induction as generalizing s with
  | nil => simp
  | cons a as ih =>
      rw [steps_cons, List.forall_mem_cons] at hP
      rw [steps_cons]
      cases hEa : E (stepAt f s a) with
      | true =>
          -- the first event closes the latch, and no event follows
          have hz : (steps f (f s a).2 as).countP E = 0 :=
            countP_eq_zero_of_latch hE hL (hclose s a hP.1 hEa) as hP.2
          rewrite [List.countP_cons_of_pos hEa, hz]
          exact Nat.le_refl 1
      | false =>
          have hn : ¬ E (stepAt f s a) = true := by
            rw [hEa]
            exact Bool.false_ne_true
          rw [List.countP_cons_of_neg hn]
          exact ih _ hP.2

/-- An event that needs the latch open, and closes it when its action meets
    the guard, occurs at most once in a run of such actions, if no step
    reopens the latch. -/
theorem countP_le_one_of_latch (hE : ∀ s a, E (stepAt f s a) = true → ¬ L s)
    (hclose : ∀ s a, G a → E (stepAt f s a) = true → L (f s a).2)
    (hL : ∀ s a, L s → L (f s a).2) (s : σ) (as : List α) (hG : ∀ a ∈ as, G a) :
    (steps f s as).countP E ≤ 1 := by
  have hP : ∀ c ∈ steps f s as, G c.act := by
    intro c hc
    obtain ⟨l, a, r, rfl, rfl⟩ := mem_steps_iff.mp hc
    exact hG a (List.mem_append_right l List.mem_cons_self)
  exact countP_le_one_of_guarded_latch (P := fun c => G c.act) hE hclose
    (fun s a _ => hL s a) s as hP

end Latch

end Runs
