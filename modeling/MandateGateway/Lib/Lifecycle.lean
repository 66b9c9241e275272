import MandateGateway.Lib.Runs

/-! # Lifecycles

    A system whose state has a status, and whose steps move the status along a
    successor relation or leave it alone.  What the relation forbids on its
    edges is then forbidden along whole runs:

    * `countP_enters_le_one`: when the relation strictly raises a rank, no
      status is entered twice;
    * `gate_mem_history`: a region that is entered from one status only is
      reached after that status;
    * `not_both_in_history`: two statuses in closed regions that miss each
      other are not both visited. -/

namespace Lifecycle

open Runs

variable {σ α ο κ : Type*}

/-- Every step leaves the status alone or moves it along `next`. -/
def Follows (f : σ → α → ο × σ) (status : σ → κ) (next : κ → κ → Prop) : Prop :=
  ∀ s a, status (f s a).2 = status s ∨ next (status s) (status (f s a).2)

/-- The step brings the status to `k`. -/
def enters [DecidableEq κ] (status : σ → κ) (k : κ) (c : Step σ α ο) : Bool :=
  decide (status c.pre ≠ k) && decide (status c.post = k)

/-- The statuses that a run visits, in order. -/
def history (status : σ → κ) (s : σ) (run : List (Step σ α ο)) : List κ :=
  status s :: run.map fun c => status c.post

variable {f : σ → α → ο × σ} {status : σ → κ} {next : κ → κ → Prop}

theorem history_steps_cons (s : σ) (a : α) (as : List α) :
    history status s (steps f s (a :: as))
      = status s :: history status (f s a).2 (steps f (f s a).2 as) := rfl

section Entering

variable [DecidableEq κ]

theorem enters_iff {k : κ} {c : Step σ α ο} :
    enters status k c = true ↔ status c.pre ≠ k ∧ status c.post = k := by
  rw [enters, Bool.and_eq_true, decide_eq_true_eq, decide_eq_true_eq]

theorem Follows.next_of_enters (hf : Follows f status next) {s : σ} {a : α} {k : κ}
    (h : enters status k (stepAt f s a) = true) : next (status s) k := by
  obtain ⟨hpre, hpost⟩ := enters_iff.mp h
  rw [stepAt_pre] at hpre
  rw [stepAt_post] at hpost
  rcases hf s a with hsame | hnext
  · exact absurd (hsame.symm.trans hpost) hpre
  · rw [hpost] at hnext
    exact hnext

/-- **Along a relation that raises a rank no status is entered twice.** -/
theorem Follows.countP_enters_le_one (hf : Follows f status next) {rank : κ → Nat}
    (hrank : ∀ k l, next k l → rank k < rank l) (k : κ) (s : σ) (as : List α) :
    (steps f s as).countP (enters status k) ≤ 1 := by
  -- the latch: the rank of `k` has been reached
  refine countP_le_one_of_latch (L := fun s => rank k ≤ rank (status s))
    (G := fun _ => True) ?_ ?_ ?_ s as (fun _ _ => trivial)
  · intro s a h
    exact Nat.not_le_of_lt (hrank _ _ (hf.next_of_enters h))
  · intro s a _ h
    obtain ⟨-, hpost⟩ := enters_iff.mp h
    rw [stepAt_post] at hpost
    exact Nat.le_of_eq (congrArg rank hpost.symm)
  · intro s a h
    show rank k ≤ rank (status (f s a).2)
    rcases hf s a with hsame | hnext
    · rw [hsame]
      exact h
    · exact Nat.le_trans h (Nat.le_of_lt (hrank _ _ hnext))

end Entering

/-- A status without an edge out of it is never left. -/
theorem Follows.never_left (hf : Follows f status next) {s : σ} {a : α}
    (hend : ∀ l, ¬ next (status s) l) : status (f s a).2 = status s := by
  rcases hf s a with hsame | hnext
  · exact hsame
  · exact absurd hnext (hend _)

/-! ## Regions -/

section Regions

variable {R Q : κ → Prop}

/-- **A region with one gate is reached only after the gate.** -/
theorem Follows.gate_mem_history (hf : Follows f status next) {gate : κ}
    (hgate : ∀ k l, next k l → R l → R k ∨ k = gate) {s : σ} (hout : ¬ R (status s))
    {as : List α} (h : R (status (exec f s as))) :
    gate ∈ history status s (steps f s as) := by
  induction as generalizing s with
  | nil => exact absurd h hout
  | cons a as ih =>
      rw [history_steps_cons]
      by_cases hin : R (status (f s a).2)
      · -- the region was entered by the first step
        rcases hf s a with hsame | hnext
        · rw [hsame] at hin
          exact absurd hin hout
        · rcases hgate _ _ hnext hin with hR | heq
          · exact absurd hR hout
          · rw [← heq]
            exact List.mem_cons_self
      · exact List.mem_cons_of_mem _ (ih hin h)

theorem Follows.history_of_closed (hf : Follows f status next)
    (hclosed : ∀ k l, R k → next k l → R l) {s : σ} (h : R (status s)) (as : List α) :
    ∀ k ∈ history status s (steps f s as), R k := by
  induction as generalizing s with
  | nil =>
      intro k hk
      rw [steps_nil, history, List.map_nil, List.mem_singleton] at hk
      rw [hk]
      exact h
  | cons a as ih =>
      rw [history_steps_cons, List.forall_mem_cons]
      refine ⟨h, ih ?_⟩
      rcases hf s a with hsame | hnext
      · rw [hsame]
        exact h
      · exact hclosed _ _ h hnext

/-- **Two statuses in closed regions that miss each other are not both
    visited.** -/
theorem Follows.not_both_in_history (hf : Follows f status next)
    (hclosed : ∀ k l, R k → next k l → R l) (hclosed' : ∀ k l, Q k → next k l → Q l)
    {k k' : κ} (hk : R k) (hk' : Q k') (hmiss : ¬ R k') (hmiss' : ¬ Q k)
    (s : σ) (as : List α) (h : k ∈ history status s (steps f s as)) :
    k' ∉ history status s (steps f s as) := by
  intro h'
  induction as generalizing s with
  | nil =>
      rw [steps_nil, history, List.map_nil, List.mem_singleton] at h h'
      rw [h', ← h] at hmiss
      exact hmiss hk
  | cons a as ih =>
      rw [history_steps_cons, List.mem_cons] at h h'
      -- whichever of the two comes first keeps the other out
      by_cases hfirst : R (status s)
      · exact hmiss (hf.history_of_closed hclosed hfirst (a :: as) k'
          (by rw [history_steps_cons, List.mem_cons]; exact h'))
      · by_cases hfirst' : Q (status s)
        · exact hmiss' (hf.history_of_closed hclosed' hfirst' (a :: as) k
            (by rw [history_steps_cons, List.mem_cons]; exact h))
        · refine ih (f s a).2 ?_ ?_
          · rcases h with heq | hmem
            · exact absurd (heq ▸ hk) hfirst
            · exact hmem
          · rcases h' with heq | hmem
            · exact absurd (heq ▸ hk') hfirst'
            · exact hmem

end Regions

end Lifecycle
