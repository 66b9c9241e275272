import Mathlib.Order.WithBot
import MandateGateway.Lib.Runs

/-! # Runs over independent keys

    Every action has a key, and the state has a cell for each key.  When a
    step reads and writes the cell of its own key only, the steps of one key
    observe the same whatever the other keys do (`Keyed.outcomes_filter`).

    Where the key of an action depends on a part of the state that is shared, and
    some actions are those of every key, the same holds of what concerns a key
    (`SharedKeyed.concerned_alone`).  A quota bounds how often an event happens
    that is counted (`countP_le_of_quota`).

    A timed gate keeps for each key until when it is closed: a step that passes
    finds the gate of its key open, and closes it until later.  What a gate is
    closed until is therefore the latest that the past passes ask for
    (`TimedGate.closedUntil_le_iff`). -/

namespace Runs

variable {σ α ο κ γ τ : Type*} {f : σ → α → ο × σ} {key : α → κ}

/-! ## Cells -/

section Cells

variable [DecidableEq κ] {cell : σ → κ → γ}

/-- What the steps of one key observe, in order. -/
def outcomes (f : σ → α → ο × σ) (key : α → κ) (k : κ) (s : σ) (as : List α) : List ο :=
  ((steps f s as).filter fun c => key c.act = k).map Step.out

@[simp] theorem outcomes_nil (k : κ) (s : σ) : outcomes f key k s [] = [] := rfl

theorem outcomes_cons_self (s : σ) (a : α) (as : List α) :
    outcomes f key (key a) s (a :: as) = (f s a).1 :: outcomes f key (key a) (f s a).2 as := by
  have hself : decide (key (stepAt f s a).act = key a) = true := decide_eq_true rfl
  rw [outcomes, steps_cons, List.filter_cons, if_pos hself, List.map_cons]
  rfl

theorem outcomes_cons_of_ne {k : κ} (s : σ) {a : α} (h : key a ≠ k) (as : List α) :
    outcomes f key k s (a :: as) = outcomes f key k (f s a).2 as := by
  have hskip : ¬ decide (key (stepAt f s a).act = k) = true := by
    rw [decide_eq_true_eq]
    exact h
  rw [outcomes, steps_cons, List.filter_cons, if_neg hskip]
  rfl

/-- A step reads and writes the cell of its key only. -/
structure Keyed (f : σ → α → ο × σ) (key : α → κ) (cell : σ → κ → γ) : Prop where
  out   : ∀ s s' a, cell s (key a) = cell s' (key a) → (f s a).1 = (f s' a).1
  own   : ∀ s s' a, cell s (key a) = cell s' (key a) →
    cell (f s a).2 (key a) = cell (f s' a).2 (key a)
  other : ∀ s a k, key a ≠ k → cell (f s a).2 k = cell s k

/-- **The steps of a key observe what they would observe alone.** -/
theorem Keyed.outcomes_filter (h : Keyed f key cell) {k : κ} {s s' : σ}
    (hcell : cell s k = cell s' k) (as : List α) :
    outcomes f key k s as = outcomes f key k s' (as.filter fun a => key a = k) := by
  induction as generalizing s s' with
  | nil => rfl
  | cons a as ih =>
      by_cases hk : key a = k
      · subst hk
        have hself : decide (key a = key a) = true := decide_eq_true rfl
        rw [List.filter_cons, if_pos hself, outcomes_cons_self, outcomes_cons_self,
          h.out s s' a hcell, ih (h.own s s' a hcell)]
      · have hskip : ¬ decide (key a = k) = true := by
          rw [decide_eq_true_eq]
          exact hk
        rw [List.filter_cons, if_neg hskip, outcomes_cons_of_ne s hk]
        exact ih ((h.other s a k hk).trans hcell)

/-- Two runs with the same actions at a key give them the same outcomes. -/
theorem Keyed.outcomes_eq (h : Keyed f key cell) {k : κ} (s : σ) {as bs : List α}
    (hsame : as.filter (fun a => key a = k) = bs.filter fun a => key a = k) :
    outcomes f key k s as = outcomes f key k s bs := by
  rw [h.outcomes_filter rfl as, hsame, ← h.outcomes_filter rfl bs]

end Cells

/-! ## Cells behind a shared part -/

section Shared

variable [DecidableEq κ] {δ : Type*} {shared : σ → δ} {keyOf : δ → α → Option κ}
  {cell : σ → κ → γ}

/-- The action is one of this key, or has no key and is one of all of them. -/
def Concerns (keyOf : δ → α → Option κ) (d : δ) (k : κ) (a : α) : Prop :=
  keyOf d a = none ∨ keyOf d a = some k

instance (d : δ) (k : κ) (a : α) : Decidable (Concerns keyOf d k a) :=
  inferInstanceAs (Decidable (_ ∨ _))

/-- What the actions that concern a key observe, in order. -/
def concerned (f : σ → α → ο × σ) (shared : σ → δ) (keyOf : δ → α → Option κ) (k : κ) :
    σ → List α → List ο
  | _, [] => []
  | s, a :: as =>
      if Concerns keyOf (shared s) k a then
        (f s a).1 :: concerned f shared keyOf k (f s a).2 as
      else concerned f shared keyOf k (f s a).2 as

/-- The actions of a run that concern a key. -/
def alone (f : σ → α → ο × σ) (shared : σ → δ) (keyOf : δ → α → Option κ) (k : κ) :
    σ → List α → List α
  | _, [] => []
  | s, a :: as =>
      if Concerns keyOf (shared s) k a then a :: alone f shared keyOf k (f s a).2 as
      else alone f shared keyOf k (f s a).2 as

/-- A step that concerns a key depends on the shared part and the cell of the key;
    any other step leaves both alone. -/
structure SharedKeyed (f : σ → α → ο × σ) (shared : σ → δ) (keyOf : δ → α → Option κ)
    (cell : σ → κ → γ) : Prop where
  own   : ∀ s s' a k, Concerns keyOf (shared s) k a → shared s = shared s' →
    cell s k = cell s' k → (f s a).1 = (f s' a).1 ∧ shared (f s a).2 = shared (f s' a).2
      ∧ cell (f s a).2 k = cell (f s' a).2 k
  other : ∀ s a k, ¬ Concerns keyOf (shared s) k a →
    shared (f s a).2 = shared s ∧ cell (f s a).2 k = cell s k

/-- **The actions that concern a key observe what they would observe alone.** -/
theorem SharedKeyed.concerned_alone (h : SharedKeyed f shared keyOf cell) {k : κ} {s s' : σ}
    (hshared : shared s = shared s') (hcell : cell s k = cell s' k) (as : List α) :
    concerned f shared keyOf k s as
      = concerned f shared keyOf k s' (alone f shared keyOf k s as) := by
  induction as generalizing s s' with
  | nil => rfl
  | cons a as ih =>
      rw [concerned, alone]
      by_cases hk : Concerns keyOf (shared s) k a
      · obtain ⟨hout, hshared', hcell'⟩ := h.own s s' a k hk hshared hcell
        rw [if_pos hk, if_pos hk, concerned, if_pos (hshared ▸ hk), hout, ih hshared' hcell']
      · obtain ⟨hshared', hcell'⟩ := h.other s a k hk
        rw [if_neg hk, if_neg hk]
        exact ih (hshared'.trans hshared) (hcell'.trans hcell)

end Shared

/-! ## Quotas -/

section Quota

variable {E : Step σ α ο → Bool} {limit : Int}

/-- An event that is counted, and happens below the limit only, happens at most as
    often as the limit says, as long as the count never goes back. -/
theorem countP_le_of_quota (count : σ → Int) (P : Step σ α ο → Prop)
    (hevent : ∀ s a, E (stepAt f s a) = true →
      count s < limit ∧ count s + 1 ≤ count (f s a).2)
    (hgrows : ∀ s a, P (stepAt f s a) → count s ≤ count (f s a).2) {s : σ}
    (hpos : 0 ≤ count s) (hlimit : 0 ≤ limit) {as : List α} (hP : ∀ c ∈ steps f s as, P c) :
    ((steps f s as).countP E : Int) ≤ limit := by
  -- what is left of the quota bounds the events to come
  suffices hleft : (steps f s as).countP E = 0 ∨ (steps f s as).countP E + count s ≤ limit by
    omega
  clear hpos
  induction as generalizing s with
  | nil => exact .inl rfl
  | cons a as ih =>
      rw [steps_cons, List.forall_mem_cons] at hP
      have hrest := ih hP.2
      have hstep := hgrows s a hP.1
      rw [steps_cons]
      by_cases hE : E (stepAt f s a) = true
      · obtain ⟨hbelow, hcounted⟩ := hevent s a hE
        rw [List.countP_cons_of_pos hE]
        omega
      · rw [List.countP_cons_of_neg hE]
        omega

end Quota

/-! ## Timed gates -/

section Gates

variable [LinearOrder τ] {closedUntil : σ → κ → WithBot (WithTop τ)} {time : α → τ}
  {reopens : α → WithTop τ} {passes : Step σ α ο → Prop}

/-- A step that passes finds the gate of its key open at its time, and closes
    it until a later time, or for good; every other gate stays as it is. -/
structure TimedGate (f : σ → α → ο × σ) (key : α → κ)
    (closedUntil : σ → κ → WithBot (WithTop τ)) (time : α → τ) (reopens : α → WithTop τ)
    (passes : Step σ α ο → Prop) : Prop where
  later  : ∀ a, (time a : WithTop τ) < reopens a
  opened : ∀ s a, passes (stepAt f s a) → closedUntil s (key a) ≤ ((time a : WithTop τ) : _)
  closed : ∀ s a, passes (stepAt f s a) → closedUntil (f s a).2 (key a) = (reopens a : _)
  kept   : ∀ s a k, ¬ (passes (stepAt f s a) ∧ key a = k) →
    closedUntil (f s a).2 k = closedUntil s k

namespace TimedGate

variable (h : TimedGate f key closedUntil time reopens passes)
include h

/-- A step moves a gate to the later of what it was closed until and what a
    pass asks for. -/
theorem step_le_iff (s : σ) (a : α) (k : κ) (x : WithBot (WithTop τ)) :
    closedUntil (f s a).2 k ≤ x
      ↔ closedUntil s k ≤ x
        ∧ (passes (stepAt f s a) → key a = k → ((reopens a : WithTop τ) : _) ≤ x) := by
  by_cases hpass : passes (stepAt f s a) ∧ key a = k
  · obtain ⟨hp, rfl⟩ := hpass
    rw [h.closed s a hp]
    constructor
    · intro hx
      have hlater : ((time a : WithTop τ) : WithBot (WithTop τ)) ≤ reopens a :=
        WithBot.coe_le_coe.mpr (h.later a).le
      exact ⟨(h.opened s a hp).trans (hlater.trans hx), fun _ _ => hx⟩
    · rintro ⟨-, hx⟩
      exact hx hp rfl
  · rw [h.kept s a k hpass]
    constructor
    · intro hx
      exact ⟨hx, fun hp hk => absurd ⟨hp, hk⟩ hpass⟩
    · exact And.left

/-- **A gate is closed until the latest that it was, and that the passes of the
    run ask for.** -/
theorem closedUntil_le_iff (s : σ) (as : List α) (k : κ) (x : WithBot (WithTop τ)) :
    closedUntil (exec f s as) k ≤ x
      ↔ closedUntil s k ≤ x
        ∧ ∀ c ∈ steps f s as, passes c → key c.act = k →
          ((reopens c.act : WithTop τ) : _) ≤ x := by
  induction as generalizing s with
  | nil =>
      constructor
      · intro hx
        exact ⟨hx, fun c hc => absurd hc List.not_mem_nil⟩
      · exact And.left
  | cons a as ih =>
      rw [exec_cons, steps_cons, List.forall_mem_cons, ih, h.step_le_iff, and_assoc, stepAt_act]

/-- A gate stays closed at least until what each past pass of it asks for. -/
theorem reopens_le {s : σ} {as : List α} {c : Step σ α ο} (hc : c ∈ steps f s as)
    (hpass : passes c) :
    ((reopens c.act : WithTop τ) : _) ≤ closedUntil (exec f s as) (key c.act) :=
  ((h.closedUntil_le_iff s as (key c.act) _).mp le_rfl).2 c hc hpass rfl

end TimedGate

end Gates

end Runs
