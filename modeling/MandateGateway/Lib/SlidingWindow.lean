import Mathlib.Algebra.Order.Group.Defs
import Mathlib.Data.List.Induction

/-! # Sliding windows

    A queue of times from which the oldest are dropped as time goes on.

    * `prune_prune_append`: what is dropped early would be dropped later too;
    * `prune_eq_filter`: of an ordered queue the times from the cutoff on are left;
    * `Spaced.countP_le`: when every time finds few enough before it in its own
      window, no window has too many. -/

namespace SlidingWindow

variable {τ : Type*} [LinearOrder τ] {cutoff cutoff' : τ} {times more : List τ}

/-- The queue without the times before a cutoff, as far as these come first. -/
def prune (cutoff : τ) (times : List τ) : List τ := times.dropWhile fun t => t < cutoff

theorem prune_cons_of_lt {t : τ} (h : t < cutoff) :
    prune cutoff (t :: times) = prune cutoff times := by
  rw [prune, List.dropWhile_cons, if_pos (decide_eq_true h)]
  rfl

theorem prune_cons_of_le {t : τ} (h : cutoff ≤ t) : prune cutoff (t :: times) = t :: times := by
  have hkept : ¬ decide (t < cutoff) = true := by
    rw [decide_eq_true_eq, not_lt]
    exact h
  rw [prune, List.dropWhile_cons, if_neg hkept]

/-- **What is dropped at one cutoff is dropped at a later one**, also when times
    were added in between. -/
theorem prune_prune_append (h : cutoff ≤ cutoff') :
    prune cutoff' (prune cutoff times ++ more) = prune cutoff' (times ++ more) := by
  induction times with
  | nil => rfl
  | cons t times ih =>
      rcases lt_or_ge t cutoff with hlt | hge
      · rw [prune_cons_of_lt hlt, ih, List.cons_append, prune_cons_of_lt (hlt.trans_le h)]
      · rw [prune_cons_of_le hge]

/-- **Of an ordered queue** all that is before the cutoff is dropped. -/
theorem prune_eq_filter (h : times.Pairwise (· ≤ ·)) :
    prune cutoff times = times.filter fun t => cutoff ≤ t := by
  induction times with
  | nil => rfl
  | cons t times ih =>
      rw [List.pairwise_cons] at h
      rcases lt_or_ge t cutoff with hlt | hge
      · have hdropped : ¬ decide (cutoff ≤ t) = true := by
          rw [decide_eq_true_eq, not_le]
          exact hlt
        rw [prune_cons_of_lt hlt, ih h.2, List.filter_cons, if_neg hdropped]
      · rw [prune_cons_of_le hge]
        refine (List.filter_eq_self.mpr ?_).symm
        intro s hs
        rcases List.mem_cons.mp hs with rfl | hs
        · exact decide_eq_true hge
        · exact decide_eq_true (hge.trans (h.1 s hs))

/-! ## Windows -/

variable {α : Type*} [AddCommGroup α] [LinearOrder α]

/-- Before each of the times fewer than `limit` are in the window that ends with it. -/
def Spaced (limit : Nat) (window : α) (times : List α) : Prop :=
  ∀ before t after, times = before ++ t :: after →
    before.countP (fun s => t - window ≤ s) < limit

variable {limit : Nat} {window : α} {times : List α}

theorem Spaced.of_append {more : List α} (h : Spaced limit window (times ++ more)) :
    Spaced limit window times := by
  intro before t after hsplit
  refine h before t (after ++ more) ?_
  rw [hsplit, List.append_assoc, List.cons_append]

theorem Spaced.nil : Spaced limit window ([] : List α) := by
  intro before t after hsplit
  cases before <;> cases hsplit

/-- A time after the others that finds few enough in its window. -/
theorem Spaced.concat {t : α} (h : Spaced limit window times)
    (hroom : times.countP (fun s => t - window ≤ s) < limit) :
    Spaced limit window (times ++ [t]) := by
  intro before u after hsplit
  rcases List.eq_nil_or_concat after with rfl | ⟨after, v, rfl⟩
  · obtain ⟨rfl, hlast⟩ := List.append_inj' hsplit rfl
    obtain rfl := (List.cons.inj hlast).1
    exact hroom
  · rw [List.concat_eq_append, ← List.cons_append, ← List.append_assoc] at hsplit
    exact h before u after (List.append_inj' hsplit rfl).1

/-- **Every closed window of the length has at most `limit` of the times.** -/
theorem Spaced.countP_le [IsOrderedAddMonoid α] (h : Spaced limit window times) (start : α) :
    times.countP (fun t => start ≤ t ∧ t ≤ start + window) ≤ limit := by
  induction times using List.reverseRecOn with
  | nil => exact Nat.zero_le _
  | append_singleton times t ih =>
      rw [List.countP_append, List.countP_singleton]
      by_cases hin : start ≤ t ∧ t ≤ start + window
      · -- the others in the window are in the one that ends with the last time
        rw [if_pos (decide_eq_true hin)]
        have hbefore := h times t [] rfl
        have hle : times.countP (fun s => decide (start ≤ s ∧ s ≤ start + window))
            ≤ times.countP fun s => decide (t - window ≤ s) := by
          refine List.countP_mono_left ?_
          intro s _ hs
          have hstart : t - window ≤ start := sub_le_iff_le_add.mpr hin.2
          exact decide_eq_true (hstart.trans (of_decide_eq_true hs).1)
        omega
      · rw [if_neg fun hmem => hin (of_decide_eq_true hmem)]
        exact ih h.of_append

end SlidingWindow
