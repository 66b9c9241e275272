import Mathlib.Algebra.GroupWithZero.Nat
import Mathlib.Data.List.Basic

/-! # Parts joined by a separator

    Parts in which the separator does not occur can be read back from the joined
    list, by anyone who knows how many there are (`intercalate_inj`).  Where it
    does occur in a part, the same list also has other parts
    (`exists_other_cut`).  How long the joined list is does not depend on their
    order. -/

namespace Separated

variable {α : Type*} [DecidableEq α] {sep : α}

theorem count_intercalate (l : List α) (ls : List (List α)) :
    ([sep].intercalate (l :: ls)).count sep = (l :: ls).flatten.count sep + ls.length := by
  induction ls generalizing l with
  | nil => simp
  | cons m ms ih =>
      rw [List.intercalate_cons_cons, List.count_append, List.count_append, ih,
        List.count_singleton_self, List.flatten_cons (l := l), List.count_append, List.length_cons]
      omega

theorem count_flatten_eq_zero_iff {ls : List (List α)} :
    ls.flatten.count sep = 0 ↔ ∀ l ∈ ls, sep ∉ l := by
  rw [List.count_eq_zero, List.mem_flatten]
  exact ⟨fun h l hl hsep => h ⟨l, hl, hsep⟩, fun h ⟨l, hl, hsep⟩ => h l hl hsep⟩

/-- **As many parts that join to the same list are the same parts, when the
    separator occurs in none of the first ones.** -/
theorem intercalate_inj {ls ms : List (List α)} (hfree : ∀ l ∈ ls, sep ∉ l)
    (hlength : ls.length = ms.length) (h : [sep].intercalate ls = [sep].intercalate ms) :
    ls = ms := by
  cases ls with
  | nil => exact (List.length_eq_zero_iff.mp hlength.symm).symm
  | cons l ls =>
      cases ms with
      | nil => cases hlength
      | cons m ms =>
          -- the counts leave no separator to the parts of the second list either
          have hcount := congrArg (List.count sep) h
          rw [count_intercalate, count_intercalate, count_flatten_eq_zero_iff.mpr hfree,
            Nat.succ.inj hlength] at hcount
          have hfree' : ∀ n ∈ m :: ms, sep ∉ n := count_flatten_eq_zero_iff.mp (by omega)
          have hsplit := congrArg (List.splitOn sep) h
          rw [List.splitOn_intercalate sep hfree (List.cons_ne_nil l ls),
            List.splitOn_intercalate sep hfree' (List.cons_ne_nil m ms)] at hsplit
          exact hsplit

omit [DecidableEq α] in
/-- **Parts of the same lengths that join to the same list are the same parts**,
    whatever occurs in them. -/
theorem eq_of_map_length {between : List α} {ls ms : List (List α)}
    (hlengths : ls.map List.length = ms.map List.length)
    (h : between.intercalate ls = between.intercalate ms) : ls = ms := by
  induction ls generalizing ms with
  | nil => exact (List.map_eq_nil_iff.mp hlengths.symm).symm
  | cons l ls ih =>
      cases ms with
      | nil => cases hlengths
      | cons m ms =>
          rw [List.map_cons, List.map_cons, List.cons.injEq] at hlengths
          obtain ⟨hhead, htail⟩ := hlengths
          cases ls with
          | nil =>
              obtain rfl := List.map_eq_nil_iff.mp htail.symm
              rw [List.intercalate_singleton, List.intercalate_singleton] at h
              rw [h]
          | cons l' ls =>
              cases ms with
              | nil => cases htail
              | cons m' ms =>
                  rw [List.intercalate_cons_cons, List.intercalate_cons_cons, List.append_assoc,
                    List.append_assoc] at h
                  obtain ⟨rfl, hrest⟩ := List.append_inj h hhead
                  rw [ih htail (List.append_cancel_left hrest)]

theorem eq_of_map_length_text {between : String} {ls ms : List String}
    (hlengths : ls.map String.length = ms.map String.length)
    (h : between.intercalate ls = between.intercalate ms) : ls = ms := by
  have hlists := congrArg String.toList h
  rw [String.toList_intercalate, String.toList_intercalate] at hlists
  have hsame : ls.map String.toList = ms.map String.toList := by
    refine eq_of_map_length ?_ hlists
    rw [List.map_map, List.map_map]
    exact hlengths
  have hinjective : Function.Injective String.toList := fun _ _ => String.toList_injective
  exact List.map_injective_iff.mpr hinjective hsame

omit [DecidableEq α] in
/-- **Two parts, one with a separator in it, can be cut elsewhere.** -/
theorem exists_other_cut {l m : List α} (h : sep ∈ l ∨ sep ∈ m) :
    ∃ l' m' : List α, l' ≠ l ∧ l' ++ sep :: m' = l ++ sep :: m := by
  rcases h with h | h
  · obtain ⟨s, t, rfl⟩ := List.append_of_mem h
    refine ⟨s, t ++ sep :: m, ?_, by simp⟩
    intro heq
    have hlength := congrArg List.length heq
    rw [List.length_append, List.length_cons] at hlength
    omega
  · obtain ⟨s, t, rfl⟩ := List.append_of_mem h
    refine ⟨l ++ sep :: s, t, ?_, by simp⟩
    intro heq
    have hlength := congrArg List.length heq
    rw [List.length_append, List.length_cons] at hlength
    omega

/-! ## How long the joined list is -/

section
omit [DecidableEq α]

theorem length_intercalate_cons (between l : List α) (ls : List (List α)) :
    (between.intercalate (l :: ls)).length + between.length
      = (((l :: ls).map List.length).map (· + between.length)).sum := by
  induction ls generalizing l with
  | nil =>
      rw [List.intercalate_singleton, List.map_singleton, List.map_singleton, List.sum_singleton]
  | cons m ms ih =>
      rw [List.intercalate_cons_cons, List.length_append, List.length_append, List.map_cons,
        List.map_cons, List.sum_cons, ← ih m]
      omega

/-- **The joined list is as long** whatever the order of the parts is. -/
theorem length_intercalate_of_perm {between : List α} {ls ms : List (List α)}
    (h : (ls.map List.length).Perm (ms.map List.length)) :
    (between.intercalate ls).length = (between.intercalate ms).length := by
  have hcount := h.length_eq
  rw [List.length_map, List.length_map] at hcount
  cases ls with
  | nil => rw [List.length_eq_zero_iff.mp hcount.symm]
  | cons l ls =>
      cases ms with
      | nil => cases hcount
      | cons m ms =>
          have hsum := (h.map (· + between.length)).sum_nat
          rw [← length_intercalate_cons, ← length_intercalate_cons] at hsum
          exact Nat.add_right_cancel hsum

end

end Separated
