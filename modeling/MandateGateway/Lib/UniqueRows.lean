import Mathlib.Data.List.Nodup

/-! # Rows that are distinct in several columns

    A table with more than one unique column.  An insertion is refused where a
    column of the new row is taken, and otherwise adds it at the end.  A lookup
    by a unique column finds one row at most. -/

/-- Rows of which no two agree in a column. -/
structure UniqueRows {ν κ : Type} (columns : List (ν → κ)) where
  rows  : List ν
  nodup : ∀ column ∈ columns, (rows.map column).Nodup

namespace UniqueRows

variable {ν κ : Type} {columns : List (ν → κ)}

def empty : UniqueRows columns := ⟨[], fun _ _ => List.nodup_nil⟩

def Taken (t : UniqueRows columns) (r : ν) : Prop :=
  ∃ column ∈ columns, column r ∈ t.rows.map column

theorem nodup_concat {t : UniqueRows columns} {r : ν} (h : ¬ t.Taken r) :
    ∀ column ∈ columns, ((t.rows ++ [r]).map column).Nodup := by
  intro column hcolumn
  rw [List.map_append]
  refine List.nodup_append_comm.mp (List.nodup_cons.mpr ⟨?_, t.nodup column hcolumn⟩)
  intro hmem
  exact h ⟨column, hcolumn, hmem⟩

variable [DecidableEq κ]

instance (t : UniqueRows columns) (r : ν) : Decidable (t.Taken r) :=
  inferInstanceAs (Decidable (∃ column ∈ columns, column r ∈ t.rows.map column))

/-- The table with one more row, unless a column of it is taken. -/
def insert (t : UniqueRows columns) (r : ν) : Option (UniqueRows columns) :=
  if h : t.Taken r then none else some ⟨t.rows ++ [r], nodup_concat h⟩

theorem insert_of_taken {t : UniqueRows columns} {r : ν} (h : t.Taken r) : t.insert r = none :=
  dif_pos h

theorem insert_of_free {t : UniqueRows columns} {r : ν} (h : ¬ t.Taken r) :
    ∃ t', t.insert r = some t' ∧ t'.rows = t.rows ++ [r] :=
  ⟨⟨t.rows ++ [r], nodup_concat h⟩, dif_neg h, rfl⟩

/-! ## Lookup by a unique column -/

omit [DecidableEq κ] in
theorem filter_eq_singleton_of_mem [BEq κ] [LawfulBEq κ] {f : ν → κ} {l : List ν} {r : ν}
    (hnodup : (l.map f).Nodup) (hr : r ∈ l) : (l.filter fun x => f x == f r) = [r] := by
  induction l with
  | nil => cases hr
  | cons a l ih =>
      rw [List.map_cons, List.nodup_cons] at hnodup
      obtain rfl | hr := List.mem_cons.mp hr
      · have hrest : (l.filter fun x => f x == f r) = [] := by
          rw [List.filter_eq_nil_iff]
          intro x hx heq
          exact hnodup.1 (List.mem_map.mpr ⟨x, hx, eq_of_beq heq⟩)
        rw [List.filter_cons, if_pos (beq_self_eq_true _), hrest]
      · have hne : ¬ (f a == f r) = true := by
          intro heq
          exact hnodup.1 (List.mem_map.mpr ⟨r, hr, (eq_of_beq heq).symm⟩)
        rw [List.filter_cons, if_neg hne, ih hnodup.2 hr]

omit [DecidableEq κ] in
theorem filter_eq_singleton_iff [BEq κ] [LawfulBEq κ] {f : ν → κ} {l : List ν} {k : κ} {r : ν}
    (hnodup : (l.map f).Nodup) :
    (l.filter fun x => f x == k) = [r] ↔ r ∈ l ∧ f r = k := by
  constructor
  · intro h
    have hmem : r ∈ l.filter fun x => f x == k := by
      rw [h]
      exact List.mem_singleton_self r
    exact ⟨List.mem_of_mem_filter hmem, eq_of_beq (List.mem_filter.mp hmem).2⟩
  · rintro ⟨hr, rfl⟩
    exact filter_eq_singleton_of_mem hnodup hr

end UniqueRows
