import Mathlib.Algebra.BigOperators.Group.List.Basic
import Mathlib.Data.List.Nodup
import Mathlib.Tactic.Abel

/-! # Keyed tables

    A relation with a primary key, as a list of rows in order of insertion.
    That no two rows share a key is a field of the structure: an insertion
    that would break it fails, and an update must leave the key alone. -/

/-- Rows with pairwise different keys. -/
structure Table {κ ν : Type*} (key : ν → κ) where
  rows      : List ν
  nodupKeys : (rows.map key).Nodup

namespace Table

variable {κ ν : Type*} {key : ν → κ}

def empty : Table key := ⟨[], List.nodup_nil⟩

def singleton (r : ν) : Table key := ⟨[r], List.nodup_singleton _⟩

variable [DecidableEq κ]

/-- The row with key `k`. -/
def get (t : Table key) (k : κ) : Option ν := t.rows.find? fun r => decide (key r = k)

/-- The rows of which `p` holds. -/
def select (t : Table key) (p : ν → Bool) : List ν := t.rows.filter p

/-- The table with one more row, unless its key is taken. -/
def insert (t : Table key) (r : ν) : Option (Table key) :=
  if h : key r ∈ t.rows.map key then none
  else some ⟨t.rows ++ [r], by
    rw [List.map_append]
    refine List.nodup_append.mpr ⟨t.nodupKeys, List.nodup_singleton _, ?_⟩
    intro a ha b hb hab
    rw [List.map_singleton, List.mem_singleton] at hb
    exact h (by rw [← hb, ← hab]; exact ha)⟩

/-- Apply `f`, which leaves keys alone, to the row with key `k`. -/
def modify (t : Table key) (k : κ) (f : ν → ν) (hf : ∀ r, key (f r) = key r) : Table key :=
  ⟨t.rows.map fun r => if key r = k then f r else r, by
    have hkeys : (t.rows.map fun r => if key r = k then f r else r).map key = t.rows.map key := by
      rw [List.map_map]
      refine List.map_congr_left ?_
      intro r _
      show key (if key r = k then f r else r) = key r
      by_cases h : key r = k
      · rw [if_pos h, hf]
      · rw [if_neg h]
    rw [hkeys]
    exact t.nodupKeys⟩

/-- Apply `f`, which leaves keys alone, to every row. -/
def mapRows (t : Table key) (f : ν → ν) (hf : ∀ r, key (f r) = key r) : Table key :=
  ⟨t.rows.map f, by
    have hkeys : (t.rows.map f).map key = t.rows.map key := by
      rw [List.map_map]
      exact List.map_congr_left fun r _ => hf r
    rw [hkeys]
    exact t.nodupKeys⟩

omit [DecidableEq κ] in
theorem ext_rows {t t' : Table key} (h : t.rows = t'.rows) : t = t' := by
  cases t
  cases t'
  cases h
  rfl

theorem modify_modify {t : Table key} {k : κ} {f g : ν → ν} (hf : ∀ r, key (f r) = key r)
    (hg : ∀ r, key (g r) = key r) :
    (t.modify k f hf).modify k g hg
      = t.modify k (fun r => g (f r)) fun r => (hg (f r)).trans (hf r) := by
  refine ext_rows ?_
  show (t.rows.map fun r => if key r = k then f r else r).map _ = _
  rw [List.map_map]
  refine List.map_congr_left fun r _ => ?_
  by_cases h : key r = k
  · have hkept : key (f r) = k := (hf r).trans h
    simp only [Function.comp_apply, if_pos h, if_pos hkept]
  · simp only [Function.comp_apply, if_neg h]

/-! ## Insertion -/

theorem rows_of_insert {t t' : Table key} {r : ν} (h : t.insert r = some t') :
    t'.rows = t.rows ++ [r] := by
  rw [insert] at h
  by_cases htaken : key r ∈ t.rows.map key
  · rw [dif_pos htaken] at h
    cases h
  · rw [dif_neg htaken] at h
    obtain rfl := Option.some.inj h
    rfl

/-- **An insertion fails exactly when the key is taken.** -/
theorem insert_eq_none_iff {t : Table key} {r : ν} :
    t.insert r = none ↔ key r ∈ t.rows.map key := by
  rw [insert]
  by_cases htaken : key r ∈ t.rows.map key
  · rw [dif_pos htaken]
    exact ⟨fun _ => htaken, fun _ => rfl⟩
  · rw [dif_neg htaken]
    constructor
    · intro h
      cases h
    · intro h
      exact absurd h htaken

/-- **An insertion goes through exactly when the key is free.** -/
theorem exists_insert {t : Table key} {r : ν} (h : key r ∉ t.rows.map key) :
    ∃ t', t.insert r = some t' := by
  cases hins : t.insert r with
  | none => exact absurd (insert_eq_none_iff.mp hins) h
  | some t' => exact ⟨t', rfl⟩

/-! ## Lookup -/

theorem get_eq_some_iff {t : Table key} {k : κ} {r : ν} :
    t.get k = some r ↔ r ∈ t.rows ∧ key r = k := by
  constructor
  · intro h
    rw [get] at h
    exact ⟨List.mem_of_find?_eq_some h, by simpa using List.find?_some h⟩
  · rintro ⟨hmem, hkey⟩
    cases hget : t.get k with
    | none =>
        have hno := List.find?_eq_none.mp hget r hmem
        exact absurd (decide_eq_true hkey) hno
    | some r' =>
        rw [get] at hget
        have hkey' : key r' = k := by simpa using List.find?_some hget
        have hmem' : r' ∈ t.rows := List.mem_of_find?_eq_some hget
        rw [List.inj_on_of_nodup_map t.nodupKeys hmem' hmem (hkey'.trans hkey.symm)]

theorem get_modify_self {t : Table key} {k : κ} {f : ν → ν} (hf : ∀ r, key (f r) = key r)
    {r : ν} (h : t.get k = some r) : (t.modify k f hf).get k = some (f r) := by
  obtain ⟨hmem, hkey⟩ := get_eq_some_iff.mp h
  refine get_eq_some_iff.mpr ⟨List.mem_map.mpr ⟨r, hmem, if_pos hkey⟩, ?_⟩
  rw [hf, hkey]

theorem get_modify_of_ne {t : Table key} {k k' : κ} {f : ν → ν}
    (hf : ∀ r, key (f r) = key r) (hne : k' ≠ k) : (t.modify k f hf).get k' = t.get k' := by
  refine Option.ext ?_
  intro r
  rw [get_eq_some_iff, get_eq_some_iff]
  constructor
  · rintro ⟨hmem, hkey⟩
    obtain ⟨r', hmem', rfl⟩ := List.mem_map.mp hmem
    by_cases h : key r' = k
    · rw [if_pos h, hf] at hkey
      exact absurd (hkey.symm.trans h) hne
    · rw [if_neg h] at hkey ⊢
      exact ⟨hmem', hkey⟩
  · rintro ⟨hmem, hkey⟩
    have h : key r ≠ k := by
      rw [hkey]
      exact hne
    exact ⟨List.mem_map.mpr ⟨r, hmem, if_neg h⟩, hkey⟩

theorem get_mapRows {t : Table key} {f : ν → ν} (hf : ∀ r, key (f r) = key r) (k : κ) :
    (t.mapRows f hf).get k = (t.get k).map f := by
  have hkey : ((fun r => decide (key r = k)) ∘ f) = fun r => decide (key r = k) := by
    funext r
    show decide (key (f r) = k) = decide (key r = k)
    rw [hf]
  rw [get, get, mapRows, List.find?_map, hkey]

theorem get_eq_none_iff {t : Table key} {k : κ} : t.get k = none ↔ k ∉ t.rows.map key := by
  rw [get, List.find?_eq_none, List.mem_map]
  constructor
  · rintro h ⟨r, hr, hk⟩
    exact h r hr (decide_eq_true hk)
  · intro h r hr hk
    exact h ⟨r, hr, of_decide_eq_true hk⟩

theorem get_insert {t t' : Table key} {r : ν} (h : t.insert r = some t') (k : κ) :
    t'.get k = if k = key r then some r else t.get k := by
  have hfree : key r ∉ t.rows.map key := by
    intro htaken
    rw [insert_eq_none_iff.mpr htaken] at h
    cases h
  by_cases hk : k = key r
  · rw [if_pos hk, get_eq_some_iff, rows_of_insert h]
    exact ⟨List.mem_append_right _ (List.mem_singleton_self r), hk.symm⟩
  · rw [if_neg hk]
    refine Option.ext ?_
    intro r'
    rw [get_eq_some_iff, get_eq_some_iff, rows_of_insert h, List.mem_append, List.mem_singleton]
    constructor
    · rintro ⟨hold | rfl, hkey⟩
      · exact ⟨hold, hkey⟩
      · exact absurd hkey.symm hk
    · rintro ⟨hold, hkey⟩
      exact ⟨Or.inl hold, hkey⟩

/-! ## Sums over the rows -/

section Sums

variable {M : Type*} [AddCommMonoid M] (w : ν → M)

/-- The sum of a weight over the rows. -/
def total (t : Table key) : M := (t.rows.map w).sum

theorem total_insert {t t' : Table key} {r : ν} (h : t.insert r = some t') :
    t'.total w = t.total w + w r := by
  rw [total, total, rows_of_insert h, List.map_append, List.sum_append, List.map_singleton,
    List.sum_singleton]

theorem total_modify {t : Table key} {k : κ} {f : ν → ν} (hf : ∀ r, key (f r) = key r) {r : ν}
    (h : t.get k = some r) : (t.modify k f hf).total w + w r = t.total w + w (f r) := by
  obtain ⟨hmem, hkey⟩ := get_eq_some_iff.mp h
  obtain ⟨before, after, hrows⟩ := List.append_of_mem hmem
  have hnodup := t.nodupKeys
  rw [hrows, List.map_append, List.map_cons] at hnodup
  -- the key occurs once, so the rows around `r` are left alone
  have hrest : ∀ l : List ν, key r ∉ l.map key →
      l.map (fun x => if key x = k then f x else x) = l := by
    intro l hl
    refine (List.map_congr_left ?_).trans (List.map_id l)
    intro x hx
    refine if_neg ?_
    intro hxk
    exact hl (List.mem_map.mpr ⟨x, hx, hxk.trans hkey.symm⟩)
  have hb : key r ∉ before.map key := by
    intro hmem'
    exact (List.nodup_append.mp hnodup).2.2 _ hmem' _ List.mem_cons_self rfl
  have ha : key r ∉ after.map key :=
    (List.nodup_cons.mp (List.nodup_append.mp hnodup).2.1).1
  show ((t.rows.map fun x => if key x = k then f x else x).map w).sum + w r = _
  rw [total, hrows, List.map_append, List.map_cons, hrest before hb, hrest after ha, if_pos hkey]
  simp only [List.map_append, List.map_cons, List.sum_append, List.sum_cons]
  abel

end Sums

/-! ## Related lookups -/

section Related

variable {μ : Type*} {R : μ → ν → Prop} {o : Option ν}

theorem eq_none_of_rel (h : Option.Rel R none o) : o = none := by
  cases h
  rfl

theorem eq_some_of_rel {x : μ} (h : Option.Rel R (some x) o) : ∃ r, o = some r ∧ R x r := by
  cases h with
  | some hxr => exact ⟨_, rfl, hxr⟩

end Related

end Table
