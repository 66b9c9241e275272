import Mathlib.Algebra.BigOperators.Group.List.Basic
import Mathlib.Tactic.Abel

/-! # Insertion-ordered maps

    A finite map that remembers the order in which its keys were first
    inserted: assigning to a present key replaces the value in place,
    assigning to a new key appends.  Uniqueness of keys is a field of the
    structure, so no lookup is ever ambiguous.

    Besides the lookup laws the file proves what an accounting argument
    needs: how the sum of a weight over all entries changes under one
    assignment (`total_set_new`, `total_set_of_get`). -/

/-- A map with unique keys, kept in order of first insertion. -/
structure OrderedMap (κ ν : Type*) where
  entries : List (κ × ν)
  nodupKeys : (entries.map Prod.fst).Nodup

namespace OrderedMap

variable {κ ν M : Type*}

/-- The map without entries. -/
def empty : OrderedMap κ ν := ⟨[], List.nodup_nil⟩

instance : EmptyCollection (OrderedMap κ ν) := ⟨empty⟩

def values (d : OrderedMap κ ν) : List ν := d.entries.map Prod.snd

section Raw

variable [DecidableEq κ]

def lookupEntries (k : κ) : List (κ × ν) → Option ν
  | [] => none
  | (k', v) :: rest => if k' = k then some v else lookupEntries k rest

/-- Assignment in an entry list: replace in place, or append. -/
def setEntries (k : κ) (v : ν) : List (κ × ν) → List (κ × ν)
  | [] => [(k, v)]
  | (k', v') :: rest =>
      if k' = k then (k, v) :: rest else (k', v') :: setEntries k v rest

theorem map_fst_setEntries (k : κ) (v : ν) (l : List (κ × ν)) :
    (setEntries k v l).map Prod.fst
      = if k ∈ l.map Prod.fst then l.map Prod.fst
        else l.map Prod.fst ++ [k] := by
  induction l with
  | nil => simp [setEntries]
  | cons hd rest ih =>
      obtain ⟨k', v'⟩ := hd
      -- a present key is found at the head or in the tail, an absent one appended to the tail
      by_cases hk : k' = k
      · subst hk
        simp [setEntries]
      · have hk' : k ≠ k' := fun h => hk h.symm
        by_cases hm : k ∈ rest.map Prod.fst
        · rw [if_pos hm] at ih
          simp only [setEntries, if_neg hk, List.map_cons, ih,
            if_pos (List.mem_cons_of_mem k' hm)]
        · rw [if_neg hm] at ih
          have hm' : ¬ k ∈ k' :: rest.map Prod.fst := by
            rw [List.mem_cons]
            rintro (h | h)
            · exact hk' h
            · exact hm h
          simp only [setEntries, if_neg hk, List.map_cons, ih, if_neg hm',
            List.cons_append]

theorem nodup_setEntries (k : κ) (v : ν) {l : List (κ × ν)}
    (h : (l.map Prod.fst).Nodup) :
    ((setEntries k v l).map Prod.fst).Nodup := by
  rw [map_fst_setEntries]
  by_cases hm : k ∈ l.map Prod.fst
  · rw [if_pos hm]
    exact h
  · rw [if_neg hm]
    refine List.nodup_append.mpr ⟨h, by simp, ?_⟩
    intro a ha b hb hab
    rw [List.mem_singleton] at hb
    exact hm (by rw [← hb, ← hab]; exact ha)

theorem lookupEntries_setEntries_self (k : κ) (v : ν) (l : List (κ × ν)) :
    lookupEntries k (setEntries k v l) = some v := by
  induction l with
  | nil => simp [setEntries, lookupEntries]
  | cons hd rest ih =>
      obtain ⟨k', v'⟩ := hd
      by_cases hk : k' = k
      · simp [setEntries, lookupEntries, hk]
      · simp only [setEntries, if_neg hk, lookupEntries]
        exact ih

theorem lookupEntries_setEntries_of_ne {k k' : κ} (hne : k' ≠ k) (v : ν)
    (l : List (κ × ν)) :
    lookupEntries k' (setEntries k v l) = lookupEntries k' l := by
  induction l with
  | nil => simp [setEntries, lookupEntries, hne.symm]
  | cons hd rest ih =>
      obtain ⟨k₀, v₀⟩ := hd
      by_cases hk : k₀ = k
      · subst hk
        simp [setEntries, lookupEntries, hne.symm]
      · simp only [setEntries, if_neg hk, lookupEntries, ih]

theorem mem_of_lookupEntries {k : κ} {v : ν} {l : List (κ × ν)}
    (h : lookupEntries k l = some v) : (k, v) ∈ l := by
  induction l with
  | nil => cases h
  | cons hd rest ih =>
      obtain ⟨k', v'⟩ := hd
      by_cases hk : k' = k
      · simp only [lookupEntries, if_pos hk, Option.some.injEq] at h
        rw [hk, h]
        exact List.mem_cons_self
      · simp only [lookupEntries, if_neg hk] at h
        exact List.mem_cons_of_mem _ (ih h)

theorem lookupEntries_of_mem {k : κ} {v : ν} {l : List (κ × ν)}
    (hnd : (l.map Prod.fst).Nodup) (h : (k, v) ∈ l) :
    lookupEntries k l = some v := by
  induction l with
  | nil => cases h
  | cons hd rest ih =>
      obtain ⟨k', v'⟩ := hd
      rw [List.map_cons, List.nodup_cons] at hnd
      rcases List.mem_cons.mp h with heq | hmem
      · obtain ⟨rfl, rfl⟩ := Prod.mk.inj heq
        simp [lookupEntries]
      · -- the key of a tail entry is not the head's
        have hk : k' ≠ k := by
          intro hk
          exact hnd.1 (List.mem_map.mpr ⟨(k, v), hmem, hk.symm⟩)
        simp only [lookupEntries, if_neg hk]
        exact ih hnd.2 hmem

section Map

variable {μ : Type*} (g : ν → μ)

theorem lookupEntries_map (k : κ) (l : List (κ × ν)) :
    lookupEntries k (l.map fun e => (e.1, g e.2)) = (lookupEntries k l).map g := by
  induction l with
  | nil => rfl
  | cons hd rest ih =>
      obtain ⟨k', v'⟩ := hd
      by_cases hk : k' = k
      · simp only [List.map_cons, lookupEntries, if_pos hk, Option.map_some]
      · simp only [List.map_cons, lookupEntries, if_neg hk]
        exact ih

theorem setEntries_map (k : κ) (v : ν) (l : List (κ × ν)) :
    (setEntries k v l).map (fun e => (e.1, g e.2))
      = setEntries k (g v) (l.map fun e => (e.1, g e.2)) := by
  induction l with
  | nil => rfl
  | cons hd rest ih =>
      obtain ⟨k', v'⟩ := hd
      by_cases hk : k' = k
      · simp only [setEntries, List.map_cons, if_pos hk]
      · simp only [setEntries, List.map_cons, if_neg hk, ih]

end Map

end Raw

variable [DecidableEq κ]

/-- `d.get k`: the value at `k`, if any. -/
def get (d : OrderedMap κ ν) (k : κ) : Option ν := lookupEntries k d.entries

/-- `d[k] = v`. -/
def set (d : OrderedMap κ ν) (k : κ) (v : ν) : OrderedMap κ ν :=
  ⟨setEntries k v d.entries, nodup_setEntries k v d.nodupKeys⟩

/-- `k in d`. -/
def contains (d : OrderedMap κ ν) (k : κ) : Bool := (d.get k).isSome

@[simp] theorem get_empty (k : κ) : (empty : OrderedMap κ ν).get k = none := rfl

@[simp] theorem get_set_self (d : OrderedMap κ ν) (k : κ) (v : ν) :
    (d.set k v).get k = some v :=
  lookupEntries_setEntries_self k v d.entries

@[simp] theorem get_set_of_ne (d : OrderedMap κ ν) {k k' : κ} (h : k' ≠ k) (v : ν) :
    (d.set k v).get k' = d.get k' :=
  lookupEntries_setEntries_of_ne h v d.entries

theorem get_set (d : OrderedMap κ ν) (k k' : κ) (v : ν) :
    (d.set k v).get k' = if k' = k then some v else d.get k' := by
  by_cases h : k' = k
  · rw [if_pos h, h, get_set_self]
  · rw [if_neg h, get_set_of_ne d h]

/-- Assigning related values to one key keeps the entries of a store related
    to those of another. -/
theorem related_set {μ : Type*} {R : ν → μ → Prop} {d : OrderedMap κ ν} {d' : OrderedMap κ μ}
    (h : ∀ k y, d'.get k = some y → ∃ x, d.get k = some x ∧ R x y) {k : κ} {x : ν} {y : μ}
    (hxy : R x y) (k' : κ) (y' : μ) (hget : (d'.set k y).get k' = some y') :
    ∃ x', (d.set k x).get k' = some x' ∧ R x' y' := by
  by_cases hk : k' = k
  · rw [hk, get_set_self, Option.some.injEq] at hget
    rw [hk, get_set_self, ← hget]
    exact ⟨x, rfl, hxy⟩
  · rw [get_set_of_ne _ hk] at hget ⊢
    exact h k' y' hget

theorem set_set (d : OrderedMap κ ν) (k : κ) (v w : ν) : (d.set k v).set k w = d.set k w := by
  have h : ∀ l : List (κ × ν), setEntries k w (setEntries k v l) = setEntries k w l := by
    intro l
    induction l with
    | nil => simp only [setEntries, if_pos]
    | cons hd rest ih =>
        obtain ⟨k', v'⟩ := hd
        by_cases hk : k' = k
        · simp only [setEntries, if_pos hk, if_pos]
        · simp only [setEntries, if_neg hk, ih]
  simp only [set, h]

theorem contains_iff (d : OrderedMap κ ν) (k : κ) :
    d.contains k = true ↔ ∃ v, d.get k = some v :=
  Option.isSome_iff_exists

theorem contains_eq_false_iff (d : OrderedMap κ ν) (k : κ) :
    d.contains k = false ↔ d.get k = none := by
  rw [contains, Option.isSome_eq_false_iff, Option.isNone_iff_eq_none]

@[simp] theorem contains_set_self (d : OrderedMap κ ν) (k : κ) (v : ν) :
    (d.set k v).contains k = true := by
  rw [contains, get_set_self]
  rfl

theorem contains_set {d : OrderedMap κ ν} {k k' : κ} {v : ν} (h : d.contains k' = true) :
    (d.set k v).contains k' = true := by
  by_cases hk : k' = k
  · rw [hk, contains_set_self]
  · rw [contains, get_set_of_ne d hk]
    exact h

theorem mem_entries_iff (d : OrderedMap κ ν) {k : κ} {v : ν} :
    (k, v) ∈ d.entries ↔ d.get k = some v :=
  ⟨lookupEntries_of_mem d.nodupKeys, mem_of_lookupEntries⟩

theorem mem_values_iff (d : OrderedMap κ ν) {v : ν} :
    v ∈ d.values ↔ ∃ k, d.get k = some v := by
  constructor
  · intro h
    obtain ⟨⟨k, w⟩, hmem, hw⟩ := List.mem_map.mp h
    have hw' : w = v := hw
    exact ⟨k, d.mem_entries_iff.mp (hw' ▸ hmem)⟩
  · rintro ⟨k, hk⟩
    exact List.mem_map.mpr ⟨(k, v), d.mem_entries_iff.mpr hk, rfl⟩

theorem mem_values_set (d : OrderedMap κ ν) {k : κ} {v x : ν}
    (h : x ∈ (d.set k v).values) : x = v ∨ x ∈ d.values := by
  obtain ⟨k', hk'⟩ := (d.set k v).mem_values_iff.mp h
  rw [get_set] at hk'
  by_cases hk : k' = k
  · rw [if_pos hk, Option.some.injEq] at hk'
    exact Or.inl hk'.symm
  · rw [if_neg hk] at hk'
    exact Or.inr (d.mem_values_iff.mpr ⟨k', hk'⟩)

/-! ## Building from a list, and restricting the keys -/

/-- `{key(v): v for v in vs}`: a later value replaces an earlier one. -/
def ofList (key : ν → κ) (vs : List ν) : OrderedMap κ ν :=
  vs.foldl (fun d v => d.set (key v) v) empty

private theorem get_foldl_set (key : ν → κ) (k : κ) (vs : List ν) (d : OrderedMap κ ν) :
    (vs.foldl (fun d v => d.set (key v) v) d).get k
      = (vs.reverse.find? fun v => key v == k).or (d.get k) := by
  induction vs generalizing d with
  | nil => rfl
  | cons v rest ih =>
      rw [List.foldl_cons, ih, List.reverse_cons, List.find?_append, Option.or_assoc, get_set]
      congr 1
      by_cases hk : key v = k
      · rw [if_pos hk.symm, List.find?_singleton, if_pos (by simpa using hk)]
        rfl
      · rw [if_neg (Ne.symm hk), List.find?_singleton, if_neg (by simpa using hk)]
        rfl

theorem get_ofList (key : ν → κ) (vs : List ν) (k : κ) :
    (ofList key vs).get k = vs.reverse.find? fun v => key v == k := by
  rw [ofList, get_foldl_set, get_empty, Option.or_none]

/-- The entries whose keys satisfy `p`. -/
def filterKeys (p : κ → Bool) (d : OrderedMap κ ν) : OrderedMap κ ν :=
  ⟨d.entries.filter fun e => p e.1,
    d.nodupKeys.sublist (List.filter_sublist.map _)⟩

private theorem lookupEntries_filter (p : κ → Bool) (k : κ) (l : List (κ × ν)) :
    lookupEntries k (l.filter fun e => p e.1)
      = if p k = true then lookupEntries k l else none := by
  induction l with
  | nil => simp [lookupEntries]
  | cons hd rest ih =>
      obtain ⟨k', v'⟩ := hd
      by_cases hk : k' = k
      · subst hk
        by_cases hp : p k' = true
        · simp [hp, lookupEntries]
        · simp [hp, ih]
      · by_cases hp : p k' = true
        · simp [hp, lookupEntries, hk, ih]
        · simp [hp, lookupEntries, hk, ih]

theorem get_filterKeys (p : κ → Bool) (d : OrderedMap κ ν) (k : κ) :
    (d.filterKeys p).get k = if p k = true then d.get k else none :=
  lookupEntries_filter p k d.entries

/-- `d.pop(k, None)`, as far as the map is concerned. -/
def erase (d : OrderedMap κ ν) (k : κ) : OrderedMap κ ν := d.filterKeys fun k' => k' ≠ k

theorem get_erase (d : OrderedMap κ ν) (k k' : κ) :
    (d.erase k).get k' = if k' = k then none else d.get k' := by
  rw [erase, get_filterKeys]
  by_cases h : k' = k
  · simp [h]
  · simp [h]

/-! ## Mapping the values -/

section MapValues

variable {μ : Type*} (g : ν → μ)

/-- Apply `g` to every value. -/
def mapValues (d : OrderedMap κ ν) : OrderedMap κ μ :=
  ⟨d.entries.map fun e => (e.1, g e.2), by
    rw [List.map_map]
    exact d.nodupKeys⟩

omit [DecidableEq κ] in
theorem values_mapValues (d : OrderedMap κ ν) : (d.mapValues g).values = d.values.map g := by
  rw [values, values, mapValues, List.map_map, List.map_map]
  rfl

theorem get_mapValues (d : OrderedMap κ ν) (k : κ) :
    (d.mapValues g).get k = (d.get k).map g :=
  lookupEntries_map g k d.entries

theorem mapValues_set (d : OrderedMap κ ν) (k : κ) (v : ν) :
    (d.set k v).mapValues g = (d.mapValues g).set k (g v) := by
  simp only [mapValues, set, setEntries_map]

theorem set_mapValues_of_get {d : OrderedMap κ ν} {g' : ν → μ} {k : κ} {v : ν} {w : μ}
    (hget : d.get k = some v) (hself : g' v = w)
    (hother : ∀ k' v', d.get k' = some v' → k' ≠ k → g' v' = g v') :
    (d.mapValues g).set k w = d.mapValues g' := by
  have hentries : ∀ l : List (κ × ν), (l.map Prod.fst).Nodup → (k, v) ∈ l →
      (∀ k' v', (k', v') ∈ l → k' ≠ k → g' v' = g v') →
      setEntries k w (l.map fun e => (e.1, g e.2)) = l.map fun e => (e.1, g' e.2) := by
    intro l
    induction l with
    | nil =>
        intro _ hmem
        cases hmem
    | cons hd rest ih =>
        obtain ⟨k', v'⟩ := hd
        intro hnd hmem hsame
        rw [List.map_cons, List.nodup_cons] at hnd
        by_cases hk : k' = k
        · subst hk
          -- the head is the entry of the key, and no entry behind it is
          have hhead : v' = v := by
            rcases List.mem_cons.mp hmem with heq | hrest
            · exact (Prod.mk.inj heq).2.symm
            · exact absurd (List.mem_map_of_mem hrest) hnd.1
          have htail : rest.map (fun e => (e.1, g e.2)) = rest.map fun e => (e.1, g' e.2) := by
            refine List.map_congr_left fun e he => ?_
            have hne : e.1 ≠ k' := by
              intro heq
              exact hnd.1 (List.mem_map.mpr ⟨e, he, heq⟩)
            rw [hsame e.1 e.2 (List.mem_cons_of_mem _ he) hne]
          simp only [List.map_cons, setEntries, if_pos, htail, hhead, hself]
        · have hrest : (k, v) ∈ rest := by
            rcases List.mem_cons.mp hmem with heq | hrest
            · exact absurd (Prod.mk.inj heq).1.symm hk
            · exact hrest
          have hgo := ih hnd.2 hrest fun k₁ v₁ h₁ => hsame k₁ v₁ (List.mem_cons_of_mem _ h₁)
          have hhead : g' v' = g v' := hsame k' v' List.mem_cons_self hk
          simp only [List.map_cons, setEntries, if_neg hk, hgo, hhead]
  have hall := hentries d.entries d.nodupKeys (d.mem_entries_iff.mpr hget)
    fun k' v' h => hother k' v' (d.mem_entries_iff.mp h)
  simp only [mapValues, set, hall]

end MapValues

/-! ## Weighted totals -/

/-- The sum of a weight over all values. -/
def total [AddCommMonoid M] (w : ν → M) (d : OrderedMap κ ν) : M :=
  (d.values.map w).sum

private theorem sum_setEntries_new [AddCommMonoid M] (w : ν → M) {k : κ} (v : ν)
    {l : List (κ × ν)} (h : lookupEntries k l = none) :
    (((setEntries k v l).map Prod.snd).map w).sum
      = ((l.map Prod.snd).map w).sum + w v := by
  induction l with
  | nil => simp [setEntries]
  | cons hd rest ih =>
      obtain ⟨k', v'⟩ := hd
      by_cases hk : k' = k
      · simp [lookupEntries, hk] at h
      · simp only [lookupEntries, if_neg hk] at h
        simp only [setEntries, if_neg hk, List.map_cons, List.sum_cons, ih h, add_assoc]

private theorem sum_setEntries_of_lookup [AddCommMonoid M] (w : ν → M) {k : κ}
    {old : ν} (v : ν) {l : List (κ × ν)} (h : lookupEntries k l = some old) :
    (((setEntries k v l).map Prod.snd).map w).sum + w old
      = ((l.map Prod.snd).map w).sum + w v := by
  induction l with
  | nil => cases h
  | cons hd rest ih =>
      obtain ⟨k', v'⟩ := hd
      by_cases hk : k' = k
      · simp only [lookupEntries, if_pos hk, Option.some.injEq] at h
        simp only [setEntries, if_pos hk, List.map_cons, List.sum_cons, h]
        abel
      · simp only [lookupEntries, if_neg hk] at h
        simp only [setEntries, if_neg hk, List.map_cons, List.sum_cons]
        rw [add_assoc, ih h, add_assoc]

theorem total_set_new [AddCommMonoid M] (w : ν → M) {d : OrderedMap κ ν} {k : κ}
    (v : ν) (h : d.get k = none) :
    total w (d.set k v) = total w d + w v :=
  sum_setEntries_new w v h

theorem total_set_of_get [AddCommMonoid M] (w : ν → M) {d : OrderedMap κ ν} {k : κ}
    {old : ν} (v : ν) (h : d.get k = some old) :
    total w (d.set k v) + w old = total w d + w v :=
  sum_setEntries_of_lookup w v h

omit [DecidableEq κ] in
theorem total_mapValues {μ : Type*} [AddCommMonoid M] (g : ν → μ) (w : μ → M)
    (d : OrderedMap κ ν) : total w (d.mapValues g) = total (fun v => w (g v)) d := by
  rw [total, total, values_mapValues, List.map_map]
  rfl

omit [DecidableEq κ] in
/-- A weight that vanishes off a predicate sums the values that satisfy it. -/
theorem total_ite [AddCommMonoid M] (p : ν → Prop) [DecidablePred p] (w : ν → M)
    (d : OrderedMap κ ν) :
    total (fun v => if p v then w v else 0) d
      = ((d.values.filter fun v => decide (p v)).map w).sum := by
  rw [total]
  induction d.values with
  | nil => rfl
  | cons v rest ih =>
      rw [List.map_cons, List.sum_cons, ih]
      by_cases hp : p v
      · rw [if_pos hp, List.filter_cons_of_pos (by simpa using hp), List.map_cons,
          List.sum_cons]
      · rw [if_neg hp, List.filter_cons_of_neg (by simpa using hp), zero_add]

end OrderedMap

/-! ## Two maps of one set of values

    Values that carry a left key and a right key, held under both.  The maps
    are *paired* when a value found through one of them is found, under its
    other key, through the other one: then each left key has at most one right
    key and the other way round.

    * `Paired.set`: a value entered on both sides keeps the maps paired, if
      each of its keys is free or is already held together with the other one. -/

namespace OrderedMap

variable {κ κ' ν : Type*} [DecidableEq κ] [DecidableEq κ']

/-- The maps hold the same values, each under its two keys. -/
structure Paired (leftKey : ν → κ) (rightKey : ν → κ') (left : OrderedMap κ ν)
    (right : OrderedMap κ' ν) : Prop where
  left_right : ∀ {k v}, left.get k = some v → leftKey v = k ∧ right.get (rightKey v) = some v
  right_left : ∀ {k v}, right.get k = some v → rightKey v = k ∧ left.get (leftKey v) = some v

namespace Paired

variable {leftKey : ν → κ} {rightKey : ν → κ'} {left : OrderedMap κ ν} {right : OrderedMap κ' ν}

theorem symm (h : Paired leftKey rightKey left right) : Paired rightKey leftKey right left :=
  ⟨h.right_left, h.left_right⟩

variable (leftKey rightKey) in
theorem empty : Paired leftKey rightKey OrderedMap.empty OrderedMap.empty := by
  constructor
  · intro k v h
    cases h
  · intro k v h
    cases h

/-- A right key is held together with one left key only. -/
theorem left_unique (h : Paired leftKey rightKey left right) {k k' : κ} {v v' : ν}
    (hv : left.get k = some v) (hv' : left.get k' = some v') (hr : rightKey v = rightKey v') :
    k = k' := by
  obtain ⟨hk, hget⟩ := h.left_right hv
  obtain ⟨hk', hget'⟩ := h.left_right hv'
  rw [hr, hget', Option.some.injEq] at hget
  rw [← hk, ← hk', hget]

private theorem get_of_get_set (h : Paired leftKey rightKey left right) {v : ν}
    (hr : ∀ u, right.get (rightKey v) = some u → leftKey u = leftKey v) {k : κ} {w : ν}
    (hw : (left.set (leftKey v) v).get k = some w) :
    leftKey w = k ∧ (right.set (rightKey v) v).get (rightKey w) = some w := by
  by_cases hk : k = leftKey v
  · rw [hk, get_set_self, Option.some.injEq] at hw
    rw [← hw, get_set_self]
    exact ⟨hk.symm, rfl⟩
  · rw [get_set_of_ne _ hk] at hw
    obtain ⟨hkey, hget⟩ := h.left_right hw
    -- were `w` held under the right key of `v`, then `k` would be the left key of `v`
    have hne : rightKey w ≠ rightKey v := by
      intro heq
      rw [heq] at hget
      exact hk (hkey.symm.trans (hr w hget))
    rw [get_set_of_ne _ hne]
    exact ⟨hkey, hget⟩

/-- **A value whose keys are free, or held together, can be entered.** -/
theorem set (h : Paired leftKey rightKey left right) {v : ν}
    (hl : ∀ u, left.get (leftKey v) = some u → rightKey u = rightKey v)
    (hr : ∀ u, right.get (rightKey v) = some u → leftKey u = leftKey v) :
    Paired leftKey rightKey (left.set (leftKey v) v) (right.set (rightKey v) v) :=
  ⟨h.get_of_get_set hr, h.symm.get_of_get_set hl⟩

end Paired

end OrderedMap
