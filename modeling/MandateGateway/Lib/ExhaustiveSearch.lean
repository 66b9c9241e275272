import Mathlib.Data.List.Nodup
import Mathlib.Data.List.Sort
import Mathlib.Order.OrderDual

/-! # Exhaustive search

    A search over all choices of one item of each list, and the ranking of what
    is found by a score, best first. -/

/-! ## Sorting by a key

    A stable sort leaves the items of one key in the order in which they came.
    What is read of the sorted items is therefore the same for every order of
    the items exactly when the items of one key cannot be told apart by it. -/

namespace StableSort

variable {α κ β : Type*} [LinearOrder κ] {key : α → κ} {f : α → β} {xs ys : List α}

/-- The items in ascending order of their keys, in their own order where the
    keys agree. -/
def sortBy (key : α → κ) (xs : List α) : List α :=
  xs.insertionSort fun a b => key a ≤ key b

theorem sortBy_perm (key : α → κ) (xs : List α) : (sortBy key xs).Perm xs :=
  List.perm_insertionSort _ xs

theorem sortBy_pairwise (key : α → κ) (xs : List α) :
    (sortBy key xs).Pairwise fun a b => key a ≤ key b := by
  have : Std.Total fun a b : α => key a ≤ key b := ⟨fun a b => le_total (key a) (key b)⟩
  have : IsTrans α fun a b => key a ≤ key b := ⟨fun _ _ _ => le_trans⟩
  exact List.pairwise_insertionSort _ xs

/-- An order in which items are returned sorted by their keys; items of one key
    come as it pleases. -/
structure Arrangement (key : α → κ) where
  arrange : List α → List α
  perm    : ∀ xs, (arrange xs).Perm xs
  sorted  : ∀ xs, (arrange xs).Pairwise fun a b => key a ≤ key b

def Arrangement.stable (key : α → κ) : Arrangement key := ⟨sortBy key, sortBy_perm key,
  sortBy_pairwise key⟩

theorem Arrangement.mem_arrange (order : Arrangement key) {a : α} :
    a ∈ order.arrange xs ↔ a ∈ xs :=
  (order.perm xs).mem_iff

/-- **The items of one key stand in their own order.** -/
theorem filter_sortBy (key : α → κ) (xs : List α) (k : κ) :
    (sortBy key xs).filter (fun a => key a = k) = xs.filter fun a => key a = k := by
  -- the items of the key are sorted already, so they keep their order
  have hsorted : (xs.filter fun a => key a = k).Pairwise fun a b => key a ≤ key b := by
    refine List.pairwise_of_forall_mem_list ?_
    intro a ha b hb
    have hkey : key a = key b :=
      (of_decide_eq_true (List.mem_filter.mp ha).2).trans
        (of_decide_eq_true (List.mem_filter.mp hb).2).symm
    exact hkey.le
  have hkept : (xs.filter fun a => key a = k).Sublist (sortBy key xs) :=
    List.sublist_insertionSort hsorted List.filter_sublist
  have hfilter := hkept.filter fun a => key a = k
  rw [List.filter_filter] at hfilter
  simp only [Bool.and_self] at hfilter
  have hlength := ((sortBy_perm key xs).filter fun a => key a = k).length_eq
  exact (hfilter.eq_of_length hlength.symm).symm

/-- What is read of an item tells its key. -/
def Tells (key : α → κ) (f : α → β) : Prop := ∀ a b, f a = f b → key a = key b

theorem map_filter_of_map_sortBy (htells : Tells key f)
    (h : (sortBy key ys).map f = (sortBy key xs).map f) (k : κ) :
    (ys.filter fun a => key a = k).map f = (xs.filter fun a => key a = k).map f := by
  classical
  have hread : ∀ zs : List α, (zs.filter fun a => key a = k).map f
      = ((sortBy key zs).map f).filter fun y => ∃ a, f a = y ∧ key a = k := by
    intro zs
    rw [List.filter_map, ← filter_sortBy key zs k]
    congr 1
    refine List.filter_congr ?_
    intro a _
    rw [Function.comp_apply, decide_eq_decide]
    constructor
    · exact fun ha => ⟨a, rfl, ha⟩
    · rintro ⟨b, hb, hkey⟩
      rw [← htells b a hb, hkey]
  rw [hread ys, hread xs, h]

/-- **The sorted readings are the same for every order of the items exactly when
    items of one key read the same.** -/
theorem map_sortBy_perm_iff (htells : Tells key f) (xs : List α) :
    (∀ ys, ys.Perm xs → (sortBy key ys).map f = (sortBy key xs).map f)
      ↔ ∀ a ∈ xs, ∀ b ∈ xs, key a = key b → f a = f b := by
  constructor
  · intro hall a ha b hb hkey
    -- any member may be the first of its key
    have hfirst : ∀ c ∈ xs, key c = key a →
        ((xs.filter fun d => key d = key a).map f).head? = some (f c) := by
      intro c hc hca
      obtain ⟨before, after, hxs⟩ := List.append_of_mem hc
      have hperm : (c :: (before ++ after)).Perm xs := hxs ▸ List.perm_middle.symm
      have hmap := map_filter_of_map_sortBy htells (hall _ hperm) (key a)
      rw [← hmap, List.filter_cons_of_pos (by simpa using hca), List.map_cons, List.head?_cons]
    have hsame := (hfirst a ha rfl).symm.trans (hfirst b hb hkey.symm)
    exact Option.some.inj hsame
  · intro hsame ys hperm
    have hys : ∀ a, a ∈ sortBy key ys → a ∈ xs := fun a ha =>
      hperm.subset ((sortBy_perm key ys).subset ha)
    have hxs : ∀ a, a ∈ sortBy key xs → a ∈ xs := fun a ha => (sortBy_perm key xs).subset ha
    have hread : ∀ zs : List α, ((sortBy key zs).map f).Pairwise
        fun x y => ∃ a b, f a = x ∧ f b = y ∧ key a ≤ key b := by
      intro zs
      rw [List.pairwise_map]
      exact (sortBy_pairwise key zs).imp fun hle => ⟨_, _, rfl, rfl, hle⟩
    have hpermuted : ((sortBy key ys).map f).Perm ((sortBy key xs).map f) :=
      (((sortBy_perm key ys).trans hperm).trans (sortBy_perm key xs).symm).map f
    refine List.Perm.eq_of_pairwise ?_ (hread ys) (hread xs) hpermuted
    intro x y hx hy hxy hyx
    obtain ⟨a, ha, rfl⟩ := List.mem_map.mp hx
    obtain ⟨b, hb, rfl⟩ := List.mem_map.mp hy
    obtain ⟨a₁, b₁, ha₁, hb₁, hle⟩ := hxy
    obtain ⟨b₂, a₂, hb₂, ha₂, hge⟩ := hyx
    rw [htells _ _ ha₁, htells _ _ hb₁] at hle
    rw [htells _ _ ha₂, htells _ _ hb₂] at hge
    exact hsame a (hys a ha) b (hxs b hb) (le_antisymm hle hge)

/-- **Items of distinct keys** are sorted the same in whatever order they come. -/
theorem sortBy_eq_of_perm (hnodup : (xs.map key).Nodup) (hperm : ys.Perm xs) :
    sortBy key ys = sortBy key xs := by
  have htells : Tells key (id : α → α) := fun a b h => congrArg key h
  have hsorted := (map_sortBy_perm_iff htells xs).mpr
    (fun a ha b hb hkey => List.inj_on_of_nodup_map hnodup ha hb hkey) ys hperm
  rw [List.map_id, List.map_id] at hsorted
  exact hsorted

end StableSort

namespace ExhaustiveSearch

variable {α κ : Type*}

/-! ## Choices -/

/-- One item of each list; the choice of the last list changes first. -/
def product : List (List α) → List (List α)
  | [] => [[]]
  | xs :: rest => xs.flatMap fun x => (product rest).map (x :: ·)

@[simp] theorem product_nil : product ([] : List (List α)) = [[]] := rfl

theorem product_cons (xs : List α) (rest : List (List α)) :
    product (xs :: rest) = xs.flatMap fun x => (product rest).map (x :: ·) := rfl

/-- **The choices** have one item of each list. -/
theorem mem_product_iff {lists : List (List α)} {choice : List α} :
    choice ∈ product lists ↔ List.Forall₂ (fun x xs => x ∈ xs) choice lists := by
  induction lists generalizing choice with
  | nil => rw [product_nil, List.mem_singleton, List.forall₂_nil_right_iff]
  | cons xs rest ih =>
      rw [product_cons, List.mem_flatMap, List.forall₂_cons_right_iff]
      constructor
      · rintro ⟨x, hx, hchoice⟩
        obtain ⟨tail, htail, rfl⟩ := List.mem_map.mp hchoice
        exact ⟨x, tail, hx, ih.mp htail, rfl⟩
      · rintro ⟨x, tail, hx, htail, rfl⟩
        exact ⟨x, hx, List.mem_map.mpr ⟨tail, ih.mpr htail, rfl⟩⟩

theorem ne_nil_of_mem_product {lists : List (List α)} {choice : List α}
    (h : choice ∈ product lists) : ∀ xs ∈ lists, xs ≠ [] := by
  have hchosen := mem_product_iff.mp h
  induction hchosen with
  | nil => exact List.forall_mem_nil _
  | cons hx htail ih =>
      exact List.forall_mem_cons.mpr ⟨List.ne_nil_of_mem hx, ih (mem_product_iff.mpr htail)⟩

theorem nodup_product {lists : List (List α)} (h : ∀ xs ∈ lists, xs.Nodup) :
    (product lists).Nodup := by
  induction lists with
  | nil => exact List.nodup_singleton _
  | cons xs rest ih =>
      rw [List.forall_mem_cons] at h
      rw [product_cons, List.nodup_flatMap]
      refine ⟨fun x _ => (ih h.2).map (List.cons_injective), ?_⟩
      refine h.1.imp ?_
      intro x y hne choice hx hy
      obtain ⟨s, -, rfl⟩ := List.mem_map.mp hx
      obtain ⟨t, -, heq⟩ := List.mem_map.mp hy
      exact hne (List.cons.inj heq).1.symm

/-! ## Rankings -/

section Rankings

variable [LinearOrder κ] (score : α → κ)

/-- The items by descending score, in their own order where the scores agree. -/
def ranked (xs : List α) : List α := StableSort.sortBy (fun x => OrderDual.toDual (score x)) xs

theorem ranked_perm (xs : List α) : (ranked score xs).Perm xs := StableSort.sortBy_perm _ xs

theorem mem_ranked {xs : List α} {x : α} : x ∈ ranked score xs ↔ x ∈ xs :=
  (ranked_perm score xs).mem_iff

theorem ranked_pairwise (xs : List α) :
    (ranked score xs).Pairwise fun x y => score y ≤ score x := by
  have hsorted := StableSort.sortBy_pairwise (fun x => OrderDual.toDual (score x)) xs
  exact hsorted.imp OrderDual.toDual_le_toDual.mp

/-- **The first of a ranking** has the greatest score. -/
theorem le_of_head?_ranked {xs : List α} {best : α} (h : (ranked score xs).head? = some best) :
    best ∈ ranked score xs ∧ ∀ x ∈ ranked score xs, score x ≤ score best := by
  have hsorted := ranked_pairwise score xs
  cases hranked : ranked score xs with
  | nil =>
      rw [hranked] at h
      cases h
  | cons first rest =>
      rw [hranked] at h hsorted
      obtain rfl := Option.some.inj h
      refine ⟨List.mem_cons_self, List.forall_mem_cons.mpr ⟨le_rfl, ?_⟩⟩
      exact (List.pairwise_cons.mp hsorted).1

end Rankings

end ExhaustiveSearch
