import Mathlib.Data.List.Sort
import Mathlib.Data.String.Basic
import MandateGateway.Lib.JsonTree
import MandateGateway.Lib.OrderedMap

/-! # The order of the members of an object

    A serializer that sorts the keys of every object, and a reader that makes a
    dictionary of the members of an object.  The text of a tree is what is
    written for the dictionary that is read from it exactly when the keys of
    every object stand in strictly increasing order (`rewritten_eq_iff`). -/

namespace Json.Tree

/-! ## Sorted members -/

/-- Members are compared by their keys. -/
def KeyLe {α : Type} (m n : String × α) : Prop := m.1 ≤ n.1

instance {α : Type} : DecidableRel (KeyLe (α := α)) :=
  fun m n => inferInstanceAs (Decidable (m.1 ≤ n.1))

instance {α : Type} : Std.Total (KeyLe (α := α)) := ⟨fun m n => le_total m.1 n.1⟩

instance {α : Type} : IsTrans (String × α) KeyLe := ⟨fun _ _ _ h h' => le_trans h h'⟩

section
variable {α : Type}

/-- `sorted(d.items())`. -/
def sortMembers (ms : List (String × α)) : List (String × α) := ms.insertionSort KeyLe

/-- The keys of the members, in their order. -/
def keys (ms : List (String × α)) : List String := ms.map Prod.fst

theorem sortMembers_perm (ms : List (String × α)) : (sortMembers ms).Perm ms :=
  List.perm_insertionSort KeyLe ms

theorem keys_sortMembers_perm (ms : List (String × α)) : (keys (sortMembers ms)).Perm (keys ms) :=
  (sortMembers_perm ms).map Prod.fst

theorem sortMembers_of_sorted {ms : List (String × α)} (h : (keys ms).Pairwise (· < ·)) :
    sortMembers ms = ms :=
  List.Pairwise.insertionSort_eq ((List.pairwise_map.mp h).imp le_of_lt)

theorem keys_sortMembers_sorted {ms : List (String × α)} (h : (keys ms).Nodup) :
    (keys (sortMembers ms)).Pairwise (· < ·) := by
  have hle : (keys (sortMembers ms)).Pairwise (· ≤ ·) :=
    List.pairwise_map.mpr (List.pairwise_insertionSort KeyLe ms)
  have hne : (keys (sortMembers ms)).Pairwise (· ≠ ·) :=
    (keys_sortMembers_perm ms).nodup_iff.mpr h
  exact (List.pairwise_and_iff.mpr ⟨hle, hne⟩).imp fun hlt => lt_of_le_of_ne hlt.1 hlt.2

/-- `dict(pairs)`: the last member of a key counts, in the place of the first. -/
def mergeMembers (ms : List (String × α)) : List (String × α) :=
  ms.foldl (fun d m => OrderedMap.setEntries m.1 m.2 d) []

theorem nodup_keys_foldl (ms d : List (String × α)) (h : (keys d).Nodup) :
    (keys (ms.foldl (fun d m => OrderedMap.setEntries m.1 m.2 d) d)).Nodup := by
  induction ms generalizing d with
  | nil => exact h
  | cons m ms ih => exact ih _ (OrderedMap.nodup_setEntries m.1 m.2 h)

theorem keys_mergeMembers_nodup (ms : List (String × α)) : (keys (mergeMembers ms)).Nodup :=
  nodup_keys_foldl ms [] List.nodup_nil

theorem setEntries_of_fresh {k : String} (v : α) {d : List (String × α)} (h : k ∉ keys d) :
    OrderedMap.setEntries k v d = d ++ [(k, v)] := by
  induction d with
  | nil => rfl
  | cons m d ih =>
      obtain ⟨hm, hd⟩ := not_or.mp (fun hmem => h (List.mem_cons.mpr hmem))
      rw [OrderedMap.setEntries, if_neg (Ne.symm hm), ih hd]
      rfl

theorem foldl_setEntries_of_nodup (ms d : List (String × α)) (h : (keys (d ++ ms)).Nodup) :
    ms.foldl (fun d m => OrderedMap.setEntries m.1 m.2 d) d = d ++ ms := by
  induction ms generalizing d with
  | nil => exact (List.append_nil d).symm
  | cons m ms ih =>
      have hfresh : m.1 ∉ keys d := by
        rw [keys, List.map_append, List.nodup_append] at h
        intro hmem
        exact h.2.2 m.1 hmem m.1 List.mem_cons_self rfl
      have hassoc : d ++ [m] ++ ms = d ++ m :: ms := by
        rw [List.append_assoc, List.singleton_append]
      rw [List.foldl_cons, setEntries_of_fresh m.2 hfresh, ih (d ++ [m]) (hassoc.symm ▸ h), hassoc]

theorem mergeMembers_of_nodup {ms : List (String × α)} (h : (keys ms).Nodup) :
    mergeMembers ms = ms := foldl_setEntries_of_nodup ms [] h

end

/-! ## Trees with sorted keys -/

mutual

/-- The tree that is written with `sort_keys=True`. -/
def sortKeys : Tree → Tree
  | .null => .null
  | .bool b => .bool b
  | .num x => .num x
  | .str s => .str s
  | .arr xs => .arr (sortElems xs)
  | .obj ms => .obj (sortMembers (sortValues ms))

def sortElems : List Tree → List Tree
  | [] => []
  | x :: xs => sortKeys x :: sortElems xs

def sortValues : List (String × Tree) → List (String × Tree)
  | [] => []
  | (k, v) :: ms => (k, sortKeys v) :: sortValues ms

end

mutual

/-- The tree with each object read into a dictionary. -/
def merged : Tree → Tree
  | .null => .null
  | .bool b => .bool b
  | .num x => .num x
  | .str s => .str s
  | .arr xs => .arr (mergedElems xs)
  | .obj ms => .obj (mergeMembers (mergedValues ms))

def mergedElems : List Tree → List Tree
  | [] => []
  | x :: xs => merged x :: mergedElems xs

def mergedValues : List (String × Tree) → List (String × Tree)
  | [] => []
  | (k, v) :: ms => (k, merged v) :: mergedValues ms

end

/-- A function on the values of the members. -/
def onValues (f : Tree → Tree) (ms : List (String × Tree)) : List (String × Tree) :=
  ms.map fun m => (m.1, f m.2)

theorem keys_onValues (f : Tree → Tree) (ms : List (String × Tree)) :
    keys (onValues f ms) = keys ms := by
  rw [keys, onValues, List.map_map]
  rfl

theorem sortElems_eq_map (xs : List Tree) : sortElems xs = xs.map sortKeys := by
  induction xs with
  | nil => rfl
  | cons x xs ih => exact congrArg (sortKeys x :: ·) ih

theorem sortValues_eq (ms : List (String × Tree)) : sortValues ms = onValues sortKeys ms := by
  induction ms with
  | nil => rfl
  | cons m ms ih => exact congrArg ((m.1, sortKeys m.2) :: ·) ih

theorem mergedElems_eq_map (xs : List Tree) : mergedElems xs = xs.map merged := by
  induction xs with
  | nil => rfl
  | cons x xs ih => exact congrArg (merged x :: ·) ih

theorem mergedValues_eq (ms : List (String × Tree)) : mergedValues ms = onValues merged ms := by
  induction ms with
  | nil => rfl
  | cons m ms ih => exact congrArg ((m.1, merged m.2) :: ·) ih

/-- **The keys of every object are strictly increasing.** -/
inductive Sorted : Tree → Prop
  | null : Sorted .null
  | bool (b : Bool) : Sorted (.bool b)
  | num (x : Number) : Sorted (.num x)
  | str (s : String) : Sorted (.str s)
  | arr {xs : List Tree} (helems : ∀ x ∈ xs, Sorted x) : Sorted (.arr xs)
  | obj {ms : List (String × Tree)} (hkeys : (keys ms).Pairwise (· < ·))
      (hvalues : ∀ m ∈ ms, Sorted m.2) : Sorted (.obj ms)

theorem onValues_of_forall {f : Tree → Tree} {ms : List (String × Tree)}
    (h : ∀ m ∈ ms, f m.2 = m.2) : onValues f ms = ms := by
  have hid : ∀ m ∈ ms, (m.1, f m.2) = id m := by
    intro m hm
    rw [h m hm]
    rfl
  rw [onValues, List.map_congr_left hid, List.map_id]

theorem Sorted.sortKeys_eq {t : Tree} (h : Sorted t) : t.sortKeys = t := by
  induction t using induct with
  | null => rfl
  | bool b => rfl
  | num x => rfl
  | str s => rfl
  | arr xs ih =>
      cases h with
      | arr helems =>
          rw [sortKeys, sortElems_eq_map,
            List.map_congr_left (g := id) fun x hx => ih x hx (helems x hx), List.map_id]
  | obj ms ih =>
      cases h with
      | obj hkeys hvalues =>
          rw [sortKeys, sortValues_eq, onValues_of_forall fun m hm => ih m hm (hvalues m hm),
            sortMembers_of_sorted hkeys]

theorem Sorted.merged_eq {t : Tree} (h : Sorted t) : t.merged = t := by
  induction t using induct with
  | null => rfl
  | bool b => rfl
  | num x => rfl
  | str s => rfl
  | arr xs ih =>
      cases h with
      | arr helems =>
          rw [merged, mergedElems_eq_map,
            List.map_congr_left (g := id) fun x hx => ih x hx (helems x hx), List.map_id]
  | obj ms ih =>
      cases h with
      | obj hkeys hvalues =>
          rw [merged, mergedValues_eq, onValues_of_forall fun m hm => ih m hm (hvalues m hm),
            mergeMembers_of_nodup (hkeys.imp ne_of_lt)]

/-- The tree that is written for the dictionaries that are read from a tree. -/
def rewritten (t : Tree) : Tree := t.merged.sortKeys

theorem rewritten_obj (ms : List (String × Tree)) :
    rewritten (.obj ms)
      = .obj (sortMembers (onValues sortKeys (mergeMembers (onValues merged ms)))) := by
  rw [rewritten, merged, sortKeys, sortValues_eq, mergedValues_eq]

theorem sorted_of_rewritten {t : Tree} (h : t.rewritten = t) : Sorted t := by
  induction t using induct with
  | null => exact .null
  | bool b => exact .bool b
  | num x => exact .num x
  | str s => exact .str s
  | arr xs ih =>
      rw [rewritten, merged, sortKeys, sortElems_eq_map, mergedElems_eq_map, List.map_map,
        arr.injEq] at h
      refine .arr fun x hx => ih x hx ?_
      have hall := List.map_eq_map_iff.mp (h.trans (List.map_id xs).symm)
      exact hall x hx
  | obj ms ih =>
      rw [rewritten_obj, obj.injEq] at h
      have hkeys : (keys ms).Pairwise (· < ·) := by
        rw [← h]
        refine keys_sortMembers_sorted ?_
        rw [keys_onValues]
        exact keys_mergeMembers_nodup _
      have hmerged : mergeMembers (onValues merged ms) = onValues merged ms := by
        refine mergeMembers_of_nodup ?_
        rw [keys_onValues]
        exact hkeys.imp ne_of_lt
      have hsorted : sortMembers (onValues sortKeys (onValues merged ms))
          = onValues sortKeys (onValues merged ms) := by
        refine sortMembers_of_sorted ?_
        rw [keys_onValues, keys_onValues]
        exact hkeys
      rw [hmerged, hsorted, onValues, onValues, List.map_map] at h
      refine .obj hkeys fun m hm => ih m hm ?_
      have hall := List.map_eq_map_iff.mp (h.trans (List.map_id ms).symm)
      exact congrArg Prod.snd (hall m hm)

/-- **Reading a written tree and writing it again changes nothing exactly when
    the keys of every object are strictly increasing.** -/
theorem rewritten_eq_iff {t : Tree} : t.rewritten = t ↔ Sorted t := by
  refine ⟨sorted_of_rewritten, fun h => ?_⟩
  rw [rewritten, h.merged_eq, h.sortKeys_eq]

/-! ## Trees whose objects have distinct keys -/

inductive Distinct : Tree → Prop
  | null : Distinct .null
  | bool (b : Bool) : Distinct (.bool b)
  | num (x : Number) : Distinct (.num x)
  | str (s : String) : Distinct (.str s)
  | arr {xs : List Tree} (helems : ∀ x ∈ xs, Distinct x) : Distinct (.arr xs)
  | obj {ms : List (String × Tree)} (hkeys : (keys ms).Nodup)
      (hvalues : ∀ m ∈ ms, Distinct m.2) : Distinct (.obj ms)

theorem Distinct.sortKeys_sorted {t : Tree} (h : Distinct t) : Sorted t.sortKeys := by
  induction t using induct with
  | null => exact .null
  | bool b => exact .bool b
  | num x => exact .num x
  | str s => exact .str s
  | arr xs ih =>
      cases h with
      | arr helems =>
          rw [sortKeys, sortElems_eq_map]
          refine .arr fun y hy => ?_
          obtain ⟨x, hx, rfl⟩ := List.mem_map.mp hy
          exact ih x hx (helems x hx)
  | obj ms ih =>
      cases h with
      | obj hkeys hvalues =>
          rw [sortKeys, sortValues_eq]
          refine .obj (keys_sortMembers_sorted ?_) fun n hn => ?_
          · rw [keys_onValues]
            exact hkeys
          · obtain ⟨m, hm, rfl⟩ := List.mem_map.mp ((sortMembers_perm _).mem_iff.mp hn)
            exact ih m hm (hvalues m hm)

/-- **Equal as values**: the order of the members of an object does not count. -/
def Same (t t' : Tree) : Prop := t.sortKeys = t'.sortKeys

theorem lookup_sortMembers {α : Type} {ms : List (String × α)} (h : (keys ms).Nodup) (k : String) :
    OrderedMap.lookupEntries k (sortMembers ms) = OrderedMap.lookupEntries k ms := by
  have hsorted : (keys (sortMembers ms)).Nodup := (keys_sortMembers_perm ms).nodup_iff.mpr h
  refine Option.ext fun v => ⟨fun hv => ?_, fun hv => ?_⟩
  · exact OrderedMap.lookupEntries_of_mem h
      ((sortMembers_perm ms).mem_iff.mp (OrderedMap.mem_of_lookupEntries hv))
  · exact OrderedMap.lookupEntries_of_mem hsorted
      ((sortMembers_perm ms).mem_iff.mpr (OrderedMap.mem_of_lookupEntries hv))

/-- Equal objects have equal members under each key. -/
theorem Same.lookup {ms ns : List (String × Tree)} (h : Same (.obj ms) (.obj ns))
    (hms : (keys ms).Nodup) (hns : (keys ns).Nodup) (k : String) :
    (OrderedMap.lookupEntries k ms).map sortKeys
      = (OrderedMap.lookupEntries k ns).map sortKeys := by
  rw [Same, sortKeys, sortKeys, sortValues_eq, sortValues_eq, obj.injEq] at h
  rw [← keys_onValues sortKeys] at hms hns
  have hlookup := congrArg (OrderedMap.lookupEntries k) h
  rw [lookup_sortMembers hms, lookup_sortMembers hns, onValues, onValues,
    OrderedMap.lookupEntries_map, OrderedMap.lookupEntries_map] at hlookup
  exact hlookup

end Json.Tree
