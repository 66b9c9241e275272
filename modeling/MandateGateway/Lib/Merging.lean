import Mathlib.Data.List.Induction
import Mathlib.Data.List.Perm.Subperm
import Mathlib.Logic.Relation

/-! # Merging duplicates in one pass

    Each element is compared with the representatives so far: the first one that it
    duplicates is kept, or replaced by the element if that is better, and an element
    that duplicates none becomes a representative.  Being duplicates need not be
    transitive, and a replacement changes what the later elements are compared with. -/

namespace Merging

variable {α : Type*} (dup : α → α → Bool) (score : α → Int)

/-- The element among the representatives. -/
def merge : List α → α → List α
  | [], c => [c]
  | e :: es, c =>
      if dup c e then (if score e < score c then c else e) :: es else e :: merge es c

/-- The representatives after one pass. -/
def mergeAll (cs : List α) : List α := cs.foldl (merge dup score) []

/-- One element duplicates another one of the list that is not worse. -/
structure Yields (cs : List α) (x y : α) : Prop where
  left  : x ∈ cs
  right : y ∈ cs
  dup   : dup x y = true
  score : score x ≤ score y

/-- One element duplicates another one of the list that is better. -/
structure Improves (cs : List α) (x y : α) : Prop where
  left  : x ∈ cs
  right : y ∈ cs
  dup   : dup y x = true
  score : score x < score y

/-- A better duplicate has the same duplicates in the list. -/
def Consistent (cs : List α) : Prop :=
  ∀ c ∈ cs, ∀ e ∈ cs, dup c e = true → score e < score c → ∀ b ∈ cs, dup c b = dup e b

instance (cs : List α) : Decidable (Consistent dup score cs) :=
  inferInstanceAs (Decidable (∀ c ∈ cs, ∀ e ∈ cs, dup c e = true → score e < score c →
    ∀ b ∈ cs, dup c b = dup e b))

/-- No two elements at different places are duplicates. -/
def Distinct (cs : List α) : Prop := cs.Pairwise fun x y => dup y x = false

variable {dup score} {cs es : List α} {c : α}

theorem mergeAll_concat (cs : List α) (c : α) :
    mergeAll dup score (cs ++ [c]) = merge dup score (mergeAll dup score cs) c := by
  rw [mergeAll, List.foldl_append]
  rfl

variable (dup score) in
/-- The element replaces the first representative, is left out, or goes on. -/
theorem merge_cons (e : α) (es : List α) (c : α) :
    (dup c e = true ∧ score e < score c ∧ merge dup score (e :: es) c = c :: es)
      ∨ (dup c e = true ∧ score c ≤ score e ∧ merge dup score (e :: es) c = e :: es)
      ∨ (dup c e = false ∧ merge dup score (e :: es) c = e :: merge dup score es c) := by
  rw [merge]
  by_cases hdup : dup c e = true
  · rw [if_pos hdup]
    by_cases hlt : score e < score c
    · exact .inl ⟨hdup, hlt, by rw [if_pos hlt]⟩
    · exact .inr (.inl ⟨hdup, Int.not_lt.mp hlt, by rw [if_neg hlt]⟩)
  · exact .inr (.inr ⟨Bool.eq_false_iff.mpr hdup, if_neg hdup⟩)

theorem Consistent.mono {cs' : List α} (h : Consistent dup score cs) (hsub : cs' ⊆ cs) :
    Consistent dup score cs' :=
  fun c hc e he hdup hlt b hb => h c (hsub hc) e (hsub he) hdup hlt b (hsub hb)

theorem Yields.mono {cs' : List α} {x y : α} (hsub : cs' ⊆ cs) (h : Yields dup score cs' x y) :
    Yields dup score cs x y := ⟨hsub h.left, hsub h.right, h.dup, h.score⟩

theorem Improves.mono {cs' : List α} {x y : α} (hsub : cs' ⊆ cs)
    (h : Improves dup score cs' x y) : Improves dup score cs x y :=
  ⟨hsub h.left, hsub h.right, h.dup, h.score⟩

/-! ## What is left -/

theorem merge_subperm (es : List α) (c : α) : List.Subperm (merge dup score es c) (c :: es) := by
  induction es with
  | nil => exact List.Subperm.refl _
  | cons e es ih =>
      obtain ⟨-, -, hmerge⟩ | ⟨-, -, hmerge⟩ | ⟨-, hmerge⟩ := merge_cons dup score e es c <;>
        rw [hmerge]
      · exact ((List.sublist_cons_self e es).cons_cons c).subperm
      · exact (List.sublist_cons_self c (e :: es)).subperm
      · exact ((List.subperm_cons e).mpr ih).trans (List.Perm.swap c e es).subperm

/-- **No element is used twice.** -/
theorem mergeAll_subperm (cs : List α) : List.Subperm (mergeAll dup score cs) cs := by
  induction cs using List.reverseRecOn with
  | nil => exact List.nil_subperm
  | append_singleton cs c ih =>
      rw [mergeAll_concat]
      have hcons : List.Subperm (c :: mergeAll dup score cs) (c :: cs) :=
        (List.subperm_cons c).mpr ih
      exact ((merge_subperm _ c).trans hcons).trans (List.perm_append_singleton c cs).symm.subperm

theorem mem_of_mem_mergeAll {x : α} (h : x ∈ mergeAll dup score cs) : x ∈ cs :=
  (mergeAll_subperm cs).subset h

theorem merge_places (hes : ∀ e ∈ es, e ∈ cs) (hc : c ∈ cs) {firsts : List α}
    (h : List.Forall₂ (Relation.ReflTransGen (Improves dup score cs)) firsts es) :
    List.Forall₂ (Relation.ReflTransGen (Improves dup score cs)) firsts (merge dup score es c)
      ∨ List.Forall₂ (Relation.ReflTransGen (Improves dup score cs)) (firsts ++ [c])
        (merge dup score es c) := by
  induction h with
  | nil => exact .inr (.cons .refl .nil)
  | @cons first e firsts es hfirst hrest ih =>
      obtain ⟨he, hes⟩ := List.forall_mem_cons.mp hes
      obtain ⟨hdup, hlt, hmerge⟩ | ⟨-, -, hmerge⟩ | ⟨-, hmerge⟩ := merge_cons dup score e es c <;>
        rw [hmerge]
      · exact .inl (.cons (hfirst.tail ⟨he, hc, hdup, hlt⟩) hrest)
      · exact .inl (.cons hfirst hrest)
      · exact (ih hes).imp (.cons hfirst) (.cons hfirst)

/-- **The places keep their order**: what is left stands in the places of elements of the
    list, each improved from one to the next. -/
theorem mergeAll_places (cs : List α) : ∃ firsts, List.Sublist firsts cs
    ∧ List.Forall₂ (Relation.ReflTransGen (Improves dup score cs)) firsts
      (mergeAll dup score cs) := by
  induction cs using List.reverseRecOn with
  | nil => exact ⟨[], List.Sublist.slnil, .nil⟩
  | append_singleton cs c ih =>
      obtain ⟨firsts, hsub, hplaces⟩ := ih
      have hmono := hplaces.imp fun first e h => Relation.ReflTransGen.mono
        (fun _ _ => Improves.mono (List.subset_append_left cs [c])) first e h
      rw [mergeAll_concat]
      obtain h | h := merge_places
        (fun e he => List.mem_append_left [c] (mem_of_mem_mergeAll he))
        (List.mem_append_right cs List.mem_cons_self) hmono
      · exact ⟨firsts, hsub.trans (List.sublist_append_left cs [c]), h⟩
      · exact ⟨firsts ++ [c], hsub.append_right [c], h⟩

/-! ## What covers an element -/

theorem Improves.yields (hsymm : ∀ x y, dup x y = dup y x) {x y : α}
    (h : Improves dup score cs x y) : Yields dup score cs x y :=
  ⟨h.left, h.right, (hsymm x y).trans h.dup, Int.le_of_lt h.score⟩

/-- A representative is kept or improved. -/
theorem merge_keeps (hes : ∀ e ∈ es, e ∈ cs) (hc : c ∈ cs) {x : α} (hx : x ∈ es) :
    ∃ y ∈ merge dup score es c, x = y ∨ Improves dup score cs x y := by
  induction es with
  | nil => cases hx
  | cons e es ih =>
      obtain ⟨he, hes⟩ := List.forall_mem_cons.mp hes
      obtain ⟨hdup, hlt, hmerge⟩ | ⟨-, -, hmerge⟩ | ⟨-, hmerge⟩ := merge_cons dup score e es c <;>
        rw [hmerge]
      · obtain rfl | hx := List.mem_cons.mp hx
        · exact ⟨c, List.mem_cons_self, .inr ⟨he, hc, hdup, hlt⟩⟩
        · exact ⟨x, List.mem_cons_of_mem c hx, .inl rfl⟩
      · exact ⟨x, hx, .inl rfl⟩
      · obtain rfl | hx := List.mem_cons.mp hx
        · exact ⟨x, List.mem_cons_self, .inl rfl⟩
        · obtain ⟨y, hy, hxy⟩ := ih hes hx
          exact ⟨y, List.mem_cons_of_mem e hy, hxy⟩

theorem merge_covers (hes : ∀ e ∈ es, e ∈ cs) (hc : c ∈ cs) :
    ∃ y ∈ merge dup score es c, c = y ∨ Yields dup score cs c y := by
  induction es with
  | nil => exact ⟨c, List.mem_cons_self, .inl rfl⟩
  | cons e es ih =>
      obtain ⟨he, hes⟩ := List.forall_mem_cons.mp hes
      obtain ⟨-, -, hmerge⟩ | ⟨hdup, hle, hmerge⟩ | ⟨-, hmerge⟩ := merge_cons dup score e es c <;>
        rw [hmerge]
      · exact ⟨c, List.mem_cons_self, .inl rfl⟩
      · exact ⟨e, List.mem_cons_self, .inr ⟨hc, he, hdup, hle⟩⟩
      · obtain ⟨y, hy, hcy⟩ := ih hes
        exact ⟨y, List.mem_cons_of_mem e hy, hcy⟩

/-- **Every element is linked** by duplicates that are never worse to one that is left. -/
theorem mergeAll_linked (hsymm : ∀ x y, dup x y = dup y x) {x : α} (hx : x ∈ cs) :
    ∃ y ∈ mergeAll dup score cs, Relation.ReflTransGen (Yields dup score cs) x y := by
  induction cs using List.reverseRecOn with
  | nil => cases hx
  | append_singleton cs c ih =>
      have hes : ∀ e ∈ mergeAll dup score cs, e ∈ cs ++ [c] :=
        fun e he => List.mem_append_left [c] (mem_of_mem_mergeAll he)
      have hc : c ∈ cs ++ [c] := List.mem_append_right cs List.mem_cons_self
      rw [mergeAll_concat]
      obtain hx | hx := List.mem_append.mp hx
      · obtain ⟨z, hz, hxz⟩ := ih hx
        have hlinked : Relation.ReflTransGen (Yields dup score (cs ++ [c])) x z :=
          Relation.ReflTransGen.mono
            (fun _ _ => Yields.mono (List.subset_append_left cs [c])) x z hxz
        obtain ⟨y, hy, rfl | hzy⟩ := merge_keeps hes hc hz
        · exact ⟨z, hy, hlinked⟩
        · exact ⟨y, hy, hlinked.tail (hzy.yields hsymm)⟩
      · obtain rfl := List.mem_singleton.mp hx
        obtain ⟨y, hy, rfl | hxy⟩ := merge_covers hes hc
        · exact ⟨x, hy, .refl⟩
        · exact ⟨y, hy, .single hxy⟩

/-! ## Where better duplicates have the same duplicates -/

theorem merge_distinct (hsymm : ∀ x y, dup x y = dup y x) (hcs : Consistent dup score cs)
    (hes : ∀ e ∈ es, e ∈ cs) (hc : c ∈ cs) (h : Distinct dup es) :
    Distinct dup (merge dup score es c) := by
  induction es with
  | nil => exact List.pairwise_singleton _ c
  | cons e es ih =>
      obtain ⟨he, hes⟩ := List.forall_mem_cons.mp hes
      obtain ⟨hfirst, hrest⟩ := List.pairwise_cons.mp h
      obtain ⟨hdup, hlt, hmerge⟩ | ⟨-, -, hmerge⟩ | ⟨hdup, hmerge⟩ :=
        merge_cons dup score e es c <;> rw [hmerge]
      · refine List.pairwise_cons.mpr ⟨fun y hy => ?_, hrest⟩
        rw [hsymm, hcs c hc e he hdup hlt y (hes y hy), hsymm]
        exact hfirst y hy
      · exact h
      · refine List.pairwise_cons.mpr ⟨fun y hy => ?_, ih hes hrest⟩
        obtain rfl | hy := List.mem_cons.mp ((merge_subperm es c).subset hy)
        · exact hdup
        · exact hfirst y hy

/-- **What is left is distinct.** -/
theorem mergeAll_distinct (hsymm : ∀ x y, dup x y = dup y x) (h : Consistent dup score cs) :
    Distinct dup (mergeAll dup score cs) := by
  induction cs using List.reverseRecOn with
  | nil => exact List.Pairwise.nil
  | append_singleton cs c ih =>
      rw [mergeAll_concat]
      exact merge_distinct hsymm h
        (fun e he => List.mem_append_left [c] (mem_of_mem_mergeAll he))
        (List.mem_append_right cs List.mem_cons_self) (ih (h.mono (List.subset_append_left cs [c])))

/-- An element that yields to another one yields to a better duplicate of that. -/
theorem Yields.improve (hsymm : ∀ x y, dup x y = dup y x) (hcs : Consistent dup score cs)
    {x y z : α} (hxy : Yields dup score cs x y) (hyz : Improves dup score cs y z) :
    Yields dup score cs x z := by
  refine ⟨hxy.left, hyz.right, ?_, Int.le_trans hxy.score (Int.le_of_lt hyz.score)⟩
  rw [hsymm, hcs z hyz.right y hyz.left hyz.dup hyz.score x hxy.left, hsymm]
  exact hxy.dup

/-- **Every element is left, or duplicates one that is left** and not worse. -/
theorem mergeAll_covers (hsymm : ∀ x y, dup x y = dup y x) (h : Consistent dup score cs) {x : α}
    (hx : x ∈ cs) : ∃ y ∈ mergeAll dup score cs, x = y ∨ Yields dup score cs x y := by
  induction cs using List.reverseRecOn with
  | nil => cases hx
  | append_singleton cs c ih =>
      have hsub := List.subset_append_left cs [c]
      have hes : ∀ e ∈ mergeAll dup score cs, e ∈ cs ++ [c] :=
        fun e he => hsub (mem_of_mem_mergeAll he)
      have hc : c ∈ cs ++ [c] := List.mem_append_right cs List.mem_cons_self
      rw [mergeAll_concat]
      obtain hx | hx := List.mem_append.mp hx
      · obtain ⟨z, hz, hxz⟩ := ih (h.mono hsub) hx
        obtain ⟨y, hy, rfl | hzy⟩ := merge_keeps hes hc hz
        · exact ⟨z, hy, hxz.imp_right (Yields.mono hsub)⟩
        · obtain rfl | hxz := hxz
          · exact ⟨y, hy, .inr (hzy.yields hsymm)⟩
          · exact ⟨y, hy, .inr ((hxz.mono hsub).improve hsymm h hzy)⟩
      · obtain rfl := List.mem_singleton.mp hx
        exact merge_covers hes hc

/-! ## A list without duplicates -/

theorem merge_of_distinct (h : ∀ e ∈ es, dup c e = false) : merge dup score es c = es ++ [c] := by
  induction es with
  | nil => rfl
  | cons e es ih =>
      obtain ⟨he, hes⟩ := List.forall_mem_cons.mp h
      rw [merge, he, if_neg Bool.false_ne_true, ih hes]
      rfl

/-- **A list without duplicates is left as it is.** -/
theorem mergeAll_of_distinct (h : Distinct dup cs) : mergeAll dup score cs = cs := by
  induction cs using List.reverseRecOn with
  | nil => rfl
  | append_singleton cs c ih =>
      obtain ⟨hcs, -, hlast⟩ := List.pairwise_append.mp h
      rw [mergeAll_concat, ih hcs]
      exact merge_of_distinct fun e he => hlast e he c List.mem_cons_self

end Merging
