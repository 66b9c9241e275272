import Mathlib.Data.List.Forall2
import Mathlib.Data.List.Induction
import Mathlib.Data.List.Nodup
import MandateGateway.Lib.OrderedMap

/-! # Hash chains

    Events of which each names the hash of the one before it.  A chain leads
    from one hash to another; two chains that lead from a hash that no event
    has to the same head have the same contents, event by event
    (`Chain.forall₂_of_same_head`). -/

namespace HashChain

variable {ε η : Type} (previous hash : ε → η) (Valid : ε → Prop)

/-- Valid events of which each is linked to the one before it, from the hash
    `p` to the head `h`. -/
inductive Chain : η → List ε → η → Prop
  | nil (p : η) : Chain p [] p
  | cons {p h : η} {e : ε} {es : List ε} (hlink : previous e = p) (hvalid : Valid e)
      (hrest : Chain (hash e) es h) : Chain p (e :: es) h

variable {previous hash Valid} {p h : η} {e : ε} {es es' : List ε}

theorem chain_nil_iff : Chain previous hash Valid p [] h ↔ p = h := by
  constructor
  · rintro ⟨⟩
    rfl
  · rintro rfl
    exact .nil p

theorem chain_cons_iff :
    Chain previous hash Valid p (e :: es) h
      ↔ previous e = p ∧ Valid e ∧ Chain previous hash Valid (hash e) es h := by
  constructor
  · rintro ⟨⟩
    exact ⟨‹_›, ‹_›, ‹_›⟩
  · rintro ⟨hlink, hvalid, hrest⟩
    exact .cons hlink hvalid hrest

/-- **The last event carries the head.** -/
theorem chain_concat_iff :
    Chain previous hash Valid p (es ++ [e]) h
      ↔ Chain previous hash Valid p es (previous e) ∧ Valid e ∧ hash e = h := by
  induction es generalizing p with
  | nil =>
      rw [List.nil_append, chain_cons_iff, chain_nil_iff, chain_nil_iff, eq_comm]
  | cons e' es ih =>
      rw [List.cons_append, chain_cons_iff, chain_cons_iff, ih]
      simp only [and_assoc]

/-- A chain has one head. -/
theorem Chain.head_unique {h' : η} (hc : Chain previous hash Valid p es h)
    (hc' : Chain previous hash Valid p es h') : h = h' := by
  induction hc with
  | nil p => exact chain_nil_iff.mp hc'
  | cons hlink hvalid hrest ih => exact ih (chain_cons_iff.mp hc').2.2

theorem Chain.valid (hc : Chain previous hash Valid p es h) : ∀ e ∈ es, Valid e := by
  induction hc with
  | nil p => exact List.forall_mem_nil _
  | cons hlink hvalid hrest ih => exact List.forall_mem_cons.mpr ⟨hvalid, ih⟩

/-- Chains of the same links are told apart by the validity of their events. -/
theorem Chain.of_valid {Valid' : ε → Prop} (hc : Chain previous hash Valid p es h)
    (hvalid : ∀ e ∈ es, Valid' e) : Chain previous hash Valid' p es h := by
  induction hc with
  | nil p => exact .nil p
  | cons hlink _ hrest ih =>
      obtain ⟨he, hes⟩ := List.forall_mem_cons.mp hvalid
      exact .cons hlink he (ih hes)

theorem forall₂_concat {R : ε → ε → Prop} {e' : ε} (h : List.Forall₂ R es es') (he : R e e') :
    List.Forall₂ R (es ++ [e]) (es' ++ [e']) :=
  List.rel_append h (.cons he .nil)

/-- **Tamper evidence**: where the hash of a valid event determines its content
    and its link, and is never the hash that the chain starts from, chains with
    the same head have the same contents. -/
theorem Chain.forall₂_of_same_head {R : ε → ε → Prop}
    (hcontent : ∀ e e', Valid e → Valid e' → hash e = hash e' → R e e' ∧ previous e = previous e')
    (hstart : ∀ e, Valid e → hash e ≠ p) (hc : Chain previous hash Valid p es h)
    (hc' : Chain previous hash Valid p es' h) : List.Forall₂ R es es' := by
  induction es using List.reverseRecOn generalizing es' h with
  | nil =>
      obtain rfl := chain_nil_iff.mp hc
      rcases List.eq_nil_or_concat es' with rfl | ⟨l, e', rfl⟩
      · exact .nil
      · rw [List.concat_eq_append] at hc'
        obtain ⟨-, hvalid, hhead⟩ := chain_concat_iff.mp hc'
        exact absurd hhead (hstart e' hvalid)
  | append_singleton l e ih =>
      obtain ⟨hl, hvalid, hhead⟩ := chain_concat_iff.mp hc
      rcases List.eq_nil_or_concat es' with rfl | ⟨l', e', rfl⟩
      · rw [← chain_nil_iff.mp hc'] at hhead
        exact absurd hhead (hstart e hvalid)
      · rw [List.concat_eq_append] at hc' ⊢
        obtain ⟨hl', hvalid', hhead'⟩ := chain_concat_iff.mp hc'
        obtain ⟨hsame, hlink⟩ := hcontent e e' hvalid hvalid' (hhead.trans hhead'.symm)
        rw [← hlink] at hl'
        exact forall₂_concat (ih hl hl') hsame

theorem Chain.first_part {l r : List ε} (hc : Chain previous hash Valid p (l ++ e :: r) h) :
    Chain previous hash Valid p (l ++ [e]) (hash e) := by
  induction l generalizing p with
  | nil =>
      obtain ⟨hlink, hvalid, -⟩ := chain_cons_iff.mp hc
      exact .cons hlink hvalid (.nil _)
  | cons e' l ih =>
      obtain ⟨hlink, hvalid, hrest⟩ := chain_cons_iff.mp hc
      exact .cons hlink hvalid (ih hrest)

/-- **No two events of a chain have one hash**, where a hash determines the
    content and the link and is never the one that the chain starts from. -/
theorem Chain.hash_ne_of_later {R : ε → ε → Prop}
    (hcontent : ∀ e e', Valid e → Valid e' → hash e = hash e' → R e e' ∧ previous e = previous e')
    (hstart : ∀ e, Valid e → hash e ≠ p) {l m r : List ε} {e' : ε}
    (hc : Chain previous hash Valid p (l ++ e :: (m ++ e' :: r)) h) : hash e' ≠ hash e := by
  intro hsame
  have hshort := hc.first_part
  have hlong : Chain previous hash Valid p (l ++ e :: m ++ [e']) (hash e') := by
    rw [← List.cons_append, ← List.append_assoc] at hc
    exact hc.first_part
  rw [hsame] at hlong
  -- chains to one head have one length
  have hlength := (hshort.forall₂_of_same_head hcontent hstart hlong).length_eq
  simp only [List.length_append, List.length_cons, List.length_nil] at hlength
  omega

/-! ## Functions with known digests -/

/-- A function with some known digests; every other text is its own digest,
    marked. -/
def knownDigests (known : List (String × String)) (text : String) : String :=
  (OrderedMap.lookupEntries text known).getD ("#" ++ text)

theorem knownDigests_cons_self (text digest : String) (known : List (String × String)) :
    knownDigests ((text, digest) :: known) text = digest := by
  rw [knownDigests, OrderedMap.lookupEntries, if_pos rfl]
  rfl

theorem knownDigests_cons_of_ne {text text' : String} (h : text' ≠ text) (digest : String)
    (known : List (String × String)) :
    knownDigests ((text', digest) :: known) text = knownDigests known text := by
  rw [knownDigests, OrderedMap.lookupEntries, if_neg h]
  rfl

section
variable {known : List (String × String)}
  (hmarked : ∀ d ∈ known.map Prod.snd, d.toList.head? ≠ some '#')

theorem marked_ne {d text : String} (hd : d.toList.head? ≠ some '#') : d ≠ "#" ++ text := by
  rintro rfl
  refine hd ?_
  rw [String.toList_append]
  rfl

theorem knownDigests_cases (known : List (String × String)) (text : String) :
    (text, knownDigests known text) ∈ known ∨ knownDigests known text = "#" ++ text := by
  rw [knownDigests]
  cases hget : OrderedMap.lookupEntries text known with
  | none => exact .inr rfl
  | some d => exact .inl (OrderedMap.mem_of_lookupEntries hget)

include hmarked in
theorem knownDigests_injective (hnodup : (known.map Prod.snd).Nodup) :
    Function.Injective (knownDigests known) := by
  intro x y h
  rcases knownDigests_cases known x with hx | hx
  · rcases knownDigests_cases known y with hy | hy
    · exact congrArg Prod.fst (List.inj_on_of_nodup_map hnodup hx hy h)
    · exact absurd (h.trans hy) (marked_ne (hmarked _ (List.mem_map_of_mem hx)))
  · rcases knownDigests_cases known y with hy | hy
    · exact absurd (h.symm.trans hx) (marked_ne (hmarked _ (List.mem_map_of_mem hy)))
    · have htext := congrArg String.toList (hx.symm.trans (h.trans hy))
      rw [String.toList_append, String.toList_append] at htext
      exact String.toList_injective (List.append_cancel_left htext)

theorem knownDigests_ne {p : String} (hp : p.toList.head? ≠ some '#')
    (hfresh : p ∉ known.map Prod.snd) (text : String) : knownDigests known text ≠ p := by
  rcases knownDigests_cases known text with h | h
  · rintro rfl
    exact hfresh (List.mem_map_of_mem h)
  · rw [h]
    exact (marked_ne hp).symm

end

end HashChain
