import MandateGateway.Lib.JsonKeys

/-! # JSON texts with blanks

    The text of a tree with a blank behind every comma and colon.  Without the
    blanks outside its strings it is the compact text (`squeeze_spaced`), so that
    different trees have different texts (`dumps_injective`). -/

namespace Json

/-- Where a reader of a text stands. -/
inductive Place where
  | outside
  | inside
  | escaped
deriving DecidableEq

/-- The text without the blanks that stand outside strings. -/
def squeeze : Place → List Char → List Char
  | _, [] => []
  | .outside, c :: cs =>
      if c = quoteMark then c :: squeeze .inside cs
      else if c = ' ' then squeeze .outside cs
      else c :: squeeze .outside cs
  | .inside, c :: cs =>
      if c = quoteMark then c :: squeeze .outside cs
      else if c = backslash then c :: squeeze .escaped cs
      else c :: squeeze .inside cs
  | .escaped, c :: cs => c :: squeeze .inside cs

theorem squeeze_blank (cs : List Char) : squeeze .outside (' ' :: cs) = squeeze .outside cs := by
  have hquote : ' ' ≠ quoteMark := by decide
  rw [squeeze, if_neg hquote, if_pos rfl]

theorem squeeze_quote (cs : List Char) :
    squeeze .outside (quoteMark :: cs) = quoteMark :: squeeze .inside cs := by
  rw [squeeze, if_pos rfl]

theorem squeeze_plain {c : Char} (hquote : c ≠ quoteMark) (hblank : c ≠ ' ') (cs : List Char) :
    squeeze .outside (c :: cs) = c :: squeeze .outside cs := by
  rw [squeeze, if_neg hquote, if_neg hblank]

theorem squeeze_word {word : List Char} (hword : ∀ c ∈ word, isDelimiter c = false)
    (rest : List Char) : squeeze .outside (word ++ rest) = word ++ squeeze .outside rest := by
  induction word with
  | nil => rfl
  | cons c word ih =>
      rw [List.forall_mem_cons] at hword
      have hquote : c ≠ quoteMark := by
        rintro rfl
        exact absurd hword.1 (by decide)
      have hblank : c ≠ ' ' := by
        rintro rfl
        exact absurd hword.1 (by decide)
      rw [List.cons_append, squeeze_plain hquote hblank, ih hword.2, List.cons_append]

/-! ## Strings -/

theorem squeeze_letter {c : Char} (hquote : c ≠ quoteMark) (hslash : c ≠ backslash)
    (cs : List Char) : squeeze .inside (c :: cs) = c :: squeeze .inside cs := by
  rw [squeeze, if_neg hquote, if_neg hslash]

theorem squeeze_escape (c : Char) (cs : List Char) :
    squeeze .inside (backslash :: c :: cs) = backslash :: c :: squeeze .inside cs := by
  have hquote : backslash ≠ quoteMark := by decide
  rw [squeeze, if_neg hquote, if_pos rfl, squeeze]

theorem squeeze_unitEscape (n : Nat) (rest : List Char) :
    squeeze .inside (unitEscape n ++ rest) = unitEscape n ++ squeeze .inside rest := by
  have hdigit : ∀ d < 16, Nat.digitChar d ≠ quoteMark ∧ Nat.digitChar d ≠ backslash := by
    decide
  have h₃ := hdigit (n / 4096 % 16) (Nat.mod_lt _ (by decide))
  have h₂ := hdigit (n / 256 % 16) (Nat.mod_lt _ (by decide))
  have h₁ := hdigit (n / 16 % 16) (Nat.mod_lt _ (by decide))
  have h₀ := hdigit (n % 16) (Nat.mod_lt _ (by decide))
  rw [unitEscape, hex4]
  show squeeze .inside (backslash :: 'u' :: _ :: _ :: _ :: _ :: rest) = _
  rw [squeeze_escape, squeeze_letter h₃.1 h₃.2, squeeze_letter h₂.1 h₂.2,
    squeeze_letter h₁.1 h₁.2, squeeze_letter h₀.1 h₀.2]
  rfl

/-- **What is written for a character is kept, and the string goes on.** -/
theorem squeeze_escapeChar (c : Char) (rest : List Char) :
    squeeze .inside (escapeChar c ++ rest) = escapeChar c ++ squeeze .inside rest := by
  rw [escapeChar]
  split_ifs with h h10 h13 h9 h8 h12 hprint hbasic
  · exact squeeze_escape c rest
  · exact squeeze_escape 'n' rest
  · exact squeeze_escape 'r' rest
  · exact squeeze_escape 't' rest
  · exact squeeze_escape 'b' rest
  · exact squeeze_escape 'f' rest
  · exact squeeze_letter (ne_ofNat rfl fun hn => h (.inl hn)) (ne_ofNat rfl fun hn => h (.inr hn))
      rest
  · exact squeeze_unitEscape c.toNat rest
  · rw [List.append_assoc, squeeze_unitEscape, squeeze_unitEscape, List.append_assoc]

theorem squeeze_stringText (s : String) (rest : List Char) :
    squeeze .outside ((stringText s).toList ++ rest)
      = (stringText s).toList ++ squeeze .outside rest := by
  have hbody : ∀ cs : List Char, squeeze .inside (cs.flatMap escapeChar ++ quoteMark :: rest)
      = cs.flatMap escapeChar ++ quoteMark :: squeeze .outside rest := by
    intro cs
    induction cs with
    | nil =>
        rw [List.flatMap_nil, List.nil_append, List.nil_append, squeeze, if_pos rfl]
    | cons c cs ih => rw [List.flatMap_cons, List.append_assoc, squeeze_escapeChar, ih,
        List.append_assoc]
  have hquoted : ∀ tail : List Char, (stringText s).toList ++ tail
      = quoteMark :: (s.toList.flatMap escapeChar ++ quoteMark :: tail) := by
    intro tail
    rw [toList_stringText, List.cons_append, List.append_assoc, List.singleton_append]
  rw [hquoted, hquoted, squeeze_quote, hbody]

/-! ## Trees -/

namespace Tree

mutual

/-- The text of a tree with a blank behind every comma and colon. -/
def spaced : Tree → List Char
  | .null => "null".toList
  | .bool b => if b then "true".toList else "false".toList
  | .num x => x.text.toList
  | .str s => (stringText s).toList
  | .arr xs => '[' :: ([',', ' '].intercalate (spacedElems xs) ++ [']'])
  | .obj members => openBrace :: ([',', ' '].intercalate (spacedMembers members) ++ [closeBrace])

def spacedElems : List Tree → List (List Char)
  | [] => []
  | x :: xs => spaced x :: spacedElems xs

def spacedMembers : List (String × Tree) → List (List Char)
  | [] => []
  | (k, v) :: ms => ((stringText k).toList ++ ':' :: ' ' :: spaced v) :: spacedMembers ms

end

/-- `json.dumps(value)`. -/
def dumps (t : Tree) : String := String.ofList t.spaced

/-- The text of a member. -/
def spacedMember (m : String × Tree) : List Char :=
  (stringText m.1).toList ++ ':' :: ' ' :: m.2.spaced

theorem spacedElems_eq_map (xs : List Tree) : spacedElems xs = xs.map spaced := by
  induction xs with
  | nil => rfl
  | cons x xs ih => rw [spacedElems, ih, List.map_cons]

theorem spacedMembers_eq_map (ms : List (String × Tree)) :
    spacedMembers ms = ms.map spacedMember := by
  induction ms with
  | nil => rfl
  | cons m ms ih =>
      obtain ⟨k, v⟩ := m
      rw [spacedMembers, ih, List.map_cons, spacedMember]

/-- Two ways to write an item differ in the blanks only. -/
def Squeezes {α : Type} (write write' : α → List Char) (x : α) : Prop :=
  ∀ rest, squeeze .outside (write x ++ rest) = write' x ++ squeeze .outside rest

theorem squeeze_intercalate {α : Type} {write write' : α → List Char} {xs : List α}
    (h : ∀ x ∈ xs, Squeezes write write' x) (rest : List Char) :
    squeeze .outside ([',', ' '].intercalate (xs.map write) ++ rest)
      = [','].intercalate (xs.map write') ++ squeeze .outside rest := by
  induction xs with
  | nil => rfl
  | cons x xs ih =>
      obtain ⟨hx, hxs⟩ := List.forall_mem_cons.mp h
      cases xs with
      | nil =>
          rw [List.map_singleton, List.map_singleton, List.intercalate_singleton,
            List.intercalate_singleton]
          exact hx rest
      | cons y ys =>
          have hys := ih hxs
          rw [List.map_cons, List.map_cons] at hys ⊢
          rw [List.map_cons, List.map_cons, List.intercalate_cons_cons,
            List.intercalate_cons_cons, List.append_assoc, List.append_assoc, hx, List.cons_append,
            List.cons_append, List.nil_append, squeeze_plain (by decide) (by decide),
            squeeze_blank, hys, List.append_assoc, List.append_assoc]
          rfl

/-- **The text with blanks, squeezed, is the compact text.** -/
theorem squeeze_spaced (t : Tree) : Squeezes spaced render t := by
  induction t using induct with
  | null => exact squeeze_word (all_isBare_iff.mp (by decide))
  | bool b =>
      cases b with
      | true => exact squeeze_word (all_isBare_iff.mp (by decide))
      | false => exact squeeze_word (all_isBare_iff.mp (by decide))
  | num x => exact squeeze_word x.bare
  | str s => exact squeeze_stringText s
  | arr xs ih =>
      intro rest
      rw [spaced, render, spacedElems_eq_map, renderElems_eq_map, List.cons_append,
        squeeze_plain (by decide) (by decide), List.append_assoc, squeeze_intercalate ih,
        List.singleton_append, squeeze_plain (by decide) (by decide), List.cons_append,
        List.append_assoc, List.singleton_append]
  | obj ms ih =>
      intro rest
      have hmembers : ∀ m ∈ ms, Squeezes spacedMember renderMember m := by
        intro m hm tail
        rw [spacedMember, renderMember, List.append_assoc, squeeze_stringText, List.cons_append,
          List.cons_append, squeeze_plain (by decide) (by decide), squeeze_blank, ih m hm,
          List.append_assoc, List.cons_append]
      rw [spaced, render, spacedMembers_eq_map, renderMembers_eq_map, List.cons_append,
        squeeze_plain (by decide) (by decide), List.append_assoc, squeeze_intercalate hmembers,
        List.singleton_append, squeeze_plain (by decide) (by decide), List.cons_append,
        List.append_assoc, List.singleton_append]

/-- **Different trees have different texts.** -/
theorem dumps_injective : Function.Injective dumps := by
  intro t t' h
  have hspaced : t.spaced = t'.spaced := String.ofList_injective h
  have hsqueeze : ∀ u : Tree, squeeze .outside u.spaced = u.render := by
    intro u
    have hu := squeeze_spaced u []
    rw [List.append_nil, squeeze, List.append_nil] at hu
    exact hu
  refine text_injective (congrArg String.ofList ?_)
  rw [← hsqueeze t, ← hsqueeze t', hspaced]

end Tree

end Json
