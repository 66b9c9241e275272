import MandateGateway.Lib.JsonRoundTrip

/-! # JSON trees

    JSON values with numbers of both kinds, their compact texts, and a decoder
    for them.  A float is given by its text: the one that is written for the
    float that the text denotes, so that negative zero and the values that are
    not finite have theirs.  Every word that is no string, array or object
    ends at a delimiter. -/

namespace Json

/-! ## Numbers -/

/-- A character at which a bare word ends. -/
def isDelimiter (c : Char) : Bool :=
  isSpace c || c == ',' || c == ':' || c == '[' || c == ']' || c == openBrace || c == closeBrace
    || c == quoteMark

def isBare (c : Char) : Bool := !isDelimiter c

theorem all_isBare_iff {cs : List Char} :
    cs.all isBare = true ↔ ∀ c ∈ cs, isDelimiter c = false := by
  rw [List.all_eq_true]
  refine forall₂_congr fun c _ => ?_
  rw [isBare, Bool.not_eq_true']

/-- The text that is written for a float; zero has a sign of its own. -/
def floatText (negative : Bool) : Binary64 → String
  | .nan => "NaN"
  | .infinite negative => if negative then "-Infinity" else "Infinity"
  | .finite q =>
      if q = 0 then (if negative then "-0.0" else "0.0") else (Binary64.finite q).text

/-- The text of the float that a word denotes. -/
def reread (word : String) : Option String :=
  if word = "NaN" ∨ word = "Infinity" ∨ word = "-Infinity" then some word
  else match scanNumber word.toList with
  | some (.float x, []) => some (floatText (decide (word.toList.head? = some '-')) x)
  | _ => none

structure FloatText where
  text   : String
  stable : reread text = some text
  bare   : ∀ c ∈ text.toList, isDelimiter c = false
deriving DecidableEq

inductive Number where
  | int (i : Int)
  | float (x : FloatText)
deriving DecidableEq

namespace Number

def text : Number → String
  | .int i => toString i
  | .float x => x.text

def read (word : String) : Option Number :=
  match scanNumber word.toList with
  | some (.int i, []) => some (.int i)
  | _ =>
      match reread word with
      | none => none
      | some t =>
          if h : reread t = some t ∧ t.toList.all isBare = true then
            some (.float ⟨t, h.1, all_isBare_iff.mp h.2⟩)
          else none

end Number

/-! ## Trees and their texts -/

/-- A JSON value; the members of an object stand in the order they are written. -/
inductive Tree where
  | null
  | bool (b : Bool)
  | num (x : Number)
  | str (s : String)
  | arr (xs : List Tree)
  | obj (members : List (String × Tree))

namespace Tree

mutual

/-- A property of a tree follows from the same property of its parts. -/
theorem induct {P : Tree → Prop} (null : P .null) (bool : ∀ b, P (.bool b))
    (num : ∀ x, P (.num x)) (str : ∀ s, P (.str s))
    (arr : ∀ xs, (∀ x ∈ xs, P x) → P (.arr xs))
    (obj : ∀ ms, (∀ m ∈ ms, P m.2) → P (.obj ms)) : ∀ t, P t
  | .null => null
  | .bool b => bool b
  | .num x => num x
  | .str s => str s
  | .arr xs => arr xs (inductElems null bool num str arr obj xs)
  | .obj ms => obj ms (inductMembers null bool num str arr obj ms)

theorem inductElems {P : Tree → Prop} (null : P .null) (bool : ∀ b, P (.bool b))
    (num : ∀ x, P (.num x)) (str : ∀ s, P (.str s))
    (arr : ∀ xs, (∀ x ∈ xs, P x) → P (.arr xs))
    (obj : ∀ ms, (∀ m ∈ ms, P m.2) → P (.obj ms)) : ∀ xs : List Tree, ∀ x ∈ xs, P x
  | [] => List.forall_mem_nil _
  | x :: xs =>
      List.forall_mem_cons.mpr ⟨induct null bool num str arr obj x,
        inductElems null bool num str arr obj xs⟩

theorem inductMembers {P : Tree → Prop} (null : P .null) (bool : ∀ b, P (.bool b))
    (num : ∀ x, P (.num x)) (str : ∀ s, P (.str s))
    (arr : ∀ xs, (∀ x ∈ xs, P x) → P (.arr xs))
    (obj : ∀ ms, (∀ m ∈ ms, P m.2) → P (.obj ms)) : ∀ ms : List (String × Tree), ∀ m ∈ ms, P m.2
  | [] => List.forall_mem_nil _
  | m :: ms =>
      List.forall_mem_cons.mpr ⟨induct null bool num str arr obj m.2,
        inductMembers null bool num str arr obj ms⟩

end

mutual

/-- The compact text of a tree. -/
def render : Tree → List Char
  | .null => "null".toList
  | .bool b => if b then "true".toList else "false".toList
  | .num x => x.text.toList
  | .str s => (stringText s).toList
  | .arr xs => '[' :: ([','].intercalate (renderElems xs) ++ [']'])
  | .obj members => openBrace :: ([','].intercalate (renderMembers members) ++ [closeBrace])

def renderElems : List Tree → List (List Char)
  | [] => []
  | x :: xs => render x :: renderElems xs

def renderMembers : List (String × Tree) → List (List Char)
  | [] => []
  | (k, v) :: ms => ((stringText k).toList ++ ':' :: render v) :: renderMembers ms

end

def text (t : Tree) : String := String.ofList t.render

def renderMember (m : String × Tree) : List Char := (stringText m.1).toList ++ ':' :: m.2.render

theorem renderElems_eq_map : ∀ xs : List Tree, renderElems xs = xs.map render
  | [] => rfl
  | x :: xs => congrArg (render x :: ·) (renderElems_eq_map xs)

theorem renderMembers_eq_map : ∀ ms : List (String × Tree),
    renderMembers ms = ms.map renderMember
  | [] => rfl
  | (k, v) :: ms => congrArg (renderMember (k, v) :: ·) (renderMembers_eq_map ms)

end Tree

/-! ## The decoder -/

def wordValue (word : String) : Option Tree :=
  match Number.read word with
  | some x => some (.num x)
  | none =>
      if word = "null" then some .null
      else if word = "true" then some (.bool true)
      else if word = "false" then some (.bool false)
      else none

/-- One item or more, with commas between, up to the closing character. -/
def sepBy {α : Type} (item : List Char → Option (α × List Char)) (close : Char) :
    Nat → List Char → Option (List α × List Char)
  | 0, _ => none
  | fuel + 1, cs =>
      match item cs with
      | none => none
      | some (x, rest) =>
          match skipSpace rest with
          | [] => none
          | d :: rest =>
              if d = ',' then
                (sepBy item close fuel (skipSpace rest)).map fun p => (x :: p.1, p.2)
              else if d = close then some ([x], rest)
              else none

def enclosed {α : Type} (item : List Char → Option (α × List Char)) (close : Char) (fuel : Nat)
    (cs : List Char) : Option (List α × List Char) :=
  match skipSpace cs with
  | [] => none
  | d :: rest => if d = close then some ([], rest) else sepBy item close fuel (d :: rest)

/-- A member of an object. -/
def memberItem (value : List Char → Option (Tree × List Char)) :
    List Char → Option ((String × Tree) × List Char)
  | [] => none
  | c :: rest =>
      if c = quoteMark then
        match scanString rest with
        | none => none
        | some (key, rest) =>
            match skipSpace rest with
            | [] => none
            | d :: rest =>
                if d = ':' then (value (skipSpace rest)).map fun p => ((key, p.1), p.2)
                else none
      else none

/-- A tree at the start of the text, and what follows it. -/
def treeItem : Nat → List Char → Option (Tree × List Char)
  | 0, _ => none
  | _ + 1, [] => none
  | fuel + 1, c :: rest =>
      if c = quoteMark then (scanString rest).map fun p => (.str p.1, p.2)
      else if c = '[' then (enclosed (treeItem fuel) ']' fuel rest).map fun p => (.arr p.1, p.2)
      else if c = openBrace then
        (enclosed (memberItem (treeItem fuel)) closeBrace fuel rest).map fun p => (.obj p.1, p.2)
      else
        (wordValue (String.ofList ((c :: rest).takeWhile isBare))).map fun v =>
          (v, (c :: rest).dropWhile isBare)

def decodeTree (text : String) : Option Tree :=
  let cs := skipSpace text.toList
  match treeItem (cs.length + 1) cs with
  | none => none
  | some (t, rest) => if skipSpace rest = [] then some t else none

/-! ## Words are read back -/

/-- What may follow a word without being read as a part of it. -/
def EndsWord (rest : List Char) : Prop := ∀ c ∈ rest.head?, isDelimiter c = true

theorem endsWord_nil : EndsWord [] := by
  intro c hc
  cases hc

theorem endsWord_cons {c : Char} (h : isDelimiter c = true) (rest : List Char) :
    EndsWord (c :: rest) := by
  intro d hd
  obtain rfl := Option.some.inj hd
  exact h

theorem toList_ofNat (n : Nat) : (toString (Int.ofNat n)).toList = Nat.toDigits 10 n :=
  Nat.toList_repr

theorem toList_negSucc (n : Nat) :
    (toString (Int.negSucc n)).toList = '-' :: Nat.toDigits 10 (n + 1) := by
  show (String.append "-" (Nat.repr (n + 1))).toList = _
  rw [← Nat.toList_repr]
  exact String.toList_append

theorem scanNumber_toString (i : Int) :
    scanNumber (toString i).toList = some (.int i, []) := by
  cases i with
  | ofNat n =>
      have hscan := (scanNumber_toDigits n boundary_nil).1
      rw [List.append_nil] at hscan
      rw [toList_ofNat]
      exact hscan
  | negSucc n =>
      have hscan := (scanNumber_toDigits (n + 1) boundary_nil).2
      rw [List.append_nil] at hscan
      rw [toList_negSucc]
      exact hscan

theorem toString_int_injective {i j : Int} (h : toString i = toString j) : i = j := by
  have hi := scanNumber_toString i
  rw [h, scanNumber_toString j] at hi
  cases hi
  rfl

theorem notMem_toString_int {c : Char} (hdigit : c.isDigit = false) (hminus : c ≠ '-')
    (i : Int) : c ∉ (toString i).toList := by
  have hdigits : ∀ n : Nat, c ∉ Nat.toDigits 10 n := by
    intro n hn
    rw [Nat.isDigit_of_mem_toDigits (by decide) (by decide) hn] at hdigit
    cases hdigit
  cases i with
  | ofNat n =>
      rw [toList_ofNat]
      exact hdigits n
  | negSucc n =>
      rw [toList_negSucc, List.mem_cons, not_or]
      exact ⟨hminus, hdigits (n + 1)⟩

theorem isDelimiter_digit {c : Char} (h : c.isDigit = true ∨ c = '-') :
    isDelimiter c = false := by
  rcases h with h | rfl
  · obtain ⟨hstarts, hquote, hbracket, hbrace⟩ := starts_digit (.inl h)
    have hne : ∀ w : Char, w.isDigit = false → c ≠ w := by
      rintro w hw rfl
      rw [hw] at h
      cases h
    rw [isDelimiter]
    simp only [Bool.or_eq_false_iff, beq_eq_false_iff_ne]
    exact ⟨⟨⟨⟨⟨⟨⟨hstarts.space, hne _ rfl⟩, hne _ rfl⟩, hbracket⟩, hstarts.bracket⟩, hbrace⟩,
      hne _ rfl⟩, hquote⟩
  · decide

namespace Number

/-- **A written number is read back.** -/
theorem read_text (x : Number) : read x.text = some x := by
  cases x with
  | int i =>
      rw [read, text, scanNumber_toString]
  | float x =>
      obtain ⟨t, hstable, hbare⟩ := x
      show read t = _
      have hscan : ∀ i, scanNumber t.toList ≠ some (.int i, []) := by
        intro i hi
        by_cases hword : t = "NaN" ∨ t = "Infinity" ∨ t = "-Infinity"
        · have hnone : scanNumber t.toList = none := by
            rcases hword with rfl | rfl | rfl <;> decide
          rw [hnone] at hi
          cases hi
        · rw [reread, if_neg hword, hi] at hstable
          cases hstable
      rw [read]
      split
      · rename_i i hi
        exact absurd hi (hscan i)
      · simp only [hstable, dif_pos (And.intro trivial (all_isBare_iff.mpr hbare))]

theorem bare (x : Number) : ∀ c ∈ x.text.toList, isDelimiter c = false := by
  cases x with
  | float x => exact x.bare
  | int i =>
      intro c hc
      cases i with
      | ofNat n =>
          rw [text, toList_ofNat] at hc
          exact isDelimiter_digit (.inl (digits_toDigits n c hc))
      | negSucc n =>
          rw [text, toList_negSucc] at hc
          rcases List.mem_cons.mp hc with rfl | hc
          · exact isDelimiter_digit (.inr rfl)
          · exact isDelimiter_digit (.inl (digits_toDigits (n + 1) c hc))

theorem text_ne (x : Number) : x.text ≠ "" := by
  intro hempty
  have hread := read_text x
  have hnone : read "" = none := by
    decide
  rw [hempty, hnone] at hread
  cases hread

end Number

theorem treeItem_word (word : String) (hne : word ≠ "")
    (hbare : ∀ c ∈ word.toList, isDelimiter c = false) (fuel : Nat) {rest : List Char}
    (hrest : EndsWord rest) :
    treeItem (fuel + 1) (word.toList ++ rest) = (wordValue word).map fun v => (v, rest) := by
  cases hcs : word.toList with
  | nil => exact absurd (String.toList_eq_nil_iff.mp hcs) hne
  | cons c cs =>
      have hchars : ∀ d ∈ c :: cs, isBare d = true := by
        intro d hd
        rw [isBare, hbare d (hcs ▸ hd)]
        rfl
      have hc : ∀ w : Char, isDelimiter w = true → c ≠ w := by
        rintro w hw rfl
        rw [hbare c (hcs ▸ List.mem_cons_self)] at hw
        cases hw
      have hends : rest.takeWhile isBare = [] ∧ rest.dropWhile isBare = rest := by
        cases rest with
        | nil => exact ⟨rfl, rfl⟩
        | cons d rest =>
            have hd : ¬ isBare d = true := by
              rw [isBare, hrest d rfl]
              decide
            exact ⟨List.takeWhile_cons_of_neg hd, List.dropWhile_cons_of_neg hd⟩
      have htake : (c :: cs ++ rest).takeWhile isBare = c :: cs := by
        rw [List.takeWhile_append_of_pos hchars, hends.1, List.append_nil]
      have hdrop : (c :: cs ++ rest).dropWhile isBare = rest := by
        rw [List.dropWhile_append_of_pos hchars, hends.2]
      rw [List.cons_append] at htake hdrop ⊢
      rw [treeItem, if_neg (hc quoteMark (by decide)), if_neg (hc '[' (by decide)),
        if_neg (hc openBrace (by decide))]
      simp only [htake, hdrop, ← hcs, String.ofList_toList]

/-! ## Items between commas are read back -/

section
variable {α : Type} {item : List Char → Option (α × List Char)} {write : α → List Char}
  {close : Char}

/-- The items of a list can be read where another item or the end follows. -/
def ReadsBack (item : List Char → Option (α × List Char)) (write : α → List Char) (x : α) : Prop :=
  (∀ rest, EndsWord rest → item (write x ++ rest) = some (x, rest))
    ∧ ∀ rest, skipSpace (write x ++ rest) = write x ++ rest

theorem sepBy_intercalate (hcomma : close ≠ ',') (hclose : isDelimiter close = true)
    (hspace : isSpace close = false) (x : α) (xs : List α) {fuel : Nat} (rest : List Char)
    (hfuel : (x :: xs).length ≤ fuel) (hitems : ∀ y ∈ x :: xs, ReadsBack item write y) :
    sepBy item close fuel ([','].intercalate ((x :: xs).map write) ++ close :: rest)
      = some (x :: xs, rest) := by
  induction xs generalizing x fuel with
  | nil =>
      cases fuel with
      | zero => exact absurd hfuel (Nat.not_succ_le_zero _)
      | succ fuel =>
          have hx := (hitems x List.mem_cons_self).1 (close :: rest)
            (endsWord_cons hclose rest)
          rw [List.map_cons, List.map_nil, List.intercalate_singleton, sepBy]
          simp only [hx, skipSpace_cons hspace, if_neg hcomma, if_pos]
  | cons y ys ih =>
      cases fuel with
      | zero => exact absurd hfuel (Nat.not_succ_le_zero _)
      | succ fuel =>
          obtain ⟨hx, hrest⟩ := List.forall_mem_cons.mp hitems
          have hys := ih y (Nat.le_of_succ_le_succ hfuel) hrest
          rw [List.map_cons] at hys ⊢
          rw [List.map_cons, List.intercalate_cons_cons]
          simp only [List.append_assoc, List.cons_append, List.nil_append]
          have hread := hx.1
            (',' :: ([','].intercalate (write y :: ys.map write) ++ close :: rest))
            (endsWord_cons (by decide) _)
          have hskip : skipSpace ([','].intercalate (write y :: ys.map write) ++ close :: rest)
              = [','].intercalate (write y :: ys.map write) ++ close :: rest := by
            have hy := (hitems y (List.mem_cons_of_mem x List.mem_cons_self)).2
            cases ys with
            | nil =>
                rw [List.map_nil, List.intercalate_singleton]
                exact hy _
            | cons z zs =>
                rw [List.map_cons, List.intercalate_cons_cons, List.append_assoc,
                  List.append_assoc]
                exact hy _
          rw [sepBy]
          simp only [hread, skipSpace_cons (show isSpace ',' = false by decide), if_pos, hskip, hys,
            Option.map_some]

variable (close) in
theorem enclosed_intercalate (hcomma : close ≠ ',') (hclose : isDelimiter close = true)
    (hspace : isSpace close = false) (xs : List α) {fuel : Nat} (rest : List Char)
    (hfuel : xs.length ≤ fuel) (hitems : ∀ y ∈ xs, ReadsBack item write y)
    (hstart : ∀ y ∈ xs, ∃ c cs, write y = c :: cs ∧ c ≠ close) :
    enclosed item close fuel ([','].intercalate (xs.map write) ++ close :: rest)
      = some (xs, rest) := by
  cases xs with
  | nil =>
      rw [List.map_nil, List.intercalate_nil, List.nil_append, enclosed]
      simp only [skipSpace_cons hspace, if_pos]
  | cons x xs =>
      have hsep := sepBy_intercalate hcomma hclose hspace x xs rest hfuel hitems
      obtain ⟨c, cs, hcs, hc⟩ := hstart x List.mem_cons_self
      have hskip := (hitems x List.mem_cons_self).2
      have htext : ∃ tail, [','].intercalate ((x :: xs).map write) ++ close :: rest
          = write x ++ tail := by
        cases xs with
        | nil =>
            rw [List.map_cons, List.map_nil, List.intercalate_singleton]
            exact ⟨_, rfl⟩
        | cons y ys =>
            rw [List.map_cons, List.map_cons, List.intercalate_cons_cons, List.append_assoc,
              List.append_assoc]
            exact ⟨_, rfl⟩
      obtain ⟨rest', hrest'⟩ := htext
      rw [hrest'] at hsep ⊢
      rw [enclosed, hskip]
      rw [hcs, List.cons_append] at hsep ⊢
      simp only [if_neg hc, hsep]

end

/-! ## Trees are read back -/

namespace Tree

/-- A written tree does not start with whitespace or a closing bracket. -/
theorem render_cons (t : Tree) : ∃ c cs, t.render = c :: cs ∧ Starts c := by
  cases t with
  | null => exact ⟨_, _, rfl, by decide, by decide⟩
  | bool b => cases b <;> exact ⟨_, _, rfl, by decide, by decide⟩
  | num x =>
      cases hcs : x.text.toList with
      | nil => exact absurd (String.toList_eq_nil_iff.mp hcs) x.text_ne
      | cons c cs =>
          have hc := x.bare c (hcs ▸ List.mem_cons_self)
          rw [isDelimiter] at hc
          simp only [Bool.or_eq_false_iff, beq_eq_false_iff_ne] at hc
          exact ⟨c, cs, hcs, hc.1.1.1.1.1.1.1, hc.1.1.1.2⟩
  | str s => exact ⟨_, _, toList_stringText s, by decide, by decide⟩
  | arr xs => exact ⟨_, _, rfl, by decide, by decide⟩
  | obj members => exact ⟨_, _, rfl, by decide, by decide⟩

theorem skipSpace_render (t : Tree) (rest : List Char) :
    skipSpace (t.render ++ rest) = t.render ++ rest := by
  obtain ⟨c, cs, hcs, hc⟩ := t.render_cons
  rw [hcs, List.cons_append, skipSpace_cons hc.space]

theorem length_render_pos (t : Tree) : 0 < t.render.length := by
  obtain ⟨c, cs, hcs, -⟩ := t.render_cons
  rw [hcs]
  exact Nat.succ_pos _

theorem renderMember_cons (m : String × Tree) :
    renderMember m = quoteMark :: (m.1.toList.flatMap escapeChar
      ++ quoteMark :: ':' :: m.2.render) := by
  rw [renderMember, toList_stringText]
  simp only [List.cons_append, List.append_assoc, List.nil_append]

theorem length_intercalate (ls : List (List Char)) (hne : ∀ l ∈ ls, 0 < l.length) :
    (∀ l ∈ ls, l.length ≤ ([','].intercalate ls).length)
      ∧ ls.length ≤ ([','].intercalate ls).length := by
  induction ls with
  | nil => exact ⟨List.forall_mem_nil _, Nat.le_refl _⟩
  | cons l ls ih =>
      obtain ⟨hl, hls⟩ := List.forall_mem_cons.mp hne
      obtain ⟨hpieces, hcount⟩ := ih hls
      cases ls with
      | nil =>
          rw [List.intercalate_singleton]
          refine ⟨?_, hl⟩
          intro l' hl'
          rw [List.mem_singleton.mp hl']
      | cons l' ls =>
          rw [List.intercalate_cons_cons, List.length_append, List.length_append]
          refine ⟨?_, ?_⟩
          · intro x hx
            rcases List.mem_cons.mp hx with rfl | hx
            · omega
            · have hle := hpieces x hx
              omega
          · rw [List.length_cons, List.length_singleton]
            omega

end Tree

theorem memberItem_renderMember {value : List Char → Option (Tree × List Char)}
    {m : String × Tree}
    (hvalue : ∀ rest, EndsWord rest → value (m.2.render ++ rest) = some (m.2, rest)) :
    ReadsBack (memberItem value) Tree.renderMember m := by
  refine ⟨?_, ?_⟩
  · intro rest hrest
    have hcolon : skipSpace (':' :: (m.2.render ++ rest)) = ':' :: (m.2.render ++ rest) :=
      skipSpace_cons (by decide) _
    rw [Tree.renderMember_cons]
    simp only [List.cons_append, List.append_assoc]
    rw [memberItem, if_pos rfl, scanString_escaped]
    simp only [hcolon, if_pos, Tree.skipSpace_render, hvalue rest hrest, Option.map_some]
  · intro rest
    rw [Tree.renderMember_cons, List.cons_append]
    exact skipSpace_cons (by decide) _

/-- **A written tree is read back.** -/
theorem treeItem_render (t : Tree) :
    ∀ fuel rest, t.render.length ≤ fuel → EndsWord rest →
      treeItem fuel (t.render ++ rest) = some (t, rest) := by
  have hfuel : ∀ {t : Tree} {fuel : Nat}, t.render.length ≤ fuel → ∃ n, fuel = n + 1 := by
    intro t fuel h
    have hpos := t.length_render_pos
    exact ⟨fuel - 1, by omega⟩
  induction t using Tree.induct with
  | null =>
      intro fuel rest h hrest
      obtain ⟨n, rfl⟩ := hfuel h
      exact treeItem_word "null" (by decide) (all_isBare_iff.mp (by decide)) n hrest
  | bool b =>
      intro fuel rest h hrest
      obtain ⟨n, rfl⟩ := hfuel h
      cases b with
      | true => exact treeItem_word "true" (by decide) (all_isBare_iff.mp (by decide)) n hrest
      | false => exact treeItem_word "false" (by decide) (all_isBare_iff.mp (by decide)) n hrest
  | num x =>
      intro fuel rest h hrest
      obtain ⟨n, rfl⟩ := hfuel h
      show treeItem (n + 1) (x.text.toList ++ rest) = _
      rw [treeItem_word x.text x.text_ne x.bare n hrest, wordValue, x.read_text]
      rfl
  | str s =>
      intro fuel rest h hrest
      obtain ⟨n, rfl⟩ := hfuel h
      show treeItem (n + 1) ((stringText s).toList ++ rest) = _
      rw [toList_stringText]
      simp only [List.cons_append, List.append_assoc, List.nil_append]
      rw [treeItem, if_pos rfl, scanString_escaped]
      rfl
  | arr xs ih =>
      intro fuel rest h hrest
      obtain ⟨n, rfl⟩ := hfuel h
      rw [Tree.render, Tree.renderElems_eq_map] at h ⊢
      obtain ⟨hpieces, hcount⟩ := Tree.length_intercalate (xs.map Tree.render) (by
        intro l hl
        obtain ⟨x, -, rfl⟩ := List.mem_map.mp hl
        exact x.length_render_pos)
      rw [List.length_map] at hcount
      simp only [List.length_cons, List.length_append, List.length_nil] at h
      have hitems : ∀ x ∈ xs, ReadsBack (treeItem n) Tree.render x := by
        intro x hx
        have hlength := hpieces x.render (List.mem_map_of_mem hx)
        exact ⟨fun rest' => ih x hx n rest' (by omega), x.skipSpace_render⟩
      have hread := enclosed_intercalate ']' (by decide) (by decide) (by decide) xs rest
        (show xs.length ≤ n by omega) hitems fun x _ =>
          let ⟨c, cs, hcs, hc⟩ := x.render_cons
          ⟨c, cs, hcs, hc.bracket⟩
      simp only [List.cons_append, List.append_assoc, List.nil_append]
      rw [treeItem, if_neg (by decide), if_pos rfl, hread]
      rfl
  | obj ms ih =>
      intro fuel rest h hrest
      obtain ⟨n, rfl⟩ := hfuel h
      rw [Tree.render, Tree.renderMembers_eq_map] at h ⊢
      obtain ⟨hpieces, hcount⟩ := Tree.length_intercalate (ms.map Tree.renderMember) (by
        intro l hl
        obtain ⟨m, -, rfl⟩ := List.mem_map.mp hl
        rw [Tree.renderMember_cons]
        exact Nat.succ_pos _)
      rw [List.length_map] at hcount
      simp only [List.length_cons, List.length_append, List.length_nil] at h
      have hitems : ∀ m ∈ ms, ReadsBack (memberItem (treeItem n)) Tree.renderMember m := by
        intro m hm
        have hlength := hpieces (Tree.renderMember m) (List.mem_map_of_mem hm)
        rw [Tree.renderMember, List.length_append, List.length_cons] at hlength
        exact memberItem_renderMember fun rest' => ih m hm n rest' (by omega)
      have hread := enclosed_intercalate closeBrace (by decide) (by decide) (by decide)
        ms rest (show ms.length ≤ n by omega) hitems fun m _ =>
          ⟨_, _, Tree.renderMember_cons m, by decide⟩
      simp only [List.cons_append, List.append_assoc, List.nil_append]
      rw [treeItem, if_neg (by decide), if_neg (by decide), if_pos rfl, hread]
      rfl

/-- **The text of a tree decodes to it.** -/
theorem decodeTree_text (t : Tree) : decodeTree t.text = some t := by
  have hread := treeItem_render t (t.render.length + 1) [] (Nat.le_succ _) endsWord_nil
  have hspace := t.skipSpace_render []
  rw [List.append_nil] at hread hspace
  rw [decodeTree, Tree.text, String.toList_ofList]
  simp only [hspace, hread]
  rfl

/-- **Different trees have different texts.** -/
theorem Tree.text_injective : Function.Injective Tree.text := by
  intro t t' h
  have hdecode := decodeTree_text t
  rw [h, decodeTree_text t'] at hdecode
  exact (Option.some.inj hdecode).symm

end Json
