import MandateGateway.Lib.JsonDecode

/-! # Written JSON texts decode to what was written

    The texts of a serializer that puts the same whitespace, or none, after
    each comma and colon.  Decoding such a text gives the value back
    (`decode_render`), so that different values have different texts. -/

namespace Json

/-! ## The writer -/

mutual

/-- The text of a value, with `gap` after each separator. -/
def render (gap : List Char) : Json → List Char
  | .null => "null".toList
  | .bool b => if b then "true".toList else "false".toList
  | .int i => (toString i).toList
  | .str s => (stringText s).toList
  | .arr xs => '[' :: renderElems gap xs ++ [']']
  | .obj members => openBrace :: renderMembers gap members ++ [closeBrace]

def renderElems (gap : List Char) : List Json → List Char
  | [] => []
  | [x] => render gap x
  | x :: xs => render gap x ++ ',' :: gap ++ renderElems gap xs

def renderMembers (gap : List Char) : List (String × Json) → List Char
  | [] => []
  | [(k, v)] => (stringText k).toList ++ ':' :: gap ++ render gap v
  | (k, v) :: rest =>
      (stringText k).toList ++ ':' :: gap ++ render gap v ++ ',' :: gap
        ++ renderMembers gap rest

end

/-- `json.dumps(value)`. -/
def dumps (j : Json) : String := String.ofList (render [' '] j)

mutual

/-- The value as a decoded one. -/
def value : Json → Value
  | .null => .null
  | .bool b => .bool b
  | .int i => .int i
  | .str s => .str s
  | .arr xs => .arr (values xs)
  | .obj members => .obj (memberValues members)

def values : List Json → List Value
  | [] => []
  | x :: xs => value x :: values xs

def memberValues : List (String × Json) → List (String × Value)
  | [] => []
  | (k, v) :: rest => (k, value v) :: memberValues rest

end

/-! ## Whitespace -/

theorem skipSpace_cons {c : Char} (h : isSpace c = false) (cs : List Char) :
    skipSpace (c :: cs) = c :: cs := by
  rw [skipSpace, List.dropWhile_cons_of_neg]
  rw [h]
  exact Bool.false_ne_true

theorem skipSpace_append {gap : List Char} (hgap : ∀ c ∈ gap, isSpace c = true)
    (cs : List Char) : skipSpace (gap ++ cs) = skipSpace cs := by
  induction gap with
  | nil => rfl
  | cons c gap ih =>
      rw [List.forall_mem_cons] at hgap
      rw [List.cons_append, skipSpace, List.dropWhile_cons_of_pos hgap.1]
      exact ih hgap.2

/-! ## Strings -/

theorem hexValue_digitChar : ∀ d < 16, hexValue (Nat.digitChar d) = some d := by
  decide

/-- The character is not written as an escaped code unit. -/
def Named (c : Char) : Prop :=
  let n := c.toNat
  n = 34 ∨ n = 92 ∨ n = 10 ∨ n = 13 ∨ n = 9 ∨ n = 8 ∨ n = 12 ∨ 32 ≤ n ∧ n < 127

instance (c : Char) : Decidable (Named c) := inferInstanceAs (Decidable (_ ∨ _))

/-- The pieces that a character is read back as. -/
def piecesOf (c : Char) : List Piece :=
  let n := c.toNat
  if Named c then [.char c]
  else if n < 0x10000 then [.unit n]
  else [.unit (0xD800 + (n - 0x10000) / 1024), .unit (0xDC00 + (n - 0x10000) % 1024)]

/-- Put pieces before the others. -/
def prependPieces (ps : List Piece) (tail : List Piece × List Char) : List Piece × List Char :=
  (ps ++ tail.1, tail.2)

theorem ne_ofNat {c : Char} {n : Nat} (hn : (Char.ofNat n).toNat = n) (h : c.toNat ≠ n) :
    c ≠ Char.ofNat n := by
  rintro rfl
  exact h hn

theorem eq_ofNat {c : Char} {n : Nat} (h : c.toNat = n) : c = Char.ofNat n := by
  rw [← h, Char.ofNat_toNat]

theorem pieces_plain {c : Char} (hquote : c.toNat ≠ 34) (hslash : c.toNat ≠ 92)
    (hprint : 32 ≤ c.toNat) (rest : List Char) :
    pieces (c :: rest) = (pieces rest).map (consPiece (.char c)) := by
  have h₁ : c ≠ quoteMark := ne_ofNat rfl hquote
  have h₂ : c ≠ backslash := ne_ofNat rfl hslash
  have h₃ : ¬ c.toNat < 0x20 := by omega
  rw [pieces.eq_def]
  simp only [if_neg h₁, if_neg h₂, if_neg h₃]

theorem pieces_escape {e c : Char} (he : e ≠ 'u') (hc : simpleEscape e = some c)
    (rest : List Char) :
    pieces (backslash :: e :: rest) = (pieces rest).map (consPiece (.char c)) := by
  have h₁ : backslash ≠ quoteMark := by decide
  rw [pieces.eq_def]
  simp only [if_neg h₁, if_pos, if_neg he, hc]

theorem pieces_unitEscape {n : Nat} (hn : n < 0x10000) (rest : List Char) :
    pieces (unitEscape n ++ rest) = (pieces rest).map (consPiece (.unit n)) := by
  have h₁ : backslash ≠ quoteMark := by decide
  have hsum : 4096 * (n / 4096 % 16) + 256 * (n / 256 % 16) + 16 * (n / 16 % 16) + n % 16 = n := by
    omega
  have h₃ := hexValue_digitChar (n / 4096 % 16) (by omega)
  have h₂ := hexValue_digitChar (n / 256 % 16) (by omega)
  have h₁' := hexValue_digitChar (n / 16 % 16) (by omega)
  have h₀ := hexValue_digitChar (n % 16) (by omega)
  rw [unitEscape, hex4]
  show pieces (backslash :: 'u' :: _ :: _ :: _ :: _ :: rest) = _
  rw [pieces.eq_def]
  simp only [if_neg h₁, if_pos, h₃, h₂, h₁', h₀, hsum]

theorem pieces_named {c e : Char} (h : Named c) (he : e ≠ 'u') (hc : simpleEscape e = some c)
    (rest : List Char) :
    pieces ([backslash, e] ++ rest) = (pieces rest).map (prependPieces (piecesOf c)) := by
  have hpieces : piecesOf c = [.char c] := if_pos h
  rw [hpieces]
  exact pieces_escape he hc rest

/-- **A written character is read back as its pieces.** -/
theorem pieces_escapeChar (c : Char) (rest : List Char) :
    pieces (escapeChar c ++ rest) = (pieces rest).map (prependPieces (piecesOf c)) := by
  rw [escapeChar]
  split_ifs with h h10 h13 h9 h8 h12 hprint hbasic
  · have hc : simpleEscape c = some c ∧ c ≠ 'u' := by
      rcases h with h | h <;> rw [eq_ofNat h] <;> decide
    exact pieces_named (by rw [Named]; tauto) hc.2 hc.1 rest
  · exact pieces_named (by rw [Named]; tauto) (by decide) (by rw [eq_ofNat h10]; rfl) rest
  · exact pieces_named (by rw [Named]; tauto) (by decide) (by rw [eq_ofNat h13]; rfl) rest
  · exact pieces_named (by rw [Named]; tauto) (by decide) (by rw [eq_ofNat h9]; rfl) rest
  · exact pieces_named (by rw [Named]; tauto) (by decide) (by rw [eq_ofNat h8]; rfl) rest
  · exact pieces_named (by rw [Named]; tauto) (by decide) (by rw [eq_ofNat h12]; rfl) rest
  · have hpieces : piecesOf c = [.char c] := if_pos (by rw [Named]; tauto)
    rw [hpieces]
    exact pieces_plain (by omega) (by omega) hprint.1 rest
  · have hnamed : ¬ Named c := by
      rw [Named]
      tauto
    rw [piecesOf, if_neg hnamed, if_pos hbasic]
    exact pieces_unitEscape hbasic rest
  · -- two units, one after the other
    have hvalid : c.toNat < 0xD800 ∨ 0xDFFF < c.toNat ∧ c.toNat < 0x110000 := c.valid
    have hnamed : ¬ Named c := by
      rw [Named]
      tauto
    rw [piecesOf, if_neg hnamed, if_neg hbasic, List.append_assoc, pieces_unitEscape (by omega),
      pieces_unitEscape (by omega), Option.map_map]
    rfl

theorem pieces_escaped (cs : List Char) (rest : List Char) :
    pieces (cs.flatMap escapeChar ++ quoteMark :: rest) = some (cs.flatMap piecesOf, rest) := by
  induction cs with
  | nil =>
      show pieces (quoteMark :: rest) = _
      rw [pieces.eq_def]
      simp only [if_pos, List.flatMap_nil]
  | cons c cs ih =>
      rw [List.flatMap_cons, List.append_assoc, pieces_escapeChar, ih, List.flatMap_cons]
      rfl

theorem joined_piecesOf (c : Char) (ps : List Piece) :
    joined (piecesOf c ++ ps) = (joined ps).map (c :: ·) := by
  have hvalid : c.toNat < 0xD800 ∨ 0xDFFF < c.toNat ∧ c.toNat < 0x110000 := c.valid
  rw [piecesOf]
  split_ifs with h hbasic
  · rfl
  · -- no character is a surrogate
    have hhigh : ¬ (0xD800 ≤ c.toNat ∧ c.toNat < 0xDC00) := by omega
    have hlow : ¬ (0xDC00 ≤ c.toNat ∧ c.toNat < 0xE000) := by omega
    rw [List.singleton_append, joined.eq_def]
    simp only [if_neg hhigh, if_neg hlow, Char.ofNat_toNat]
  · have hhigh : 0xD800 ≤ 0xD800 + (c.toNat - 0x10000) / 1024
        ∧ 0xD800 + (c.toNat - 0x10000) / 1024 < 0xDC00 := by omega
    have hlow : 0xDC00 ≤ 0xDC00 + (c.toNat - 0x10000) % 1024
        ∧ 0xDC00 + (c.toNat - 0x10000) % 1024 < 0xE000 := by omega
    have hsum : 0x10000 + (0xD800 + (c.toNat - 0x10000) / 1024 - 0xD800) * 1024
        + (0xDC00 + (c.toNat - 0x10000) % 1024 - 0xDC00) = c.toNat := by omega
    show joined (.unit _ :: .unit _ :: ps) = _
    rw [joined.eq_def]
    simp only [if_pos hhigh, if_pos hlow, hsum, Char.ofNat_toNat]

theorem joined_flatMap_piecesOf (cs : List Char) : joined (cs.flatMap piecesOf) = some cs := by
  induction cs with
  | nil => rfl
  | cons c cs ih =>
      rw [List.flatMap_cons, joined_piecesOf, ih]
      rfl

/-- **A written string is read back.** -/
theorem scanString_escaped (s : String) (rest : List Char) :
    scanString (s.toList.flatMap escapeChar ++ quoteMark :: rest) = some (s, rest) := by
  rw [scanString, pieces_escaped]
  simp only [joined_flatMap_piecesOf, Option.map_some, String.ofList_toList]

theorem toList_stringText (s : String) :
    (stringText s).toList = quoteMark :: (s.toList.flatMap escapeChar ++ [quoteMark]) := by
  rw [stringText, String.toList_ofList]
  rfl

/-! ## Numbers -/

/-- What may follow a number without being read as a part of it. -/
def Boundary (rest : List Char) : Prop :=
  ∀ c ∈ rest.head?, c.isDigit = false ∧ c ≠ '.' ∧ c ≠ 'e' ∧ c ≠ 'E'

theorem takeWhile_digits {ds rest : List Char} (hds : ∀ d ∈ ds, d.isDigit = true)
    (hrest : Boundary rest) :
    (ds ++ rest).takeWhile Char.isDigit = ds ∧ (ds ++ rest).dropWhile Char.isDigit = rest := by
  rw [List.takeWhile_append_of_pos hds, List.dropWhile_append_of_pos hds]
  cases rest with
  | nil =>
      rw [List.takeWhile_nil, List.append_nil]
      exact ⟨rfl, rfl⟩
  | cons c rest =>
      have hc : ¬ c.isDigit = true := by
        rw [(hrest c rfl).1]
        exact Bool.false_ne_true
      rw [List.takeWhile_cons_of_neg hc, List.dropWhile_cons_of_neg hc, List.append_nil]
      exact ⟨rfl, rfl⟩

theorem head_toDigits_ne_zero : ∀ n : Nat, 0 < n →
    ∃ c cs, Nat.toDigits 10 n = c :: cs ∧ c ≠ '0' := by
  intro n
  induction n using Nat.strong_induction_on with
  | _ n ih =>
      intro hn
      by_cases hsmall : n < 10
      · refine ⟨n.digitChar, [], Nat.toDigits_of_lt_base hsmall, ?_⟩
        have hdigit : ∀ m < 10, 0 < m → m.digitChar ≠ '0' := by decide
        exact hdigit n hsmall hn
      · obtain ⟨c, cs, hcs, hc⟩ := ih (n / 10) (by omega) (by omega)
        refine ⟨c, cs ++ [(n % 10).digitChar], ?_, hc⟩
        rw [Nat.toDigits_of_base_le (by decide) (by omega), hcs]
        rfl

theorem digits_toDigits (n : Nat) : ∀ d ∈ Nat.toDigits 10 n, d.isDigit = true :=
  fun _ hd => Nat.isDigit_of_mem_toDigits (by decide) (by decide) hd

theorem scanDigits_toDigits (n : Nat) {rest : List Char} (hrest : Boundary rest) :
    scanDigits (Nat.toDigits 10 n ++ rest) = some (Nat.toDigits 10 n, rest) := by
  by_cases hn : n = 0
  · subst hn
    rw [Nat.toDigits_zero]
    rfl
  · obtain ⟨c, cs, hcs, hc⟩ := head_toDigits_ne_zero n (Nat.pos_of_ne_zero hn)
    have hdigits := digits_toDigits n
    obtain ⟨htake, hdrop⟩ := takeWhile_digits hdigits hrest
    rw [hcs] at hdigits htake hdrop ⊢
    rw [List.cons_append] at htake hdrop ⊢
    rw [scanDigits.eq_def]
    simp only [if_neg hc, if_pos (hdigits c List.mem_cons_self), htake, hdrop]

theorem scanFraction_boundary {rest : List Char} (hrest : Boundary rest) :
    scanFraction rest = ([], rest) := by
  cases rest with
  | nil => rfl
  | cons c rest => exact if_neg fun h => (hrest c rfl).2.1 h.1

theorem scanExponent_boundary {rest : List Char} (hrest : Boundary rest) :
    scanExponent rest = (none, rest) := by
  cases rest with
  | nil => rfl
  | cons c rest =>
      refine if_neg fun h => ?_
      rcases h.1 with he | he
      · exact (hrest c rfl).2.2.1 he
      · exact (hrest c rfl).2.2.2 he

theorem toDigits_cons (n : Nat) : ∃ c cs, Nat.toDigits 10 n = c :: cs ∧ c.isDigit = true := by
  cases hcs : Nat.toDigits 10 n with
  | nil => exact absurd hcs Nat.toDigits_ne_nil
  | cons c cs => exact ⟨c, cs, rfl, digits_toDigits n c (by rw [hcs]; exact List.mem_cons_self)⟩

theorem scanNumber_toDigits (n : Nat) {rest : List Char} (hrest : Boundary rest) :
    scanNumber (Nat.toDigits 10 n ++ rest) = some (.int n, rest)
      ∧ scanNumber ('-' :: (Nat.toDigits 10 n ++ rest)) = some (.int (-n), rest) := by
  have hdigits := scanDigits_toDigits n hrest
  have hfraction := scanFraction_boundary hrest
  have hexponent := scanExponent_boundary hrest
  obtain ⟨c, cs, hcs, hc⟩ := toDigits_cons n
  have hsign : (Nat.toDigits 10 n ++ rest).head? ≠ some '-' := by
    rw [hcs]
    intro h
    obtain rfl := Option.some.inj h
    exact absurd hc (by decide)
  constructor
  · rw [scanNumber]
    simp only [decide_eq_false hsign, Bool.false_eq_true, if_false, hdigits, hfraction, hexponent,
      Nat.ofDigitChars_ten_toDigits, Int.one_mul]
  · rw [scanNumber]
    simp only [List.head?_cons, List.tail_cons, decide_true, if_true, hdigits, hfraction,
      hexponent, Nat.ofDigitChars_ten_toDigits, Int.neg_mul, Int.one_mul]

theorem literal_append (word : String) (v : Value) (rest : List Char) :
    literal word v (word.toList ++ rest) = some (v, rest) := by
  rw [literal, if_pos (List.prefix_append _ _), List.drop_left]

theorem scanScalar_digit {c : Char} (hc : c.isDigit = true) (cs : List Char) :
    scanScalar (c :: cs) = scanNumber (c :: cs) := by
  have hne : ∀ w : Char, w.isDigit = false → w ≠ c := by
    rintro w hw rfl
    rw [hw] at hc
    cases hc
  rw [scanScalar, literal_eq_none (w := 'n') rfl (hne _ rfl),
    literal_eq_none (w := 't') rfl (hne _ rfl), literal_eq_none (w := 'f') rfl (hne _ rfl),
    literal_eq_none (w := 'N') rfl (hne _ rfl), literal_eq_none (w := 'I') rfl (hne _ rfl),
    literal_eq_none (w := '-') rfl (hne _ rfl)]
  rfl

theorem scanScalar_minus {c : Char} (hc : c.isDigit = true) (cs : List Char) :
    scanScalar ('-' :: c :: cs) = scanNumber ('-' :: c :: cs) := by
  have hword : literal "-Infinity" (.float (.infinite true)) ('-' :: c :: cs) = none := by
    refine if_neg ?_
    rintro ⟨tail, htail⟩
    have hI : 'I' = c := (List.cons.inj (List.cons.inj htail).2).1
    rw [← hI] at hc
    exact absurd hc (by decide)
  rw [scanScalar, literal_eq_none (w := 'n') rfl (by decide),
    literal_eq_none (w := 't') rfl (by decide), literal_eq_none (w := 'f') rfl (by decide),
    literal_eq_none (w := 'N') rfl (by decide), literal_eq_none (w := 'I') rfl (by decide), hword]
  rfl

/-- **A written integer is read back.** -/
theorem scanScalar_toString (i : Int) {rest : List Char} (hrest : Boundary rest) :
    scanScalar ((toString i).toList ++ rest) = some (.int i, rest) := by
  cases i with
  | ofNat n =>
      have htext : (toString (Int.ofNat n)).toList = Nat.toDigits 10 n := Nat.toList_repr
      obtain ⟨c, cs, hcs, hc⟩ := toDigits_cons n
      have hscan := (scanNumber_toDigits n hrest).1
      rw [hcs] at hscan
      rw [htext, hcs, List.cons_append, scanScalar_digit hc]
      exact hscan
  | negSucc n =>
      have htext : (toString (Int.negSucc n)).toList = '-' :: Nat.toDigits 10 (n + 1) := by
        show (String.append "-" (Nat.repr (n + 1))).toList = _
        rw [← Nat.toList_repr]
        exact String.toList_append
      obtain ⟨c, cs, hcs, hc⟩ := toDigits_cons (n + 1)
      have hscan := (scanNumber_toDigits (n + 1) hrest).2
      rw [hcs] at hscan
      rw [htext, hcs, List.cons_append, List.cons_append, scanScalar_minus hc]
      exact hscan

/-! ## Values -/

theorem boundary_cons {c : Char} (h : c = ',' ∨ c = ']' ∨ c = closeBrace) (rest : List Char) :
    Boundary (c :: rest) := by
  intro d hd
  obtain rfl := Option.some.inj hd
  rcases h with rfl | rfl | rfl <;> decide

theorem boundary_nil : Boundary [] := by
  intro c hc
  cases hc

theorem toString_cons (i : Int) :
    ∃ c cs, (toString i).toList = c :: cs ∧ (c.isDigit = true ∨ c = '-') := by
  cases i with
  | ofNat n =>
      obtain ⟨c, cs, hcs, hc⟩ := toDigits_cons n
      exact ⟨c, cs, Nat.toList_repr.trans hcs, .inl hc⟩
  | negSucc n =>
      refine ⟨'-', Nat.toDigits 10 (n + 1), ?_, .inr rfl⟩
      show (String.append "-" (Nat.repr (n + 1))).toList = _
      rw [← Nat.toList_repr]
      exact String.toList_append

/-- A character that can start the text of a value. -/
structure Starts (c : Char) : Prop where
  space   : isSpace c = false
  bracket : c ≠ ']'

theorem starts_digit {c : Char} (h : c.isDigit = true ∨ c = '-') :
    Starts c ∧ c ≠ quoteMark ∧ c ≠ '[' ∧ c ≠ openBrace := by
  rcases h with h | rfl
  · have hne : ∀ w : Char, w.isDigit = false → c ≠ w := by
      rintro w hw rfl
      rw [hw] at h
      cases h
    refine ⟨⟨?_, hne _ rfl⟩, hne _ rfl, hne _ rfl, hne _ rfl⟩
    have hnat : ∀ n : Nat, (Char.ofNat n).isDigit = false → c.toNat ≠ n := fun n hn hc =>
      hne _ hn (eq_ofNat hc)
    rw [isSpace]
    simp only [Bool.or_eq_false_iff, beq_eq_false_iff_ne]
    exact ⟨⟨⟨hnat _ rfl, hnat _ rfl⟩, hnat _ rfl⟩, hnat _ rfl⟩
  · exact ⟨⟨by decide, by decide⟩, by decide, by decide, by decide⟩

variable {gap : List Char}

variable (gap) in
theorem render_cons (j : Json) : ∃ c cs, render gap j = c :: cs ∧ Starts c := by
  cases j with
  | null => exact ⟨_, _, rfl, by decide, by decide⟩
  | bool b => cases b <;> exact ⟨_, _, rfl, by decide, by decide⟩
  | int i =>
      obtain ⟨c, cs, hcs, hc⟩ := toString_cons i
      exact ⟨c, cs, hcs, (starts_digit hc).1⟩
  | str s => exact ⟨_, _, toList_stringText s, by decide, by decide⟩
  | arr xs => exact ⟨_, _, rfl, by decide, by decide⟩
  | obj members => exact ⟨_, _, rfl, by decide, by decide⟩

variable (gap) in
theorem skipSpace_render (j : Json) (rest : List Char) :
    skipSpace (render gap j ++ rest) = render gap j ++ rest := by
  obtain ⟨c, cs, hcs, hc⟩ := render_cons gap j
  rw [hcs, List.cons_append, skipSpace_cons hc.space]

theorem length_render_pos (j : Json) : 0 < (render gap j).length := by
  obtain ⟨c, cs, hcs, -⟩ := render_cons gap j
  rw [hcs]
  exact Nat.succ_pos _

theorem parseValue_scalar {fuel : Nat} {c : Char} (hquote : c ≠ quoteMark) (hbracket : c ≠ '[')
    (hbrace : c ≠ openBrace) (cs : List Char) :
    parseValue (fuel + 1) (c :: cs) = scanScalar (c :: cs) := by
  rw [parseValue, if_neg hquote, if_neg hbracket, if_neg hbrace]

theorem renderElems_cons (x : Json) (xs : List Json) :
    renderElems gap (x :: xs)
      = render gap x ++ if xs = [] then [] else ',' :: (gap ++ renderElems gap xs) := by
  cases xs with
  | nil => rw [if_pos rfl, List.append_nil, renderElems]
  | cons y ys =>
      rw [if_neg (List.cons_ne_nil y ys)]
      show render gap x ++ ',' :: gap ++ renderElems gap (y :: ys) = _
      rw [List.append_assoc]
      rfl

theorem renderMembers_cons (k : String) (v : Json) (ms : List (String × Json)) :
    renderMembers gap ((k, v) :: ms)
      = quoteMark :: (k.toList.flatMap escapeChar ++ quoteMark :: ':' :: (gap ++ (render gap v
        ++ if ms = [] then [] else ',' :: (gap ++ renderMembers gap ms)))) := by
  cases ms with
  | nil =>
      rw [if_pos rfl, List.append_nil]
      show (stringText k).toList ++ ':' :: gap ++ render gap v = _
      rw [toList_stringText]
      simp only [List.cons_append, List.append_assoc, List.nil_append]
  | cons m ms =>
      rw [if_neg (List.cons_ne_nil m ms)]
      show (stringText k).toList ++ ':' :: gap ++ render gap v ++ ',' :: gap
        ++ renderMembers gap (m :: ms) = _
      rw [toList_stringText]
      simp only [List.cons_append, List.append_assoc, List.nil_append]

theorem parseElems_step {fuel : Nat} {x : Json} {tail : List Char}
    (hx : parseValue fuel (render gap x ++ tail) = some (value x, tail)) :
    parseElems (fuel + 1) (render gap x ++ tail)
      = match skipSpace tail with
        | [] => none
        | d :: rest =>
            if d = ',' then
              (parseElems fuel (skipSpace rest)).map fun p => (value x :: p.1, p.2)
            else if d = ']' then some ([value x], rest)
            else none := by
  rewrite [parseElems, hx]
  rfl

theorem parseMembers_step (hgap : ∀ c ∈ gap, isSpace c = true) {fuel : Nat} (k : String)
    {v : Json} {tail : List Char}
    (hv : parseValue fuel (render gap v ++ tail) = some (value v, tail)) :
    parseMembers (fuel + 1) (quoteMark :: (k.toList.flatMap escapeChar
        ++ quoteMark :: ':' :: (gap ++ (render gap v ++ tail))))
      = match skipSpace tail with
        | [] => none
        | d :: rest =>
            if d = ',' then
              (parseMembers fuel (skipSpace rest)).map fun p => ((k, value v) :: p.1, p.2)
            else if d = closeBrace then some ([(k, value v)], rest)
            else none := by
  have hcolon : skipSpace (':' :: (gap ++ (render gap v ++ tail)))
      = ':' :: (gap ++ (render gap v ++ tail)) := skipSpace_cons (by decide) _
  have hvalue : skipSpace (gap ++ (render gap v ++ tail)) = render gap v ++ tail := by
    rw [skipSpace_append hgap, skipSpace_render]
  rewrite [parseMembers, if_pos rfl, scanString_escaped]
  simp only [hcolon, if_pos, hvalue]
  rewrite [hv]
  rfl

variable (gap) in
/-- With this much fuel, texts that are not longer are read back. -/
structure Reads (fuel : Nat) : Prop where
  value   : ∀ (j : Json) (rest : List Char), (render gap j).length ≤ fuel → Boundary rest →
    parseValue fuel (render gap j ++ rest) = some (value j, rest)
  elems   : ∀ (x : Json) (xs : List Json) (rest : List Char),
    (renderElems gap (x :: xs)).length + 1 ≤ fuel →
    parseElems fuel (renderElems gap (x :: xs) ++ ']' :: rest) = some (values (x :: xs), rest)
  members : ∀ (k : String) (v : Json) (ms : List (String × Json)) (rest : List Char),
    (renderMembers gap ((k, v) :: ms)).length + 1 ≤ fuel →
    parseMembers fuel (renderMembers gap ((k, v) :: ms) ++ closeBrace :: rest)
      = some (memberValues ((k, v) :: ms), rest)

section
variable {fuel : Nat} (ih : Reads gap fuel)
include ih

theorem parseValue_arr (x : Json) (xs : List Json) (rest : List Char)
    (hfuel : (render gap (.arr (x :: xs))).length ≤ fuel + 1) :
    parseValue (fuel + 1) (render gap (.arr (x :: xs)) ++ rest)
      = some (value (.arr (x :: xs)), rest) := by
  have hlength : (renderElems gap (x :: xs)).length + 1 ≤ fuel := by
    simp only [render, List.length_cons, List.length_append, List.length_nil] at hfuel
    omega
  have helems := ih.elems x xs rest hlength
  obtain ⟨c, cs, hcs, hc⟩ := render_cons gap x
  have hhead : ∃ cs', renderElems gap (x :: xs) ++ ']' :: rest = c :: cs' := by
    rw [renderElems_cons, hcs]
    exact ⟨_, rfl⟩
  obtain ⟨cs', hcs'⟩ := hhead
  have htext : render gap (.arr (x :: xs)) ++ rest
      = '[' :: (renderElems gap (x :: xs) ++ ']' :: rest) := by
    simp only [render, List.cons_append, List.append_assoc, List.nil_append]
  rw [htext, parseValue, if_neg (by decide), if_pos rfl]
  rw [hcs'] at helems ⊢
  rw [skipSpace_cons hc.space]
  simp only [if_neg hc.bracket, helems, Option.map_some, value]

theorem parseValue_obj (k : String) (v : Json) (ms : List (String × Json)) (rest : List Char)
    (hfuel : (render gap (.obj ((k, v) :: ms))).length ≤ fuel + 1) :
    parseValue (fuel + 1) (render gap (.obj ((k, v) :: ms)) ++ rest)
      = some (value (.obj ((k, v) :: ms)), rest) := by
  have hlength : (renderMembers gap ((k, v) :: ms)).length + 1 ≤ fuel := by
    simp only [render, List.length_cons, List.length_append, List.length_nil] at hfuel
    omega
  have hmembers := ih.members k v ms rest hlength
  have hhead : ∃ cs', renderMembers gap ((k, v) :: ms) ++ closeBrace :: rest
      = quoteMark :: cs' := by
    rw [renderMembers_cons]
    exact ⟨_, rfl⟩
  obtain ⟨cs', hcs'⟩ := hhead
  have htext : render gap (.obj ((k, v) :: ms)) ++ rest
      = openBrace :: (renderMembers gap ((k, v) :: ms) ++ closeBrace :: rest) := by
    simp only [render, List.cons_append, List.append_assoc, List.nil_append]
  have hquote : quoteMark ≠ closeBrace := by decide
  rw [htext, parseValue, if_neg (by decide), if_neg (by decide), if_pos rfl]
  rw [hcs'] at hmembers ⊢
  rw [skipSpace_cons (by decide)]
  simp only [if_neg hquote, hmembers, Option.map_some, value]

theorem parseValue_succ (j : Json) (rest : List Char)
    (hfuel : (render gap j).length ≤ fuel + 1) (hrest : Boundary rest) :
    parseValue (fuel + 1) (render gap j ++ rest) = some (value j, rest) := by
  cases j with
  | null =>
      show parseValue (fuel + 1) ('n' :: _) = _
      rw [parseValue_scalar (by decide) (by decide) (by decide)]
      show scanScalar ("null".toList ++ rest) = _
      rw [scanScalar, literal_append]
      rfl
  | bool b =>
      cases b with
      | true =>
          show parseValue (fuel + 1) ('t' :: _) = _
          rw [parseValue_scalar (by decide) (by decide) (by decide)]
          show scanScalar ("true".toList ++ rest) = _
          rw [scanScalar, literal_append]
          rfl
      | false =>
          show parseValue (fuel + 1) ('f' :: _) = _
          rw [parseValue_scalar (by decide) (by decide) (by decide)]
          show scanScalar ("false".toList ++ rest) = _
          rw [scanScalar, literal_append]
          rfl
  | int i =>
      obtain ⟨c, cs, hcs, hc⟩ := toString_cons i
      obtain ⟨-, hquote, hbracket, hbrace⟩ := starts_digit hc
      have hscan := scanScalar_toString i hrest
      show parseValue (fuel + 1) ((toString i).toList ++ rest) = _
      rw [hcs] at hscan ⊢
      rw [List.cons_append, parseValue_scalar hquote hbracket hbrace]
      exact hscan
  | str s =>
      have htext : render gap (.str s) ++ rest
          = quoteMark :: (s.toList.flatMap escapeChar ++ quoteMark :: rest) := by
        simp only [render, toList_stringText, List.cons_append, List.append_assoc,
          List.nil_append]
      rw [htext, parseValue, if_pos rfl, scanString_escaped]
      rfl
  | arr xs =>
      cases xs with
      | nil =>
          show parseValue (fuel + 1) ('[' :: ']' :: rest) = _
          have hclose : skipSpace (']' :: rest) = ']' :: rest := skipSpace_cons (by decide) _
          rewrite [parseValue, if_neg (by decide), if_pos rfl, hclose]
          rfl
      | cons x xs => exact parseValue_arr ih x xs rest hfuel
  | obj members =>
      cases members with
      | nil =>
          show parseValue (fuel + 1) (openBrace :: closeBrace :: rest) = _
          have hclose : skipSpace (closeBrace :: rest) = closeBrace :: rest :=
            skipSpace_cons (by decide) _
          rewrite [parseValue, if_neg (by decide), if_neg (by decide), if_pos rfl, hclose]
          rfl
      | cons m ms => exact parseValue_obj ih m.1 m.2 ms rest hfuel

theorem parseElems_succ (hgap : ∀ c ∈ gap, isSpace c = true) (x : Json) (xs : List Json)
    (rest : List Char) (hfuel : (renderElems gap (x :: xs)).length + 1 ≤ fuel + 1) :
    parseElems (fuel + 1) (renderElems gap (x :: xs) ++ ']' :: rest)
      = some (values (x :: xs), rest) := by
  cases xs with
  | nil =>
      have hx := ih.value x (']' :: rest) (Nat.le_of_succ_le_succ hfuel)
        (boundary_cons (.inr (.inl rfl)) rest)
      show parseElems (fuel + 1) (render gap x ++ ']' :: rest) = _
      rewrite [parseElems_step hx, skipSpace_cons (by decide)]
      rfl
  | cons y ys =>
      rw [renderElems_cons, if_neg (List.cons_ne_nil y ys)] at hfuel ⊢
      simp only [List.length_append, List.length_cons] at hfuel
      have hx := ih.value x (',' :: (gap ++ (renderElems gap (y :: ys) ++ ']' :: rest)))
        (by omega) (boundary_cons (.inl rfl) _)
      have hxs := ih.elems y ys rest (by omega)
      obtain ⟨c, cs, hcs, hc⟩ := render_cons gap y
      have hhead : skipSpace (gap ++ (renderElems gap (y :: ys) ++ ']' :: rest))
          = renderElems gap (y :: ys) ++ ']' :: rest := by
        rw [skipSpace_append hgap, renderElems_cons, hcs]
        exact skipSpace_cons hc.space _
      simp only [List.append_assoc, List.cons_append]
      rw [parseElems_step hx, skipSpace_cons (by decide)]
      simp only [if_pos, hhead, hxs, Option.map_some, values]

theorem parseMembers_succ (hgap : ∀ c ∈ gap, isSpace c = true) (k : String) (v : Json)
    (ms : List (String × Json)) (rest : List Char)
    (hfuel : (renderMembers gap ((k, v) :: ms)).length + 1 ≤ fuel + 1) :
    parseMembers (fuel + 1) (renderMembers gap ((k, v) :: ms) ++ closeBrace :: rest)
      = some (memberValues ((k, v) :: ms), rest) := by
  cases ms with
  | nil =>
      rw [renderMembers_cons, if_pos rfl, List.append_nil] at hfuel ⊢
      simp only [List.length_append, List.length_cons] at hfuel
      have hv := ih.value v (closeBrace :: rest) (by omega)
        (boundary_cons (.inr (.inr rfl)) rest)
      simp only [List.cons_append, List.append_assoc]
      rewrite [parseMembers_step hgap k hv, skipSpace_cons (by decide)]
      rfl
  | cons m ms =>
      obtain ⟨l, w⟩ := m
      rw [renderMembers_cons, if_neg (List.cons_ne_nil _ _)] at hfuel ⊢
      simp only [List.length_append, List.length_cons] at hfuel
      have hv := ih.value v
        (',' :: (gap ++ (renderMembers gap ((l, w) :: ms) ++ closeBrace :: rest))) (by omega)
        (boundary_cons (.inl rfl) _)
      have hms := ih.members l w ms rest (by omega)
      have hhead : skipSpace (gap ++ (renderMembers gap ((l, w) :: ms) ++ closeBrace :: rest))
          = renderMembers gap ((l, w) :: ms) ++ closeBrace :: rest := by
        rw [skipSpace_append hgap, renderMembers_cons]
        exact skipSpace_cons (by decide) _
      simp only [List.cons_append, List.append_assoc]
      rw [parseMembers_step hgap k hv, skipSpace_cons (by decide)]
      simp only [if_pos, hhead, hms, Option.map_some, memberValues]

end

theorem reads (hgap : ∀ c ∈ gap, isSpace c = true) (fuel : Nat) : Reads gap fuel := by
  induction fuel with
  | zero =>
      refine ⟨?_, ?_, ?_⟩
      · intro j rest hfuel
        exact absurd (length_render_pos j) (Nat.not_lt.mpr hfuel)
      · intro x xs rest hfuel
        exact absurd hfuel (Nat.not_succ_le_zero _)
      · intro k v ms rest hfuel
        exact absurd hfuel (Nat.not_succ_le_zero _)
  | succ fuel ih =>
      exact ⟨parseValue_succ ih, parseElems_succ ih hgap, parseMembers_succ ih hgap⟩

/-! ## Texts -/

/-- **A written text decodes to the value it was written for.** -/
theorem decode_render (hgap : ∀ c ∈ gap, isSpace c = true) (j : Json) :
    decode (String.ofList (render gap j)) = some (value j) := by
  have hread := (reads hgap ((render gap j).length + 1)).value j [] (Nat.le_succ _) boundary_nil
  have hspace := skipSpace_render gap j []
  rw [List.append_nil] at hread hspace
  rw [decode, String.toList_ofList]
  simp only [hspace, hread]
  rfl

theorem decode_dumps (j : Json) : decode (dumps j) = some (value j) := by
  have hspace : ∀ c ∈ [' '], isSpace c = true := by
    intro c hc
    rw [List.mem_singleton.mp hc]
    decide
  exact decode_render hspace j

mutual

theorem value_injective : ∀ j j' : Json, value j = value j' → j = j'
  | .null, j', h => by
      cases j' <;> simp only [value, reduceCtorEq] at h
      rfl
  | .bool b, j', h => by
      cases j' <;> simp only [value, reduceCtorEq, Value.bool.injEq] at h
      rw [h]
  | .int i, j', h => by
      cases j' <;> simp only [value, reduceCtorEq, Value.int.injEq] at h
      rw [h]
  | .str s, j', h => by
      cases j' <;> simp only [value, reduceCtorEq, Value.str.injEq] at h
      rw [h]
  | .arr xs, j', h => by
      cases j' <;> simp only [value, reduceCtorEq, Value.arr.injEq] at h
      rw [values_injective _ _ h]
  | .obj ms, j', h => by
      cases j' <;> simp only [value, reduceCtorEq, Value.obj.injEq] at h
      rw [memberValues_injective _ _ h]

theorem values_injective : ∀ xs ys : List Json, values xs = values ys → xs = ys
  | [], [], _ => rfl
  | x :: xs, y :: ys, h => by
      rw [values, values, List.cons.injEq] at h
      rw [value_injective x y h.1, values_injective xs ys h.2]

theorem memberValues_injective :
    ∀ ms ns : List (String × Json), memberValues ms = memberValues ns → ms = ns
  | [], [], _ => rfl
  | (k, v) :: ms, (l, w) :: ns, h => by
      rw [memberValues, memberValues, List.cons.injEq, Prod.mk.injEq] at h
      rw [h.1.1, value_injective v w h.1.2, memberValues_injective ms ns h.2]

end

mutual

theorem toList_compact : ∀ j : Json, (compact j).toList = render [] j
  | .null => rfl
  | .bool true => rfl
  | .bool false => rfl
  | .int _ => rfl
  | .str _ => rfl
  | .arr xs => by
      rw [compact, render, String.toList_append, String.toList_append, toList_compactElems xs]
      rfl
  | .obj ms => by
      rw [compact, render, String.toList_append, String.toList_append, toList_compactMembers ms,
        String.toList_ofList, String.toList_ofList]
      rfl

theorem toList_compactElems : ∀ xs : List Json, (compactElems xs).toList = renderElems [] xs
  | [] => rfl
  | [x] => toList_compact x
  | x :: y :: ys => by
      show (compact x ++ "," ++ compactElems (y :: ys)).toList = _
      rw [String.toList_append, String.toList_append, toList_compact x,
        toList_compactElems (y :: ys)]
      rfl

theorem toList_compactMembers :
    ∀ ms : List (String × Json), (compactMembers ms).toList = renderMembers [] ms
  | [] => rfl
  | [(k, v)] => by
      show (stringText k ++ ":" ++ compact v).toList = _
      rw [String.toList_append, String.toList_append, toList_compact v]
      rfl
  | (k, v) :: (l, w) :: ms => by
      show (stringText k ++ ":" ++ compact v ++ "," ++ compactMembers ((l, w) :: ms)).toList = _
      rw [String.toList_append, String.toList_append, String.toList_append, String.toList_append,
        toList_compact v, toList_compactMembers ((l, w) :: ms)]
      rfl

end

/-- **Different values have different compact texts.** -/
theorem compact_injective {j j' : Json} (h : compact j = compact j') : j = j' := by
  have hlists : render [] j = render [] j' := by
    rw [← toList_compact, ← toList_compact, h]
  have hspace : ∀ c ∈ ([] : List Char), isSpace c = true := fun c hc =>
    absurd hc List.not_mem_nil
  have hj := decode_render hspace j
  rw [hlists, decode_render hspace j', Option.some.injEq] at hj
  exact value_injective j j' hj.symm

end Json
