import MandateGateway.Lib.Exceptions
import Mathlib.Data.List.Basic

/-! # Base64

    The standard encoding of bytes as text, and the lenient decoder: it skips
    characters outside the alphabet and stops at complete padding.  What was
    encoded is decoded again (`decode_encode`). -/

namespace Base64

/-- The character of a value below 64. -/
def digit (n : Nat) : Char :=
  if n < 26 then Char.ofNat (65 + n)
  else if n < 52 then Char.ofNat (71 + n)
  else if n < 62 then Char.ofNat (n - 4)
  else if n = 62 then '+'
  else '/'

def value (c : Char) : Option Nat :=
  let n := c.toNat
  if 65 ≤ n ∧ n ≤ 90 then some (n - 65)
  else if 97 ≤ n ∧ n ≤ 122 then some (n - 71)
  else if 48 ≤ n ∧ n ≤ 57 then some (n + 4)
  else if c = '+' then some 62
  else if c = '/' then some 63
  else none

def encodeChars : List UInt8 → List Char
  | [] => []
  | [a] => [digit (a.toNat / 4), digit (a.toNat % 4 * 16), '=', '=']
  | [a, b] =>
      [digit (a.toNat / 4), digit (a.toNat % 4 * 16 + b.toNat / 16), digit (b.toNat % 16 * 4), '=']
  | a :: b :: c :: rest =>
      digit (a.toNat / 4) :: digit (a.toNat % 4 * 16 + b.toNat / 16)
        :: digit (b.toNat % 16 * 4 + c.toNat / 64) :: digit (c.toNat % 64) :: encodeChars rest

/-- `base64.b64encode(data).decode("ascii")`. -/
def encode (data : List UInt8) : String := String.ofList (encodeChars data)

/-- The place in a group of four characters, with the bits left over from the
    character before it. -/
inductive Place where
  | first
  | second (left : Nat)
  | third (left : Nat)
  | fourth (left : Nat)

def Place.quadPos : Place → Nat
  | .first => 0
  | .second _ => 1
  | .third _ => 2
  | .fourth _ => 3

/-- The decoder's loop: `pads` are the padding characters seen in a row, and
    `written` the bytes written so far. -/
def scan : Place → (pads written : Nat) → List Char → Except String (List UInt8)
  | .first, _, _, [] => .ok []
  | .second _, _, written, [] =>
      .error (s!"Invalid base64-encoded string: number of data characters "
        ++ s!"({written / 3 * 4 + 1}) cannot be 1 more than a multiple of 4")
  | .third _, _, _, [] => .error "Incorrect padding"
  | .fourth _, _, _, [] => .error "Incorrect padding"
  | place, pads, written, c :: cs =>
      if c = '=' then
        if 2 ≤ place.quadPos then
          if 4 ≤ place.quadPos + (pads + 1) then .ok [] else scan place (pads + 1) written cs
        else scan place pads written cs
      else match value c with
      | none => scan place pads written cs
      | some v =>
          match place with
          | .first => scan (.second v) 0 written cs
          | .second left =>
              (scan (.third (v % 16)) 0 (written + 1) cs).map (UInt8.ofNat (left * 4 + v / 16) :: ·)
          | .third left =>
              (scan (.fourth (v % 4)) 0 (written + 1) cs).map (UInt8.ofNat (left * 16 + v / 4) :: ·)
          | .fourth left =>
              (scan .first 0 (written + 1) cs).map (UInt8.ofNat (left * 64 + v) :: ·)

/-- `base64.b64decode(text)`, the text being ASCII. -/
def decode (text : String) : Except String (List UInt8) := scan .first 0 0 text.toList

/-! ## The alphabet -/

theorem value_digit : ∀ n < 64, value (digit n) = some n := by
  decide

theorem digit_ne_pad : ∀ n < 64, digit n ≠ '=' := by
  decide

theorem digit_ascii : ∀ n < 64, (digit n).toNat < 128 := by
  decide

theorem encodeChars_ascii (data : List UInt8) : ∀ c ∈ encodeChars data, c.toNat < 128 := by
  have hpad : ('=' : Char).toNat < 128 := by decide
  induction data using encodeChars.induct with
  | case1 => exact List.forall_mem_nil _
  | case2 a =>
      have ha := a.toNat_lt
      simp only [encodeChars, List.forall_mem_cons]
      exact ⟨digit_ascii _ (by omega), digit_ascii _ (by omega), hpad, hpad, List.forall_mem_nil _⟩
  | case3 a b =>
      have ha := a.toNat_lt
      have hb := b.toNat_lt
      simp only [encodeChars, List.forall_mem_cons]
      exact ⟨digit_ascii _ (by omega), digit_ascii _ (by omega), digit_ascii _ (by omega), hpad,
        List.forall_mem_nil _⟩
  | case4 a b c rest ih =>
      have ha := a.toNat_lt
      have hb := b.toNat_lt
      have hc := c.toNat_lt
      simp only [encodeChars, List.forall_mem_cons]
      exact ⟨digit_ascii _ (by omega), digit_ascii _ (by omega), digit_ascii _ (by omega),
        digit_ascii _ (by omega), ih⟩

theorem length_encodeChars (data : List UInt8) :
    (encodeChars data).length = (data.length + 2) / 3 * 4 := by
  induction data using encodeChars.induct with
  | case1 => rfl
  | case2 a => simp [encodeChars]
  | case3 a b => simp [encodeChars]
  | case4 a b c rest ih =>
      simp only [encodeChars, List.length_cons, ih]
      omega

/-! ## What was encoded is decoded again -/

section
variable {pads written : Nat} {cs : List Char}

theorem scan_digit_first {v : Nat} (hv : v < 64) :
    scan .first pads written (digit v :: cs) = scan (.second v) 0 written cs := by
  rw [scan, if_neg (digit_ne_pad v hv), value_digit v hv]

theorem scan_digit_second {left v : Nat} (hv : v < 64) :
    scan (.second left) pads written (digit v :: cs)
      = (scan (.third (v % 16)) 0 (written + 1) cs).map
        (UInt8.ofNat (left * 4 + v / 16) :: ·) := by
  rw [scan, if_neg (digit_ne_pad v hv), value_digit v hv]

theorem scan_digit_third {left v : Nat} (hv : v < 64) :
    scan (.third left) pads written (digit v :: cs)
      = (scan (.fourth (v % 4)) 0 (written + 1) cs).map
        (UInt8.ofNat (left * 16 + v / 4) :: ·) := by
  rw [scan, if_neg (digit_ne_pad v hv), value_digit v hv]

theorem scan_digit_fourth {left v : Nat} (hv : v < 64) :
    scan (.fourth left) pads written (digit v :: cs)
      = (scan .first 0 (written + 1) cs).map (UInt8.ofNat (left * 64 + v) :: ·) := by
  rw [scan, if_neg (digit_ne_pad v hv), value_digit v hv]

theorem ofNat_eq {n : Nat} {b : UInt8} (h : n = b.toNat) : UInt8.ofNat n = b := by
  rw [h, UInt8.ofNat_toNat]

theorem scan_encodeChars (data : List UInt8) :
    ∀ pads written, scan .first pads written (encodeChars data) = .ok data := by
  induction data using encodeChars.induct with
  | case1 =>
      intro pads written
      rfl
  | case2 a =>
      intro pads written
      have ha := a.toNat_lt
      rw [encodeChars, scan_digit_first (by omega), scan_digit_second (by omega),
        ofNat_eq (show a.toNat / 4 * 4 + a.toNat % 4 * 16 / 16 = a.toNat by omega)]
      rfl
  | case3 a b =>
      intro pads written
      have ha := a.toNat_lt
      have hb := b.toNat_lt
      rw [encodeChars, scan_digit_first (by omega), scan_digit_second (by omega),
        scan_digit_third (by omega),
        ofNat_eq (show a.toNat / 4 * 4 + (a.toNat % 4 * 16 + b.toNat / 16) / 16 = a.toNat by omega),
        ofNat_eq (show (a.toNat % 4 * 16 + b.toNat / 16) % 16 * 16 + b.toNat % 16 * 4 / 4 = b.toNat
          by omega)]
      rfl
  | case4 a b c rest ih =>
      intro pads written
      have ha := a.toNat_lt
      have hb := b.toNat_lt
      have hc := c.toNat_lt
      rw [encodeChars, scan_digit_first (by omega), scan_digit_second (by omega),
        scan_digit_third (by omega), scan_digit_fourth (by omega), ih,
        ofNat_eq (show a.toNat / 4 * 4 + (a.toNat % 4 * 16 + b.toNat / 16) / 16 = a.toNat by omega),
        ofNat_eq (show (a.toNat % 4 * 16 + b.toNat / 16) % 16 * 16
          + (b.toNat % 16 * 4 + c.toNat / 64) / 4 = b.toNat by omega),
        ofNat_eq (show (b.toNat % 16 * 4 + c.toNat / 64) % 4 * 64 + c.toNat % 64 = c.toNat
          by omega)]
      rfl

end

/-- **What was encoded is decoded again.** -/
theorem decode_encode (data : List UInt8) : decode (encode data) = .ok data := by
  rw [decode, encode, String.toList_ofList]
  exact scan_encodeChars data 0 0

/-! ## Texts without padding -/

def inAlphabet (c : Char) : Bool := (value c).isSome

/-- A character outside the alphabet is skipped. -/
theorem scan_skip {c : Char} {cs : List Char} (hc : c ≠ '=') (hvalue : value c = none)
    (place : Place) (pads written : Nat) :
    scan place pads written (c :: cs) = scan place pads written cs := by
  cases place <;> rw [scan, if_neg hc, hvalue]

/-- A character of the alphabet moves the decoder to the next place. -/
theorem scan_next {c : Char} {cs : List Char} {v : Nat} (hc : c ≠ '=') (hvalue : value c = some v)
    {place : Place} {pads written : Nat} {data : List UInt8}
    (h : scan place pads written (c :: cs) = .ok data) :
    ∃ place' written' data', scan place' 0 written' cs = .ok data'
      ∧ (place.quadPos + 1) % 4 = place'.quadPos := by
  cases place with
  | first =>
      rw [scan, if_neg hc, hvalue] at h
      exact ⟨_, _, _, h, rfl⟩
  | second left =>
      rw [scan, if_neg hc, hvalue] at h
      obtain ⟨rest, hrest, -⟩ := Exceptions.map_eq_ok_iff.mp h
      exact ⟨_, _, _, hrest, rfl⟩
  | third left =>
      rw [scan, if_neg hc, hvalue] at h
      obtain ⟨rest, hrest, -⟩ := Exceptions.map_eq_ok_iff.mp h
      exact ⟨_, _, _, hrest, rfl⟩
  | fourth left =>
      rw [scan, if_neg hc, hvalue] at h
      obtain ⟨rest, hrest, -⟩ := Exceptions.map_eq_ok_iff.mp h
      exact ⟨_, _, _, hrest, by simp [Place.quadPos]⟩

theorem scan_unpadded {cs : List Char} (hpad : '=' ∉ cs) :
    ∀ place pads written data, scan place pads written cs = .ok data →
      (place.quadPos + cs.countP inAlphabet) % 4 = 0 := by
  induction cs with
  | nil =>
      intro place pads written data h
      cases place with
      | first => rfl
      | second left => cases h
      | third left => cases h
      | fourth left => cases h
  | cons c cs ih =>
      intro place pads written data h
      rw [List.mem_cons, not_or] at hpad
      have hc : c ≠ '=' := fun h => hpad.1 h.symm
      cases hvalue : value c with
      | none =>
          rw [List.countP_cons_of_neg (by simp [inAlphabet, hvalue])]
          rw [scan_skip hc hvalue] at h
          exact ih hpad.2 place pads written data h
      | some v =>
          rw [List.countP_cons_of_pos (by simp [inAlphabet, hvalue])]
          obtain ⟨place', written', data', hrest, hplace⟩ := scan_next hc hvalue h
          have hgroups := ih hpad.2 place' 0 written' data' hrest
          omega

/-- **A text without padding is decoded only if its characters of the alphabet
    make whole groups of four.** -/
theorem decode_unpadded {text : String} {data : List UInt8} (hpad : '=' ∉ text.toList)
    (h : decode text = .ok data) : text.toList.countP inAlphabet % 4 = 0 := by
  have hgroups := scan_unpadded hpad .first 0 0 data h
  rwa [show Place.first.quadPos = 0 from rfl, Nat.zero_add] at hgroups

example : encode [0xFF, 0x00, 0x10, 0x41] = "/wAQQQ==" := by decide

end Base64
