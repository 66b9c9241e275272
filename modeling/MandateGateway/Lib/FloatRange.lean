import MandateGateway.Lib.Binary64
import Mathlib.Algebra.Order.Field.Power
import Mathlib.Data.Rat.Cast.Order
import Mathlib.Tactic.Linarith
import Mathlib.Tactic.NormNum
import Mathlib.Tactic.Positivity
import Mathlib.Tactic.Ring

/-! # The range of the 64-bit format

    A rational is out of the range of the format exactly when it is as large as
    the midpoint of the largest number and the next power of two, the tie
    included: the tie goes to the even side, which is out of range. -/

namespace Binary64

/-- The midpoint of the largest number and `2 ^ 1024`. -/
def limit : Nat := 2 ^ 1024 - 2 ^ 970

theorem roundDiv_lt_iff {n d j : Nat} (hd : 0 < d) :
    roundDiv n d < 2 * j + 2 ↔ 2 * n < (4 * j + 3) * d := by
  have hn : d * (n / d) + n % d = n := Nat.div_add_mod n d
  have hr : n % d < d := Nat.mod_lt n hd
  rw [roundDiv]
  generalize n / d = q at hn
  generalize n % d = r at hn hr
  -- below `2 j + 2` or not, as the quotient is at most `2 j + 1` or not
  rcases Nat.lt_or_ge q (2 * j + 1) with hq | hq
  · have hmul : d * (q + 1) ≤ d * (2 * j + 1) := Nat.mul_le_mul_left d hq
    have hlow : d * (q + 1) = d * q + d := Nat.mul_succ d q
    have hhigh : d * (2 * j + 1) = 2 * (d * j) + d := by ring
    have hgoal : (4 * j + 3) * d = 4 * (d * j) + 3 * d := by ring
    refine iff_of_true ?_ (by omega)
    split
    · omega
    split
    · omega
    · omega
  rcases Nat.lt_or_ge q (2 * j + 2) with hq' | hq'
  · obtain rfl : q = 2 * j + 1 := by omega
    have hhigh : d * (2 * j + 1) = 2 * (d * j) + d := by ring
    have hgoal : (4 * j + 3) * d = 4 * (d * j) + 3 * d := by ring
    split
    · exact iff_of_true (by omega) (by omega)
    split
    · exact iff_of_false (by omega) (by omega)
    · exact iff_of_false (by omega) (by omega)
  · have hmul : d * (2 * j + 2) ≤ d * q := Nat.mul_le_mul_left d hq'
    have hhigh : d * (2 * j + 2) = 2 * (d * j) + 2 * d := by ring
    have hgoal : (4 * j + 3) * d = 4 * (d * j) + 3 * d := by ring
    refine iff_of_false ?_ (by omega)
    split
    · omega
    split
    · omega
    · omega

theorem roundDiv_le_of_le {n d k : Nat} (hd : 0 < d) (h : n ≤ k * d) : roundDiv n d ≤ k := by
  have hn : d * (n / d) + n % d = n := Nat.div_add_mod n d
  have hr : n % d < d := Nat.mod_lt n hd
  have hq : n / d ≤ k := Nat.div_le_of_le_mul (by rwa [Nat.mul_comm d k])
  rw [roundDiv]
  rcases Nat.lt_or_ge (n / d) k with hlt | hge
  · split
    · omega
    split
    · omega
    · omega
  · -- the quotient is all of it
    have hk : n / d = k := le_antisymm hq hge
    rw [hk, Nat.mul_comm d k] at hn
    have hzero : n % d = 0 := by omega
    rw [hzero, if_pos (by omega)]
    exact hq

theorem le_roundDiv_of_le {n d k : Nat} (hd : 0 < d) (h : k * d ≤ n) : k ≤ roundDiv n d := by
  have hq : k ≤ n / d := (Nat.le_div_iff_mul_le hd).mpr h
  rw [roundDiv]
  split
  · exact hq
  split
  · exact Nat.le_succ_of_le hq
  · exact Nat.le_add_right_of_le hq

/-! ## Scaling -/

theorem scale_snd_pos {b n d : Nat} (hb : 0 < b) (hd : 0 < d) (e : Int) :
    0 < (scale b e n d).2 := by
  rw [scale]
  split
  · exact hd
  · exact Nat.mul_pos hd (Nat.pow_pos hb)

/-- The scaled fraction. -/
theorem scale_eq {b : Nat} (hb : 0 < b) (e : Int) (n d : Nat) :
    ((scale b e n d).1 : ℚ) / (scale b e n d).2 = n / d * (b : ℚ) ^ e := by
  have hb' : (b : ℚ) ≠ 0 := Nat.cast_ne_zero.mpr hb.ne'
  rw [scale]
  split
  · rename_i he
    obtain ⟨k, rfl⟩ := Int.eq_ofNat_of_zero_le he
    dsimp only
    rw [Int.toNat_natCast, Nat.cast_mul, Nat.cast_pow, zpow_natCast]
    ring
  · rename_i he
    obtain ⟨k, hk⟩ := Int.eq_ofNat_of_zero_le (show 0 ≤ -e by omega)
    obtain rfl : e = -(k : ℤ) := by omega
    dsimp only
    rw [neg_neg, Int.toNat_natCast, Nat.cast_mul, Nat.cast_pow, zpow_neg, zpow_natCast,
      div_mul_eq_div_div, div_eq_mul_inv (n / d : ℚ)]

theorem scale_neg_reaches_iff {n d : Nat} (hd : 0 < d) (e : Int) :
    (scale 2 (-e) n d).2 ≤ (scale 2 (-e) n d).1 ↔ (2 : ℚ) ^ e ≤ n / d := by
  have hpos : (0 : ℚ) < (scale 2 (-e) n d).2 := Nat.cast_pos.mpr (scale_snd_pos (by decide) hd _)
  have hpow : (0 : ℚ) < 2 ^ e := by positivity
  rw [← Nat.cast_le (α := ℚ), ← one_le_div hpos, scale_eq (by decide), Nat.cast_ofNat, zpow_neg,
    ← div_eq_mul_inv, one_le_div hpow]

theorem exponent_spec {n d : Nat} (hn : 0 < n) (hd : 0 < d) :
    (2 : ℚ) ^ exponent 2 (n.log2 - d.log2) n d ≤ n / d
      ∧ (n / d : ℚ) < 2 ^ (exponent 2 (n.log2 - d.log2) n d + 1) := by
  have hd' : (0 : ℚ) < d := Nat.cast_pos.mpr hd
  have hnlow : (2 : ℚ) ^ (n.log2 : ℤ) ≤ n := by
    rw [zpow_natCast]
    exact_mod_cast Nat.log2_self_le hn.ne'
  have hnhigh : (n : ℚ) < 2 ^ ((n.log2 : ℤ) + 1) := by
    exact_mod_cast Nat.lt_log2_self (n := n)
  have hdlow : (2 : ℚ) ^ (d.log2 : ℤ) ≤ d := by
    rw [zpow_natCast]
    exact_mod_cast Nat.log2_self_le hd.ne'
  have hdhigh : (d : ℚ) < 2 ^ ((d.log2 : ℤ) + 1) := by
    exact_mod_cast Nat.lt_log2_self (n := d)
  -- the estimate is never too low, and at most one too high
  have hupper : (n / d : ℚ) < 2 ^ ((n.log2 : ℤ) - d.log2 + 1) := by
    rw [div_lt_iff₀ hd']
    calc (n : ℚ) < 2 ^ ((n.log2 : ℤ) + 1) := hnhigh
      _ = 2 ^ ((n.log2 : ℤ) - d.log2 + 1) * 2 ^ (d.log2 : ℤ) := by
        rw [← zpow_add₀ two_ne_zero]
        congr 1
        omega
      _ ≤ 2 ^ ((n.log2 : ℤ) - d.log2 + 1) * d := by gcongr
  have hlower : (2 : ℚ) ^ ((n.log2 : ℤ) - d.log2 - 1) ≤ n / d := by
    rw [le_div_iff₀ hd']
    calc (2 : ℚ) ^ ((n.log2 : ℤ) - d.log2 - 1) * d
        ≤ 2 ^ ((n.log2 : ℤ) - d.log2 - 1) * 2 ^ ((d.log2 : ℤ) + 1) := by gcongr
      _ = 2 ^ (n.log2 : ℤ) := by
        rw [← zpow_add₀ two_ne_zero]
        congr 1
        omega
      _ ≤ n := hnlow
  have hover : ¬ (2 : ℚ) ^ ((n.log2 : ℤ) - d.log2 + 1) ≤ n / d := not_le.mpr hupper
  rw [exponent]
  simp only [decide_eq_true_eq, scale_neg_reaches_iff hd, if_neg hover]
  by_cases hreaches : (2 : ℚ) ^ ((n.log2 : ℤ) - d.log2) ≤ n / d
  · rw [if_pos hreaches]
    exact ⟨hreaches, hupper⟩
  · rw [if_neg hreaches, sub_add_cancel]
    exact ⟨hlower, not_le.mp hreaches⟩

/-! ## The range -/

/-- The exponent of the last of the 53 bits of a number near the fraction. -/
def unit (n d : Nat) : Int := max (exponent 2 (n.log2 - d.log2) n d - 52) (-1074)

/-- The fraction in these units. -/
def inUnits (n d : Nat) : Nat × Nat := scale 2 (-unit n d) n d

def significand (n d : Nat) : Nat := roundDiv (inUnits n d).1 (inUnits n d).2

theorem nearest_isSome_iff_significand {n d : Nat} (hn : n ≠ 0) :
    (nearest n d).isSome = true ↔ (significand n d : ℚ) * 2 ^ unit n d < 2 ^ 1024 := by
  have hpos : (0 : ℚ) < (scale 2 (unit n d) (significand n d) 1).2 :=
    Nat.cast_pos.mpr (scale_snd_pos (by decide) Nat.one_pos _)
  have hscaled := scale_eq (b := 2) (by decide) (unit n d) (significand n d) 1
  rw [Nat.cast_one, div_one, Nat.cast_ofNat] at hscaled
  have hnearest : (nearest n d).isSome = true
      ↔ (scale 2 (unit n d) (significand n d) 1).1
        < (scale 2 (unit n d) (significand n d) 1).2 * 2 ^ 1024 := by
    rw [nearest, if_neg hn]
    generalize (2 : Nat) ^ 1024 = top
    show Option.isSome (if (scale 2 (unit n d) (significand n d) 1).1
      < (scale 2 (unit n d) (significand n d) 1).2 * top then some (mkRat _ _) else none) = true ↔ _
    split
    · exact iff_of_true rfl ‹_›
    · exact iff_of_false Bool.false_ne_true ‹_›
  rw [hnearest, ← hscaled, div_lt_iff₀' hpos]
  exact_mod_cast Iff.rfl

/-- The fraction in units, as a number. -/
theorem inUnits_eq (n d : Nat) :
    ((inUnits n d).1 : ℚ) / (inUnits n d).2 = n / d * 2 ^ (-unit n d) := by
  have hscaled := scale_eq (b := 2) (by decide) (-unit n d) n d
  rwa [Nat.cast_ofNat] at hscaled

theorem inUnits_snd_pos {n d : Nat} (hd : 0 < d) : 0 < (inUnits n d).2 :=
  scale_snd_pos (by decide) hd _

/-- The fraction from its units. -/
theorem eq_inUnits (n d : Nat) :
    (n / d : ℚ) = (inUnits n d).1 / (inUnits n d).2 * 2 ^ unit n d := by
  rw [inUnits_eq, mul_assoc, ← zpow_add₀ two_ne_zero, neg_add_cancel, zpow_zero, mul_one]

theorem top_eq (u : ℤ) : (2 : ℚ) ^ 1024 = 2 ^ (1024 - u) * 2 ^ u := by
  rw [← zpow_add₀ two_ne_zero, sub_add_cancel]
  exact (zpow_natCast 2 1024).symm

theorem limit_eq : (limit : ℚ) = (2 ^ 54 - 1) / 2 * 2 ^ (971 : ℤ) := by
  have hlimit : limit = (2 ^ 54 - 1) * 2 ^ 970 := by decide +kernel
  have hpow : (2 : ℚ) ^ (971 : ℤ) = 2 * 2 ^ 970 := by
    rw [← pow_succ']
    exact zpow_natCast 2 971
  rw [hlimit, hpow, Nat.cast_mul, Nat.cast_pow, Nat.cast_ofNat]
  generalize (2 : ℚ) ^ 970 = p
  norm_num
  ring

theorem limit_bounds : (2 : ℚ) ^ (1023 : ℤ) ≤ limit ∧ (limit : ℚ) ≤ 2 ^ 1024 := by
  have hlow : 2 ^ 1023 ≤ limit := by decide +kernel
  have hhigh : limit ≤ 2 ^ 1024 := by decide +kernel
  constructor
  · have hpow : (2 : ℚ) ^ (1023 : ℤ) = 2 ^ 1023 := zpow_natCast 2 1023
    rw [hpow]
    exact_mod_cast hlow
  · exact_mod_cast hhigh

theorem significand_lt_iff {n d : Nat} (hd : 0 < d) (hunit : unit n d = 971) :
    (significand n d : ℚ) * 2 ^ unit n d < 2 ^ 1024 ↔ (n / d : ℚ) < limit := by
  have hpos : (0 : ℚ) < (inUnits n d).2 := Nat.cast_pos.mpr (inUnits_snd_pos hd)
  have hpow : (0 : ℚ) < 2 ^ (971 : ℤ) := by positivity
  have hround := roundDiv_lt_iff (n := (inUnits n d).1) (j := 2 ^ 52 - 1)
    (inUnits_snd_pos (n := n) hd)
  have htop : (2 : ℚ) ^ (1024 - (971 : ℤ)) = ((2 * (2 ^ 52 - 1) + 2 : Nat) : ℚ) := by norm_num
  rw [eq_inUnits, hunit, top_eq 971, limit_eq, mul_lt_mul_iff_of_pos_right hpow,
    mul_lt_mul_iff_of_pos_right hpow, htop, Nat.cast_lt, significand, hround,
    div_lt_div_iff₀ hpos two_pos, ← Nat.cast_lt (α := ℚ)]
  norm_num
  rw [mul_comm (2 : ℚ)]

/-- **The fractions in the range are those below the limit.** -/
theorem nearest_isSome_iff {n d : Nat} (hn : 0 < n) (hd : 0 < d) :
    (nearest n d).isSome = true ↔ (n / d : ℚ) < limit := by
  obtain ⟨hlow, hhigh⟩ := exponent_spec hn hd
  rw [nearest_isSome_iff_significand hn.ne']
  have hpos := inUnits_snd_pos (n := n) hd
  have hpos' : (0 : ℚ) < (inUnits n d).2 := Nat.cast_pos.mpr hpos
  have hpow : (0 : ℚ) < 2 ^ unit n d := by positivity
  have hmax := le_max_left (exponent 2 (n.log2 - d.log2) n d - 52) (-1074 : Int)
  rw [← unit] at hmax
  rcases lt_trichotomy (unit n d) 971 with hunit | hunit | hunit
  · -- the fraction and its rounding are below the highest binade
    have hsmall : (n / d : ℚ) < 2 ^ (1023 : ℤ) :=
      hhigh.trans_le (zpow_le_zpow_right₀ one_le_two (by omega))
    refine iff_of_true ?_ (hsmall.trans_le limit_bounds.1)
    obtain ⟨k, hk⟩ := Int.eq_ofNat_of_zero_le (show 0 ≤ 1023 - unit n d by omega)
    have hunits : ((inUnits n d).1 : ℚ) / (inUnits n d).2 < 2 ^ k := by
      rw [eq_inUnits, ← lt_div_iff₀ hpow, ← zpow_sub₀ two_ne_zero, hk] at hsmall
      exact hsmall
    have hle : (inUnits n d).1 ≤ 2 ^ k * (inUnits n d).2 := by
      rw [div_lt_iff₀ hpos'] at hunits
      exact_mod_cast hunits.le
    have hround : (significand n d : ℚ) ≤ 2 ^ k := by
      exact_mod_cast roundDiv_le_of_le hpos hle
    rw [top_eq (unit n d), mul_lt_mul_iff_of_pos_right hpow]
    refine hround.trans_lt ?_
    rw [← zpow_natCast]
    exact zpow_lt_zpow_right₀ one_lt_two (by omega)
  · exact significand_lt_iff hd hunit
  · -- both are above it
    have hexponent : exponent 2 (n.log2 - d.log2) n d = unit n d + 52 := by
      rw [unit] at hunit hmax ⊢
      omega
    rw [hexponent] at hlow
    have hlarge : (2 : ℚ) ^ 1024 ≤ n / d := by
      refine le_trans ?_ hlow
      rw [← zpow_natCast]
      exact zpow_le_zpow_right₀ one_le_two (by omega)
    refine iff_of_false (not_lt.mpr ?_) (not_lt.mpr (limit_bounds.2.trans hlarge))
    have hunits : (2 : ℚ) ^ 52 ≤ (inUnits n d).1 / (inUnits n d).2 := by
      rw [eq_inUnits, zpow_add₀ two_ne_zero, mul_comm, mul_le_mul_iff_of_pos_right hpow] at hlow
      exact hlow
    have hle : 2 ^ 52 * (inUnits n d).2 ≤ (inUnits n d).1 := by
      rw [le_div_iff₀ hpos'] at hunits
      exact_mod_cast hunits
    have hround : (2 : ℚ) ^ 52 ≤ significand n d := by
      exact_mod_cast le_roundDiv_of_le hpos hle
    rw [top_eq (unit n d)]
    refine mul_le_mul_of_nonneg_right (le_trans ?_ hround) hpow.le
    rw [← zpow_natCast]
    exact zpow_le_zpow_right₀ one_le_two (by omega)

/-- **A rational is in the range of the format exactly when its magnitude is
    below the limit.** -/
theorem ofRat_infinite_iff (q : ℚ) :
    (∃ negative, ofRat q = .infinite negative) ↔ (limit : ℚ) ≤ |q| := by
  have hmagnitude : |q| = q.num.natAbs / q.den := by
    have hden : (0 : ℚ) < q.den := Nat.cast_pos.mpr q.den_pos
    rw [Nat.cast_natAbs, Int.cast_abs, ← abs_of_pos hden, ← abs_div, Rat.num_div_den]
  have hnearest : (∃ negative, ofRat q = .infinite negative)
      ↔ nearest q.num.natAbs q.den = none := by
    rw [ofRat]
    cases nearest q.num.natAbs q.den with
    | some m =>
        constructor
        · rintro ⟨negative, h⟩
          cases h
        · intro h
          cases h
    | none => exact ⟨fun _ => rfl, fun _ => ⟨_, rfl⟩⟩
  rw [hnearest]
  rcases Nat.eq_zero_or_pos q.num.natAbs with hzero | hpos
  · have hlimit : (0 : ℚ) < limit := Nat.cast_pos.mpr (by decide +kernel)
    rw [hmagnitude, hzero, Nat.cast_zero, zero_div]
    exact iff_of_false nofun (not_le.mpr hlimit)
  · rw [hmagnitude, ← not_lt, ← nearest_isSome_iff hpos q.den_pos, Bool.not_eq_true,
      Option.isSome_eq_false_iff, Option.isNone_iff_eq_none]

end Binary64
