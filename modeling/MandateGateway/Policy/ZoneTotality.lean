import MandateGateway.Lib.Exceptions
import MandateGateway.Lib.FloatRange
import MandateGateway.Policy.SamePurchase

/-! # Where the classification of a total raises

    `classify_step_up_zone` computes a percentage of the cap for every total
    beyond it, and prints total and cap for the totals that are rejected.  It
    finds the right zone wherever these divisions have a result
    (`classify_right_iff`): beyond a cap of zero they have none. -/

namespace MandateGateway

open Clock Checklist Exceptions

/-! ## Division -/

/-- The quotient of amounts is in the range of a float. -/
def DivInRange (a b : Int) : Prop := a < Binary64.limit * b

theorem trueDiv_isOk_iff {a b : Int} (ha : 0 ≤ a) (hb : 0 < b) :
    (∃ x, trueDiv a b = .ok x) ↔ DivInRange a b := by
  have hinfinite := Binary64.ofRat_infinite_iff ((a : ℚ) / b)
  have hmagnitude : (Binary64.limit : ℚ) ≤ |(a : ℚ) / b| ↔ ¬ DivInRange a b := by
    have hb' : (0 : ℚ) < b := Int.cast_pos.mpr hb
    have hquotient : (0 : ℚ) ≤ (a : ℚ) / b := div_nonneg (Int.cast_nonneg ha) hb'.le
    rw [abs_of_nonneg hquotient, le_div_iff₀ hb', DivInRange, not_lt, ← Int.cast_le (R := ℚ)]
    push_cast
    exact Iff.rfl
  rw [hmagnitude] at hinfinite
  rw [← not_iff_not, ← hinfinite, trueDiv, if_neg hb.ne']
  cases Binary64.ofRat ((a : ℚ) / b) with
  | finite q => exact iff_of_false (fun h => h ⟨_, rfl⟩) (fun ⟨_, h⟩ => nomatch h)
  | nan => exact iff_of_false (fun h => h ⟨_, rfl⟩) (fun ⟨_, h⟩ => nomatch h)
  | infinite negative => exact iff_of_true (fun ⟨_, h⟩ => nomatch h) ⟨negative, rfl⟩

theorem trueDiv_zero (a : Int) :
    trueDiv a 0 = .error (.zeroDivisionError "division by zero") :=
  if_pos rfl

variable {total cap percent : Int}

/-! ## The zones -/

/-- The zone of a total: the cap, and the share beyond it that a step-up can
    authorize. -/
def zoneOf (total cap percent : Int) : StepUpZone :=
  if total ≤ cap then .autoExecute
  else if 100 * total ≤ cap * (100 + percent) then .stepUpRequired
  else .hardReject

theorem le_maxAllowedPaise_iff :
    total ≤ maxAllowedPaise cap percent ↔ 100 * total ≤ cap * (100 + percent) := by
  have hshare : total ≤ maxAllowedPaise cap percent ↔ total - cap ≤ cap * percent / 100 := by
    rw [maxAllowedPaise]
    omega
  rw [hshare, Int.le_ediv_iff_mul_le (by decide), mul_add, mul_comm cap 100]
  omega

/-- The divisions of the classification have results. -/
def Computable (total cap percent : Int) : Prop :=
  total ≤ cap
    ∨ 0 < cap ∧ DivInRange (total - cap) cap
      ∧ (100 * total ≤ cap * (100 + percent) ∨ DivInRange total 100)

theorem deltaPercent_zero (delta : Int) :
    deltaPercent delta 0 = .error (.zeroDivisionError "division by zero") := by
  rw [deltaPercent, trueDiv_zero]
  rfl

theorem deltaPercent_isOk_iff {delta : Int} (hdelta : 0 ≤ delta) (hcap : 0 < cap) :
    (∃ x, deltaPercent delta cap = .ok x) ↔ DivInRange delta cap := by
  rw [← trueDiv_isOk_iff hdelta hcap, deltaPercent]
  cases trueDiv delta cap with
  | error err => exact iff_of_false (not_exists_error_eq_ok _) (not_exists_error_eq_ok _)
  | ok x => exact iff_of_true ⟨_, rfl⟩ ⟨_, rfl⟩

theorem hardRejectReason_isOk_iff (percent : Int) (share : Binary64) (hcap : 0 ≤ cap)
    (hbeyond : cap < total) :
    (∃ text, hardRejectReason total cap percent share = .ok text) ↔ DivInRange total 100 := by
  rw [hardRejectReason]
  have htotal := trueDiv_isOk_iff (b := 100) (hcap.trans hbeyond.le) (by decide)
  cases hdiv : trueDiv total 100 with
  | error err =>
      rw [hdiv] at htotal
      exact iff_of_false (not_exists_error_eq_ok _) (htotal.not.mp (not_exists_error_eq_ok _))
  | ok x =>
      -- the cap is smaller than the total
      have hrange : DivInRange total 100 := htotal.mp ⟨x, hdiv⟩
      obtain ⟨y, hy⟩ := (trueDiv_isOk_iff (b := 100) hcap (by decide)).mpr (hbeyond.trans hrange)
      rw [hy]
      exact iff_of_true ⟨_, rfl⟩ hrange

theorem zone_of_classify {r : StepUpResult} (htotal : 0 ≤ total) (hcap : 0 ≤ cap)
    (h : classifyStepUpZone total cap percent = .ok r) : r.zone = zoneOf total cap percent := by
  have hpos : ¬ (total < 0 ∨ cap < 0) := by omega
  rw [classifyStepUpZone, if_neg hpos] at h
  rw [zoneOf]
  by_cases hle : total ≤ cap
  · rw [if_pos hle] at h ⊢
    obtain rfl := Except.ok.inj h
    rfl
  rw [if_neg hle] at h ⊢
  dsimp only at h
  cases hdiv : deltaPercent (total - cap) cap with
  | error err =>
      rw [hdiv] at h
      cases h
  | ok share =>
      rw [hdiv] at h
      dsimp only at h
      by_cases hstep : 100 * total ≤ cap * (100 + percent)
      · rw [if_pos (le_maxAllowedPaise_iff.mpr hstep)] at h
        rw [if_pos hstep]
        obtain rfl := Except.ok.inj h
        rfl
      · rw [if_neg (le_maxAllowedPaise_iff.not.mpr hstep)] at h
        rw [if_neg hstep]
        obtain ⟨text, -, rfl⟩ := map_eq_ok_iff.mp h
        rfl

theorem classify_isOk_iff (htotal : 0 ≤ total) (hcap : 0 ≤ cap) :
    (∃ r, classifyStepUpZone total cap percent = .ok r) ↔ Computable total cap percent := by
  have hpos : ¬ (total < 0 ∨ cap < 0) := by omega
  rw [Computable, classifyStepUpZone, if_neg hpos]
  by_cases hle : total ≤ cap
  · rw [if_pos hle]
    exact iff_of_true ⟨_, rfl⟩ (.inl hle)
  rw [if_neg hle]
  have hbeyond : cap < total := not_le.mp hle
  dsimp only
  rcases hcap.eq_or_lt with rfl | hcap'
  · rw [deltaPercent_zero]
    exact iff_of_false (not_exists_error_eq_ok _)
      fun h => h.elim hle fun h => absurd h.1 (lt_irrefl _)
  have hdelta := deltaPercent_isOk_iff (sub_nonneg.mpr hbeyond.le) hcap'
  cases hdiv : deltaPercent (total - cap) cap with
  | error err =>
      rw [hdiv] at hdelta
      have hrange : ¬ DivInRange (total - cap) cap := hdelta.not.mp (not_exists_error_eq_ok _)
      exact iff_of_false (not_exists_error_eq_ok _) fun h => h.elim hle fun h => hrange h.2.1
  | ok share =>
      have hrange : DivInRange (total - cap) cap := hdelta.mp ⟨share, hdiv⟩
      dsimp only
      by_cases hstep : 100 * total ≤ cap * (100 + percent)
      · rw [if_pos (le_maxAllowedPaise_iff.mpr hstep)]
        exact iff_of_true ⟨_, rfl⟩ (.inr ⟨hcap', hrange, .inl hstep⟩)
      · rw [if_neg (le_maxAllowedPaise_iff.not.mpr hstep)]
        -- only a rejection prints the amounts
        have htext := hardRejectReason_isOk_iff percent share hcap'.le hbeyond
        cases hreason : hardRejectReason total cap percent share with
        | error err =>
            rw [hreason] at htext
            have hprint : ¬ DivInRange total 100 := htext.not.mp (not_exists_error_eq_ok _)
            exact iff_of_false (not_exists_error_eq_ok _)
              fun h => h.elim hle fun h => h.2.2.elim hstep hprint
        | ok text =>
            rw [hreason] at htext
            exact iff_of_true ⟨_, rfl⟩ (.inr ⟨hcap', hrange, .inr (htext.mp ⟨text, rfl⟩)⟩)

/-- The classification has a result, and it is the zone of the total. -/
def ClassifiedRight (total cap percent : Int) : Prop :=
  ∃ r, classifyStepUpZone total cap percent = .ok r ∧ r.zone = zoneOf total cap percent

namespace PolicyEngine

/-- **The policy engine raises exactly on cleared requests whose total is not
    classified.** -/
theorem evaluate_isOk_iff {q : PolicyRequest} :
    (∃ r, evaluate q = .ok r) ↔ (q.Cleared → Computable q.cart.totalPaise
      q.mandate.maximumAmountPaise q.merchantPolicy.maxStepUpPercent) := by
  rw [← scan_checks_eq_none_iff, evaluate,
    ← classify_isOk_iff q.cart.totalPaise_nonneg q.mandate.maximum_nonneg]
  cases scan (checks q) with
  | mk passed refusal =>
      cases refusal with
      | some refusal => exact iff_of_true ⟨_, rfl⟩ fun h => absurd h (Option.some_ne_none _)
      | none =>
          dsimp only
          cases classifyStepUpZone q.cart.totalPaise q.mandate.maximumAmountPaise
              q.merchantPolicy.maxStepUpPercent with
          | error err =>
              exact iff_of_false (not_exists_error_eq_ok _)
                fun h => absurd (h rfl) (not_exists_error_eq_ok _)
          | ok s => exact iff_of_true ⟨_, rfl⟩ fun _ => ⟨s, rfl⟩

/-- The engine returns on every request whose mandate has a cap of zero. -/
def ReturnsOnZeroCap (q : PolicyRequest) : Prop :=
  q.mandate.maximumAmountPaise = 0 → ∃ r, evaluate q = .ok r

end PolicyEngine

/-- **A total is classified right exactly where the divisions have results, and
    on a mandate of cap zero the engine returns exactly when a check fails or
    nothing is to be paid.** -/
theorem classify_right_iff (htotal : 0 ≤ total) (hcap : 0 ≤ cap) :
    (ClassifiedRight total cap percent ↔ Computable total cap percent)
      ∧ ∀ q : PolicyRequest, PolicyEngine.ReturnsOnZeroCap q
        ↔ (q.mandate.maximumAmountPaise = 0 → q.Cleared → q.cart.totalPaise = 0) := by
  constructor
  · rw [← classify_isOk_iff htotal hcap]
    constructor
    · rintro ⟨r, hr, -⟩
      exact ⟨r, hr⟩
    · rintro ⟨r, hr⟩
      exact ⟨r, hr, zone_of_classify htotal hcap hr⟩
  · intro q
    refine imp_congr_right fun hzero => ?_
    rw [PolicyEngine.evaluate_isOk_iff, hzero]
    refine imp_congr_right fun _ => ?_
    have hnonneg := q.cart.totalPaise_nonneg
    constructor
    · rintro (hle | ⟨hpos, -⟩)
      · omega
      · exact absurd hpos (lt_irrefl _)
    · exact fun htotal => .inl htotal.le

/-- Ten rupees are rejected under a cap of eight. -/
theorem tenOverEight_right : ClassifiedRight 1000 800 10 := by
  refine (classify_right_iff (by decide) (by decide)).1.mpr (.inr ⟨by decide, ?_, .inr ?_⟩)
  · show (1000 - 800 : Int) < Binary64.limit * 800
    decide +kernel
  · show (1000 : Int) < Binary64.limit * 100
    decide +kernel

namespace PolicyEngine

/-- The sample mandate with a cap of zero. -/
def Sample.capless : BuyerMandate :=
  { Sample.mandate with maximumAmountPaise := 0, maximum_nonneg := by decide,
                        daily_ge_maximum := by decide }

def Sample.underZero : PolicyRequest := { Sample.mixed with mandate := Sample.capless }

/-- **Any purchase under a mandate of cap zero is a division by zero.** -/
theorem zeroCap_raises :
    classifyStepUpZone 25000 0 10 = .error (.zeroDivisionError "division by zero")
      ∧ ¬ ClassifiedRight 25000 0 10
      ∧ evaluate Sample.underZero = .error (.zeroDivisionError "division by zero") := by
  refine ⟨rfl, ?_, rfl⟩
  rintro ⟨r, hr, -⟩
  cases hr

end PolicyEngine

end MandateGateway
