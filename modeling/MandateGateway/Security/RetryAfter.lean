import MandateGateway.Security.RateLimiter
import MandateGateway.Security.SlidingWindow
import Mathlib.Tactic.Linarith

/-! # What a refusal promises

    A refused request is told after how many seconds to come again.  One limiter
    drops the fraction of a second, the other rounds to hundredths, and a time on
    the edge of the window is in it for the one and out of it for the other.

    * `honest_iff`: when the request is allowed after the time that it was told. -/

namespace MandateGateway

open Clock Runs SlidingWindow

/-! ## Rounding -/

/-- **Which integers are below a rounded number**: those nearer than a half, and of
    two that are equally near the even one. -/
theorem le_roundHalfEven_iff {c : Int} {x : Rat} :
    c ≤ roundHalfEven x ↔ (c : Rat) - x < 1 / 2 ∨ ((c : Rat) - x = 1 / 2 ∧ c % 2 = 0) := by
  have hle := Int.floor_le x
  have hlt := Int.lt_floor_add_one x
  rw [roundHalfEven]
  generalize ⌊x⌋ = f at hle hlt
  have hbelow : c ≤ f → (c : Rat) ≤ f := Int.cast_le.mpr
  have habove : f + 1 ≤ c → (f : Rat) + 1 ≤ c := fun h => by exact_mod_cast h
  have hbeyond : f + 2 ≤ c → (f : Rat) + 2 ≤ c := fun h => by exact_mod_cast h
  rcases lt_trichotomy (2 * (x - f)) 1 with hdown | hhalf | hup
  · rw [if_pos hdown]
    constructor
    · intro h
      left
      linarith [hbelow h]
    · intro h
      by_contra hnot
      have := habove (by omega)
      rcases h with h | ⟨h, -⟩ <;> linarith
  · rw [if_neg hhalf.ge.not_gt, if_neg hhalf.le.not_gt]
    -- the number is halfway between two integers
    rcases lt_trichotomy c (f + 1) with hc | rfl | hc
    · refine iff_of_true ?_ (.inl ?_)
      · split <;> omega
      · linarith [hbelow (by omega)]
    · have hdist : ((f + 1 : Int) : Rat) - x = 1 / 2 := by
        push_cast
        linarith
      rw [hdist, or_iff_right (lt_irrefl _), and_iff_right rfl]
      split <;> omega
    · refine iff_of_false ?_ ?_
      · split <;> omega
      · have := hbeyond (by omega)
        rintro (h | ⟨h, -⟩) <;> linarith
  · rw [if_neg hup.le.not_gt, if_pos hup]
    constructor
    · intro h
      left
      have : (c : Rat) ≤ f + 1 := by exact_mod_cast h
      linarith
    · intro h
      by_contra hnot
      have := hbeyond (by omega)
      rcases h with h | ⟨h, -⟩ <;> linarith

theorem roundHalfEven_mono {x y : Rat} (hxy : x ≤ y) : roundHalfEven x ≤ roundHalfEven y := by
  refine le_roundHalfEven_iff.mpr ?_
  rcases le_roundHalfEven_iff.mp (le_refl (roundHalfEven x)) with hnear | ⟨hhalf, heven⟩
  · left
    linarith
  · rcases eq_or_lt_of_le hxy with rfl | hlt
    · exact .inr ⟨hhalf, heven⟩
    · left
      linarith

theorem roundCents_mono : Monotone roundCents := by
  intro x y hxy
  have hround : (roundHalfEven (100 * x) : Rat) ≤ roundHalfEven (100 * y) :=
    Int.cast_le.mpr (roundHalfEven_mono (mul_le_mul_of_nonneg_left hxy (by norm_num)))
  exact div_le_div_of_nonneg_right hround (by norm_num)

theorem lt_roundCents_iff {x y : Rat} :
    y < roundCents x ↔ ∃ c : Int, y < c / 100
      ∧ ((c : Rat) / 100 - x < 1 / 200 ∨ ((c : Rat) / 100 - x = 1 / 200 ∧ c % 2 = 0)) := by
  have hnear : ∀ c : Int, c ≤ roundHalfEven (100 * x)
      ↔ (c : Rat) / 100 - x < 1 / 200 ∨ ((c : Rat) / 100 - x = 1 / 200 ∧ c % 2 = 0) := by
    intro c
    have hlt : (c : Rat) - 100 * x < 1 / 2 ↔ (c : Rat) / 100 - x < 1 / 200 := by
      constructor <;> intro h <;> linarith
    have heq : (c : Rat) - 100 * x = 1 / 2 ↔ (c : Rat) / 100 - x = 1 / 200 := by
      constructor <;> intro h <;> linarith
    rw [le_roundHalfEven_iff, hlt, heq]
  simp only [← hnear]
  constructor
  · exact fun h => ⟨_, h, le_rfl⟩
  · rintro ⟨c, hlt, hle⟩
    exact hlt.trans_le (div_le_div_of_nonneg_right (Int.cast_le.mpr hle) (by norm_num))

/-! ## The limiter of the interface -/

namespace RateLimiter

variable {limiter : RateLimiter} {now : Rat} {identityKey category : String}

/-- A request of this limiter. -/
structure LimiterCall where
  now         : Rat
  identityKey : String
  category    : String

def step (limiter : RateLimiter) (call : LimiterCall) :
    Except LimiterError (Bool × Int) × RateLimiter :=
  limiter.isAllowed call.now call.identityKey call.category

/-- When a request is refused, and other keys are asked for until the time that it
    was told has passed, it is allowed. -/
def Honest (limiter : RateLimiter) (call : LimiterCall) : Prop :=
  ∀ retryAfter, (limiter.step call).1 = .ok (false, retryAfter) →
    ∀ others : List LimiterCall, (∀ other ∈ others, compositeKey other.category other.identityKey
      ≠ compositeKey call.category call.identityKey) →
    ∃ wait, ((exec step (limiter.step call).2 others).step
      { call with now := call.now + retryAfter }).1 = .ok (true, wait)

/-- The seconds until a time leaves the window. -/
def remaining (limiter : RateLimiter) (call : LimiterCall) (ts : Rat) : Rat :=
  ts + (limiter.getLimitForCategory call.category).2 - call.now

/-- A time has left the window after one second, or after some whole number of
    seconds that are not more than another has to stay. -/
def LeavesWith (oldest wait : Rat) : Prop :=
  ∃ seconds : Int, (seconds = 1 ∨ seconds ≤ oldest) ∧ wait ≤ seconds

theorem leavesWith_iff {oldest wait : Rat} :
    LeavesWith oldest wait ↔ wait ≤ (max 1 ⌊oldest⌋ : Int) := by
  constructor
  · rintro ⟨seconds, hseconds, hwait⟩
    refine hwait.trans (Int.cast_le.mpr (le_max_iff.mpr ?_))
    exact hseconds.imp le_of_eq Int.le_floor.mpr
  · intro hwait
    rcases max_choice 1 ⌊oldest⌋ with h | h
    · exact ⟨1, .inl rfl, h ▸ hwait⟩
    · exact ⟨⌊oldest⌋, .inr (Int.floor_le oldest), h ▸ hwait⟩

instance (oldest wait : Rat) : Decidable (LeavesWith oldest wait) :=
  decidable_of_iff _ leavesWith_iff.symm

/-- The times in the window that are in it still after what a refusal tells. -/
def staying (limiter : RateLimiter) (call : LimiterCall) : List Rat :=
  let valid := limiter.validTimestamps call.now call.category call.identityKey
  valid.filter fun ts =>
    ¬ LeavesWith (limiter.remaining call (valid.headD call.now)) (limiter.remaining call ts)

/-- **A request is refused** when its window has a time in it, and is full. -/
theorem refused_iff {call : LimiterCall} {retryAfter : Int} :
    (limiter.step call).1 = .ok (false, retryAfter)
      ↔ call.identityKey ≠ "" ∧ ∃ oldest rest,
        limiter.validTimestamps call.now call.category call.identityKey = oldest :: rest
          ∧ (limiter.getLimitForCategory call.category).1 ≤ (oldest :: rest).length
          ∧ retryAfter = max 1 (truncate (limiter.remaining call oldest)) := by
  rw [step, isAllowed]
  by_cases hempty : call.identityKey = ""
  · rw [if_pos hempty]
    refine iff_of_false ?_ fun h => h.1 hempty
    intro h
    cases h
  · rw [if_neg hempty, and_iff_right hempty]
    dsimp only
    by_cases hfull : (limiter.getLimitForCategory call.category).1
        ≤ (limiter.validTimestamps call.now call.category call.identityKey).length
    · rw [if_pos hfull]
      cases hvalid : limiter.validTimestamps call.now call.category call.identityKey with
      | nil =>
          constructor
          · intro h
            cases h
          · rintro ⟨oldest, rest, hcons, -⟩
            cases hcons
      | cons oldest rest =>
          rw [hvalid] at hfull
          constructor
          · intro h
            exact ⟨oldest, rest, rfl, hfull, (Prod.mk.inj (Except.ok.inj h)).2.symm⟩
          · rintro ⟨_, _, hcons, -, rfl⟩
            obtain ⟨rfl, rfl⟩ := List.cons.inj hcons
            rfl
    · rw [if_neg hfull]
      constructor
      · intro h
        cases h
      · rintro ⟨oldest, rest, hvalid, hle, -⟩
        rw [hvalid] at hfull
        exact absurd hle hfull

/-- **A request of an identity is allowed** when its window has room. -/
theorem allowed_iff {call : LimiterCall} (hne : call.identityKey ≠ "") :
    (∃ wait, (limiter.step call).1 = .ok (true, wait))
      ↔ ((limiter.validTimestamps call.now call.category call.identityKey).length : Int)
        < (limiter.getLimitForCategory call.category).1 := by
  rw [step, isAllowed, if_neg hne]
  dsimp only
  by_cases hfull : (limiter.getLimitForCategory call.category).1
      ≤ (limiter.validTimestamps call.now call.category call.identityKey).length
  · rw [if_pos hfull]
    refine iff_of_false ?_ (Int.not_lt.mpr hfull)
    rintro ⟨wait, h⟩
    cases hvalid : limiter.validTimestamps call.now call.category call.identityKey with
    | nil =>
        rw [hvalid] at h
        cases h
    | cons oldest rest =>
        rw [hvalid] at h
        cases h
  · rw [if_neg hfull]
    exact iff_of_true ⟨0, rfl⟩ (Int.not_le.mp hfull)

theorem checkRateLimit_snd :
    (limiter.checkRateLimit now identityKey category).2
      = (limiter.isAllowed now identityKey category).2 := by
  rw [checkRateLimit]
  rcases limiter.isAllowed now identityKey category with ⟨_ | ⟨_ | _, _⟩, _⟩ <;> rfl

theorem getLimitForCategory_step (call : LimiterCall) (category : String) :
    (limiter.step call).2.getLimitForCategory category = limiter.getLimitForCategory category := by
  rw [step, ← checkRateLimit_snd]
  obtain h | h | h := checkRateLimit_cases call.now call.identityKey call.category limiter <;>
    rw [h] <;> rfl

theorem timestamps_step_of_ne {key : String} {call : LimiterCall}
    (h : key ≠ compositeKey call.category call.identityKey) :
    (limiter.step call).2.timestamps key = limiter.timestamps key := by
  rw [step, ← checkRateLimit_snd]
  exact timestamps_checkRateLimit_of_ne h

/-- Requests of other keys keep the times of a key, and the limits. -/
theorem exec_of_ne {key : String} {others : List LimiterCall}
    (h : ∀ other ∈ others, compositeKey other.category other.identityKey ≠ key) :
    (exec step limiter others).timestamps key = limiter.timestamps key
      ∧ ∀ category, (exec step limiter others).getLimitForCategory category
        = limiter.getLimitForCategory category := by
  induction others generalizing limiter with
  | nil => exact ⟨rfl, fun _ => rfl⟩
  | cons other others ih =>
      rw [List.forall_mem_cons] at h
      obtain ⟨htimes, hlimits⟩ := @ih (limiter.step other).2 h.2
      rw [exec_cons]
      exact ⟨htimes.trans (timestamps_step_of_ne (Ne.symm h.1)),
        fun category => (hlimits category).trans (getLimitForCategory_step other category)⟩

theorem timestamps_of_refused {call : LimiterCall} {retryAfter : Int}
    (h : (limiter.step call).1 = .ok (false, retryAfter)) :
    (limiter.step call).2.timestamps (compositeKey call.category call.identityKey)
      = limiter.validTimestamps call.now call.category call.identityKey := by
  obtain ⟨hne, oldest, rest, hvalid, hfull, -⟩ := refused_iff.mp h
  rw [step, isAllowed, if_neg hne]
  dsimp only
  rw [hvalid, if_pos hfull]
  exact timestamps_record_self _ _ _

theorem truncate_of_nonneg {x : Rat} (h : 0 ≤ x) : truncate x = ⌊x⌋ := by
  rw [truncate, Int.tdiv_eq_ediv_of_nonneg (Rat.num_nonneg.mpr h)]
  exact Rat.floor_def'.symm

theorem validTimestamps_again {call : LimiterCall} {retryAfter : Int}
    (h : (limiter.step call).1 = .ok (false, retryAfter)) {others : List LimiterCall}
    (hothers : ∀ other ∈ others, compositeKey other.category other.identityKey
      ≠ compositeKey call.category call.identityKey) :
    (exec step (limiter.step call).2 others).validTimestamps (call.now + retryAfter)
        call.category call.identityKey = limiter.staying call := by
  obtain ⟨htimes, hlimits⟩ := @exec_of_ne (limiter.step call).2 _ _ hothers
  obtain ⟨hne, oldest, rest, hvalid, hfull, rfl⟩ := refused_iff.mp h
  rw [validTimestamps, htimes, hlimits, getLimitForCategory_step, timestamps_of_refused h,
    staying]
  refine List.filter_congr fun ts hts => ?_
  -- the oldest time is in the window, so that it has a positive time to stay
  have hin : call.now - (limiter.getLimitForCategory call.category).2 < oldest := by
    have hmem : oldest ∈ limiter.validTimestamps call.now call.category call.identityKey := by
      rw [hvalid]
      exact List.mem_cons_self
    exact of_decide_eq_true (List.mem_filter.mp hmem).2
  have hpos : 0 ≤ limiter.remaining call oldest := by
    rw [remaining]
    linarith
  have hleaves : LeavesWith (limiter.remaining call oldest) (limiter.remaining call ts)
      ↔ ¬ call.now + (max 1 (truncate (limiter.remaining call oldest)) : Int)
          - (limiter.getLimitForCategory call.category).2 < ts := by
    rw [leavesWith_iff, truncate_of_nonneg hpos, not_lt, remaining]
    constructor <;> intro hle <;> linarith
  rw [hvalid, List.headD_cons, decide_eq_decide, hleaves, not_not]

/-- The window of a request has times in it, as many as the limit or more. -/
structure Full (limiter : RateLimiter) (call : LimiterCall) : Prop where
  identity : call.identityKey ≠ ""
  nonempty : limiter.validTimestamps call.now call.category call.identityKey ≠ []
  limit_le : (limiter.getLimitForCategory call.category).1
    ≤ (limiter.validTimestamps call.now call.category call.identityKey).length

theorem full_iff {call : LimiterCall} :
    limiter.Full call ↔ ∃ retryAfter, (limiter.step call).1 = .ok (false, retryAfter) := by
  constructor
  · rintro ⟨hne, htimes, hfull⟩
    obtain ⟨oldest, rest, hvalid⟩ := List.exists_cons_of_ne_nil htimes
    rw [hvalid] at hfull
    exact ⟨_, refused_iff.mpr ⟨hne, oldest, rest, hvalid, hfull, rfl⟩⟩
  · rintro ⟨retryAfter, h⟩
    obtain ⟨hne, oldest, rest, hvalid, hfull, -⟩ := refused_iff.mp h
    refine ⟨hne, ?_, ?_⟩ <;> rw [hvalid]
    · exact List.cons_ne_nil _ _
    · exact hfull

/-- **A refusal is honest exactly when fewer times than the limit stay in the
    window** for longer than what it tells. -/
theorem honest_iff (limiter : RateLimiter) (call : LimiterCall) :
    limiter.Honest call ↔ (limiter.Full call →
      ((limiter.staying call).length : Int) < (limiter.getLimitForCategory call.category).1) := by
  have hagain : ∀ retryAfter others, (limiter.step call).1 = .ok (false, retryAfter) →
      (∀ other ∈ others, compositeKey other.category other.identityKey
        ≠ compositeKey call.category call.identityKey) →
      ((∃ wait, ((exec step (limiter.step call).2 others).step
          { call with now := call.now + retryAfter }).1 = .ok (true, wait))
        ↔ ((limiter.staying call).length : Int)
          < (limiter.getLimitForCategory call.category).1) := by
    intro retryAfter others h hothers
    have hne := (refused_iff.mp h).1
    -- the others neither change the limits nor the times of the key
    have hlimits := (@exec_of_ne (limiter.step call).2 _ _ hothers).2
    have hallowed := @allowed_iff (exec step (limiter.step call).2 others)
      { call with now := call.now + retryAfter } hne
    rw [hallowed, validTimestamps_again h hothers, hlimits, getLimitForCategory_step]
  constructor
  · intro hhonest hfull
    obtain ⟨retryAfter, h⟩ := full_iff.mp hfull
    exact (hagain retryAfter [] h (List.forall_mem_nil _)).mp
      (hhonest retryAfter h [] (List.forall_mem_nil _))
  · intro hroom retryAfter h others hothers
    exact (hagain retryAfter others h hothers).mpr (hroom (full_iff.mpr ⟨retryAfter, h⟩))

/-- Of a window with its limit of times, in order, the oldest has to leave: it has a
    second to stay at most, or a whole number of seconds. -/
theorem honest_iff_of_ordered {call : LimiterCall} {oldest : Rat} {rest : List Rat}
    (hne : call.identityKey ≠ "")
    (hvalid : limiter.validTimestamps call.now call.category call.identityKey = oldest :: rest)
    (hordered : (oldest :: rest).Pairwise (· ≤ ·))
    (hlimit : (limiter.getLimitForCategory call.category).1 = (oldest :: rest).length) :
    limiter.Honest call
      ↔ limiter.remaining call oldest ≤ 1 ∨ ∃ n : Int, limiter.remaining call oldest = n := by
  have hfull : limiter.Full call := by
    refine ⟨hne, ?_, ?_⟩ <;> rw [hvalid]
    · exact List.cons_ne_nil _ _
    · exact hlimit.le
  have hsome : (∃ ts ∈ oldest :: rest,
        LeavesWith (limiter.remaining call oldest) (limiter.remaining call ts))
      ↔ LeavesWith (limiter.remaining call oldest) (limiter.remaining call oldest) := by
    constructor
    · rintro ⟨ts, hts, seconds, hseconds, hwait⟩
      have hle : oldest ≤ ts := by
        rcases List.mem_cons.mp hts with rfl | hts
        · exact le_rfl
        · exact (List.pairwise_cons.mp hordered).1 ts hts
      refine ⟨seconds, hseconds, le_trans ?_ hwait⟩
      rw [remaining, remaining]
      linarith
    · exact fun h => ⟨oldest, List.mem_cons_self, h⟩
  have hself : ∀ wait : Rat, LeavesWith wait wait ↔ wait ≤ 1 ∨ ∃ n : Int, wait = n := by
    intro wait
    rw [leavesWith_iff]
    constructor
    · intro h
      rcases max_choice 1 ⌊wait⌋ with hmax | hmax
      · exact .inl (by rw [hmax] at h; exact_mod_cast h)
      · exact .inr ⟨⌊wait⌋, le_antisymm (hmax ▸ h) (Int.floor_le wait)⟩
    · rintro (h | ⟨n, rfl⟩)
      · exact h.trans (by exact_mod_cast le_max_left _ _)
      · rw [Int.floor_intCast]
        exact Int.cast_le.mpr (le_max_right _ _)
  rw [honest_iff, imp_iff_right hfull, hlimit, staying, hvalid, List.headD_cons, Int.ofNat_lt,
    List.length_filter_lt_length_iff_exists, ← hself, ← hsome]
  simp only [decide_eq_true_eq, not_not]

end RateLimiter

/-! ## The limiter with queues -/

namespace SlidingWindowRateLimiter

variable {limiter : SlidingWindowRateLimiter} {call : LimitCall}

/-- When a request is refused, and other keys are asked for until the time that it
    was told has passed, it is allowed. -/
def Honest (limiter : SlidingWindowRateLimiter) (call : LimitCall) : Prop :=
  (limiter.checkRateLimit call).1.allowed = false →
    ∀ others : List LimitCall, (∀ other ∈ others, other.request.key ≠ call.request.key) →
    ∀ evaluatedAt, ((exec checkRateLimit (limiter.checkRateLimit call).2 others).checkRateLimit
      ⟨call.now + (limiter.checkRateLimit call).1.retryAfterSeconds, evaluatedAt,
        call.request⟩).1.allowed = true

/-- The seconds until a time is on the edge of the window. -/
def remaining (call : LimitCall) (ts : Rat) : Rat := ts + call.request.windowSeconds - call.now

/-- A time has left the window after a tenth of a second, or after some number of
    hundredths that is nearest to what another has to stay. -/
def LeavesWith (oldest wait : Rat) : Prop :=
  wait < 1 / 10 ∨ ∃ c : Int, wait < c / 100
    ∧ ((c : Rat) / 100 - oldest < 1 / 200 ∨ ((c : Rat) / 100 - oldest = 1 / 200 ∧ c % 2 = 0))

theorem leavesWith_iff {oldest wait : Rat} :
    LeavesWith oldest wait ↔ wait < roundCents (max (1 / 10) oldest) := by
  have htenth : roundCents (1 / 10) = 1 / 10 := by decide +kernel
  rw [LeavesWith, ← lt_roundCents_iff, roundCents_mono.map_max, htenth, lt_max_iff]

instance (oldest wait : Rat) : Decidable (LeavesWith oldest wait) :=
  decidable_of_iff _ leavesWith_iff.symm

/-- The queue of a request after what a refusal tells. -/
def staying (limiter : SlidingWindowRateLimiter) (call : LimitCall) : List Rat :=
  (limiter.pruned call).dropWhile fun ts =>
    LeavesWith (remaining call ((limiter.pruned call).headD call.now)) (remaining call ts)

theorem history_exec_of_ne {key : String × String} {others : List LimitCall}
    (h : ∀ other ∈ others, other.request.key ≠ key) :
    (exec checkRateLimit limiter others).history key = limiter.history key := by
  induction others generalizing limiter with
  | nil => rfl
  | cons other others ih =>
      rw [List.forall_mem_cons] at h
      rw [exec_cons, ih h.2, history_checkRateLimit_of_ne (Ne.symm h.1)]

theorem retryAfter_of_refused (h : (limiter.checkRateLimit call).1.allowed = false) :
    (limiter.checkRateLimit call).1.retryAfterSeconds
      = roundCents (max (1 / 10)
        (remaining call ((limiter.pruned call).headD call.now))) := by
  have hfull : call.request.maxRequests ≤ (limiter.pruned call).length := by
    by_contra hroom
    rw [allowed_iff.mpr (Int.not_le.mp hroom)] at h
    cases h
  rw [checkRateLimit]
  dsimp only
  rw [if_pos hfull, remaining]

/-- **A refusal is honest exactly when fewer times than the limit stay in the
    queue** for longer than what it tells. -/
theorem honest_iff (limiter : SlidingWindowRateLimiter) (call : LimitCall) :
    limiter.Honest call ↔ (call.request.maxRequests ≤ (limiter.pruned call).length →
      ((limiter.staying call).length : Int) < call.request.maxRequests) := by
  have hrefused : (limiter.checkRateLimit call).1.allowed = false
      ↔ call.request.maxRequests ≤ (limiter.pruned call).length := by
    rw [← Bool.not_eq_true, allowed_iff, Int.not_lt]
  have hagain : ∀ others evaluatedAt, (limiter.checkRateLimit call).1.allowed = false →
      (∀ other ∈ others, other.request.key ≠ call.request.key) →
      (((exec checkRateLimit (limiter.checkRateLimit call).2 others).checkRateLimit
        ⟨call.now + (limiter.checkRateLimit call).1.retryAfterSeconds, evaluatedAt,
          call.request⟩).1.allowed = true
        ↔ ((limiter.staying call).length : Int) < call.request.maxRequests) := by
    intro others evaluatedAt h hothers
    rw [allowed_iff, pruned]
    dsimp only
    rw [history_exec_of_ne hothers, history_checkRateLimit_self, h, if_neg Bool.false_ne_true,
      List.append_nil, retryAfter_of_refused h]
    have hstaying : prune (call.now + roundCents (max (1 / 10)
          (remaining call ((limiter.pruned call).headD call.now))) - call.request.windowSeconds)
        (limiter.pruned call) = limiter.staying call := by
      rw [prune, staying]
      congr 1
      funext ts
      rw [decide_eq_decide, leavesWith_iff, remaining, remaining]
      constructor <;> intro hlt <;> linarith
    rw [hstaying]
  constructor
  · intro hhonest hfull
    have h := hrefused.mpr hfull
    exact (hagain [] 0 h (List.forall_mem_nil _)).mp
      (hhonest h [] (List.forall_mem_nil _) 0)
  · intro hroom h others hothers evaluatedAt
    exact (hagain others evaluatedAt h hothers).mpr (hroom (hrefused.mp h))

/-- Of a queue with its limit of times, the oldest has to leave: rounding to
    hundredths has to add to what it has to stay. -/
theorem honest_iff_of_full (hfull : (limiter.pruned call).length = call.request.maxRequests) :
    limiter.Honest call
      ↔ LeavesWith (remaining call ((limiter.pruned call).headD call.now))
        (remaining call ((limiter.pruned call).headD call.now)) := by
  rw [honest_iff, imp_iff_right hfull.ge, ← hfull, Int.ofNat_lt, staying]
  cases hpruned : limiter.pruned call with
  | nil =>
      have hone := call.request.one_le_max
      rw [hpruned] at hfull
      rw [← hfull] at hone
      cases hone
  | cons oldest rest =>
      rw [List.headD_cons, List.dropWhile_cons, List.length_cons]
      by_cases hleaves : LeavesWith (remaining call oldest) (remaining call oldest)
      · rw [if_pos (decide_eq_true hleaves)]
        refine iff_of_true (Nat.lt_succ_of_le ?_) hleaves
        exact (List.dropWhile_sublist _).length_le
      · rw [if_neg fun h => hleaves (of_decide_eq_true h)]
        exact iff_of_false (lt_irrefl _) hleaves

end SlidingWindowRateLimiter

/-- **When both limiters keep what a refusal promises.** -/
theorem retryAfter_honest (limiter : RateLimiter) (call : RateLimiter.LimiterCall)
    (sliding : SlidingWindowRateLimiter) (request : LimitCall) :
    (limiter.Honest call ↔ (limiter.Full call →
      ((limiter.staying call).length : Int) < (limiter.getLimitForCategory call.category).1))
    ∧ (sliding.Honest request ↔ (request.request.maxRequests ≤ (sliding.pruned request).length →
      ((sliding.staying request).length : Int) < request.request.maxRequests)) :=
  ⟨limiter.honest_iff call, sliding.honest_iff request⟩

/-! Half a second after the limit is reached. -/

namespace SampleRetry

open RateLimiter in
def failure (now : Rat) : LimiterCall := ⟨now, "10.0.0.7", "AUTH_FAILURES"⟩

def limiter : RateLimiter := exec RateLimiter.step .global (List.replicate 5 (failure 1000))

def queues : SlidingWindowRateLimiter :=
  exec SlidingWindowRateLimiter.checkRateLimit .new [⟨1000, 1000000000, SampleWindow.request⟩]

def request (now : Rat) : LimitCall := ⟨now, 0, SampleWindow.request⟩

theorem failure_refused : (limiter.step (failure (2001 / 2))).1 = .ok (false, 59) := by
  decide +kernel

theorem request_refused :
    ((queues.checkRateLimit (request (2001 / 2))).1.allowed,
      (queues.checkRateLimit (request (2001 / 2))).1.retryAfterSeconds) = (false, 119 / 2) := by
  decide +kernel

end SampleRetry

open SampleRetry in
/-- A failure is told 59 seconds and a request 59.5, when 59.5 are left; then both
    are refused again. -/
theorem half_second_refused :
    (limiter.step (failure (2001 / 2))).1 = .ok (false, 59)
    ∧ ((limiter.step (failure (2001 / 2))).2.step (failure (2001 / 2 + 59))).1 = .ok (false, 1)
    ∧ ¬ limiter.Honest (failure (2001 / 2))
    ∧ ((queues.checkRateLimit (request (2001 / 2))).1.allowed,
      (queues.checkRateLimit (request (2001 / 2))).1.retryAfterSeconds) = (false, 119 / 2)
    ∧ ¬ queues.Honest (request (2001 / 2)) := by
  refine ⟨failure_refused, by decide +kernel, ?_, request_refused, ?_⟩
  · rw [RateLimiter.honest_iff]
    have hfull : limiter.Full (failure (2001 / 2)) :=
      RateLimiter.full_iff.mpr ⟨59, failure_refused⟩
    intro hstay
    exact absurd (hstay hfull) (by decide +kernel)
  · rw [SlidingWindowRateLimiter.honest_iff]
    intro hstay
    exact absurd (hstay (by decide +kernel)) (by decide +kernel)

end MandateGateway
