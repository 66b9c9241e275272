import MandateGateway.Lib.KeyedRuns
import MandateGateway.Lib.OrderedMap
import MandateGateway.Lib.SlidingWindow
import MandateGateway.Values
import Mathlib.Data.Rat.Floor

/-! # The sliding window of requests

    For each identifier and action the limiter keeps a queue of the times of the
    requests that it allowed, and drops the oldest that are out of the window.

    * `windowLaw`: no window of the length has more allowed requests of a key than
      its limit, a request is refused only for as many in its own window, and the
      keys are independent. -/

namespace MandateGateway

open Clock Runs SlidingWindow

/-- A request whose fields have passed their checks. -/
structure RateLimitRequest where
  identifier    : String
  action        : String
  maxRequests   : Int
  windowSeconds : Int
  identifier_ne : identifier ≠ ""
  one_le_max    : 1 ≤ maxRequests
  one_le_window : 1 ≤ windowSeconds

structure RateLimitResponse where
  allowed           : Bool
  identifier        : String
  currentCount      : Nat
  maxRequests       : Int
  windowSeconds     : Int
  retryAfterSeconds : Rat
  evaluatedAt       : Instant
deriving DecidableEq

/-- A request, the time in seconds that it reads off the clock, and the time of its
    response. -/
structure LimitCall where
  now         : Rat
  evaluatedAt : Instant
  request     : RateLimitRequest

/-- The queues of a `SlidingWindowRateLimiter`. -/
structure SlidingWindowRateLimiter where
  requests : OrderedMap (String × String) (List Rat)

/-- The integer nearest to a number; of two, the even one. -/
def roundHalfEven (x : Rat) : Int :=
  let f := ⌊x⌋
  if 2 * (x - f) < 1 then f
  else if 1 < 2 * (x - f) then f + 1
  else if f % 2 = 0 then f else f + 1

/-- `round(x, 2)`. -/
def roundCents (x : Rat) : Rat := roundHalfEven (100 * x) / 100

namespace RateLimitRequest

def key (req : RateLimitRequest) : String × String := (req.identifier, req.action)

end RateLimitRequest

namespace SlidingWindowRateLimiter

def new : SlidingWindowRateLimiter := ⟨.empty⟩

/-- `self._requests[key]`. -/
def history (limiter : SlidingWindowRateLimiter) (key : String × String) : List Rat :=
  (limiter.requests.get key).getD []

def record (key : String × String) (times : List Rat) (limiter : SlidingWindowRateLimiter) :
    SlidingWindowRateLimiter :=
  ⟨limiter.requests.set key times⟩

/-- The queue of a request, without what is out of its window. -/
def pruned (limiter : SlidingWindowRateLimiter) (call : LimitCall) : List Rat :=
  prune (call.now - call.request.windowSeconds) (limiter.history call.request.key)

def checkRateLimit (limiter : SlidingWindowRateLimiter) (call : LimitCall) :
    RateLimitResponse × SlidingWindowRateLimiter :=
  let req := call.request
  let history := limiter.pruned call
  if req.maxRequests ≤ history.length then
    let oldest := history.headD call.now
    let retryAfter := roundCents (max (1 / 10) (oldest + req.windowSeconds - call.now))
    ({ allowed := false
       identifier := req.identifier
       currentCount := history.length
       maxRequests := req.maxRequests
       windowSeconds := req.windowSeconds
       retryAfterSeconds := retryAfter
       evaluatedAt := call.evaluatedAt }, limiter.record req.key history)
  else
    ({ allowed := true
       identifier := req.identifier
       currentCount := history.length + 1
       maxRequests := req.maxRequests
       windowSeconds := req.windowSeconds
       retryAfterSeconds := 0
       evaluatedAt := call.evaluatedAt }, limiter.record req.key (history ++ [call.now]))

/-! ## One request -/

variable {limiter limiter' : SlidingWindowRateLimiter} {call : LimitCall}
  {key : String × String}

theorem history_record_self (key : String × String) (times : List Rat)
    (limiter : SlidingWindowRateLimiter) : (limiter.record key times).history key = times :=
  congrArg (Option.getD · []) (limiter.requests.get_set_self key times)

theorem history_record_of_ne {key' : String × String} (h : key' ≠ key) (times : List Rat)
    (limiter : SlidingWindowRateLimiter) :
    (limiter.record key times).history key' = limiter.history key' :=
  congrArg (Option.getD · []) (limiter.requests.get_set_of_ne h times)

/-- **A request is allowed** while its window has room. -/
theorem allowed_iff :
    (limiter.checkRateLimit call).1.allowed = true
      ↔ ((limiter.pruned call).length : Int) < call.request.maxRequests := by
  rw [checkRateLimit]
  dsimp only
  by_cases hfull : call.request.maxRequests ≤ (limiter.pruned call).length
  · rw [if_pos hfull]
    exact iff_of_false Bool.false_ne_true (Int.not_lt.mpr hfull)
  · rw [if_neg hfull]
    exact iff_of_true rfl (Int.not_le.mp hfull)

theorem history_checkRateLimit_self (limiter : SlidingWindowRateLimiter) (call : LimitCall) :
    (limiter.checkRateLimit call).2.history call.request.key
      = limiter.pruned call
        ++ if (limiter.checkRateLimit call).1.allowed then [call.now] else [] := by
  rw [checkRateLimit]
  dsimp only
  by_cases hfull : call.request.maxRequests ≤ (limiter.pruned call).length
  · rw [if_pos hfull]
    exact (history_record_self _ _ _).trans (List.append_nil _).symm
  · rw [if_neg hfull]
    exact history_record_self _ _ _

theorem history_checkRateLimit_of_ne (h : key ≠ call.request.key) :
    (limiter.checkRateLimit call).2.history key = limiter.history key := by
  rw [checkRateLimit]
  dsimp only
  by_cases hfull : call.request.maxRequests ≤ (limiter.pruned call).length
  · rw [if_pos hfull]
    exact history_record_of_ne h _ _
  · rw [if_neg hfull]
    exact history_record_of_ne h _ _

/-- **A request reads and writes the queue of its key only.** -/
theorem keyed : Keyed checkRateLimit (fun call => call.request.key) history := by
  constructor
  · intro s s' call hsame
    rw [checkRateLimit, checkRateLimit, pruned, pruned, hsame]
    dsimp only
    split <;> rfl
  · intro s s' call hsame
    have hpruned : s.pruned call = s'.pruned call := by rw [pruned, pruned, hsame]
    have hallowed : (s.checkRateLimit call).1.allowed = true
        ↔ (s'.checkRateLimit call).1.allowed = true := by rw [allowed_iff, allowed_iff, hpruned]
    rw [history_checkRateLimit_self, history_checkRateLimit_self, hpruned,
      Bool.eq_iff_iff.mpr hallowed]
  · exact fun s call key hne => history_checkRateLimit_of_ne (Ne.symm hne)

/-! ## Runs -/

/-- A step of a run. -/
abbrev LimitStep : Type := Step SlidingWindowRateLimiter LimitCall RateLimitResponse

def Allows (key : String × String) (c : LimitStep) : Prop :=
  c.act.request.key = key ∧ c.out.allowed = true

instance (key : String × String) (c : LimitStep) : Decidable (Allows key c) :=
  inferInstanceAs (Decidable (_ ∧ _))

def allowedTimes (key : String × String) (past : List LimitStep) : List Rat :=
  (past.filter fun c => Allows key c).map fun c => c.act.now

/-- The limits of the keys do not change. -/
def Fixed (limit window : String × String → Nat) (calls : List LimitCall) : Prop :=
  ∀ call ∈ calls, call.request.maxRequests = limit call.request.key
    ∧ call.request.windowSeconds = window call.request.key

/-- The clock does not run backwards. -/
def Ordered (calls : List LimitCall) : Prop := calls.Pairwise fun a b => a.now ≤ b.now

/-- What the limiter is for: no closed window of the length has more allowed
    requests of a key than its limit; a request is allowed exactly when fewer than
    the limit were allowed in the window that ends with it; and the requests of a
    key are answered as if there were no others. -/
structure WindowLaw (limit window : String × String → Nat) (calls : List LimitCall) : Prop where
  bounded     : ∀ key (start : Rat), (allowedTimes key (steps checkRateLimit new calls)).countP
    (fun t => start ≤ t ∧ t ≤ start + window key) ≤ limit key
  allowed_iff : ∀ before c after, steps checkRateLimit new calls = before ++ c :: after →
    (c.out.allowed = true ↔ (allowedTimes c.act.request.key before).countP
      (fun t : Rat => c.act.now - window c.act.request.key ≤ t ∧ t ≤ c.act.now)
        < limit c.act.request.key)
  isolated    : ∀ key calls', calls'.filter (fun call => call.request.key = key)
      = calls.filter (fun call => call.request.key = key) →
    outcomes checkRateLimit (fun call => call.request.key) key new calls'
      = outcomes checkRateLimit (fun call => call.request.key) key new calls

variable {limit window : String × String → Nat} {calls : List LimitCall}

theorem allowedTimes_concat (key : String × String) (past : List LimitStep) (c : LimitStep) :
    allowedTimes key (past ++ [c])
      = allowedTimes key past ++ if Allows key c then [c.act.now] else [] := by
  rw [allowedTimes, List.filter_append, List.map_append, allowedTimes]
  by_cases hallows : Allows key c
  · rw [if_pos hallows, List.filter_singleton, decide_eq_true hallows]
    rfl
  · rw [if_neg hallows, List.filter_singleton, decide_eq_false hallows]
    rfl

/-- **The queue of a key holds its allowed requests**, as far as these are in a
    window of the present or the future. -/
theorem prune_history (hfixed : Fixed limit window calls) (hordered : Ordered calls)
    (key : String × String) {t : Rat} (hlast : ∀ call ∈ calls, call.now ≤ t) :
    prune (t - window key) ((exec checkRateLimit new calls).history key)
      = prune (t - window key) (allowedTimes key (steps checkRateLimit new calls)) := by
  induction calls using List.reverseRecOn generalizing t with
  | nil => rfl
  | append_singleton calls call ih =>
      obtain ⟨hbefore, -, hle⟩ := List.pairwise_append.mp hordered
      have hfixed' : Fixed limit window calls :=
        fun c hc => hfixed c (List.mem_append_left _ hc)
      have hnow : call.now ≤ t := hlast call (List.mem_append_right _ List.mem_cons_self)
      have hearlier : ∀ c ∈ calls, c.now ≤ call.now := fun c hc => hle c hc call List.mem_cons_self
      rw [exec_append, steps_concat, allowedTimes_concat]
      change prune _ ((checkRateLimit (exec checkRateLimit new calls) call).2.history key) = _
      by_cases hkey : call.request.key = key
      · subst hkey
        -- the queue is pruned at this request, and again at the later cutoff
        have hwindow := (hfixed call (List.mem_append_right _ List.mem_cons_self)).2
        have hallows : Allows call.request.key
            (stepAt checkRateLimit (exec checkRateLimit new calls) call)
              ↔ (checkRateLimit (exec checkRateLimit new calls) call).1.allowed = true :=
          and_iff_right rfl
        rw [history_checkRateLimit_self, pruned, hwindow, Int.cast_natCast,
          ih hfixed' hbefore hearlier,
          prune_prune_append (sub_le_sub_right hnow _)]
        simp only [hallows, stepAt_act]
      · have hnot : ¬ Allows key (stepAt checkRateLimit (exec checkRateLimit new calls) call) :=
          fun h => hkey h.1
        rw [history_checkRateLimit_of_ne (Ne.symm hkey), if_neg hnot, List.append_nil]
        exact ih hfixed' hbefore fun c hc => (hearlier c hc).trans hnow

theorem allowedTimes_pairwise (hordered : Ordered calls) (key : String × String) :
    (allowedTimes key (steps checkRateLimit new calls)).Pairwise (· ≤ ·) := by
  have hsteps : (steps checkRateLimit new calls).Pairwise fun c d => c.act.now ≤ d.act.now := by
    rw [Ordered, ← map_act_steps (f := checkRateLimit) new calls, List.pairwise_map] at hordered
    exact hordered
  rw [allowedTimes, List.pairwise_map]
  exact hsteps.filter _

/-- **A request is allowed** while fewer than its limit were allowed in its window. -/
theorem allowed_exec_iff (hfixed : Fixed limit window (calls ++ [call]))
    (hordered : Ordered (calls ++ [call])) :
    (checkRateLimit (exec checkRateLimit new calls) call).1.allowed = true
      ↔ (allowedTimes call.request.key (steps checkRateLimit new calls)).countP
        (fun t => call.now - window call.request.key ≤ t) < limit call.request.key := by
  obtain ⟨hbefore, -, hle⟩ := List.pairwise_append.mp hordered
  obtain ⟨hlimit, hwindow⟩ := hfixed call (List.mem_append_right _ List.mem_cons_self)
  have hqueue := prune_history (fun c hc => hfixed c (List.mem_append_left _ hc)) hbefore
    call.request.key fun c hc => hle c hc call List.mem_cons_self
  rw [allowed_iff, pruned, hlimit, hwindow, Int.cast_natCast, hqueue,
    prune_eq_filter (allowedTimes_pairwise hbefore _), List.countP_eq_length_filter,
    Int.ofNat_lt]

theorem spaced_allowedTimes (hfixed : Fixed limit window calls) (hordered : Ordered calls)
    (key : String × String) :
    Spaced (limit key) (window key : Rat) (allowedTimes key (steps checkRateLimit new calls)) := by
  induction calls using List.reverseRecOn with
  | nil => exact Spaced.nil
  | append_singleton calls call ih =>
      have hspaced := ih (fun c hc => hfixed c (List.mem_append_left _ hc))
        (List.pairwise_append.mp hordered).1
      rw [steps_concat, allowedTimes_concat]
      by_cases hallows : Allows key (stepAt checkRateLimit (exec checkRateLimit new calls) call)
      · obtain ⟨rfl, hallowed⟩ := hallows
        rw [if_pos ⟨rfl, hallowed⟩]
        exact hspaced.concat ((allowed_exec_iff hfixed hordered).mp hallowed)
      · rw [if_neg hallows, List.append_nil]
        exact hspaced

/-- **The limiter keeps its limits**: with the same limit and window for all the
    requests of a key, and a clock that does not run backwards. -/
theorem windowLaw (hfixed : Fixed limit window calls) (hordered : Ordered calls) :
    WindowLaw limit window calls := by
  constructor
  · exact fun key start => (spaced_allowedTimes hfixed hordered key).countP_le start
  · intro before c after hsplit
    obtain ⟨l, call, r, rfl, rfl, rfl, rfl⟩ := steps_eq_append_cons_iff.mp hsplit
    have hfirst : l ++ call :: r = (l ++ [call]) ++ r := by
      rw [List.append_assoc, List.singleton_append]
    rw [hfirst] at hfixed hordered
    have hordered' : Ordered (l ++ [call]) := (List.pairwise_append.mp hordered).1
    have hallowed := allowed_exec_iff (fun c hc => hfixed c (List.mem_append_left _ hc)) hordered'
    -- no time of the past is later than the request
    have hpast : ∀ t ∈ allowedTimes call.request.key (steps checkRateLimit new l),
        t ≤ call.now := by
      intro t ht
      obtain ⟨d, hd, rfl⟩ := List.mem_map.mp ht
      obtain ⟨m, call', q, rfl, rfl⟩ := mem_steps_iff.mp (List.mem_filter.mp hd).1
      exact (List.pairwise_append.mp hordered').2.2 call'
        (List.mem_append_right _ List.mem_cons_self) call List.mem_cons_self
    rw [stepAt_out, stepAt_act, hallowed]
    refine iff_of_eq (congrArg (· < _) (List.countP_congr fun t ht => ?_))
    rw [decide_eq_true_eq, decide_eq_true_eq]
    exact (and_iff_left (hpast t ht)).symm
  · intro key calls' hsame
    exact keyed.outcomes_eq new hsame

end SlidingWindowRateLimiter

/-! One request a minute: the second comes with the window's end, the third after it. -/

namespace SampleWindow

open SlidingWindowRateLimiter

theorem one_le_one : (1 : Int) ≤ 1 := le_refl 1

def request : RateLimitRequest where
  identifier := "buyer_101"
  action := "execute_intent"
  maxRequests := 1
  windowSeconds := 60
  identifier_ne := by decide
  one_le_max := one_le_one
  one_le_window := by decide

def calls : List LimitCall :=
  [⟨1000, 1000000000, request⟩, ⟨1060, 1060000000, request⟩, ⟨1061, 1061000000, request⟩]

example : (steps checkRateLimit new calls).map (fun c => (c.out.allowed, c.out.retryAfterSeconds))
    = [(true, 0), (false, 1 / 10), (true, 0)] := by decide +kernel

theorem fixed : Fixed (fun _ => 1) (fun _ => 60) calls := by
  intro call hcall
  have hrequest : call.request = request := by
    rcases List.mem_cons.mp hcall with rfl | hcall
    · rfl
    rcases List.mem_cons.mp hcall with rfl | hcall
    · rfl
    rw [List.mem_singleton.mp hcall]
  rw [hrequest]
  exact ⟨rfl, rfl⟩

theorem ordered : Ordered calls := by
  rw [Ordered, ← List.pairwise_map]
  decide +kernel

end SampleWindow

open SampleWindow SlidingWindowRateLimiter in
theorem sample_windowLaw : WindowLaw (fun _ => 1) (fun _ => 60) calls :=
  windowLaw fixed ordered

end MandateGateway
