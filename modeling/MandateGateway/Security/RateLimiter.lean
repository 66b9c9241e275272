import MandateGateway.Lib.OrderedMap

/-! # The sliding-window rate limiter

    For each category and identity the limiter keeps the times of the requests
    that it let through and that are in the window still.

    * `checkRateLimit_of_lt`: which requests are let through;
    * `timestamps_checkRateLimit`: what is kept of a request. -/

namespace MandateGateway

/-- `RateLimitExceededError`, and the index into an empty list. -/
inductive LimiterError where
  | rateLimitExceeded (message : String) (retryAfterSeconds : Int)
  | indexError
deriving DecidableEq

/-- `CATEGORY_LIMITS`: requests, and seconds. -/
def categoryLimits : List (String × Int × Int) := [
  ("AUTH_FAILURES", 5, 60),
  ("GENERAL_API", 100, 60),
  ("PAYMENT_EXECUTION", 20, 60),
  ("SENSITIVE_OPERATIONS", 10, 60),
  ("WEBHOOK_ENDPOINTS", 60, 60),
  ("INTERNAL_OPERATIONS", 30, 60)]

/-- The state of a `RateLimiter`; a time is in seconds. -/
structure RateLimiter where
  requestsPerMinute : Int
  windowSeconds     : Int
  history           : OrderedMap String (List Rat)

namespace RateLimiter

def getLimitForCategory (category : String) (limiter : RateLimiter) : Int × Int :=
  (OrderedMap.lookupEntries category categoryLimits).getD
    (limiter.requestsPerMinute, limiter.windowSeconds)

def compositeKey (category identityKey : String) : String := category ++ ":" ++ identityKey

/-- `self._history.get(key, [])`. -/
def timestamps (key : String) (limiter : RateLimiter) : List Rat :=
  (limiter.history.get key).getD []

def record (key : String) (times : List Rat) (limiter : RateLimiter) : RateLimiter :=
  { limiter with history := limiter.history.set key times }

/-- `int(x)`. -/
def truncate (x : Rat) : Int := x.num.tdiv x.den

/-- The times that are in the window still. -/
def validTimestamps (now : Rat) (category identityKey : String) (limiter : RateLimiter) :
    List Rat :=
  (limiter.timestamps (compositeKey category identityKey)).filter fun ts =>
    now - (limiter.getLimitForCategory category).2 < ts

def isAllowed (now : Rat) (identityKey category : String) (limiter : RateLimiter) :
    Except LimiterError (Bool × Int) × RateLimiter :=
  if identityKey = "" then (.ok (true, 0), limiter)
  else
    let limit := limiter.getLimitForCategory category
    let key := compositeKey category identityKey
    let valid := limiter.validTimestamps now category identityKey
    if limit.1 ≤ valid.length then
      match valid with
      -- `valid_timestamps[0]`, where the limit is not positive
      | [] => (.error .indexError, limiter.record key [])
      | oldest :: rest =>
          (.ok (false, max 1 (truncate (oldest + limit.2 - now))),
            limiter.record key (oldest :: rest))
    else (.ok (true, 0), limiter.record key (valid ++ [now]))

def checkRateLimit (now : Rat) (identityKey category : String) (limiter : RateLimiter) :
    Except LimiterError Unit × RateLimiter :=
  match limiter.isAllowed now identityKey category with
  | (.error err, limiter') => (.error err, limiter')
  | (.ok (true, _), limiter') => (.ok (), limiter')
  | (.ok (false, retryAfter), limiter') =>
      let limit := limiter.getLimitForCategory category
      (.error (.rateLimitExceeded (s!"Rate limit of {limit.1} requests per {limit.2}s exceeded "
        ++ s!"for category '{category}'.") retryAfter), limiter')

/-- `global_rate_limiter`, before any request. -/
def global : RateLimiter := ⟨100, 60, .empty⟩

/-! ## What a request finds -/

variable {now : Rat} {identityKey category key : String} {limiter : RateLimiter}

theorem timestamps_record_self (key : String) (times : List Rat) (limiter : RateLimiter) :
    (limiter.record key times).timestamps key = times :=
  congrArg (Option.getD · []) (limiter.history.get_set_self key times)

theorem timestamps_record_of_ne {key' : String} (h : key' ≠ key) (times : List Rat)
    (limiter : RateLimiter) :
    (limiter.record key times).timestamps key' = limiter.timestamps key' :=
  congrArg (Option.getD · []) (limiter.history.get_set_of_ne h times)

/-- **A request of an identity is let through, and kept, while fewer than the
    limit are in the window.** -/
theorem checkRateLimit_of_lt (hne : identityKey ≠ "")
    (hlt : ((limiter.validTimestamps now category identityKey).length : Int)
      < (limiter.getLimitForCategory category).1) :
    limiter.checkRateLimit now identityKey category
      = (.ok (), limiter.record (compositeKey category identityKey)
        (limiter.validTimestamps now category identityKey ++ [now])) := by
  rw [checkRateLimit, isAllowed, if_neg hne]
  dsimp only
  rw [if_neg (Int.not_le.mpr hlt)]

theorem checkRateLimit_cases (now : Rat) (identityKey category : String) (limiter : RateLimiter) :
    (limiter.checkRateLimit now identityKey category).2 = limiter
    ∨ (limiter.checkRateLimit now identityKey category).2
      = limiter.record (compositeKey category identityKey)
        (limiter.validTimestamps now category identityKey)
    ∨ (limiter.checkRateLimit now identityKey category).2
      = limiter.record (compositeKey category identityKey)
        (limiter.validTimestamps now category identityKey ++ [now]) := by
  rw [checkRateLimit, isAllowed]
  by_cases hempty : identityKey = ""
  · rw [if_pos hempty]
    exact .inl rfl
  · rw [if_neg hempty]
    dsimp only
    by_cases hfull : (limiter.getLimitForCategory category).1
        ≤ (limiter.validTimestamps now category identityKey).length
    · rw [if_pos hfull]
      refine .inr (.inl ?_)
      cases limiter.validTimestamps now category identityKey with
      | nil => rfl
      | cons oldest rest => rfl
    · rw [if_neg hfull]
      exact .inr (.inr rfl)

theorem timestamps_checkRateLimit_of_ne (h : key ≠ compositeKey category identityKey) :
    (limiter.checkRateLimit now identityKey category).2.timestamps key
      = limiter.timestamps key := by
  obtain hsame | hvalid | hadded := checkRateLimit_cases now identityKey category limiter
  · rw [hsame]
  · rw [hvalid, timestamps_record_of_ne h]
  · rw [hadded, timestamps_record_of_ne h]

theorem timestamps_checkRateLimit (key : String) :
    ((limiter.checkRateLimit now identityKey category).2.timestamps key).Sublist
      (limiter.timestamps key ++ [now]) := by
  by_cases hkey : key = compositeKey category identityKey
  · have hvalid : (limiter.validTimestamps now category identityKey).Sublist
        (limiter.timestamps key) := by
      rw [hkey]
      exact List.filter_sublist
    obtain hsame | hkept | hadded := checkRateLimit_cases now identityKey category limiter
    · rw [hsame]
      exact List.sublist_append_left _ _
    · rw [hkept, ← hkey, timestamps_record_self]
      exact hvalid.trans (List.sublist_append_left _ _)
    · rw [hadded, ← hkey, timestamps_record_self]
      exact hvalid.append (List.Sublist.refl [now])
  · rw [timestamps_checkRateLimit_of_ne hkey]
    exact List.sublist_append_left _ _

end RateLimiter

end MandateGateway
