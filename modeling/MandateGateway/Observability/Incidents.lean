import MandateGateway.Lib.OrderedMap
import MandateGateway.Lib.Runs
import MandateGateway.Values

/-! # Incidents

    Four counters keep the times of what went wrong under a key, and raise an incident
    when enough of them are within a minute.  The incidents are a log of bounded length.

    * `raises_iff`: which calls of a run raise one;
    * `queryIncidents_exec`: what a query finds after a run. -/

namespace MandateGateway

open Clock Runs

inductive IncidentCounter where
  | authFailure
  | rateLimit
  | webhookForgery
  | replayAttack
deriving DecidableEq

structure IncidentRecord where
  incidentId      : String
  classification  : String
  severity        : String
  status          : String
  ruleId          : String
  evidenceSummary : String
  correlationId   : String
  merchantId      : Option String
  detectedAt      : Instant
  metadata        : List (String × PyValue)

/-- The readings of the clock, a fresh identifier, and the context of the request. -/
structure IncidentEnv where
  now           : Instant
  detectedAt    : Instant
  uuidHex       : String
  correlationId : Option String
  requestId     : Option String
  merchantId    : Option String

structure IncidentEngine where
  incidents    : List IncidentRecord
  maxIncidents : Int
  counts       : IncidentCounter → OrderedMap String (List Instant)

/-- The fields that a detection gives to its incident. -/
structure IncidentReport where
  classification  : String
  severity        : String
  ruleId          : String
  evidenceSummary : String
  merchantId      : Option String
  correlationId   : Option String
  metadata        : List (String × PyValue)

namespace IncidentEngine

def new (maxIncidents : Int) : IncidentEngine := ⟨[], maxIncidents, fun _ => .empty⟩

/-- `x or y` of texts that may be missing. -/
def orElse (x y : Option String) : Option String := if x.getD "" = "" then y else x

def raiseIncident (env : IncidentEnv) (report : IncidentReport) (e : IncidentEngine) :
    IncidentRecord × IncidentEngine :=
  let incident : IncidentRecord := {
    incidentId := "inc_" ++ env.uuidHex
    classification := report.classification
    severity := report.severity
    status := "OPEN"
    ruleId := report.ruleId
    evidenceSummary := report.evidenceSummary
    correlationId := orElseText report.correlationId
      (orElseText env.correlationId (orElseText env.requestId "corr_anon"))
    merchantId := orElse report.merchantId env.merchantId
    detectedAt := env.detectedAt
    metadata := report.metadata }
  -- one comes in, so one goes out at most
  let incidents := e.incidents ++ [incident]
  (incident,
    { e with incidents := if e.maxIncidents < incidents.length then incidents.tail else incidents })

/-- The times of a counter under a key. -/
def history (e : IncidentEngine) (counter : IncidentCounter) (key : String) : List Instant :=
  ((e.counts counter).get key).getD []

/-- A minute in microseconds. -/
def window : Int := 60 * 1000000

/-- `[t for t in history if (now - t).total_seconds() <= 60]`, with the call's own time. -/
def recent (now : Instant) (times : List Instant) : List Instant :=
  (times ++ [now]).filter fun t => now - t ≤ window

/-- A call is counted, and reported when its counter has reached the threshold. -/
def detect (env : IncidentEnv) (counter : IncidentCounter) (key : String) (threshold : Nat)
    (report : Nat → IncidentReport) (e : IncidentEngine) :
    Option IncidentRecord × IncidentEngine :=
  let times := recent env.now (e.history counter key)
  let e := { e with counts := fun c =>
    if c = counter then (e.counts c).set key times else e.counts c }
  if threshold ≤ times.length then
    let (incident, e) := e.raiseIncident env (report times.length)
    (some incident, e)
  else (none, e)

end IncidentEngine

/-- A call of the engine; `tenantIsolationViolation` and `incident` are not counted. -/
inductive IncidentCall where
  | authFailure (env : IncidentEnv) (credentialFingerprint : String) (merchantId : Option String)
  | rateLimitViolation (env : IncidentEnv) (key category : String) (merchantId : Option String)
  | tenantIsolationViolation (env : IncidentEnv)
      (authenticatedMerchantId targetMerchantId : String)
  | webhookForgery (env : IncidentEnv) (eventType : String) (merchantId : Option String)
  | replayAttack (env : IncidentEnv) (idempotencyKey : String) (merchantId : Option String)
  | incident (env : IncidentEnv) (report : IncidentReport)

namespace IncidentCall

def env : IncidentCall → IncidentEnv
  | authFailure env _ _ | rateLimitViolation env _ _ _ | tenantIsolationViolation env _ _
  | webhookForgery env _ _ | replayAttack env _ _ | incident env _ => env

def counted : IncidentCall → Option (IncidentCounter × String × Nat)
  | authFailure _ fingerprint _ => some (.authFailure, fingerprint, 5)
  | rateLimitViolation _ key _ _ => some (.rateLimit, key, 5)
  | webhookForgery _ _ merchantId => some (.webhookForgery, orElseText merchantId "anon", 2)
  | replayAttack _ idempotencyKey _ => some (.replayAttack, idempotencyKey, 2)
  | _ => none

/-- What the call reports, with `n` times in the window. -/
def report (n : Nat) : IncidentCall → IncidentReport
  | authFailure _ fingerprint merchantId =>
      ⟨"SECURITY", "HIGH", "AUTH_ABUSE_DETECTED", s!"Detected {n} failed auth attempts "
        ++ s!"within 60s for credential fingerprint '{fingerprint}'", merchantId, none,
        [("credential_fingerprint", .str fingerprint), ("failure_count", .int n)]⟩
  | rateLimitViolation _ key category merchantId =>
      ⟨"ABUSE", "MEDIUM", "RATE_LIMIT_ABUSE_DETECTED", s!"Detected {n} rate limit violations for "
        ++ s!"key '{key}' in category '{category}'", merchantId, none,
        [("rate_limit_key", .str key), ("category", .str category), ("count", .int n)]⟩
  | tenantIsolationViolation _ authenticated target =>
      ⟨"SECURITY", "CRITICAL", "TENANT_PROBING_DETECTED", s!"Merchant '{authenticated}' "
        ++ s!"attempted cross-tenant access targeting merchant '{target}'", authenticated, none,
        [("authenticated_merchant_id", .str authenticated), ("target_merchant_id", .str target)]⟩
  | webhookForgery _ eventType merchantId =>
      ⟨"SECURITY", "HIGH", "WEBHOOK_FORGERY_DETECTED", s!"Detected {n} invalid webhook HMAC "
        ++ s!"signatures for event type '{eventType}'", merchantId, none,
        [("event_type", .str eventType), ("forgery_count", .int n)]⟩
  | replayAttack _ idempotencyKey merchantId =>
      ⟨"SECURITY", "HIGH", "REPLAY_ATTACK_DETECTED", "Detected repeated duplicate replay "
        ++ s!"fingerprint attempts for idempotency key '{idempotencyKey}'", merchantId, none,
        [("idempotency_key", .str idempotencyKey), ("count", .int n)]⟩
  | incident _ report => report

def CountsFor (counter : IncidentCounter) (key : String) (c : IncidentCall) : Prop :=
  c.counted.map (fun x => (x.1, x.2.1)) = some (counter, key)

instance (counter : IncidentCounter) (key : String) : DecidablePred (CountsFor counter key) :=
  fun c => inferInstanceAs (Decidable (c.counted.map _ = _))

end IncidentCall

namespace IncidentEngine

/-- `record_auth_failure`, `record_rate_limit_violation`, `record_tenant_isolation_violation`,
    `record_webhook_forgery`, `record_replay_attack` and `raise_incident`. -/
def step (e : IncidentEngine) (call : IncidentCall) : Option IncidentRecord × IncidentEngine :=
  match call.counted with
  | some (counter, key, threshold) =>
      detect call.env counter key threshold (fun n => call.report n) e
  | none =>
      let (incident, e) := e.raiseIncident call.env (call.report 0)
      (some incident, e)

/-- The filters of a query; an empty text filters nothing. -/
structure IncidentFilter where
  classification : Option String
  severity       : Option String
  status         : Option String
  merchantId     : Option String

def IncidentFilter.admits (f : IncidentFilter) (inc : IncidentRecord) : Bool :=
  let agrees (filter value : Option String) : Bool := filter.getD "" = "" || value = filter
  agrees f.classification inc.classification && agrees f.severity inc.severity
    && agrees f.status inc.status && agrees f.merchantId inc.merchantId

/-- The loop of a query, with what it has found. -/
def collect (f : IncidentFilter) (limit : Int) (results : List IncidentRecord) :
    List IncidentRecord → List IncidentRecord
  | [] => results
  | inc :: rest =>
      if f.admits inc = false then collect f limit results rest
      -- looked at after the incident is in, so that a limit of 0 lets one through
      else if limit ≤ (results ++ [inc]).length then results ++ [inc]
      else collect f limit (results ++ [inc]) rest

def queryIncidents (e : IncidentEngine) (f : IncidentFilter) (limit : Int) :
    List IncidentRecord :=
  collect f limit [] e.incidents.reverse

/-! ## Runs -/

abbrev IncidentStep : Type := Step IncidentEngine IncidentCall (Option IncidentRecord)

/-- What a run has raised, in order. -/
def raised (past : List IncidentStep) : List IncidentRecord := past.filterMap Step.out

/-- The times of the calls that count under the counter and the key. -/
def timesOf (past : List IncidentStep) (counter : IncidentCounter) (key : String) : List Instant :=
  (past.filter fun c => c.act.CountsFor counter key).map fun c => c.act.env.now

variable {e : IncidentEngine} {call : IncidentCall} {counter : IncidentCounter} {key : String}

/-- The log is what was raised last, and each history has, as far as it is within a minute
    of any later time, the times of its calls. -/
structure Follows (max : Int) (past : List IncidentStep) (e : IncidentEngine) : Prop where
  max_eq    : e.maxIncidents = max
  incidents : e.incidents = (raised past).drop ((raised past).length - max.toNat)
  history   : ∀ counter key now, (∀ t ∈ timesOf past counter key, t ≤ now) →
    (e.history counter key).filter (fun t => now - t ≤ window)
      = (timesOf past counter key).filter fun t => now - t ≤ window

/-- What one more incident leaves of the log. -/
theorem drop_concat {α : Type} (max : Int) (xs : List α) (x : α) :
    (if max < ((xs.drop (xs.length - max.toNat) ++ [x]).length : Int)
      then (xs.drop (xs.length - max.toNat) ++ [x]).tail
      else xs.drop (xs.length - max.toNat) ++ [x])
      = (xs ++ [x]).drop ((xs ++ [x]).length - max.toNat) := by
  have hkept : xs.drop (xs.length - max.toNat) ++ [x]
      = (xs ++ [x]).drop (xs.length - max.toNat) :=
    (List.drop_append_of_le_length (Nat.sub_le _ _)).symm
  rw [hkept, List.tail_drop, List.length_drop, List.length_append, List.length_singleton]
  by_cases hfull : max.toNat ≤ xs.length
  · rw [if_pos (by omega)]
    congr 1
    omega
  · rw [if_neg (by omega)]
    congr 1
    omega

theorem timesOf_concat (past : List IncidentStep) (c : IncidentStep) :
    timesOf (past ++ [c]) counter key
      = timesOf past counter key
        ++ if c.act.CountsFor counter key then [c.act.env.now] else [] := by
  rw [timesOf, List.filter_append, List.map_append, timesOf]
  by_cases hcounts : c.act.CountsFor counter key
  · simp [hcounts]
  · simp [hcounts]

theorem step_of_none (h : call.counted = none) :
    step e call = (some (e.raiseIncident call.env (call.report 0)).1,
      (e.raiseIncident call.env (call.report 0)).2) := by
  rw [step, h]

theorem raise_follows {max : Int} {raised : List IncidentRecord} (hmax : e.maxIncidents = max)
    (h : e.incidents = raised.drop (raised.length - max.toNat)) (env : IncidentEnv)
    (report : IncidentReport) :
    (e.raiseIncident env report).2.incidents
      = (raised ++ [(e.raiseIncident env report).1]).drop
          ((raised ++ [(e.raiseIncident env report).1]).length - max.toNat) := by
  rw [← drop_concat, ← h, ← hmax]
  rfl

theorem history_detect (env : IncidentEnv) (counter' : IncidentCounter) (key' : String)
    (threshold : Nat) (report : Nat → IncidentReport) (e : IncidentEngine) :
    (detect env counter' key' threshold report e).2.history counter key
      = if counter = counter' ∧ key = key' then recent env.now (e.history counter key)
        else e.history counter key := by
  have hcounts : ∀ c, (detect env counter' key' threshold report e).2.counts c
      = if c = counter' then (e.counts c).set key' (recent env.now (e.history counter' key'))
        else e.counts c := by
    intro c
    dsimp only [detect]
    split <;> rfl
  rw [history, hcounts]
  by_cases hcounter : counter = counter'
  · subst hcounter
    by_cases hkey : key = key'
    · subst hkey
      rw [if_pos rfl, if_pos ⟨rfl, rfl⟩, OrderedMap.get_set_self]
      rfl
    · rw [if_pos rfl, if_neg fun h => hkey h.2, OrderedMap.get_set_of_ne _ hkey]
      rfl
  · rw [if_neg hcounter, if_neg fun h => hcounter h.1]
    rfl

theorem history_step (e : IncidentEngine) (call : IncidentCall) (counter : IncidentCounter)
    (key : String) : (step e call).2.history counter key
      = if call.CountsFor counter key then recent call.env.now (e.history counter key)
        else e.history counter key := by
  cases hcounted : call.counted with
  | none =>
      rw [step_of_none hcounted, if_neg (by simp [IncidentCall.CountsFor, hcounted])]
      rfl
  | some x =>
      obtain ⟨counter', key', threshold⟩ := x
      rw [step, hcounted, history_detect]
      refine if_congr ?_ rfl rfl
      simp only [IncidentCall.CountsFor, hcounted, Option.map_some, Option.some.injEq,
        Prod.mk.injEq, eq_comm]

theorem filter_recent {now now' : Instant} (h : now ≤ now') (times : List Instant) :
    (recent now times).filter (fun t => now' - t ≤ window)
      = (times ++ [now]).filter fun t => now' - t ≤ window := by
  rw [recent, List.filter_filter]
  refine List.filter_congr fun t _ => ?_
  rw [Bool.and_eq_left_iff_imp]
  intro hlate
  exact decide_eq_true (Int.le_trans (Int.sub_le_sub_right h t) (of_decide_eq_true hlate))

theorem raised_concat (past : List IncidentStep) (e : IncidentEngine) (call : IncidentCall) :
    raised (past ++ [stepAt step e call]) = raised past ++ (step e call).1.toList := by
  rw [raised, List.filterMap_append]
  cases hout : (step e call).1 <;> simp [hout, raised]

theorem follows_step {max : Int} {past : List IncidentStep} (h : Follows max past e) :
    Follows max (past ++ [stepAt step e call]) (step e call).2 := by
  refine ⟨?_, ?_, ?_⟩
  · rw [← h.max_eq, step]
    split
    · dsimp only [detect]
      split <;> rfl
    · rfl
  · rw [raised_concat]
    cases hcounted : call.counted with
    | none =>
        rw [step_of_none hcounted]
        exact raise_follows h.max_eq h.incidents _ _
    | some x =>
        rw [step, hcounted]
        dsimp only [detect]
        split
        · exact raise_follows (by exact h.max_eq) (by exact h.incidents) _ _
        · rw [Option.toList_none, List.append_nil]
          exact h.incidents
  · intro counter key now hlate
    rw [timesOf_concat, stepAt_act] at hlate ⊢
    rw [history_step]
    -- what a call has pruned is more than a minute before any later one
    have hold := h.history counter key now fun t ht => hlate t (List.mem_append_left _ ht)
    by_cases hcounts : call.CountsFor counter key
    · rw [if_pos hcounts] at hlate ⊢
      rw [if_pos hcounts, filter_recent (hlate _ (List.mem_append_right _ List.mem_cons_self)),
        List.filter_append, List.filter_append, hold]
    · rw [if_neg hcounts, if_neg hcounts, List.append_nil]
      exact hold

theorem follows_exec (max : Int) (calls : List IncidentCall) :
    Follows max (steps step (new max) calls) (exec step (new max) calls) :=
  history_inv (P := fun _ => True) (H := Follows max) (fun _ _ _ h _ => follows_step h)
    ⟨rfl, by simp [new, raised], fun _ _ _ _ => rfl⟩ fun _ _ => trivial

/-- Behind a run whose clock does not run backwards under the key, a counted call raises
    an incident exactly when the earlier calls within a minute, and it, reach the threshold. -/
theorem raises_iff (max : Int) (calls : List IncidentCall) {call : IncidentCall}
    {counter : IncidentCounter} {key : String} {threshold : Nat}
    (hcounted : call.counted = some (counter, key, threshold))
    (hclock : ∀ t ∈ timesOf (steps step (new max) calls) counter key, t ≤ call.env.now) :
    (step (exec step (new max) calls) call).1.isSome
      ↔ threshold ≤ (timesOf (steps step (new max) calls) counter key).countP
          (fun t => call.env.now - t ≤ window) + 1 := by
  have hself : decide (call.env.now - call.env.now ≤ window) = true :=
    decide_eq_true (by rw [Int.sub_self]; decide)
  -- the times that were kept and those of the calls agree within the minute
  have hcount : (recent call.env.now
        ((exec step (new max) calls).history counter key)).length
      = (timesOf (steps step (new max) calls) counter key).countP
          (fun t => call.env.now - t ≤ window) + 1 := by
    rw [recent, List.filter_append, (follows_exec max calls).history counter key _ hclock,
      List.length_append, List.filter_cons, if_pos hself, List.countP_eq_length_filter]
    rfl
  rw [← hcount, step, hcounted]
  dsimp only [detect]
  split
  · exact iff_of_true rfl ‹_›
  · exact iff_of_false Bool.false_ne_true ‹_›

theorem collect_eq (f : IncidentFilter) (limit : Int) (incidents : List IncidentRecord) :
    ∀ results : List IncidentRecord, (results.length : Int) < max 1 limit →
      collect f limit results incidents
        = results ++ (incidents.filter f.admits).take ((max 1 limit).toNat - results.length) := by
  -- over what is still to be looked at, with room for one more in the results
  induction incidents with
  | nil => intro results _; simp [collect]
  | cons inc rest ih =>
      intro results hroom
      rw [collect]
      by_cases hadmits : f.admits inc = false
      · rw [if_pos hadmits, List.filter_cons_of_neg (by simp [hadmits]), ih results hroom]
      · have htake : (max 1 limit).toNat - results.length
            = ((max 1 limit).toNat - (results ++ [inc]).length) + 1 := by
          rw [List.length_append, List.length_singleton]
          omega
        rw [if_neg hadmits, List.filter_cons_of_pos (by simpa using hadmits), htake,
          List.take_succ_cons, List.append_cons results inc (List.take _ _)]
        by_cases hfull : limit ≤ (results ++ [inc]).length
        · have hnone : (max 1 limit).toNat - (results ++ [inc]).length = 0 := by
            rw [List.length_append, List.length_singleton] at hfull ⊢
            omega
          rw [if_pos hfull, hnone, List.take_zero, List.append_nil]
        · rw [if_neg hfull, ih _ (by omega)]

namespace Sample

def attempt : IncidentCall :=
  .authFailure ⟨1000000, 1000001, "0f", none, none, none⟩ "key_a" none

theorem fifth_attempt_raises :
    (step (exec step (new 500) (List.replicate 4 attempt)) attempt).1.isSome
      ∧ ¬(step (exec step (new 500) (List.replicate 3 attempt)) attempt).1.isSome := by
  refine ⟨(raises_iff 500 (List.replicate 4 attempt) rfl ?_).mpr ?_,
    fun h => absurd ((raises_iff 500 (List.replicate 3 attempt) rfl ?_).mp h) ?_⟩
  · decide
  · decide
  · decide
  · decide

end Sample

/-- After any run, a query finds the newest of the last `maxIncidents` incidents that its
    filters admit, up to its limit, but one even where the limit allows none. -/
theorem queryIncidents_exec (maxIncidents : Int) (calls : List IncidentCall) (f : IncidentFilter)
    (limit : Int) :
    queryIncidents (exec step (new maxIncidents) calls) f limit
      = (((raised (steps step (new maxIncidents) calls)).reverse.take maxIncidents.toNat).filter
          f.admits).take (max 1 limit).toNat := by
  have hroom : (([] : List IncidentRecord).length : Int) < max 1 limit := by
    rw [List.length_nil]
    omega
  rw [queryIncidents, collect_eq f limit _ [] hroom, (follows_exec maxIncidents calls).incidents,
    List.take_reverse]
  rfl

end IncidentEngine

end MandateGateway
