import Mathlib.Data.Int.ConditionallyCompleteOrder
import Mathlib.Logic.Equiv.Basic
import Mathlib.Order.ConditionallyCompleteLattice.Basic
import MandateGateway.Lib.JsonRoundTrip
import MandateGateway.Lib.KeyedRuns
import MandateGateway.Replay.Engine

/-! # What the replay protection engine lets through

    A record keeps its identity closed for a time, or for good.  The engine is
    a timed gate over identities, and each identity has a cell of its own
    because different identities have different fingerprints. -/

namespace MandateGateway

open Clock OrderedMap Runs

/-! ## Fingerprints and records -/

/-- **Different identities have different fingerprints.** -/
theorem ReplayIdentity.fingerprint_injective {sha256 : String → String}
    (hsha : Function.Injective sha256) :
    Function.Injective (ReplayIdentity.fingerprint sha256) := by
  intro i j h
  have hobj : i.canonicalObj = j.canonicalObj := Json.compact_injective (hsha h)
  rw [canonicalObj, canonicalObj, Json.obj.injEq] at hobj
  simp only [List.cons.injEq, Prod.mk.injEq, Json.str.injEq, true_and, and_true] at hobj
  obtain ⟨hcart, hmandate, hmerchant, htransaction⟩ := hobj
  cases i
  cases j
  simp only [ReplayIdentity.mk.injEq]
  exact ⟨hcart, hmandate, hmerchant, htransaction⟩

def ReplayRecord.activeUntil (r : ReplayRecord) : WithTop Instant :=
  match r.expiresAt with
  | none => ⊤
  | some expiresAt => expiresAt

theorem ReplayRecord.isExpired_iff (r : ReplayRecord) (t : Instant) :
    r.isExpired t = true ↔ r.activeUntil ≤ t := by
  rw [isExpired, activeUntil]
  cases r.expiresAt with
  | none =>
      constructor
      · intro h
        cases h
      · intro h
        exact absurd (top_le_iff.mp h) (WithTop.coe_ne_top)
  | some x => rw [decide_eq_true_eq, WithTop.coe_le_coe]

namespace ReplayProtectionEngine

/-! ## Calls -/

/-- The arguments of a check. -/
structure ReplayCall where
  env           : Ambient
  mandateId     : String
  transactionId : String
  cartHash      : Option String
  merchantId    : Option String
  ttlSeconds    : Int
  at?           : Option Instant
deriving DecidableEq

namespace ReplayCall

def identity (call : ReplayCall) : ReplayIdentity :=
  .ofParts call.mandateId call.transactionId call.cartHash call.merchantId

def time (call : ReplayCall) : Instant := call.env.time call.at?

/-- Neither identifier is empty. -/
def WellFormed (call : ReplayCall) : Prop :=
  Text.strip call.mandateId ≠ "" ∧ Text.strip call.transactionId ≠ ""

/-- When the lifetime that the call asks for is over. -/
def reopens (call : ReplayCall) : WithTop Instant :=
  if 0 < call.ttlSeconds then ((call.time + call.ttlSeconds * 1000000 : Instant) : _) else ⊤

theorem time_lt_reopens (call : ReplayCall) : (call.time : WithTop Instant) < call.reopens := by
  have hlater : ∀ t n : Int, 0 < n → t < t + n * 1000000 := by omega
  rw [reopens]
  by_cases h : 0 < call.ttlSeconds
  · rw [if_pos h, WithTop.coe_lt_coe]
    exact hlater _ _ h
  · rw [if_neg h]
    exact WithTop.coe_lt_top _

theorem lt_reopens {call : ReplayCall} {t : Instant}
    (h : t < call.time + call.ttlSeconds * 1000000) : (t : WithTop Instant) < call.reopens := by
  rw [reopens]
  by_cases httl : 0 < call.ttlSeconds
  · rw [if_pos httl, WithTop.coe_lt_coe]
    exact h
  · rw [if_neg httl]
    exact WithTop.coe_lt_top _

theorem activeUntil_of_expiry {call : ReplayCall} {x : Option Instant} {r : ReplayRecord}
    (hx : replayExpiry call.time call.ttlSeconds = some x) (hr : r.expiresAt = x) :
    r.activeUntil = call.reopens := by
  rw [replayExpiry] at hx
  rw [ReplayRecord.activeUntil, hr, reopens]
  by_cases h : 0 < call.ttlSeconds
  · rw [if_pos h, Option.map_eq_some_iff] at hx
    obtain ⟨t, hadd, rfl⟩ := hx
    rw [if_pos h, addSeconds_eq_some hadd]
  · rw [if_neg h, Option.some.injEq] at hx
    rw [if_neg h, ← hx]

end ReplayCall

variable (sha256 : String → String)

def step (e : ReplayProtectionEngine) (call : ReplayCall) :
    Except PyError ReplayEvaluationResult × ReplayProtectionEngine :=
  checkAndRecord sha256 call.env call.mandateId call.transactionId call.cartHash call.merchantId
    call.ttlSeconds call.at? e

/-- A step of a run of the engine. -/
abbrev CheckStep :=
  Step ReplayProtectionEngine ReplayCall (Except PyError ReplayEvaluationResult)

def Allows (c : CheckStep) : Prop := ∃ r, c.out = .ok r ∧ r.isAllowed = true

def Replayed (c : CheckStep) : Prop :=
  ∃ r, c.out = .ok r ∧ r.valid = false ∧ r.decision = .reject
    ∧ r.rejectionReason = some .replayAttemptDetected

/-- What the store holds for an identity. -/
def recordOf (e : ReplayProtectionEngine) (i : ReplayIdentity) : Option ReplayRecord :=
  e.records.get (i.fingerprint sha256)

def closedUntil (e : ReplayProtectionEngine) (i : ReplayIdentity) : WithBot (WithTop Instant) :=
  match recordOf sha256 e i with
  | none => ⊥
  | some r => r.activeUntil

/-- The identity may be used at this time. -/
def OpenAt (e : ReplayProtectionEngine) (i : ReplayIdentity) (t : Instant) : Prop :=
  closedUntil sha256 e i ≤ ((t : WithTop Instant) : WithBot (WithTop Instant))

theorem active_iff (e : ReplayProtectionEngine) (i : ReplayIdentity) (t : Instant) :
    e.active (i.fingerprint sha256) t = true ↔ ¬ OpenAt sha256 e i t := by
  rw [active, OpenAt, closedUntil, recordOf]
  cases e.records.get (i.fingerprint sha256) with
  | none =>
      constructor
      · intro h
        cases h
      · intro h
        exact absurd bot_le h
  | some r =>
      rw [WithBot.coe_le_coe, ← r.isExpired_iff, Bool.not_eq_true', Bool.not_eq_true]

/-! ## What a call does -/

section Calls

variable {sha256} {e : ReplayProtectionEngine} {call : ReplayCall}

variable (sha256) in
theorem step_malformed (h : ¬ call.WellFormed) :
    ∃ r : ReplayEvaluationResult, r.isAllowed = false
      ∧ ∀ e, step sha256 e call = (.ok r, e) := by
  by_cases hm : Text.strip call.mandateId = ""
  · refine ⟨emptyReplayIdentifier "mandate_id" call.mandateId call.transactionId call.time, rfl, ?_⟩
    intro e
    rw [step, checkAndRecord, if_pos hm]
    rfl
  · have htx : Text.strip call.transactionId = "" := by
      by_contra htx
      exact h ⟨hm, htx⟩
    refine ⟨emptyReplayIdentifier "transaction_id" call.mandateId call.transactionId call.time,
      rfl, ?_⟩
    intro e
    rw [step, checkAndRecord, if_neg hm, if_pos htx]
    rfl

/-- The record of a first use. -/
def ReplayCall.record (sha256 : String → String) (call : ReplayCall) (expiresAt : Option Instant) :
    ReplayRecord :=
  ⟨call.identity.fingerprint sha256, call.mandateId, call.transactionId, call.time, expiresAt⟩

theorem step_wellFormed (h : call.WellFormed) :
    step sha256 e call
      = if e.active (call.identity.fingerprint sha256) call.time then
          (.ok (replayDetected (call.identity.fingerprint sha256) call.mandateId
            call.transactionId call.time), e)
        else match replayExpiry call.time call.ttlSeconds with
          | none => (.error .timestampOutOfRange, e)
          | some x =>
              (.ok (firstUse (call.identity.fingerprint sha256) call.mandateId
                call.transactionId call.time),
              ⟨e.records.set (call.identity.fingerprint sha256) (call.record sha256 x)⟩) := by
  rw [step, checkAndRecord, if_neg h.1, if_neg h.2]
  rfl

/-- A use of an identity that is closed is a replay. -/
theorem step_closed (h : call.WellFormed)
    (hclosed : ¬ OpenAt sha256 e call.identity call.time) :
    step sha256 e call = (.ok (replayDetected (call.identity.fingerprint sha256) call.mandateId
      call.transactionId call.time), e) := by
  rw [step_wellFormed h, if_pos ((active_iff sha256 e call.identity call.time).mpr hclosed)]

/-- A use of an identity that is open needs an expiry that the calendar has. -/
theorem step_open (h : call.WellFormed)
    (hopen : OpenAt sha256 e call.identity call.time) :
    step sha256 e call
      = match replayExpiry call.time call.ttlSeconds with
        | none => (.error .timestampOutOfRange, e)
        | some x =>
            (.ok (firstUse (call.identity.fingerprint sha256) call.mandateId call.transactionId
              call.time),
            ⟨e.records.set (call.identity.fingerprint sha256) (call.record sha256 x)⟩) := by
  have hinactive : ¬ e.active (call.identity.fingerprint sha256) call.time = true := by
    intro hactive
    exact (active_iff sha256 e call.identity call.time).mp hactive hopen
  rw [step_wellFormed h, if_neg hinactive]

/-- **What a call does: a malformed one is refused, one whose identity is
    closed is a replay, and the others record their use.** -/
inductive Effect (sha256 : String → String) (e : ReplayProtectionEngine) (call : ReplayCall) :
    Prop
  | malformed (r : ReplayEvaluationResult) (hmalformed : ¬ call.WellFormed)
      (hrefused : r.isAllowed = false) (hstep : step sha256 e call = (.ok r, e))
  | replayed (hwell : call.WellFormed)
      (hclosed : ¬ OpenAt sha256 e call.identity call.time)
      (hstep : step sha256 e call = (.ok (replayDetected (call.identity.fingerprint sha256)
        call.mandateId call.transactionId call.time), e))
  | outOfRange (hexpiry : replayExpiry call.time call.ttlSeconds = none)
      (hstep : step sha256 e call = (.error .timestampOutOfRange, e))
  | recorded (x : Option Instant) (hwell : call.WellFormed)
      (hopen : OpenAt sha256 e call.identity call.time)
      (hexpiry : replayExpiry call.time call.ttlSeconds = some x)
      (hstep : step sha256 e call
        = (.ok (firstUse (call.identity.fingerprint sha256) call.mandateId call.transactionId
            call.time),
          ⟨e.records.set (call.identity.fingerprint sha256) (call.record sha256 x)⟩))

theorem step_effect (sha256 : String → String) (e : ReplayProtectionEngine) (call : ReplayCall) :
    Effect sha256 e call := by
  by_cases hwell : call.WellFormed
  · by_cases hopen : OpenAt sha256 e call.identity call.time
    · have hstep := step_open hwell hopen
      cases hexpiry : replayExpiry call.time call.ttlSeconds with
      | none =>
          rw [hexpiry] at hstep
          exact .outOfRange hexpiry hstep
      | some x =>
          rw [hexpiry] at hstep
          exact .recorded x hwell hopen hexpiry hstep
    · exact .replayed hwell hopen (step_closed hwell hopen)
  · obtain ⟨r, hrefused, hstep⟩ := step_malformed sha256 hwell
    exact .malformed r hwell hrefused (hstep e)

/-- **A call is allowed when it is well formed, its identity is open, and the
    calendar has its expiry.** -/
theorem allows_iff :
    Allows (stepAt (step sha256) e call)
      ↔ call.WellFormed ∧ OpenAt sha256 e call.identity call.time
        ∧ replayExpiry call.time call.ttlSeconds ≠ none := by
  rw [Allows, stepAt_out]
  cases step_effect sha256 e call with
  | malformed r hmalformed hrefused hstep =>
      rw [hstep]
      constructor
      · rintro ⟨r', hout, hallowed⟩
        obtain rfl := Except.ok.inj hout
        rw [hrefused] at hallowed
        cases hallowed
      · rintro ⟨hwell, -⟩
        exact absurd hwell hmalformed
  | replayed hwell hclosed hstep =>
      rw [hstep]
      constructor
      · rintro ⟨r', hout, hallowed⟩
        obtain rfl := Except.ok.inj hout
        cases hallowed
      · rintro ⟨-, hopen, -⟩
        exact absurd hopen hclosed
  | outOfRange hexpiry hstep =>
      rw [hstep]
      constructor
      · rintro ⟨r', hout, -⟩
        cases hout
      · rintro ⟨-, -, hinRange⟩
        exact absurd hexpiry hinRange
  | recorded x hwell hopen hexpiry hstep =>
      rw [hstep]
      constructor
      · rintro -
        refine ⟨hwell, hopen, ?_⟩
        rw [hexpiry]
        exact Option.some_ne_none x
      · rintro -
        exact ⟨_, rfl, rfl⟩

theorem post_of_not_allows (h : ¬ Allows (stepAt (step sha256) e call)) :
    (step sha256 e call).2 = e := by
  cases step_effect sha256 e call with
  | malformed r hmalformed hrefused hstep => rw [hstep]
  | replayed hwell hclosed hstep => rw [hstep]
  | outOfRange hexpiry hstep => rw [hstep]
  | recorded x hwell hopen hexpiry hstep =>
      refine absurd (allows_iff.mpr ⟨hwell, hopen, ?_⟩) h
      rw [hexpiry]
      exact Option.some_ne_none x

theorem post_of_allows (h : Allows (stepAt (step sha256) e call)) :
    ∃ x, replayExpiry call.time call.ttlSeconds = some x
      ∧ (step sha256 e call).2
        = ⟨e.records.set (call.identity.fingerprint sha256) (call.record sha256 x)⟩ := by
  obtain ⟨hwell, hopen, hinRange⟩ := allows_iff.mp h
  obtain ⟨x, hexpiry⟩ := Option.ne_none_iff_exists'.mp hinRange
  refine ⟨x, hexpiry, ?_⟩
  rw [step_open hwell hopen, hexpiry]

theorem replayed_of_closed (h : call.WellFormed)
    (hclosed : ¬ OpenAt sha256 e call.identity call.time) :
    Replayed (stepAt (step sha256) e call) := by
  rw [Replayed, stepAt_out, step_closed h hclosed]
  exact ⟨_, rfl, rfl, rfl, rfl⟩

theorem isReplayed_iff (h : call.WellFormed) :
    isReplayed sha256 call.env call.mandateId call.transactionId call.cartHash call.merchantId
        call.at? e = true
      ↔ Replayed (stepAt (step sha256) e call) := by
  show e.active (call.identity.fingerprint sha256) call.time = true ↔ _
  rw [active_iff]
  constructor
  · exact replayed_of_closed h
  · rintro ⟨r, hout, -, -, hreason⟩ hopen
    rw [stepAt_out, step_open h hopen] at hout
    cases hexpiry : replayExpiry call.time call.ttlSeconds with
    | none =>
        rw [hexpiry] at hout
        cases hout
    | some x =>
        rw [hexpiry] at hout
        obtain rfl := Except.ok.inj hout
        cases hreason

end Calls

/-! ## Independent identities and their times -/

section

variable {sha256}

/-- What a call answers, and the record it leaves, depend on the record there is. -/
theorem step_congr {e e' : ReplayProtectionEngine} {call : ReplayCall}
    (h : recordOf sha256 e call.identity = recordOf sha256 e' call.identity) :
    (step sha256 e call).1 = (step sha256 e' call).1
      ∧ recordOf sha256 (step sha256 e call).2 call.identity
        = recordOf sha256 (step sha256 e' call).2 call.identity := by
  by_cases hwell : call.WellFormed
  · have hiff : OpenAt sha256 e call.identity call.time
        ↔ OpenAt sha256 e' call.identity call.time := by
      rw [OpenAt, OpenAt, closedUntil, closedUntil, h]
    by_cases hopen : OpenAt sha256 e call.identity call.time
    · rw [step_open hwell hopen, step_open hwell (hiff.mp hopen)]
      cases replayExpiry call.time call.ttlSeconds with
      | none => exact ⟨rfl, h⟩
      | some x =>
          refine ⟨rfl, ?_⟩
          rw [recordOf, recordOf, get_set_self, get_set_self]
    · have hclosed : ¬ OpenAt sha256 e' call.identity call.time := fun h' => hopen (hiff.mpr h')
      rw [step_closed hwell hopen, step_closed hwell hclosed]
      exact ⟨rfl, h⟩
  · obtain ⟨r, -, hstep⟩ := step_malformed sha256 hwell
    rw [hstep e, hstep e']
    exact ⟨rfl, h⟩

theorem records_keyed (hsha : Function.Injective sha256) :
    Keyed (step sha256) ReplayCall.identity (recordOf sha256) where
  out := fun _ _ _ h => (step_congr h).1
  own := fun _ _ _ h => (step_congr h).2
  other := by
    intro e call i hne
    by_cases hallows : Allows (stepAt (step sha256) e call)
    · obtain ⟨x, -, hpost⟩ := post_of_allows hallows
      have hother : i.fingerprint sha256 ≠ call.identity.fingerprint sha256 := by
        intro heq
        exact hne (ReplayIdentity.fingerprint_injective hsha heq).symm
      rw [recordOf, hpost, get_set_of_ne _ hother]
      rfl
    · rw [post_of_not_allows hallows]

theorem recorded_gate (hsha : Function.Injective sha256) :
    TimedGate (step sha256) ReplayCall.identity (closedUntil sha256) ReplayCall.time
      ReplayCall.reopens Allows where
  later := ReplayCall.time_lt_reopens
  opened := by
    intro e call hallows
    exact (allows_iff.mp hallows).2.1
  closed := by
    intro e call hallows
    obtain ⟨x, hexpiry, hpost⟩ := post_of_allows hallows
    rw [closedUntil, recordOf, hpost, get_set_self]
    exact congrArg _ (ReplayCall.activeUntil_of_expiry hexpiry rfl)
  kept := by
    intro e call i hnot
    rw [closedUntil, closedUntil]
    by_cases hallows : Allows (stepAt (step sha256) e call)
    · have hne : call.identity ≠ i := fun heq => hnot ⟨hallows, heq⟩
      rw [(records_keyed hsha).other e call i hne]
    · rw [post_of_not_allows hallows]

/-- **After a run, a call is allowed when it is well formed, the calendar has
    its expiry, and every use of its identity that was allowed has expired.** -/
theorem allows_iff_expired (hsha : Function.Injective sha256) (calls : List ReplayCall)
    (call : ReplayCall) :
    Allows (stepAt (step sha256) (exec (step sha256) new calls) call)
      ↔ call.WellFormed ∧ replayExpiry call.time call.ttlSeconds ≠ none
        ∧ ∀ c ∈ steps (step sha256) new calls, Allows c → c.act.identity = call.identity →
          c.act.reopens ≤ call.time := by
  have hnew : closedUntil sha256 new call.identity
      ≤ ((call.time : WithTop Instant) : WithBot (WithTop Instant)) := bot_le
  rw [allows_iff, OpenAt, (recorded_gate hsha).closedUntil_le_iff]
  simp only [WithBot.coe_le_coe]
  constructor
  · rintro ⟨hwell, ⟨-, hexpired⟩, hinRange⟩
    exact ⟨hwell, hinRange, hexpired⟩
  · rintro ⟨hwell, hinRange, hexpired⟩
    exact ⟨hwell, ⟨hnew, hexpired⟩, hinRange⟩

theorem closed_while_live (hsha : Function.Injective sha256) {calls : List ReplayCall}
    {c : CheckStep} (hc : c ∈ steps (step sha256) new calls) (hallows : Allows c) {t : Instant}
    (ht : t < c.act.time + c.act.ttlSeconds * 1000000) :
    ¬ OpenAt sha256 (exec (step sha256) new calls) c.act.identity t := by
  have hreopens := (recorded_gate hsha).reopens_le hc hallows
  have hlive : ((t : WithTop Instant) : WithBot (WithTop Instant)) < c.act.reopens :=
    WithBot.coe_lt_coe.mpr (ReplayCall.lt_reopens ht)
  exact not_le.mpr (hlive.trans_le hreopens)

theorem wellFormed_of_same {c : CheckStep} {calls : List ReplayCall} {call : ReplayCall}
    (hc : c ∈ steps (step sha256) new calls) (hallows : Allows c)
    (hsame : c.act.identity = call.identity) : call.WellFormed := by
  obtain ⟨l, first, r, rfl, rfl⟩ := mem_steps_iff.mp hc
  obtain ⟨⟨hm, htx⟩, -⟩ := allows_iff.mp hallows
  rw [stepAt_act] at hsame
  have hm' : Text.strip first.mandateId = Text.strip call.mandateId :=
    congrArg ReplayIdentity.mandateId hsame
  have htx' : Text.strip first.transactionId = Text.strip call.transactionId :=
    congrArg ReplayIdentity.transactionId hsame
  exact ⟨hm' ▸ hm, htx' ▸ htx⟩

/-- **In every run, two allowed uses of one identity are at least the earlier
    lifetime apart, every use in between is rejected as a replay, and the
    outcomes of an identity are those of its own calls alone.** -/
theorem replays_blocked (hsha : Function.Injective sha256) (calls : List ReplayCall) :
    (∀ before c after, steps (step sha256) new calls = before ++ c :: after →
      ∀ c₀ ∈ before, Allows c₀ → c₀.act.identity = c.act.identity → Allows c →
        c₀.act.time + c₀.act.ttlSeconds * 1000000 ≤ c.act.time)
    ∧ (∀ before c after, steps (step sha256) new calls = before ++ c :: after →
      ∀ c₀ ∈ before, Allows c₀ → c₀.act.identity = c.act.identity →
        c.act.time < c₀.act.time + c₀.act.ttlSeconds * 1000000 → Replayed c)
    ∧ ∀ i calls', calls.filter (fun call => call.identity = i)
        = calls'.filter (fun call => call.identity = i) →
      outcomes (step sha256) ReplayCall.identity i new calls
        = outcomes (step sha256) ReplayCall.identity i new calls' := by
  refine ⟨?_, ?_, ?_⟩
  · intro before c after hsplit c₀ hc₀ hallows hsame hagain
    obtain ⟨l, call, r, rfl, rfl, rfl, rfl⟩ := steps_eq_append_cons_iff.mp hsplit
    rw [stepAt_act] at hsame ⊢
    by_contra hlive
    have hclosed := closed_while_live hsha hc₀ hallows (not_le.mp hlive)
    rw [hsame] at hclosed
    exact hclosed (allows_iff.mp hagain).2.1
  · intro before c after hsplit c₀ hc₀ hallows hsame hlive
    obtain ⟨l, call, r, rfl, rfl, rfl, rfl⟩ := steps_eq_append_cons_iff.mp hsplit
    rw [stepAt_act] at hsame hlive
    have hclosed := closed_while_live hsha hc₀ hallows hlive
    rw [hsame] at hclosed
    exact replayed_of_closed (wellFormed_of_same hc₀ hallows hsame) hclosed
  · intro i calls' hsame
    exact (records_keyed hsha).outcomes_eq new hsame

end

/-! ## A use that is spelled in another way -/

namespace Sample

def call (seconds : Int) (mandateId transactionId cartHash : String) : ReplayCall where
  env := ⟨1709210096000000 + seconds * 1000000, "0a1b2c3d"⟩
  mandateId := mandateId
  transactionId := transactionId
  cartHash := some cartHash
  merchantId := some "merchant-1"
  ttlSeconds := defaultTtlSeconds
  at? := none

def first : ReplayCall := call 0 "mandate-1" "tx-1" "A1B2"

def other : ReplayCall := call 1 "mandate-1" "tx-2" "A1B2"

def respelled : ReplayCall := call 86399 " mandate-1" "tx-1 " "a1b2"

def digest (text : String) : String :=
  Equiv.swap first.identity.canonicalObj.compact
      "7b439a585cce22d76d605f44711f3e2bbfeea0b71ebae2a17b2d45feca194f1f"
    (Equiv.swap other.identity.canonicalObj.compact
      "23818d51435384a4c48f7b2e574eb1b6dcff9169c946122b1b956544f138f4a5" text)

theorem digest_injective : Function.Injective digest :=
  (Equiv.injective _).comp (Equiv.injective _)

example : other.identity.fingerprint digest
    = "23818d51435384a4c48f7b2e574eb1b6dcff9169c946122b1b956544f138f4a5" := by
  decide +kernel

theorem first_allows : Allows (stepAt (step digest) new first) :=
  allows_iff.mpr ⟨⟨by decide, by decide⟩, bot_le, by decide⟩

end Sample

theorem replays_blocked_respelled :
    Replayed (stepAt (step Sample.digest)
      (exec (step Sample.digest) new [Sample.first, Sample.other]) Sample.respelled) :=
  (replays_blocked Sample.digest_injective [Sample.first, Sample.other, Sample.respelled]).2.1
    (steps (step Sample.digest) new [Sample.first, Sample.other]) _ [] rfl _ List.mem_cons_self
    Sample.first_allows (by decide) (by decide)

theorem respelled_not_allowed :
    ¬ Allows (stepAt (step Sample.digest)
      (exec (step Sample.digest) new [Sample.first]) Sample.respelled) := by
  rw [allows_iff_expired Sample.digest_injective]
  rintro ⟨-, -, hexpired⟩
  have hreopens := hexpired _ List.mem_cons_self Sample.first_allows (by decide)
  exact absurd hreopens (by decide)

end ReplayProtectionEngine

end MandateGateway
