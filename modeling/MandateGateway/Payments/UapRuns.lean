import MandateGateway.Lib.Runs
import MandateGateway.Payments.Uap

/-! # Runs of the authorization layer

    An authorization keeps the terms that it is issued with, and never becomes
    active again (`Effect.kept`).  So what is revoked, suspended, consumed or
    over its time stays out of use (`Ended.exec`), and what is validated is
    covered by the terms of an earlier issuance (`run_recorded`).

    * `authorization_lifecycle`: both, for every run from a new layer. -/

namespace MandateGateway

open Runs

namespace UAPAuthorizationLayer

abbrev UapStep := Step UAPAuthorizationLayer UapCall UapAnswer

/-- The clock does not go back. -/
def ClockForward (calls : List UapCall) : Prop := calls.Pairwise fun a b => a.now ≤ b.now

variable {hmac : HmacSha256} {u u' : UAPAuthorizationLayer} {call : UapCall} {ref : Nat}

/-! ## One authorization along a run -/

/-- An authorization keeps its terms, and stays closed once it is. -/
theorem Effect.kept (h : Effect hmac u u' call) {p : AuthorizationPolicy}
    (hget : u.policies[ref]? = some p) :
    ∃ status, u'.policies[ref]? = some (p.withStatus status)
      ∧ (p.status ≠ .active → status ≠ .active) := by
  cases h with
  | unchanged hpost => exact ⟨p.status, by rw [hpost]; exact hget, id⟩
  | issued hex q hcall hpost =>
      refine ⟨p.status, ?_, id⟩
      obtain ⟨hlt, -⟩ := List.getElem?_eq_some_iff.mp hget
      rw [hpost, List.getElem?_append_left hlt]
      exact hget
  | closed ref' status hstatus hpost =>
      rw [hpost]
      by_cases href : ref' = ref
      · subst href
        refine ⟨status, ?_, fun _ => hstatus⟩
        rw [List.getElem?_modify_eq, hget]
        rfl
      · refine ⟨p.status, ?_, id⟩
        rw [List.getElem?_modify_ne _ _ href]
        exact hget

/-- What is there after an operation was there before, or is issued by it. -/
theorem Effect.origin (h : Effect hmac u u' call) {p : AuthorizationPolicy}
    (hget : u'.policies[ref]? = some p) :
    (∃ p₀ status, u.policies[ref]? = some p₀ ∧ p = p₀.withStatus status)
    ∨ ∃ hex q, call.operation = .issueAuthorization hex q ∧ ref = u.policies.length
        ∧ p = u.policyOf hmac hex call.now q := by
  cases h with
  | unchanged hpost => exact .inl ⟨p, p.status, by rw [← hpost]; exact hget, rfl⟩
  | issued hex q hcall hpost =>
      rw [hpost] at hget
      -- a new object has the reference behind all of the old ones
      rcases Nat.lt_or_ge ref u.policies.length with hlt | hge
      · rw [List.getElem?_append_left hlt] at hget
        exact .inl ⟨p, p.status, hget, rfl⟩
      · rw [List.getElem?_append_right hge, List.getElem?_singleton] at hget
        by_cases hzero : ref - u.policies.length = 0
        · rw [if_pos hzero] at hget
          exact .inr ⟨hex, q, hcall, by omega, (Option.some.inj hget).symm⟩
        · rw [if_neg hzero] at hget
          cases hget
  | closed ref' status hstatus hpost =>
      rw [hpost] at hget
      by_cases href : ref' = ref
      · subst href
        rw [List.getElem?_modify_eq, Option.map_eq_map, Option.map_eq_some_iff] at hget
        obtain ⟨p₀, hp₀, hp⟩ := hget
        exact .inl ⟨p₀, status, hp₀, hp.symm⟩
      · rw [List.getElem?_modify_ne _ _ href] at hget
        exact .inl ⟨p, p.status, hget, rfl⟩

/-- At a time, an authorization is closed or over its time. -/
def Ended (now : Rat) (ref : Nat) (u : UAPAuthorizationLayer) : Prop :=
  ∃ p, u.policies[ref]? = some p
    ∧ (p.status ≠ .active ∨ Binary64.lt p.expirationTimestamp (.finite now) = true)

theorem Ended.step {now : Rat} (h : Ended now ref u) (call : UapCall) :
    Ended now ref (step hmac u call).2 := by
  obtain ⟨p, hget, hended⟩ := h
  obtain ⟨status, hget', hclosed⟩ := (step_effect hmac u call).kept hget
  refine ⟨p.withStatus status, hget', ?_⟩
  rcases hended with hstatus | htime
  · exact .inl (hclosed hstatus)
  · exact .inr htime

theorem Ended.exec {now : Rat} (h : Ended now ref u) (calls : List UapCall) :
    Ended now ref (exec (UAPAuthorizationLayer.step hmac) u calls) :=
  exec_inv (fun _ call h => h.step call) h calls

theorem Ended.not_validates {now now' : Rat} (h : Ended now ref u) (hle : now ≤ now')
    {q : DelegatedPayment} {policy : AuthorizationPolicy} :
    ¬ Validates now' q ref policy u := by
  intro hvalid
  obtain ⟨p, hget, hended⟩ := h
  obtain rfl := Option.some.inj (hget.symm.trans (find_eq_some_iff.mp hvalid.named).2)
  rcases hended with hstatus | htime
  · exact hstatus hvalid.active
  · have hlate := Binary64.lt_of_lt_of_le htime hle
    rw [hvalid.inTime] at hlate
    cases hlate

/-! ## Steps that take an authorization out of use -/

/-- The step revokes, suspends or consumes the authorization, or is made when
    its time is over. -/
inductive Retires (ref : Nat) (c : UapStep) : Prop
  | revoked (id : String) (p : AuthorizationPolicy)
      (hact : c.act.operation = .revokeAuthorization id) (hfind : c.pre.find id = some (ref, p))
  | suspended (id : String) (p : AuthorizationPolicy)
      (hact : c.act.operation = .suspendAuthorization id) (hfind : c.pre.find id = some (ref, p))
  | consumed (tokenOrId : String) (p : AuthorizationPolicy)
      (hact : c.act.operation = .consumeAuthorization tokenOrId true)
      (hfind : c.pre.find (c.pre.authId tokenOrId) = some (ref, p))
  | overtime (p : AuthorizationPolicy) (hget : c.pre.policies[ref]? = some p)
      (htime : Binary64.lt p.expirationTimestamp (.finite c.act.now) = true)

def ValidatesUnder (ref : Nat) (q : DelegatedPayment) (c : UapStep) : Prop :=
  ∃ policy, c.act.operation = .validateAuthorization q ∧ c.out = .validated (.ok (ref, policy))

theorem ended_of_close {id : String} {status : AuthorizationStatus} {p : AuthorizationPolicy}
    (hfind : u.find id = some (ref, p)) (hstatus : status ≠ .active) (now : Rat) :
    Ended now ref (u.close id status).2 := by
  rw [close, hfind]
  refine ⟨p.withStatus status, ?_, .inl hstatus⟩
  show (u.policies.modify ref _)[ref]? = _
  rw [List.getElem?_modify_eq, (find_eq_some_iff.mp hfind).2]
  rfl

theorem ended_of_retires (h : Retires ref (stepAt (step hmac) u call)) :
    Ended call.now ref (step hmac u call).2 := by
  obtain ⟨now, operation⟩ := call
  cases h with
  | revoked id p hact hfind =>
      obtain rfl : operation = _ := hact
      exact ended_of_close hfind (by decide) now
  | suspended id p hact hfind =>
      obtain rfl : operation = _ := hact
      exact ended_of_close hfind (by decide) now
  | consumed tokenOrId p hact hfind =>
      obtain rfl : operation = _ := hact
      exact ended_of_close hfind (by decide) now
  | overtime p hget htime =>
      have hended : Ended now ref u := ⟨p, hget, .inr htime⟩
      exact hended.step _

theorem validatesUnder_stepAt_iff {q : DelegatedPayment} :
    ValidatesUnder ref q (stepAt (step hmac) u call)
      ↔ call.operation = .validateAuthorization q
        ∧ ∃ policy, Validates call.now q ref policy u := by
  obtain ⟨now, operation⟩ := call
  constructor
  · rintro ⟨policy, hact, hout⟩
    obtain rfl : operation = _ := hact
    refine ⟨rfl, policy, validateAuthorization_eq_ok_iff.mp ?_⟩
    exact UapAnswer.validated.inj hout
  · rintro ⟨hact, policy, hvalid⟩
    obtain rfl : operation = _ := hact
    exact ⟨policy, rfl, congrArg UapAnswer.validated (validateAuthorization_eq_ok_iff.mpr hvalid)⟩

/-! ## The past of an authorization -/

def Issues (hmac : HmacSha256) (ref : Nat) (p : AuthorizationPolicy) (q : DelegationRequest)
    (c : UapStep) : Prop :=
  ∃ hex, c.act.operation = .issueAuthorization hex q ∧ c.out = .issued ref p
    ∧ p = c.pre.policyOf hmac hex c.act.now q

/-- What is there is what the past issued, up to the status. -/
def Recorded (hmac : HmacSha256) (past : List UapStep) (u : UAPAuthorizationLayer) : Prop :=
  ∀ ref p, u.policies[ref]? = some p →
    ∃ i ∈ past, ∃ p₀ q status, Issues hmac ref p₀ q i ∧ p = p₀.withStatus status

theorem Recorded.step {past : List UapStep} (h : Recorded hmac past u) (call : UapCall) :
    Recorded hmac (past ++ [stepAt (step hmac) u call]) (step hmac u call).2 := by
  intro ref p hget
  rcases (step_effect hmac u call).origin hget with
    ⟨p₀, status, hold, rfl⟩ | ⟨hex, q, hcall, rfl, rfl⟩
  · obtain ⟨i, hi, p₁, q, status', hissues, rfl⟩ := h ref p₀ hold
    exact ⟨i, List.mem_append_left _ hi, p₁, q, status, hissues, rfl⟩
  · obtain ⟨now, operation⟩ := call
    obtain rfl : operation = _ := hcall
    exact ⟨_, List.mem_append_right _ (List.mem_singleton.mpr rfl), _, q, .active,
      ⟨hex, rfl, rfl, rfl⟩, rfl⟩

theorem run_recorded (hmac : HmacSha256) (secretKey : String) (calls : List UapCall) :
    Recorded hmac (steps (step hmac) (new secretKey) calls)
      (exec (step hmac) (new secretKey) calls) := by
  refine history_inv (H := Recorded hmac) (P := fun _ => True)
    (fun past u call h _ => h.step call) ?_ (fun _ _ => trivial)
  intro ref p hget
  cases hget

structure Grants (r : DelegationRequest) (q : DelegatedPayment) : Prop where
  agent    : q.agentId = r.agentId
  merchant : r.scopeMerchants.getD [] = [] ∨ q.merchantId ∈ r.scopeMerchants.getD []
  category : Text.lower q.category ∈ r.categories.map Text.lower
  amount   : q.amountPaise ≤ r.maxAmountPaise

theorem categories_ne_nil (r : DelegationRequest) : r.categories ≠ [] := by
  rw [DelegationRequest.categories]
  cases r.categoryScope with
  | none => exact List.cons_ne_nil _ _
  | some scope =>
      cases scope with
      | nil => exact List.cons_ne_nil _ _
      | cons c cs => exact List.cons_ne_nil c cs

theorem grants_of_covers {p : AuthorizationPolicy} {r : DelegationRequest}
    {q : DelegatedPayment} {c : UapStep} {status : AuthorizationStatus}
    (hissues : Issues hmac ref p r c) (h : Covers (p.withStatus status) q) : Grants r q := by
  obtain ⟨hex, -, -, rfl⟩ := hissues
  exact ⟨h.agent.symm, h.merchant, h.category.resolve_left (categories_ne_nil r), h.amount⟩

/-- **In every run in which the clock does not go back, what has been revoked,
    suspended, consumed or over its time validates no payment, and what validates
    a payment was issued on a request that grants it.** -/
theorem authorization_lifecycle {hmac : HmacSha256} {secretKey : String} {calls : List UapCall}
    (hclock : ClockForward calls) :
    (∀ before c between d after ref q,
      steps (step hmac) (new secretKey) calls = before ++ c :: (between ++ d :: after) →
      Retires ref c → ¬ ValidatesUnder ref q d)
    ∧ ∀ before d after ref q,
      steps (step hmac) (new secretKey) calls = before ++ d :: after →
      ValidatesUnder ref q d → ∃ i ∈ before, ∃ p r, Issues hmac ref p r i ∧ Grants r q := by
  constructor
  · intro before c between d after ref q hsplit hretires hvalid
    obtain ⟨l, call, rest, rfl, rfl, rfl, hrest⟩ := steps_eq_append_cons_iff.mp hsplit
    obtain ⟨m, call', r, rfl, rfl, rfl, rfl⟩ := steps_eq_append_cons_iff.mp hrest.symm
    -- what is over its time stays so only because the clock does not go back
    have hle : call.now ≤ call'.now := by
      have hlater := (List.pairwise_append.mp hclock).2.1
      exact List.rel_of_pairwise_cons hlater (List.mem_append_right m List.mem_cons_self)
    have hended := ended_of_retires hretires
    obtain ⟨-, policy, hvalidates⟩ := validatesUnder_stepAt_iff.mp hvalid
    rw [exec_append] at hvalidates
    exact (hended.exec m).not_validates hle hvalidates
  · intro before d after ref q hsplit hvalid
    obtain ⟨l, call, r, rfl, rfl, rfl, rfl⟩ := steps_eq_append_cons_iff.mp hsplit
    obtain ⟨-, policy, hvalidates⟩ := validatesUnder_stepAt_iff.mp hvalid
    obtain ⟨i, hi, p₀, request, status, hissues, rfl⟩ :=
      run_recorded hmac secretKey l ref policy (find_eq_some_iff.mp hvalidates.named).2
    exact ⟨i, hi, p₀, request, hissues, grants_of_covers hissues hvalidates.covers⟩

end UAPAuthorizationLayer

/-! A delegation of ten minutes, and a payment of the agent. -/

namespace SampleDelegation

def digest : String := "d6c0f583174a6788bee8845837310173a2b2459a71113253ba1e6e3359304849"

theorem digest_digits :
    digest.toList.length = 64 ∧ ∀ c ∈ digest.toList, isLowerHex c = true :=
  digits_of_all (by decide) (by decide)

def hmac : HmacSha256 := .constant digest digest_digits

def secretKey : String := "uap_delegation_secret_key_m26"

def request : DelegationRequest where
  agentId := "agent_1"
  userId := "user_1"
  maxAmountPaise := 50000
  dailyLimitPaise := 60000
  scopeMerchants := none
  categoryScope := none
  ttlSeconds := .finite 600

def issue : UapCall := ⟨0, .issueAuthorization "0123456789abcdef" request⟩

def pay (amountPaise : Int) : DelegatedPayment where
  tokenOrId := "uap_auth_0123456789ab"
  agentId := "agent_1"
  merchantId := "m_1"
  category := "grocery"
  amountPaise := amountPaise

end SampleDelegation

open SampleDelegation UAPAuthorizationLayer in
/-- The authorization of the sample, revoked and then shown for a payment. -/
theorem revoked_sample :
    ¬ ValidatesUnder 0 (pay 50000) (stepAt (step hmac)
      (exec (step hmac) (new secretKey)
        [issue, ⟨1, .revokeAuthorization "uap_auth_0123456789ab"⟩])
      ⟨2, .validateAuthorization (pay 50000)⟩) := by
  have hclock : ClockForward [issue, ⟨1, .revokeAuthorization "uap_auth_0123456789ab"⟩,
      ⟨2, .validateAuthorization (pay 50000)⟩] := by
    simp only [ClockForward, issue, List.pairwise_cons, List.forall_mem_cons]
    refine ⟨⟨?_, ?_, List.forall_mem_nil _⟩, ⟨?_, List.forall_mem_nil _⟩,
      List.forall_mem_nil _, List.Pairwise.nil⟩ <;> decide
  refine (authorization_lifecycle hclock).1 [_] _ [] _ [] 0 (pay 50000) rfl ?_
  exact .revoked _ _ rfl (find_eq_some_iff.mpr ⟨rfl, rfl⟩)

end MandateGateway
