import MandateGateway.StepUp.Effects

/-! # What a step-up approval rests on

    A stored challenge is backed by the call that created it and, once it is
    approved, by a later confirmation of the same context (`run_backed`).  An
    evaluation that allows a zone B total therefore has such a confirmation in
    its past, and itself agrees with the challenge (`Authorized`). -/

namespace MandateGateway

open Clock Exceptions OrderedMap Runs

namespace StepUpEngine

/-! ## The past of a stored challenge -/

/-- The past created the challenge and, where it is approved, confirmed it. -/
def Backed (past : List CallStep) (id : String) (record : StepUpChallengeRecord) : Prop :=
  ∃ created before c₀ after, past = before ++ c₀ :: after ∧ Creates created c₀
    ∧ created.challengeId = id ∧ SameChallenge record created
    ∧ (record.status = .approved → ∃ c₁ ∈ after, Confirms created c₁)

/-- Every stored challenge is backed. -/
def Accounted (past : List CallStep) (e : StepUpEngine) : Prop :=
  ∀ id record, e.challenges.get id = some record → Backed past id record

theorem Backed.snoc {past : List CallStep} {id : String} {record : StepUpChallengeRecord}
    (h : Backed past id record) (c : CallStep) : Backed (past ++ [c]) id record := by
  obtain ⟨created, before, c₀, after, rfl, hcreates, hid, hsame, hconfirmed⟩ := h
  refine ⟨created, before, c₀, after ++ [c], ?_, hcreates, hid, hsame, ?_⟩
  · rw [List.append_assoc, List.cons_append]
  · intro happroved
    obtain ⟨c₁, hc₁, hconfirms⟩ := hconfirmed happroved
    exact ⟨c₁, List.mem_append_left _ hc₁, hconfirms⟩

theorem SameChallenge.id_eq {a b : StepUpChallengeRecord} (h : SameChallenge a b) :
    a.challengeId = b.challengeId := by
  rw [← h]

theorem SameChallenge.symm {a b : StepUpChallengeRecord} (h : SameChallenge a b) :
    SameChallenge b a := by
  rw [← h]
  rfl

/-- A confirmation of a challenge confirms it whatever its resolution. -/
theorem Confirms.of_same {a b : StepUpChallengeRecord} {c : CallStep} (h : Confirms a c)
    (hsame : SameChallenge a b) : Confirms b c := by
  obtain ⟨env, confirmation, at?, hact, hout, hid, htime, hcontext⟩ := h
  rw [← hsame]
  exact ⟨env, confirmation, at?, hact, hout, hid, htime,
    ⟨hcontext.mandate, hcontext.transaction, hcontext.cartHash, hcontext.amount,
      hcontext.merchant⟩⟩

/-- A resolution of a backed challenge is backed, if the step confirms what it approves. -/
theorem Backed.resolve {past : List CallStep} {id : String} {old new : StepUpChallengeRecord}
    (h : Backed past id old) (hsame : SameChallenge new old) {c : CallStep}
    (hconfirms : new.status = .approved → old.challengeId = id → Confirms old c) :
    Backed (past ++ [c]) id new := by
  obtain ⟨created, before, c₀, after, rfl, hcreates, hid, hold, -⟩ := h
  refine ⟨created, before, c₀, after ++ [c], ?_, hcreates, hid, hsame.trans hold, ?_⟩
  · rw [List.append_assoc, List.cons_append]
  · intro happroved
    have hc := hconfirms happroved (hold.id_eq.trans hid)
    exact ⟨c, List.mem_append_right _ List.mem_cons_self, hc.of_same hold⟩

/-- **A step extends the past of every stored challenge.** -/
theorem Accounted.step {past : List CallStep} {e : StepUpEngine} {call : StepUpCall}
    (h : Accounted past e) (hfresh : FreshId (stepAt step e call)) :
    Accounted (past ++ [stepAt step e call]) (step e call).2 := by
  intro id record hget
  rw [← stepAt_post (f := StepUpEngine.step)] at hget
  -- a step stores one challenge at most, and the others are backed as before
  have hstored : ∀ {key new}, (stepAt StepUpEngine.step e call).post.challenges
        = e.challenges.set key new →
      Backed (past ++ [stepAt StepUpEngine.step e call]) key new →
      Backed (past ++ [stepAt StepUpEngine.step e call]) id record := by
    intro key new hpost hnew
    rw [hpost, get_set] at hget
    by_cases hid : id = key
    · rw [if_pos hid] at hget
      obtain rfl := Option.some.inj hget
      exact hid ▸ hnew
    · rw [if_neg hid] at hget
      exact (h id record hget).snoc _
  cases step_effect e call hfresh with
  | unchanged hpost =>
      rw [hpost] at hget
      exact (h id record hget).snoc _
  | created new hcreates hid hstatus hpost =>
      refine hstored hpost ⟨new, past, _, [], rfl, hcreates, rfl, .refl _, ?_⟩
      intro happroved
      rw [hstatus] at happroved
      cases happroved
  | expired id' old hold hpending hpost =>
      have hexpired : SameChallenge (expiredRecord old) old := rfl
      refine hstored hpost ((h id' old hold).resolve hexpired ?_)
      intro happroved
      cases happroved
  | approved id' old new hold hpending hnew hstatus hconfirms hpost =>
      exact hstored hpost ((h id' old hold).resolve hnew.symm fun _ hid => hconfirms hid)

/-- **Every challenge stored after a run is backed by the run.** -/
theorem run_backed {calls : List StepUpCall} (hfresh : ∀ c ∈ steps step new calls, FreshId c) :
    Accounted (steps step new calls) (exec step new calls) := by
  refine history_inv (H := Accounted) (fun past e call h hP => h.step hP) ?_ hfresh
  intro id record hget
  cases hget

/-! ## The evaluation -/

/-- The texts a query supplies are those the challenge is bound to; `given`
    says which values count as supplied. -/
structure QueryMatches (given : Option String → Option String)
    (record : StepUpChallengeRecord) (q : StepUpQuery) : Prop where
  mandate     : ∀ v, given q.mandateId = some v → Text.strip v = record.mandateId
  transaction : ∀ v, given q.transactionId = some v → Text.strip v = record.transactionId
  cartHash    : ∀ v, given q.cartHash = some v → normalizedHash v = record.cartHash
  merchant    : ∀ v, given q.merchantId = some v → Text.strip v = record.merchantId
  amount      : q.cartTotalPaise = record.proposedPaise

theorem mismatchRefusal_eq_none_iff {binding bound : String} {normalize : String → String}
    {value : Option String} :
    mismatchRefusal binding bound normalize value = none
      ↔ ∀ v, supplied value = some v → normalize v = bound := by
  rw [mismatchRefusal, Option.bind_eq_none_iff]
  constructor
  · intro h v hv
    have hpass := check_eq_none_iff.mp (h v hv)
    exact (not_not.mp hpass.1).symm
  · intro h v hv
    exact check_eq_none_iff.mpr ⟨not_not.mpr (h v hv).symm, rfl⟩

theorem challengeRefusal_eq_none_iff {record : StepUpChallengeRecord} {cid : String}
    {q : StepUpQuery} {evalTime : Instant} :
    (challengeRefusal record cid q evalTime = none ∧ record.proposedPaise = q.cartTotalPaise)
      ↔ record.status = .approved ∧ evalTime < record.expiresAt
        ∧ QueryMatches supplied record q := by
  rw [challengeRefusal]
  simp only [Option.orElse_eq_none, check_eq_none_iff, not_not, mismatchRefusal_eq_none_iff,
    Int.not_le]
  constructor
  · rintro ⟨⟨⟨hstatus, htime, -⟩, hmandate, htransaction, hcart, hmerchant⟩, hamount⟩
    exact ⟨hstatus, htime, hmandate, htransaction, hcart, hmerchant, hamount.symm⟩
  · rintro ⟨hstatus, htime, h⟩
    exact ⟨⟨⟨hstatus, htime, trivial⟩, h.mandate, h.transaction, h.cartHash, h.merchant⟩,
      h.amount.symm⟩

theorem evaluateChallenge_allow {q : StepUpQuery} {cid : String} {diff : Option StepUpDiff}
    {evalTime : Instant} {e : StepUpEngine} {r : StepUpEvaluationResult}
    (h : evaluateChallenge q cid diff evalTime e = .ok r) (hallow : r.decision = .allow) :
    ∃ record, e.challenges.get cid = some record ∧ record.status = .approved
      ∧ evalTime < record.expiresAt ∧ QueryMatches supplied record q := by
  rw [evaluateChallenge] at h
  cases hget : e.challenges.get cid with
  | none =>
      simp only [hget] at h
      obtain rfl := Except.ok.inj h
      cases hallow
  | some record =>
      refine ⟨record, rfl, ?_⟩
      simp only [hget] at h
      cases hrefusal : challengeRefusal record cid q evalTime with
      | some refusal =>
          simp only [hrefusal] at h
          obtain rfl := Except.ok.inj h
          cases hallow
      | none =>
          simp only [hrefusal] at h
          by_cases hamount : record.proposedPaise = q.cartTotalPaise
          · exact challengeRefusal_eq_none_iff.mp ⟨hrefusal, hamount⟩
          · rw [if_pos hamount] at h
            cases htext : amountMismatch record.proposedPaise q.cartTotalPaise with
            | error err =>
                rw [htext] at h
                cases h
            | ok detail =>
                rw [htext] at h
                obtain rfl := Except.ok.inj h
                cases hallow

theorem evaluate_zoneB_allow {env : Ambient} {q : StepUpQuery} {at? : Option Instant}
    {e : StepUpEngine} {r : StepUpEvaluationResult}
    (h : evaluateAuthorizationStepUp env q at? e = .ok r) (hzone : r.zone = .stepUpRequired)
    (hallow : r.decision = .allow) :
    ∃ cid record, q.namedChallenge = some cid ∧ e.challenges.get cid = some record
      ∧ record.status = .approved ∧ env.time at? < record.expiresAt
      ∧ QueryMatches supplied record q := by
  rw [evaluateAuthorizationStepUp] at h
  cases hclass : classifyStepUpZone q.cartTotalPaise q.mandateCapPaise
      q.merchantMaxStepUpPercent with
  | error err =>
      simp only [hclass] at h
      cases h
  | ok stepUp =>
      simp only [hclass] at h
      cases hz : stepUp.zone with
      | autoExecute =>
          simp only [hz] at h
          obtain rfl := Except.ok.inj h
          cases hzone
      | hardReject =>
          simp only [hz] at h
          obtain rfl := Except.ok.inj h
          cases hallow
      | stepUpRequired =>
          simp only [hz] at h
          cases hnamed : q.namedChallenge with
          | none =>
              simp only [hnamed] at h
              obtain rfl := Except.ok.inj h
              cases hallow
          | some cid =>
              simp only [hnamed] at h
              obtain ⟨record, hrecord⟩ := evaluateChallenge_allow h hallow
              exact ⟨cid, record, rfl, hrecord⟩

/-! ## Runs -/

/-- The past holds the creation of the challenge that a query names and, after
    it, a confirmation of its context before its expiry; the query comes before
    the expiry too, and agrees with the challenge. -/
def Authorized (given : Option String → Option String) (past : List CallStep)
    (q : StepUpQuery) (evalTime : Instant) : Prop :=
  ∃ created before c₀ after, past = before ++ c₀ :: after ∧ Creates created c₀
    ∧ (∃ c₁ ∈ after, Confirms created c₁) ∧ q.namedChallenge = some created.challengeId
    ∧ evalTime < created.expiresAt ∧ QueryMatches given created q

theorem QueryMatches.of_same {given : Option String → Option String}
    {a b : StepUpChallengeRecord} {q : StepUpQuery} (h : QueryMatches given a q)
    (hsame : SameChallenge a b) : QueryMatches given b q := by
  rw [← hsame]
  exact ⟨h.mandate, h.transaction, h.cartHash, h.merchant, h.amount⟩

theorem allow_authorized {calls : List StepUpCall}
    (hfresh : ∀ c ∈ steps step new calls, FreshId c) {env : Ambient} {q : StepUpQuery}
    {at? : Option Instant} {r : StepUpEvaluationResult}
    (h : evaluateAuthorizationStepUp env q at? (exec step new calls) = .ok r)
    (hzone : r.zone = .stepUpRequired) (hallow : r.decision = .allow) :
    Authorized supplied (steps step new calls) q (env.time at?) := by
  obtain ⟨cid, record, hnamed, hget, hstatus, htime, hmatches⟩ :=
    evaluate_zoneB_allow h hzone hallow
  obtain ⟨created, before, c₀, after, hpast, hcreates, hid, hsame, hconfirmed⟩ :=
    run_backed hfresh cid record hget
  have hexpiry : record.expiresAt = created.expiresAt := by
    rw [← hsame]
  refine ⟨created, before, c₀, after, hpast, hcreates, hconfirmed hstatus, ?_, ?_,
    hmatches.of_same hsame⟩
  · rw [hnamed, hid]
  · rw [← hexpiry]
    exact htime

theorem expired_final {e : StepUpEngine} {calls : List StepUpCall} {id : String}
    (hfresh : ∀ c ∈ steps step e calls, FreshId c) (h : e.statusOf id = some .expired) :
    (exec step e calls).statusOf id = some .expired :=
  exec_inv_of_steps (P := FreshId) (I := fun s => s.statusOf id = some .expired)
    (fun _ _ hs hP => statusOf_final hP (by decide) hs) h hfresh

/-- The step evaluates the query at this time, and allows its zone B total. -/
def AllowsZoneB (q : StepUpQuery) (evalTime : Instant) (c : CallStep) : Prop :=
  ∃ env at? r, c.act = .evaluate env q at? ∧ env.time at? = evalTime
    ∧ c.out = .evaluation (.ok r) ∧ r.zone = .stepUpRequired ∧ r.decision = .allow

/-- **In a run with fresh identifiers, every allowed zone B total is authorized
    by the steps before it, a challenge leaves the pending status at most once,
    and none that has expired is allowed.** -/
theorem run_authorized (calls : List StepUpCall)
    (hfresh : ∀ c ∈ steps step new calls, FreshId c) :
    (∀ before c after q t, steps step new calls = before ++ c :: after → AllowsZoneB q t c →
      Authorized supplied before q t)
    ∧ (∀ id, (steps step new calls).countP (leavesPending id) ≤ 1)
    ∧ ∀ before c after q t id, steps step new calls = before ++ c :: after →
      c.pre.statusOf id = some .expired → q.namedChallenge = some id →
      ∀ c' ∈ c :: after, ¬ AllowsZoneB q t c' := by
  refine ⟨?_, fun id => countP_leavesPending_le_one new calls id hfresh, ?_⟩
  · rintro before c after q t hsplit ⟨env, at?, r, hact, rfl, hout, hzone, hallow⟩
    obtain ⟨l, call, rest, rfl, rfl, rfl, rfl⟩ := steps_eq_append_cons_iff.mp hsplit
    rw [stepAt_act] at hact
    subst hact
    have hpast := (forall_steps_append_iff.mp hfresh).1
    exact allow_authorized hpast (StepUpAnswer.evaluation.inj hout) hzone hallow
  · rintro before c after q t id hsplit hexpired hnamed c' hc'
      ⟨env, at?, r, hact, -, hout, hzone, hallow⟩
    obtain ⟨l, call, rest, rfl, rfl, rfl, rfl⟩ := steps_eq_append_cons_iff.mp hsplit
    -- from the expiry on, the run is one from the state that has it
    have hlater := (forall_steps_append_iff.mp hfresh).2
    have hmem : c' ∈ steps step (exec step new l) (call :: rest) := by
      rw [exec_append] at hc'
      exact hc'
    obtain ⟨l', call', rest', hcalls, rfl⟩ := mem_steps_iff.mp hmem
    rw [stepAt_act] at hact
    subst hact
    rw [hcalls] at hlater
    have hfresh' := (forall_steps_append_iff.mp hlater).1
    have hstill := expired_final hfresh' hexpired
    obtain ⟨cid, record, hcid, hget, hstatus, -⟩ :=
      evaluate_zoneB_allow (StepUpAnswer.evaluation.inj hout) hzone hallow
    rw [hnamed] at hcid
    obtain rfl := Option.some.inj hcid
    rw [statusOf, hget, Option.map_some, hstatus] at hstill
    cases hstill

/-! ## A binding given as the empty text -/

namespace Sample

def terms : ChallengeTerms where
  mandateId := "mandate-1"
  transactionId := "tx-1"
  cartHash := "AB12"
  approvedPaise := 10000
  proposedPaise := 10500
  merchantId := "merchant-1"
  ttlSeconds := 300

def confirmation : TrustedConfirmation where
  challengeId := "challenge-1"
  mandateId := "mandate-1"
  transactionId := "tx-1"
  cartHash := "ab12"
  proposedPaise := 10500
  merchantId := "merchant-1"
  confirmedBy := "buyer-1"

def query (mandateId : String) : StepUpQuery where
  cartTotalPaise := 10500
  mandateCapPaise := 10000
  merchantMaxStepUpPercent := 10
  challengeId := some "challenge-1"
  mandateId := some mandateId
  transactionId := some "tx-1"
  cartHash := some "ab12"
  merchantId := some "merchant-1"

def env : Ambient := ⟨1709210096000000, "1"⟩

def confirmed : List StepUpCall := [.create env terms none, .confirm env confirmation none]

def calls (mandateId : String) : List StepUpCall :=
  confirmed ++ [.evaluate env (query mandateId) none]

theorem calls_fresh (mandateId : String) : ∀ c ∈ steps step new (calls mandateId), FreshId c := by
  intro c hc env' terms' at? hact
  rcases List.mem_cons.mp hc with rfl | hc
  · rfl
  · rcases List.mem_cons.mp hc with rfl | hc
    · cases hact
    · obtain rfl := List.mem_singleton.mp hc
      cases hact

theorem evaluation_allowed (mandateId : String) (h : mandateId = "" ∨ mandateId = "mandate-1") :
    ∃ r, evaluateAuthorizationStepUp env (query mandateId) none (exec step new confirmed) = .ok r
      ∧ r.zone = .stepUpRequired ∧ r.decision = .allow := by
  have hcheck : ((evaluateAuthorizationStepUp env (query mandateId) none
      (exec step new confirmed)).toOption.any fun r =>
        r.zone == .stepUpRequired && r.decision == .allow) = true := by
    rcases h with rfl | rfl <;> decide +kernel
  cases hr : evaluateAuthorizationStepUp env (query mandateId) none (exec step new confirmed) with
  | error err =>
      rw [hr] at hcheck
      cases hcheck
  | ok r =>
      rw [hr] at hcheck
      obtain ⟨hzone, hallow⟩ := Bool.and_eq_true_iff.mp hcheck
      exact ⟨r, rfl, beq_iff_eq.mp hzone, beq_iff_eq.mp hallow⟩

def evaluation (mandateId : String) : CallStep :=
  stepAt step (exec step new confirmed) (.evaluate env (query mandateId) none)

theorem calls_split (mandateId : String) :
    steps step new (calls mandateId) = steps step new confirmed ++ evaluation mandateId :: [] := by
  rw [calls, steps_append]
  rfl

theorem evaluation_allows (mandateId : String) (h : mandateId = "" ∨ mandateId = "mandate-1") :
    AllowsZoneB (query mandateId) env.now (evaluation mandateId) := by
  obtain ⟨r, hr, hzone, hallow⟩ := evaluation_allowed mandateId h
  refine ⟨env, none, r, rfl, rfl, ?_, hzone, hallow⟩
  show StepUpAnswer.evaluation _ = _
  rw [hr]

end Sample

/-- A total that is confirmed and evaluated with its own mandate. -/
theorem run_authorized_confirmed :
    Authorized supplied (steps step new Sample.confirmed) (Sample.query "mandate-1")
      Sample.env.now :=
  (run_authorized (Sample.calls "mandate-1") (Sample.calls_fresh "mandate-1")).1 _ _ _ _ _
    (Sample.calls_split "mandate-1") (Sample.evaluation_allows "mandate-1" (.inr rfl))

/-- A mandate given as the empty text is not compared: the evaluation allows
    it, although the challenge is bound to another one. -/
theorem emptyMandate_allowed :
    (∀ c ∈ steps step new (Sample.calls ""), FreshId c)
      ∧ steps step new (Sample.calls "")
        = steps step new Sample.confirmed ++ Sample.evaluation "" :: []
      ∧ AllowsZoneB (Sample.query "") Sample.env.now (Sample.evaluation "")
      ∧ ¬ Authorized id (steps step new Sample.confirmed) (Sample.query "") Sample.env.now := by
  refine ⟨Sample.calls_fresh "", Sample.calls_split "", Sample.evaluation_allows "" (.inl rfl), ?_⟩
  rintro ⟨created, before, c₀, after, hpast, ⟨-, hout⟩, -, -, -, hmatches⟩
  have hmandate : Text.strip "" = created.mandateId := hmatches.mandate "" rfl
  have hmem : c₀ ∈ steps step new Sample.confirmed := by
    rw [hpast]
    exact List.mem_append_right _ List.mem_cons_self
  -- both calls of the past return the challenge of the other mandate
  have hbound : created.mandateId = "mandate-1" := by
    rcases List.mem_cons.mp hmem with rfl | hmem
    · obtain rfl := Except.ok.inj (StepUpAnswer.challenge.inj hout)
      rfl
    · obtain rfl := List.mem_singleton.mp hmem
      obtain rfl := Except.ok.inj (StepUpAnswer.challenge.inj hout)
      rfl
  rw [hbound] at hmandate
  exact absurd hmandate (by decide)

end StepUpEngine

end MandateGateway
