import MandateGateway.Authorization.Aggregator

/-! # Unanimous consent

    What an authorization is meant to promise about the seven controls, and
    the exact inputs on which the aggregator keeps that promise.  It refuses
    whatever a checked control refuses; it does not look at a step-up result
    that rejects, at a budget, replay or nonce control that is missing, or at
    the `passed` flag of a merchant policy. -/

namespace MandateGateway

open Clock

namespace AuthorizationAggregationInput

/-- All seven control results, in the documented order of precedence. -/
def controls (i : AuthorizationAggregationInput) : List (Option SecurityControlOutcome) :=
  i.checked.map Prod.snd ++ [i.stepUpOutcome]

/-- The first checked control whose decision is REJECT. -/
def firstRejecting (i : AuthorizationAggregationInput) :
    Option (ControlCheck × SecurityControlOutcome) :=
  i.supplied.find? fun c => c.2.decision == .reject

/-- The reason of the first control whose decision is REJECT; the step-up comes
    last, and has no default reason. -/
def rejectingReason (i : AuthorizationAggregationInput) : Option RejectionReason :=
  match i.firstRejecting with
  | some (k, o) => some (k.reason o)
  | none =>
      i.stepUpOutcome.bind fun s => if s.decision = .reject then s.rejectionReason else none

def MandatorySupplied (i : AuthorizationAggregationInput) : Prop :=
  i.mandateCtrl ≠ none ∧ i.policyCtrl ≠ none ∧ i.cartIntegrityOutcome ≠ none

/-- The merchant policy asks for a step-up, or the step-up result does and
    says by how much. -/
def StepUpRequired (i : AuthorizationAggregationInput) : Prop :=
  (∃ p, i.policyCtrl = some p ∧ p.decision = .stepUpRequired)
    ∨ ∃ s, i.stepUpOutcome = some s ∧ s.decision = .stepUpRequired ∧ s.stepUpDiff ≠ none

/-- Every control is supplied, passed and allows. -/
def Unanimous (i : AuthorizationAggregationInput) : Prop :=
  ∀ c ∈ i.controls, ∃ o, c = some o ∧ o.passed = true ∧ o.decision = .allow

/-- The promise: only a unanimous request is allowed, a rejecting control
    rejects with its reason, and so does a missing one. -/
structure UnanimousConsent (i : AuthorizationAggregationInput)
    (r : AggregatedAuthorizationResult) : Prop where
  allow   : r.decision = .allow → i.Unanimous
  reject  : (∃ o, some o ∈ i.controls ∧ o.decision = .reject) →
    r.decision = .reject
      ∧ ∀ reason, i.rejectingReason = some reason → r.rejectionReason = some reason
  missing : none ∈ i.controls → r.decision = .reject

/-- The inputs on which the promise is kept. -/
inductive KeepsConsent (i : AuthorizationAggregationInput) : Prop where
  /-- a mandatory control is missing, and no rejecting control gives another reason -/
  | missing (hmissing : ¬ i.MandatorySupplied)
      (hreason : ∀ reason, i.rejectingReason = some reason → reason = .controlResultMissing)
  /-- the first control that fails rejects, or no rejecting one gives another reason -/
  | refused (hsupplied : i.MandatorySupplied) {k : ControlCheck} {o : SecurityControlOutcome}
      (hfail : i.firstFailing = some (k, o))
      (hreason : o.decision = .reject
        ∨ ∀ reason, i.rejectingReason = some reason → reason = k.reason o)
  /-- no checked control fails, none at all is missing, the step-up does not
      reject, and a request that needs no step-up is unanimous -/
  | cleared (hsupplied : none ∉ i.controls) (hclear : i.firstFailing = none)
      (hstepUp : ∀ s, i.stepUpOutcome = some s → s.decision ≠ .reject)
      (hconsent : i.StepUpRequired ∨ i.Unanimous)

/-! ## The controls of an input -/

theorem mem_supplied_iff {i : AuthorizationAggregationInput} {k : ControlCheck}
    {o : SecurityControlOutcome} : (k, o) ∈ i.supplied ↔ (k, some o) ∈ i.checked := by
  rw [supplied, List.mem_filterMap]
  constructor
  · rintro ⟨⟨k', o?⟩, hmem, hmap⟩
    obtain ⟨o', rfl, heq⟩ := Option.map_eq_some_iff.mp hmap
    obtain ⟨rfl, rfl⟩ := Prod.mk.inj heq
    exact hmem
  · intro hmem
    exact ⟨(k, some o), hmem, rfl⟩

theorem mem_controls_iff {i : AuthorizationAggregationInput} {c : Option SecurityControlOutcome} :
    c ∈ i.controls ↔ (∃ k, (k, c) ∈ i.checked) ∨ c = i.stepUpOutcome := by
  rw [controls, List.mem_append, List.mem_map, List.mem_singleton]
  constructor
  · rintro (⟨⟨k, c'⟩, hmem, rfl⟩ | h)
    · exact .inl ⟨k, hmem⟩
    · exact .inr h
  · rintro (⟨k, hmem⟩ | h)
    · exact .inl ⟨(k, c), hmem, rfl⟩
    · exact .inr h

theorem fails_of_reject (k : ControlCheck) {o : SecurityControlOutcome}
    (h : o.decision = .reject) : k.fails o = true := by
  rw [ControlCheck.fails, h]
  exact Bool.or_true _

theorem eq_stepUp_of_reject {i : AuthorizationAggregationInput} {o : SecurityControlOutcome}
    (hclear : i.firstFailing = none) (hmem : some o ∈ i.controls) (h : o.decision = .reject) :
    i.stepUpOutcome = some o := by
  rcases mem_controls_iff.mp hmem with ⟨k, hk⟩ | hstep
  · have hpass := List.find?_eq_none.mp hclear (k, o) (mem_supplied_iff.mpr hk)
    exact absurd (fails_of_reject k h) hpass
  · exact hstep.symm

theorem rejectingReason_of_failing {i : AuthorizationAggregationInput} {k : ControlCheck}
    {o : SecurityControlOutcome} (hfail : i.firstFailing = some (k, o))
    (h : o.decision = .reject) : i.rejectingReason = some (k.reason o) := by
  obtain ⟨-, before, after, hsplit, hbefore⟩ := List.find?_eq_some_iff_append.mp hfail
  have hfirst : i.firstRejecting = some (k, o) := by
    refine List.find?_eq_some_iff_append.mpr ⟨beq_iff_eq.mpr h, before, after, hsplit, ?_⟩
    -- a control before it passes its check, so it does not reject
    intro c hc
    have hpass : c.1.fails c.2 = false := by simpa using hbefore c hc
    have hne : c.2.decision ≠ .reject := by
      intro hreject
      rw [fails_of_reject c.1 hreject] at hpass
      cases hpass
    simpa using hne
  rw [rejectingReason, hfirst]

theorem exists_of_rejectingReason {i : AuthorizationAggregationInput}
    {reason : RejectionReason} (h : i.rejectingReason = some reason) :
    ∃ o, some o ∈ i.controls ∧ o.decision = .reject := by
  cases hfirst : i.firstRejecting with
  | some c =>
      obtain ⟨k, o⟩ := c
      have hmem := mem_supplied_iff.mp (List.mem_of_find?_eq_some hfirst)
      rw [firstRejecting] at hfirst
      have hreject := List.find?_some hfirst
      exact ⟨o, mem_controls_iff.mpr (.inl ⟨k, hmem⟩), beq_iff_eq.mp hreject⟩
  | none =>
      rw [rejectingReason, hfirst] at h
      obtain ⟨s, hstep, hreason⟩ := Option.bind_eq_some_iff.mp h
      by_cases hs : s.decision = .reject
      · exact ⟨s, mem_controls_iff.mpr (.inr hstep.symm), hs⟩
      · rw [if_neg hs] at hreason
        cases hreason

theorem mandatorySupplied_of_not_mem {i : AuthorizationAggregationInput}
    (h : none ∉ i.controls) : i.MandatorySupplied := by
  have hctrl : ∀ {k c}, (k, c) ∈ i.checked → c ≠ none := by
    intro k c hmem hc
    obtain rfl := hc
    exact h (mem_controls_iff.mpr (.inl ⟨k, hmem⟩))
  exact ⟨hctrl (List.mem_cons_self ..), hctrl (List.mem_cons_of_mem _ (List.mem_cons_self ..)),
    hctrl (List.mem_cons_of_mem _ (List.mem_cons_of_mem _ (List.mem_cons_self ..)))⟩

end AuthorizationAggregationInput

namespace AuthorizationAggregator

open AuthorizationAggregationInput

variable {env : Ambient} {requestId : String} {i : AuthorizationAggregationInput}
  {at? : Option Instant}

/-! ## What an aggregation decides -/

theorem aggregate_missing (h : ¬ i.MandatorySupplied) :
    (aggregate env requestId i at?).decision = .reject
      ∧ (aggregate env requestId i at?).rejectionReason = some .controlResultMissing := by
  rw [MandatorySupplied] at h
  rw [aggregate]
  cases hm : i.mandateCtrl with
  | none => exact ⟨rfl, rfl⟩
  | some m =>
      cases hp : i.policyCtrl with
      | none => exact ⟨rfl, rfl⟩
      | some p =>
          cases hc : i.cartIntegrityOutcome with
          | none => exact ⟨rfl, rfl⟩
          | some c =>
              rw [hm, hp, hc] at h
              exact absurd ⟨nofun, nofun, nofun⟩ h

theorem aggregate_supplied (env : Ambient) (requestId : String) (at? : Option Instant)
    (h : i.MandatorySupplied) :
    ∃ p, i.policyCtrl = some p ∧ aggregate env requestId i at? =
      match i.firstFailing with
      | some (k, o) => reject requestId (env.time at?) i.labelsPassed (k.failure o)
      | none => classify requestId (env.time at?) i.labelsPassed p i.stepUpOutcome := by
  obtain ⟨hm, hp, hc⟩ := h
  obtain ⟨m, hm⟩ := Option.ne_none_iff_exists'.mp hm
  obtain ⟨p, hp⟩ := Option.ne_none_iff_exists'.mp hp
  obtain ⟨c, hc⟩ := Option.ne_none_iff_exists'.mp hc
  refine ⟨p, hp, ?_⟩
  rewrite [aggregate, hm, hp, hc]
  rfl

theorem aggregate_refused (h : i.MandatorySupplied) {k : ControlCheck}
    {o : SecurityControlOutcome} (hfail : i.firstFailing = some (k, o)) :
    (aggregate env requestId i at?).decision = .reject
      ∧ (aggregate env requestId i at?).rejectionReason = some (k.reason o) := by
  obtain ⟨p, -, heq⟩ := aggregate_supplied env requestId at? h
  rw [heq, hfail]
  exact ⟨rfl, rfl⟩

theorem stepUpRequired_iff {p : SecurityControlOutcome} (hp : i.policyCtrl = some p) :
    i.StepUpRequired
      ↔ (stepUpDiff p i.stepUpOutcome).isSome = true ∨ p.decision = .stepUpRequired := by
  rw [StepUpRequired, hp, stepUpDiff]
  by_cases hpolicy : p.decision = .stepUpRequired
  · exact ⟨fun _ => .inr hpolicy, fun _ => .inl ⟨p, rfl, hpolicy⟩⟩
  · rw [if_neg hpolicy]
    constructor
    · rintro (⟨p', heq, hp'⟩ | ⟨s, hs, hstep, hdiff⟩)
      · obtain rfl := Option.some.inj heq
        exact absurd hp' hpolicy
      · rw [hs, Option.bind_some, if_pos hstep]
        exact .inl (Option.isSome_iff_ne_none.mpr hdiff)
    · rintro (hdiff | hp')
      · obtain ⟨diff, hdiff⟩ := Option.isSome_iff_exists.mp hdiff
        obtain ⟨s, hs, hgiven⟩ := Option.bind_eq_some_iff.mp hdiff
        by_cases hstep : s.decision = .stepUpRequired
        · rw [if_pos hstep] at hgiven
          exact .inr ⟨s, hs, hstep, Option.ne_none_iff_exists'.mpr ⟨diff, hgiven⟩⟩
        · rw [if_neg hstep] at hgiven
          cases hgiven
      · exact absurd hp' hpolicy

theorem aggregate_cleared (env : Ambient) (requestId : String) (at? : Option Instant)
    (h : i.MandatorySupplied) (hclear : i.firstFailing = none) :
    (i.StepUpRequired → (aggregate env requestId i at?).decision = .stepUpRequired)
      ∧ (¬ i.StepUpRequired → (aggregate env requestId i at?).decision = .allow) := by
  obtain ⟨p, hp, heq⟩ := aggregate_supplied env requestId at? h
  rw [heq, hclear]
  show (_ → (classify _ _ _ p i.stepUpOutcome).decision = _) ∧ _
  rw [stepUpRequired_iff hp, classify]
  constructor
  · intro hstep
    rw [if_pos hstep]
  · intro hstep
    rw [if_neg hstep]

/-! ## When the promise is kept -/

theorem consent_of_reject {r : AggregatedAuthorizationResult} {given : RejectionReason}
    (hdecision : r.decision = .reject) (hgiven : r.rejectionReason = some given) :
    i.UnanimousConsent r
      ↔ ∀ reason, i.rejectingReason = some reason → reason = given := by
  constructor
  · intro h reason hreason
    have hreported := (h.reject (exists_of_rejectingReason hreason)).2 reason hreason
    exact Option.some.inj (hreported.symm.trans hgiven)
  · intro h
    refine ⟨?_, ?_, fun _ => hdecision⟩
    · intro hallow
      rw [hdecision] at hallow
      cases hallow
    · intro _
      refine ⟨hdecision, ?_⟩
      intro reason hreason
      rw [hgiven, h reason hreason]

theorem consent_of_missing (hmissing : ¬ i.MandatorySupplied) :
    i.UnanimousConsent (aggregate env requestId i at?) ↔ i.KeepsConsent := by
  obtain ⟨hdecision, hgiven⟩ := aggregate_missing hmissing
  rw [consent_of_reject hdecision hgiven]
  constructor
  · exact .missing hmissing
  · intro h
    cases h with
    | missing _ hreason => exact hreason
    | refused hsupplied _ _ => exact absurd hsupplied hmissing
    | cleared hsupplied _ _ _ =>
        exact absurd (mandatorySupplied_of_not_mem hsupplied) hmissing

theorem consent_of_refused (hsupplied : i.MandatorySupplied) {k : ControlCheck}
    {o : SecurityControlOutcome} (hfail : i.firstFailing = some (k, o)) :
    i.UnanimousConsent (aggregate env requestId i at?) ↔ i.KeepsConsent := by
  obtain ⟨hdecision, hgiven⟩ := aggregate_refused hsupplied hfail
  rw [consent_of_reject hdecision hgiven]
  constructor
  · intro hreason
    exact .refused hsupplied hfail (.inr hreason)
  · intro h
    cases h with
    | missing hmissing _ => exact absurd hsupplied hmissing
    | refused _ hfail' hreason =>
        obtain ⟨rfl, rfl⟩ := Prod.mk.inj (Option.some.inj (hfail'.symm.trans hfail))
        rcases hreason with hreject | hreason
        · intro reason hreason
          rw [rejectingReason_of_failing hfail hreject] at hreason
          exact (Option.some.inj hreason).symm
        · exact hreason
    | cleared _ hclear _ _ =>
        rw [hclear] at hfail
        cases hfail

theorem consent_of_cleared (hsupplied : i.MandatorySupplied) (hclear : i.firstFailing = none) :
    i.UnanimousConsent (aggregate env requestId i at?) ↔ i.KeepsConsent := by
  obtain ⟨hstepUp, hallow⟩ := aggregate_cleared env requestId at? hsupplied hclear
  have hnotReject : (aggregate env requestId i at?).decision ≠ .reject := by
    by_cases hstep : i.StepUpRequired
    · rw [hstepUp hstep]
      exact nofun
    · rw [hallow hstep]
      exact nofun
  constructor
  · intro h
    refine .cleared (fun hmem => hnotReject (h.missing hmem)) hclear ?_ ?_
    · intro s hs hreject
      exact hnotReject (h.reject ⟨s, mem_controls_iff.mpr (.inr hs.symm), hreject⟩).1
    · by_cases hstep : i.StepUpRequired
      · exact .inl hstep
      · exact .inr (h.allow (hallow hstep))
  · intro h
    cases h with
    | missing hmissing _ => exact absurd hsupplied hmissing
    | refused _ hfail _ =>
        rw [hclear] at hfail
        cases hfail
    | cleared hall _ hreject hconsent =>
        refine ⟨?_, ?_, fun hmem => absurd hmem hall⟩
        · intro hdecision
          rcases hconsent with hstep | hunanimous
          · rw [hstepUp hstep] at hdecision
            cases hdecision
          · exact hunanimous
        · rintro ⟨o, hmem, ho⟩
          exact absurd ho (hreject o (eq_stepUp_of_reject hclear hmem ho))

/-- **The aggregator keeps the promise on exactly these inputs.** -/
theorem aggregate_keeps_consent_iff (env : Ambient) (requestId : String)
    (i : AuthorizationAggregationInput) (at? : Option Instant) :
    i.UnanimousConsent (aggregate env requestId i at?) ↔ i.KeepsConsent := by
  by_cases hsupplied : i.MandatorySupplied
  · cases hfail : i.firstFailing with
    | some c =>
        obtain ⟨k, o⟩ := c
        exact consent_of_refused hsupplied hfail
    | none => exact consent_of_cleared hsupplied hfail
  · exact consent_of_missing hsupplied

/-! ## A step-up that rejects -/

def Sample.passing (name : String) : SecurityControlOutcome :=
  ⟨name, true, .allow, none, none, none⟩

/-- A confirmation beyond the hard limit, as the step-up engine reports it. -/
def Sample.beyondHardLimit : StepUpEvaluationResult where
  valid := false
  decision := .reject
  zone := .hardReject
  challengeId := none
  diff := none
  rejectionReason := some .exceedsStepUpHardLimit
  rejectionDetail := some "Cart total exceeds the hard limit."
  evaluatedAt := 0

/-- Six controls that pass, and the rejecting step-up. -/
def Sample.rejectedStepUp : AuthorizationAggregationInput where
  mandateOutcome := some (.inl (Sample.passing "MANDATE_SCOPE_LIFECYCLE"))
  merchantPolicyOutcome := some (.inl (Sample.passing "MERCHANT_COMMERCE_POLICY"))
  cartIntegrityOutcome := some (Sample.passing "CART_INTEGRITY")
  budgetOutcome := some (Sample.passing "BUDGET_RESERVATION")
  replayOutcome := some (Sample.passing "REPLAY_PROTECTION")
  nonceOutcome := some (Sample.passing "NONCE_VALIDATION")
  stepUpOutcome := some Sample.beyondHardLimit.toSecurityControlOutcome

/-- The rejecting step-up is allowed. -/
theorem rejectedStepUp_allowed :
    ¬ Sample.rejectedStepUp.UnanimousConsent
      (aggregate ⟨0, "uuid"⟩ "req-1" Sample.rejectedStepUp none) := by
  intro h
  have hstepUp : some Sample.beyondHardLimit.toSecurityControlOutcome
      ∈ Sample.rejectedStepUp.controls :=
    mem_controls_iff.mpr (.inr rfl)
  have hreject := (h.reject ⟨_, hstepUp, rfl⟩).1
  exact absurd hreject (by decide)

end AuthorizationAggregator

end MandateGateway
