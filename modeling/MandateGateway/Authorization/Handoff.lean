import MandateGateway.Authorization.Consent
import MandateGateway.Budget.Engine
import MandateGateway.Execution.ToolProxy

/-! # From the control engines to the execution gate

    The authorization that is assembled from the engines' own conversions and
    the aggregator, and what the execution gate says to it.  The two sides
    name three of the six controls differently, so that the gate refuses every
    authorization that all six engines accept. -/

namespace MandateGateway

open Clock AuthorizationAggregationInput AuthorizationAggregator

/-- What the six control engines report on one request. -/
structure ControlResults where
  mandate        : MandateEvaluationResult
  merchantPolicy : MerchantPolicyEvaluationResult
  cart           : CartIntegrityResult
  budget         : BudgetEvaluationResult
  replay         : ReplayEvaluationResult
  nonce          : NonceEvaluationResult

namespace ControlResults

/-- Every engine's own result is an acceptance. -/
structure Accepted (r : ControlResults) : Prop where
  mandate        : r.mandate.valid = true
  merchantPolicy : r.merchantPolicy.isAllowed = true
  cart           : r.cart.valid = true
  budget         : r.budget.isAllowed = true
  replay         : r.replay.isAllowed = true
  nonce          : r.nonce.isAllowed = true

/-- The engines' own conversions, as the orchestrator lists them. -/
def outcomes (r : ControlResults) : List SecurityControlOutcome :=
  [r.cart.toSecurityControlOutcome, .fromMerchantPolicy r.merchantPolicy,
    .fromMandate r.mandate, r.budget.toSecurityControlOutcome,
    r.replay.toSecurityControlOutcome, r.nonce.toSecurityControlOutcome]

/-- What the aggregator is given. -/
def input (r : ControlResults) : AuthorizationAggregationInput where
  mandateOutcome := some (.inr r.mandate)
  merchantPolicyOutcome := some (.inr r.merchantPolicy)
  cartIntegrityOutcome := some r.cart.toSecurityControlOutcome
  budgetOutcome := some r.budget.toSecurityControlOutcome
  replayOutcome := some r.replay.toSecurityControlOutcome
  nonceOutcome := some r.nonce.toSecurityControlOutcome
  stepUpOutcome := none

/-- The authorization with the aggregate decision and these control outcomes. -/
def assemble (env : Ambient) (requestId : String) (at? : Option Instant) (r : ControlResults)
    (outcomes : List SecurityControlOutcome) : AuthorizationResult :=
  let aggregated := aggregate env requestId r.input at?
  { decision := aggregated.decision
    controlOutcomes := outcomes
    rejectionReason := aggregated.rejectionReason
    rejectionDetail := aggregated.rejectionDetail
    decisionTrace := .empty }

/-! ## What the conversions produce -/

theorem outcomes_names (r : ControlResults) :
    r.outcomes.map SecurityControlOutcome.controlName
      = ["CART_INTEGRITY", "MERCHANT_COMMERCE_POLICY", "MANDATE_SCOPE_LIFECYCLE", "BUDGET",
          "REPLAY_PROTECTION", "NONCE_VALIDATION"] := rfl

theorem allows_of_accepted {r : ControlResults} (h : r.Accepted) :
    ∀ c ∈ r.outcomes, c.passed = true ∧ c.decision = .allow := by
  have hflag : ∀ {valid : Bool} {decision : PolicyDecision},
      (valid && decision == .allow) = true → valid = true ∧ decision = .allow := by
    intro valid decision hboth
    rw [Bool.and_eq_true, beq_iff_eq] at hboth
    exact hboth
  intro c hc
  simp only [outcomes, List.mem_cons, List.not_mem_nil, or_false] at hc
  rcases hc with rfl | rfl | rfl | rfl | rfl | rfl
  · exact ⟨h.cart, if_pos h.cart⟩
  · refine ⟨?_, beq_iff_eq.mp h.merchantPolicy⟩
    show (r.merchantPolicy.isAllowed || r.merchantPolicy.isStepUpRequired) = true
    rw [h.merchantPolicy, Bool.true_or]
  · exact ⟨h.mandate, if_pos h.mandate⟩
  · exact hflag h.budget
  · exact hflag h.replay
  · exact hflag h.nonce

theorem supplied_mem_outcomes {r : ControlResults} {k : ControlCheck}
    {o : SecurityControlOutcome} (h : (k, o) ∈ r.input.supplied) : o ∈ r.outcomes := by
  have hsupplied : r.input.supplied.map Prod.snd
      = [.fromMandate r.mandate, .fromMerchantPolicy r.merchantPolicy,
          r.cart.toSecurityControlOutcome, r.budget.toSecurityControlOutcome,
          r.replay.toSecurityControlOutcome, r.nonce.toSecurityControlOutcome] := rfl
  have hmem : o ∈ r.input.supplied.map Prod.snd := List.mem_map.mpr ⟨(k, o), h, rfl⟩
  rw [hsupplied] at hmem
  simp only [List.mem_cons, List.not_mem_nil, or_false] at hmem
  simp only [outcomes, List.mem_cons, List.not_mem_nil, or_false]
  tauto

/-- **The aggregator allows what all six engines accept.** -/
theorem aggregate_of_accepted {r : ControlResults} (h : r.Accepted) (env : Ambient)
    (requestId : String) (at? : Option Instant) :
    (aggregate env requestId r.input at?).decision = .allow := by
  have hsupplied : r.input.MandatorySupplied :=
    ⟨Option.some_ne_none _, Option.some_ne_none _, Option.some_ne_none _⟩
  have hclear : r.input.firstFailing = none := by
    rw [firstFailing, List.find?_eq_none]
    rintro ⟨k, o⟩ hmem
    obtain ⟨hpassed, hallow⟩ := allows_of_accepted h o (supplied_mem_outcomes hmem)
    show ¬ k.fails o = true
    rw [ControlCheck.fails, hpassed, hallow, Bool.not_true, Bool.and_false]
    exact Bool.false_ne_true
  have hstepUp : ¬ r.input.StepUpRequired := by
    rintro (⟨p, hp, hstep⟩ | ⟨s, hs, -⟩)
    · have hpolicy : p ∈ r.outcomes := by
        obtain rfl := Option.some.inj hp
        exact List.mem_cons_of_mem _ (List.mem_cons_self ..)
      rw [(allows_of_accepted h p hpolicy).2] at hstep
      cases hstep
    · cases hs
  exact (aggregate_cleared env requestId at? hsupplied hclear).2 hstepUp

/-! ## What the gate says -/

theorem lastOutcome_assemble (env : Ambient) (requestId : String) (at? : Option Instant)
    (r : ControlResults) {outcomes : List SecurityControlOutcome}
    (hconverted : ∀ c ∈ outcomes, c ∈ r.outcomes) {name : String}
    (hname : name ∉ r.outcomes.map SecurityControlOutcome.controlName) :
    (r.assemble env requestId at? outcomes).lastOutcome name = none := by
  rw [AuthorizationResult.lastOutcome, List.find?_eq_none]
  intro c hc hmatch
  have hmem : c ∈ r.outcomes := hconverted c (List.mem_reverse.mp hc)
  exact hname (List.mem_map.mpr ⟨c, hmem, beq_iff_eq.mp hmatch⟩)

/-- **An authorization assembled from the engines' conversions is refused at
    the gate whenever all of them accept**, for want of a control by the name
    of MANDATE_EVALUATION, whichever of the conversions it lists and in
    whichever order. -/
theorem assembled_refused (r : ControlResults) (h : r.Accepted) (env : Ambient)
    (requestId : String) (at? : Option Instant) (outcomes : List SecurityControlOutcome)
    (hconverted : ∀ c ∈ outcomes, c ∈ r.outcomes) :
    (r.assemble env requestId at? outcomes).decision = .allow
      ∧ verifyPreExecutionAuth (r.assemble env requestId at? outcomes)
        = some ⟨.controlResultMissing, .authorizationFailed,
            "Execution blocked: Security control MANDATE_EVALUATION not satisfied."⟩ := by
  have hallow : (r.assemble env requestId at? outcomes).decision = .allow :=
    aggregate_of_accepted h env requestId at?
  have hname : "MANDATE_EVALUATION" ∉ r.outcomes.map SecurityControlOutcome.controlName := by
    rw [outcomes_names]
    decide
  have hwanting :
      controlAllows (r.assemble env requestId at? outcomes).outcomesByName "MANDATE_EVALUATION"
        = false := by
    rw [controlAllows, AuthorizationResult.get_outcomesByName,
      lastOutcome_assemble env requestId at? r hconverted hname]
  refine ⟨hallow, ?_⟩
  rw [verifyPreExecutionAuth, if_neg (not_not_intro hallow), requiredControls,
    List.find?_cons_of_pos (by rw [hwanting]; rfl)]
  rfl

/-! ## Six engines that accept -/

namespace Sample

def env : Ambient := ⟨1709210096000000, "uuid-1"⟩

theorem transactionId_ne : "tx-1" ≠ "" := by decide

theorem mandateId_ne : "mandate-1" ≠ "" := by decide

def nonceRecord : NonceRecord where
  nonceId := "nonce-1"
  nonceValue := "0123456789abcdef0123456789abcdef"
  transactionId := "tx-1"
  mandateId := "mandate-1"
  state := .consumed
  issuedAt := 1709210000000000
  expiresAt := 1709210300000000
  consumedAt := some env.now
  nonceValue_long := by decide
  transactionId_ne := transactionId_ne
  mandateId_ne := mandateId_ne

def budgetResult : BudgetEvaluationResult where
  valid := true
  decision := .allow
  mandateId := "mandate-1"
  requestedPaise := 25000
  availablePaise := 75000
  reservation := some {
    reservationId := "res-1"
    transactionId := "tx-1"
    mandateId := "mandate-1"
    amountPaise := 25000
    currency := .inr
    state := .reserved
    createdAt := env.now
    expiresAt := env.now + 300 * 1000000
    updatedAt := env.now }
  rejectionReason := none
  rejectionDetail := none
  evaluatedAt := env.now

def results : ControlResults where
  mandate := ⟨true, "mandate-1", "buyer-1", .active, none, none, [], env.now⟩
  merchantPolicy := ⟨.allow, "merchant-1", "policy-1", 1, none, none, [], env.now⟩
  cart := ⟨true, "hash-1", "hash-1", none, none, [], env.now⟩
  budget := budgetResult
  replay := ⟨true, .allow, "fingerprint-1", "mandate-1", "tx-1", none, none, env.now⟩
  nonce := ⟨true, .allow, nonceRecord.nonceValue, "mandate-1", "tx-1", some nonceRecord,
    none, none, env.now⟩

theorem results_accepted : results.Accepted := ⟨rfl, rfl, rfl, rfl, rfl, rfl⟩

/-- The budget result is the engine's own answer to the request. -/
example :
    let registered := (BudgetEngine.new.registerBudget env "mandate-1" 100000 .inr none 0 0).2
    (registered.reserve env "mandate-1" "tx-1" 25000 .inr (some "res-1") 300 none).1
      = .ok budgetResult := by
  rfl

end Sample

theorem assembled_refused_sample :
    verifyPreExecutionAuth
        (Sample.results.assemble Sample.env "req-1" none Sample.results.outcomes)
      = some ⟨.controlResultMissing, .authorizationFailed,
          "Execution blocked: Security control MANDATE_EVALUATION not satisfied."⟩ :=
  (assembled_refused Sample.results Sample.results_accepted Sample.env "req-1" none
    Sample.results.outcomes fun _ hc => hc).2

/-- Six acceptances that the gate does not accept. -/
theorem sixAcceptances_not_accepted :
    Sample.results.Accepted
      ∧ verifyPreExecutionAuth
          (Sample.results.assemble Sample.env "req-1" none Sample.results.outcomes) ≠ none :=
  ⟨Sample.results_accepted, by decide⟩

end ControlResults

end MandateGateway
