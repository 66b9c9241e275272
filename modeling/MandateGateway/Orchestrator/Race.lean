import MandateGateway.Execution.Effects
import MandateGateway.Lib.Runs
import MandateGateway.Orchestrator.Engine
import Mathlib.Logic.Function.Basic

/-! # Racing calls under one idempotency key

    `execute_intent` looks its key up, runs the pipeline and stores the
    result, and no lock is held over the three.  Here each is one step, and
    calls that carry the same key interleave freely; the pipeline draws a
    fresh transaction for every call, so that the payment service sees two.

    A call left alone is `executeIntent` (`executeIntent_alone`).  In a race the
    provider is asked once and every answer names one transaction as long as
    no pipeline that completes starts while another call has a result
    (`runs_once`). -/

namespace MandateGateway

open Runs Function PaymentExecutionService

/-- How often the provider was asked. -/
def providerCalls : Option CallOutcome → Nat
  | none => 0
  | some o => o.dispatched.toList.length + o.queried.toList.length

theorem PaymentExecutionService.ReconcileEffect.providerCalls_le_one
    {s s' : PaymentExecutionService} {adapter : RazorpayAdapter} {t : String}
    {ext : Option String} {o : CallOutcome} (h : ReconcileEffect s adapter t ext o s') :
    providerCalls (some o) ≤ 1 := by
  cases h with
  | notFound => exact Nat.zero_le 1
  | cached => exact Nat.zero_le 1
  | raised => exact Nat.le_refl 1
  | settled => exact Nat.le_refl 1
  | undecided => exact Nat.le_refl 1

theorem PaymentExecutionService.ExecuteEffect.providerCalls_le_one
    {s s' : PaymentExecutionService} {adapter : RazorpayAdapter}
    {proposal : PaymentExecuteProposalRequest} {auth : AuthorizationResult} {tx : Transaction}
    {o : CallOutcome} (h : ExecuteEffect s adapter proposal auth tx o s') :
    providerCalls (some o) ≤ 1 := by
  cases h with
  | replayed => exact Nat.zero_le 1
  | reconciled _ _ h => exact h.providerCalls_le_one
  | refused => exact Nat.zero_le 1
  | unprintable => exact Nat.zero_le 1
  | ambiguous => exact Nat.le_refl 1
  | answered => exact Nat.le_refl 1

namespace OrchestratorCall

variable {sha : Sha256} {c : OrchestratorCall} {service service' : PaymentExecutionService}
  {res : EndToEndExecutionResult} {payment : Option CallOutcome}

theorem providerCalls_pay (cart : Cart) (auth : AuthorizationResult) :
    providerCalls (c.pay sha cart auth service).1 ≤ 1 := by
  rcases c.pay_cases sha cart auth service with hpay | ⟨-, o, s', hpay, heffect⟩
  · rw [hpay]
    exact Nat.zero_le 1
  · rw [hpay]
    exact heffect.providerCalls_le_one

theorem InternalEffect.providerCalls_le_one
    (h : c.InternalEffect sha service (.ok res) payment service') :
    providerCalls payment ≤ 1 := by
  cases h with
  | withheld => exact Nat.zero_le 1
  | attempted => exact providerCalls_pay _ _

/-- A pipeline writes nothing but entries of its own transaction. -/
theorem InternalEffect.writes {result : Except PyError EndToEndExecutionResult}
    (h : c.InternalEffect sha service result payment service') :
    Writes service c.transactionId service' := by
  cases h with
  | raised => exact .nothing
  | withheld => exact .nothing
  | @attempted cart auth =>
      rcases c.pay_cases sha cart auth service with hpay | ⟨-, o, s', hpay, heffect⟩
      · rw [hpay]
        exact .nothing
      · rw [hpay]
        exact heffect.writes

/-- A call that reaches the payment asks the provider about a new transaction. -/
theorem InternalEffect.asks {result : Except PyError EndToEndExecutionResult}
    (h : c.InternalEffect sha service result payment service') (hreaches : c.Reaches)
    (hnew : service.results.get c.transactionId = none) : providerCalls payment = 1 := by
  cases h with
  | raised hnot => exact absurd hreaches.completes hnot
  | withheld _ _ hnot => exact absurd hreaches.allowed hnot
  | @attempted cart auth _ _ _ _ _ hgate =>
      rcases c.pay_cases sha cart auth service with hpay | ⟨-, o, s', hpay, heffect⟩
      · have hsome : (c.pay sha cart auth service).1.isSome = true :=
          pay_isSome_iff.mpr ⟨hreaches.mandateVersion, hreaches.policyVersion⟩
        rw [hpay] at hsome
        cases hsome
      · rw [hpay]
        have hnew' : service.results.get (c.authorizedTransaction sha cart).transactionId = none :=
          hnew
        cases heffect with
        | replayed hr =>
            rw [hnew'] at hr
            cases hr
        | reconciled hr =>
            rw [hnew'] at hr
            cases hr
        | refused _ hrefused =>
            rw [hgate] at hrefused
            cases hrefused
        | unprintable _ hraised =>
            rw [hgate] at hraised
            cases hraised
        | ambiguous => rfl
        | answered => rfl

end OrchestratorCall

/-- How far a call is: it has missed its key, or computed a result, that it has
    yet to store. -/
inductive IntentStage where
  | waiting
  | missed
  | computed (res : EndToEndExecutionResult)
  | returned (res : EndToEndExecutionResult)
  | raised (err : OrchestratorError)

/-- The result of a call, once it has one. -/
def IntentStage.result : IntentStage → Option EndToEndExecutionResult
  | .computed res => some res
  | .returned res => some res
  | _ => none

/-- The call is not between its lookup and its end. -/
def IntentStage.settled : IntentStage → Bool
  | .missed => false
  | .computed _ => false
  | _ => true

/-- A call that is not under way has its result from its end. -/
theorem IntentStage.eq_returned {stage : IntentStage} {res : EndToEndExecutionResult}
    (hsettled : stage.settled = true) (hres : stage.result = some res) : stage = .returned res := by
  cases stage with
  | returned r =>
      obtain rfl := Option.some.inj hres
      rfl
  | computed => cases hsettled
  | waiting => cases hres
  | missed => cases hres
  | raised => cases hres

/-- The end of a call that `execute_intent` replies to. -/
def IntentStage.replied : Except OrchestratorError EndToEndExecutionResult → IntentStage
  | .ok res => .returned res
  | .error err => .raised err

/-- The shared orchestrator, and how far each call is. -/
structure IntentRace (ι : Type) where
  orchestrator : CommerceOrchestrator
  stage        : ι → IntentStage

namespace IntentRace

variable {ι : Type} [DecidableEq ι]

/-- `if request.idempotency_key in self._executed_intents`. -/
def lookUp (calls : ι → OrchestratorCall) (i : ι) (s : IntentRace ι) : IntentRace ι :=
  match s.orchestrator.executedIntents.get (calls i).request.idempotencyKey with
  | some cached => { s with stage := update s.stage i (.returned cached) }
  | none => { s with stage := update s.stage i .missed }

/-- `_execute_intent_internal(request)`, and the exception it is turned into. -/
def runPipeline (sha : Sha256) (calls : ι → OrchestratorCall) (i : ι) (s : IntentRace ι) :
    Option CallOutcome × IntentRace ι :=
  match (calls i).executeIntentInternal sha s.orchestrator.executionService with
  | (.error err, payment, service) =>
      (payment, ⟨{ s.orchestrator with executionService := service },
        update s.stage i (.raised (CommerceOrchestrator.internalError err))⟩)
  | (.ok res, payment, service) =>
      (payment, ⟨{ s.orchestrator with executionService := service },
        update s.stage i (.computed res)⟩)

/-- `self._executed_intents[request.idempotency_key] = result`. -/
def store (calls : ι → OrchestratorCall) (i : ι) (res : EndToEndExecutionResult)
    (s : IntentRace ι) : IntentRace ι :=
  ⟨{ s.orchestrator with
      executedIntents :=
        s.orchestrator.executedIntents.set (calls i).request.idempotencyKey res },
    update s.stage i (.returned res)⟩

/-- The next step of the call `i`. -/
def step (sha : Sha256) (calls : ι → OrchestratorCall) (s : IntentRace ι) (i : ι) :
    Option CallOutcome × IntentRace ι :=
  match s.stage i with
  | .waiting => (none, s.lookUp calls i)
  | .missed => s.runPipeline sha calls i
  | .computed res => (none, s.store calls i res)
  | .returned _ => (none, s)
  | .raised _ => (none, s)

/-- Before the race: no call has started. -/
def before (o : CommerceOrchestrator) : IntentRace ι := ⟨o, fun _ => .waiting⟩

abbrev RaceStep (ι : Type) : Type := Step (IntentRace ι) ι (Option CallOutcome)

/-- How often the provider was asked in a run. -/
def invocations (run : List (RaceStep ι)) : Nat := (run.map fun c => providerCalls c.out).sum

omit [DecidableEq ι] in
theorem invocations_concat (past : List (RaceStep ι)) (c : RaceStep ι) :
    invocations (past ++ [c]) = invocations past + providerCalls c.out := by
  rw [invocations, List.map_append, List.sum_append, List.map_singleton, List.sum_singleton]
  rfl

variable {sha : Sha256} {calls : ι → OrchestratorCall} {s : IntentRace ι} {i : ι}

section
variable (sha : Sha256) (calls : ι → OrchestratorCall) (o : CommerceOrchestrator)
  (stage : ι → IntentStage) (i : ι)

@[simp] theorem step_missed :
    step sha calls ⟨o, update stage i .missed⟩ i
      = runPipeline sha calls i ⟨o, update stage i .missed⟩ := by
  simp only [step, update_self]

@[simp] theorem step_computed (res : EndToEndExecutionResult) :
    step sha calls ⟨o, update stage i (.computed res)⟩ i
      = (none, store calls i res ⟨o, update stage i (.computed res)⟩) := by
  simp only [step, update_self]

@[simp] theorem step_returned (res : EndToEndExecutionResult) :
    step sha calls ⟨o, update stage i (.returned res)⟩ i
      = (none, ⟨o, update stage i (.returned res)⟩) := by
  simp only [step, update_self]

@[simp] theorem step_raised (err : OrchestratorError) :
    step sha calls ⟨o, update stage i (.raised err)⟩ i
      = (none, ⟨o, update stage i (.raised err)⟩) := by
  simp only [step, update_self]

end

/-- The moves of the race, with what each asks of the payment service. -/
inductive Moves (sha : Sha256) (calls : ι → OrchestratorCall) (s : IntentRace ι) (i : ι) :
    Option CallOutcome → IntentRace ι → Prop where
  | rests (hstage : s.stage i ≠ .waiting ∧ s.stage i ≠ .missed) : Moves sha calls s i none s
  | hits {res : EndToEndExecutionResult} (hstage : s.stage i = .waiting)
      (hkey : s.orchestrator.executedIntents.get (calls i).request.idempotencyKey = some res) :
      Moves sha calls s i none { s with stage := update s.stage i (.returned res) }
  | misses (hstage : s.stage i = .waiting)
      (hkey : s.orchestrator.executedIntents.get (calls i).request.idempotencyKey = none) :
      Moves sha calls s i none { s with stage := update s.stage i .missed }
  | fails {err : OrchestratorError} (hstage : s.stage i = .missed)
      (hcompletes : ¬ (calls i).Completes) :
      Moves sha calls s i none { s with stage := update s.stage i (.raised err) }
  | completes {res : EndToEndExecutionResult} {payment : Option CallOutcome}
      {service : PaymentExecutionService} (hstage : s.stage i = .missed)
      (h : (calls i).InternalEffect sha s.orchestrator.executionService (.ok res) payment
        service) :
      Moves sha calls s i payment
        ⟨{ s.orchestrator with executionService := service }, update s.stage i (.computed res)⟩
  | stores {res : EndToEndExecutionResult} (hstage : s.stage i = .computed res) :
      Moves sha calls s i none (s.store calls i res)

/-- **Every step of the race is one of its moves.** -/
theorem step_moves (sha : Sha256) (calls : ι → OrchestratorCall) (s : IntentRace ι) (i : ι) :
    Moves sha calls s i (step sha calls s i).1 (step sha calls s i).2 := by
  rw [step]
  cases hstage : s.stage i with
  | waiting =>
      dsimp only
      rw [lookUp]
      cases hkey : s.orchestrator.executedIntents.get (calls i).request.idempotencyKey with
      | some cached => exact .hits hstage hkey
      | none => exact .misses hstage hkey
  | missed =>
      dsimp only
      rw [runPipeline]
      have heffect := (calls i).internal_effect sha s.orchestrator.executionService
      generalize (calls i).executeIntentInternal sha s.orchestrator.executionService = r
        at heffect ⊢
      obtain ⟨result, payment, service⟩ := r
      cases result with
      | error err =>
          cases heffect with
          | raised hnot => exact .fails hstage hnot
      | ok res => exact .completes hstage heffect
  | computed res => exact .stores hstage
  | returned res =>
      refine .rests ?_
      rw [hstage]
      exact ⟨nofun, nofun⟩
  | raised err =>
      refine .rests ?_
      rw [hstage]
      exact ⟨nofun, nofun⟩

/-- A step moves no other call. -/
theorem Moves.stage_of_ne {payment : Option CallOutcome} {s' : IntentRace ι} {j : ι}
    (h : Moves sha calls s i payment s') (hji : j ≠ i) : s'.stage j = s.stage j := by
  cases h with
  | rests => rfl
  | hits => exact update_of_ne hji ..
  | misses => exact update_of_ne hji ..
  | fails => exact update_of_ne hji ..
  | completes => exact update_of_ne hji ..
  | stores => exact update_of_ne hji ..

/-- A result stays with the call that has it. -/
theorem Moves.result_kept {payment : Option CallOutcome} {s' : IntentRace ι} {j : ι}
    {res : EndToEndExecutionResult} (h : Moves sha calls s i payment s')
    (hres : (s.stage j).result = some res) : (s'.stage j).result = some res := by
  by_cases hji : j = i
  · subst hji
    cases h with
    | rests => exact hres
    | stores hstage =>
        rw [hstage] at hres
        simp only [store, update_self]
        exact hres
    | hits hstage =>
        rw [hstage] at hres
        cases hres
    | misses hstage =>
        rw [hstage] at hres
        cases hres
    | fails hstage =>
        rw [hstage] at hres
        cases hres
    | completes hstage =>
        rw [hstage] at hres
        cases hres
  · rw [h.stage_of_ne hji]
    exact hres

/-! ## What holds in every state of a race -/

/-- A result that some call computed, or that was stored before any call
    started. -/
def Origin (calls : ι → OrchestratorCall) (key : String) (s : IntentRace ι)
    (res : EndToEndExecutionResult) : Prop :=
  (∃ k, (s.stage k).result = some res ∧ res.transactionId = (calls k).transactionId)
    ∨ (s.orchestrator.executedIntents.get key = some res ∧ ∀ k, (s.stage k).settled = true)

/-- What holds of every race, whatever the order of its steps. -/
structure Inv (calls : ι → OrchestratorCall) (key : String) (s : IntentRace ι) : Prop where
  cached : ∀ res, s.orchestrator.executedIntents.get key = some res → Origin calls key s res
  held   : ∀ i res, (s.stage i).result = some res → Origin calls key s res

omit [DecidableEq ι] in
theorem before_inv (calls : ι → OrchestratorCall) (key : String) (o : CommerceOrchestrator) :
    Inv calls key (before o) where
  cached := by
    intro res h
    exact .inr ⟨h, fun _ => rfl⟩
  held := by
    intro i res h
    cases h

/-- Results keep their origin while the cache is kept or its key is not yet in it. -/
theorem Origin.moved {key : String} {payment : Option CallOutcome} {s' : IntentRace ι}
    {res : EndToEndExecutionResult} (h : Origin calls key s res)
    (hmoves : Moves sha calls s i payment s') (hkey : ∀ i, (calls i).request.idempotencyKey = key) :
    Origin calls key s' res := by
  rcases h with ⟨k, hk, hown⟩ | ⟨hcached, hsettled⟩
  · exact .inl ⟨k, hmoves.result_kept hk, hown⟩
  · -- with the key stored and no call under way, a call can only find it
    have hi := hsettled i
    cases hmoves with
    | rests => exact .inr ⟨hcached, hsettled⟩
    | hits hstage =>
        refine .inr ⟨hcached, ?_⟩
        intro k
        show (update s.stage i (.returned _) k).settled = true
        by_cases hki : k = i
        · rw [hki, update_self]
          rfl
        · rw [update_of_ne hki]
          exact hsettled k
    | misses hstage hnone =>
        rw [hkey, hcached] at hnone
        cases hnone
    | fails hstage =>
        rw [hstage] at hi
        cases hi
    | completes hstage =>
        rw [hstage] at hi
        cases hi
    | stores hstage =>
        rw [hstage] at hi
        cases hi

theorem Inv.step {key : String} (h : Inv calls key s)
    (hkey : ∀ i, (calls i).request.idempotencyKey = key) (i : ι) :
    Inv calls key (IntentRace.step sha calls s i).2 := by
  have hmoves := step_moves sha calls s i
  generalize IntentRace.step sha calls s i = r at hmoves
  obtain ⟨payment, s'⟩ := r
  have hcached : ∀ res, s.orchestrator.executedIntents.get key = some res →
      Origin calls key s' res :=
    fun res hres => (h.cached res hres).moved hmoves hkey
  have hheld : ∀ j, j ≠ i → ∀ res, (s'.stage j).result = some res → Origin calls key s' res := by
    intro j hji res hres
    rw [hmoves.stage_of_ne hji] at hres
    exact (h.held j res hres).moved hmoves hkey
  -- only the call that moves can have a new result
  suffices hnew : (∀ res, s'.orchestrator.executedIntents.get key = some res →
      Origin calls key s' res) ∧ ∀ res, (s'.stage i).result = some res → Origin calls key s' res by
    refine ⟨hnew.1, ?_⟩
    intro j res hres
    by_cases hji : j = i
    · subst hji
      exact hnew.2 res hres
    · exact hheld j hji res hres
  cases hmoves with
  | rests => exact ⟨h.cached, h.held i⟩
  | @hits res hstage hfound =>
      refine ⟨hcached, ?_⟩
      intro res' hres'
      simp only [update_self] at hres'
      rw [hkey] at hfound
      obtain rfl := Option.some.inj hres'
      exact hcached _ hfound
  | misses =>
      refine ⟨hcached, ?_⟩
      intro res' hres'
      simp only [update_self] at hres'
      cases hres'
  | fails =>
      refine ⟨hcached, ?_⟩
      intro res' hres'
      simp only [update_self] at hres'
      cases hres'
  | @completes res payment service hstage heffect =>
      refine ⟨hcached, ?_⟩
      intro res' hres'
      refine .inl ⟨i, hres', ?_⟩
      simp only [update_self] at hres'
      obtain rfl := Option.some.inj hres'
      exact heffect.transactionId_eq
  | @stores res hstage =>
      have horigin : Origin calls key (s.store calls i res) res := by
        have hstores : Moves sha calls s i none (s.store calls i res) := .stores hstage
        refine (h.held i res ?_).moved hstores hkey
        rw [hstage]
        rfl
      constructor
      · intro res' hres'
        simp only [hkey, OrderedMap.get_set_self] at hres'
        obtain rfl := Option.some.inj hres'
        exact horigin
      · intro res' hres'
        simp only [update_self] at hres'
        obtain rfl := Option.some.inj hres'
        exact horigin

/-! ## One call, one transaction -/

/-- The provider was asked at most once, and every answer names one
    transaction. -/
structure Once (run : List (RaceStep ι)) (s : IntentRace ι) : Prop where
  invoked     : invocations run ≤ 1
  transaction : ∀ i j res res', s.stage i = .returned res → s.stage j = .returned res' →
    res.transactionId = res'.transactionId

/-- A pipeline that completes starts only while no call has a result. -/
def StartsAlone (calls : ι → OrchestratorCall) (c : RaceStep ι) : Prop :=
  c.pre.stage c.act = .missed → (calls c.act).Completes →
    ∀ j, (c.pre.stage j).result = none

/-- What holds of a race whose pipelines start alone. -/
structure Alone (key : String) (past : List (RaceStep ι)) (s : IntentRace ι) : Prop where
  invoked : invocations past ≤ 1
  idle    : (∀ i, (s.stage i).result = none) → invocations past = 0
  one     : ∀ i j res res', (s.stage i).result = some res → (s.stage j).result = some res' →
    res.transactionId = res'.transactionId
  held    : ∀ res, s.orchestrator.executedIntents.get key = some res →
    (∃ i, (s.stage i).result = some res) ∨ ∀ i, s.stage i = .waiting

omit [DecidableEq ι] in
theorem before_alone (key : String) (o : CommerceOrchestrator) :
    Alone key [] (before o : IntentRace ι) where
  invoked := Nat.zero_le 1
  idle := by
    intro _
    rfl
  one := by
    intro i j res res' h
    cases h
  held := by
    intro res _
    exact .inr fun _ => rfl

variable {key : String} {past : List (RaceStep ι)}

omit [DecidableEq ι] in
theorem Alone.held_of_started (h : Alone key past s) (hstarted : s.stage i ≠ .waiting)
    {res : EndToEndExecutionResult} (hres : s.orchestrator.executedIntents.get key = some res) :
    ∃ k, (s.stage k).result = some res :=
  (h.held res hres).resolve_right fun hwaiting => hstarted (hwaiting i)

omit [DecidableEq ι] in
/-- A step that asks nothing and leaves every call its result. -/
theorem Alone.of_results (h : Alone key past s) {s' : IntentRace ι}
    (hresult : ∀ j, (s'.stage j).result = (s.stage j).result)
    (hheld : ∀ res, s'.orchestrator.executedIntents.get key = some res →
      ∃ i, (s.stage i).result = some res) (i : ι) :
    Alone key (past ++ [⟨s, i, none, s'⟩]) s' where
  invoked := by
    rw [invocations_concat]
    exact h.invoked
  idle := by
    intro hnone
    rw [invocations_concat]
    exact h.idle fun j => (hresult j).symm.trans (hnone j)
  one := by
    intro j k res res' hj hk
    rw [hresult] at hj hk
    exact h.one j k res res' hj hk
  held := by
    intro res hres
    obtain ⟨k, hk⟩ := hheld res hres
    exact .inl ⟨k, (hresult k).trans hk⟩

/-- A call that finds a result gets what the others have. -/
theorem Alone.hits (h : Alone key past s) {res : EndToEndExecutionResult} (i : ι)
    (hfound : s.orchestrator.executedIntents.get key = some res) :
    Alone key (past ++ [⟨s, i, none, { s with stage := update s.stage i (.returned res) }⟩])
      { s with stage := update s.stage i (.returned res) } := by
  have hself : (update s.stage i (.returned res) i).result = some res := by
    rw [update_self]
    rfl
  have hsame : ∀ j res', (update s.stage i (.returned res) j).result = some res' →
      res'.transactionId = res.transactionId := by
    intro j res' hj
    by_cases hji : j = i
    · rw [hji, hself] at hj
      rw [Option.some.inj hj]
    · rw [update_of_ne hji] at hj
      rcases h.held res hfound with ⟨k, hk⟩ | hwaiting
      · exact h.one j k res' res hj hk
      · rw [hwaiting] at hj
        cases hj
  constructor
  · rw [invocations_concat]
    exact h.invoked
  · intro hnone
    have hi := (hnone i).symm.trans hself
    cases hi
  · intro j k res₁ res₂ hj hk
    exact (hsame j res₁ hj).trans (hsame k res₂ hk).symm
  · intro res' hres'
    obtain rfl := Option.some.inj (hfound.symm.trans hres')
    exact .inl ⟨i, hself⟩

/-- A pipeline that starts alone gives the first result. -/
theorem Alone.completes (h : Alone key past s) (hstage : s.stage i = .missed)
    (halone : ∀ j, (s.stage j).result = none) {res : EndToEndExecutionResult}
    {payment : Option CallOutcome} (hasked : providerCalls payment ≤ 1)
    (o : CommerceOrchestrator)
    (ho : o.executedIntents = s.orchestrator.executedIntents) :
    Alone key (past ++ [⟨s, i, payment, ⟨o, update s.stage i (.computed res)⟩⟩])
      ⟨o, update s.stage i (.computed res)⟩ := by
  have hself : (update s.stage i (.computed res) i).result = some res := by
    rw [update_self]
    rfl
  have honly : ∀ j res', (update s.stage i (.computed res) j).result = some res' →
      res' = res := by
    intro j res' hj
    by_cases hji : j = i
    · rw [hji, hself] at hj
      exact (Option.some.inj hj).symm
    · rw [update_of_ne hji, halone] at hj
      cases hj
  constructor
  · rw [invocations_concat, h.idle halone, Nat.zero_add]
    exact hasked
  · intro hnone
    have hi := (hnone i).symm.trans hself
    cases hi
  · intro j k res₁ res₂ hj hk
    rw [honly j res₁ hj, honly k res₂ hk]
  · intro res' hres'
    rw [ho] at hres'
    have hstarted : s.stage i ≠ .waiting := by
      rw [hstage]
      rintro ⟨⟩
    obtain ⟨k, hk⟩ := h.held_of_started hstarted hres'
    rw [halone] at hk
    cases hk

theorem Alone.concat (h : Alone key past s) (hkey : ∀ i, (calls i).request.idempotencyKey = key)
    (hstarts : StartsAlone calls (stepAt (step sha calls) s i)) :
    Alone key (past ++ [stepAt (step sha calls) s i]) (step sha calls s i).2 := by
  have hmoves := step_moves sha calls s i
  rw [stepAt]
  generalize step sha calls s i = r at hmoves
  obtain ⟨payment, s'⟩ := r
  have hresult : ∀ stage : IntentStage, (s.stage i).result = stage.result →
      ∀ j, (update s.stage i stage j).result = (s.stage j).result := by
    intro stage hsame j
    by_cases hji : j = i
    · rw [hji, update_self, hsame]
    · rw [update_of_ne hji]
  cases hmoves with
  | rests hstage =>
      exact h.of_results (fun _ => rfl) (fun _ => h.held_of_started hstage.1) i
  | hits hstage hfound =>
      rw [hkey] at hfound
      exact h.hits i hfound
  | misses hstage hnone =>
      rw [hkey] at hnone
      refine h.of_results (hresult .missed (by rw [hstage]; rfl)) ?_ i
      intro res hres
      rw [hnone] at hres
      cases hres
  | @fails err hstage =>
      refine h.of_results (hresult (.raised err) (by rw [hstage]; rfl)) ?_ i
      have hstarted : s.stage i ≠ .waiting := by
        rw [hstage]
        rintro ⟨⟩
      exact fun _ => h.held_of_started hstarted
  | completes hstage heffect =>
      have hcompletes := heffect.completes_iff.mpr ⟨_, rfl⟩
      exact h.completes hstage (hstarts hstage hcompletes) heffect.providerCalls_le_one _ rfl
  | @stores res hstage =>
      have hhas := congrArg IntentStage.result hstage
      refine h.of_results (hresult (.returned res) hhas) ?_ i
      intro res' hres'
      simp only [hkey, OrderedMap.get_set_self] at hres'
      exact ⟨i, hhas.trans hres'⟩

theorem once_of_startsAlone (hkey : ∀ i, (calls i).request.idempotencyKey = key)
    (o : CommerceOrchestrator) {schedule : List ι}
    (hstarts : ∀ c ∈ steps (step sha calls) (before o) schedule, StartsAlone calls c) :
    Once (steps (step sha calls) (before o) schedule)
      (exec (step sha calls) (before o) schedule) := by
  have halone : Alone key (steps (step sha calls) (before o) schedule)
      (exec (step sha calls) (before o) schedule) :=
    history_inv (P := StartsAlone calls) (fun _ _ _ h => h.concat hkey) (before_alone key o)
      hstarts
  refine ⟨halone.invoked, ?_⟩
  intro i j res res' hi hj
  exact halone.one i j res res' (congrArg IntentStage.result hi) (congrArg IntentStage.result hj)

theorem result_of_completes (hstage : s.stage i = .missed) (hcompletes : (calls i).Completes) :
    ∃ res, ((step sha calls s i).2.stage i).result = some res
      ∧ res.transactionId = (calls i).transactionId := by
  have hmoves := step_moves sha calls s i
  generalize step sha calls s i = r at hmoves
  obtain ⟨payment, s'⟩ := r
  cases hmoves with
  | rests h => exact absurd hstage h.2
  | hits h =>
      rw [hstage] at h
      cases h
  | misses h =>
      rw [hstage] at h
      cases h
  | fails _ hnot => exact absurd hcompletes hnot
  | @completes res _ _ _ heffect =>
      refine ⟨res, ?_, heffect.transactionId_eq⟩
      simp only [update_self]
      rfl
  | stores h =>
      rw [hstage] at h
      cases h

/-- In a race that has come to rest, a pipeline that completed while another
    call had a result has given a second transaction. -/
theorem startsAlone_of_once (hkey : ∀ i, (calls i).request.idempotencyKey = key)
    (o : CommerceOrchestrator) {schedule : List ι}
    (hfresh : Injective fun i => (calls i).transactionId)
    (hrest : ∀ i, ((exec (step sha calls) (before o) schedule).stage i).settled = true)
    (honce : Once (steps (step sha calls) (before o) schedule)
      (exec (step sha calls) (before o) schedule)) :
    ∀ c ∈ steps (step sha calls) (before o) schedule, StartsAlone calls c := by
  intro c hc
  obtain ⟨l, i, rest, rfl, rfl⟩ := mem_steps_iff.mp hc
  intro hmissed hcompletes j
  rw [stepAt_pre, stepAt_act] at *
  rw [exec_append, exec_cons] at hrest honce
  have hinv : Inv calls key (exec (step sha calls) (before o) l) :=
    exec_inv (fun _ i h => h.step hkey i) (before_inv calls key o) l
  generalize exec (step sha calls) (before o) l = s at *
  by_contra hresult
  obtain ⟨res, hres⟩ := Option.ne_none_iff_exists'.mp hresult
  obtain ⟨own, hown, htransaction⟩ := result_of_completes hmissed hcompletes
  have hkept : ∀ k r, ((step sha calls s i).2.stage k).result = some r →
      (exec (step sha calls) (step sha calls s i).2 rest).stage k = .returned r := by
    intro k r hk
    refine IntentStage.eq_returned (hrest k) ?_
    exact exec_inv (I := fun s => (s.stage k).result = some r)
      (fun s i h => (step_moves sha calls s i).result_kept h) hk rest
  have hsame := honce.transaction i j own res (hkept i own hown)
    (hkept j res ((step_moves sha calls s i).result_kept hres))
  -- the call `k` that computed the result is not the one that starts now
  rcases hinv.held j res hres with ⟨k, hk, hcomputed⟩ | ⟨-, hsettled⟩
  · obtain rfl : i = k := hfresh (htransaction.symm.trans (hsame.trans hcomputed))
    rw [hmissed] at hk
    cases hk
  · have hi := hsettled i
    rw [hmissed] at hi
    cases hi

/-- **In a race of calls under one key the provider is asked at most once and
    every answer names one transaction, if no pipeline that completes starts
    while another call has a result**; in a race of distinct transactions that
    has come to rest, only if. -/
theorem runs_once (hkey : ∀ i, (calls i).request.idempotencyKey = key)
    (o : CommerceOrchestrator) (schedule : List ι) :
    ((∀ c ∈ steps (step sha calls) (before o) schedule, StartsAlone calls c) →
        Once (steps (step sha calls) (before o) schedule)
          (exec (step sha calls) (before o) schedule))
      ∧ ((Injective fun i => (calls i).transactionId) →
        (∀ i, ((exec (step sha calls) (before o) schedule).stage i).settled = true) →
          Once (steps (step sha calls) (before o) schedule)
            (exec (step sha calls) (before o) schedule) →
          ∀ c ∈ steps (step sha calls) (before o) schedule, StartsAlone calls c) :=
  ⟨once_of_startsAlone hkey o, startsAlone_of_once hkey o⟩

theorem startsAlone_of_single (o : CommerceOrchestrator) {schedule : List ι}
    (hsingle : ∀ k ∈ schedule, k = i) :
    ∀ c ∈ steps (step sha calls) (before o) schedule, StartsAlone calls c := by
  intro c hc
  obtain ⟨l, k, rest, rfl, rfl⟩ := mem_steps_iff.mp hc
  obtain rfl : k = i := hsingle k (List.mem_append_right l List.mem_cons_self)
  have hwaiting : ∀ j, j ≠ k → (exec (step sha calls) (before o) l).stage j = .waiting := by
    intro j hj
    refine exec_inv_of_steps (I := fun s : IntentRace ι => s.stage j = .waiting)
      (P := fun c : RaceStep ι => c.act = k) ?_ rfl ?_
    · intro s a hs ha
      obtain rfl : a = k := ha
      exact ((step_moves sha calls s a).stage_of_ne hj).trans hs
    · intro c hc
      have hact := List.mem_map_of_mem (f := Step.act) hc
      rw [map_act_steps] at hact
      exact hsingle _ (List.mem_append_left _ hact)
  intro hmissed _ j
  rw [stepAt_pre, stepAt_act] at *
  by_cases hj : j = k
  · rw [hj, hmissed]
    rfl
  · rw [hwaiting j hj]
    rfl

/-! ## Two calls at once -/

/-- Both calls look, both run their pipelines, and both store. -/
def bothLookFirst (i j : ι) : List ι := [i, j, i, j, i, j]

/-- **Two calls that both miss the key are two payments.** -/
theorem bothLookFirst_asks_twice (sha : Sha256) {i j : ι} (hij : i ≠ j)
    (hkey : ∀ i, (calls i).request.idempotencyKey = key) {o : CommerceOrchestrator}
    (hmiss : o.executedIntents.get key = none) (hreaches : ∀ i, (calls i).Reaches)
    (hfresh : Injective fun i => (calls i).transactionId)
    (hnew : ∀ i, o.executionService.results.get (calls i).transactionId = none) :
    invocations (steps (step sha calls) (before o) (bothLookFirst i j)) = 2
      ∧ ∃ res res',
        (exec (step sha calls) (before o) (bothLookFirst i j)).stage i = .returned res
          ∧ (exec (step sha calls) (before o) (bothLookFirst i j)).stage j = .returned res'
          ∧ res.transactionId ≠ res'.transactionId := by
  have hcompletes : ∀ k service, ∃ res payment service',
      (calls k).executeIntentInternal sha service = (.ok res, payment, service')
        ∧ (calls k).InternalEffect sha service (.ok res) payment service' := by
    intro k service
    have heffect := (calls k).internal_effect sha service
    obtain ⟨res, hres⟩ := heffect.completes_iff.mp (hreaches k).completes
    rw [hres] at heffect
    exact ⟨res, _, _, Prod.ext hres rfl, heffect⟩
  obtain ⟨res, payment, service, hrun, heffect⟩ := hcompletes i o.executionService
  obtain ⟨res', payment', service', hrun', heffect'⟩ := hcompletes j service
  have hne : (calls j).transactionId ≠ (calls i).transactionId := fun h => hij (hfresh h).symm
  have hasked := heffect.asks (hreaches i) (hnew i)
  have hasked' := heffect'.asks (hreaches j)
    ((heffect.writes.frame hne).2.trans (hnew j))
  have hji := hij.symm
  have hpayments : invocations (steps (step sha calls) (before o) (bothLookFirst i j))
      = providerCalls payment + providerCalls payment' := by
    simp [bothLookFirst, step, before, lookUp, hkey, hmiss, runPipeline, hij, hji, hrun, hrun',
      store, invocations, providerCalls]
  have hstages : (exec (step sha calls) (before o) (bothLookFirst i j)).stage i = .returned res
      ∧ (exec (step sha calls) (before o) (bothLookFirst i j)).stage j = .returned res' := by
    simp [bothLookFirst, step, before, lookUp, hkey, hmiss, runPipeline, hij, hji, hrun, hrun',
      store]
  refine ⟨by rw [hpayments, hasked, hasked'], res, res', hstages.1, hstages.2, ?_⟩
  rw [heffect.transactionId_eq, heffect'.transactionId_eq]
  exact hne.symm

theorem buyer_ne : "buy_user_orch" ≠ "" := by decide

open OrchestratorCall.Sample

def sentTwice (second : Bool) : OrchestratorCall :=
  call (if second then secondUuid else firstUuid) "buy_user_orch" buyer_ne

theorem sentTwice_key (second : Bool) : (sentTwice second).request.idempotencyKey = "key_1" := rfl

theorem sentTwice_fresh : Injective fun second => (sentTwice second).transactionId := by
  have hids : (sentTwice false).transactionId ≠ (sentTwice true).transactionId := by
    decide +kernel
  intro b b' h
  cases b with
  | false =>
      cases b' with
      | false => rfl
      | true => exact absurd h hids
  | true =>
      cases b' with
      | false => exact absurd h.symm hids
      | true => rfl

theorem runs_once_alone :
    Once (steps (step digests sentTwice) (before .new) [false, false, false])
      (exec (step digests sentTwice) (before .new) [false, false, false]) := by
  have hsingle : ∀ second ∈ [false, false, false], second = false := by decide
  exact (runs_once sentTwice_key .new _).1 (startsAlone_of_single .new hsingle)

/-- A request that is sent again before its first answer is paid twice. -/
theorem sentTwice_not_once :
    invocations (steps (step digests sentTwice) (before .new) (bothLookFirst false true)) = 2
      ∧ ¬ Once (steps (step digests sentTwice) (before .new) (bothLookFirst false true))
        (exec (step digests sentTwice) (before .new) (bothLookFirst false true)) := by
  obtain ⟨htwice, -⟩ := bothLookFirst_asks_twice digests Bool.false_ne_true sentTwice_key
    (o := .new) rfl (fun _ => reaches_call _ buyer_ne) sentTwice_fresh
    (fun _ => rfl)
  refine ⟨htwice, ?_⟩
  intro h
  have hinvoked := h.invoked
  rw [htwice] at hinvoked
  exact absurd hinvoked (by decide)

end IntentRace

end MandateGateway
