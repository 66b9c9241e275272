import MandateGateway.Lib.Runs
import MandateGateway.Payments.PolicyEngine

/-! # Racing payments of an agent

    An evaluation reads what is recorded for the day, and the payment that it
    allows is recorded later, by a step of its own.  Other payments can be
    recorded in between.

    * `daily_race`: the recorded totals stay within the daily limit exactly when
      every record finds room for its payment, as it does when no more is
      recorded than the evaluation read. -/

namespace MandateGateway

namespace Payments

open Clock Runs AgentPaymentPolicyEngine

/-- How far a payment is; an allowed one comes with what its evaluation read. -/
inductive PaymentStage where
  | waiting
  | allowed (ctx : PolicyEvaluationContext) (seen : Int)
  | finished

/-- The engine, and how far each payment is. -/
structure PolicyRace (ι : Type) where
  engine : AgentPaymentPolicyEngine
  stage  : ι → PaymentStage

/-- A move of a payment. -/
inductive PolicyMove (ι : Type) where
  | evaluate (i : ι) (now : Instant) (ctx : PolicyEvaluationContext)
  | record (i : ι) (now : Instant)

namespace PolicyRace

variable {ι : Type} [DecidableEq ι]

/-- An engine that no payment has come to yet. -/
def start (e : AgentPaymentPolicyEngine) : PolicyRace ι := ⟨e, fun _ => .waiting⟩

def setStage (i : ι) (stage : PaymentStage) (s : PolicyRace ι) : PolicyRace ι :=
  { s with stage := fun j => if j = i then stage else s.stage j }

/-- Where an evaluation leads. -/
def afterEvaluate (upper : String → String) (now : Instant) (ctx : PolicyEvaluationContext)
    (e : AgentPaymentPolicyEngine) : PaymentStage :=
  match e.evaluate upper now ctx with
  | .error _ => .finished
  | .ok result =>
      if result.allowed then .allowed ctx (e.getDailySpending now ctx.agentId) else .finished

/-- One move.  Only a payment that was allowed is recorded, and only once. -/
def step (upper : String → String) (s : PolicyRace ι) : PolicyMove ι → Unit × PolicyRace ι
  | .evaluate i now ctx =>
      match s.stage i with
      | .waiting => ((), s.setStage i (afterEvaluate upper now ctx s.engine))
      | _ => ((), s)
  | .record i now =>
      match s.stage i with
      | .allowed ctx _ =>
          ((), { s.setStage i .finished with
            engine := s.engine.recordSpending now ctx.agentId ctx.amountPaise })
      | _ => ((), s)

abbrev PolicyStep (ι : Type) := Step (PolicyRace ι) (PolicyMove ι) Unit

/-- What is recorded for an agent on a day stays within its daily limit. -/
def TotalsWithin (e : AgentPaymentPolicyEngine) : Prop :=
  ∀ agentId day total, e.spentOn agentId day = some total →
    total ≤ (e.getPolicy agentId).limits.dailyLimitPaise

/-- A record finds room under the daily limit. -/
def RecordFits (c : PolicyStep ι) : Prop :=
  ∀ i now ctx seen, c.act = .record i now → c.pre.stage i = .allowed ctx seen →
    c.pre.engine.getDailySpending now ctx.agentId + ctx.amountPaise
      ≤ (c.pre.engine.getPolicy ctx.agentId).limits.dailyLimitPaise

/-- A record finds no more on its day than the evaluation of its payment read. -/
def RecordFresh (c : PolicyStep ι) : Prop :=
  ∀ i now ctx seen, c.act = .record i now → c.pre.stage i = .allowed ctx seen →
    c.pre.engine.getDailySpending now ctx.agentId ≤ seen

variable {upper : String → String} {s : PolicyRace ι}

/-! ## What a move does -/

theorem afterEvaluate_eq_allowed {now : Instant} {ctx ctx' : PolicyEvaluationContext}
    {e : AgentPaymentPolicyEngine} {seen : Int}
    (h : afterEvaluate upper now ctx e = .allowed ctx' seen) :
    ctx' = ctx ∧ seen = e.getDailySpending now ctx.agentId
      ∧ seen + ctx.amountPaise ≤ (e.getPolicy ctx.agentId).limits.dailyLimitPaise := by
  rw [afterEvaluate] at h
  cases hevaluate : e.evaluate upper now ctx with
  | error err =>
      rw [hevaluate] at h
      cases h
  | ok result =>
      rw [hevaluate] at h
      dsimp only at h
      cases hallowed : result.allowed with
      | false =>
          rw [hallowed, if_neg Bool.false_ne_true] at h
          cases h
      | true =>
          rw [hallowed, if_pos rfl] at h
          obtain ⟨rfl, rfl⟩ := PaymentStage.allowed.inj h
          exact ⟨rfl, rfl, daily_of_allowed hevaluate hallowed⟩

theorem stage_setStage (i j : ι) (stage : PaymentStage) :
    (s.setStage i stage).stage j = if j = i then stage else s.stage j :=
  rfl

/-- A move leaves the engine alone, or records an allowed payment. -/
inductive Effect (upper : String → String) (s : PolicyRace ι) (move : PolicyMove ι) : Prop
  | quiet (hengine : (step upper s move).2.engine = s.engine)
      (hact : ∀ i now ctx seen, move = .record i now → s.stage i ≠ .allowed ctx seen)
  | recorded (i : ι) (now : Instant) (ctx : PolicyEvaluationContext) (seen : Int)
      (hact : move = .record i now) (hpre : s.stage i = .allowed ctx seen)
      (hengine : (step upper s move).2.engine
        = s.engine.recordSpending now ctx.agentId ctx.amountPaise)

theorem step_effect (upper : String → String) (s : PolicyRace ι) (move : PolicyMove ι) :
    Effect upper s move := by
  cases move with
  | evaluate i now ctx =>
      refine .quiet ?_ nofun
      rw [step]
      cases s.stage i <;> rfl
  | record i now =>
      cases hstage : s.stage i with
      | allowed ctx seen => exact .recorded i now ctx seen rfl hstage (by rw [step, hstage])
      | waiting =>
          refine .quiet (by rw [step, hstage]) ?_
          intro j now' ctx seen hact
          obtain ⟨rfl, rfl⟩ := PolicyMove.record.inj hact
          rw [hstage]
          nofun
      | finished =>
          refine .quiet (by rw [step, hstage]) ?_
          intro j now' ctx seen hact
          obtain ⟨rfl, rfl⟩ := PolicyMove.record.inj hact
          rw [hstage]
          nofun

theorem getPolicy_step (upper : String → String) (s : PolicyRace ι) (move : PolicyMove ι)
    (agentId : String) :
    (step upper s move).2.engine.getPolicy agentId = s.engine.getPolicy agentId := by
  cases step_effect upper s move with
  | quiet hengine _ => rw [hengine]
  | recorded i now ctx seen _ _ hengine => rw [hengine, getPolicy_recordSpending]

/-- What is allowed fits under the limit with what its evaluation read. -/
def Seen (s : PolicyRace ι) : Prop :=
  ∀ i ctx seen, s.stage i = .allowed ctx seen →
    seen + ctx.amountPaise ≤ (s.engine.getPolicy ctx.agentId).limits.dailyLimitPaise

theorem Seen.step (h : Seen s) (move : PolicyMove ι) : Seen (step upper s move).2 := by
  intro j ctx seen hallowed
  rw [getPolicy_step]
  cases move with
  | evaluate i now ctx' =>
      rw [PolicyRace.step] at hallowed
      cases hstage : s.stage i with
      | waiting =>
          simp only [hstage, stage_setStage] at hallowed
          by_cases hji : j = i
          -- the one move that allows a payment has just read its total
          · rw [if_pos hji] at hallowed
            obtain ⟨rfl, -, hroom⟩ := afterEvaluate_eq_allowed hallowed
            exact hroom
          · rw [if_neg hji] at hallowed
            exact h j ctx seen hallowed
      | allowed ctx' seen' =>
          simp only [hstage] at hallowed
          exact h j ctx seen hallowed
      | finished =>
          simp only [hstage] at hallowed
          exact h j ctx seen hallowed
  | record i now =>
      rw [PolicyRace.step] at hallowed
      cases hstage : s.stage i with
      | allowed ctx' seen' =>
          simp only [hstage, stage_setStage] at hallowed
          by_cases hji : j = i
          · rw [if_pos hji] at hallowed
            cases hallowed
          · rw [if_neg hji] at hallowed
            exact h j ctx seen hallowed
      | waiting =>
          simp only [hstage] at hallowed
          exact h j ctx seen hallowed
      | finished =>
          simp only [hstage] at hallowed
          exact h j ctx seen hallowed

/-! ## The totals of a race -/

theorem within_step_iff (h : TotalsWithin s.engine) (move : PolicyMove ι) :
    TotalsWithin (step upper s move).2.engine ↔ RecordFits (stepAt (step upper) s move) := by
  cases step_effect upper s move with
  | quiet hengine hact =>
      rw [hengine]
      refine iff_of_true h ?_
      intro i now ctx seen hmove hpre
      exact absurd hpre (hact i now ctx seen hmove)
  | recorded i now ctx seen hact hpre hengine =>
      rw [hengine]
      constructor
      · intro hwithin j now' ctx' seen' hmove hpre'
        rw [stepAt_act, hact] at hmove
        obtain ⟨rfl, rfl⟩ := PolicyMove.record.inj hmove
        obtain ⟨rfl, rfl⟩ := PaymentStage.allowed.inj (hpre.symm.trans hpre')
        refine hwithin ctx.agentId (dateText now) _ ?_
        rw [spentOn_recordSpending, if_pos ⟨rfl, rfl⟩]
        rfl
      · intro hfits agentId day total hspent
        rw [spentOn_recordSpending] at hspent
        rw [getPolicy_recordSpending]
        -- a record changes the total of one agent on one day
        by_cases hsame : agentId = ctx.agentId ∧ day = dateText now
        · rw [if_pos hsame] at hspent
          obtain rfl := Option.some.inj hspent
          rw [hsame.1]
          exact hfits i now ctx seen hact hpre
        · rw [if_neg hsame] at hspent
          exact h agentId day total hspent

theorem recordFits_of_fresh {move : PolicyMove ι} (h : Seen s)
    (hfresh : RecordFresh (stepAt (step upper) s move)) :
    RecordFits (stepAt (step upper) s move) := by
  intro i now ctx seen hact hpre
  have hread := hfresh i now ctx seen hact hpre
  have hroom := h i ctx seen hpre
  rw [stepAt_pre] at hread ⊢
  omega

theorem recordFresh_of_adjacent {i : ι} {now now' : Instant} {ctx : PolicyEvaluationContext}
    (hwaiting : s.stage i = .waiting) (hday : dateText now' = dateText now) :
    RecordFresh (stepAt (step upper) (step upper s (.evaluate i now ctx)).2 (.record i now')) := by
  intro j now'' ctx' seen hact hpre
  obtain ⟨rfl, rfl⟩ := PolicyMove.record.inj hact
  simp only [stepAt_pre, step, hwaiting, stage_setStage] at hpre ⊢
  obtain ⟨rfl, rfl, -⟩ := afterEvaluate_eq_allowed hpre
  show (s.engine.getDailySpending now' ctx'.agentId) ≤ s.engine.getDailySpending now ctx'.agentId
  rw [getDailySpending, getDailySpending, hday]

/-- **In every race of payments the recorded totals stay within the daily limits
    exactly when every record finds room for its payment; and they do when no
    record finds more on its day than the evaluation of its payment read.** -/
theorem daily_race {upper : String → String} {e : AgentPaymentPolicyEngine}
    (hstart : TotalsWithin e) (moves : List (PolicyMove ι)) :
    ((∀ c ∈ steps (step upper) (start e) moves, TotalsWithin c.post.engine)
      ↔ ∀ c ∈ steps (step upper) (start e) moves, RecordFits c)
    ∧ ((∀ c ∈ steps (step upper) (start e) moves, RecordFresh c) →
        ∀ c ∈ steps (step upper) (start e) moves, TotalsWithin c.post.engine) := by
  have hiff : (∀ c ∈ steps (step upper) (start e) moves, TotalsWithin c.post.engine)
      ↔ ∀ c ∈ steps (step upper) (start e) moves, RecordFits c :=
    forall_steps_iff (I := fun s => TotalsWithin s.engine) (fun s move h => within_step_iff h move)
      (fun s move h hfits => (within_step_iff h move).mpr hfits) hstart moves
  refine ⟨hiff, ?_⟩
  intro hfresh
  refine hiff.mpr ?_
  intro c hc
  have hcfresh := hfresh c hc
  obtain ⟨l, move, _, rfl, rfl⟩ := mem_steps_iff.mp hc
  have hseen : Seen (exec (step upper) (start e) l) :=
    exec_inv (fun _ move h => h.step move) (fun _ _ _ h => nomatch h) l
  exact recordFits_of_fresh hseen hcfresh

end PolicyRace

/-! Payments of 1500 rupees under the standard policy, on the first day. -/

namespace SamplePolicyRace

open PolicyRace

def ctx : PolicyEvaluationContext where
  agentId := "shopping_agent_01"
  merchantId := "mer_cafe_acme"
  category := "grocery"
  currency := "INR"
  amountPaise := 150000
  provider := "razorpay_test"
  isProductVerified := true
  hasHumanConfirmation := true
  confirmationExpired := false
  isNewMerchant := false
  recentFailureCount := 0

def engine : AgentPaymentPolicyEngine := .new none

theorem within_engine : TotalsWithin engine := by
  intro agentId day total h
  cases h

def moves : List (PolicyMove Nat) :=
  [.evaluate 0 0 ctx, .evaluate 1 0 ctx, .evaluate 2 0 ctx, .evaluate 3 0 ctx,
    .record 0 0, .record 1 0, .record 2 0, .record 3 0]

theorem spentOn_moves : (exec (step Text.upperAscii) (start engine) moves).engine.spentOn
    "shopping_agent_01" "1970-01-01" = some 600000 := by
  decide +kernel

end SamplePolicyRace

open SamplePolicyRace PolicyRace in
/-- Together they are over the daily limit of 5000 rupees. -/
theorem daily_limit_raced :
    ¬ TotalsWithin (exec (step Text.upperAscii) (start engine) moves).engine := by
  intro hwithin
  have htotal := hwithin "shopping_agent_01" "1970-01-01" 600000 spentOn_moves
  exact absurd htotal (by decide +kernel)

open SamplePolicyRace PolicyRace in
/-- One payment, evaluated and recorded with no other in between. -/
theorem daily_race_sample :
    TotalsWithin (exec (step Text.upperAscii) (start engine)
      [.evaluate 0 0 ctx, PolicyMove.record 0 0]).engine := by
  have hlaw := (@daily_race Nat _ Text.upperAscii engine within_engine
    [.evaluate 0 0 ctx, .record 0 0]).2
  rw [steps_cons, steps_cons, List.forall_mem_cons, List.forall_mem_cons] at hlaw
  exact (hlaw ⟨nofun, recordFresh_of_adjacent rfl rfl, List.forall_mem_nil _⟩ _
    (List.mem_cons_of_mem _ List.mem_cons_self))

end Payments

end MandateGateway
