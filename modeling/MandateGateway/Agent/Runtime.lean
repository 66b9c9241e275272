import MandateGateway.Agent.Nodes

/-! # The bounded runtime of the agent

    The loop that drives the nodes, with its limits.  Whatever the model, the
    tools and the clock do:

    * a node goes on with the history of the run and, but for the execution of
      a tool, executes none (`Within`, `node_moves`);
    * a turn that goes on has counted one iteration, within the limit
      (`turn_next`), which is the variant of the loop;
    * so the run ends, within its limits, in a terminal state or with an
      exception (`run_bounded`). -/

namespace MandateGateway

open Raising AgentRun Json

variable {W α : Type} {r r' : AgentRun W}

/-! ## What the nodes do to a run -/

/-- The run went on, with at most so many turns, iterations and executions of a
    tool, and every execution is counted. -/
structure Within (turns iterations tools : Nat) (r r' : AgentRun W) : Prop where
  history     : r.state.stepHistory <+: r'.state.stepHistory
  turns_le    : r'.turns ≤ r.turns + turns
  iter_ge     : r.state.iterationCount ≤ r'.state.iterationCount
  iter_le     : r'.state.iterationCount ≤ r.state.iterationCount + iterations
  executed_le : r'.executed.length ≤ r.executed.length + tools
  counted     : r'.executed.length + r.state.toolCallCount
    ≤ r.executed.length + r'.state.toolCallCount
  called      : r.state.toolCallCount ≤ r'.state.toolCallCount

namespace Within

theorem refl (r : AgentRun W) : Within 0 0 0 r r :=
  ⟨List.prefix_refl _, Nat.le_refl _, Nat.le_refl _, Nat.le_refl _, Nat.le_refl _,
    Nat.le_refl _, Nat.le_refl _⟩

theorem trans {t i k t' i' k' : Nat} {r'' : AgentRun W} (h : Within t i k r r')
    (h' : Within t' i' k' r' r'') : Within (t + t') (i + i') (k + k') r r'' := by
  obtain ⟨hhistory, hturns, hge, hle, hexecuted, hcounted, hcalled⟩ := h
  obtain ⟨hhistory', hturns', hge', hle', hexecuted', hcounted', hcalled'⟩ := h'
  refine ⟨hhistory.trans hhistory', ?_, hge.trans hge', ?_, ?_, ?_, hcalled.trans hcalled'⟩
    <;> omega

theorem mono {t i k t' i' k' : Nat} (h : Within t i k r r') (ht : t ≤ t') (hi : i ≤ i')
    (hk : k ≤ k') : Within t' i' k' r r' :=
  ⟨h.history, h.turns_le.trans (Nat.add_le_add_left ht _), h.iter_ge,
    h.iter_le.trans (Nat.add_le_add_left hi _), h.executed_le.trans (Nat.add_le_add_left hk _),
    h.counted, h.called⟩

/-- A part of the state that is not counted may be anything. -/
theorem of_state {state : AgentState} (hhistory : r.state.stepHistory <+: state.stepHistory)
    (hiterations : state.iterationCount = r.state.iterationCount)
    (htools : state.toolCallCount = r.state.toolCallCount) :
    Within 0 0 0 r { r with state := state } :=
  ⟨hhistory, Nat.le_refl _, Nat.le_of_eq hiterations.symm, Nat.le_of_eq hiterations,
    Nat.le_refl _, Nat.le_of_eq (by rw [htools]), Nat.le_of_eq htools.symm⟩

/-- Nor is the world counted. -/
theorem of_world (world : W) : Within 0 0 0 r { r with world := world } :=
  ⟨List.prefix_refl _, Nat.le_refl _, Nat.le_refl _, Nat.le_refl _, Nat.le_refl _,
    Nat.le_refl _, Nat.le_refl _⟩

end Within

section
variable {x : Raising (AgentRun W) AgentException α}

/-- What a sequence may do adds up. -/
theorem within_bind {t i k t' i' k' turns iterations tools : Nat} {β : Type}
    {f : α → Raising (AgentRun W) AgentException β} (hx : Moves (Within t i k) x)
    (hf : ∀ a, Moves (Within t' i' k') (f a)) (ht : t + t' ≤ turns) (hi : i + i' ≤ iterations)
    (hk : k + k' ≤ tools) : Moves (Within turns iterations tools) (x >>= f) :=
  hx.bind_of hf
    (fun _ _ h => h.mono ((Nat.le_add_right t t').trans ht) ((Nat.le_add_right i i').trans hi)
      ((Nat.le_add_right k k').trans hk))
    fun _ _ _ h h' => (h.trans h').mono ht hi hk

theorem within_seq {β : Type} {f : α → Raising (AgentRun W) AgentException β}
    (hx : Moves (Within 0 0 0) x) (hf : ∀ a, Moves (Within 0 0 0) (f a)) :
    Moves (Within 0 0 0) (x >>= f) :=
  within_bind hx hf (by decide) (by decide) (by decide)

theorem within_ofExcept (x : Except AgentException α) :
    Moves (Within 0 0 0) (ofExcept x : Raising (AgentRun W) AgentException α) :=
  .ofExcept Within.refl x

theorem within_asks (f : AgentRun W → α) :
    Moves (Within 0 0 0) (asks f : Raising (AgentRun W) AgentException α) :=
  .asks Within.refl f

theorem within_pure (a : α) :
    Moves (Within 0 0 0) (pure a : Raising (AgentRun W) AgentException α) :=
  fun r => Within.refl r

theorem within_raise (e : AgentException) :
    Moves (Within 0 0 0) (raise e : Raising (AgentRun W) AgentException α) :=
  fun r => Within.refl r

theorem within_onWorld (x : Raising W AgentException α) : Moves (Within 0 0 0) (onWorld x) :=
  fun r => .of_world (x r.world).2

theorem within_update {f : AgentState → AgentState}
    (hhistory : ∀ state, (f state).stepHistory = state.stepHistory)
    (hiterations : ∀ state, (f state).iterationCount = state.iterationCount)
    (htools : ∀ state, (f state).toolCallCount = state.toolCallCount) :
    Moves (Within 0 0 0) (update f : Raising (AgentRun W) AgentException Unit) :=
  fun r => .of_state ((hhistory r.state).symm ▸ List.prefix_refl _) (hiterations r.state)
    (htools r.state)

theorem within_transition (env : AgentEnv) (k : AgentStateEnum) (detail : Option String) :
    Moves (Within 0 0 0) (transition env k detail : Raising (AgentRun W) AgentException Unit) := by
  intro r
  rw [transition, onState, zoom]
  rcases AgentState.transitionTo_cases k detail r.state with ⟨hk, hmoved⟩ | ⟨e, hraised⟩
  · rw [hmoved]
    exact .of_state (List.prefix_append _ _) rfl rfl
  · rw [hraised]
    exact .of_state (List.prefix_refl _) rfl rfl

end

theorem within_receiveInput (env : AgentEnv) (userPrompt : String) :
    Moves (Within 0 0 0)
      (NodeReceiveInput.process env userPrompt : Raising (AgentRun W) AgentException Unit) := by
  refine within_seq (within_transition env _ _) fun _ => ?_
  refine within_seq (within_update (fun _ => rfl) (fun _ => rfl) fun _ => rfl) fun _ => ?_
  exact within_transition env _ _

theorem within_planning (env : AgentEnv) (world : AgentWorld W) :
    Moves (Within 0 0 0) (NodePlanning.process env world) := by
  refine within_seq (within_onWorld _) fun toolDefs => ?_
  refine within_seq (within_asks _) fun messages => ?_
  refine within_seq (within_onWorld _) fun res => ?_
  refine within_seq ?_ fun _ => ?_
  · rw [NodePlanning.record]
    by_cases hcontent : res.content.truthy = true
    · rw [if_pos hcontent]
      exact within_update (fun _ => rfl) (fun _ => rfl) fun _ => rfl
    · rw [if_neg hcontent]
      exact within_pure ()
  · rw [NodePlanning.chooseNext]
    by_cases htools : res.toolCalls.truthy = true
    · rw [if_pos htools]
      refine within_seq (within_ofExcept _) fun firstTool => ?_
      refine within_seq (within_ofExcept _) fun toolCall => ?_
      refine within_seq (within_update (fun _ => rfl) (fun _ => rfl) fun _ => rfl) fun _ => ?_
      refine within_seq (within_ofExcept _) fun name => ?_
      exact within_transition env _ _
    · rw [if_neg htools]
      refine within_seq (within_ofExcept _) fun proposes => ?_
      cases proposes with
      | false => exact within_transition env _ _
      | true =>
          refine within_seq (within_ofExcept _) fun payload => ?_
          refine within_seq (within_update (fun _ => rfl) (fun _ => rfl) fun _ => rfl) fun _ => ?_
          exact within_transition env _ _

theorem within_invoke (world : AgentWorld W) (toolName arguments : Value) :
    Moves (Within 0 0 1) (NodeToolExecution.invoke world toolName arguments) := by
  intro r
  have hlength : (r.executed ++ [(toolName, arguments)]).length = r.executed.length + 1 := by
    rw [List.length_append, List.length_singleton]
  refine ⟨List.prefix_refl _, Nat.le_refl _, Nat.le_refl _, Nat.le_refl _, ?_, ?_, ?_⟩
  · exact Nat.le_of_eq hlength
  · show (r.executed ++ [(toolName, arguments)]).length + r.state.toolCallCount
      ≤ r.executed.length + (r.state.toolCallCount + 1)
    rw [hlength]
    omega
  · exact Nat.le_succ _

theorem within_complete (env : AgentEnv) (toolName : Value) (res : ToolResult) :
    Moves (Within (W := W) 0 0 0) (NodeToolExecution.complete env toolName res) := by
  refine within_seq (within_update (fun _ => rfl) (fun _ => rfl) fun _ => rfl) fun _ => ?_
  refine within_seq (within_update (fun _ => rfl) (fun _ => rfl) fun _ => rfl) fun _ => ?_
  exact within_transition env _ _

theorem within_execute (env : AgentEnv) (world : AgentWorld W) (toolCall : Payload) :
    Moves (Within 0 0 1) (NodeToolExecution.execute env world toolCall) := by
  have hcalled (toolName arguments : Value) : Moves (Within 0 0 1) (do
      let res ← NodeToolExecution.invoke world toolName arguments
      NodeToolExecution.complete env toolName res) :=
    within_bind (within_invoke world toolName arguments) (within_complete env toolName)
      (by decide) (by decide) (by decide)
  exact within_bind (within_transition env _ _) (fun _ => hcalled _ _)
    (by decide) (by decide) (by decide)

theorem within_toolExecution (env : AgentEnv) (world : AgentWorld W) :
    Moves (Within 0 0 1) (NodeToolExecution.process env world) := by
  refine within_bind (within_asks _) (fun pending => (?_ : Moves (Within 0 0 1) _))
    (by decide) (by decide) (by decide)
  cases pending with
  | none =>
      exact fun r => (within_transition env _ _ r).mono (by decide) (by decide) (by decide)
  | some toolCall => exact within_execute env world toolCall

theorem within_processToolResult (env : AgentEnv) :
    Moves (Within (W := W) 0 0 0) (NodeProcessToolResult.process env) := by
  refine within_seq (within_asks _) fun latest => ?_
  cases latest with
  | none => exact within_transition env _ _
  | some toolRes =>
      refine within_seq (within_ofExcept _) fun text => ?_
      refine within_seq (within_update (fun _ => rfl) (fun _ => rfl) fun _ => rfl) fun _ => ?_
      exact within_transition env _ _

theorem within_prepareProposal (env : AgentEnv) :
    Moves (Within (W := W) 0 0 0) (NodePrepareProposal.process env) := by
  refine within_seq (within_asks _) fun state => ?_
  refine within_seq (within_ofExcept _) fun proposal => ?_
  refine within_seq (within_transition env _ _) fun _ => ?_
  exact within_transition env _ _

theorem within_finalize (env : AgentEnv) (success : Bool) (reason : String) :
    Moves (Within (W := W) 0 0 0) (NodeFinalize.process env success reason) := by
  refine within_seq (within_asks _) fun current => ?_
  refine within_seq ?_ fun _ => ?_
  · rw [NodeFinalize.close]
    by_cases hterminal : current.isTerminal = true
    · rw [if_pos hterminal]
      exact within_pure ()
    · rw [if_neg hterminal]
      exact within_transition env _ _
  · rw [NodeFinalize.explain]
    by_cases hreason : reason = ""
    · rw [if_pos hreason]
      exact within_pure ()
    · rw [if_neg hreason]
      exact within_update (fun _ => rfl) (fun _ => rfl) fun _ => rfl

/-! ## The turns of the loop -/

/-- The limits of a run. -/
structure AgentConfig where
  maxIterations      : Nat
  maxToolCalls       : Nat
  timeoutSeconds     : Binary64
  maxIterations_pos  : 0 < maxIterations
  timeoutSeconds_pos : timeoutSeconds ≠ .finite 0 ∧ timeoutSeconds.lt (.finite 0) = false

namespace AgentRuntime

variable (env : AgentEnv) (world : AgentWorld W) (config : AgentConfig)

/-- A limit is reached: the run is put into `k`, and `e` is raised. -/
def stop (k : AgentStateEnum) (detail reason : String) (e : AgentException) :
    Raising (AgentRun W) AgentException α := do
  transition env k (some detail)
  update (AgentState.setFailureReason reason)
  raise e

def checkCancelled : Raising (AgentRun W) AgentException Unit := do
  if ← onWorld world.cancelled then
    stop env .cancelled "Cancelled by user/system signal" "Execution cancelled by token"
      ⟨.agentCancellationError, "Agent execution was explicitly cancelled."⟩
  else pure ()

def checkTimeout : Raising (AgentRun W) AgentException Unit := do
  let elapsed ← onWorld world.elapsed
  if config.timeoutSeconds.lt elapsed then
    stop env .timedOut s!"Timeout of {config.timeoutSeconds.text}s exceeded"
      s!"Timeout of {config.timeoutSeconds.text}s exceeded"
      ⟨.agentTimeoutError, s!"Agent execution timed out after {elapsed.fixed2 false}s."⟩
  else pure ()

def checkIterations : Raising (AgentRun W) AgentException Unit := do
  update AgentState.incrementIteration
  let currIter ← asks (·.state.iterationCount)
  if config.maxIterations < currIter then
    stop env .failed s!"Exceeded max iterations ({config.maxIterations})"
      s!"Exceeded max iterations ({config.maxIterations})"
      ⟨.agentLoopLimitExceededError,
        s!"Execution loop exceeded maximum allowed iterations ({config.maxIterations})."⟩
  else pure ()

def checkToolCalls : Raising (AgentRun W) AgentException Unit := do
  let toolCalls ← asks (·.state.toolCallCount)
  if config.maxToolCalls ≤ toolCalls then
    stop env .failed s!"Exceeded max tool calls ({config.maxToolCalls})"
      s!"Exceeded max tool calls ({config.maxToolCalls})"
      ⟨.agentToolLimitExceededError,
        s!"Exceeded maximum allowed tool invocations ({config.maxToolCalls})."⟩
  else pure ()

/-- What identifies a pending call among the calls of a run. -/
def toolSignature (pending : Payload) : String :=
  let name := (Value.member pending "name").getD .null
  let arguments := (Value.member pending "arguments").getD .null
  s!"{env.str name}:{env.str arguments}"

/-- The signatures so far, with the one that is pending; the third in a row of
    the same ends the run. -/
def trackTool (tracker : List String) : Raising (AgentRun W) AgentException (List String) := do
  let pending ← asks fun r => (AgentState.nonEmpty r.state.pendingToolCall).getD []
  let toolSig := toolSignature env pending
  let name := (Value.member pending "name").getD .null
  let tracked := tracker ++ [toolSig]
  if 3 ≤ tracked.length ∧ tracked.drop (tracked.length - 3) = [toolSig, toolSig, toolSig] then
    stop env .failed "Infinite loop detected in tool requests" "Infinite tool loop detected"
      ⟨.agentSecurityViolationError,
        s!"Infinite loop detected for tool request {env.repr name}."⟩
  else pure tracked

/-- The checks that every turn starts with. -/
def enter : Raising (AgentRun W) AgentException Unit := do
  modify turned
  checkCancelled env world
  checkTimeout env world config
  checkIterations env config

/-- The node of a requested tool, behind its two limits. -/
def executeRequested (tracker : List String) :
    Raising (AgentRun W) AgentException (List String) := do
  checkToolCalls env config
  let tracked ← trackTool env tracker
  NodeToolExecution.process env world
  pure tracked

/-- The node of the current state; `inr` leaves the loop. -/
def node (tracker : List String) (current : AgentStateEnum) :
    Raising (AgentRun W) AgentException (List String ⊕ Unit) :=
  match current with
  | .planning => do
      NodePlanning.process env world
      pure (.inl tracker)
  | .toolRequested => do
      let tracked ← executeRequested env world config tracker
      pure (.inl tracked)
  | .processingToolResult => do
      NodeProcessToolResult.process env
      pure (.inl tracker)
  | .proposalReady => do
      NodePrepareProposal.process env
      pure (.inl tracker)
  | .waitingForGateway => do
      NodeFinalize.process env true "Proposal ready for gateway"
      pure (.inr ())
  | current => do
      NodeFinalize.process env false s!"Unhandled runtime state {current.value}"
      pure (.inr ())

/-- A turn of `while not state.current_state.is_terminal`. -/
def turn (tracker : List String) :
    Raising (AgentRun W) AgentException (List String ⊕ Unit) := do
  if (← asks (·.state.currentState)).isTerminal then pure (.inr ())
  else do
    enter env world config
    node env world config tracker (← asks (·.state.currentState))

/-! ## What a turn may do -/

theorem within_stop (k : AgentStateEnum) (detail reason : String) (e : AgentException) :
    Moves (Within (W := W) 0 0 0) (stop env k detail reason e : Raising _ _ α) := by
  refine within_seq (within_transition env _ _) fun _ => ?_
  refine within_seq (within_update (fun _ => rfl) (fun _ => rfl) fun _ => rfl) fun _ => ?_
  exact within_raise e

theorem within_check {c : Prop} [Decidable c] (k : AgentStateEnum) (detail reason : String)
    (e : AgentException) (a : α) :
    Moves (Within (W := W) 0 0 0) (if c then stop env k detail reason e else pure a) := by
  by_cases h : c
  · rw [if_pos h]
    exact within_stop env k detail reason e
  · rw [if_neg h]
    exact within_pure a

theorem within_checkCancelled : Moves (Within 0 0 0) (checkCancelled env world) :=
  within_seq (within_onWorld _) fun _ => within_check env _ _ _ _ ()

theorem within_checkTimeout : Moves (Within 0 0 0) (checkTimeout env world config) :=
  within_seq (within_onWorld _) fun _ => within_check env _ _ _ _ ()

theorem within_enter : Moves (Within 1 1 0) (enter env world config) := by
  have hturned : Moves (Within 1 0 0)
      (modify turned : Raising (AgentRun W) AgentException Unit) :=
    fun r => ⟨List.prefix_refl _, Nat.le_refl _, Nat.le_refl _, Nat.le_refl _, Nat.le_refl _,
      Nat.le_refl _, Nat.le_refl _⟩
  have hincrement : Moves (Within 0 1 0)
      (update AgentState.incrementIteration : Raising (AgentRun W) AgentException Unit) :=
    fun r => ⟨List.prefix_refl _, Nat.le_refl _, Nat.le_succ _, Nat.le_refl _, Nat.le_refl _,
      Nat.le_refl _, Nat.le_refl _⟩
  have hiterations : Moves (Within (W := W) 0 1 0) (checkIterations env config) :=
    within_bind hincrement
      (fun _ => within_seq (within_asks _) fun _ => within_check env _ _ _ _ ())
      (by decide) (by decide) (by decide)
  have hlimits : Moves (Within 0 1 0) (do
      checkTimeout env world config
      checkIterations env config) :=
    within_bind (within_checkTimeout env world config) (fun _ => hiterations)
      (by decide) (by decide) (by decide)
  have hchecks : Moves (Within 0 1 0) (do
      checkCancelled env world
      checkTimeout env world config
      checkIterations env config) :=
    within_bind (within_checkCancelled env world) (fun _ => hlimits)
      (by decide) (by decide) (by decide)
  exact within_bind hturned (fun _ => hchecks) (by decide) (by decide) (by decide)

variable {env world config}

/-- A run that is stopped does not go on. -/
theorem stop_ne_ok {k : AgentStateEnum} {detail reason : String} {e : AgentException} {a : α} :
    stop env k detail reason e r ≠ (.ok a, r') := by
  intro h
  obtain ⟨_, _, -, h⟩ := bind_eq_ok_iff.mp h
  obtain ⟨_, _, -, h⟩ := bind_eq_ok_iff.mp h
  exact nomatch (Prod.mk.inj h).1

/-- A check lets the run go on exactly as it is, where its limit is not reached. -/
theorem check_eq_ok {c : Prop} [Decidable c] {k : AgentStateEnum} {detail reason : String}
    {e : AgentException} {a b : α}
    (h : (if c then stop env k detail reason e else pure a) r = (.ok b, r')) :
    ¬ c ∧ r' = r := by
  by_cases hc : c
  · rw [if_pos hc] at h
    exact absurd h stop_ne_ok
  · rw [if_neg hc] at h
    exact ⟨hc, (Prod.mk.inj h).2.symm⟩

theorem checkToolCalls_eq_ok (h : checkToolCalls env config r = (.ok (), r')) :
    r.state.toolCallCount < config.maxToolCalls :=
  Nat.lt_of_not_le (check_eq_ok h).1

/-- A turn that passes its checks has counted an iteration within the limit. -/
theorem enter_eq_ok (h : enter env world config r = (.ok (), r')) :
    r'.state.iterationCount = r.state.iterationCount + 1
      ∧ r'.state.iterationCount ≤ config.maxIterations := by
  obtain ⟨_, r₁, hturned, h⟩ := bind_eq_ok_iff.mp h
  obtain ⟨_, r₂, hcancelled, h⟩ := bind_eq_ok_iff.mp h
  obtain ⟨_, r₃, htimeout, h⟩ := bind_eq_ok_iff.mp h
  obtain ⟨_, r₄, hincrement, h⟩ := bind_eq_ok_iff.mp h
  have h₁ : r₁.state.iterationCount = r.state.iterationCount := by
    rw [← (Prod.mk.inj hturned).2, turned]
  have h₂ := (within_checkCancelled env world).of_eq hcancelled
  have h₃ := (within_checkTimeout env world config).of_eq htimeout
  have h₄ : r₄.state.iterationCount = r₃.state.iterationCount + 1 := by
    rw [← (Prod.mk.inj hincrement).2]
    rfl
  obtain ⟨hlimit, rfl⟩ := check_eq_ok h
  have hsame₂ := Nat.le_antisymm h₂.iter_le h₂.iter_ge
  have hsame₃ := Nat.le_antisymm h₃.iter_le h₃.iter_ge
  refine ⟨?_, Nat.le_of_not_lt hlimit⟩
  rw [h₄, hsame₃, hsame₂, h₁]

variable (env world config)

/-- What a node does to a run: it executes at most one tool, and that only below
    the limit. -/
def NodeMoves (config : AgentConfig) (r r' : AgentRun W) : Prop :=
  Within 0 0 1 r r'
    ∧ (r.executed.length < r'.executed.length → r.state.toolCallCount < config.maxToolCalls)

variable {env world config}

theorem NodeMoves.of_within (h : Within 0 0 0 r r') : NodeMoves config r r' :=
  ⟨h.mono (by decide) (by decide) (by decide),
    fun hmore => absurd hmore (Nat.not_lt_of_le h.executed_le)⟩

theorem executeRequested_moves (tracker : List String) :
    Moves (NodeMoves config) (executeRequested env world config tracker) := by
  have hcheck : Moves (Within (W := W) 0 0 0) (checkToolCalls env config) :=
    within_seq (within_asks _) fun _ => within_check env _ _ _ _ ()
  have htrack : Moves (Within (W := W) 0 0 0) (trackTool env tracker) :=
    within_seq (within_asks _) fun _ => within_check env _ _ _ _ _
  have hexecute (tracked : List String) : Moves (Within 0 0 1) (do
      NodeToolExecution.process env world
      pure tracked) :=
    within_bind (within_toolExecution env world) (fun _ => within_pure tracked)
      (by decide) (by decide) (by decide)
  have hrest : Moves (Within 0 0 1) (do
      let tracked ← trackTool env tracker
      NodeToolExecution.process env world
      pure tracked) :=
    within_bind htrack hexecute (by decide) (by decide) (by decide)
  intro r
  refine ⟨within_bind hcheck (fun _ => hrest) (by decide) (by decide) (by decide) r,
    fun hmore => ?_⟩
  -- had the check stopped the run, no tool would have been executed
  cases hrun : checkToolCalls env config r with
  | mk res r₁ =>
      cases res with
      | ok _ => exact checkToolCalls_eq_ok hrun
      | error e =>
          have hstopped : executeRequested env world config tracker r = (.error e, r₁) :=
            bind_of_error hrun
          rw [hstopped] at hmore
          exact absurd hmore (Nat.not_lt_of_le (hcheck.of_eq hrun).executed_le)

theorem moves_then_pure {R : AgentRun W → AgentRun W → Prop} {β : Type}
    {x : Raising (AgentRun W) AgentException α} (hx : Moves R x) (f : α → β) :
    Moves R (x >>= fun a => pure (f a)) := by
  intro r
  rw [state_bind_pure]
  exact hx r

theorem node_moves (tracker : List String) (current : AgentStateEnum) :
    Moves (NodeMoves config) (node env world config tracker current) := by
  have hfree {x : Raising (AgentRun W) AgentException Unit} (hx : Moves (Within 0 0 0) x)
      (next : List String ⊕ Unit) :
      Moves (NodeMoves config) (x >>= fun _ => pure next) :=
    moves_then_pure (fun r => .of_within (hx r)) fun _ => next
  cases current with
  | planning => exact hfree (within_planning env world) _
  | toolRequested => exact moves_then_pure (executeRequested_moves tracker) _
  | processingToolResult => exact hfree (within_processToolResult env) _
  | proposalReady => exact hfree (within_prepareProposal env) _
  | _ => exact hfree (within_finalize env _ _) _

/-! ### How a turn leaves the loop -/

theorem transition_eq_ok {k : AgentStateEnum} {detail : Option String}
    (h : transition env k detail r = (.ok (), r')) : r'.state.currentState = k := by
  rw [transition, onState] at h
  obtain ⟨state, hrun, rfl⟩ := zoom_eq_ok_iff.mp h
  rcases AgentState.transitionTo_cases k detail r.state with ⟨hk, hmoved⟩ | ⟨e, hraised⟩
  · rw [hmoved] at hrun
    exact (Prod.mk.inj hrun).2 ▸ rfl
  · rw [hraised] at hrun
    exact nomatch (Prod.mk.inj hrun).1

theorem finalize_eq_ok {success : Bool} {reason : String}
    (h : NodeFinalize.process env success reason r = (.ok (), r')) :
    r'.state.currentState.isTerminal = true := by
  obtain ⟨current, r₁, hcurrent, h⟩ := bind_eq_ok_iff.mp h
  obtain ⟨_, r₂, hclose, hexplain⟩ := bind_eq_ok_iff.mp h
  obtain ⟨hread, rfl⟩ := Prod.mk.inj hcurrent
  obtain rfl := Except.ok.inj hread
  have hclosed : r₂.state.currentState.isTerminal = true := by
    rw [NodeFinalize.close] at hclose
    by_cases hterminal : r.state.currentState.isTerminal = true
    · rw [if_pos hterminal] at hclose
      rw [← (Prod.mk.inj hclose).2]
      exact hterminal
    · rw [if_neg hterminal] at hclose
      rw [transition_eq_ok hclose]
      cases success <;> rfl
  rw [NodeFinalize.explain] at hexplain
  by_cases hreason : reason = ""
  · rw [if_pos hreason] at hexplain
    rw [← (Prod.mk.inj hexplain).2]
    exact hclosed
  · rw [if_neg hreason] at hexplain
    rw [← (Prod.mk.inj hexplain).2]
    exact hclosed

/-- A branch that goes on does not leave the loop. -/
theorem inl_ne_inr {x : Raising (AgentRun W) AgentException α} {f : α → List String}
    (h : (x >>= fun a => pure (.inl (f a) : List String ⊕ Unit)) r = (.ok (.inr ()), r')) :
    False := by
  obtain ⟨_, _, -, h⟩ := bind_eq_ok_iff.mp h
  exact nomatch Except.ok.inj (Prod.mk.inj h).1

/-- A node that leaves the loop has finalized the run. -/
theorem node_done {tracker : List String} {current : AgentStateEnum}
    (h : node env world config tracker current r = (.ok (.inr ()), r')) :
    r'.state.currentState.isTerminal = true := by
  have hfinal {success : Bool} {reason : String}
      (h : (NodeFinalize.process env success reason >>= fun _ =>
        pure (.inr () : List String ⊕ Unit)) r = (.ok (.inr ()), r')) :
      r'.state.currentState.isTerminal = true := by
    obtain ⟨_, r₁, hrun, hpure⟩ := bind_eq_ok_iff.mp h
    rw [← (Prod.mk.inj hpure).2]
    exact finalize_eq_ok hrun
  cases current with
  | planning => exact (inl_ne_inr h).elim
  | toolRequested => exact (inl_ne_inr h).elim
  | processingToolResult => exact (inl_ne_inr h).elim
  | proposalReady => exact (inl_ne_inr h).elim
  | _ => exact hfinal h

theorem turn_of_terminal (tracker : List String) (h : r.state.currentState.isTerminal = true) :
    turn env world config tracker r = (.ok (.inr ()), r) := by
  rw [turn, bind_of_ok (asks_of_eq rfl), if_pos h]
  rfl

theorem turn_of_not_terminal (tracker : List String)
    (h : r.state.currentState.isTerminal = false) :
    turn env world config tracker r = (do
      enter env world config
      let current ← asks (·.state.currentState)
      node env world config tracker current : Raising (AgentRun W) AgentException _) r := by
  rw [turn, bind_of_ok (asks_of_eq rfl), if_neg (Bool.eq_false_iff.mp h)]

def TurnMoves (config : AgentConfig) (r r' : AgentRun W) : Prop :=
  Within 1 1 1 r r'
    ∧ (r.executed.length < r'.executed.length → r.state.toolCallCount < config.maxToolCalls)

theorem turn_moves (tracker : List String) :
    Moves (TurnMoves config) (turn env world config tracker) := by
  have hnode (current : AgentStateEnum) :
      Moves (NodeMoves config) (node env world config tracker current) :=
    node_moves tracker current
  have hnext : Moves (NodeMoves config) (do
      let current ← asks (·.state.currentState)
      node env world config tracker current) :=
    fun r => hnode r.state.currentState r
  have hgo : Moves (TurnMoves config) (do
      enter env world config
      let current ← asks (·.state.currentState)
      node env world config tracker current) := by
    refine (within_enter env world config).bind_of (fun _ => hnext) (fun r r₁ h => ?_)
      fun r r₁ r' h h' => ?_
    · exact ⟨h.mono (by decide) (by decide) (by decide),
        fun hmore => absurd hmore (Nat.not_lt_of_le h.executed_le)⟩
    · refine ⟨(h.trans h'.1).mono (by decide) (by decide) (by decide), fun hmore => ?_⟩
      have hbelow := h'.2 (Nat.lt_of_le_of_lt h.executed_le hmore)
      exact Nat.lt_of_le_of_lt h.called hbelow
  intro r
  by_cases hterminal : r.state.currentState.isTerminal = true
  · rw [turn_of_terminal tracker hterminal]
    exact ⟨(Within.refl r).mono (by decide) (by decide) (by decide),
      fun hmore => absurd hmore (Nat.lt_irrefl _)⟩
  · rw [turn_of_not_terminal tracker (Bool.eq_false_iff.mpr hterminal)]
    exact hgo r

/-- **A turn that goes on has counted one iteration, within the limit.** -/
theorem turn_next {tracker tracker' : List String}
    (h : turn env world config tracker r = (.ok (.inl tracker'), r')) :
    r'.state.iterationCount = r.state.iterationCount + 1
      ∧ r'.state.iterationCount ≤ config.maxIterations := by
  by_cases hterminal : r.state.currentState.isTerminal = true
  · rw [turn_of_terminal tracker hterminal] at h
    exact nomatch Except.ok.inj (Prod.mk.inj h).1
  · rw [turn_of_not_terminal tracker (Bool.eq_false_iff.mpr hterminal)] at h
    obtain ⟨_, r₁, henter, h⟩ := bind_eq_ok_iff.mp h
    obtain ⟨current, r₂, hread, hnode⟩ := bind_eq_ok_iff.mp h
    obtain ⟨-, rfl⟩ := Prod.mk.inj hread
    have hmoved := ((node_moves tracker current).of_eq hnode).1
    rw [Nat.le_antisymm hmoved.iter_le hmoved.iter_ge]
    exact enter_eq_ok henter

/-- A turn that leaves the loop leaves a run that is over. -/
theorem turn_done {tracker : List String}
    (h : turn env world config tracker r = (.ok (.inr ()), r')) :
    r'.state.currentState.isTerminal = true := by
  by_cases hterminal : r.state.currentState.isTerminal = true
  · rw [turn_of_terminal tracker hterminal] at h
    rw [← (Prod.mk.inj h).2]
    exact hterminal
  · rw [turn_of_not_terminal tracker (Bool.eq_false_iff.mpr hterminal)] at h
    obtain ⟨_, r₁, henter, h⟩ := bind_eq_ok_iff.mp h
    obtain ⟨current, r₂, hread, hnode⟩ := bind_eq_ok_iff.mp h
    exact node_done hnode

/-! ## The run -/

theorem iterations_left (tracker : List String) (r : AgentRun W) (tracker' : List String)
    (r' : AgentRun W) (h : turn env world config tracker r = (.ok (.inl tracker'), r')) :
    config.maxIterations - r'.state.iterationCount
      < config.maxIterations - r.state.iterationCount := by
  obtain ⟨hcounted, hlimit⟩ := turn_next h
  omega

variable (env world config)

/-- `while not state.current_state.is_terminal`, with the calls tracked so far. -/
def runLoop (tracker : List String) : Raising (AgentRun W) AgentException Unit :=
  loop (fun r => config.maxIterations - r.state.iterationCount) (turn env world config)
    iterations_left tracker

/-- A run that is not over fails, where it can; the reason is kept. -/
def settle (detail reason : String) : Raising (AgentRun W) AgentException Unit := do
  if (← asks (·.state.currentState)).isTerminal then update (AgentState.setFailureReason reason)
  else do
    handle (transition env .failed (some detail)) fun _ => pure ()
    update (AgentState.setFailureReason reason)

/-- The handlers: the runtime's own exceptions are raised again, any other
    `Exception` as an `AgentError`. -/
def onException (e : AgentException) : Raising (AgentRun W) AgentException Unit :=
  if e.isControlled then do
    settle env e.text e.text
    raise e
  else if e.isOrdinary then do
    settle env s!"Unhandled error: {e.text}" e.text
    raise ⟨.agentError, s!"Agent execution failed: {e.text}"⟩
  else raise e

/-- The input is received, and the loop runs. -/
def graph (userPrompt : String) : Raising (AgentRun W) AgentException Unit := do
  NodeReceiveInput.process env userPrompt
  runLoop env world config []

/-- `AgentRuntime.run`. -/
def run (userPrompt : String) : Raising (AgentRun W) AgentException Unit :=
  handle (graph env world config userPrompt) (onException env)

/-! ### Its bounds -/

variable {env world config} {start : AgentState}

/-- What holds before every turn of a run that started in `start`. -/
structure AtTurn (config : AgentConfig) (start : AgentState) (r : AgentRun W) : Prop where
  history        : start.stepHistory <+: r.state.stepHistory
  turns_counted  : r.turns ≤ r.state.iterationCount
  turns_le       : r.turns ≤ config.maxIterations
  tools_counted  : r.executed.length ≤ r.state.toolCallCount
  tools_le       : r.executed.length ≤ config.maxToolCalls

/-- What holds at the end of a run that started in `start`. -/
structure Bounded (config : AgentConfig) (start : AgentState) (r : AgentRun W) : Prop where
  history  : start.stepHistory <+: r.state.stepHistory
  turns_le : r.turns ≤ config.maxIterations + 1
  tools_le : r.executed.length ≤ config.maxToolCalls

theorem AtTurn.of_within (h : AtTurn config start r) (hmoved : Within 0 0 0 r r') :
    AtTurn config start r' := by
  constructor
  · exact h.history.trans hmoved.history
  · exact hmoved.turns_le.trans (h.turns_counted.trans hmoved.iter_ge)
  · exact hmoved.turns_le.trans h.turns_le
  · have := hmoved.counted
    have := h.tools_counted
    omega
  · exact hmoved.executed_le.trans h.tools_le

theorem AtTurn.tools_of_turn (h : AtTurn config start r) (hmoved : TurnMoves config r r') :
    r'.executed.length ≤ config.maxToolCalls := by
  by_cases hmore : r.executed.length < r'.executed.length
  · have hbelow := hmoved.2 hmore
    have := hmoved.1.executed_le
    have := h.tools_counted
    omega
  · exact (Nat.le_of_not_lt hmore).trans h.tools_le

theorem AtTurn.next (h : AtTurn config start r) (hmoved : TurnMoves config r r')
    (hcounted : r'.state.iterationCount = r.state.iterationCount + 1
      ∧ r'.state.iterationCount ≤ config.maxIterations) : AtTurn config start r' := by
  have hturns := hmoved.1.turns_le
  have hbefore := h.turns_counted
  constructor
  · exact h.history.trans hmoved.1.history
  · omega
  · omega
  · have := hmoved.1.counted
    have := h.tools_counted
    omega
  · exact h.tools_of_turn hmoved

theorem AtTurn.bounded (h : AtTurn config start r) : Bounded config start r :=
  ⟨h.history, Nat.le_succ_of_le h.turns_le, h.tools_le⟩

/-- The last turn may be the one that finds a limit exceeded. -/
theorem AtTurn.leave (h : AtTurn config start r) (hmoved : TurnMoves config r r') :
    Bounded config start r' :=
  ⟨h.history.trans hmoved.1.history,
    hmoved.1.turns_le.trans (Nat.add_le_add_right h.turns_le 1), h.tools_of_turn hmoved⟩

theorem Bounded.of_within (h : Bounded config start r) (hmoved : Within 0 0 0 r r') :
    Bounded config start r' :=
  ⟨h.history.trans hmoved.history, hmoved.turns_le.trans h.turns_le,
    hmoved.executed_le.trans h.tools_le⟩

theorem runLoop_ends {tracker : List String} (h : AtTurn config start r) :
    Bounded config start (runLoop env world config tracker r).2
      ∧ ((runLoop env world config tracker r).1 = .ok () →
        (runLoop env world config tracker r).2.state.currentState.isTerminal = true) := by
  refine loop_rule (P := fun _ r => AtTurn config start r)
    (Q := fun res r' => Bounded config start r'
      ∧ (res = .ok () → r'.state.currentState.isTerminal = true)) ?_ ?_ ?_ h
  · intro t r t' r' hr hturn
    exact hr.next ((turn_moves t).of_eq hturn) (turn_next hturn)
  · intro t r _ r' hr hturn
    exact ⟨hr.leave ((turn_moves t).of_eq hturn), fun _ => turn_done hturn⟩
  · intro t r e r' hr hturn
    exact ⟨hr.leave ((turn_moves t).of_eq hturn), nofun⟩

/-! ### Its end -/

theorem within_settle (detail reason : String) :
    Moves (Within (W := W) 0 0 0) (settle env detail reason) := by
  have hreason : Moves (Within (W := W) 0 0 0) (update (AgentState.setFailureReason reason)) :=
    within_update (fun _ => rfl) (fun _ => rfl) fun _ => rfl
  have hfailed : Moves (Within (W := W) 0 0 0)
      (handle (transition env .failed (some detail)) fun _ => pure ()) :=
    (within_transition env _ _).handle (fun _ _ _ h h' => h.trans h') fun _ => within_pure ()
  refine within_seq (within_asks _) fun current => ?_
  cases current.isTerminal with
  | true => exact hreason
  | false => exact within_seq hfailed fun _ => hreason

/-- **Settled, a run is over**: every state that is not terminal may fail. -/
theorem settle_terminal (detail reason : String) (r : AgentRun W) :
    ∃ r', settle env detail reason r = (.ok (), r')
      ∧ r'.state.currentState.isTerminal = true := by
  rw [settle, bind_of_ok (asks_of_eq rfl)]
  by_cases hterminal : r.state.currentState.isTerminal = true
  · rw [if_pos hterminal]
    exact ⟨_, rfl, hterminal⟩
  · rw [if_neg hterminal]
    have hlegal := AgentStateEnum.failed_legal (Bool.eq_false_iff.mpr hterminal)
    have hmoved : transition env .failed (some detail) r
        = (.ok (), { r with state := r.state.moved .failed (some detail) hlegal }) := by
      rw [transition, onState, zoom, AgentState.transitionTo_of_legal hlegal]
    rw [bind_of_ok (handle_of_ok hmoved)]
    exact ⟨_, rfl, rfl⟩

theorem within_onException (e : AgentException) :
    Moves (Within (W := W) 0 0 0) (onException env e) := by
  rw [onException]
  by_cases hcontrolled : e.isControlled = true
  · rw [if_pos hcontrolled]
    exact within_seq (within_settle _ _) fun _ => within_raise e
  · rw [if_neg hcontrolled]
    by_cases hordinary : e.isOrdinary = true
    · rw [if_pos hordinary]
      exact within_seq (within_settle _ _) fun _ => within_raise _
    · rw [if_neg hordinary]
      exact within_raise e

/-- A handled exception leaves a run that is over, unless it is none that
    `except Exception` catches; an exception leaves the handlers either way. -/
theorem onException_raises (env : AgentEnv) (e : AgentException) (r : AgentRun W) :
    ∃ e' r', onException env e r = (.error e', r')
      ∧ (e'.isOrdinary = true → r'.state.currentState.isTerminal = true) := by
  rw [onException]
  by_cases hcontrolled : e.isControlled = true
  · rw [if_pos hcontrolled]
    obtain ⟨r', hsettled, hterminal⟩ := settle_terminal e.text e.text r
    rw [bind_of_ok hsettled]
    exact ⟨e, r', rfl, fun _ => hterminal⟩
  · rw [if_neg hcontrolled]
    by_cases hordinary : e.isOrdinary = true
    · rw [if_pos hordinary]
      obtain ⟨r', hsettled, hterminal⟩ :=
        settle_terminal s!"Unhandled error: {e.text}" e.text r
      rw [bind_of_ok hsettled]
      exact ⟨_, r', rfl, fun _ => hterminal⟩
    · rw [if_neg hordinary]
      exact ⟨e, r, rfl, fun h => absurd h hordinary⟩

theorem graph_ends (env : AgentEnv) (world : AgentWorld W) (userPrompt : String)
    (h : AtTurn config start r) :
    Bounded config start (graph env world config userPrompt r).2
      ∧ ((graph env world config userPrompt r).1 = .ok () →
        (graph env world config userPrompt r).2.state.currentState.isTerminal = true) := by
  have hinput := within_receiveInput (W := W) env userPrompt
  rw [graph]
  cases hrun : NodeReceiveInput.process env userPrompt r with
  | mk res r₁ =>
      have hat := h.of_within (hinput.of_eq hrun)
      cases res with
      | error e =>
          rw [bind_of_error hrun]
          exact ⟨hat.bounded, nofun⟩
      | ok _ =>
          rw [bind_of_ok hrun]
          exact runLoop_ends hat

/-- A run ends within its limits, and over: only what is no `Exception` may
    leave it otherwise. -/
theorem run_ends (env : AgentEnv) (world : AgentWorld W) (userPrompt : String)
    (h : AtTurn config start r) :
    ∃ res r', run env world config userPrompt r = (res, r') ∧ Bounded config start r'
      ∧ ((∀ e, res = .error e → e.isOrdinary = true) →
        r'.state.currentState.isTerminal = true) := by
  obtain ⟨hbounded, hterminal⟩ := graph_ends env world userPrompt h
  rw [run]
  cases hrun : graph env world config userPrompt r with
  | mk res r₁ =>
      rw [hrun] at hbounded hterminal
      cases res with
      | ok _ => exact ⟨_, _, handle_of_ok hrun, hbounded, fun _ => hterminal rfl⟩
      | error e =>
          obtain ⟨e', r', hhandled, hover⟩ := onException_raises env e r₁
          have hmoved := (within_onException e).of_eq hhandled
          refine ⟨.error e', r', ?_, hbounded.of_within hmoved, fun h => hover (h e' rfl)⟩
          rw [handle_of_error hrun, hhandled]

/-- **The bounds of a run**, whatever the model, the tools and the clock do, from
    any state that a run may start in: it ends in a terminal state or with an
    exception (and after every `Exception` in a terminal state, too), with at
    most one turn of its loop more than the limit of iterations, and with no
    more executions of tools than their limit; its history goes on with the one
    that it started with, is a legal path of the state machine, and has no step
    after a terminal one. -/
theorem run_bounded (env : AgentEnv) (world : AgentWorld W) (config : AgentConfig)
    (start : AgentState) (w : W) (userPrompt : String) :
    ∃ res ended, run env world config userPrompt
          { state := start, world := w, turns := 0, executed := [] } = (res, ended)
      ∧ (res = .ok () → ended.state.currentState.isTerminal = true)
      ∧ (∀ e, res = .error e → e.isOrdinary = true →
          ended.state.currentState.isTerminal = true)
      ∧ ended.turns ≤ config.maxIterations + 1
      ∧ ended.executed.length ≤ config.maxToolCalls
      ∧ start.stepHistory <+: ended.state.stepHistory
      ∧ LegalHistory ended.state.stepHistory ended.state.currentState
      ∧ ∀ before step after, ended.state.stepHistory = before ++ step :: after →
          step.toState.isTerminal = true → after = [] := by
  have hstart : AtTurn config start
      ({ state := start, world := w, turns := 0, executed := [] } : AgentRun W) :=
    ⟨List.prefix_refl _, Nat.zero_le _, Nat.zero_le _, Nat.zero_le _, Nat.zero_le _⟩
  obtain ⟨res, ended, hrun, hbounded, hover⟩ :=
    run_ends env world userPrompt hstart
  refine ⟨res, ended, hrun, ?_, ?_, hbounded.turns_le, hbounded.tools_le, hbounded.history,
    ended.state.legal, fun before step after heq hstep =>
      ended.state.legal.last_of_terminal heq hstep⟩
  · intro hok
    exact hover fun e he => nomatch hok.symm.trans he
  · intro e he hordinary
    exact hover fun e' he' => Except.error.inj (he.symm.trans he') ▸ hordinary

end AgentRuntime

end MandateGateway
