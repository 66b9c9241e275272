import MandateGateway.Execution.Effects
import MandateGateway.Lib.Runs

/-! # How often a payment is dispatched

    What keeps a second charge away is the result cache: a call hands a
    request to the provider only if no result of the transaction is cached,
    and caches one when the provider returns.  So a provider that returns is
    asked at most once per transaction (`dispatched_at_most_once`).  One that
    raises leaves nothing cached, and is kept from a second request exactly by
    a reconciliation in between (`ambiguous_resolved_iff`). -/

namespace MandateGateway

open OrderedMap Runs

namespace PaymentExecutionService

section Effects

variable {s s' : PaymentExecutionService} {adapter : RazorpayAdapter} {o : CallOutcome}

theorem ReconcileEffect.dispatched_eq_none {t : String} {ext : Option String}
    (h : ReconcileEffect s adapter t ext o s') : o.dispatched = none := by
  cases h <;> rfl

variable {proposal : PaymentExecuteProposalRequest} {auth : AuthorizationResult}
  {tx : Transaction}

/-- **A dispatch** needs an empty cache and an open gate, hands over the
    claimed transaction's own request, and fills the cache if the provider
    returns. -/
theorem ExecuteEffect.dispatch (h : ExecuteEffect s adapter proposal auth tx o s')
    {request : TrustedExecutionRequest} (hd : o.dispatched = some request) :
    s.results.contains tx.transactionId = false
      ∧ executionGate proposal auth tx = .ok none
      ∧ (∃ executingTx, ClaimOf tx executingTx
          ∧ request = trustedRequest proposal auth executingTx)
      ∧ (adapter.Returns → s'.results.contains tx.transactionId = true) := by
  cases h with
  | replayed => cases hd
  | reconciled _ _ h =>
      rw [h.dispatched_eq_none] at hd
      cases hd
  | refused => cases hd
  | unprintable => cases hd
  | @ambiguous executingTx err hr hgate hclaim hanswer =>
      obtain rfl := Option.some.inj hd
      refine ⟨(contains_eq_false_iff ..).mpr hr, hgate, ⟨executingTx, hclaim, rfl⟩, ?_⟩
      rintro ⟨hreturns, -⟩
      obtain ⟨r, hr⟩ := hreturns (trustedRequest proposal auth executingTx)
      rw [hanswer] at hr
      cases hr
  | @answered executingTx finalTx answer final audit hr hgate hclaim =>
      obtain rfl := Option.some.inj hd
      exact ⟨(contains_eq_false_iff ..).mpr hr, hgate, ⟨executingTx, hclaim, rfl⟩,
        fun _ => contains_set_self ..⟩

end Effects

variable (s : PaymentExecutionService)

/-! ## At most one dispatch -/

abbrev ServiceStep := Step PaymentExecutionService ServiceCall (Option CallOutcome)

/-- The step hands a request for transaction `t` to the provider. -/
def dispatches (t : String) (c : ServiceStep) : Bool :=
  match c.out with
  | some ⟨_, some request, _⟩ => request.transactionId == t
  | _ => false

theorem dispatches_iff {t : String} {c : ServiceStep} :
    dispatches t c = true
      ↔ ∃ o request, c.out = some o ∧ o.dispatched = some request
          ∧ request.transactionId = t := by
  rw [dispatches]
  split
  · next request _ hout =>
      rw [hout, beq_iff_eq]
      constructor
      · intro h
        exact ⟨_, request, rfl, rfl, h⟩
      · rintro ⟨o, request', ho, hd, ht⟩
        obtain rfl := Option.some.inj ho
        obtain rfl := Option.some.inj hd
        exact ht
  · next hnone =>
      refine ⟨nofun, ?_⟩
      rintro ⟨⟨result, dispatched, queried⟩, request, ho, hd, -⟩
      subst hd
      exact absurd ho (hnone _ _ _)

theorem execute_of_dispatches {t : String} {c : ServiceCall}
    (h : dispatches t (stepAt call s c) = true) :
    ∃ env adapter proposal auth tx request, c = .pay (.execute env adapter proposal auth tx)
      ∧ tx.transactionId = t
      ∧ (s.executePayment env adapter proposal auth tx).1.dispatched = some request := by
  obtain ⟨o, request, hout, hd, ht⟩ := dispatches_iff.mp h
  cases c with
  | register tx => cases hout
  | pay c =>
      obtain rfl := Option.some.inj hout
      cases c with
      | reconcile env adapter u ext =>
          have hnone := (reconcile_effect s env adapter u ext).dispatched_eq_none
          exact nomatch hnone.symm.trans hd
      | execute env adapter proposal auth tx =>
          obtain ⟨-, -, ⟨executingTx, hclaim, rfl⟩, -⟩ :=
            (execute_effect s env adapter proposal auth tx).dispatch hd
          exact ⟨env, adapter, proposal, auth, tx, _, rfl, hclaim.transactionId.symm.trans ht, hd⟩

/-- **The provider is asked to execute a transaction at most once**, in any run
    of registrations, executions and reconciliations in which its calls
    return. -/
theorem dispatched_at_most_once (s : PaymentExecutionService) (calls : List ServiceCall)
    (hreturns : ∀ c ∈ calls, c.ProviderReturns) (t : String) :
    (steps call s calls).countP (dispatches t) ≤ 1 := by
  refine countP_le_one_of_latch (L := fun s => s.results.contains t = true)
    (G := ServiceCall.ProviderReturns) ?_ ?_ (fun s c => call_contains_results s c) s calls
    hreturns
  -- the latch is the cached result: a dispatch needs it absent, and leaves it there
  · intro s c h hcached
    obtain ⟨env, adapter, proposal, auth, tx, request, rfl, rfl, hd⟩ := execute_of_dispatches s h
    have hempty := ((execute_effect s env adapter proposal auth tx).dispatch hd).1
    rw [hcached] at hempty
    cases hempty
  · intro s c hret h
    obtain ⟨env, adapter, proposal, auth, tx, request, rfl, rfl, hd⟩ := execute_of_dispatches s h
    exact ((execute_effect s env adapter proposal auth tx).dispatch hd).2.2.2 hret

theorem dispatched_at_most_once_sample :
    (steps call new [.pay (Sample.execute (Sample.answering true .success)),
        .pay (Sample.execute (Sample.answering true .success)),
        .pay (Sample.reconcile (Sample.answering false .unknown))]).countP
      (dispatches "tx-1") ≤ 1 := by
  refine dispatched_at_most_once new _ ?_ "tx-1"
  simp only [List.mem_cons, List.not_mem_nil, or_false]
  rintro c (rfl | rfl | rfl) <;> exact ⟨fun _ => ⟨_, rfl⟩, fun _ => ⟨_, rfl⟩⟩

/-! ## Ambiguous outcomes -/

/-- The call executes a snapshot of transaction `t`. -/
def Executes (t : String) : ServiceCall → Prop
  | .pay (.execute _ _ _ _ tx) => tx.transactionId = t
  | _ => False

theorem Executes.eq {t : String} {c : ServiceCall} (h : Executes t c) :
    ∃ env adapter proposal auth tx, c = .pay (.execute env adapter proposal auth tx)
      ∧ tx.transactionId = t := by
  cases c with
  | register tx => exact absurd h id
  | pay p =>
      cases p with
      | reconcile env adapter u ext => exact absurd h id
      | execute env adapter proposal auth tx => exact ⟨env, adapter, proposal, auth, tx, rfl, h⟩

/-- The provider raises while the step executes transaction `t`: it may or may
    not have charged. -/
def RaisesOn (t : String) (c : ServiceStep) : Prop :=
  ∃ env adapter proposal auth tx request err,
    c.act = .pay (.execute env adapter proposal auth tx) ∧ tx.transactionId = t
      ∧ c.out = some ⟨.error err, some request, none⟩
      ∧ adapter.executePayment request = .error err

/-- The step is a reconciliation of `t`, by either operation, that found `r`. -/
def Reconciled (t : String) (r : ExecutionResult) (c : ServiceStep) : Prop :=
  ∃ p o, c.act = .pay p ∧ p.transactionId = t ∧ c.out = some o ∧ o.queried.isSome = true
    ∧ o.result = .ok r

/-- The step resolves `t` by reconciliation: it dispatches nothing, and asks
    the provider for the status or returns what a past reconciliation found. -/
def ResolvedAfter (past : List ServiceStep) (t : String) (c : ServiceStep) : Prop :=
  ∃ o, c.out = some o ∧ o.dispatched = none
    ∧ (o.queried.isSome = true
      ∨ ∃ r, (o.result = .ok r ∨ o.result = .ok r.replay) ∧ ∃ e ∈ past, Reconciled t r e)

section Steps

variable {s s' : PaymentExecutionService} {adapter : RazorpayAdapter} {o : CallOutcome}
  {r : ExecutionResult}

/-- What a reconciliation leaves in the cache is what was there or what it
    found. -/
theorem ReconcileEffect.get_results {t : String} {ext : Option String}
    (h : ReconcileEffect s adapter t ext o s') (hr : s'.results.get t = some r) :
    s.results.get t = some r ∨ (o.queried.isSome = true ∧ o.result = .ok r) := by
  cases h with
  | notFound => exact Or.inl hr
  | cached => exact Or.inl hr
  | raised => exact Or.inl hr
  | settled =>
      rw [get_set_self, Option.some.injEq] at hr
      exact Or.inr ⟨rfl, by rw [hr]⟩
  | undecided =>
      rw [get_set_self, Option.some.injEq] at hr
      exact Or.inr ⟨rfl, by rw [hr]⟩

theorem ReconcileEffect.contains_of_queried {t : String} {ext : Option String}
    (h : ReconcileEffect s adapter t ext o s') (hq : o.queried.isSome = true)
    (hr : o.result = .ok r) : s'.results.contains t = true := by
  cases h with
  | notFound => cases hq
  | cached => cases hq
  | raised => cases hr
  | settled => exact contains_set_self ..
  | undecided => exact contains_set_self ..

/-- A reconciliation of a stored transaction asks the provider or answers from
    the cache. -/
theorem ReconcileEffect.resolves {t : String} {ext : Option String}
    (h : ReconcileEffect s adapter t ext o s') (hstored : s.transactions.contains t = true) :
    o.queried.isSome = true ∨ ∃ r, s.results.get t = some r ∧ o.result = .ok r := by
  cases h with
  | notFound htx =>
      rw [contains, htx] at hstored
      cases hstored
  | cached _ _ hr => exact Or.inr ⟨_, hr, rfl⟩
  | raised => exact Or.inl rfl
  | settled => exact Or.inl rfl
  | undecided => exact Or.inl rfl

variable {proposal : PaymentExecuteProposalRequest} {auth : AuthorizationResult}
  {tx : Transaction}

/-- With a cached result, an execution resolves: it dispatches nothing, and
    asks for the status or answers with that result. -/
theorem ExecuteEffect.resolves (h : ExecuteEffect s adapter proposal auth tx o s')
    (hs : CachedStored s) (hc : s.results.contains tx.transactionId = true) :
    o.dispatched = none
      ∧ (o.queried.isSome = true
        ∨ ∃ r, s.results.get tx.transactionId = some r
          ∧ (o.result = .ok r ∨ o.result = .ok r.replay)) := by
  obtain ⟨r, hr⟩ := (contains_iff ..).mp hc
  rcases h.of_cached hr with ⟨-, rfl, -⟩ | ⟨-, hrec⟩
  · exact ⟨rfl, Or.inr ⟨r, hr, Or.inr rfl⟩⟩
  · refine ⟨hrec.dispatched_eq_none, ?_⟩
    rcases hrec.resolves (hs _ hc) with hq | ⟨r', hr', hres⟩
    · exact Or.inl hq
    · exact Or.inr ⟨r', hr', Or.inl hres⟩

/-- With a cached result, an execution leaves in the cache what a
    reconciliation would. -/
theorem ExecuteEffect.get_results (h : ExecuteEffect s adapter proposal auth tx o s')
    (hc : s.results.contains tx.transactionId = true)
    (hr : s'.results.get tx.transactionId = some r) :
    s.results.get tx.transactionId = some r ∨ (o.queried.isSome = true ∧ o.result = .ok r) := by
  obtain ⟨r₀, hr₀⟩ := (contains_iff ..).mp hc
  rcases h.of_cached hr₀ with ⟨-, -, rfl⟩ | ⟨-, hrec⟩
  · exact Or.inl hr
  · exact hrec.get_results hr

/-- Without a cached result, an execution does not ask for the status. -/
theorem ExecuteEffect.of_uncached (h : ExecuteEffect s adapter proposal auth tx o s')
    (hc : s.results.get tx.transactionId = none) : o.queried = none := by
  cases h with
  | replayed hr => exact nomatch hc.symm.trans hr
  | reconciled hr => exact nomatch hc.symm.trans hr
  | refused => rfl
  | unprintable => rfl
  | ambiguous => rfl
  | answered => rfl

/-- A dispatch on which the provider raised leaves the cache as it was. -/
theorem ExecuteEffect.of_raise (h : ExecuteEffect s adapter proposal auth tx o s')
    {request : TrustedExecutionRequest} {err : PyError}
    (ho : o = ⟨.error err, some request, none⟩) :
    s'.results.get tx.transactionId = none := by
  cases h with
  | replayed => cases ho
  | reconciled _ _ h =>
      have hd := h.dispatched_eq_none
      rw [ho] at hd
      cases hd
  | refused => cases ho
  | unprintable => cases ho
  | ambiguous hr => exact hr
  | answered => cases ho

end Steps

variable {t : String} {r : ExecutionResult}

theorem Reconciled.contains_results {c : ServiceCall} (h : Reconciled t r (stepAt call s c)) :
    (s.call c).2.results.contains t = true := by
  obtain ⟨p, o, hp, rfl, ho, hq, hr⟩ := h
  obtain rfl : c = .pay p := hp
  obtain rfl := Option.some.inj ho
  cases p with
  | reconcile env adapter u ext =>
      exact (reconcile_effect s env adapter u ext).contains_of_queried hq hr
  | execute env adapter proposal auth tx =>
      have heff := execute_effect s env adapter proposal auth tx
      cases hc : s.results.get tx.transactionId with
      | none =>
          exact nomatch (congrArg Option.isSome (heff.of_uncached hc)).symm.trans hq
      | some r₀ => exact call_contains_results s _ ((contains_iff ..).mpr ⟨r₀, hc⟩)

theorem get_results_after (c : ServiceCall)
    (hcached : Executes t c → s.results.contains t = true)
    (hr : (s.call c).2.results.get t = some r) :
    s.results.get t = some r ∨ Reconciled t r (stepAt call s c) := by
  cases c with
  | register tx => exact Or.inl hr
  | pay p =>
      by_cases ht : t = p.transactionId
      · subst ht
        cases p with
        | execute env adapter proposal auth tx =>
            rcases (execute_effect s env adapter proposal auth tx).get_results (hcached rfl) hr
              with hold | ⟨hq, hres⟩
            · exact Or.inl hold
            · exact Or.inr ⟨_, _, rfl, rfl, rfl, hq, hres⟩
        | reconcile env adapter u ext =>
            rcases (reconcile_effect s env adapter u ext).get_results hr with
              hold | ⟨hq, hres⟩
            · exact Or.inl hold
            · exact Or.inr ⟨_, _, rfl, rfl, rfl, hq, hres⟩
      · have hframe := ((pay_writes s p).frame ht).2
        exact Or.inl (hframe.symm.trans hr)

/-- In a run on an uncached transaction whose executions find a cached result,
    the cached result is one that a reconciliation of the run found. -/
theorem reconciled_of_get_results {calls : List ServiceCall} (hs : s.results.get t = none)
    (hcached : ∀ l d rest, calls = l ++ d :: rest → Executes t d →
      (exec call s l).results.contains t = true)
    (hr : (exec call s calls).results.get t = some r) :
    ∃ e ∈ steps call s calls, Reconciled t r e := by
  -- from the right: the last call found the result or left an older one in place
  induction calls using List.reverseRecOn with
  | nil => exact nomatch hs.symm.trans hr
  | append_singleton calls c ih =>
      rw [exec_append] at hr
      rw [steps_append]
      have hc := get_results_after (exec call s calls) c (hcached calls c [] rfl) hr
      rcases hc with hold | hrec
      · have hprefix : ∀ l d rest, calls = l ++ d :: rest → Executes t d →
            (exec call s l).results.contains t = true := by
          intro l d rest heq
          exact hcached l d (rest ++ [c]) (by rw [heq, List.append_assoc, List.cons_append])
        obtain ⟨e, he, hrec⟩ := ih hprefix hold
        exact ⟨e, List.mem_append_left _ he, hrec⟩
      · exact ⟨_, List.mem_append_right _ List.mem_cons_self, hrec⟩

/-- **After an ambiguous outcome, a later execution resolves by reconciliation
    exactly when it finds a cached result.**  In a run in which the provider
    raised on `t`, all later executions of `t` resolve if and only if each of
    them finds one, which only a reconciliation in between can have left. -/
theorem ambiguous_resolved_iff (before : List ServiceCall) (c : ServiceCall)
    (after : List ServiceCall) (t : String)
    (hraises : RaisesOn t (stepAt call (exec call new before) c)) :
    (∀ l d rest, after = l ++ d :: rest → Executes t d →
      ResolvedAfter (steps call (exec call new (before ++ [c])) l) t
        (stepAt call (exec call (exec call new (before ++ [c])) l) d))
    ↔ ∀ l d rest, after = l ++ d :: rest → Executes t d →
      (exec call (exec call new (before ++ [c])) l).results.contains t = true := by
  have hs : (exec call new (before ++ [c])).results.get t = none := by
    obtain ⟨env, adapter, proposal, auth, tx, request, err, rfl, rfl, hout, -⟩ := hraises
    rw [exec_append]
    exact (execute_effect _ env adapter proposal auth tx).of_raise (Option.some.inj hout)
  generalize hs₁ : exec call new (before ++ [c]) = s₁ at hs ⊢
  have hstored : ∀ l, CachedStored (exec call s₁ l) := by
    intro l
    rw [← hs₁, ← exec_append]
    exact exec_inv call_cachedStored new_cachedStored _
  constructor
  · intro h l d rest heq hd
    obtain ⟨o, ho, -, hresolved⟩ := h l d rest heq hd
    cases hc : (exec call s₁ l).results.contains t with
    | true => rfl
    | false =>
        rcases hresolved with hq | ⟨r, -, e, he, hrec⟩
        · -- an uncached execution does not ask for the status
          obtain ⟨env, adapter, proposal, auth, tx, rfl, rfl⟩ := hd.eq
          obtain rfl := Option.some.inj ho
          have hnone : (executePayment env adapter proposal auth tx _).1.queried = none :=
            (execute_effect (exec call s₁ l) env adapter proposal auth tx).of_uncached
              ((contains_eq_false_iff ..).mp hc)
          exact nomatch (congrArg Option.isSome hnone).symm.trans hq
        · -- a past reconciliation would have left a cached result
          obtain ⟨l₁, c', l₂, rfl, rfl⟩ := mem_steps_iff.mp he
          have hthere : (exec call s₁ (l₁ ++ c' :: l₂)).results.contains t = true := by
            rw [exec_append, exec_cons]
            exact exec_inv (I := fun s => s.results.contains t = true)
              (fun s c => call_contains_results s c) (hrec.contains_results _) l₂
          rw [hc] at hthere
          cases hthere
  · intro h l d rest heq hd
    have hc := h l d rest heq hd
    obtain ⟨env, adapter, proposal, auth, tx, rfl, rfl⟩ := hd.eq
    obtain ⟨hnone, hres⟩ :=
      (execute_effect (exec call s₁ l) env adapter proposal auth tx).resolves (hstored l) hc
    refine ⟨_, rfl, hnone, ?_⟩
    rcases hres with hq | ⟨r, hr, hres⟩
    · exact Or.inl hq
    · refine Or.inr ⟨r, hres, reconciled_of_get_results s₁ hs ?_ hr⟩
      intro l₁ d' rest' heq'
      exact h l₁ d' (rest' ++ _ :: rest)
        (by rw [heq, heq', List.append_assoc, List.cons_append])

theorem ambiguous_resolved_iff_sample :
    (∀ l d rest, [ServiceCall.pay (Sample.execute Sample.broken)] = l ++ d :: rest →
      Executes "tx-1" d →
      ResolvedAfter
        (steps call (exec call new ([] ++ [.pay (Sample.execute Sample.broken)])) l) "tx-1"
        (stepAt call
          (exec call (exec call new ([] ++ [.pay (Sample.execute Sample.broken)])) l) d))
    ↔ ∀ l d rest, [ServiceCall.pay (Sample.execute Sample.broken)] = l ++ d :: rest →
      Executes "tx-1" d →
      (exec call (exec call new ([] ++ [.pay (Sample.execute Sample.broken)])) l).results.contains
        "tx-1" = true :=
  ambiguous_resolved_iff [] (.pay (Sample.execute Sample.broken)) _ "tx-1"
    ⟨_, _, _, _, _, _, _, rfl, rfl, rfl, rfl⟩

/-- A retry after a broken connection, with the snapshot of the first try,
    hands a second request to the provider. -/
theorem retry_dispatches_again :
    RaisesOn "tx-1" (stepAt call new (.pay (Sample.execute Sample.broken)))
    ∧ dispatches "tx-1" (stepAt call (exec call new [.pay (Sample.execute Sample.broken)])
        (.pay (Sample.execute (Sample.answering true .success)))) = true
    ∧ ¬ ResolvedAfter [] "tx-1" (stepAt call (exec call new [.pay (Sample.execute Sample.broken)])
        (.pay (Sample.execute (Sample.answering true .success)))) := by
  refine ⟨⟨_, _, _, _, _, _, _, rfl, rfl, rfl, rfl⟩, rfl, ?_⟩
  rintro ⟨o, ho, hnone, -⟩
  obtain rfl := Option.some.inj ho
  cases hnone

end PaymentExecutionService

end MandateGateway

/-! ## The state a payment call ends in

    An execution that hands a request to the provider ends in the state of the
    answer's verdict, and a call that asks for a status is a reconciliation. -/

namespace MandateGateway

open Clock OrderedMap

/-- The state that the verdict on an answer gives the transaction. -/
def verdictState (answer : ExecutionResult) : TransactionState :=
  if answer.success then .committed
  else if answer.providerStatus = some .unknown then .executing
  else .rolledBack

theorem providerVerdict_state {executingTx : Transaction} (h : executingTx.state = .executing)
    (now : Instant) (answer : ExecutionResult) :
    ∃ finalTx final, providerVerdict now executingTx answer = .ok (finalTx, final)
      ∧ finalTx.state = verdictState answer
      ∧ finalTx.transactionId = executingTx.transactionId := by
  rw [providerVerdict, verdictState]
  by_cases hsuccess : answer.success = true
  · obtain ⟨tx', hcommit, hstate, hid⟩ :=
      commitTransaction_of_executing h now answer.externalReference
    simp only [if_pos hsuccess, hcommit]
    exact ⟨tx', _, rfl, hstate, hid⟩
  simp only [if_neg hsuccess]
  by_cases hunknown : answer.providerStatus = some .unknown
  · simp only [if_pos hunknown]
    exact ⟨executingTx, _, rfl, h, rfl⟩
  · obtain ⟨tx', hroll, hstate, hid⟩ := rollBackTransaction_of_executing h now
    simp only [if_neg hunknown, hroll]
    exact ⟨tx', _, rfl, hstate, hid⟩

namespace PaymentExecutionService

variable {s s' : PaymentExecutionService} {env : Ambient} {adapter : RazorpayAdapter}
  {proposal : PaymentExecuteProposalRequest} {auth : AuthorizationResult} {tx : Transaction}
  {request : TrustedExecutionRequest} {answer : ExecutionResult}

/-- **An execution that asks the provider ends in the verdict's state.** -/
theorem executePayment_state
    (hdispatched : (s.executePayment env adapter proposal auth tx).1.dispatched = some request)
    (hanswer : adapter.executePayment request = .ok answer) :
    ((s.executePayment env adapter proposal auth tx).2.transactions.get tx.transactionId).map
      Transaction.state = some (verdictState answer) := by
  have hdispatch := (execute_effect s env adapter proposal auth tx).dispatch hdispatched
  obtain ⟨executingTx, hclaim, hrun⟩ := executePayment_of_gate s env adapter
    ((contains_eq_false_iff ..).mp hdispatch.1) hdispatch.2.1
  obtain ⟨finalTx, final, hverdict, hstate, hid⟩ :=
    providerVerdict_state hclaim.executing env.now answer
  have hrequest : trustedRequest proposal auth executingTx = request := by
    rw [hrun, invokeProvider] at hdispatched
    dsimp only at hdispatched
    cases hanswer' : adapter.executePayment (trustedRequest proposal auth executingTx) with
    | error err =>
        rw [hanswer'] at hdispatched
        exact Option.some.inj hdispatched
    | ok answer' =>
        obtain ⟨finalTx', final', hverdict', -, -⟩ :=
          providerVerdict_state hclaim.executing env.now answer'
        rw [hanswer'] at hdispatched
        dsimp only at hdispatched
        rw [hverdict'] at hdispatched
        exact Option.some.inj hdispatched
  rw [hrun, invokeProvider]
  dsimp only
  rw [hrequest, hanswer]
  dsimp only
  rw [hverdict]
  dsimp only
  rw [hid, hclaim.transactionId, get_set_self, Option.map_some, hstate]

theorem ExecuteEffect.unknown_of_queried {o : CallOutcome} {ref : String}
    (h : ExecuteEffect s adapter proposal auth tx o s') (hq : o.queried = some ref) :
    ∃ r, s.results.get tx.transactionId = some r ∧ r.providerStatus = some .unknown := by
  cases h with
  | replayed => cases hq
  | @reconciled r o s' hr hunknown h => exact ⟨r, hr, hunknown⟩
  | refused => cases hq
  | unprintable => cases hq
  | ambiguous => cases hq
  | answered => cases hq

/-- **A call that asks for a status is a reconciliation.** -/
theorem pay_of_queried {c : PayCall} {ref : String} (h : (s.pay c).1.queried = some ref) :
    ∃ env ext, s.pay c = s.reconcilePaymentStatus env c.adapter c.transactionId ext := by
  cases c with
  | reconcile env adapter t ext => exact ⟨env, ext, rfl⟩
  | execute env adapter proposal auth tx =>
      obtain ⟨r, hr, hunknown⟩ :=
        (execute_effect s env adapter proposal auth tx).unknown_of_queried h
      refine ⟨env, none, ?_⟩
      show s.executePayment env adapter proposal auth tx = _
      rw [executePayment, hr]
      dsimp only
      rw [if_pos hunknown]
      rfl

theorem ReconcileEffect.queried_of_executing {t : String} {ext : Option String} {o : CallOutcome}
    (h : ReconcileEffect s adapter t ext o s') (htx : s.transactions.get t = some tx)
    (hstate : tx.state = .executing) : o.queried = some (providerRef tx ext) := by
  cases h with
  | notFound hnone =>
      rw [hnone] at htx
      cases htx
  | cached htx' hterminal =>
      obtain rfl := Option.some.inj (htx'.symm.trans htx)
      rw [Transaction.isTerminal, hstate] at hterminal
      cases hterminal
  | raised htx' =>
      obtain rfl := Option.some.inj (htx'.symm.trans htx)
      rfl
  | settled htx' =>
      obtain rfl := Option.some.inj (htx'.symm.trans htx)
      rfl
  | undecided htx' =>
      obtain rfl := Option.some.inj (htx'.symm.trans htx)
      rfl

end PaymentExecutionService

end MandateGateway
