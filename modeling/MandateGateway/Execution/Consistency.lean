import MandateGateway.Execution.Effects
import MandateGateway.Lib.Runs

/-! # Stored transactions and cached results

    The service writes a transaction's state and its result separately.  Two
    properties tie them together over runs: a settled transaction is final
    (`run_final_iff`), and a result carries the state of its stored
    transaction (`run_agrees_iff`).  Neither holds of every run; for each the
    file gives the exact condition on the calls under which it does. -/

namespace MandateGateway

open OrderedMap Runs

/-- COMMITTED or ROLLED_BACK: the payment has been decided. -/
def TransactionState.Settled (s : TransactionState) : Prop := s = .committed ∨ s = .rolledBack

theorem TransactionState.Settled.ne_executing {s : TransactionState} (h : s.Settled) :
    s ≠ .executing := by
  rcases h with rfl | rfl
  · exact nofun
  · exact nofun

theorem TransactionState.Settled.not_terminal {s : TransactionState} (h : s.Settled) :
    ¬ s.isTerminal = true := by
  rcases h with rfl | rfl
  · decide
  · decide

namespace PaymentExecutionService

abbrev PayStep := Step PaymentExecutionService PayCall CallOutcome

/-! ## Finality -/

/-- The step respects settled transactions: it changes neither the stored
    transaction nor the cached result of any, and a reconciliation of one
    returns that result. -/
def Final (c : PayStep) : Prop :=
  ∀ t tx, c.pre.transactions.get t = some tx → tx.state.Settled →
    c.post.transactions.get t = some tx
      ∧ c.post.results.get t = c.pre.results.get t
      ∧ ∀ env adapter ext, c.act = .reconcile env adapter t ext →
          ∃ r, c.pre.results.get t = some r ∧ c.out.result = .ok r

/-- The call leaves settled transactions alone: it reconciles none, and
    executes one only if its result is cached, or with the stored snapshot
    and a check that raises. -/
def LeavesSettled (c : PayStep) : Prop :=
  ∀ tx, c.pre.transactions.get c.act.transactionId = some tx → tx.state.Settled →
    match c.act with
    | .reconcile _ _ _ _ => False
    | .execute _ _ proposal auth snapshot =>
        c.pre.results.contains snapshot.transactionId = true
          ∨ (snapshot = tx ∧ ∃ err, executionGate proposal auth snapshot = .error err)

/-- The cached result of a settled transaction is not UNKNOWN. -/
def SettledKnown (s : PaymentExecutionService) : Prop :=
  ∀ t tx r, s.transactions.get t = some tx → tx.state.Settled → s.results.get t = some r →
    r.providerStatus ≠ some .unknown

theorem new_settledKnown : SettledKnown new := fun _ _ _ h => nomatch h

/-- A call keeps `SettledKnown` if it does for its own transaction. -/
theorem SettledKnown.of_writes {s s' : PaymentExecutionService} {t : String}
    (hs : SettledKnown s) (hw : Writes s t s')
    (hself : ∀ tx r, s'.transactions.get t = some tx → tx.state.Settled →
      s'.results.get t = some r → r.providerStatus ≠ some .unknown) :
    SettledKnown s' := by
  intro u tx r htx hsettled hr
  by_cases hu : u = t
  · subst hu
    exact hself tx r htx hsettled hr
  · obtain ⟨hftx, hfr⟩ := hw.frame hu
    exact hs u tx r (hftx.symm.trans htx) hsettled (hfr.symm.trans hr)

section Steps

variable {s s' : PaymentExecutionService} {adapter : RazorpayAdapter} {o : CallOutcome}

/-- A reconciliation of a settled transaction never returns its cached result. -/
theorem ReconcileEffect.of_settled {t : String} {ext : Option String}
    (h : ReconcileEffect s adapter t ext o s') (hs : SettledKnown s) {tx : Transaction}
    (htx : s.transactions.get t = some tx) (hsettled : tx.state.Settled) :
    ¬ ∃ r, s.results.get t = some r ∧ o.result = .ok r := by
  rintro ⟨r, hr, hres⟩
  cases h with
  | notFound htx' => exact nomatch htx.symm.trans htx'
  | cached htx' hterm =>
      obtain rfl := Option.some.inj (htx.symm.trans htx')
      exact hsettled.not_terminal hterm
  | raised => cases hres
  | settled htx' hstate =>
      obtain rfl := Option.some.inj (htx.symm.trans htx')
      exact hsettled.ne_executing hstate
  | undecided _ _ _ _ _ _ hstatus =>
      obtain rfl := Except.ok.inj hres
      exact hs t tx _ htx hsettled hr hstatus

/-- A reconciliation of an unsettled transaction leaves a known result if it
    settles it. -/
theorem ReconcileEffect.settledKnown {t : String} {ext : Option String}
    (h : ReconcileEffect s adapter t ext o s') (hs : SettledKnown s)
    (hopen : ∀ tx, s.transactions.get t = some tx → ¬ tx.state.Settled) :
    SettledKnown s' := by
  refine hs.of_writes h.writes ?_
  intro tx r htx hsettled hr
  cases h with
  | notFound => exact hs t tx r htx hsettled hr
  | cached => exact hs t tx r htx hsettled hr
  | raised => exact hs t tx r htx hsettled hr
  | settled _ _ _ _ _ _ _ hstatus =>
      rw [get_set_self, Option.some.injEq] at hr
      rw [← hr]
      exact hstatus
  | undecided => exact absurd hsettled (hopen tx htx)

variable {proposal : PaymentExecuteProposalRequest} {auth : AuthorizationResult}
  {snapshot : Transaction}

/-- An execution keeps the cached results of settled transactions known. -/
theorem ExecuteEffect.settledKnown (h : ExecuteEffect s adapter proposal auth snapshot o s')
    (hs : SettledKnown s) : SettledKnown s' := by
  refine hs.of_writes h.writes ?_
  intro tx r htx hsettled hr
  cases h with
  | replayed => exact hs _ tx r htx hsettled hr
  | @reconciled r₀ _ _ hr₀ hunknown h =>
      refine h.settledKnown hs ?_ _ tx r htx hsettled hr
      intro tx₀ htx₀ hsettled₀
      exact hs _ tx₀ r₀ htx₀ hsettled₀ hr₀ hunknown
  | refused _ _ _ _ _ _ hstatus =>
      rw [get_set_self, Option.some.injEq] at hr
      rw [← hr, hstatus]
      exact nofun
  | unprintable hnone => exact nomatch hnone.symm.trans hr
  | ambiguous hnone => exact nomatch hnone.symm.trans hr
  | answered _ _ _ _ _ _ hstatus =>
      rw [get_set_self, Option.some.injEq] at hr htx
      subst hr htx
      rcases hstatus with ⟨hexec, -⟩ | ⟨-, hknown⟩
      · exact absurd hexec hsettled.ne_executing
      · exact hknown

/-- An execution of a settled transaction changes nothing of it exactly when
    its result is cached, or the snapshot is the stored one and a check
    raises. -/
theorem ExecuteEffect.keeps_settled_iff
    (h : ExecuteEffect s adapter proposal auth snapshot o s') (hs : SettledKnown s)
    {tx : Transaction} (htx : s.transactions.get snapshot.transactionId = some tx)
    (hsettled : tx.state.Settled) :
    (s'.transactions.get snapshot.transactionId = some tx
        ∧ s'.results.get snapshot.transactionId = s.results.get snapshot.transactionId)
      ↔ s.results.contains snapshot.transactionId = true
        ∨ (snapshot = tx ∧ ∃ err, executionGate proposal auth snapshot = .error err) := by
  cases h with
  | replayed hr => exact ⟨fun _ => Or.inl ((contains_iff ..).mpr ⟨_, hr⟩), fun _ => ⟨htx, rfl⟩⟩
  | reconciled hr hunknown => exact absurd hunknown (hs _ tx _ htx hsettled hr)
  | refused hr hgate =>
      -- a result is cached where none was, and no check raised
      simp only [get_set_self, contains, hr, hgate]
      simp
  | @unprintable err hr hgate =>
      -- the snapshot replaces the stored transaction, so it has to be the same one
      simp only [registerTransaction, get_set_self, contains, hr, hgate]
      simp
  | ambiguous hr hgate hclaim =>
      have hne : ∀ tx', tx' = tx → tx'.state ≠ .executing := by
        rintro tx' rfl
        exact hsettled.ne_executing
      simp only [get_set_self, contains, hr, hgate, Option.some.injEq]
      constructor
      · rintro ⟨heq, -⟩
        exact absurd hclaim.executing (hne _ heq)
      · simp
  | answered hr hgate =>
      simp only [get_set_self, contains, hr, hgate]
      simp

end Steps

/-- **One step respects settled transactions exactly when its call leaves them
    alone.** -/
theorem final_iff (s : PaymentExecutionService) (c : PayCall) (hs : SettledKnown s) :
    Final (stepAt pay s c) ↔ LeavesSettled (stepAt pay s c) := by
  constructor
  · intro hfinal tx htx hsettled
    obtain ⟨hkept, hresult, hrec⟩ := hfinal c.transactionId tx htx hsettled
    cases c with
    | reconcile env adapter t ext =>
        exact (reconcile_effect s env adapter t ext).of_settled hs htx hsettled
          (hrec env adapter ext rfl)
    | execute env adapter proposal auth snapshot =>
        exact ((execute_effect s env adapter proposal auth snapshot).keeps_settled_iff hs htx
          hsettled).mp ⟨hkept, hresult⟩
  · intro hleaves t tx htx hsettled
    by_cases ht : t = c.transactionId
    · subst ht
      cases c with
      | reconcile env adapter t ext => exact absurd (hleaves tx htx hsettled) id
      | execute env adapter proposal auth snapshot =>
          obtain ⟨hkept, hresult⟩ := ((execute_effect s env adapter proposal auth
            snapshot).keeps_settled_iff hs htx hsettled).mpr (hleaves tx htx hsettled)
          exact ⟨hkept, hresult, fun _ _ _ hact => nomatch hact⟩
    · -- the call writes nothing of another transaction
      obtain ⟨hftx, hfr⟩ := (pay_writes s c).frame ht
      refine ⟨hftx.trans htx, hfr, ?_⟩
      intro env adapter ext hact
      have hc : c = .reconcile env adapter t ext := hact
      rw [hc] at ht
      exact absurd rfl ht

/-- **A run respects settled transactions exactly when its calls leave them
    alone.** -/
theorem run_final_iff (calls : List PayCall) :
    (∀ c ∈ steps pay new calls, Final c) ↔ ∀ c ∈ steps pay new calls, LeavesSettled c := by
  refine forall_steps_iff (I := SettledKnown) final_iff ?_ new_settledKnown calls
  intro s c hs hleaves
  cases c with
  | execute env adapter proposal auth tx =>
      exact (execute_effect s env adapter proposal auth tx).settledKnown hs
  | reconcile env adapter t ext =>
      exact (reconcile_effect s env adapter t ext).settledKnown hs
        fun tx htx hsettled => hleaves tx htx hsettled

/-- The sample purchase is settled, and then the provider answers PENDING. -/
def lateAnswer : List PayCall :=
  [Sample.execute (Sample.answering true .success),
    Sample.reconcile (Sample.answering false .pending)]

/-- A late answer takes a committed payment's result back to EXECUTING. -/
theorem lateAnswer_not_final :
    ¬ (∀ c ∈ steps pay new lateAnswer, Final c)
    ∧ ((exec pay new (lateAnswer.take 1)).transactions.get "tx-1").map Transaction.state
        = some .committed
    ∧ ((exec pay new (lateAnswer.take 1)).results.get "tx-1").map ExecutionResult.state
        = some .committed
    ∧ ((exec pay new lateAnswer).transactions.get "tx-1").map Transaction.state
        = some .committed
    ∧ ((exec pay new lateAnswer).results.get "tx-1").map ExecutionResult.state
        = some .executing := by
  refine ⟨?_, rfl, rfl, rfl, rfl⟩
  intro h
  obtain ⟨-, hresult, -⟩ :=
    h (stepAt pay (exec pay new (lateAnswer.take 1)) (Sample.reconcile (Sample.answering false
      .pending))) (List.mem_cons_of_mem _ List.mem_cons_self) "tx-1" _ rfl (Or.inl rfl)
  have hstate := congrArg (Option.map ExecutionResult.state) hresult
  cases hstate

/-! ## Agreement of results and transactions -/

/-- Every cached result carries the state of its stored transaction. -/
def Agrees (s : PaymentExecutionService) : Prop :=
  ∀ t tx r, s.transactions.get t = some tx → s.results.get t = some r → r.state = tx.state

/-- After the step every result, cached or returned, of a stored transaction
    carries the transaction's state. -/
def ReportsState (c : PayStep) : Prop :=
  Agrees c.post
    ∧ ∀ r tx, c.out.result = .ok r → c.post.transactions.get r.transactionId = some tx →
        r.state = tx.state

/-- The call can report a state truthfully: an execution that the gate rejects
    is of a cached transaction or has a snapshot that can follow to REJECTED,
    and an answer that decides nothing is of an EXECUTING transaction, or is
    not asked for. -/
def Truthful (c : PayStep) : Prop :=
  match c.act with
  | .execute _ _ proposal auth tx =>
      c.pre.results.get tx.transactionId = none →
        (∃ rej, executionGate proposal auth tx = .ok (some rej)) →
          tx.state = .validating ∨ tx.state = .rejected
  | .reconcile _ adapter t ext =>
      ∀ tx st, c.pre.transactions.get t = some tx →
        adapter.fetchPaymentStatus (providerRef tx ext) = .ok st → Undecided st →
          tx.state = .executing ∨ (tx.isTerminal = true ∧ c.pre.results.contains t = true)

/-- What the cache promises of the transactions in the service. -/
structure Coherent (s : PaymentExecutionService) : Prop where
  agrees  : Agrees s
  keyed   : ∀ t r, s.results.get t = some r → r.transactionId = t
  unknown : ∀ t r, s.results.get t = some r → r.providerStatus = some .unknown →
    r.state = .executing

theorem new_coherent : Coherent new where
  agrees := fun _ _ _ h => nomatch h
  keyed := fun _ _ h => nomatch h
  unknown := fun _ _ h => nomatch h

/-- A call keeps the service coherent if it does for its own transaction. -/
theorem Coherent.of_writes {s s' : PaymentExecutionService} {t : String}
    (hs : Coherent s) (hw : Writes s t s')
    (hagrees : ∀ tx r, s'.transactions.get t = some tx → s'.results.get t = some r →
      r.state = tx.state)
    (hself : ∀ r, s'.results.get t = some r → r.transactionId = t
      ∧ (r.providerStatus = some .unknown → r.state = .executing)) : Coherent s' where
  agrees := by
    intro u tx r htx hr
    by_cases hu : u = t
    · subst hu
      exact hagrees tx r htx hr
    · obtain ⟨hftx, hfr⟩ := hw.frame hu
      exact hs.agrees u tx r (hftx.symm.trans htx) (hfr.symm.trans hr)
  keyed := by
    intro u r hr
    by_cases hu : u = t
    · subst hu
      exact (hself r hr).1
    · exact hs.keyed u r ((hw.frame hu).2.symm.trans hr)
  unknown := by
    intro u r hr
    by_cases hu : u = t
    · subst hu
      exact (hself r hr).2
    · exact hs.unknown u r ((hw.frame hu).2.symm.trans hr)

/-- A call that writes and returns a result with the state of the transaction
    it writes keeps the service coherent, and reports truthfully. -/
theorem Coherent.of_both {s : PaymentExecutionService} (hs : Coherent s) {t : String}
    {tx : Transaction} {res : ExecutionResult} (audit : List ExecutionAuditEvidence)
    (hstate : res.state = tx.state) (hid : res.transactionId = t)
    (hunknown : res.providerStatus = some .unknown → res.state = .executing) :
    Coherent
        { s with
          transactions := s.transactions.set t tx
          results := s.results.set t res
          auditEvents := audit }
      ∧ ∀ r tx', (.ok res : Except PyError ExecutionResult) = .ok r →
        (s.transactions.set t tx).get r.transactionId = some tx' → r.state = tx'.state := by
  refine ⟨hs.of_writes (.both tx res audit) ?_ ?_, ?_⟩
  · intro tx' r htx hr
    rw [get_set_self, Option.some.injEq] at htx hr
    rw [← htx, ← hr]
    exact hstate
  · intro r hr
    rw [get_set_self, Option.some.injEq] at hr
    rw [← hr]
    exact ⟨hid, hunknown⟩
  · intro r tx' hr htx
    obtain rfl := Except.ok.inj hr
    rw [hid, get_set_self, Option.some.injEq] at htx
    rw [← htx]
    exact hstate

/-- Storing a transaction that has no result yet keeps the service coherent. -/
theorem Coherent.of_uncached {s : PaymentExecutionService} (hs : Coherent s) {t : String}
    (hr : s.results.get t = none) (tx : Transaction) :
    Coherent { s with transactions := s.transactions.set t tx } := by
  refine hs.of_writes (.transaction tx) ?_ ?_
  · intro _ r _ hr'
    exact nomatch hr.symm.trans hr'
  · intro r hr'
    exact nomatch hr.symm.trans hr'

section Steps

variable {s s' : PaymentExecutionService} {adapter : RazorpayAdapter} {o : CallOutcome}

/-- A reconciliation keeps results and transactions together, if an answer
    that decides nothing meets an EXECUTING transaction. -/
theorem ReconcileEffect.reports {t : String} {ext : Option String}
    (h : ReconcileEffect s adapter t ext o s') (hs : Coherent s)
    (htruthful : ∀ tx st, s.transactions.get t = some tx →
      adapter.fetchPaymentStatus (providerRef tx ext) = .ok st → Undecided st →
        tx.state = .executing ∨ (tx.isTerminal = true ∧ s.results.contains t = true)) :
    Coherent s' ∧ ∀ r tx, o.result = .ok r →
      s'.transactions.get r.transactionId = some tx → r.state = tx.state := by
  cases h with
  | notFound htx hid =>
      refine ⟨hs, ?_⟩
      intro r tx hr htx'
      obtain rfl := Except.ok.inj hr
      rw [hid, htx] at htx'
      cases htx'
  | @cached tx₀ r₀ htx hterm hr₀ =>
      refine ⟨hs, ?_⟩
      intro r tx hr htx'
      obtain rfl := Except.ok.inj hr
      rw [hs.keyed t _ hr₀] at htx'
      exact hs.agrees t tx _ htx' hr₀
  | raised =>
      refine ⟨hs, ?_⟩
      intro r tx hr
      cases hr
  | settled _ _ _ _ _ hres hid hstatus =>
      exact hs.of_both _ hres hid fun hunknown => absurd hunknown hstatus
  | @undecided tx₀ st res htx hopen hanswer hundecided hres hid hstatus =>
      have hexec : tx₀.state = .executing := by
        rcases htruthful tx₀ st htx hanswer hundecided with hexec | ⟨hterm, hc⟩
        · exact hexec
        · rw [contains, hopen hterm] at hc
          cases hc
      refine ⟨hs.of_writes (.result res ((contains_iff ..).mpr ⟨tx₀, htx⟩)) ?_ ?_, ?_⟩
      · intro tx r htx' hr
        obtain rfl := Option.some.inj (htx.symm.trans htx')
        rw [get_set_self, Option.some.injEq] at hr
        rw [← hr, hres, hexec]
      · intro r hr
        rw [get_set_self, Option.some.injEq] at hr
        rw [← hr]
        exact ⟨hid, fun _ => hres⟩
      · intro r tx hr htx'
        obtain rfl := Except.ok.inj hr
        rw [hid] at htx'
        obtain rfl := Option.some.inj (htx.symm.trans htx')
        rw [hres, hexec]

variable {proposal : PaymentExecuteProposalRequest} {auth : AuthorizationResult}
  {tx : Transaction}

/-- An execution keeps results and transactions together, if a rejected
    snapshot can follow to REJECTED. -/
theorem ExecuteEffect.reports (h : ExecuteEffect s adapter proposal auth tx o s')
    (hs : Coherent s)
    (htruthful : s.results.get tx.transactionId = none →
      (∃ rej, executionGate proposal auth tx = .ok (some rej)) →
        tx.state = .validating ∨ tx.state = .rejected) :
    Coherent s' ∧ ∀ r tx', o.result = .ok r →
      s'.transactions.get r.transactionId = some tx' → r.state = tx'.state := by
  cases h with
  | @replayed r₀ hr₀ =>
      refine ⟨hs, ?_⟩
      intro r tx' hr htx'
      obtain rfl := Except.ok.inj hr
      have hid : r₀.replay.transactionId = tx.transactionId := hs.keyed _ r₀ hr₀
      rw [hid] at htx'
      exact hs.agrees _ tx' r₀ htx' hr₀
  | @reconciled r₀ _ _ hr₀ hunknown h =>
      refine h.reports hs ?_
      intro tx₀ st htx₀ _ _
      -- an UNKNOWN result is of an EXECUTING transaction
      exact Or.inl ((hs.agrees _ tx₀ r₀ htx₀ hr₀).symm.trans (hs.unknown _ r₀ hr₀ hunknown))
  | @refused rej tx' res hr hgate hmoved hkept hres hid hstatus =>
      have hstate : tx'.state = .rejected := hmoved (htruthful hr ⟨rej, hgate⟩)
      refine hs.of_both _ (hres.trans hstate.symm) hid ?_
      rw [hstatus]
      exact nofun
  | unprintable hr => exact ⟨hs.of_uncached hr tx, fun _ _ hr' => nomatch hr'⟩
  | ambiguous hr => exact ⟨hs.of_uncached hr _, fun _ _ hr' => nomatch hr'⟩
  | answered _ _ _ _ hfinal hid hstatus =>
      refine hs.of_both _ hfinal hid ?_
      intro hunknown
      rcases hstatus with ⟨hexec, -⟩ | ⟨-, hknown⟩
      · exact hfinal.trans hexec
      · exact absurd hunknown hknown

/-- A reconciliation after which results and transactions agree met an
    EXECUTING transaction if the answer decided nothing. -/
theorem ReconcileEffect.truthful {t : String} {ext : Option String}
    (h : ReconcileEffect s adapter t ext o s') (hagrees : Agrees s') {tx : Transaction}
    {st : ExecutionResult} (htx : s.transactions.get t = some tx)
    (hanswer : adapter.fetchPaymentStatus (providerRef tx ext) = .ok st)
    (hundecided : Undecided st) :
    tx.state = .executing ∨ (tx.isTerminal = true ∧ s.results.contains t = true) := by
  cases h with
  | notFound htx' => exact nomatch htx.symm.trans htx'
  | cached htx' hterm hr =>
      obtain rfl := Option.some.inj (htx.symm.trans htx')
      exact Or.inr ⟨hterm, (contains_iff ..).mpr ⟨_, hr⟩⟩
  | raised htx' _ hdecided =>
      obtain rfl := Option.some.inj (htx.symm.trans htx')
      exact absurd hundecided (hdecided st hanswer).1
  | settled htx' _ hanswer' hdecided =>
      obtain rfl := Option.some.inj (htx.symm.trans htx')
      obtain rfl := Except.ok.inj (hanswer.symm.trans hanswer')
      exact absurd hundecided hdecided
  | undecided _ _ _ _ hres =>
      exact Or.inl ((hagrees t tx _ htx (get_set_self ..)).symm.trans hres)

/-- A rejected execution after which results and transactions agree had a
    snapshot that can follow to REJECTED. -/
theorem ExecuteEffect.truthful (h : ExecuteEffect s adapter proposal auth tx o s')
    (hagrees : Agrees s') (hr : s.results.get tx.transactionId = none) {rej : Rejection}
    (hgate : executionGate proposal auth tx = .ok (some rej)) :
    tx.state = .validating ∨ tx.state = .rejected := by
  cases h with
  | replayed hr' => exact nomatch hr.symm.trans hr'
  | reconciled hr' => exact nomatch hr.symm.trans hr'
  | unprintable _ hgate' => exact nomatch hgate.symm.trans hgate'
  | ambiguous _ hgate' => exact nomatch hgate.symm.trans hgate'
  | answered _ hgate' => exact nomatch hgate.symm.trans hgate'
  | @refused rej' tx' res _ _ hmoved hkept hres =>
      by_cases hfollows : tx.state = .validating ∨ tx.state = .rejected
      · exact hfollows
      · -- the snapshot stayed as it was, under a result in state REJECTED
        have hstate := hagrees _ tx' res (get_set_self ..) (get_set_self ..)
        rw [hkept hfollows, hres] at hstate
        exact Or.inr hstate.symm

end Steps

/-- **One step reports the stored state exactly when its call is truthful.** -/
theorem reportsState_iff (s : PaymentExecutionService) (c : PayCall) (hs : Coherent s) :
    ReportsState (stepAt pay s c) ↔ Truthful (stepAt pay s c) := by
  cases c with
  | execute env adapter proposal auth tx =>
      have heff := execute_effect s env adapter proposal auth tx
      constructor
      · rintro ⟨hagrees, -⟩ hr ⟨rej, hgate⟩
        exact heff.truthful hagrees hr hgate
      · intro htruthful
        obtain ⟨hcoherent, hreturned⟩ := heff.reports hs htruthful
        exact ⟨hcoherent.agrees, hreturned⟩
  | reconcile env adapter t ext =>
      have heff := reconcile_effect s env adapter t ext
      constructor
      · rintro ⟨hagrees, -⟩ tx st htx hanswer hundecided
        exact heff.truthful hagrees htx hanswer hundecided
      · intro htruthful
        obtain ⟨hcoherent, hreturned⟩ := heff.reports hs htruthful
        exact ⟨hcoherent.agrees, hreturned⟩

/-- **Over a run, results and stored transactions agree exactly when its calls
    are truthful.** -/
theorem run_agrees_iff (calls : List PayCall) :
    (∀ c ∈ steps pay new calls, ReportsState c) ↔ ∀ c ∈ steps pay new calls, Truthful c := by
  refine forall_steps_iff (I := Coherent) reportsState_iff ?_ new_coherent calls
  intro s c hs htruthful
  cases c with
  | execute env adapter proposal auth tx =>
      exact ((execute_effect s env adapter proposal auth tx).reports hs htruthful).1
  | reconcile env adapter t ext =>
      exact ((reconcile_effect s env adapter t ext).reports hs htruthful).1

/-- The sample purchase, with another merchant in the proposal. -/
def wrongMerchant : PayCall :=
  .execute Sample.env (Sample.answering true .success)
    { Sample.proposal with merchantId := "merchant-2" } Sample.authorization
    Sample.transaction

/-- A rejected execution reports REJECTED of a transaction that stays
    AUTHORIZED. -/
theorem wrongMerchant_disagrees :
    ¬ (∀ c ∈ steps pay new [wrongMerchant], ReportsState c)
    ∧ ((exec pay new [wrongMerchant]).results.get "tx-1").map ExecutionResult.state
        = some .rejected
    ∧ ((exec pay new [wrongMerchant]).transactions.get "tx-1").map Transaction.state
        = some .authorized := by
  refine ⟨?_, rfl, rfl⟩
  intro h
  obtain ⟨hagrees, -⟩ := h (stepAt pay new wrongMerchant) List.mem_cons_self
  exact absurd (hagrees "tx-1" _ _ rfl rfl) (by decide)

end PaymentExecutionService

end MandateGateway
