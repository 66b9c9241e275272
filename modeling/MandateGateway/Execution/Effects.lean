import MandateGateway.Execution.Service

/-! # What a payment call does

    Each call on the service either answers from the cache, changes the stored
    transaction and result of its own transaction, or raises.  The two
    inversion lemmas `reconcile_effect` and `execute_effect` say which, with
    the condition on the inputs under which each happens; the claims about
    runs use them and never look at the two functions again. -/

namespace MandateGateway

open Clock OrderedMap

/-! ## Transitions of an execution -/

theorem commitTransaction_of_executing {tx : Transaction} (h : tx.state = .executing)
    (now : Instant) (orderId : Option String) :
    ∃ tx', commitTransaction now tx orderId = .ok tx' ∧ tx'.state = .committed
      ∧ tx'.transactionId = tx.transactionId := by
  have hfit : TransitionUpdates.Fits { razorpayOrderId := orderId } tx .success :=
    ⟨by rw [h]; decide, ⟨nofun, nofun⟩⟩
  let tx₁ := tx.advance now .success { razorpayOrderId := orderId } hfit
  have h₁ : transitionTransaction now tx .success { razorpayOrderId := orderId } = .ok tx₁ :=
    transitionTransaction_eq_ok_iff.mpr ⟨hfit, rfl⟩
  have hfit' : TransitionUpdates.Fits {} tx₁ .committed :=
    ⟨List.mem_singleton_self _, ⟨nofun, nofun⟩⟩
  refine ⟨tx₁.advance now .committed {} hfit', ?_, rfl, rfl⟩
  rw [commitTransaction, h₁]
  exact transitionTransaction_eq_ok_iff.mpr ⟨hfit', rfl⟩

theorem commitTransaction_of_ne {tx : Transaction} (h : tx.state ≠ .executing)
    (now : Instant) (orderId : Option String) :
    ∃ err, commitTransaction now tx orderId = .error err := by
  have hillegal : TransactionState.success ∉ tx.state.legalNextStates := by
    cases hs : tx.state with
    | executing => exact absurd hs h
    | _ => decide
  obtain ⟨err, herr⟩ := transitionTransaction_of_not_legal hillegal now
    { razorpayOrderId := orderId }
  exact ⟨err, by rw [commitTransaction, herr]⟩

theorem rollBackTransaction_of_executing {tx : Transaction} (h : tx.state = .executing)
    (now : Instant) :
    ∃ tx', rollBackTransaction now tx = .ok tx' ∧ tx'.state = .rolledBack
      ∧ tx'.transactionId = tx.transactionId := by
  have hfit : TransitionUpdates.Fits {} tx .failure := ⟨by rw [h]; decide, ⟨nofun, nofun⟩⟩
  let tx₁ := tx.advance now .failure {} hfit
  have h₁ : transitionTransaction now tx .failure {} = .ok tx₁ :=
    transitionTransaction_eq_ok_iff.mpr ⟨hfit, rfl⟩
  have hfit' : TransitionUpdates.Fits {} tx₁ .rolledBack :=
    ⟨List.mem_singleton_self _, ⟨nofun, nofun⟩⟩
  refine ⟨tx₁.advance now .rolledBack {} hfit', ?_, rfl, rfl⟩
  rw [rollBackTransaction, h₁]
  exact transitionTransaction_eq_ok_iff.mpr ⟨hfit', rfl⟩

theorem rollBackTransaction_of_ne {tx : Transaction} (h : tx.state ≠ .executing)
    (now : Instant) : ∃ err, rollBackTransaction now tx = .error err := by
  have hillegal : TransactionState.failure ∉ tx.state.legalNextStates := by
    cases hs : tx.state with
    | executing => exact absurd hs h
    | _ => decide
  obtain ⟨err, herr⟩ := transitionTransaction_of_not_legal hillegal now {}
  exact ⟨err, by rw [rollBackTransaction, herr]⟩

/-! ## Reconciliation -/

/-- An answer that leaves the payment open: pending, unknown or no status. -/
def Undecided (status : ExecutionResult) : Prop :=
  status.providerStatus ≠ some .success ∧ status.providerStatus ≠ some .failed
    ∧ status.providerStatus ≠ some .expired

namespace PaymentExecutionService

/-- What a reconciliation of transaction `t` does. -/
inductive ReconcileEffect (s : PaymentExecutionService) (adapter : RazorpayAdapter)
    (t : String) (ext : Option String) : CallOutcome → PaymentExecutionService → Prop
  | notFound {res : ExecutionResult} (htx : s.transactions.get t = none)
      (hid : res.transactionId = t) :
      ReconcileEffect s adapter t ext ⟨.ok res, none, none⟩ s
  | cached {tx : Transaction} {r : ExecutionResult} (htx : s.transactions.get t = some tx)
      (hterm : tx.isTerminal = true) (hr : s.results.get t = some r) :
      ReconcileEffect s adapter t ext ⟨.ok r, none, none⟩ s
  /-- the provider raises, or decides a transaction that is not EXECUTING -/
  | raised {tx : Transaction} {err : PyError} (htx : s.transactions.get t = some tx)
      (hopen : tx.isTerminal = true → s.results.get t = none)
      (hanswer : ∀ st, adapter.fetchPaymentStatus (providerRef tx ext) = .ok st →
        ¬ Undecided st ∧ tx.state ≠ .executing) :
      ReconcileEffect s adapter t ext ⟨.error err, none, some (providerRef tx ext)⟩ s
  | settled {tx tx' : Transaction} {st res : ExecutionResult}
      (htx : s.transactions.get t = some tx) (hstate : tx.state = .executing)
      (hanswer : adapter.fetchPaymentStatus (providerRef tx ext) = .ok st)
      (hdecided : ¬ Undecided st) (hstate' : tx'.state = .committed ∨ tx'.state = .rolledBack)
      (hres : res.state = tx'.state) (hid : res.transactionId = t)
      (hstatus : res.providerStatus ≠ some .unknown) :
      ReconcileEffect s adapter t ext ⟨.ok res, none, some (providerRef tx ext)⟩
        { s with
          transactions := s.transactions.set t tx'
          results := s.results.set t res }
  | undecided {tx : Transaction} {st res : ExecutionResult}
      (htx : s.transactions.get t = some tx)
      (hopen : tx.isTerminal = true → s.results.get t = none)
      (hanswer : adapter.fetchPaymentStatus (providerRef tx ext) = .ok st)
      (hundecided : Undecided st) (hres : res.state = .executing)
      (hid : res.transactionId = t) (hstatus : res.providerStatus = some .unknown) :
      ReconcileEffect s adapter t ext ⟨.ok res, none, some (providerRef tx ext)⟩
        { s with results := s.results.set t res }

variable (s : PaymentExecutionService)

theorem reconcile_effect (env : Ambient) (adapter : RazorpayAdapter) (t : String)
    (ext : Option String) :
    ReconcileEffect s adapter t ext (s.reconcilePaymentStatus env adapter t ext).1
      (s.reconcilePaymentStatus env adapter t ext).2 := by
  rw [reconcilePaymentStatus]
  cases htx : s.transactions.get t with
  | none => exact .notFound htx rfl
  | some tx =>
      dsimp only
      -- a terminal transaction is answered from the cache, if that has a result
      cases hc : (if tx.isTerminal then s.results.get t else none) with
      | some r =>
          by_cases hterm : tx.isTerminal = true
          · rw [if_pos hterm] at hc
            exact .cached htx hterm hc
          · rw [if_neg hterm] at hc
            cases hc
      | none =>
          have hopen : tx.isTerminal = true → s.results.get t = none := by
            intro hterm
            rw [if_pos hterm] at hc
            exact hc
          cases hfetch : adapter.fetchPaymentStatus (providerRef tx ext) with
          | error err =>
              exact .raised htx hopen fun st hst => by rw [hfetch] at hst; cases hst
          | ok st =>
              dsimp only
              -- a decided answer is refused by every state but EXECUTING
              have hrefused : ¬ Undecided st → tx.state ≠ .executing → ∀ err,
                  ReconcileEffect s adapter t ext
                    ⟨.error err, none, some (providerRef tx ext)⟩ s := by
                intro hdecided hstate err
                refine .raised htx hopen fun st' hst' => ⟨?_, hstate⟩
                rw [hfetch, Except.ok.injEq] at hst'
                rw [← hst']
                exact hdecided
              by_cases hsuccess : st.providerStatus = some .success
              · have hdecided : ¬ Undecided st := fun hu => hu.1 hsuccess
                simp only [if_pos hsuccess]
                by_cases hstate : tx.state = .executing
                · obtain ⟨tx', hcommit, hstate', -⟩ :=
                    commitTransaction_of_executing hstate env.now (some (providerRef tx ext))
                  simp only [hcommit]
                  exact .settled htx hstate hfetch hdecided (Or.inl hstate') hstate'.symm rfl
                    nofun
                · obtain ⟨err, hcommit⟩ :=
                    commitTransaction_of_ne hstate env.now (some (providerRef tx ext))
                  simp only [hcommit]
                  exact hrefused hdecided hstate err
              simp only [if_neg hsuccess]
              by_cases hfailed : st.providerStatus = some .failed
                  ∨ st.providerStatus = some .expired
              · have hdecided : ¬ Undecided st := by
                  rintro ⟨-, hf, he⟩
                  rcases hfailed with h | h
                  · exact hf h
                  · exact he h
                simp only [if_pos hfailed]
                by_cases hstate : tx.state = .executing
                · obtain ⟨tx', hroll, hstate', -⟩ :=
                    rollBackTransaction_of_executing hstate env.now
                  simp only [hroll]
                  exact .settled htx hstate hfetch hdecided (Or.inr hstate') hstate'.symm rfl
                    nofun
                · obtain ⟨err, hroll⟩ := rollBackTransaction_of_ne hstate env.now
                  simp only [hroll]
                  exact hrefused hdecided hstate err
              · simp only [if_neg hfailed]
                exact .undecided htx hopen hfetch
                  ⟨hsuccess, fun h => hfailed (Or.inl h), fun h => hfailed (Or.inr h)⟩ rfl rfl rfl

end PaymentExecutionService

/-! ## Execution -/

/-- The checks of an execution in their order: the first that fails rejects. -/
def executionGate (proposal : PaymentExecuteProposalRequest) (auth : AuthorizationResult)
    (tx : Transaction) : Except PyError (Option Rejection) :=
  match verifyPreExecutionAuth auth with
  | some rej => .ok (some rej)
  | none =>
      match verifyContextAndOperation proposal tx with
      | .error err => .error err
      | .ok (some rej) => .ok (some rej)
      | .ok none => .ok (if tx.isExecutable then none else some (notExecutable tx))

/-- `executingTx` is `tx` claimed for execution. -/
structure ClaimOf (tx executingTx : Transaction) : Prop where
  executing     : executingTx.state = .executing
  transactionId : executingTx.transactionId = tx.transactionId
  merchantId    : executingTx.merchantId = tx.merchantId
  buyerId       : executingTx.buyerId = tx.buyerId
  mandateId     : executingTx.mandateId = tx.mandateId
  amountPaise   : executingTx.amountPaise = tx.amountPaise
  currency      : executingTx.currency = tx.currency

theorem claim_of_executable {tx : Transaction} (h : tx.isExecutable = true) (now : Instant) :
    ∃ executingTx, transitionTransaction now tx .executing {} = .ok executingTx
      ∧ ClaimOf tx executingTx := by
  have hstate : tx.state = .authorized := eq_of_beq h
  have hfit : TransitionUpdates.Fits {} tx .executing := ⟨by rw [hstate]; decide, ⟨nofun, nofun⟩⟩
  exact ⟨tx.advance now .executing {} hfit,
    transitionTransaction_eq_ok_iff.mpr ⟨hfit, rfl⟩, rfl, rfl, rfl, rfl, rfl, rfl, rfl⟩

/-- **Every answer of the provider has a verdict**, whose result carries the
    state of its transaction. -/
theorem providerVerdict_of_executing {executingTx : Transaction}
    (h : executingTx.state = .executing) (now : Instant) (answer : ExecutionResult) :
    ∃ finalTx final, providerVerdict now executingTx answer = .ok (finalTx, final)
      ∧ finalTx.transactionId = executingTx.transactionId
      ∧ final.transactionId = executingTx.transactionId ∧ final.state = finalTx.state
      ∧ ((finalTx.state = .executing ∧ final.providerStatus = some .unknown)
        ∨ ((finalTx.state = .committed ∨ finalTx.state = .rolledBack)
          ∧ final.providerStatus ≠ some .unknown)) := by
  rw [providerVerdict]
  by_cases hsuccess : answer.success = true
  · obtain ⟨tx', hcommit, hstate, hid⟩ :=
      commitTransaction_of_executing h now answer.externalReference
    simp only [if_pos hsuccess, hcommit]
    exact ⟨tx', _, rfl, hid, hid, hstate.symm, Or.inr ⟨Or.inl hstate, nofun⟩⟩
  simp only [if_neg hsuccess]
  by_cases hunknown : answer.providerStatus = some .unknown
  · simp only [if_pos hunknown]
    exact ⟨executingTx, _, rfl, rfl, rfl, h.symm, Or.inl ⟨h, rfl⟩⟩
  · obtain ⟨tx', hroll, hstate, hid⟩ := rollBackTransaction_of_executing h now
    simp only [if_neg hunknown, hroll]
    refine ⟨tx', _, rfl, hid, hid, hstate.symm, Or.inr ⟨Or.inr hstate, ?_⟩⟩
    cases hs : answer.providerStatus with
    | none => exact nofun
    | some st =>
        rw [hs] at hunknown
        exact hunknown

namespace PaymentExecutionService

/-- What an execution of transaction snapshot `tx` does. -/
inductive ExecuteEffect (s : PaymentExecutionService) (adapter : RazorpayAdapter)
    (proposal : PaymentExecuteProposalRequest) (auth : AuthorizationResult)
    (tx : Transaction) : CallOutcome → PaymentExecutionService → Prop
  | replayed {r : ExecutionResult} (hr : s.results.get tx.transactionId = some r)
      (hknown : r.providerStatus ≠ some .unknown) :
      ExecuteEffect s adapter proposal auth tx ⟨.ok r.replay, none, none⟩ s
  | reconciled {r : ExecutionResult} {o : CallOutcome} {s' : PaymentExecutionService}
      (hr : s.results.get tx.transactionId = some r)
      (hunknown : r.providerStatus = some .unknown)
      (h : ReconcileEffect s adapter tx.transactionId none o s') :
      ExecuteEffect s adapter proposal auth tx o s'
  /-- only a snapshot in VALIDATING follows its rejection -/
  | refused {rej : Rejection} {tx' : Transaction} {res : ExecutionResult}
      (hr : s.results.get tx.transactionId = none)
      (hgate : executionGate proposal auth tx = .ok (some rej))
      (hmoved : tx.state = .validating ∨ tx.state = .rejected → tx'.state = .rejected)
      (hkept : ¬ (tx.state = .validating ∨ tx.state = .rejected) → tx' = tx)
      (hres : res.state = .rejected) (hid : res.transactionId = tx.transactionId)
      (hstatus : res.providerStatus = some .failed) :
      ExecuteEffect s adapter proposal auth tx ⟨.ok res, none, none⟩
        { s with
          transactions := s.transactions.set tx.transactionId tx'
          results := s.results.set tx.transactionId res }
  /-- the snapshot is stored, and then a check raises -/
  | unprintable {err : PyError} (hr : s.results.get tx.transactionId = none)
      (hgate : executionGate proposal auth tx = .error err) :
      ExecuteEffect s adapter proposal auth tx ⟨.error err, none, none⟩
        (s.registerTransaction tx)
  | ambiguous {executingTx : Transaction} {err : PyError}
      (hr : s.results.get tx.transactionId = none)
      (hgate : executionGate proposal auth tx = .ok none) (hclaim : ClaimOf tx executingTx)
      (hanswer : adapter.executePayment (trustedRequest proposal auth executingTx)
        = .error err) :
      ExecuteEffect s adapter proposal auth tx
        ⟨.error err, some (trustedRequest proposal auth executingTx), none⟩
        { s with transactions := s.transactions.set tx.transactionId executingTx }
  | answered {executingTx finalTx : Transaction} {answer final : ExecutionResult}
      {audit : List ExecutionAuditEvidence}
      (hr : s.results.get tx.transactionId = none)
      (hgate : executionGate proposal auth tx = .ok none) (hclaim : ClaimOf tx executingTx)
      (hanswer : adapter.executePayment (trustedRequest proposal auth executingTx)
        = .ok answer)
      (hfinal : final.state = finalTx.state) (hid : final.transactionId = tx.transactionId)
      (hstatus : (finalTx.state = .executing ∧ final.providerStatus = some .unknown)
        ∨ ((finalTx.state = .committed ∨ finalTx.state = .rolledBack)
          ∧ final.providerStatus ≠ some .unknown)) :
      ExecuteEffect s adapter proposal auth tx
        ⟨.ok final, some (trustedRequest proposal auth executingTx), none⟩
        { s with
          transactions := s.transactions.set tx.transactionId finalTx
          results := s.results.set tx.transactionId final
          auditEvents := audit }

variable (s : PaymentExecutionService)

variable {proposal : PaymentExecuteProposalRequest} {auth : AuthorizationResult} {tx : Transaction}

theorem rejected_effect (env : Ambient) {adapter : RazorpayAdapter} {rej : Rejection}
    (hr : s.results.get tx.transactionId = none)
    (hgate : executionGate proposal auth tx = .ok (some rej)) :
    ExecuteEffect s adapter proposal auth tx ((s.registerTransaction tx).rejected env tx rej).1
      ((s.registerTransaction tx).rejected env tx rej).2 := by
  rw [rejected, rejectExecution]
  by_cases hrejected : tx.state = .rejected
  · simp only [if_pos hrejected]
    exact .refused hr hgate (fun _ => hrejected) (fun hn => absurd (Or.inr hrejected) hn) rfl
      rfl rfl
  simp only [if_neg hrejected]
  -- VALIDATING is the one state that may be followed by REJECTED
  by_cases hvalidating : tx.state = .validating
  · let u : TransitionUpdates :=
      { rejectionReason := some rej.reason, rejectionDetail := some rej.message }
    have hfit : u.Fits tx .rejected :=
      ⟨by rw [hvalidating]; decide, ⟨fun _ => rfl, fun _ => rfl⟩⟩
    have hstep : transitionTransaction env.now tx .rejected u
        = .ok (tx.advance env.now .rejected u hfit) :=
      transitionTransaction_eq_ok_iff.mpr ⟨hfit, rfl⟩
    simp only [hstep, registerTransaction, set_set, u]
    exact .refused hr hgate (fun _ => rfl) (fun hn => absurd (Or.inl hvalidating) hn) rfl rfl rfl
  · have hillegal : TransactionState.rejected ∉ tx.state.legalNextStates := by
      cases hs : tx.state with
      | validating => exact absurd hs hvalidating
      | _ => decide
    obtain ⟨err, herr⟩ := transitionTransaction_of_not_legal hillegal env.now
      { rejectionReason := some rej.reason, rejectionDetail := some rej.message }
    -- the exception is swallowed, and the snapshot stays stored as it came
    simp only [herr]
    refine .refused hr hgate ?_ (fun _ => rfl) rfl rfl rfl
    rintro (h | h)
    · exact absurd h hvalidating
    · exact absurd h hrejected

theorem invokeProvider_effect (env : Ambient) {adapter : RazorpayAdapter}
    {tx executingTx : Transaction} (hr : s.results.get tx.transactionId = none)
    (hgate : executionGate proposal auth tx = .ok none) (hclaim : ClaimOf tx executingTx) :
    ExecuteEffect s adapter proposal auth tx
      ((s.registerTransaction tx).invokeProvider env adapter proposal auth tx executingTx).1
      ((s.registerTransaction tx).invokeProvider env adapter proposal auth tx executingTx).2 := by
  rw [invokeProvider]
  simp only [registerTransaction, hclaim.transactionId, set_set]
  cases hanswer : adapter.executePayment (trustedRequest proposal auth executingTx) with
  | error err => exact .ambiguous hr hgate hclaim hanswer
  | ok answer =>
      obtain ⟨finalTx, final, hverdict, hid, hid', hfinal, hstatus⟩ :=
        providerVerdict_of_executing hclaim.executing env.now answer
      simp only [hverdict, hid, hclaim.transactionId, set_set]
      exact .answered hr hgate hclaim hanswer hfinal (hid'.trans hclaim.transactionId) hstatus

theorem executable_of_gate (h : executionGate proposal auth tx = .ok none) :
    tx.isExecutable = true := by
  rw [executionGate] at h
  cases hauth : verifyPreExecutionAuth auth with
  | some rej =>
      rw [hauth] at h
      cases h
  | none =>
      cases hctx : verifyContextAndOperation proposal tx with
      | error err =>
          rw [hauth, hctx] at h
          cases h
      | ok verdict =>
          rw [hauth, hctx] at h
          cases verdict with
          | some rej => cases h
          | none =>
              by_contra hnot
              simp only [if_neg hnot] at h
              cases h

/-- **Without a cached result the gate decides**, and behind it the claim. -/
theorem executePayment_of_uncached (env : Ambient) (adapter : RazorpayAdapter)
    (proposal : PaymentExecuteProposalRequest) (auth : AuthorizationResult)
    (hr : s.results.get tx.transactionId = none) :
    s.executePayment env adapter proposal auth tx
      = match executionGate proposal auth tx with
        | .error err => (⟨.error err, none, none⟩, s.registerTransaction tx)
        | .ok (some rej) => (s.registerTransaction tx).rejected env tx rej
        | .ok none =>
            match transitionTransaction env.now tx .executing {} with
            | .error err =>
                (s.registerTransaction tx).rejected env tx ⟨.invalidTransactionState,
                  .invalidContext, s!"Failed to claim EXECUTING state: {err.text}"⟩
            | .ok executingTx =>
                (s.registerTransaction tx).invokeProvider env adapter proposal auth tx
                  executingTx := by
  rw [executePayment, hr, executionGate]
  dsimp only
  cases verifyPreExecutionAuth auth with
  | some rej => rfl
  | none =>
      dsimp only
      cases verifyContextAndOperation proposal tx with
      | error err => rfl
      | ok verdict =>
          cases verdict with
          | some rej => rfl
          | none =>
              dsimp only
              by_cases hexec : tx.isExecutable = false
              · rewrite [if_pos hexec, hexec]
                rfl
              · have hexec' : tx.isExecutable = true := Bool.not_eq_false _ ▸ hexec
                rewrite [if_neg hexec, if_pos hexec']
                rfl

theorem executePayment_of_gate (env : Ambient) (adapter : RazorpayAdapter)
    (hr : s.results.get tx.transactionId = none)
    (hgate : executionGate proposal auth tx = .ok none) :
    ∃ executingTx, ClaimOf tx executingTx
      ∧ s.executePayment env adapter proposal auth tx
        = (s.registerTransaction tx).invokeProvider env adapter proposal auth tx executingTx := by
  obtain ⟨executingTx, hclaim, hclaimOf⟩ := claim_of_executable (executable_of_gate hgate) env.now
  refine ⟨executingTx, hclaimOf, ?_⟩
  rw [executePayment_of_uncached s env adapter proposal auth hr, hgate]
  dsimp only
  rw [hclaim]

theorem execute_effect (env : Ambient) (adapter : RazorpayAdapter)
    (proposal : PaymentExecuteProposalRequest) (auth : AuthorizationResult)
    (tx : Transaction) :
    ExecuteEffect s adapter proposal auth tx
      (s.executePayment env adapter proposal auth tx).1
      (s.executePayment env adapter proposal auth tx).2 := by
  cases hr : s.results.get tx.transactionId with
  | some r =>
      rw [executePayment, hr]
      by_cases hunknown : r.providerStatus = some .unknown
      · simp only [if_pos hunknown]
        exact .reconciled hr hunknown (reconcile_effect s env adapter tx.transactionId none)
      · simp only [if_neg hunknown]
        exact .replayed hr hunknown
  | none =>
      cases hgate : executionGate proposal auth tx with
      | error err =>
          rw [executePayment_of_uncached s env adapter proposal auth hr, hgate]
          exact .unprintable hr hgate
      | ok verdict =>
          cases verdict with
          | some rej =>
              rw [executePayment_of_uncached s env adapter proposal auth hr, hgate]
              exact rejected_effect s env hr hgate
          | none =>
              obtain ⟨executingTx, hclaimOf, hrun⟩ := executePayment_of_gate s env adapter hr hgate
              rw [hrun]
              exact invokeProvider_effect s env hr hgate hclaimOf

/-- With a cached result an execution replays it, or reconciles when it is
    UNKNOWN. -/
theorem ExecuteEffect.of_cached {s s' : PaymentExecutionService} {adapter : RazorpayAdapter}
    {o : CallOutcome} {r : ExecutionResult} (h : ExecuteEffect s adapter proposal auth tx o s')
    (hr : s.results.get tx.transactionId = some r) :
    (r.providerStatus ≠ some .unknown ∧ o = ⟨.ok r.replay, none, none⟩ ∧ s' = s)
      ∨ (r.providerStatus = some .unknown
        ∧ ReconcileEffect s adapter tx.transactionId none o s') := by
  cases h with
  | replayed hr' hknown =>
      obtain rfl := Option.some.inj (hr.symm.trans hr')
      exact Or.inl ⟨hknown, rfl, rfl⟩
  | reconciled hr' hunknown h =>
      obtain rfl := Option.some.inj (hr.symm.trans hr')
      exact Or.inr ⟨hunknown, h⟩
  | refused hnone => exact nomatch hr.symm.trans hnone
  | unprintable hnone => exact nomatch hr.symm.trans hnone
  | ambiguous hnone => exact nomatch hr.symm.trans hnone
  | answered hnone => exact nomatch hr.symm.trans hnone

/-! ## What a call writes -/

/-- The writes of a call on transaction `t`: at most its stored transaction
    and its cached result, the latter only for a stored transaction. -/
inductive Writes (s : PaymentExecutionService) (t : String) : PaymentExecutionService → Prop
  | nothing : Writes s t s
  | transaction (tx : Transaction) :
      Writes s t { s with transactions := s.transactions.set t tx }
  | result (r : ExecutionResult) (hstored : s.transactions.contains t = true) :
      Writes s t { s with results := s.results.set t r }
  | both (tx : Transaction) (r : ExecutionResult) (audit : List ExecutionAuditEvidence) :
      Writes s t
        { s with
          transactions := s.transactions.set t tx
          results := s.results.set t r
          auditEvents := audit }

section Writes

variable {s s' : PaymentExecutionService} {adapter : RazorpayAdapter} {o : CallOutcome}

theorem ReconcileEffect.writes {t : String} {ext : Option String}
    (h : ReconcileEffect s adapter t ext o s') : Writes s t s' := by
  cases h with
  | notFound => exact .nothing
  | cached => exact .nothing
  | raised => exact .nothing
  | settled => exact .both _ _ _
  | undecided htx => exact .result _ ((contains_iff ..).mpr ⟨_, htx⟩)

theorem ExecuteEffect.writes (h : ExecuteEffect s adapter proposal auth tx o s') :
    Writes s tx.transactionId s' := by
  cases h with
  | replayed => exact .nothing
  | reconciled _ _ h => exact h.writes
  | refused => exact .both _ _ _
  | unprintable => exact .transaction _
  | ambiguous => exact .transaction _
  | answered => exact .both _ _ _

/-- A payment call writes nothing but entries of its own transaction. -/
theorem pay_writes (s : PaymentExecutionService) (c : PayCall) :
    Writes s c.transactionId (s.pay c).2 := by
  cases c with
  | execute env adapter proposal auth tx =>
      exact (execute_effect s env adapter proposal auth tx).writes
  | reconcile env adapter t ext => exact (reconcile_effect s env adapter t ext).writes

variable {t u : String}

/-- **Frame**: the entries of other transactions are unchanged. -/
theorem Writes.frame (h : Writes s t s') (hu : u ≠ t) :
    s'.transactions.get u = s.transactions.get u ∧ s'.results.get u = s.results.get u := by
  cases h with
  | nothing => exact ⟨rfl, rfl⟩
  | transaction => exact ⟨get_set_of_ne _ hu _, rfl⟩
  | result => exact ⟨rfl, get_set_of_ne _ hu _⟩
  | both => exact ⟨get_set_of_ne _ hu _, get_set_of_ne _ hu _⟩

theorem Writes.contains_results (h : Writes s t s') (hu : s.results.contains u = true) :
    s'.results.contains u = true := by
  cases h with
  | nothing => exact hu
  | transaction => exact hu
  | result => exact contains_set hu
  | both => exact contains_set hu

theorem Writes.contains_transactions (h : Writes s t s')
    (hu : s.transactions.contains u = true) : s'.transactions.contains u = true := by
  cases h with
  | nothing => exact hu
  | transaction => exact contains_set hu
  | result => exact hu
  | both => exact contains_set hu

end Writes

/-- Every transaction with a cached result is stored. -/
def CachedStored (s : PaymentExecutionService) : Prop :=
  ∀ u, s.results.contains u = true → s.transactions.contains u = true

theorem new_cachedStored : CachedStored new := nofun

theorem Writes.cachedStored {s s' : PaymentExecutionService} {t : String}
    (h : Writes s t s') (hs : CachedStored s) : CachedStored s' := by
  intro u hu
  by_cases hut : u = t
  · subst hut
    cases h with
    | nothing => exact hs u hu
    | transaction => exact contains_set_self ..
    | result _ hstored => exact hstored
    | both => exact contains_set_self ..
  · rw [contains, (h.frame hut).2] at hu
    exact h.contains_transactions (hs u hu)

theorem call_contains_results (s : PaymentExecutionService) (c : ServiceCall) {u : String}
    (hu : s.results.contains u = true) : (s.call c).2.results.contains u = true := by
  cases c with
  | register tx => exact hu
  | pay c => exact (pay_writes s c).contains_results hu

theorem call_cachedStored (s : PaymentExecutionService) (c : ServiceCall)
    (hs : CachedStored s) : CachedStored (s.call c).2 := by
  cases c with
  | register tx => exact (Writes.transaction tx (t := tx.transactionId)).cachedStored hs
  | pay c => exact (pay_writes s c).cachedStored hs

end PaymentExecutionService

end MandateGateway
