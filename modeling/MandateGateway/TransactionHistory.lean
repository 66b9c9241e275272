import MandateGateway.Db.TransactionRepository
import MandateGateway.Lib.Lifecycle
import MandateGateway.Transaction

/-! # The history of a transaction

    Runs of the two functions that move a transaction: `transition_transaction`
    on the record in memory, and `transition_transaction_state` on the stored
    row.  Both follow the edges of the state machine, so both keep what the
    machine promises of a whole history. -/

namespace MandateGateway

open Exceptions Lifecycle Raising Runs

/-! ## The state machine as a lifecycle -/

/-- One edge of the state machine, between states that can be read. -/
inductive LegalMove : Option TransactionState → Option TransactionState → Prop where
  | edge {current target : TransactionState} (h : target ∈ current.legalNextStates) :
      LegalMove (some current) (some target)

/-- What the machine promises of the history of a transaction that starts as
    a draft. -/
structure KeepsLifecycle {σ α ο : Type} (f : σ → α → ο × σ)
    (status : σ → Option TransactionState) (s : σ) (calls : List α) : Prop where
  executingOnce :
    (steps f s calls).countP (enters status (some .executing)) ≤ 1
  executingFromAuthorized :
    ∀ c ∈ steps f s calls, enters status (some .executing) c = true →
      status c.pre = some .authorized
  settledAfterExecuting :
    ∀ l r, calls = l ++ r →
      status (exec f s l) = some .committed ∨ status (exec f s l) = some .rolledBack →
      some .executing ∈ history status s (steps f s l)
  notBoth :
    some .committed ∈ history status s (steps f s calls) →
      some .rolledBack ∉ history status s (steps f s calls)
  deadEndsKept :
    ∀ c ∈ steps f s calls, ∀ current, status c.pre = some current →
      current.legalNextStates = [] → status c.post = some current

namespace TransactionState

/-- How far along the machine a state is. -/
def depth : TransactionState → Nat
  | .draft | .expired | .consumed => 0
  | .proposed => 1
  | .validating => 2
  | .rejected | .stepUpRequired => 3
  | .userApproved => 4
  | .reserved => 5
  | .authorized => 6
  | .executing => 7
  | .success | .failure => 8
  | .committed | .rolledBack => 9
  | .completed => 10
  | .receipt => 11

theorem depth_lt_of_legal {s t : TransactionState} (h : t ∈ s.legalNextStates) :
    s.depth < t.depth := by
  have hall : ∀ t ∈ s.legalNextStates, s.depth < t.depth := by
    cases s <;> decide
  exact hall t h

/-- The states behind EXECUTING, and those behind each of the two outcomes. -/
def afterExecuting : List TransactionState :=
  [.success, .failure, .committed, .rolledBack, .completed, .receipt]

def afterCommit : List TransactionState := [.committed, .completed, .receipt]

def afterRollback : List TransactionState := [.rolledBack, .completed, .receipt]

theorem afterExecuting_gate {s t : TransactionState} (h : t ∈ s.legalNextStates)
    (ht : t ∈ afterExecuting) : s ∈ afterExecuting ∨ s = .executing := by
  have hall : ∀ t ∈ s.legalNextStates, t ∈ afterExecuting →
      s ∈ afterExecuting ∨ s = .executing := by
    cases s <;> decide
  exact hall t h ht

theorem afterCommit_closed {s t : TransactionState} (hs : s ∈ afterCommit)
    (h : t ∈ s.legalNextStates) : t ∈ afterCommit := by
  have hall : ∀ t ∈ s.legalNextStates, s ∈ afterCommit → t ∈ afterCommit := by
    cases s <;> decide
  exact hall t h hs

theorem afterRollback_closed {s t : TransactionState} (hs : s ∈ afterRollback)
    (h : t ∈ s.legalNextStates) : t ∈ afterRollback := by
  have hall : ∀ t ∈ s.legalNextStates, s ∈ afterRollback → t ∈ afterRollback := by
    cases s <;> decide
  exact hall t h hs

theorem executing_predecessor {s : TransactionState} (h : executing ∈ s.legalNextStates) :
    s = .authorized := by
  revert h
  cases s <;> decide

end TransactionState

def Among (l : List TransactionState) (o : Option TransactionState) : Prop :=
  ∃ s ∈ l, o = some s

section Histories

variable {σ α ο : Type} {f : σ → α → ο × σ} {status : σ → Option TransactionState}

theorem legalMove_depth (k l : Option TransactionState) (h : LegalMove k l) :
    (k.elim 0 TransactionState.depth) < l.elim 0 TransactionState.depth := by
  cases h with
  | edge hlegal => exact TransactionState.depth_lt_of_legal hlegal

theorem among_closed {region : List TransactionState}
    (hclosed : ∀ {s t : TransactionState}, s ∈ region → t ∈ s.legalNextStates → t ∈ region)
    (k l : Option TransactionState) (hk : Among region k) (h : LegalMove k l) :
    Among region l := by
  obtain ⟨s, hs, rfl⟩ := hk
  cases h with
  | edge hlegal => exact ⟨_, hclosed hs hlegal, rfl⟩

theorem among_afterExecuting_gate (k l : Option TransactionState) (h : LegalMove k l)
    (hl : Among TransactionState.afterExecuting l) :
    Among TransactionState.afterExecuting k ∨ k = some .executing := by
  cases h with
  | @edge current target hlegal =>
      obtain ⟨t, ht, heq⟩ := hl
      obtain rfl := Option.some.inj heq
      rcases TransactionState.afterExecuting_gate hlegal ht with hin | hgate
      · exact Or.inl ⟨current, hin, rfl⟩
      · exact Or.inr (congrArg some hgate)

/-- **Steps along the edges keep the lifecycle of a draft.** -/
theorem KeepsLifecycle.of_follows (hf : Follows f status LegalMove) {s : σ}
    (hstart : status s = some .draft) (calls : List α) : KeepsLifecycle f status s calls where
  executingOnce := hf.countP_enters_le_one legalMove_depth _ s calls
  executingFromAuthorized := by
    intro c hc henters
    obtain ⟨l, a, r, -, rfl⟩ := mem_steps_iff.mp hc
    have hmove := hf.next_of_enters henters
    rw [stepAt_pre]
    generalize status (exec f s l) = current at hmove
    cases hmove with
    | edge hlegal => exact congrArg some (TransactionState.executing_predecessor hlegal)
  settledAfterExecuting := by
    intro l r _ hsettled
    have hout : ¬ Among TransactionState.afterExecuting (status s) := by
      rw [hstart]
      rintro ⟨t, ht, heq⟩
      obtain rfl := Option.some.inj heq
      exact absurd ht (by decide)
    refine hf.gate_mem_history among_afterExecuting_gate hout ?_
    rcases hsettled with hc | hr
    · exact ⟨.committed, by decide, hc⟩
    · exact ⟨.rolledBack, by decide, hr⟩
  notBoth := by
    refine hf.not_both_in_history (R := Among TransactionState.afterCommit)
      (Q := Among TransactionState.afterRollback)
      (among_closed TransactionState.afterCommit_closed)
      (among_closed TransactionState.afterRollback_closed)
      ⟨.committed, by decide, rfl⟩ ⟨.rolledBack, by decide, rfl⟩ ?_ ?_ s calls
    · rintro ⟨t, ht, heq⟩
      obtain rfl := Option.some.inj heq
      exact absurd ht (by decide)
    · rintro ⟨t, ht, heq⟩
      obtain rfl := Option.some.inj heq
      exact absurd ht (by decide)
  deadEndsKept := by
    intro c hc current hpre hend
    obtain ⟨l, a, r, -, rfl⟩ := mem_steps_iff.mp hc
    rw [stepAt_pre] at hpre
    rw [stepAt_post, ← hpre]
    refine hf.never_left ?_
    intro k hmove
    rw [hpre] at hmove
    cases hmove with
    | edge hlegal =>
        rw [hend] at hlegal
        cases hlegal

end Histories

/-! ## The record in memory -/

/-- The arguments of one call of `transition_transaction`. -/
structure TransitionCall where
  now      : Clock.Instant
  newState : TransactionState
  updates  : TransitionUpdates

namespace TransitionCall

def step (tx : Transaction) (c : TransitionCall) : Except PyError Transaction × Transaction :=
  match transitionTransaction c.now tx c.newState c.updates with
  | .ok tx' => (.ok tx', tx')
  | .error err => (.error err, tx)

theorem step_of_ok {tx tx' : Transaction} {c : TransitionCall}
    (h : transitionTransaction c.now tx c.newState c.updates = .ok tx') :
    step tx c = (.ok tx', tx') := by
  rw [step, h]

theorem step_of_error {tx : Transaction} {c : TransitionCall} {err : PyError}
    (h : transitionTransaction c.now tx c.newState c.updates = .error err) :
    step tx c = (.error err, tx) := by
  rw [step, h]

theorem step_follows : Follows step (fun tx => some tx.state) LegalMove := by
  intro tx c
  cases h : transitionTransaction c.now tx c.newState c.updates with
  | error err =>
      rw [step_of_error h]
      exact Or.inl rfl
  | ok tx' =>
      obtain ⟨hfits, rfl⟩ := transitionTransaction_eq_ok_iff.mp h
      rw [step_of_ok h]
      exact Or.inr (LegalMove.edge hfits.legal)

theorem step_of_illegal {tx : Transaction} {c : TransitionCall}
    (h : c.newState ∉ tx.state.legalNextStates) :
    ∃ m, step tx c = (.error (.transactionStateError m), tx) :=
  ⟨_, step_of_error (dif_pos h)⟩

end TransitionCall

/-! ## The stored row -/

/-- The target of a transition: a member, or text that should name one. -/
inductive TargetState where
  | member (s : TransactionState)
  | text (t : String)
deriving DecidableEq, Repr

/-- `TransactionState(target_state)` of a text, and a member itself. -/
def TargetState.resolve : TargetState → Except PyError TransactionState
  | .member s => .ok s
  | .text t => parseState t

namespace TransactionRepository

/-- `transition_transaction_state`, of a target that may still be text. -/
def transitionTransactionStateTo (env : DbEnv) (transactionId : String)
    (target : TargetState) : DbAction Unit := do
  let row ← lockTransaction transactionId
  let _ ← ofExcept (parseState row.state)
  let targetEnum ← ofExcept target.resolve
  ofExcept (checkTransition row.state targetEnum)
  update env transactionId (setState targetEnum) (setState_transactionId targetEnum)

def storedState (t : String) (uow : UnitOfWork) : Option TransactionState :=
  (uow.session.transactions.get t).bind fun row => TransactionState.ofValue row.state

theorem storedState_eq_some_iff {t : String} {uow : UnitOfWork} {s : TransactionState} :
    storedState t uow = some s ↔ StoredIn t s uow := by
  rw [storedState, Option.bind_eq_some_iff, StoredIn]
  constructor
  · rintro ⟨row, hrow, hstate⟩
    exact ⟨row, hrow, TransactionState.ofValue_eq_some_iff.mp hstate⟩
  · rintro ⟨row, hrow, hstate⟩
    exact ⟨row, hrow, TransactionState.ofValue_eq_some_iff.mpr hstate⟩

theorem parseState_eq_ok_iff {text : String} {s : TransactionState} :
    parseState text = .ok s ↔ text = s.value := by
  rw [← TransactionState.ofValue_eq_some_iff, parseState]
  cases TransactionState.ofValue text with
  | none =>
      constructor
      · intro h
        cases h
      · intro h
        cases h
  | some current =>
      constructor
      · intro h
        rw [Except.ok.inj h]
      · intro h
        rw [Option.some.inj h]

/-- **A transition moves the stored state along an edge, or raises and leaves
    the unit of work unchanged.** -/
theorem transitionTransactionStateTo_cases (env : DbEnv) (t : String) (target : TargetState)
    (uow : UnitOfWork) :
    (∃ current targetEnum, StoredIn t current uow ∧ target.resolve = .ok targetEnum
        ∧ targetEnum ∈ current.legalNextStates
        ∧ transitionTransactionStateTo env t target uow
          = (.ok (), { uow with session := moved env t targetEnum uow.session }))
    ∨ ∃ err, transitionTransactionStateTo env t target uow = (.error err, uow) := by
  rw [transitionTransactionStateTo]
  cases hrow : uow.session.transactions.get t with
  | none => exact Or.inr ⟨_, bind_of_error (lockTransaction_of_missing hrow)⟩
  | some row =>
      rw [bind_of_ok (lockTransaction_eq_ok_iff.mpr ⟨hrow, rfl⟩)]
      cases hparse : parseState row.state with
      | error err => exact Or.inr ⟨err, rfl⟩
      | ok current =>
          cases hresolve : target.resolve with
          | error err => exact Or.inr ⟨err, rfl⟩
          | ok targetEnum =>
              have hvalue := parseState_eq_ok_iff.mp hparse
              cases hcheck : checkTransition row.state targetEnum with
              | error err =>
                  refine Or.inr ⟨err, ?_⟩
                  rw [bind_of_ok (ofExcept_eq_ok_iff.mpr ⟨rfl, rfl⟩),
                    bind_of_ok (ofExcept_eq_ok_iff.mpr ⟨rfl, rfl⟩), hcheck]
                  rfl
              | ok u =>
                  obtain ⟨current', hvalue', -, hlegal⟩ := checkTransition_eq_ok_iff.mp hcheck
                  have hsame : current' = current := by
                    have hback := TransactionState.ofValue_value current'
                    rw [← hvalue', hvalue, TransactionState.ofValue_value] at hback
                    exact (Option.some.inj hback).symm
                  rw [hsame] at hlegal
                  refine Or.inl ⟨current, targetEnum, ⟨row, hrow, hvalue⟩, rfl,
                    List.contains_iff_mem.mp hlegal, ?_⟩
                  rw [bind_of_ok (ofExcept_eq_ok_iff.mpr ⟨rfl, rfl⟩),
                    bind_of_ok (ofExcept_eq_ok_iff.mpr ⟨rfl, rfl⟩), hcheck]
                  rfl

theorem storedState_moved_of_ne (env : DbEnv) {t t' : String} (target : TransactionState)
    (uow : UnitOfWork) (hne : t' ≠ t) :
    storedState t' { uow with session := moved env t target uow.session }
      = storedState t' uow := by
  show ((moved env t target uow.session).transactions.get t').bind _ = _
  rw [(sameBut_moved env t target uow.session).rows t' hne]
  rfl

end TransactionRepository

open TransactionRepository

/-- The arguments of one call of `transition_transaction_state`. -/
structure StateCall where
  env           : DbEnv
  transactionId : String
  target        : TargetState
deriving DecidableEq, Repr

namespace StateCall

def step (uow : UnitOfWork) (c : StateCall) : Except PyError Unit × UnitOfWork :=
  transitionTransactionStateTo c.env c.transactionId c.target uow

theorem step_follows (t : String) : Follows step (storedState t) LegalMove := by
  intro uow c
  rcases transitionTransactionStateTo_cases c.env c.transactionId c.target uow with
    ⟨current, target, hstored, -, hlegal, hrun⟩ | ⟨err, hrun⟩
  · by_cases ht : t = c.transactionId
    · have hafter := hstored.moved c.env target
      rw [← ht] at hstored hafter
      rw [step, hrun, storedState_eq_some_iff.mpr hstored]
      dsimp only
      rw [← ht, storedState_eq_some_iff.mpr hafter]
      exact Or.inr (LegalMove.edge hlegal)
    · rw [step, hrun]
      exact Or.inl (storedState_moved_of_ne c.env target uow ht)
  · rw [step, hrun]
    exact Or.inl rfl

theorem step_of_illegal {uow : UnitOfWork} {c : StateCall} {current target : TransactionState}
    (hstored : StoredIn c.transactionId current uow) (hresolve : c.target.resolve = .ok target)
    (hillegal : target ∉ current.legalNextStates) :
    step uow c = (.error (illegalTransition current target), uow) := by
  obtain ⟨row, hrow, hstate⟩ := hstored
  have hcheck : checkTransition row.state target = .error (illegalTransition current target) := by
    rw [hstate]
    exact checkTransition_of_illegal hillegal
  rw [step, transitionTransactionStateTo, bind_of_ok (lockTransaction_eq_ok_iff.mpr ⟨hrow, rfl⟩),
    parseState_eq_ok_iff.mpr hstate, bind_of_ok (ofExcept_eq_ok_iff.mpr ⟨rfl, rfl⟩), hresolve,
    bind_of_ok (ofExcept_eq_ok_iff.mpr ⟨rfl, rfl⟩), hcheck]
  rfl

end StateCall

/-! ## Both of them -/

/-- **Every run of either function from a draft keeps the lifecycle: EXECUTING
    is entered once at most and from AUTHORIZED, the two outcomes exclude each
    other and come after EXECUTING, dead ends are kept; a record has a reason
    exactly when it is rejected; an illegal transition raises and changes
    nothing.** -/
theorem transitions_keep_lifecycle :
    (∀ (tx : Transaction) (calls : List TransitionCall), tx.state = .draft →
      KeepsLifecycle TransitionCall.step (fun tx => some tx.state) tx calls
      ∧ ∀ c ∈ steps TransitionCall.step tx calls,
          (c.post.rejectionReason.isSome = true ↔ c.post.state = .rejected)
          ∧ (c.act.newState ∉ c.pre.state.legalNextStates →
              (∃ m, c.out = .error (.transactionStateError m)) ∧ c.post = c.pre))
    ∧ ∀ (t : String) (uow : UnitOfWork) (calls : List StateCall), StoredIn t .draft uow →
        KeepsLifecycle StateCall.step (storedState t) uow calls
        ∧ ∀ c ∈ steps StateCall.step uow calls, ∀ current target,
            StoredIn c.act.transactionId current c.pre → c.act.target.resolve = .ok target →
            target ∉ current.legalNextStates →
            (∃ m, c.out = .error (.transactionStateError m)) ∧ c.post = c.pre := by
  constructor
  · intro tx calls hdraft
    refine ⟨KeepsLifecycle.of_follows TransitionCall.step_follows (congrArg some hdraft) calls, ?_⟩
    intro c hc
    refine ⟨c.post.rejection_iff, ?_⟩
    intro hillegal
    obtain ⟨l, a, r, -, rfl⟩ := mem_steps_iff.mp hc
    obtain ⟨m, hstep⟩ := TransitionCall.step_of_illegal hillegal
    exact ⟨⟨m, congrArg Prod.fst hstep⟩, congrArg Prod.snd hstep⟩
  · intro t uow calls hdraft
    refine ⟨KeepsLifecycle.of_follows (StateCall.step_follows t)
      (storedState_eq_some_iff.mpr hdraft) calls, ?_⟩
    intro c hc current target hstored hresolve hillegal
    obtain ⟨l, a, r, -, rfl⟩ := mem_steps_iff.mp hc
    have hstep := StateCall.step_of_illegal hstored hresolve hillegal
    exact ⟨⟨_, congrArg Prod.fst hstep⟩, congrArg Prod.snd hstep⟩

namespace Sample

theorem draft_not_rejected :
    (none : Option RejectionReason).isSome = true ↔ TransactionState.draft = .rejected := by
  constructor
  · intro h
    cases h
  · intro h
    cases h

def draft : Transaction where
  transactionId := "tx-1"
  buyerId := "buyer-1"
  merchantId := "merchant-1"
  mandateId := "mandate-1"
  mandateVersion := 1
  policyVersion := 1
  cartId := none
  cartHash := none
  amountPaise := 25000
  currency := .inr
  state := .draft
  rejectionReason := none
  rejectionDetail := none
  idempotencyKey := "key-1"
  nonce := none
  createdAt := 1709210000000000
  updatedAt := 1709210000000000
  stepUpRequiredAt := none
  stepUpApprovedAt := none
  stepUpAmountPaise := none
  razorpayOrderId := none
  razorpayPaymentId := none
  rejection_iff := draft_not_rejected

def purchase : List TransitionCall :=
  [TransactionState.proposed, .validating, .reserved, .authorized, .executing, .success,
    .committed, .executing].map fun s => ⟨1709210096000000, s, {}⟩

end Sample

theorem transitions_keep_lifecycle_purchase :
    KeepsLifecycle TransitionCall.step (fun tx => some tx.state) Sample.draft Sample.purchase
    ∧ (exec TransitionCall.step Sample.draft Sample.purchase).state = .committed :=
  ⟨(transitions_keep_lifecycle.1 Sample.draft Sample.purchase rfl).1, by decide⟩

end MandateGateway
