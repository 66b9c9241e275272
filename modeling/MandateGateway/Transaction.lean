import MandateGateway.Lib.Exceptions
import MandateGateway.Types
import MandateGateway.Values

/-! # Transactions

    The transaction record and its transition function.  The record's own
    consistency rule is a field: a transaction has a rejection reason exactly
    when it is rejected. -/

namespace MandateGateway

open Clock Exceptions

/-- A transaction record tracking the lifecycle of one purchase. -/
structure Transaction where
  transactionId     : String
  buyerId           : String
  merchantId        : String
  mandateId         : String
  mandateVersion    : Int
  policyVersion     : Int
  cartId            : Option String
  cartHash          : Option String
  amountPaise       : Int
  currency          : Currency
  state             : TransactionState
  rejectionReason   : Option RejectionReason
  rejectionDetail   : Option String
  idempotencyKey    : String
  nonce             : Option String
  createdAt         : Instant
  updatedAt         : Instant
  stepUpRequiredAt  : Option Instant
  stepUpApprovedAt  : Option Instant
  stepUpAmountPaise : Option Int
  razorpayOrderId   : Option String
  razorpayPaymentId : Option String
  rejection_iff     : rejectionReason.isSome = true ↔ state = .rejected
deriving DecidableEq

namespace Transaction

def isExecutable (tx : Transaction) : Bool := tx.state.canExecute

def isTerminal (tx : Transaction) : Bool := tx.state.isTerminal

end Transaction

structure TransitionUpdates where
  rejectionReason   : Option RejectionReason := none
  rejectionDetail   : Option String := none
  cartId            : Option String := none
  cartHash          : Option String := none
  amountPaise       : Option Int := none
  nonce             : Option String := none
  razorpayOrderId   : Option String := none
  razorpayPaymentId : Option String := none
  stepUpAmountPaise : Option Int := none

/-- What a transition demands: a legal successor, and a rejection reason
    exactly when it rejects. -/
structure TransitionUpdates.Fits (u : TransitionUpdates) (tx : Transaction)
    (newState : TransactionState) : Prop where
  legal  : newState ∈ tx.state.legalNextStates
  reason : u.rejectionReason.isSome = true ↔ newState = .rejected

theorem TransitionUpdates.Fits.rejection_iff {u : TransitionUpdates} {tx : Transaction}
    {newState : TransactionState} (h : u.Fits tx newState) :
    (u.rejectionReason.or tx.rejectionReason).isSome = true ↔ newState = .rejected := by
  have hlive : tx.rejectionReason = none := by
    cases hr : tx.rejectionReason with
    | none => rfl
    | some r =>
        -- a rejected transaction has no successor
        have hstate := tx.rejection_iff.mp (by rw [hr]; rfl)
        have hlegal := h.legal
        rw [hstate] at hlegal
        cases hlegal
  rw [hlive, Option.or_none]
  exact h.reason

/-- The transaction after a transition that fits. -/
def Transaction.advance (tx : Transaction) (now : Instant) (newState : TransactionState)
    (u : TransitionUpdates) (h : u.Fits tx newState) : Transaction :=
  { tx with
    state := newState
    updatedAt := now
    rejectionReason := u.rejectionReason.or tx.rejectionReason
    rejectionDetail := u.rejectionDetail.or tx.rejectionDetail
    cartId := u.cartId.or tx.cartId
    cartHash := u.cartHash.or tx.cartHash
    amountPaise := u.amountPaise.getD tx.amountPaise
    nonce := u.nonce.or tx.nonce
    razorpayOrderId := u.razorpayOrderId.or tx.razorpayOrderId
    razorpayPaymentId := u.razorpayPaymentId.or tx.razorpayPaymentId
    stepUpAmountPaise := u.stepUpAmountPaise.or tx.stepUpAmountPaise
    stepUpRequiredAt := if newState = .stepUpRequired then some now else tx.stepUpRequiredAt
    stepUpApprovedAt := if newState = .userApproved then some now else tx.stepUpApprovedAt
    rejection_iff := h.rejection_iff }

/-- The names of the legal successors, as a list display. -/
def legalStatesText (s : TransactionState) : String :=
  "[" ++ String.intercalate ", " (s.legalNextStates.map fun t => s!"'{t.value}'") ++ "]"

def transitionTransaction (now : Instant) (tx : Transaction) (newState : TransactionState)
    (u : TransitionUpdates) : Except PyError Transaction :=
  if hlegal : newState ∉ tx.state.legalNextStates then
    .error (.transactionStateError
      (s!"Illegal transaction transition: {tx.state.value} → {newState.value}. "
        ++ s!"Legal next states: {legalStatesText tx.state}"))
  else if hmissing : newState = .rejected ∧ u.rejectionReason = none then
    .error (.valueError "Must provide rejection_reason when transitioning to REJECTED.")
  else if hextra : newState ≠ .rejected ∧ u.rejectionReason ≠ none then
    .error (.valueError
      s!"rejection_reason only allowed for REJECTED, not '{newState.value}'.")
  else
    .ok (tx.advance now newState u ⟨Decidable.not_not.mp hlegal, by
      rw [Option.isSome_iff_ne_none]
      exact ⟨fun h => Decidable.not_not.mp fun hn => hextra ⟨hn, h⟩,
        fun h hn => hmissing ⟨h, hn⟩⟩⟩)

/-- **A transition succeeds exactly when it fits.** -/
theorem transitionTransaction_eq_ok_iff {now : Instant} {tx tx' : Transaction}
    {newState : TransactionState} {u : TransitionUpdates} :
    transitionTransaction now tx newState u = .ok tx'
      ↔ ∃ h : u.Fits tx newState, tx' = tx.advance now newState u h := by
  rw [transitionTransaction]
  by_cases hlegal : newState ∉ tx.state.legalNextStates
  · rw [dif_pos hlegal]
    constructor
    · intro h
      cases h
    · rintro ⟨h, -⟩
      exact absurd h.legal hlegal
  by_cases hmissing : newState = .rejected ∧ u.rejectionReason = none
  · rw [dif_neg hlegal, dif_pos hmissing]
    constructor
    · intro h
      cases h
    · rintro ⟨h, -⟩
      have hsome := h.reason.mpr hmissing.1
      rw [hmissing.2] at hsome
      cases hsome
  by_cases hextra : newState ≠ .rejected ∧ u.rejectionReason ≠ none
  · rw [dif_neg hlegal, dif_neg hmissing, dif_pos hextra]
    constructor
    · intro h
      cases h
    · rintro ⟨h, -⟩
      have hrejected := h.reason.mp (Option.isSome_iff_ne_none.mpr hextra.2)
      exact absurd hrejected hextra.1
  · rw [dif_neg hlegal, dif_neg hmissing, dif_neg hextra, ok_eq_ok_iff]
    exact ⟨fun h => ⟨_, h⟩, fun ⟨_, h⟩ => h⟩

theorem transitionTransaction_of_not_legal {tx : Transaction} {newState : TransactionState}
    (h : newState ∉ tx.state.legalNextStates) (now : Instant) (u : TransitionUpdates) :
    ∃ err, transitionTransaction now tx newState u = .error err :=
  ⟨_, dif_pos h⟩

end MandateGateway
