import MandateGateway.Lib.Datetime
import MandateGateway.Lib.OrderedMap
import MandateGateway.Lib.Runs
import MandateGateway.Lib.Text

/-! # Payments bound to merchant orders

    The manager keeps every binding twice, by the payment transaction and by
    the merchant order.  A call is refused when one of its two identifiers is
    bound to another partner; only the identifiers are compared, so a call for
    a pair that is bound already replaces its binding.

    * `exec_paired`: the two maps stay inverse to each other;
    * `bind_keeps_terms`: what a call leaves of the terms of a binding. -/

namespace MandateGateway

open Clock OrderedMap Runs

structure TransactionBindingError where
  message : String
deriving DecidableEq, Repr

/-- A payment transaction bound to a merchant order. -/
structure CommerceTransactionBinding where
  bindingId             : String
  razorpayTransactionId : String
  merchantOrderId       : String
  merchantId            : String
  productId             : String
  productEvidenceHash   : String
  orderBindingHash      : String
  paymentAmountPaise    : Int
  currency              : String
  connectorId           : String
  createdAt             : String
  status                : String
deriving DecidableEq, Repr

/-- The arguments of `bind_transaction_to_order`, and the time of the call. -/
structure BindCall where
  bindingId             : String
  razorpayTransactionId : String
  merchantOrderId       : String
  merchantId            : String
  productId             : String
  productEvidenceHash   : String
  orderBindingHash      : String
  paymentAmountPaise    : Int
  currency              : String
  connectorId           : String
  now                   : Instant
deriving DecidableEq, Repr

def BindCall.binding (c : BindCall) : CommerceTransactionBinding :=
  { bindingId := c.bindingId, razorpayTransactionId := c.razorpayTransactionId,
    merchantOrderId := c.merchantOrderId, merchantId := c.merchantId, productId := c.productId,
    productEvidenceHash := c.productEvidenceHash, orderBindingHash := c.orderBindingHash,
    paymentAmountPaise := c.paymentAmountPaise, currency := c.currency,
    connectorId := c.connectorId, createdAt := isoformat c.now, status := "BOUND" }

/-- What a payment is bound to an order on. -/
structure BindingTerms where
  paymentAmountPaise  : Int
  currency            : String
  merchantId          : String
  productEvidenceHash : String
  orderBindingHash    : String
deriving DecidableEq, Repr

def CommerceTransactionBinding.terms (b : CommerceTransactionBinding) : BindingTerms :=
  ⟨b.paymentAmountPaise, b.currency, b.merchantId, b.productEvidenceHash, b.orderBindingHash⟩

def BindCall.terms (c : BindCall) : BindingTerms := c.binding.terms

structure CommerceTransactionBindingManager where
  txMap    : OrderedMap String CommerceTransactionBinding
  orderMap : OrderedMap String CommerceTransactionBinding

namespace CommerceTransactionBindingManager

def new : CommerceTransactionBindingManager := ⟨.empty, .empty⟩

/-- The refusal of a transaction that is bound to another order. -/
def transactionRefusal (m : CommerceTransactionBindingManager) (c : BindCall) :
    Option TransactionBindingError :=
  match m.txMap.get c.razorpayTransactionId with
  | none => none
  | some existing =>
      if existing.merchantOrderId ≠ c.merchantOrderId then
        some ⟨s!"Transaction '{c.razorpayTransactionId}' is already bound to "
          ++ s!"merchant order '{existing.merchantOrderId}'."⟩
      else none

/-- The refusal of an order that is bound to another transaction. -/
def orderRefusal (m : CommerceTransactionBindingManager) (c : BindCall) :
    Option TransactionBindingError :=
  match m.orderMap.get c.merchantOrderId with
  | none => none
  | some existing =>
      if existing.razorpayTransactionId ≠ c.razorpayTransactionId then
        some ⟨s!"Merchant order '{c.merchantOrderId}' is already bound to "
          ++ s!"transaction '{existing.razorpayTransactionId}'."⟩
      else none

def bindTransactionToOrder (m : CommerceTransactionBindingManager) (c : BindCall) :
    Except TransactionBindingError CommerceTransactionBinding
      × CommerceTransactionBindingManager :=
  match m.transactionRefusal c with
  | some err => (.error err, m)
  | none =>
      match m.orderRefusal c with
      | some err => (.error err, m)
      | none =>
          (.ok c.binding,
            ⟨m.txMap.set c.razorpayTransactionId c.binding,
              m.orderMap.set c.merchantOrderId c.binding⟩)

def getBindingByTransaction (m : CommerceTransactionBindingManager)
    (razorpayTransactionId : String) : Option CommerceTransactionBinding :=
  m.txMap.get razorpayTransactionId

def getBindingByOrder (m : CommerceTransactionBindingManager) (merchantOrderId : String) :
    Option CommerceTransactionBinding :=
  m.orderMap.get merchantOrderId

/-- A call in a run. -/
abbrev BindStep := Step CommerceTransactionBindingManager BindCall
  (Except TransactionBindingError CommerceTransactionBinding)

def after (calls : List BindCall) : CommerceTransactionBindingManager :=
  exec bindTransactionToOrder new calls

/-- The calls of a run. -/
def history (calls : List BindCall) : List BindStep :=
  steps bindTransactionToOrder new calls

/-! ## One call -/

variable {m : CommerceTransactionBindingManager} {c : BindCall}

theorem transactionRefusal_eq_none_iff :
    m.transactionRefusal c = none
      ↔ ∀ b, m.txMap.get c.razorpayTransactionId = some b →
          b.merchantOrderId = c.merchantOrderId := by
  cases hget : m.txMap.get c.razorpayTransactionId with
  | none => simp [transactionRefusal, hget]
  | some b => simp [transactionRefusal, hget]

theorem orderRefusal_eq_none_iff :
    m.orderRefusal c = none
      ↔ ∀ b, m.orderMap.get c.merchantOrderId = some b →
          b.razorpayTransactionId = c.razorpayTransactionId := by
  cases hget : m.orderMap.get c.merchantOrderId with
  | none => simp [orderRefusal, hget]
  | some b => simp [orderRefusal, hget]

/-- A call is refused and changes nothing, or enters its binding in both maps. -/
theorem bind_cases (m : CommerceTransactionBindingManager) (c : BindCall) :
    (∃ err, m.bindTransactionToOrder c = (.error err, m))
    ∨ (m.transactionRefusal c = none ∧ m.orderRefusal c = none
        ∧ m.bindTransactionToOrder c = (.ok c.binding,
            ⟨m.txMap.set c.razorpayTransactionId c.binding,
              m.orderMap.set c.merchantOrderId c.binding⟩)) := by
  rw [bindTransactionToOrder]
  cases htx : m.transactionRefusal c with
  | some err => exact Or.inl ⟨err, rfl⟩
  | none =>
      cases horder : m.orderRefusal c with
      | some err => exact Or.inl ⟨err, rfl⟩
      | none => exact Or.inr ⟨rfl, rfl, rfl⟩

theorem bind_of_refused {err : TransactionBindingError}
    (h : (m.bindTransactionToOrder c).1 = .error err) : (m.bindTransactionToOrder c).2 = m := by
  rcases bind_cases m c with ⟨err', hbind⟩ | ⟨-, -, hbind⟩
  · rw [hbind]
  · rw [hbind] at h
    cases h

/-! ## The two maps -/

/-- The maps hold the same bindings, each by its transaction and by its order. -/
def IsPaired (m : CommerceTransactionBindingManager) : Prop :=
  Paired CommerceTransactionBinding.razorpayTransactionId
    CommerceTransactionBinding.merchantOrderId m.txMap m.orderMap

theorem bind_paired (m : CommerceTransactionBindingManager) (c : BindCall) (h : m.IsPaired) :
    (m.bindTransactionToOrder c).2.IsPaired := by
  rcases bind_cases m c with ⟨err, hbind⟩ | ⟨htx, horder, hbind⟩
  · rw [hbind]
    exact h
  · rw [hbind]
    exact Paired.set (v := c.binding) h (transactionRefusal_eq_none_iff.mp htx)
      (orderRefusal_eq_none_iff.mp horder)

theorem exec_paired (calls : List BindCall) : (after calls).IsPaired :=
  exec_inv bind_paired (show new.IsPaired from Paired.empty _ _) calls

/-- **The two maps are inverse to each other after every run of calls**, so a
    transaction has one order and an order one transaction, and a refused call
    leaves both as they were. -/
theorem bindings_mutually_inverse (calls : List BindCall) :
    (∀ tx b, (after calls).getBindingByTransaction tx = some b →
      b.razorpayTransactionId = tx
        ∧ (after calls).getBindingByOrder b.merchantOrderId = some b)
    ∧ (∀ order b, (after calls).getBindingByOrder order = some b →
      b.merchantOrderId = order
        ∧ (after calls).getBindingByTransaction b.razorpayTransactionId = some b)
    ∧ (∀ tx tx' b b', (after calls).getBindingByTransaction tx = some b →
        (after calls).getBindingByTransaction tx' = some b' →
        b.merchantOrderId = b'.merchantOrderId → tx = tx')
    ∧ (∀ order order' b b', (after calls).getBindingByOrder order = some b →
        (after calls).getBindingByOrder order' = some b' →
        b.razorpayTransactionId = b'.razorpayTransactionId → order = order')
    ∧ ∀ step ∈ history calls, (∃ err, step.out = .error err) → step.post = step.pre := by
  have hpaired := exec_paired calls
  refine ⟨fun tx b => hpaired.left_right, fun order b => hpaired.right_left,
    fun tx tx' b b' => hpaired.left_unique, fun order order' b b' => hpaired.symm.left_unique, ?_⟩
  intro step hstep ⟨err, herr⟩
  obtain ⟨before, c, rest, rfl, rfl⟩ := mem_steps_iff.mp hstep
  exact bind_of_refused herr

/-! ## The terms of a binding -/

/-- The transaction and the order of the call are bound to each other by `b`. -/
def BoundBy (m : CommerceTransactionBindingManager) (c : BindCall)
    (b : CommerceTransactionBinding) : Prop :=
  m.getBindingByTransaction c.razorpayTransactionId = some b
    ∧ b.merchantOrderId = c.merchantOrderId

/-- The transaction and the order of the call are bound to each other, on other terms. -/
def Rebinds (m : CommerceTransactionBindingManager) (c : BindCall) : Prop :=
  ∃ b, m.BoundBy c b ∧ b.terms ≠ c.terms

/-- Every binding of `m` is in `m'` between the same two, on the same terms. -/
def TermsKept (m m' : CommerceTransactionBindingManager) : Prop :=
  ∀ tx b, m.getBindingByTransaction tx = some b →
    ∃ b', m'.getBindingByTransaction tx = some b' ∧ b'.merchantOrderId = b.merchantOrderId
      ∧ m'.getBindingByOrder b.merchantOrderId = some b' ∧ b'.terms = b.terms

/-- The call is refused, and the two maps are as they were. -/
def RefusedUnchanged (step : BindStep) : Prop :=
  (∃ err, step.out = .error err) ∧ step.post = step.pre

/-- Through a run no binding that is made loses its terms, and a call for a
    bound pair on other terms is refused and changes nothing. -/
def TermsImmutable (calls : List BindCall) : Prop :=
  (∀ earlier between later, calls = earlier ++ between ++ later →
    TermsKept (after earlier) (after (earlier ++ between)))
  ∧ ∀ step ∈ history calls, Rebinds step.pre step.act → RefusedUnchanged step

theorem TermsKept.refl (h : m.IsPaired) : TermsKept m m :=
  fun _ b hb => ⟨b, hb, rfl, (h.left_right hb).2, rfl⟩

theorem TermsKept.trans {m₁ m₂ m₃ : CommerceTransactionBindingManager} (h : TermsKept m₁ m₂)
    (h' : TermsKept m₂ m₃) : TermsKept m₁ m₃ := by
  intro tx b hb
  obtain ⟨b₂, hb₂, horder₂, -, hterms₂⟩ := h tx b hb
  obtain ⟨b₃, hb₃, horder₃, hget₃, hterms₃⟩ := h' tx b₂ hb₂
  rw [horder₂] at horder₃ hget₃
  exact ⟨b₃, hb₃, horder₃, hget₃, hterms₃.trans hterms₂⟩

theorem bind_of_boundBy (h : m.IsPaired) {b : CommerceTransactionBinding} (hb : m.BoundBy c b) :
    (m.bindTransactionToOrder c).1 = .ok c.binding := by
  obtain ⟨hget, horder⟩ := hb
  obtain ⟨htx, hget'⟩ := h.left_right hget
  rw [horder] at hget'
  have htxFree : m.transactionRefusal c = none := by
    rw [transactionRefusal_eq_none_iff]
    intro b' hb'
    obtain rfl := Option.some.inj (hget.symm.trans hb')
    exact horder
  have horderFree : m.orderRefusal c = none := by
    rw [orderRefusal_eq_none_iff]
    intro b' hb'
    obtain rfl := Option.some.inj (hget'.symm.trans hb')
    exact htx
  rw [bindTransactionToOrder, htxFree, horderFree]

theorem bind_keeps_terms (h : m.IsPaired) (hc : ¬ m.Rebinds c) :
    TermsKept m (m.bindTransactionToOrder c).2 := by
  have hpost : (m.bindTransactionToOrder c).2.IsPaired := bind_paired m c h
  rcases bind_cases m c with ⟨err, hbind⟩ | ⟨htx, -, hbind⟩
  · rw [hbind]
    exact TermsKept.refl h
  · rw [hbind] at hpost ⊢
    intro tx b hb
    by_cases heq : tx = c.razorpayTransactionId
    · -- the binding of the call's own transaction is replaced by one on its terms
      rw [heq] at hb ⊢
      have horder : b.merchantOrderId = c.merchantOrderId :=
        transactionRefusal_eq_none_iff.mp htx b hb
      have hterms : b.terms = c.terms := by
        by_contra hne
        exact hc ⟨b, ⟨hb, horder⟩, hne⟩
      refine ⟨c.binding, get_set_self _ _ _, horder.symm, ?_, hterms.symm⟩
      rw [horder]
      exact get_set_self _ _ _
    · have hget : (m.txMap.set c.razorpayTransactionId c.binding).get tx = some b := by
        rw [get_set_of_ne _ heq]
        exact hb
      exact ⟨b, hget, rfl, (hpost.left_right hget).2, rfl⟩

theorem exec_keeps_terms (h : m.IsPaired) {calls : List BindCall}
    (hcalls : ∀ step ∈ steps bindTransactionToOrder m calls, ¬ Rebinds step.pre step.act) :
    TermsKept m (exec bindTransactionToOrder m calls) := by
  induction calls generalizing m with
  | nil => exact TermsKept.refl h
  | cons c calls ih =>
      rw [steps_cons, List.forall_mem_cons] at hcalls
      exact (bind_keeps_terms h hcalls.1).trans (ih (bind_paired m c h) hcalls.2)

/-- **The terms of all bindings are immutable through a run exactly when no call
    of the run is for a pair that is bound already, on other terms**: such a
    call is not refused. -/
theorem termsImmutable_iff (calls : List BindCall) :
    TermsImmutable calls ↔ ∀ step ∈ history calls, ¬ Rebinds step.pre step.act := by
  constructor
  · rintro ⟨-, hrefused⟩ step hstep hrebinds
    obtain ⟨⟨err, herr⟩, -⟩ := hrefused step hstep hrebinds
    obtain ⟨before, c, rest, rfl, rfl⟩ := mem_steps_iff.mp hstep
    obtain ⟨b, hb, -⟩ := hrebinds
    have hok := bind_of_boundBy (exec_paired before) hb
    rw [stepAt_out] at herr
    cases herr.symm.trans hok
  · intro hcalls
    refine ⟨?_, fun step hstep hrebinds => absurd hrebinds (hcalls step hstep)⟩
    rintro earlier between later rfl
    rw [after, after, exec_append]
    rw [history, forall_steps_append_iff, forall_steps_append_iff] at hcalls
    exact exec_keeps_terms (exec_paired earlier) hcalls.1.2

/-- A payment of 500 rupees is bound to an order. -/
def firstBind : BindCall :=
  { bindingId := "bind_01", razorpayTransactionId := "txn_101", merchantOrderId := "m_ord_101",
    merchantId := "mer_cafe", productId := "prod_tea", productEvidenceHash := "ev_hash",
    orderBindingHash := "ord_hash", paymentAmountPaise := 50000, currency := "INR",
    connectorId := "connector_cafe", now := 0 }

/-- The same pair bound again, for one rupee. -/
def secondBind : BindCall := { firstBind with bindingId := "bind_02", paymentAmountPaise := 100 }

/-- The second call is accepted, and the order is bound for one rupee. -/
theorem not_termsImmutable_rebind : ¬ TermsImmutable [firstBind, secondBind] := by
  rintro ⟨hkept, -⟩
  obtain ⟨b', hget, -, -, hterms⟩ :=
    hkept [firstBind] [secondBind] [] rfl "txn_101" firstBind.binding rfl
  obtain rfl : secondBind.binding = b' := Option.some.inj hget
  exact absurd (congrArg BindingTerms.paymentAmountPaise hterms) (by decide)

end CommerceTransactionBindingManager

end MandateGateway
