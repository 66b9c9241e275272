import MandateGateway.Budget.Effects
import MandateGateway.Orchestrator.Engine
import MandateGateway.Policy.MandateLifecycle

/-! # The orchestrator and the engines it stands in for

    Of the buyer's mandate the pipeline reads the status and the version, and
    its budget control passes whatever the request.  This file asks what the
    mandate evaluator and the budget engine would have said to the same
    purchase.

    * `allows_registered_iff`: what a budget engine with given books accepts;
    * `enginesAccept_iff`: what both engines accept, field by field;
    * `payment_accepted_iff`: the calls whose payment the engines would accept. -/

namespace MandateGateway

open Clock

/-! ## The stored mandate as a contract -/

namespace MandateResponse

/-- The fields that `BuyerMandate(...)` refuses on their own. -/
def faultyFields (m : MandateResponse) : List String :=
  (if Text.strip m.buyerId = "" then ["buyer_id"] else [])
    ++ (if m.version < 1 then ["version"] else [])
    ++ (if m.maximumAmountPaise < 0 then ["maximum_amount_paise"] else [])
    ++ (if m.dailyBudgetPaise < 0 then ["daily_budget_paise"] else [])

/-- What `BuyerMandate(...)` demands of the fields. -/
structure Issuable (m : MandateResponse) : Prop where
  buyerId_ne        : Text.strip m.buyerId ≠ ""
  version_pos       : 1 ≤ m.version
  maximum_nonneg    : 0 ≤ m.maximumAmountPaise
  daily_nonneg      : 0 ≤ m.dailyBudgetPaise
  issued_lt_expires : m.issuedAt < m.expiresAt
  daily_ge_maximum  : m.maximumAmountPaise ≤ m.dailyBudgetPaise

theorem issuable_iff {m : MandateResponse} :
    m.Issuable ↔ m.faultyFields = []
      ∧ m.issuedAt < m.expiresAt ∧ m.maximumAmountPaise ≤ m.dailyBudgetPaise := by
  simp only [faultyFields, List.append_eq_nil_iff, ite_eq_right_iff, List.cons_ne_nil, imp_false,
    Int.not_lt]
  constructor
  · intro h
    exact ⟨⟨⟨⟨h.buyerId_ne, h.version_pos⟩, h.maximum_nonneg⟩, h.daily_nonneg⟩,
      h.issued_lt_expires, h.daily_ge_maximum⟩
  · rintro ⟨⟨⟨⟨hbuyer, hversion⟩, hmaximum⟩, hdaily⟩, hwindow, hcaps⟩
    exact ⟨hbuyer, hversion, hmaximum, hdaily, hwindow, hcaps⟩

/-- The mandate with its texts normalized. -/
def buyerMandate (m : MandateResponse) (h : m.Issuable) : BuyerMandate where
  mandateId := m.mandateId
  buyerId := Text.strip m.buyerId
  version := m.version
  merchantScope := m.merchantScope
  categoryScope := m.categoryScope.image fun category => Text.lower (Text.strip category)
  allowedRegions := m.allowedRegions
  maximumAmountPaise := m.maximumAmountPaise
  dailyBudgetPaise := m.dailyBudgetPaise
  currency := m.currency
  autonomousExecution := m.autonomousExecution
  issuedAt := m.issuedAt
  expiresAt := m.expiresAt
  status := m.status
  buyerId_ne := h.buyerId_ne
  version_pos := h.version_pos
  maximum_nonneg := h.maximum_nonneg
  daily_ge_maximum := h.daily_ge_maximum
  issued_lt_expires := h.issued_lt_expires

/-- `BuyerMandate(...)`. -/
def toBuyerMandate (m : MandateResponse) : Except PyError BuyerMandate :=
  if hfields : m.faultyFields = [] then
    if hmodel : m.issuedAt < m.expiresAt ∧ m.maximumAmountPaise ≤ m.dailyBudgetPaise then
      .ok (m.buyerMandate (issuable_iff.mpr ⟨hfields, hmodel⟩))
    else .error (.validationError "BuyerMandate" [""])
  else .error (.validationError "BuyerMandate" m.faultyFields)

theorem toBuyerMandate_eq_ok_iff {m : MandateResponse} {mandate : BuyerMandate} :
    m.toBuyerMandate = .ok mandate ↔ ∃ h : m.Issuable, mandate = m.buyerMandate h := by
  rw [toBuyerMandate]
  by_cases hfields : m.faultyFields = []
  · by_cases hmodel : m.issuedAt < m.expiresAt ∧ m.maximumAmountPaise ≤ m.dailyBudgetPaise
    · rw [dif_pos hfields, dif_pos hmodel, Exceptions.ok_eq_ok_iff]
      exact ⟨fun h => ⟨_, h⟩, fun ⟨_, h⟩ => h⟩
    · rw [dif_pos hfields, dif_neg hmodel]
      refine iff_of_false nofun ?_
      rintro ⟨h, -⟩
      exact hmodel (issuable_iff.mp h).2
  · rw [dif_neg hfields]
    refine iff_of_false nofun ?_
    rintro ⟨h, -⟩
    exact hfields (issuable_iff.mp h).1

end MandateResponse

/-! ## A budget engine with given books -/

namespace BudgetEngine

/-- The reservation is made. -/
def Allows (outcome : Except PyError BudgetEvaluationResult) : Prop :=
  ∃ res, outcome = .ok res ∧ res.isAllowed = true

theorem not_allows_error {err : PyError} : ¬ Allows (.error err) := by
  rintro ⟨res, hres, -⟩
  cases hres

theorem not_allows_rejected {m detail : String} {requested available : Int}
    {reason : RejectionReason} {t : Instant} :
    ¬ Allows (.ok (.rejected m requested available reason detail t)) := by
  rintro ⟨res, hres, hallowed⟩
  cases hres
  cases hallowed

theorem allows_reserveFrom_iff {env : Ambient} {b : DailyBudget} {m tx resId : String}
    {amount ttl : Int} {cur : Currency} {t : Instant} {e : BudgetEngine}
    (hnew : e.reservations.get resId = none) :
    Allows (e.reserveFrom env b m tx amount cur resId ttl t).1
      ↔ b.currency = cur
        ∧ (0 < amount ∧ b.spentPaise + b.reservedPaise + amount ≤ b.dailyLimitPaise)
        ∧ addSeconds t ttl ≠ none ∧ tx ≠ "" := by
  rw [reserveFrom, hnew]
  by_cases hcur : b.currency = cur
  · by_cases hroom : b.spentPaise + b.reservedPaise + amount > b.dailyLimitPaise
    · simp only [hcur, ne_eq, not_true_eq_false, if_false, if_pos hroom]
      refine iff_of_false not_allows_rejected ?_
      rintro ⟨-, ⟨-, hle⟩, -⟩
      omega
    · simp only [hcur, ne_eq, not_true_eq_false, if_false, if_neg hroom]
      cases hres : reserveBudget env.now b amount with
      | error err =>
          refine iff_of_false not_allows_error ?_
          rintro ⟨-, hamount, -⟩
          rw [reserveBudget_eq_ok_iff.mpr ⟨hamount, rfl⟩] at hres
          cases hres
      | ok updated =>
          obtain ⟨hamount, -⟩ := reserveBudget_eq_ok_iff.mp hres
          cases hadd : addSeconds t ttl with
          | none =>
              refine iff_of_false not_allows_error ?_
              rintro ⟨-, -, hclock, -⟩
              exact hclock rfl
          | some expiresAt =>
              by_cases htx : tx = ""
              · simp only [if_pos htx]
                refine iff_of_false not_allows_error ?_
                rintro ⟨-, -, -, hne⟩
                exact hne htx
              · simp only [if_neg htx]
                exact iff_of_true ⟨_, rfl, rfl⟩ ⟨trivial, hamount, Option.some_ne_none _, htx⟩
  · simp only [ne_eq, hcur, not_false_eq_true, if_true, false_and, iff_false]
    exact not_allows_rejected

/-- **What an engine accepts that was registered with given books.** -/
theorem allows_registered_iff {env : Ambient} {m tx : String} {limit amount ttl : Int}
    {spent reserved : Nat} {cur cur' : Currency} (hm : m ≠ "") (htx : tx ≠ "") :
    Allows ((new.registerBudget env m limit cur none spent reserved).2.reserve env m tx amount
        cur' none ttl none).1
      ↔ cur = cur' ∧ 0 < amount ∧ spent + reserved + amount ≤ limit
        ∧ addSeconds env.now ttl ≠ none := by
  rw [reserve]
  by_cases hamount : amount ≤ 0
  · rw [if_pos hamount]
    refine iff_of_false not_allows_rejected ?_
    rintro ⟨-, hpos, -⟩
    omega
  rw [if_neg hamount]
  obtain ⟨hreg, err, hcall⟩ | ⟨-, b, ⟨hcur, hlimit, hspent, hreserved⟩, hcall⟩ :=
    registerBudget_cases new env m limit cur none spent reserved
  swap
  · rw [hcall]
    dsimp only
    rw [OrderedMap.get_set_self]
    dsimp only
    rw [allows_reserveFrom_iff rfl, hcur, hspent, hreserved, hlimit]
    constructor
    · rintro ⟨hsame, ⟨hpos, hroom⟩, hclock, -⟩
      exact ⟨hsame, hpos, hroom, hclock⟩
    · rintro ⟨hsame, hpos, hroom, hclock⟩
      exact ⟨hsame, ⟨hpos, hroom⟩, hclock, htx⟩
  · rw [hcall]
    refine iff_of_false not_allows_rejected ?_
    rintro ⟨-, hpos, hroom, -⟩
    refine hreg ⟨hm, Int.natCast_nonneg _, Int.natCast_nonneg _, ?_⟩
    dsimp only
    omega

end BudgetEngine

/-! ## The same purchase before the engines -/

/-- What a mandate has spent and reserved on the day. -/
structure DailyBooks where
  spentPaise    : Nat
  reservedPaise : Nat

namespace OrchestratorCall

theorem no_budget_nonneg : ∀ amount ∈ (none : Option Int), 0 ≤ amount := by
  intro amount h
  cases h

def purchaseIntent (c : OrchestratorCall) : CommerceIntent where
  buyerId := c.request.buyerId
  targetCategory := some c.selectedProduct.category
  targetMerchantId := some c.request.merchantId
  maxBudgetPaise := none
  currency := c.selectedProduct.currency
  region := .inRegion
  metadata := .empty
  buyerId_ne := c.request.buyerId_ne
  maxBudget_nonneg := no_budget_nonneg

def budgetEngine (c : OrchestratorCall) (m : MandateResponse) (books : DailyBooks) :
    BudgetEngine :=
  (BudgetEngine.new.registerBudget c.env.ambient c.request.mandateId m.dailyBudgetPaise
    m.currency none books.spentPaise books.reservedPaise).2

/-- The mandate evaluator and the budget engine accept the purchase. -/
structure AcceptedBy (c : OrchestratorCall) (books : DailyBooks) (cart : Cart)
    (m : MandateResponse) : Prop where
  mandate : ∃ mandate, m.toBuyerMandate = .ok mandate
    ∧ (MandateEvaluator.evaluate mandate c.purchaseIntent (some cart) c.env.ambient.now).valid
      = true
  budget  : BudgetEngine.Allows ((c.budgetEngine m books).reserve c.env.ambient
    c.request.mandateId c.transactionId cart.totalPaise cart.currency none 300 none).1

/-- The stored mandate and its daily budget accept the purchase of the call. -/
def EnginesAccept (c : OrchestratorCall) (books : DailyBooks) : Prop :=
  ∃ cart m, c.buildCart = .ok cart ∧ c.mandateResponse = some m ∧ c.AcceptedBy books cart m

/-- The purchase is within the mandate, in what the pipeline does not look at. -/
structure Within (c : OrchestratorCall) (books : DailyBooks) (m : MandateResponse) : Prop where
  buyer      : c.request.buyerId = Text.strip m.buyerId
  version    : 1 ≤ m.version
  autonomous : m.autonomousExecution = true
  window     : m.issuedAt ≤ c.env.ambient.now ∧ c.env.ambient.now < m.expiresAt
  merchant   : m.merchantScope = ∅ ∨ c.request.merchantId ∈ m.merchantScope
  currency   : c.selectedProduct.currency = m.currency
  region     : m.allowedRegions = ∅ ∨ .inRegion ∈ m.allowedRegions
  category   : m.categoryScope = ∅ ∨ ∃ category ∈ m.categoryScope,
    Text.lower (Text.strip category) = Text.lower (Text.strip c.selectedProduct.category)
  cap        : c.selectedProduct.pricePaise ≤ m.maximumAmountPaise
  caps       : m.maximumAmountPaise ≤ m.dailyBudgetPaise
  positive   : 0 < c.selectedProduct.pricePaise
  budget     : books.spentPaise + books.reservedPaise + c.selectedProduct.pricePaise
    ≤ m.dailyBudgetPaise
  clock      : addSeconds c.env.ambient.now 300 ≠ none

variable {c : OrchestratorCall} {books : DailyBooks} {cart : Cart} {m : MandateResponse}

theorem transactionId_ne : c.transactionId ≠ "" := by
  intro h
  have hlist := congrArg String.toList h
  rw [transactionId, String.toList_append] at hlist
  exact absurd (List.append_eq_nil_iff.mp hlist).1 (by decide)

theorem budget_allows_iff (hcart : c.buildCart = .ok cart) :
    BudgetEngine.Allows ((c.budgetEngine m books).reserve c.env.ambient
        c.request.mandateId c.transactionId cart.totalPaise cart.currency none 300 none).1
      ↔ m.currency = c.selectedProduct.currency ∧ 0 < c.selectedProduct.pricePaise
        ∧ books.spentPaise + books.reservedPaise + c.selectedProduct.pricePaise
          ≤ m.dailyBudgetPaise
        ∧ addSeconds c.env.ambient.now 300 ≠ none := by
  rw [budgetEngine, BudgetEngine.allows_registered_iff c.request.mandateId_ne transactionId_ne,
    totalPaise_of_buildCart hcart, currency_of_buildCart hcart]

theorem authorizesCategory_iff {h : m.Issuable} {category : String} :
    (m.buyerMandate h).authorizesCategory category = true
      ↔ ∃ k ∈ m.categoryScope, Text.lower (Text.strip k) = Text.lower (Text.strip category) := by
  rw [BuyerMandate.authorizesCategory, decide_eq_true_iff]
  exact Finset.mem_image

theorem category_of_mem (hcart : c.buildCart = .ok cart) {item : CartItem}
    (h : item ∈ cart.items) : item.category = c.selectedProduct.category := by
  obtain ⟨_, rfl⟩ := buildCart_eq_ok_iff.mp hcart
  obtain rfl := List.mem_singleton.mp h
  rfl

/-- **Both engines accept exactly the purchases within the mandate.** -/
theorem acceptedBy_iff (hcart : c.buildCart = .ok cart) (hactive : m.status = .active) :
    c.AcceptedBy books cart m ↔ c.Within books m := by
  have hmerchantId : cart.merchantId = c.request.merchantId := by
    obtain ⟨_, rfl⟩ := buildCart_eq_ok_iff.mp hcart
    rfl
  have hitems : ∃ item, item ∈ cart.items := by
    obtain ⟨_, rfl⟩ := buildCart_eq_ok_iff.mp hcart
    exact ⟨_, List.mem_singleton_self _⟩
  have hamount : c.purchaseIntent.evalAmountPaise (some cart) = c.selectedProduct.pricePaise :=
    totalPaise_of_buildCart hcart
  constructor
  · rintro ⟨⟨mandate, hmandate, hvalid⟩, hbudget⟩
    obtain ⟨hissuable, rfl⟩ := MandateResponse.toBuyerMandate_eq_ok_iff.mp hmandate
    obtain ⟨-, hpositive, hroom, hclock⟩ := (budget_allows_iff hcart).mp hbudget
    have h := MandateEvaluator.evaluate_valid_iff.mp hvalid
    refine ⟨h.buyer, hissuable.version_pos, h.autonomous, h.window, ?_, h.currency, h.region, ?_,
      hamount ▸ h.amount, hissuable.daily_ge_maximum, hpositive, hroom, hclock⟩
    · by_cases hscope : m.merchantScope = ∅
      · exact .inl hscope
      · exact .inr (hmerchantId ▸ (h.merchant hscope).2 cart rfl)
    · by_cases hscope : m.categoryScope = ∅
      · exact .inl hscope
      · have hscope' : (m.buyerMandate hissuable).categoryScope ≠ ∅ := by
          rwa [ne_eq, MandateResponse.buyerMandate, Finset.image_eq_empty]
        obtain ⟨item, hitem⟩ := hitems
        have hauthorizes := (h.category hscope').2 cart rfl item hitem
        rw [category_of_mem hcart hitem, authorizesCategory_iff] at hauthorizes
        exact .inr hauthorizes
  · intro h
    have hissuable : m.Issuable := by
      have hprice := h.positive
      have hcap := h.cap
      have hcaps := h.caps
      exact ⟨h.buyer ▸ c.request.buyerId_ne, h.version, by omega, by omega,
        Int.lt_of_le_of_lt h.window.1 h.window.2, hcaps⟩
    refine ⟨⟨m.buyerMandate hissuable, MandateResponse.toBuyerMandate_eq_ok_iff.mpr ⟨_, rfl⟩, ?_⟩,
      (budget_allows_iff hcart).mpr ⟨h.currency.symm, h.positive, h.budget, h.clock⟩⟩
    refine MandateEvaluator.evaluate_valid_iff.mpr ⟨hactive, h.autonomous, h.window, h.buyer, ?_,
      h.currency, h.region, ?_, hamount ▸ h.cap⟩
    · intro hscope
      have hmem := h.merchant.resolve_left hscope
      refine ⟨?_, ?_⟩
      · intro target htarget
        obtain ⟨htarget, -⟩ := Option.filter_eq_some_iff.mp htarget
        obtain rfl := Option.some.inj htarget
        exact hmem
      · rintro cart' ⟨⟩
        rw [hmerchantId]
        exact hmem
    · intro hscope
      have hscope' : m.categoryScope ≠ ∅ := by
        intro hempty
        exact hscope (Finset.image_eq_empty.mpr hempty)
      have hmem := authorizesCategory_iff (h := hissuable).mpr (h.category.resolve_left hscope')
      refine ⟨?_, ?_⟩
      · intro category hcategory
        obtain ⟨hcategory, -⟩ := Option.filter_eq_some_iff.mp hcategory
        obtain rfl := Option.some.inj hcategory
        exact hmem
      · rintro cart' ⟨⟩ item hitem
        rw [category_of_mem hcart hitem]
        exact hmem

theorem enginesAccept_iff (h : c.Reaches) :
    c.EnginesAccept books ↔ ∃ m, c.mandateResponse = some m ∧ c.Within books m := by
  obtain ⟨cart, stepUp, hcart, -⟩ := h.completes
  obtain ⟨m, hm, hactive⟩ := h.allowed.mandate
  constructor
  · rintro ⟨cart', m', hcart', hm', haccepted⟩
    obtain rfl := Except.ok.inj (hcart.symm.trans hcart')
    obtain rfl := Option.some.inj (hm.symm.trans hm')
    exact ⟨m, hm, (acceptedBy_iff hcart hactive).mp haccepted⟩
  · rintro ⟨m', hm', hwithin⟩
    obtain rfl := Option.some.inj (hm.symm.trans hm')
    exact ⟨cart, m, hcart, hm, (acceptedBy_iff hcart hactive).mpr hwithin⟩

end OrchestratorCall

namespace CommerceOrchestrator

/-- **The engines would accept the payment that a call attempts exactly when the
    purchase is within the stored mandate**, which the pipeline does not check. -/
theorem payment_accepted_iff (sha : Sha256) (o : CommerceOrchestrator) (c : OrchestratorCall)
    (books : DailyBooks) :
    ((o.executeIntent sha c).1.payment.isSome = true → c.EnginesAccept books)
      ↔ (o.executedIntents.get c.request.idempotencyKey = none → c.Reaches →
          ∃ m, c.mandateResponse = some m ∧ c.Within books m) := by
  rw [payment_isSome_iff, and_imp]
  refine imp_congr_right fun _ => forall_congr' fun hreaches => ?_
  exact OrchestratorCall.enginesAccept_iff hreaches

theorem otherBuyer_ne : "buy_user_1" ≠ "" := by decide

/-- The payment of a buyer who names the mandate of another. -/
theorem otherBuyer_not_accepted :
    ¬ ((new.executeIntent OrchestratorCall.Sample.digests
          (OrchestratorCall.Sample.call OrchestratorCall.Sample.firstUuid "buy_user_1"
            otherBuyer_ne)).1.payment.isSome = true →
        (OrchestratorCall.Sample.call OrchestratorCall.Sample.firstUuid "buy_user_1"
          otherBuyer_ne).EnginesAccept ⟨0, 0⟩) := by
  have hreaches := OrchestratorCall.Sample.reaches_call OrchestratorCall.Sample.firstUuid
    otherBuyer_ne
  intro h
  have haccept := h ((payment_isSome_iff ..).mpr ⟨rfl, hreaches⟩)
  obtain ⟨m, hm, hwithin⟩ := (OrchestratorCall.enginesAccept_iff hreaches).mp haccept
  obtain rfl := Option.some.inj hm
  exact absurd hwithin.buyer (by decide)

end CommerceOrchestrator

end MandateGateway
