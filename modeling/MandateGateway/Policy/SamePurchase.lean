import MandateGateway.Policy.Engine

/-! # What the policy engine allows

    The requests that `evaluate` allows are those that meet every check.  None
    of the checks compares the identities of the records it is given, so a
    request put together from different mandates or merchants is allowed like
    any other; the last section says exactly when that does not happen. -/

namespace MandateGateway

open Clock Checklist Exceptions

/-- The requests that no check before the classification rejects. -/
structure PolicyRequest.Cleared (q : PolicyRequest) : Prop where
  aiCommerce     : q.merchantPolicy.aiCommerceEnabled = true
  policyActive   : ∀ expiry, q.merchantPolicy.expiresAt = some expiry → q.now < expiry
  region         : q.region ∈ q.merchantPolicy.allowedRegions
  notBlocked     : q.operation ∉ q.merchantPolicy.blockedOperations
  operation      : q.operation ∈ q.merchantPolicy.allowedOperations
  mandateActive  : q.mandate.status = .active ∧ q.now < q.mandate.expiresAt
  merchantScope  : q.cart.merchantId ∈ q.mandate.merchantScope
  categories     : ∀ item ∈ q.cart.items, q.mandate.authorizesCategory item.category = true
    ∧ q.merchantPolicy.isCategoryAllowed item.category = true
  currency       : q.cart.currency = q.mandate.currency
  policyCurrency : q.cart.currency = q.merchantPolicy.currency
  cartHash       : q.cart.cartHash ≠ ""
  nonce          : ∀ record, q.nonceRecord = some record →
    record.state = .issued ∧ q.now < record.expiresAt
  autonomous     : q.mandate.autonomousExecution = true
  limit          : q.cart.totalPaise ≤ q.merchantPolicy.autonomousPurchaseLimitPaise
  budget         : ∀ b, q.budget = some b →
    0 < q.cart.totalPaise
      ∧ b.spentPaise + b.reservedPaise + q.cart.totalPaise ≤ b.dailyLimitPaise

/-- The records of a request belong to one purchase. -/
structure PolicyRequest.SamePurchase (q : PolicyRequest) : Prop where
  merchant : q.merchantPolicy.merchantId = q.cart.merchantId
  cart     : q.cart.mandateId = q.mandate.mandateId
  budget   : ∀ b, q.budget = some b → b.mandateId = q.mandate.mandateId
  nonce    : ∀ record, q.nonceRecord = some record → record.mandateId = q.mandate.mandateId

theorem BuyerMandate.isActive_iff {m : BuyerMandate} {now : Instant} :
    m.isActive now = true ↔ m.status = .active ∧ now < m.expiresAt := by
  rw [BuyerMandate.isActive, Bool.and_eq_true, beq_iff_eq, decide_eq_true_iff]

theorem MerchantPolicy.isActive_iff {p : MerchantPolicy} {now : Instant} :
    p.isActive now = true ↔ ∀ expiry, p.expiresAt = some expiry → now < expiry := by
  rw [MerchantPolicy.isActive]
  cases p.expiresAt with
  | none =>
      constructor
      · intro _ expiry h
        cases h
      · intro _
        rfl
  | some expiry =>
      dsimp only
      rw [decide_eq_true_iff]
      constructor
      · intro hlt e he
        obtain rfl := Option.some.inj he
        exact hlt
      · intro h
        exact h expiry rfl

namespace PolicyEngine

/-! ## The checks one by one -/

theorem categoryRefusal_eq_none_iff {m : BuyerMandate} {p : MerchantPolicy} {item : CartItem} :
    categoryRefusal m p item = none
      ↔ m.authorizesCategory item.category = true
        ∧ p.isCategoryAllowed item.category = true := by
  rw [categoryRefusal, check_eq_none_iff, check_eq_none_iff, not_not, not_not]
  exact ⟨fun h => ⟨h.1, h.2.1⟩, fun h => ⟨h.1, h.2, rfl⟩⟩

theorem raisingCheck_passes_iff {reason : RejectionReason} {label : String} {α : Type}
    {record : Option α} {assertion : α → Except PyError Unit} :
    (raisingCheck reason label (record.map assertion)).failure = none
      ↔ ∀ x, record = some x → assertion x = .ok () := by
  cases record with
  | none =>
      constructor
      · intro _ x h
        cases h
      · intro _
        rfl
  | some x =>
      rw [Option.map_some, raisingCheck.eq_def]
      cases hx : assertion x with
      | error err =>
          constructor
          · intro h
            cases h
          · intro h
            have hok := h x rfl
            rw [hx] at hok
            cases hok
      | ok u =>
          constructor
          · intro _ y hy
            obtain rfl := Option.some.inj hy
            exact hx
          · intro _
            rfl

/-- **No check rejects exactly the cleared requests.** -/
theorem scan_checks_eq_none_iff {q : PolicyRequest} :
    (scan (checks q)).2 = none ↔ q.Cleared := by
  rw [scan_clear_iff, checks]
  simp only [List.forall_mem_cons, require_failure_eq_none_iff, raisingCheck_passes_iff,
    List.findSome?_eq_none_iff, categoryRefusal_eq_none_iff, BuyerMandate.isActive_iff,
    MerchantPolicy.isActive_iff, BuyerMandate.authorizesMerchant,
    MerchantPolicy.isRegionAllowed, assertNonceConsumable_eq_ok_iff,
    assertCanReserve_eq_ok_iff, decide_eq_true_iff, beq_iff_eq, bne_iff_ne]
  constructor
  · rintro ⟨hai, hpolicy, hregion, hblocked, hop, hmandate, hmerchant, hcategories, hcurrency,
      hpolicyCurrency, hhash, hnonce, hautonomous, hlimit, hbudget, -⟩
    exact ⟨hai, hpolicy, hregion, hblocked, hop, hmandate, hmerchant, hcategories, hcurrency,
      hpolicyCurrency, hhash, hnonce, hautonomous, hlimit, hbudget⟩
  · intro h
    exact ⟨h.aiCommerce, h.policyActive, h.region, h.notBlocked, h.operation, h.mandateActive,
      h.merchantScope, h.categories, h.currency, h.policyCurrency, h.cartHash, h.nonce,
      h.autonomous, h.limit, h.budget, fun c hc => absurd hc List.not_mem_nil⟩

/-! ## The decision -/

theorem classified_allow_iff {passed : List String} {s : StepUpResult} :
    (classified passed s).decision = .allow ↔ s.zone = .autoExecute := by
  rw [classified]
  cases s.zone with
  | autoExecute => exact ⟨fun _ => rfl, fun _ => rfl⟩
  | stepUpRequired => exact ⟨nofun, nofun⟩
  | hardReject => exact ⟨nofun, nofun⟩

/-- **`evaluate` allows exactly the cleared requests within the buyer's cap.** -/
theorem evaluate_allow_iff {q : PolicyRequest} :
    (∃ r, evaluate q = .ok r ∧ r.decision = .allow)
      ↔ q.Cleared ∧ q.cart.totalPaise ≤ q.mandate.maximumAmountPaise := by
  rw [← scan_checks_eq_none_iff, evaluate]
  cases hscan : scan (checks q) with
  | mk passed refusal =>
      cases refusal with
      | some refusal =>
          constructor
          · rintro ⟨r, hr, hallow⟩
            obtain rfl := Except.ok.inj hr
            cases hallow
          · rintro ⟨h, -⟩
            cases h
      | none =>
          -- no check rejects: the zone of the total decides
          rw [← classifyStepUpZone_autoExecute_iff q.merchantPolicy.maxStepUpPercent
            q.cart.totalPaise_nonneg q.mandate.maximum_nonneg]
          dsimp only
          cases classifyStepUpZone q.cart.totalPaise q.mandate.maximumAmountPaise
              q.merchantPolicy.maxStepUpPercent with
          | error err =>
              constructor
              · rintro ⟨r, hr, -⟩
                cases hr
              · rintro ⟨-, r, hr, -⟩
                cases hr
          | ok s =>
              constructor
              · rintro ⟨r, hr, hallow⟩
                obtain rfl := Except.ok.inj hr
                exact ⟨rfl, s, rfl, classified_allow_iff.mp hallow⟩
              · rintro ⟨-, s', hs, hzone⟩
                obtain rfl := Except.ok.inj hs
                exact ⟨_, rfl, classified_allow_iff.mpr hzone⟩

/-! ## Records of different purchases -/

/-- **An allowed request has the records of one purchase exactly when it is not
    a request that meets every check with the records of several.** -/
theorem allows_same_purchase_iff (q : PolicyRequest) :
    (∀ r, evaluate q = .ok r → r.decision = .allow → q.SamePurchase)
      ↔ ¬ (q.Cleared ∧ q.cart.totalPaise ≤ q.mandate.maximumAmountPaise) ∨ q.SamePurchase := by
  rw [← evaluate_allow_iff]
  constructor
  · intro h
    by_cases hallow : ∃ r, evaluate q = .ok r ∧ r.decision = .allow
    · obtain ⟨r, hr, hdecision⟩ := hallow
      exact .inr (h r hr hdecision)
    · exact .inl hallow
  · rintro (hnot | hsame) r hr hdecision
    · exact absurd ⟨r, hr, hdecision⟩ hnot
    · exact hsame

/-! ## A purchase under another merchant's policy -/

namespace Sample

def mandate : BuyerMandate where
  mandateId := "mandate-1"
  buyerId := "buyer-1"
  version := 1
  merchantScope := {"merchant-1"}
  categoryScope := {"books"}
  allowedRegions := {.inRegion}
  maximumAmountPaise := 50000
  dailyBudgetPaise := 100000
  currency := .inr
  autonomousExecution := true
  issuedAt := 1709210000000000
  expiresAt := 1709300000000000
  status := .active
  buyerId_ne := by decide
  version_pos := by decide
  maximum_nonneg := by decide
  daily_ge_maximum := by decide
  issued_lt_expires := by decide

def foreignPolicy : MerchantPolicy where
  policyId := "policy-2"
  merchantId := "merchant-2"
  policyVersion := 1
  aiCommerceEnabled := true
  currency := .inr
  allowedCategories := {"Books"}
  autonomousPurchaseLimitPaise := 1000000
  stepUpThresholdPaise := 500000
  maxStepUpPercent := 10
  allowedRegions := {.inRegion}
  allowedOperations := {.createOrder}
  blockedOperations := {.payout}
  createdAt := 1709210000000000
  expiresAt := none
  merchantId_ne := by decide
  policyVersion_pos := by decide
  threshold_nonneg := by decide
  threshold_le_limit := by decide
  percent_nonneg := by decide
  percent_le := by decide
  operations_disjoint := by decide

def item : CartItem where
  productId := "product-1"
  merchantId := "merchant-1"
  name := "Novel"
  category := "books"
  quantity := 2
  unitPricePaise := 10000
  currency := .inr
  productId_ne := by decide
  name_bounded := by decide
  category_bounded := by decide
  quantity_pos := by decide
  price_nonneg := by decide

def cart : Cart where
  cartId := "cart-1"
  merchantId := "merchant-1"
  mandateId := "mandate-1"
  currency := .inr
  items := [item]
  taxPaise := 3000
  shippingPaise := 2000
  totalPaise := 25000
  createdAt := 1709210096000000
  cartHash := "hash-1"
  merchantId_ne := by decide
  mandateId_ne := by decide
  items_ne := List.cons_ne_nil _ _
  items_match := by
    intro i hi
    obtain rfl := List.mem_singleton.mp hi
    exact ⟨rfl, rfl⟩
  tax_nonneg := by decide
  shipping_nonneg := by decide
  total_eq := by decide

def mixed : PolicyRequest where
  mandate := mandate
  merchantPolicy := foreignPolicy
  cart := cart
  budget := none
  operation := .createOrder
  region := .inRegion
  nonceRecord := none
  now := 1709210096000000

end Sample

/-- The cart of one merchant is allowed under the policy of another. -/
theorem foreignPolicy_allowed :
    ∃ r, evaluate Sample.mixed = .ok r ∧ r.decision = .allow ∧ ¬ Sample.mixed.SamePurchase := by
  refine ⟨_, rfl, rfl, ?_⟩
  intro hsame
  have hmerchant : "merchant-2" = "merchant-1" := hsame.merchant
  exact absurd hmerchant (by decide)

end PolicyEngine

end MandateGateway

/-! ## A cheaper cart for the same purchase

    Every check of `PolicyEngine.evaluate` that looks at the amount demands that
    it be small enough, so an allowed request stays allowed with a cheaper cart of
    the same merchant, currency and categories, provided that the new cart carries
    a hash (`allow_replaced_iff`). -/

namespace MandateGateway

open Clock Checklist Exceptions

/-- A cart for the same purchase, of a positive total that is not larger. -/
structure Cart.Cheaper (cart cart' : Cart) : Prop where
  merchant   : cart'.merchantId = cart.merchantId
  currency   : cart'.currency = cart.currency
  categories : ∀ item' ∈ cart'.items, ∃ item ∈ cart.items, item'.category = item.category
  positive   : 0 < cart'.totalPaise
  total      : cart'.totalPaise ≤ cart.totalPaise

namespace PolicyRequest

def Allowed (q : PolicyRequest) : Prop :=
  ∃ r, PolicyEngine.evaluate q = .ok r ∧ r.decision = .allow

def withCart (q : PolicyRequest) (cart' : Cart) : PolicyRequest := { q with cart := cart' }

variable {q : PolicyRequest} {cart' : Cart}

/-- A cheaper cart meets every check, if it carries a hash. -/
theorem Cleared.withCart (h : q.Cleared) (hcheaper : q.cart.Cheaper cart')
    (hhash : cart'.cartHash ≠ "") : (q.withCart cart').Cleared where
  aiCommerce := h.aiCommerce
  policyActive := h.policyActive
  region := h.region
  notBlocked := h.notBlocked
  operation := h.operation
  mandateActive := h.mandateActive
  merchantScope := by
    show cart'.merchantId ∈ q.mandate.merchantScope
    rw [hcheaper.merchant]
    exact h.merchantScope
  categories := by
    intro item' hitem'
    obtain ⟨item, hitem, hcategory⟩ := hcheaper.categories item' hitem'
    rw [hcategory]
    exact h.categories item hitem
  currency := hcheaper.currency.trans h.currency
  policyCurrency := hcheaper.currency.trans h.policyCurrency
  cartHash := hhash
  nonce := h.nonce
  autonomous := h.autonomous
  limit := hcheaper.total.trans h.limit
  budget := by
    intro b hb
    obtain ⟨-, hbudget⟩ := h.budget b hb
    refine ⟨hcheaper.positive, ?_⟩
    have htotal := hcheaper.total
    show b.spentPaise + b.reservedPaise + cart'.totalPaise ≤ b.dailyLimitPaise
    omega

/-- **An allowed request is cleared and within the cap, and stays allowed with a
    cheaper cart exactly when that cart carries a hash.** -/
theorem allow_replaced_iff (hallowed : q.Allowed) :
    q.Cleared ∧ q.cart.totalPaise ≤ q.mandate.maximumAmountPaise
      ∧ ∀ cart', q.cart.Cheaper cart' → ((q.withCart cart').Allowed ↔ cart'.cartHash ≠ "") := by
  obtain ⟨hcleared, hcap⟩ := PolicyEngine.evaluate_allow_iff.mp hallowed
  refine ⟨hcleared, hcap, fun cart' hcheaper => ?_⟩
  constructor
  · intro hallowed'
    exact (PolicyEngine.evaluate_allow_iff.mp hallowed').1.cartHash
  · intro hhash
    exact PolicyEngine.evaluate_allow_iff.mpr
      ⟨hcleared.withCart hcheaper hhash, hcheaper.total.trans hcap⟩

end PolicyRequest

namespace PolicyEngine

/-! ## One copy instead of two -/

namespace Sample

theorem single_copy : (1 : Int) ≤ 1 := by decide

def oneCopy (carried : String) : Cart :=
  { cart with
    items := [{ item with quantity := 1, quantity_pos := single_copy }]
    totalPaise := 15000
    cartHash := carried
    items_ne := List.cons_ne_nil _ _
    items_match := by
      intro i hi
      obtain rfl := List.mem_singleton.mp hi
      exact ⟨rfl, rfl⟩
    total_eq := by decide }

theorem oneCopy_cheaper (carried : String) : mixed.cart.Cheaper (oneCopy carried) where
  merchant := rfl
  currency := rfl
  categories := by
    intro item' hitem'
    obtain rfl := List.mem_singleton.mp hitem'
    exact ⟨item, List.mem_singleton.mpr rfl, rfl⟩
  positive := by
    show (0 : Int) < 15000
    decide
  total := by
    show (15000 : Int) ≤ 25000
    decide

theorem mixed_allowed : mixed.Allowed := ⟨_, rfl, rfl⟩

end Sample

/-- The cart of one copy is allowed under its hash. -/
theorem oneCopy_allowed : (Sample.mixed.withCart (Sample.oneCopy "hash-2")).Allowed :=
  ((PolicyRequest.allow_replaced_iff Sample.mixed_allowed).2.2 _
    (Sample.oneCopy_cheaper "hash-2")).mpr (by decide)

/-- **The cheaper cart is rejected when it carries no hash.** -/
theorem oneCopy_rejected :
    Sample.mixed.Allowed ∧ Sample.mixed.cart.Cheaper (Sample.oneCopy "")
      ∧ ∃ r, evaluate (Sample.mixed.withCart (Sample.oneCopy "")) = .ok r
        ∧ r.decision = .reject :=
  ⟨Sample.mixed_allowed, Sample.oneCopy_cheaper "", _, rfl, rfl⟩

end PolicyEngine

end MandateGateway
