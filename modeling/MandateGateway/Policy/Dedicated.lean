import MandateGateway.Policy.MandateLifecycle
import MandateGateway.Policy.MerchantPolicyEngine

/-! # The policy engine and the dedicated evaluators

    A request the policy engine allows is permitted by the merchant policy
    engine.  The mandate evaluator also looks at two fields of the mandate that
    no check of the policy engine reads, its regions and its time of issue; the
    two agree exactly on the mandates where these do not matter. -/

namespace MandateGateway

open Clock

/-- The intent asks for the purchase of the request: its operation, region and
    currency, and, where it names them, its merchant and one of its categories. -/
structure PolicyRequest.DescribedBy (q : PolicyRequest) (intent : CommerceIntent) : Prop where
  buyer     : intent.buyerId = q.mandate.buyerId
  merchant  : ∀ target, intent.namedMerchant = some target → target = q.cart.merchantId
  category  : ∀ category, intent.namedCategory = some category →
    ∃ item ∈ q.cart.items, item.category = category
  currency  : intent.currency = q.cart.currency
  region    : intent.region = q.region
  operation : intent.requestedOperation = q.operation

/-- The mandate has been issued, and covers the region of the request. -/
structure PolicyRequest.MandateInForce (q : PolicyRequest) : Prop where
  issued : q.mandate.issuedAt ≤ q.now
  region : q.mandate.allowedRegions = ∅ ∨ q.region ∈ q.mandate.allowedRegions

namespace PolicyEngine

section
variable {q : PolicyRequest} {intent : CommerceIntent}

theorem namedCategory_passes (hdescribed : q.DescribedBy intent) {P : String → Prop}
    (hitems : ∀ item ∈ q.cart.items, P item.category) :
    (∀ category, intent.namedCategory = some category → P category)
      ∧ ∀ c, some q.cart = some c → ∀ item ∈ c.items, P item.category := by
  constructor
  · intro category hcategory
    obtain ⟨item, hitem, hname⟩ := hdescribed.category category hcategory
    rw [← hname]
    exact hitems item hitem
  · intro c hc
    obtain rfl := Option.some.inj hc
    exact hitems

theorem namedMerchant_passes (hdescribed : q.DescribedBy intent) {P : String → Prop}
    (hmerchant : P q.cart.merchantId) :
    (∀ target, intent.namedMerchant = some target → P target)
      ∧ ∀ c, some q.cart = some c → P c.merchantId := by
  constructor
  · intro target htarget
    rw [hdescribed.merchant target htarget]
    exact hmerchant
  · intro c hc
    obtain rfl := Option.some.inj hc
    exact hmerchant

/-- **The merchant permits every cleared request.** -/
theorem cleared_permitted (hpurchase : q.SamePurchase) (hdescribed : q.DescribedBy intent)
    (hcleared : q.Cleared) :
    MerchantPolicyEngine.Permits q.merchantPolicy intent (some q.cart) q.now where
  active := hcleared.policyActive
  aiCommerce := hcleared.aiCommerce
  binding := namedMerchant_passes hdescribed hpurchase.merchant.symm
  operation := by
    rw [hdescribed.operation]
    exact ⟨hcleared.notBlocked, .inr hcleared.operation⟩
  currency := by
    rw [hdescribed.currency]
    exact hcleared.policyCurrency
  region := by
    rw [hdescribed.region]
    exact .inr hcleared.region
  category := fun _ => namedCategory_passes hdescribed fun item hitem =>
    (hcleared.categories item hitem).2
  amount := hcleared.limit

/-- **A cleared request within the cap has a valid mandate exactly when the
    mandate is in force for it.** -/
theorem cleared_valid_iff (hdescribed : q.DescribedBy intent) (hcleared : q.Cleared)
    (hcap : q.cart.totalPaise ≤ q.mandate.maximumAmountPaise) :
    MandateEvaluator.Valid q.mandate intent (some q.cart) q.now ↔ q.MandateInForce := by
  constructor
  · intro hvalid
    refine ⟨hvalid.window.1, ?_⟩
    rw [← hdescribed.region]
    exact hvalid.region
  · intro hforce
    have hmerchant := namedMerchant_passes hdescribed hcleared.merchantScope
    have hcategory := namedCategory_passes (P := fun c => q.mandate.authorizesCategory c = true)
      hdescribed fun item hitem => (hcleared.categories item hitem).1
    refine ⟨hcleared.mandateActive.1, hcleared.autonomous,
      ⟨hforce.issued, hcleared.mandateActive.2⟩, hdescribed.buyer, fun _ => hmerchant, ?_, ?_,
      fun _ => hcategory, hcap⟩
    · rw [hdescribed.currency]
      exact hcleared.currency
    · rw [hdescribed.region]
      exact hforce.region

end

/-- **What the policy engine allows, the dedicated evaluators accept, exactly
    when an allowed request has a mandate in force.** -/
theorem allow_accepted_iff (q : PolicyRequest) (intent : CommerceIntent)
    (hpurchase : q.SamePurchase) (hdescribed : q.DescribedBy intent) :
    (∀ r, evaluate q = .ok r → r.decision = .allow →
      (MandateEvaluator.evaluate q.mandate intent (some q.cart) q.now).valid = true
        ∧ (MerchantPolicyEngine.evaluate q.merchantPolicy intent (some q.cart) q.now).decision
          ≠ .reject)
      ↔ (q.Cleared ∧ q.cart.totalPaise ≤ q.mandate.maximumAmountPaise → q.MandateInForce) := by
  rw [MandateEvaluator.evaluate_valid_iff, MerchantPolicyEngine.evaluate_not_rejected_iff]
  constructor
  · rintro h ⟨hcleared, hcap⟩
    obtain ⟨r, hr, hallow⟩ := evaluate_allow_iff.mpr ⟨hcleared, hcap⟩
    exact (cleared_valid_iff hdescribed hcleared hcap).mp (h r hr hallow).1
  · intro h r hr hallow
    have hmet := evaluate_allow_iff.mp ⟨r, hr, hallow⟩
    have hvalid := (cleared_valid_iff hdescribed hmet.1 hmet.2).mpr (h hmet)
    exact ⟨hvalid, cleared_permitted hpurchase hdescribed hmet.1⟩

/-! ## A mandate for another region -/

namespace Sample

def ownPolicy : MerchantPolicy :=
  { foreignPolicy with merchantId := "merchant-1", merchantId_ne := cart.merchantId_ne }

def regionalMandate : BuyerMandate := { mandate with allowedRegions := {.us} }

def own (m : BuyerMandate) : PolicyRequest :=
  { mixed with mandate := m, merchantPolicy := ownPolicy }

def intent : CommerceIntent where
  buyerId := "buyer-1"
  targetCategory := some "books"
  targetMerchantId := some "merchant-1"
  maxBudgetPaise := none
  currency := .inr
  region := .inRegion
  metadata := OrderedMap.empty
  buyerId_ne := mandate.buyerId_ne
  maxBudget_nonneg := by
    intro amount h
    cases h

theorem own_samePurchase {m : BuyerMandate} (h : m.mandateId = "mandate-1") :
    (own m).SamePurchase where
  merchant := rfl
  cart := h.symm
  budget := by
    intro b hb
    cases hb
  nonce := by
    intro record hrecord
    cases hrecord

theorem own_describedBy {m : BuyerMandate} (h : m.buyerId = "buyer-1") :
    (own m).DescribedBy intent where
  buyer := h.symm
  merchant := by
    intro target htarget
    obtain rfl := Option.some.inj htarget
    rfl
  category := by
    intro category hcategory
    refine ⟨item, List.mem_singleton.mpr rfl, ?_⟩
    obtain rfl := Option.some.inj hcategory
    rfl
  currency := rfl
  region := rfl
  operation := rfl

end Sample

/-- A mandate in force is accepted by all three. -/
theorem allow_accepted_iff_own :
    Sample.mandate.issuedAt ≤ (Sample.own Sample.mandate).now
      ∧ ∀ r, evaluate (Sample.own Sample.mandate) = .ok r → r.decision = .allow →
        (MandateEvaluator.evaluate Sample.mandate Sample.intent (some Sample.cart)
          (Sample.own Sample.mandate).now).valid = true
          ∧ (MerchantPolicyEngine.evaluate Sample.ownPolicy Sample.intent (some Sample.cart)
            (Sample.own Sample.mandate).now).decision ≠ .reject := by
  refine ⟨by decide, ?_⟩
  refine (allow_accepted_iff (Sample.own Sample.mandate) Sample.intent
    (Sample.own_samePurchase rfl) (Sample.own_describedBy rfl)).mpr ?_
  intro _
  exact ⟨by decide, .inr (by decide)⟩

/-- The policy engine allows a purchase outside the regions of the mandate. -/
theorem otherRegion_allowed :
    (Sample.own Sample.regionalMandate).SamePurchase
      ∧ (Sample.own Sample.regionalMandate).DescribedBy Sample.intent
      ∧ (∃ r, evaluate (Sample.own Sample.regionalMandate) = .ok r ∧ r.decision = .allow)
      ∧ (MandateEvaluator.evaluate Sample.regionalMandate Sample.intent (some Sample.cart)
        (Sample.own Sample.regionalMandate).now).valid = false := by
  exact ⟨Sample.own_samePurchase rfl, Sample.own_describedBy rfl, ⟨_, rfl, rfl⟩, rfl⟩

end PolicyEngine

end MandateGateway

/-! ## Operations that no merchant names

    `MerchantPolicyEngine.evaluate` reads the operation of the metadata in lower
    case, takes every text that is still no operation for an order, and compares
    the result with the merchant's sets, an empty one of allowed operations
    restricting nothing.  It fails closed exactly when the text is an operation
    as it stands and the merchant allows some, or when a rule refuses what the
    text is read as (`failsClosed_iff`). -/

namespace MandateGateway

open Clock Checklist

/-- What the engine takes the text for. -/
def McpOperation.readAs (text : String) : McpOperation :=
  (McpOperation.ofValue (Text.lower text)).getD .createOrder

namespace McpOperation

theorem ofValue_value (op : McpOperation) : ofValue op.value = some op := by
  cases op <;> rfl

theorem lower_value (op : McpOperation) : Text.lower op.value = op.value := by
  cases op <;> decide

theorem readAs_value (op : McpOperation) : readAs op.value = op := by
  rw [readAs, lower_value, ofValue_value]
  rfl

end McpOperation

namespace MerchantPolicyEngine

/-- What the rules other than the one of the operation demand. -/
structure MeetsOtherRules (p : MerchantPolicy) (intent : CommerceIntent) (cart : Option Cart)
    (evalTime : Instant) : Prop where
  active     : ∀ expiry, p.expiresAt = some expiry → evalTime < expiry
  aiCommerce : p.aiCommerceEnabled = true
  binding    : (∀ target, intent.namedMerchant = some target → target = p.merchantId)
    ∧ ∀ c, cart = some c → c.merchantId = p.merchantId
  currency   : intent.currency = p.currency
  region     : p.allowedRegions = ∅ ∨ intent.region ∈ p.allowedRegions
  category   : p.allowedCategories ≠ ∅ →
    (∀ category, intent.namedCategory = some category → p.isCategoryAllowed category = true)
      ∧ ∀ c, cart = some c → ∀ item ∈ c.items, p.isCategoryAllowed item.category = true
  amount     : intent.evalAmountPaise cart ≤ p.autonomousPurchaseLimitPaise

/-- The merchant's rule of the operation refuses what the text is read as. -/
def OperationRefused (p : MerchantPolicy) (text : String) : Prop :=
  McpOperation.readAs text ∈ p.blockedOperations
    ∨ p.allowedOperations ≠ ∅ ∧ McpOperation.readAs text ∉ p.allowedOperations

/-- What is not rejected asks for an operation, as it stands, that the merchant
    allows and does not block. -/
def FailsClosed (p : MerchantPolicy) (intent : CommerceIntent) (cart : Option Cart)
    (evalTime : Instant) (text : String) : Prop :=
  (evaluate p intent cart evalTime).decision ≠ .reject →
    ∃ op : McpOperation, text = op.value ∧ op ∈ p.allowedOperations ∧ op ∉ p.blockedOperations

variable {p : MerchantPolicy} {intent : CommerceIntent} {cart : Option Cart}
  {evalTime : Instant} {text : String}

theorem requestedOperation_of_text (htext : intent.metadata.get "operation" = some (.str text)) :
    intent.requestedOperation = McpOperation.readAs text := by
  rw [CommerceIntent.requestedOperation, htext]
  rfl

theorem not_rejected_iff_of_text (htext : intent.metadata.get "operation" = some (.str text)) :
    (evaluate p intent cart evalTime).decision ≠ .reject
      ↔ MeetsOtherRules p intent cart evalTime ∧ ¬ OperationRefused p text := by
  rw [evaluate_not_rejected_iff, OperationRefused, not_or, not_and, not_not]
  constructor
  · intro h
    have hoperation := h.operation
    rw [requestedOperation_of_text htext] at hoperation
    exact ⟨⟨h.active, h.aiCommerce, h.binding, h.currency, h.region, h.category, h.amount⟩,
      hoperation.1, hoperation.2.resolve_left⟩
  · rintro ⟨hother, hblocked, hallowed⟩
    refine ⟨hother.active, hother.aiCommerce, hother.binding, ?_, hother.currency, hother.region,
      hother.category, hother.amount⟩
    rw [requestedOperation_of_text htext]
    exact ⟨hblocked, or_iff_not_imp_left.mpr hallowed⟩

/-- **The engine fails closed exactly when the text is an operation as it stands
    and the merchant allows some, or a rule refuses what it is read as.** -/
theorem failsClosed_iff (htext : intent.metadata.get "operation" = some (.str text)) :
    FailsClosed p intent cart evalTime text
      ↔ (∃ op : McpOperation, text = op.value) ∧ p.allowedOperations ≠ ∅
        ∨ OperationRefused p text ∨ ¬ MeetsOtherRules p intent cart evalTime := by
  rw [FailsClosed, not_rejected_iff_of_text htext]
  constructor
  · intro hclosed
    by_cases hrefused : OperationRefused p text
    · exact .inr (.inl hrefused)
    by_cases hother : MeetsOtherRules p intent cart evalTime
    · obtain ⟨op, hop, hallowed, -⟩ := hclosed ⟨hother, hrefused⟩
      exact .inl ⟨⟨op, hop⟩, Finset.ne_empty_of_mem hallowed⟩
    · exact .inr (.inr hother)
  · rintro hcondition ⟨hother, hrefused⟩
    rcases hcondition with ⟨⟨op, rfl⟩, hsome⟩ | hrefused' | hother'
    · -- read as itself, the operation passed the rule of the merchant's sets
      rw [OperationRefused, McpOperation.readAs_value, not_or, not_and, not_not] at hrefused
      exact ⟨op, rfl, hrefused.2 hsome, hrefused.1⟩
    · exact absurd hrefused' hrefused
    · exact absurd hother hother'

open PolicyEngine in
def askingFor (text : String) : CommerceIntent :=
  { Sample.intent with metadata := Sample.intent.metadata.set "operation" (.str text) }

open PolicyEngine in
/-- An order, asked for by its name, is judged closed. -/
theorem createOrder_failsClosed :
    FailsClosed Sample.ownPolicy (askingFor "create_order") (some Sample.cart) 1709210096000000
      "create_order" :=
  (failsClosed_iff (OrderedMap.get_set_self _ _ _)).mpr
    (.inl ⟨⟨.createOrder, rfl⟩, Finset.singleton_ne_empty _⟩)

open PolicyEngine in
/-- **An operation that does not exist is permitted as an order.** -/
theorem unknownOperation_permitted :
    (evaluate Sample.ownPolicy (askingFor "drop_all_orders") (some Sample.cart)
        1709210096000000).decision = .allow
      ∧ ¬ FailsClosed Sample.ownPolicy (askingFor "drop_all_orders") (some Sample.cart)
        1709210096000000 "drop_all_orders" := by
  have hallow : (evaluate Sample.ownPolicy (askingFor "drop_all_orders") (some Sample.cart)
      1709210096000000).decision = .allow := by decide
  refine ⟨hallow, fun hclosed => ?_⟩
  obtain ⟨op, hop, -⟩ := hclosed (by rw [hallow]; decide)
  cases op <;> exact absurd hop (by decide)

end MerchantPolicyEngine

end MandateGateway
