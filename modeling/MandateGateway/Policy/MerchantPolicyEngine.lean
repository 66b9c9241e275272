import MandateGateway.Authorization.ControlResults
import MandateGateway.Lib.Checklist
import MandateGateway.Lib.OrderedMap
import MandateGateway.Policy.Records
import MandateGateway.Policy.SamePurchase

/-! # The merchant policy engine

    `MerchantPolicyEngine.evaluate`: eight rules of the merchant's policy over
    an intent and, when there is one, its cart.  A blocked operation is refused
    before the allowed ones are looked at; the sets of allowed operations,
    regions and categories restrict nothing when they are empty. -/

/-! ## Commerce intents and rule traces

    The intent that the dedicated evaluators judge together with a cart, and
    the audit trace both of them keep: one step for every rule that ran, the
    last of them the rule that refused. -/

namespace MandateGateway

open Checklist

/-- A buyer's parsed shopping intent. -/
structure CommerceIntent where
  buyerId          : String
  targetCategory   : Option String
  targetMerchantId : Option String
  maxBudgetPaise   : Option Int
  currency         : Currency
  region           : Region
  metadata         : OrderedMap String PyValue
  buyerId_ne       : buyerId ≠ ""
  maxBudget_nonneg : ∀ amount, maxBudgetPaise = some amount → 0 ≤ amount

namespace CommerceIntent

/-- `if intent.target_merchant_id`. -/
def namedMerchant (intent : CommerceIntent) : Option String :=
  intent.targetMerchantId.filter (· != "")

/-- The target category that the category rules look at. -/
def namedCategory (intent : CommerceIntent) : Option String :=
  intent.targetCategory.filter fun category =>
    category != "" && Text.lower category != "multi-category"

/-- The MCP operation of the metadata, an order by default. -/
def requestedOperation (intent : CommerceIntent) : McpOperation :=
  match intent.metadata.get "operation" with
  | some (.str text) => (McpOperation.ofValue (Text.lower text)).getD .createOrder
  | _ => .createOrder

/-- `cart.total_paise if cart else (intent.max_budget_paise or 0)`. -/
def evalAmountPaise (intent : CommerceIntent) (cart : Option Cart) : Int :=
  match cart with
  | some cart => cart.totalPaise
  | none => intent.maxBudgetPaise.getD 0

end CommerceIntent

/-- A rule's refusal: its step of the trace and what the result reports. -/
structure RuleRefusal where
  step   : RuleEvaluationStep
  reason : RejectionReason
  detail : String
deriving DecidableEq

abbrev Rule := Check RuleRefusal RuleEvaluationStep

def RuleRefusal.of (ruleName stepDetail : String) (reason : RejectionReason) (detail : String) :
    RuleRefusal where
  step := { ruleName := ruleName, passed := false, detail := stepDetail }
  reason := reason
  detail := detail

/-- A refusal unless the condition holds. -/
def refuseUnless (ok : Bool) (refusal : RuleRefusal) : Option RuleRefusal :=
  if ok then none else some refusal

/-- A rule under its name: its refusal, if any, and the detail of its pass. -/
def Rule.named (ruleName : String) (refusal : Option RuleRefusal) (passDetail : String) : Rule where
  failure := refusal
  label := some { ruleName := ruleName, passed := true, detail := passDetail }

/-- `tuple(steps)`: the rules that passed and then the one that refused. -/
def evaluatedRules (outcome : List RuleEvaluationStep × Option RuleRefusal) :
    List RuleEvaluationStep :=
  outcome.1 ++ (outcome.2.map RuleRefusal.step).toList

theorem refuseUnless_eq_none_iff {ok : Bool} {refusal : RuleRefusal} :
    refuseUnless ok refusal = none ↔ ok = true := by
  rw [refuseUnless]
  cases ok with
  | false => exact ⟨fun h => absurd h (Option.some_ne_none _), fun h => absurd h (by decide)⟩
  | true => exact ⟨fun _ => rfl, fun _ => rfl⟩

end MandateGateway

namespace MandateGateway

open Clock Checklist

namespace MerchantPolicyEngine

/-! ## The refusals of the rules -/

def activeRefusal (p : MerchantPolicy) (evalTime : Instant) : Option RuleRefusal :=
  refuseUnless (p.isActive evalTime)
    (.of "policy_active" s!"Policy version {p.policyVersion} is expired or inactive."
      .merchantPolicyExpired
      s!"Merchant policy {p.policyId} v{p.policyVersion} is expired.")

def aiCommerceRefusal (p : MerchantPolicy) : Option RuleRefusal :=
  refuseUnless p.aiCommerceEnabled
    (.of "ai_commerce_enabled" "AI commerce is disabled for this merchant."
      .aiCommerceDisabled "Merchant policy has disabled AI commerce purchases.")

def bindingRefusal (p : MerchantPolicy) (intent : CommerceIntent) (cart : Option Cart) :
    Option RuleRefusal :=
  (intent.namedMerchant.bind fun target => refuseUnless (target == p.merchantId)
    (.of "merchant_binding"
      (s!"Intent target merchant '{target}' "
        ++ s!"does not match policy merchant '{p.merchantId}'.")
      .merchantMismatch
      s!"Intent merchant '{target}' conflicts with policy merchant '{p.merchantId}'."))
  <|> cart.bind fun cart => refuseUnless (cart.merchantId == p.merchantId)
    (.of "merchant_binding"
      (s!"Cart merchant '{cart.merchantId}' "
        ++ s!"does not match policy merchant '{p.merchantId}'.")
      .merchantMismatch
      (s!"Cart merchant '{cart.merchantId}' conflicts with "
        ++ s!"policy merchant '{p.merchantId}'."))

def operationRefusal (p : MerchantPolicy) (requestedOp : McpOperation) : Option RuleRefusal :=
  refuseUnless (decide (requestedOp ∉ p.blockedOperations))
    (.of "operation_allowed"
      s!"Operation '{requestedOp.value}' is explicitly BLOCKED by merchant policy."
      .operationNotAllowed s!"Operation '{requestedOp.value}' is blocked by merchant policy.")
  <|> refuseUnless
    (decide (p.allowedOperations = ∅) || decide (requestedOp ∈ p.allowedOperations))
    (.of "operation_allowed"
      s!"Operation '{requestedOp.value}' is not in policy allowed_operations set."
      .operationNotAllowed
      s!"Operation '{requestedOp.value}' is not permitted by merchant policy.")

def currencyRefusal (p : MerchantPolicy) (intent : CommerceIntent) : Option RuleRefusal :=
  refuseUnless (intent.currency == p.currency)
    (.of "currency_allowed"
      (s!"Intent currency '{intent.currency.value}' "
        ++ s!"does not match policy currency '{p.currency.value}'.")
      .merchantCurrencyNotSupported
      (s!"Currency '{intent.currency.value}' is not supported by "
        ++ s!"policy '{p.currency.value}'."))

def regionRefusal (p : MerchantPolicy) (intent : CommerceIntent) : Option RuleRefusal :=
  refuseUnless (decide (p.allowedRegions = ∅) || decide (intent.region ∈ p.allowedRegions))
    (.of "region_allowed"
      s!"Intent region '{intent.region.value}' is not in allowed regions set."
      .regionNotAllowed
      s!"Region '{intent.region.value}' is not permitted by merchant policy.")

def categoryRefusal (p : MerchantPolicy) (intent : CommerceIntent) (cart : Option Cart) :
    Option RuleRefusal :=
  if p.allowedCategories = ∅ then none
  else
    let allowedCatsLower := p.allowedCategories.image Text.lower
    (intent.namedCategory.bind fun category =>
      refuseUnless (decide (Text.lower category ∈ allowedCatsLower))
        (.of "category_allowed" s!"Category '{category}' is not in policy allowed_categories."
          .merchantCategoryNotAllowed
          s!"Category '{category}' is not permitted by merchant policy."))
    <|> cart.bind fun cart => cart.items.findSome? fun item =>
      refuseUnless (decide (Text.lower item.category ∈ allowedCatsLower))
        (.of "category_allowed"
          s!"Cart item '{item.productId}' category '{item.category}' is not allowed."
          .merchantCategoryNotAllowed
          s!"Cart item category '{item.category}' is not permitted by merchant policy.")

def amountRefusal (p : MerchantPolicy) (evalAmountPaise : Int) : Option RuleRefusal :=
  refuseUnless (decide (evalAmountPaise ≤ p.autonomousPurchaseLimitPaise))
    (.of "amount_within_autonomous_limit"
      (s!"Amount ({evalAmountPaise} paise) exceeds policy "
        ++ s!"autonomous limit of {p.autonomousPurchaseLimitPaise} paise.")
      .merchantAmountLimitExceeded
      (s!"Requested amount ({evalAmountPaise} paise) exceeds merchant autonomous "
        ++ s!"limit of {p.autonomousPurchaseLimitPaise} paise."))

/-! ## The evaluation -/

/-- The eight rules, in order. -/
def rules (p : MerchantPolicy) (intent : CommerceIntent) (cart : Option Cart)
    (evalTime : Instant) : List Rule :=
  let requestedOp := intent.requestedOperation
  let evalAmountPaise := intent.evalAmountPaise cart
  [ .named "policy_active" (activeRefusal p evalTime)
      s!"Policy v{p.policyVersion} is active.",
    .named "ai_commerce_enabled" (aiCommerceRefusal p) "AI commerce is enabled.",
    .named "merchant_binding" (bindingRefusal p intent cart)
      s!"Merchant identity '{p.merchantId}' verified.",
    .named "operation_allowed" (operationRefusal p requestedOp)
      s!"Operation '{requestedOp.value}' is permitted.",
    .named "currency_allowed" (currencyRefusal p intent)
      s!"Currency '{intent.currency.value}' matches policy.",
    .named "region_allowed" (regionRefusal p intent)
      s!"Region '{intent.region.value}' is permitted.",
    .named "category_allowed" (categoryRefusal p intent cart)
      "Category restrictions satisfied.",
    .named "amount_within_autonomous_limit" (amountRefusal p evalAmountPaise)
      s!"Amount ({evalAmountPaise} paise) is within autonomous limit." ]

def evaluate (p : MerchantPolicy) (intent : CommerceIntent) (cart : Option Cart)
    (evalTime : Instant) : MerchantPolicyEvaluationResult :=
  let outcome := scan (rules p intent cart evalTime)
  { decision := if outcome.2.isNone then .allow else .reject
    merchantId := p.merchantId
    policyId := p.policyId
    policyVersion := p.policyVersion
    rejectionReason := outcome.2.map RuleRefusal.reason
    rejectionDetail := outcome.2.map RuleRefusal.detail
    evaluatedRules := evaluatedRules outcome
    evaluatedAt := evalTime }

/-! ## The requests it permits -/

/-- What the eight rules demand. -/
structure Permits (p : MerchantPolicy) (intent : CommerceIntent) (cart : Option Cart)
    (evalTime : Instant) : Prop where
  active     : ∀ expiry, p.expiresAt = some expiry → evalTime < expiry
  aiCommerce : p.aiCommerceEnabled = true
  binding    : (∀ target, intent.namedMerchant = some target → target = p.merchantId)
    ∧ ∀ c, cart = some c → c.merchantId = p.merchantId
  operation  : intent.requestedOperation ∉ p.blockedOperations
    ∧ (p.allowedOperations = ∅ ∨ intent.requestedOperation ∈ p.allowedOperations)
  currency   : intent.currency = p.currency
  region     : p.allowedRegions = ∅ ∨ intent.region ∈ p.allowedRegions
  category   : p.allowedCategories ≠ ∅ →
    (∀ category, intent.namedCategory = some category → p.isCategoryAllowed category = true)
      ∧ ∀ c, cart = some c → ∀ item ∈ c.items, p.isCategoryAllowed item.category = true
  amount     : intent.evalAmountPaise cart ≤ p.autonomousPurchaseLimitPaise

theorem categoryRefusal_eq_none_iff {p : MerchantPolicy} {intent : CommerceIntent}
    {cart : Option Cart} :
    categoryRefusal p intent cart = none ↔ (p.allowedCategories ≠ ∅ →
      (∀ category, intent.namedCategory = some category → p.isCategoryAllowed category = true)
        ∧ ∀ c, cart = some c → ∀ item ∈ c.items, p.isCategoryAllowed item.category = true) := by
  rw [categoryRefusal]
  by_cases hcategories : p.allowedCategories = ∅
  · rw [if_pos hcategories]
    exact ⟨fun _ hne => absurd hcategories hne, fun _ => rfl⟩
  · rw [if_neg hcategories]
    simp [hcategories, refuseUnless_eq_none_iff, MerchantPolicy.isCategoryAllowed]

/-- **The merchant does not reject exactly when every rule is met.** -/
theorem evaluate_not_rejected_iff {p : MerchantPolicy} {intent : CommerceIntent}
    {cart : Option Cart} {evalTime : Instant} :
    (evaluate p intent cart evalTime).decision ≠ .reject ↔ Permits p intent cart evalTime := by
  have hscan : (evaluate p intent cart evalTime).decision ≠ .reject
      ↔ (scan (rules p intent cart evalTime)).2 = none := by
    show (if (scan (rules p intent cart evalTime)).2.isNone then _ else _) ≠ _ ↔ _
    cases (scan (rules p intent cart evalTime)).2 <;> simp
  rw [hscan, scan_clear_iff, rules]
  simp only [List.forall_mem_cons, Rule.named, activeRefusal, aiCommerceRefusal,
    bindingRefusal, operationRefusal, currencyRefusal, regionRefusal,
    categoryRefusal_eq_none_iff, amountRefusal, Option.orElse_eq_none, Option.bind_eq_none_iff,
    refuseUnless_eq_none_iff, MerchantPolicy.isActive_iff, Bool.or_eq_true, decide_eq_true_iff,
    beq_iff_eq]
  constructor
  · rintro ⟨hactive, hai, hbinding, hoperation, hcurrency, hregion, hcategory, hamount, -⟩
    exact ⟨hactive, hai, hbinding, hoperation, hcurrency, hregion, hcategory, hamount⟩
  · intro h
    exact ⟨h.active, h.aiCommerce, h.binding, h.operation, h.currency, h.region, h.category,
      h.amount, fun c hc => absurd hc List.not_mem_nil⟩

end MerchantPolicyEngine

end MandateGateway
