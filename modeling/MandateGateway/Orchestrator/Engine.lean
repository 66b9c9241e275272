import MandateGateway.Authorization.Consent
import MandateGateway.Db.AuditRepository
import MandateGateway.Execution.ToolProxy
import MandateGateway.Policy.CartIntegrity
import MandateGateway.Receipt.Record
import MandateGateway.StepUp.Engine

/-! # The commerce orchestrator

    `CommerceOrchestrator.execute_intent`: one call takes a user's intent from
    the catalog through seven controls to the payment and its receipt.  Of the
    seven controls four are decided by what is looked up, and three report
    ALLOW whatever the request.

    * `internal_effect`: a call raises, withholds the payment or attempts it,
      with the condition on its inputs under which it does each;
    * `payment_isSome_iff`: which calls reach the payment service. -/

namespace MandateGateway

open Clock

/-! ## Requests and stores -/

/-- The input of an end-to-end commerce intent. -/
structure OrchestratorExecutionRequest where
  userIntentText    : String
  buyerId           : String
  mandateId         : String
  merchantId        : String
  idempotencyKey    : String
  text_bounded      : userIntentText ≠ "" ∧ userIntentText.length ≤ 1000
  buyerId_ne        : buyerId ≠ ""
  mandateId_ne      : mandateId ≠ ""
  merchantId_ne     : merchantId ≠ ""
  idempotencyKey_ne : idempotencyKey ≠ ""

/-- A product of the catalog, as it is reported; nothing of it is checked. -/
structure ProductResponse where
  productId  : String
  merchantId : String
  name       : String
  category   : String
  pricePaise : Int
  currency   : Currency

/-- A merchant's policy, as it is reported. -/
structure PolicyResponse where
  policyVersion                : Int
  aiCommerceEnabled            : Bool
  autonomousPurchaseLimitPaise : Int

/-- A mandate, as it is reported. -/
structure MandateResponse where
  mandateId           : String
  buyerId             : String
  version             : Int
  merchantScope       : Finset String
  categoryScope       : Finset String
  allowedRegions      : Finset Region
  maximumAmountPaise  : Int
  dailyBudgetPaise    : Int
  currency            : Currency
  autonomousExecution : Bool
  status              : MandateStatus
  issuedAt            : Instant
  expiresAt           : Instant

/-- The stores that the routers keep in memory: `_MANDATES`,
    `_MERCHANT_POLICIES` and `_PRODUCTS`. -/
structure CommerceStores where
  mandates         : OrderedMap String MandateResponse
  merchantPolicies : OrderedMap String PolicyResponse
  products         : OrderedMap String ProductResponse

/-- `uuid.uuid4().hex`. -/
structure UuidHex where
  hex    : String
  digits : hex.toList.length = 32 ∧ ∀ c ∈ hex.toList, isLowerHex c = true

/-- The first digits of an identifier. -/
def UuidHex.first (n : Nat) (u : UuidHex) : String := String.ofList (u.hex.toList.take n)

/-- What a call draws fresh identifiers for. -/
inductive UuidUse where
  | transaction | product | cart | auditEvent | receipt | eventHashHead | eventHashTail
  | payloadHashHead | payloadHashTail | signature
deriving DecidableEq

/-- What the running process supplies to one call: the time that is printed, the
    environment of the services, and fresh identifiers. -/
structure OrchestratorEnv where
  now     : Datetime
  ambient : Ambient
  uuid    : UuidUse → UuidHex

/-- One call of `execute_intent`, with the environment, the stores and the
    provider it meets. -/
structure OrchestratorCall where
  env     : OrchestratorEnv
  stores  : CommerceStores
  adapter : RazorpayAdapter
  request : OrchestratorExecutionRequest

structure AuditEventResponse where
  eventId       : String
  eventType     : AuditEventType
  timestamp     : Datetime
  transactionId : Option String
  mandateId     : Option String
  merchantId    : Option String
  buyerId       : Option String
  payload       : List (String × PyValue)
  previousHash  : String
  eventHash     : String

/-- A receipt, as it is reported: the fields of an action receipt, unchecked. -/
abbrev ReceiptResponse : Type := ActionReceipt

/-- The output of an end-to-end commerce intent. -/
structure EndToEndExecutionResult where
  transactionId       : String
  buyerId             : String
  merchantId          : String
  mandateId           : String
  overallDecision     : PolicyDecision
  transactionState    : TransactionState
  amountPaise         : Int
  currency            : Currency
  rejectionReason     : Option RejectionReason
  rejectionDetail     : Option String
  authorizationResult : Option AuthorizationResult
  executionResult     : Option ExecutionResult
  auditEvents         : List AuditEventResponse
  receipt             : Option ReceiptResponse
  executedAt          : Datetime

namespace OrchestratorCall

variable (sha : Sha256) (c : OrchestratorCall)

def transactionId : String := "tx_e2e_" ++ (c.env.uuid .transaction).first 12

/-! ## The cart -/

/-- `user_intent_text[:100]`.  A normalized intent has no item name, so that the
    exception branch of the normalization is always the one that is taken. -/
def intentItemName : String := String.ofList (c.request.userIntentText.toList.take 100)

def intentCategory : String := "electronics"

/-- The product of a merchant who has none in the catalog. -/
def defaultProduct : ProductResponse where
  productId := "prd_e2e_" ++ (c.env.uuid .product).first 6
  merchantId := c.request.merchantId
  name := orElseText (some c.intentItemName) "Default Catalog Item"
  category := orElseText (some intentCategory) "electronics"
  pricePaise := 150000
  currency := .inr

/-- The merchant's first product. -/
def selectedProduct : ProductResponse :=
  let merchantProducts :=
    c.stores.products.values.filter fun p => p.merchantId == c.request.merchantId
  merchantProducts.head?.getD c.defaultProduct

/-- The fields of a product that `CartItem(...)` refuses. -/
def faultyFields (p : ProductResponse) : List String :=
  (if p.productId = "" then ["product_id"] else [])
    ++ (if p.name = "" ∨ 500 < p.name.length then ["name"] else [])
    ++ (if p.category = "" ∨ 100 < p.category.length then ["category"] else [])
    ++ (if p.pricePaise < 0 then ["unit_price_paise"] else [])

/-- What `CartItem(...)` demands of a product. -/
structure Sellable (p : ProductResponse) : Prop where
  productId_ne     : p.productId ≠ ""
  name_bounded     : p.name ≠ "" ∧ p.name.length ≤ 500
  category_bounded : p.category ≠ "" ∧ p.category.length ≤ 100
  price_nonneg     : 0 ≤ p.pricePaise

theorem faultyFields_eq_nil_iff {p : ProductResponse} : faultyFields p = [] ↔ Sellable p := by
  simp only [faultyFields, List.append_eq_nil_iff, ite_eq_right_iff, List.cons_ne_nil, imp_false,
    not_or, not_lt]
  constructor
  · rintro ⟨⟨⟨hid, hname⟩, hcategory⟩, hprice⟩
    exact ⟨hid, hname, hcategory, hprice⟩
  · intro h
    exact ⟨⟨⟨h.productId_ne, h.name_bounded⟩, h.category_bounded⟩, h.price_nonneg⟩

theorem one_le_one : (1 : Int) ≤ 1 := Int.le_refl 1

theorem zero_le_zero : (0 : Int) ≤ 0 := Int.le_refl 0

/-- One piece of a product. -/
def cartItem (p : ProductResponse) (h : Sellable p) : CartItem where
  productId := p.productId
  merchantId := c.request.merchantId
  name := p.name
  category := p.category
  quantity := 1
  unitPricePaise := p.pricePaise
  currency := p.currency
  productId_ne := h.productId_ne
  name_bounded := h.name_bounded
  category_bounded := h.category_bounded
  quantity_pos := one_le_one
  price_nonneg := h.price_nonneg

def cartOf (p : ProductResponse) (h : Sellable p) : Cart where
  cartId := "cart_" ++ (c.env.uuid .cart).first 8
  merchantId := c.request.merchantId
  mandateId := c.request.mandateId
  currency := p.currency
  items := [c.cartItem p h]
  taxPaise := 0
  shippingPaise := 0
  totalPaise := (c.cartItem p h).subtotalPaise
  createdAt := c.env.ambient.now
  cartHash := ""
  merchantId_ne := c.request.merchantId_ne
  mandateId_ne := c.request.mandateId_ne
  items_ne := List.cons_ne_nil _ _
  items_match := by
    intro item hitem
    rw [List.mem_singleton.mp hitem]
    exact ⟨rfl, rfl⟩
  tax_nonneg := zero_le_zero
  shipping_nonneg := zero_le_zero
  total_eq := by simp

/-- The cart of the call, or the refusal of its line item. -/
def buildCart : Except PyError Cart :=
  if h : faultyFields c.selectedProduct = [] then
    .ok (c.cartOf c.selectedProduct (faultyFields_eq_nil_iff.mp h))
  else .error (.validationError "CartItem" (faultyFields c.selectedProduct))

/-! ## The controls -/

def policyResponse : Option PolicyResponse := c.stores.merchantPolicies.get c.request.merchantId

def mandateResponse : Option MandateResponse := c.stores.mandates.get c.request.mandateId

/-- `CartIntegrityVerifier.verify(cart_hash, cart).valid`. -/
def cartIntegrityOk (cart : Cart) : Bool :=
  (CartIntegrityVerifier.verify sha (.hash (cart.computeCartObjectHash sha)) cart none
    c.env.ambient.now).valid

def merchantOk : Bool := c.policyResponse.any PolicyResponse.aiCommerceEnabled

def mandateOk : Bool := c.mandateResponse.any fun m => m.status.value == "ACTIVE"

def decided (controlName : String) (ok : Bool) (reason : RejectionReason)
    (okDetail failDetail : String) : SecurityControlOutcome where
  controlName := controlName
  passed := ok
  decision := if ok then .allow else .reject
  rejectionReason := if ok then none else some reason
  detail := some (if ok then okDetail else failDetail)
  stepUpDiff := none

def cartOutcome (cart : Cart) : SecurityControlOutcome :=
  decided "CART_INTEGRITY" (c.cartIntegrityOk sha cart) .cartIntegrityViolation
    "Cart hash matches items." "Cart hash mismatch."

def merchantOutcome : SecurityControlOutcome :=
  decided "MERCHANT_POLICY" c.merchantOk .aiCommerceDisabled "Merchant AI commerce enabled."
    "AI commerce disabled by merchant."

def mandateOutcome : SecurityControlOutcome :=
  decided "MANDATE_EVALUATION" c.mandateOk .mandateNotActive "Buyer mandate active."
    "Buyer mandate inactive or revoked."

/-- A control that passes whatever the request. -/
def passing (controlName detail : String) : SecurityControlOutcome where
  controlName := controlName
  passed := true
  decision := .allow
  rejectionReason := none
  detail := some detail
  stepUpDiff := none

def budgetOutcome : SecurityControlOutcome :=
  passing "BUDGET_RESERVATION" "Daily budget available."

def replayOutcome : SecurityControlOutcome :=
  passing "REPLAY_PROTECTION" "Request is fresh and unique."

def nonceOutcome : SecurityControlOutcome :=
  passing "NONCE_VALIDATION" "Nonce validated and consumed."

def limitPaise : Int :=
  match c.policyResponse with
  | some policy => policy.autonomousPurchaseLimitPaise
  | none => 500000

/-- An amount in rupees, which passes through a float. -/
def rupees (paise : Int) : Except PyError String := (trueDiv paise 100).map Binary64.text

def percentOver (delta limit : Int) : Except PyError Binary64 :=
  if 0 < limit then deltaPercent delta limit else .ok (.finite 100)

def overLimitText (total limit : Int) : Except PyError String := do
  let totalText ← rupees total
  let limitText ← rupees limit
  .ok s!"Cart total ₹{totalText} exceeds autonomous limit ₹{limitText}."

def overLimit (total limit : Int) : Except PyError SecurityControlOutcome := do
  let percent ← percentOver (total - limit) limit
  let text ← overLimitText total limit
  .ok {
    controlName := "autonomous_limit"
    passed := false
    decision := .stepUpRequired
    rejectionReason := some .merchantAmountLimitExceeded
    detail := some text
    stepUpDiff := some {
      approvedPaise := limit
      proposedPaise := total
      deltaPaise := total - limit
      deltaPercent := percent
      reason := text } }

def withinLimit (total limit : Int) : Except PyError SecurityControlOutcome := do
  let totalText ← rupees total
  let limitText ← rupees limit
  .ok (passing "autonomous_limit" s!"Cart total ₹{totalText} within limit ₹{limitText}.")

def stepUpOutcome (total limit : Int) : Except PyError SecurityControlOutcome :=
  if limit < total then overLimit total limit else withinLimit total limit

/-! ## The decision -/

/-- What the aggregator is given. -/
def aggregationInput (cart : Cart) (stepUp : SecurityControlOutcome) :
    AuthorizationAggregationInput where
  mandateOutcome := some (.inl c.mandateOutcome)
  merchantPolicyOutcome := some (.inl c.merchantOutcome)
  cartIntegrityOutcome := some (c.cartOutcome sha cart)
  budgetOutcome := some budgetOutcome
  replayOutcome := some replayOutcome
  nonceOutcome := some nonceOutcome
  stepUpOutcome := some stepUp

def aggResult (cart : Cart) (stepUp : SecurityControlOutcome) : AggregatedAuthorizationResult :=
  AuthorizationAggregator.aggregate c.env.ambient c.transactionId
    (c.aggregationInput sha cart stepUp) none

def authResult (cart : Cart) (stepUp : SecurityControlOutcome) : AuthorizationResult where
  decision := (c.aggResult sha cart stepUp).decision
  controlOutcomes := [c.cartOutcome sha cart, c.merchantOutcome, c.mandateOutcome, budgetOutcome,
    replayOutcome, nonceOutcome, stepUp]
  rejectionReason := (c.aggResult sha cart stepUp).rejectionReason
  rejectionDetail := (c.aggResult sha cart stepUp).rejectionDetail
  decisionTrace := .empty

/-! ## The payment -/

def mandateVersion : Int := (c.mandateResponse.map MandateResponse.version).getD 1

def policyVersion : Int := (c.policyResponse.map PolicyResponse.policyVersion).getD 1

theorem authorized_has_no_reason :
    (none : Option RejectionReason).isSome = true ↔ TransactionState.authorized = .rejected := by
  constructor
  · intro h
    cases h
  · intro h
    cases h

def authorizedTransaction (cart : Cart) : Transaction where
  transactionId := c.transactionId
  buyerId := c.request.buyerId
  merchantId := c.request.merchantId
  mandateId := c.request.mandateId
  mandateVersion := c.mandateVersion
  policyVersion := c.policyVersion
  cartId := some cart.cartId
  cartHash := some (cart.computeCartObjectHash sha)
  amountPaise := cart.totalPaise
  currency := cart.currency
  state := .authorized
  rejectionReason := none
  rejectionDetail := none
  idempotencyKey := c.request.idempotencyKey
  nonce := none
  createdAt := c.env.ambient.now
  updatedAt := c.env.ambient.now
  stepUpRequiredAt := none
  stepUpApprovedAt := none
  stepUpAmountPaise := none
  razorpayOrderId := none
  razorpayPaymentId := none
  rejection_iff := authorized_has_no_reason

/-- `Transaction(...)`: of its fields only the versions can be refused here. -/
def transaction (cart : Cart) : Except PyError Transaction :=
  let faults := (if c.mandateVersion < 1 then ["mandate_version"] else [])
    ++ if c.policyVersion < 1 then ["policy_version"] else []
  if faults = [] then .ok (c.authorizedTransaction sha cart)
  else .error (.validationError "Transaction" faults)

def proposal (cart : Cart) : PaymentExecuteProposalRequest where
  transactionId := c.transactionId
  merchantId := c.request.merchantId
  buyerId := c.request.buyerId
  mandateId := c.request.mandateId
  amountPaise := cart.totalPaise
  currency := cart.currency
  cartHash := cart.computeCartObjectHash sha
  operation := .createOrder
  idempotencyKey := c.request.idempotencyKey
  untrustedMetadata := []

/-- The call of the payment service, unless the transaction is refused. -/
def pay (cart : Cart) (auth : AuthorizationResult) (service : PaymentExecutionService) :
    Option CallOutcome × PaymentExecutionService :=
  match c.transaction sha cart with
  | .error _ => (none, service)
  | .ok tx =>
      let r := service.executePayment c.env.ambient c.adapter (c.proposal sha cart) auth tx
      (some r.1, r.2)

/-- `state`: every exception counts as a failure. -/
def stateAfter (payment : Option CallOutcome) : TransactionState :=
  match payment with
  | some ⟨.ok res, _, _⟩ => if res.success then .committed else .failure
  | _ => .failure

/-- `exec_result`: the stored result, unless there was an exception. -/
def executionResult (payment : Option CallOutcome) (service : PaymentExecutionService) :
    Option ExecutionResult :=
  match payment with
  | some ⟨.ok _, _, _⟩ => service.results.get c.transactionId
  | _ => none

/-! ## The records of a decision -/

def zeroHash : String := "0000000000000000000000000000000000000000000000000000000000000000"

/-- The audit event of a decision; its hash is made of fresh identifiers. -/
def auditEvent (eventType : AuditEventType) (payload : List (String × PyValue)) :
    AuditEventResponse where
  eventId := "evt_" ++ (c.env.uuid .auditEvent).first 12
  eventType := eventType
  timestamp := c.env.now
  transactionId := some c.transactionId
  mandateId := some c.request.mandateId
  merchantId := some c.request.merchantId
  buyerId := some c.request.buyerId
  payload := payload
  previousHash := zeroHash
  eventHash := (c.env.uuid .eventHashHead).hex ++ (c.env.uuid .eventHashTail).hex

def auditEventOf (cart : Cart) (auth : AuthorizationResult) : AuditEventResponse :=
  match auth.decision with
  | .allow =>
      c.auditEvent .executionAuthorized
        [("action", .str "execute"), ("amount_paise", .int cart.totalPaise)]
  | .stepUpRequired =>
      c.auditEvent .stepUpRequested
        [("action", .str "step_up"), ("amount_paise", .int cart.totalPaise)]
  | .reject =>
      c.auditEvent .policyEvaluated
        [("action", .str "reject"), ("reason", (auth.rejectionDetail.map PyValue.str).getD .none)]

def signatureText : String := "ed25519:sig_" ++ (c.env.uuid .signature).hex

/-- The receipt: its hash and its signature are made of fresh identifiers. -/
def receipt (cart : Cart) (auditHash : String) : ReceiptResponse where
  receiptVersion := "1.0"
  receiptId := "rcpt_" ++ (c.env.uuid .receipt).first 12
  transactionId := c.transactionId
  mandateId := c.request.mandateId
  merchantId := c.request.merchantId
  policyVersion := c.policyVersion
  cartHash := cart.computeCartObjectHash sha
  amountPaise := cart.totalPaise
  currency := cart.currency
  decision := .allow
  executionTool := some "razorpay_create_order"
  executionReference := some "order_e2e_123"
  authorizedAt := c.env.now
  executedAt := some c.env.now
  createdAt := c.env.now
  auditHash := some auditHash
  canonicalPayloadHash := (c.env.uuid .payloadHashHead).hex ++ (c.env.uuid .payloadHashTail).hex
  signature := some c.signatureText

def assemble (cart : Cart) (auth : AuthorizationResult) (state : TransactionState)
    (execResult : Option ExecutionResult) (receipt : Option ReceiptResponse) :
    EndToEndExecutionResult where
  transactionId := c.transactionId
  buyerId := c.request.buyerId
  merchantId := c.request.merchantId
  mandateId := c.request.mandateId
  overallDecision := auth.decision
  transactionState := state
  amountPaise := cart.totalPaise
  currency := cart.currency
  rejectionReason := if auth.decision = .reject then auth.rejectionReason else none
  rejectionDetail := if auth.decision = .reject then auth.rejectionDetail else none
  authorizationResult := some auth
  executionResult := execResult
  auditEvents := [c.auditEventOf cart auth]
  receipt := receipt
  executedAt := c.env.now

/-! ## The call -/

/-- The branches of the decision, with what was asked of the payment service. -/
def route (cart : Cart) (auth : AuthorizationResult) (service : PaymentExecutionService) :
    EndToEndExecutionResult × Option CallOutcome × PaymentExecutionService :=
  match auth.decision with
  | .allow =>
      let payment := c.pay sha cart auth service
      let receipt := c.receipt sha cart (c.auditEventOf cart auth).eventHash
      (c.assemble cart auth (stateAfter payment.1) (c.executionResult payment.1 payment.2)
        (some receipt), payment)
  | .stepUpRequired => (c.assemble cart auth .stepUpRequired none none, none, service)
  | .reject => (c.assemble cart auth .rejected none none, none, service)

/-- `_execute_intent_internal`: the result, the call of the payment service, if
    it was reached, and the service afterwards. -/
def executeIntentInternal (service : PaymentExecutionService) :
    Except PyError EndToEndExecutionResult × Option CallOutcome × PaymentExecutionService :=
  match c.buildCart with
  | .error err => (.error err, none, service)
  | .ok cart =>
      match stepUpOutcome cart.totalPaise c.limitPaise with
      | .error err => (.error err, none, service)
      | .ok stepUp =>
          let r := c.route sha cart (c.authResult sha cart stepUp) service
          (.ok r.1, r.2)

/-! ## When the payment is allowed -/

/-- The cart can be built and its amounts can be printed. -/
def Completes : Prop :=
  ∃ cart stepUp, c.buildCart = .ok cart
    ∧ stepUpOutcome cart.totalPaise c.limitPaise = .ok stepUp

/-- What the controls demand that are decided by the request. -/
structure Allowed : Prop where
  policy  : ∃ p, c.policyResponse = some p ∧ p.aiCommerceEnabled = true
    ∧ c.selectedProduct.pricePaise ≤ p.autonomousPurchaseLimitPaise
  mandate : ∃ m, c.mandateResponse = some m ∧ m.status = .active

/-- The calls that reach the payment service. -/
structure Reaches : Prop where
  completes      : c.Completes
  allowed        : c.Allowed
  mandateVersion : 1 ≤ c.mandateVersion
  policyVersion  : 1 ≤ c.policyVersion

section
variable {sha : Sha256} {c : OrchestratorCall} {cart : Cart} {stepUp : SecurityControlOutcome}

theorem buildCart_eq_ok_iff :
    c.buildCart = .ok cart
      ↔ ∃ h : Sellable c.selectedProduct, cart = c.cartOf c.selectedProduct h := by
  rw [buildCart]
  by_cases h : faultyFields c.selectedProduct = []
  · rw [dif_pos h]
    constructor
    · intro heq
      exact ⟨faultyFields_eq_nil_iff.mp h, (Except.ok.inj heq).symm⟩
    · rintro ⟨_, rfl⟩
      rfl
  · rw [dif_neg h]
    constructor
    · intro heq
      cases heq
    · rintro ⟨hsellable, -⟩
      exact absurd (faultyFields_eq_nil_iff.mpr hsellable) h

theorem totalPaise_of_buildCart (h : c.buildCart = .ok cart) :
    cart.totalPaise = c.selectedProduct.pricePaise := by
  obtain ⟨_, rfl⟩ := buildCart_eq_ok_iff.mp h
  exact Int.one_mul _

theorem currency_of_buildCart (h : c.buildCart = .ok cart) :
    cart.currency = c.selectedProduct.currency := by
  obtain ⟨_, rfl⟩ := buildCart_eq_ok_iff.mp h
  rfl

theorem cartHash_of_buildCart (h : c.buildCart = .ok cart) : cart.cartHash = "" := by
  obtain ⟨_, rfl⟩ := buildCart_eq_ok_iff.mp h
  rfl

/-- **The integrity check compares a cart with itself**, and passes. -/
theorem cartIntegrityOk_of_buildCart (h : c.buildCart = .ok cart) :
    c.cartIntegrityOk sha cart = true := by
  have hexpected : CartIntegrityVerifier.expectedHash sha (.hash (cart.computeCartObjectHash sha))
      = cart.computeCartObjectHash sha := by
    rw [CartIntegrityVerifier.expectedHash, Cart.computeCartObjectHash, sha.strip_hexdigest,
      sha.lower_hexdigest]
  rw [cartIntegrityOk, CartIntegrityVerifier.verify_valid_iff, hexpected,
    CartIntegrityVerifier.currentHash_of_none (cartHash_of_buildCart h)]
  exact ⟨sha.isValidHex64_hexdigest _, rfl⟩

theorem merchantOk_iff :
    c.merchantOk = true ↔ ∃ p, c.policyResponse = some p ∧ p.aiCommerceEnabled = true := by
  rw [merchantOk, Option.any_eq_true]

theorem mandateOk_iff :
    c.mandateOk = true ↔ ∃ m, c.mandateResponse = some m ∧ m.status = .active := by
  have hactive : ∀ s : MandateStatus, (s.value == "ACTIVE") = true ↔ s = .active := by
    intro s
    cases s <;> decide
  simp only [mandateOk, Option.any_eq_true, hactive]

theorem fails_decided (k : ControlCheck) {controlName okDetail failDetail : String} {ok : Bool}
    {reason : RejectionReason} :
    k.fails (decided controlName ok reason okDetail failDetail) = !ok := by
  cases ok with
  | false => exact Bool.or_true _
  | true => simp [ControlCheck.fails, decided]

theorem fails_passing (k : ControlCheck) {controlName detail : String} :
    k.fails (passing controlName detail) = false := by
  simp [ControlCheck.fails, passing]

theorem stepUpOutcome_spec {total limit : Int} (h : stepUpOutcome total limit = .ok stepUp) :
    stepUp.controlName = "autonomous_limit"
      ∧ (stepUp.decision = .stepUpRequired ∧ stepUp.stepUpDiff ≠ none ↔ limit < total) := by
  rw [stepUpOutcome] at h
  by_cases hover : limit < total
  · rw [if_pos hover, overLimit] at h
    obtain ⟨percent, -, h⟩ := Exceptions.seq_eq_ok_iff.mp h
    obtain ⟨text, -, h⟩ := Exceptions.seq_eq_ok_iff.mp h
    cases h
    exact ⟨rfl, iff_of_true ⟨rfl, Option.some_ne_none _⟩ hover⟩
  · rw [if_neg hover, withinLimit] at h
    obtain ⟨totalText, -, h⟩ := Exceptions.seq_eq_ok_iff.mp h
    obtain ⟨limitText, -, h⟩ := Exceptions.seq_eq_ok_iff.mp h
    cases h
    exact ⟨rfl, iff_of_false (fun hs => nomatch hs.1) hover⟩

theorem stepUpOutcome_of_printable {total limit : Int} {x y : Binary64} (hle : total ≤ limit)
    (hx : trueDiv total 100 = .ok x) (hy : trueDiv limit 100 = .ok y) :
    ∃ stepUp, stepUpOutcome total limit = .ok stepUp := by
  rw [stepUpOutcome, if_neg (Int.not_lt.mpr hle), withinLimit, rupees, rupees, hx, hy]
  exact ⟨_, rfl⟩

/-! ## What the aggregator and the gate make of it -/

theorem firstFailing_eq_none_iff (sha : Sha256) (stepUp : SecurityControlOutcome)
    (hcart : c.buildCart = .ok cart) :
    (c.aggregationInput sha cart stepUp).firstFailing = none
      ↔ c.merchantOk = true ∧ c.mandateOk = true := by
  have hsupplied : (c.aggregationInput sha cart stepUp).supplied
      = [(.mandate, c.mandateOutcome), (.merchantPolicy, c.merchantOutcome),
          (.cartIntegrity, c.cartOutcome sha cart), (.budget, budgetOutcome),
          (.replay, replayOutcome), (.nonce, nonceOutcome)] := rfl
  rw [AuthorizationAggregationInput.firstFailing, hsupplied, List.find?_eq_none]
  simp only [List.forall_mem_cons, mandateOutcome, merchantOutcome, cartOutcome, budgetOutcome,
    replayOutcome, nonceOutcome, fails_decided, fails_passing, cartIntegrityOk_of_buildCart hcart]
  simp [and_comm]

theorem stepUpRequired_iff (sha : Sha256)
    (hstep : stepUpOutcome cart.totalPaise c.limitPaise = .ok stepUp) :
    (c.aggregationInput sha cart stepUp).StepUpRequired ↔ c.limitPaise < cart.totalPaise := by
  have hpolicy : c.merchantOutcome.decision ≠ .stepUpRequired := by
    rw [merchantOutcome, decided]
    cases c.merchantOk <;> exact nofun
  rw [← (stepUpOutcome_spec hstep).2]
  constructor
  · rintro (⟨p, hp, hdecision⟩ | ⟨s, hs, hdecision, hdiff⟩)
    · obtain rfl := Option.some.inj hp
      exact absurd hdecision hpolicy
    · obtain rfl := Option.some.inj hs
      exact ⟨hdecision, hdiff⟩
  · rintro ⟨hdecision, hdiff⟩
    exact .inr ⟨stepUp, rfl, hdecision, hdiff⟩

/-- A request is allowed by the two lookups and the limit. -/
theorem allowed_iff (hcart : c.buildCart = .ok cart) :
    c.Allowed ↔ (c.merchantOk = true ∧ c.mandateOk = true) ∧ ¬ c.limitPaise < cart.totalPaise := by
  rw [merchantOk_iff, mandateOk_iff, totalPaise_of_buildCart hcart, Int.not_lt]
  constructor
  · rintro ⟨⟨p, hp, henabled, hlimit⟩, hmandate⟩
    have hlimitPaise : c.limitPaise = p.autonomousPurchaseLimitPaise := by
      rw [limitPaise, hp]
    exact ⟨⟨⟨p, hp, henabled⟩, hmandate⟩, hlimitPaise ▸ hlimit⟩
  · rintro ⟨⟨⟨p, hp, henabled⟩, hmandate⟩, hlimit⟩
    rw [limitPaise, hp] at hlimit
    exact ⟨⟨p, hp, henabled, hlimit⟩, hmandate⟩

/-- **The decision is ALLOW exactly for an allowed request.** -/
theorem decision_allow_iff (sha : Sha256) (hcart : c.buildCart = .ok cart)
    (hstep : stepUpOutcome cart.totalPaise c.limitPaise = .ok stepUp) :
    (c.authResult sha cart stepUp).decision = .allow ↔ c.Allowed := by
  have hsupplied : (c.aggregationInput sha cart stepUp).MandatorySupplied :=
    ⟨Option.some_ne_none _, Option.some_ne_none _, Option.some_ne_none _⟩
  rw [allowed_iff hcart, ← firstFailing_eq_none_iff sha stepUp hcart,
    ← stepUpRequired_iff sha hstep]
  show (c.aggResult sha cart stepUp).decision = .allow ↔ _
  rw [aggResult]
  cases hfail : (c.aggregationInput sha cart stepUp).firstFailing with
  | some failing =>
      obtain ⟨k, o⟩ := failing
      rw [(AuthorizationAggregator.aggregate_refused hsupplied hfail).1]
      exact iff_of_false nofun fun h => nomatch h.1
  | none =>
      obtain ⟨hrequired, hallow⟩ := AuthorizationAggregator.aggregate_cleared c.env.ambient
        c.transactionId none hsupplied hfail
      by_cases hover : (c.aggregationInput sha cart stepUp).StepUpRequired
      · rw [hrequired hover]
        exact iff_of_false nofun fun h => h.2 hover
      · exact iff_of_true (hallow hover) ⟨rfl, hover⟩

theorem decision_decided {controlName okDetail failDetail : String} {ok : Bool}
    {reason : RejectionReason} (h : ok = true) :
    (decided controlName ok reason okDetail failDetail).decision = .allow :=
  if_pos h

theorem lastOutcome_authResult
    (hstep : stepUpOutcome cart.totalPaise c.limitPaise = .ok stepUp) (name : String) :
    (c.authResult sha cart stepUp).lastOutcome name
      = if name = "autonomous_limit" then some stepUp
        else if name = "NONCE_VALIDATION" then some nonceOutcome
        else if name = "REPLAY_PROTECTION" then some replayOutcome
        else if name = "BUDGET_RESERVATION" then some budgetOutcome
        else if name = "MANDATE_EVALUATION" then some c.mandateOutcome
        else if name = "MERCHANT_POLICY" then some c.merchantOutcome
        else if name = "CART_INTEGRITY" then some (c.cartOutcome sha cart)
        else none := by
  have hreverse : (c.authResult sha cart stepUp).controlOutcomes.reverse
      = [stepUp, nonceOutcome, replayOutcome, budgetOutcome, c.mandateOutcome, c.merchantOutcome,
          c.cartOutcome sha cart] := rfl
  rw [AuthorizationResult.lastOutcome, hreverse]
  simp only [List.find?_cons, (stepUpOutcome_spec hstep).1, nonceOutcome, replayOutcome,
    budgetOutcome, passing, mandateOutcome, merchantOutcome, cartOutcome, decided, List.find?_nil]
  grind

/-- **The gate is open for what the orchestrator allows.** -/
theorem gate_of_allowed (hcart : c.buildCart = .ok cart)
    (hstep : stepUpOutcome cart.totalPaise c.limitPaise = .ok stepUp) (hallowed : c.Allowed) :
    executionGate (c.proposal sha cart) (c.authResult sha cart stepUp)
      (c.authorizedTransaction sha cart) = .ok none := by
  obtain ⟨⟨hmerchant, hmandate⟩, -⟩ := (allowed_iff hcart).mp hallowed
  have hauthorized : Authorized (c.authResult sha cart stepUp) := by
    refine ⟨(decision_allow_iff sha hcart hstep).mpr hallowed, ?_, ?_⟩
    · intro name hname
      simp only [requiredControls, List.mem_cons, List.not_mem_nil, or_false] at hname
      rw [lastOutcome_authResult hstep]
      rcases hname with rfl | rfl | rfl | rfl | rfl | rfl
      · exact ⟨_, rfl, decision_decided hmandate⟩
      · exact ⟨_, rfl, decision_decided hmerchant⟩
      · exact ⟨_, rfl, decision_decided (cartIntegrityOk_of_buildCart hcart)⟩
      · exact ⟨_, rfl, rfl⟩
      · exact ⟨_, rfl, rfl⟩
      · exact ⟨_, rfl, rfl⟩
    · intro o ho
      rw [lastOutcome_authResult hstep] at ho
      cases ho
  have hcontext : ContextMatches (c.proposal sha cart) (c.authorizedTransaction sha cart) := by
    refine ⟨rfl, rfl, rfl, rfl, rfl, rfl, ?_, .inl rfl⟩
    intro h hh _
    obtain rfl := Option.some.inj hh
    rfl
  exact executionGate_eq_none_iff.mpr ⟨hauthorized, hcontext, rfl⟩

/-! ## What a call does -/

theorem transaction_eq_ok_iff {tx : Transaction} :
    c.transaction sha cart = .ok tx
      ↔ 1 ≤ c.mandateVersion ∧ 1 ≤ c.policyVersion ∧ tx = c.authorizedTransaction sha cart := by
  rw [transaction]
  by_cases hmandate : c.mandateVersion < 1
  · simp [hmandate, Int.not_le.mpr hmandate]
  · by_cases hpolicy : c.policyVersion < 1
    · simp [hmandate, hpolicy, Int.not_le.mpr hpolicy]
    · simp [hmandate, hpolicy, Int.not_lt.mp hmandate, Int.not_lt.mp hpolicy, eq_comm]

theorem pay_isSome_iff {auth : AuthorizationResult} {service : PaymentExecutionService} :
    (c.pay sha cart auth service).1.isSome = true
      ↔ 1 ≤ c.mandateVersion ∧ 1 ≤ c.policyVersion := by
  rw [pay]
  cases htx : c.transaction sha cart with
  | error err =>
      refine iff_of_false Bool.false_ne_true ?_
      rintro ⟨hmandate, hpolicy⟩
      rw [transaction_eq_ok_iff.mpr ⟨hmandate, hpolicy, rfl⟩] at htx
      cases htx
  | ok tx =>
      obtain ⟨hmandate, hpolicy, -⟩ := transaction_eq_ok_iff.mp htx
      exact iff_of_true rfl ⟨hmandate, hpolicy⟩

end

/-- The call of the payment service is not made, or executes the authorized
    transaction. -/
theorem pay_cases (cart : Cart) (auth : AuthorizationResult) (service : PaymentExecutionService) :
    c.pay sha cart auth service = (none, service)
      ∨ c.transaction sha cart = .ok (c.authorizedTransaction sha cart)
        ∧ ∃ o s', c.pay sha cart auth service = (some o, s')
          ∧ PaymentExecutionService.ExecuteEffect service c.adapter (c.proposal sha cart) auth
            (c.authorizedTransaction sha cart) o s' := by
  rw [pay]
  cases htx : c.transaction sha cart with
  | error err => exact .inl rfl
  | ok tx =>
      obtain ⟨-, -, rfl⟩ := transaction_eq_ok_iff.mp htx
      exact .inr ⟨rfl, _, _, rfl, service.execute_effect ..⟩

/-- What one execution of the pipeline does. -/
inductive InternalEffect (service : PaymentExecutionService) :
    Except PyError EndToEndExecutionResult → Option CallOutcome → PaymentExecutionService → Prop
  | raised {err : PyError} (h : ¬ c.Completes) : InternalEffect service (.error err) none service
  | withheld {cart : Cart} {auth : AuthorizationResult} {state : TransactionState}
      (hcompletes : c.Completes) (hcart : c.buildCart = .ok cart) (hnot : ¬ c.Allowed)
      (hdecision : auth.decision ≠ .allow)
      (hstate : state = .stepUpRequired ∨ state = .rejected) :
      InternalEffect service (.ok (c.assemble cart auth state none none)) none service
  | attempted {cart : Cart} {auth : AuthorizationResult} {auditHash : String}
      (hcompletes : c.Completes) (hcart : c.buildCart = .ok cart) (hallowed : c.Allowed)
      (hdecision : auth.decision = .allow)
      (hgate : executionGate (c.proposal sha cart) auth (c.authorizedTransaction sha cart)
        = .ok none) :
      InternalEffect service
        (.ok (c.assemble cart auth (stateAfter (c.pay sha cart auth service).1)
          (c.executionResult (c.pay sha cart auth service).1 (c.pay sha cart auth service).2)
          (some (c.receipt sha cart auditHash))))
        (c.pay sha cart auth service).1 (c.pay sha cart auth service).2

/-- **What the pipeline does, and on which requests.** -/
theorem internal_effect (service : PaymentExecutionService) :
    c.InternalEffect sha service (c.executeIntentInternal sha service).1
      (c.executeIntentInternal sha service).2.1 (c.executeIntentInternal sha service).2.2 := by
  rw [executeIntentInternal]
  cases hcart : c.buildCart with
  | error err =>
      refine .raised ?_
      rintro ⟨cart, stepUp, hcart', -⟩
      rw [hcart] at hcart'
      cases hcart'
  | ok cart =>
      dsimp only
      cases hstep : stepUpOutcome cart.totalPaise c.limitPaise with
      | error err =>
          refine .raised ?_
          rintro ⟨cart', stepUp, hcart', hstep'⟩
          obtain rfl := Except.ok.inj (hcart.symm.trans hcart')
          rw [hstep] at hstep'
          cases hstep'
      | ok stepUp =>
          have hcompletes : c.Completes := ⟨cart, stepUp, hcart, hstep⟩
          have hallow := decision_allow_iff sha hcart hstep
          dsimp only
          rw [route]
          cases hdecision : (c.authResult sha cart stepUp).decision with
          | allow =>
              have hallowed := hallow.mp hdecision
              exact .attempted hcompletes hcart hallowed hdecision
                (gate_of_allowed hcart hstep hallowed)
          | stepUpRequired =>
              have hne : (c.authResult sha cart stepUp).decision ≠ .allow := by
                rw [hdecision]
                exact nofun
              exact .withheld hcompletes hcart (fun h => hne (hallow.mpr h)) hne (.inl rfl)
          | reject =>
              have hne : (c.authResult sha cart stepUp).decision ≠ .allow := by
                rw [hdecision]
                exact nofun
              exact .withheld hcompletes hcart (fun h => hne (hallow.mpr h)) hne (.inr rfl)

section
variable {sha : Sha256} {c : OrchestratorCall} {service service' : PaymentExecutionService}
  {result : Except PyError EndToEndExecutionResult} {payment : Option CallOutcome}

theorem InternalEffect.completes_iff (h : c.InternalEffect sha service result payment service') :
    c.Completes ↔ ∃ res, result = .ok res := by
  cases h with
  | raised hnot =>
      refine iff_of_false hnot ?_
      rintro ⟨res, hres⟩
      cases hres
  | withheld hcompletes => exact iff_of_true hcompletes ⟨_, rfl⟩
  | attempted hcompletes => exact iff_of_true hcompletes ⟨_, rfl⟩

theorem InternalEffect.payment_isSome_iff
    (h : c.InternalEffect sha service result payment service') :
    payment.isSome = true ↔ c.Reaches := by
  cases h with
  | raised hnot => exact iff_of_false Bool.false_ne_true fun h => hnot h.completes
  | withheld _ _ hnot => exact iff_of_false Bool.false_ne_true fun h => hnot h.allowed
  | attempted hcompletes _ hallowed =>
      rw [pay_isSome_iff]
      constructor
      · rintro ⟨hmandate, hpolicy⟩
        exact ⟨hcompletes, hallowed, hmandate, hpolicy⟩
      · intro h
        exact ⟨h.mandateVersion, h.policyVersion⟩

theorem InternalEffect.transactionId_eq {res : EndToEndExecutionResult}
    (h : c.InternalEffect sha service (.ok res) payment service') :
    res.transactionId = c.transactionId := by
  cases h with
  | withheld => rfl
  | attempted => rfl

end

end OrchestratorCall

/-- The exception of the orchestrator: its code is always SYSTEM_INTERNAL_ERROR. -/
structure OrchestratorError where
  message : String
deriving DecidableEq

/-- The state of a `CommerceOrchestrator`. -/
structure CommerceOrchestrator where
  executionService : PaymentExecutionService
  executedIntents  : OrderedMap String EndToEndExecutionResult

/-- What a call returns or raises, and what it asked of the payment service. -/
structure OrchestratorOutcome where
  result  : Except OrchestratorError EndToEndExecutionResult
  payment : Option CallOutcome

namespace CommerceOrchestrator

/-- `CommerceOrchestrator()`. -/
def new : CommerceOrchestrator := ⟨.new, .empty⟩

/-- The exception that every other exception is turned into. -/
def internalError (err : PyError) : OrchestratorError :=
  ⟨s!"Internal orchestration failure: {err.text}"⟩

def executeIntent (sha : Sha256) (o : CommerceOrchestrator) (c : OrchestratorCall) :
    OrchestratorOutcome × CommerceOrchestrator :=
  match o.executedIntents.get c.request.idempotencyKey with
  | some cached => (⟨.ok cached, none⟩, o)
  | none =>
      match c.executeIntentInternal sha o.executionService with
      | (.error err, payment, service) =>
          (⟨.error (internalError err), payment⟩, { o with executionService := service })
      | (.ok res, payment, service) =>
          (⟨.ok res, payment⟩,
            { executionService := service
              executedIntents := o.executedIntents.set c.request.idempotencyKey res })

inductive IntentEffect (sha : Sha256) (o : CommerceOrchestrator) (c : OrchestratorCall) :
    OrchestratorOutcome → CommerceOrchestrator → Prop
  | cached {res : EndToEndExecutionResult}
      (hkey : o.executedIntents.get c.request.idempotencyKey = some res) :
      IntentEffect sha o c ⟨.ok res, none⟩ o
  | raised {err : OrchestratorError}
      (hkey : o.executedIntents.get c.request.idempotencyKey = none) (h : ¬ c.Completes) :
      IntentEffect sha o c ⟨.error err, none⟩ o
  | returned {res : EndToEndExecutionResult} {payment : Option CallOutcome}
      {service : PaymentExecutionService}
      (hkey : o.executedIntents.get c.request.idempotencyKey = none)
      (h : c.InternalEffect sha o.executionService (.ok res) payment service) :
      IntentEffect sha o c ⟨.ok res, payment⟩
        ⟨service, o.executedIntents.set c.request.idempotencyKey res⟩

/-- **A call answers from the cache, raises or stores what it returns.** -/
theorem intent_effect (sha : Sha256) (o : CommerceOrchestrator) (c : OrchestratorCall) :
    IntentEffect sha o c (o.executeIntent sha c).1 (o.executeIntent sha c).2 := by
  rw [executeIntent]
  cases hkey : o.executedIntents.get c.request.idempotencyKey with
  | some cached => exact .cached hkey
  | none =>
      dsimp only
      have heffect := c.internal_effect sha o.executionService
      generalize c.executeIntentInternal sha o.executionService = r at heffect ⊢
      obtain ⟨result, payment, service⟩ := r
      cases result with
      | error err =>
          cases heffect with
          | raised hnot => exact .raised hkey hnot
      | ok res => exact .returned hkey heffect

/-- **A call reaches the payment service exactly when its key is new and its
    request meets these conditions.** -/
theorem payment_isSome_iff (sha : Sha256) (o : CommerceOrchestrator) (c : OrchestratorCall) :
    (o.executeIntent sha c).1.payment.isSome = true
      ↔ o.executedIntents.get c.request.idempotencyKey = none ∧ c.Reaches := by
  have heffect := intent_effect sha o c
  generalize o.executeIntent sha c = r at heffect ⊢
  obtain ⟨outcome, o'⟩ := r
  cases heffect with
  | cached hkey =>
      rw [hkey]
      exact iff_of_false Bool.false_ne_true fun h => nomatch h.1
  | raised hkey hnot =>
      exact iff_of_false Bool.false_ne_true fun h => hnot h.2.completes
  | returned hkey h =>
      rw [and_iff_right hkey]
      exact h.payment_isSome_iff

end CommerceOrchestrator

/-! ## A sample purchase

    A mandate of one buyer, a merchant who sells to assistants, and calls of any
    buyer that name the two. -/

namespace OrchestratorCall.Sample

theorem firstDigits : "0f8fad5bd9cb469fa16570867728950e".toList.length = 32
    ∧ ∀ c ∈ "0f8fad5bd9cb469fa16570867728950e".toList, isLowerHex c = true :=
  digits_of_all (by decide) (by decide)

theorem secondDigits : "7c9e6679742540de944be07fc1f90ae7".toList.length = 32
    ∧ ∀ c ∈ "7c9e6679742540de944be07fc1f90ae7".toList, isLowerHex c = true :=
  digits_of_all (by decide) (by decide)

def firstUuid : UuidHex := ⟨"0f8fad5bd9cb469fa16570867728950e", firstDigits⟩

def secondUuid : UuidHex := ⟨"7c9e6679742540de944be07fc1f90ae7", secondDigits⟩

theorem date_valid : 1 ≤ 2026 ∧ 2026 ≤ 9999 ∧ 1 ≤ 1 ∧ 1 ≤ 12 ∧ 1 ≤ 5 ∧ 5 ≤ daysInMonth 2026 1 := by
  decide

theorem time_valid : 12 < 24 ∧ 0 < 60 ∧ 0 < 60 ∧ 0 < 1000000 := by decide

theorem offset_valid : ∀ o ∈ some (0 : Int), -86400000000 < o ∧ o < 86400000000 := by decide

def noon : Datetime := ⟨2026, 1, 5, 12, 0, 0, 0, some 0, date_valid, time_valid, offset_valid⟩

def env (u : UuidHex) : OrchestratorEnv := ⟨noon, ⟨1767614400000000, "uuid-1"⟩, fun _ => u⟩

def mandate : MandateResponse where
  mandateId := "man_1"
  buyerId := "buy_user_orch"
  version := 1
  merchantScope := {"mer_1"}
  categoryScope := {"electronics"}
  allowedRegions := {.inRegion}
  maximumAmountPaise := 1000000
  dailyBudgetPaise := 1000000
  currency := .inr
  autonomousExecution := true
  status := .active
  issuedAt := 1767571200000000
  expiresAt := 1893456000000000

def policy : PolicyResponse := ⟨1, true, 500000⟩

def product : ProductResponse :=
  ⟨"prd_1", "mer_1", "Mechanical keyboard", "electronics", 150000, .inr⟩

def stores : CommerceStores where
  mandates := .set .empty "man_1" mandate
  merchantPolicies := .set .empty "mer_1" policy
  products := .set .empty "prd_1" product

def cartText : String :=
  "\x7b\"currency\":\"INR\",\"items\":[\x7b\"category\":\"electronics\","
    ++ "\"merchant_id\":\"mer_1\",\"product_id\":\"prd_1\",\"quantity\":1,"
    ++ "\"unit_price_paise\":150000\x7d],\"mandate_id\":\"man_1\",\"merchant_id\":\"mer_1\","
    ++ "\"shipping_paise\":0,\"tax_paise\":0,\"total_paise\":150000\x7d"

def cartDigest : String := "d30d32589bc2138fd99a14455ba41fee90074d04e6006ca8c7ea9c488e1817df"

theorem digest_digits (text : String) :
    (if text = cartText then cartDigest else zeroHash).toList.length = 64
      ∧ ∀ c ∈ (if text = cartText then cartDigest else zeroHash).toList, isLowerHex c = true := by
  by_cases h : text = cartText
  · rw [if_pos h]
    exact digits_of_all (by decide) (by decide)
  · rw [if_neg h]
    exact digits_of_all (by decide) (by decide)

def digests : Sha256 where
  hexdigest text := if text = cartText then cartDigest else zeroHash
  digits := digest_digits

theorem text_bounded : "Buy a mechanical keyboard" ≠ ""
    ∧ "Buy a mechanical keyboard".length ≤ 1000 := by
  decide

theorem mandateId_ne : "man_1" ≠ "" := by decide

theorem merchantId_ne : "mer_1" ≠ "" := by decide

theorem key_ne : "key_1" ≠ "" := by decide

def request (buyerId : String) (h : buyerId ≠ "") : OrchestratorExecutionRequest where
  userIntentText := "Buy a mechanical keyboard"
  buyerId := buyerId
  mandateId := "man_1"
  merchantId := "mer_1"
  idempotencyKey := "key_1"
  text_bounded := text_bounded
  buyerId_ne := h
  mandateId_ne := mandateId_ne
  merchantId_ne := merchantId_ne
  idempotencyKey_ne := key_ne

def call (u : UuidHex) (buyerId : String) (h : buyerId ≠ "") : OrchestratorCall :=
  ⟨env u, stores, MandateGateway.Sample.answering true .success, request buyerId h⟩

section
variable (u : UuidHex) {buyerId : String} (h : buyerId ≠ "")

theorem sellable_product : Sellable product :=
  ⟨by decide, by decide, by decide, by decide⟩

theorem amounts_printable :
    trueDiv 150000 100 = .ok (.finite 1500) ∧ trueDiv 500000 100 = .ok (.finite 5000) := by
  decide +kernel

example : ((call firstUuid "key_1" key_ne).cartOf product sellable_product).canonical.compact
    = cartText := by
  decide +kernel

theorem price_le : product.pricePaise ≤ policy.autonomousPurchaseLimitPaise := by decide

theorem completes_call : (call u buyerId h).Completes := by
  have hcart : (call u buyerId h).buildCart = .ok ((call u buyerId h).cartOf product
      sellable_product) :=
    buildCart_eq_ok_iff.mpr ⟨sellable_product, rfl⟩
  obtain ⟨stepUp, hstep⟩ := stepUpOutcome_of_printable price_le amounts_printable.1
    amounts_printable.2
  refine ⟨_, stepUp, hcart, ?_⟩
  rw [totalPaise_of_buildCart hcart]
  exact hstep

theorem reaches_call : (call u buyerId h).Reaches where
  completes := completes_call u h
  allowed := ⟨⟨policy, rfl, rfl, price_le⟩, ⟨mandate, rfl, rfl⟩⟩
  mandateVersion := Int.le_refl 1
  policyVersion := Int.le_refl 1

end

end OrchestratorCall.Sample

end MandateGateway
