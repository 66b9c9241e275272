import MandateGateway.Intent.Items
import MandateGateway.Policy.CartDigest

/-! # The intent normalizer

    `IntentNormalizer.normalize`: a raw intent is parsed, scanned for claims of
    authority, read field by field, and turned into an intent and a cart with
    its hash. -/

namespace MandateGateway

open Clock Exceptions
open WideText (ofString)

/-! ## Records -/

/-- A `CommerceIntent` as the normalizer fills it in, its metadata of any shape. -/
structure NormalizedIntent where
  intentId           : String
  buyerId            : String
  rawPrompt          : String
  targetCategory     : String
  targetMerchantId   : String
  maxBudgetPaise     : Int
  currency           : Currency
  region             : Region
  metadata           : RawDict
  createdAt          : Instant
  buyerId_ne         : buyerId ≠ ""
  rawPrompt_bounded  : rawPrompt ≠ "" ∧ rawPrompt.length ≤ 5000
  budget_nonneg      : 0 ≤ maxBudgetPaise

structure NormalizedCommerceProposal where
  intent       : NormalizedIntent
  cart         : Cart
  normalizedAt : Instant

/-- What is given to the normalizer: an `UntrustedProposalPayload`, by what its
    `model_dump` gives, or any other value. -/
inductive RawIntent where
  | payload (dump : RawDict)
  | value (v : RawValue)

/-- What a call takes from the interpreter: `json.loads` with the texts of its
    errors, how deep a value may be nested that each of the recursions takes
    where it is called, the hash function, fresh identifiers and the time. -/
structure IntentEnv where
  loads           : WideText → Except WideText RawValue
  encodeRoom      : Nat
  scanRoom        : Nat
  itemRoom        : Nat
  metadataRoom    : Nat
  sha             : Sha256
  cartId          : String
  intentId        : String
  cartCreatedAt   : Instant
  intentCreatedAt : Instant
  normalizedAt    : Instant

namespace IntentNormalizer

def maxPayloadBytes : Nat := 65536

def maxItemsPerIntent : Nat := 50

def maxTotalAmountPaise : Int := 500000000

/-! ## Stage 1: the structure -/

def payloadTooLarge : IntentError :=
  .structural (ofString
    s!"Payload size exceeds maximum allowed limit of {maxPayloadBytes} bytes.")

def parseAndValidateStructure (env : IntentEnv) : RawIntent → Except IntentError RawDict
  | .payload dump => .ok dump
  | .value (.str s) =>
      match WideText.scalars? s with
      | none => .error (.escaped .unicodeEncodeError)
      | some text =>
          if maxPayloadBytes < text.utf8ByteSize then .error payloadTooLarge
          else
            match env.loads s with
            | .error ex => .error (.structural (ofString "Malformed JSON payload: " ++ ex))
            | .ok (.dict d) => .ok d
            | .ok _ => .error (.structural (ofString "JSON payload must be an object."))
  | .value (.dict d) => do
      let serialized ← RawValue.encode env.encodeRoom (.dict d)
      -- the text is ASCII: it has as many bytes as characters
      if maxPayloadBytes < serialized.length then .error payloadTooLarge else .ok d
  | .value v =>
      .error (.structural (ofString s!"Unsupported proposal payload type: {v.typeName}."))

/-! ## Stages 2 to 5: what is bought from whom -/

structure IntentHeader where
  buyerId    : String
  merchantId : String
  mandateId  : String
  rawPrompt  : WideText
  currency   : Currency
  region     : Region
  operation  : McpOperation
  rawItems   : List RawValue

/-- `raw_items`. -/
def itemsOf : RawValue → Except IntentError (List RawValue)
  | .list (x :: xs) =>
      let count := (x :: xs).length
      if maxItemsPerIntent < count then
        .error (.structural (ofString
          s!"Line item count ({count}) exceeds maximum limit of {maxItemsPerIntent}."))
      else .ok (x :: xs)
  | _ => .error (.structural (ofString "Proposal must contain at least one line item."))

def readHeader (d : RawDict) : Except IntentError IntentHeader := do
  let buyerId ← validateIdentifier (d.get "buyer_id" .none) "buyer_id"
  let merchantId ← validateIdentifier (d.get "merchant_id" .none) "merchant_id"
  let mandateId ← validateIdentifier (d.get "mandate_id" .none) "mandate_id"
  let rawPrompt ← sanitizePrompt (d.get "raw_prompt" .none)
  let currency ← validateCurrency (d.get "currency" (.str (ofString "INR")))
  let region ← validateRegion (d.get "region" (.str (ofString "IN")))
  let operation ← validateOperation (d.get "operation" (.str (ofString "create_order")))
  let rawItems ← itemsOf (d.get "items" .none)
  pure ⟨buyerId, merchantId, mandateId, rawPrompt, currency, region, operation, rawItems⟩

/-! ## Stage 6: the totals -/

structure Totals where
  taxPaise      : Int
  shippingPaise : Int
  totalPaise    : Int

def overTotal (shown : String) : IntentError :=
  .monetary (ofString (s!"Computed total amount ({shown} paise) exceeds maximum allowed limit "
    ++ s!"of {maxTotalAmountPaise} paise (₹5,000,000.00)."))

def mismatchedTotal (declaredVal itemsSubtotal : Int) (totals : Totals) :
    Except IntentError Unit := do
  let declaredShown ← intText declaredVal
  let total ← intText totals.totalPaise
  let subtotal ← intText itemsSubtotal
  let tax ← intText totals.taxPaise
  let shipping ← intText totals.shippingPaise
  .error (.ambiguity (ofString
    (s!"Declared total_paise ({declaredShown}) does not match computed total "
      ++ s!"({total} paise = items {subtotal} + tax {tax} + shipping {shipping}).")))

def checkDeclaredTotal (declared : RawValue) (itemsSubtotal : Int) (totals : Totals) :
    Except IntentError Unit :=
  match declared with
  | .none => .ok ()
  | value => do
      let declaredVal ← validateIntegerAmount value "total_paise"
      if declaredVal ≠ totals.totalPaise then mismatchedTotal declaredVal itemsSubtotal totals
      else .ok ()

def settleTotals (d : RawDict) (items : List CartItem) (taxPaise shippingPaise : Int) :
    Except IntentError Totals :=
  let itemsSubtotal := (items.map CartItem.subtotalPaise).sum
  let totals : Totals := ⟨taxPaise, shippingPaise, itemsSubtotal + taxPaise + shippingPaise⟩
  if maxTotalAmountPaise < totals.totalPaise then refuseWith totals.totalPaise overTotal
  else do
    checkDeclaredTotal (d.get "total_paise" .none) itemsSubtotal totals
    pure totals

def computeTotals (d : RawDict) (items : List CartItem) : Except IntentError Totals := do
  let taxPaise ← validateIntegerAmount (d.get "tax_paise" (.int 0)) "tax_paise"
  let shippingPaise ← validateIntegerAmount (d.get "shipping_paise" (.int 0)) "shipping_paise"
  settleTotals d items taxPaise shippingPaise

/-! ## Stages 7 to 9: the cart and the intent -/

/-- `build_cart_with_hash(...)`. -/
def buildCart (env : IntentEnv) (header : IntentHeader) (items : List CartItem)
    (totals : Totals) : Except IntentError Cart :=
  if h : (header.merchantId ≠ "" ∧ header.mandateId ≠ "") ∧ items ≠ []
      ∧ (∀ item ∈ items, item.currency = header.currency ∧ item.merchantId = header.merchantId)
      ∧ (0 ≤ totals.taxPaise ∧ 0 ≤ totals.shippingPaise)
      ∧ totals.totalPaise
        = (items.map CartItem.subtotalPaise).sum + totals.taxPaise + totals.shippingPaise then
    .ok (Cart.buildCartWithHash env.sha {
      cartId := env.cartId
      merchantId := header.merchantId
      mandateId := header.mandateId
      currency := header.currency
      items := items
      taxPaise := totals.taxPaise
      shippingPaise := totals.shippingPaise
      totalPaise := totals.totalPaise
      createdAt := env.cartCreatedAt
      cartHash := ""
      merchantId_ne := h.1.1
      mandateId_ne := h.1.2
      items_ne := h.2.1
      items_match := h.2.2.1
      tax_nonneg := h.2.2.2.1.1
      shipping_nonneg := h.2.2.2.1.2
      total_eq := h.2.2.2.2 })
  else .error (.escaped (.validationError "Cart"))

def targetCategory : List CartItem → String
  | [item] => item.category
  | _ => "multi-category"

/-- `CommerceIntent(...)`. -/
def newCommerceIntent (env : IntentEnv) (header : IntentHeader) (items : List CartItem)
    (totals : Totals) (metadata : RawDict) : Except IntentError NormalizedIntent :=
  match WideText.scalars? header.rawPrompt with
  | some rawPrompt =>
      if h : header.buyerId ≠ "" ∧ (rawPrompt ≠ "" ∧ rawPrompt.length ≤ 5000)
          ∧ 0 ≤ totals.totalPaise then
        .ok {
          intentId := env.intentId
          buyerId := header.buyerId
          rawPrompt := rawPrompt
          targetCategory := targetCategory items
          targetMerchantId := header.merchantId
          maxBudgetPaise := totals.totalPaise
          currency := header.currency
          region := header.region
          metadata := metadata
          createdAt := env.intentCreatedAt
          buyerId_ne := h.1
          rawPrompt_bounded := h.2.1
          budget_nonneg := h.2.2 }
      else .error (.escaped (.validationError "CommerceIntent"))
  | none => .error (.escaped (.validationError "CommerceIntent"))

/-- `clean_metadata`. -/
def withOperation (operation : McpOperation) (clean : RawDict) : RawDict :=
  OrderedMap.setEntries (RawDict.key "operation") (.str (ofString operation.value)) clean

/-- The last three stages. -/
def buildProposal (env : IntentEnv) (d : RawDict) (header : IntentHeader)
    (items : List CartItem) (totals : Totals) : Except IntentError NormalizedCommerceProposal := do
  let cart ← buildCart env header items totals
  let clean ← sanitizeMetadata env.metadataRoom (d.get "metadata" (.dict []))
  let intent ← newCommerceIntent env header items totals (withOperation header.operation clean)
  pure ⟨intent, cart, env.normalizedAt⟩

/-- `IntentNormalizer.normalize`. -/
def normalize (env : IntentEnv) (rawInput : RawIntent) :
    Except IntentError NormalizedCommerceProposal := do
  let d ← parseAndValidateStructure env rawInput
  scanItems env.scanRoom [] d
  let header ← readHeader d
  let validated ← validateItems env.itemRoom header.merchantId header.currency 0 header.rawItems
  let items := sortedItems validated
  let totals ← computeTotals d items
  buildProposal env d header items totals

end IntentNormalizer

end MandateGateway
