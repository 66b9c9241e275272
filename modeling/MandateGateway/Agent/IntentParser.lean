import MandateGateway.Intent.ValueScan
import MandateGateway.Intent.ValueText
import MandateGateway.Lib.Regex
import MandateGateway.Policy.Records

/-! # The parser of an agent's intents

    What an agent wants to buy comes as a value of any shape.  The parser weighs
    it, looks for keys that claim authority and for poisoned texts, reads the
    items one after the other, and compares the totals.  What it refuses is an
    `IntentValidationError`; the conversions, the texts of nested values and the
    contract of a line item raise errors of their own, which it does not catch
    everywhere. -/

namespace MandateGateway

open WideText (ofString)

inductive IntentErrorCode where
  | malformedIntentPayload
  | promptInjectionDetected
  | catalogPoisoningDetected
  | invalidLineItemMath
  | authorityInjectionAttempt
  | unauthorizedCurrency
  | missingMandatoryField
  | intentSizeExceeded
  | intentProcessingFailed
deriving DecidableEq

/-- What leaves the parser: its own `IntentValidationError`, a limit of the interpreter or
    of the contract, or what `int` raises. -/
inductive ParserError where
  | validation (code : IntentErrorCode) (detail : WideText)
  | limit (err : IntentError)
  | conversion (err : ConversionError)
deriving DecidableEq

/-- It is an `IntentValidationError`. -/
def ParserError.IsValidation : ParserError → Prop
  | .validation _ _ => True
  | _ => False

/-- How deep a value may be nested that the recursions take where they are called,
    and the texts of the interpreter's own errors. -/
structure ParserRuntime where
  encodeRoom : Nat
  scanRoom   : Nat
  textRoom   : Nat
  errorText  : IntentError → WideText

/-- A line item that the agent proposes. -/
structure CartItemProposal where
  productId        : String
  merchantId       : String
  name             : String
  category         : String
  quantity         : Int
  unitPricePaise   : Int
  currency         : Currency
  product_given    : productId ≠ ""
  merchant_given   : merchantId ≠ ""
  name_bounded     : name ≠ "" ∧ name.length ≤ 500
  category_bounded : category ≠ "" ∧ category.length ≤ 100
  quantity_pos     : 1 ≤ quantity
  price_nonneg     : 0 ≤ unitPricePaise

/-- `quantity * unit_price_paise`. -/
def CartItemProposal.subtotalPaise (item : CartItemProposal) : Int :=
  item.quantity * item.unitPricePaise

/-! ## Texts and numbers -/

namespace AgentIntentParser

/-- `str(value)`, where nothing is caught. -/
def textOf (room : Nat) (v : RawValue) : Except ParserError WideText :=
  (v.toText room).mapError .limit

/-- An `IntentValidationError` whose detail shows something, which has to have a text. -/
def refuse {α τ : Type} (code : IntentErrorCode) (shown : Except IntentError τ)
    (detail : τ → WideText) : Except ParserError α := do
  let text ← shown.mapError .limit
  .error (.validation code (detail text))

/-- An error that shows a number. -/
def refuseWith {α : Type} (code : IntentErrorCode) (i : Int) (detail : String → String) :
    Except ParserError α :=
  refuse code (intText i) fun shown => ofString (detail shown)

def refuseValue {α : Type} (room : Nat) (code : IntentErrorCode) (label : String)
    (v : RawValue) : Except ParserError α :=
  refuse code (v.repr room) fun shown => ofString label ++ shown ++ ofString "."

/-- `int(value)`, where a `ValueError` and a `TypeError` are caught. -/
def readInt (room : Nat) (code : IntentErrorCode) (label : String) (v : RawValue) :
    Except ParserError Int :=
  match v.toInt with
  | .ok i => .ok i
  | .error .overflowError => .error (.conversion .overflowError)
  | .error _ => refuseValue room code label v

/-- A number that may be missing, and is checked where it is given. -/
def checkGiven (room : Nat) (label : String) (v : RawValue)
    (check : Int → Except ParserError Unit) : Except ParserError Unit :=
  match v with
  | .none => .ok ()
  | v => readInt room .invalidLineItemMath label v >>= check

end AgentIntentParser

/-! ## The defense -/

namespace PromptInjectionDefense

/-- Words with whitespace between them. -/
def spaced (rs : List (Regex CodePoint)) : Regex CodePoint :=
  .chain (rs.intersperse (.plus .space))

def word (s : String) : Regex CodePoint := .textIgnoreCase s

def oneOf (words : List String) : Regex CodePoint := .anyOf (words.map word)

/-- `PROMPT_INJECTION_PATTERNS`. -/
def promptInjectionPatterns : List (Regex CodePoint) :=
  [spaced [word "ignore", oneOf ["previous", "above", "all"], word "instructions"],
    spaced [word "system", word "override"],
    spaced [word "authorize", word "payment"],
    spaced [word "payout", word "to"],
    spaced [word "skip", oneOf ["policy", "mandate", "budget", "nonce", "step_up"]],
    spaced [word "bypass", oneOf ["auth", "security", "mandate"]],
    word "admin_override",
    word "payment_approved",
    spaced [word "you", word "are", word "now", word "in", word "admin", word "mode"]]

/-- `FORBIDDEN_AUTHORITY_KEYS`. -/
def forbiddenAuthorityKeys : List String :=
  ["authorized", "approved", "payment_approved", "skip_mandate", "skip_policy", "skip_budget",
    "skip_nonce", "skip_step_up", "bypass_auth", "admin_override", "role", "is_admin", "trusted",
    "authorization_result", "payment_status"]

def maxPromptTextLength : Nat := 5000

/-- A character of the class `[\x00-\x08\x0b-\x1f\x7f]`. -/
def isControl : CodePoint → Bool
  | .char c => c.toNat ≤ 8 || (11 ≤ c.toNat && c.toNat ≤ 31) || c.toNat == 127
  | .surrogate _ => false

def sanitizeText (s : WideText) : WideText :=
  (s.filter fun p => !isControl p).take maxPromptTextLength

/-- The fields that `scan_catalog_poisoning` searches. -/
def searchedFields : List String := ["name", "description", "category", "metadata"]

/-- The texts of these fields. -/
def searchTargets (room : Nat) (raw : RawDict) : List String → Except ParserError (List WideText)
  | [] => .ok []
  | name :: names => do
      let target ← AgentIntentParser.textOf room (raw.get name (.str []))
      let targets ← searchTargets room raw names
      pure (target :: targets)

/-- A pattern is found in the text. -/
def poisoned (target : WideText) : Bool :=
  !target.isEmpty && promptInjectionPatterns.any fun pattern => pattern.search target

def scanCatalogPoisoning (room : Nat) (raw : RawDict) : Except ParserError Unit := do
  let targets ← searchTargets room raw searchedFields
  match targets.find? poisoned with
  | some target => .error (.validation .catalogPoisoningDetected (ofString
      "Prompt injection attack signature detected in catalog item field: "
      ++ WideText.quoted target ++ ofString "."))
  | none => .ok ()

/-- The key is one of those, in any case. -/
def Forbidden : RawKey → Prop
  | .str s => WideText.lower s ∈ forbiddenAuthorityKeys.map ofString
  | _ => False

instance (k : RawKey) : Decidable (Forbidden k) :=
  match k with
  | .str _ => inferInstanceAs (Decidable (_ ∈ _))
  | .none | .bool _ | .int _ | .float _ => inferInstanceAs (Decidable False)

/-- The check of a key in `scan_authority_injection`. -/
def checkKey (k : RawKey) : Except ParserError Unit :=
  match k with
  | .str s =>
      if Forbidden k then
        .error (.validation .authorityInjectionAttempt (ofString "Forbidden authority claim key "
          ++ WideText.quoted s ++ ofString " detected in untrusted intent payload."))
      else .ok ()
  | _ => .ok ()

def scanAuthorityInjection (room : Nat) (payload : RawValue) : Except ParserError Unit :=
  payload.scan checkKey (fun _ => .ok ()) (.limit (.escaped .recursionError)) room

end PromptInjectionDefense

/-! ## Items -/

namespace AgentIntentParser

open PromptInjectionDefense

def maxPayloadBytes : Nat := 65536

def maxItemsPerIntent : Nat := 50

def maxItemQuantity : Int := 1000

def maxSingleItemPricePaise : Int := 100000000

def maxTotalAmountPaise : Int := 500000000

structure ItemHead where
  productId  : WideText
  merchantId : WideText
  name       : WideText
  category   : WideText

section
variable (room : Nat) (merchantId : WideText) (raw : RawDict)

def rawProductId : RawValue := (raw.get "product_id" .none).orElse (raw.get "sku" .none)

def rawMerchantId : RawValue := (raw.get "merchant_id" .none).orElse (.str merchantId)

def rawName : RawValue := (raw.get "name" .none).orElse (raw.get "item_name" .none)

def rawCategory : RawValue :=
  (raw.get "category" .none).orElse (.str (ofString "general"))

/-- A text that is given and not blank. -/
def mandatory (v : RawValue) : Except ParserError WideText := do
  let missing : ParserError := .validation .missingMandatoryField
    (ofString "Line item missing required fields (product_id, merchant_id, or name).")
  if v.isTruthy = false then .error missing
  else do
    let s ← textOf room v
    if WideText.strip s = [] then .error missing else .ok s

/-- The identifiers and names. -/
def itemHead : Except ParserError ItemHead := do
  let productId ← mandatory room (rawProductId raw)
  let itemMerchantId ← mandatory room (rawMerchantId merchantId raw)
  let name ← mandatory room (rawName raw)
  let category ← textOf room (rawCategory raw)
  pure ⟨WideText.strip productId, WideText.strip itemMerchantId, sanitizeText name,
    sanitizeText category⟩

/-- A number from one to the limit. -/
def inRange (limit : Int) (detail : String → String) (i : Int) : Except ParserError Int :=
  if i ≤ 0 ∨ limit < i then refuseWith .malformedIntentPayload i detail else .ok i

def rawQuantity : RawValue := raw.get "quantity" (.int 1)

def itemQuantity : Except ParserError Int := do
  let qty ← readInt room .malformedIntentPayload "Invalid quantity value: " (rawQuantity raw)
  inRange maxItemQuantity (fun shown =>
    s!"Quantity {shown} violates allowed range (1 .. {maxItemQuantity}).") qty

def rawPrice : RawValue :=
  ((raw.get "unit_price_paise" .none).orElse (raw.get "price_paise" .none)).orElse
    (raw.get "price" .none)

def itemUnitPrice : Except ParserError Int :=
  match rawPrice raw with
  | .none => .error (.validation .missingMandatoryField
      (ofString "Line item missing unit_price_paise."))
  | v => do
      let unitPrice ← readInt room .malformedIntentPayload "Invalid unit price value: " v
      inRange maxSingleItemPricePaise (fun shown => s!"Unit price {shown} paise violates "
        ++ s!"allowed range (1 .. {maxSingleItemPricePaise}).") unitPrice

def rawSubtotal : RawValue := raw.get "subtotal_paise" .none

def mismatchedSubtotal (productId : WideText) (qty unitPrice provided : Int) :
    Except ParserError Unit :=
  refuse .invalidLineItemMath (intText provided) fun shown =>
    ofString "Line-item subtotal mismatch for product " ++ WideText.quoted productId
      ++ ofString (s!": expected {qty} * {unitPrice} = {qty * unitPrice} paise, "
        ++ s!"got {shown} paise.")

def checkSubtotal (productId : WideText) (qty unitPrice : Int) : Except ParserError Unit :=
  checkGiven room "Invalid subtotal paise value: " (rawSubtotal raw) fun provided =>
    if provided ≠ qty * unitPrice then mismatchedSubtotal productId qty unitPrice provided
    else .ok ()

end

/-- The texts of an item, where all of them can be encoded. -/
def headTexts (head : ItemHead) : Option (String × String × String × String) := do
  let productId ← WideText.scalars? head.productId
  let merchantId ← WideText.scalars? head.merchantId
  let name ← WideText.scalars? head.name
  let category ← WideText.scalars? head.category
  pure (productId, merchantId, name, category)

/-- `CartItemProposal(...)`: the contract takes texts that can be encoded. -/
def newCartItemProposal (head : ItemHead) (qty unitPrice : Int) :
    Except IntentError CartItemProposal :=
  match headTexts head with
  | some (productId, merchantId, name, category) =>
      if h : (productId ≠ "" ∧ merchantId ≠ "") ∧ (name ≠ "" ∧ name.length ≤ 500)
          ∧ (category ≠ "" ∧ category.length ≤ 100) ∧ 1 ≤ qty ∧ 0 ≤ unitPrice then
        .ok {
          productId := productId
          merchantId := merchantId
          name := name
          category := category
          quantity := qty
          unitPricePaise := unitPrice
          currency := .inr
          product_given := h.1.1
          merchant_given := h.1.2
          name_bounded := h.2.1
          category_bounded := h.2.2.1
          quantity_pos := h.2.2.2.1
          price_nonneg := h.2.2.2.2 }
      else .error (.escaped (.validationError "CartItemProposal"))
  | none => .error (.escaped (.validationError "CartItemProposal"))

def parseItem (room : Nat) (defaultMerchantId : WideText) (itemData : RawValue) :
    Except ParserError CartItemProposal :=
  match itemData with
  | .dict raw => do
      scanCatalogPoisoning room raw
      let head ← itemHead room defaultMerchantId raw
      let qty ← itemQuantity room raw
      let unitPrice ← itemUnitPrice room raw
      checkSubtotal room raw head.productId qty unitPrice
      (newCartItemProposal head qty unitPrice).mapError .limit
  | v => .error (.validation .malformedIntentPayload (ofString
      s!"Line item payload must be a dictionary, got {v.typeName}."))

/-- The loop over the items, from this index on. -/
def parseItems (room : Nat) (merchantId : WideText) :
    Nat → List RawValue → Except ParserError (List CartItemProposal)
  | _, [] => .ok []
  | idx, rawItem :: rest =>
      match rawItem with
      | .dict _ => do
          let parsed ← parseItem room merchantId rawItem
          let items ← parseItems room merchantId (idx + 1) rest
          pure (parsed :: items)
      | v => .error (.validation .malformedIntentPayload (ofString
          s!"Item at index {idx} must be a dictionary, got {v.typeName}."))

/-! ## The intent -/

def checkSize (runtime : ParserRuntime) (payload : RawValue) : Except ParserError Unit :=
  match payload.encode runtime.encodeRoom with
  | .ok serialized =>
      let rawBytes := serialized.length
      if maxPayloadBytes < rawBytes then
        .error (.validation .intentSizeExceeded (ofString
          s!"Payload size ({rawBytes} bytes) exceeds limit ({maxPayloadBytes} bytes)."))
      else .ok ()
  | .error err => .error (.validation .malformedIntentPayload
      (ofString "Failed to serialize payload to JSON: " ++ runtime.errorText err))

section
variable (room : Nat) (payload : RawDict)

def rawCurrency : RawValue := payload.get "currency" (.str (ofString "INR"))

def checkCurrency : Except ParserError Unit := do
  let currency ← textOf room (rawCurrency payload)
  if WideText.upperAscii currency ≠ ofString "INR" then
    .error (.validation .unauthorizedCurrency (ofString "Unauthorized currency "
      ++ WideText.quoted (WideText.upperAscii currency)
      ++ ofString ". Only 'INR' is supported."))
  else .ok ()

def rawItems : RawValue :=
  ((payload.get "items" .none).orElse (payload.get "cart" .none)).orElse
    (payload.get "line_items" .none)

/-- The payload itself describes an item. -/
def isSingleItem : Bool :=
  (payload.find "product_id").isSome || (payload.find "price_paise").isSome
    || (payload.find "amount_paise").isSome

/-- The items of the payload, or the payload as the only one. -/
def lineItems? : Option (List RawValue) :=
  match rawItems payload with
  | .list (x :: xs) => some (x :: xs)
  | _ => if isSingleItem payload then some [.dict payload] else none

def itemsOf : Except ParserError (List RawValue) :=
  match lineItems? payload with
  | none => .error (.validation .missingMandatoryField
      (ofString "Intent payload must contain a non-empty 'items' list."))
  | some items =>
      let count := items.length
      if maxItemsPerIntent < count then
        .error (.validation .intentSizeExceeded (ofString
          s!"Item count ({count}) exceeds limit ({maxItemsPerIntent})."))
      else .ok items

def merchantOf (defaultMerchantId : WideText) : Except ParserError WideText := do
  let s ← textOf room (rawMerchantId defaultMerchantId payload)
  pure (WideText.strip s)

def rawTax : RawValue := payload.get "tax_paise" (.int 0)

def rawShipping : RawValue := payload.get "shipping_paise" (.int 0)

/-- The total that is compared. -/
def providedTotal : RawValue :=
  ((payload.get "total_paise" .none).orElse (payload.get "amount_paise" .none)).orElse
    (payload.get "total_amount_paise" .none)

def invalidTotal : String := "Invalid payload total_paise value: "

def mismatchDetail (grandTotal provided : Int) : Except IntentError WideText := do
  let calculated ← intText grandTotal
  let got ← intText provided
  pure (ofString (s!"Overall cart total mismatch: calculated items subtotal {calculated} paise, "
    ++ s!"got payload total {got} paise."))

/-- A total that differs; where a number has no text, the `ValueError` is caught. -/
def mismatchedTotal (v : RawValue) (detail : Except IntentError WideText) :
    Except ParserError Unit :=
  match detail with
  | .ok detail => .error (.validation .invalidLineItemMath detail)
  | .error _ => refuseValue room .invalidLineItemMath invalidTotal v

/-- A total that is provided is the grand total, or the total of the items. -/
def checkProvidedTotal (grandTotal itemsTotal : Int) : Except ParserError Unit :=
  checkGiven room invalidTotal (providedTotal payload) fun provided =>
    if provided ≠ grandTotal ∧ provided ≠ itemsTotal then
      mismatchedTotal room (providedTotal payload) (mismatchDetail grandTotal provided)
    else .ok ()

/-- What the items cost. -/
def itemsTotal (items : List CartItemProposal) : Int :=
  (items.map CartItemProposal.subtotalPaise).sum

/-- The totals of the payload. -/
def checkTotals (items : List CartItemProposal) : Except ParserError Unit := do
  let taxPaise ← (rawTax payload).toInt.mapError .conversion
  let shippingPaise ← (rawShipping payload).toInt.mapError .conversion
  let grandTotal := itemsTotal items + taxPaise + shippingPaise
  checkProvidedTotal room payload grandTotal (itemsTotal items)
  if maxTotalAmountPaise < grandTotal then
    refuseWith .intentSizeExceeded grandTotal fun shown =>
      s!"Total cart amount ({shown} paise) exceeds limit ({maxTotalAmountPaise} paise)."
  else .ok ()

end

def parseIntentPayload (runtime : ParserRuntime) (payload : RawValue)
    (defaultMerchantId : WideText) : Except ParserError (List CartItemProposal) :=
  match payload with
  | .dict d => do
      checkSize runtime payload
      scanAuthorityInjection runtime.scanRoom payload
      checkCurrency runtime.textRoom d
      let rawItems ← itemsOf d
      let merchantId ← merchantOf runtime.textRoom d defaultMerchantId
      let items ← parseItems runtime.textRoom merchantId 0 rawItems
      checkTotals runtime.textRoom d items
      pure items
  | v => .error (.validation .malformedIntentPayload (ofString
      s!"Intent payload must be a dictionary, got {v.typeName}."))

end AgentIntentParser

end MandateGateway
