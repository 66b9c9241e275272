import MandateGateway.Hmac
import MandateGateway.Lib.OrderedMap
import MandateGateway.Policy.CartIntegrity
import MandateGateway.Webhook.Payload

/-! # Webhooks of merchants

    A call brings a signed body, and beside it an event identifier, a time and
    the payload.  The signature is over the body; the time is compared with the
    clock, the identifier is looked for among the processed ones, and the payload
    is dispatched.

    * `processWebhook_cases`: a call is dispatched, or is turned away and changes
      nothing. -/

/-! ## Outcomes of orders

    The engine keeps one outcome for each identifier; evidence of the merchant
    makes it a verified one.  Identifiers come from payloads and can be any
    value. -/

namespace MandateGateway

open Clock Json

inductive OrderStatus where
  | orderPending | orderVerified | orderUnknown | orderFailed
deriving DecidableEq

def OrderStatus.value : OrderStatus → String
  | .orderPending => "ORDER_PENDING"
  | .orderVerified => "ORDER_VERIFIED"
  | .orderUnknown => "ORDER_UNKNOWN"
  | .orderFailed => "ORDER_FAILED"

structure OrderEvidence where
  orderId              : Value
  merchantOrderId      : Value
  paymentTransactionId : Value
  amountPaise          : Int
  currency             : String
  verificationSource   : String
  verifiedAt           : String
  evidenceHash         : String

structure CheckoutOutcome where
  outcomeId            : Value
  preparationId        : String
  requestId            : String
  merchantId           : String
  capability           : String
  paymentTransactionId : Value
  orderStatus          : OrderStatus
  merchantOrderId      : Value
  verifiedAt           : String
  orderEvidence        : Option OrderEvidence

/-- A value as the key of a dictionary: equal numbers are one key. -/
inductive DictKey where
  | none
  | number (q : Rat)
  | infinite (negative : Bool)
  | nan
  | text (s : String)
deriving DecidableEq

/-- The key that a value makes; lists and dictionaries make none. -/
def DictKey.of : Value → Option DictKey
  | .null => some .none
  | .bool b => some (.number (if b then 1 else 0))
  | .int i => some (.number i)
  | .float (.finite q) => some (.number q)
  | .float (.infinite negative) => some (.infinite negative)
  | .float .nan => some .nan
  | .str s => some (.text s)
  | .arr _ | .obj _ => Option.none

/-- `str(value)` and `int(text)`. -/
structure TextConversions where
  str : Value → String
  int : String → Option Int

structure AuthoritativeEvidence where
  amountPaise : String
  currency    : String
  source      : String

/-- The orders of an `OrderVerificationEngine`. -/
abbrev Orders : Type := OrderedMap DictKey CheckoutOutcome

namespace OrderVerificationEngine

/-- What is known of an identifier that was not seen before. -/
def unseen (outcomeId paymentTransactionId merchantOrderId : Value) (nowIso : String) :
    CheckoutOutcome where
  outcomeId := outcomeId
  preparationId := "prep_unknown"
  requestId := "req_unknown"
  merchantId := "mer_unknown"
  capability := "CHECKOUT_HANDOFF"
  paymentTransactionId := paymentTransactionId
  orderStatus := .orderUnknown
  merchantOrderId := merchantOrderId
  verifiedAt := nowIso
  orderEvidence := none

def evidenceHash (sha : Sha256) (conv : TextConversions)
    (outcomeId paymentTransactionId merchantOrderId : Value) (nowIso : String) : String :=
  sha.hexdigest (conv.str outcomeId ++ "|" ++ conv.str paymentTransactionId ++ "|"
    ++ conv.str merchantOrderId ++ "|" ++ nowIso)

/-- `verify_order_outcome` with evidence that is given: what the identifier is
    for stays in the store when the amount cannot be read. -/
def verifyOrderOutcome (sha : Sha256) (conv : TextConversions) (now : Instant)
    (outcomeId paymentTransactionId merchantOrderId : Value) (evidence : AuthoritativeEvidence)
    (orders : Orders) : Except WebhookError CheckoutOutcome × Orders :=
  let nowIso := isoformat now
  match DictKey.of outcomeId with
  | none => (.error (.typeError s!"unhashable type: '{WebhookEngine.typeName outcomeId}'"), orders)
  | some key =>
      let found := (orders.get key).getD
        (unseen outcomeId paymentTransactionId merchantOrderId nowIso)
      let outcome := { found with
        paymentTransactionId := paymentTransactionId
        merchantOrderId := merchantOrderId
        verifiedAt := nowIso }
      if WebhookEngine.isTruthy merchantOrderId then
        match conv.int evidence.amountPaise with
        | none => (.error (.raised (.valueError
            ("invalid literal for int() with base 10: " ++ Text.quoted evidence.amountPaise))),
            orders.set key outcome)
        | some amount =>
            let verified := { outcome with
              orderStatus := .orderVerified
              orderEvidence := some {
                orderId := outcomeId
                merchantOrderId := merchantOrderId
                paymentTransactionId := paymentTransactionId
                amountPaise := amount
                currency := evidence.currency
                verificationSource := evidence.source
                verifiedAt := nowIso
                evidenceHash := evidenceHash sha conv outcomeId paymentTransactionId
                  merchantOrderId nowIso } }
            (.ok verified, orders.set key verified)
      else
        let unknown := { outcome with orderStatus := .orderUnknown }
        (.ok unknown, orders.set key unknown)

end OrderVerificationEngine

end MandateGateway

namespace MandateGateway

open Clock Json

/-- `WebhookValidationError`, or what reading the payload raises. -/
inductive CommerceWebhookError where
  | validationError (message : String)
  | raised (err : WebhookError)

/-- The dictionary that a call returns. -/
inductive CommerceWebhookResult where
  | duplicate (message eventId : String)
  | success (eventId : String) (eventType : Value) (orderStatus processedAt : String)
  | processed (eventId : String) (eventType : Value) (processedAt : String)

structure CommerceWebhookHandler where
  orderVerifier   : Orders
  webhookSecret   : String
  processedEvents : Finset String

/-- The arguments of `process_webhook`. -/
structure MerchantWebhook where
  rawBody         : ByteArray
  signature       : String
  eventId         : String
  timestampHeader : String
  payload         : Value

/-- What a call reads off the clock: whole seconds, and the times of the outcome
    and of the answer. -/
structure WebhookClock where
  seconds     : Int
  verifiedAt  : Instant
  processedAt : Instant

/-- The functions of the standard library that the handler calls. -/
structure HandlerLibrary where
  hmac : HmacSha256
  sha  : Sha256
  conv : TextConversions

namespace CommerceWebhookHandler

variable (lib : HandlerLibrary)

/-- The HMAC of a body. -/
def digest (rawBody : ByteArray) (h : CommerceWebhookHandler) : String :=
  lib.hmac.hexdigest h.webhookSecret.toUTF8 rawBody

def verifySignature (rawBody : ByteArray) (signature : String) (h : CommerceWebhookHandler) :
    Except WebhookError Bool :=
  if rawBody.size = 0 ∨ signature = "" then .ok false
  else WebhookEngine.compareDigest (Text.strip (Text.remove "sha256=" signature))
    (h.digest lib rawBody)

/-- The check of the time, whose own error is no `ValueError`. -/
def checkTimestamp (now : Int) (timestampHeader : String) : Except CommerceWebhookError Unit :=
  match lib.conv.int timestampHeader with
  | none => .error (.validationError "Security Rejection: Invalid webhook timestamp header.")
  | some event =>
      if 300 < (now - event).natAbs then
        .error (.validationError ("Security Rejection: Webhook timestamp expired "
          ++ s!"({(now - event).natAbs}s old > 300s limit)."))
      else .ok ()

/-- `str(event_data.get(key, default))`. -/
def textOf (members : List (String × Value)) (key : String) (default : Value) : String :=
  lib.conv.str (WebhookEngine.getOr members key default)

/-- `event_data.get(key) or event_data.get(other) or ""`. -/
def eitherOf (members : List (String × Value)) (key other : String) : Value :=
  WebhookEngine.orElse (WebhookEngine.getOr members key .null)
    (WebhookEngine.orElse (WebhookEngine.getOr members other .null) (.str ""))

def confirmedTypes : List String := ["order.confirmed", "order.created", "payment.accepted"]

/-- `event_type in (...)`. -/
def isConfirmed : Value → Bool
  | .str s => decide (s ∈ confirmedTypes)
  | _ => false

def dispatchData (clock : WebhookClock) (eventId : String) (eventType : Value)
    (data : List (String × Value)) (orders : Orders) :
    Except CommerceWebhookError CommerceWebhookResult × Orders :=
  let merchantOrderId := eitherOf data "merchant_order_id" "order_id"
  let paymentTransactionId := eitherOf data "payment_transaction_id" "transaction_id"
  let outcomeId := WebhookEngine.orElse (WebhookEngine.getOr data "outcome_id" .null)
    (.str ("outcome_" ++ lib.conv.str merchantOrderId))
  if isConfirmed eventType then
    match OrderVerificationEngine.verifyOrderOutcome lib.sha lib.conv clock.verifiedAt outcomeId
        paymentTransactionId merchantOrderId
        { amountPaise := textOf lib data "amount_paise" (.int 0)
          currency := textOf lib data "currency" (.str "INR")
          source := "merchant_signed_webhook" } orders with
    | (.error err, orders') => (.error (.raised err), orders')
    | (.ok outcome, orders') =>
        (.ok (.success eventId eventType outcome.orderStatus.value
          (isoformat clock.processedAt)), orders')
  else (.ok (.processed eventId eventType (isoformat clock.processedAt)), orders)

/-- Step 4: the dispatch of a payload. -/
def dispatch (clock : WebhookClock) (eventId : String) (payload : Value) (orders : Orders) :
    Except CommerceWebhookError CommerceWebhookResult × Orders :=
  match WebhookEngine.asDict payload with
  | .error err => (.error (.raised err), orders)
  | .ok members =>
      let eventType := WebhookEngine.orElse (WebhookEngine.getOr members "event" .null)
        (WebhookEngine.orElse (WebhookEngine.getOr members "event_type" .null)
          (.str "order.updated"))
      let eventData := WebhookEngine.orElse (WebhookEngine.getOr members "data" .null) payload
      match WebhookEngine.asDict eventData with
      | .error err => (.error (.raised err), orders)
      | .ok data => dispatchData lib clock eventId eventType data orders

def processWebhook (clock : WebhookClock) (call : MerchantWebhook) (h : CommerceWebhookHandler) :
    Except CommerceWebhookError CommerceWebhookResult × CommerceWebhookHandler :=
  match h.verifySignature lib call.rawBody call.signature with
  | .error err => (.error (.raised err), h)
  | .ok false => (.error (.validationError
      "Security Rejection: Invalid HMAC-SHA256 merchant webhook signature."), h)
  | .ok true =>
      match checkTimestamp lib clock.seconds call.timestampHeader with
      | .error err => (.error err, h)
      | .ok () =>
          if call.eventId ∈ h.processedEvents then
            (.ok (.duplicate s!"Webhook event '{call.eventId}' already processed."
              call.eventId), h)
          else
            let (result, orders) := dispatch lib clock call.eventId call.payload h.orderVerifier
            (result, { h with
              orderVerifier := orders
              processedEvents := insert call.eventId h.processedEvents })

/-! ## What is dispatched -/

variable {lib : HandlerLibrary} {clock : WebhookClock} {call : MerchantWebhook}
  {h : CommerceWebhookHandler}

/-- The three checks of a call. -/
structure Admits (lib : HandlerLibrary) (clock : WebhookClock) (call : MerchantWebhook)
    (h : CommerceWebhookHandler) : Prop where
  signed : h.verifySignature lib call.rawBody call.signature = .ok true
  fresh  : ∃ event, lib.conv.int call.timestampHeader = some event
    ∧ (clock.seconds - event).natAbs ≤ 300
  unseen : call.eventId ∉ h.processedEvents

theorem checkTimestamp_eq_ok_iff {now : Int} {timestampHeader : String} :
    checkTimestamp lib now timestampHeader = .ok ()
      ↔ ∃ event, lib.conv.int timestampHeader = some event ∧ (now - event).natAbs ≤ 300 := by
  rw [checkTimestamp]
  cases lib.conv.int timestampHeader with
  | none => exact iff_of_false nofun nofun
  | some event =>
      dsimp only
      by_cases hlate : 300 < (now - event).natAbs
      · rw [if_pos hlate]
        refine iff_of_false nofun ?_
        rintro ⟨t, ht, hle⟩
        obtain rfl := Option.some.inj ht
        exact absurd hlate (Nat.not_lt.mpr hle)
      · rw [if_neg hlate]
        exact iff_of_true rfl ⟨event, rfl, Nat.not_lt.mp hlate⟩

/-- **A call that is admitted is dispatched, and its event is processed; any other
    call changes nothing.** -/
theorem processWebhook_cases (lib : HandlerLibrary) (clock : WebhookClock)
    (call : MerchantWebhook) (h : CommerceWebhookHandler) :
    (Admits lib clock call h
      ∧ h.processWebhook lib clock call
        = ((dispatch lib clock call.eventId call.payload h.orderVerifier).1,
          ⟨(dispatch lib clock call.eventId call.payload h.orderVerifier).2, h.webhookSecret,
            insert call.eventId h.processedEvents⟩))
    ∨ (¬ Admits lib clock call h ∧ (h.processWebhook lib clock call).2 = h) := by
  rw [processWebhook]
  cases hsigned : h.verifySignature lib call.rawBody call.signature with
  | error err =>
      refine .inr ⟨?_, rfl⟩
      intro hadmits
      rw [hadmits.signed] at hsigned
      cases hsigned
  | ok verified =>
      cases verified with
      | false =>
          refine .inr ⟨?_, rfl⟩
          intro hadmits
          rw [hadmits.signed] at hsigned
          cases hsigned
      | true =>
          dsimp only
          cases htime : checkTimestamp lib clock.seconds call.timestampHeader with
          | error err =>
              refine .inr ⟨?_, rfl⟩
              intro hadmits
              rw [checkTimestamp_eq_ok_iff.mpr hadmits.fresh] at htime
              cases htime
          | ok _ =>
              dsimp only
              by_cases hseen : call.eventId ∈ h.processedEvents
              · rw [if_pos hseen]
                exact .inr ⟨fun hadmits => hadmits.unseen hseen, rfl⟩
              · rw [if_neg hseen]
                exact .inl ⟨⟨hsigned, checkTimestamp_eq_ok_iff.mp htime, hseen⟩, rfl⟩

theorem verifySignature_digest {rawBody : ByteArray} (hbody : rawBody.size ≠ 0)
    {signature : String} (hgiven : signature ≠ "")
    (hsignature : Text.strip (Text.remove "sha256=" signature) = h.digest lib rawBody) :
    h.verifySignature lib rawBody signature = .ok true := by
  rw [verifySignature, if_neg (not_or.mpr ⟨hbody, hgiven⟩), hsignature]
  exact (WebhookEngine.compareDigest_eq_ok_true_iff
    (lib.hmac.isAscii_hexdigest _ _)).mpr rfl

end CommerceWebhookHandler

end MandateGateway
