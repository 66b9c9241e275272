import MandateGateway.Commerce.WebhookReplay

/-! # Events that are processed in vain

    An event is marked as processed before it is dispatched.  When the dispatch
    raises, the mark stays, and the redelivery of the event is a duplicate.

    The verifier is any function here, another one for each call.

    * `atomic_iff`: an event is processed once or not at all exactly when nothing
      of its dispatch raises. -/

namespace MandateGateway

open Clock Json Runs

/-- What a verifier does: the outcome it returns or what it raises, and the
    orders after it. -/
abbrev OrderVerifier : Type :=
  Value → Value → Value → AuthoritativeEvidence → Orders →
    Except WebhookError CheckoutOutcome × Orders

/-- The `OrderVerificationEngine`. -/
def OrderVerifier.engine (lib : HandlerLibrary) (now : Instant) : OrderVerifier :=
  OrderVerificationEngine.verifyOrderOutcome lib.sha lib.conv now

/-- A call, what it reads off the clock, and the verifier that it meets. -/
structure MerchantDelivery where
  clock  : WebhookClock
  call   : MerchantWebhook
  verify : OrderVerifier

/-- What a verifier is asked. -/
structure VerifyRequest where
  outcomeId            : Value
  paymentTransactionId : Value
  merchantOrderId      : Value
  evidence             : AuthoritativeEvidence

namespace CommerceWebhookHandler

/-! ## The dispatch, with any verifier -/

section
variable (lib : HandlerLibrary)

/-- `event_type`. -/
def eventTypeOf (members : List (String × Value)) : Value :=
  WebhookEngine.orElse (WebhookEngine.getOr members "event" .null)
    (WebhookEngine.orElse (WebhookEngine.getOr members "event_type" .null)
      (.str "order.updated"))

/-- `event_data`. -/
def eventDataOf (members : List (String × Value)) : Value :=
  WebhookEngine.orElse (WebhookEngine.getOr members "data" .null) (.obj members)

/-- What is asked about the data of an event. -/
def requestOf (data : List (String × Value)) : VerifyRequest :=
  let merchantOrderId := eitherOf data "merchant_order_id" "order_id"
  { outcomeId := WebhookEngine.orElse (WebhookEngine.getOr data "outcome_id" .null)
      (.str ("outcome_" ++ lib.conv.str merchantOrderId))
    paymentTransactionId := eitherOf data "payment_transaction_id" "transaction_id"
    merchantOrderId := merchantOrderId
    evidence :=
      { amountPaise := textOf lib data "amount_paise" (.int 0)
        currency := textOf lib data "currency" (.str "INR")
        source := "merchant_signed_webhook" } }

/-- The type of the event of a payload, and what is to be asked about it. -/
def plan (payload : Value) : Except WebhookError (Value × Option VerifyRequest) :=
  match WebhookEngine.asDict payload with
  | .error err => .error err
  | .ok members =>
      match WebhookEngine.asDict (eventDataOf members) with
      | .error err => .error err
      | .ok data =>
          .ok (eventTypeOf members,
            if isConfirmed (eventTypeOf members) then some (requestOf lib data) else none)

/-- The dispatch of a payload. -/
def dispatchWith (d : MerchantDelivery) (orders : Orders) : HandlerAnswer × Orders :=
  match plan lib d.call.payload with
  | .error err => (.error (.raised err), orders)
  | .ok (eventType, none) =>
      (.ok (.processed d.call.eventId eventType (isoformat d.clock.processedAt)), orders)
  | .ok (eventType, some ask) =>
      match d.verify ask.outcomeId ask.paymentTransactionId ask.merchantOrderId ask.evidence
          orders with
      | (.error err, orders') => (.error (.raised err), orders')
      | (.ok outcome, orders') =>
          (.ok (.success d.call.eventId eventType outcome.orderStatus.value
            (isoformat d.clock.processedAt)), orders')

/-- `process_webhook`. -/
def deliver (h : CommerceWebhookHandler) (d : MerchantDelivery) :
    HandlerAnswer × CommerceWebhookHandler :=
  match h.verifySignature lib d.call.rawBody d.call.signature with
  | .error err => (.error (.raised err), h)
  | .ok false => (.error (.validationError
      "Security Rejection: Invalid HMAC-SHA256 merchant webhook signature."), h)
  | .ok true =>
      match checkTimestamp lib d.clock.seconds d.call.timestampHeader with
      | .error err => (.error err, h)
      | .ok () =>
          if d.call.eventId ∈ h.processedEvents then
            (.ok (.duplicate s!"Webhook event '{d.call.eventId}' already processed."
              d.call.eventId), h)
          else
            let (result, orders) := dispatchWith lib d h.orderVerifier
            (result, { h with
              orderVerifier := orders
              processedEvents := insert d.call.eventId h.processedEvents })

end

variable {lib : HandlerLibrary} {d : MerchantDelivery} {h : CommerceWebhookHandler}

theorem dispatchWith_engine (lib : HandlerLibrary) (clock : WebhookClock)
    (call : MerchantWebhook) (orders : Orders) :
    dispatchWith lib ⟨clock, call, .engine lib clock.verifiedAt⟩ orders
      = dispatch lib clock call.eventId call.payload orders := by
  rw [dispatchWith, dispatch, plan]
  cases hmembers : WebhookEngine.asDict call.payload with
  | error err => rfl
  | ok members =>
      have hpayload : call.payload = .obj members := WebhookEngine.asDict_eq_ok_iff.mp hmembers
      have hdata : WebhookEngine.orElse (WebhookEngine.getOr members "data" .null) call.payload
          = eventDataOf members := by rw [hpayload, eventDataOf]
      dsimp only
      rw [hdata]
      cases WebhookEngine.asDict (eventDataOf members) with
      | error err => rfl
      | ok data =>
          dsimp only
          rw [dispatchData]
          by_cases hconfirmed : isConfirmed (eventTypeOf members) = true
          · have hconfirmed' := hconfirmed
            rw [eventTypeOf] at hconfirmed'
            rw [if_pos hconfirmed, if_pos hconfirmed']
            rfl
          · have hconfirmed' := hconfirmed
            rw [eventTypeOf] at hconfirmed'
            rw [if_neg hconfirmed, if_neg hconfirmed']
            rfl

/-- **With the engine as verifier a delivery is a call of the handler.** -/
theorem deliver_engine (lib : HandlerLibrary) (clock : WebhookClock) (call : MerchantWebhook)
    (h : CommerceWebhookHandler) :
    h.deliver lib ⟨clock, call, .engine lib clock.verifiedAt⟩
      = h.processWebhook lib clock call := by
  rw [deliver, dispatchWith_engine]
  rfl

/-- The delivery passes the checks. -/
abbrev Admitted (lib : HandlerLibrary) (d : MerchantDelivery) (h : CommerceWebhookHandler) : Prop :=
  Admits lib d.clock d.call h

theorem deliver_of_admitted (hadmits : Admitted lib d h) :
    h.deliver lib d = ((dispatchWith lib d h.orderVerifier).1,
      ⟨(dispatchWith lib d h.orderVerifier).2, h.webhookSecret,
        insert d.call.eventId h.processedEvents⟩) := by
  rw [deliver, hadmits.signed]
  dsimp only
  rw [checkTimestamp_eq_ok_iff.mpr hadmits.fresh]
  dsimp only
  rw [if_neg hadmits.unseen]

theorem deliver_of_not_admitted (hnot : ¬ Admitted lib d h) :
    h.deliver lib d = h.processWebhook lib d.clock d.call := by
  rw [deliver, processWebhook]
  cases hsigned : h.verifySignature lib d.call.rawBody d.call.signature with
  | error err => rfl
  | ok verified =>
      cases verified with
      | false => rfl
      | true =>
          dsimp only
          cases htime : checkTimestamp lib d.clock.seconds d.call.timestampHeader with
          | error err => rfl
          | ok _ =>
              dsimp only
              by_cases hseen : d.call.eventId ∈ h.processedEvents
              · rw [if_pos hseen, if_pos hseen]
              · exact absurd ⟨hsigned, checkTimestamp_eq_ok_iff.mp htime, hseen⟩ hnot

theorem deliver_post_of_not_admitted (hnot : ¬ Admitted lib d h) : (h.deliver lib d).2 = h := by
  rw [deliver_of_not_admitted hnot]
  rcases processWebhook_cases lib d.clock d.call h with ⟨hadmits, -⟩ | ⟨-, hpost⟩
  · exact absurd hadmits hnot
  · exact hpost

theorem mem_processedEvents_of_ok {result : CommerceWebhookResult}
    (hnot : ¬ Admitted lib d h) (hok : (h.deliver lib d).1 = .ok result) :
    d.call.eventId ∈ h.processedEvents := by
  rw [deliver] at hok
  cases hsigned : h.verifySignature lib d.call.rawBody d.call.signature with
  | error err =>
      rw [hsigned] at hok
      cases hok
  | ok verified =>
      rw [hsigned] at hok
      cases verified with
      | false => cases hok
      | true =>
          dsimp only at hok
          cases htime : checkTimestamp lib d.clock.seconds d.call.timestampHeader with
          | error err =>
              rw [htime] at hok
              cases hok
          | ok _ =>
              by_contra hseen
              exact hnot ⟨hsigned, checkTimestamp_eq_ok_iff.mp htime, hseen⟩

theorem deliver_keeps {eventId : String} (hmem : eventId ∈ h.processedEvents)
    (d : MerchantDelivery) : eventId ∈ (h.deliver lib d).2.processedEvents := by
  by_cases hadmits : Admitted lib d h
  · rw [deliver_of_admitted hadmits]
    exact Finset.mem_insert_of_mem hmem
  · rw [deliver_post_of_not_admitted hadmits]
    exact hmem

def Redelivery (d again : MerchantDelivery) : Prop := again.call.eventId = d.call.eventId

/-- The delivery has no effect: it changes nothing, and its answer is the same
    with every verifier. -/
def NoEffect (lib : HandlerLibrary) (d : MerchantDelivery) (h : CommerceWebhookHandler) : Prop :=
  (h.deliver lib d).2 = h ∧ ∀ verify, h.deliver lib { d with verify := verify } = h.deliver lib d

theorem noEffect_of_mem (hmem : d.call.eventId ∈ h.processedEvents) : NoEffect lib d h := by
  have hnot : ¬ Admitted lib d h := fun hadmits => hadmits.unseen hmem
  refine ⟨deliver_post_of_not_admitted hnot, fun verify => ?_⟩
  have hnot' : ¬ Admitted lib { d with verify := verify } h := hnot
  rw [deliver_of_not_admitted hnot, deliver_of_not_admitted hnot']

/-! ## Atomicity -/

/-- All or nothing: a delivery that raises while it is dispatched leaves the event
    unprocessed, and its redelivery is processed; after one that succeeds no
    redelivery has an effect, whatever comes between. -/
structure Atomic (lib : HandlerLibrary) (d : MerchantDelivery) (h : CommerceWebhookHandler) :
    Prop where
  raised    : ∀ err, Admitted lib d h → (h.deliver lib d).1 = .error err →
    d.call.eventId ∉ (h.deliver lib d).2.processedEvents
      ∧ ∀ again, Redelivery d again →
        h.verifySignature lib again.call.rawBody again.call.signature = .ok true →
        checkTimestamp lib again.clock.seconds again.call.timestampHeader = .ok () →
          Admitted lib again (h.deliver lib d).2
  succeeded : ∀ result, (h.deliver lib d).1 = .ok result → ∀ between again, Redelivery d again →
    NoEffect lib again (exec (deliver lib) (h.deliver lib d).2 between)

/-- Nothing that a dispatch does raises: the payload and its data are dictionaries,
    and the verifier returns an outcome of what it is asked. -/
def Dispatchable (lib : HandlerLibrary) (d : MerchantDelivery) (orders : Orders) : Prop :=
  ∃ members data, d.call.payload = .obj members ∧ eventDataOf members = .obj data
    ∧ (isConfirmed (eventTypeOf members) = true →
      ∃ outcome, (d.verify (requestOf lib data).outcomeId (requestOf lib data).paymentTransactionId
        (requestOf lib data).merchantOrderId (requestOf lib data).evidence orders).1 = .ok outcome)

theorem dispatchWith_ok_iff {orders : Orders} :
    (∃ result, (dispatchWith lib d orders).1 = .ok result) ↔ Dispatchable lib d orders := by
  constructor
  · rintro ⟨result, hok⟩
    rw [dispatchWith, plan] at hok
    cases hmembers : WebhookEngine.asDict d.call.payload with
    | error err =>
        rw [hmembers] at hok
        cases hok
    | ok members =>
        rw [hmembers] at hok
        dsimp only at hok
        cases hdata : WebhookEngine.asDict (eventDataOf members) with
        | error err =>
            rw [hdata] at hok
            cases hok
        | ok data =>
            rw [hdata] at hok
            refine ⟨members, data, WebhookEngine.asDict_eq_ok_iff.mp hmembers,
              WebhookEngine.asDict_eq_ok_iff.mp hdata, fun hconfirmed => ?_⟩
            dsimp only at hok
            rw [if_pos hconfirmed] at hok
            dsimp only at hok
            -- the answer is the verifier's, and only that is looked at
            generalize d.verify (requestOf lib data).outcomeId
              (requestOf lib data).paymentTransactionId (requestOf lib data).merchantOrderId
              (requestOf lib data).evidence orders = verified at hok
            obtain ⟨out, orders'⟩ := verified
            cases out with
            | error err => cases hok
            | ok outcome => exact ⟨outcome, rfl⟩
  · rintro ⟨members, data, hpayload, hdata, hverify⟩
    rw [dispatchWith, plan, WebhookEngine.asDict_eq_ok_iff.mpr hpayload]
    dsimp only
    rw [WebhookEngine.asDict_eq_ok_iff.mpr hdata]
    dsimp only
    by_cases hconfirmed : isConfirmed (eventTypeOf members) = true
    · obtain ⟨outcome, houtcome⟩ := hverify hconfirmed
      rw [if_pos hconfirmed]
      dsimp only
      generalize d.verify (requestOf lib data).outcomeId
        (requestOf lib data).paymentTransactionId (requestOf lib data).merchantOrderId
        (requestOf lib data).evidence orders = verified at houtcome ⊢
      obtain ⟨out, orders'⟩ := verified
      obtain rfl : out = .ok outcome := houtcome
      exact ⟨_, rfl⟩
    · rw [if_neg hconfirmed]
      exact ⟨_, rfl⟩

/-- **A delivery is atomic exactly when it is not dispatched, or nothing of the
    dispatch raises.** -/
theorem atomic_iff (lib : HandlerLibrary) (d : MerchantDelivery) (h : CommerceWebhookHandler) :
    Atomic lib d h ↔ (Admitted lib d h → Dispatchable lib d h.orderVerifier) := by
  constructor
  · intro hatomic hadmits
    rw [← dispatchWith_ok_iff]
    have hraised := hatomic.raised
    rw [deliver_of_admitted hadmits] at hraised
    -- the event is marked before the dispatch, whatever becomes of that
    cases hresult : (dispatchWith lib d h.orderVerifier).1 with
    | ok result => exact ⟨result, rfl⟩
    | error err =>
        exact absurd (Finset.mem_insert_self _ _) (hraised err hadmits hresult).1
  · intro hdispatchable
    constructor
    · intro err hadmits herr
      obtain ⟨result, hresult⟩ := dispatchWith_ok_iff.mpr (hdispatchable hadmits)
      rw [deliver_of_admitted hadmits] at herr
      rw [hresult] at herr
      cases herr
    · intro result hok between again hagain
      refine noEffect_of_mem ?_
      rw [hagain]
      have hmem : d.call.eventId ∈ (h.deliver lib d).2.processedEvents := by
        by_cases hadmits : Admitted lib d h
        · rw [deliver_of_admitted hadmits]
          exact Finset.mem_insert_self _ _
        · rw [deliver_post_of_not_admitted hadmits]
          exact mem_processedEvents_of_ok hadmits hok
      exact exec_inv (I := fun g : CommerceWebhookHandler => d.call.eventId ∈ g.processedEvents)
        (fun g e hg => deliver_keeps hg e) hmem between

end CommerceWebhookHandler

/-! An order that is confirmed with an amount that is not a whole number. -/

namespace SampleDelivery

open CommerceWebhookHandler

def digest : String := "78153fc225829f8e90d98f08989d5c669467d7698e01cbe0d5b6212e931e5141"

theorem digest_digits :
    digest.toList.length = 64 ∧ ∀ c ∈ digest.toList, isLowerHex c = true :=
  digits_of_all (by decide) (by decide)

def lib : HandlerLibrary := { SampleWebhook.lib with hmac := .constant digest digest_digits }

def rawBody : ByteArray :=
  ("\x7b\"event\":\"order.confirmed\",\"merchant_order_id\":\"m_ord_1\","
    ++ "\"amount_paise\":\"12.50\"\x7d").toUTF8

def payload : Value :=
  .obj [("event", .str "order.confirmed"), ("merchant_order_id", .str "m_ord_1"),
    ("amount_paise", .str "12.50")]

def call : MerchantWebhook := ⟨rawBody, "sha256=" ++ digest, "evt_1", "1000", payload⟩

def clock : WebhookClock := ⟨1000, 1000000000, 1000000000⟩

def delivery : MerchantDelivery := ⟨clock, call, .engine lib clock.verifiedAt⟩

def handler : CommerceWebhookHandler := SampleWebhook.handler

theorem admitted : Admitted lib delivery handler := by
  have hclean : Text.strip (Text.remove "sha256=" ("sha256=" ++ digest)) = digest := by
    decide +kernel
  exact ⟨verifySignature_digest (by decide) (by decide) hclean, ⟨1000, rfl, by decide⟩,
    Finset.notMem_empty _⟩

def amountError : CommerceWebhookError :=
  .raised (.raised (.valueError "invalid literal for int() with base 10: '12.50'"))

theorem dispatch_delivery :
    (dispatchWith lib delivery handler.orderVerifier).1 = .error amountError := by rfl

end SampleDelivery

open SampleDelivery CommerceWebhookHandler in
/-- The delivery raises, its event is processed, and its redelivery is answered as
    a duplicate. -/
theorem unread_amount_lost :
    Admitted lib delivery handler
    ∧ (handler.processWebhook lib clock call).1 = .error amountError
    ∧ "evt_1" ∈ (handler.processWebhook lib clock call).2.processedEvents
    ∧ NoEffect lib delivery (handler.processWebhook lib clock call).2
    ∧ ¬ Atomic lib delivery handler := by
  rw [← deliver_engine]
  have hpost := deliver_of_admitted admitted
  have hmem : "evt_1" ∈ (handler.deliver lib delivery).2.processedEvents := by
    rw [hpost]
    exact Finset.mem_insert_self _ _
  have herr : (handler.deliver lib delivery).1 = .error amountError := by
    rw [hpost]
    exact dispatch_delivery
  refine ⟨admitted, herr, hmem, noEffect_of_mem hmem, fun hatomic => ?_⟩
  exact (hatomic.raised _ admitted herr).1 hmem

end MandateGateway
