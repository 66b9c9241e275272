import MandateGateway.Webhook.Payload

/-! # Which webhook payloads are read

    The payload is untyped: where it has another value than a dictionary or a
    text in a place that is read as one, the call raises.  Each reader gets its
    inversion as a pure function of the payload (`field`, `textOf`) under the
    shape that it needs; `Readable` collects the shapes, and a payload is
    inspected without an error exactly when it has them
    (`inspectPayload_returns_iff`). -/

namespace MandateGateway

open Clock Exceptions Json

namespace WebhookEngine

/-! ## Reading a payload -/

/-- The value has `.get`. -/
def IsDict : Value → Prop
  | .obj _ => True
  | _ => False

/-- The value has `.strip`. -/
def IsText : Value → Prop
  | .str _ => True
  | _ => False

/-- The value is one that `validate_timestamp` can take. -/
def IsTimestamp : Value → Prop
  | .null | .int _ | .bool _ => True
  | _ => False

/-- The member of a dictionary. -/
def field (v : Value) (key : String) (default : Value) : Value :=
  match v with
  | .obj members => getOr members key default
  | _ => default

/-- A text without the whitespace around it. -/
def textOf : Value → String
  | .str s => Text.strip s
  | _ => ""

theorem get_eq_ok_iff {v w default : Value} {key : String} :
    get v key default = .ok w ↔ IsDict v ∧ w = field v key default := by
  cases v with
  | obj members =>
      constructor
      · intro h
        exact ⟨trivial, (Except.ok.inj h).symm⟩
      · rintro ⟨-, rfl⟩
        rfl
  | null | bool _ | int _ | float _ | str _ | arr _ =>
      constructor
      · intro h
        cases h
      · rintro ⟨h, -⟩
        exact h.elim

theorem get_seq_eq_ok_iff {β : Type} {v default : Value} {key : String}
    {f : Value → Except WebhookError β} {b : β} :
    (get v key default >>= f) = .ok b ↔ IsDict v ∧ f (field v key default) = .ok b := by
  rw [seq_eq_ok_iff]
  constructor
  · rintro ⟨w, hget, hrest⟩
    obtain ⟨hdict, rfl⟩ := get_eq_ok_iff.mp hget
    exact ⟨hdict, hrest⟩
  · rintro ⟨hdict, hrest⟩
    exact ⟨_, get_eq_ok_iff.mpr ⟨hdict, rfl⟩, hrest⟩

theorem strip_eq_ok_iff {v : Value} {s : String} :
    strip v = .ok s ↔ IsText v ∧ s = textOf v := by
  cases v with
  | str text =>
      constructor
      · intro h
        exact ⟨trivial, (Except.ok.inj h).symm⟩
      · rintro ⟨-, rfl⟩
        rfl
  | null | bool _ | int _ | float _ | arr _ | obj _ =>
      constructor
      · intro h
        cases h
      · rintro ⟨h, -⟩
        exact h.elim

theorem checkCreatedAt_returns_iff {evalTime : Instant} {v : Value} :
    (∃ fresh, checkCreatedAt evalTime v = .ok fresh) ↔ IsTimestamp v := by
  cases v with
  | null | int _ | bool _ => exact ⟨fun _ => trivial, fun _ => ⟨_, rfl⟩⟩
  | float _ | str _ | arr _ | obj _ =>
      exact ⟨fun h => (not_exists_error_eq_ok _ h).elim, fun h => h.elim⟩

/-! ## The texts that name the event -/

/-- The identity of the event, before it is trimmed. -/
def identity (eventId : Option String) (payload : Value) : Value :=
  match eventId with
  | some s => if s = "" then ofPayload else .str s
  | none => ofPayload
where
  ofPayload : Value := orElse (field payload "id" .null) (.str "")

def eventKind (payload : Value) : Value := field payload "event" (.str "payment.unknown")

def innerPayload (payload : Value) : Value := field payload "payload" (.obj [])

def payment (payload : Value) : Value := field (innerPayload payload) "payment" (.obj [])

/-- The payment entity, or else the entity at the top. -/
def entityOf (payload : Value) : Value :=
  if isTruthy (field (payment payload) "entity" (.obj [])) then
    field (payment payload) "entity" (.obj [])
  else field payload "entity" (.obj [])

def notesOf (entity : Value) : Value := field entity "notes" (.obj [])

def transactionNamed (entity : Value) : Value :=
  orElse (field (notesOf entity) "transaction_id" .null)
    (orElse (field entity "receipt" .null)
      (orElse (field entity "description" .null) (.str "")))

def merchantNamed (entity : Value) : Value :=
  orElse (field (notesOf entity) "merchant_id" .null)
    (orElse (field entity "merchant_id" .null) (.str ""))

theorem effectiveEventId_eq_ok_iff {eventId : Option String} {payload : Value} {s : String}
    (hdict : IsDict payload) :
    effectiveEventId eventId payload = .ok s
      ↔ IsText (identity eventId payload) ∧ s = textOf (identity eventId payload) := by
  have hpayload : effectiveEventId.ofPayload payload = .ok s
      ↔ IsText (identity.ofPayload payload) ∧ s = textOf (identity.ofPayload payload) := by
    rw [effectiveEventId.ofPayload, get_seq_eq_ok_iff, strip_eq_ok_iff]
    exact and_iff_right hdict
  cases eventId with
  | none => exact hpayload
  | some given =>
      rw [effectiveEventId, identity]
      by_cases hempty : given = ""
      · rw [if_pos hempty, if_pos hempty]
        exact hpayload
      · rw [if_neg hempty, if_neg hempty]
        exact ok_eq_ok_iff.trans (and_iff_right trivial).symm

theorem eventTypeOf_eq_ok_iff {payload : Value} {s : String} :
    eventTypeOf payload = .ok s
      ↔ IsDict payload ∧ IsText (eventKind payload) ∧ s = textOf (eventKind payload) := by
  rw [eventTypeOf, get_seq_eq_ok_iff, strip_eq_ok_iff]
  rfl

theorem paymentEntity_eq_ok_iff {payload entity : Value} :
    paymentEntity payload = .ok entity
      ↔ IsDict payload ∧ IsDict (innerPayload payload) ∧ IsDict (payment payload)
        ∧ entity = entityOf payload := by
  rw [paymentEntity, get_seq_eq_ok_iff, get_seq_eq_ok_iff, get_seq_eq_ok_iff]
  refine and_congr_right fun hdict => and_congr_right fun _ => and_congr_right fun _ => ?_
  rw [entityOf]
  by_cases htruthy : isTruthy (field (payment payload) "entity" (.obj [])) = true
  · rw [if_pos htruthy, ← innerPayload, ← payment, if_pos htruthy]
    exact ok_eq_ok_iff
  · rw [if_neg htruthy, ← innerPayload, ← payment, if_neg htruthy, get_eq_ok_iff]
    exact and_iff_right hdict

theorem transactionIdOf_eq_ok_iff {entity : Value} {s : String} :
    transactionIdOf entity = .ok s
      ↔ IsDict entity ∧ IsDict (notesOf entity) ∧ IsText (transactionNamed entity)
        ∧ s = textOf (transactionNamed entity) := by
  rw [transactionIdOf, get_seq_eq_ok_iff, get_seq_eq_ok_iff, get_seq_eq_ok_iff,
    get_seq_eq_ok_iff, strip_eq_ok_iff]
  refine and_congr_right fun hdict => and_congr_right fun _ => ?_
  rw [and_iff_right hdict, and_iff_right hdict]
  rfl

theorem merchantIdOf_eq_ok_iff {entity : Value} {s : String} :
    merchantIdOf entity = .ok s
      ↔ IsDict entity ∧ IsDict (notesOf entity) ∧ IsText (merchantNamed entity)
        ∧ s = textOf (merchantNamed entity) := by
  rw [merchantIdOf, get_seq_eq_ok_iff, get_seq_eq_ok_iff, get_seq_eq_ok_iff, strip_eq_ok_iff]
  refine and_congr_right fun hdict => and_congr_right fun _ => ?_
  rw [and_iff_right hdict]
  rfl

def eventOf (eventId : Option String) (payload : Value) : ProviderEvent where
  eventId := textOf (identity eventId payload)
  eventType := textOf (eventKind payload)
  transactionId := textOf (transactionNamed (entityOf payload))
  merchantId := textOf (merchantNamed (entityOf payload))

/-! ## Which payloads are read -/

structure ReadablePayment (payload : Value) : Prop where
  inner       : IsDict (innerPayload payload)
  payment     : IsDict (payment payload)
  entity      : IsDict (entityOf payload)
  notes       : IsDict (notesOf (entityOf payload))
  transaction : IsText (transactionNamed (entityOf payload))
  merchant    : IsText (merchantNamed (entityOf payload))

/-- The payload has the shape that is read, as far as it is read. -/
structure Readable (evalTime : Instant) (eventId : Option String) (payload : Value) : Prop where
  isDict    : IsDict payload
  named     : IsText (identity eventId payload)
  typed     : IsText (eventKind payload)
  createdAt : (eventOf eventId payload).eventId ≠ ""
    → IsTimestamp (field payload "created_at" .null)
  timely    : (eventOf eventId payload).eventId ≠ "" → InWindow evalTime payload
    → ReadablePayment payload

section
variable {evalTime : Instant} {eventId : Option String} {payload : Value} {e : ProviderEvent}

theorem inWindow_iff (hdict : IsDict payload) :
    InWindow evalTime payload
      ↔ checkCreatedAt evalTime (field payload "created_at" .null) = .ok true := by
  constructor
  · rintro ⟨eventTs, hget, hfresh⟩
    obtain ⟨-, rfl⟩ := get_eq_ok_iff.mp hget
    exact hfresh
  · intro hfresh
    exact ⟨_, get_eq_ok_iff.mpr ⟨hdict, rfl⟩, hfresh⟩

/-- The reading of a payment, which names the transaction and the merchant. -/
def inspectPayment (eventId : Option String) (payload : Value) :
    Except WebhookError (WebhookProcessingResult ⊕ ProviderEvent) := do
  let entity ← paymentEntity payload
  let txId ← transactionIdOf entity
  let merId ← merchantIdOf entity
  if txId = "" then pure (.inl (missingTransactionId (eventOf eventId payload).eventId))
  else pure (.inr
    ⟨(eventOf eventId payload).eventId, textOf (eventKind payload), txId, merId⟩)

/-- The controls on a payload once the event's attributes are read. -/
def inspectContext (evalTime : Instant) (eventId : Option String) (payload : Value) :
    Except WebhookError (WebhookProcessingResult ⊕ ProviderEvent) :=
  let effEventId := (eventOf eventId payload).eventId
  if effEventId = "" then pure (.inl missingEventId)
  else do
    let fresh ← checkCreatedAt evalTime (field payload "created_at" .null)
    if fresh = false then pure (.inl (stale effEventId)) else inspectPayment eventId payload

theorem inspectPayload_eq_ok_iff {verdict : WebhookProcessingResult ⊕ ProviderEvent} :
    inspectPayload evalTime eventId payload = .ok verdict
      ↔ IsDict payload ∧ IsText (identity eventId payload) ∧ IsText (eventKind payload)
        ∧ inspectContext evalTime eventId payload = .ok verdict := by
  rw [inspectPayload, seq_eq_ok_iff]
  constructor
  · rintro ⟨effEventId, hid, h⟩
    obtain ⟨eventType, htype, h⟩ := seq_eq_ok_iff.mp h
    obtain ⟨hdict, hkind, rfl⟩ := eventTypeOf_eq_ok_iff.mp htype
    obtain ⟨htext, rfl⟩ := (effectiveEventId_eq_ok_iff hdict).mp hid
    exact ⟨hdict, htext, hkind, (get_seq_eq_ok_iff.mp h).2⟩
  · rintro ⟨hdict, htext, hkind, h⟩
    refine ⟨_, (effectiveEventId_eq_ok_iff hdict).mpr ⟨htext, rfl⟩, seq_eq_ok_iff.mpr ?_⟩
    exact ⟨_, eventTypeOf_eq_ok_iff.mpr ⟨hdict, hkind, rfl⟩, get_seq_eq_ok_iff.mpr ⟨hdict, h⟩⟩

theorem inspectContext_of_unnamed (hempty : (eventOf eventId payload).eventId = "") :
    inspectContext evalTime eventId payload = .ok (.inl missingEventId) := if_pos hempty

theorem inspectPayment_returns_iff (hdict : IsDict payload) :
    (∃ verdict, inspectPayment eventId payload = .ok verdict) ↔ ReadablePayment payload := by
  constructor
  · rintro ⟨verdict, h⟩
    obtain ⟨entity, hentity, h⟩ := seq_eq_ok_iff.mp h
    obtain ⟨-, hinner, hpayment, rfl⟩ := paymentEntity_eq_ok_iff.mp hentity
    obtain ⟨txId, htx, h⟩ := seq_eq_ok_iff.mp h
    obtain ⟨hobject, hnotes, htransaction, -⟩ := transactionIdOf_eq_ok_iff.mp htx
    obtain ⟨merId, hmer, -⟩ := seq_eq_ok_iff.mp h
    obtain ⟨-, -, hmerchant, -⟩ := merchantIdOf_eq_ok_iff.mp hmer
    exact ⟨hinner, hpayment, hobject, hnotes, htransaction, hmerchant⟩
  · rintro ⟨hinner, hpayment, hobject, hnotes, htransaction, hmerchant⟩
    have hentity := paymentEntity_eq_ok_iff.mpr ⟨hdict, hinner, hpayment, rfl⟩
    have htx := transactionIdOf_eq_ok_iff.mpr ⟨hobject, hnotes, htransaction, rfl⟩
    have hmer := merchantIdOf_eq_ok_iff.mpr ⟨hobject, hnotes, hmerchant, rfl⟩
    by_cases hmissing : textOf (transactionNamed (entityOf payload)) = ""
    · refine ⟨.inl (missingTransactionId (eventOf eventId payload).eventId),
        seq_eq_ok_iff.mpr ⟨_, hentity, seq_eq_ok_iff.mpr ⟨_, htx, ?_⟩⟩⟩
      exact seq_eq_ok_iff.mpr ⟨_, hmer, if_pos hmissing⟩
    · refine ⟨.inr (eventOf eventId payload),
        seq_eq_ok_iff.mpr ⟨_, hentity, seq_eq_ok_iff.mpr ⟨_, htx, ?_⟩⟩⟩
      exact seq_eq_ok_iff.mpr ⟨_, hmer, if_neg hmissing⟩

/-- The context of a payload is read exactly when its timestamp is one and, in
    the window, its payment has the shape that is read. -/
theorem inspectContext_returns_iff (hdict : IsDict payload)
    (hnamed : (eventOf eventId payload).eventId ≠ "") :
    (∃ verdict, inspectContext evalTime eventId payload = .ok verdict)
      ↔ IsTimestamp (field payload "created_at" .null)
        ∧ (InWindow evalTime payload → ReadablePayment payload) := by
  rw [inspectContext, if_neg hnamed, inWindow_iff hdict, ← checkCreatedAt_returns_iff]
  cases checkCreatedAt evalTime (field payload "created_at" .null) with
  | error err =>
      refine ⟨fun h => (not_exists_error_eq_ok err h).elim, fun h => ?_⟩
      exact (not_exists_error_eq_ok err h.1).elim
  | ok fresh =>
      cases fresh with
      | false =>
          exact ⟨fun _ => ⟨⟨_, rfl⟩, fun h => Bool.noConfusion (Except.ok.inj h)⟩,
            fun _ => ⟨_, rfl⟩⟩
      | true =>
          refine (inspectPayment_returns_iff hdict).trans ⟨fun h => ⟨⟨_, rfl⟩, fun _ => h⟩, ?_⟩
          exact fun h => h.2 rfl

/-- **A payload is inspected without an error** exactly when it is readable. -/
theorem inspectPayload_returns_iff :
    (∃ verdict, inspectPayload evalTime eventId payload = .ok verdict)
      ↔ Readable evalTime eventId payload := by
  constructor
  · rintro ⟨verdict, h⟩
    obtain ⟨hdict, htext, hkind, h⟩ := inspectPayload_eq_ok_iff.mp h
    have hcontext := fun hnamed =>
      (inspectContext_returns_iff hdict hnamed).mp ⟨verdict, h⟩
    exact ⟨hdict, htext, hkind, fun hnamed => (hcontext hnamed).1,
      fun hnamed => (hcontext hnamed).2⟩
  · rintro ⟨hdict, htext, hkind, hcreated, htimely⟩
    have hcontext : ∃ verdict, inspectContext evalTime eventId payload = .ok verdict := by
      by_cases hempty : (eventOf eventId payload).eventId = ""
      · exact ⟨_, inspectContext_of_unnamed hempty⟩
      · exact (inspectContext_returns_iff hdict hempty).mpr ⟨hcreated hempty, htimely hempty⟩
    obtain ⟨verdict, h⟩ := hcontext
    exact ⟨verdict, inspectPayload_eq_ok_iff.mpr ⟨hdict, htext, hkind, h⟩⟩

/-- What a readable payload names. -/
theorem names_iff (hreadable : Readable evalTime eventId payload)
    (hwindow : InWindow evalTime payload) :
    Names eventId payload e
      ↔ e = eventOf eventId payload ∧ e.eventId ≠ "" ∧ e.transactionId ≠ "" := by
  constructor
  · rintro ⟨hid, htype, ⟨entity, hentity, htx, hmer⟩, hidentified, hcorrelated⟩
    obtain ⟨-, -, -, rfl⟩ := paymentEntity_eq_ok_iff.mp hentity
    refine ⟨?_, hidentified, hcorrelated⟩
    cases e with
    | mk eventId' eventType transactionId merchantId =>
        rw [eventOf, ProviderEvent.mk.injEq]
        exact ⟨((effectiveEventId_eq_ok_iff hreadable.isDict).mp hid).2,
          (eventTypeOf_eq_ok_iff.mp htype).2.2, (transactionIdOf_eq_ok_iff.mp htx).2.2.2,
          (merchantIdOf_eq_ok_iff.mp hmer).2.2.2⟩
  · rintro ⟨rfl, hidentified, hcorrelated⟩
    have hshape := hreadable.timely hidentified hwindow
    refine ⟨(effectiveEventId_eq_ok_iff hreadable.isDict).mpr ⟨hreadable.named, rfl⟩,
      eventTypeOf_eq_ok_iff.mpr ⟨hreadable.isDict, hreadable.typed, rfl⟩,
      ⟨entityOf payload, ?_, ?_, ?_⟩, hidentified, hcorrelated⟩
    · exact paymentEntity_eq_ok_iff.mpr ⟨hreadable.isDict, hshape.inner, hshape.payment, rfl⟩
    · exact transactionIdOf_eq_ok_iff.mpr
        ⟨hshape.entity, hshape.notes, hshape.transaction, rfl⟩
    · exact merchantIdOf_eq_ok_iff.mpr ⟨hshape.entity, hshape.notes, hshape.merchant, rfl⟩

end

end WebhookEngine

end MandateGateway
