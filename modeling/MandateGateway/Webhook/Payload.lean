import MandateGateway.Db.Session
import MandateGateway.Lib.Exceptions
import MandateGateway.Lib.JsonDecode

/-! # What a webhook call says

    The part of `async_process_webhook` that comes before the database: the
    signature over the raw body, the JSON payload, the timestamp, and the
    identifiers that the payload names.  What is not a dictionary or a text
    where one is expected raises.

    Only a signature that is the HMAC of the body gets past the first control
    (`isHmacOf_of_verified`). -/

namespace MandateGateway

open Clock Exceptions Json

/-- Why a call raises. -/
inductive WebhookError where
  | raised (err : PyError)
  | attributeError (message : String)
  | typeError (message : String)
deriving DecidableEq

structure WebhookProcessingResult where
  success         : Bool
  eventId         : String
  transactionId   : Option String
  state           : Option TransactionState
  isDuplicate     : Bool
  rejectionReason : Option RejectionReason
  rejectionDetail : Option String
deriving DecidableEq

/-- The arguments of a call, but for the unit of work. -/
structure WebhookCall where
  rawPayload : ByteArray
  signature  : Option String
  eventId    : Option String
  now?       : Option Instant

/-- What a call takes from the process: the time of the evaluation, and what the
    database calls take. -/
structure WebhookEnv where
  now : Instant
  db  : DbEnv

/-- The engine: its secret, the hash functions, and the texts of decoding
    errors. -/
structure WebhookEngine where
  webhookSecret : String
  sha256        : ByteArray → String
  hmac          : String → ByteArray → String
  decodeError   : ByteArray → String

/-- What the payload names. -/
structure ProviderEvent where
  eventId       : String
  eventType     : String
  transactionId : String
  merchantId    : String
deriving DecidableEq

namespace WebhookEngine

/-! ## Control 1: the signature -/

def isAscii (s : String) : Bool := s.toList.all fun c => decide (c.toNat < 128)

/-- `hmac.compare_digest` of two texts. -/
def compareDigest (a b : String) : Except WebhookError Bool :=
  if isAscii a && isAscii b then .ok (decide (a = b))
  else .error (.typeError "comparing strings with non-ASCII characters is not supported")

def signaturePrefix : String := "sha256="

/-- The signature without the optional prefix. -/
def withoutPrefix (s : String) : String :=
  if signaturePrefix.toList.isPrefixOf s.toList then String.ofList (s.toList.drop 7) else s

def verifySignature (engine : WebhookEngine) (rawPayload : ByteArray)
    (signature : Option String) : Except WebhookError Bool :=
  match signature with
  | none => .ok false
  | some s =>
      if s = "" ∨ Text.strip s = "" then .ok false
      else
        let computed := engine.hmac engine.webhookSecret rawPayload
        compareDigest (Text.lower computed) (Text.lower (withoutPrefix (Text.strip s)))

/-- The text is the digest: up to whitespace around it, the prefix and the case
    of its letters. -/
def IsHmacOf (digest signature : String) : Prop :=
  ∃ body, (Text.strip signature = body ∨ Text.strip signature = signaturePrefix ++ body)
    ∧ Text.lower body = Text.lower digest

theorem withoutPrefix_cases (s : String) :
    withoutPrefix s = s ∨ s = signaturePrefix ++ withoutPrefix s := by
  rw [withoutPrefix]
  by_cases hprefix : signaturePrefix.toList.isPrefixOf s.toList = true
  · rw [if_pos hprefix]
    obtain ⟨rest, hrest⟩ := List.isPrefixOf_iff_prefix.mp hprefix
    refine .inr (String.toList_injective ?_)
    rw [String.toList_append, String.toList_ofList, ← hrest]
    rfl
  · rw [if_neg hprefix]
    exact .inl rfl

/-- **A signature that is verified is the HMAC of the body.** -/
theorem isHmacOf_of_verified {engine : WebhookEngine} {raw : ByteArray}
    {signature : Option String} (h : engine.verifySignature raw signature = .ok true) :
    ∃ s, signature = some s ∧ IsHmacOf (engine.hmac engine.webhookSecret raw) s := by
  cases signature with
  | none => cases h
  | some s =>
      rw [verifySignature] at h
      dsimp only at h
      by_cases hblank : s = "" ∨ Text.strip s = ""
      · rw [if_pos hblank] at h
        cases h
      rw [if_neg hblank, compareDigest] at h
      by_cases hascii : (isAscii (Text.lower (engine.hmac engine.webhookSecret raw))
          && isAscii (Text.lower (withoutPrefix (Text.strip s)))) = true
      · rw [if_pos hascii] at h
        have hsame := of_decide_eq_true (Except.ok.inj h)
        refine ⟨s, rfl, withoutPrefix (Text.strip s), ?_, hsame.symm⟩
        rcases withoutPrefix_cases (Text.strip s) with hwhole | hprefix
        · exact .inl hwhole.symm
        · exact .inr hprefix
      · rw [if_neg hascii] at h
        cases h

theorem verifySignature_of_eq {engine : WebhookEngine} {raw : ByteArray} {signature : String}
    (hmac : engine.hmac engine.webhookSecret raw = signature) (hne : signature ≠ "")
    (htrimmed : Text.strip signature = signature)
    (hplain : signaturePrefix.toList.isPrefixOf signature.toList = false)
    (hascii : isAscii (Text.lower signature) = true) :
    engine.verifySignature raw (some signature) = .ok true := by
  have hgiven : ¬ (signature = "" ∨ Text.strip signature = "") := by
    rw [htrimmed]
    exact fun h => h.elim hne hne
  have hwhole : withoutPrefix signature = signature := by
    rw [withoutPrefix, hplain, if_neg Bool.noConfusion]
  rw [verifySignature]
  dsimp only
  rw [if_neg hgiven, hmac, htrimmed, hwhole, compareDigest, hascii]
  exact congrArg Except.ok (decide_eq_true rfl)

/-! ## Control 2: the payload -/

/-- `type(value).__name__`. -/
def typeName : Value → String
  | .null => "NoneType"
  | .bool _ => "bool"
  | .int _ => "int"
  | .float _ => "float"
  | .str _ => "str"
  | .arr _ => "list"
  | .obj _ => "dict"

def attributeError (v : Value) (name : String) : WebhookError :=
  .attributeError s!"'{typeName v}' object has no attribute '{name}'"

/-- A value that has `.get`. -/
def asDict : Value → Except WebhookError (List (String × Value))
  | .obj members => .ok members
  | v => .error (attributeError v "get")

theorem asDict_eq_ok_iff {v : Value} {members : List (String × Value)} :
    asDict v = .ok members ↔ v = .obj members := by
  cases v with
  | obj ms => exact ⟨fun h => congrArg Value.obj (Except.ok.inj h),
      fun h => congrArg Except.ok (Value.obj.inj h)⟩
  | _ => exact iff_of_false nofun nofun

/-- `d.get(key, default)`. -/
def getOr (members : List (String × Value)) (key : String) (default : Value) : Value :=
  (Value.member members key).getD default

/-- `d.get(key, default)` of a value that should be a dictionary. -/
def get (v : Value) (key : String) (default : Value) : Except WebhookError Value :=
  match asDict v with
  | .error err => .error err
  | .ok members => .ok (getOr members key default)

/-- `bool(value)`. -/
def isTruthy : Value → Bool
  | .null => false
  | .bool b => b
  | .int i => decide (i ≠ 0)
  | .float x => decide (x ≠ .finite 0)
  | .str s => decide (s ≠ "")
  | .arr xs => !xs.isEmpty
  | .obj members => !members.isEmpty

/-- `a or b`. -/
def orElse (a b : Value) : Value := if isTruthy a then a else b

/-- `value.strip()`. -/
def strip : Value → Except WebhookError String
  | .str s => .ok (Text.strip s)
  | v => .error (attributeError v "strip")

/-- `json.loads` of the decoded body. -/
def parsePayload (raw : ByteArray) : Option Value := (String.fromUTF8? raw).bind decode

/-! ## Control 3: the timestamp -/

/-- Whether the age of a point in time is inside the window. -/
def isFresh (evalTime : Instant) (seconds : Int) : Bool :=
  match addSeconds 0 seconds with
  | none => false
  | some event =>
      if 300 * 1000000 < evalTime - event then false
      else if evalTime - event < -(60 * 1000000) then false
      else true

/-- `validate_timestamp` of a value of the payload. -/
def validateTimestamp (evalTime : Instant) : Value → Except WebhookError Bool
  | .null => .ok false
  | .int seconds => .ok (isFresh evalTime seconds)
  | .bool b => .ok (isFresh evalTime (if b then 1 else 0))
  | v => .error (attributeError v "tzinfo")

/-- The check that is made of `created_at`, where it is given. -/
def checkCreatedAt (evalTime : Instant) : Value → Except WebhookError Bool
  | .null => .ok true
  | v => validateTimestamp evalTime v

/-! ## What the payload names -/

/-- `event_id or payload_data.get("id")`, trimmed. -/
def effectiveEventId (eventId : Option String) (payload : Value) :
    Except WebhookError String :=
  match eventId with
  | some s => if s = "" then ofPayload else .ok (Text.strip s)
  | none => ofPayload
where
  ofPayload : Except WebhookError String := do
    let named ← get payload "id" .null
    strip (orElse named (.str ""))

def eventTypeOf (payload : Value) : Except WebhookError String := do
  let named ← get payload "event" (.str "payment.unknown")
  strip named

def paymentEntity (payload : Value) : Except WebhookError Value := do
  let inner ← get payload "payload" (.obj [])
  let payment ← get inner "payment" (.obj [])
  let entity ← get payment "entity" (.obj [])
  if isTruthy entity then pure entity else get payload "entity" (.obj [])

def transactionIdOf (entity : Value) : Except WebhookError String := do
  let notes ← get entity "notes" (.obj [])
  let noted ← get notes "transaction_id" .null
  let receipt ← get entity "receipt" .null
  let description ← get entity "description" .null
  strip (orElse noted (orElse receipt (orElse description (.str ""))))

def merchantIdOf (entity : Value) : Except WebhookError String := do
  let notes ← get entity "notes" (.obj [])
  let noted ← get notes "merchant_id" .null
  let merchant ← get entity "merchant_id" .null
  strip (orElse noted (orElse merchant (.str "")))

/-! ## The part before the database -/

def refusal (eventId : String) (transactionId : Option String)
    (state : Option TransactionState) (reason : RejectionReason) (detail : String) :
    WebhookProcessingResult where
  success := false
  eventId := eventId
  transactionId := transactionId
  state := state
  isDuplicate := false
  rejectionReason := some reason
  rejectionDetail := some detail

def invalidSignature (eventId : Option String) : WebhookProcessingResult :=
  refusal (orElseText eventId "unknown_event") none none .methodNotAuthorized
    "Webhook signature verification failed (invalid HMAC)."

def malformed (eventId : Option String) (err : String) : WebhookProcessingResult :=
  refusal (orElseText eventId "unknown_event") none none .methodNotAuthorized
    s!"Malformed webhook JSON payload: {err}"

def missingEventId : WebhookProcessingResult :=
  refusal "missing_event_id" none none .methodNotAuthorized
    "Webhook missing required event identity."

def stale (eventId : String) : WebhookProcessingResult :=
  refusal eventId none none .authorizationExpired
    "Webhook timestamp outside valid window (stale or excessive future)."

def missingTransactionId (eventId : String) : WebhookProcessingResult :=
  refusal eventId none none .invalidTransactionState
    "Webhook payload missing correlated internal transaction_id."

/-- The controls that look at the payload alone: they refuse it, or say what it
    names. -/
def inspectPayload (evalTime : Instant) (eventId : Option String) (payload : Value) :
    Except WebhookError (WebhookProcessingResult ⊕ ProviderEvent) := do
  let effEventId ← effectiveEventId eventId payload
  let eventType ← eventTypeOf payload
  let eventTs ← get payload "created_at" .null
  if effEventId = "" then pure (.inl missingEventId)
  else do
    let fresh ← checkCreatedAt evalTime eventTs
    if fresh = false then pure (.inl (stale effEventId))
    else do
      let entity ← paymentEntity payload
      let txId ← transactionIdOf entity
      let merId ← merchantIdOf entity
      if txId = "" then pure (.inl (missingTransactionId effEventId))
      else pure (.inr ⟨effEventId, eventType, txId, merId⟩)

/-- The controls before the database. -/
def inspect (engine : WebhookEngine) (env : WebhookEnv) (call : WebhookCall) :
    Except WebhookError (WebhookProcessingResult ⊕ ProviderEvent) :=
  match engine.verifySignature call.rawPayload call.signature with
  | .error err => .error err
  | .ok false => .ok (.inl (invalidSignature call.eventId))
  | .ok true =>
      match parsePayload call.rawPayload with
      | none => .ok (.inl (malformed call.eventId (engine.decodeError call.rawPayload)))
      | some payload => inspectPayload (call.now?.getD env.now) call.eventId payload

/-! ## When an event gets through -/

/-- The payload names this event, at whatever time it is looked at. -/
structure Names (eventId : Option String) (payload : Value) (e : ProviderEvent) : Prop where
  identity   : effectiveEventId eventId payload = .ok e.eventId
  eventType  : eventTypeOf payload = .ok e.eventType
  context    : ∃ entity, paymentEntity payload = .ok entity
    ∧ transactionIdOf entity = .ok e.transactionId ∧ merchantIdOf entity = .ok e.merchantId
  identified : e.eventId ≠ ""
  correlated : e.transactionId ≠ ""

def InWindow (evalTime : Instant) (payload : Value) : Prop :=
  ∃ eventTs, get payload "created_at" .null = .ok eventTs
    ∧ checkCreatedAt evalTime eventTs = .ok true

theorem inspectPayload_eq_event_iff {evalTime : Instant} {eventId : Option String}
    {payload : Value} {e : ProviderEvent} :
    inspectPayload evalTime eventId payload = .ok (.inr e)
      ↔ Names eventId payload e ∧ InWindow evalTime payload := by
  have hrefused {result : WebhookProcessingResult} :
      (.ok (.inl result) : Except WebhookError (WebhookProcessingResult ⊕ ProviderEvent))
        ≠ .ok (.inr e) := nofun
  constructor
  · intro h
    obtain ⟨effEventId, hid, h⟩ := seq_eq_ok_iff.mp h
    obtain ⟨eventType, htype, h⟩ := seq_eq_ok_iff.mp h
    obtain ⟨eventTs, hts, h⟩ := seq_eq_ok_iff.mp h
    obtain ⟨hempty, h⟩ := (ite_eq_iff_of_ne hrefused).mp h
    obtain ⟨fresh, hfresh, h⟩ := seq_eq_ok_iff.mp h
    obtain ⟨hfresh', h⟩ := (ite_eq_iff_of_ne hrefused).mp h
    obtain rfl := Bool.not_eq_false _ ▸ hfresh'
    obtain ⟨entity, hentity, h⟩ := seq_eq_ok_iff.mp h
    obtain ⟨txId, htx, h⟩ := seq_eq_ok_iff.mp h
    obtain ⟨merId, hmer, h⟩ := seq_eq_ok_iff.mp h
    obtain ⟨hmissing, h⟩ := (ite_eq_iff_of_ne hrefused).mp h
    obtain rfl := Sum.inr.inj (Except.ok.inj h)
    exact ⟨⟨hid, htype, ⟨entity, hentity, htx, hmer⟩, hempty, hmissing⟩, eventTs, hts, hfresh⟩
  · rintro ⟨⟨hid, htype, ⟨entity, hentity, htx, hmer⟩, hempty, hmissing⟩, eventTs, hts, hfresh⟩
    refine seq_eq_ok_iff.mpr ⟨_, hid, seq_eq_ok_iff.mpr ⟨_, htype, ?_⟩⟩
    refine seq_eq_ok_iff.mpr ⟨eventTs, hts, ?_⟩
    rw [if_neg hempty]
    refine seq_eq_ok_iff.mpr ⟨true, hfresh, ?_⟩
    rw [if_neg Bool.noConfusion]
    refine seq_eq_ok_iff.mpr ⟨entity, hentity, seq_eq_ok_iff.mpr ⟨_, htx, ?_⟩⟩
    refine seq_eq_ok_iff.mpr ⟨_, hmer, ?_⟩
    rw [if_neg hmissing]
    rfl

theorem inspect_of_parsed {engine : WebhookEngine} {env : WebhookEnv} {call : WebhookCall}
    {payload : Value} (hverify : engine.verifySignature call.rawPayload call.signature = .ok true)
    (hparse : parsePayload call.rawPayload = some payload) :
    engine.inspect env call
      = inspectPayload (call.now?.getD env.now) call.eventId payload := by
  rw [inspect, hverify]
  dsimp only
  rw [hparse]

/-- **An event gets to the database** when its signature is verified and its
    payload names it in time. -/
theorem inspect_eq_event_iff {engine : WebhookEngine} {env : WebhookEnv} {call : WebhookCall}
    {e : ProviderEvent} :
    engine.inspect env call = .ok (.inr e)
      ↔ engine.verifySignature call.rawPayload call.signature = .ok true
        ∧ ∃ payload, parsePayload call.rawPayload = some payload
          ∧ Names call.eventId payload e ∧ InWindow (call.now?.getD env.now) payload := by
  constructor
  · intro h
    rw [inspect] at h
    cases hverify : engine.verifySignature call.rawPayload call.signature with
    | error err =>
        rw [hverify] at h
        cases h
    | ok verified =>
        rw [hverify] at h
        cases verified with
        | false => cases h
        | true =>
            dsimp only at h
            cases hparse : parsePayload call.rawPayload with
            | none =>
                rw [hparse] at h
                cases h
            | some payload =>
                rw [hparse] at h
                exact ⟨rfl, payload, rfl, inspectPayload_eq_event_iff.mp h⟩
  · rintro ⟨hverify, payload, hparse, hnames⟩
    rw [inspect_of_parsed hverify hparse]
    exact inspectPayload_eq_event_iff.mpr hnames

theorem strip_trimmed {v : Value} {s : String} (h : strip v = .ok s) : Text.strip s = s := by
  cases v with
  | str text =>
      obtain rfl := Except.ok.inj h
      exact Text.strip_strip text
  | null | bool _ | int _ | float _ | arr _ | obj _ => cases h

theorem effectiveEventId_trimmed {eventId : Option String} {payload : Value} {s : String}
    (h : effectiveEventId eventId payload = .ok s) : Text.strip s = s := by
  have hpayload (hof : effectiveEventId.ofPayload payload = .ok s) : Text.strip s = s := by
    obtain ⟨named, -, hstrip⟩ := seq_eq_ok_iff.mp hof
    exact strip_trimmed hstrip
  cases eventId with
  | none => exact hpayload h
  | some given =>
      rw [effectiveEventId] at h
      by_cases hempty : given = ""
      · rw [if_pos hempty] at h
        exact hpayload h
      · rw [if_neg hempty] at h
        obtain rfl := Except.ok.inj h
        exact Text.strip_strip given

/-- What a payload names has no whitespace around it. -/
theorem Names.trimmed {eventId : Option String} {payload : Value} {e : ProviderEvent}
    (h : Names eventId payload e) :
    Text.strip e.eventId = e.eventId ∧ Text.strip e.transactionId = e.transactionId
      ∧ Text.strip e.merchantId = e.merchantId := by
  obtain ⟨entity, -, htx, hmer⟩ := h.context
  obtain ⟨notes, -, htx⟩ := seq_eq_ok_iff.mp htx
  obtain ⟨noted, -, htx⟩ := seq_eq_ok_iff.mp htx
  obtain ⟨receipt, -, htx⟩ := seq_eq_ok_iff.mp htx
  obtain ⟨description, -, htx⟩ := seq_eq_ok_iff.mp htx
  obtain ⟨notes', -, hmer⟩ := seq_eq_ok_iff.mp hmer
  obtain ⟨noted', -, hmer⟩ := seq_eq_ok_iff.mp hmer
  obtain ⟨merchant, -, hmer⟩ := seq_eq_ok_iff.mp hmer
  exact ⟨effectiveEventId_trimmed h.identity, strip_trimmed htx, strip_trimmed hmer⟩

theorem Names.same_transaction {eventId eventId' : Option String} {payload : Value}
    {e e' : ProviderEvent} (h : Names eventId payload e) (h' : Names eventId' payload e') :
    e.transactionId = e'.transactionId := by
  obtain ⟨entity, hentity, htx, -⟩ := h.context
  obtain ⟨entity', hentity', htx', -⟩ := h'.context
  obtain rfl := Except.ok.inj (hentity.symm.trans hentity')
  exact Except.ok.inj (htx.symm.trans htx')

end WebhookEngine

end MandateGateway
