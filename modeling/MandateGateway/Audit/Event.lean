import MandateGateway.Db.AuditRepository
import MandateGateway.Lib.Datetime
import MandateGateway.Lib.PyJson

/-! # Audit events and their hashes

    An event, the object that is hashed for it, and what that text determines:
    every hashed field, up to the order of the members of its payload. -/

namespace MandateGateway

open Clock Json Json.Tree

/-- `AuditEventType(value)`. -/
def AuditEventType.ofValue (value : String) : Option AuditEventType :=
  [.mandateCreated, .merchantPolicyCreated, .cartProposed, .policyEvaluated, .stepUpRequested,
    .stepUpApproved, .reservationCreated, .toolBlocked, .executionAuthorized, .paymentStarted,
    .paymentSuccess, .paymentFailed, .reservationReleased, .nonceReplayBlocked,
    .cartTamperBlocked, .apiCredentialCreated, .apiCredentialAuthenticated,
    .apiCredentialAuthFailed, .apiCredentialRevoked, .authorizationDenied, .tenantAccessDenied,
    .scopeDenied].find? fun t => t.value = value

theorem AuditEventType.ofValue_value (t : AuditEventType) : ofValue t.value = some t := by
  cases t <;> rfl

structure AuditFields where
  eventId       : String
  eventType     : AuditEventType
  timestamp     : Datetime
  transactionId : Option String
  mandateId     : Option String
  merchantId    : Option String
  buyerId       : Option String
  payload       : PyJson
  previousHash  : String

structure AuditEvent extends AuditFields where
  eventHash : String

namespace AuditFields

/-- A text, or `None`. -/
def textOrNone : Option String → PyJson
  | none => .none
  | some s => .str s

/-- The object that is hashed. -/
def canonical (f : AuditFields) : PyJson := .dict [
  (.str "buyer_id", textOrNone f.buyerId),
  (.str "event_id", .str f.eventId),
  (.str "event_type", .str f.eventType.value),
  (.str "mandate_id", textOrNone f.mandateId),
  (.str "merchant_id", textOrNone f.merchantId),
  (.str "payload", f.payload),
  (.str "previous_hash", .str f.previousHash),
  (.str "timestamp", .str f.timestamp.isoformat),
  (.str "transaction_id", textOrNone f.transactionId)]

/-- `_compute_event_hash`; `none` where the payload has keys that cannot be
    compared. -/
def computeEventHash (sha256 : String → String) (f : AuditFields) : Option String :=
  (PyJson.written true f.canonical).map fun t => sha256 t.text

/-! ## The hashed text -/

def textOrNull : Option String → Tree
  | none => .null
  | some s => .str s

/-- The members of the object around the payload. -/
def members (f : AuditFields) (payload : Tree) : List (String × Tree) := [
  ("buyer_id", textOrNull f.buyerId),
  ("event_id", .str f.eventId),
  ("event_type", .str f.eventType.value),
  ("mandate_id", textOrNull f.mandateId),
  ("merchant_id", textOrNull f.merchantId),
  ("payload", payload),
  ("previous_hash", .str f.previousHash),
  ("timestamp", .str f.timestamp.isoformat),
  ("transaction_id", textOrNull f.transactionId)]

theorem written_textOrNone (x : Option String) :
    PyJson.written true (textOrNone x) = some (textOrNull x) := by
  cases x with
  | none => rfl
  | some s => rfl

theorem keys_members_sorted (f : AuditFields) (payload : Tree) :
    (keys (f.members payload)).Pairwise (· < ·) := by
  show ["buyer_id", "event_id", "event_type", "mandate_id", "merchant_id", "payload",
    "previous_hash", "timestamp", "transaction_id"].Pairwise (· < ·)
  decide

/-- **What is hashed is the written payload among the other members.** -/
theorem written_canonical (f : AuditFields) :
    PyJson.written true f.canonical
      = (PyJson.written true f.payload).map fun payload => .obj (f.members payload) := by
  cases hpayload : PyJson.written true f.payload with
  | none =>
      rw [canonical, Option.map_none]
      refine PyJson.written_dict_of_none ?_
      simp only [PyJson.writtenItems, written_textOrNone, PyJson.written_str, hpayload,
        Option.bind_some, Option.bind_none, Option.map_none]
  | some payload =>
      rw [canonical, Option.map_some]
      refine PyJson.written_dict_of_sorted ?_ (f.keys_members_sorted payload)
      simp only [PyJson.writtenItems, written_textOrNone, PyJson.written_str, hpayload,
        Option.bind_some, Option.map_some]
      rfl

theorem computeEventHash_eq (sha256 : String → String) (f : AuditFields) :
    f.computeEventHash sha256
      = (PyJson.written true f.payload).map fun payload =>
        sha256 (Tree.obj (f.members payload)).text := by
  rw [computeEventHash, written_canonical, Option.map_map]
  rfl

theorem textOrNull_injective : Function.Injective textOrNull := by
  intro x y h
  cases x with
  | none =>
      cases y with
      | none => rfl
      | some t => cases h
  | some s =>
      cases y with
      | none => cases h
      | some t => exact congrArg some (Tree.str.inj h)

/-- Two events with the same fields, but for the payload. -/
structure SameHeader (f f' : AuditFields) : Prop where
  eventId       : f.eventId = f'.eventId
  eventType     : f.eventType = f'.eventType
  timestamp     : f.timestamp = f'.timestamp
  transactionId : f.transactionId = f'.transactionId
  mandateId     : f.mandateId = f'.mandateId
  merchantId    : f.merchantId = f'.merchantId
  buyerId       : f.buyerId = f'.buyerId
  previousHash  : f.previousHash = f'.previousHash

/-- **The members determine every field.** -/
theorem members_injective {f f' : AuditFields} {payload payload' : Tree}
    (h : f.members payload = f'.members payload') : SameHeader f f' ∧ payload = payload' := by
  simp only [members, List.cons.injEq, Prod.mk.injEq, true_and, and_true] at h
  obtain ⟨hbuyer, hid, htype, hmandate, hmerchant, hpayload, hprevious, htime, htx⟩ := h
  have heventType : f.eventType = f'.eventType := by
    have hvalue := congrArg AuditEventType.ofValue (Tree.str.inj htype)
    rw [AuditEventType.ofValue_value, AuditEventType.ofValue_value] at hvalue
    exact Option.some.inj hvalue
  exact ⟨⟨Tree.str.inj hid, heventType, Datetime.isoformat_injective (Tree.str.inj htime),
    textOrNull_injective htx, textOrNull_injective hmandate, textOrNull_injective hmerchant,
    textOrNull_injective hbuyer, Tree.str.inj hprevious⟩, hpayload⟩

end AuditFields

/-- `verify_hash`; `none` where computing the hash raises. -/
def AuditEvent.verifyHash (sha256 : String → String) (e : AuditEvent) : Option Bool :=
  (e.toAuditFields.computeEventHash sha256).map fun expected => decide (e.eventHash = expected)

/-- The event carries its own hash. -/
def AuditEvent.Intact (sha256 : String → String) (e : AuditEvent) : Prop :=
  e.toAuditFields.computeEventHash sha256 = some e.eventHash

theorem AuditEvent.verifyHash_eq_true_iff {sha256 : String → String} {e : AuditEvent} :
    e.verifyHash sha256 = some true ↔ e.Intact sha256 := by
  rw [verifyHash, Intact, Option.map_eq_some_iff]
  constructor
  · rintro ⟨expected, hhash, hsame⟩
    rw [hhash, of_decide_eq_true hsame]
  · intro hhash
    exact ⟨e.eventHash, hhash, decide_eq_true rfl⟩

/-- **Events with one hash have the same hashed fields.** -/
theorem AuditEvent.same_of_hash {sha256 : String → String} (hsha : Function.Injective sha256)
    {e e' : AuditEvent} (h : e.Intact sha256) (h' : e'.Intact sha256)
    (hsame : e.eventHash = e'.eventHash) :
    e.toAuditFields.SameHeader e'.toAuditFields
      ∧ PyJson.written true e.payload = PyJson.written true e'.payload := by
  rw [Intact, AuditFields.computeEventHash_eq, Option.map_eq_some_iff] at h h'
  obtain ⟨payload, hpayload, hhash⟩ := h
  obtain ⟨payload', hpayload', hhash'⟩ := h'
  have htext := Tree.text_injective (hsha (hhash.trans (hsame.trans hhash'.symm)))
  obtain ⟨hheader, rfl⟩ := AuditFields.members_injective (Tree.obj.inj htext)
  exact ⟨hheader, hpayload.trans hpayload'.symm⟩

end MandateGateway
