import MandateGateway.Audit.Ledger
import MandateGateway.Lib.JsonRoundTrip
import MandateGateway.Lib.OrderedMap
import MandateGateway.Lib.Checklist

/-! # Action receipts

    The record of a completed transaction, the payload that is hashed for it,
    and how a receipt is built from a dictionary.

    * `computeCanonicalHash_eq_iff`: the hash covers fourteen fields, and two
      receipts have one hash exactly when they agree on these;
    * `fromFields_eq_valid_iff`: a dictionary is read as exactly the receipt
      whose fields it gives;
    * `fromFields_dump`: a receipt that is dumped is read back. -/

namespace MandateGateway

open Clock

/-- A machine-verifiable receipt. -/
structure ActionReceipt where
  receiptVersion       : String
  receiptId            : String
  transactionId        : String
  mandateId            : String
  merchantId           : String
  policyVersion        : Int
  cartHash             : String
  amountPaise          : Int
  currency             : Currency
  decision             : PolicyDecision
  executionTool        : Option String
  executionReference   : Option String
  authorizedAt         : Datetime
  executedAt           : Option Datetime
  createdAt            : Datetime
  auditHash            : Option String
  canonicalPayloadHash : String
  signature            : Option String
deriving DecidableEq

/-- `RECEIPT_VERSION`. -/
def receiptVersionText : String := "1.0"

/-- A value in the dictionary of a receipt. -/
inductive FieldValue where
  | json (x : PyJson)
  | datetime (t : Datetime)
  | currency (c : Currency)
  | decision (d : PolicyDecision)

abbrev Fields := OrderedMap String FieldValue

/-- The lax conversions of a data contract; an instance of the field's own type
    is taken as it is. -/
structure FieldConversions where
  str      : FieldValue → Option String
  int      : FieldValue → Option Int
  datetime : FieldValue → Option Datetime
  currency : FieldValue → Option Currency
  decision : FieldValue → Option PolicyDecision
  str_str           : ∀ s, str (.json (.str s)) = some s
  int_int           : ∀ i, int (.json (.num (.int i))) = some i
  datetime_datetime : ∀ t, datetime (.datetime t) = some t
  currency_currency : ∀ c, currency (.currency c) = some c
  decision_decision : ∀ d, decision (.decision d) = some d

/-- What the default factories of a receipt produce: a fresh identifier and the
    clock readings. -/
structure ReceiptDefaults where
  receiptId    : String
  authorizedAt : Datetime
  createdAt    : Datetime
  receiptId_ne : receiptId ≠ ""

namespace FieldConversions

variable (conv : FieldConversions)

/-- `str | None`. -/
def optionalStr : FieldValue → Option (Option String)
  | .json .none => some none
  | v => (conv.str v).map some

/-- `datetime | None`. -/
def optionalDatetime : FieldValue → Option (Option Datetime)
  | .json .none => some none
  | v => (conv.datetime v).map some

end FieldConversions

/-- The converted value of a field, or its default where it is missing. -/
def Fields.given {α : Type} (d : Fields) (name : String) (convert : FieldValue → Option α)
    (default : Option α) : Option α :=
  match d.get name with
  | none => default
  | some v => convert v

namespace ActionReceipt

/-! ## The canonical payload -/

/-- A text, or `null`. -/
def nullable : Option String → Json
  | none => .null
  | some s => .str s

/-- The dictionary that `_compute_canonical_hash` serializes. -/
def canonical (r : ActionReceipt) : Json := .obj [
  ("amount_paise", .int r.amountPaise),
  ("audit_hash", nullable r.auditHash),
  ("authorized_at", .str r.authorizedAt.isoformat),
  ("cart_hash", .str r.cartHash),
  ("currency", .str r.currency.value),
  ("decision", .str r.decision.value),
  ("execution_reference", nullable r.executionReference),
  ("execution_tool", nullable r.executionTool),
  ("mandate_id", .str r.mandateId),
  ("merchant_id", .str r.merchantId),
  ("policy_version", .int r.policyVersion),
  ("receipt_id", .str r.receiptId),
  ("receipt_version", .str r.receiptVersion),
  ("transaction_id", .str r.transactionId)]

def computeCanonicalHash (sha256 : String → String) (r : ActionReceipt) : String :=
  sha256 r.canonical.compact

def verifyCanonicalHash (sha256 : String → String) (r : ActionReceipt) : Bool :=
  r.canonicalPayloadHash == r.computeCanonicalHash sha256

/-- `model_post_init`: a missing hash is computed. -/
def postInit (sha256 : String → String) (r : ActionReceipt) : ActionReceipt :=
  if r.canonicalPayloadHash = "" then
    { r with canonicalPayloadHash := r.computeCanonicalHash sha256 }
  else r

structure SameSigned (r r' : ActionReceipt) : Prop where
  receiptVersion     : r.receiptVersion = r'.receiptVersion
  receiptId          : r.receiptId = r'.receiptId
  transactionId      : r.transactionId = r'.transactionId
  mandateId          : r.mandateId = r'.mandateId
  merchantId         : r.merchantId = r'.merchantId
  policyVersion      : r.policyVersion = r'.policyVersion
  cartHash           : r.cartHash = r'.cartHash
  amountPaise        : r.amountPaise = r'.amountPaise
  currency           : r.currency = r'.currency
  decision           : r.decision = r'.decision
  executionTool      : r.executionTool = r'.executionTool
  executionReference : r.executionReference = r'.executionReference
  authorizedAt       : r.authorizedAt = r'.authorizedAt
  auditHash          : r.auditHash = r'.auditHash

/-- Two receipts with the same fields, but for the hash and the signature. -/
structure SameFields (r r' : ActionReceipt) : Prop extends SameSigned r r' where
  executedAt : r.executedAt = r'.executedAt
  createdAt  : r.createdAt = r'.createdAt

theorem nullable_injective : Function.Injective nullable := by
  intro x y h
  cases x with
  | none =>
      cases y with
      | none => rfl
      | some t => cases h
  | some s =>
      cases y with
      | none => cases h
      | some t => exact congrArg some (Json.str.inj h)

theorem currency_value_injective : Function.Injective Currency.value := by
  intro c c' h
  cases c <;> cases c' <;> first | rfl | exact absurd h (by decide)

theorem decision_value_injective : Function.Injective PolicyDecision.value := by
  intro d d' h
  cases d <;> cases d' <;> first | rfl | exact absurd h (by decide)

theorem canonical_eq_iff {r r' : ActionReceipt} : r.canonical = r'.canonical ↔ SameSigned r r' := by
  constructor
  · intro h
    simp only [canonical, Json.obj.injEq, List.cons.injEq, Prod.mk.injEq, true_and, and_true] at h
    obtain ⟨hamount, haudit, htime, hcart, hcurrency, hdecision, href, htool, hmandate, hmerchant,
      hpolicy, hid, hversion, htx⟩ := h
    exact ⟨Json.str.inj hversion, Json.str.inj hid, Json.str.inj htx, Json.str.inj hmandate,
      Json.str.inj hmerchant, Json.int.inj hpolicy, Json.str.inj hcart, Json.int.inj hamount,
      currency_value_injective (Json.str.inj hcurrency),
      decision_value_injective (Json.str.inj hdecision), nullable_injective htool,
      nullable_injective href, Datetime.isoformat_injective (Json.str.inj htime),
      nullable_injective haudit⟩
  · intro h
    rw [canonical, h.amountPaise, h.auditHash, h.authorizedAt, h.cartHash, h.currency, h.decision,
      h.executionReference, h.executionTool, h.mandateId, h.merchantId, h.policyVersion,
      h.receiptId, h.receiptVersion, h.transactionId]
    rfl

/-- **Two receipts have one hash exactly when their signed fields agree.** -/
theorem computeCanonicalHash_eq_iff {sha256 : String → String} (hsha : Function.Injective sha256)
    {r r' : ActionReceipt} :
    r.computeCanonicalHash sha256 = r'.computeCanonicalHash sha256 ↔ SameSigned r r' := by
  rw [← canonical_eq_iff]
  constructor
  · intro h
    exact Json.compact_injective (hsha h)
  · intro h
    exact congrArg (fun j => sha256 j.compact) h

/-! ## Building a receipt -/

/-- What the data contract demands of the fields. -/
structure WellFormed (r : ActionReceipt) : Prop where
  transactionId_ne  : r.transactionId ≠ ""
  mandateId_ne      : r.mandateId ≠ ""
  merchantId_ne     : r.merchantId ≠ ""
  policyVersion_pos : 1 ≤ r.policyVersion
  cartHash_length   : r.cartHash.length = 64
  amount_nonneg     : 0 ≤ r.amountPaise

section
variable (conv : FieldConversions) (defaults : ReceiptDefaults)

/-- `ActionReceipt(**fields)`, or the names of the fields that are refused. -/
def fromFields (sha256 : String → String) (d : Fields) : Validated String ActionReceipt :=
  postInit sha256 <$> (ActionReceipt.mk
    <$> .check "receipt_version" (fun _ => true)
      (d.given "receipt_version" conv.str (some receiptVersionText))
    <*> .check "receipt_id" (fun _ => true)
      (d.given "receipt_id" conv.str (some defaults.receiptId))
    <*> .check "transaction_id" (· ≠ "") (d.given "transaction_id" conv.str none)
    <*> .check "mandate_id" (· ≠ "") (d.given "mandate_id" conv.str none)
    <*> .check "merchant_id" (· ≠ "") (d.given "merchant_id" conv.str none)
    <*> .check "policy_version" (1 ≤ ·) (d.given "policy_version" conv.int none)
    <*> .check "cart_hash" (·.length = 64) (d.given "cart_hash" conv.str none)
    <*> .check "amount_paise" (0 ≤ ·) (d.given "amount_paise" conv.int none)
    <*> .check "currency" (fun _ => true) (d.given "currency" conv.currency none)
    <*> .check "decision" (fun _ => true) (d.given "decision" conv.decision none)
    <*> .check "execution_tool" (fun _ => true)
      (d.given "execution_tool" conv.optionalStr (some none))
    <*> .check "execution_reference" (fun _ => true)
      (d.given "execution_reference" conv.optionalStr (some none))
    <*> .check "authorized_at" (fun _ => true)
      (d.given "authorized_at" conv.datetime (some defaults.authorizedAt))
    <*> .check "executed_at" (fun _ => true)
      (d.given "executed_at" conv.optionalDatetime (some none))
    <*> .check "created_at" (fun _ => true)
      (d.given "created_at" conv.datetime (some defaults.createdAt))
    <*> .check "audit_hash" (fun _ => true) (d.given "audit_hash" conv.optionalStr (some none))
    <*> .check "canonical_payload_hash" (fun _ => true)
      (d.given "canonical_payload_hash" conv.str (some ""))
    <*> .check "signature" (fun _ => true) (d.given "signature" conv.optionalStr (some none)))

structure Gives (d : Fields) (r : ActionReceipt) : Prop where
  receiptVersion : d.given "receipt_version" conv.str (some receiptVersionText)
    = some r.receiptVersion
  receiptId : d.given "receipt_id" conv.str (some defaults.receiptId) = some r.receiptId
  transactionId : d.given "transaction_id" conv.str none = some r.transactionId
  mandateId : d.given "mandate_id" conv.str none = some r.mandateId
  merchantId : d.given "merchant_id" conv.str none = some r.merchantId
  policyVersion : d.given "policy_version" conv.int none = some r.policyVersion
  cartHash : d.given "cart_hash" conv.str none = some r.cartHash
  amountPaise : d.given "amount_paise" conv.int none = some r.amountPaise
  currency : d.given "currency" conv.currency none = some r.currency
  decision : d.given "decision" conv.decision none = some r.decision
  executionTool : d.given "execution_tool" conv.optionalStr (some none) = some r.executionTool
  executionReference : d.given "execution_reference" conv.optionalStr (some none)
    = some r.executionReference
  authorizedAt : d.given "authorized_at" conv.datetime (some defaults.authorizedAt)
    = some r.authorizedAt
  executedAt : d.given "executed_at" conv.optionalDatetime (some none) = some r.executedAt
  createdAt : d.given "created_at" conv.datetime (some defaults.createdAt) = some r.createdAt
  auditHash : d.given "audit_hash" conv.optionalStr (some none) = some r.auditHash
  canonicalPayloadHash : d.given "canonical_payload_hash" conv.str (some "")
    = some r.canonicalPayloadHash
  signature : d.given "signature" conv.optionalStr (some none) = some r.signature

end

section
variable {conv : FieldConversions} {defaults : ReceiptDefaults} {sha256 : String → String}

open Validated

/-- **A dictionary is read as the receipt whose fields it gives**, completed
    with its hash. -/
theorem fromFields_eq_valid_iff {d : Fields} {r : ActionReceipt} :
    fromFields conv defaults sha256 d = .valid r
      ↔ ∃ u, Gives conv defaults d u ∧ u.WellFormed ∧ u.postInit sha256 = r := by
  constructor
  · intro h
    obtain ⟨_, rfl, f1⟩ := map_eq_valid_iff.mp h
    obtain ⟨_, _, rfl, f2, hsignature⟩ := seq_eq_valid_iff.mp f1
    obtain ⟨_, _, rfl, f3, hhash⟩ := seq_eq_valid_iff.mp f2
    obtain ⟨_, _, rfl, f4, haudit⟩ := seq_eq_valid_iff.mp f3
    obtain ⟨_, _, rfl, f5, hcreated⟩ := seq_eq_valid_iff.mp f4
    obtain ⟨_, _, rfl, f6, hexecuted⟩ := seq_eq_valid_iff.mp f5
    obtain ⟨_, _, rfl, f7, hauthorized⟩ := seq_eq_valid_iff.mp f6
    obtain ⟨_, _, rfl, f8, href⟩ := seq_eq_valid_iff.mp f7
    obtain ⟨_, _, rfl, f9, htool⟩ := seq_eq_valid_iff.mp f8
    obtain ⟨_, _, rfl, f10, hdecision⟩ := seq_eq_valid_iff.mp f9
    obtain ⟨_, _, rfl, f11, hcurrency⟩ := seq_eq_valid_iff.mp f10
    obtain ⟨_, _, rfl, f12, hamount⟩ := seq_eq_valid_iff.mp f11
    obtain ⟨_, _, rfl, f13, hcart⟩ := seq_eq_valid_iff.mp f12
    obtain ⟨_, _, rfl, f14, hpolicy⟩ := seq_eq_valid_iff.mp f13
    obtain ⟨_, _, rfl, f15, hmerchant⟩ := seq_eq_valid_iff.mp f14
    obtain ⟨_, _, rfl, f16, hmandate⟩ := seq_eq_valid_iff.mp f15
    obtain ⟨_, _, rfl, f17, htx⟩ := seq_eq_valid_iff.mp f16
    obtain ⟨_, _, rfl, f18, hid⟩ := seq_eq_valid_iff.mp f17
    obtain ⟨_, rfl, hversion⟩ := map_eq_valid_iff.mp f18
    simp only [check_eq_valid_iff, decide_eq_true_eq, and_true] at *
    exact ⟨_, ⟨hversion, hid, htx.1, hmandate.1, hmerchant.1, hpolicy.1, hcart.1, hamount.1,
      hcurrency, hdecision, htool, href, hauthorized, hexecuted, hcreated, haudit, hhash,
      hsignature⟩, ⟨htx.2, hmandate.2, hmerchant.2, hpolicy.2, hcart.2, hamount.2⟩, rfl⟩
  · rintro ⟨u, g, w, rfl⟩
    rw [fromFields, g.receiptVersion, g.receiptId, g.transactionId, g.mandateId, g.merchantId,
      g.policyVersion, g.cartHash, g.amountPaise, g.currency, g.decision, g.executionTool,
      g.executionReference, g.authorizedAt, g.executedAt, g.createdAt, g.auditHash,
      g.canonicalPayloadHash, g.signature]
    simp only [check, decide_eq_true_eq, ne_eq, if_pos, w.transactionId_ne, w.mandateId_ne,
      w.merchantId_ne, w.policyVersion_pos, w.cartHash_length, w.amount_nonneg, not_false_eq_true]
    rfl

end

-- reading is only ever taken apart by the lemma above
attribute [irreducible] fromFields

/-! ## Dumping a receipt -/

/-- A text, or `None`. -/
def textValue : Option String → FieldValue
  | none => .json .none
  | some s => .json (.str s)

/-- A time, or `None`. -/
def timeValue : Option Datetime → FieldValue
  | none => .json .none
  | some t => .datetime t

/-- The names of the fields, in the order of their declaration. -/
def fieldNames : List String := [
  "receipt_version", "receipt_id", "transaction_id", "mandate_id", "merchant_id",
  "policy_version", "cart_hash", "amount_paise", "currency", "decision", "execution_tool",
  "execution_reference", "authorized_at", "executed_at", "created_at", "audit_hash",
  "canonical_payload_hash", "signature"]

theorem fieldNames_nodup : fieldNames.Nodup := by
  decide

/-- `model_dump()`. -/
def dump (r : ActionReceipt) : Fields where
  entries := [
    ("receipt_version", .json (.str r.receiptVersion)),
    ("receipt_id", .json (.str r.receiptId)),
    ("transaction_id", .json (.str r.transactionId)),
    ("mandate_id", .json (.str r.mandateId)),
    ("merchant_id", .json (.str r.merchantId)),
    ("policy_version", .json (.num (.int r.policyVersion))),
    ("cart_hash", .json (.str r.cartHash)),
    ("amount_paise", .json (.num (.int r.amountPaise))),
    ("currency", .currency r.currency),
    ("decision", .decision r.decision),
    ("execution_tool", textValue r.executionTool),
    ("execution_reference", textValue r.executionReference),
    ("authorized_at", .datetime r.authorizedAt),
    ("executed_at", timeValue r.executedAt),
    ("created_at", .datetime r.createdAt),
    ("audit_hash", textValue r.auditHash),
    ("canonical_payload_hash", .json (.str r.canonicalPayloadHash)),
    ("signature", textValue r.signature)]
  nodupKeys := fieldNames_nodup

section
variable {conv : FieldConversions} {defaults : ReceiptDefaults} {sha256 : String → String}

theorem optionalStr_textValue (x : Option String) : conv.optionalStr (textValue x) = some x := by
  cases x with
  | none => rfl
  | some s =>
      show (conv.str (.json (.str s))).map some = _
      rw [conv.str_str]
      rfl

theorem optionalDatetime_timeValue (x : Option Datetime) :
    conv.optionalDatetime (timeValue x) = some x := by
  cases x with
  | none => rfl
  | some t =>
      show (conv.datetime (.datetime t)).map some = _
      rw [conv.datetime_datetime]
      rfl

theorem given_of_get {α : Type} {d : Fields} {name : String} {convert : FieldValue → Option α}
    {default x : Option α} {v : FieldValue} (h : d.get name = some v) (hv : convert v = x) :
    d.given name convert default = x := by
  rw [Fields.given, h]
  exact hv

theorem given_of_missing {α : Type} {d : Fields} {name : String} {convert : FieldValue → Option α}
    {default : Option α} (h : d.get name = none) : d.given name convert default = default := by
  rw [Fields.given, h]

/-- A dumped receipt gives its own fields. -/
theorem gives_dump (r : ActionReceipt) : Gives conv defaults r.dump r where
  receiptVersion := given_of_get rfl (conv.str_str _)
  receiptId := given_of_get rfl (conv.str_str _)
  transactionId := given_of_get rfl (conv.str_str _)
  mandateId := given_of_get rfl (conv.str_str _)
  merchantId := given_of_get rfl (conv.str_str _)
  policyVersion := given_of_get rfl (conv.int_int _)
  cartHash := given_of_get rfl (conv.str_str _)
  amountPaise := given_of_get rfl (conv.int_int _)
  currency := given_of_get rfl (conv.currency_currency _)
  decision := given_of_get rfl (conv.decision_decision _)
  executionTool := given_of_get rfl (optionalStr_textValue _)
  executionReference := given_of_get rfl (optionalStr_textValue _)
  authorizedAt := given_of_get rfl (conv.datetime_datetime _)
  executedAt := given_of_get rfl (optionalDatetime_timeValue _)
  createdAt := given_of_get rfl (conv.datetime_datetime _)
  auditHash := given_of_get rfl (optionalStr_textValue _)
  canonicalPayloadHash := given_of_get rfl (conv.str_str _)
  signature := given_of_get rfl (optionalStr_textValue _)

/-- **A receipt that is dumped is read back.** -/
theorem fromFields_dump {r : ActionReceipt} (hwell : r.WellFormed)
    (hhash : r.canonicalPayloadHash ≠ "") :
    fromFields conv defaults sha256 r.dump = .valid r :=
  fromFields_eq_valid_iff.mpr ⟨r, gives_dump r, hwell, if_neg hhash⟩

theorem signature_of_fromFields_dump {r r' : ActionReceipt}
    (h : fromFields conv defaults sha256 r.dump = .valid r') : r'.signature = r.signature := by
  obtain ⟨u, hgives, -, rfl⟩ := fromFields_eq_valid_iff.mp h
  have hsame : some u.signature = some r.signature :=
    hgives.signature.symm.trans (gives_dump r : Gives conv defaults r.dump r).signature
  rw [← Option.some.inj hsame, postInit]
  by_cases hhash : u.canonicalPayloadHash = ""
  · rw [if_pos hhash]
  · rw [if_neg hhash]

theorem dump_set_signature (r : ActionReceipt) (s : String) :
    r.dump.set "signature" (.json (.str s))
      = ({ r with signature := some s } : ActionReceipt).dump :=
  rfl

end

end ActionReceipt

end MandateGateway
