import MandateGateway.Lib.Datetime
import MandateGateway.Lib.JsonTree
import MandateGateway.Lib.Text

/-! # The schema

    The sixteen persistent tables with the columns of their models, in the order in
    which they are declared.  A row of a table carries that its cells are of the
    types of the columns. -/

namespace MandateGateway

open Clock

inductive ColumnType where
  | string (length : Nat)
  | text
  | bigInteger
  | boolean
  | dateTime
deriving DecidableEq, Repr

/-- `str(col.type)`. -/
def ColumnType.sql : ColumnType → String
  | .string length => s!"VARCHAR({length})"
  | .text => "TEXT"
  | .bigInteger => "BIGINT"
  | .boolean => "BOOLEAN"
  | .dateTime => "DATETIME"

structure Column where
  name     : String
  type     : ColumnType
  nullable : Bool
deriving DecidableEq, Repr

namespace Column

/-- A column that is not nullable. -/
def of (name : String) (type : ColumnType) : Column := ⟨name, type, false⟩

def orNull (c : Column) : Column := { c with nullable := true }

end Column

inductive TableName where
  | merchants | merchantPolicies | products | mandates | budgetReservations
  | stepUpChallenges | replayRecords | nonceRecords | transactions | executionAttempts
  | outboxEvents | auditEvents | actionReceipts | forensicEvents | apiCredentials
  | webhookEvents
deriving DecidableEq, Repr

open Column ColumnType in
/-- `__table__.columns` of the model. -/
def TableName.columns : TableName → List Column
  | .merchants => [
      of "merchant_id" (string 64), of "name" (string 255),
      (of "razorpay_account_id" (string 64)).orNull, of "active" boolean,
      of "created_at" dateTime, of "updated_at" dateTime]
  | .merchantPolicies => [
      of "id" (string 64), of "merchant_id" (string 64), of "policy_version" (string 32),
      of "active" boolean, of "autonomous_limit_paise" bigInteger,
      of "step_up_threshold_paise" bigInteger, of "allowed_categories_json" text,
      of "allowed_operations_json" text, of "blocked_operations_json" text,
      of "effective_at" dateTime, of "created_at" dateTime]
  | .products => [
      of "product_id" (string 64), of "merchant_id" (string 64), of "name" (string 255),
      (of "description" text).orNull, of "price_paise" bigInteger, of "currency" (string 10),
      of "category" (string 64), of "active" boolean, of "created_at" dateTime]
  | .mandates => [
      of "mandate_id" (string 64), of "buyer_id" (string 64),
      (of "merchant_id" (string 64)).orNull, (of "category_scope" (string 64)).orNull,
      of "daily_budget_paise" bigInteger, (of "cumulative_budget_paise" bigInteger).orNull,
      of "currency" (string 10), of "region" (string 32), of "status" (string 32),
      of "expires_at" dateTime, of "created_at" dateTime]
  | .budgetReservations => [
      of "reservation_id" (string 64), of "mandate_id" (string 64),
      of "transaction_id" (string 64), of "requested_paise" bigInteger,
      of "reserved_paise" bigInteger, of "state" (string 32), of "created_at" dateTime,
      (of "resolved_at" dateTime).orNull]
  | .stepUpChallenges => [
      of "challenge_id" (string 64), of "transaction_id" (string 64), of "status" (string 32),
      of "risk_classification" (string 64), of "created_at" dateTime, of "expires_at" dateTime,
      (of "approved_at" dateTime).orNull, (of "approver_metadata" text).orNull]
  | .replayRecords => [
      of "fingerprint" (string 128), of "transaction_id" (string 64), of "created_at" dateTime]
  | .nonceRecords => [
      of "nonce" (string 128), of "transaction_id" (string 64), of "mandate_id" (string 64),
      of "status" (string 32), of "created_at" dateTime, (of "consumed_at" dateTime).orNull]
  | .transactions => [
      of "transaction_id" (string 64), of "buyer_id" (string 64), of "merchant_id" (string 64),
      of "mandate_id" (string 64), of "cart_hash" (string 64), of "amount_paise" bigInteger,
      of "currency" (string 10), of "region" (string 32), of "auth_decision" (string 32),
      of "state" (string 32), (of "provider_payment_id" (string 128)).orNull,
      (of "provider_status" (string 32)).orNull, of "idempotency_key" (string 128),
      of "created_at" dateTime, of "updated_at" dateTime]
  | .executionAttempts => [
      of "attempt_id" (string 255), of "transaction_id" (string 255),
      of "merchant_id" (string 255), of "idempotency_key" (string 255),
      of "payload_fingerprint" (string 64), of "status" (string 50),
      (of "provider_reference" (string 255)).orNull, of "created_at" dateTime,
      (of "completed_at" dateTime).orNull]
  | .outboxEvents => [
      of "outbox_id" (string 255), of "event_type" (string 100),
      of "aggregate_type" (string 100), of "aggregate_id" (string 255), of "payload_json" text,
      of "status" (string 50), of "created_at" dateTime, (of "dispatched_at" dateTime).orNull]
  | .auditEvents => [
      of "event_id" (string 64), of "sequence_number" bigInteger, of "event_type" (string 64),
      (of "transaction_id" (string 64)).orNull, (of "mandate_id" (string 64)).orNull,
      (of "merchant_id" (string 64)).orNull, (of "buyer_id" (string 64)).orNull,
      of "payload_json" text, of "previous_hash" (string 64), of "event_hash" (string 64),
      of "timestamp" dateTime]
  | .actionReceipts => [
      of "receipt_id" (string 64), of "transaction_id" (string 64),
      of "audit_event_id" (string 64), of "canonical_payload_hash" (string 64),
      of "signature_hex" text, of "public_key_hex" text, of "created_at" dateTime]
  | .forensicEvents => [
      of "event_id" (string 64), of "event_type" (string 64), of "category" (string 32),
      of "severity" (string 16), (of "correlation_id" (string 128)).orNull,
      (of "request_id" (string 128)).orNull, (of "trace_id" (string 128)).orNull,
      (of "actor_principal_id" (string 128)).orNull, (of "merchant_id" (string 64)).orNull,
      (of "target_resource" (string 128)).orNull, of "outcome" (string 32),
      of "metadata_json" text, of "hash_signature" (string 64), of "created_at" dateTime]
  | .apiCredentials => [
      of "credential_id" (string 255), of "merchant_id" (string 255),
      of "credential_prefix" (string 64), of "credential_secret_hash" (string 128),
      of "status" (string 32), of "scopes" text, of "created_at" dateTime,
      (of "expires_at" dateTime).orNull, (of "revoked_at" dateTime).orNull,
      (of "last_used_at" dateTime).orNull]
  | .webhookEvents => [
      of "event_id" (string 255), of "event_type" (string 100),
      of "transaction_id" (string 255), of "merchant_id" (string 255),
      of "payload_hash" (string 64), of "status" (string 50), of "processed_at" dateTime]

theorem TableName.nodup_columns (t : TableName) : (t.columns.map Column.name).Nodup := by
  cases t <;> decide

/-! ## Rows -/

/-- A value of a cell. -/
inductive Cell where
  | datetime (t : Datetime)
  | value (v : Json.Tree)

def Cell.null : Cell := .value .null

def ColumnType.holds : ColumnType → Cell → Bool
  | .string _, .value (.str _) => true
  | .text, .value (.str _) => true
  | .bigInteger, .value (.num (.int _)) => true
  | .boolean, .value (.bool _) => true
  | .dateTime, .datetime _ => true
  | _, _ => false

def Cell.isNull : Cell → Bool
  | .value .null => true
  | _ => false

namespace Column

def holds (c : Column) (x : Cell) : Bool := c.type.holds x || (c.nullable && x.isNull)

def holdsAll : List Column → List Cell → Bool
  | [], [] => true
  | c :: cs, x :: xs => c.holds x && holdsAll cs xs
  | _, _ => false

end Column

structure Row (t : TableName) where
  cells : List Cell
  holds : Column.holdsAll t.columns cells = true

/-- The tables of a database. -/
abbrev PersistentDb : Type := (t : TableName) → List (Row t)

namespace Row

/-- `getattr(r, name)`. -/
def get {t : TableName} (r : Row t) (name : String) : Cell :=
  (((t.columns.map Column.name).zip r.cells).lookup name).getD .null

end Row

end MandateGateway
