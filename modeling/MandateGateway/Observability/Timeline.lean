import Mathlib.Data.Prod.Lex
import MandateGateway.Db.AuditRepository
import MandateGateway.Db.OutboxRepository
import MandateGateway.Lib.FloatRange
import MandateGateway.Lib.JsonKeys

/-! # Transaction timelines

    A timeline is put together from five sources.  Four of them are selected by
    an identifier of the transaction; pending outbox events are selected where
    their payload contains its text. -/

namespace MandateGateway

open Clock OutboxRepository StableSort

/-- A row of `action_receipts`. -/
structure ActionReceiptRow where
  receiptId     : String
  transactionId : String
  signatureHex  : String
  createdAt     : Instant
deriving DecidableEq, Repr

/-- The tables that a timeline is read from. -/
structure EvidenceDb where
  tables   : Database
  audit    : AuditLedger
  receipts : Table ActionReceiptRow.receiptId

/-- How a reconstruction fails. -/
inductive TimelineError where
  | valueError (message : String)
  | permissionError (message : String)
  | raised (err : PyError)
deriving DecidableEq, Repr

/-- An entry of a timeline. -/
structure TimelineItem where
  timestamp : String
  category  : String
  eventType : String
  component : String
  actor     : String
  summary   : String
  details   : Json.Tree
  sourceId  : String

/-- `to_dict`; whatever is redacted, is redacted in the details. -/
def TimelineItem.toDict (redactValue : Json.Tree → Json.Tree) (item : TimelineItem) :
    TimelineItem :=
  { item with details := redactValue item.details }

/-- The answer to a reconstruction. -/
structure Timeline where
  transactionId  : String
  merchantId     : String
  buyerId        : String
  mandateId      : String
  state          : String
  amountPaise    : Int
  currency       : String
  timelineLength : Nat
  events         : List TimelineItem

/-- What a reconstruction receives besides its arguments: the redaction of
    details, and the orders in which rows of one time come. -/
structure TimelineEnv where
  redactValue  : Json.Tree → Json.Tree
  attemptOrder : Arrangement ExecutionAttemptRow.createdAt
  outboxOrder  : ScanOrder

/-! ## The sources -/

namespace ExecutionAttemptRepository

def getAttemptsForTransaction (order : Arrangement ExecutionAttemptRow.createdAt)
    (transactionId : String) (db : Database) : List ExecutionAttemptRow :=
  order.arrange (db.executionAttempts.select fun a => a.transactionId == Text.strip transactionId)

end ExecutionAttemptRepository

open ExecutionAttemptRepository

namespace AuditLedger

def getEventsForTransaction (transactionId : String) (ledger : AuditLedger) :
    List AuditEventRow :=
  sortBy AuditEventRow.sequenceNumber
    (ledger.rows.filter fun e => e.transactionId == some transactionId)

end AuditLedger

def getReceiptForTransaction (transactionId : String)
    (receipts : Table ActionReceiptRow.receiptId) : Except PyError (Option ActionReceiptRow) :=
  scalarOneOrNone (receipts.select fun r => r.transactionId == transactionId)

/-! ## The entries -/

namespace TransactionTimelineReconstructor

/-- `amount_paise / 100.0`. -/
def rupees (amountPaise : Int) : Except PyError Binary64 :=
  match Binary64.ofRat amountPaise with
  | .infinite _ => .error (.overflowError "int too large to convert to float")
  | x => .ok (x.scaleBy (1 / 100))

/-- A text, or `None`. -/
def textOrNone (x : Option String) : Json.Tree := (x.map Json.Tree.str).getD .null

def transactionItem (tx : TransactionRow) (amount : Binary64) : TimelineItem where
  timestamp := isoformat tx.createdAt
  category := "PERSISTENCE"
  eventType := "transaction.created"
  component := "TransactionRepository"
  actor := s!"merchant:{tx.merchantId}"
  summary := s!"Transaction created in state '{tx.state}' for amount {amount.text} {tx.currency}"
  details := .obj [
    ("transaction_id", .str tx.transactionId),
    ("merchant_id", .str tx.merchantId),
    ("buyer_id", .str tx.buyerId),
    ("mandate_id", .str tx.mandateId),
    ("amount_paise", .num (.int tx.amountPaise)),
    ("currency", .str tx.currency),
    ("state", .str tx.state)]
  sourceId := tx.transactionId

def attemptItem (tx : TransactionRow) (att : ExecutionAttemptRow) : TimelineItem where
  timestamp := isoformat att.createdAt
  category := "EXECUTION"
  eventType := "payment.execution_attempt"
  component := "PaymentExecutionEngine"
  actor := s!"merchant:{tx.merchantId}"
  summary := s!"Execution attempt '{att.attemptId}' in status '{att.status}'"
  details := .obj [
    ("attempt_id", .str att.attemptId),
    ("status", .str att.status),
    ("provider_reference", textOrNone att.providerReference),
    ("idempotency_key", .str att.idempotencyKey)]
  sourceId := att.attemptId

/-- `json.loads`, and an empty object for a text that is none. -/
def auditPayload (payloadJson : String) : Json.Tree :=
  ((Json.decodeTree payloadJson).map Json.Tree.merged).getD (.obj [])

def auditItem (auditEvt : AuditEventRow) : TimelineItem where
  timestamp := isoformat auditEvt.timestamp
  category := "PERSISTENCE"
  eventType := auditEvt.eventType
  component := "AuditRepository"
  actor := orElseText auditEvt.buyerId (orElseText auditEvt.merchantId "system")
  summary := s!"Audit event '{auditEvt.eventType}' recorded (seq: {auditEvt.sequenceNumber})"
  details := .obj [
    ("sequence_number", .num (.int auditEvt.sequenceNumber)),
    ("event_hash", .str auditEvt.eventHash),
    ("previous_hash", .str auditEvt.previousHash),
    ("payload", auditPayload auditEvt.payloadJson)]
  sourceId := auditEvt.eventId

def receiptItem (rcp : ActionReceiptRow) : TimelineItem where
  timestamp := isoformat rcp.createdAt
  category := "SECURITY_CONTROL"
  eventType := "receipt.signed"
  component := "ReceiptRepository"
  actor := "ed25519_signer"
  summary := "Ed25519 action receipt signed"
  details := .obj [
    ("receipt_id", .str rcp.receiptId),
    ("signature", .str (String.ofList (rcp.signatureHex.toList.take 16) ++ "..."))]
  sourceId := rcp.receiptId

def outboxItem (ob : OutboxEventRow) : TimelineItem where
  timestamp := isoformat ob.createdAt
  category := "OUTBOX"
  eventType := ob.eventType
  component := "OutboxRepository"
  actor := "system.outbox"
  summary := s!"Outbox event '{ob.eventType}' status '{ob.status}'"
  details := .obj [
    ("outbox_id", .str ob.outboxId),
    ("aggregate_type", .str ob.aggregateType),
    ("status", .str ob.status)]
  sourceId := ob.outboxId

/-- `transaction_id in payload_json or transaction_id == aggregate_id`. -/
def shows (transactionId : String) (ob : OutboxEventRow) : Bool :=
  Text.occursIn transactionId ob.payloadJson || transactionId == ob.aggregateId

/-- The entries in the order in which they are collected. -/
def collect (env : TimelineEnv) (transactionId : String) (db : EvidenceDb) (tx : TransactionRow)
    (amount : Binary64) (rcp : Option ActionReceiptRow) : List TimelineItem :=
  transactionItem tx amount
    :: (getAttemptsForTransaction env.attemptOrder transactionId db.tables).map (attemptItem tx)
    ++ (db.audit.getEventsForTransaction transactionId).map auditItem
    ++ rcp.toList.map receiptItem
    ++ ((getPendingEvents env.outboxOrder 500 db.tables).filter (shows transactionId)).map
        outboxItem

/-- The order of a timeline. -/
def sortKey (item : TimelineItem) : String ×ₗ String := toLex (item.timestamp, item.eventType)

/-- The merchant is named, is no operator, and does not own the transaction. -/
def denied (requestingMerchantId : Option String) (tx : TransactionRow) : Bool :=
  match requestingMerchantId with
  | none => false
  | some merchant => merchant != "" && merchant != "*" && merchant != "mer_operator"
      && tx.merchantId != merchant

def reconstruct (env : TimelineEnv) (transactionId : String)
    (requestingMerchantId : Option String) (db : EvidenceDb) : Except TimelineError Timeline :=
  match db.tables.transactions.get transactionId with
  | none => .error (.valueError s!"Transaction '{transactionId}' not found.")
  | some tx =>
      if denied requestingMerchantId tx then
        .error (.permissionError
          ("Merchant '" ++ requestingMerchantId.getD "" ++ "' is not authorized "
            ++ s!"to access timeline for transaction '{transactionId}'."))
      else
        match rupees tx.amountPaise with
        | .error err => .error (.raised err)
        | .ok amount =>
            match getReceiptForTransaction transactionId db.receipts with
            | .error err => .error (.raised err)
            | .ok rcp =>
                let items := sortBy sortKey (collect env transactionId db tx amount rcp)
                .ok {
                  transactionId := tx.transactionId
                  merchantId := tx.merchantId
                  buyerId := tx.buyerId
                  mandateId := tx.mandateId
                  state := tx.state
                  amountPaise := tx.amountPaise
                  currency := tx.currency
                  timelineLength := items.length
                  events := items.map (TimelineItem.toDict env.redactValue) }

end TransactionTimelineReconstructor

end MandateGateway
