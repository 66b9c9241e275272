import MandateGateway.Db.AuditRepository
import MandateGateway.Db.MandateRepository

/-! # The webhook repository

    Provider events as rows, of which no two share an identity.  An event is
    registered once: a second registration finds the row and says that it is a
    duplicate (`registerEvent_of_present`, `registerEvent_of_new`). -/

namespace MandateGateway

open Clock Raising

/-- A row of `webhook_events`. -/
structure WebhookEventRow where
  eventId       : String
  eventType     : String
  transactionId : String
  merchantId    : String
  payloadHash   : String
  status        : String
  processedAt   : Instant
deriving DecidableEq, Repr

/-- The table `webhook_events`. -/
abbrev WebhookTable : Type := Table WebhookEventRow.eventId

/-- A unit of work that also registers provider events, and reads mandates. -/
structure WebhookUnitOfWork where
  audited         : AuditedUnitOfWork
  mandates        : MandateTable
  events          : WebhookTable
  committedEvents : WebhookTable

/-- Discard every write of the session. -/
def WebhookUnitOfWork.rollback (u : WebhookUnitOfWork) : WebhookUnitOfWork where
  audited := {
    rows := u.audited.rows.rollback
    ledger := u.audited.committedLedger
    committedLedger := u.audited.committedLedger
    active := true }
  mandates := u.mandates
  events := u.committedEvents
  committedEvents := u.committedEvents

namespace WebhookRepository

/-- An operation of the repository. -/
abbrev Action (α : Type) : Type := Raising WebhookUnitOfWork PyError α

/-- What `register_event` is given. -/
structure Registration where
  eventId       : String
  eventType     : String
  transactionId : String
  merchantId    : String
  payloadHash   : String
  status        : String

def newRow (now : Instant) (r : Registration) : WebhookEventRow where
  eventId := Text.strip r.eventId
  eventType := Text.strip r.eventType
  transactionId := Text.strip r.transactionId
  merchantId := Text.strip r.merchantId
  payloadHash := Text.strip r.payloadHash
  status := r.status
  processedAt := now

def checkRegistration (r : Registration) : Except PyError Unit :=
  if Text.strip r.eventId = "" then .error (.valueError "Webhook event_id cannot be empty.")
  else if Text.strip r.transactionId = "" then
    .error (.valueError "Transaction ID cannot be empty.")
  else if Text.strip r.merchantId = "" then .error (.valueError "Merchant ID cannot be empty.")
  else .ok ()

/-- The flush of a new row: a taken key rolls the session back, and the row
    that holds the key is the answer. -/
def flushNew (env : DbEnv) (record : WebhookEventRow) : Action (WebhookEventRow × Bool) :=
  fun u =>
    match u.events.insert record with
    | some events => (.ok (record, false), { u with events := events })
    | none =>
        match u.rollback.events.get record.eventId with
        | some dup => (.ok (dup, true), u.rollback)
        | none => (.error (.integrityError env.constraintText), u.rollback)

/-- `register_event`: the row, and whether it was there before. -/
def registerEvent (env : DbEnv) (r : Registration) : Action (WebhookEventRow × Bool) := do
  ofExcept (checkRegistration r)
  match ← asks (fun u => u.events.get (Text.strip r.eventId)) with
  | some existing => pure (existing, true)
  | none => flushNew env (newRow env.now r)

/-! ## What a registration does -/

variable {env : DbEnv} {r : Registration} {u : WebhookUnitOfWork}

theorem registerEvent_of_present {row : WebhookEventRow} (hcheck : checkRegistration r = .ok ())
    (h : u.events.get (Text.strip r.eventId) = some row) :
    registerEvent env r u = (.ok (row, true), u) := by
  have hread : asks (fun u : WebhookUnitOfWork => u.events.get (Text.strip r.eventId)) u
      = ((.ok (some row) : Except PyError _), u) := by
    rw [← h]
    rfl
  rw [registerEvent, bind_of_ok (ofExcept_of_eq hcheck u), bind_of_ok hread]
  rfl

theorem registerEvent_of_new (hcheck : checkRegistration r = .ok ())
    (h : u.events.get (Text.strip r.eventId) = none) :
    ∃ events, u.events.insert (newRow env.now r) = some events
      ∧ registerEvent env r u = (.ok (newRow env.now r, false), { u with events := events }) := by
  have hread : asks (fun u : WebhookUnitOfWork => u.events.get (Text.strip r.eventId)) u
      = ((.ok none : Except PyError _), u) := by
    rw [← h]
    rfl
  obtain ⟨events, hinsert⟩ := Table.exists_insert (r := newRow env.now r)
    (Table.get_eq_none_iff.mp h)
  refine ⟨events, hinsert, ?_⟩
  rw [registerEvent, bind_of_ok (ofExcept_of_eq hcheck u), bind_of_ok hread]
  dsimp only
  rw [flushNew, hinsert]

end WebhookRepository

end MandateGateway
