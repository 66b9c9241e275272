import MandateGateway.Lib.RaisingLoop
import MandateGateway.Lib.Table
import MandateGateway.Types
import MandateGateway.Values

/-! # The database behind a unit of work

    The rows of the tables a payment execution writes, and the two states of
    the database that a unit of work knows: what its session sees, flushed
    writes included, and what is committed, to which a rollback returns. -/

namespace MandateGateway

open Clock

/-- A row of `transactions`; the state is the text that is stored. -/
structure TransactionRow where
  transactionId     : String
  buyerId           : String
  merchantId        : String
  mandateId         : String
  cartHash          : String
  amountPaise       : Int
  currency          : String
  region            : String
  authDecision      : String
  state             : String
  providerPaymentId : Option String
  providerStatus    : Option String
  idempotencyKey    : String
  createdAt         : Instant
  updatedAt         : Instant
deriving DecidableEq, Repr

/-- A row of `execution_attempts`. -/
structure ExecutionAttemptRow where
  attemptId          : String
  transactionId      : String
  merchantId         : String
  idempotencyKey     : String
  payloadFingerprint : String
  status             : String
  providerReference  : Option String
  createdAt          : Instant
  completedAt        : Option Instant
deriving DecidableEq, Repr

/-- A row of `outbox_events`. -/
structure OutboxEventRow where
  outboxId      : String
  eventType     : String
  aggregateType : String
  aggregateId   : String
  payloadJson   : String
  status        : String
  createdAt     : Instant
  dispatchedAt  : Option Instant
deriving DecidableEq, Repr

/-- The tables, each by its primary key. -/
structure Database where
  transactions      : Table TransactionRow.transactionId
  executionAttempts : Table ExecutionAttemptRow.attemptId
  outboxEvents      : Table OutboxEventRow.outboxId

structure UnitOfWork where
  session   : Database
  committed : Database

/-- Discard every write of the session. -/
def UnitOfWork.rollback (uow : UnitOfWork) : UnitOfWork := ⟨uow.committed, uow.committed⟩

/-- A repository operation. -/
abbrev DbAction (α : Type) : Type := Raising UnitOfWork PyError α

/-- What a call receives from the process and the driver: the time, the random
    parts of two identifiers, and the driver's text of a broken constraint. -/
structure DbEnv where
  now            : Instant
  attemptToken   : String
  eventToken     : String
  constraintText : String
deriving DecidableEq, Repr

def scalarOneOrNone {α : Type} : List α → Except PyError (Option α)
  | [] => .ok none
  | [x] => .ok (some x)
  | _ => .error .multipleResultsFound

theorem scalarOneOrNone_eq_some_iff {α : Type} {xs : List α} {x : α} :
    scalarOneOrNone xs = .ok (some x) ↔ xs = [x] := by
  match xs with
  | [] => exact ⟨nofun, nofun⟩
  | [y] =>
      constructor
      · intro h
        obtain rfl := Option.some.inj (Except.ok.inj h)
        rfl
      · intro h
        obtain rfl := List.singleton_inj.mp h
        rfl
  | y :: z :: zs => exact ⟨nofun, nofun⟩

theorem scalarOneOrNone_eq_none_iff {α : Type} {xs : List α} :
    scalarOneOrNone xs = .ok none ↔ xs = [] := by
  match xs with
  | [] => exact ⟨fun _ => rfl, fun _ => rfl⟩
  | [y] => exact ⟨nofun, nofun⟩
  | y :: z :: zs => exact ⟨nofun, nofun⟩

theorem scalarOneOrNone_map {α β : Type} (f : α → β) (xs : List α) :
    scalarOneOrNone (xs.map f) = (scalarOneOrNone xs).map (Option.map f) :=
  match xs with
  | [] => rfl
  | [_] => rfl
  | _ :: _ :: _ => rfl

namespace DbAction

open Raising

/-- Read from the session. -/
def query {α : Type} (f : Database → α) : DbAction α := asks fun uow => f uow.session

def write (f : Database → Database) : DbAction Unit :=
  modify fun uow => { uow with session := f uow.session }

/-- Insert through `put`; a taken key rolls the session back and raises. -/
def insertOrRaise (env : DbEnv) (put : Database → Option Database) : DbAction Unit := fun uow =>
  match put uow.session with
  | some db => (.ok (), { uow with session := db })
  | none => (.error (.integrityError env.constraintText), uow.rollback)

end DbAction

end MandateGateway
