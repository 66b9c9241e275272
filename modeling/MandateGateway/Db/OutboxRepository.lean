import MandateGateway.Db.ExecutionAttemptRepository
import MandateGateway.Lib.ExhaustiveSearch

/-! # The outbox repository

    Events are created PENDING and read back oldest first; an event is marked
    as dispatched or as failed under its identifier.  Only PENDING events are
    ever read (`eligible_iff`). -/

namespace MandateGateway

open Clock Raising

/-- The event of `create_event`, under the caller's identifier where one is
    given. -/
def outboxEventAs (env : DbEnv) (eventType aggregateType aggregateId : String) (payload : Json)
    (outboxId : Option String) : OutboxEventRow :=
  { outboxEvent env eventType aggregateType aggregateId payload with
    outboxId := orElseText outboxId s!"outbox_{env.eventToken}" }

def createEventAs (env : DbEnv) (eventType aggregateType aggregateId : String) (payload : Json)
    (outboxId : Option String) : DbAction Unit :=
  DbAction.insertOrRaise env fun db =>
    (db.outboxEvents.insert
      (outboxEventAs env eventType aggregateType aggregateId payload outboxId)).map
      fun events => { db with outboxEvents := events }

namespace OutboxRepository

/-- An order in which the database returns events by their creation. -/
abbrev ScanOrder : Type := StableSort.Arrangement OutboxEventRow.createdAt

def tableOrder : ScanOrder := .stable OutboxEventRow.createdAt

def getPendingEvents (order : ScanOrder) (limit : Nat) (db : Database) : List OutboxEventRow :=
  (order.arrange (db.outboxEvents.select fun r => r.status == "PENDING")).take limit

/-- The database with `f` applied to the record of this identifier. -/
def withRecord (outboxId : String) (f : OutboxEventRow → OutboxEventRow)
    (hf : ∀ r, (f r).outboxId = r.outboxId) (db : Database) : Database :=
  { db with outboxEvents := db.outboxEvents.modify outboxId f hf }

/-- Change the record of this identifier. -/
def setRecord (outboxId : String) (f : OutboxEventRow → OutboxEventRow)
    (hf : ∀ r, (f r).outboxId = r.outboxId) : DbAction OutboxEventRow := do
  match ← DbAction.query fun db => db.outboxEvents.get outboxId with
  | none => raise (.valueError s!"Outbox record '{outboxId}' not found.")
  | some record =>
      DbAction.write (withRecord outboxId f hf)
      pure (f record)

def dispatched (now : Instant) (record : OutboxEventRow) : OutboxEventRow :=
  { record with status := "DISPATCHED", dispatchedAt := some now }

def failed (record : OutboxEventRow) : OutboxEventRow := { record with status := "FAILED" }

theorem dispatched_outboxId (now : Instant) (record : OutboxEventRow) :
    (dispatched now record).outboxId = record.outboxId :=
  rfl

theorem failed_outboxId (record : OutboxEventRow) :
    (failed record).outboxId = record.outboxId :=
  rfl

def markDispatched (now : Instant) (outboxId : String) : DbAction OutboxEventRow :=
  setRecord outboxId (dispatched now) (dispatched_outboxId now)

def markFailed (outboxId : String) : DbAction OutboxEventRow :=
  setRecord outboxId failed failed_outboxId

/-! ## What is read -/

/-- Some later scan returns the event, however the database orders its rows. -/
def Eligible (db : Database) (event : OutboxEventRow) : Prop :=
  ∃ limit, ∀ order, event ∈ getPendingEvents order limit db

theorem mem_getPendingEvents {order : ScanOrder} {limit : Nat} {db : Database}
    {event : OutboxEventRow} (h : event ∈ getPendingEvents order limit db) :
    event ∈ db.outboxEvents.rows ∧ event.status = "PENDING" := by
  have hselected := (order.perm _).subset (List.mem_of_mem_take h)
  rw [Table.select, List.mem_filter, beq_iff_eq] at hselected
  exact hselected

/-- **A stored event is eligible exactly while it is PENDING.** -/
theorem eligible_iff {db : Database} {event : OutboxEventRow}
    (hstored : event ∈ db.outboxEvents.rows) :
    Eligible db event ↔ event.status = "PENDING" := by
  constructor
  · rintro ⟨limit, hscan⟩
    exact (mem_getPendingEvents (hscan tableOrder)).2
  · intro hpending
    refine ⟨db.outboxEvents.rows.length, fun order => ?_⟩
    have hselected : event ∈ db.outboxEvents.select fun r => r.status == "PENDING" :=
      List.mem_filter.mpr ⟨hstored, beq_iff_eq.mpr hpending⟩
    have hlength : (order.arrange (db.outboxEvents.select fun r => r.status == "PENDING")).length
        ≤ db.outboxEvents.rows.length := by
      rw [(order.perm _).length_eq]
      exact List.length_filter_le _ _
    rw [getPendingEvents, List.take_of_length_le hlength]
    exact (order.perm _).symm.subset hselected

theorem nodup_getPendingEvents (order : ScanOrder) (limit : Nat) (db : Database) :
    ((getPendingEvents order limit db).map OutboxEventRow.outboxId).Nodup := by
  have hperm := (order.perm (db.outboxEvents.select fun r => r.status == "PENDING")).map
    OutboxEventRow.outboxId
  have hselected : ((db.outboxEvents.select fun r => r.status == "PENDING").map
      OutboxEventRow.outboxId).Nodup :=
    db.outboxEvents.nodupKeys.sublist (List.filter_sublist.map _)
  exact (hperm.nodup_iff.mpr hselected).sublist ((List.take_sublist _ _).map _)

/-! ## What is marked -/

theorem withRecord_outboxIds (outboxId : String) {f : OutboxEventRow → OutboxEventRow}
    (hf : ∀ r, (f r).outboxId = r.outboxId) (db : Database) :
    (withRecord outboxId f hf db).outboxEvents.rows.map OutboxEventRow.outboxId
      = db.outboxEvents.rows.map OutboxEventRow.outboxId := by
  rw [withRecord, Table.modify, List.map_map]
  refine List.map_congr_left fun r _ => ?_
  by_cases hself : r.outboxId = outboxId
  · rw [Function.comp_apply, if_pos hself, hf]
  · rw [Function.comp_apply, if_neg hself]

theorem withRecord_withRecord {outboxId : String} {f g : OutboxEventRow → OutboxEventRow}
    (hf : ∀ r, (f r).outboxId = r.outboxId) (hg : ∀ r, (g r).outboxId = r.outboxId)
    (db : Database) :
    withRecord outboxId g hg (withRecord outboxId f hf db)
      = withRecord outboxId (fun r => g (f r)) (fun r => (hg (f r)).trans (hf r)) db :=
  congrArg (fun events => { db with outboxEvents := events }) (Table.modify_modify hf hg)

theorem setRecord_of_stored {outboxId : String} {f : OutboxEventRow → OutboxEventRow}
    (hf : ∀ r, (f r).outboxId = r.outboxId) {uow : UnitOfWork}
    (hstored : outboxId ∈ uow.session.outboxEvents.rows.map OutboxEventRow.outboxId) :
    ∃ record, setRecord outboxId f hf uow
      = (.ok record, { uow with session := withRecord outboxId f hf uow.session }) := by
  cases hget : uow.session.outboxEvents.get outboxId with
  | none => exact absurd hstored (Table.get_eq_none_iff.mp hget)
  | some record =>
      have hquery : DbAction.query (fun db => db.outboxEvents.get outboxId) uow
          = (.ok (some record), uow) := asks_of_eq hget
      refine ⟨f record, ?_⟩
      rw [setRecord, bind_of_ok hquery]
      rfl

end OutboxRepository

end MandateGateway
