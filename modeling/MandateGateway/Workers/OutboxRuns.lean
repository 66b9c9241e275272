import MandateGateway.Lib.Runs
import MandateGateway.Workers.OutboxWorker

/-! # Runs of the outbox

    Events are created and batches are processed in any order, each call in a
    transaction of its own.  No event ever leaves the table; one that is marked
    FAILED is never read again, and nothing marks it otherwise.

    * `outboxIds_exec`: the table of a run holds what it held and what was
      created;
    * `delivery_law`: every event stays dispatched or eligible exactly when no
      batch of the run commits a failed dispatch. -/

namespace MandateGateway.OutboxWorker

open Clock Raising OutboxRepository Runs

/-- A call of the system; the caller of `create_event` may commit or not. -/
inductive OutboxCall where
  | createEvent (env : DbEnv) (eventType aggregateType aggregateId : String) (payload : Json)
      (outboxId : Option String) (commits : Bool)
  | processBatch (env : OutboxBatchEnv) (batchSize : Nat)

/-- What a creation makes of the database, and the event that is stored. -/
def createStep (env : DbEnv) (eventType aggregateType aggregateId : String) (payload : Json)
    (outboxId : Option String) (commits : Bool) (db : Database) : Option String × Database :=
  match createEventAs env eventType aggregateType aggregateId payload outboxId ⟨db, db⟩ with
  | (.ok (), uow) =>
      if commits then
        (some (outboxEventAs env eventType aggregateType aggregateId payload outboxId).outboxId,
          uow.session)
      else (none, uow.committed)
  | (.error _, uow) => (none, uow.committed)

/-- One call, in a transaction of its own. -/
def outboxStep (db : Database) : OutboxCall → Option String × Database
  | .createEvent env eventType aggregateType aggregateId payload outboxId commits =>
      createStep env eventType aggregateType aggregateId payload outboxId commits db
  | .processBatch env batchSize => (none, (processBatch env batchSize db).2)

/-- The identifiers in the table. -/
def outboxIds (db : Database) : List String :=
  db.outboxEvents.rows.map OutboxEventRow.outboxId

/-- The events created by these steps. -/
def createdIds (steps : List (Step Database OutboxCall (Option String))) : List String :=
  steps.filterMap Step.out

/-- The event is dispatched, or a later scan returns it. -/
def DispatchedOrEligible (db : Database) (outboxId : String) : Prop :=
  ∃ event ∈ db.outboxEvents.rows, event.outboxId = outboxId
    ∧ (event.status = "DISPATCHED" ∨ Eligible db event)

/-- No event of the table is undelivered and skipped. -/
def NothingSkipped (db : Database) : Prop :=
  ∀ outboxId ∈ outboxIds db, DispatchedOrEligible db outboxId

/-- The batch commits, and among what it picked a dispatch had raised. -/
def CommitsFailedDispatch (db : Database) : OutboxCall → Prop
  | .createEvent .. => False
  | .processBatch env batchSize => Commits env batchSize db
      ∧ ∃ outboxId ∈ picked env batchSize db, ∃ marked, env.dispatch outboxId = .raises marked

/-! ## One call -/

variable {db : Database}

theorem nothingSkipped_iff : NothingSkipped db
    ↔ ∀ event ∈ db.outboxEvents.rows, event.status = "DISPATCHED" ∨ event.status = "PENDING" := by
  constructor
  · intro h event hevent
    obtain ⟨found, hfound, hid, hstatus⟩ := h event.outboxId (List.mem_map_of_mem hevent)
    obtain rfl := List.inj_on_of_nodup_map db.outboxEvents.nodupKeys hfound hevent hid
    exact hstatus.imp_right (eligible_iff hevent).mp
  · intro h outboxId hid
    obtain ⟨event, hevent, rfl⟩ := List.mem_map.mp hid
    exact ⟨event, hevent, rfl, (h event hevent).imp_right (eligible_iff hevent).mpr⟩

theorem createStep_cases (env : DbEnv) (eventType aggregateType aggregateId : String)
    (payload : Json) (outboxId : Option String) (commits : Bool) (db : Database) :
    createStep env eventType aggregateType aggregateId payload outboxId commits db = (none, db)
    ∨ ∃ event after, event.status = "PENDING"
      ∧ createStep env eventType aggregateType aggregateId payload outboxId commits db
        = (some event.outboxId, after)
      ∧ after.outboxEvents.rows = db.outboxEvents.rows ++ [event] := by
  rw [createStep, createEventAs, DbAction.insertOrRaise]
  cases hinsert : db.outboxEvents.insert
      (outboxEventAs env eventType aggregateType aggregateId payload outboxId) with
  | none =>
      -- the identifier is taken: the transaction is rolled back
      exact .inl rfl
  | some events =>
      cases commits with
      | false => exact .inl rfl
      | true =>
          exact .inr ⟨_, { db with outboxEvents := events }, rfl, rfl,
            Table.rows_of_insert hinsert⟩

theorem processBatch_outboxIds (env : OutboxBatchEnv) (batchSize : Nat) (db : Database) :
    outboxIds (processBatch env batchSize db).2 = outboxIds db := by
  by_cases hcommits : Commits env batchSize db
  · rw [processBatch_of_commits hcommits]
    exact settleDb_outboxIds env _ db
  · rw [processBatch_of_not_commits hcommits]

/-- **A call adds what it creates, and takes nothing away.** -/
theorem outboxIds_outboxStep (db : Database) (call : OutboxCall) :
    outboxIds (outboxStep db call).2 = outboxIds db ++ (outboxStep db call).1.toList := by
  cases call with
  | createEvent env eventType aggregateType aggregateId payload outboxId commits =>
      rw [outboxStep]
      rcases createStep_cases env eventType aggregateType aggregateId payload outboxId commits db
        with hnone | ⟨event, after, -, hstep, hrows⟩
      · rw [hnone]
        exact (List.append_nil _).symm
      · rw [hstep, outboxIds, hrows, List.map_append]
        rfl
  | processBatch env batchSize =>
      rw [outboxStep, processBatch_outboxIds]
      exact (List.append_nil _).symm

theorem nothingSkipped_settleDb {env : OutboxBatchEnv} {batchSize : Nat}
    (hcommits : Commits env batchSize db) (hstart : NothingSkipped db) :
    NothingSkipped (settleDb env (picked env batchSize db) db)
      ↔ ∀ outboxId ∈ picked env batchSize db, ∀ marked, env.dispatch outboxId ≠ .raises marked := by
  rw [nothingSkipped_iff] at hstart
  rw [nothingSkipped_iff, settleDb_rows, List.forall_mem_map]
  constructor
  · intro h outboxId hpicked marked hraises
    obtain ⟨event, hevent, rfl⟩ := List.mem_map.mp hpicked
    have hstatus := h event (mem_getPendingEvents hevent).1
    rw [settleEvents, if_pos hpicked, settled_status_of_raises hraises] at hstatus
    exact absurd hstatus (by decide)
  · intro h event hevent
    rw [settleEvents]
    by_cases hpicked : event.outboxId ∈ picked env batchSize db
    · rw [if_pos hpicked, settled]
      cases hdispatch : env.dispatch event.outboxId with
      | returns => exact .inl rfl
      | raises marked => exact absurd hdispatch (h _ hpicked marked)
      | losesSession => exact absurd hdispatch (hcommits.2.2 _ hpicked)
    · rw [if_neg hpicked]
      exact hstart event hevent

/-- **From a table with nothing skipped a call skips an event exactly when it
    commits a failed dispatch.** -/
theorem nothingSkipped_outboxStep (hstart : NothingSkipped db) (call : OutboxCall) :
    NothingSkipped (outboxStep db call).2 ↔ ¬ CommitsFailedDispatch db call := by
  cases call with
  | createEvent env eventType aggregateType aggregateId payload outboxId commits =>
      refine iff_of_true ?_ not_false
      rw [outboxStep]
      rcases createStep_cases env eventType aggregateType aggregateId payload outboxId commits db
        with hnone | ⟨event, after, hpending, hstep, hrows⟩
      · rw [hnone]
        exact hstart
      · rw [nothingSkipped_iff] at hstart
        rw [hstep, nothingSkipped_iff, hrows, List.forall_mem_append, List.forall_mem_singleton]
        exact ⟨hstart, .inr hpending⟩
  | processBatch env batchSize =>
      rw [outboxStep, CommitsFailedDispatch]
      by_cases hcommits : Commits env batchSize db
      · rw [processBatch_of_commits hcommits, nothingSkipped_settleDb hcommits hstart,
          and_iff_right hcommits]
        push Not
        rfl
      · rw [processBatch_of_not_commits hcommits]
        exact iff_of_true hstart fun h => hcommits h.1

/-! ## Runs -/

/-- **After a run the table holds what it held and what was created.** -/
theorem outboxIds_exec (db : Database) (calls : List OutboxCall) :
    outboxIds (exec outboxStep db calls)
      = outboxIds db ++ createdIds (steps outboxStep db calls) := by
  induction calls generalizing db with
  | nil => exact (List.append_nil _).symm
  | cons call calls ih =>
      rw [exec_cons, ih, outboxIds_outboxStep, List.append_assoc, steps_cons, createdIds,
        createdIds, List.filterMap_cons, stepAt_out]
      cases (outboxStep db call).1 <;> rfl

theorem forall_prefix_nothingSkipped_iff (hstart : NothingSkipped db) (calls : List OutboxCall) :
    (∀ past, past <+: calls → NothingSkipped (exec outboxStep db past))
      ↔ ∀ c ∈ steps outboxStep db calls, NothingSkipped c.post := by
  constructor
  · intro h c hc
    obtain ⟨past, call, rest, rfl, rfl⟩ := mem_steps_iff.mp hc
    have hreached := h (past ++ [call]) ⟨rest, by rw [List.append_assoc]; rfl⟩
    rw [exec_append] at hreached
    exact hreached
  · intro h past hpast
    rcases List.eq_nil_or_concat past with rfl | ⟨before, call, rfl⟩
    · exact hstart
    · obtain ⟨rest, rfl⟩ := hpast
      rw [List.concat_eq_append, List.append_assoc] at h
      rw [List.concat_eq_append, exec_append]
      exact h _ (mem_steps_iff.mpr ⟨before, call, rest, rfl, rfl⟩)

/-- **The delivery law**: from a table with nothing skipped, every event that was
    there or is created in a run is at all times dispatched or eligible exactly
    when no batch of the run commits a failed dispatch. -/
theorem delivery_law (hstart : NothingSkipped db) (calls : List OutboxCall) :
    (∀ past, past <+: calls → ∀ outboxId ∈ outboxIds db ++ createdIds (steps outboxStep db past),
        DispatchedOrEligible (exec outboxStep db past) outboxId)
      ↔ ∀ c ∈ steps outboxStep db calls, ¬ CommitsFailedDispatch c.pre c.act := by
  have hknown : ∀ past, (∀ outboxId ∈ outboxIds db ++ createdIds (steps outboxStep db past),
      DispatchedOrEligible (exec outboxStep db past) outboxId)
        ↔ NothingSkipped (exec outboxStep db past) := by
    intro past
    rw [← outboxIds_exec]
    rfl
  simp only [hknown]
  rw [forall_prefix_nothingSkipped_iff hstart]
  -- a step out of a table with nothing skipped keeps it so or is the first that fails
  exact forall_steps_iff (I := NothingSkipped)
    (fun s call hs => nothingSkipped_outboxStep hs call)
    (fun s call hs hgood => (nothingSkipped_outboxStep hs call).mpr hgood) hstart calls

namespace Sample

def emptyDb : Database := ⟨.empty, .empty, .empty⟩

theorem nothingSkipped_emptyDb : NothingSkipped emptyDb :=
  fun _ hnone => absurd hnone List.not_mem_nil

def created : OutboxCall :=
  .createEvent ⟨0, "att", "evt", "UNIQUE constraint failed"⟩ "PAYMENT_COMMITTED" "TRANSACTION"
    "tx_1" (.obj [("transaction_id", .str "tx_1")]) (some "outbox_1") true

def batch (outcome : DispatchOutcome) : OutboxBatchEnv where
  databaseActive := true
  order := tableOrder
  dispatch := fun _ => outcome
  now := fun _ => 60
  dispatchError := .valueError "broker unavailable"
  sessionError := .valueError "server closed the connection unexpectedly"
  commitRaises := false

def failingOnce : List OutboxCall :=
  [created, .processBatch (batch (.raises false)) 50, .processBatch (batch .returns) 50]

def healthy : List OutboxCall := [created, .processBatch (batch .returns) 50]

theorem status_failingOnce :
    (exec outboxStep emptyDb failingOnce).outboxEvents.rows.map OutboxEventRow.status
      = ["FAILED"] := by
  decide

end Sample

/-- One failed dispatch, and the event is never read again. -/
theorem failed_dispatch_skips_event :
    ¬ ∀ (db : Database) (calls : List OutboxCall), NothingSkipped db →
      ∀ past, past <+: calls →
        ∀ outboxId ∈ outboxIds db ++ createdIds (steps outboxStep db past),
          DispatchedOrEligible (exec outboxStep db past) outboxId := by
  intro h
  have hcreated : "outbox_1" ∈ outboxIds Sample.emptyDb
      ++ createdIds (steps outboxStep Sample.emptyDb Sample.failingOnce) := by
    decide
  obtain ⟨event, hevent, -, hstatus⟩ := h Sample.emptyDb Sample.failingOnce
    Sample.nothingSkipped_emptyDb Sample.failingOnce (List.prefix_refl _) _ hcreated
  have hfailed : event.status ∈ ["FAILED"] := by
    rw [← Sample.status_failingOnce]
    exact List.mem_map_of_mem hevent
  rw [eligible_iff hevent, List.mem_singleton.mp hfailed] at hstatus
  exact absurd hstatus (by decide)

/-- Without a failed dispatch the event is delivered. -/
theorem healthy_batch_delivers :
    DispatchedOrEligible (exec outboxStep Sample.emptyDb Sample.healthy) "outbox_1" := by
  have hcreated : "outbox_1" ∈ outboxIds Sample.emptyDb
      ++ createdIds (steps outboxStep Sample.emptyDb Sample.healthy) := by
    decide
  refine (delivery_law Sample.nothingSkipped_emptyDb Sample.healthy).mpr ?_ Sample.healthy
    (List.prefix_refl _) "outbox_1" hcreated
  intro c hc
  rw [Sample.healthy, steps_cons, steps_cons, steps_nil, List.mem_cons, List.mem_singleton] at hc
  rcases hc with rfl | rfl
  · exact not_false
  · rintro ⟨-, _, -, marked, hraises⟩
    cases hraises

end MandateGateway.OutboxWorker
