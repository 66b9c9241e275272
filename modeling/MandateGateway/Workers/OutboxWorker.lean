import MandateGateway.Db.OutboxRepository
import MandateGateway.Lib.RaisingLoop

/-! # The outbox worker

    A batch reads pending events, dispatches one after the other and commits.  An
    event whose dispatch raises is marked FAILED, and no scan reads it again.  A
    batch that commits settles every event it picked (`processBatch_of_commits`),
    any other leaves the table alone. -/

namespace MandateGateway

open Clock Raising OutboxRepository

/-- How the block that dispatches one event ends: it returns, it raises, before
    or after the event has been marked, or the session is lost in it. -/
inductive DispatchOutcome where
  | returns
  | raises (marked : Bool)
  | losesSession
deriving DecidableEq

/-- What a batch receives from the process and the database. -/
structure OutboxBatchEnv where
  databaseActive : Bool
  order          : ScanOrder
  dispatch       : String → DispatchOutcome
  now            : String → Instant
  dispatchError  : PyError
  sessionError   : PyError
  commitRaises   : Bool

namespace OutboxWorker

/-- The block under `try`. -/
def tryDispatch (env : OutboxBatchEnv) (outboxId : String) : DbAction Unit :=
  match env.dispatch outboxId with
  | .returns => do
      let _ ← markDispatched (env.now outboxId) outboxId
      pure ()
  | .raises false => raise env.dispatchError
  | .raises true => do
      let _ ← markDispatched (env.now outboxId) outboxId
      raise env.dispatchError
  | .losesSession => raise env.sessionError

/-- The handler: on a session that is lost, `mark_failed` raises as well. -/
def recordFailure (env : OutboxBatchEnv) (outboxId : String) : DbAction Nat :=
  if env.dispatch outboxId = .losesSession then raise env.sessionError
  else do
    let _ ← markFailed outboxId
    pure 0

/-- One event, and whether it counts as processed. -/
def dispatchEvent (env : OutboxBatchEnv) (event : OutboxEventRow) : DbAction Nat :=
  handle (do
    tryDispatch env event.outboxId
    pure 1) fun _ => recordFailure env event.outboxId

/-- The loop over the events. -/
def dispatchEvents (env : OutboxBatchEnv) : List OutboxEventRow → DbAction Nat
  | [] => pure 0
  | event :: events => do
      let processed ← dispatchEvent env event
      let rest ← dispatchEvents env events
      pure (processed + rest)

/-- `process_batch`: the answer, and what is committed afterwards. -/
def processBatch (env : OutboxBatchEnv) (batchSize : Nat) (db : Database) :
    Except PyError Nat × Database :=
  if env.databaseActive = false then (.ok 0, db)
  else
    match getPendingEvents env.order batchSize db with
    | [] => (.ok 0, db)
    | event :: events =>
        match dispatchEvents env (event :: events) ⟨db, db⟩ with
        -- the block is left by a raise: the unit of work is rolled back
        | (.error err, uow) => (.error err, uow.committed)
        | (.ok processed, uow) =>
            if env.commitRaises then (.error env.sessionError, uow.committed)
            else (.ok processed, uow.session)

/-! ## What a batch does -/

/-- The event after its dispatch. -/
def settled (env : OutboxBatchEnv) (event : OutboxEventRow) : OutboxEventRow :=
  match env.dispatch event.outboxId with
  | .returns => dispatched (env.now event.outboxId) event
  | .raises false => failed event
  | .raises true => failed (dispatched (env.now event.outboxId) event)
  | .losesSession => event

theorem settled_outboxId (env : OutboxBatchEnv) (event : OutboxEventRow) :
    (settled env event).outboxId = event.outboxId := by
  rw [settled]
  split <;> rfl

theorem settled_status_of_raises {env : OutboxBatchEnv} {event : OutboxEventRow} {marked : Bool}
    (h : env.dispatch event.outboxId = .raises marked) :
    (settled env event).status = "FAILED" := by
  rw [settled, h]
  cases marked <;> rfl

/-- The table after these events have been dispatched. -/
def settleEvents (env : OutboxBatchEnv) (ids : List String) (r : OutboxEventRow) : OutboxEventRow :=
  if r.outboxId ∈ ids then settled env r else r

theorem settleEvents_outboxId (env : OutboxBatchEnv) (ids : List String) (r : OutboxEventRow) :
    (settleEvents env ids r).outboxId = r.outboxId := by
  rw [settleEvents]
  split
  · exact settled_outboxId env r
  · rfl

/-- The database with these events settled. -/
def settleDb (env : OutboxBatchEnv) (ids : List String) (db : Database) : Database :=
  let events := db.outboxEvents.mapRows (settleEvents env ids) (settleEvents_outboxId env ids)
  { db with outboxEvents := events }

theorem settleDb_rows (env : OutboxBatchEnv) (ids : List String) (db : Database) :
    (settleDb env ids db).outboxEvents.rows
      = db.outboxEvents.rows.map (settleEvents env ids) :=
  rfl

theorem settleDb_outboxIds (env : OutboxBatchEnv) (ids : List String) (db : Database) :
    (settleDb env ids db).outboxEvents.rows.map OutboxEventRow.outboxId
      = db.outboxEvents.rows.map OutboxEventRow.outboxId := by
  rw [settleDb_rows, List.map_map]
  exact List.map_congr_left fun r _ => settleEvents_outboxId env ids r

theorem database_ext {db db' : Database} (htransactions : db.transactions = db'.transactions)
    (hattempts : db.executionAttempts = db'.executionAttempts)
    (hevents : db.outboxEvents.rows = db'.outboxEvents.rows) : db = db' := by
  cases db
  cases db'
  cases htransactions
  cases hattempts
  cases Table.ext_rows hevents
  rfl

theorem settleDb_nil (env : OutboxBatchEnv) (db : Database) : settleDb env [] db = db := by
  refine database_ext rfl rfl ?_
  rw [settleDb_rows]
  exact List.map_id'' (fun r => if_neg List.not_mem_nil) _

theorem settleDb_cons (env : OutboxBatchEnv) {outboxId : String} {ids : List String}
    (hfresh : outboxId ∉ ids) (db : Database) :
    settleDb env ids (settleDb env [outboxId] db) = settleDb env (outboxId :: ids) db := by
  refine database_ext rfl rfl ?_
  rw [settleDb_rows, settleDb_rows, settleDb_rows, List.map_map]
  refine List.map_congr_left fun r _ => ?_
  by_cases hself : r.outboxId = outboxId
  · have hrest : (settleEvents env [outboxId] r).outboxId ∉ ids := by
      rw [settleEvents_outboxId, hself]
      exact hfresh
    rw [Function.comp_apply, settleEvents, if_neg hrest, settleEvents, settleEvents,
      if_pos (List.mem_singleton.mpr hself), if_pos (List.mem_cons.mpr (.inl hself))]
  · have hkept : settleEvents env [outboxId] r = r :=
      if_neg fun hmem => hself (List.mem_singleton.mp hmem)
    have hmem : r.outboxId ∈ outboxId :: ids ↔ r.outboxId ∈ ids := by
      rw [List.mem_cons]
      exact or_iff_right hself
    rw [Function.comp_apply, hkept, settleEvents, settleEvents, if_congr hmem rfl rfl]

variable {env : OutboxBatchEnv} {uow : UnitOfWork}

theorem withRecord_eq_settleDb {outboxId : String} {f : OutboxEventRow → OutboxEventRow}
    (hf : ∀ r, (f r).outboxId = r.outboxId)
    (hsettled : ∀ r : OutboxEventRow, r.outboxId = outboxId → f r = settled env r)
    (db : Database) :
    withRecord outboxId f hf db = settleDb env [outboxId] db := by
  refine database_ext rfl rfl (List.map_congr_left fun r _ => ?_)
  rw [settleEvents]
  by_cases hself : r.outboxId = outboxId
  · rw [if_pos hself, if_pos (List.mem_singleton.mpr hself), hsettled r hself]
  · rw [if_neg hself, if_neg fun hmem => hself (List.mem_singleton.mp hmem)]

theorem dispatchEvent_of_raised {event : OutboxEventRow} {err : PyError} {after : UnitOfWork}
    (hstored : event.outboxId ∈ after.session.outboxEvents.rows.map OutboxEventRow.outboxId)
    (husable : env.dispatch event.outboxId ≠ .losesSession)
    (htried : tryDispatch env event.outboxId uow = (.error err, after)) :
    dispatchEvent env event uow = (.ok 0,
      ⟨withRecord event.outboxId failed failed_outboxId after.session, after.committed⟩) := by
  obtain ⟨_, hmarked⟩ := setRecord_of_stored failed_outboxId hstored
  have hraised : (tryDispatch env event.outboxId >>= fun _ => pure 1) uow
      = (.error err, after) := bind_of_error htried
  rw [dispatchEvent, handle_of_error hraised, recordFailure, if_neg husable]
  exact bind_of_ok hmarked

theorem dispatchEvent_of_usable {event : OutboxEventRow}
    (hstored : event.outboxId ∈ uow.session.outboxEvents.rows.map OutboxEventRow.outboxId)
    (husable : env.dispatch event.outboxId ≠ .losesSession) :
    ∃ processed, dispatchEvent env event uow = (.ok processed,
      ⟨settleDb env [event.outboxId] uow.session, uow.committed⟩) := by
  obtain ⟨_, hmarked⟩ := setRecord_of_stored (dispatched_outboxId (env.now event.outboxId)) hstored
  cases hdispatch : env.dispatch event.outboxId with
  | losesSession => exact absurd hdispatch husable
  | returns =>
      have htried : tryDispatch env event.outboxId uow = (.ok (),
          ⟨withRecord event.outboxId (dispatched (env.now event.outboxId))
            (dispatched_outboxId (env.now event.outboxId)) uow.session, uow.committed⟩) := by
        rw [tryDispatch, hdispatch]
        exact bind_of_ok hmarked
      have hsettled : ∀ r : OutboxEventRow, r.outboxId = event.outboxId →
          dispatched (env.now event.outboxId) r = settled env r := by
        intro r hr
        rw [settled, hr, hdispatch]
      refine ⟨1, handle_of_ok ?_⟩
      rw [bind_of_ok htried, withRecord_eq_settleDb _ hsettled]
      rfl
  | raises marked =>
      cases marked with
      | false =>
          have htried : tryDispatch env event.outboxId uow = (.error env.dispatchError, uow) := by
            rw [tryDispatch, hdispatch]
            rfl
          have hsettled : ∀ r : OutboxEventRow, r.outboxId = event.outboxId →
              failed r = settled env r := by
            intro r hr
            rw [settled, hr, hdispatch]
          refine ⟨0, ?_⟩
          rw [dispatchEvent_of_raised hstored husable htried, withRecord_eq_settleDb _ hsettled]
      | true =>
          -- the mark is flushed and then overwritten by the handler's
          have htried : tryDispatch env event.outboxId uow
              = (.error env.dispatchError,
                ⟨withRecord event.outboxId (dispatched (env.now event.outboxId))
                  (dispatched_outboxId (env.now event.outboxId)) uow.session,
                uow.committed⟩) := by
            rw [tryDispatch, hdispatch]
            exact bind_of_ok hmarked
          have hsettled : ∀ r : OutboxEventRow, r.outboxId = event.outboxId →
              failed (dispatched (env.now event.outboxId) r) = settled env r := by
            intro r hr
            rw [settled, hr, hdispatch]
          refine ⟨0, ?_⟩
          rw [dispatchEvent_of_raised (by rw [withRecord_outboxIds]; exact hstored) husable htried,
            withRecord_withRecord, withRecord_eq_settleDb _ hsettled]

theorem dispatchEvent_of_lost {event : OutboxEventRow}
    (hlost : env.dispatch event.outboxId = .losesSession) :
    dispatchEvent env event uow = (.error env.sessionError, uow) := by
  have htried : (tryDispatch env event.outboxId >>= fun _ => pure 1) uow
      = (.error env.sessionError, uow) := by
    rw [tryDispatch, hlost]
    rfl
  rw [dispatchEvent, handle_of_error htried, recordFailure, if_pos hlost]
  rfl

/-- **A loop over usable events settles all of them.** -/
theorem dispatchEvents_of_usable {events : List OutboxEventRow}
    (hnodup : (events.map OutboxEventRow.outboxId).Nodup)
    (hstored : ∀ event ∈ events,
      event.outboxId ∈ uow.session.outboxEvents.rows.map OutboxEventRow.outboxId)
    (husable : ∀ event ∈ events, env.dispatch event.outboxId ≠ .losesSession) :
    ∃ processed, dispatchEvents env events uow = (.ok processed,
      ⟨settleDb env (events.map OutboxEventRow.outboxId) uow.session, uow.committed⟩) := by
  induction events generalizing uow with
  | nil =>
      refine ⟨0, ?_⟩
      rw [List.map_nil, settleDb_nil]
      rfl
  | cons event events ih =>
      rw [List.forall_mem_cons] at hstored husable
      rw [List.map_cons, List.nodup_cons] at hnodup
      obtain ⟨one, hone⟩ := dispatchEvent_of_usable hstored.1 husable.1
      obtain ⟨rest, hrest⟩ := @ih
        ⟨settleDb env [event.outboxId] uow.session, uow.committed⟩ hnodup.2
        (by rw [settleDb_outboxIds]; exact hstored.2) husable.2
      refine ⟨one + rest, ?_⟩
      rw [dispatchEvents, bind_of_ok hone, bind_of_ok hrest, settleDb_cons env hnodup.1]
      rfl

theorem dispatchEvents_of_lost {events : List OutboxEventRow}
    (hstored : ∀ event ∈ events,
      event.outboxId ∈ uow.session.outboxEvents.rows.map OutboxEventRow.outboxId)
    (hlost : ∃ event ∈ events, env.dispatch event.outboxId = .losesSession) :
    ∃ err after, dispatchEvents env events uow = (.error err, after)
      ∧ after.committed = uow.committed := by
  induction events generalizing uow with
  | nil =>
      obtain ⟨_, hnone, -⟩ := hlost
      exact absurd hnone List.not_mem_nil
  | cons event events ih =>
      rw [List.forall_mem_cons] at hstored
      rw [dispatchEvents]
      by_cases hfirst : env.dispatch event.outboxId = .losesSession
      · exact ⟨_, uow, bind_of_error (dispatchEvent_of_lost hfirst), rfl⟩
      · obtain ⟨one, hone⟩ := dispatchEvent_of_usable hstored.1 hfirst
        obtain ⟨lost, hmem, hlost⟩ := hlost
        have hlater : lost ∈ events := by
          rcases List.mem_cons.mp hmem with rfl | hmem
          · exact absurd hlost hfirst
          · exact hmem
        obtain ⟨err, after, hrest, hcommitted⟩ := @ih
          ⟨settleDb env [event.outboxId] uow.session, uow.committed⟩
          (by rw [settleDb_outboxIds]; exact hstored.2) ⟨lost, hlater, hlost⟩
        refine ⟨err, after, ?_, hcommitted⟩
        rw [bind_of_ok hone, bind_of_error hrest]

def picked (env : OutboxBatchEnv) (batchSize : Nat) (db : Database) : List String :=
  (getPendingEvents env.order batchSize db).map OutboxEventRow.outboxId

/-- The batch reaches its commit, and the commit goes through. -/
def Commits (env : OutboxBatchEnv) (batchSize : Nat) (db : Database) : Prop :=
  env.databaseActive = true ∧ env.commitRaises = false
    ∧ ∀ outboxId ∈ picked env batchSize db, env.dispatch outboxId ≠ .losesSession

variable {batchSize : Nat} {db : Database}

theorem stored_of_picked {event : OutboxEventRow}
    (h : event ∈ getPendingEvents env.order batchSize db) :
    event.outboxId ∈ db.outboxEvents.rows.map OutboxEventRow.outboxId :=
  List.mem_map_of_mem (mem_getPendingEvents h).1

/-- **A batch that commits settles what it picked.** -/
theorem processBatch_of_commits (h : Commits env batchSize db) :
    (processBatch env batchSize db).2 = settleDb env (picked env batchSize db) db := by
  obtain ⟨hactive, hcommit, husable⟩ := h
  rw [picked, List.forall_mem_map] at husable
  have hinactive : ¬ env.databaseActive = false := by
    rw [hactive]
    exact Bool.noConfusion
  have hdispatched : ∃ processed, dispatchEvents env (getPendingEvents env.order batchSize db)
      ⟨db, db⟩ = (.ok processed, ⟨settleDb env (picked env batchSize db) db, db⟩) :=
    dispatchEvents_of_usable (nodup_getPendingEvents env.order batchSize db)
      (fun _ => stored_of_picked) husable
  obtain ⟨processed, hloop⟩ := hdispatched
  rw [picked] at hloop
  rw [processBatch, if_neg hinactive, picked]
  cases hpending : getPendingEvents env.order batchSize db with
  | nil =>
      rw [List.map_nil, settleDb_nil]
  | cons event events =>
      rw [hpending] at hloop
      simp only [hloop, hcommit]
      rfl

/-- **Any other batch leaves the database alone.** -/
theorem processBatch_of_not_commits (h : ¬ Commits env batchSize db) :
    (processBatch env batchSize db).2 = db := by
  rw [processBatch]
  by_cases hinactive : env.databaseActive = false
  · rw [if_pos hinactive]
  rw [if_neg hinactive]
  cases hpending : getPendingEvents env.order batchSize db with
  | nil => rfl
  | cons event events =>
      have hstored : ∀ e ∈ event :: events, e.outboxId
          ∈ (⟨db, db⟩ : UnitOfWork).session.outboxEvents.rows.map OutboxEventRow.outboxId := by
        rw [← hpending]
        exact fun _ => stored_of_picked
      by_cases hlost : ∃ e ∈ event :: events, env.dispatch e.outboxId = .losesSession
      · obtain ⟨err, after, hloop, hcommitted⟩ := dispatchEvents_of_lost hstored hlost
        simp only [hloop]
        exact hcommitted
      · have husable : ∀ e ∈ event :: events, env.dispatch e.outboxId ≠ .losesSession :=
          fun e he hlose => hlost ⟨e, he, hlose⟩
        have hnodup := nodup_getPendingEvents env.order batchSize db
        rw [hpending] at hnodup
        obtain ⟨processed, hloop⟩ := dispatchEvents_of_usable hnodup hstored husable
        have hraises : env.commitRaises = true := by
          by_contra hcommit
          refine h ⟨by simpa using hinactive, by simpa using hcommit, ?_⟩
          rw [picked, hpending, List.forall_mem_map]
          exact husable
        simp only [hloop, hraises]
        rfl

end OutboxWorker

end MandateGateway
