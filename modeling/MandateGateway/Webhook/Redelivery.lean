import MandateGateway.Lib.Runs
import MandateGateway.Webhook.Delivery

/-! # Delivering a refused event again

    In the session a refused event stays registered, but the route commits
    successes only: a refusal leaves the store as it was, and an event counts as
    a duplicate only once a delivery of it has been accepted
    (`not_registered_of_missed`).  So the same signed event, delivered again
    when what refused it is gone, is processed, provided that its timestamp is
    still in the window (`refused_event_processed_later`).  One that comes back
    later than that is refused for good (`late_redelivery_refused`). -/

namespace MandateGateway

open Runs

namespace WebhookEngine

/-- What happens to the store: a delivery through the route, or anything that
    another part of the program does; the events are this engine's alone. -/
inductive StoreAction where
  | deliver (env : WebhookEnv) (call : WebhookCall)
  | elsewhere (db : Database) (ledger : AuditLedger) (mandates : MandateTable)

/-- One action, with the answer when it is a delivery. -/
def routeStep (engine : WebhookEngine) (s : WebhookStore) :
    StoreAction → Option Answer × WebhookStore
  | .deliver env call =>
      let delivered := engine.deliver accepted env call s
      (some delivered.1, delivered.2)
  | .elsewhere db ledger mandates => (none, ⟨db, ledger, mandates, s.events⟩)

def AcceptsEvent (eventId : String) (c : Step WebhookStore StoreAction (Option Answer)) : Prop :=
  ∃ result, c.out = some (.ok result) ∧ result.success = true ∧ result.eventId = eventId

/-- The payload is dated inside the window, or not dated. -/
def Timely (env : WebhookEnv) (call : WebhookCall) : Prop :=
  ∃ payload, parsePayload call.rawPayload = some payload
    ∧ InWindow (call.now?.getD env.now) payload

structure SameEvent (call call' : WebhookCall) : Prop where
  rawPayload : call'.rawPayload = call.rawPayload
  signature  : call'.signature = call.signature
  eventId    : call'.eventId = call.eventId

section
variable {engine : WebhookEngine} {env env' : WebhookEnv} {call call' : WebhookCall}
  {s : WebhookStore} {e : ProviderEvent}

/-- The same event means the same at another time that is in the window. -/
theorem SameEvent.inspect (h : SameEvent call call')
    (hevent : engine.inspect env call = .ok (.inr e)) (htimely : Timely env' call') :
    engine.inspect env' call' = .ok (.inr e) := by
  obtain ⟨hverify, payload, hparse, hnames, -⟩ := inspect_eq_event_iff.mp hevent
  obtain ⟨payload', hparse', hwindow⟩ := htimely
  rw [h.rawPayload] at hparse'
  obtain rfl := Option.some.inj (hparse.symm.trans hparse')
  refine inspect_eq_event_iff.mpr ⟨?_, payload, ?_, ?_, hwindow⟩
  · rw [h.rawPayload, h.signature]
    exact hverify
  · rw [h.rawPayload]
    exact hparse
  · rw [h.eventId]
    exact hnames

/-! ## Refusals and acceptances -/

/-- **A refused delivery leaves the store as it was.** -/
theorem deliver_of_refused (h : accepted (engine.deliver accepted env call s).1 = false) :
    (engine.deliver accepted env call s).2 = s := by
  obtain ⟨after, -, hstored⟩ := deliver_outcome engine env call s accepted
  rw [hstored, h]
  rfl

theorem judge_answer {u : WebhookUnitOfWork} {result : WebhookProcessingResult}
    (h : judge e u = .ok (.inl result)) :
    result.eventId = e.eventId ∧ result.isDuplicate = false := by
  obtain ⟨_, hanswer, hnames⟩ | ⟨row, current, target, hanswer, -⟩ := judge_cases h
  · obtain rfl := Sum.inl.inj hanswer
    exact hnames
  · cases hanswer

variable (engine env call) in
theorem events_of_deliver {eventId : String} (hfree : s.events.get eventId = none) :
    (engine.deliver accepted env call s).2.events.get eventId = none
      ∨ ∃ result, (engine.deliver accepted env call s).1 = .ok result
        ∧ result.success = true ∧ result.eventId = eventId := by
  obtain ⟨after, houtcome, hstored⟩ := deliver_outcome engine env call s accepted
  rw [hstored]
  generalize (engine.deliver accepted env call s).1 = answer at houtcome
  by_cases hcommits : accepted answer = true
  swap
  · rw [if_neg hcommits]
    exact .inl hfree
  rw [if_pos hcommits]
  have hinserted {e : ProviderEvent} {events : WebhookTable}
      (hnew : s.events.insert (engine.eventRow env call.rawPayload e) = some events)
      (hevent : engine.inspect env call = .ok (.inr e)) (hne : e.eventId ≠ eventId) :
      events.get eventId = none := by
    obtain ⟨-, payload, -, hnames, -⟩ := inspect_eq_event_iff.mp hevent
    rw [Table.get_insert hnew, eventRow_eventId hnames, if_neg (Ne.symm hne)]
    exact hfree
  cases houtcome with
  | raised err => exact .inl hfree
  | refused hinspect => exact .inl hfree
  | duplicate hevent hpresent => exact .inl hfree
  | @judged e events answer hevent hnew hanswer =>
      by_cases hsame : e.eventId = eventId
      · cases answer with
        | error err => cases hcommits
        | ok result =>
            exact .inr ⟨result, rfl, hcommits, (judge_answer (hanswer result rfl)).1.trans hsame⟩
      · exact .inl (hinserted hnew hevent hsame)
  | @applied e dbTx current target ledger events hevent hnew happlies hlegal =>
      by_cases hsame : e.eventId = eventId
      · exact .inr ⟨_, rfl, rfl, hsame⟩
      · exact .inl (hinserted hnew hevent hsame)

/-- **An event that no delivery accepts does not become a duplicate.** -/
theorem not_registered_of_missed {eventId : String} (hfree : s.events.get eventId = none)
    {actions : List StoreAction}
    (hmissed : ∀ c ∈ steps (routeStep engine) s actions, ¬ AcceptsEvent eventId c) :
    (exec (routeStep engine) s actions).events.get eventId = none := by
  refine exec_inv_of_steps (I := fun s => s.events.get eventId = none) ?_ hfree hmissed
  intro s a hfree hnot
  cases a with
  | elsewhere db ledger mandates => exact hfree
  | deliver env call =>
      rcases events_of_deliver engine env call hfree with
        hnone | ⟨result, hanswer, hsuccess, hid⟩
      · exact hnone
      · exact absurd ⟨result, congrArg some hanswer, hsuccess, hid⟩ hnot

/-! ## The redelivery -/

/-- The store when a delivery has been made and these actions have followed. -/
def afterwards (engine : WebhookEngine) (env : WebhookEnv) (call : WebhookCall)
    (s : WebhookStore) (actions : List StoreAction) : WebhookStore :=
  exec (routeStep engine) (engine.deliver accepted env call s).2 actions

theorem new_of_refused (hevent : engine.inspect env call = .ok (.inr e))
    (hrefused : accepted (engine.deliver accepted env call s).1 = false) :
    s.events.get e.eventId = none := by
  cases hget : s.events.get e.eventId with
  | none => rfl
  | some row =>
      have hrun := asyncProcessWebhook_of_duplicate (u := s.beginUnit) hevent hget
      rw [deliver, hrun] at hrefused
      cases hrefused

theorem not_duplicate_of_new (hevent : engine.inspect env call = .ok (.inr e))
    (hnew : s.events.get e.eventId = none) {result : WebhookProcessingResult}
    (h : (engine.deliver accepted env call s).1 = .ok result) : result.isDuplicate = false := by
  obtain ⟨after, houtcome, -⟩ := deliver_outcome engine env call s accepted
  rw [h] at houtcome
  cases houtcome with
  | refused hinspect =>
      rw [hevent] at hinspect
      cases hinspect
  | duplicate hevent' hpresent =>
      obtain rfl := Sum.inr.inj (Except.ok.inj (hevent.symm.trans hevent'))
      rw [hnew] at hpresent
      cases hpresent
  | judged hevent' hinsert hanswer => exact (judge_answer (hanswer result rfl)).2
  | applied hevent' hinsert happlies hlegal => rfl

/-- **A refused event is not consumed.**  The refusal changes nothing; and when
    no delivery of the event has been accepted in between, the same signed
    event in its window is no duplicate, and is processed if it applies to its
    transaction by a legal move whose audit event can be stored. -/
theorem refused_event_processed_later (hevent : engine.inspect env call = .ok (.inr e))
    (hrefused : accepted (engine.deliver accepted env call s).1 = false)
    {actions : List StoreAction}
    (hmissed : ∀ c ∈ steps (routeStep engine) (engine.deliver accepted env call s).2 actions,
      ¬ AcceptsEvent e.eventId c)
    (hsame : SameEvent call call') (htimely : Timely env' call') :
    (engine.deliver accepted env call s).2 = s
    ∧ (∀ result, (engine.deliver accepted env' call' (afterwards engine env call s actions)).1
        = .ok result → result.isDuplicate = false)
    ∧ ∀ dbTx current target,
      Applies e (afterwards engine env call s actions).beginUnit dbTx current target →
      target ∈ current.legalNextStates →
      (afterwards engine env call s actions).ledger.Accepts
        (engine.audit env' (auditId e.eventId)) (auditEntry e dbTx target) →
      (engine.deliver accepted env' call' (afterwards engine env call s actions)).1
        = .ok (processed e target)
      ∧ stateIn (engine.deliver accepted env' call' (afterwards engine env call s actions)).2.db
        e.transactionId = some target.value := by
  have hunchanged := deliver_of_refused hrefused
  have hagain := hsame.inspect hevent htimely
  have hnew : (afterwards engine env call s actions).events.get e.eventId = none := by
    refine not_registered_of_missed ?_ hmissed
    rw [hunchanged]
    exact new_of_refused hevent hrefused
  refine ⟨hunchanged, fun result h => not_duplicate_of_new hagain hnew h, ?_⟩
  intro dbTx current target happlies hlegal haccepts
  obtain ⟨u, hrun, hdb, -⟩ := run_of_applies hagain hnew happlies hlegal haccepts
  rw [deliver, hrun]
  refine ⟨rfl, ?_⟩
  show stateIn u.saved.db e.transactionId = some target.value
  rw [hdb]
  exact stateIn_moved env'.db target happlies.row

end

/-! ## A payment event that is ahead of its transaction -/

namespace Sample

theorem deliver_early :
    (engine.deliver accepted (env 5) firstCall (store Table.empty)).1
      = .ok (notFound firstEvent) := by
  obtain ⟨events, -, hrun⟩ := asyncProcessWebhook_of_new
    (u := (store Table.empty).beginUnit) (inspect_firstCall 5 (by decide)) rfl
  rw [deliver, hrun]
  rfl

def firstRow : TransactionRow := row "tx_20240101_0001"

def created : List StoreAction :=
  [.elsewhere ⟨Table.singleton firstRow, Table.empty, Table.empty⟩ AuditLedger.empty Table.empty]

def afterCreated : WebhookStore :=
  afterwards engine (env 5) firstCall (store Table.empty) created

theorem applies_created :
    Applies firstEvent afterCreated.beginUnit firstRow .executing .committed := by
  refine ⟨rfl, .inr rfl, rfl, ?_, by decide, by decide⟩
  intro hrevoked
  cases hrevoked

theorem inspectPayload_late :
    inspectPayload (env 600).now firstCall.eventId (Json.value (body "tx_20240101_0001"))
      = .ok (.inl (stale firstEvent.eventId)) := rfl

theorem inspect_late :
    engine.inspect (env 600) firstCall = .ok (.inl (stale firstEvent.eventId)) := by
  have hverified : engine.verifySignature firstCall.rawPayload firstCall.signature = .ok true :=
    verified_first
  have hparsed : parsePayload firstCall.rawPayload
      = some (Json.value (body "tx_20240101_0001")) :=
    parsePayload_compact (body "tx_20240101_0001")
  rw [inspect_of_parsed hverified hparsed]
  exact inspectPayload_late

end Sample

/-- The event comes back ten seconds after the payment. -/
theorem refused_event_processed_later_in_time :
    (Sample.engine.deliver accepted (Sample.env 10) Sample.firstCall Sample.afterCreated).1
      = .ok (processed Sample.firstEvent .committed) := by
  have hrefused : accepted (Sample.engine.deliver accepted (Sample.env 5) Sample.firstCall
      (Sample.store Table.empty)).1 = false := by
    rw [Sample.deliver_early]
    rfl
  have hmissed : ∀ c ∈ steps (routeStep Sample.engine) (Sample.engine.deliver accepted
      (Sample.env 5) Sample.firstCall (Sample.store Table.empty)).2 Sample.created,
      ¬ AcceptsEvent Sample.firstEvent.eventId c := by
    intro c hc
    rw [Sample.created, steps_cons, steps_nil] at hc
    rw [List.mem_singleton.mp hc]
    rintro ⟨result, hout, -⟩
    cases hout
  have htimely : Timely (Sample.env 10) Sample.firstCall :=
    ⟨_, parsePayload_compact _, _, rfl, congrArg Except.ok (by decide)⟩
  exact ((refused_event_processed_later (Sample.inspect_firstCall 5 (by decide)) hrefused hmissed
    ⟨rfl, rfl, rfl⟩ htimely).2.2 _ _ _ Sample.applies_created (by decide)
    ⟨List.not_mem_nil, List.not_mem_nil⟩).1

/-- The event comes back ten minutes after the payment: it is refused for its
    age, and the payment stays EXECUTING. -/
theorem late_redelivery_refused :
    (Sample.engine.deliver accepted (Sample.env 5) Sample.firstCall (Sample.store Table.empty)).1
      = .ok (notFound Sample.firstEvent)
    ∧ Applies Sample.firstEvent Sample.afterCreated.beginUnit Sample.firstRow .executing .committed
    ∧ (Sample.engine.deliver accepted (Sample.env 600) Sample.firstCall Sample.afterCreated).1
      = .ok (stale Sample.firstEvent.eventId)
    ∧ stateIn (Sample.engine.deliver accepted (Sample.env 600) Sample.firstCall
        Sample.afterCreated).2.db Sample.firstEvent.transactionId = some "EXECUTING" := by
  have hinspect := Sample.inspect_late
  have hrun := asyncProcessWebhook_of_refused (u := Sample.afterCreated.beginUnit) hinspect
  have hrefused : accepted (.ok (stale Sample.firstEvent.eventId)) = false := rfl
  have hanswer : (Sample.engine.deliver accepted (Sample.env 600) Sample.firstCall
      Sample.afterCreated).1 = .ok (stale Sample.firstEvent.eventId) := by
    rw [deliver, hrun]
  refine ⟨Sample.deliver_early, Sample.applies_created, hanswer, ?_⟩
  rw [← hanswer] at hrefused
  rw [deliver_of_refused hrefused]
  exact congrArg (Option.map TransactionRow.state) Sample.applies_created.row

end WebhookEngine

end MandateGateway
