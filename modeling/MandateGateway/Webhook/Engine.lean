import MandateGateway.Db.WebhookRepository
import MandateGateway.Webhook.Payload

/-! # The webhook engine

    `async_process_webhook`: the controls before the database, the registration
    of the event, the checks against the stored transaction and its mandate,
    and the transition with its audit event.

    The event is registered before the checks that can refuse it, so in the
    session a refused event stays registered
    (`asyncProcessWebhook_of_new`). -/

namespace MandateGateway

open Clock Raising

/-- A step of the engine. -/
abbrev WebhookAction (α : Type) : Type := Raising WebhookUnitOfWork WebhookError α

namespace WebhookAction

def onEvents {α : Type} (x : WebhookRepository.Action α) : WebhookAction α := fun u =>
  ((x u).1.mapError .raised, (x u).2)

/-- An operation on the other tables; a constraint that it breaks takes the
    registered events back as well. -/
def onAudited {α : Type} (x : AuditedAction α) : WebhookAction α := fun u =>
  ((x u.audited).1.mapError .raised,
    { u with
      audited := (x u.audited).2
      events := if (x u.audited).2.active then u.events else u.committedEvents })

end WebhookAction

namespace WebhookEngine

open WebhookAction

/-! ## The results -/

def acceptance (e : ProviderEvent) (state : Option TransactionState) (isDuplicate : Bool)
    (detail : String) : WebhookProcessingResult where
  success := true
  eventId := e.eventId
  transactionId := some e.transactionId
  state := state
  isDuplicate := isDuplicate
  rejectionReason := none
  rejectionDetail := some detail

def duplicate (e : ProviderEvent) : WebhookProcessingResult :=
  acceptance e none true "Duplicate webhook event identity safely deduplicated."

def notFound (e : ProviderEvent) : WebhookProcessingResult :=
  refusal e.eventId (some e.transactionId) none .invalidTransactionState
    s!"Transaction '{e.transactionId}' not found in persistence store."

def merchantMismatch (e : ProviderEvent) (dbTx : TransactionRow) : WebhookProcessingResult :=
  refusal e.eventId (some e.transactionId) none .merchantMismatch
    (s!"Merchant context mismatch: webhook merchant '{e.merchantId}' "
      ++ s!"!= transaction merchant '{dbTx.merchantId}'.")

def mandateRevoked (e : ProviderEvent) (dbTx : TransactionRow) (current : TransactionState) :
    WebhookProcessingResult :=
  refusal e.eventId (some e.transactionId) (some current) .mandateNotActive
    s!"Mandate '{dbTx.mandateId}' is REVOKED. Event rejected."

def unhandled (e : ProviderEvent) (current : TransactionState) : WebhookProcessingResult :=
  acceptance e (some current) false
    s!"Unhandled event_type '{e.eventType}' ingested without state change."

def overwriteBlocked (e : ProviderEvent) (current target : TransactionState) :
    WebhookProcessingResult :=
  refusal e.eventId (some e.transactionId) (some current) .invalidTransactionState
    (s!"Terminal state overwrite blocked: transaction is in '{current.value}', "
      ++ s!"cannot transition to '{target.value}'.")

def alreadySettled (e : ProviderEvent) (current : TransactionState) : WebhookProcessingResult :=
  acceptance e (some current) false "Transaction already in target terminal state."

def processed (e : ProviderEvent) (target : TransactionState) : WebhookProcessingResult :=
  acceptance e (some target) false s!"Successfully processed webhook event {e.eventId}."

/-! ## The checks against the database -/

def targetState (eventType : String) : Option TransactionState :=
  if eventType ∈ ["payment.authorized", "payment.captured", "order.paid"] then some .committed
  else if eventType ∈ ["payment.failed", "order.failed"] then some .rolledBack
  else none

theorem targetState_settles {eventType : String} {target : TransactionState}
    (h : targetState eventType = some target) : target = .committed ∨ target = .rolledBack := by
  rw [targetState] at h
  by_cases hpaid : eventType ∈ ["payment.authorized", "payment.captured", "order.paid"]
  · rw [if_pos hpaid] at h
    exact .inl (Option.some.inj h).symm
  rw [if_neg hpaid] at h
  by_cases hfailed : eventType ∈ ["payment.failed", "order.failed"]
  · rw [if_pos hfailed] at h
    exact .inr (Option.some.inj h).symm
  · rw [if_neg hfailed] at h
    cases h

/-- A state that no event overwrites. -/
def Protected (s : TransactionState) : Prop :=
  s.isTerminal = true ∨ s = .committed ∨ s = .rolledBack

instance (s : TransactionState) : Decidable (Protected s) :=
  inferInstanceAs (Decidable (_ ∨ _ ∨ _))

def UnderRevoked (mandates : MandateTable) (dbTx : TransactionRow) : Prop :=
  (MandateRepository.getMandate dbTx.mandateId mandates).map MandateModel.status
    = some MandateStatus.revoked.value

instance (mandates : MandateTable) (dbTx : TransactionRow) :
    Decidable (UnderRevoked mandates dbTx) :=
  inferInstanceAs (Decidable (_ = _))

/-- The answer to an event in the transaction's state, or the row and the state
    to move it to. -/
def judgeState (e : ProviderEvent) (dbTx : TransactionRow) (current : TransactionState) :
    WebhookProcessingResult ⊕ (TransactionRow × TransactionState) :=
  match targetState e.eventType with
  | none => .inl (unhandled e current)
  | some target =>
      if Protected current then
        if current ≠ target then .inl (overwriteBlocked e current target)
        else .inl (alreadySettled e current)
      else .inr (dbTx, target)

/-- The checks on the stored transaction. -/
def judgeRow (mandates : MandateTable) (e : ProviderEvent) (dbTx : TransactionRow) :
    Except WebhookError (WebhookProcessingResult ⊕ (TransactionRow × TransactionState)) :=
  if e.merchantId ≠ "" ∧ dbTx.merchantId ≠ e.merchantId then
    .ok (.inl (merchantMismatch e dbTx))
  else
    -- the state is read whether or not the mandate is revoked
    match parseState dbTx.state with
    | .error err => .error (.raised err)
    | .ok current =>
        if UnderRevoked mandates dbTx then .ok (.inl (mandateRevoked e dbTx current))
        else .ok (judgeState e dbTx current)

/-- The checks of controls 5 and 6, which only read. -/
def judge (e : ProviderEvent) (u : WebhookUnitOfWork) :
    Except WebhookError (WebhookProcessingResult ⊕ (TransactionRow × TransactionState)) :=
  match u.audited.rows.session.transactions.get e.transactionId with
  | none => .ok (.inl (notFound e))
  | some dbTx => judgeRow u.mandates e dbTx

/-! ## The processing -/

/-- The environment of an append with this identifier. -/
def audit (engine : WebhookEngine) (env : WebhookEnv) (eventId : String) : AuditEnv :=
  ⟨env.db.now, fun text => engine.sha256 text.toUTF8, eventId⟩

def auditId (eventId : String) : String :=
  s!"evt_wh_{String.ofList (eventId.toList.take 16)}"

def auditEntry (e : ProviderEvent) (dbTx : TransactionRow) (target : TransactionState) :
    AuditEntry where
  eventType := if target = .committed then .paymentSuccess else .paymentFailed
  transactionId := some e.transactionId
  mandateId := some dbTx.mandateId
  merchantId := some dbTx.merchantId
  buyerId := some dbTx.buyerId
  payload := .obj [
    ("event_type", .str e.eventType),
    ("target_state", .str target.value),
    ("webhook_event_id", .str e.eventId)]

/-- Move the row and append the audit event. -/
def applyTransition (engine : WebhookEngine) (env : WebhookEnv) (e : ProviderEvent)
    (dbTx : TransactionRow) (target : TransactionState) :
    WebhookAction WebhookProcessingResult := do
  onAudited (AuditedAction.onRows
    (TransactionRepository.transitionTransactionState env.db e.transactionId target))
  onAudited (AuditedAction.appendEvent (engine.audit env (auditId e.eventId))
    (auditEntry e dbTx target))
  pure (processed e target)

def registration (engine : WebhookEngine) (rawPayload : ByteArray) (e : ProviderEvent) :
    WebhookRepository.Registration where
  eventId := e.eventId
  eventType := e.eventType
  transactionId := e.transactionId
  merchantId := orElseText (some e.merchantId) "mer_default"
  payloadHash := engine.sha256 rawPayload
  status := "PROCESSED"

/-- The part from the registration on. -/
def processEvent (engine : WebhookEngine) (env : WebhookEnv) (rawPayload : ByteArray)
    (e : ProviderEvent) : WebhookAction WebhookProcessingResult := do
  let registered ← onEvents
    (WebhookRepository.registerEvent env.db (registration engine rawPayload e))
  if registered.2 = true then pure (duplicate e)
  else do
    match ← (do ofExcept (← asks (judge e))) with
    | .inl result => pure result
    | .inr (dbTx, target) => applyTransition engine env e dbTx target

def asyncProcessWebhook (engine : WebhookEngine) (env : WebhookEnv) (call : WebhookCall) :
    WebhookAction WebhookProcessingResult := do
  match ← ofExcept (engine.inspect env call) with
  | .inl result => pure result
  | .inr e => processEvent engine env call.rawPayload e

/-! ## How a call ends -/

/-- The event is to be applied: the transaction in this row and state is moved
    to the target. -/
structure Applies (e : ProviderEvent) (u : WebhookUnitOfWork) (dbTx : TransactionRow)
    (current target : TransactionState) : Prop where
  row      : u.audited.rows.session.transactions.get e.transactionId = some dbTx
  merchant : e.merchantId = "" ∨ dbTx.merchantId = e.merchantId
  state    : dbTx.state = current.value
  mandate  : ¬ UnderRevoked u.mandates dbTx
  target   : targetState e.eventType = some target
  live     : ¬ Protected current

theorem parseState_eq_ok_iff {text : String} {s : TransactionState} :
    parseState text = .ok s ↔ text = s.value := by
  rw [parseState]
  cases hparse : TransactionState.ofValue text with
  | none =>
      constructor
      · intro h
        cases h
      · intro h
        rw [TransactionState.ofValue_eq_some_iff.mpr h] at hparse
        cases hparse
  | some s' =>
      obtain rfl := TransactionState.ofValue_eq_some_iff.mp hparse
      constructor
      · intro h
        obtain rfl := Except.ok.inj h
        rfl
      · intro h
        rw [h, TransactionState.ofValue_value] at hparse
        obtain rfl := Option.some.inj hparse
        rfl

/-- The checks answer with a result that names the event and is no duplicate, or
    the event applies. -/
theorem judge_cases {e : ProviderEvent} {u : WebhookUnitOfWork}
    {answer : WebhookProcessingResult ⊕ (TransactionRow × TransactionState)}
    (h : judge e u = .ok answer) :
    (∃ result, answer = .inl result ∧ result.eventId = e.eventId ∧ result.isDuplicate = false)
      ∨ ∃ dbTx current target, answer = .inr (dbTx, target) ∧ Applies e u dbTx current target := by
  rw [judge] at h
  cases hrow : u.audited.rows.session.transactions.get e.transactionId with
  | none =>
      rw [hrow] at h
      exact .inl ⟨_, (Except.ok.inj h).symm, rfl, rfl⟩
  | some row =>
      rw [hrow] at h
      dsimp only at h
      rw [judgeRow] at h
      by_cases hmerchant : e.merchantId ≠ "" ∧ row.merchantId ≠ e.merchantId
      · rw [if_pos hmerchant] at h
        exact .inl ⟨_, (Except.ok.inj h).symm, rfl, rfl⟩
      rw [if_neg hmerchant] at h
      cases hparse : parseState row.state with
      | error err =>
          rw [hparse] at h
          cases h
      | ok current =>
          rw [hparse] at h
          dsimp only at h
          by_cases hrevoked : UnderRevoked u.mandates row
          · rw [if_pos hrevoked] at h
            exact .inl ⟨_, (Except.ok.inj h).symm, rfl, rfl⟩
          rw [if_neg hrevoked, judgeState] at h
          cases htarget : targetState e.eventType with
          | none =>
              rw [htarget] at h
              exact .inl ⟨_, (Except.ok.inj h).symm, rfl, rfl⟩
          | some target =>
              rw [htarget] at h
              dsimp only at h
              by_cases hprotected : Protected current
              · rw [if_pos hprotected] at h
                by_cases hblocked : current ≠ target
                · rw [if_pos hblocked] at h
                  exact .inl ⟨_, (Except.ok.inj h).symm, rfl, rfl⟩
                · rw [if_neg hblocked] at h
                  exact .inl ⟨_, (Except.ok.inj h).symm, rfl, rfl⟩
              rw [if_neg hprotected] at h
              refine .inr ⟨row, current, target, (Except.ok.inj h).symm, hrow, ?_,
                parseState_eq_ok_iff.mp hparse, hrevoked, htarget, hprotected⟩
              by_cases hnamed : e.merchantId = ""
              · exact .inl hnamed
              · exact .inr (Decidable.not_not.mp fun hne => hmerchant ⟨hnamed, hne⟩)

/-- **The checks let an event through** exactly when it applies. -/
theorem judge_eq_apply_iff {e : ProviderEvent} {u : WebhookUnitOfWork} {dbTx : TransactionRow}
    {target : TransactionState} :
    judge e u = .ok (.inr (dbTx, target)) ↔ ∃ current, Applies e u dbTx current target := by
  constructor
  · intro h
    obtain ⟨result, hanswer, -⟩ | ⟨row, current, target', hanswer, happlies⟩ := judge_cases h
    · cases hanswer
    · obtain ⟨rfl, rfl⟩ := Prod.mk.inj (Sum.inr.inj hanswer)
      exact ⟨current, happlies⟩
  · rintro ⟨current, hrow, hmerchant, hstate, hrevoked, htarget, hlive⟩
    have hmatch : ¬ (e.merchantId ≠ "" ∧ dbTx.merchantId ≠ e.merchantId) := by
      rintro ⟨hnamed, hne⟩
      exact hmerchant.elim hnamed hne
    rw [judge, hrow]
    dsimp only
    rw [judgeRow, if_neg hmatch, parseState_eq_ok_iff.mpr hstate]
    dsimp only
    rw [if_neg hrevoked, judgeState, htarget]
    dsimp only
    rw [if_neg hlive]

variable {engine : WebhookEngine} {env : WebhookEnv} {call : WebhookCall} {e : ProviderEvent}
  {u : WebhookUnitOfWork} {rawPayload : ByteArray}

theorem asyncProcessWebhook_of_refused {result : WebhookProcessingResult}
    (h : engine.inspect env call = .ok (.inl result)) :
    asyncProcessWebhook engine env call u = (.ok result, u) := by
  rw [asyncProcessWebhook, bind_of_ok (ofExcept_of_eq h u)]
  rfl

theorem asyncProcessWebhook_of_raised {err : WebhookError}
    (h : engine.inspect env call = .error err) :
    asyncProcessWebhook engine env call u = (.error err, u) := by
  rw [asyncProcessWebhook, bind_of_error (ofExcept_of_eq h u)]

theorem asyncProcessWebhook_of_event (h : engine.inspect env call = .ok (.inr e)) :
    asyncProcessWebhook engine env call u = processEvent engine env call.rawPayload e u := by
  rw [asyncProcessWebhook, bind_of_ok (ofExcept_of_eq h u)]

theorem checkRegistration_of_names {eventId : Option String} {payload : Json.Value}
    (h : Names eventId payload e) :
    WebhookRepository.checkRegistration (registration engine rawPayload e) = .ok () := by
  obtain ⟨hid, htx, hmer⟩ := h.trimmed
  have hidentified : Text.strip (registration engine rawPayload e).eventId ≠ "" := by
    show Text.strip e.eventId ≠ ""
    rw [hid]
    exact h.identified
  have hcorrelated : Text.strip (registration engine rawPayload e).transactionId ≠ "" := by
    show Text.strip e.transactionId ≠ ""
    rw [htx]
    exact h.correlated
  have hmerchant : Text.strip (registration engine rawPayload e).merchantId ≠ "" := by
    show Text.strip (orElseText (some e.merchantId) "mer_default") ≠ ""
    rw [orElseText]
    by_cases hempty : e.merchantId = ""
    · rw [if_pos hempty]
      decide
    · rw [if_neg hempty, hmer]
      exact hempty
  rw [WebhookRepository.checkRegistration, if_neg hidentified, if_neg hcorrelated,
    if_neg hmerchant]

def eventRow (engine : WebhookEngine) (env : WebhookEnv) (rawPayload : ByteArray)
    (e : ProviderEvent) : WebhookEventRow :=
  WebhookRepository.newRow env.db.now (registration engine rawPayload e)

theorem eventRow_eventId {eventId : Option String} {payload : Json.Value}
    (h : Names eventId payload e) : (eventRow engine env rawPayload e).eventId = e.eventId :=
  h.trimmed.1

theorem onEvents_of_ok {α : Type} {x : WebhookRepository.Action α} {a : α}
    {u' : WebhookUnitOfWork} (h : x u = (.ok a, u')) : onEvents x u = (.ok a, u') := by
  rw [onEvents, h]
  rfl

theorem processEvent_of_duplicate {eventId : Option String} {payload : Json.Value}
    {row : WebhookEventRow} (hnames : Names eventId payload e)
    (h : u.events.get e.eventId = some row) :
    processEvent engine env rawPayload e u = (.ok (duplicate e), u) := by
  have hpresent :
      u.events.get (Text.strip (registration engine rawPayload e).eventId) = some row := by
    show u.events.get (Text.strip e.eventId) = some row
    rw [hnames.trimmed.1]
    exact h
  rw [processEvent, bind_of_ok (onEvents_of_ok (WebhookRepository.registerEvent_of_present
    (checkRegistration_of_names hnames) hpresent)), if_pos rfl]
  rfl

theorem processEvent_of_new {eventId : Option String} {payload : Json.Value}
    (hnames : Names eventId payload e) (h : u.events.get e.eventId = none) :
    ∃ events, u.events.insert (eventRow engine env rawPayload e) = some events
      ∧ processEvent engine env rawPayload e u
        = (match judge e u with
          | .error err => (.error err, { u with events := events })
          | .ok (.inl result) => (.ok result, { u with events := events })
          | .ok (.inr (dbTx, target)) =>
              applyTransition engine env e dbTx target { u with events := events }) := by
  have hnew : u.events.get (Text.strip (registration engine rawPayload e).eventId) = none := by
    show u.events.get (Text.strip e.eventId) = none
    rw [hnames.trimmed.1]
    exact h
  obtain ⟨events, hinsert, hregister⟩ :
      ∃ events, u.events.insert (eventRow engine env rawPayload e) = some events
        ∧ WebhookRepository.registerEvent env.db (registration engine rawPayload e) u
          = (.ok (eventRow engine env rawPayload e, false), { u with events := events }) :=
    WebhookRepository.registerEvent_of_new (checkRegistration_of_names hnames) hnew
  refine ⟨events, hinsert, ?_⟩
  rw [processEvent, bind_of_ok (onEvents_of_ok hregister), if_neg Bool.noConfusion]
  have hread : (do ofExcept (← asks (judge e)) : WebhookAction _) { u with events := events }
      = (judge e u, { u with events := events }) := rfl
  cases hjudge : judge e u with
  | error err =>
      rw [hjudge] at hread
      rw [bind_of_error hread]
  | ok verdict =>
      rw [hjudge] at hread
      rw [bind_of_ok hread]
      cases verdict with
      | inl result => rfl
      | inr application => rfl

theorem asyncProcessWebhook_of_duplicate {row : WebhookEventRow}
    (hevent : engine.inspect env call = .ok (.inr e)) (h : u.events.get e.eventId = some row) :
    asyncProcessWebhook engine env call u = (.ok (duplicate e), u) := by
  obtain ⟨-, payload, -, hnames, -⟩ := inspect_eq_event_iff.mp hevent
  rw [asyncProcessWebhook_of_event hevent]
  exact processEvent_of_duplicate hnames h

/-- **A new event is registered whatever the checks then say.** -/
theorem asyncProcessWebhook_of_new (hevent : engine.inspect env call = .ok (.inr e))
    (h : u.events.get e.eventId = none) :
    ∃ events, u.events.insert (eventRow engine env call.rawPayload e) = some events
      ∧ asyncProcessWebhook engine env call u
        = (match judge e u with
          | .error err => (.error err, { u with events := events })
          | .ok (.inl result) => (.ok result, { u with events := events })
          | .ok (.inr (dbTx, target)) =>
              applyTransition engine env e dbTx target { u with events := events }) := by
  obtain ⟨-, payload, -, hnames, -⟩ := inspect_eq_event_iff.mp hevent
  rw [asyncProcessWebhook_of_event hevent]
  exact processEvent_of_new hnames h

/-! ## How an application ends -/

variable {dbTx : TransactionRow} {current target : TransactionState}

theorem not_terminal_of_live (h : ¬ Protected current) : current.isTerminal = false := by
  rw [← Bool.not_eq_true]
  exact fun hterminal => h (.inl hterminal)

theorem Applies.storedIn (h : Applies e u dbTx current target) :
    TransactionRepository.StoredIn e.transactionId current u.audited.rows :=
  ⟨dbTx, h.row, h.state⟩

/-- The unit of work after a transition. -/
def transitioned (env : WebhookEnv) (e : ProviderEvent) (target : TransactionState)
    (u : WebhookUnitOfWork) : WebhookUnitOfWork :=
  { u with
    audited := u.audited.withSession
      (TransactionRepository.moved env.db e.transactionId target u.audited.rows.session) }

theorem onAudited_transition (h : Applies e u dbTx current target)
    (hactive : u.audited.active = true) (hlegal : target ∈ current.legalNextStates) :
    onAudited (AuditedAction.onRows
        (TransactionRepository.transitionTransactionState env.db e.transactionId target)) u
      = (.ok (), transitioned env e target u) := by
  have hmove : AuditedAction.onRows
      (TransactionRepository.transitionTransactionState env.db e.transactionId target) u.audited
      = (.ok (), (transitioned env e target u).audited) :=
    AuditedAction.onRows_of_session
      (TransactionRepository.transitionTransactionState_of_legal h.storedIn
        (not_terminal_of_live h.live) hlegal)
  have hstill : (transitioned env e target u).audited.active = true := hactive
  rw [onAudited, hmove]
  dsimp only
  rw [if_pos hstill]
  rfl

/-- **A legal move whose audit event can be stored is made.** -/
theorem applyTransition_of_accepts (h : Applies e u dbTx current target)
    (hactive : u.audited.active = true) (hlegal : target ∈ current.legalNextStates)
    (haccepts : u.audited.ledger.Accepts (engine.audit env (auditId e.eventId))
      (auditEntry e dbTx target)) :
    ∃ ledger, applyTransition engine env e dbTx target u
        = (.ok (processed e target),
          { transitioned env e target u with
            audited := { (transitioned env e target u).audited with ledger := ledger } })
      ∧ ledger.rows = u.audited.ledger.rows
        ++ [auditEvent (engine.audit env (auditId e.eventId)) (auditEntry e dbTx target)
          u.audited.ledger] := by
  obtain ⟨ledger, happend, hrows⟩ := AuditedAction.appendEvent_of_accepts
    (u := (transitioned env e target u).audited) haccepts
  refine ⟨ledger, ?_, hrows⟩
  have hlogged : onAudited (AuditedAction.appendEvent (engine.audit env (auditId e.eventId))
      (auditEntry e dbTx target)) (transitioned env e target u)
      = (.ok (), { transitioned env e target u with
          audited := { (transitioned env e target u).audited with ledger := ledger } }) := by
    have hstill : (transitioned env e target u).audited.active = true := hactive
    rw [onAudited, happend]
    dsimp only
    rw [if_pos hstill]
    rfl
  rw [applyTransition, bind_of_ok (onAudited_transition h hactive hlegal), bind_of_ok hlogged]
  rfl

/-- Else the call raises: the audit event cannot be stored and the session is
    broken, or the move is illegal and the session is as before. -/
theorem applyTransition_of_not_accepts (h : Applies e u dbTx current target)
    (hactive : u.audited.active = true) (hlegal : target ∈ current.legalNextStates)
    (htaken : ¬ u.audited.ledger.Accepts (engine.audit env (auditId e.eventId))
      (auditEntry e dbTx target)) :
    ∃ err, applyTransition engine env e dbTx target u
      = (.error err, { u with audited := u.audited.broken, events := u.committedEvents }) := by
  obtain ⟨err, happend⟩ := AuditedAction.appendEvent_of_not_accepts
    (u := (transitioned env e target u).audited) htaken
  refine ⟨.raised err, ?_⟩
  have hlogged : onAudited (AuditedAction.appendEvent (engine.audit env (auditId e.eventId))
      (auditEntry e dbTx target)) (transitioned env e target u)
      = (.error (.raised err),
        { u with audited := u.audited.broken, events := u.committedEvents }) := by
    rw [onAudited, happend]
    rfl
  rw [applyTransition, bind_of_ok (onAudited_transition h hactive hlegal),
    bind_of_error hlogged]

theorem applyTransition_of_illegal (h : Applies e u dbTx current target)
    (hactive : u.audited.active = true) (hillegal : target ∉ current.legalNextStates) :
    applyTransition engine env e dbTx target u
      = (.error (.raised (illegalTransition current target)), u) := by
  have hmove : AuditedAction.onRows
      (TransactionRepository.transitionTransactionState env.db e.transactionId target) u.audited
      = (.error (illegalTransition current target), u.audited) :=
    AuditedAction.onRows_of_error
      (TransactionRepository.transitionTransactionState_of_illegal h.storedIn hillegal)
      (fun _ => PyError.noConfusion)
  have hrefused : onAudited (AuditedAction.onRows
      (TransactionRepository.transitionTransactionState env.db e.transactionId target)) u
      = (.error (.raised (illegalTransition current target)), u) := by
    rw [onAudited, hmove]
    dsimp only
    rw [if_pos hactive]
    rfl
  rw [applyTransition, bind_of_error hrefused]

end WebhookEngine

end MandateGateway
