import MandateGateway.Lib.HashChain
import MandateGateway.Lib.JsonRoundTrip
import MandateGateway.Recovery.Agreement
import MandateGateway.Webhook.Engine

/-! # Delivering a webhook

    A call of the engine in a unit of work of its own: what the call leaves in
    the session is stored when the caller commits it, and else nothing is.  The
    route of the provider commits the results that are successes.

    `run_outcome` says how a call ends and what it leaves; `deliver_effect` all
    that a delivery can do to the store, whatever its caller commits: nothing,
    register a new event, or register it and move its transaction. -/

namespace MandateGateway

open Clock Raising

structure WebhookStore where
  db       : Database
  ledger   : AuditLedger
  mandates : MandateTable
  events   : WebhookTable

/-- A unit of work that has just begun. -/
def WebhookStore.beginUnit (s : WebhookStore) : WebhookUnitOfWork :=
  ⟨AuditedUnitOfWork.fresh s.db s.ledger, s.mandates, s.events, s.events⟩

/-- What is stored after a commit. -/
def WebhookUnitOfWork.saved (u : WebhookUnitOfWork) : WebhookStore :=
  ⟨u.audited.rows.session, u.audited.ledger, u.mandates, u.events⟩

/-- The answer of the route. -/
inductive WebhookResponse where
  | answered (result : WebhookProcessingResult)
  | httpException (statusCode : Nat) (detail : String)
deriving DecidableEq

namespace WebhookEngine

/-- How a call ends. -/
abbrev Answer : Type := Except WebhookError WebhookProcessingResult

section
variable (engine : WebhookEngine)

/-- A call in a unit of work of its own, whose caller commits these answers. -/
def deliver (commits : Answer → Bool) (env : WebhookEnv) (call : WebhookCall)
    (s : WebhookStore) : Answer × WebhookStore :=
  let ran := engine.asyncProcessWebhook env call s.beginUnit
  (ran.1, if commits ran.1 = true then ran.2.saved else s)

/-- The answer is a result, and the result a success. -/
def accepted : Answer → Bool
  | .ok result => result.success
  | .error _ => false

/-- The response to a result; what the call raises, the route raises. -/
def respond (result : WebhookProcessingResult) : WebhookResponse :=
  if result.success then .answered result
  else
    .httpException (if result.rejectionReason = some .methodNotAuthorized then 401 else 400)
      (orElseText result.rejectionDetail "Webhook processing failed.")

def handleRazorpayWebhook (env : WebhookEnv) (rawBody : ByteArray)
    (signature eventId : Option String) (s : WebhookStore) :
    Except WebhookError WebhookResponse × WebhookStore :=
  let delivered := engine.deliver accepted env ⟨rawBody, signature, eventId, none⟩ s
  (delivered.1.map respond, delivered.2)

/-! ## What a call does -/

/-- How a call ends, and what a commit would then store. -/
inductive Outcome (env : WebhookEnv) (call : WebhookCall) (s : WebhookStore) :
    Answer → WebhookStore → Prop where
  /-- before the registration, or with the session broken -/
  | raised (err : WebhookError) : Outcome env call s (.error err) s
  | refused {result : WebhookProcessingResult}
      (hinspect : engine.inspect env call = .ok (.inl result)) :
      Outcome env call s (.ok result) s
  | duplicate {e : ProviderEvent} {row : WebhookEventRow}
      (hevent : engine.inspect env call = .ok (.inr e))
      (hpresent : s.events.get e.eventId = some row) :
      Outcome env call s (.ok (duplicate e)) s
  /-- registered and answered by the checks, or refused by the state machine -/
  | judged {e : ProviderEvent} {events : WebhookTable} {answer : Answer}
      (hevent : engine.inspect env call = .ok (.inr e))
      (hnew : s.events.insert (engine.eventRow env call.rawPayload e) = some events)
      (hanswer : ∀ result, answer = .ok result → judge e s.beginUnit = .ok (.inl result)) :
      Outcome env call s answer { s with events := events }
  | applied {e : ProviderEvent} {dbTx : TransactionRow} {current target : TransactionState}
      {ledger : AuditLedger} {events : WebhookTable}
      (hevent : engine.inspect env call = .ok (.inr e))
      (hnew : s.events.insert (engine.eventRow env call.rawPayload e) = some events)
      (happlies : Applies e s.beginUnit dbTx current target)
      (hlegal : target ∈ current.legalNextStates) :
      Outcome env call s (.ok (processed e target))
        ⟨TransactionRepository.moved env.db e.transactionId target s.db, ledger, s.mandates,
          events⟩

inductive Effect (env : WebhookEnv) (call : WebhookCall) (s : WebhookStore) :
    WebhookStore → Prop where
  | nothing : Effect env call s s
  | registered {e : ProviderEvent} {events : WebhookTable}
      (hevent : engine.inspect env call = .ok (.inr e))
      (hnew : s.events.insert (engine.eventRow env call.rawPayload e) = some events) :
      Effect env call s { s with events := events }
  | applied {e : ProviderEvent} {dbTx : TransactionRow} {current target : TransactionState}
      {ledger : AuditLedger} {events : WebhookTable}
      (hevent : engine.inspect env call = .ok (.inr e))
      (hnew : s.events.insert (engine.eventRow env call.rawPayload e) = some events)
      (happlies : Applies e s.beginUnit dbTx current target)
      (hlegal : target ∈ current.legalNextStates) :
      Effect env call s
        ⟨TransactionRepository.moved env.db e.transactionId target s.db, ledger, s.mandates,
          events⟩

section
variable {engine} {env : WebhookEnv} {call : WebhookCall} {s : WebhookStore}
  {commits : Answer → Bool} {e : ProviderEvent} {dbTx : TransactionRow}
  {current target : TransactionState}

theorem stateIn_moved (env : DbEnv) {t : String} (target : TransactionState) {db : Database}
    {row : TransactionRow} (h : db.transactions.get t = some row) :
    stateIn (TransactionRepository.moved env t target db) t = some target.value := by
  obtain ⟨row', hrow', hstate, -⟩ := TransactionRepository.get_moved env target h
  rw [stateIn, hrow', Option.map_some, hstate]

theorem stateIn_moved_of_ne (env : DbEnv) {t t' : String} (target : TransactionState)
    (db : Database) (hne : t' ≠ t) :
    stateIn (TransactionRepository.moved env t target db) t' = stateIn db t' := by
  rw [stateIn, stateIn, (TransactionRepository.sameBut_moved env t target db).rows t' hne]

/-- The checks after the registration read what they would have read before. -/
theorem Applies.of_events {u : WebhookUnitOfWork} (h : Applies e u dbTx current target)
    (events : WebhookTable) : Applies e { u with events := events } dbTx current target :=
  ⟨h.row, h.merchant, h.state, h.mandate, h.target, h.live⟩

/-- **An event that applies is processed** when its move is legal and its audit
    event can be stored. -/
theorem run_of_applies (hevent : engine.inspect env call = .ok (.inr e))
    (hnew : s.events.get e.eventId = none) (happlies : Applies e s.beginUnit dbTx current target)
    (hlegal : target ∈ current.legalNextStates)
    (haccepts : s.ledger.Accepts (engine.audit env (auditId e.eventId))
      (auditEntry e dbTx target)) :
    ∃ u, engine.asyncProcessWebhook env call s.beginUnit = (.ok (processed e target), u)
      ∧ u.saved.db = TransactionRepository.moved env.db e.transactionId target s.db
      ∧ u.saved.ledger.rows = s.ledger.rows
        ++ [auditEvent (engine.audit env (auditId e.eventId)) (auditEntry e dbTx target) s.ledger]
      ∧ u.saved.mandates = s.mandates
      ∧ s.events.insert (engine.eventRow env call.rawPayload e) = some u.saved.events := by
  obtain ⟨events, hinsert, hrun⟩ :=
    asyncProcessWebhook_of_new (u := s.beginUnit) hevent hnew
  rw [judge_eq_apply_iff.mpr ⟨current, happlies⟩] at hrun
  obtain ⟨ledger, happly, hrows⟩ :=
    applyTransition_of_accepts (happlies.of_events events) rfl hlegal haccepts
  exact ⟨_, hrun.trans happly, rfl, hrows, rfl, hinsert⟩

/-- **All that a call does.** -/
theorem run_outcome :
    Outcome engine env call s (engine.asyncProcessWebhook env call s.beginUnit).1
      (engine.asyncProcessWebhook env call s.beginUnit).2.saved := by
  cases hinspect : engine.inspect env call with
  | error err =>
      rw [asyncProcessWebhook_of_raised hinspect]
      exact .raised err
  | ok inspected =>
      cases inspected with
      | inl result =>
          rw [asyncProcessWebhook_of_refused hinspect]
          exact .refused hinspect
      | inr e =>
          cases hget : s.events.get e.eventId with
          | some row =>
              rw [asyncProcessWebhook_of_duplicate (u := s.beginUnit) hinspect hget]
              exact .duplicate hinspect hget
          | none =>
              obtain ⟨events, hinsert, hrun⟩ :=
                asyncProcessWebhook_of_new (u := s.beginUnit) hinspect hget
              cases hjudge : judge e s.beginUnit with
              | error err =>
                  rw [hjudge] at hrun
                  rw [hrun]
                  exact .judged hinspect hinsert fun _ h => nomatch h
              | ok verdict =>
                  rw [hjudge] at hrun
                  cases verdict with
                  | inl result =>
                      rw [hrun]
                      refine .judged hinspect hinsert fun result' h => ?_
                      rw [← Except.ok.inj h]
                      exact hjudge
                  | inr application =>
                      obtain ⟨dbTx, target⟩ := application
                      obtain ⟨current, happlies⟩ := judge_eq_apply_iff.mp hjudge
                      have hregistered := happlies.of_events events
                      by_cases hlegal : target ∈ current.legalNextStates
                      · by_cases haccepts : s.ledger.Accepts (engine.audit env (auditId e.eventId))
                            (auditEntry e dbTx target)
                        · obtain ⟨ledger, happly, -⟩ :=
                            applyTransition_of_accepts hregistered rfl hlegal haccepts
                          rw [hrun.trans happly]
                          exact .applied hinspect hinsert happlies hlegal
                        · obtain ⟨err, happly⟩ :=
                            applyTransition_of_not_accepts hregistered rfl hlegal haccepts
                          -- the session is broken: nothing of the call is left to commit
                          rw [hrun.trans happly]
                          exact .raised err
                      · rw [hrun.trans (applyTransition_of_illegal hregistered rfl hlegal)]
                        exact .judged hinspect hinsert fun _ h => nomatch h

/-! ## What a delivery does -/

variable (engine env call s commits) in
theorem deliver_outcome :
    ∃ after, Outcome engine env call s (engine.deliver commits env call s).1 after
      ∧ (engine.deliver commits env call s).2
        = if commits (engine.deliver commits env call s).1 = true then after else s :=
  ⟨_, run_outcome, rfl⟩

/-- **All that a delivery does to the store**, whatever its caller commits. -/
theorem deliver_effect :
    Effect engine env call s (engine.deliver commits env call s).2 := by
  obtain ⟨after, houtcome, hstored⟩ := deliver_outcome engine env call s commits
  rw [hstored]
  generalize (engine.deliver commits env call s).1 = answer at houtcome
  by_cases hcommits : commits answer = true
  · rw [if_pos hcommits]
    cases houtcome with
    | raised err => exact .nothing
    | refused hinspect => exact .nothing
    | duplicate hevent hpresent => exact .nothing
    | judged hevent hnew hanswer => exact .registered hevent hnew
    | applied hevent hnew happlies hlegal => exact .applied hevent hnew happlies hlegal
  · rw [if_neg hcommits]
    exact .nothing

end

end

/-! ## Captured payments -/

theorem fromUTF8_toUTF8 (text : String) : String.fromUTF8? text.toUTF8 = some text := by
  rw [String.toUTF8_eq_toByteArray, String.fromUTF8?, dif_pos text.isValidUTF8]
  rfl

theorem parsePayload_compact (j : Json) : parsePayload j.compact.toUTF8 = some (Json.value j) := by
  have hspace : ∀ c ∈ ([] : List Char), Json.isSpace c = true := fun c hc =>
    absurd hc List.not_mem_nil
  rw [parsePayload, fromUTF8_toUTF8, ← String.ofList_toList (s := j.compact), Json.toList_compact]
  exact Json.decode_render hspace j

/-- A function of texts as one of their bytes. -/
def ofBytes (f : String → String) (bytes : ByteArray) : String :=
  ((String.fromUTF8? bytes).map f).getD ""

theorem ofBytes_toUTF8 (f : String → String) (text : String) :
    ofBytes f text.toUTF8 = f text := by
  rw [ofBytes, fromUTF8_toUTF8]
  rfl

namespace Sample

def body (transactionId : String) : Json :=
  .obj [
    ("created_at", .int 1704067200),
    ("event", .str "payment.captured"),
    ("payload", .obj [("payment", .obj [("entity", .obj [("notes", .obj [
      ("merchant_id", .str "mer-1"), ("transaction_id", .str transactionId)])])])])]

def recorded (name transactionId timestamp previousHash : String) (payload : Json) : Json :=
  .obj [
    ("buyer_id", .str "buyer-1"),
    ("event_id", .str name),
    ("event_type", .str "PAYMENT_SUCCESS"),
    ("mandate_id", .str "mandate-1"),
    ("merchant_id", .str "mer-1"),
    ("payload", payload),
    ("previous_hash", .str previousHash),
    ("timestamp", .str timestamp),
    ("transaction_id", .str transactionId)]

def captured (eventId : String) : Json :=
  .obj [
    ("event_type", .str "payment.captured"),
    ("target_state", .str "COMMITTED"),
    ("webhook_event_id", .str eventId)]

def reconciled (reference : String) : Json :=
  .obj [("provider_reference", .str reference), ("reconciled_status", .str "SUCCESS")]

def firstMac : String := "07edff614aa8c6c301e68aa4ac10f6062272be6ba90b6b4c1549c6dc83394240"

def secondMac : String := "9f9e510445af123afd8751f4962d48c7a2c33742f2694640a2fd5ccf9daa3f7f"

def firstHash : String := "bed3eb4374515a0d7f54dcc10390301f920df0b800f9329035a38d0360fe45a5"

def firstReconciledHash : String :=
  "1e9cca99053878b9fd6dc11c0ac282e458d81061aeabba2ebfa741304b3df872"

def macs : List (String × String) :=
  [((body "tx_20240101_0001").compact, firstMac), ((body "tx_20240102_0001").compact, secondMac)]

def digests : List (String × String) :=
  [((body "tx_20240101_0001").compact,
      "2412c41f3cbd4313c22e8a1c556174b0ca02ca77d36f3012d6f167be12d667e6"),
    ((body "tx_20240102_0001").compact,
      "a6163f5982c94b295cc058466bcc224a01e038e33a638811e60ddbe828dd8aee"),
    ((recorded "evt_wh_evt_20240101_000" "tx_20240101_0001" "2024-01-01T00:00:10+00:00"
      AuditLedger.genesisHash (captured "evt_20240101_0001")).compact, firstHash),
    ((recorded "evt_wh_evt_20240102_000" "tx_20240102_0001" "2024-01-01T00:00:20+00:00" firstHash
      (captured "evt_20240102_0001")).compact,
      "a1b2ff4ad59427c68d3512cbb271d7372467b0349b61c277f9ccef45236d30ac"),
    ((recorded "evt_rec_tx_20240101_" "tx_20240101_0001" "2024-01-01T00:00:10+00:00"
      AuditLedger.genesisHash (reconciled "tx_20240101_0001")).compact, firstReconciledHash),
    ((recorded "evt_rec_tx_20240102_" "tx_20240102_0001" "2024-01-01T00:00:20+00:00"
      firstReconciledHash (reconciled "tx_20240102_0001")).compact,
      "98ad787f4acd0e7df331944d22207587d301620256c3f765412a0f06c85c6655")]

def engine : WebhookEngine where
  webhookSecret := "whsec_test_secret_key_12345"
  sha256 := ofBytes (HashChain.knownDigests digests)
  hmac := fun _ => ofBytes (HashChain.knownDigests macs)
  decodeError := fun _ => "Expecting value: line 1 column 1 (char 0)"

def env (seconds : Int) : WebhookEnv where
  now := 1704067200000000 + seconds * 1000000
  db := {
    now := 1704067200000000 + seconds * 1000000
    attemptToken := ""
    eventToken := ""
    constraintText := "UNIQUE constraint failed" }

def call (eventId transactionId mac : String) : WebhookCall where
  rawPayload := (body transactionId).compact.toUTF8
  signature := some mac
  eventId := some eventId
  now? := none

def event (eventId transactionId : String) : ProviderEvent :=
  ⟨eventId, "payment.captured", transactionId, "mer-1"⟩

def row (transactionId : String) : TransactionRow where
  transactionId := transactionId
  buyerId := "buyer-1"
  merchantId := "mer-1"
  mandateId := "mandate-1"
  cartHash := ""
  amountPaise := 49900
  currency := "INR"
  region := "IN"
  authDecision := "ALLOW"
  state := "EXECUTING"
  providerPaymentId := none
  providerStatus := some "DISPATCHED"
  idempotencyKey := transactionId
  createdAt := 1704067190000000
  updatedAt := 1704067190000000

def store (transactions : Table TransactionRow.transactionId) : WebhookStore where
  db := ⟨transactions, Table.empty, Table.empty⟩
  ledger := AuditLedger.empty
  mandates := Table.empty
  events := Table.empty

theorem engine_hmac (secret : String) (bytes : ByteArray) :
    engine.hmac secret bytes = ofBytes (HashChain.knownDigests macs) bytes := rfl

theorem hmac_first (secret : String) :
    engine.hmac secret (body "tx_20240101_0001").compact.toUTF8 = firstMac := by
  rw [engine_hmac, ofBytes_toUTF8, macs, HashChain.knownDigests_cons_self]

theorem hmac_second (secret : String) :
    engine.hmac secret (body "tx_20240102_0001").compact.toUTF8 = secondMac := by
  have hne : (body "tx_20240101_0001").compact ≠ (body "tx_20240102_0001").compact := by
    intro h
    have hbody := Json.compact_injective h
    simp [body] at hbody
  rw [engine_hmac, ofBytes_toUTF8, macs, HashChain.knownDigests_cons_of_ne hne,
    HashChain.knownDigests_cons_self]

theorem verified_first :
    engine.verifySignature (body "tx_20240101_0001").compact.toUTF8 (some firstMac) = .ok true :=
  verifySignature_of_eq (hmac_first _) (by decide) (by decide) (by decide) (by decide)

theorem verified_second :
    engine.verifySignature (body "tx_20240102_0001").compact.toUTF8 (some secondMac) = .ok true :=
  verifySignature_of_eq (hmac_second _) (by decide) (by decide) (by decide) (by decide)

theorem inspect_call {eventId transactionId mac : String} {seconds : Int}
    (hverified : engine.verifySignature (body transactionId).compact.toUTF8 (some mac) = .ok true)
    (hnames : Names (some eventId) (Json.value (body transactionId)) (event eventId transactionId))
    (htimely : isFresh (env seconds).now 1704067200 = true) :
    engine.inspect (env seconds) (call eventId transactionId mac)
      = .ok (.inr (event eventId transactionId)) :=
  inspect_eq_event_iff.mpr ⟨hverified, Json.value (body transactionId), parsePayload_compact _,
    hnames, _, rfl, congrArg Except.ok htimely⟩

def firstEvent : ProviderEvent := event "evt_20240101_0001" "tx_20240101_0001"

def firstCall : WebhookCall := call "evt_20240101_0001" "tx_20240101_0001" firstMac

theorem inspect_firstCall (seconds : Int)
    (htimely : isFresh (env seconds).now 1704067200 = true) :
    engine.inspect (env seconds) firstCall = .ok (.inr firstEvent) :=
  inspect_call verified_first ⟨rfl, rfl, ⟨_, rfl, rfl, rfl⟩, by decide, by decide⟩ htimely

end Sample

end WebhookEngine

end MandateGateway
