import MandateGateway.Db.AuditRepository
import MandateGateway.Recovery.Reconciliation
import MandateGateway.Webhook.Delivery

/-! # Truncated audit identifiers

    The audit event of a webhook event is named by the first 16 characters of
    the event's identity, that of a reconciliation by the first 12 characters
    of the transaction's.  Identifiers are unique in the ledger, so the second
    of two events, or of two reconciliations, whose names agree so far raises
    and is not made.

    Both are made exactly when neither name is taken and the two differ
    (`both_made_iff`). -/

namespace MandateGateway

open Raising

theorem prefixed_eq_iff {front : String} {xs ys : List Char} :
    front ++ String.ofList xs = front ++ String.ofList ys ↔ xs = ys := by
  constructor
  · intro h
    have hlists := congrArg String.toList h
    rw [String.toList_append, String.toList_append, String.toList_ofList,
      String.toList_ofList] at hlists
    exact List.append_cancel_left hlists
  · rintro rfl
    rfl

/-! ## Two webhook events -/

namespace WebhookEngine

theorem auditId_eq_iff {a b : String} :
    auditId a = auditId b ↔ a.toList.take 16 = b.toList.take 16 :=
  prefixed_eq_iff

/-- A delivery of a new event that applies to an EXECUTING transaction. -/
structure ReadyEvent (engine : WebhookEngine) (s : WebhookStore) where
  env          : WebhookEnv
  call         : WebhookCall
  event        : ProviderEvent
  dbTx         : TransactionRow
  target       : TransactionState
  inspected    : engine.inspect env call = .ok (.inr event)
  unregistered : s.events.get event.eventId = none
  applies      : Applies event s.beginUnit dbTx .executing target

namespace ReadyEvent

variable {engine : WebhookEngine} {sha256 : String → String} {s s' : WebhookStore}

/-- The delivery through the route. -/
def deliver (r : ReadyEvent engine s) (s' : WebhookStore) : Answer × WebhookStore :=
  engine.deliver accepted r.env r.call s'

def Processed (r : ReadyEvent engine s) (s' : WebhookStore) : Prop :=
  (r.deliver s').1 = .ok (processed r.event r.target)

def auditId (r : ReadyEvent engine s) : String := WebhookEngine.auditId r.event.eventId

theorem legal (r : ReadyEvent engine s) :
    r.target ∈ TransactionState.executing.legalNextStates := by
  rcases targetState_settles r.applies.target with htarget | htarget
  · rw [htarget]
    decide
  · rw [htarget]
    decide

theorem deliver_of_accepts (r : ReadyEvent engine s)
    (haccepts : s.ledger.Accepts (engine.audit r.env r.auditId)
      (auditEntry r.event r.dbTx r.target)) :
    r.Processed s
      ∧ (r.deliver s).2.db
        = TransactionRepository.moved r.env.db r.event.transactionId r.target s.db
      ∧ (r.deliver s).2.ledger.rows = s.ledger.rows
        ++ [auditEvent (engine.audit r.env r.auditId) (auditEntry r.event r.dbTx r.target)
          s.ledger]
      ∧ (r.deliver s).2.mandates = s.mandates
      ∧ s.events.insert (engine.eventRow r.env r.call.rawPayload r.event)
        = some (r.deliver s).2.events := by
  obtain ⟨u, hrun, hstored⟩ :=
    run_of_applies r.inspected r.unregistered r.applies r.legal haccepts
  rw [Processed, deliver, WebhookEngine.deliver, hrun]
  exact ⟨rfl, hstored⟩

theorem not_processed_of_taken (r : ReadyEvent engine s)
    (htaken : ¬ s.ledger.Accepts (engine.audit r.env r.auditId)
      (auditEntry r.event r.dbTx r.target)) : ∃ err, (r.deliver s).1 = .error err := by
  obtain ⟨events, -, hrun⟩ :=
    asyncProcessWebhook_of_new (u := s.beginUnit) r.inspected r.unregistered
  rw [judge_eq_apply_iff.mpr ⟨_, r.applies⟩] at hrun
  obtain ⟨err, happly⟩ :=
    applyTransition_of_not_accepts (r.applies.of_events events) rfl r.legal htaken
  refine ⟨err, ?_⟩
  rw [deliver, WebhookEngine.deliver, hrun]
  dsimp only
  rw [happly]

/-- **One event is processed exactly when its name is free.** -/
theorem processed_iff (hsha : Function.Injective sha256)
    (hengine : ∀ text : String, engine.sha256 text.toUTF8 = sha256 text)
    (hledger : s.ledger.Genuine sha256) (r : ReadyEvent engine s) :
    r.Processed s ↔ s.ledger.Free r.auditId := by
  have haccepts : s.ledger.Accepts (engine.audit r.env r.auditId)
      (auditEntry r.event r.dbTx r.target) ↔ s.ledger.Free r.auditId :=
    hledger.accepts_iff hsha (funext hengine)
  rw [← haccepts]
  constructor
  · intro hprocessed
    by_contra htaken
    obtain ⟨err, herr⟩ := r.not_processed_of_taken htaken
    rw [Processed, herr] at hprocessed
    cases hprocessed
  · exact fun h => (r.deliver_of_accepts h).1

/-- Processing one event leaves another, of another transaction, ready. -/
def after (first second : ReadyEvent engine s)
    (hids : first.event.eventId ≠ second.event.eventId)
    (htransactions : first.event.transactionId ≠ second.event.transactionId)
    (haccepts : s.ledger.Accepts (engine.audit first.env first.auditId)
      (auditEntry first.event first.dbTx first.target)) :
    ReadyEvent engine (first.deliver s).2 where
  env := second.env
  call := second.call
  event := second.event
  dbTx := second.dbTx
  target := second.target
  inspected := second.inspected
  unregistered := by
    obtain ⟨-, -, -, -, hinsert⟩ := first.deliver_of_accepts haccepts
    obtain ⟨-, payload, -, hnames, -⟩ := inspect_eq_event_iff.mp first.inspected
    rw [Table.get_insert hinsert, eventRow_eventId hnames, if_neg (Ne.symm hids)]
    exact second.unregistered
  applies := by
    obtain ⟨-, hdb, -, hmandates, -⟩ := first.deliver_of_accepts haccepts
    refine ⟨?_, second.applies.merchant, second.applies.state, ?_, second.applies.target,
      second.applies.live⟩
    · show (first.deliver s).2.db.transactions.get second.event.transactionId = some second.dbTx
      rw [hdb, (TransactionRepository.sameBut_moved first.env.db first.event.transactionId
        first.target s.db).rows _ (Ne.symm htransactions)]
      exact second.applies.row
    · show ¬ UnderRevoked (first.deliver s).2.mandates second.dbTx
      rw [hmandates]
      exact second.applies.mandate

end ReadyEvent

/-- Two different events of different transactions. -/
structure EventPair (engine : WebhookEngine) (s : WebhookStore) where
  first        : ReadyEvent engine s
  second       : ReadyEvent engine s
  ids          : first.event.eventId ≠ second.event.eventId
  transactions : first.event.transactionId ≠ second.event.transactionId

namespace EventPair

variable {engine : WebhookEngine} {s : WebhookStore}

/-- One after the other, both are processed. -/
def BothProcessed (p : EventPair engine s) : Prop :=
  p.first.Processed s ∧ p.second.Processed (p.first.deliver s).2

/-- Neither name is taken, and the identities differ where they are kept. -/
def NamesApart (p : EventPair engine s) : Prop :=
  s.ledger.Free p.first.auditId ∧ s.ledger.Free p.second.auditId
    ∧ p.first.event.eventId.toList.take 16 ≠ p.second.event.eventId.toList.take 16

theorem bothProcessed_iff {sha256 : String → String} (hsha : Function.Injective sha256)
    (hengine : ∀ text : String, engine.sha256 text.toUTF8 = sha256 text)
    (hledger : s.ledger.Genuine sha256) (p : EventPair engine s) :
    p.BothProcessed ↔ p.NamesApart := by
  rw [BothProcessed, NamesApart, p.first.processed_iff hsha hengine hledger]
  refine and_congr_right fun hfree => ?_
  have haccepts : s.ledger.Accepts (engine.audit p.first.env p.first.auditId)
      (auditEntry p.first.event p.first.dbTx p.first.target) :=
    (hledger.accepts_iff hsha (funext hengine)).mpr hfree
  obtain ⟨-, -, hrows, -⟩ := p.first.deliver_of_accepts haccepts
  have hgenuine : (p.first.deliver s).2.ledger.Genuine sha256 := by
    have hsame : (engine.audit p.first.env p.first.auditId).sha256 = sha256 := funext hengine
    rw [← hsame] at hledger ⊢
    exact hledger.append hrows
  have hsecond := (p.first.after p.second p.ids p.transactions haccepts).processed_iff hsha hengine
    hgenuine
  refine hsecond.trans ((AuditLedger.free_append_iff hrows).trans (and_congr_right fun _ => ?_))
  show ¬ WebhookEngine.auditId p.second.event.eventId
    = WebhookEngine.auditId p.first.event.eventId ↔ _
  rw [auditId_eq_iff]
  exact ne_comm

end EventPair

end WebhookEngine

/-! ## Two reconciliations -/

namespace ReconciliationService

open TransactionRepository

theorem auditId_eq_iff {a b : String} :
    auditId a = auditId b ↔ a.toList.take 12 = b.toList.take 12 :=
  prefixed_eq_iff

/-- A reconciliation in a unit of work of its own, committed when it returns. -/
def reconcile (env : RecoveryEnv) (transactionId : String) (s : Database × AuditLedger) :
    Except PyError ExecutionResult × (Database × AuditLedger) :=
  match asyncReconcileTransaction env transactionId (AuditedUnitOfWork.fresh s.1 s.2) with
  | (.ok result, u) => (.ok result, (u.rows.session, u.ledger))
  | (.error err, _) => (.error err, s)

/-- A call for an EXECUTING transaction about which the provider answers. -/
structure ReadyCall (sha256 : String → String) (db : Database) where
  env           : RecoveryEnv
  transactionId : String
  row           : TransactionRow
  answer        : ExecutionResult
  hashing       : env.sha256 = sha256
  stored        : db.transactions.get (Text.strip transactionId) = some row
  executing     : row.state = "EXECUTING"
  answered      : env.adapter.fetchPaymentStatus
    (TransactionRecoveryService.paymentRef row (Text.strip transactionId)) = .ok answer

namespace ReadyCall

variable {sha256 : String → String} {db : Database} {ledger : AuditLedger}

def clean (r : ReadyCall sha256 db) : String := Text.strip r.transactionId

/-- The name of its audit event. -/
def auditId (r : ReadyCall sha256 db) : String := ReconciliationService.auditId r.clean

/-- The provider reports the end of the payment, and so an event is recorded. -/
def Reported (r : ReadyCall sha256 db) : Prop :=
  r.answer.providerStatus = some .success ∨ r.answer.providerStatus = some .failed

instance (r : ReadyCall sha256 db) : Decidable r.Reported := inferInstanceAs (Decidable (_ ∨ _))

def reconcile (r : ReadyCall sha256 db) (s : Database × AuditLedger) :
    Except PyError ExecutionResult × (Database × AuditLedger) :=
  ReconciliationService.reconcile r.env r.transactionId s

def Returned (r : ReadyCall sha256 db) (s : Database × AuditLedger) : Prop :=
  ∃ result, (r.reconcile s).1 = .ok result

theorem storedIn (r : ReadyCall sha256 db) (ledger : AuditLedger) :
    StoredIn r.clean .executing (AuditedUnitOfWork.fresh db ledger).rows :=
  ⟨r.row, r.stored, r.executing⟩

theorem run_eq (r : ReadyCall sha256 db) (ledger : AuditLedger) :
    asyncReconcileTransaction r.env r.transactionId (AuditedUnitOfWork.fresh db ledger)
      = applyStatus r.env r.clean r.row .executing r.answer.providerStatus
        (AuditedUnitOfWork.fresh db ledger) := by
  have htrimmed : Text.strip r.clean = r.clean := Text.strip_strip r.transactionId
  have hsame : asyncReconcileTransaction r.env r.transactionId
      = asyncReconcileTransaction r.env r.clean := by
    rw [asyncReconcileTransaction, asyncReconcileTransaction, htrimmed]
    rfl
  rw [hsame]
  exact asyncReconcileTransaction_of_executing htrimmed r.stored r.executing r.answered

theorem applyStatus_of_reported (r : ReadyCall sha256 db) (h : r.Reported) :
    ∃ target eventType status result,
      target ∈ TransactionState.executing.legalNextStates
        ∧ applyStatus r.env r.clean r.row .executing r.answer.providerStatus
          = settle r.env r.clean r.row target eventType status result := by
  let ref := TransactionRecoveryService.paymentRef r.row r.clean
  by_cases hsuccess : r.answer.providerStatus = some .success
  · refine ⟨.committed, .paymentSuccess, .success, confirmedSuccess r.env r.clean ref,
      by decide, ?_⟩
    rw [applyStatus, if_pos hsuccess]
  · refine ⟨.rolledBack, .paymentFailed, .failed, confirmedFailure r.env r.clean ref,
      by decide, ?_⟩
    rw [applyStatus, if_neg hsuccess, if_pos (h.resolve_left hsuccess)]

/-- **A reported end is recorded when its name is free**, and else the call
    raises. -/
theorem reconcile_of_reported (hsha : Function.Injective sha256) (hledger : ledger.Genuine sha256)
    (r : ReadyCall sha256 db) (h : r.Reported) :
    (ledger.Free r.auditId → ∃ result target entry ledger',
      r.reconcile (db, ledger) = (.ok result, (moved r.env.db r.clean target db, ledger'))
        ∧ ledger'.rows = ledger.rows ++ [auditEvent (r.env.audit r.auditId) entry ledger])
      ∧ (¬ ledger.Free r.auditId → ¬ r.Returned (db, ledger)) := by
  obtain ⟨target, eventType, status, result, hlegal, hsettle⟩ := r.applyStatus_of_reported h
  have hrun := (r.run_eq ledger).trans (congrFun hsettle _)
  have haccepts : ledger.Accepts (r.env.audit r.auditId)
      (auditEntry eventType r.clean r.row status) ↔ ledger.Free r.auditId :=
    hledger.accepts_iff hsha r.hashing
  constructor
  · intro hfree
    obtain ⟨ledger', hsettled, hrows⟩ := @settle_of_accepts r.env r.clean r.row
      (AuditedUnitOfWork.fresh db ledger) target eventType status result (r.storedIn ledger) hlegal
      (haccepts.mpr hfree)
    refine ⟨result, target, _, ledger', ?_, hrows⟩
    rw [reconcile, ReconciliationService.reconcile, hrun, hsettled]
    rfl
  · rintro htaken ⟨result', hreturned⟩
    obtain ⟨err, hraised⟩ := @settle_of_not_accepts r.env r.clean r.row
      (AuditedUnitOfWork.fresh db ledger) target eventType status result (r.storedIn ledger) hlegal
      fun haccepted => htaken (haccepts.mp haccepted)
    rw [reconcile, ReconciliationService.reconcile, hrun, hraised] at hreturned
    cases hreturned

theorem reconcile_of_unreported (r : ReadyCall sha256 db) (h : ¬ r.Reported)
    (ledger : AuditLedger) :
    ∃ result, r.reconcile (db, ledger) = (.ok result, (db, ledger)) := by
  have hsuccess : r.answer.providerStatus ≠ some .success := fun heq => h (.inl heq)
  have hfailed : r.answer.providerStatus ≠ some .failed := fun heq => h (.inr heq)
  have hrun := r.run_eq ledger
  rw [applyStatus, if_neg hsuccess, if_neg hfailed] at hrun
  refine ⟨stillUnknown r.env r.clean (TransactionRecoveryService.paymentRef r.row r.clean)
    .executing, ?_⟩
  rw [reconcile, ReconciliationService.reconcile, hrun]
  rfl

/-- **One call returns exactly when the name of the event that it records, if it
    records one, is free.** -/
theorem returned_iff (hsha : Function.Injective sha256) (hledger : ledger.Genuine sha256)
    (r : ReadyCall sha256 db) :
    r.Returned (db, ledger) ↔ (r.Reported → ledger.Free r.auditId) := by
  by_cases hreported : r.Reported
  · obtain ⟨hfree, htaken⟩ := r.reconcile_of_reported hsha hledger hreported
    constructor
    · intro hreturned _
      by_contra h
      exact htaken h hreturned
    · intro h
      obtain ⟨result, target, entry, ledger', hrun, -⟩ := hfree (h hreported)
      exact ⟨result, congrArg Prod.fst hrun⟩
  · obtain ⟨result, hrun⟩ := r.reconcile_of_unreported hreported ledger
    exact ⟨fun _ h => absurd h hreported, fun _ => ⟨result, congrArg Prod.fst hrun⟩⟩

/-- The call on a database that still has its transaction. -/
def onDatabase (r : ReadyCall sha256 db) {db' : Database}
    (h : db'.transactions.get r.clean = db.transactions.get r.clean) : ReadyCall sha256 db' where
  env := r.env
  transactionId := r.transactionId
  row := r.row
  answer := r.answer
  hashing := r.hashing
  stored := h.trans r.stored
  executing := r.executing
  answered := r.answered

end ReadyCall

/-- Two calls for different transactions. -/
structure CallPair (sha256 : String → String) (db : Database) where
  first        : ReadyCall sha256 db
  second       : ReadyCall sha256 db
  transactions : first.clean ≠ second.clean

namespace CallPair

variable {sha256 : String → String} {db : Database} {ledger : AuditLedger}

def BothReturned (p : CallPair sha256 db) (ledger : AuditLedger) : Prop :=
  p.first.Returned (db, ledger)
    ∧ p.second.Returned (p.first.reconcile (db, ledger)).2

/-- No name of an event that is recorded is taken, and the transactions'
    identifiers differ where they are kept. -/
def NamesApart (p : CallPair sha256 db) (ledger : AuditLedger) : Prop :=
  (p.first.Reported → ledger.Free p.first.auditId)
    ∧ (p.second.Reported → ledger.Free p.second.auditId
      ∧ (p.first.Reported → p.first.clean.toList.take 12 ≠ p.second.clean.toList.take 12))

theorem bothReturned_iff (hsha : Function.Injective sha256) (hledger : ledger.Genuine sha256)
    (p : CallPair sha256 db) : p.BothReturned ledger ↔ p.NamesApart ledger := by
  rw [BothReturned, NamesApart, p.first.returned_iff hsha hledger]
  refine and_congr_right fun hfirst => ?_
  by_cases hreported : p.first.Reported
  · obtain ⟨result, target, entry, ledger', hrun, hrows⟩ :=
      (p.first.reconcile_of_reported hsha hledger hreported).1 (hfirst hreported)
    have hrow := (sameBut_moved p.first.env.db p.first.clean target db).rows _
      (Ne.symm p.transactions)
    have hgenuine : ledger'.Genuine sha256 := by
      have hsame : (p.first.env.audit p.first.auditId).sha256 = sha256 := p.first.hashing
      rw [← hsame] at hledger ⊢
      exact hledger.append hrows
    rw [hrun]
    refine ((p.second.onDatabase hrow).returned_iff hsha hgenuine).trans ?_
    refine forall_congr' fun _ => (AuditLedger.free_append_iff hrows).trans
      (and_congr_right fun _ => ?_)
    show ¬ ReconciliationService.auditId p.second.clean
      = ReconciliationService.auditId p.first.clean ↔ _
    rw [auditId_eq_iff]
    exact ⟨fun hne _ heq => hne heq.symm, fun h heq => h hreported heq.symm⟩
  · obtain ⟨result, hrun⟩ := p.first.reconcile_of_unreported hreported ledger
    rw [hrun]
    refine (p.second.returned_iff hsha hledger).trans (forall_congr' fun _ => ?_)
    exact (and_iff_left fun h => absurd h hreported).symm

end CallPair

end ReconciliationService

/-- **Two webhook events, and two reconciliations, are both made exactly when the
    names of their audit events are free and apart.** -/
theorem both_made_iff {sha256 : String → String} (hsha : Function.Injective sha256)
    {engine : WebhookEngine} (hengine : ∀ text : String, engine.sha256 text.toUTF8 = sha256 text)
    {s : WebhookStore} (hledger : s.ledger.Genuine sha256)
    (events : WebhookEngine.EventPair engine s)
    (calls : ReconciliationService.CallPair sha256 s.db) :
    (events.BothProcessed ↔ events.NamesApart)
      ∧ (calls.BothReturned s.ledger ↔ calls.NamesApart s.ledger) :=
  ⟨events.bothProcessed_iff hsha hengine hledger, calls.bothReturned_iff hsha hledger⟩

/-! ## Names of one day -/

namespace WebhookEngine

namespace Sample

def sha256 : String → String := HashChain.knownDigests digests

theorem sha256_injective : Function.Injective sha256 := by
  refine HashChain.knownDigests_injective ?_ ?_
  · decide +kernel
  · decide +kernel

theorem engine_sha256 (text : String) : engine.sha256 text.toUTF8 = sha256 text :=
  ofBytes_toUTF8 _ text

theorem nodup_pair {t t' : String} (h : t ≠ t') :
    ([row t, row t'].map TransactionRow.transactionId).Nodup :=
  List.nodup_cons.mpr ⟨fun hmem => h (List.mem_singleton.mp hmem), List.nodup_singleton _⟩

theorem days_ne : "tx_20240101_0001" ≠ "tx_20240102_0001" := by decide

theorem payments_ne : "tx_20240101_0001" ≠ "tx_20240101_0002" := by decide

def twoDays : WebhookStore :=
  store ⟨[row "tx_20240101_0001", row "tx_20240102_0001"], nodup_pair days_ne⟩

def oneDay : WebhookStore :=
  store ⟨[row "tx_20240101_0001", row "tx_20240101_0002"], nodup_pair payments_ne⟩

theorem applies_first :
    Applies firstEvent twoDays.beginUnit (row "tx_20240101_0001") .executing .committed := by
  refine ⟨rfl, .inr rfl, rfl, ?_, by decide, by decide⟩
  intro hrevoked
  cases hrevoked

theorem applies_second (eventId : String) :
    Applies (event eventId "tx_20240102_0001") twoDays.beginUnit (row "tx_20240102_0001")
      .executing .committed := by
  refine ⟨rfl, .inr rfl, rfl, ?_, ?_, applies_first.live⟩
  · intro hrevoked
    cases hrevoked
  · exact applies_first.target

theorem timely_first : isFresh (env 10).now 1704067200 = true := by decide

theorem timely_second : isFresh (env 20).now 1704067200 = true := by decide

def firstReady : ReadyEvent engine twoDays where
  env := env 10
  call := firstCall
  event := firstEvent
  dbTx := row "tx_20240101_0001"
  target := .committed
  inspected := inspect_firstCall 10 timely_first
  unregistered := rfl
  applies := applies_first

def secondReady (eventId : String)
    (hnames : Names (some eventId) (Json.value (body "tx_20240102_0001"))
      (event eventId "tx_20240102_0001")) : ReadyEvent engine twoDays where
  env := env 20
  call := call eventId "tx_20240102_0001" secondMac
  event := event eventId "tx_20240102_0001"
  dbTx := row "tx_20240102_0001"
  target := .committed
  inspected := inspect_call verified_second hnames timely_second
  unregistered := rfl
  applies := applies_second eventId

theorem names_otherDay :
    Names (some "evt_20240102_0001") (Json.value (body "tx_20240102_0001"))
      (event "evt_20240102_0001" "tx_20240102_0001") :=
  ⟨rfl, rfl, ⟨_, rfl, rfl, rfl⟩, by decide, by decide⟩

theorem names_sameDay :
    Names (some "evt_20240101_0002") (Json.value (body "tx_20240102_0001"))
      (event "evt_20240101_0002" "tx_20240102_0001") :=
  ⟨rfl, rfl, ⟨_, rfl, rfl, rfl⟩, by decide, by decide⟩

theorem ids_otherDay : firstEvent.eventId ≠ "evt_20240102_0001" := by decide

theorem ids_sameDay : firstEvent.eventId ≠ "evt_20240101_0002" := by decide

def apart : EventPair engine twoDays :=
  ⟨firstReady, secondReady "evt_20240102_0001" names_otherDay, ids_otherDay, days_ne⟩

def colliding : EventPair engine twoDays :=
  ⟨firstReady, secondReady "evt_20240101_0002" names_sameDay, ids_sameDay, days_ne⟩

def readyCall (db : Database) (seconds : Int) (t : String)
    (hstored : db.transactions.get (Text.strip t) = some (row t)) :
    ReconciliationService.ReadyCall sha256 db where
  env := ⟨(env seconds).db, Sample.answering true .success, sha256, ""⟩
  transactionId := t
  row := row t
  answer := Sample.answerOf true .success
  hashing := rfl
  stored := hstored
  executing := rfl
  answered := rfl

theorem clean_days_ne : Text.strip "tx_20240101_0001" ≠ Text.strip "tx_20240102_0001" := by decide

theorem clean_payments_ne : Text.strip "tx_20240101_0001" ≠ Text.strip "tx_20240101_0002" := by
  decide

def callsApart : ReconciliationService.CallPair sha256 twoDays.db :=
  ⟨readyCall twoDays.db 10 "tx_20240101_0001" rfl, readyCall twoDays.db 20 "tx_20240102_0001" rfl,
    clean_days_ne⟩

def callsColliding : ReconciliationService.CallPair sha256 oneDay.db :=
  ⟨readyCall oneDay.db 10 "tx_20240101_0001" rfl, readyCall oneDay.db 20 "tx_20240101_0002" rfl,
    clean_payments_ne⟩

theorem reported (db : Database) (seconds : Int) (t : String)
    (hstored : db.transactions.get (Text.strip t) = some (row t)) :
    (readyCall db seconds t hstored).Reported := .inl rfl

end Sample

end WebhookEngine

open WebhookEngine in
/-- Events and reconciliations of two days are all made. -/
theorem both_made_iff_two_days :
    Sample.apart.BothProcessed ∧ Sample.callsApart.BothReturned AuditLedger.empty := by
  have hiff := both_made_iff Sample.sha256_injective Sample.engine_sha256
    (AuditLedger.genuine_empty Sample.sha256) Sample.apart Sample.callsApart
  have hfree (eventId : String) : AuditLedger.empty.Free eventId := List.not_mem_nil
  refine ⟨hiff.1.mpr ⟨hfree _, hfree _, by decide⟩, hiff.2.mpr ⟨fun _ => hfree _, fun _ =>
    ⟨hfree _, fun _ => ?_⟩⟩⟩
  show (Text.strip "tx_20240101_0001").toList.take 12
    ≠ (Text.strip "tx_20240102_0001").toList.take 12
  decide

open WebhookEngine in
/-- Of two events of one day, and of two reconciliations, the second is refused. -/
theorem names_of_one_day_collide :
    (Sample.colliding.first.Processed Sample.twoDays
      ∧ ¬ Sample.colliding.second.Processed (Sample.colliding.first.deliver Sample.twoDays).2)
    ∧ Sample.callsColliding.first.Returned (Sample.oneDay.db, AuditLedger.empty)
      ∧ ¬ Sample.callsColliding.second.Returned
        (Sample.callsColliding.first.reconcile (Sample.oneDay.db, AuditLedger.empty)).2 := by
  have hgenuine := AuditLedger.genuine_empty Sample.sha256
  have hfree (eventId : String) : AuditLedger.empty.Free eventId := List.not_mem_nil
  have hfirst : Sample.colliding.first.Processed Sample.twoDays :=
    (Sample.colliding.first.processed_iff Sample.sha256_injective Sample.engine_sha256
      hgenuine).mpr (hfree _)
  have hreturned : Sample.callsColliding.first.Returned (Sample.oneDay.db, AuditLedger.empty) :=
    (Sample.callsColliding.first.returned_iff Sample.sha256_injective hgenuine).mpr
      fun _ => hfree _
  refine ⟨⟨hfirst, fun hsecond => ?_⟩, hreturned, fun hsecond => ?_⟩
  · have hapart := (Sample.colliding.bothProcessed_iff Sample.sha256_injective
      Sample.engine_sha256 hgenuine).mp ⟨hfirst, hsecond⟩
    exact hapart.2.2 (by decide)
  · have hapart := (Sample.callsColliding.bothReturned_iff Sample.sha256_injective hgenuine).mp
      ⟨hreturned, hsecond⟩
    have hreported : Sample.callsColliding.second.Reported := Sample.reported ..
    refine (hapart.2 hreported).2 (Sample.reported ..) ?_
    show (Text.strip "tx_20240101_0001").toList.take 12
      = (Text.strip "tx_20240101_0002").toList.take 12
    decide

end MandateGateway
