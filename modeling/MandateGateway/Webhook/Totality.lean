import MandateGateway.Webhook.Delivery
import MandateGateway.Webhook.Readable

/-! # Which webhook calls return

    A call raises where its signature cannot be compared, where a signed payload
    is not readable, and where its event is to be applied to a transaction whose
    state is unknown or does not lead to the event's target, or whose audit event
    cannot be stored.  `Processable` says of a call and a store that nothing of
    this happens; the call returns exactly then, and what it returns without
    applying the event leaves the transactions alone (`returnsSafely_iff`). -/

namespace MandateGateway

open Clock Exceptions Json Raising

namespace WebhookEngine

/-! ## Which calls return -/

section
variable (engine : WebhookEngine) (env : WebhookEnv) (call : WebhookCall) (s : WebhookStore)

/-- The signature is missing, or can be compared with the digest. -/
def Comparable (rawPayload : ByteArray) (signature : Option String) : Prop :=
  ∀ text, signature = some text → Text.strip text ≠ "" →
    isAscii (Text.lower (engine.hmac engine.webhookSecret rawPayload)) = true
      ∧ isAscii (Text.lower (withoutPrefix (Text.strip text))) = true

/-- The body is signed. -/
def Signed (rawPayload : ByteArray) (signature : Option String) : Prop :=
  engine.verifySignature rawPayload signature = .ok true

/-- The transaction in this row can take the event, unless the event is refused
    for its merchant. -/
def Takes (e : ProviderEvent) (dbTx : TransactionRow) : Prop :=
  e.merchantId = "" ∨ dbTx.merchantId = e.merchantId →
    ∃ current : TransactionState, dbTx.state = current.value
      ∧ (¬ UnderRevoked s.mandates dbTx → ¬ Protected current → ∀ target,
        targetState e.eventType = some target → target ∈ current.legalNextStates
          ∧ s.ledger.Accepts (engine.audit env (auditId e.eventId)) (auditEntry e dbTx target))

/-- The event of a signed payload is new and is about this row. -/
structure Concerns (payload : Value) (e : ProviderEvent) (dbTx : TransactionRow) : Prop where
  named      : e = eventOf call.eventId payload
  identified : e.eventId ≠ ""
  correlated : e.transactionId ≠ ""
  timely     : InWindow (call.now?.getD env.now) payload
  new        : s.events.get e.eventId = none
  row        : s.db.transactions.get e.transactionId = some dbTx

/-- The call can be processed: its signature can be compared, and a signed
    payload is readable and names an event that its transaction can take. -/
structure Processable : Prop where
  comparable : Comparable engine call.rawPayload call.signature
  readable   : Signed engine call.rawPayload call.signature → ∀ payload,
    parsePayload call.rawPayload = some payload
      → Readable (call.now?.getD env.now) call.eventId payload
  takes      : Signed engine call.rawPayload call.signature → ∀ payload e dbTx,
    parsePayload call.rawPayload = some payload → Concerns env call s payload e dbTx
      → Takes engine env s e dbTx

/-- The result says that the event was applied. -/
def IsApplied (result : WebhookProcessingResult) : Prop :=
  ∃ e target, result = processed e target

/-- The call returns, and unless its result applies the event it leaves the
    transactions and all that is stored with them as they were. -/
def ReturnsSafely : Prop :=
  ∃ result u, engine.asyncProcessWebhook env call s.beginUnit = (.ok result, u)
    ∧ (¬ IsApplied result → u.saved.db = s.db ∧ u.saved.mandates = s.mandates
      ∧ u.saved.ledger = s.ledger)

end

section
variable {engine : WebhookEngine} {env : WebhookEnv} {call : WebhookCall} {s : WebhookStore}
  {e : ProviderEvent} {dbTx : TransactionRow}

theorem verifySignature_returns_iff {rawPayload : ByteArray} {signature : Option String} :
    (∃ verified, engine.verifySignature rawPayload signature = .ok verified)
      ↔ Comparable engine rawPayload signature := by
  cases signature with
  | none =>
      refine ⟨fun _ text h => ?_, fun _ => ⟨false, rfl⟩⟩
      cases h
  | some text =>
      rw [verifySignature]
      dsimp only
      by_cases hblank : text = "" ∨ Text.strip text = ""
      · rw [if_pos hblank]
        refine ⟨fun _ text' h hne => ?_, fun _ => ⟨_, rfl⟩⟩
        obtain rfl := Option.some.inj h
        rcases hblank with hempty | hblank
        · rw [hempty] at hne
          exact absurd rfl hne
        · exact absurd hblank hne
      · have hgiven : Text.strip text ≠ "" := fun h => hblank (.inr h)
        have hcomparable : Comparable engine rawPayload (some text)
            ↔ (isAscii (Text.lower (engine.hmac engine.webhookSecret rawPayload))
              && isAscii (Text.lower (withoutPrefix (Text.strip text)))) = true := by
          rw [Bool.and_eq_true_iff]
          refine ⟨fun h => h text rfl hgiven, fun h text' heq _ => ?_⟩
          rw [← Option.some.inj heq]
          exact h
        rw [if_neg hblank, compareDigest, hcomparable]
        by_cases hascii : (isAscii (Text.lower (engine.hmac engine.webhookSecret rawPayload))
            && isAscii (Text.lower (withoutPrefix (Text.strip text)))) = true
        · rw [if_pos hascii]
          exact ⟨fun _ => hascii, fun _ => ⟨_, rfl⟩⟩
        · rw [if_neg hascii]
          exact ⟨fun h => (not_exists_error_eq_ok _ h).elim, fun h => absurd h hascii⟩

/-- **A call is inspected without an error** exactly when its signature can be
    compared and a signed payload is readable. -/
theorem inspect_returns_iff :
    (∃ verdict, engine.inspect env call = .ok verdict)
      ↔ Comparable engine call.rawPayload call.signature
        ∧ (Signed engine call.rawPayload call.signature → ∀ payload,
          parsePayload call.rawPayload = some payload
            → Readable (call.now?.getD env.now) call.eventId payload) := by
  rw [inspect, ← verifySignature_returns_iff, Signed]
  cases engine.verifySignature call.rawPayload call.signature with
  | error err =>
      refine ⟨fun h => (not_exists_error_eq_ok err h).elim, fun h => ?_⟩
      exact (not_exists_error_eq_ok err h.1).elim
  | ok verified =>
      cases verified with
      | false =>
          exact ⟨fun _ => ⟨⟨_, rfl⟩, fun h => Bool.noConfusion (Except.ok.inj h)⟩,
            fun _ => ⟨_, rfl⟩⟩
      | true =>
          dsimp only
          cases parsePayload call.rawPayload with
          | none => exact ⟨fun _ => ⟨⟨_, rfl⟩, fun _ _ h => by cases h⟩, fun _ => ⟨_, rfl⟩⟩
          | some payload =>
              refine inspectPayload_returns_iff.trans ⟨fun h => ⟨⟨_, rfl⟩, fun _ _ hp => ?_⟩,
                fun h => h.2 rfl payload rfl⟩
              rw [← Option.some.inj hp]
              exact h

theorem applyTransition_returns_iff {u : WebhookUnitOfWork} {current target : TransactionState}
    (h : Applies e u dbTx current target) (hactive : u.audited.active = true) :
    (∃ result u', applyTransition engine env e dbTx target u = (.ok result, u'))
      ↔ target ∈ current.legalNextStates
        ∧ u.audited.ledger.Accepts (engine.audit env (auditId e.eventId))
          (auditEntry e dbTx target) := by
  by_cases hlegal : target ∈ current.legalNextStates
  · by_cases haccepts : u.audited.ledger.Accepts (engine.audit env (auditId e.eventId))
        (auditEntry e dbTx target)
    · obtain ⟨ledger, happly, -⟩ := applyTransition_of_accepts h hactive hlegal haccepts
      exact ⟨fun _ => ⟨hlegal, haccepts⟩, fun _ => ⟨_, _, happly⟩⟩
    · obtain ⟨err, happly⟩ := applyTransition_of_not_accepts h hactive hlegal haccepts
      rw [happly]
      exact ⟨fun hreturns => (not_exists_raised_eq_ok _ _ hreturns).elim, fun hboth =>
        absurd hboth.2 haccepts⟩
  · rw [applyTransition_of_illegal h hactive hlegal]
    exact ⟨fun hreturns => (not_exists_raised_eq_ok _ _ hreturns).elim, fun hboth =>
      absurd hboth.1 hlegal⟩

variable (engine env s) in
theorem takes_iff_of_state {current : TransactionState}
    (hmerchant : e.merchantId = "" ∨ dbTx.merchantId = e.merchantId)
    (hstate : dbTx.state = current.value) :
    Takes engine env s e dbTx
      ↔ (¬ UnderRevoked s.mandates dbTx → ¬ Protected current → ∀ target,
        targetState e.eventType = some target → target ∈ current.legalNextStates
          ∧ s.ledger.Accepts (engine.audit env (auditId e.eventId))
            (auditEntry e dbTx target)) := by
  constructor
  · intro h
    obtain ⟨current', hstate', htakes⟩ := h hmerchant
    obtain rfl := Except.ok.inj
      ((parseState_eq_ok_iff.mpr hstate).symm.trans (parseState_eq_ok_iff.mpr hstate'))
    exact htakes
  · intro h _
    exact ⟨current, hstate, h⟩

theorem judge_of_missing {u : WebhookUnitOfWork}
    (hrow : u.audited.rows.session.transactions.get e.transactionId = none) :
    judge e u = .ok (.inl (notFound e)) := by
  rw [judge, hrow]

theorem judge_of_applies {u : WebhookUnitOfWork} {current target : TransactionState}
    (h : Applies e u dbTx current target) : judge e u = .ok (.inr (dbTx, target)) :=
  judge_eq_apply_iff.mpr ⟨current, h⟩

/-- The checks answer, or raise, or the event applies. -/
inductive Judged (engine : WebhookEngine) (env : WebhookEnv) (e : ProviderEvent)
    (s : WebhookStore) (dbTx : TransactionRow) : Prop where
  | answered (result : WebhookProcessingResult)
      (hjudge : judge e s.beginUnit = .ok (.inl result)) (htakes : Takes engine env s e dbTx)
  | raised (err : WebhookError) (hjudge : judge e s.beginUnit = .error err)
      (htakes : ¬ Takes engine env s e dbTx)
  | applied (current target : TransactionState)
      (happlies : Applies e s.beginUnit dbTx current target)

variable (engine env) in
theorem judged_of_row (hrow : s.db.transactions.get e.transactionId = some dbTx) :
    Judged engine env e s dbTx := by
  have hread : s.beginUnit.audited.rows.session.transactions.get e.transactionId = some dbTx :=
    hrow
  have hjudge : judge e s.beginUnit = judgeRow s.mandates e dbTx := by
    rw [judge, hread]
    rfl
  by_cases hmismatch : e.merchantId ≠ "" ∧ dbTx.merchantId ≠ e.merchantId
  · rw [judgeRow, if_pos hmismatch] at hjudge
    exact .answered _ hjudge fun hmatch => (hmatch.elim hmismatch.1 hmismatch.2).elim
  have hmatch : e.merchantId = "" ∨ dbTx.merchantId = e.merchantId := by
    by_cases hnamed : e.merchantId = ""
    · exact .inl hnamed
    · exact .inr (Decidable.not_not.mp fun hne => hmismatch ⟨hnamed, hne⟩)
  rw [judgeRow, if_neg hmismatch] at hjudge
  cases hparse : parseState dbTx.state with
  | error err =>
      rw [hparse] at hjudge
      refine .raised _ hjudge fun htakes => ?_
      obtain ⟨current, hstate, -⟩ := htakes hmatch
      rw [parseState_eq_ok_iff.mpr hstate] at hparse
      cases hparse
  | ok current =>
      have hstate := parseState_eq_ok_iff.mp hparse
      have htakes := takes_iff_of_state engine env s hmatch hstate
      rw [hparse] at hjudge
      dsimp only at hjudge
      by_cases hrevoked : UnderRevoked s.mandates dbTx
      · rw [if_pos hrevoked] at hjudge
        exact .answered _ hjudge (htakes.mpr fun hlive => absurd hrevoked hlive)
      rw [if_neg hrevoked, judgeState] at hjudge
      cases htarget : targetState e.eventType with
      | none =>
          rw [htarget] at hjudge
          refine .answered _ hjudge (htakes.mpr fun _ _ target h => ?_)
          rw [htarget] at h
          cases h
      | some target =>
          rw [htarget] at hjudge
          dsimp only at hjudge
          by_cases hprotected : Protected current
          · rw [if_pos hprotected, ← apply_ite Sum.inl] at hjudge
            exact .answered _ hjudge (htakes.mpr fun _ hlive => absurd hprotected hlive)
          · exact .applied current target ⟨hread, hmatch, hstate, hrevoked, htarget, hprotected⟩

/-- **A new event is processed without an error** exactly when the transaction
    that it is about can take it. -/
theorem returns_of_new_iff (hevent : engine.inspect env call = .ok (.inr e))
    (hnew : s.events.get e.eventId = none) :
    (∃ result u, engine.asyncProcessWebhook env call s.beginUnit = (.ok result, u))
      ↔ ∀ dbTx, s.db.transactions.get e.transactionId = some dbTx → Takes engine env s e dbTx := by
  obtain ⟨events, -, hrun⟩ := asyncProcessWebhook_of_new (u := s.beginUnit) hevent hnew
  cases hrow : s.db.transactions.get e.transactionId with
  | none =>
      rw [judge_of_missing (u := s.beginUnit) hrow] at hrun
      refine ⟨fun _ _ h => ?_, fun _ => ⟨_, _, hrun⟩⟩
      cases h
  | some dbTx =>
      have hone : (∀ row, some dbTx = some row → Takes engine env s e row)
          ↔ Takes engine env s e dbTx := by
        refine ⟨fun h => h dbTx rfl, fun h row heq => ?_⟩
        rw [← Option.some.inj heq]
        exact h
      rw [hone]
      cases judged_of_row engine env hrow with
      | answered result hjudge htakes =>
          rw [hjudge] at hrun
          exact ⟨fun _ => htakes, fun _ => ⟨_, _, hrun⟩⟩
      | raised err hjudge htakes =>
          rw [hjudge] at hrun
          rw [hrun]
          exact ⟨fun h => (not_exists_raised_eq_ok _ _ h).elim, fun h => absurd h htakes⟩
      | applied current target happlies =>
          rw [judge_of_applies happlies] at hrun
          rw [hrun, takes_iff_of_state engine env s happlies.merchant happlies.state]
          refine (applyTransition_returns_iff (happlies.of_events events) rfl).trans
            ⟨fun h _ _ target' htarget => ?_, fun h => h happlies.mandate happlies.live target
              happlies.target⟩
          obtain rfl := Option.some.inj (happlies.target.symm.trans htarget)
          exact h

theorem inspect_of_concerns {payload : Value}
    (hsigned : Signed engine call.rawPayload call.signature)
    (hparse : parsePayload call.rawPayload = some payload)
    (hreadable : Readable (call.now?.getD env.now) call.eventId payload)
    (h : Concerns env call s payload e dbTx) : engine.inspect env call = .ok (.inr e) :=
  inspect_eq_event_iff.mpr ⟨hsigned, payload, hparse,
    (names_iff hreadable h.timely).mpr ⟨h.named, h.identified, h.correlated⟩, h.timely⟩

/-- **A call returns** exactly when it can be processed. -/
theorem returns_iff :
    (∃ result u, engine.asyncProcessWebhook env call s.beginUnit = (.ok result, u))
      ↔ Processable engine env call s := by
  cases hinspect : engine.inspect env call with
  | error err =>
      rw [asyncProcessWebhook_of_raised hinspect]
      refine ⟨fun h => (not_exists_raised_eq_ok _ _ h).elim, fun h => ?_⟩
      have hreturns := inspect_returns_iff.mpr ⟨h.comparable, h.readable⟩
      rw [hinspect] at hreturns
      exact (not_exists_error_eq_ok err hreturns).elim
  | ok verdict =>
      obtain ⟨hcomparable, hreadable⟩ := inspect_returns_iff.mp ⟨verdict, hinspect⟩
      have hsame {payload : Value} {e' : ProviderEvent} {dbTx : TransactionRow}
          (hsigned : Signed engine call.rawPayload call.signature)
          (hparse : parsePayload call.rawPayload = some payload)
          (h : Concerns env call s payload e' dbTx) : verdict = .inr e' :=
        Except.ok.inj (hinspect.symm.trans
          (inspect_of_concerns hsigned hparse (hreadable hsigned payload hparse) h))
      cases verdict with
      | inl result =>
          refine ⟨fun _ => ⟨hcomparable, hreadable, fun hsigned payload e' dbTx hparse h => ?_⟩,
            fun _ => ⟨_, _, asyncProcessWebhook_of_refused hinspect⟩⟩
          cases hsame hsigned hparse h
      | inr e =>
          obtain ⟨hsigned, payload, hparse, hnames, hwindow⟩ := inspect_eq_event_iff.mp hinspect
          cases hget : s.events.get e.eventId with
          | some row =>
              refine ⟨fun _ => ⟨hcomparable, hreadable, fun hsigned payload e' dbTx hparse h => ?_⟩,
                fun _ => ⟨_, _, asyncProcessWebhook_of_duplicate (u := s.beginUnit) hinspect hget⟩⟩
              obtain rfl := Sum.inr.inj (hsame hsigned hparse h)
              rw [h.new] at hget
              cases hget
          | none =>
              rw [returns_of_new_iff hinspect hget]
              constructor
              · intro h
                refine ⟨hcomparable, hreadable, fun hsigned payload e' dbTx hparse hconcerns => ?_⟩
                obtain rfl := Sum.inr.inj (hsame hsigned hparse hconcerns)
                exact h dbTx hconcerns.row
              · intro h dbTx hrow
                obtain ⟨hnamed, hidentified, hcorrelated⟩ :=
                  (names_iff (hreadable hsigned payload hparse) hwindow).mp hnames
                exact h.takes hsigned payload e dbTx hparse
                  ⟨hnamed, hidentified, hcorrelated, hwindow, hget, hrow⟩

theorem unchanged_of_not_applied {result : WebhookProcessingResult} {u : WebhookUnitOfWork}
    (hrun : engine.asyncProcessWebhook env call s.beginUnit = (.ok result, u))
    (hnot : ¬ IsApplied result) :
    u.saved.db = s.db ∧ u.saved.mandates = s.mandates ∧ u.saved.ledger = s.ledger := by
  have houtcome : Outcome engine env call s _ _ := run_outcome
  rw [hrun] at houtcome
  dsimp only at houtcome
  generalize u.saved = after at houtcome
  cases houtcome with
  | refused hinspect => exact ⟨rfl, rfl, rfl⟩
  | duplicate hevent hpresent => exact ⟨rfl, rfl, rfl⟩
  | judged hevent hnew hanswer => exact ⟨rfl, rfl, rfl⟩
  | applied hevent hnew happlies hlegal => exact absurd ⟨_, _, rfl⟩ hnot

/-- **A call returns, and changes nothing unless it applies the event,** exactly
    when it can be processed. -/
theorem returnsSafely_iff : ReturnsSafely engine env call s ↔ Processable engine env call s := by
  rw [← returns_iff]
  constructor
  · rintro ⟨result, u, hrun, -⟩
    exact ⟨result, u, hrun⟩
  · rintro ⟨result, u, hrun⟩
    exact ⟨result, u, hrun, unchanged_of_not_applied hrun⟩

end

namespace Sample

def listMac : String := "fa3b2b3c529d14e20ecf20d13ff3171f16c466594b5ade780a7d221b0b96e848"

def listEngine : WebhookEngine :=
  { engine with
    hmac := fun _ => ofBytes (HashChain.knownDigests [((Json.arr []).compact, listMac)]) }

def listCall : WebhookCall where
  rawPayload := (Json.arr []).compact.toUTF8
  signature := some listMac
  eventId := some "evt_20240101_0001"
  now? := none

theorem listEngine_hmac (secret : String) (bytes : ByteArray) :
    listEngine.hmac secret bytes
      = ofBytes (HashChain.knownDigests [((Json.arr []).compact, listMac)]) bytes := rfl

theorem hmac_list (secret : String) :
    listEngine.hmac secret (Json.arr []).compact.toUTF8 = listMac := by
  rw [listEngine_hmac, ofBytes_toUTF8, HashChain.knownDigests_cons_self]

theorem signed_list : Signed listEngine listCall.rawPayload listCall.signature :=
  verifySignature_of_eq (hmac_list _) (by decide) (by decide) (by decide) (by decide)

theorem not_returnsSafely_list :
    Signed listEngine listCall.rawPayload listCall.signature
      ∧ ¬ ReturnsSafely listEngine (env 10) listCall (store Table.empty) := by
  refine ⟨signed_list, ?_⟩
  have hinspect : listEngine.inspect (env 10) listCall
      = .error (attributeError (.arr []) "get") := by
    rw [inspect_of_parsed signed_list (parsePayload_compact (.arr []))]
    rfl
  rintro ⟨result, u, hrun, -⟩
  rw [asyncProcessWebhook_of_raised hinspect] at hrun
  cases (Prod.mk.inj hrun).1

end Sample

end WebhookEngine

end MandateGateway
