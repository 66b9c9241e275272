import MandateGateway.Execution.AsyncRejection
import MandateGateway.Execution.ProcessRuns

/-! # Retries after a crash

    The claim of an attempt keeps a retry from the provider only once it is
    committed, and the service commits nothing before it asks: a call whose
    record is lost is asked again.  This file says which runs lose none, and
    that the provider is asked at most once per key in them. -/

namespace MandateGateway

open Raising Runs ExecutionAttemptRepository TransactionRepository AsyncPaymentExecution

/-- The statuses of an attempt that is answered without the provider. -/
def closedStatuses : List String := "SUCCESS" :: inFlightStatuses

/-- An attempt under the key is done, or left to whoever claimed it. -/
def ClosedIn (key : String × String) (attempts : Table ExecutionAttemptRow.attemptId) : Prop :=
  ∃ a ∈ attempts.rows, (a.merchantId, a.idempotencyKey) = key ∧ a.status ∈ closedStatuses

def Database.Closed (db : Database) (key : String × String) : Prop :=
  ClosedIn key db.executionAttempts

/-! ## What keeps a key closed -/

theorem Database.Closed.mono {db db' : Database} {key : String × String}
    (h : db.Closed key)
    (hkept : ∀ a ∈ db.executionAttempts.rows, a ∈ db'.executionAttempts.rows) :
    db'.Closed key := by
  obtain ⟨a, ha, hkey, hstatus⟩ := h
  exact ⟨a, hkept a ha, hkey, hstatus⟩

theorem closed_finished_of_mem {db : Database} {a : ExecutionAttemptRow} {env : DbEnv}
    {status : String} {ref : Option String} (ha : a ∈ db.executionAttempts.rows)
    (htrimmed : Text.strip a.attemptId = a.attemptId) (hstatus : status ∈ closedStatuses) :
    (finished env a.attemptId status ref db).Closed (a.merchantId, a.idempotencyKey) :=
  ⟨_, List.mem_map.mpr ⟨a, ha, if_pos htrimmed.symm⟩, rfl, hstatus⟩

theorem Database.Closed.finished {db : Database} {key : String × String} (h : db.Closed key)
    (env : DbEnv) (attemptId : String) {status : String} (ref : Option String)
    (hclosed : status ∈ closedStatuses) : (finished env attemptId status ref db).Closed key := by
  obtain ⟨a, ha, hkey, hstatus⟩ := h
  refine ⟨_, List.mem_map.mpr ⟨a, ha, rfl⟩, ?_⟩
  by_cases hid : a.attemptId = Text.strip attemptId
  · rw [if_pos hid]
    exact ⟨hkey, hclosed⟩
  · rw [if_neg hid]
    exact ⟨hkey, hstatus⟩

theorem transition_keepsAttempts {env : DbEnv} {t : String} {target : TransactionState} :
    Keeps (fun uow => uow.session.executionAttempts)
      (transitionTransactionState env t target) :=
  keeps_of_sameBut (fun _ _ h => h.attempts) (transition_sameBut env t target)

theorem recordProviderOutcome_keepsAttempts {env : DbEnv} {t status : String}
    {ref : Option String} :
    Keeps (fun uow => uow.session.executionAttempts)
      (recordProviderOutcome env t status ref) :=
  keeps_of_sameBut (fun _ _ h => h.attempts) (recordProviderOutcome_sameBut env t status ref)

theorem createEvent_keepsAttempts {env : DbEnv} {eventType aggregateType aggregateId : String}
    {payload : Json} :
    Keeps (fun uow => uow.session.executionAttempts)
      (createEvent env eventType aggregateType aggregateId payload) := by
  intro uow u uow' h
  rw [createEvent_eq] at h
  cases hinsert : uow.session.outboxEvents.insert
      (outboxEvent env eventType aggregateType aggregateId payload) with
  | none =>
      rw [hinsert] at h
      cases (Prod.mk.inj h).1
  | some events =>
      rw [hinsert] at h
      obtain ⟨-, rfl⟩ := Prod.mk.inj h
      rfl

theorem recordOutcome_keepsClosed {env : DbEnv} {attemptId status : String}
    {ref : Option String} {key : String × String} (hclosed : status ∈ closedStatuses) :
    Returns (fun uow => uow.session.Closed key) (recordOutcome env attemptId status ref)
      fun _ uow => uow.session.Closed key := by
  intro uow u uow' hkey h
  cases hget : uow.session.executionAttempts.get (Text.strip attemptId) with
  | none =>
      rw [recordOutcome_of_missing hget] at h
      cases (Prod.mk.inj h).1
  | some a =>
      rw [recordOutcome_of_get hget] at h
      obtain ⟨-, rfl⟩ := Prod.mk.inj h
      exact hkey.finished env attemptId ref hclosed

theorem recordAnswer_keepsClosed {env : AsyncEnv} {q : AsyncRequest} {a : ExecutionAttemptRow}
    {answer : ExecutionResult} {key : String × String} :
    Returns (fun uow => uow.session.Closed key ∧ StoredIn q.transactionId .executing uow)
      (recordAnswer env q a answer) fun _ uow => uow.session.Closed key := by
  intro uow u uow' hstart h
  obtain ⟨hkey, hexecuting⟩ := hstart
  have hcongr {uow₁ uow₂ : UnitOfWork} (hkey : uow₁.session.Closed key)
      (heq : uow₂.session.executionAttempts = uow₁.session.executionAttempts) :
      uow₂.session.Closed key := by
    rw [Database.Closed, heq]
    exact hkey
  by_cases hsuccess : answer.success = true
  · rw [recordAnswer, if_pos hsuccess] at h
    obtain ⟨u₁, uow₁, hnote, hrest⟩ := bind_eq_ok_iff.mp h
    obtain ⟨u₂, uow₂, hmove, hrest⟩ := bind_eq_ok_iff.mp hrest
    obtain ⟨u₃, uow₃, hfinish, hevent⟩ := bind_eq_ok_iff.mp hrest
    have hkey₁ := hcongr hkey (recordProviderOutcome_keepsAttempts uow u₁ uow₁ hnote)
    have hkey₂ := hcongr hkey₁ (transition_keepsAttempts uow₁ u₂ uow₂ hmove)
    have hkey₃ := recordOutcome_keepsClosed List.mem_cons_self uow₂ u₃ uow₃ hkey₂ hfinish
    exact hcongr hkey₃ (createEvent_keepsAttempts uow₃ u uow' hevent)
  · rw [Bool.not_eq_true] at hsuccess
    by_cases hunknown : answer.providerStatus = some .unknown
    · have hnot : ¬ answer.success = true := by
        rw [hsuccess]
        exact Bool.false_ne_true
      rw [recordAnswer, if_neg hnot, if_pos hunknown] at h
      obtain ⟨u₁, uow₁, hnote, hfinish⟩ := bind_eq_ok_iff.mp h
      have hkey₁ := hcongr hkey (recordProviderOutcome_keepsAttempts uow u₁ uow₁ hnote)
      exact recordOutcome_keepsClosed (by decide) uow₁ u uow' hkey₁ hfinish
    · rw [recordAnswer_of_failed hexecuting hsuccess hunknown] at h
      cases (Prod.mk.inj h).1

namespace GatewayState

variable {g g' : GatewayState} {env : AsyncEnv} {q : AsyncRequest} {a : ExecutionAttemptRow}
  {isExisting : Bool} {v : UnitOfWork}

theorem closed_of_claims {key : String × String} (h : Claims env q g.begin a isExisting v)
    (hkey : g.database.Closed key) : v.session.Closed key :=
  hkey.mono (claimed_of_claims h).kept

theorem answerWithoutProvider_eq_none_iff {service : PaymentExecutionService} :
    answerWithoutProvider env q service a isExisting = none
      ↔ ¬ (isExisting = true ∧ a.status = "SUCCESS")
        ∧ ¬ (isExisting = true ∧ a.status ∈ inFlightStatuses)
        ∧ service.results.get q.transactionId = none
        ∧ q.transactionId ∉ service.inFlightTxs := by
  rw [answerWithoutProvider, Exceptions.check_eq_none_iff, Exceptions.check_eq_none_iff]
  cases service.results.get q.transactionId with
  | some r => simp
  | none => simp

theorem not_closed_of_asks (h : Asks g env q a isExisting v) :
    ¬ g.database.Closed q.attemptKey := by
  rintro ⟨b, hb, hkey, hstatus⟩
  have hmem : b ∈ attemptsByKey q.attemptKey.1 q.attemptKey.2 g.database :=
    mem_attemptsByKey_iff.mpr ⟨hb, hkey⟩
  rcases claims_cases h.claims with ⟨hexisting, hfound, -⟩ | ⟨-, -, hnone, -⟩
  · rw [hfound] at hmem
    obtain rfl := List.mem_singleton.mp hmem
    obtain ⟨hunpaid, hfinished, -⟩ := answerWithoutProvider_eq_none_iff.mp h.unanswered
    rcases List.mem_cons.mp hstatus with hpaid | hunfinished
    · exact hunpaid ⟨hexisting, hpaid⟩
    · exact hfinished ⟨hexisting, hunfinished⟩
  · rw [hnone] at hmem
    cases hmem

/-- **A call that returns reopens no key.** -/
theorem closed_of_returned {key : String × String} {r : ExecutionResult} {s' : AsyncState}
    (hrun : asyncExecutePayment env q g.begin = (.ok r, s')) (hkey : g.database.Closed key) :
    s'.uow.session.Closed key := by
  have hreturned := asyncExecutePayment_returned hrun
  cases hreturned with
  | repeated => exact hkey
  | @rejected result service uow hmove =>
      have hattempts : uow.session.executionAttempts = g.database.executionAttempts :=
        transition_keepsAttempts g.begin.uow () uow hmove
      show ClosedIn key uow.session.executionAttempts
      rw [hattempts]
      exact hkey
  | notExecutable => exact hkey
  | answered hclaims => exact closed_of_claims hclaims hkey
  | @recorded a isExisting v uow answer hclaims hanswer hadapter hrecord =>
      have hexecuting := (claimed_of_claims hclaims).executing
      exact recordAnswer_keepsClosed v () uow ⟨closed_of_claims hclaims hkey, hexecuting⟩ hrecord

/-- **A call whose answer is recorded closes its key.** -/
theorem closed_of_recorded {answer : ExecutionResult} {db' : Database}
    (hasks : Asks g env q a isExisting v) (h : Recordable g env q a answer)
    (hrecorded : RecordedIn env q a answer v.session db') : db'.Closed q.attemptKey := by
  have hclaimed := claimed_of_claims hasks.claims
  rw [← hclaimed.key]
  rw [RecordedIn] at hrecorded
  by_cases hsuccess : answer.success = true
  · rw [if_pos hsuccess] at hrecorded
    obtain ⟨events, rfl⟩ := hrecorded
    have hstored : a ∈ { successRecorded env q a answer.externalReference v.session with
        executionAttempts := v.session.executionAttempts }.executionAttempts.rows :=
      hclaimed.stored
    exact closed_finished_of_mem hstored h.trimmed (by decide)
  · rw [if_neg hsuccess] at hrecorded
    rw [hrecorded]
    have hstored : a ∈ (outcomeNoted env.db q.transactionId "UNKNOWN" answer.externalReference
        v.session).executionAttempts.rows := hclaimed.stored
    exact closed_finished_of_mem hstored h.trimmed (by decide)

/-! ## Runs without a lost retry -/

/-- The call asks the provider, and its answer can be recorded. -/
def Records (g : GatewayState) (env : AsyncEnv) (q : AsyncRequest) : Prop :=
  ∃ a isExisting v answer, Asks g env q a isExisting v ∧ Recordable g env q a answer

/-- A call that has asked the provider under this key, and left no record of
    it: the process died, nobody committed, or the answer cannot be recorded. -/
inductive Loses (g : GatewayState) : ProcessAction → String × String → Prop where
  | call {env : AsyncEnv} {q : AsyncRequest} {ending : CallEnding} (hreaches : Reaches g env q)
      (hasked : ending ≠ .crash false) (hlost : ¬ (ending = .commit ∧ Records g env q)) :
      Loses g (.call env q ending) q.attemptKey

def NeverCalled (key : String × String) (actions : List ProcessAction) : Prop :=
  ∀ env q ending, ProcessAction.call env q ending ∈ actions → q.attemptKey ≠ key

/-- No call under a key follows one that is lost under it. -/
def NoLostRetry : GatewayState → List ProcessAction → Prop
  | _, [] => True
  | g, action :: actions =>
      (∀ key, Loses g action key → NeverCalled key actions)
        ∧ NoLostRetry (g.step action).2 actions

theorem step_keepsClosed {key : String × String} (action : ProcessAction)
    (hkey : g.database.Closed key) : (g.step action).2.database.Closed key := by
  cases action with
  | restart => exact hkey
  | call env q ending =>
      cases ending with
      | commit =>
          cases hrun : asyncExecutePayment env q g.begin with
          | mk outcome s' =>
              cases outcome with
              | ok r =>
                  rw [step, hrun]
                  exact closed_of_returned hrun hkey
              | error err =>
                  rw [step, hrun]
                  exact hkey
      | leave => exact hkey
      | crash asked => exact hkey

theorem step_dispatched (env : AsyncEnv) (q : AsyncRequest) (ending : CallEnding) :
    (g.step (.call env q ending)).2.dispatched = g.dispatched
      ∨ Reaches g env q ∧ ending ≠ .crash false
        ∧ (g.step (.call env q ending)).2.dispatched = g.dispatched ++ [q.trusted] := by
  have hsame (hending : ending ≠ .crash false) :
      (g.step (.call env q ending)).2.dispatched
        = (asyncExecutePayment env q g.begin).2.dispatched := by
    cases ending with
    | commit =>
        rw [step]
        cases (asyncExecutePayment env q g.begin).1 with
        | ok r => rfl
        | error err => rfl
    | leave => rfl
    | crash asked =>
        cases asked with
        | true => rfl
        | false => exact absurd rfl hending
  by_cases hending : ending = .crash false
  · left
    rw [hending]
    rfl
  by_cases hreaches : Reaches g env q
  · right
    exact ⟨hreaches, hending, (hsame hending).trans (dispatched_of_reaches hreaches)⟩
  · left
    exact (hsame hending).trans (dispatched_of_not_reaches hreaches)

theorem step_closed_of_records (h : Records g env q) :
    (g.step (.call env q .commit)).2.database.Closed q.attemptKey := by
  obtain ⟨a, isExisting, v, answer, hasks, hrecordable⟩ := h
  obtain ⟨db', hrun, hrecorded⟩ := asyncExecutePayment_of_recordable hasks hrecordable
  rw [step, hrun]
  exact closed_of_recorded hasks hrecordable hrecorded

/-- No key was asked for twice, and those that were asked for are closed or not
    called again. -/
structure Accounted (g : GatewayState) (actions : List ProcessAction) : Prop where
  nodup   : (g.dispatched.map TrustedExecutionRequest.attemptKey).Nodup
  settled : ∀ key ∈ g.dispatched.map TrustedExecutionRequest.attemptKey,
    g.database.Closed key ∨ NeverCalled key actions

theorem NeverCalled.tail {key : String × String} {action : ProcessAction}
    {actions : List ProcessAction} (h : NeverCalled key (action :: actions)) :
    NeverCalled key actions :=
  fun env q ending hmem => h env q ending (List.mem_cons_of_mem action hmem)

/-- **A step keeps the account**, if its loss is not retried. -/
theorem Accounted.after {action : ProcessAction} {actions : List ProcessAction}
    (h : Accounted g (action :: actions))
    (hlost : ∀ key, Loses g action key → NeverCalled key actions) :
    Accounted (g.step action).2 actions := by
  have hsettled (key : String × String)
      (hkey : key ∈ g.dispatched.map TrustedExecutionRequest.attemptKey) :
      (g.step action).2.database.Closed key ∨ NeverCalled key actions := by
    rcases h.settled key hkey with hclosed | hnever
    · exact Or.inl (step_keepsClosed action hclosed)
    · exact Or.inr hnever.tail
  cases action with
  | restart => exact ⟨h.nodup, hsettled⟩
  | call env q ending =>
      rcases step_dispatched (g := g) env q ending with hsame | ⟨hreaches, hasked, hnew⟩
      · refine ⟨?_, ?_⟩
        · rw [hsame]
          exact h.nodup
        · rw [hsame]
          exact hsettled
      have hfresh : q.attemptKey ∉ g.dispatched.map TrustedExecutionRequest.attemptKey := by
        intro hmem
        rcases h.settled _ hmem with hclosed | hnever
        · obtain ⟨a, isExisting, v, hasks⟩ := hreaches
          exact not_closed_of_asks hasks hclosed
        · exact hnever env q ending List.mem_cons_self rfl
      have hkey : (g.step (.call env q ending)).2.database.Closed q.attemptKey
          ∨ NeverCalled q.attemptKey actions := by
        by_cases hrecorded : ending = .commit ∧ Records g env q
        · obtain ⟨rfl, hrecords⟩ := hrecorded
          exact Or.inl (step_closed_of_records hrecords)
        · exact Or.inr (hlost _ (.call hreaches hasked hrecorded))
      have hkeys : (g.step (.call env q ending)).2.dispatched.map
          TrustedExecutionRequest.attemptKey
            = g.dispatched.map TrustedExecutionRequest.attemptKey ++ [q.attemptKey] := by
        rw [hnew, List.map_append]
        rfl
      refine ⟨?_, ?_⟩
      · rw [hkeys]
        exact List.nodup_append_comm.mp (List.nodup_cons.mpr ⟨hfresh, h.nodup⟩)
      · intro key hmem
        rw [hkeys] at hmem
        rcases List.mem_append.mp hmem with hold | hlast
        · exact hsettled key hold
        · rw [List.mem_singleton.mp hlast]
          exact hkey

theorem Accounted.exec {actions : List ProcessAction} (h : Accounted g actions)
    (hrun : NoLostRetry g actions) :
    ((exec step g actions).dispatched.map TrustedExecutionRequest.attemptKey).Nodup := by
  induction actions generalizing g with
  | nil => exact h.nodup
  | cons action actions ih => exact ih (h.after hrun.1) hrun.2

/-- **The provider is asked at most once per key** in every run, crashes
    included, that does not retry a call which was lost after it asked. -/
theorem asked_once_per_key (g : GatewayState) (actions : List ProcessAction)
    (hstart : g.dispatched = []) (hrun : NoLostRetry g actions) :
    ((exec step g actions).dispatched.map TrustedExecutionRequest.attemptKey).Nodup := by
  refine Accounted.exec ⟨?_, ?_⟩ hrun
  · rw [hstart]
    exact List.nodup_nil
  · intro key hkey
    rw [hstart] at hkey
    cases hkey

/-- **What reaches the provider reaches it again** when its writes are lost:
    only the database decides in a fresh process. -/
theorem Reaches.retried (h : Reaches g env q) (hdatabase : g'.database = g.database)
    (hservice : g'.service = PaymentExecutionService.new) : Reaches g' env q := by
  obtain ⟨a, isExisting, v, ⟨hclaimable, hchecked, hgranted⟩, hanswer⟩ := h
  refine ⟨a, isExisting, v, ⟨?_, hchecked, ?_⟩, ?_⟩
  · show Claimable q g'.database
    rw [hdatabase]
    exact hclaimable
  · show AttemptClaim.Grants env.db _ ⟨dispatchStarted env.db q.transactionId g'.database,
      g'.database⟩ a isExisting v
    rw [hdatabase]
    exact hgranted
  · obtain ⟨hunpaid, hfinished, -⟩ := answerWithoutProvider_eq_none_iff.mp hanswer
    rw [hservice]
    exact answerWithoutProvider_eq_none_iff.mpr ⟨hunpaid, hfinished, rfl, List.not_mem_nil⟩

/-! ## A payment that a crash repeats -/

namespace Sample

open AsyncPaymentExecution.Sample

def idle : GatewayState := ⟨PaymentExecutionService.new, authorized, []⟩

def paidEnv : AsyncEnv :=
  { asyncEnv with adapter := MandateGateway.Sample.answering true .success }

def diedBeforeAsking : List ProcessAction :=
  [.call paidEnv request (.crash false), .call paidEnv request .commit, .restart]

def diedAfterAsking : List ProcessAction :=
  [.call paidEnv request (.crash true), .call paidEnv request .commit]

theorem diedBeforeAsking_noLostRetry : NoLostRetry idle diedBeforeAsking := by
  refine ⟨?_, ?_, ?_, trivial⟩
  · intro key hlost
    cases hlost with
    | call hreaches hasked _ => exact absurd rfl hasked
  · intro key _ env q ending hmem
    cases List.mem_singleton.mp hmem
  · intro key _ env q ending hmem
    cases hmem

end Sample

theorem asked_once_per_key_diedBeforeAsking :
    ((exec step Sample.idle Sample.diedBeforeAsking).dispatched.map
      TrustedExecutionRequest.attemptKey).Nodup :=
  asked_once_per_key Sample.idle Sample.diedBeforeAsking rfl Sample.diedBeforeAsking_noLostRetry

/-- The provider is asked twice under the one key. -/
theorem diedAfterAsking_asked_twice :
    Sample.idle.dispatched = []
      ∧ ¬ ((exec step Sample.idle Sample.diedAfterAsking).dispatched.map
        TrustedExecutionRequest.attemptKey).Nodup :=
  ⟨rfl, by decide +kernel⟩

end GatewayState

end MandateGateway
