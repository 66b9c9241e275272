import MandateGateway.Adapter.RazorpayHttp
import MandateGateway.Execution.Dispatch
import MandateGateway.Recovery.Agreement

/-! # What a reply does to the transaction

    A reply passes through the adapter's mapping and the engine's branches
    before it settles anything.  This file composes the two, and says for which
    replies the transaction ends where the reply calls for. -/

namespace MandateGateway

open Clock OrderedMap

/-! ## What a reply says -/

namespace HttpReply

/-- The members of the JSON object that a successful reply carries. -/
def members (reply : HttpReply) : Option (List (String × PyValue)) :=
  match reply.load with
  | .ok (.dict kvs) => some kvs
  | _ => none

def Reports (reply : HttpReply) (status : String) : Prop :=
  ∃ kvs, reply.members = some kvs ∧ kvs.lookup "status" = some (.str status)

/-- The provider definitively refused the request. -/
def Refuses (reply : HttpReply) : Prop :=
  ∃ code body, reply = .replied code body ∧ 400 ≤ code ∧ code < 500

def Fails (reply : HttpReply) : Prop :=
  ∃ code body, reply = .replied code body ∧ ¬ Successful code

/-- The reply tells nothing: a server error, a body without a status, or an
    error of the connection. -/
inductive Silent : HttpReply → Prop where
  | serverError {code : Nat} {body : Except TransportError PyValue} (hmin : 500 ≤ code)
      (hmax : code < 600) : Silent (.replied code body)
  | noStatus {code : Nat} {body : Except TransportError PyValue} (hcode : Successful code)
      (hbody : ∀ kvs, body = .ok (.dict kvs) → kvs.lookup "status" = none) :
      Silent (.replied code body)
  | transport (err : TransportError) : Silent (.raised err)

variable {reply : HttpReply} {kvs : List (String × PyValue)}

theorem load_eq_ok_iff {value : PyValue} :
    reply.load = .ok value ↔ ∃ code, reply = .replied code (.ok value) ∧ Successful code := by
  cases reply with
  | raised err =>
      constructor
      · intro h
        cases h
      · rintro ⟨code, h, -⟩
        cases h
  | replied code body =>
      rw [load]
      by_cases hcode : Successful code
      · rw [if_pos hcode]
        cases body with
        | error err =>
            constructor
            · intro h
              cases h
            · rintro ⟨code', h, -⟩
              cases h
        | ok value' =>
            constructor
            · intro h
              cases h
              exact ⟨code, rfl, hcode⟩
            · rintro ⟨code', h, -⟩
              cases h
              rfl
      · rw [if_neg hcode]
        constructor
        · intro h
          cases h
        · rintro ⟨code', h, hcode'⟩
          cases h
          exact absurd hcode' hcode

theorem fails_iff : reply.Fails ↔ ∃ code, reply.load = .error (.httpError code) := by
  cases reply with
  | raised err =>
      constructor
      · rintro ⟨code, body, h, -⟩
        cases h
      · rintro ⟨code, h⟩
        cases h
  | replied code body =>
      constructor
      · rintro ⟨code', body', h, hcode⟩
        cases h
        exact ⟨code, if_neg hcode⟩
      · rintro ⟨code', h⟩
        refine ⟨code, body, rfl, ?_⟩
        intro hcode
        rw [load, if_pos hcode] at h
        cases body with
        | ok value => cases h
        | error err => cases h

theorem members_eq_some_iff : reply.members = some kvs ↔ reply.load = .ok (.dict kvs) := by
  rw [members]
  constructor
  · intro h
    split at h
    · next kvs' hload =>
        obtain rfl := Option.some.inj h
        exact hload
    · cases h
  · intro h
    rw [h]

theorem silent_of_members (h : reply.members = some kvs) (hstatus : kvs.lookup "status" = none) :
    reply.Silent := by
  obtain ⟨code, rfl, hcode⟩ := load_eq_ok_iff.mp (members_eq_some_iff.mp h)
  refine Silent.noStatus hcode ?_
  intro kvs' hbody
  cases hbody
  exact hstatus

theorem lookup_of_silent (h : reply.Silent) (hmembers : reply.members = some kvs) :
    kvs.lookup "status" = none := by
  obtain ⟨code, rfl, hcode⟩ := load_eq_ok_iff.mp (members_eq_some_iff.mp hmembers)
  cases h with
  | serverError hmin hmax => exact absurd hcode.2 (by omega)
  | noStatus hcode' hbody => exact hbody kvs rfl

theorem not_refuses_of_silent (h : reply.Silent) : ¬ reply.Refuses := by
  rintro ⟨code, body, rfl, hmin, hmax⟩
  cases h with
  | serverError hmin' hmax' => omega
  | noStatus hcode hbody =>
      have hlow := hcode.2
      omega

end HttpReply

/-! ## What the adapter and the engine make of it -/

def executionState (reply : HttpReply) : TransactionState :=
  match reply.load with
  | .ok (.dict _) => .committed
  | .error (.httpError _) => .rolledBack
  | _ => .executing

/-- The state that a reconciliation with this reply ends in: a missing status is
    taken for a capture, and a reported failure for no news. -/
def reconciliationState (reply : HttpReply) : TransactionState :=
  match reply.load with
  | .ok (.dict kvs) =>
      if RazorpayHttpAdapter.isCaptured ((kvs.lookup "status").getD (.str "captured")) then
        .committed
      else .executing
  | _ => .executing

theorem verdictState_executePayment (http : RazorpayHttpAdapter) (now : Instant)
    (request : TrustedExecutionRequest) :
    verdictState (http.executePayment now request)
      = executionState (http.urlopen (http.paymentRequest request)) := by
  rw [RazorpayHttpAdapter.executePayment,
    if_neg (not_not_intro (RazorpayHttpAdapter.endpoint_allowed request.operation)),
    executionState]
  cases (http.urlopen (http.paymentRequest request)).load with
  | ok value =>
      cases value with
      | dict kvs => rfl
      | _ => rfl
  | error err =>
      cases err with
      | httpError code => rfl
      | transport err =>
          cases err with
          | os text isTimeoutError => rfl
          | other => rfl

theorem outcomeState_fetchPaymentStatus (http : RazorpayHttpAdapter) (now : Instant)
    (ref : String) :
    outcomeState (http.fetchPaymentStatus now ref).providerStatus
      = reconciliationState (http.urlopen (http.statusRequest ref)) := by
  rw [RazorpayHttpAdapter.fetchPaymentStatus, reconciliationState]
  cases (http.urlopen (http.statusRequest ref)).load with
  | ok value =>
      cases value with
      | dict kvs =>
          show outcomeState (some (if _ then _ else _)) = _
          by_cases hcaptured : RazorpayHttpAdapter.isCaptured
              ((kvs.lookup "status").getD (.str "captured")) = true
          · rw [if_pos hcaptured]
            exact (if_pos hcaptured).symm
          · rw [if_neg hcaptured]
            exact (if_neg hcaptured).symm
      | _ => rfl
  | error err => rfl

section States

variable {reply : HttpReply} {kvs : List (String × PyValue)}

theorem executionState_of_members (h : reply.members = some kvs) :
    executionState reply = .committed := by
  rw [executionState, HttpReply.members_eq_some_iff.mp h]

theorem executionState_of_fails (h : reply.Fails) : executionState reply = .rolledBack := by
  obtain ⟨code, hload⟩ := HttpReply.fails_iff.mp h
  rw [executionState, hload]

theorem executionState_of_not_members (h : ∀ kvs, reply.members ≠ some kvs)
    (hfails : ¬ reply.Fails) : executionState reply = .executing := by
  rw [HttpReply.fails_iff] at hfails
  rw [executionState]
  cases hload : reply.load with
  | ok value =>
      cases value with
      | dict kvs => exact absurd (HttpReply.members_eq_some_iff.mpr hload) (h kvs)
      | _ => rfl
  | error err =>
      cases err with
      | httpError code => exact absurd ⟨code, hload⟩ hfails
      | transport err => rfl

theorem isCaptured_iff {value : PyValue} :
    RazorpayHttpAdapter.isCaptured value = true ↔ value = .str "captured" := by
  cases value with
  | str text =>
      show (text == "captured") = true ↔ _
      rw [beq_iff_eq, PyValue.str.injEq]
  | _ =>
      constructor
      · intro h
        cases h
      · intro h
        cases h

/-- **A reconciliation commits exactly for** a reported capture or a missing
    status. -/
theorem reconciliationState_of_members (h : reply.members = some kvs) :
    (reconciliationState reply = .committed ↔ kvs.lookup "status" = none
        ∨ kvs.lookup "status" = some (.str "captured"))
      ∧ (reconciliationState reply ≠ .committed → reconciliationState reply = .executing) := by
  rw [reconciliationState, HttpReply.members_eq_some_iff.mp h]
  dsimp only
  have hreported : RazorpayHttpAdapter.isCaptured
        ((kvs.lookup "status").getD (.str "captured")) = true
      ↔ kvs.lookup "status" = none ∨ kvs.lookup "status" = some (.str "captured") := by
    rw [isCaptured_iff]
    cases kvs.lookup "status" with
    | none => exact iff_of_true rfl (Or.inl rfl)
    | some value =>
        constructor
        · intro hvalue
          exact Or.inr (congrArg some hvalue)
        · rintro (hnone | hvalue)
          · cases hnone
          · exact Option.some.inj hvalue
  rw [← hreported]
  by_cases hcaptured : RazorpayHttpAdapter.isCaptured
      ((kvs.lookup "status").getD (.str "captured")) = true
  · rw [if_pos hcaptured]
    exact ⟨iff_of_true rfl hcaptured, fun hnot => absurd rfl hnot⟩
  · rw [if_neg hcaptured]
    exact ⟨iff_of_false (by decide) hcaptured, fun _ => rfl⟩

theorem reconciliationState_of_not_members (h : ∀ kvs, reply.members ≠ some kvs) :
    reconciliationState reply = .executing := by
  rw [reconciliationState]
  cases hload : reply.load with
  | ok value =>
      cases value with
      | dict kvs => exact absurd (HttpReply.members_eq_some_iff.mpr hload) (h kvs)
      | _ => rfl
  | error err => rfl

end States

/-! ## Where the transaction should end -/

/-- An execution that asked the provider leaves its transaction in this state. -/
structure ExecutionAgrees (reply : HttpReply) (state : Option TransactionState) : Prop where
  rolledBack : state = some .rolledBack → reply.Refuses
  silent     : reply.Silent → state = some .executing

/-- A reconciliation leaves its EXECUTING transaction in this state. -/
structure ReconciliationAgrees (reply : HttpReply) (state : Option TransactionState) : Prop where
  rolledBack : state = some .rolledBack → reply.Refuses ∨ reply.Reports "failed"
  committed  : state = some .committed → reply.Reports "captured"
  silent     : reply.Silent → state = some .executing
  failed     : reply.Reports "failed" → state = some .rolledBack

theorem executionAgrees_iff (reply : HttpReply) :
    ExecutionAgrees reply (some (executionState reply))
      ↔ (reply.Fails → reply.Refuses)
        ∧ ∀ kvs, reply.members = some kvs → kvs.lookup "status" ≠ none := by
  constructor
  · intro h
    constructor
    · intro hfails
      exact h.rolledBack (congrArg some (executionState_of_fails hfails))
    · intro kvs hmembers hstatus
      have hstate := h.silent (HttpReply.silent_of_members hmembers hstatus)
      rw [executionState_of_members hmembers] at hstate
      cases hstate
  · rintro ⟨hrefused, hreported⟩
    by_cases hfails : reply.Fails
    · refine ⟨fun _ => hrefused hfails, ?_⟩
      intro hsilent
      exact absurd (hrefused hfails) (HttpReply.not_refuses_of_silent hsilent)
    by_cases hmembers : ∃ kvs, reply.members = some kvs
    · obtain ⟨kvs, hkvs⟩ := hmembers
      rw [executionState_of_members hkvs]
      constructor
      · intro hstate
        cases hstate
      · intro hsilent
        exact absurd (HttpReply.lookup_of_silent hsilent hkvs) (hreported kvs hkvs)
    · rw [executionState_of_not_members (fun kvs h => hmembers ⟨kvs, h⟩) hfails]
      constructor
      · intro hstate
        cases hstate
      · intro _
        rfl

theorem reconciliationAgrees_iff (reply : HttpReply) :
    ReconciliationAgrees reply (some (reconciliationState reply))
      ↔ ∀ kvs, reply.members = some kvs →
          kvs.lookup "status" ≠ none ∧ kvs.lookup "status" ≠ some (.str "failed") := by
  constructor
  · intro h kvs hmembers
    obtain ⟨hcommitted, hexecuting⟩ := reconciliationState_of_members hmembers
    constructor
    · intro hstatus
      have hstate := h.silent (HttpReply.silent_of_members hmembers hstatus)
      rw [hcommitted.mpr (Or.inl hstatus)] at hstate
      cases hstate
    · intro hstatus
      have hstate := h.failed ⟨kvs, hmembers, hstatus⟩
      by_cases hcaptured : reconciliationState reply = .committed
      · rw [hcaptured] at hstate
        cases hstate
      · rw [hexecuting hcaptured] at hstate
        cases hstate
  · intro hreported
    by_cases hmembers : ∃ kvs, reply.members = some kvs
    · obtain ⟨kvs, hkvs⟩ := hmembers
      obtain ⟨hcommitted, hexecuting⟩ := reconciliationState_of_members hkvs
      obtain ⟨hsome, hnotFailed⟩ := hreported kvs hkvs
      refine ⟨?_, ?_, ?_, ?_⟩
      · intro hstate
        have hrolled := Option.some.inj hstate
        rw [hexecuting (by rw [hrolled]; decide)] at hrolled
        cases hrolled
      · intro hstate
        rcases hcommitted.mp (Option.some.inj hstate) with hnone | hcaptured
        · exact absurd hnone hsome
        · exact ⟨kvs, hkvs, hcaptured⟩
      · intro hsilent
        exact absurd (HttpReply.lookup_of_silent hsilent hkvs) hsome
      · rintro ⟨kvs', hkvs', hfailed⟩
        obtain rfl := Option.some.inj (hkvs'.symm.trans hkvs)
        exact absurd hfailed hnotFailed
    · rw [reconciliationState_of_not_members fun kvs h => hmembers ⟨kvs, h⟩]
      refine ⟨?_, ?_, fun _ => rfl, ?_⟩
      · intro hstate
        cases hstate
      · intro hstate
        cases hstate
      · rintro ⟨kvs, hkvs, -⟩
        exact absurd ⟨kvs, hkvs⟩ hmembers

/-! ## Through the service -/

namespace PaymentExecutionService

def stateOf (s : PaymentExecutionService) (t : String) : Option TransactionState :=
  (s.transactions.get t).map Transaction.state

theorem stateOf_executePayment {http : RazorpayHttpAdapter} {now : Instant}
    {s : PaymentExecutionService} {env : Ambient} {proposal : PaymentExecuteProposalRequest}
    {auth : AuthorizationResult} {tx : Transaction} {request : TrustedExecutionRequest}
    (hdispatched : (s.executePayment env (http.answering now) proposal auth tx).1.dispatched
      = some request) :
    (s.executePayment env (http.answering now) proposal auth tx).2.stateOf tx.transactionId
      = some (executionState (http.urlopen (http.paymentRequest request))) := by
  have hanswer : (http.answering now).executePayment request
      = .ok (http.executePayment now request) := rfl
  rw [stateOf, executePayment_state hdispatched hanswer, verdictState_executePayment]

/-- A call that asks the HTTP adapter for the status of an EXECUTING transaction. -/
theorem stateOf_pay {http : RazorpayHttpAdapter} {now : Instant} {s : PaymentExecutionService}
    {c : PayCall} {ref : String} {tx : Transaction} (hc : c.adapter = http.answering now)
    (hqueried : (s.pay c).1.queried = some ref)
    (htx : s.transactions.get c.transactionId = some tx) (hstate : tx.state = .executing) :
    (s.pay c).2.stateOf c.transactionId
      = some (reconciliationState (http.urlopen (http.statusRequest ref))) := by
  obtain ⟨env, ext, hpay⟩ := pay_of_queried hqueried
  rw [hc] at hpay
  rw [hpay] at hqueried ⊢
  have heffect := reconcile_effect s env (http.answering now) c.transactionId ext
  have href := Option.some.inj
    (hqueried.symm.trans (heffect.queried_of_executing htx hstate))
  have hfetch : (http.answering now).fetchPaymentStatus (providerRef tx ext)
      = .ok (http.fetchPaymentStatus now ref) := by
    rw [href]
    rfl
  rw [stateOf, reconcilePaymentStatus_state_of_answer env htx hstate hfetch,
    outcomeState_fetchPaymentStatus]

/-- **When a reply settles the transaction as it should**: an execution if the
    reply is no HTTP error but a refusal, and its object has a status; a
    reconciliation if the object has a status and does not report a failure. -/
theorem replies_settle_iff (http : RazorpayHttpAdapter) (now : Instant)
    (s : PaymentExecutionService) (env : Ambient) (proposal : PaymentExecuteProposalRequest)
    (auth : AuthorizationResult) (tx : Transaction) (request : TrustedExecutionRequest)
    (hdispatched : (s.executePayment env (http.answering now) proposal auth tx).1.dispatched
      = some request)
    (http' : RazorpayHttpAdapter) (now' : Instant) (s' : PaymentExecutionService) (c : PayCall)
    (ref : String) (stored : Transaction) (hc : c.adapter = http'.answering now')
    (hqueried : (s'.pay c).1.queried = some ref)
    (hstored : s'.transactions.get c.transactionId = some stored)
    (hexecuting : stored.state = .executing) :
    (ExecutionAgrees (http.urlopen (http.paymentRequest request))
          ((s.executePayment env (http.answering now) proposal auth tx).2.stateOf tx.transactionId)
        ↔ ((http.urlopen (http.paymentRequest request)).Fails →
            (http.urlopen (http.paymentRequest request)).Refuses)
          ∧ ∀ kvs, (http.urlopen (http.paymentRequest request)).members = some kvs →
              kvs.lookup "status" ≠ none)
      ∧ (ReconciliationAgrees (http'.urlopen (http'.statusRequest ref))
          ((s'.pay c).2.stateOf c.transactionId)
        ↔ ∀ kvs, (http'.urlopen (http'.statusRequest ref)).members = some kvs →
            kvs.lookup "status" ≠ none ∧ kvs.lookup "status" ≠ some (.str "failed")) := by
  rw [stateOf_executePayment hdispatched, stateOf_pay hc hqueried hstored hexecuting]
  exact ⟨executionAgrees_iff _, reconciliationAgrees_iff _⟩

end PaymentExecutionService

/-! ## A gateway that fails, and a payment that failed -/

namespace Sample

def replying (reply : HttpReply) : RazorpayHttpAdapter where
  keyId := "key"
  keySecret := "secret"
  coercions := ⟨fun _ => "", fun _ => "", fun _ => .ok 0, PyError.text⟩
  urlopen := fun _ => reply

def object (kvs : List (String × PyValue)) : HttpReply := .replied 200 (.ok (.dict kvs))

def paid : HttpReply := object [("id", .str "order-1"), ("status", .str "captured")]

def failedPayment : HttpReply := object [("id", .str "pay-1"), ("status", .str "failed")]

def unavailable : HttpReply := .replied 503 (.error .other)

def executed (reply : HttpReply) : PaymentExecutionService :=
  (PaymentExecutionService.new.executePayment env ((replying reply).answering 1709210097000000)
    proposal authorization transaction).2

def query (reply : HttpReply) : PayCall :=
  .reconcile env ((replying reply).answering 1709210097000000) "tx-1" none

def trusted : TrustedExecutionRequest :=
  trustedRequest proposal authorization executingTransaction

end Sample

namespace PaymentExecutionService

theorem replies_settle_iff_paid :
    (ExecutionAgrees Sample.paid ((Sample.executed Sample.paid).stateOf "tx-1")
        ↔ (Sample.paid.Fails → Sample.paid.Refuses)
          ∧ ∀ kvs, Sample.paid.members = some kvs → kvs.lookup "status" ≠ none)
      ∧ (ReconciliationAgrees Sample.paid
          ((Sample.executingService.pay (Sample.query Sample.paid)).2.stateOf "tx-1")
        ↔ ∀ kvs, Sample.paid.members = some kvs →
            kvs.lookup "status" ≠ none ∧ kvs.lookup "status" ≠ some (.str "failed")) :=
  replies_settle_iff (Sample.replying Sample.paid) 1709210097000000 new Sample.env Sample.proposal
    Sample.authorization Sample.transaction Sample.trusted rfl (Sample.replying Sample.paid)
    1709210097000000 Sample.executingService (Sample.query Sample.paid) "tx-1"
    Sample.executingTransaction rfl rfl rfl rfl

/-- A gateway that is unavailable rolls the purchase back, and a payment that is
    reported as failed stays EXECUTING. -/
theorem unavailable_rolls_back :
    ((Sample.executed Sample.unavailable).stateOf "tx-1" = some .rolledBack
        ∧ ¬ ExecutionAgrees Sample.unavailable
          ((Sample.executed Sample.unavailable).stateOf "tx-1"))
      ∧ (Sample.executingService.pay (Sample.query Sample.failedPayment)).2.stateOf "tx-1"
          = some .executing
        ∧ ¬ ReconciliationAgrees Sample.failedPayment
          ((Sample.executingService.pay (Sample.query Sample.failedPayment)).2.stateOf "tx-1") := by
  have hexecuted : (Sample.executed Sample.unavailable).stateOf "tx-1" = some .rolledBack := by
    decide +kernel
  have hqueried : (Sample.executingService.pay (Sample.query Sample.failedPayment)).2.stateOf
      "tx-1" = some .executing := by
    decide +kernel
  refine ⟨⟨hexecuted, ?_⟩, hqueried, ?_⟩
  · intro h
    have hkept := h.silent (HttpReply.Silent.serverError (by decide) (by decide))
    rw [hexecuted] at hkept
    cases hkept
  · intro h
    have hrolled := h.failed ⟨_, rfl, rfl⟩
    rw [hqueried] at hrolled
    cases hrolled

end PaymentExecutionService

end MandateGateway
