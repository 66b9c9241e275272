import MandateGateway.Execution.Records

/-! # The payment execution service

    `execute_payment` and `reconcile_payment_status` over the service's
    stores.  A lock spans each call, so a call is one step; what the provider
    answers during the call is an argument of it, and what the call asks of
    the provider is part of its outcome. -/

namespace MandateGateway

open Clock OrderedMap

/-- The stores of a `PaymentExecutionService`. -/
structure PaymentExecutionService where
  transactions : OrderedMap String Transaction
  results      : OrderedMap String ExecutionResult
  auditEvents  : List ExecutionAuditEvidence
  inFlightTxs  : List String

/-- What a call returns or raises, and what it asked of the provider. -/
structure CallOutcome where
  result     : Except PyError ExecutionResult
  dispatched : Option TrustedExecutionRequest
  queried    : Option String

/-- The arguments with which a failed check rejects an execution. -/
structure Rejection where
  reason   : RejectionReason
  category : ExecutionFailureCategory
  message  : String
deriving DecidableEq, Repr

/-! ## Pre-execution checks -/

def requiredControls : List String :=
  ["MANDATE_EVALUATION", "MERCHANT_POLICY", "CART_INTEGRITY", "BUDGET_RESERVATION",
    "REPLAY_PROTECTION", "NONCE_VALIDATION"]

def controlAllows (outcomes : OrderedMap String SecurityControlOutcome) (name : String) :
    Bool :=
  match outcomes.get name with
  | some c => c.decision == .allow
  | none => false

/-- The rejection that `_verify_pre_execution_auth` makes, if any. -/
def verifyPreExecutionAuth (auth : AuthorizationResult) : Option Rejection :=
  if auth.decision ≠ .allow then
    some {
      reason := auth.rejectionReason.getD .methodNotAuthorized
      category := .authorizationFailed
      message := s!"Execution blocked: Authorization decision is {auth.decision.value}." }
  else match requiredControls.find? fun name => !controlAllows auth.outcomesByName name with
  | some name =>
      some {
        reason := .controlResultMissing
        category := .authorizationFailed
        message := s!"Execution blocked: Security control {name} not satisfied." }
  | none =>
      if auth.outcomesByName.contains "STEP_UP_AUTHORIZATION"
          && !controlAllows auth.outcomesByName "STEP_UP_AUTHORIZATION" then
        some {
          reason := .stepUpConfirmationInvalid
          category := .authorizationFailed
          message := "Execution blocked: Step-up authorization required but not approved." }
      else none

/-- The message of an amount mismatch, whose amounts pass through floats. -/
def amountMismatchText (proposed authorized : Int) : Except PyError String :=
  match trueDiv proposed 100 with
  | .error err => .error err
  | .ok p =>
      match trueDiv authorized 100 with
      | .error err => .error err
      | .ok a =>
          .ok (s!"Amount mismatch: proposed ₹{p.fixed2 false} "
            ++ s!"!= authorized ₹{a.fixed2 false}.")

/-- Whether two cart hashes differ beyond case and surrounding whitespace. -/
def cartHashDiffers (proposed authorized : String) : Bool :=
  Text.lower (Text.strip proposed) != Text.lower (Text.strip authorized)

def allowedOps : List McpOperation := [.createOrder, .createPaymentLink, .fetchPayment]

/-- The rejection that `_verify_context_and_operation` makes, if any; it
    raises when it cannot print the amounts it compares. -/
def verifyContextAndOperation (proposal : PaymentExecuteProposalRequest) (tx : Transaction) :
    Except PyError (Option Rejection) :=
  if proposal.transactionId ≠ tx.transactionId then
    .ok (some ⟨.invalidTransactionState, .invalidContext,
      "Transaction ID mismatch between proposal and authorized transaction."⟩)
  else if proposal.merchantId ≠ tx.merchantId then
    .ok (some ⟨.merchantMismatch, .invalidContext,
      "Merchant ID mismatch between proposal and authorized transaction."⟩)
  else if proposal.buyerId ≠ tx.buyerId then
    .ok (some ⟨.mandateNotInScope, .invalidContext,
      "Buyer ID mismatch between proposal and authorized transaction."⟩)
  else if proposal.mandateId ≠ tx.mandateId then
    .ok (some ⟨.mandateNotInScope, .invalidContext,
      "Mandate ID mismatch between proposal and authorized transaction."⟩)
  else if proposal.amountPaise ≠ tx.amountPaise then
    (amountMismatchText proposal.amountPaise tx.amountPaise).map fun message =>
      some ⟨.invalidAmount, .invalidContext, message⟩
  else if proposal.currency ≠ tx.currency then
    .ok (some ⟨.currencyMismatch, .invalidContext,
      s!"Currency mismatch: proposed {proposal.currency.value} "
        ++ s!"!= authorized {tx.currency.value}."⟩)
  else if tx.cartHash.getD "" ≠ "" ∧ cartHashDiffers proposal.cartHash (tx.cartHash.getD "") then
    .ok (some ⟨.cartIntegrityViolation, .invalidContext,
      "Cart hash mismatch between proposal and authorized transaction."⟩)
  else if proposal.operation.isBlockedByDefault then
    .ok (some ⟨.operationNotAllowed, .validationError,
      s!"Operation {proposal.operation.value} is dangerous and blocked by default."⟩)
  else if proposal.operation ∉ allowedOps then
    .ok (some ⟨.operationNotAllowed, .validationError,
      s!"Operation {proposal.operation.value} not allowed."⟩)
  else .ok none

/-- The rejection of a transaction that is not in state AUTHORIZED. -/
def notExecutable (tx : Transaction) : Rejection :=
  ⟨.invalidTransactionState, .invalidContext,
    s!"Transaction in state {tx.state.value} cannot be executed."⟩

/-! ## State transitions of an execution -/

/-- `→ SUCCESS → COMMITTED`. -/
def commitTransaction (now : Instant) (tx : Transaction) (orderId : Option String) :
    Except PyError Transaction :=
  match transitionTransaction now tx .success { razorpayOrderId := orderId } with
  | .error err => .error err
  | .ok successTx => transitionTransaction now successTx .committed {}

/-- `→ FAILURE → ROLLED_BACK`. -/
def rollBackTransaction (now : Instant) (tx : Transaction) : Except PyError Transaction :=
  match transitionTransaction now tx .failure {} with
  | .error err => .error err
  | .ok failureTx => transitionTransaction now failureTx .rolledBack {}

/-- The request handed to the provider. -/
def trustedRequest (proposal : PaymentExecuteProposalRequest) (auth : AuthorizationResult)
    (executingTx : Transaction) : TrustedExecutionRequest where
  transactionId := executingTx.transactionId
  merchantId := executingTx.merchantId
  buyerId := executingTx.buyerId
  mandateId := executingTx.mandateId
  amountPaise := executingTx.amountPaise
  currency := executingTx.currency
  cartHash := orElseText executingTx.cartHash proposal.cartHash
  operation := proposal.operation
  authorizationReference :=
    (auth.decisionTrace.get "authorization_reference").getD
      (.str s!"auth_{String.ofList (executingTx.transactionId.toList.take 8)}")
  idempotencyKey := s!"exec:{executingTx.transactionId}"

/-- The final transaction and result for what the provider answered. -/
def providerVerdict (now : Instant) (executingTx : Transaction) (answer : ExecutionResult) :
    Except PyError (Transaction × ExecutionResult) :=
  if answer.success then
    match commitTransaction now executingTx answer.externalReference with
    | .error err => .error err
    | .ok committedTx =>
        .ok (committedTx, {
          success := true
          transactionId := committedTx.transactionId
          state := .committed
          externalReference := answer.externalReference
          failureCode := none
          failureCategory := none
          safeMessage := answer.safeMessage
          idempotentReplay := false
          providerStatus := some .success
          rawResponseRedacted := answer.rawResponseRedacted
          executedAt := answer.executedAt })
  else if answer.providerStatus = some .unknown then
    -- neither success nor failure: the transaction stays EXECUTING
    .ok (executingTx, {
      success := false
      transactionId := executingTx.transactionId
      state := .executing
      externalReference := answer.externalReference
      failureCode := some (answer.failureCode.getD .authorizationExpired)
      failureCategory := some (answer.failureCategory.getD .timeout)
      safeMessage := orElseText (some answer.safeMessage)
        ("Payment outcome is UNKNOWN due to gateway timeout. "
          ++ "Status reconciliation required.")
      idempotentReplay := false
      providerStatus := some .unknown
      rawResponseRedacted := answer.rawResponseRedacted
      executedAt := answer.executedAt })
  else
    match rollBackTransaction now executingTx with
    | .error err => .error err
    | .ok rolledBackTx =>
        .ok (rolledBackTx, {
          success := false
          transactionId := rolledBackTx.transactionId
          state := .rolledBack
          externalReference := answer.externalReference
          failureCode := some (answer.failureCode.getD .methodNotAuthorized)
          failureCategory := answer.failureCategory
          safeMessage := answer.safeMessage
          idempotentReplay := false
          providerStatus := some (answer.providerStatus.getD .failed)
          rawResponseRedacted := answer.rawResponseRedacted
          executedAt := answer.executedAt })

def auditEvidence (now : Instant) (proposal : PaymentExecuteProposalRequest)
    (tx : Transaction) (request : TrustedExecutionRequest) (final : ExecutionResult) :
    ExecutionAuditEvidence where
  transactionId := tx.transactionId
  merchantId := tx.merchantId
  buyerId := tx.buyerId
  mandateId := tx.mandateId
  operation := proposal.operation.value
  amountPaise := tx.amountPaise
  currency := tx.currency.value
  authorizationReference := request.authorizationReference
  executionResultSuccess := final.success
  externalReference := final.externalReference
  failureCategory := final.failureCategory.map ExecutionFailureCategory.value
  providerStatus := final.providerStatus.map PaymentResultState.value
  timestamp := now

namespace PaymentExecutionService

/-- `PaymentExecutionService(adapter)`. -/
def new : PaymentExecutionService := ⟨empty, empty, [], []⟩

def registerTransaction (tx : Transaction) (s : PaymentExecutionService) :
    PaymentExecutionService :=
  { s with transactions := s.transactions.set tx.transactionId tx }

/-- `_reject_execution`: an illegal transition to REJECTED is swallowed. -/
def rejectExecution (env : Ambient) (tx : Transaction) (rej : Rejection)
    (s : PaymentExecutionService) : ExecutionResult × PaymentExecutionService :=
  let s :=
    if tx.state = .rejected then s
    else match transitionTransaction env.now tx .rejected
        { rejectionReason := some rej.reason, rejectionDetail := some rej.message } with
    | .ok rejectedTx =>
        { s with transactions := s.transactions.set tx.transactionId rejectedTx }
    | .error _ => s
  let res : ExecutionResult := {
    success := false
    transactionId := tx.transactionId
    state := .rejected
    externalReference := none
    failureCode := some rej.reason
    failureCategory := some rej.category
    safeMessage := rej.message
    idempotentReplay := false
    providerStatus := some .failed
    rawResponseRedacted := none
    executedAt := env.now }
  (res, { s with results := s.results.set tx.transactionId res })

/-- A call that ends in `_reject_execution`. -/
def rejected (env : Ambient) (tx : Transaction) (rej : Rejection)
    (s : PaymentExecutionService) : CallOutcome × PaymentExecutionService :=
  let r := s.rejectExecution env tx rej
  (⟨.ok r.1, none, none⟩, r.2)

/-- What a reconciliation asks the provider about. -/
def providerRef (tx : Transaction) (externalReference : Option String) : String :=
  orElseText externalReference (orElseText tx.razorpayOrderId tx.transactionId)

/-- `reconcile_payment_status`: query the provider and settle accordingly. -/
def reconcilePaymentStatus (env : Ambient) (adapter : RazorpayAdapter)
    (transactionId : String) (externalReference : Option String)
    (s : PaymentExecutionService) : CallOutcome × PaymentExecutionService :=
  match s.transactions.get transactionId with
  | none =>
      (⟨.ok {
          success := false
          transactionId := transactionId
          state := .rejected
          externalReference := none
          failureCode := some .invalidTransactionState
          failureCategory := some .invalidContext
          safeMessage :=
            s!"Transaction {Text.quoted transactionId} not found for reconciliation."
          idempotentReplay := false
          providerStatus := none
          rawResponseRedacted := none
          executedAt := env.now }, none, none⟩, s)
  | some tx =>
      match if tx.isTerminal then s.results.get transactionId else none with
      | some cached => (⟨.ok cached, none, none⟩, s)
      | none =>
          let ref := providerRef tx externalReference
          match adapter.fetchPaymentStatus ref with
          | .error err => (⟨.error err, none, some ref⟩, s)
          | .ok status =>
              if status.providerStatus = some .success then
                match commitTransaction env.now tx (some ref) with
                | .error err => (⟨.error err, none, some ref⟩, s)
                | .ok committedTx =>
                    let res : ExecutionResult := {
                      success := true
                      transactionId := transactionId
                      state := .committed
                      externalReference := some ref
                      failureCode := none
                      failureCategory := none
                      safeMessage := "Payment status successfully reconciled to SUCCESS."
                      idempotentReplay := false
                      providerStatus := some .success
                      rawResponseRedacted := none
                      executedAt := env.now }
                    (⟨.ok res, none, some ref⟩,
                      { s with
                        transactions := s.transactions.set transactionId committedTx
                        results := s.results.set transactionId res })
              else if status.providerStatus = some .failed
                  ∨ status.providerStatus = some .expired then
                match rollBackTransaction env.now tx with
                | .error err => (⟨.error err, none, some ref⟩, s)
                | .ok rolledBackTx =>
                    let res : ExecutionResult := {
                      success := false
                      transactionId := transactionId
                      state := .rolledBack
                      externalReference := some ref
                      failureCode := some .methodNotAuthorized
                      failureCategory := some .providerRejected
                      safeMessage := "Payment status successfully reconciled to FAILED."
                      idempotentReplay := false
                      providerStatus := some .failed
                      rawResponseRedacted := none
                      executedAt := env.now }
                    (⟨.ok res, none, some ref⟩,
                      { s with
                        transactions := s.transactions.set transactionId rolledBackTx
                        results := s.results.set transactionId res })
              else
                -- still UNKNOWN or PENDING, or no status at all
                let res : ExecutionResult := {
                  success := false
                  transactionId := transactionId
                  state := .executing
                  externalReference := some ref
                  failureCode := some .authorizationExpired
                  failureCategory := some .timeout
                  safeMessage := "Payment status reconciliation returned UNKNOWN. "
                    ++ "Transaction remains in EXECUTING state."
                  idempotentReplay := false
                  providerStatus := some .unknown
                  rawResponseRedacted := none
                  executedAt := env.now }
                (⟨.ok res, none, some ref⟩,
                  { s with results := s.results.set transactionId res })

/-- The part of `execute_payment` after the state claim: hand the request to
    the provider and record its verdict. -/
def invokeProvider (env : Ambient) (adapter : RazorpayAdapter)
    (proposal : PaymentExecuteProposalRequest) (auth : AuthorizationResult)
    (tx executingTx : Transaction) (s : PaymentExecutionService) :
    CallOutcome × PaymentExecutionService :=
  let s := { s with transactions := s.transactions.set executingTx.transactionId executingTx }
  let request := trustedRequest proposal auth executingTx
  match adapter.executePayment request with
  | .error err => (⟨.error err, some request, none⟩, s)
  | .ok answer =>
      match providerVerdict env.now executingTx answer with
      | .error err => (⟨.error err, some request, none⟩, s)
      | .ok (finalTx, final) =>
          (⟨.ok final, some request, none⟩,
            { s with
              transactions := s.transactions.set finalTx.transactionId finalTx
              results := s.results.set tx.transactionId final
              auditEvents :=
                s.auditEvents ++ [auditEvidence env.now proposal tx request final] })

def executePayment (env : Ambient) (adapter : RazorpayAdapter)
    (proposal : PaymentExecuteProposalRequest) (auth : AuthorizationResult)
    (tx : Transaction) (s : PaymentExecutionService) :
    CallOutcome × PaymentExecutionService :=
  match s.results.get tx.transactionId with
  | some existing =>
      if existing.providerStatus = some .unknown then
        s.reconcilePaymentStatus env adapter tx.transactionId none
      else (⟨.ok existing.replay, none, none⟩, s)
  | none =>
      -- the caller's snapshot becomes the stored transaction before any check
      let s := s.registerTransaction tx
      match verifyPreExecutionAuth auth with
      | some rej => s.rejected env tx rej
      | none =>
          match verifyContextAndOperation proposal tx with
          | .error err => (⟨.error err, none, none⟩, s)
          | .ok (some rej) => s.rejected env tx rej
          | .ok none =>
              if tx.isExecutable = false then s.rejected env tx (notExecutable tx)
              else match transitionTransaction env.now tx .executing {} with
              | .error err =>
                  s.rejected env tx ⟨.invalidTransactionState, .invalidContext,
                    s!"Failed to claim EXECUTING state: {err.text}"⟩
              | .ok executingTx => s.invokeProvider env adapter proposal auth tx executingTx

end PaymentExecutionService

/-! ## Calls on a service -/

/-- A payment call: an execution or a reconciliation, with the environment and
    the provider it meets. -/
inductive PayCall where
  | execute (env : Ambient) (adapter : RazorpayAdapter)
      (proposal : PaymentExecuteProposalRequest) (auth : AuthorizationResult)
      (tx : Transaction)
  | reconcile (env : Ambient) (adapter : RazorpayAdapter) (transactionId : String)
      (externalReference : Option String)

def PayCall.transactionId : PayCall → String
  | .execute _ _ _ _ tx => tx.transactionId
  | .reconcile _ _ transactionId _ => transactionId

/-- The provider a call meets. -/
def PayCall.adapter : PayCall → RazorpayAdapter
  | .execute _ adapter _ _ _ => adapter
  | .reconcile _ adapter _ _ => adapter

def PaymentExecutionService.pay (s : PaymentExecutionService) :
    PayCall → CallOutcome × PaymentExecutionService
  | .execute env adapter proposal auth tx => s.executePayment env adapter proposal auth tx
  | .reconcile env adapter transactionId externalReference =>
      s.reconcilePaymentStatus env adapter transactionId externalReference

inductive ServiceCall where
  | register (tx : Transaction)
  | pay (c : PayCall)

def ServiceCall.ProviderReturns : ServiceCall → Prop
  | .register _ => True
  | .pay c => c.adapter.Returns

/-- One call on the service; a registration has no outcome. -/
def PaymentExecutionService.call (s : PaymentExecutionService) :
    ServiceCall → Option CallOutcome × PaymentExecutionService
  | .register tx => (none, s.registerTransaction tx)
  | .pay c => (some (s.pay c).1, (s.pay c).2)

/-! ## A sample purchase

    One transaction with a matching proposal and an unconditional
    authorization, on which runs can be tried. -/

namespace Sample

def env : Ambient := ⟨1709210096000000, "uuid-1"⟩

def transaction : Transaction where
  transactionId := "tx-1"
  buyerId := "buyer-1"
  merchantId := "merchant-1"
  mandateId := "mandate-1"
  mandateVersion := 1
  policyVersion := 1
  cartId := some "cart-1"
  cartHash := some "hash-1"
  amountPaise := 25000
  currency := .inr
  state := .authorized
  rejectionReason := none
  rejectionDetail := none
  idempotencyKey := "key-1"
  nonce := none
  createdAt := 1709210000000000
  updatedAt := 1709210000000000
  stepUpRequiredAt := none
  stepUpApprovedAt := none
  stepUpAmountPaise := none
  razorpayOrderId := none
  razorpayPaymentId := none
  rejection_iff := ⟨nofun, nofun⟩

def proposal : PaymentExecuteProposalRequest where
  transactionId := "tx-1"
  merchantId := "merchant-1"
  buyerId := "buyer-1"
  mandateId := "mandate-1"
  amountPaise := 25000
  currency := .inr
  cartHash := "hash-1"
  operation := .createOrder
  idempotencyKey := "exec:tx-1"
  untrustedMetadata := []

def authorization : AuthorizationResult where
  decision := .allow
  controlOutcomes := requiredControls.map fun name => ⟨name, true, .allow, none, none, none⟩
  rejectionReason := none
  rejectionDetail := none
  decisionTrace := empty

def answering (success : Bool) (status : PaymentResultState) : RazorpayAdapter :=
  let r : ExecutionResult := {
    success := success
    transactionId := "tx-1"
    state := .executing
    externalReference := some "order-1"
    failureCode := none
    failureCategory := none
    safeMessage := "answered"
    idempotentReplay := false
    providerStatus := some status
    rawResponseRedacted := none
    executedAt := 1709210097000000 }
  ⟨fun _ => .ok r, fun _ => .ok r⟩

def broken : RazorpayAdapter :=
  ⟨fun _ => .error (.adapterError "connection reset"),
    fun _ => .error (.adapterError "connection reset")⟩

def execute (adapter : RazorpayAdapter) : PayCall :=
  .execute env adapter proposal authorization transaction

def reconcile (adapter : RazorpayAdapter) : PayCall := .reconcile env adapter "tx-1" none

end Sample

end MandateGateway
