import MandateGateway.Db.ExecutionAttemptRepository
import MandateGateway.Db.TransactionRepository
import MandateGateway.Execution.Service

/-! # Payment execution with persistence

    `async_execute_payment`: the checks of the in-memory service, an EXECUTING
    row and an execution attempt claimed in the database, and then one of
    several answers without the provider, or the provider's own, recorded in
    the database.  The other callers that a waiting call observes are part of
    its environment. -/

namespace MandateGateway

open Clock Raising

/-- What one call meets: the process, the provider, the payload hash, and the
    result that the cache shows at each look of a caller that waits. -/
structure AsyncEnv where
  db       : DbEnv
  adapter  : RazorpayAdapter
  sha256   : String → String
  observed : Fin 51 → Option ExecutionResult

/-- The service, its unit of work, and what the provider was asked to execute. -/
structure AsyncState where
  service    : PaymentExecutionService
  uow        : UnitOfWork
  dispatched : List TrustedExecutionRequest

abbrev AsyncAction (α : Type) : Type := Raising AsyncState PyError α

/-- The arguments of a call. -/
structure AsyncRequest where
  proposal      : PaymentExecuteProposalRequest
  authorization : AuthorizationResult
  transaction   : Transaction

namespace AsyncRequest

def transactionId (q : AsyncRequest) : String := q.transaction.transactionId

/-- `proposal.idempotency_key or f"exec:{tx_id}"`. -/
def idempotencyKey (q : AsyncRequest) : String :=
  orElseText (some q.proposal.idempotencyKey) s!"exec:{q.transactionId}"

/-- The canonical payload; its members are sorted by name. -/
def payload (q : AsyncRequest) : Json :=
  .obj [
    ("amount_paise", .int q.transaction.amountPaise),
    ("buyer_id", .str q.transaction.buyerId),
    ("cart_hash", .str (orElseText q.transaction.cartHash q.proposal.cartHash)),
    ("currency", .str q.transaction.currency.value),
    ("mandate_id", .str q.transaction.mandateId),
    ("merchant_id", .str q.transaction.merchantId),
    ("operation", .str q.proposal.operation.value),
    ("transaction_id", .str q.transactionId)]

def claim (env : AsyncEnv) (q : AsyncRequest) : ExecutionAttemptRepository.AttemptClaim where
  transactionId := q.transactionId
  merchantId := q.transaction.merchantId
  idempotencyKey := q.idempotencyKey
  payloadFingerprint := env.sha256 q.payload.compact

/-- The request handed to the provider. -/
def trusted (q : AsyncRequest) : TrustedExecutionRequest :=
  { trustedRequest q.proposal q.authorization q.transaction with
    idempotencyKey := q.idempotencyKey }

def eventPayload (q : AsyncRequest) (reference : Option String) : Json :=
  .obj [
    ("amount_paise", .int q.transaction.amountPaise),
    ("merchant_id", .str q.transaction.merchantId),
    ("provider_reference", (reference.map Json.str).getD .null),
    ("transaction_id", .str q.transactionId)]

end AsyncRequest

namespace AsyncAction

def onDb {α : Type} (x : DbAction α) : AsyncAction α :=
  zoom AsyncState.uow (fun uow s => { s with uow := uow }) x

def onService (f : PaymentExecutionService → PaymentExecutionService) : AsyncAction Unit :=
  modify fun s => { s with service := f s.service }

end AsyncAction

namespace AsyncPaymentExecution

open AsyncAction ExecutionAttemptRepository TransactionRepository

/-- A result that repeats a success without asking the provider. -/
def replayedSuccess (env : AsyncEnv) (q : AsyncRequest) (reference : Option String)
    (safeMessage : String) : ExecutionResult where
  success := true
  transactionId := q.transactionId
  state := .committed
  externalReference :=
    some (orElseText reference s!"pay_{String.ofList (q.transactionId.toList.take 8)}")
  failureCode := none
  failureCategory := none
  safeMessage := safeMessage
  idempotentReplay := true
  providerStatus := some .success
  rawResponseRedacted := none
  executedAt := env.db.now

/-- `_reject_execution`. -/
def rejectWith (env : AsyncEnv) (q : AsyncRequest) (rej : Rejection) :
    AsyncAction ExecutionResult := fun s =>
  let r := s.service.rejectExecution ⟨env.db.now, ""⟩ q.transaction rej
  (.ok r.1, { s with service := r.2 })

/-- A failed check: reject in memory, then in the database. -/
def rejectStored (env : AsyncEnv) (q : AsyncRequest) (rej : Rejection) :
    AsyncAction ExecutionResult := do
  let res ← rejectWith env q rej
  onDb (transitionTransactionState env.db q.transactionId .rejected)
  pure res

/-- The attempts that another caller is taken to be working on. -/
def inFlightStatuses : List String := ["CLAIMED", "DISPATCHED", "UNKNOWN"]

/-- What a caller answers that finds the transaction in flight: the first
    result it observes in the cache, or a success once it has waited enough. -/
def awaited (env : AsyncEnv) (q : AsyncRequest) (attempt : ExecutionAttemptRow) :
    ExecutionResult :=
  ((List.finRange 51).findSome? env.observed).getD
    (replayedSuccess env q attempt.providerReference
      "Execution attempt in-flight by parallel worker.")

/-- The answer that a claimed attempt gets without the provider, if any. -/
def answerWithoutProvider (env : AsyncEnv) (q : AsyncRequest)
    (service : PaymentExecutionService) (attempt : ExecutionAttemptRow) (isExisting : Bool) :
    Option ExecutionResult :=
  let cached := service.results.get q.transactionId
  if isExisting ∧ attempt.status = "SUCCESS" then
    some (replayedSuccess env q attempt.providerReference
      "Payment previously executed successfully.")
  else if isExisting ∧ attempt.status ∈ inFlightStatuses then
    -- whoever claimed the attempt is left to finish it
    some (cached.getD (replayedSuccess env q attempt.providerReference
      "Execution attempt in-flight or previously dispatched."))
  else match cached with
  | some result => some result
  | none =>
      -- the first caller of the process goes on to the provider, the others wait for it
      if q.transactionId ∈ service.inFlightTxs then some (awaited env q attempt) else none

/-- The provider's answer as the final result, after its outcome was recorded. -/
def finalResult (q : AsyncRequest) (answer : ExecutionResult) : ExecutionResult :=
  if answer.success then {
    success := true
    transactionId := q.transactionId
    state := .committed
    externalReference := answer.externalReference
    failureCode := none
    failureCategory := none
    safeMessage := answer.safeMessage
    idempotentReplay := false
    providerStatus := some .success
    rawResponseRedacted := answer.rawResponseRedacted
    executedAt := answer.executedAt }
  else if answer.providerStatus = some .unknown then {
    success := false
    transactionId := q.transactionId
    state := .executing
    externalReference := answer.externalReference
    failureCode := some (answer.failureCode.getD .authorizationExpired)
    failureCategory := some (answer.failureCategory.getD .timeout)
    safeMessage := orElseText (some answer.safeMessage) "Outcome UNKNOWN."
    idempotentReplay := false
    providerStatus := some .unknown
    rawResponseRedacted := answer.rawResponseRedacted
    executedAt := answer.executedAt }
  else {
    success := false
    transactionId := q.transactionId
    state := .rolledBack
    externalReference := answer.externalReference
    failureCode := some (answer.failureCode.getD .methodNotAuthorized)
    failureCategory := answer.failureCategory
    safeMessage := answer.safeMessage
    idempotentReplay := false
    providerStatus := some (answer.providerStatus.getD .failed)
    rawResponseRedacted := answer.rawResponseRedacted
    executedAt := answer.executedAt }

/-- Record what the provider answered in the database and the outbox. -/
def recordAnswer (env : AsyncEnv) (q : AsyncRequest) (attempt : ExecutionAttemptRow)
    (answer : ExecutionResult) : DbAction Unit := do
  let ref := answer.externalReference
  if answer.success then
    recordProviderOutcome env.db q.transactionId "SUCCESS" ref
    transitionTransactionState env.db q.transactionId .committed
    recordOutcome env.db attempt.attemptId "SUCCESS" ref
    createEvent env.db "PAYMENT_COMMITTED" "TRANSACTION" q.transactionId (q.eventPayload ref)
  else if answer.providerStatus = some .unknown then
    recordProviderOutcome env.db q.transactionId "UNKNOWN" ref
    recordOutcome env.db attempt.attemptId "UNKNOWN" ref
  else
    recordProviderOutcome env.db q.transactionId "FAILED" ref
    -- the outcome has already moved the row to FAILURE
    transitionTransactionState env.db q.transactionId .failure
    transitionTransactionState env.db q.transactionId .rolledBack
    recordOutcome env.db attempt.attemptId "FAILED" ref
    createEvent env.db "PAYMENT_ROLLED_BACK" "TRANSACTION" q.transactionId (q.eventPayload ref)

/-- `adapter.execute_payment`, which is asked even when it raises. -/
def dispatch (env : AsyncEnv) (q : AsyncRequest) : AsyncAction ExecutionResult := fun s =>
  (env.adapter.executePayment q.trusted, { s with dispatched := s.dispatched ++ [q.trusted] })

def enterFlight (transactionId : String) (s : PaymentExecutionService) :
    PaymentExecutionService :=
  { s with inFlightTxs := transactionId :: s.inFlightTxs }

def leaveFlight (transactionId : String) (s : AsyncState) : AsyncState :=
  { s with service := { s.service with
      inFlightTxs := s.service.inFlightTxs.filter (· ≠ transactionId) } }

/-- Ask the provider, record its answer and cache the result. -/
def invokeProvider (env : AsyncEnv) (q : AsyncRequest) (attempt : ExecutionAttemptRow) :
    AsyncAction ExecutionResult :=
  andFinally (do
    onService (enterFlight q.transactionId)
    let answer ← dispatch env q
    onDb (recordAnswer env q attempt answer)
    onService fun service =>
      { service with results := service.results.set q.transactionId (finalResult q answer) }
    pure (finalResult q answer)) (leaveFlight q.transactionId)

/-- The part after the attempt is claimed. -/
def resolveAttempt (env : AsyncEnv) (q : AsyncRequest) (attempt : ExecutionAttemptRow)
    (isExisting : Bool) : AsyncAction ExecutionResult := do
  match ← asks fun s => answerWithoutProvider env q s.service attempt isExisting with
  | some result => pure result
  | none => invokeProvider env q attempt

/-- The part after the checks: claim the EXECUTING state and the attempt. -/
def claimAndResolve (env : AsyncEnv) (q : AsyncRequest) : AsyncAction ExecutionResult := do
  onDb (markProviderDispatchStarted env.db q.transactionId)
  let claimed ← onDb (claimAttempt env.db (q.claim env))
  resolveAttempt env q claimed.1 claimed.2

/-- The states of a row that already stands for a successful payment. -/
def paidStates : List String := ["COMMITTED", "SUCCESS"]

/-- The part after the row was found not to be paid: the checks, and the claim. -/
def executeUnpaid (env : AsyncEnv) (q : AsyncRequest) : AsyncAction ExecutionResult :=
  match verifyPreExecutionAuth q.authorization with
  | some rej => rejectStored env q rej
  | none => do
      match ← ofExcept (verifyContextAndOperation q.proposal q.transaction) with
      | some rej => rejectStored env q rej
      | none =>
          -- this rejection alone is not written to the database
          if q.transaction.isExecutable = false then
            rejectWith env q (notExecutable q.transaction)
          else claimAndResolve env q

def asyncExecutePayment (env : AsyncEnv) (q : AsyncRequest) : AsyncAction ExecutionResult := do
  let row ← onDb (getTransaction q.transactionId)
  match row.filter fun r => decide (r.state ∈ paidStates) with
  | some paid =>
      pure (replayedSuccess env q paid.providerPaymentId
        "Payment previously executed successfully.")
  | none => executeUnpaid env q

end AsyncPaymentExecution

end MandateGateway
