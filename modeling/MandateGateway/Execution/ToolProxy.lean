import MandateGateway.Execution.Dispatch
import MandateGateway.Execution.Effects

/-! # The tool proxy, and what reaches the provider

    `invoke_execution_tool` turns the raw input of an AI tool call into an
    execution proposal: it drops override flags, refuses unsafe URLs and
    unknown operations, and coerces the fields.  Whatever proposal comes out
    of it, nothing reaches the provider except through the execution gate
    (`dispatch_is_gated`). -/

/-! ## What the execution gate demands

    The two verification helpers report the first check that fails.  Here each
    is characterized by what holds when none does: the gate is open exactly
    for an authorized, matching proposal of an AUTHORIZED transaction. -/

namespace MandateGateway

open Exceptions OrderedMap

/-- What `_verify_pre_execution_auth` lets through. -/
structure Authorized (auth : AuthorizationResult) : Prop where
  decision : auth.decision = .allow
  controls : ∀ name ∈ requiredControls,
    ∃ c, auth.lastOutcome name = some c ∧ c.decision = .allow
  stepUp   : ∀ c, auth.lastOutcome "STEP_UP_AUTHORIZATION" = some c → c.decision = .allow

/-- What `_verify_context_and_operation` lets through. -/
structure ContextMatches (proposal : PaymentExecuteProposalRequest) (tx : Transaction) :
    Prop where
  transactionId : proposal.transactionId = tx.transactionId
  merchantId    : proposal.merchantId = tx.merchantId
  buyerId       : proposal.buyerId = tx.buyerId
  mandateId     : proposal.mandateId = tx.mandateId
  amountPaise   : proposal.amountPaise = tx.amountPaise
  currency      : proposal.currency = tx.currency
  cartHash      : ∀ h, tx.cartHash = some h → h ≠ "" →
    Text.lower (Text.strip proposal.cartHash) = Text.lower (Text.strip h)
  operation     : proposal.operation = .createOrder ∨ proposal.operation = .createPaymentLink
    ∨ proposal.operation = .fetchPayment

theorem controlAllows_iff {auth : AuthorizationResult} {name : String} :
    controlAllows auth.outcomesByName name = true
      ↔ ∃ c, auth.lastOutcome name = some c ∧ c.decision = .allow := by
  rw [controlAllows, auth.get_outcomesByName]
  cases auth.lastOutcome name with
  | none =>
      refine ⟨fun h => absurd h Bool.false_ne_true, ?_⟩
      rintro ⟨c, hc, -⟩
      cases hc
  | some c =>
      dsimp only
      rw [beq_iff_eq]
      constructor
      · intro h
        exact ⟨c, rfl, h⟩
      · rintro ⟨c', hc, h⟩
        obtain rfl := Option.some.inj hc
        exact h

theorem unsatisfied_eq_none_iff {auth : AuthorizationResult} :
    (requiredControls.find? fun name => !controlAllows auth.outcomesByName name) = none
      ↔ ∀ name ∈ requiredControls, ∃ c, auth.lastOutcome name = some c ∧ c.decision = .allow := by
  rw [List.find?_eq_none]
  constructor
  · intro h name hname
    refine controlAllows_iff.mp ?_
    simpa using h name hname
  · intro h name hname
    rw [controlAllows_iff.mpr (h name hname)]
    exact Bool.false_ne_true

theorem stepUp_blocks_iff {auth : AuthorizationResult} :
    (auth.outcomesByName.contains "STEP_UP_AUTHORIZATION"
        && !controlAllows auth.outcomesByName "STEP_UP_AUTHORIZATION") = true
      ↔ ¬ ∀ c, auth.lastOutcome "STEP_UP_AUTHORIZATION" = some c → c.decision = .allow := by
  rw [contains, controlAllows, auth.get_outcomesByName]
  cases auth.lastOutcome "STEP_UP_AUTHORIZATION" with
  | none => simp
  | some c => simp

/-- **The authorization check passes exactly the authorized.** -/
theorem verifyPreExecutionAuth_eq_none_iff {auth : AuthorizationResult} :
    verifyPreExecutionAuth auth = none ↔ Authorized auth := by
  rw [verifyPreExecutionAuth, check_eq_none_iff, not_not]
  cases hfind : requiredControls.find? fun name => !controlAllows auth.outcomesByName name with
  | some name =>
      constructor
      · rintro ⟨-, hsome⟩
        cases hsome
      · intro h
        rw [unsatisfied_eq_none_iff.mpr h.controls] at hfind
        cases hfind
  | none =>
      dsimp only
      rw [check_eq_none_iff, stepUp_blocks_iff, not_not]
      constructor
      · rintro ⟨hdecision, hstepUp, -⟩
        exact ⟨hdecision, unsatisfied_eq_none_iff.mp hfind, hstepUp⟩
      · rintro ⟨hdecision, -, hstepUp⟩
        exact ⟨hdecision, hstepUp, rfl⟩

theorem cartHash_matches_iff {proposal : PaymentExecuteProposalRequest} {tx : Transaction} :
    ¬ (tx.cartHash.getD "" ≠ "" ∧ cartHashDiffers proposal.cartHash (tx.cartHash.getD ""))
      ↔ ∀ h, tx.cartHash = some h → h ≠ "" →
          Text.lower (Text.strip proposal.cartHash) = Text.lower (Text.strip h) := by
  rw [not_and, cartHashDiffers, bne_iff_ne, not_not]
  cases tx.cartHash with
  | none =>
      constructor
      · intro _ h hh
        cases hh
      · intro _ hne
        exact absurd rfl hne
  | some h =>
      constructor
      · intro hmatch h' heq hne
        obtain rfl := Option.some.inj heq
        exact hmatch hne
      · intro hmatch hne
        exact hmatch h rfl hne

theorem operation_allowed_iff {op : McpOperation} :
    (¬ op.isBlockedByDefault = true ∧ ¬ op ∉ allowedOps)
      ↔ op = .createOrder ∨ op = .createPaymentLink ∨ op = .fetchPayment := by
  cases op <;> decide

/-- **The context check passes exactly the proposals that match.** -/
theorem verifyContextAndOperation_eq_none_iff {proposal : PaymentExecuteProposalRequest}
    {tx : Transaction} :
    verifyContextAndOperation proposal tx = .ok none ↔ ContextMatches proposal tx := by
  -- the amount check computes its message, and either way does not pass
  have hamount : (amountMismatchText proposal.amountPaise tx.amountPaise).map
      (fun message => some (⟨.invalidAmount, .invalidContext, message⟩ : Rejection))
        ≠ .ok none := by
    cases amountMismatchText proposal.amountPaise tx.amountPaise with
    | error err =>
        intro h
        cases h
    | ok message =>
        intro h
        cases h
  rw [verifyContextAndOperation, check_eq_ok_none_iff, check_eq_ok_none_iff,
    check_eq_ok_none_iff, check_eq_ok_none_iff, ite_eq_iff_of_ne hamount,
    check_eq_ok_none_iff, check_eq_ok_none_iff, check_eq_ok_none_iff, check_eq_ok_none_iff,
    cartHash_matches_iff]
  simp only [not_not]
  constructor
  · rintro ⟨htx, hmerchant, hbuyer, hmandate, hpaise, hcurrency, hhash, hblocked, hop, -⟩
    exact ⟨htx, hmerchant, hbuyer, hmandate, hpaise, hcurrency, hhash,
      operation_allowed_iff.mp ⟨hblocked, not_not_intro hop⟩⟩
  · rintro ⟨htx, hmerchant, hbuyer, hmandate, hpaise, hcurrency, hhash, hop⟩
    obtain ⟨hblocked, hallowed⟩ := operation_allowed_iff.mpr hop
    exact ⟨htx, hmerchant, hbuyer, hmandate, hpaise, hcurrency, hhash, hblocked,
      not_not.mp hallowed, trivial⟩

/-- **The gate is open exactly for an authorized, matching proposal of an
    AUTHORIZED transaction.** -/
theorem executionGate_eq_none_iff {proposal : PaymentExecuteProposalRequest}
    {auth : AuthorizationResult} {tx : Transaction} :
    executionGate proposal auth tx = .ok none
      ↔ Authorized auth ∧ ContextMatches proposal tx ∧ tx.state = .authorized := by
  rw [← verifyPreExecutionAuth_eq_none_iff, ← verifyContextAndOperation_eq_none_iff,
    executionGate]
  cases verifyPreExecutionAuth auth with
  | some rej => simp
  | none =>
      cases verifyContextAndOperation proposal tx with
      | error err => simp
      | ok verdict =>
          cases verdict with
          | some rej => simp
          | none =>
              have hexec : tx.isExecutable = true ↔ tx.state = .authorized := beq_iff_eq
              by_cases h : tx.isExecutable = true
              · simp only [if_pos h, true_and, hexec.mp h]
              · simp [← hexec, h]

end MandateGateway

namespace MandateGateway

open Clock OrderedMap Runs

/-- Public response of the execution boundary. -/
structure PaymentExecuteResponse where
  success           : Bool
  transactionId     : String
  state             : TransactionState
  externalReference : Option String
  failureCode       : Option RejectionReason
  failureCategory   : Option String
  safeMessage       : String
  idempotentReplay  : Bool
  providerStatus    : Option PaymentResultState
  executedAt        : Instant

/-- What a tool invocation returns or raises, and what it dispatched. -/
structure ToolOutcome where
  response   : Except PyError PaymentExecuteResponse
  dispatched : Option TrustedExecutionRequest

namespace SecurityToolProxy

def untrustedAuthorityKeys : List String :=
  ["admin_override", "bypass_auth", "payment_approved", "skip_policy", "skip_mandate",
    "skip_budget", "skip_nonce", "skip_step_up", "force_execute", "is_authorized", "authorized"]

/-- The blocked patterns; none has a wildcard, so each matches itself. -/
def blockedUrlPatterns : List String :=
  ["localhost", "127.0.0.1", "0.0.0.0", "169.254.", "file://", "data:", "javascript:"]

def sanitizeUntrustedInput (toolInput : OrderedMap String PyValue) :
    OrderedMap String PyValue :=
  toolInput.filterKeys fun k => !untrustedAuthorityKeys.contains (Text.lower k)

def validateUrlSafety (url : String) : Bool :=
  let low := Text.strip (Text.lower url)
  !blockedUrlPatterns.any fun pat => Text.occursIn pat low

/-- A refusal before the execution service is reached. -/
def refusal (env : Ambient) (tx : Transaction) (code : RejectionReason)
    (category : ExecutionFailureCategory) (message : String) : PaymentExecuteResponse where
  success := false
  transactionId := tx.transactionId
  state := .rejected
  externalReference := none
  failureCode := some code
  failureCategory := some category.value
  safeMessage := message
  idempotentReplay := false
  providerStatus := none
  executedAt := env.now

/-- Whether the input names a target URL that is not safe. -/
def targetsUnsafeUrl (input : OrderedMap String PyValue) : Bool :=
  match input.get "target_url" with
  | some (.str url) => url != "" && !validateUrlSafety url
  | _ => false

/-- `McpOperation(op_raw)`. -/
def parseOperation : PyValue → Option McpOperation
  | .str text => McpOperation.ofValue text
  | _ => none

/-- `Currency(value)`. -/
def parseCurrency (co : Coercions) (value : PyValue) : Except PyError Currency :=
  match value with
  | .str text =>
      match Currency.ofValue text with
      | some c => .ok c
      | none => .error (.valueError s!"{co.repr value} is not a valid Currency")
  | _ => .error (.valueError s!"{co.repr value} is not a valid Currency")

/-- The proposal's own validation: the fields that fail it. -/
def invalidFields (p : PaymentExecuteProposalRequest) (metadata : PyValue) : List String :=
  (if p.transactionId = "" then ["transaction_id"] else [])
    ++ (if p.merchantId = "" then ["merchant_id"] else [])
    ++ (if p.buyerId = "" then ["buyer_id"] else [])
    ++ (if p.mandateId = "" then ["mandate_id"] else [])
    ++ (if p.amountPaise < 0 then ["amount_paise"] else [])
    ++ (if p.cartHash = "" then ["cart_hash"] else [])
    ++ (if p.idempotencyKey = "" then ["idempotency_key"] else [])
    ++ (match metadata with | .dict _ => [] | _ => ["untrusted_metadata"])

/-- The proposal of a clean input, defaulted from the transaction. -/
def buildProposal (co : Coercions) (input : OrderedMap String PyValue) (tx : Transaction)
    (op : McpOperation) : Except PyError PaymentExecuteProposalRequest :=
  let text (key default : String) : String := co.str ((input.get key).getD (.str default))
  match co.int ((input.get "amount_paise").getD (.int tx.amountPaise)) with
  | .error err => .error err
  | .ok amount =>
      match parseCurrency co ((input.get "currency").getD (.str tx.currency.value)) with
      | .error err => .error err
      | .ok currency =>
          let metadata := (input.get "untrusted_metadata").getD (.dict [])
          let proposal : PaymentExecuteProposalRequest := {
            transactionId := text "transaction_id" tx.transactionId
            merchantId := text "merchant_id" tx.merchantId
            buyerId := text "buyer_id" tx.buyerId
            mandateId := text "mandate_id" tx.mandateId
            amountPaise := amount
            currency := currency
            cartHash := text "cart_hash" (tx.cartHash.getD "")
            operation := op
            idempotencyKey := text "idempotency_key" s!"exec:{tx.transactionId}"
            untrustedMetadata := match metadata with | .dict kvs => kvs | _ => [] }
          match invalidFields proposal metadata with
          | [] => .ok proposal
          | fields => .error (.validationError "PaymentExecuteProposalRequest" fields)

/-- The proposal a raw input amounts to, or the refusal it gets. -/
def parseToolInput (env : Ambient) (co : Coercions) (rawToolInput : OrderedMap String PyValue)
    (tx : Transaction) : Except PaymentExecuteResponse PaymentExecuteProposalRequest :=
  let cleanInput := sanitizeUntrustedInput rawToolInput
  if targetsUnsafeUrl cleanInput then
    .error (refusal env tx .operationNotAllowed .invalidContext
      "Blocked attempt to access invalid or unsafe target URL.")
  else
    let opRaw := (cleanInput.get "operation").getD (.str "create_order")
    match parseOperation opRaw with
    | none =>
        .error (refusal env tx .operationNotAllowed .validationError
          s!"Unsupported MCP operation: {co.repr opRaw}.")
    | some op =>
        match buildProposal co cleanInput tx op with
        | .error err =>
            .error (refusal env tx .invalidTransactionState .validationError
              s!"Invalid execution proposal parameters: {co.exceptionText err}")
        | .ok proposal => .ok proposal

/-- The public response for an execution result; an empty message violates
    the response's own contract. -/
def toResponse (r : ExecutionResult) : Except PyError PaymentExecuteResponse :=
  if r.safeMessage = "" then
    .error (.validationError "PaymentExecuteResponse" ["safe_message"])
  else
    .ok {
      success := r.success
      transactionId := r.transactionId
      state := r.state
      externalReference := r.externalReference
      failureCode := r.failureCode
      failureCategory := r.failureCategory.map ExecutionFailureCategory.value
      safeMessage := r.safeMessage
      idempotentReplay := r.idempotentReplay
      providerStatus := r.providerStatus
      executedAt := r.executedAt }

def invokeExecutionTool (env : Ambient) (adapter : RazorpayAdapter) (co : Coercions)
    (rawToolInput : OrderedMap String PyValue) (auth : AuthorizationResult)
    (tx : Transaction) (s : PaymentExecutionService) :
    ToolOutcome × PaymentExecutionService :=
  match parseToolInput env co rawToolInput tx with
  | .error response => (⟨.ok response, none⟩, s)
  | .ok proposal =>
      let r := s.executePayment env adapter proposal auth tx
      match r.1.result with
      | .error err => (⟨.error err, r.1.dispatched⟩, r.2)
      | .ok result => (⟨toResponse result, r.1.dispatched⟩, r.2)

end SecurityToolProxy

/-! ## Calls on the gateway -/

/-- A call on the service, directly or through the tool proxy. -/
inductive GatewayCall where
  | service (c : ServiceCall)
  | tool (env : Ambient) (adapter : RazorpayAdapter) (co : Coercions)
      (rawToolInput : OrderedMap String PyValue) (auth : AuthorizationResult)
      (tx : Transaction)

/-- What a gateway call hands back. -/
inductive GatewayReply where
  | service (o : Option CallOutcome)
  | tool (o : ToolOutcome)

/-- The request a gateway call handed to the provider. -/
def GatewayReply.dispatched : GatewayReply → Option TrustedExecutionRequest
  | .service none => none
  | .service (some o) => o.dispatched
  | .tool o => o.dispatched

/-- The proposal, authorization and snapshot that a call submits for execution. -/
def GatewayCall.submits :
    GatewayCall → Option (PaymentExecuteProposalRequest × AuthorizationResult × Transaction)
  | .service (.pay (.execute _ _ proposal auth tx)) => some (proposal, auth, tx)
  | .service _ => none
  | .tool env _ co rawToolInput auth tx =>
      (SecurityToolProxy.parseToolInput env co rawToolInput tx).toOption.map fun proposal =>
        (proposal, auth, tx)

def PaymentExecutionService.gatewayCall (s : PaymentExecutionService) :
    GatewayCall → GatewayReply × PaymentExecutionService
  | .service c => (.service (s.call c).1, (s.call c).2)
  | .tool env adapter co rawToolInput auth tx =>
      let r := SecurityToolProxy.invokeExecutionTool env adapter co rawToolInput auth tx s
      (.tool r.1, r.2)

/-- The request is the transaction's own. -/
structure CarriesTransaction (request : TrustedExecutionRequest) (tx : Transaction) :
    Prop where
  transactionId : request.transactionId = tx.transactionId
  merchantId    : request.merchantId = tx.merchantId
  buyerId       : request.buyerId = tx.buyerId
  mandateId     : request.mandateId = tx.mandateId
  amountPaise   : request.amountPaise = tx.amountPaise
  currency      : request.currency = tx.currency

namespace PaymentExecutionService

theorem executePayment_gated (s : PaymentExecutionService) (env : Ambient)
    (adapter : RazorpayAdapter) (proposal : PaymentExecuteProposalRequest)
    (auth : AuthorizationResult) (tx : Transaction) {request : TrustedExecutionRequest}
    (hd : (s.executePayment env adapter proposal auth tx).1.dispatched = some request) :
    (Authorized auth ∧ ContextMatches proposal tx ∧ tx.state = .authorized)
      ∧ CarriesTransaction request tx := by
  obtain ⟨-, hgate, ⟨executingTx, hclaim, rfl⟩, -⟩ :=
    (execute_effect s env adapter proposal auth tx).dispatch hd
  exact ⟨executionGate_eq_none_iff.mp hgate, hclaim.transactionId, hclaim.merchantId,
    hclaim.buyerId, hclaim.mandateId, hclaim.amountPaise, hclaim.currency⟩

theorem invokeExecutionTool_dispatched (s : PaymentExecutionService) (env : Ambient)
    (adapter : RazorpayAdapter) (co : Coercions) (raw : OrderedMap String PyValue)
    (auth : AuthorizationResult) (tx : Transaction) {request : TrustedExecutionRequest}
    (hd : (SecurityToolProxy.invokeExecutionTool env adapter co raw auth tx s).1.dispatched
      = some request) :
    ∃ proposal, SecurityToolProxy.parseToolInput env co raw tx = .ok proposal
      ∧ (s.executePayment env adapter proposal auth tx).1.dispatched = some request := by
  rw [SecurityToolProxy.invokeExecutionTool] at hd
  cases hparse : SecurityToolProxy.parseToolInput env co raw tx with
  | error response =>
      rw [hparse] at hd
      cases hd
  | ok proposal =>
      refine ⟨proposal, rfl, ?_⟩
      rw [hparse] at hd
      dsimp only at hd
      cases hresult : (s.executePayment env adapter proposal auth tx).1.result with
      | error err =>
          rw [hresult] at hd
          exact hd
      | ok result =>
          rw [hresult] at hd
          exact hd

/-- **Nothing reaches the provider except through the gate.**  Whenever a call
    of a run, direct or through the tool proxy, hands a request to the
    provider, it submitted an authorized, matching proposal of an AUTHORIZED
    transaction, and the request carries that transaction's own data. -/
theorem dispatch_is_gated (s : PaymentExecutionService) (calls : List GatewayCall)
    (c : Step PaymentExecutionService GatewayCall GatewayReply)
    (hc : c ∈ steps gatewayCall s calls) (request : TrustedExecutionRequest)
    (hd : c.out.dispatched = some request) :
    ∃ proposal auth tx, c.act.submits = some (proposal, auth, tx) ∧ Authorized auth
      ∧ tx.state = .authorized ∧ ContextMatches proposal tx
      ∧ CarriesTransaction request tx := by
  obtain ⟨l, a, r, -, rfl⟩ := mem_steps_iff.mp hc
  cases a with
  | tool env adapter co raw auth tx =>
      obtain ⟨proposal, hparse, hexec⟩ :=
        invokeExecutionTool_dispatched (exec gatewayCall s l) env adapter co raw auth tx hd
      obtain ⟨⟨hauth, hmatch, hstate⟩, hcarries⟩ := executePayment_gated _ _ _ _ _ _ hexec
      refine ⟨proposal, auth, tx, ?_, hauth, hstate, hmatch, hcarries⟩
      show (SecurityToolProxy.parseToolInput env co raw tx).toOption.map _ = _
      rw [hparse]
      rfl
  | service c =>
      cases c with
      | register tx => cases hd
      | pay p =>
          cases p with
          | reconcile env adapter t ext =>
              have hnone := (reconcile_effect (exec gatewayCall s l) env adapter t
                ext).dispatched_eq_none
              exact nomatch hnone.symm.trans hd
          | execute env adapter proposal auth tx =>
              obtain ⟨⟨hauth, hmatch, hstate⟩, hcarries⟩ :=
                executePayment_gated (exec gatewayCall s l) env adapter proposal auth tx hd
              exact ⟨proposal, auth, tx, rfl, hauth, hstate, hmatch, hcarries⟩

/-- The sample purchase, asked for by a tool with one override flag. -/
def sampleToolCall : GatewayCall :=
  let co : Coercions := {
    str := fun v => match v with | .str text => text | _ => ""
    repr := fun _ => ""
    int := fun v => match v with | .int i => .ok i | _ => .error (.valueError "invalid literal")
    exceptionText := PyError.text }
  .tool Sample.env (Sample.answering true .success) co
    (empty.set "Admin_Override" (.bool true)) Sample.authorization
    Sample.transaction

theorem dispatch_is_gated_sample :
    ∃ request, (stepAt gatewayCall new sampleToolCall).out.dispatched = some request
      ∧ ∃ proposal auth tx, sampleToolCall.submits = some (proposal, auth, tx)
        ∧ Authorized auth ∧ tx.state = .authorized ∧ ContextMatches proposal tx
        ∧ CarriesTransaction request tx :=
  ⟨_, rfl, dispatch_is_gated new [sampleToolCall] (stepAt gatewayCall new sampleToolCall)
    List.mem_cons_self _ rfl⟩

end PaymentExecutionService

end MandateGateway
