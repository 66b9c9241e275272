import MandateGateway.Execution.Service
import MandateGateway.Lib.JsonDecode

/-! # The HTTP adapter of the provider

    `RazorpayHttpAdapter` sends one request for each call, and makes a result
    of whatever comes back: a parsed body, a status code, a broken connection.
    Neither of its operations raises. -/

namespace MandateGateway

open Clock OrderedMap

/-! ## Requests and replies -/

/-- A request as it is handed to `urlopen`; the credentials as they are before
    their encoding. -/
structure HttpRequest where
  url         : String
  method      : String
  contentType : Option String
  data        : Option Json
  credentials : String

/-- An exception of the connection: a `URLError`, `TimeoutError` or other
    `OSError` with its text, or any other exception. -/
inductive TransportError where
  | os (text : String) (isTimeoutError : Bool)
  | other
deriving DecidableEq, Repr

/-- What comes back for a request: a reply, with what becomes of reading and
    parsing its body, or an exception. -/
inductive HttpReply where
  | replied (code : Nat) (body : Except TransportError PyValue)
  | raised (err : TransportError)

/-- A reply that is no HTTP error. -/
def Successful (code : Nat) : Prop := 200 ≤ code ∧ code < 300

instance (code : Nat) : Decidable (Successful code) := inferInstanceAs (Decidable (_ ∧ _))

inductive HttpException where
  | httpError (code : Nat)
  | transport (err : TransportError)
deriving DecidableEq, Repr

/-- `json.loads(urlopen(req).read().decode("utf-8"))`. -/
def HttpReply.load : HttpReply → Except HttpException PyValue
  | .raised err => .error (.transport err)
  | .replied code body =>
      if Successful code then body.mapError .transport else .error (.httpError code)

/-! ## The adapter -/

/-- The adapter, with the connection it meets during one call. -/
structure RazorpayHttpAdapter where
  keyId     : String
  keySecret : String
  coercions : Coercions
  urlopen   : HttpRequest → HttpReply

namespace RazorpayHttpAdapter

def allowedBaseUrl : String := "https://api.razorpay.com/v1"

/-- Where an operation is sent. -/
def endpoint : McpOperation → String
  | .createOrder => allowedBaseUrl ++ "/orders"
  | .createPaymentLink => allowedBaseUrl ++ "/payment_links"
  | _ => allowedBaseUrl ++ "/payments"

def credentials (http : RazorpayHttpAdapter) : String := s!"{http.keyId}:{http.keySecret}"

def paymentRequest (http : RazorpayHttpAdapter) (request : TrustedExecutionRequest) :
    HttpRequest where
  url := endpoint request.operation
  method := "POST"
  contentType := some "application/json"
  data := some (.obj [
    ("amount", .int request.amountPaise),
    ("currency", .str request.currency.value),
    ("receipt", .str request.transactionId),
    ("notes", .obj [
      ("mandate_id", .str request.mandateId),
      ("cart_hash", .str request.cartHash)])])
  credentials := http.credentials

def statusRequest (http : RazorpayHttpAdapter) (paymentId : String) : HttpRequest where
  url := s!"{allowedBaseUrl}/payments/{paymentId}"
  method := "GET"
  contentType := none
  data := none
  credentials := http.credentials

/-- An identifier of a body as a result carries it: one that is no text is
    carried as the text it prints as, or as the empty text if it is falsy. -/
def reference (http : RazorpayHttpAdapter) : PyValue → Option String
  | .none => none
  | .str text => some text
  | value => some (if value.truthy then http.coercions.str value else "")

/-- A result without success. -/
def unsuccessful (now : Instant) (transactionId : String) (rej : Rejection)
    (status : PaymentResultState) : ExecutionResult where
  success := false
  transactionId := transactionId
  state := .failure
  externalReference := none
  failureCode := some rej.reason
  failureCategory := some rej.category
  safeMessage := rej.message
  idempotentReplay := false
  providerStatus := some status
  rawResponseRedacted := none
  executedAt := now

/-- What an HTTP error of an execution is reported as. -/
def httpErrorRejection (code : Nat) : Rejection :=
  if code = 401 ∨ code = 403 then
    ⟨.methodNotAuthorized, .authenticationError, "Razorpay authentication failed."⟩
  else if code = 400 then
    ⟨.invalidAmount, .validationError, "Razorpay request validation failed."⟩
  else if code = 429 then
    ⟨.autonomousExecutionDisabled, .rateLimitExceeded, "Razorpay rate limit exceeded."⟩
  else
    ⟨.methodNotAuthorized, .providerRejected, s!"Razorpay API returned HTTP error {code}."⟩

def connectionRejection (text : String) (isTimeoutError : Bool) : Rejection :=
  if Text.occursIn "timed out" (Text.lower text) ∨ isTimeoutError = true then
    ⟨.authorizationExpired, .timeout, "Razorpay API request timed out."⟩
  else ⟨.authorizationExpired, .connectionFailed, "Razorpay connection error."⟩

def unexpectedRejection : Rejection :=
  ⟨.methodNotAuthorized, .unknownProviderError,
    "An unexpected error occurred during payment execution."⟩

/-- The result of an execution whose reply is a JSON object. -/
def accepted (http : RazorpayHttpAdapter) (now : Instant) (request : TrustedExecutionRequest)
    (members : List (String × PyValue)) : ExecutionResult :=
  let extId := (members.lookup "id").getD
    (.str s!"rzp_{String.ofList (request.transactionId.toList.take 8)}")
  { success := true
    transactionId := request.transactionId
    state := .success
    externalReference := http.reference extId
    failureCode := none
    failureCategory := none
    safeMessage := s!"Razorpay operation {request.operation.value} succeeded."
    idempotentReplay := false
    providerStatus := some .success
    rawResponseRedacted := some ((empty.set "id" extId).set "status"
      ((members.lookup "status").getD (.str "created")))
    executedAt := now }

def executePayment (http : RazorpayHttpAdapter) (now : Instant)
    (request : TrustedExecutionRequest) : ExecutionResult :=
  if ¬ allowedBaseUrl.toList <+: (endpoint request.operation).toList then
    unsuccessful now request.transactionId
      ⟨.operationNotAllowed, .invalidContext, "Target URL outside allowed Razorpay domain."⟩
      .failed
  else
    match (http.urlopen (http.paymentRequest request)).load with
    | .ok (.dict members) => http.accepted now request members
    -- every other value has no `get`
    | .ok _ => unsuccessful now request.transactionId unexpectedRejection .unknown
    | .error (.httpError code) =>
        unsuccessful now request.transactionId (httpErrorRejection code) .failed
    | .error (.transport (.os text isTimeoutError)) =>
        unsuccessful now request.transactionId (connectionRejection text isTimeoutError) .unknown
    | .error (.transport .other) =>
        unsuccessful now request.transactionId unexpectedRejection .unknown

/-- `status_str == "captured"`. -/
def isCaptured : PyValue → Bool
  | .str text => text == "captured"
  | _ => false

/-- The result of a query whose reply is a JSON object. -/
def fetched (now : Instant) (paymentId : String) (members : List (String × PyValue)) :
    ExecutionResult :=
  let status := (members.lookup "status").getD (.str "captured")
  { success := true
    transactionId := "tx-fetch"
    state := .success
    externalReference := some paymentId
    failureCode := none
    failureCategory := none
    safeMessage := s!"Fetched payment {paymentId}."
    idempotentReplay := false
    providerStatus := some (if isCaptured status then .success else .pending)
    rawResponseRedacted := some ((empty.set "id" (.str paymentId)).set "status" status)
    executedAt := now }

def fetchPaymentStatus (http : RazorpayHttpAdapter) (now : Instant) (paymentId : String) :
    ExecutionResult :=
  match (http.urlopen (http.statusRequest paymentId)).load with
  | .ok (.dict members) => fetched now paymentId members
  | _ =>
      unsuccessful now "tx-fetch"
        ⟨.methodNotAuthorized, .unknownProviderError,
          s!"Failed to fetch status for payment {paymentId}."⟩ .unknown

/-- The adapter as the execution service calls it. -/
def answering (http : RazorpayHttpAdapter) (now : Instant) : RazorpayAdapter where
  executePayment request := .ok (http.executePayment now request)
  fetchPaymentStatus ref := .ok (http.fetchPaymentStatus now ref)

/-- **No operation is sent outside the allowed domain.** -/
theorem endpoint_allowed (op : McpOperation) :
    allowedBaseUrl.toList <+: (endpoint op).toList := by
  cases op with
  | createOrder => exact ⟨_, (String.toList_append ..).symm⟩
  | createPaymentLink => exact ⟨_, (String.toList_append ..).symm⟩
  | _ => exact ⟨_, (String.toList_append ..).symm⟩

end RazorpayHttpAdapter

end MandateGateway
