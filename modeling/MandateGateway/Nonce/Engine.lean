import MandateGateway.Authorization.ControlResults
import MandateGateway.Lib.OrderedMap

/-! # The nonce engine

    Nonces are issued for a mandate and a transaction, and consumed once.  The
    lock of the source makes each call atomic, so a call is one step from the
    store before it to the store after it. -/

namespace MandateGateway

open Clock

/-- What the process supplies to an issuance: besides time and identifier,
    what `generate_nonce()` returns. -/
structure NonceEnv where
  ambient : Ambient
  value   : String
deriving DecidableEq, Repr

structure NonceRefusal where
  reason : RejectionReason
  detail : String
deriving DecidableEq

def NonceRefusal.result (refusal : NonceRefusal) (nonceValue mandateId transactionId : String)
    (record : Option NonceRecord) (evalTime : Instant) : NonceEvaluationResult where
  valid := false
  decision := .reject
  nonceValue := nonceValue
  mandateId := mandateId
  transactionId := transactionId
  record := record
  rejectionReason := some refusal.reason
  rejectionDetail := some refusal.detail
  evaluatedAt := evalTime

/-- The result of an accepted validation. -/
def acceptedNonce (nonceValue mandateId transactionId : String) (consumed : NonceRecord)
    (evalTime : Instant) : NonceEvaluationResult where
  valid := true
  decision := .allow
  nonceValue := nonceValue
  mandateId := mandateId
  transactionId := transactionId
  record := some consumed
  rejectionReason := none
  rejectionDetail := none
  evaluatedAt := evalTime

def emptyNonceRefusal : NonceRefusal :=
  ⟨.nonceInvalid, "Nonce validation failed: Nonce value cannot be empty."⟩

/-- The bindings of a nonce against the ones that are submitted. -/
def nonceBindingRefusal (record : NonceRecord) (cleanNonce mandateId transactionId : String) :
    Option NonceRefusal :=
  if record.mandateId ≠ Text.strip mandateId ∨ record.transactionId ≠ Text.strip transactionId then
    some ⟨.nonceInvalid,
      s!"Nonce binding mismatch: Nonce {String.ofList (cleanNonce.toList.take 8)}... is bound to "
        ++ s!"mandate={Text.quoted record.mandateId}, tx={Text.quoted record.transactionId}, "
        ++ s!"but submitted for mandate={Text.quoted mandateId}, "
        ++ s!"tx={Text.quoted transactionId}."⟩
  else none

def nonceConsumedRefusal (record : NonceRecord) (cleanNonce : String) : Option NonceRefusal :=
  if record.state = .consumed then
    some ⟨.nonceAlreadyConsumed,
      s!"Nonce {Text.quoted cleanNonce} has already been consumed at "
        ++ s!"{timestampText record.consumedAt}."⟩
  else none

def nonceFutureRefusal (record : NonceRecord) (cleanNonce : String) (evalTime : Instant) :
    Option NonceRefusal :=
  if evalTime < record.issuedAt then
    some ⟨.invalidTransactionState,
      s!"Nonce {Text.quoted cleanNonce} issued in future ({isoformat record.issuedAt})."⟩
  else none

def nonceExpiryRefusal (record : NonceRecord) (cleanNonce : String) (evalTime : Instant) :
    Option NonceRefusal :=
  if record.expiresAt ≤ evalTime then
    some ⟨.authorizationExpired,
      s!"Nonce {Text.quoted cleanNonce} expired at {isoformat record.expiresAt}."⟩
  else none

def NonceRecord.consume (record : NonceRecord) (consumedAt : Instant) : NonceRecord :=
  { record with
    state := .consumed
    consumedAt := some consumedAt }

/-- The store of a `NonceEngine`. -/
structure NonceEngine where
  records : OrderedMap String NonceRecord

namespace NonceEngine

/-- `NonceEngine()`. -/
def new : NonceEngine := ⟨OrderedMap.empty⟩

def issueNonce (env : NonceEnv) (mandateId transactionId : String) (ttlSeconds : Int)
    (at? : Option Instant) (e : NonceEngine) : Except PyError NonceRecord × NonceEngine :=
  if Text.strip mandateId = "" then
    (.error (.valueError "mandate_id cannot be empty"), e)
  else if Text.strip transactionId = "" then
    (.error (.valueError "transaction_id cannot be empty"), e)
  else
    let issuedTime := env.ambient.time at?
    match addSeconds issuedTime ttlSeconds with
    | none => (.error .timestampOutOfRange, e)
    | some expiresTime =>
        match NonceRecord.build env.ambient.uuid env.value (Text.strip transactionId)
            (Text.strip mandateId) .issued issuedTime expiresTime none with
        | .error err => (.error err, e)
        | .ok record => (.ok record, ⟨e.records.set env.value record⟩)

/-- Why `validate_and_consume` refuses a stored nonce. -/
def storedRefusal (record : NonceRecord) (cleanNonce mandateId transactionId : String)
    (evalTime : Instant) : Option NonceRefusal :=
  nonceBindingRefusal record cleanNonce mandateId transactionId
  <|> nonceConsumedRefusal record cleanNonce
  <|> nonceFutureRefusal record cleanNonce evalTime
  <|> nonceExpiryRefusal record cleanNonce evalTime

def validateAndConsume (env : Ambient) (nonceValue mandateId transactionId : String)
    (at? : Option Instant) (e : NonceEngine) : NonceEvaluationResult × NonceEngine :=
  let evalTime := env.time at?
  let cleanNonce := Text.strip nonceValue
  if cleanNonce = "" then
    (emptyNonceRefusal.result nonceValue mandateId transactionId none evalTime, e)
  else match e.records.get cleanNonce with
  | none =>
      let refusal : NonceRefusal := ⟨.nonceInvalid,
        s!"Nonce validation failed: Nonce {Text.quoted cleanNonce} not found in store."⟩
      (refusal.result cleanNonce mandateId transactionId none evalTime, e)
  | some record =>
      match storedRefusal record cleanNonce mandateId transactionId evalTime with
      | some refusal =>
          (refusal.result cleanNonce mandateId transactionId (some record) evalTime, e)
      | none =>
          let consumed := record.consume evalTime
          (acceptedNonce cleanNonce mandateId transactionId consumed evalTime,
            ⟨e.records.set cleanNonce consumed⟩)

end NonceEngine

end MandateGateway
