import MandateGateway.Authorization.ControlResults
import MandateGateway.Lib.JsonDecode
import MandateGateway.Lib.OrderedMap

/-! # The replay protection engine

    An action is identified by a mandate, a transaction, a cart and a merchant.
    The first use of an identity is allowed and recorded under its fingerprint;
    a use while the record is active is a replay.  The lock of the source makes
    each call atomic. -/

namespace MandateGateway

open Clock

/-- The members of the object that is fingerprinted. -/
structure ReplayIdentity where
  cartHash      : String
  mandateId     : String
  merchantId    : String
  transactionId : String
deriving DecidableEq, Repr

namespace ReplayIdentity

/-- `normalize(x) if x else ""`. -/
def normalizedOrEmpty (normalize : String → String) : Option String → String
  | none => ""
  | some x => if x = "" then "" else normalize x

/-- The identity of an action, its parts normalized. -/
def ofParts (mandateId transactionId : String) (cartHash merchantId : Option String) :
    ReplayIdentity where
  cartHash := normalizedOrEmpty (fun x => Text.lower (Text.strip x)) cartHash
  mandateId := Text.strip mandateId
  merchantId := normalizedOrEmpty Text.strip merchantId
  transactionId := Text.strip transactionId

/-- The object with its members sorted by name. -/
def canonicalObj (i : ReplayIdentity) : Json := .obj [
  ("cart_hash", .str i.cartHash),
  ("mandate_id", .str i.mandateId),
  ("merchant_id", .str i.merchantId),
  ("transaction_id", .str i.transactionId)]

def fingerprint (sha256 : String → String) (i : ReplayIdentity) : String :=
  sha256 i.canonicalObj.compact

end ReplayIdentity

def computeReplayFingerprint (sha256 : String → String) (mandateId transactionId : String)
    (cartHash merchantId : Option String) : String :=
  (ReplayIdentity.ofParts mandateId transactionId cartHash merchantId).fingerprint sha256

/-- Immutable audit record of a consumed replay fingerprint. -/
structure ReplayRecord where
  fingerprint   : String
  mandateId     : String
  transactionId : String
  createdAt     : Instant
  expiresAt     : Option Instant
deriving DecidableEq

/-- `is_expired`: a record without an expiry is active for good. -/
def ReplayRecord.isExpired (r : ReplayRecord) (checkTime : Instant) : Bool :=
  match r.expiresAt with
  | none => false
  | some expiresAt => decide (expiresAt ≤ checkTime)

def emptyReplayIdentifier (fieldName mandateId transactionId : String) (evalTime : Instant) :
    ReplayEvaluationResult where
  valid := false
  decision := .reject
  fingerprint := ""
  mandateId := mandateId
  transactionId := transactionId
  rejectionReason := some .invalidTransactionState
  rejectionDetail := some s!"Replay check failed: {fieldName} cannot be empty."
  evaluatedAt := evalTime

def replayDetected (fingerprint mandateId transactionId : String) (evalTime : Instant) :
    ReplayEvaluationResult where
  valid := false
  decision := .reject
  fingerprint := fingerprint
  mandateId := mandateId
  transactionId := transactionId
  rejectionReason := some .replayAttemptDetected
  rejectionDetail := some
    (s!"Replay attack blocked: Transaction/action identity {transactionId} for mandate "
      ++ s!"{mandateId} (fingerprint {String.ofList (fingerprint.toList.take 12)}...) was "
      ++ "previously executed.")
  evaluatedAt := evalTime

def firstUse (fingerprint mandateId transactionId : String) (evalTime : Instant) :
    ReplayEvaluationResult where
  valid := true
  decision := .allow
  fingerprint := fingerprint
  mandateId := mandateId
  transactionId := transactionId
  rejectionReason := none
  rejectionDetail := none
  evaluatedAt := evalTime

/-- When a record made at `evalTime` expires: not at all without a positive
    lifetime.  The outer `none` is a time that the calendar does not have. -/
def replayExpiry (evalTime : Instant) (ttlSeconds : Int) : Option (Option Instant) :=
  if 0 < ttlSeconds then (addSeconds evalTime ttlSeconds).map some else some none

/-- The store of a `ReplayProtectionEngine`. -/
structure ReplayProtectionEngine where
  records : OrderedMap String ReplayRecord

namespace ReplayProtectionEngine

/-- `ReplayProtectionEngine()`. -/
def new : ReplayProtectionEngine := ⟨OrderedMap.empty⟩

/-- `ttl_seconds`, where the caller gives none. -/
def defaultTtlSeconds : Int := 86400

/-- `existing is not None and not existing.is_expired(eval_time)`. -/
def active (e : ReplayProtectionEngine) (fingerprint : String) (evalTime : Instant) : Bool :=
  match e.records.get fingerprint with
  | none => false
  | some existing => !existing.isExpired evalTime

def checkAndRecord (sha256 : String → String) (env : Ambient) (mandateId transactionId : String)
    (cartHash merchantId : Option String) (ttlSeconds : Int) (at? : Option Instant)
    (e : ReplayProtectionEngine) :
    Except PyError ReplayEvaluationResult × ReplayProtectionEngine :=
  let evalTime := env.time at?
  if Text.strip mandateId = "" then
    (.ok (emptyReplayIdentifier "mandate_id" mandateId transactionId evalTime), e)
  else if Text.strip transactionId = "" then
    (.ok (emptyReplayIdentifier "transaction_id" mandateId transactionId evalTime), e)
  else
    let fingerprint := computeReplayFingerprint sha256 mandateId transactionId cartHash merchantId
    if e.active fingerprint evalTime then
      (.ok (replayDetected fingerprint mandateId transactionId evalTime), e)
    else match replayExpiry evalTime ttlSeconds with
    | none => (.error .timestampOutOfRange, e)
    | some expiresAt =>
        let record : ReplayRecord := ⟨fingerprint, mandateId, transactionId, evalTime, expiresAt⟩
        (.ok (firstUse fingerprint mandateId transactionId evalTime),
          ⟨e.records.set fingerprint record⟩)

def isReplayed (sha256 : String → String) (env : Ambient) (mandateId transactionId : String)
    (cartHash merchantId : Option String) (at? : Option Instant) (e : ReplayProtectionEngine) :
    Bool :=
  e.active (computeReplayFingerprint sha256 mandateId transactionId cartHash merchantId)
    (env.time at?)

end ReplayProtectionEngine

end MandateGateway
