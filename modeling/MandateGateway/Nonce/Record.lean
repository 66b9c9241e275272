import MandateGateway.Lib.Exceptions
import MandateGateway.Types
import MandateGateway.Values

/-! # Nonces

    The single-use execution nonce, and the two conditions under which it can
    still be consumed. -/

namespace MandateGateway

open Clock Exceptions

def NonceState.value : NonceState → String
  | .issued => "ISSUED"
  | .consumed => "CONSUMED"

/-- `NonceState(text)`. -/
def NonceState.ofValue (text : String) : Option NonceState :=
  [issued, consumed].find? fun state => state.value == text

theorem NonceState.ofValue_value (state : NonceState) : ofValue state.value = some state := by
  cases state <;> rfl

/-- Single-use nonce of an execution authorization. -/
structure NonceRecord where
  nonceId           : String
  nonceValue        : String
  transactionId     : String
  mandateId         : String
  state             : NonceState
  issuedAt          : Instant
  expiresAt         : Instant
  consumedAt        : Option Instant
  nonceValue_long   : 16 ≤ nonceValue.length
  transactionId_ne  : transactionId ≠ ""
  mandateId_ne      : mandateId ≠ ""
deriving DecidableEq

/-- The fields of a nonce that its data contract refuses. -/
def NonceRecord.invalidFields (nonceValue transactionId mandateId : String) : List String :=
  (if nonceValue.length < 16 then ["nonce_value"] else [])
    ++ (if transactionId = "" then ["transaction_id"] else [])
    ++ (if mandateId = "" then ["mandate_id"] else [])

/-- `NonceRecord(...)`, as it raises. -/
def NonceRecord.build (nonceId nonceValue transactionId mandateId : String) (state : NonceState)
    (issuedAt expiresAt : Instant) (consumedAt : Option Instant) : Except PyError NonceRecord :=
  if h : 16 ≤ nonceValue.length ∧ transactionId ≠ "" ∧ mandateId ≠ "" then
    .ok {
      nonceId := nonceId
      nonceValue := nonceValue
      transactionId := transactionId
      mandateId := mandateId
      state := state
      issuedAt := issuedAt
      expiresAt := expiresAt
      consumedAt := consumedAt
      nonceValue_long := h.1
      transactionId_ne := h.2.1
      mandateId_ne := h.2.2 }
  else .error (.validationError "NonceRecord"
    (NonceRecord.invalidFields nonceValue transactionId mandateId))

/-- **A nonce is built with the data it is given.** -/
theorem NonceRecord.build_eq_ok {nonceId nonceValue transactionId mandateId : String}
    {state : NonceState} {issuedAt expiresAt : Instant} {consumedAt : Option Instant}
    {record : NonceRecord} (h : NonceRecord.build nonceId nonceValue transactionId mandateId state
      issuedAt expiresAt consumedAt = .ok record) :
    record.nonceValue = nonceValue ∧ record.transactionId = transactionId
      ∧ record.mandateId = mandateId ∧ record.state = state ∧ record.issuedAt = issuedAt
      ∧ record.expiresAt = expiresAt ∧ record.consumedAt = consumedAt := by
  rw [NonceRecord.build] at h
  by_cases hvalid : 16 ≤ nonceValue.length ∧ transactionId ≠ "" ∧ mandateId ≠ ""
  · rw [dif_pos hvalid] at h
    obtain rfl := Except.ok.inj h
    exact ⟨rfl, rfl, rfl, rfl, rfl, rfl, rfl⟩
  · rw [dif_neg hvalid] at h
    cases h

def timestampText : Option Instant → String
  | none => "None"
  | some t => isoText " " t

def assertNonceConsumable (record : NonceRecord) (now : Instant) : Except PyError Unit :=
  if record.state = .consumed then
    .error (.nonceAlreadyConsumedError
      (s!"Nonce {Text.quoted record.nonceValue} has already been consumed "
        ++ s!"(consumed_at={timestampText record.consumedAt})."))
  else if record.expiresAt ≤ now then
    .error (.authorizationExpiredError
      s!"Nonce {Text.quoted record.nonceValue} expired at {isoformat record.expiresAt}.")
  else .ok ()

theorem assertNonceConsumable_eq_ok_iff {record : NonceRecord} {now : Instant} :
    assertNonceConsumable record now = .ok ()
      ↔ record.state = .issued ∧ now < record.expiresAt := by
  rw [assertNonceConsumable, guard_eq_ok_iff, guard_eq_ok_iff, Int.not_le]
  cases record.state with
  | issued =>
      constructor
      · rintro ⟨-, hlive, -⟩
        exact ⟨rfl, hlive⟩
      · rintro ⟨-, hlive⟩
        exact ⟨nofun, hlive, rfl⟩
  | consumed =>
      constructor
      · rintro ⟨hstate, -⟩
        exact absurd rfl hstate
      · rintro ⟨hstate, -⟩
        cases hstate

end MandateGateway
