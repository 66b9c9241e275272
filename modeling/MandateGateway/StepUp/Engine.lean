import MandateGateway.Authorization.ControlResults
import MandateGateway.Lib.Exceptions
import MandateGateway.Lib.OrderedMap

/-! # The step-up engine

    Challenges, their confirmation by a human, and the evaluation of a cart
    total that needs one.  The lock of the source makes each call atomic, so a
    call is one step from the store before it to the store after it. -/

/-! ## Step-up zones

    The classification of a cart total against the buyer's cap.  Two of its
    three zones report a percentage, which the source computes by a division
    by the cap and prints from a float. -/

namespace MandateGateway

open Exceptions

/-- Outcome of a step-up zone evaluation. -/
structure StepUpResult where
  zone   : StepUpZone
  diff   : Option StepUpDiff
  reason : String
deriving DecidableEq

/-- `round((delta / cap) * 100.0, 2)`. -/
def deltaPercent (deltaPaise capPaise : Int) : Except PyError Binary64 :=
  (trueDiv deltaPaise capPaise).map fun x => (x.scaleBy 100).round2

/-- The text of a zone C refusal. -/
def hardRejectReason (cartTotalPaise mandateCapPaise maxStepUpPercent : Int)
    (percent : Binary64) : Except PyError String :=
  match trueDiv cartTotalPaise 100 with
  | .error err => .error err
  | .ok total =>
      match trueDiv mandateCapPaise 100 with
      | .error err => .error err
      | .ok cap =>
          .ok (s!"Cart total (₹{total.fixed2 true}) exceeds mandate limit "
            ++ s!"(₹{cap.fixed2 true}) by {percent.text}%, which exceeds "
            ++ s!"the maximum allowed step-up threshold of {maxStepUpPercent}%.")

/-- The largest total that a step-up can authorize. -/
def maxAllowedPaise (mandateCapPaise maxStepUpPercent : Int) : Int :=
  mandateCapPaise + mandateCapPaise * maxStepUpPercent / 100

def classifyStepUpZone (cartTotalPaise mandateCapPaise maxStepUpPercent : Int) :
    Except PyError StepUpResult :=
  if cartTotalPaise < 0 ∨ mandateCapPaise < 0 then
    .error (.valueError "Prices cannot be negative.")
  else if cartTotalPaise ≤ mandateCapPaise then
    .ok ⟨.autoExecute, none, "Cart total is within buyer mandate limit."⟩
  else
    let delta := cartTotalPaise - mandateCapPaise
    -- of a cap of zero there is no percentage: the division raises
    match deltaPercent delta mandateCapPaise with
    | .error err => .error err
    | .ok percent =>
        if cartTotalPaise ≤ maxAllowedPaise mandateCapPaise maxStepUpPercent then
          .ok {
            zone := .stepUpRequired
            diff := some {
              approvedPaise := mandateCapPaise
              proposedPaise := cartTotalPaise
              deltaPaise := delta
              deltaPercent := percent
              reason := s!"Cart total exceeds mandate limit by {percent.text}%. "
                ++ "Step-up approval required." }
            reason := s!"Step-up approval required (+{percent.text}% over cap)." }
        else
          (hardRejectReason cartTotalPaise mandateCapPaise maxStepUpPercent percent).map
            fun reason => ⟨.hardReject, none, reason⟩

/-- **The purchase executes without a step-up exactly when its total is within
    the cap.** -/
theorem classifyStepUpZone_autoExecute_iff {total cap : Int} (percent : Int)
    (htotal : 0 ≤ total) (hcap : 0 ≤ cap) :
    (∃ r, classifyStepUpZone total cap percent = .ok r ∧ r.zone = .autoExecute)
      ↔ total ≤ cap := by
  have hpos : ¬ (total < 0 ∨ cap < 0) := by omega
  rw [classifyStepUpZone, if_neg hpos]
  by_cases hle : total ≤ cap
  · rw [if_pos hle]
    exact ⟨fun _ => hle, fun _ => ⟨_, rfl, rfl⟩⟩
  · rw [if_neg hle]
    refine ⟨?_, fun h => absurd h hle⟩
    -- beyond the cap the zone is another one, or a number cannot be computed
    rintro ⟨r, hr, hzone⟩
    cases hdelta : deltaPercent (total - cap) cap with
    | error err =>
        simp only [hdelta] at hr
        cases hr
    | ok p =>
        simp only [hdelta] at hr
        by_cases hstep : total ≤ maxAllowedPaise cap percent
        · rw [if_pos hstep] at hr
          obtain rfl := Except.ok.inj hr
          cases hzone
        · rw [if_neg hstep] at hr
          cases hreason : hardRejectReason total cap percent p with
          | error err =>
              rw [hreason] at hr
              cases hr
          | ok reason =>
              rw [hreason] at hr
              obtain rfl := Except.ok.inj hr
              cases hzone

end MandateGateway

namespace MandateGateway

open Clock Exceptions

inductive StepUpChallengeStatus where
  | pending | approved | rejected | expired
deriving DecidableEq, Repr

def StepUpChallengeStatus.value : StepUpChallengeStatus → String
  | .pending => "PENDING"
  | .approved => "APPROVED"
  | .rejected => "REJECTED"
  | .expired => "EXPIRED"

/-- A challenge, bound to the context of a transaction. -/
structure StepUpChallengeRecord where
  challengeId   : String
  mandateId     : String
  transactionId : String
  cartHash      : String
  approvedPaise : Int
  proposedPaise : Int
  merchantId    : String
  status        : StepUpChallengeStatus
  createdAt     : Instant
  expiresAt     : Instant
  confirmedAt   : Option Instant
  confirmedBy   : Option String
deriving DecidableEq, Repr

/-- A human's confirmation, as it is submitted. -/
structure TrustedConfirmation where
  challengeId   : String
  mandateId     : String
  transactionId : String
  cartHash      : String
  proposedPaise : Int
  merchantId    : String
  confirmedBy   : String
deriving DecidableEq, Repr

/-- `cart_hash.strip().lower()`. -/
def normalizedHash (cartHash : String) : String := Text.lower (Text.strip cartHash)

/-- An amount in rupees with two decimals. -/
def rupees (paise : Int) : Except PyError String :=
  (trueDiv paise 100).map fun x => "₹" ++ x.fixed2 false

/-- The arguments of `create_challenge`. -/
structure ChallengeTerms where
  mandateId     : String
  transactionId : String
  cartHash      : String
  approvedPaise : Int
  proposedPaise : Int
  merchantId    : String
  ttlSeconds    : Int
deriving DecidableEq, Repr

/-- A pending challenge on these terms, which are normalized. -/
def ChallengeTerms.record (t : ChallengeTerms) (challengeId : String)
    (createdAt expiresAt : Instant) : StepUpChallengeRecord where
  challengeId := challengeId
  mandateId := Text.strip t.mandateId
  transactionId := Text.strip t.transactionId
  cartHash := normalizedHash t.cartHash
  approvedPaise := t.approvedPaise
  proposedPaise := t.proposedPaise
  merchantId := Text.strip t.merchantId
  status := .pending
  createdAt := createdAt
  expiresAt := expiresAt
  confirmedAt := none
  confirmedBy := none

/-- The arguments of `evaluate_authorization_step_up`. -/
structure StepUpQuery where
  cartTotalPaise           : Int
  mandateCapPaise          : Int
  merchantMaxStepUpPercent : Int
  challengeId              : Option String
  mandateId                : Option String
  transactionId            : Option String
  cartHash                 : Option String
  merchantId               : Option String
deriving DecidableEq, Repr

/-- The challenge a query names: a text with more than whitespace. -/
def StepUpQuery.namedChallenge (q : StepUpQuery) : Option String :=
  (q.challengeId.map Text.strip).filter (· != "")

/-- Why a stored challenge does not authorize a query. -/
structure StepUpRefusal where
  reason : RejectionReason
  detail : String
deriving DecidableEq

/-- The store of a `StepUpEngine`. -/
structure StepUpEngine where
  challenges : OrderedMap String StepUpChallengeRecord

namespace StepUpEngine

/-- `StepUpEngine()`. -/
def new : StepUpEngine := ⟨OrderedMap.empty⟩

/-- `f"challenge-{uuid.uuid4()}"`. -/
def newChallengeId (env : Ambient) : String := s!"challenge-{env.uuid}"

/-! ## Creation -/

def createChallenge (env : Ambient) (terms : ChallengeTerms) (at? : Option Instant)
    (e : StepUpEngine) : Except PyError StepUpChallengeRecord × StepUpEngine :=
  let createdTime := env.time at?
  match addSeconds createdTime terms.ttlSeconds with
  | none => (.error .timestampOutOfRange, e)
  | some expiresTime =>
      let cid := newChallengeId env
      let record := terms.record cid createdTime expiresTime
      (.ok record, ⟨e.challenges.set cid record⟩)

/-! ## Confirmation -/

/-- A text the challenge is bound to, against the one a confirmation submits. -/
def bindingError (binding bound normalized submitted : String) : Option PyError :=
  if bound ≠ normalized then
    some (.valueError
      (s!"{binding} binding mismatch: challenge bound to {Text.quoted bound}, "
        ++ s!"confirmation submitted for {Text.quoted submitted}."))
  else none

/-- The amount the challenge is bound to, against the one submitted; that an
    amount is too large to print is found out here. -/
def amountError (bound submitted : Int) : Option PyError :=
  if bound ≠ submitted then
    match rupees bound, rupees submitted with
    | .error err, _ => some err
    | .ok _, .error err => some err
    | .ok boundText, .ok submittedText =>
        some (.valueError
          (s!"Amount binding mismatch: challenge bound to {boundText}, "
            ++ s!"confirmation submitted for {submittedText}."))
  else none

def contextError (record : StepUpChallengeRecord) (c : TrustedConfirmation) : Option PyError :=
  bindingError "Mandate" record.mandateId (Text.strip c.mandateId) c.mandateId
  <|> bindingError "Transaction" record.transactionId (Text.strip c.transactionId)
    c.transactionId
  <|> bindingError "Cart hash" record.cartHash (normalizedHash c.cartHash) c.cartHash
  <|> amountError record.proposedPaise c.proposedPaise
  <|> bindingError "Merchant" record.merchantId (Text.strip c.merchantId) c.merchantId

/-- The record of an expired challenge, rebuilt from its bindings. -/
def expiredRecord (record : StepUpChallengeRecord) : StepUpChallengeRecord :=
  { record with status := .expired, confirmedAt := none, confirmedBy := none }

def approvedRecord (record : StepUpChallengeRecord) (confirmedBy : String)
    (evalTime : Instant) : StepUpChallengeRecord :=
  { record with
    status := .approved
    confirmedAt := some evalTime
    confirmedBy := some (Text.strip confirmedBy) }

def recordHumanConfirmation (env : Ambient) (confirmation : TrustedConfirmation)
    (at? : Option Instant) (e : StepUpEngine) :
    Except PyError StepUpChallengeRecord × StepUpEngine :=
  let evalTime := env.time at?
  let cid := Text.strip confirmation.challengeId
  match e.challenges.get cid with
  | none => (.error (.valueError s!"Step-up challenge {Text.quoted cid} not found."), e)
  | some record =>
      if record.status ≠ .pending then
        (.error (.valueError
          s!"Step-up challenge {Text.quoted cid} is already {record.status.value}."), e)
      else if record.expiresAt ≤ evalTime then
        -- the challenge expires here, although the call raises
        (.error (.valueError s!"Step-up challenge {Text.quoted cid} has expired."),
          ⟨e.challenges.set cid (expiredRecord record)⟩)
      else match contextError record confirmation with
      | some err => (.error err, e)
      | none =>
          let approved := approvedRecord record confirmation.confirmedBy evalTime
          (.ok approved, ⟨e.challenges.set cid approved⟩)

/-! ## Evaluation -/

/-- A value that a query supplies: neither absent nor empty. -/
def supplied (value : Option String) : Option String := value.filter (· != "")

/-- A text the challenge is bound to, against the one of a query that
    supplies it. -/
def mismatchRefusal (binding bound : String) (normalize : String → String)
    (value : Option String) : Option StepUpRefusal :=
  (supplied value).bind fun current =>
    if bound ≠ normalize current then
      some ⟨.stepUpConfirmationInvalid,
        s!"Step-up {binding} mismatch (bound {Text.quoted bound}, "
          ++ s!"current {Text.quoted current})."⟩
    else none

/-- The status, the expiry and the texts of a challenge against a query. -/
def challengeRefusal (record : StepUpChallengeRecord) (cid : String) (q : StepUpQuery)
    (evalTime : Instant) : Option StepUpRefusal :=
  (if record.status ≠ .approved then
    some ⟨.stepUpConfirmationInvalid,
      s!"Step-up challenge {Text.quoted cid} status is {record.status.value} "
        ++ "(must be APPROVED)."⟩
  else if record.expiresAt ≤ evalTime then
    some ⟨.stepUpConfirmationExpired,
      s!"Step-up challenge {Text.quoted cid} expired at {isoformat record.expiresAt}."⟩
  else none)
  <|> mismatchRefusal "mandate" record.mandateId Text.strip q.mandateId
  <|> mismatchRefusal "transaction" record.transactionId Text.strip q.transactionId
  <|> mismatchRefusal "cart hash" record.cartHash normalizedHash q.cartHash
  <|> mismatchRefusal "merchant" record.merchantId Text.strip q.merchantId

/-- The text of a differing amount. -/
def amountMismatch (confirmed proposed : Int) : Except PyError String :=
  match rupees confirmed, rupees proposed with
  | .error err, _ => .error err
  | .ok _, .error err => .error err
  | .ok confirmedText, .ok proposedText =>
      .ok s!"Step-up amount mismatch (confirmed {confirmedText}, proposed {proposedText})."

def zoneBResult (cid : String) (diff : Option StepUpDiff) (refusal : Option StepUpRefusal)
    (evalTime : Instant) : StepUpEvaluationResult where
  valid := refusal.isNone
  decision := if refusal.isNone then .allow else .reject
  zone := .stepUpRequired
  challengeId := some cid
  diff := diff
  rejectionReason := refusal.map StepUpRefusal.reason
  rejectionDetail := refusal.map StepUpRefusal.detail
  evaluatedAt := evalTime

/-- The evaluation of a zone B total with the challenge it names. -/
def evaluateChallenge (q : StepUpQuery) (cid : String) (diff : Option StepUpDiff)
    (evalTime : Instant) (e : StepUpEngine) : Except PyError StepUpEvaluationResult :=
  match e.challenges.get cid with
  | none =>
      .ok (zoneBResult cid diff (some ⟨.stepUpConfirmationInvalid,
        s!"Step-up challenge {Text.quoted cid} not found in store."⟩) evalTime)
  | some record =>
      match challengeRefusal record cid q evalTime with
      | some refusal => .ok (zoneBResult cid diff (some refusal) evalTime)
      | none =>
          if record.proposedPaise ≠ q.cartTotalPaise then
            (amountMismatch record.proposedPaise q.cartTotalPaise).map fun detail =>
              zoneBResult cid diff (some ⟨.stepUpConfirmationInvalid, detail⟩) evalTime
          else .ok (zoneBResult cid diff none evalTime)

def evaluateAuthorizationStepUp (env : Ambient) (q : StepUpQuery) (at? : Option Instant)
    (e : StepUpEngine) : Except PyError StepUpEvaluationResult :=
  let evalTime := env.time at?
  match classifyStepUpZone q.cartTotalPaise q.mandateCapPaise q.merchantMaxStepUpPercent with
  | .error err => .error err
  | .ok stepUp =>
      match stepUp.zone with
      | .autoExecute => .ok {
          valid := true
          decision := .allow
          zone := .autoExecute
          challengeId := none
          diff := none
          rejectionReason := none
          rejectionDetail := none
          evaluatedAt := evalTime }
      | .hardReject => .ok {
          valid := false
          decision := .reject
          zone := .hardReject
          challengeId := none
          diff := none
          rejectionReason := some .exceedsStepUpHardLimit
          rejectionDetail := some stepUp.reason
          evaluatedAt := evalTime }
      | .stepUpRequired =>
          match q.namedChallenge with
          | none => .ok {
              valid := false
              decision := .stepUpRequired
              zone := .stepUpRequired
              challengeId := none
              diff := stepUp.diff
              rejectionReason := none
              rejectionDetail := some stepUp.reason
              evaluatedAt := evalTime }
          | some cid => e.evaluateChallenge q cid stepUp.diff evalTime

end StepUpEngine

end MandateGateway
