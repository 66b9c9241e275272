import MandateGateway.Hmac
import MandateGateway.Lib.Datetime
import Mathlib.Data.Finset.Image

/-! # The human confirmation gate

    A token is the keyed digest of the purchase that a human confirms.  It is
    used once, and the boundary before a payment asks for one.  An expiry is
    looked at only where the caller passes one back, and it is no part of what
    the token is bound to.

    * `verifyAndConsumeToken_eq_ok_iff`, `validatePlanExecutionBoundary_eq_ok_iff`:
      what is accepted;
    * `expiry_kept_iff`: an issued token that has not been used is accepted
      after its expiry. -/

namespace MandateGateway

open Clock

/-- `ConfirmationError`, and the comparison of digests that raises. -/
inductive GateError where
  | confirmationError (message : String)
  | typeError (message : String)
  | raised (err : PyError)
deriving DecidableEq

/-- What a token is bound to. -/
structure TokenFields where
  requestId        : String
  merchantId       : String
  buyerId          : String
  productId        : String
  productSource    : String
  amountPaise      : Int
  currency         : String
  purchasePlanHash : String
deriving DecidableEq

def TokenFields.rawMsg (f : TokenFields) : String :=
  f.requestId ++ "|" ++ f.merchantId ++ "|" ++ f.buyerId ++ "|" ++ f.productId ++ "|"
    ++ f.productSource ++ "|" ++ toString f.amountPaise ++ "|" ++ f.currency ++ "|"
    ++ f.purchasePlanHash

/-- The dictionary that `generate_token` returns; `expires_at` is the text of
    the expiry. -/
structure IssuedToken where
  confirmationToken : String
  signature         : String
  fields            : TokenFields
  expiry            : Instant
  status            : String
deriving DecidableEq

/-- The text that goes out as `expires_at`. -/
def IssuedToken.expiresAt (issued : IssuedToken) : String := isoformat issued.expiry

/-- The arguments of `verify_and_consume_token`. -/
structure TokenAttempt where
  confirmationToken : String
  fields            : TokenFields
  expiresAt         : String

/-- The state of a `HumanConfirmationGate`. -/
structure HumanConfirmationGate where
  secretKey      : String
  consumedTokens : Finset String

/-- The instant that `datetime.fromisoformat` reads off a text with an offset.
    None: it raises, or the text has no offset and the comparison raises. -/
abbrev IsoReader : Type := String → Option Instant

namespace HumanConfirmationGate

variable (hmac : HmacSha256) (read : IsoReader)

def signature (fields : TokenFields) (gate : HumanConfirmationGate) : String :=
  hmac.hexdigest gate.secretKey.toUTF8 fields.rawMsg.toUTF8

/-- `f"cnf_{sig[:32]}"`. -/
def token (fields : TokenFields) (gate : HumanConfirmationGate) : String :=
  "cnf_" ++ hmac.short gate.secretKey.toUTF8 fields.rawMsg.toUTF8

def generateToken (now : Instant) (fields : TokenFields) (ttlSeconds : Int)
    (gate : HumanConfirmationGate) : Except PyError IssuedToken :=
  match addSeconds now ttlSeconds with
  | none => .error (.overflowError "date value out of range")
  | some expiry =>
      .ok {
        confirmationToken := gate.token hmac fields
        signature := gate.signature hmac fields
        fields := fields
        expiry := expiry
        status := "PENDING" }

/-- The check of the expiry that the caller passes back: the error of an expired
    token is itself a `ValueError`, which the handler of the reading replaces. -/
def checkExpiry (now : Instant) (expiresAt : String) : Except GateError Unit :=
  if expiresAt = "" then .ok ()
  else match read expiresAt with
    | none => .error (.confirmationError "Invalid expires_at timestamp format.")
    | some expiry =>
        if expiry < now then
          .error (.confirmationError "Invalid expires_at timestamp format.")
        else .ok ()

def verifyAndConsumeToken (now : Instant) (attempt : TokenAttempt)
    (gate : HumanConfirmationGate) : Except GateError Bool × HumanConfirmationGate :=
  if attempt.confirmationToken ∈ gate.consumedTokens then
    (.error (.confirmationError
      "Confirmation token has already been consumed (Replay Rejection)."), gate)
  else match checkExpiry read now attempt.expiresAt with
  | .error err => (.error err, gate)
  | .ok () =>
      match WebhookEngine.compareDigest attempt.confirmationToken
          (gate.token hmac attempt.fields) with
      | .error _ => (.error (.typeError
          "comparing strings with non-ASCII characters is not supported"), gate)
      | .ok false => (.error (.confirmationError
          ("Invalid confirmation token signature. Token payload does not match "
            ++ "request, merchant, amount, or currency parameters (Tampering Rejected).")), gate)
      | .ok true =>
          (.ok true, { gate with
            consumedTokens := insert attempt.confirmationToken gate.consumedTokens })

end HumanConfirmationGate

/-! ## The boundary before a payment -/

/-- The fields of a purchase plan that the boundary reads. -/
structure PurchasePlan where
  bound                : TokenFields
  requiresConfirmation : Bool

/-- `AISecurityThreatDetected`, or what the gate raises. -/
inductive BoundaryError where
  | threatDetected (message : String)
  | gate (err : GateError)

def validatePlanExecutionBoundary (hmac : HmacSha256) (read : IsoReader) (now : Instant)
    (plan : PurchasePlan) (confirmationToken authenticatedMerchantId : String)
    (gate : HumanConfirmationGate) : Except BoundaryError Bool × HumanConfirmationGate :=
  if plan.bound.merchantId ≠ authenticatedMerchantId then
    (.error (.threatDetected
      (s!"Cross-tenant IDOR attack detected: PurchasePlan merchant '{plan.bound.merchantId}' "
        ++ s!"does not match authenticated merchant '{authenticatedMerchantId}'.")), gate)
  else if plan.requiresConfirmation then
    if confirmationToken = "" then
      (.error (.threatDetected
        "Payment execution rejected: Missing human confirmation token."), gate)
    else
      -- the expiry of the token is not passed on
      match gate.verifyAndConsumeToken hmac read now ⟨confirmationToken, plan.bound, ""⟩ with
      | (.error err, gate') => (.error (.gate err), gate')
      | (.ok _, gate') => (.ok true, gate')
  else (.ok true, gate)

/-! ## What is accepted -/

section
variable {hmac : HmacSha256} {read : IsoReader} {now : Instant}
  {gate : HumanConfirmationGate}

namespace HumanConfirmationGate

theorem isAscii_token (fields : TokenFields) :
    WebhookEngine.isAscii (gate.token hmac fields) = true :=
  WebhookEngine.isAscii_append (by decide) (hmac.isAscii_short _ _)

theorem token_ne_empty (fields : TokenFields) : gate.token hmac fields ≠ "" := by
  intro h
  have hlist := congrArg String.toList h
  rw [token, String.toList_append] at hlist
  cases hlist

theorem checkExpiry_eq_ok_iff {expiresAt : String} :
    checkExpiry read now expiresAt = .ok ()
      ↔ expiresAt = "" ∨ ∃ expiry, read expiresAt = some expiry ∧ now ≤ expiry := by
  rw [checkExpiry]
  by_cases hnone : expiresAt = ""
  · rw [if_pos hnone]
    exact iff_of_true rfl (.inl hnone)
  · rw [if_neg hnone, or_iff_right hnone]
    cases hread : read expiresAt with
    | none => exact iff_of_false nofun nofun
    | some expiry =>
        dsimp only
        by_cases hlate : expiry < now
        · rw [if_pos hlate]
          refine iff_of_false nofun ?_
          rintro ⟨t, ht, hle⟩
          obtain rfl := Option.some.inj ht
          exact absurd hlate (Int.not_lt.mpr hle)
        · rw [if_neg hlate]
          exact iff_of_true rfl ⟨expiry, rfl, Int.not_lt.mp hlate⟩

structure Accepts (hmac : HmacSha256) (read : IsoReader) (now : Instant)
    (attempt : TokenAttempt) (gate : HumanConfirmationGate) : Prop where
  unused : attempt.confirmationToken ∉ gate.consumedTokens
  inTime : attempt.expiresAt = "" ∨ ∃ expiry, read attempt.expiresAt = some expiry ∧ now ≤ expiry
  token  : attempt.confirmationToken = gate.token hmac attempt.fields

/-- **An attempt is accepted and consumes its token, or is refused and leaves
    the gate alone.** -/
theorem verifyAndConsumeToken_cases (hmac : HmacSha256) (read : IsoReader) (now : Instant)
    (attempt : TokenAttempt) (gate : HumanConfirmationGate) :
    (Accepts hmac read now attempt gate
      ∧ gate.verifyAndConsumeToken hmac read now attempt
        = (.ok true, { gate with
            consumedTokens := insert attempt.confirmationToken gate.consumedTokens }))
    ∨ (¬ Accepts hmac read now attempt gate
      ∧ ∃ err, gate.verifyAndConsumeToken hmac read now attempt = (.error err, gate)) := by
  rw [verifyAndConsumeToken]
  -- the checks in the order of the source: use, expiry, digest
  by_cases hused : attempt.confirmationToken ∈ gate.consumedTokens
  · rw [if_pos hused]
    exact .inr ⟨fun h => h.unused hused, _, rfl⟩
  · rw [if_neg hused]
    cases hexpiry : checkExpiry read now attempt.expiresAt with
    | error err =>
        refine .inr ⟨?_, err, rfl⟩
        intro h
        rw [checkExpiry_eq_ok_iff.mpr h.inTime] at hexpiry
        cases hexpiry
    | ok _ =>
        have hcompare : WebhookEngine.compareDigest attempt.confirmationToken
            (gate.token hmac attempt.fields) = .ok true ↔ _ :=
          WebhookEngine.compareDigest_eq_ok_true_iff (isAscii_token attempt.fields)
        cases hdigest : WebhookEngine.compareDigest attempt.confirmationToken
            (gate.token hmac attempt.fields) with
        | error err =>
            refine .inr ⟨?_, _, rfl⟩
            intro h
            rw [hcompare.mpr h.token] at hdigest
            cases hdigest
        | ok same =>
            cases same with
            | false =>
                refine .inr ⟨?_, _, rfl⟩
                intro h
                rw [hcompare.mpr h.token] at hdigest
                cases hdigest
            | true =>
                exact .inl ⟨⟨hused, checkExpiry_eq_ok_iff.mp hexpiry, hcompare.mp hdigest⟩, rfl⟩

theorem verifyAndConsumeToken_eq_ok_iff {attempt : TokenAttempt} :
    (gate.verifyAndConsumeToken hmac read now attempt).1 = .ok true
      ↔ Accepts hmac read now attempt gate := by
  rcases verifyAndConsumeToken_cases hmac read now attempt gate with ⟨h, hcall⟩ | ⟨h, err, hcall⟩
  · rw [hcall]
    exact iff_of_true rfl h
  · rw [hcall]
    exact iff_of_false nofun h

end HumanConfirmationGate

open HumanConfirmationGate

theorem validatePlanExecutionBoundary_eq_ok_iff {plan : PurchasePlan}
    {confirmationToken authenticatedMerchantId : String}
    (hrequires : plan.requiresConfirmation = true) :
    (validatePlanExecutionBoundary hmac read now plan confirmationToken authenticatedMerchantId
        gate).1 = .ok true
      ↔ plan.bound.merchantId = authenticatedMerchantId
        ∧ Accepts hmac read now ⟨confirmationToken, plan.bound, ""⟩ gate := by
  rw [validatePlanExecutionBoundary]
  by_cases hmerchant : plan.bound.merchantId = authenticatedMerchantId
  · rw [if_neg (not_not.mpr hmerchant), if_pos hrequires, and_iff_right hmerchant]
    by_cases hempty : confirmationToken = ""
    · rw [if_pos hempty]
      refine iff_of_false nofun ?_
      intro h
      exact token_ne_empty plan.bound (h.token.symm.trans hempty)
    · rw [if_neg hempty]
      rcases verifyAndConsumeToken_cases hmac read now ⟨confirmationToken, plan.bound, ""⟩ gate
        with ⟨h, hcall⟩ | ⟨h, err, hcall⟩
      · rw [hcall]
        exact iff_of_true rfl h
      · rw [hcall]
        exact iff_of_false nofun h
  · rw [if_pos hmerchant]
    exact iff_of_false nofun fun h => hmerchant h.1

/-! ## The expiry is not kept -/

namespace HumanConfirmationGate

theorem generateToken_eq_ok {issuedAt : Instant} {fields : TokenFields} {ttlSeconds : Int}
    {issued : IssuedToken} (h : gate.generateToken hmac issuedAt fields ttlSeconds = .ok issued) :
    addSeconds issuedAt ttlSeconds = some issued.expiry ∧ issued.fields = fields
      ∧ issued.confirmationToken = gate.token hmac fields := by
  rw [generateToken] at h
  cases hadd : addSeconds issuedAt ttlSeconds with
  | none => rw [hadd] at h; cases h
  | some expiry =>
      rw [hadd] at h
      cases h
      exact ⟨rfl, rfl, rfl⟩

/-- The digest depends on the key alone of what the gate holds. -/
theorem token_congr {gate' : HumanConfirmationGate} (hkey : gate'.secretKey = gate.secretKey)
    (fields : TokenFields) : gate'.token hmac fields = gate.token hmac fields := by
  rw [token, token, hkey]

end HumanConfirmationGate

/-- The boundary accepts an issued token within its time only. -/
def BoundaryKeepsExpiry (hmac : HmacSha256) (read : IsoReader) (gate : HumanConfirmationGate)
    (issued : IssuedToken) : Prop :=
  ∀ (now : Instant) (plan : PurchasePlan) (authenticatedMerchantId : String),
    plan.requiresConfirmation = true →
    (validatePlanExecutionBoundary hmac read now plan issued.confirmationToken
      authenticatedMerchantId gate).1 = .ok true →
    now ≤ issued.expiry

/-- The gate accepts an issued token with no later expiry than the issued one. -/
def GateKeepsExpiry (hmac : HmacSha256) (read : IsoReader) (gate : HumanConfirmationGate)
    (issued : IssuedToken) : Prop :=
  ∀ (now : Instant) (attempt : TokenAttempt) (expiry : Instant),
    attempt.confirmationToken = issued.confirmationToken →
    attempt.expiresAt ≠ "" → read attempt.expiresAt = some expiry →
    (gate.verifyAndConsumeToken hmac read now attempt).1 = .ok true →
    expiry ≤ issued.expiry

/-- **The boundary keeps the expiry of an issued token exactly when the token is
    used up, and the gate then or when nothing reads as a later expiry.** -/
theorem expiry_kept_iff {issuer : HumanConfirmationGate} {issuedAt : Instant}
    {fields : TokenFields} {ttlSeconds : Int} {issued : IssuedToken}
    (hissued : issuer.generateToken hmac issuedAt fields ttlSeconds = .ok issued)
    (hkey : gate.secretKey = issuer.secretKey) :
    (BoundaryKeepsExpiry hmac read gate issued
      ↔ issued.confirmationToken ∈ gate.consumedTokens)
    ∧ (GateKeepsExpiry hmac read gate issued
      ↔ issued.confirmationToken ∈ gate.consumedTokens
        ∨ ∀ text expiry, text ≠ "" → read text = some expiry → expiry ≤ issued.expiry) := by
  obtain ⟨_, hfields, htoken⟩ := generateToken_eq_ok hissued
  have hgenuine : issued.confirmationToken = gate.token hmac fields :=
    htoken.trans (token_congr hkey fields).symm
  constructor
  · constructor
    · intro hkept
      by_contra hunused
      -- one microsecond late, for the very purchase that was confirmed
      have hlate := hkept (issued.expiry + 1) ⟨fields, true⟩ fields.merchantId rfl
        ((validatePlanExecutionBoundary_eq_ok_iff rfl).mpr
          ⟨rfl, hunused, .inl rfl, hgenuine⟩)
      exact absurd hlate (Int.not_le.mpr (Int.lt_succ _))
    · intro hused now plan merchant hrequires haccepted
      have haccepts := ((validatePlanExecutionBoundary_eq_ok_iff hrequires).mp haccepted).2
      exact absurd hused haccepts.unused
  · constructor
    · intro hkept
      by_cases hused : issued.confirmationToken ∈ gate.consumedTokens
      · exact .inl hused
      · refine .inr ?_
        intro text expiry hne hread
        -- the caller chooses the expiry that is shown, and it is not under the digest
        refine hkept expiry ⟨issued.confirmationToken, fields, text⟩ expiry rfl hne hread ?_
        exact verifyAndConsumeToken_eq_ok_iff.mpr
          ⟨hused, .inr ⟨expiry, hread, le_refl _⟩, hgenuine⟩
    · intro h now attempt expiry htok hne hread haccepted
      rcases h with hused | hnone
      · have hunused := (verifyAndConsumeToken_eq_ok_iff.mp haccepted).unused
        rw [htok] at hunused
        exact absurd hused hunused
      · exact hnone attempt.expiresAt expiry hne hread

end

/-! A confirmation for ten minutes, under the default key. -/

namespace SampleConfirmation

def digest : String := "ae000b2d5e91d2cef57d38c80f1a14980c77d1af61775fda586c8ffea38ef095"

theorem digest_digits :
    digest.toList.length = 64 ∧ ∀ c ∈ digest.toList, isLowerHex c = true :=
  digits_of_all (by decide) (by decide)

def hmac : HmacSha256 := .constant digest digest_digits

def read : IsoReader := fun _ => none

def fields : TokenFields where
  requestId := "req_1"
  merchantId := "m_1"
  buyerId := "b_1"
  productId := "p_1"
  productSource := "LIVE"
  amountPaise := 50000
  currency := "INR"
  purchasePlanHash := "plan_1"

def gate : HumanConfirmationGate where
  secretKey := "rzp_confirmation_secret_key_default"
  consumedTokens := ∅

def issued : IssuedToken where
  confirmationToken := "cnf_ae000b2d5e91d2cef57d38c80f1a1498"
  signature := digest
  fields := fields
  expiry := 600000000
  status := "PENDING"

theorem token_eq (f : TokenFields) :
    gate.token hmac f = "cnf_ae000b2d5e91d2cef57d38c80f1a1498" := by
  show "cnf_" ++ String.ofList (digest.toList.take 32) = _
  decide

theorem generateToken_eq : gate.generateToken hmac 0 fields 600 = .ok issued := by
  have hadd : addSeconds 0 600 = some 600000000 := by decide
  rw [HumanConfirmationGate.generateToken, hadd, token_eq]
  rfl

end SampleConfirmation

open SampleConfirmation in
/-- The token of the sample, shown to the boundary one second after its end. -/
theorem late_token_accepted :
    gate.generateToken hmac 0 fields 600 = .ok issued
    ∧ issued.expiry < 601000000
    ∧ (validatePlanExecutionBoundary hmac read 601000000 ⟨fields, true⟩
        issued.confirmationToken "m_1" gate).1 = .ok true := by
  refine ⟨generateToken_eq, by decide, ?_⟩
  refine (validatePlanExecutionBoundary_eq_ok_iff rfl).mpr ⟨rfl, ?_, .inl rfl, ?_⟩
  · exact Finset.notMem_empty _
  · exact (token_eq fields).symm

open SampleConfirmation in
/-- The law at the sample, before the token is used. -/
theorem expiry_not_kept_unused :
    ¬ BoundaryKeepsExpiry hmac read gate issued
    ∧ GateKeepsExpiry hmac read gate issued := by
  have hlaw : (BoundaryKeepsExpiry hmac read gate issued ↔ _)
      ∧ (GateKeepsExpiry hmac read gate issued ↔ _) :=
    expiry_kept_iff generateToken_eq rfl
  constructor
  · intro hkept
    exact Finset.notMem_empty _ (hlaw.1.mp hkept)
  · refine hlaw.2.mpr (.inr ?_)
    intro text expiry _ hread
    cases hread

end MandateGateway
