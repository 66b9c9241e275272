import MandateGateway.Receipt.Verifier

/-! # The offline verification of a request

    The hardening engine builds a receipt anew from the fields of a request.
    It puts a marker where the hash of the payload belongs and the present for
    the time of authorization, and a marker is never a digest: no request is
    reported valid, not even that of a receipt which the engine's own key has
    signed (`verifyReceiptCryptographicOffline_never_valid`). -/

namespace MandateGateway

open Clock

/-- `PolicyDecision(text)`. -/
def PolicyDecision.ofValue (text : String) : Option PolicyDecision :=
  [PolicyDecision.allow, .stepUpRequired, .reject].find? fun d => d.value == text

theorem PolicyDecision.ofValue_value (d : PolicyDecision) : ofValue d.value = some d := by
  cases d <;> decide

theorem Currency.ofValue_value (c : Currency) : ofValue c.value = some c := by
  cases c <;> decide

/-- The request for a verification; what its data contract demands is a part of
    it. -/
structure ReceiptVerifyRequest where
  receiptId             : String
  transactionId         : String
  mandateId             : String
  merchantId            : String
  policyVersion         : Int
  cartHash              : String
  amountPaise           : Int
  currency              : String
  decision              : String
  executionTool         : String
  executionReference    : String
  auditHash             : String
  signature             : String
  receiptId_ne          : receiptId ≠ ""
  transactionId_ne      : transactionId ≠ ""
  mandateId_ne          : mandateId ≠ ""
  merchantId_ne         : merchantId ≠ ""
  policyVersion_pos     : 1 ≤ policyVersion
  cartHash_ne           : cartHash ≠ ""
  amount_nonneg         : 0 ≤ amountPaise
  decision_ne           : decision ≠ ""
  executionTool_ne      : executionTool ≠ ""
  executionReference_ne : executionReference ≠ ""
  auditHash_ne          : auditHash ≠ ""
  signature_ne          : signature ≠ ""

/-- The report on a request. -/
structure ReceiptVerifyResponse where
  valid            : Bool
  receiptId        : String
  signatureValid   : Bool
  payloadHashValid : Bool
  auditChainValid  : Bool
  rejectionDetail  : Option String
  verifiedAt       : Datetime
deriving DecidableEq

/-- What leaves the offline verification as an exception. -/
inductive OfflineError where
  | hardeningError (code message : String)
  /-- the fields that the receipt's data contract refuses -/
  | validationError (fields : List String)
  | appendError (e : AppendError)

/-- The hardening engine: its key, and whether persistence is forced down. -/
structure SecurityHardeningEngine (ed : Ed25519) where
  key          : ed.PrivateKey
  dbForcedDown : Bool

/-- What the running process supplies to a verification. -/
structure OfflineEnv where
  now        : Datetime
  verifiedAt : Datetime
  defaults   : ReceiptDefaults

/-- What stands in for the hash. -/
def hashMarker : String := "computed_at_verification"

theorem hashMarker_ne : hashMarker ≠ "" := by
  decide

namespace ReceiptVerifyRequest

/-- The fields of the receipt that is built for a request. -/
def rebuilt (now : Datetime) (decision : PolicyDecision) (currency : Currency)
    (req : ReceiptVerifyRequest) : ActionReceipt where
  receiptVersion := "1.0"
  receiptId := req.receiptId
  transactionId := req.transactionId
  mandateId := req.mandateId
  merchantId := req.merchantId
  policyVersion := req.policyVersion
  cartHash := req.cartHash
  amountPaise := req.amountPaise
  currency := currency
  decision := decision
  executionTool := some req.executionTool
  executionReference := some req.executionReference
  authorizedAt := now
  executedAt := some now
  createdAt := now
  auditHash := some req.auditHash
  canonicalPayloadHash := hashMarker
  signature := some req.signature

/-- The request carries the fields and the signature of a receipt. -/
structure Carries (req : ReceiptVerifyRequest) (r : ActionReceipt) : Prop where
  receiptId          : req.receiptId = r.receiptId
  transactionId      : req.transactionId = r.transactionId
  mandateId          : req.mandateId = r.mandateId
  merchantId         : req.merchantId = r.merchantId
  policyVersion      : req.policyVersion = r.policyVersion
  cartHash           : req.cartHash = r.cartHash
  amountPaise        : req.amountPaise = r.amountPaise
  currency           : req.currency = r.currency.value
  decision           : req.decision = r.decision.value
  executionTool      : some req.executionTool = r.executionTool
  executionReference : some req.executionReference = r.executionReference
  auditHash          : some req.auditHash = r.auditHash
  signature          : some req.signature = r.signature

end ReceiptVerifyRequest

namespace SecurityHardeningEngine

open ReceiptVerifier

section
variable {ed : Ed25519}

/-- `PolicyDecision(req.decision)` and `Currency(req.currency)`, or what the
    first failing conversion raises. -/
def convertEnums (req : ReceiptVerifyRequest) : Except String (PolicyDecision × Currency) :=
  match PolicyDecision.ofValue req.decision with
  | none => .error s!"{Text.quoted req.decision} is not a valid PolicyDecision"
  | some decision =>
      match Currency.ofValue req.currency with
      | none => .error s!"{Text.quoted req.currency} is not a valid Currency"
      | some currency => .ok (decision, currency)

/-- The report on a request, from the verifier's. -/
def respond (env : OfflineEnv) (req : ReceiptVerifyRequest) (res : VerificationResult) :
    ReceiptVerifyResponse :=
  ⟨res.isValid, req.receiptId, res.signatureValid, res.canonicalPayloadValid,
    res.auditLinkValid.getD true, res.error, env.verifiedAt⟩

def verifyReceiptCryptographicOffline (sha256 : String → String) (conv : FieldConversions)
    (env : OfflineEnv) (engine : SecurityHardeningEngine ed) (req : ReceiptVerifyRequest) :
    Except OfflineError ReceiptVerifyResponse :=
  if engine.dbForcedDown then
    .error (.hardeningError "DATABASE_FAIL_CLOSED"
      "Receipt verification failed closed due to database persistence failure.")
  else match convertEnums req with
  | .error exc =>
      .ok ⟨false, req.receiptId, false, false, false, some s!"Invalid enum conversion: {exc}",
        env.verifiedAt⟩
  | .ok (decision, currency) =>
      match ActionReceipt.fromFields conv env.defaults sha256
        (req.rebuilt env.now decision currency).dump with
      | .faulty fields => .error (.validationError fields)
      | .valid receipt =>
          match verifyReceipt ed sha256 receipt (.object (ed.publicKey engine.key)) {} none with
          | .error e => .error (.appendError e)
          | .ok res => .ok (respond env req res)

def ReportedValid (outcome : Except OfflineError ReceiptVerifyResponse) : Prop :=
  ∃ res, outcome = .ok res ∧ res.valid = true

/-! ## No request is valid -/

theorem hexdigest_ne_marker (sha : Sha256) (text : String) : sha.hexdigest text ≠ hashMarker := by
  intro h
  have hlength := (sha.digits text).1
  rw [h] at hlength
  exact absurd hlength (by decide)

variable {conv : FieldConversions} {env : OfflineEnv} {engine : SecurityHardeningEngine ed}
  {req : ReceiptVerifyRequest} {sha : Sha256}

theorem fromFields_rebuilt {sha256 : String → String} {decision : PolicyDecision}
    {currency : Currency} {r : ActionReceipt}
    (h : ActionReceipt.fromFields conv env.defaults sha256
      (req.rebuilt env.now decision currency).dump = .valid r) :
    r = req.rebuilt env.now decision currency := by
  obtain ⟨u, hgives, -, rfl⟩ := ActionReceipt.fromFields_eq_valid_iff.mp h
  obtain rfl := hgives.unique (ActionReceipt.gives_dump _)
  exact if_neg hashMarker_ne

theorem not_passes_rebuilt {decision : PolicyDecision} {currency : Currency} {input : KeyInput}
    {expected : ExpectedBindings} :
    ¬ Passes ed sha.hexdigest (req.rebuilt env.now decision currency) input expected := by
  intro h
  exact hexdigest_ne_marker sha _ h.hash

theorem not_reportedValid : ¬ ReportedValid
    (engine.verifyReceiptCryptographicOffline sha.hexdigest conv env req) := by
  rintro ⟨res, hres, hvalid⟩
  rw [verifyReceiptCryptographicOffline] at hres
  by_cases hdown : engine.dbForcedDown = true
  · rw [if_pos hdown] at hres
    cases hres
  · rw [if_neg hdown] at hres
    cases henums : convertEnums req with
    | error exc =>
        rw [henums] at hres
        cases hres
        cases hvalid
    | ok enums =>
        obtain ⟨decision, currency⟩ := enums
        rw [henums] at hres
        dsimp only at hres
        cases hbuilt : ActionReceipt.fromFields conv env.defaults sha.hexdigest
            (req.rebuilt env.now decision currency).dump with
        | faulty fields =>
            rw [hbuilt] at hres
            cases hres
        | valid receipt =>
            rw [hbuilt] at hres
            obtain rfl := fromFields_rebuilt hbuilt
            dsimp only at hres
            cases hverify : verifyReceipt ed sha.hexdigest
                (req.rebuilt env.now decision currency)
                (.object (ed.publicKey engine.key)) {} none with
            | error e =>
                rw [hverify] at hres
                cases hres
            | ok result =>
                rw [hverify] at hres
                cases hres
                exact not_passes_rebuilt (verifyReceipt_valid_iff.mp ⟨result, hverify, hvalid⟩).1

theorem report_of_carried {r : ActionReceipt} (hcarries : req.Carries r) (hwell : r.WellFormed)
    (hup : engine.dbForcedDown = false) :
    engine.verifyReceiptCryptographicOffline sha.hexdigest conv env req
      = .ok ⟨false, req.receiptId, false, false, true,
        some (hashMismatchText ((req.rebuilt env.now r.decision r.currency).computeCanonicalHash
          sha.hexdigest) hashMarker), env.verifiedAt⟩ := by
  have henums : convertEnums req = .ok (r.decision, r.currency) := by
    rw [convertEnums, hcarries.decision, hcarries.currency, PolicyDecision.ofValue_value,
      Currency.ofValue_value]
  have hrebuilt : (req.rebuilt env.now r.decision r.currency).WellFormed :=
    ⟨req.transactionId_ne, req.mandateId_ne, req.merchantId_ne, req.policyVersion_pos,
      (congrArg String.length hcarries.cartHash).trans hwell.cartHash_length, req.amount_nonneg⟩
  have hcomplete : ¬ Incomplete (req.rebuilt env.now r.decision r.currency) := by
    rintro (h | h | h | h | h | h)
    · exact req.receiptId_ne h
    · exact req.transactionId_ne h
    · exact req.mandateId_ne h
    · exact req.merchantId_ne h
    · exact h hrebuilt.cartHash_length
    · exact absurd req.amount_nonneg (Int.not_le.mpr h)
  have hmismatch : (req.rebuilt env.now r.decision r.currency).computeCanonicalHash sha.hexdigest
      ≠ (req.rebuilt env.now r.decision r.currency).canonicalPayloadHash :=
    hexdigest_ne_marker sha _
  have hrunning : ¬ engine.dbForcedDown = true := by
    rw [hup]
    decide
  rw [verifyReceiptCryptographicOffline, if_neg hrunning, henums]
  dsimp only
  rw [ActionReceipt.fromFields_dump hrebuilt hashMarker_ne]
  dsimp only
  rw [verifyReceipt.eq_def, if_neg hcomplete, if_pos hmismatch]
  rfl

end

/-- **No request is reported valid**: whatever the key and the scheme, the
    request of a receipt that the engine's key has signed, and that the
    verifier accepts, is reported invalid with its hash.  No request with other
    fields is reported valid either. -/
theorem verifyReceiptCryptographicOffline_never_valid (ed : Ed25519) (sha : Sha256)
    (conv : FieldConversions) (parseText : List String → String)
    (engine : SecurityHardeningEngine ed) (env : OfflineEnv) :
    (∀ signEnv call r req,
      signReceipt ed sha.hexdigest conv signEnv engine.key call = .ok r → req.Carries r →
      ¬ ReportedValid (engine.verifyReceiptCryptographicOffline sha.hexdigest conv env req)
        ∧ (engine.dbForcedDown = false →
          engine.verifyReceiptCryptographicOffline sha.hexdigest conv env req
            = .ok ⟨false, req.receiptId, false, false, true, some (hashMismatchText
              ((req.rebuilt env.now r.decision r.currency).computeCanonicalHash sha.hexdigest)
              hashMarker), env.verifiedAt⟩)
        ∧ (ed.Correct → call.receiptId ≠ some "" → ReportsValid (verify ed sha.hexdigest conv
          env.defaults parseText (.receipt r) (.object (ed.publicKey engine.key)) {} none)))
    ∧ ∀ req,
      ¬ ReportedValid (engine.verifyReceiptCryptographicOffline sha.hexdigest conv env req) := by
  have hdigest := sha.hexdigest_ne_empty
  refine ⟨?_, fun req => not_reportedValid⟩
  intro signEnv call r req hsign hcarries
  refine ⟨not_reportedValid, ?_, ?_⟩
  · intro hup
    obtain ⟨hwell, σ, -, hr⟩ := (signReceipt_eq_ok_iff hdigest).mp hsign
    have hsigned : r.WellFormed := by
      rw [hr]
      exact hwell.signed σ
    exact report_of_carried hcarries hsigned hup
  · intro hcorrect hid
    exact verify_valid_iff.mpr ⟨r, rfl, passes_of_signed hcorrect hdigest hsign hid .object
      ⟨nofun, nofun, nofun, nofun, nofun, nofun, nofun⟩, nofun⟩

/-! ## A signed receipt that is refused -/

namespace Sample

open ReceiptVerifier.Sample

theorem payloadDigest_digits : payloadDigest.toList.length = 64
    ∧ ∀ c ∈ payloadDigest.toList, isLowerHex c = true :=
  digits_of_all (by decide) (by decide)

theorem genesis_digits : AuditLedger.genesisHash.toList.length = 64
    ∧ ∀ c ∈ AuditLedger.genesisHash.toList, isLowerHex c = true :=
  digits_of_all (by decide) (by decide)

def single (text digest : String)
    (h : digest.toList.length = 64 ∧ ∀ c ∈ digest.toList, isLowerHex c = true) : Sha256 where
  hexdigest t := if t = text then digest else AuditLedger.genesisHash
  digits t := by
    by_cases ht : t = text
    · rw [if_pos ht]
      exact h
    · rw [if_neg ht]
      exact genesis_digits

theorem hexdigest_single {text digest : String}
    (h : digest.toList.length = 64 ∧ ∀ c ∈ digest.toList, isLowerHex c = true) :
    (single text digest h).hexdigest text = digest :=
  if_pos rfl

def sha : Sha256 :=
  single (call.described ReceiptVerifier.Sample.env).canonical.compact payloadDigest
    payloadDigest_digits

theorem sha_ne_empty : ∀ t, sha.hexdigest t ≠ "" := sha.hexdigest_ne_empty

theorem payload_hash : (call.described ReceiptVerifier.Sample.env).computeCanonicalHash
    sha.hexdigest = payloadDigest :=
  hexdigest_single payloadDigest_digits

def signedReceipt : ActionReceipt :=
  (call.described ReceiptVerifier.Sample.env).signed sha.hexdigest signatureBytes

theorem signReceipt_signed :
    signReceipt scheme sha.hexdigest .strict ReceiptVerifier.Sample.env () call
      = .ok signedReceipt := by
  refine (signReceipt_eq_ok_iff sha_ne_empty).mpr
    ⟨described_wellFormed, signatureBytes, ?_, rfl⟩
  rw [ActionReceipt.canonicalPayloadHash_hashed, payload_hash]
  exact scheme_sign

theorem receiptId_ne : "receipt-1" ≠ "" := by decide

theorem transactionId_ne : "tx-1" ≠ "" := by decide

theorem mandateId_ne : "mandate-1" ≠ "" := by decide

theorem merchantId_ne : "merchant-1" ≠ "" := by decide

theorem policyVersion_pos : (1 : Int) ≤ 1 := by decide

theorem cartHash_ne : cartDigest ≠ "" := by decide

theorem amount_nonneg : (0 : Int) ≤ 299900 := by decide

theorem decision_ne : "ALLOW" ≠ "" := by decide

theorem executionTool_ne : "create_order" ≠ "" := by decide

theorem executionReference_ne : "order-1" ≠ "" := by decide

theorem auditHash_ne : auditDigest ≠ "" := by decide

def request : ReceiptVerifyRequest where
  receiptId := "receipt-1"
  transactionId := "tx-1"
  mandateId := "mandate-1"
  merchantId := "merchant-1"
  policyVersion := 1
  cartHash := cartDigest
  amountPaise := 299900
  currency := "INR"
  decision := "ALLOW"
  executionTool := "create_order"
  executionReference := "order-1"
  auditHash := auditDigest
  signature := Base64.encode signatureBytes
  receiptId_ne := receiptId_ne
  transactionId_ne := transactionId_ne
  mandateId_ne := mandateId_ne
  merchantId_ne := merchantId_ne
  policyVersion_pos := policyVersion_pos
  cartHash_ne := cartHash_ne
  amount_nonneg := amount_nonneg
  decision_ne := decision_ne
  executionTool_ne := executionTool_ne
  executionReference_ne := executionReference_ne
  auditHash_ne := auditHash_ne
  signature_ne := encode_ne_empty signatureBytes_length

theorem request_carries : request.Carries signedReceipt :=
  ⟨rfl, rfl, rfl, rfl, rfl, rfl, rfl, rfl, rfl, rfl, rfl, rfl, rfl⟩

def engine : SecurityHardeningEngine scheme := ⟨(), false⟩

def offlineEnv : OfflineEnv :=
  ⟨LocalLedger.Sample.noon 8 eighth_second, LocalLedger.Sample.noon 8 eighth_second,
    ReceiptVerifier.Sample.env.defaults⟩

/-- **A receipt that the engine's key has signed is valid for the verifier and
    refused from a request.** -/
theorem signed_request_refused :
    signReceipt scheme sha.hexdigest .strict ReceiptVerifier.Sample.env () call = .ok signedReceipt
      ∧ request.Carries signedReceipt
      ∧ ReportsValid (verify scheme sha.hexdigest .strict offlineEnv.defaults (fun _ => "")
        (.receipt signedReceipt) (.object (scheme.publicKey ())) {} none)
      ∧ ¬ ReportedValid
        (engine.verifyReceiptCryptographicOffline sha.hexdigest .strict offlineEnv request) := by
  refine ⟨signReceipt_signed, request_carries, ?_, not_reportedValid⟩
  exact verify_valid_iff.mpr ⟨signedReceipt, rfl,
    passes_of_signed Ed25519.known_correct sha_ne_empty signReceipt_signed (by decide) .object
      (nothing_expected _), nofun⟩

end Sample

end SecurityHardeningEngine

end MandateGateway
