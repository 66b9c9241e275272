import MandateGateway.Lib.Exceptions
import MandateGateway.Receipt.Signer

/-! # Verifying receipts

    A receipt is checked offline against a public key: its structure, its hash,
    its signature, the bindings that the caller expects, and its link to an
    audit ledger.  It is valid exactly when all of these pass
    (`verify_valid_iff`).  A signed receipt is valid under the key of its
    signer; what is valid agrees in every signed field with a receipt that the
    key signed.  The hash leaves out two fields, and these are not protected
    (`protected_iff`). -/

namespace MandateGateway

open Clock Exceptions

/-- What the caller expects of a receipt. -/
structure ExpectedBindings where
  transactionId : Option String := none
  mandateId     : Option String := none
  merchantId    : Option String := none
  amountPaise   : Option Int := none
  cartHash      : Option String := none
  currency      : Option Currency := none
  decision      : Option PolicyDecision := none

structure ExpectedBindings.Matches (expected : ExpectedBindings) (r : ActionReceipt) : Prop where
  transactionId : ∀ x ∈ expected.transactionId, r.transactionId = x
  mandateId     : ∀ x ∈ expected.mandateId, r.mandateId = x
  merchantId    : ∀ x ∈ expected.merchantId, r.merchantId = x
  amountPaise   : ∀ x ∈ expected.amountPaise, r.amountPaise = x
  cartHash      : ∀ x ∈ expected.cartHash, r.cartHash = x
  currency      : ∀ x ∈ expected.currency, r.currency = x
  decision      : ∀ x ∈ expected.decision, r.decision = x

inductive PresentedReceipt where
  | receipt (r : ActionReceipt)
  | dict (d : Fields)

def PresentedReceipt.read (sha256 : String → String) (conv : FieldConversions)
    (defaults : ReceiptDefaults) : PresentedReceipt → Option ActionReceipt
  | .receipt r => some r
  | .dict d =>
      match ActionReceipt.fromFields conv defaults sha256 d with
      | .faulty _ => none
      | .valid r => some r

/-- The report of a verification. -/
structure VerificationResult where
  receiptId             : FieldValue
  isValid               : Bool
  canonicalPayloadValid : Bool
  signatureValid        : Bool
  structureValid        : Bool
  bindingValid          : Bool
  auditLinkValid        : Option Bool := none
  error                 : Option String := none

namespace ReceiptVerifier

/-! ## The verifier -/

/-- The complaint about one binding. -/
def mismatch {α : Type} [DecidableEq α] (name : String) (text : α → String) (actual : α) :
    Option α → List String
  | none => []
  | some expected =>
      if actual ≠ expected then [s!"{name} '{text actual}' != expected '{text expected}'"] else []

def verifyBindings (r : ActionReceipt) (expected : ExpectedBindings) : List String :=
  mismatch "transaction_id" id r.transactionId expected.transactionId
    ++ mismatch "mandate_id" id r.mandateId expected.mandateId
    ++ mismatch "merchant_id" id r.merchantId expected.merchantId
    ++ mismatch "amount_paise" toString r.amountPaise expected.amountPaise
    ++ mismatch "cart_hash" id r.cartHash expected.cartHash
    ++ mismatch "currency" (fun c => s!"Currency.{c.value}") r.currency expected.currency
    ++ mismatch "decision" (fun d => s!"PolicyDecision.{d.value}") r.decision expected.decision

/-- A required field is missing or malformed. -/
def Incomplete (r : ActionReceipt) : Prop :=
  r.receiptId = "" ∨ r.transactionId = "" ∨ r.mandateId = "" ∨ r.merchantId = ""
    ∨ r.cartHash.length ≠ 64 ∨ r.amountPaise < 0

instance (r : ActionReceipt) : Decidable (Incomplete r) := by
  unfold Incomplete
  infer_instance

def incompleteText : String := "Receipt contains incomplete or invalid structural fields."

def hashMismatchText (computed stored : String) : String :=
  s!"Canonical payload hash mismatch: computed '{computed}' != receipt '{stored}'"

def missingSignatureText : String := "Receipt is missing required Ed25519 signature."

def invalidSignatureText : String :=
  "Ed25519 signature is invalid for the receipt canonical payload."

def corruptedChainText (chainErr : String) : String :=
  s!"Audit ledger chain is corrupted: {chainErr}"

def missingAuditHashText : String := "Receipt does not contain an audit_hash linkage digest."

def noEventText (transactionId : String) : String :=
  s!"No audit event recorded in ledger for transaction_id '{transactionId}'."

def auditMismatchText (auditHash eventHash : String) : String :=
  s!"Receipt audit_hash '{auditHash}' does not match latest ledger event digest '{eventHash}'."

def checkSignature (ed : Ed25519) (key : PublicKey) (signature hash : String) :
    Except VerifyFailure Unit :=
  match decodeText signature with
  | .error exc => .error (.other exc)
  | .ok data => ed.verify key data hash.toUTF8

/-- `get_latest_event_for_transaction`. -/
def latestEvent (ledger : LocalLedger) (transactionId : String) : Option AuditEvent :=
  ledger.events.reverse.find? fun e => e.transactionId = some transactionId

section
variable (ed : Ed25519) (sha256 : String → String)

/-- The audit linkage of a receipt that has passed everything else; it raises
    where recomputing the hash of an event does. -/
def verifyAuditLink (r : ActionReceipt) (ledger : LocalLedger) :
    Except AppendError VerificationResult :=
  let refused (error : String) : Except AppendError VerificationResult :=
    .ok ⟨.json (.str r.receiptId), false, true, true, true, true, some false, some error⟩
  let auditHash := r.auditHash.getD ""
  if auditHash = "" then refused missingAuditHashText
  else match ledger.verifyChain sha256 with
  | none => .error .typeError
  | some (chainOk, chainErr) =>
      if chainOk = false then
        refused (corruptedChainText (chainErr.getD "None"))
      else match latestEvent ledger r.transactionId with
      | none => refused (noEventText r.transactionId)
      | some event =>
          if event.eventHash ≠ auditHash then refused (auditMismatchText auditHash event.eventHash)
          else .ok ⟨.json (.str r.receiptId), true, true, true, true, true, some true, none⟩

/-- `verify`, of a receipt. -/
def verifyReceipt (r : ActionReceipt) (key : KeyInput) (expected : ExpectedBindings)
    (auditLedger : Option LocalLedger) : Except AppendError VerificationResult :=
  let refused (canonical signature structure_ : Bool) (error : String) :
      Except AppendError VerificationResult :=
    .ok ⟨.json (.str r.receiptId), false, canonical, signature, structure_, false, none, some error⟩
  let signature := r.signature.getD ""
  if Incomplete r then refused false false false incompleteText
  else if r.computeCanonicalHash sha256 ≠ r.canonicalPayloadHash then
    refused false false true
      (hashMismatchText (r.computeCanonicalHash sha256) r.canonicalPayloadHash)
  else if signature = "" then refused true false true missingSignatureText
  else match loadPublicKeyObj key with
  | .error exc =>
      refused true false true s!"Failed to load Ed25519 public key for verification: {exc}"
  | .ok keyObj =>
      match checkSignature ed keyObj signature r.canonicalPayloadHash with
      | .error .invalidSignature => refused true false true invalidSignatureText
      | .error (.other exc) => refused true false true s!"Ed25519 signature decoding error: {exc}"
      | .ok () =>
          if verifyBindings r expected ≠ [] then
            refused true true true ("Context binding verification failed: "
              ++ "; ".intercalate (verifyBindings r expected))
          else match auditLedger with
          | none => .ok ⟨.json (.str r.receiptId), true, true, true, true, true, none, none⟩
          | some ledger => verifyAuditLink sha256 r ledger

/-- `verify`: a dictionary is read first.  `parseText` is the text of the data
    contract's refusal. -/
def verify (conv : FieldConversions) (defaults : ReceiptDefaults)
    (parseText : List String → String) (presented : PresentedReceipt) (key : KeyInput)
    (expected : ExpectedBindings) (auditLedger : Option LocalLedger) :
    Except AppendError VerificationResult :=
  match presented with
  | .receipt r => verifyReceipt ed sha256 r key expected auditLedger
  | .dict d =>
      match ActionReceipt.fromFields conv defaults sha256 d with
      | .faulty faults =>
          .ok ⟨(d.get "receipt_id").getD (.json (.str "unknown")), false, false, false, false,
            false, none, some s!"Receipt structure parsing failed: {parseText faults}"⟩
      | .valid r => verifyReceipt ed sha256 r key expected auditLedger

end

def ReportsValid (outcome : Except AppendError VerificationResult) : Prop :=
  ∃ res, outcome = .ok res ∧ res.isValid = true

def ReportsInvalid (outcome : Except AppendError VerificationResult) : Prop :=
  ∃ res, outcome = .ok res ∧ res.isValid = false

/-! ## When a receipt is valid -/

/-- Everything that is checked without a ledger. -/
structure Passes (ed : Ed25519) (sha256 : String → String) (r : ActionReceipt) (key : KeyInput)
    (expected : ExpectedBindings) : Prop where
  complete  : ¬ Incomplete r
  hash      : r.computeCanonicalHash sha256 = r.canonicalPayloadHash
  present   : r.signature.getD "" ≠ ""
  signature : ∃ keyObj, loadPublicKeyObj key = .ok keyObj
    ∧ checkSignature ed keyObj (r.signature.getD "") r.canonicalPayloadHash = .ok ()
  bindings  : verifyBindings r expected = []

/-- The receipt carries the hash of its transaction's latest event in a ledger
    that verifies. -/
structure Linked (sha256 : String → String) (r : ActionReceipt) (ledger : LocalLedger) : Prop where
  present : r.auditHash.getD "" ≠ ""
  intact  : ∃ err, ledger.verifyChain sha256 = some (true, err)
  latest  : ∃ event, latestEvent ledger r.transactionId = some event
    ∧ event.eventHash = r.auditHash.getD ""

section
variable {ed : Ed25519} {sha256 : String → String} {r : ActionReceipt} {key : KeyInput}
  {expected : ExpectedBindings}

theorem reportsValid_ok_iff {res : VerificationResult} :
    ReportsValid (.ok res) ↔ res.isValid = true := by
  constructor
  · rintro ⟨res', hres, hvalid⟩
    cases hres
    exact hvalid
  · intro h
    exact ⟨res, rfl, h⟩

theorem reportsValid_guard_iff {c : Prop} [Decidable c] {res : VerificationResult}
    {k : Except AppendError VerificationResult} (hres : res.isValid = false) :
    ReportsValid (if c then .ok res else k) ↔ ¬ c ∧ ReportsValid k := by
  by_cases h : c
  · rw [if_pos h, reportsValid_ok_iff, hres]
    constructor
    · intro h'
      cases h'
    · rintro ⟨hn, -⟩
      exact absurd h hn
  · rw [if_neg h]
    exact (and_iff_right h).symm

theorem not_reportsValid_refused {res : VerificationResult} (hres : res.isValid = false) :
    ¬ ReportsValid (.ok res) := by
  rw [reportsValid_ok_iff, hres]
  decide

theorem verifyAuditLink_valid_iff {ledger : LocalLedger} :
    ReportsValid (verifyAuditLink sha256 r ledger) ↔ Linked sha256 r ledger := by
  rw [verifyAuditLink, reportsValid_guard_iff rfl]
  cases hchain : ledger.verifyChain sha256 with
  | none =>
      constructor
      · rintro ⟨-, res, hres, -⟩
        cases hres
      · rintro ⟨-, ⟨err, herr⟩, -⟩
        rw [hchain] at herr
        cases herr
  | some report =>
      obtain ⟨chainOk, chainErr⟩ := report
      dsimp only
      rw [reportsValid_guard_iff rfl, Bool.not_eq_false]
      cases hlatest : latestEvent ledger r.transactionId with
      | none =>
          constructor
          · rintro ⟨-, -, hvalid⟩
            exact absurd hvalid (not_reportsValid_refused rfl)
          · rintro ⟨-, -, event, hevent, -⟩
            rw [hlatest] at hevent
            cases hevent
      | some event =>
          dsimp only
          rw [reportsValid_guard_iff rfl, not_not]
          constructor
          · rintro ⟨hpresent, rfl, hsame, -⟩
            exact ⟨hpresent, ⟨chainErr, hchain⟩, event, hlatest, hsame⟩
          · rintro ⟨hpresent, ⟨err, herr⟩, event', hevent, hsame⟩
            rw [hchain] at herr
            rw [hlatest] at hevent
            cases herr
            cases hevent
            exact ⟨hpresent, rfl, hsame, reportsValid_ok_iff.mpr rfl⟩

/-- **A receipt is valid exactly when every check passes.** -/
theorem verifyReceipt_valid_iff {auditLedger : Option LocalLedger} :
    ReportsValid (verifyReceipt ed sha256 r key expected auditLedger)
      ↔ Passes ed sha256 r key expected ∧ ∀ ledger ∈ auditLedger, Linked sha256 r ledger := by
  rw [verifyReceipt.eq_def, reportsValid_guard_iff rfl, reportsValid_guard_iff rfl,
    reportsValid_guard_iff rfl, not_not]
  cases hkey : loadPublicKeyObj key with
  | error exc =>
      constructor
      · rintro ⟨-, -, -, hvalid⟩
        exact absurd hvalid (not_reportsValid_refused rfl)
      · rintro ⟨⟨-, -, -, ⟨keyObj, hload, -⟩, -⟩, -⟩
        rw [hkey] at hload
        cases hload
  | ok keyObj =>
      dsimp only
      cases hsignature : checkSignature ed keyObj (r.signature.getD "") r.canonicalPayloadHash with
      | error failure =>
          have hrefused : ∀ valid, checkSignature ed keyObj (r.signature.getD "")
              r.canonicalPayloadHash = .ok valid → False := by
            intro valid h
            rw [hsignature] at h
            cases h
          constructor
          · rintro ⟨-, -, -, hvalid⟩
            cases failure <;> exact absurd hvalid (not_reportsValid_refused rfl)
          · rintro ⟨⟨-, -, -, ⟨keyObj', hload, hcheck⟩, -⟩, -⟩
            rw [hkey] at hload
            cases hload
            exact (hrefused _ hcheck).elim
      | ok _ =>
          dsimp only
          rw [reportsValid_guard_iff rfl, not_not]
          have hlinked : ReportsValid (match auditLedger with
              | none => .ok ⟨.json (.str r.receiptId), true, true, true, true, true, none, none⟩
              | some ledger => verifyAuditLink sha256 r ledger)
                ↔ ∀ ledger ∈ auditLedger, Linked sha256 r ledger := by
            cases auditLedger with
            | none =>
                exact iff_of_true (reportsValid_ok_iff.mpr rfl) nofun
            | some ledger =>
                rw [verifyAuditLink_valid_iff]
                exact ⟨fun h _ hl => Option.some.inj hl ▸ h, fun h => h ledger rfl⟩
          rw [hlinked]
          constructor
          · rintro ⟨hcomplete, hhash, hpresent, hbindings, hlink⟩
            exact ⟨⟨hcomplete, hhash, hpresent, ⟨keyObj, hkey, hsignature⟩, hbindings⟩, hlink⟩
          · rintro ⟨⟨hcomplete, hhash, hpresent, -, hbindings⟩, hlink⟩
            exact ⟨hcomplete, hhash, hpresent, hbindings, hlink⟩

theorem verifyReceipt_reports :
    ∃ res, verifyReceipt ed sha256 r key expected none = .ok res := by
  rw [verifyReceipt]
  by_cases hincomplete : Incomplete r
  · exact ⟨_, if_pos hincomplete⟩
  rw [if_neg hincomplete]
  by_cases hhash : r.computeCanonicalHash sha256 = r.canonicalPayloadHash
  · rw [if_neg (not_not.mpr hhash)]
    by_cases hpresent : r.signature.getD "" = ""
    · exact ⟨_, if_pos hpresent⟩
    rw [if_neg hpresent]
    cases loadPublicKeyObj key with
    | error exc => exact ⟨_, rfl⟩
    | ok keyObj =>
        dsimp only
        cases checkSignature ed keyObj (r.signature.getD "") r.canonicalPayloadHash with
        | error failure => cases failure <;> exact ⟨_, rfl⟩
        | ok _ =>
            dsimp only
            by_cases hbindings : verifyBindings r expected = []
            · exact ⟨_, if_neg (not_not.mpr hbindings)⟩
            · exact ⟨_, if_pos hbindings⟩
  · exact ⟨_, if_pos hhash⟩

theorem mismatch_eq_nil_iff {α : Type} [DecidableEq α] {name : String} {text : α → String}
    {actual : α} {expected : Option α} :
    mismatch name text actual expected = [] ↔ ∀ x ∈ expected, actual = x := by
  cases expected with
  | none => exact iff_of_true rfl nofun
  | some x =>
      rw [mismatch]
      by_cases h : actual = x
      · rw [if_neg (not_not.mpr h)]
        exact iff_of_true rfl fun y hy => h.trans (Option.some.inj hy)
      · rw [if_pos h]
        exact iff_of_false nofun fun hall => h (hall x rfl)

theorem verifyBindings_eq_nil_iff : verifyBindings r expected = [] ↔ expected.Matches r := by
  simp only [verifyBindings, List.append_eq_nil_iff, mismatch_eq_nil_iff]
  constructor
  · rintro ⟨⟨⟨⟨⟨⟨h1, h2⟩, h3⟩, h4⟩, h5⟩, h6⟩, h7⟩
    exact ⟨h1, h2, h3, h4, h5, h6, h7⟩
  · rintro ⟨h1, h2, h3, h4, h5, h6, h7⟩
    exact ⟨⟨⟨⟨⟨⟨h1, h2⟩, h3⟩, h4⟩, h5⟩, h6⟩, h7⟩

end

section
variable {ed : Ed25519} {sha256 : String → String} {conv : FieldConversions}
  {defaults : ReceiptDefaults} {parseText : List String → String} {presented : PresentedReceipt}
  {input : KeyInput} {expected : ExpectedBindings}

/-- **What is presented is valid exactly when a receipt is read from it that
    passes every check.** -/
theorem verify_valid_iff {auditLedger : Option LocalLedger} :
    ReportsValid (verify ed sha256 conv defaults parseText presented input expected auditLedger)
      ↔ ∃ r, presented.read sha256 conv defaults = some r ∧ Passes ed sha256 r input expected
        ∧ ∀ ledger ∈ auditLedger, Linked sha256 r ledger := by
  have hread : ∀ r, (ReportsValid (verifyReceipt ed sha256 r input expected auditLedger)
      ↔ ∃ r', some r = some r' ∧ Passes ed sha256 r' input expected
        ∧ ∀ ledger ∈ auditLedger, Linked sha256 r' ledger) := by
    intro r
    rw [verifyReceipt_valid_iff]
    constructor
    · intro h
      exact ⟨r, rfl, h⟩
    · rintro ⟨r', hr, h⟩
      cases hr
      exact h
  cases presented with
  | receipt r => exact hread r
  | dict d =>
      rw [verify, PresentedReceipt.read]
      cases ActionReceipt.fromFields conv defaults sha256 d with
      | faulty faults =>
          constructor
          · intro h
            exact absurd h (not_reportsValid_refused rfl)
          · rintro ⟨r, hr, -⟩
            cases hr
      | valid r => exact hread r

theorem reportsInvalid_of_not_valid
    (h : ¬ ReportsValid (verify ed sha256 conv defaults parseText presented input expected none)) :
    ReportsInvalid (verify ed sha256 conv defaults parseText presented input expected none) := by
  have hreports : ∃ res,
      verify ed sha256 conv defaults parseText presented input expected none = .ok res := by
    cases presented with
    | receipt r => exact verifyReceipt_reports
    | dict d =>
        rw [verify]
        cases ActionReceipt.fromFields conv defaults sha256 d with
        | faulty faults => exact ⟨_, rfl⟩
        | valid r => exact verifyReceipt_reports
  obtain ⟨res, hres⟩ := hreports
  refine ⟨res, hres, ?_⟩
  rw [hres, reportsValid_ok_iff, Bool.not_eq_true] at h
  exact h

end

theorem Passes.of_sameSigned {ed : Ed25519} {sha256 : String → String} {r r' : ActionReceipt}
    {input : KeyInput} {expected : ExpectedBindings} (h : Passes ed sha256 r input expected)
    (hsame : r.SameSigned r') (hhash : r'.canonicalPayloadHash = r.canonicalPayloadHash)
    (hsignature : r'.signature = r.signature) : Passes ed sha256 r' input expected := by
  obtain ⟨hcomplete, hstored, hpresent, hcheck, hbindings⟩ := h
  refine ⟨?_, ?_, ?_, ?_, ?_⟩
  · rw [Incomplete, ← hsame.receiptId, ← hsame.transactionId, ← hsame.mandateId,
      ← hsame.merchantId, ← hsame.cartHash, ← hsame.amountPaise]
    exact hcomplete
  · rw [ActionReceipt.computeCanonicalHash, ← ActionReceipt.canonical_eq_iff.mpr hsame, hhash]
    exact hstored
  · rw [hsignature]
    exact hpresent
  · rw [hsignature, hhash]
    exact hcheck
  · rw [verifyBindings, ← hsame.transactionId, ← hsame.mandateId, ← hsame.merchantId,
      ← hsame.amountPaise, ← hsame.cartHash, ← hsame.currency, ← hsame.decision]
    exact hbindings

/-! ## Which fields are protected -/

/-- A receipt is protected against being passed off as another one: their
    hashes differ unless they agree in every field but the hash and the
    signature, and a receipt with different fields never passes under the hash
    and the signature of a valid one. -/
structure Protected (ed : Ed25519) (sha256 : String → String) (conv : FieldConversions)
    (parseText : List String → String) (r r' : ActionReceipt) : Prop where
  hash : r.computeCanonicalHash sha256 = r'.computeCanonicalHash sha256 → r.SameFields r'
  verification : ∀ defaults input expected auditLedger, ReportsValid
      (verify ed sha256 conv defaults parseText (.receipt r) input expected auditLedger) →
    r'.canonicalPayloadHash = r.canonicalPayloadHash → r'.signature = r.signature →
    ¬ r.SameFields r' → ∀ defaults' presented input' expected' auditLedger',
      presented.read sha256 conv defaults' = some r' → ¬ ReportsValid
        (verify ed sha256 conv defaults' parseText presented input' expected' auditLedger')

/-- **A receipt is protected against another one exactly when the two have the
    same times of execution and creation or differ in a signed field.** -/
theorem protected_iff (ed : Ed25519) (conv : FieldConversions) (parseText : List String → String)
    {sha256 : String → String} (hsha : Function.Injective sha256) (r r' : ActionReceipt) :
    Protected ed sha256 conv parseText r r'
      ↔ (r.SameSigned r' → r.executedAt = r'.executedAt ∧ r.createdAt = r'.createdAt) := by
  constructor
  · intro h hsame
    have hfields := h.hash ((ActionReceipt.computeCanonicalHash_eq_iff hsha).mpr hsame)
    exact ⟨hfields.executedAt, hfields.createdAt⟩
  · intro h
    have hfields : r.SameSigned r' → r.SameFields r' := fun hsame =>
      ⟨hsame, (h hsame).1, (h hsame).2⟩
    refine ⟨fun hhash => hfields ((ActionReceipt.computeCanonicalHash_eq_iff hsha).mp hhash), ?_⟩
    intro defaults input expected auditLedger hvalid hhash _ hdiffer defaults' presented input'
      expected' auditLedger' hread hvalid'
    obtain ⟨r₀, hr₀, hpasses, -⟩ := verify_valid_iff.mp hvalid
    obtain ⟨r₁, hr₁, hpasses', -⟩ := verify_valid_iff.mp hvalid'
    cases hr₀
    rw [hread] at hr₁
    cases hr₁
    -- both receipts carry the hash of their own signed fields
    have hsame : r.computeCanonicalHash sha256 = r'.computeCanonicalHash sha256 := by
      rw [hpasses.hash, hpasses'.hash, hhash]
    exact hdiffer (hfields ((ActionReceipt.computeCanonicalHash_eq_iff hsha).mp hsame))

/-! ## Signed receipts are valid, and only these -/

/-- The receipts that a key has signed in some calls. -/
def Genuine (ed : Ed25519) (sha256 : String → String) (conv : FieldConversions)
    (key : ed.PrivateKey) (calls : Set (SignEnv × SignCall)) (r : ActionReceipt) : Prop :=
  ∃ c ∈ calls, signReceipt ed sha256 conv c.1 key c.2 = .ok r

/-- The messages of genuine receipts. -/
def signedMessages (ed : Ed25519) (sha256 : String → String) (conv : FieldConversions)
    (key : ed.PrivateKey) (calls : Set (SignEnv × SignCall)) : Set ByteArray :=
  {m | ∃ r, Genuine ed sha256 conv key calls r ∧ m = r.canonicalPayloadHash.toUTF8}

section
variable {ed : Ed25519} {sha256 : String → String} {conv : FieldConversions}
  {defaults : ReceiptDefaults} {parseText : List String → String} {input : KeyInput}
  {expected : ExpectedBindings} {key : ed.PrivateKey} {env : SignEnv} {call : SignCall}
  {r : ActionReceipt}

theorem toUTF8_injective : Function.Injective String.toUTF8 := by
  intro s t h
  exact String.toByteArray_inj.mp h

theorem encode_ne_empty {data : List UInt8} (h : data.length = 64) : Base64.encode data ≠ "" := by
  intro hempty
  have hlength := congrArg String.length hempty
  rw [Base64.encode, String.length_ofList, Base64.length_encodeChars, h] at hlength
  exact absurd hlength (by decide)

theorem passes_of_signed (hcorrect : ed.Correct) (hdigest : ∀ t, sha256 t ≠ "")
    (hsign : signReceipt ed sha256 conv env key call = .ok r) (hid : call.receiptId ≠ some "")
    (hform : (ed.publicKey key).Form input) (hmatches : expected.Matches r) :
    Passes ed sha256 r input expected := by
  obtain ⟨hwell, σ, hσ, rfl⟩ := (signReceipt_eq_ok_iff hdigest).mp hsign
  have hreceiptId : (call.described env).receiptId ≠ "" := by
    rw [SignCall.described]
    cases hcall : call.receiptId with
    | none => exact env.defaults.receiptId_ne
    | some id =>
        rintro rfl
        exact hid hcall
  refine ⟨?_, rfl, encode_ne_empty (ed.signature_length hσ), ?_,
    verifyBindings_eq_nil_iff.mpr hmatches⟩
  · rintro (h | h | h | h | h | h)
    · exact hreceiptId h
    · exact hwell.transactionId_ne h
    · exact hwell.mandateId_ne h
    · exact hwell.merchantId_ne h
    · exact h hwell.cartHash_length
    · exact absurd hwell.amount_nonneg (Int.not_le.mpr h)
  · refine ⟨ed.publicKey key, loadPublicKeyObj_form hform, ?_⟩
    show checkSignature ed _ (Base64.encode σ) _ = _
    rw [checkSignature, decodeText_encode]
    exact hcorrect key _ σ hσ

theorem read_dump_of_signed (hdigest : ∀ t, sha256 t ≠ "")
    (hsign : signReceipt ed sha256 conv env key call = .ok r) :
    (PresentedReceipt.dict r.dump).read sha256 conv defaults = some r := by
  obtain ⟨hwell, σ, -, rfl⟩ := (signReceipt_eq_ok_iff hdigest).mp hsign
  rw [PresentedReceipt.read, ActionReceipt.fromFields_dump (hwell.signed σ) (hdigest _)]

/-- **A receipt that passes under a key agrees in every signed field with one
    that the key signed.** -/
theorem genuine_of_passes (hsha : Function.Injective sha256) (hdigest : ∀ t, sha256 t ≠ "")
    {calls : Set (SignEnv × SignCall)} {obtainable : Set (List UInt8)}
    (hunforgeable : ed.Unforgeable key (signedMessages ed sha256 conv key calls) obtainable)
    (hform : (ed.publicKey key).Form input)
    (hobtained : ∀ data, decodeText (r.signature.getD "") = .ok data → data ∈ obtainable)
    (hpasses : Passes ed sha256 r input expected) :
    ∃ r₀, Genuine ed sha256 conv key calls r₀ ∧ r₀.SameSigned r := by
  obtain ⟨keyObj, hload, hcheck⟩ := hpasses.signature
  rw [loadPublicKeyObj_form hform] at hload
  cases hload
  rw [checkSignature] at hcheck
  cases hdata : decodeText (r.signature.getD "") with
  | error exc =>
      rw [hdata] at hcheck
      cases hcheck
  | ok data =>
      rw [hdata] at hcheck
      obtain ⟨r₀, hgenuine, hmessage⟩ := hunforgeable data (hobtained data hdata) _ hcheck
      have hhash : r.canonicalPayloadHash = r₀.canonicalPayloadHash := toUTF8_injective hmessage
      obtain ⟨c, hc, hsign⟩ := hgenuine
      obtain ⟨-, σ, -, hr₀⟩ := (signReceipt_eq_ok_iff hdigest).mp hsign
      refine ⟨r₀, ⟨c, hc, hsign⟩, (ActionReceipt.computeCanonicalHash_eq_iff hsha).mp ?_⟩
      calc r₀.computeCanonicalHash sha256 = r₀.canonicalPayloadHash := by rw [hr₀]; rfl
        _ = r.canonicalPayloadHash := hhash.symm
        _ = r.computeCanonicalHash sha256 := hpasses.hash.symm

end

/-- **Verification under a signer's key.**  With a correct scheme a signed
    receipt is valid under every form of the key and with any of its own
    bindings expected, also when it is dumped and read back, and invalid with a
    different one expected.  Where the scheme is unforgeable nothing is valid
    whose signed fields the key did not sign. -/
theorem verify_signed (ed : Ed25519) (conv : FieldConversions) (parseText : List String → String)
    {sha256 : String → String} (hcorrect : ed.Correct) (hsha : Function.Injective sha256)
    (hdigest : ∀ t, sha256 t ≠ "") (key : ed.PrivateKey) (calls : Set (SignEnv × SignCall))
    (obtainable : Set (List UInt8))
    (hunforgeable : ed.Unforgeable key (signedMessages ed sha256 conv key calls) obtainable)
    (defaults : ReceiptDefaults) (input : KeyInput) (hform : (ed.publicKey key).Form input)
    (expected : ExpectedBindings) :
    (∀ env call r, signReceipt ed sha256 conv env key call = .ok r → call.receiptId ≠ some "" →
      ∀ presented, presented = .receipt r ∨ presented = .dict r.dump →
        (expected.Matches r → ReportsValid
          (verify ed sha256 conv defaults parseText presented input expected none))
        ∧ (¬ expected.Matches r → ReportsInvalid
          (verify ed sha256 conv defaults parseText presented input expected none)))
    ∧ ∀ presented, (∀ r', presented.read sha256 conv defaults = some r' →
        (∀ data, decodeText (r'.signature.getD "") = .ok data → data ∈ obtainable)
          ∧ ∀ r, Genuine ed sha256 conv key calls r → ¬ r.SameSigned r') →
      ReportsInvalid (verify ed sha256 conv defaults parseText presented input expected none) := by
  constructor
  · intro env call r hsign hid presented hpresented
    have hread : presented.read sha256 conv defaults = some r := by
      rcases hpresented with rfl | rfl
      · rfl
      · exact read_dump_of_signed hdigest hsign
    constructor
    · intro hmatches
      exact verify_valid_iff.mpr
        ⟨r, hread, passes_of_signed hcorrect hdigest hsign hid hform hmatches, nofun⟩
    · intro hdiffer
      refine reportsInvalid_of_not_valid fun hvalid => ?_
      obtain ⟨r', hr', hpasses, -⟩ := verify_valid_iff.mp hvalid
      rw [hread] at hr'
      cases hr'
      exact hdiffer (verifyBindings_eq_nil_iff.mp hpasses.bindings)
  · intro presented hforeign
    refine reportsInvalid_of_not_valid fun hvalid => ?_
    obtain ⟨r', hread, hpasses, -⟩ := verify_valid_iff.mp hvalid
    obtain ⟨hobtained, hnone⟩ := hforeign r' hread
    obtain ⟨r, hgenuine, hsame⟩ :=
      genuine_of_passes hsha hdigest hunforgeable hform hobtained hpasses
    exact hnone r hgenuine hsame

/-! ## A signed receipt -/

namespace Sample

open HashChain LocalLedger.Sample

def cartDigest : String := "697d6d2a9297bd38aed0e7e543c6af950367a8cce62bea03d5a248e18297c6f3"

def auditDigest : String := "a328960a4b4296729e3894937b53d68a490b1794d66d40de07d9f2461d9be539"

def payloadDigest : String := "84143a616329c227724e1183cd8d7737dda558ca0c205c9a51e634ccf579d5e5"

theorem seventh_second : 7 < 60 := by decide

theorem eighth_second : 8 < 60 := by decide

theorem receiptId_ne : "receipt-0" ≠ "" := by decide

def env : SignEnv where
  now := noon 7 seventh_second
  defaults := ⟨"receipt-0", noon 7 seventh_second, noon 7 seventh_second, receiptId_ne⟩

def call : SignCall where
  transactionId := "tx-1"
  mandateId := "mandate-1"
  merchantId := "merchant-1"
  policyVersion := 1
  cartHash := cartDigest
  amountPaise := 299900
  currency := .inr
  decision := .allow
  executionTool := some "create_order"
  executionReference := some "order-1"
  auditHash := some auditDigest
  authorizedAt := none
  executedAt := none
  receiptId := some "receipt-1"

def publicKeyBytes : List UInt8 := [
  61, 64, 23, 195, 232, 67, 137, 90, 146, 183, 10, 167, 77, 27, 126, 188, 156, 152, 44, 207, 46,
  196, 150, 140, 192, 205, 85, 241, 42, 244, 102, 12]

def signatureBytes : List UInt8 := [
  90, 189, 75, 186, 50, 68, 121, 21, 185, 210, 117, 203, 237, 201, 101, 81, 216, 86, 95, 14, 45,
  11, 137, 82, 121, 206, 195, 232, 239, 152, 227, 54, 119, 119, 234, 157, 101, 224, 44, 122, 87,
  29, 186, 87, 14, 164, 54, 55, 253, 157, 26, 177, 226, 34, 64, 255, 13, 78, 108, 220, 81, 196,
  100, 2]

theorem publicKeyBytes_length : publicKeyBytes.length = 32 := rfl

theorem signatureBytes_length : signatureBytes.length = 64 := rfl

theorem signatureBytes_ne : signatureBytes ≠ List.replicate 64 0 := by
  intro h
  cases h

def scheme : Ed25519 :=
  .known ⟨publicKeyBytes, publicKeyBytes_length⟩ payloadDigest.toUTF8 signatureBytes
    signatureBytes_length

theorem scheme_sign : scheme.sign () payloadDigest.toUTF8 = .ok signatureBytes :=
  Ed25519.known_sign

def digests : List (String × String) :=
  [((call.described env).canonical.compact, payloadDigest)]

theorem digests_injective : Function.Injective (knownDigests digests) := by
  refine knownDigests_injective ?_ ?_
  · show ∀ d ∈ [payloadDigest], d.toList.head? ≠ some '#'
    decide
  · exact List.nodup_singleton _

theorem digests_ne_empty : ∀ t, knownDigests digests t ≠ "" := by
  refine knownDigests_ne (by decide) ?_
  show "" ∉ [payloadDigest]
  decide

theorem described_hash :
    (call.described env).computeCanonicalHash (knownDigests digests) = payloadDigest :=
  knownDigests_cons_self _ _ _

theorem described_wellFormed : (call.described env).WellFormed where
  transactionId_ne := by decide
  mandateId_ne := by decide
  merchantId_ne := by decide
  policyVersion_pos := by decide
  cartHash_length := by decide
  amount_nonneg := by decide

def receipt : ActionReceipt := (call.described env).signed (knownDigests digests) signatureBytes

theorem receipt_hash : receipt.canonicalPayloadHash = payloadDigest := by
  rw [receipt, ActionReceipt.canonicalPayloadHash_signed, described_hash]

theorem signReceipt_call :
    signReceipt scheme (knownDigests digests) .strict env () call = .ok receipt := by
  refine (signReceipt_eq_ok_iff digests_ne_empty).mpr
    ⟨described_wellFormed, signatureBytes, ?_, rfl⟩
  rw [ActionReceipt.canonicalPayloadHash_hashed, described_hash]
  exact scheme_sign

theorem receipt_passes (expected : ExpectedBindings) (h : expected.Matches receipt) :
    Passes scheme (knownDigests digests) receipt (.object (scheme.publicKey ())) expected :=
  passes_of_signed Ed25519.known_correct digests_ne_empty signReceipt_call (by decide) .object h

theorem nothing_expected (r : ActionReceipt) : ExpectedBindings.Matches {} r :=
  ⟨nofun, nofun, nofun, nofun, nofun, nofun, nofun⟩

def reexecuted (t : Datetime) (r : ActionReceipt) : ActionReceipt := { r with executedAt := some t }

theorem sameSigned_reexecuted (t : Datetime) (r : ActionReceipt) : r.SameSigned (reexecuted t r) :=
  ⟨rfl, rfl, rfl, rfl, rfl, rfl, rfl, rfl, rfl, rfl, rfl, rfl, rfl, rfl⟩

theorem passes_reexecuted {ed : Ed25519} {sha256 : String → String} {r : ActionReceipt}
    {input : KeyInput} {expected : ExpectedBindings} (t : Datetime)
    (h : Passes ed sha256 r input expected) : Passes ed sha256 (reexecuted t r) input expected :=
  h.of_sameSigned (sameSigned_reexecuted t r) rfl rfl

def backdated : ActionReceipt := reexecuted (noon 8 eighth_second) receipt

def repriced (amountPaise : Int) (r : ActionReceipt) : ActionReceipt :=
  { r with amountPaise := amountPaise }

theorem amount_of_sameSigned_repriced {amountPaise : Int} {r : ActionReceipt}
    (h : r.SameSigned (repriced amountPaise r)) : r.amountPaise = amountPaise := h.amountPaise

theorem receipt_amount : receipt.amountPaise = 299900 := rfl

def discounted : ActionReceipt := repriced 1 receipt

/-- **A signed receipt stays valid when a time of execution is added to it.** -/
theorem backdated_passes_as_signed :
    ReportsValid (verify scheme (knownDigests digests) .strict env.defaults (fun _ => "")
        (.receipt receipt) (.object (scheme.publicKey ())) {} none)
      ∧ ReportsValid (verify scheme (knownDigests digests) .strict env.defaults (fun _ => "")
        (.receipt backdated) (.object (scheme.publicKey ())) {} none)
      ∧ ¬ Protected scheme (knownDigests digests) .strict (fun _ => "") receipt backdated := by
  have hpasses := receipt_passes {} (nothing_expected receipt)
  refine ⟨verify_valid_iff.mpr ⟨receipt, rfl, hpasses, nofun⟩,
    verify_valid_iff.mpr ⟨backdated, rfl, passes_reexecuted _ hpasses, nofun⟩, ?_⟩
  intro h
  cases (h.hash ((ActionReceipt.computeCanonicalHash_eq_iff digests_injective).mpr
    (sameSigned_reexecuted _ receipt))).executedAt

theorem discounted_protected :
    Function.Injective (knownDigests digests)
      ∧ (Protected scheme (knownDigests digests) .strict (fun _ => "") receipt discounted
        ↔ (receipt.SameSigned discounted → receipt.executedAt = discounted.executedAt
          ∧ receipt.createdAt = discounted.createdAt)) :=
  ⟨digests_injective,
    protected_iff scheme .strict (fun _ => "") digests_injective receipt discounted⟩

def ownTransaction : ExpectedBindings := { transactionId := some "tx-1" }

theorem ownTransaction_matches : ownTransaction.Matches receipt where
  transactionId := by
    rintro x ⟨⟩
    rfl
  mandateId := nofun
  merchantId := nofun
  amountPaise := nofun
  cartHash := nofun
  currency := nofun
  decision := nofun

theorem genuine_eq {r : ActionReceipt}
    (h : Genuine scheme (knownDigests digests) .strict () {(env, call)} r) : r = receipt := by
  obtain ⟨c, rfl, hsign⟩ := h
  exact Except.ok.inj (hsign.symm.trans signReceipt_call)

theorem scheme_unforgeable :
    scheme.Unforgeable ()
      (signedMessages scheme (knownDigests digests) .strict () {(env, call)}) {signatureBytes} := by
  refine Ed25519.known_unforgeable ⟨receipt, ⟨(env, call), rfl, signReceipt_call⟩, ?_⟩
    signatureBytes_ne
  exact congrArg String.toUTF8 receipt_hash.symm

/-- The signed receipt is valid, as it is and dumped; with its hash and
    signature another amount is not. -/
theorem verify_signed_receipt :
    ReportsValid (verify scheme (knownDigests digests) .strict env.defaults (fun _ => "")
        (.receipt receipt) (.object (scheme.publicKey ())) ownTransaction none)
      ∧ ReportsValid (verify scheme (knownDigests digests) .strict env.defaults (fun _ => "")
        (.dict receipt.dump) (.object (scheme.publicKey ())) ownTransaction none)
      ∧ ReportsInvalid (verify scheme (knownDigests digests) .strict env.defaults (fun _ => "")
        (.receipt discounted) (.object (scheme.publicKey ())) ownTransaction none) := by
  obtain ⟨hsigned, hforeign⟩ := verify_signed scheme .strict (fun _ => "") Ed25519.known_correct
    digests_injective digests_ne_empty () {(env, call)} {signatureBytes} scheme_unforgeable
    env.defaults (.object (scheme.publicKey ())) .object ownTransaction
  refine ⟨(hsigned env call receipt signReceipt_call (by decide) _ (.inl rfl)).1
    ownTransaction_matches, (hsigned env call receipt signReceipt_call (by decide) _
      (.inr rfl)).1 ownTransaction_matches, hforeign _ ?_⟩
  rintro r' ⟨⟩
  constructor
  · intro data hdata
    cases (decodeText_encode signatureBytes).symm.trans hdata
    rfl
  · intro r hgenuine hsame
    rw [genuine_eq hgenuine] at hsame
    have hamount := amount_of_sameSigned_repriced hsame
    rw [receipt_amount] at hamount
    exact absurd hamount (by decide)

end Sample

end ReceiptVerifier

end MandateGateway
