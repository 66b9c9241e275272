import MandateGateway.Lib.Base64
import MandateGateway.Policy.CartIntegrity
import MandateGateway.Receipt.Record
import Mathlib.Data.List.TakeWhile

/-! # Signing receipts

    A receipt is built from the arguments, its hash is signed, and it is built
    again with the signature (`signReceipt_eq_ok_iff`).  A public key is given
    as an object, as bytes or as text; each form of a key is read as that key
    (`loadPublicKeyObj_form`). -/

namespace MandateGateway

open Clock

/-! ## The signature scheme -/

/-- An Ed25519 public key, by its raw bytes. -/
structure PublicKey where
  raw : List UInt8
  raw_length : raw.length = 32
deriving DecidableEq

/-- What checking a signature raises. -/
inductive VerifyFailure where
  | invalidSignature
  | other (text : String)
deriving DecidableEq

/-- The signature library: `sign` and `verify` of a key, either of which may
    raise. -/
structure Ed25519 where
  PrivateKey : Type
  publicKey : PrivateKey → PublicKey
  sign : PrivateKey → ByteArray → Except String (List UInt8)
  verify : PublicKey → List UInt8 → ByteArray → Except VerifyFailure Unit
  signature_length : ∀ {k m σ}, sign k m = .ok σ → σ.length = 64

/-- What a key signs verifies under its public key. -/
def Ed25519.Correct (ed : Ed25519) : Prop :=
  ∀ k m σ, ed.sign k m = .ok σ → ed.verify (ed.publicKey k) σ m = .ok ()

/-- No signature that can be obtained verifies under a key for a message that
    the key did not sign. -/
def Ed25519.Unforgeable (ed : Ed25519) (k : ed.PrivateKey) (signed : Set ByteArray)
    (obtainable : Set (List UInt8)) : Prop :=
  ∀ σ ∈ obtainable, ∀ m, ed.verify (ed.publicKey k) σ m = .ok () → m ∈ signed

/-- A scheme with one known signature; every other message has a signature of
    zeros. -/
def Ed25519.known (key : PublicKey) (message : ByteArray) (signature : List UInt8)
    (hlength : signature.length = 64) : Ed25519 where
  PrivateKey := Unit
  publicKey := fun _ => key
  sign := fun _ m =>
    .ok (if m.data.toList = message.data.toList then signature else List.replicate 64 0)
  verify := fun k σ m =>
    if k = key
        ∧ σ = (if m.data.toList = message.data.toList then signature else List.replicate 64 0) then
      .ok ()
    else .error .invalidSignature
  signature_length := by
    intro _ m σ h
    cases h
    by_cases hm : m.data.toList = message.data.toList
    · rw [if_pos hm, hlength]
    · rw [if_neg hm, List.length_replicate]

section
variable {key : PublicKey} {message : ByteArray} {signature : List UInt8}
  {hlength : signature.length = 64}

theorem Ed25519.known_correct : (Ed25519.known key message signature hlength).Correct := by
  intro _ m σ h
  cases h
  exact if_pos ⟨rfl, rfl⟩

theorem Ed25519.known_sign :
    (Ed25519.known key message signature hlength).sign () message = .ok signature :=
  congrArg Except.ok (if_pos rfl)

theorem Ed25519.known_unforgeable {signed : Set ByteArray} (hsigned : message ∈ signed)
    (hne : signature ≠ List.replicate 64 0) :
    (Ed25519.known key message signature hlength).Unforgeable () signed {signature} := by
  rintro σ rfl m h
  by_cases hm : m.data.toList = message.data.toList
  · rw [ByteArray.ext (Array.toList_inj.mp hm)]
    exact hsigned
  · -- the signature of another message is not the known one
    have hrefused : ¬ (key = key
        ∧ σ = if m.data.toList = message.data.toList then σ else List.replicate 64 0) := by
      rw [if_neg hm]
      exact fun h' => hne h'.2
    cases (if_neg hrefused).symm.trans h

end

/-! ## Texts of bytes -/

/-- `data.hex()`. -/
def hexText (data : List UInt8) : String :=
  String.ofList (data.flatMap fun b => [Nat.digitChar (b.toNat / 16), Nat.digitChar (b.toNat % 16)])

/-- `bytes.fromhex(text)`, of a text of hexadecimal digits. -/
def bytesOfHex : List Char → List UInt8
  | a :: b :: rest =>
      UInt8.ofNat (16 * (Json.hexValue a).getD 0 + (Json.hexValue b).getD 0) :: bytesOfHex rest
  | _ => []

/-- The escape of a character in the message of an encoding error. -/
def encodingEscape (c : Char) : String :=
  let n := c.toNat
  String.ofList <|
    if n < 0x100 then Char.ofNat 92 :: 'x' :: (Json.hex4 n).drop 2
    else if n < 0x10000 then Json.unitEscape n
    else Char.ofNat 92 :: 'U' :: (Json.hex4 (n / 0x10000) ++ Json.hex4 (n % 0x10000))

/-- What `text.encode("ascii")` raises, if it does. -/
def asciiRefusal (text : String) : Option String :=
  let ascii := fun c : Char => decide (c.toNat < 128)
  let start := (text.toList.takeWhile ascii).length
  match (text.toList.drop start).takeWhile (!ascii ·) with
  | [] => none
  | [c] => some (s!"'ascii' codec can't encode character '{encodingEscape c}' in position {start}: "
      ++ "ordinal not in range(128)")
  | _ :: cs => some (s!"'ascii' codec can't encode characters in position {start}-"
      ++ s!"{start + cs.length}: ordinal not in range(128)")

/-- `base64.b64decode(text.encode("ascii"))`. -/
def decodeText (text : String) : Except String (List UInt8) :=
  match asciiRefusal text with
  | some message => .error message
  | none => Base64.decode text

theorem decodeText_encode (data : List UInt8) : decodeText (Base64.encode data) = .ok data := by
  have hascii : ∀ c ∈ (Base64.encode data).toList, decide (c.toNat < 128) = true := by
    intro c hc
    rw [Base64.encode, String.toList_ofList] at hc
    exact decide_eq_true (Base64.encodeChars_ascii data c hc)
  have hrefusal : asciiRefusal (Base64.encode data) = none := by
    rw [asciiRefusal, List.takeWhile_eq_self_iff.mpr hascii, List.drop_length]
    rfl
  rw [decodeText, hrefusal]
  exact Base64.decode_encode data

/-! ## Public keys -/

/-- The ways to give a public key. -/
inductive KeyInput where
  | object (key : PublicKey)
  | bytes (data : List UInt8)
  | text (s : String)

def loadPublicKeyBytes (data : List UInt8) : Except String PublicKey :=
  if h : data.length = 32 then .ok ⟨data, h⟩
  else .error "Invalid Ed25519 public key bytes: An Ed25519 public key is 32 bytes long"

/-- `load_public_key_hex`, of a text of hexadecimal digits. -/
def loadPublicKeyHex (publicHex : String) : Except String PublicKey :=
  (loadPublicKeyBytes (bytesOfHex publicHex.toList)).mapError
    fun exc => s!"Invalid Ed25519 public key hex string: {exc}"

def loadPublicKeyBase64 (publicB64 : String) : Except String PublicKey :=
  ((decodeText publicB64).bind loadPublicKeyBytes).mapError
    fun exc => s!"Invalid Ed25519 public key base64 string: {exc}"

def loadPublicKeyObj : KeyInput → Except String PublicKey
  | .object key => .ok key
  | .bytes data => loadPublicKeyBytes data
  | .text s =>
      if s.length = 64 ∧ s.toList.all isHexDigit then loadPublicKeyHex s else loadPublicKeyBase64 s

/-- The forms in which the key manager gives out a public key. -/
inductive PublicKey.Form (key : PublicKey) : KeyInput → Prop
  | object : Form key (.object key)
  | bytes : Form key (.bytes key.raw)
  | hex : Form key (.text (hexText key.raw))
  | base64 : Form key (.text (Base64.encode key.raw))

theorem loadPublicKeyBytes_raw (key : PublicKey) : loadPublicKeyBytes key.raw = .ok key := by
  rw [loadPublicKeyBytes, dif_pos key.raw_length]

theorem isHexDigit_digitChar : ∀ d < 16, isHexDigit (Nat.digitChar d) = true := by
  decide

theorem hexText_digits (data : List UInt8) : (hexText data).toList.all isHexDigit = true := by
  rw [hexText, String.toList_ofList, List.all_flatMap, List.all_eq_true]
  intro b _
  have hb := b.toNat_lt
  simp only [List.all_cons, List.all_nil, Bool.and_true, Bool.and_eq_true]
  exact ⟨isHexDigit_digitChar _ (by omega), isHexDigit_digitChar _ (by omega)⟩

theorem length_hexText (data : List UInt8) : (hexText data).length = 2 * data.length := by
  rw [hexText, String.length_ofList]
  induction data with
  | nil => rfl
  | cons b data ih =>
      rw [List.flatMap_cons, List.length_append, ih]
      show 2 + 2 * data.length = 2 * (data.length + 1)
      omega

theorem bytesOfHex_hexText (data : List UInt8) : bytesOfHex (hexText data).toList = data := by
  rw [hexText, String.toList_ofList]
  induction data with
  | nil => rfl
  | cons b data ih =>
      have hb := b.toNat_lt
      rw [List.flatMap_cons]
      show UInt8.ofNat _ :: bytesOfHex (data.flatMap _) = _
      rw [ih, Json.hexValue_digitChar _ (by omega), Json.hexValue_digitChar _ (by omega)]
      refine congrArg (· :: data) (Base64.ofNat_eq ?_)
      show 16 * (b.toNat / 16) + b.toNat % 16 = b.toNat
      omega

/-- **Each form of a key is read as that key.** -/
theorem loadPublicKeyObj_form {key : PublicKey} {input : KeyInput} (h : key.Form input) :
    loadPublicKeyObj input = .ok key := by
  cases h with
  | object => rfl
  | bytes => exact loadPublicKeyBytes_raw key
  | hex =>
      have hlength : (hexText key.raw).length = 64 := by
        rw [length_hexText, key.raw_length]
      rw [loadPublicKeyObj, if_pos ⟨hlength, hexText_digits key.raw⟩, loadPublicKeyHex,
        bytesOfHex_hexText, loadPublicKeyBytes_raw]
      rfl
  | base64 =>
      have hlength : (Base64.encode key.raw).length ≠ 64 := by
        rw [Base64.encode, String.length_ofList, Base64.length_encodeChars, key.raw_length]
        decide
      rw [loadPublicKeyObj, if_neg (fun h => hlength h.1), loadPublicKeyBase64, decodeText_encode]
      show (loadPublicKeyBytes key.raw).mapError _ = _
      rw [loadPublicKeyBytes_raw]
      rfl

/-! ## Signing -/

/-- Why signing raises. -/
inductive SigningError where
  /-- the fields that the receipt's data contract refuses -/
  | validationError (fields : List String)
  | receiptSigningError (message : String)
deriving DecidableEq

/-- The arguments of `sign_receipt`. -/
structure SignCall where
  transactionId      : String
  mandateId          : String
  merchantId         : String
  policyVersion      : Int
  cartHash           : String
  amountPaise        : Int
  currency           : Currency
  decision           : PolicyDecision
  executionTool      : Option String
  executionReference : Option String
  auditHash          : Option String
  authorizedAt       : Option Datetime
  executedAt         : Option Datetime
  receiptId          : Option String

/-- What the running process supplies to signing. -/
structure SignEnv where
  now      : Datetime
  defaults : ReceiptDefaults

/-- The conversions that take nothing but an instance of the field's own type. -/
def FieldConversions.strict : FieldConversions where
  str := fun v => match v with | .json (.str s) => some s | _ => none
  int := fun v => match v with | .json (.num (.int i)) => some i | _ => none
  datetime := fun v => match v with | .datetime t => some t | _ => none
  currency := fun v => match v with | .currency c => some c | _ => none
  decision := fun v => match v with | .decision d => some d | _ => none
  str_str := fun _ => rfl
  int_int := fun _ => rfl
  datetime_datetime := fun _ => rfl
  currency_currency := fun _ => rfl
  decision_decision := fun _ => rfl

namespace SignCall

/-- The names of the keyword arguments, but for the receipt's identifier. -/
def keywordNames : List String := [
  "transaction_id", "mandate_id", "merchant_id", "policy_version", "cart_hash", "amount_paise",
  "currency", "decision", "execution_tool", "execution_reference", "audit_hash",
  "authorized_at", "executed_at", "created_at"]

theorem keywordNames_nodup : keywordNames.Nodup := by
  decide

/-- `kwargs`, without the receipt's identifier. -/
def baseFields (now : Datetime) (call : SignCall) : Fields where
  entries := [
    ("transaction_id", .json (.str call.transactionId)),
    ("mandate_id", .json (.str call.mandateId)),
    ("merchant_id", .json (.str call.merchantId)),
    ("policy_version", .json (.num (.int call.policyVersion))),
    ("cart_hash", .json (.str call.cartHash)),
    ("amount_paise", .json (.num (.int call.amountPaise))),
    ("currency", .currency call.currency),
    ("decision", .decision call.decision),
    ("execution_tool", ActionReceipt.textValue call.executionTool),
    ("execution_reference", ActionReceipt.textValue call.executionReference),
    ("audit_hash", ActionReceipt.textValue call.auditHash),
    ("authorized_at", .datetime (call.authorizedAt.getD now)),
    ("executed_at", ActionReceipt.timeValue call.executedAt),
    ("created_at", .datetime now)]
  nodupKeys := keywordNames_nodup

/-- `kwargs`. -/
def fields (now : Datetime) (call : SignCall) : Fields :=
  match call.receiptId with
  | none => call.baseFields now
  | some id => (call.baseFields now).set "receipt_id" (.json (.str id))

def described (env : SignEnv) (call : SignCall) : ActionReceipt where
  receiptVersion := receiptVersionText
  receiptId := call.receiptId.getD env.defaults.receiptId
  transactionId := call.transactionId
  mandateId := call.mandateId
  merchantId := call.merchantId
  policyVersion := call.policyVersion
  cartHash := call.cartHash
  amountPaise := call.amountPaise
  currency := call.currency
  decision := call.decision
  executionTool := call.executionTool
  executionReference := call.executionReference
  authorizedAt := call.authorizedAt.getD env.now
  executedAt := call.executedAt
  createdAt := env.now
  auditHash := call.auditHash
  canonicalPayloadHash := ""
  signature := none

end SignCall

def signReceipt (ed : Ed25519) (sha256 : String → String) (conv : FieldConversions)
    (env : SignEnv) (key : ed.PrivateKey) (call : SignCall) : Except SigningError ActionReceipt :=
  match ActionReceipt.fromFields conv env.defaults sha256 (call.fields env.now) with
  | .faulty fields => .error (.validationError fields)
  | .valid unsigned =>
      match ed.sign key unsigned.canonicalPayloadHash.toUTF8 with
      | .error exc =>
          .error (.receiptSigningError s!"Ed25519 signature generation failed: {exc}")
      | .ok signature =>
          match ActionReceipt.fromFields conv env.defaults sha256
            (unsigned.dump.set "signature" (.json (.str (Base64.encode signature)))) with
          | .faulty fields => .error (.validationError fields)
          | .valid receipt => .ok receipt

namespace ActionReceipt

def hashed (sha256 : String → String) (r : ActionReceipt) : ActionReceipt :=
  { r with canonicalPayloadHash := r.computeCanonicalHash sha256 }

theorem canonicalPayloadHash_hashed (sha256 : String → String) (r : ActionReceipt) :
    (r.hashed sha256).canonicalPayloadHash = r.computeCanonicalHash sha256 := rfl

def signed (sha256 : String → String) (signature : List UInt8) (r : ActionReceipt) :
    ActionReceipt :=
  { r with
    canonicalPayloadHash := r.computeCanonicalHash sha256
    signature := some (Base64.encode signature) }

/-- The data contract says nothing about the hash and the signature. -/
theorem WellFormed.signed {sha256 : String → String} {r : ActionReceipt} (h : r.WellFormed)
    (signature : List UInt8) : (r.signed sha256 signature).WellFormed :=
  ⟨h.transactionId_ne, h.mandateId_ne, h.merchantId_ne, h.policyVersion_pos,
    h.cartHash_length, h.amount_nonneg⟩

theorem canonicalPayloadHash_signed (sha256 : String → String) (signature : List UInt8)
    (r : ActionReceipt) :
    (r.signed sha256 signature).canonicalPayloadHash = r.computeCanonicalHash sha256 := rfl

/-- The fields that a dictionary gives are one receipt's. -/
theorem Gives.unique {conv : FieldConversions} {defaults : ReceiptDefaults} {d : Fields}
    {r r' : ActionReceipt} (h : Gives conv defaults d r) (h' : Gives conv defaults d r') :
    r = r' := by
  have hinj : ∀ {α : Type} {x : Option α} {a b : α}, x = some a → x = some b → a = b :=
    fun ha hb => Option.some.inj (ha.symm.trans hb)
  cases r
  cases r'
  simp only [ActionReceipt.mk.injEq]
  exact ⟨hinj h.receiptVersion h'.receiptVersion, hinj h.receiptId h'.receiptId,
    hinj h.transactionId h'.transactionId, hinj h.mandateId h'.mandateId,
    hinj h.merchantId h'.merchantId, hinj h.policyVersion h'.policyVersion,
    hinj h.cartHash h'.cartHash, hinj h.amountPaise h'.amountPaise, hinj h.currency h'.currency,
    hinj h.decision h'.decision, hinj h.executionTool h'.executionTool,
    hinj h.executionReference h'.executionReference, hinj h.authorizedAt h'.authorizedAt,
    hinj h.executedAt h'.executedAt, hinj h.createdAt h'.createdAt, hinj h.auditHash h'.auditHash,
    hinj h.canonicalPayloadHash h'.canonicalPayloadHash, hinj h.signature h'.signature⟩

end ActionReceipt

section
variable {ed : Ed25519} {sha256 : String → String} {conv : FieldConversions} {env : SignEnv}
  {key : ed.PrivateKey} {call : SignCall} {r : ActionReceipt}

open ActionReceipt

/-- The lookup of a keyword, with or without an identifier of the receipt. -/
theorem SignCall.get_fields {name : String} (h : name ≠ "receipt_id") :
    (call.fields env.now).get name = (call.baseFields env.now).get name := by
  rw [SignCall.fields]
  cases call.receiptId with
  | none => rfl
  | some id => exact OrderedMap.get_set_of_ne _ h _

theorem SignCall.given_receiptId :
    (call.fields env.now).given "receipt_id" conv.str (some env.defaults.receiptId)
      = some (call.described env).receiptId := by
  rw [SignCall.fields, SignCall.described]
  cases call.receiptId with
  | none => exact given_of_missing rfl
  | some id => exact given_of_get (OrderedMap.get_set_self _ _ _) (conv.str_str id)

/-- **The keyword arguments give the receipt that they describe.** -/
theorem SignCall.gives_fields :
    Gives conv env.defaults (call.fields env.now) (call.described env) where
  receiptVersion := given_of_missing (SignCall.get_fields (by decide))
  receiptId := SignCall.given_receiptId
  transactionId := given_of_get (SignCall.get_fields (by decide)) (conv.str_str _)
  mandateId := given_of_get (SignCall.get_fields (by decide)) (conv.str_str _)
  merchantId := given_of_get (SignCall.get_fields (by decide)) (conv.str_str _)
  policyVersion := given_of_get (SignCall.get_fields (by decide)) (conv.int_int _)
  cartHash := given_of_get (SignCall.get_fields (by decide)) (conv.str_str _)
  amountPaise := given_of_get (SignCall.get_fields (by decide)) (conv.int_int _)
  currency := given_of_get (SignCall.get_fields (by decide)) (conv.currency_currency _)
  decision := given_of_get (SignCall.get_fields (by decide)) (conv.decision_decision _)
  executionTool := given_of_get (SignCall.get_fields (by decide)) (optionalStr_textValue _)
  executionReference := given_of_get (SignCall.get_fields (by decide)) (optionalStr_textValue _)
  authorizedAt := given_of_get (SignCall.get_fields (by decide)) (conv.datetime_datetime _)
  executedAt := given_of_get (SignCall.get_fields (by decide)) (optionalDatetime_timeValue _)
  createdAt := given_of_get (SignCall.get_fields (by decide)) (conv.datetime_datetime _)
  auditHash := given_of_get (SignCall.get_fields (by decide)) (optionalStr_textValue _)
  canonicalPayloadHash := given_of_missing (SignCall.get_fields (by decide))
  signature := given_of_missing (SignCall.get_fields (by decide))

theorem fromFields_fields_iff {u : ActionReceipt} :
    fromFields conv env.defaults sha256 (call.fields env.now) = .valid u
      ↔ (call.described env).WellFormed ∧ u = (call.described env).hashed sha256 := by
  rw [fromFields_eq_valid_iff]
  constructor
  · rintro ⟨v, hgives, hwell, rfl⟩
    obtain rfl := hgives.unique SignCall.gives_fields
    exact ⟨hwell, if_pos rfl⟩
  · rintro ⟨hwell, rfl⟩
    exact ⟨_, SignCall.gives_fields, hwell, if_pos rfl⟩

theorem fromFields_signature (hdigest : ∀ t, sha256 t ≠ "") {u : ActionReceipt}
    {defaults : ReceiptDefaults} (hwell : u.WellFormed) (σ : List UInt8) :
    fromFields conv defaults sha256
        ((u.hashed sha256).dump.set "signature" (.json (.str (Base64.encode σ))))
      = .valid (u.signed sha256 σ) := by
  rw [dump_set_signature]
  exact fromFields_dump (hwell.signed σ) (hdigest _)

/-- **What is signed is the receipt that the arguments describe**, with its
    hash and the key's signature of that hash. -/
theorem signReceipt_eq_ok_iff (hdigest : ∀ t, sha256 t ≠ "") :
    signReceipt ed sha256 conv env key call = .ok r
      ↔ (call.described env).WellFormed ∧ ∃ σ,
        ed.sign key ((call.described env).hashed sha256).canonicalPayloadHash.toUTF8 = .ok σ
          ∧ r = (call.described env).signed sha256 σ := by
  rw [signReceipt]
  cases hfields : fromFields conv env.defaults sha256 (call.fields env.now) with
  | faulty fields =>
      constructor
      · intro h
        cases h
      · rintro ⟨hwell, -⟩
        rw [fromFields_fields_iff.mpr ⟨hwell, rfl⟩] at hfields
        cases hfields
  | valid unsigned =>
      obtain ⟨hwell, hunsigned⟩ := fromFields_fields_iff.mp hfields
      rw [← hunsigned]
      dsimp only
      cases ed.sign key unsigned.canonicalPayloadHash.toUTF8 with
      | error exc =>
          constructor
          · intro h
            cases h
          · rintro ⟨-, σ, hσ, -⟩
            cases hσ
      | ok σ =>
          dsimp only
          rw [hunsigned, fromFields_signature hdigest hwell σ]
          constructor
          · intro h
            exact ⟨hwell, σ, rfl, (Except.ok.inj h).symm⟩
          · rintro ⟨-, σ', hσ, rfl⟩
            cases hσ
            rfl

end

end MandateGateway
