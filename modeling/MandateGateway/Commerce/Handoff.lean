import MandateGateway.Commerce.HandoffUrl
import MandateGateway.Commerce.OrderBinding
import MandateGateway.Intent.ValueText
import Mathlib.Data.Set.Finite.Basic

/-! # Signed handoff packages

    A package carries what a buyer is sent to a shop with, and a keyed digest of some of
    its fields, joined by bars.  The merchant, the name of the product and the currency
    are not among these: a package that was created can be presented with others.

    * `verify_created`: every package that is created is verified;
    * `signed_of_verified`: what a digest binds, where no bar is in the fields;
    * `bound_iff`: the packages that are verified are those that were created exactly
      when none was. -/

namespace MandateGateway

open WideText (ofString)
open BindingFields (bar)
open IntentNormalizer (Encodable)

structure PriceEvidence where
  amountPaise : Int
  currency    : WideText

structure MerchantIdentity where
  merchantId : WideText

structure VerifiedProduct where
  productId : WideText
  name      : WideText
  price     : PriceEvidence
  merchant  : MerchantIdentity
  sourceUrl : WideText

/-- Why no package is created. -/
inductive HandoffError where
  | connector (err : CommerceConnectorError)
  | limit (err : IntentError)
  | unicodeEncodeError

structure SignedTexts where
  requestId   : WideText
  buyerId     : WideText
  productId   : WideText
  amountPaise : WideText
  url         : WideText
  createdAt   : WideText

namespace SignedTexts

def parts (t : SignedTexts) : List WideText :=
  [t.requestId, t.buyerId, t.productId, t.amountPaise, t.url, t.createdAt]

def raw (t : SignedTexts) : WideText := [bar].intercalate t.parts

theorem parts_injective : Function.Injective parts := by
  rintro ⟨⟩ ⟨⟩ h
  simpa only [parts, List.cons.injEq, and_true, SignedTexts.mk.injEq] using h

end SignedTexts

structure SecureRedirectHandoffManager where
  secretKey : String

/-- The arguments of a creation, and the time of the call. -/
structure HandoffRequest where
  requestId : WideText
  buyerId   : WideText
  product   : VerifiedProduct
  nowIso    : WideText

namespace SecureRedirectHandoffManager

section
variable (hmac : HmacSha256) (splitter : Url.Splitter)

/-- The digest of a text, unless half a surrogate pair is in it. -/
def signature (m : SecureRedirectHandoffManager) (rawPayload : WideText) : Option String :=
  (WideText.scalars? rawPayload).map fun text => hmac.hexdigest m.secretKey.toUTF8 text.toUTF8

def package (q : HandoffRequest) (validatedUrl : WideText) (sig : String) : RawDict :=
  [(RawDict.key "request_id", .str q.requestId), (RawDict.key "buyer_id", .str q.buyerId),
    (RawDict.key "merchant_id", .str q.product.merchant.merchantId),
    (RawDict.key "product_id", .str q.product.productId),
    (RawDict.key "product_name", .str q.product.name),
    (RawDict.key "amount_paise", .int q.product.price.amountPaise),
    (RawDict.key "currency", .str q.product.price.currency),
    (RawDict.key "handoff_url", .str validatedUrl), (RawDict.key "created_at", .str q.nowIso),
    (RawDict.key "signature", .str (ofString sig)),
    (RawDict.key "capability", .str (ofString "CHECKOUT_HANDOFF")),
    (RawDict.key "disclaimer", .str (ofString
      "Redirecting to official merchant website. Direct payment API handoff package."))]

def textsOf (q : HandoffRequest) (amount url : WideText) : SignedTexts :=
  ⟨q.requestId, q.buyerId, q.product.productId, amount, url, q.nowIso⟩

def createHandoffPackage (m : SecureRedirectHandoffManager) (q : HandoffRequest) :
    Except HandoffError RawDict := do
  let validatedUrl ← (GenericWebCheckoutConnector.validateHandoffUrl splitter
    q.product.sourceUrl).mapError .connector
  let amount ← (intText q.product.price.amountPaise).mapError .limit
  match signature hmac m (textsOf q (ofString amount) validatedUrl).raw with
  | none => .error .unicodeEncodeError
  | some sig => pure (package q validatedUrl sig)

/-- The URL of a package, if it is a text that is accepted. -/
def validatedUrl : RawValue → Option WideText
  | .str url => (GenericWebCheckoutConnector.validateHandoffUrl splitter url).toOption
  | _ => none

/-- `hmac.compare_digest`, where it returns. -/
def compareDigest (sig : RawValue) (expectedSig : String) : Option Bool :=
  match sig with
  | .str s => (WideText.scalars? s).bind fun text =>
      (WebhookEngine.compareDigest text expectedSig).toOption
  | _ => none

/-- A field, formatted for the signed text. -/
def printed (room : Nat) (package : RawDict) (name : String) : Option WideText :=
  (package.find name).bind fun value => (value.toText room).toOption

/-- What `raw_payload` is made of. -/
def signedTexts (room : Nat) (package : RawDict) : Option SignedTexts := do
  let requestId ← printed room package "request_id"
  let buyerId ← printed room package "buyer_id"
  let productId ← printed room package "product_id"
  let amountPaise ← printed room package "amount_paise"
  let url ← (package.find "handoff_url").bind (validatedUrl splitter)
  let createdAt ← printed room package "created_at"
  pure ⟨requestId, buyerId, productId, amountPaise, url, createdAt⟩

/-- `verify_handoff_package`: whatever is raised on the way, the answer is no. -/
def verifyHandoffPackage (room : Nat) (m : SecureRedirectHandoffManager) (package : RawDict) :
    Bool :=
  let verified : Option Bool := do
    let texts ← signedTexts splitter room package
    let expectedSig ← signature hmac m texts.raw
    let sig ← package.find "signature"
    compareDigest sig expectedSig
  verified.getD false

end

/-! ## What is verified -/

/-- The field of a package, as it stands in the signed text. -/
def Prints (room : Nat) (package : RawDict) (name : String) (text : WideText) : Prop :=
  ∃ value, package.find name = some value ∧ value.toText room = .ok text

structure HasTexts (splitter : Url.Splitter) (room : Nat) (package : RawDict) (t : SignedTexts) :
    Prop where
  requestId   : Prints room package "request_id" t.requestId
  buyerId     : Prints room package "buyer_id" t.buyerId
  productId   : Prints room package "product_id" t.productId
  amountPaise : Prints room package "amount_paise" t.amountPaise
  url         : ∃ url, package.find "handoff_url" = some (.str url)
    ∧ GenericWebCheckoutConnector.validateHandoffUrl splitter url = .ok t.url
  createdAt   : Prints room package "created_at" t.createdAt

section
variable {hmac : HmacSha256} {splitter : Url.Splitter} {room : Nat}
  {m : SecureRedirectHandoffManager}

theorem signature_eq_some_iff {raw : WideText} {digest : String} :
    signature hmac m raw = some digest
      ↔ ∃ text, raw = ofString text ∧ hmac.hexdigest m.secretKey.toUTF8 text.toUTF8 = digest := by
  rw [signature, Option.map_eq_some_iff]
  exact exists_congr fun text => and_congr_left fun _ => WideText.scalars?_eq_some_iff

theorem compareDigest_eq_some_true_iff {sig : RawValue} {key message : ByteArray} :
    compareDigest sig (hmac.hexdigest key message) = some true
      ↔ sig = .str (ofString (hmac.hexdigest key message)) := by
  have hascii := hmac.isAscii_hexdigest key message
  cases sig with
  | str s =>
      rw [compareDigest, Option.bind_eq_some_iff, RawValue.str.injEq]
      constructor
      · rintro ⟨text, htext, hsame⟩
        rw [Exceptions.toOption_eq_some_iff,
          WebhookEngine.compareDigest_eq_ok_true_iff hascii] at hsame
        rw [WideText.scalars?_eq_some_iff.mp htext, hsame]
      · intro h
        refine ⟨_, WideText.scalars?_eq_some_iff.mpr h, ?_⟩
        rw [Exceptions.toOption_eq_some_iff, WebhookEngine.compareDigest_eq_ok_true_iff hascii]
  | none | bool _ | int _ | float _ | list _ | dict _ =>
      constructor
      · intro h
        cases h
      · intro h
        cases h

theorem validatedUrl_eq_some_iff {value : RawValue} {out : WideText} :
    validatedUrl splitter value = some out
      ↔ ∃ url, value = .str url
        ∧ GenericWebCheckoutConnector.validateHandoffUrl splitter url = .ok out := by
  cases value with
  | str url =>
      rw [validatedUrl, Exceptions.toOption_eq_some_iff]
      constructor
      · intro h
        exact ⟨url, rfl, h⟩
      · rintro ⟨url', heq, h⟩
        obtain rfl := RawValue.str.inj heq
        exact h
  | none | bool _ | int _ | float _ | list _ | dict _ =>
      constructor
      · intro h
        cases h
      · rintro ⟨url, h, -⟩
        cases h

theorem printed_eq_some_iff {package : RawDict} {name : String} {text : WideText} :
    printed room package name = some text ↔ Prints room package name text := by
  rw [printed, Option.bind_eq_some_iff]
  exact exists_congr fun value => and_congr_right fun _ => Exceptions.toOption_eq_some_iff

theorem signedTexts_eq_some_iff {package : RawDict} {t : SignedTexts} :
    signedTexts splitter room package = some t ↔ HasTexts splitter room package t := by
  simp only [signedTexts, bind, Option.bind_eq_some_iff, printed_eq_some_iff,
    validatedUrl_eq_some_iff]
  constructor
  · rintro ⟨requestId, hrequest, buyerId, hbuyer, productId, hproduct, amount, hamount, url,
      ⟨value, hvalue, text, rfl, hvalid⟩, createdAt, hcreated, h⟩
    obtain rfl := Option.some.inj h
    exact ⟨hrequest, hbuyer, hproduct, hamount, ⟨text, hvalue, hvalid⟩, hcreated⟩
  · rintro ⟨hrequest, hbuyer, hproduct, hamount, ⟨text, hvalue, hvalid⟩, hcreated⟩
    exact ⟨_, hrequest, _, hbuyer, _, hproduct, _, hamount, _, ⟨_, hvalue, text, rfl, hvalid⟩, _,
      hcreated, rfl⟩

/-- **A package is verified** when its signature is the digest of its texts. -/
theorem verifyHandoffPackage_iff {package : RawDict} :
    verifyHandoffPackage hmac splitter room m package = true
      ↔ ∃ t digest, HasTexts splitter room package t ∧ signature hmac m t.raw = some digest
        ∧ package.find "signature" = some (.str (ofString digest)) := by
  have hgetD : ∀ x : Option Bool, x.getD false = true ↔ x = some true := by
    intro x
    cases x with
    | none => exact iff_of_false Bool.false_ne_true fun h => by cases h
    | some b => exact ⟨fun h => congrArg some h, fun h => Option.some.inj h⟩
  rw [verifyHandoffPackage, hgetD]
  simp only [bind, Option.bind_eq_some_iff, signedTexts_eq_some_iff]
  refine exists_congr fun t => ⟨?_, ?_⟩
  · rintro ⟨htexts, digest, hdigest, sig, hsig, hsame⟩
    obtain ⟨text, -, rfl⟩ := signature_eq_some_iff.mp hdigest
    obtain rfl := compareDigest_eq_some_true_iff.mp hsame
    exact ⟨_, htexts, hdigest, hsig⟩
  · rintro ⟨digest, htexts, hdigest, hsig⟩
    refine ⟨htexts, digest, hdigest, _, hsig, ?_⟩
    obtain ⟨text, -, rfl⟩ := signature_eq_some_iff.mp hdigest
    exact compareDigest_eq_some_true_iff.mpr rfl

/-! ## What is created -/

def signedOf (q : HandoffRequest) (url : WideText) : SignedTexts :=
  textsOf q (ofString (toString q.product.price.amountPaise)) url

/-- The package is created for the request, with this URL and this digest. -/
structure Creates (hmac : HmacSha256) (splitter : Url.Splitter) (m : SecureRedirectHandoffManager)
    (q : HandoffRequest) (url : WideText) (digest : String) (p : RawDict) : Prop where
  valid   : GenericWebCheckoutConnector.validateHandoffUrl splitter q.product.sourceUrl = .ok url
  short   : FewDigits q.product.price.amountPaise
  signed  : signature hmac m (signedOf q url).raw = some digest
  package : package q url digest = p

theorem createHandoffPackage_eq_ok_iff {q : HandoffRequest} {p : RawDict} :
    createHandoffPackage hmac splitter m q = .ok p
      ↔ ∃ url digest, Creates hmac splitter m q url digest p := by
  rw [createHandoffPackage, Exceptions.seq_eq_ok_iff]
  constructor
  · rintro ⟨url, hurl, h⟩
    obtain ⟨amount, hamount, h⟩ := Exceptions.seq_eq_ok_iff.mp h
    have hvalid := Exceptions.mapError_eq_ok_iff.mp hurl
    have htext := Exceptions.mapError_eq_ok_iff.mp hamount
    rw [intText] at htext
    by_cases hshort : FewDigits q.product.price.amountPaise
    · rw [if_pos hshort] at htext
      obtain rfl := Except.ok.inj htext
      cases hsigned : signature hmac m (signedOf q url).raw with
      | none =>
          rw [signedOf] at hsigned
          rw [hsigned] at h
          cases h
      | some digest =>
          refine ⟨url, digest, hvalid, hshort, hsigned, ?_⟩
          rw [signedOf] at hsigned
          rw [hsigned] at h
          exact Except.ok.inj h
    · rw [if_neg hshort] at htext
      cases htext
  · rintro ⟨url, digest, hvalid, hshort, hsigned, rfl⟩
    refine ⟨url, Exceptions.mapError_eq_ok_iff.mpr hvalid, Exceptions.seq_eq_ok_iff.mpr
      ⟨_, Exceptions.mapError_eq_ok_iff.mpr (if_pos hshort), ?_⟩⟩
    rw [signedOf] at hsigned
    rw [hsigned]
    rfl

theorem Creates.hasTexts {q : HandoffRequest} {url : WideText} {digest : String} {p : RawDict}
    (h : Creates hmac splitter m q url digest p) (room : Nat) :
    HasTexts splitter room p (signedOf q url) := by
  obtain ⟨hvalid, hshort, -, rfl⟩ := h
  refine ⟨⟨_, rfl, rfl⟩, ⟨_, rfl, rfl⟩, ⟨_, rfl, rfl⟩, ⟨_, rfl, ?_⟩, ⟨url, rfl,
    GenericWebCheckoutConnector.validateHandoffUrl_returned hvalid⟩, ⟨_, rfl, rfl⟩⟩
  show (intText q.product.price.amountPaise).map ofString = _
  rw [intText, if_pos hshort]
  rfl

theorem Creates.find_signature {q : HandoffRequest} {url : WideText} {digest : String}
    {p : RawDict} (h : Creates hmac splitter m q url digest p) :
    p.find "signature" = some (.str (ofString digest)) := by
  obtain ⟨-, -, -, rfl⟩ := h
  rfl

/-- **Every package that is created is verified.** -/
theorem verify_created {q : HandoffRequest} {p : RawDict}
    (h : createHandoffPackage hmac splitter m q = .ok p) :
    verifyHandoffPackage hmac splitter room m p = true := by
  obtain ⟨url, digest, hcreates⟩ := createHandoffPackage_eq_ok_iff.mp h
  exact verifyHandoffPackage_iff.mpr
    ⟨signedOf q url, digest, hcreates.hasTexts room, hcreates.signed, hcreates.find_signature⟩

/-! ## What a signature binds -/

/-- The digest of these texts is that of no other text. -/
def Unshared (hmac : HmacSha256) (m : SecureRedirectHandoffManager) (t : SignedTexts) : Prop :=
  ∀ raw, signature hmac m raw = signature hmac m t.raw → raw = t.raw

/-- **A verified package with the signature of a created one has its signed texts**, where
    its digest is unshared and no bar is in them. -/
theorem signed_of_verified {q : HandoffRequest} {url : WideText} {digest : String}
    {created p : RawDict} (hcreates : Creates hmac splitter m q url digest created)
    (hunshared : Unshared hmac m (signedOf q url))
    (hfree : ∀ part ∈ (signedOf q url).parts, bar ∉ part)
    (hsignature : p.find "signature" = created.find "signature")
    (hverified : verifyHandoffPackage hmac splitter room m p = true) :
    HasTexts splitter room p (signedOf q url) := by
  obtain ⟨t, digest', htexts, hsigned, hfound⟩ := verifyHandoffPackage_iff.mp hverified
  rw [hsignature, hcreates.find_signature] at hfound
  have hdigest : digest = digest' :=
    WideText.ofString_injective (RawValue.str.inj (Option.some.inj hfound))
  have hraw : t.raw = (signedOf q url).raw := by
    refine hunshared t.raw ?_
    rw [hsigned, hcreates.signed, hdigest]
  have hparts : (signedOf q url).parts = t.parts :=
    Separated.intercalate_inj hfree rfl hraw.symm
  have hsame : signedOf q url = t := SignedTexts.parts_injective hparts
  rw [hsame]
  exact htexts

/-- The fields of a package that say what is bought, and where. -/
def carried : List String :=
  ["request_id", "buyer_id", "merchant_id", "product_id", "product_name", "amount_paise",
    "currency", "handoff_url", "created_at"]

/-- The fields that the first package carries are those of the second. -/
def Agrees (package created : RawDict) : Prop :=
  ∀ name ∈ carried, ∀ value, package.find name = some value → created.find name = some value

/-- The packages that are created for these requests. -/
def created (hmac : HmacSha256) (splitter : Url.Splitter) (m : SecureRedirectHandoffManager)
    (requests : List HandoffRequest) : List RawDict :=
  requests.filterMap fun q => (createHandoffPackage hmac splitter m q).toOption

/-- What is created is verified, and what is verified, with a signature that was issued,
    agrees with a package that was created. -/
structure Bound (hmac : HmacSha256) (splitter : Url.Splitter) (room : Nat)
    (m : SecureRedirectHandoffManager) (requests : List HandoffRequest) : Prop where
  verifies : ∀ p ∈ created hmac splitter m requests,
    verifyHandoffPackage hmac splitter room m p = true
  agrees   : ∀ package, (∃ p ∈ created hmac splitter m requests,
      package.find "signature" = p.find "signature") →
    verifyHandoffPackage hmac splitter room m package = true →
    ∃ p ∈ created hmac splitter m requests, Agrees package p

theorem mem_created_iff {requests : List HandoffRequest} {p : RawDict} :
    p ∈ created hmac splitter m requests
      ↔ ∃ q ∈ requests, createHandoffPackage hmac splitter m q = .ok p := by
  rw [created, List.mem_filterMap]
  exact exists_congr fun q => and_congr_right fun _ => Exceptions.toOption_eq_some_iff

/-! ## The name of the product -/

/-- The package with another name of the product. -/
def renamed (package : RawDict) (name : WideText) : RawDict :=
  OrderedMap.setEntries (RawDict.key "product_name") (.str name) package

theorem find_renamed (package : RawDict) (name : WideText) :
    (renamed package name).find "product_name" = some (.str name) :=
  OrderedMap.lookupEntries_setEntries_self _ _ _

theorem find_renamed_of_ne {package : RawDict} {name : WideText} {field : String}
    (h : field ≠ "product_name") : (renamed package name).find field = package.find field := by
  refine OrderedMap.lookupEntries_setEntries_of_ne ?_ _ _
  intro hkey
  exact h (WideText.ofString_injective (RawKey.str.inj hkey))

theorem Prints.renamed {package : RawDict} {name text : WideText} {field : String}
    (hfield : field ≠ "product_name") (h : Prints room package field text) :
    Prints room (renamed package name) field text := by
  obtain ⟨value, hvalue, htext⟩ := h
  exact ⟨value, (find_renamed_of_ne hfield).trans hvalue, htext⟩

/-- **The name is not signed.** -/
theorem verify_renamed {package : RawDict} {name : WideText}
    (h : verifyHandoffPackage hmac splitter room m package = true) :
    verifyHandoffPackage hmac splitter room m (renamed package name) = true := by
  obtain ⟨t, digest, htexts, hsigned, hfound⟩ := verifyHandoffPackage_iff.mp h
  refine verifyHandoffPackage_iff.mpr ⟨t, digest, ?_, hsigned, ?_⟩
  · obtain ⟨url, hurl, hvalid⟩ := htexts.url
    exact ⟨htexts.requestId.renamed (by decide), htexts.buyerId.renamed (by decide),
      htexts.productId.renamed (by decide), htexts.amountPaise.renamed (by decide),
      ⟨url, (find_renamed_of_ne (by decide)).trans hurl, hvalid⟩,
      htexts.createdAt.renamed (by decide)⟩
  · exact (find_renamed_of_ne (by decide)).trans hfound

theorem exists_unused_name (packages : List RawDict) :
    ∃ name : WideText, ∀ p ∈ packages, p.find "product_name" ≠ some (.str name) := by
  have hinjective : Function.Injective fun name : WideText => some (RawValue.str name) :=
    fun _ _ h => RawValue.str.inj (Option.some.inj h)
  have hnonempty : Nonempty CodePoint := ⟨.char 'x'⟩
  obtain ⟨_, ⟨name, rfl⟩, hname⟩ :=
    (Set.infinite_range_of_injective hinjective).exists_notMem_finite
      (packages.map fun p => p.find "product_name").finite_toSet
  exact ⟨name, fun p hp hfound => hname (List.mem_map.mpr ⟨p, hp, hfound⟩)⟩

/-- **What is verified is what was created** exactly when nothing was: a package that was
    created is verified under any other name of its product. -/
theorem bound_iff (hmac : HmacSha256) (splitter : Url.Splitter) (room : Nat)
    (m : SecureRedirectHandoffManager) (requests : List HandoffRequest) :
    Bound hmac splitter room m requests
      ↔ ∀ q ∈ requests, ∀ p, createHandoffPackage hmac splitter m q ≠ .ok p := by
  constructor
  · intro h q hq p hp
    have hmem : p ∈ created hmac splitter m requests := mem_created_iff.mpr ⟨q, hq, hp⟩
    obtain ⟨name, hname⟩ := exists_unused_name (created hmac splitter m requests)
    obtain ⟨p', hp', hagrees⟩ := h.agrees (renamed p name)
      ⟨p, hmem, find_renamed_of_ne (by decide)⟩ (verify_renamed (h.verifies p hmem))
    exact hname p' hp' (hagrees "product_name" (by decide) _ (find_renamed p name))
  · intro h
    have hnone : ∀ p, p ∉ created hmac splitter m requests := by
      intro p hp
      obtain ⟨q, hq, hcreated⟩ := mem_created_iff.mp hp
      exact h q hq p hcreated
    exact ⟨fun p hp => absurd hp (hnone p), fun package hissued _ =>
      absurd hissued.choose_spec.1 (hnone _)⟩

end

end SecureRedirectHandoffManager

namespace SampleHandoff

open SecureRedirectHandoffManager

def manager : SecureRedirectHandoffManager := ⟨"handoff_secret_m24_sec"⟩

def tea : HandoffRequest where
  requestId := ofString "req_1"
  buyerId := ofString "buyer_1"
  product :=
    { productId := ofString "prod_1"
      name := ofString "Tea"
      price := ⟨14000, ofString "INR"⟩
      merchant := ⟨ofString "mer_1"⟩
      sourceUrl := ofString "https://shop.in/tea" }
  nowIso := ofString "2026-09-01T10:00:00+00:00"

def signedText : String :=
  "req_1|buyer_1|prod_1|14000|https://shop.in/tea|2026-09-01T10:00:00+00:00"

def digest : String := "957981a6bd86899ba94ebc7142a28b8856e89e42640314d2a7b7ac946e3a51b9"

def otherDigest : String := "0000000000000000000000000000000000000000000000000000000000000000"

theorem digest_digits :
    digest.toList.length = 64 ∧ ∀ c ∈ digest.toList, isLowerHex c = true :=
  digits_of_all (by decide) (by decide)

theorem otherDigest_digits :
    otherDigest.toList.length = 64 ∧ ∀ c ∈ otherDigest.toList, isLowerHex c = true :=
  digits_of_all (by decide) (by decide)

def teaHmac : HmacSha256 :=
  .telling signedText.toUTF8 digest otherDigest digest_digits otherDigest_digits

def teaPackage : RawDict := package tea (ofString "https://shop.in/tea") digest

theorem tea_creates : Creates teaHmac splitter manager tea (ofString "https://shop.in/tea") digest
    teaPackage := by
  refine ⟨?_, fewDigits_of_lt (by decide), ?_, rfl⟩
  · decide +kernel
  · exact signature_eq_some_iff.mpr
      ⟨signedText, by decide +kernel, HmacSha256.hexdigest_telling _⟩

theorem tea_created : createHandoffPackage teaHmac splitter manager tea = .ok teaPackage :=
  createHandoffPackage_eq_ok_iff.mpr ⟨_, _, tea_creates⟩

theorem tea_unshared :
    Unshared teaHmac manager (signedOf tea (ofString "https://shop.in/tea")) := by
  intro raw hraw
  rw [tea_creates.signed] at hraw
  obtain ⟨text, rfl, hdigest⟩ := signature_eq_some_iff.mp hraw
  by_cases hsame : text.toUTF8 = signedText.toUTF8
  · obtain rfl : text = signedText := String.toByteArray_inj.mp hsame
    decide +kernel
  · have hother : otherDigest = digest := (if_neg hsame).symm.trans hdigest
    exact absurd hother (by decide)

end SampleHandoff

open SampleHandoff SecureRedirectHandoffManager in
theorem tea_signed :
    HasTexts splitter 900 teaPackage (signedOf tea (ofString "https://shop.in/tea")) := by
  refine signed_of_verified tea_creates tea_unshared ?_ rfl (verify_created tea_created)
  decide +kernel

open SampleHandoff SecureRedirectHandoffManager in
theorem tea_renamed_verified : ¬ Bound teaHmac splitter 900 manager [tea] := by
  intro h
  have hmem : teaPackage ∈ created teaHmac splitter manager [tea] :=
    mem_created_iff.mpr ⟨tea, List.mem_singleton_self tea, tea_created⟩
  obtain ⟨p, hp, hagrees⟩ := h.agrees (renamed teaPackage (ofString "Gold"))
    ⟨teaPackage, hmem, find_renamed_of_ne (by decide)⟩ (verify_renamed (verify_created tea_created))
  obtain ⟨q, hq, hcreated⟩ := mem_created_iff.mp hp
  obtain rfl := List.mem_singleton.mp hq
  obtain rfl := Except.ok.inj (tea_created.symm.trans hcreated)
  have hname := hagrees "product_name" (by decide) _ (find_renamed teaPackage (ofString "Gold"))
  have htea : teaPackage.find "product_name" = some (.str (ofString "Tea")) := rfl
  rw [htea] at hname
  have hsame := WideText.ofString_injective (RawValue.str.inj (Option.some.inj hname))
  exact absurd hsame (by decide)

end MandateGateway
