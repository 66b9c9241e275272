import MandateGateway.Hmac
import MandateGateway.Intent.Items
import MandateGateway.Lib.Separated

/-! # The binding of an order

    Ten fields of a purchase are joined by a bar, and the keyed digest of the
    text binds them.  A text without bars in its eight texts can be read back, so
    its digest has these fields alone; where there is a bar, it can also be read
    as the end of a field, and other fields have the same digest
    (`BindingFields.exists_other`).

    * `binds_iff`: which fields are bound by their digest. -/

namespace MandateGateway

open WideText (ofString)
open IntentNormalizer (Encodable)

/-- The arguments of `compute_binding_hash`. -/
structure BindingFields where
  purchaseRequestId : WideText
  merchantId        : WideText
  buyerId           : WideText
  productId         : WideText
  quantity          : Int
  amountPaise       : Int
  currency          : WideText
  merchantOrderId   : WideText
  paymentReference  : WideText
  planHash          : WideText

/-- Why no digest is computed. -/
inductive BindingHashError where
  | valueError
  | unicodeEncodeError
deriving DecidableEq

/-- The built-in conversions of the values of a payload, where they are neither
    texts nor integers; a conversion that raises gives nothing. -/
structure PayloadConversions where
  str : RawValue → Option WideText
  int : RawValue → Option Int

structure CommerceOrderBinder where
  secretKey : String

namespace BindingFields

def bar : CodePoint := .char '|'

/-- An integer in the text. -/
def intPart (i : Int) : Except BindingHashError WideText :=
  if FewDigits i then .ok (ofString (toString i)) else .error .valueError

def rawPayload (f : BindingFields) : Except BindingHashError WideText := do
  let quantity ← intPart f.quantity
  let amountPaise ← intPart f.amountPaise
  pure (f.purchaseRequestId ++ [bar] ++ f.merchantId ++ [bar] ++ f.buyerId ++ [bar]
    ++ f.productId ++ [bar] ++ quantity ++ [bar] ++ amountPaise ++ [bar] ++ f.currency ++ [bar]
    ++ f.merchantOrderId ++ [bar] ++ f.paymentReference ++ [bar] ++ f.planHash)

end BindingFields

namespace CommerceOrderBinder

def computeBindingHash (hmac : HmacSha256) (f : BindingFields) (b : CommerceOrderBinder) :
    Except BindingHashError String := do
  let raw ← f.rawPayload
  match WideText.scalars? raw with
  | none => .error .unicodeEncodeError
  | some text => .ok (hmac.hexdigest b.secretKey.toUTF8 text.toUTF8)

def formatted (conv : PayloadConversions) : RawValue → Option WideText
  | .str s => some s
  | .int i => if FewDigits i then some (ofString (toString i)) else none
  | v => conv.str v

/-- `int(value)`. -/
def toInt (conv : PayloadConversions) : RawValue → Option Int
  | .int i => some i
  | .bool b => some (if b then 1 else 0)
  | v => conv.int v

/-- The fields that a payload has, as they are handed to `compute_binding_hash`. -/
def readFields (conv : PayloadConversions) (payload : RawDict) : Option BindingFields := do
  let text (name : String) : Option WideText := (payload.find name).bind (formatted conv)
  let purchaseRequestId ← text "purchase_request_id"
  let merchantId ← text "merchant_id"
  let buyerId ← text "buyer_id"
  let productId ← text "product_id"
  let quantity ← toInt conv (payload.get "quantity" (.int 1))
  let amountPaise ← (payload.find "amount_paise").bind (toInt conv)
  let currency ← formatted conv (payload.get "currency" (.str (ofString "INR")))
  let merchantOrderId ← text "merchant_order_id"
  let paymentReference ← text "payment_reference"
  let planHash ← text "plan_hash"
  pure ⟨purchaseRequestId, merchantId, buyerId, productId, quantity, amountPaise, currency,
    merchantOrderId, paymentReference, planHash⟩

/-- `verify_binding`: whatever is raised is caught. -/
def verifyBinding (hmac : HmacSha256) (conv : PayloadConversions) (payload : RawDict)
    (expectedBindingHash : String) (b : CommerceOrderBinder) : Bool :=
  match readFields conv payload with
  | none => false
  | some f =>
      match b.computeBindingHash hmac f with
      | .error _ => false
      | .ok computed =>
          match WebhookEngine.compareDigest computed expectedBindingHash with
          | .ok same => same
          | .error _ => false

end CommerceOrderBinder

/-! ## The joined text -/

namespace BindingFields

variable {f g : BindingFields}

/-- The fields as they stand in the joined text. -/
def texts (f : BindingFields) : List WideText :=
  [f.purchaseRequestId, f.merchantId, f.buyerId, f.productId, ofString (toString f.quantity),
    ofString (toString f.amountPaise), f.currency, f.merchantOrderId, f.paymentReference,
    f.planHash]

def BarFree (f : BindingFields) : Prop := ∀ t ∈ f.texts, bar ∉ t

instance (f : BindingFields) : Decidable f.BarFree :=
  inferInstanceAs (Decidable (∀ t ∈ f.texts, bar ∉ t))

/-- The fields have a digest: the integers have texts, and no text has half a
    surrogate pair in it. -/
structure Hashable (f : BindingFields) : Prop where
  quantity : FewDigits f.quantity
  amount   : FewDigits f.amountPaise
  texts    : ∀ t ∈ f.texts, Encodable t

theorem intPart_eq_ok_iff {i : Int} {s : WideText} :
    intPart i = .ok s ↔ FewDigits i ∧ s = ofString (toString i) := by
  rw [intPart]
  by_cases h : FewDigits i
  · rw [if_pos h, Exceptions.ok_eq_ok_iff]
    exact ⟨fun hs => ⟨h, hs⟩, fun hs => hs.2⟩
  · rw [if_neg h]
    exact iff_of_false nofun fun hs => h hs.1

/-- **The text is the fields, joined by bars.** -/
theorem rawPayload_eq_ok_iff {raw : WideText} :
    f.rawPayload = .ok raw
      ↔ (FewDigits f.quantity ∧ FewDigits f.amountPaise) ∧ raw = [bar].intercalate f.texts := by
  have hjoined : [bar].intercalate f.texts
      = f.purchaseRequestId ++ [bar] ++ f.merchantId ++ [bar] ++ f.buyerId ++ [bar]
        ++ f.productId ++ [bar] ++ ofString (toString f.quantity) ++ [bar]
        ++ ofString (toString f.amountPaise) ++ [bar] ++ f.currency ++ [bar]
        ++ f.merchantOrderId ++ [bar] ++ f.paymentReference ++ [bar] ++ f.planHash := by
    simp [texts, List.intercalate_cons_cons]
  rw [rawPayload, hjoined, Exceptions.seq_eq_ok_iff]
  constructor
  · rintro ⟨quantity, hquantity, hrest⟩
    obtain ⟨amount, hamount, hraw⟩ := Exceptions.seq_eq_ok_iff.mp hrest
    obtain ⟨hfew, rfl⟩ := intPart_eq_ok_iff.mp hquantity
    obtain ⟨hfew', rfl⟩ := intPart_eq_ok_iff.mp hamount
    exact ⟨⟨hfew, hfew'⟩, (Except.ok.inj hraw).symm⟩
  · rintro ⟨⟨hfew, hfew'⟩, hraw⟩
    rw [hraw]
    refine ⟨_, intPart_eq_ok_iff.mpr ⟨hfew, rfl⟩, Exceptions.seq_eq_ok_iff.mpr ?_⟩
    exact ⟨_, intPart_eq_ok_iff.mpr ⟨hfew', rfl⟩, rfl⟩

theorem encodable_append {s t : WideText} : Encodable (s ++ t) ↔ Encodable s ∧ Encodable t := by
  constructor
  · rintro ⟨text, htext⟩
    obtain ⟨l, m, -, rfl, rfl⟩ := List.map_eq_append_iff.mp htext.symm
    exact ⟨⟨String.ofList l, by rw [ofString, String.toList_ofList]⟩,
      String.ofList m, by rw [ofString, String.toList_ofList]⟩
  · rintro ⟨⟨l, rfl⟩, m, rfl⟩
    refine ⟨l ++ m, ?_⟩
    rw [ofString, ofString, ofString, String.toList_append, List.map_append]

theorem encodable_bar_cons {s : WideText} : Encodable (bar :: s) ↔ Encodable s := by
  rw [← List.singleton_append, encodable_append]
  exact and_iff_right ⟨"|", rfl⟩

theorem encodable_joined_iff :
    Encodable ([bar].intercalate f.texts) ↔ ∀ t ∈ f.texts, Encodable t := by
  simp [texts, List.intercalate_cons_cons, encodable_append, encodable_bar_cons]

theorem bar_notMem_int (i : Int) : bar ∉ ofString (toString i) := by
  rw [ofString, List.mem_map]
  rintro ⟨c, hc, heq⟩
  obtain rfl := CodePoint.char.inj heq
  exact Json.notMem_toString_int (by decide) (by decide) i hc

theorem eq_of_texts (h : f.texts = g.texts) : f = g := by
  obtain ⟨hreq, hmer, hbuy, hprod, hquantity, hamount, hcur, hord, href, hplan, -⟩ :
      _ ∧ _ ∧ _ ∧ _ ∧ _ ∧ _ ∧ _ ∧ _ ∧ _ ∧ _ ∧ _ := by
    simpa only [texts, List.cons.injEq] using h
  have hquantity' := Json.toString_int_injective (WideText.ofString_injective hquantity)
  have hamount' := Json.toString_int_injective (WideText.ofString_injective hamount)
  obtain ⟨⟩ := f
  obtain ⟨⟩ := g
  rw [BindingFields.mk.injEq]
  exact ⟨hreq, hmer, hbuy, hprod, hquantity', hamount', hcur, hord, href, hplan⟩

/-- **A text without bars in its fields has these fields alone.** -/
theorem eq_of_rawPayload (hfree : f.BarFree) {raw : WideText} (hf : f.rawPayload = .ok raw)
    (hg : g.rawPayload = .ok raw) : g = f := by
  obtain ⟨-, rfl⟩ := rawPayload_eq_ok_iff.mp hf
  obtain ⟨-, hsame⟩ := rawPayload_eq_ok_iff.mp hg
  have htexts : f.texts = g.texts := Separated.intercalate_inj hfree rfl hsame
  exact (eq_of_texts htexts).symm

theorem exists_other_pair {s t : WideText} (h : bar ∈ s ∨ bar ∈ t) :
    ∃ s' t' : WideText, s' ≠ s ∧ s' ++ bar :: t' = s ++ bar :: t
      ∧ ∀ rest, s' ++ bar :: (t' ++ rest) = s ++ bar :: (t ++ rest) := by
  obtain ⟨s', t', hne, heq⟩ := Separated.exists_other_cut h
  refine ⟨s', t', hne, heq, fun rest => ?_⟩
  rw [← List.cons_append, ← List.append_assoc, heq, List.append_assoc, List.cons_append]

/-- **Where a text has the bar in it, other fields have the same text.** -/
theorem exists_other (h : ¬ f.BarFree) :
    ∃ g : BindingFields, g ≠ f ∧ g.quantity = f.quantity ∧ g.amountPaise = f.amountPaise
      ∧ [bar].intercalate g.texts = [bar].intercalate f.texts := by
  have hparts : (bar ∈ f.purchaseRequestId ∨ bar ∈ f.merchantId)
      ∨ (bar ∈ f.buyerId ∨ bar ∈ f.productId)
      ∨ (bar ∈ f.currency ∨ bar ∈ f.merchantOrderId)
      ∨ (bar ∈ f.paymentReference ∨ bar ∈ f.planHash) := by
    have hquantity := bar_notMem_int f.quantity
    have hamount := bar_notMem_int f.amountPaise
    simp only [BarFree, texts, List.forall_mem_cons] at h
    tauto
  -- the bar is moved between two neighbours
  rcases hparts with h | h | h | h
  · obtain ⟨s, t, hne, -, hcut⟩ := exists_other_pair h
    refine ⟨{ f with purchaseRequestId := s, merchantId := t }, ?_, rfl, rfl, ?_⟩
    · exact fun heq => hne (congrArg purchaseRequestId heq)
    · simp only [texts, List.intercalate_cons_cons, List.intercalate_singleton, List.append_assoc,
        List.singleton_append, hcut]
  · obtain ⟨s, t, hne, -, hcut⟩ := exists_other_pair h
    refine ⟨{ f with buyerId := s, productId := t }, ?_, rfl, rfl, ?_⟩
    · exact fun heq => hne (congrArg buyerId heq)
    · simp only [texts, List.intercalate_cons_cons, List.intercalate_singleton, List.append_assoc,
        List.singleton_append, hcut]
  · obtain ⟨s, t, hne, -, hcut⟩ := exists_other_pair h
    refine ⟨{ f with currency := s, merchantOrderId := t }, ?_, rfl, rfl, ?_⟩
    · exact fun heq => hne (congrArg currency heq)
    · simp only [texts, List.intercalate_cons_cons, List.intercalate_singleton, List.append_assoc,
        List.singleton_append, hcut]
  · obtain ⟨s, t, hne, hend, -⟩ := exists_other_pair h
    refine ⟨{ f with paymentReference := s, planHash := t }, ?_, rfl, rfl, ?_⟩
    · exact fun heq => hne (congrArg paymentReference heq)
    · simp only [texts, List.intercalate_cons_cons, List.intercalate_singleton, List.append_assoc,
        List.singleton_append, hend]

end BindingFields

/-! ## Digests and verifications -/

namespace CommerceOrderBinder

open BindingFields

variable {hmac : HmacSha256} {conv : PayloadConversions} {b : CommerceOrderBinder}
  {f g : BindingFields}

theorem computeBindingHash_eq_ok_iff {digest : String} :
    b.computeBindingHash hmac f = .ok digest
      ↔ (FewDigits f.quantity ∧ FewDigits f.amountPaise)
        ∧ ∃ text, [bar].intercalate f.texts = ofString text
          ∧ digest = hmac.hexdigest b.secretKey.toUTF8 text.toUTF8 := by
  rw [computeBindingHash, Exceptions.seq_eq_ok_iff]
  constructor
  · rintro ⟨raw, hraw, hdigest⟩
    obtain ⟨hfew, rfl⟩ := rawPayload_eq_ok_iff.mp hraw
    cases hscalars : WideText.scalars? ([bar].intercalate f.texts) with
    | none =>
        rw [hscalars] at hdigest
        cases hdigest
    | some text =>
        rw [hscalars] at hdigest
        exact ⟨hfew, text, WideText.scalars?_eq_some_iff.mp hscalars,
          (Except.ok.inj hdigest).symm⟩
  · rintro ⟨hfew, text, htext, rfl⟩
    refine ⟨_, rawPayload_eq_ok_iff.mpr ⟨hfew, rfl⟩, ?_⟩
    rw [WideText.scalars?_eq_some_iff.mpr htext]

/-- **There is a digest** of the fields that have one. -/
theorem exists_digest_iff : (∃ digest, b.computeBindingHash hmac f = .ok digest) ↔ f.Hashable := by
  constructor
  · rintro ⟨digest, hdigest⟩
    obtain ⟨⟨hquantity, hamount⟩, text, htext, -⟩ := computeBindingHash_eq_ok_iff.mp hdigest
    exact ⟨hquantity, hamount, encodable_joined_iff.mp ⟨text, htext⟩⟩
  · rintro ⟨hquantity, hamount, htexts⟩
    obtain ⟨text, htext⟩ := encodable_joined_iff.mpr htexts
    exact ⟨_, computeBindingHash_eq_ok_iff.mpr ⟨⟨hquantity, hamount⟩, text, htext, rfl⟩⟩

/-- **A payload is accepted** when its fields have the digest. -/
theorem verifyBinding_iff {payload : RawDict} {expected : String} :
    b.verifyBinding hmac conv payload expected = true
      ↔ ∃ f, readFields conv payload = some f ∧ b.computeBindingHash hmac f = .ok expected := by
  rw [verifyBinding]
  cases hread : readFields conv payload with
  | none => exact iff_of_false Bool.false_ne_true nofun
  | some f =>
      dsimp only
      cases hdigest : b.computeBindingHash hmac f with
      | error err =>
          refine iff_of_false Bool.false_ne_true ?_
          rintro ⟨f', hf', hok⟩
          obtain rfl := Option.some.inj hf'
          rw [hdigest] at hok
          cases hok
      | ok computed =>
          obtain ⟨-, text, -, hcomputed⟩ := computeBindingHash_eq_ok_iff.mp hdigest
          have hascii : WebhookEngine.isAscii computed = true := by
            rw [hcomputed]
            exact hmac.isAscii_hexdigest _ _
          have hsame : WebhookEngine.compareDigest computed expected = .ok true
              ↔ expected = computed := by
            rw [WebhookEngine.compareDigest_comm]
            exact WebhookEngine.compareDigest_eq_ok_true_iff hascii
          dsimp only
          constructor
          · intro h
            cases hcompare : WebhookEngine.compareDigest computed expected with
            | error err =>
                rw [hcompare] at h
                cases h
            | ok same =>
                rw [hcompare] at h
                obtain rfl : same = true := h
                rw [hsame.mp hcompare]
                exact ⟨f, rfl, hdigest⟩
          · rintro ⟨f', hf', hok⟩
            obtain rfl := Option.some.inj hf'
            rw [hdigest] at hok
            rw [hsame.mpr (Except.ok.inj hok).symm]

/-! ## What a digest binds -/

/-- The digest of the fields is that of their text only. -/
def Unshared (hmac : HmacSha256) (b : CommerceOrderBinder) (f : BindingFields) : Prop :=
  ∀ g digest, b.computeBindingHash hmac f = .ok digest →
    b.computeBindingHash hmac g = .ok digest → g.rawPayload = f.rawPayload

/-- The digest is that of the fields only, and a payload that is accepted with it
    has these fields. -/
structure Binds (hmac : HmacSha256) (conv : PayloadConversions) (b : CommerceOrderBinder)
    (f : BindingFields) : Prop where
  hash    : ∀ g digest, b.computeBindingHash hmac f = .ok digest →
    b.computeBindingHash hmac g = .ok digest → g = f
  payload : ∀ payload digest, b.computeBindingHash hmac f = .ok digest →
    b.verifyBinding hmac conv payload digest = true → readFields conv payload = some f

theorem computeBindingHash_congr (h : g.rawPayload = f.rawPayload) :
    b.computeBindingHash hmac g = b.computeBindingHash hmac f := by
  rw [computeBindingHash, computeBindingHash, h]

theorem rawPayload_congr (hquantity : g.quantity = f.quantity)
    (hamount : g.amountPaise = f.amountPaise)
    (htext : [bar].intercalate g.texts = [bar].intercalate f.texts) (hf : f.Hashable) :
    g.rawPayload = f.rawPayload := by
  rw [rawPayload_eq_ok_iff.mpr ⟨⟨hf.quantity, hf.amount⟩, rfl⟩]
  refine rawPayload_eq_ok_iff.mpr ⟨?_, htext.symm⟩
  rw [hquantity, hamount]
  exact ⟨hf.quantity, hf.amount⟩

/-- **The fields are bound by their digest exactly when no bar is in their
    texts**, or when they have no digest. -/
theorem binds_iff (hunshared : Unshared hmac b f) :
    Binds hmac conv b f ↔ (f.Hashable → f.BarFree) := by
  constructor
  · intro hbinds hhashable
    by_contra hbar
    obtain ⟨g, hne, hquantity, hamount, htext⟩ := exists_other hbar
    have hdigests : ∃ digest, b.computeBindingHash hmac f = .ok digest :=
      exists_digest_iff.mpr hhashable
    obtain ⟨digest, hdigest⟩ := hdigests
    have hsame : b.computeBindingHash hmac g = b.computeBindingHash hmac f :=
      computeBindingHash_congr (rawPayload_congr hquantity hamount htext hhashable)
    exact hne (hbinds.hash g digest hdigest (hsame.trans hdigest))
  · intro hfree
    have hhash : ∀ g digest, b.computeBindingHash hmac f = .ok digest →
        b.computeBindingHash hmac g = .ok digest → g = f := by
      intro g digest hf hg
      have hhashable := exists_digest_iff.mp ⟨digest, hf⟩
      have htext := hunshared g digest hf hg
      have hraw := rawPayload_eq_ok_iff.mpr ⟨⟨hhashable.quantity, hhashable.amount⟩, rfl⟩
      exact eq_of_rawPayload (hfree hhashable) hraw (htext.trans hraw)
    refine ⟨hhash, ?_⟩
    intro payload digest hf haccepted
    obtain ⟨g, hread, hg⟩ := verifyBinding_iff.mp haccepted
    rw [hread, hhash g digest hf hg]

def payloadOf (f : BindingFields) : RawDict := [
  (RawDict.key "purchase_request_id", .str f.purchaseRequestId),
  (RawDict.key "merchant_id", .str f.merchantId),
  (RawDict.key "buyer_id", .str f.buyerId),
  (RawDict.key "product_id", .str f.productId),
  (RawDict.key "quantity", .int f.quantity),
  (RawDict.key "amount_paise", .int f.amountPaise),
  (RawDict.key "currency", .str f.currency),
  (RawDict.key "merchant_order_id", .str f.merchantOrderId),
  (RawDict.key "payment_reference", .str f.paymentReference),
  (RawDict.key "plan_hash", .str f.planHash)]

theorem unshared_telling {text digest other : String}
    {h : digest.toList.length = 64 ∧ ∀ c ∈ digest.toList, isLowerHex c = true}
    {h' : other.toList.length = 64 ∧ ∀ c ∈ other.toList, isLowerHex c = true}
    (hne : other ≠ digest) (htext : [bar].intercalate f.texts = ofString text) :
    Unshared (.telling text.toUTF8 digest other h h') b f := by
  intro g d hf hg
  obtain ⟨hfew, text', htext', hd⟩ := computeBindingHash_eq_ok_iff.mp hf
  obtain ⟨hfew', text'', htext'', hd'⟩ := computeBindingHash_eq_ok_iff.mp hg
  obtain rfl := WideText.ofString_injective (htext.symm.trans htext')
  have hknown : d = digest := hd.trans (if_pos rfl)
  by_cases hsame : text''.toUTF8 = text.toUTF8
  · obtain rfl : text'' = text := String.toByteArray_inj.mp hsame
    rw [rawPayload_eq_ok_iff.mpr ⟨hfew, rfl⟩]
    exact rawPayload_eq_ok_iff.mpr ⟨hfew', htext.trans htext''.symm⟩
  · have hother : d = other := hd'.trans (if_neg hsame)
    exact absurd (hother.symm.trans hknown) hne

end CommerceOrderBinder

/-! An order of tea, and one whose merchant has a bar in it. -/

namespace SampleOrder

open BindingFields CommerceOrderBinder

def fields (purchaseRequestId merchantId : String) : BindingFields where
  purchaseRequestId := ofString purchaseRequestId
  merchantId := ofString merchantId
  buyerId := ofString "buyer_101"
  productId := ofString "prod_tea_01"
  quantity := 1
  amountPaise := 14000
  currency := ofString "INR"
  merchantOrderId := ofString "m_ord_101"
  paymentReference := ofString "txn_pay_101"
  planHash := ofString "plan_hash_88"

def tea : BindingFields := fields "req_88" "mer_cafe_acme"

def barred : BindingFields := fields "req_88" "mer_cafe_acme|mer_tea"

def substituted : BindingFields := fields "req_88|mer_cafe_acme" "mer_tea"

def teaText : String :=
  "req_88|mer_cafe_acme|buyer_101|prod_tea_01|1|14000|INR|m_ord_101|txn_pay_101|plan_hash_88"

def barredText : String :=
  "req_88|mer_cafe_acme|mer_tea|buyer_101|prod_tea_01|1|14000|INR|m_ord_101|txn_pay_101|"
    ++ "plan_hash_88"

def teaDigest : String := "ac1adc123610c9a9e6e1ea78ec71fb8aadb6b46e2f7f534bc60890d60f62385c"

def barredDigest : String := "867c5e5d30a22448f473cbb62c237fcdcc619187521085f2be17da472f57deea"

theorem teaDigest_digits :
    teaDigest.toList.length = 64 ∧ ∀ c ∈ teaDigest.toList, isLowerHex c = true :=
  digits_of_all (by decide) (by decide)

theorem barredDigest_digits :
    barredDigest.toList.length = 64 ∧ ∀ c ∈ barredDigest.toList, isLowerHex c = true :=
  digits_of_all (by decide) (by decide)

def binder : CommerceOrderBinder := ⟨"order_binding_sec_key_m25"⟩

def teaHmac : HmacSha256 :=
  .telling teaText.toUTF8 teaDigest barredDigest teaDigest_digits barredDigest_digits

def barredHmac : HmacSha256 :=
  .telling barredText.toUTF8 barredDigest teaDigest barredDigest_digits teaDigest_digits

def conv : PayloadConversions where
  str
    | .none => some (ofString "None")
    | .bool b => some (ofString (if b then "True" else "False"))
    | _ => none
  int
    | .str s => (WideText.decimal? (WideText.strip s)).map Int.ofNat
    | _ => none

def payload : RawDict := [
  (RawDict.key "purchase_request_id", .str (ofString "req_88|mer_cafe_acme")),
  (RawDict.key "merchant_id", .str (ofString "mer_tea")),
  (RawDict.key "buyer_id", .str (ofString "buyer_101")),
  (RawDict.key "product_id", .str (ofString "prod_tea_01")),
  (RawDict.key "amount_paise", .str (ofString "14000")),
  (RawDict.key "merchant_order_id", .str (ofString "m_ord_101")),
  (RawDict.key "payment_reference", .str (ofString "txn_pay_101")),
  (RawDict.key "plan_hash", .str (ofString "plan_hash_88"))]

theorem tea_text : [bar].intercalate tea.texts = ofString teaText := by decide +kernel

theorem barred_text : [bar].intercalate barred.texts = ofString barredText := by decide +kernel

theorem hash_barred {f : BindingFields} (hquantity : f.quantity = 1)
    (hamount : f.amountPaise = 14000) (htext : [bar].intercalate f.texts = ofString barredText) :
    binder.computeBindingHash barredHmac f = .ok barredDigest := by
  refine computeBindingHash_eq_ok_iff.mpr
    ⟨?_, barredText, htext, (HmacSha256.hexdigest_telling _).symm⟩
  rw [hquantity, hamount]
  exact ⟨fewDigits_of_lt (by decide), fewDigits_of_lt (by decide)⟩

theorem readFields_payload : readFields conv payload = some substituted := by rfl

theorem substituted_ne : substituted ≠ barred := by
  intro h
  exact absurd (congrArg merchantId h) (by decide)

end SampleOrder

open SampleOrder CommerceOrderBinder in
/-- The order of tea is bound by its digest. -/
theorem tea_bound : Binds teaHmac conv binder tea :=
  (binds_iff (unshared_telling (by decide) tea_text)).mpr fun _ => by decide

open SampleOrder CommerceOrderBinder in
/-- The digest of the order with a bar is that of another order, and a payload of
    the other order is accepted with it. -/
theorem barred_not_bound :
    Unshared barredHmac binder barred
    ∧ binder.computeBindingHash barredHmac barred = .ok barredDigest
    ∧ binder.verifyBinding barredHmac conv payload barredDigest = true
    ∧ readFields conv payload ≠ some barred
    ∧ ¬ Binds barredHmac conv binder barred := by
  have hbarred := hash_barred (f := barred) rfl rfl barred_text
  have hsubstituted := hash_barred (f := substituted) rfl rfl (by decide +kernel)
  refine ⟨unshared_telling (by decide) barred_text, hbarred,
    verifyBinding_iff.mpr ⟨_, readFields_payload, hsubstituted⟩, ?_, ?_⟩
  · rw [readFields_payload]
    exact fun h => substituted_ne (Option.some.inj h)
  · intro hbinds
    exact substituted_ne (hbinds.hash _ _ hbarred hsubstituted)

end MandateGateway
