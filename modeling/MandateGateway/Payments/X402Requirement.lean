import MandateGateway.Intent.RawValue
import MandateGateway.Lib.Exceptions
import MandateGateway.Lib.JsonTree
import MandateGateway.Lib.Separated
import MandateGateway.Payments.X402

/-! # Requirements that are read from 402 replies

    A requirement is read from the body of a reply, or else from its headers.  Six
    of its seven parameters are joined by colons, and half of the digest of the
    text is the hash that a proof of payment repeats.  The asset is not in the
    text, and the texts of the others can have colons in them.

    * `hash_binds_iff`: which two requirements are told apart by their hashes, and
      that no requirement is told apart from all the others. -/

namespace MandateGateway

open OrderedMap

/-- A reply as it is handed over. -/
structure PaymentReply where
  resourceUrl : String
  statusCode  : Int
  headers     : OrderedMap String String
  body        : Option (OrderedMap String PyValue)

/-- Why no requirement is made of a reply. -/
inductive RequirementError where
  | payment (err : X402PaymentError)
  | attributeError
  | typeError
  | valueError
  | overflowError

/-- The built-in conversions of texts, and the text of a list or a dictionary; one
    that raises gives nothing. -/
structure ReplyConversions where
  upper : String → String
  int   : String → Option Int
  float : String → Option Binary64
  str   : PyValue → Option String

/-- The parameters of a requirement. -/
structure RequirementTerms where
  resourceUrl : String
  amountPaise : PyValue
  currency    : String
  recipient   : PyValue
  network     : PyValue
  asset       : PyValue
  expTime     : Binary64

namespace ReplyConversions

variable (conv : ReplyConversions)

/-- A value as it stands in a text. -/
def formatted : PyValue → Except RequirementError String
  | .none => .ok "None"
  | .bool b => .ok (if b then "True" else "False")
  | .int i => if FewDigits i then .ok (toString i) else .error .valueError
  | .float x => .ok x.text
  | .str s => .ok s
  | v =>
      match conv.str v with
      | some s => .ok s
      | none => .error .valueError

/-- `float(value)`. -/
def toFloat : PyValue → Except RequirementError Binary64
  | .bool b => .ok (.finite (if b then 1 else 0))
  | .int i =>
      match Binary64.ofRat i with
      | .infinite _ => .error .overflowError
      | x => .ok x
  | .float x => .ok x
  | .str s =>
      match conv.float s with
      | some x => .ok x
      | none => .error .valueError
  | _ => .error .typeError

end ReplyConversions

/-- `v or w`. -/
def PyValue.orElse (v w : PyValue) : PyValue := if v.truthy then v else w

/-- `isinstance(value, int)` and more than zero. -/
def PyValue.IsAmount : PyValue → Prop
  | .int i => 0 < i
  | .bool b => b = true
  | _ => False

instance : DecidablePred PyValue.IsAmount
  | .int i => inferInstanceAs (Decidable (0 < i))
  | .bool b => inferInstanceAs (Decidable (b = true))
  | .none | .float _ | .str _ | .list _ | .dict _ => inferInstanceAs (Decidable False)

namespace PaymentReply

/-- `body[name]`, if it is there. -/
def entry (name : String) (r : PaymentReply) : Option PyValue :=
  (r.body.getD .empty).get name

/-- `body.get(name)`. -/
def field (name : String) (r : PaymentReply) : PyValue := (r.entry name).getD .none

/-- `headers.get(name)`. -/
def header (name : String) (r : PaymentReply) : PyValue :=
  match r.headers.get name with
  | some text => .str text
  | none => .none

def amountPaise (conv : ReplyConversions) (r : PaymentReply) : PyValue :=
  match (r.field "amount_paise").orElse (r.field "amount") with
  -- the header is read only where the body has no amount, and a zero is one
  | .none =>
      match (r.headers.get "X-Payment-Amount").bind conv.int with
      | some i => .int i
      | none => .none
  | v => v

def currency (conv : ReplyConversions) (r : PaymentReply) : Except RequirementError String :=
  match ((r.field "currency").orElse (r.header "X-Payment-Currency")).orElse (.str "INR") with
  | .str s => .ok (conv.upper s)
  | _ => .error .attributeError

def recipient (r : PaymentReply) : PyValue :=
  ((r.field "recipient_address").orElse (r.header "X-Payment-Recipient")).orElse
    (.str "merchant_default_x402")

def network (r : PaymentReply) : PyValue :=
  ((r.field "network").orElse (r.header "X-Payment-Network")).orElse
    (.str "lightning_or_razorpay")

def asset (r : PaymentReply) : PyValue := (r.field "asset").orElse (.str "INR")

def ttl (r : PaymentReply) : PyValue := (r.entry "ttl_seconds").getD (.int 300)

def metadata (r : PaymentReply) : PyValue := (r.entry "metadata").getD (.dict [])

end PaymentReply

namespace RequirementTerms

variable (conv : ReplyConversions)

/-- The parameters of a reply that is accepted. -/
def read (now : Rat) (r : PaymentReply) : Except RequirementError RequirementTerms :=
  if r.statusCode ≠ 402 then
    .error (.payment ⟨s!"HTTP status code {r.statusCode} is not 402 Payment Required.",
      "NOT_402_STATUS"⟩)
  else if ¬ (r.amountPaise conv).IsAmount then
    .error (.payment ⟨"Missing or invalid payment amount in HTTP 402 requirement.",
      "INVALID_AMOUNT"⟩)
  else do
    let currency ← r.currency conv
    let ttl ← conv.toFloat r.ttl
    pure {
      resourceUrl := r.resourceUrl
      amountPaise := r.amountPaise conv
      currency := currency
      recipient := r.recipient
      network := r.network
      asset := r.asset
      expTime := Binary64.add (.finite now) ttl }

def reqStr (t : RequirementTerms) : Except RequirementError String := do
  let amount ← conv.formatted t.amountPaise
  let recipient ← conv.formatted t.recipient
  let network ← conv.formatted t.network
  pure (t.resourceUrl ++ ":" ++ amount ++ ":" ++ t.currency ++ ":" ++ recipient ++ ":" ++ network
    ++ ":" ++ t.expTime.text)

end RequirementTerms

namespace X402PaymentAdapter

/-- `hexdigest()[:32]`. -/
def shortDigest (sha256 : String → String) (text : String) : String :=
  String.ofList ((sha256 text).toList.take 32)

def parse402HeaderOrBody (conv : ReplyConversions) (sha256 : String → String) (now : Rat)
    (r : PaymentReply) : Except RequirementError PaymentRequirementX402 := do
  let t ← RequirementTerms.read conv now r
  let text ← t.reqStr conv
  pure {
    resourceUrl := t.resourceUrl
    amountPaise := t.amountPaise
    currency := t.currency
    recipientAddress := t.recipient
    network := t.network
    asset := t.asset
    expirationTimestamp := t.expTime
    requirementHash := shortDigest sha256 text
    metadata := r.metadata }

end X402PaymentAdapter

/-- The parameters of a requirement. -/
def PaymentRequirementX402.terms (q : PaymentRequirementX402) : RequirementTerms where
  resourceUrl := q.resourceUrl
  amountPaise := q.amountPaise
  currency := q.currency
  recipient := q.recipientAddress
  network := q.network
  asset := q.asset
  expTime := q.expirationTimestamp

/-! ## The joined text -/

namespace RequirementTerms

variable {conv : ReplyConversions} {t t' : RequirementTerms}

/-- The parameters as they stand in the joined text. -/
def texts (conv : ReplyConversions) (t : RequirementTerms) :
    Except RequirementError (List String) := do
  let amount ← conv.formatted t.amountPaise
  let recipient ← conv.formatted t.recipient
  let network ← conv.formatted t.network
  pure [t.resourceUrl, amount, t.currency, recipient, network, t.expTime.text]

/-- **The text is the parameters, joined by colons.** -/
theorem reqStr_eq_ok_iff {text : String} :
    t.reqStr conv = .ok text
      ↔ ∃ parts, t.texts conv = .ok parts ∧ text = ":".intercalate parts := by
  rw [reqStr, texts]
  cases conv.formatted t.amountPaise with
  | error err => exact iff_of_false nofun nofun
  | ok amount =>
  cases conv.formatted t.recipient with
  | error err => exact iff_of_false nofun nofun
  | ok recipient =>
  cases conv.formatted t.network with
  | error err => exact iff_of_false nofun nofun
  | ok network =>
      constructor
      · intro h
        refine ⟨_, rfl, ?_⟩
        rw [← Except.ok.inj h]
        simp [String.intercalate_cons_cons, String.append_assoc]
      · rintro ⟨parts, hparts, rfl⟩
        rw [← Except.ok.inj hparts]
        refine congrArg Except.ok ?_
        simp [String.intercalate_cons_cons, String.append_assoc]

/-- What has to agree of two replies with the same text: the asset, where the text
    is cut, and the values whose texts are the same. -/
structure CutAlike (conv : ReplyConversions) (t t' : RequirementTerms) : Prop where
  asset      : t'.asset = t.asset
  lengths    : ∀ parts parts', t.texts conv = .ok parts → t'.texts conv = .ok parts' →
    parts'.map String.length = parts.map String.length
  recipient  : conv.formatted t'.recipient = conv.formatted t.recipient →
    t'.recipient = t.recipient
  network    : conv.formatted t'.network = conv.formatted t.network → t'.network = t.network
  expiration : t'.expTime.text = t.expTime.text → t'.expTime = t.expTime

/-- The texts differ, or whatever else there is agrees. -/
def ToldApart (conv : ReplyConversions) (t t' : RequirementTerms) : Prop :=
  ∀ text, t.reqStr conv = .ok text → t'.reqStr conv = .ok text → CutAlike conv t t'

theorem texts_eq_ok_iff {parts : List String} :
    t.texts conv = .ok parts ↔ ∃ amount recipient network,
      conv.formatted t.amountPaise = .ok amount ∧ conv.formatted t.recipient = .ok recipient
        ∧ conv.formatted t.network = .ok network
        ∧ parts = [t.resourceUrl, amount, t.currency, recipient, network, t.expTime.text] := by
  rw [texts, Exceptions.seq_eq_ok_iff]
  constructor
  · rintro ⟨amount, hamount, hrest⟩
    obtain ⟨recipient, hrecipient, hrest⟩ := Exceptions.seq_eq_ok_iff.mp hrest
    obtain ⟨network, hnetwork, hparts⟩ := Exceptions.seq_eq_ok_iff.mp hrest
    exact ⟨amount, recipient, network, hamount, hrecipient, hnetwork,
      (Except.ok.inj hparts).symm⟩
  · rintro ⟨amount, recipient, network, hamount, hrecipient, hnetwork, rfl⟩
    refine ⟨amount, hamount, Exceptions.seq_eq_ok_iff.mpr ⟨recipient, hrecipient, ?_⟩⟩
    exact Exceptions.seq_eq_ok_iff.mpr ⟨network, hnetwork, rfl⟩

theorem eq_of_formatted_amount {v w : PyValue} (hv : v.IsAmount) (hw : w.IsAmount) {s : String}
    (hvs : conv.formatted v = .ok s) (hws : conv.formatted w = .ok s) : v = w := by
  have hint : ∀ {i : Int}, conv.formatted (.int i) = .ok s → s = toString i := by
    intro i h
    rw [ReplyConversions.formatted] at h
    split at h
    · exact (Except.ok.inj h).symm
    · cases h
  have htrue : ∀ {b : Bool}, PyValue.IsAmount (.bool b) → conv.formatted (.bool b) = .ok s →
      b = true ∧ s = "True" := by
    rintro b hb h
    obtain rfl : b = true := hb
    exact ⟨rfl, (Except.ok.inj h).symm⟩
  have hdigits : ∀ i : Int, toString i ≠ "True" := by
    intro i heq
    have hT : 'T' ∈ (toString i).toList := heq ▸ by decide
    exact Json.notMem_toString_int (by decide) (by decide) i hT
  cases v with
  | int i =>
      cases w with
      | int j => rw [Json.toString_int_injective ((hint hvs).symm.trans (hint hws))]
      | bool b => exact absurd ((hint hvs).symm.trans (htrue hw hws).2) (hdigits i)
      | none | float _ | str _ | list _ | dict _ => cases hw
  | bool b =>
      cases w with
      | int j => exact absurd ((hint hws).symm.trans (htrue hv hvs).2) (hdigits j)
      | bool b' => rw [(htrue hv hvs).1, (htrue hw hws).1]
      | none | float _ | str _ | list _ | dict _ => cases hw
  | none | float _ | str _ | list _ | dict _ => cases hv

/-- **Parameters with the same text are the same, when they are cut alike.** -/
theorem eq_of_reqStr (hamount : t.amountPaise.IsAmount) (hamount' : t'.amountPaise.IsAmount)
    {text : String} (ht : t.reqStr conv = .ok text) (ht' : t'.reqStr conv = .ok text)
    (halike : CutAlike conv t t') : t' = t := by
  obtain ⟨parts, hparts, rfl⟩ := reqStr_eq_ok_iff.mp ht
  obtain ⟨parts', hparts', hsame⟩ := reqStr_eq_ok_iff.mp ht'
  -- the lengths say at which colons the text is cut
  have hlengths := halike.lengths parts parts' hparts hparts'
  obtain ⟨amount, recipient, network, hformatted, hrecipient, hnetwork, rfl⟩ :=
    texts_eq_ok_iff.mp hparts
  obtain ⟨amount', recipient', network', hformatted', hrecipient', hnetwork', rfl⟩ :=
    texts_eq_ok_iff.mp hparts'
  have hparts : [t.resourceUrl, amount, t.currency, recipient, network, t.expTime.text]
      = [t'.resourceUrl, amount', t'.currency, recipient', network', t'.expTime.text] :=
    Separated.eq_of_map_length_text hlengths.symm hsame
  simp only [List.cons.injEq, and_true] at hparts
  obtain ⟨hurl, rfl, hcurrency, rfl, rfl, hexpiration⟩ := hparts
  have hamounts := eq_of_formatted_amount hamount' hamount hformatted' hformatted
  have hrecipients := halike.recipient (hrecipient'.trans hrecipient.symm)
  have hnetworks := halike.network (hnetwork'.trans hnetwork.symm)
  have hexpirations := halike.expiration hexpiration.symm
  have hassets := halike.asset
  obtain ⟨⟩ := t
  obtain ⟨⟩ := t'
  rw [RequirementTerms.mk.injEq]
  exact ⟨hurl.symm, hamounts, hcurrency.symm, hrecipients, hnetworks, hassets, hexpirations⟩

/-- A reply is cut like itself. -/
theorem CutAlike.refl (t : RequirementTerms) : CutAlike conv t t := by
  refine ⟨rfl, ?_, fun _ => rfl, fun _ => rfl, fun _ => rfl⟩
  intro parts parts' hparts hparts'
  rw [Except.ok.inj (hparts'.symm.trans hparts)]

theorem reqStr_asset (v : PyValue) : ({ t with asset := v } : RequirementTerms).reqStr conv
    = t.reqStr conv :=
  rfl

end RequirementTerms

/-! ## The parameters of a reply -/

namespace PaymentReply

def withAsset (v : PyValue) (r : PaymentReply) : PaymentReply :=
  { r with body := some ((r.body.getD .empty).set "asset" v) }

variable {conv : ReplyConversions} {now : Rat} {r : PaymentReply}

theorem entry_withAsset {name : String} (h : name ≠ "asset") (v : PyValue) :
    (r.withAsset v).entry name = r.entry name :=
  get_set_of_ne _ h v

theorem field_withAsset {name : String} (h : name ≠ "asset") (v : PyValue) :
    (r.withAsset v).field name = r.field name := by
  rw [field, field, entry_withAsset h]

theorem asset_withAsset {v : PyValue} (hv : v.truthy = true) : (r.withAsset v).asset = v := by
  have hentry : (r.withAsset v).entry "asset" = some v := get_set_self _ _ _
  rw [asset, field, hentry, Option.getD_some, PyValue.orElse, if_pos hv]

end PaymentReply

namespace RequirementTerms

variable {conv : ReplyConversions} {now : Rat} {r : PaymentReply} {t : RequirementTerms}

theorem read_eq_ok_iff : read conv now r = .ok t ↔
    r.statusCode = 402 ∧ (r.amountPaise conv).IsAmount ∧ ∃ currency ttl,
      r.currency conv = .ok currency ∧ conv.toFloat r.ttl = .ok ttl
        ∧ t = ⟨r.resourceUrl, r.amountPaise conv, currency, r.recipient, r.network, r.asset,
            Binary64.add (.finite now) ttl⟩ := by
  rw [read, Exceptions.guard_eq_ok_iff, Exceptions.guard_eq_ok_iff, not_not, not_not,
    Exceptions.seq_eq_ok_iff]
  refine and_congr_right' (and_congr_right' ?_)
  constructor
  · rintro ⟨currency, hcurrency, hrest⟩
    obtain ⟨ttl, httl, ht⟩ := Exceptions.seq_eq_ok_iff.mp hrest
    exact ⟨currency, ttl, hcurrency, httl, (Except.ok.inj ht).symm⟩
  · rintro ⟨currency, ttl, hcurrency, httl, rfl⟩
    exact ⟨currency, hcurrency, Exceptions.seq_eq_ok_iff.mpr ⟨ttl, httl, rfl⟩⟩

/-- **A reply with another asset is read to the same parameters**, but for the
    asset. -/
theorem read_withAsset {v : PyValue} (hv : v.truthy = true) (h : read conv now r = .ok t) :
    read conv now (r.withAsset v) = .ok { t with asset := v } := by
  obtain ⟨hstatus, hamount, currency, ttl, hcurrency, httl, rfl⟩ := read_eq_ok_iff.mp h
  have hfield : ∀ {name : String}, name ≠ "asset" → (r.withAsset v).field name = r.field name :=
    fun hname => PaymentReply.field_withAsset hname v
  have hamounts : (r.withAsset v).amountPaise conv = r.amountPaise conv := by
    rw [PaymentReply.amountPaise, hfield (by decide), hfield (by decide)]
    rfl
  have hcurrencies : (r.withAsset v).currency conv = r.currency conv := by
    rw [PaymentReply.currency, hfield (by decide)]
    rfl
  have hrecipient : (r.withAsset v).recipient = r.recipient := by
    rw [PaymentReply.recipient, hfield (by decide)]
    rfl
  have hnetwork : (r.withAsset v).network = r.network := by
    rw [PaymentReply.network, hfield (by decide)]
    rfl
  have httls : (r.withAsset v).ttl = r.ttl := by
    rw [PaymentReply.ttl, PaymentReply.entry_withAsset (by decide)]
    rfl
  refine read_eq_ok_iff.mpr ⟨hstatus, hamounts ▸ hamount, currency, ttl, ?_, ?_, ?_⟩
  · rw [hcurrencies, hcurrency]
  · rw [httls, httl]
  · rw [hamounts, hrecipient, hnetwork, PaymentReply.asset_withAsset hv]
    rfl

end RequirementTerms

/-! ## What a hash binds -/

namespace X402PaymentAdapter

open RequirementTerms

/-- The texts of the two have different hashes, if they are not the same. -/
def Unshared (conv : ReplyConversions) (sha256 : String → String) (t t' : RequirementTerms) :
    Prop :=
  ∀ text text', t.reqStr conv = .ok text → t'.reqStr conv = .ok text' →
    shortDigest sha256 text' = shortDigest sha256 text → text' = text

/-- Requirements with one hash are the same, and a proof is accepted for both only
    if they are. -/
structure Binds (q q' : PaymentRequirementX402) : Prop where
  hash  : q'.requirementHash = q.requirementHash → q'.terms = q.terms
  proof : ∀ now now' proof (x x' : X402PaymentAdapter),
    (x.verifyAndSettleProof now proof q).1 = .ok true →
    (x'.verifyAndSettleProof now' proof q').1 = .ok true → q'.terms = q.terms

variable {conv : ReplyConversions} {sha256 : String → String} {now now' : Rat}
  {r r' : PaymentReply} {q q' : PaymentRequirementX402}

theorem parse402HeaderOrBody_eq_ok_iff :
    parse402HeaderOrBody conv sha256 now r = .ok q ↔ read conv now r = .ok q.terms
      ∧ (∃ text, q.terms.reqStr conv = .ok text
        ∧ q.requirementHash = shortDigest sha256 text) ∧ q.metadata = r.metadata := by
  rw [parse402HeaderOrBody, Exceptions.seq_eq_ok_iff]
  constructor
  · rintro ⟨t, ht, hrest⟩
    obtain ⟨text, htext, hq⟩ := Exceptions.seq_eq_ok_iff.mp hrest
    obtain rfl := Except.ok.inj hq
    exact ⟨ht, ⟨text, htext, rfl⟩, rfl⟩
  · rintro ⟨ht, ⟨text, htext, hhash⟩, hmetadata⟩
    refine ⟨_, ht, Exceptions.seq_eq_ok_iff.mpr ⟨text, htext, ?_⟩⟩
    rw [← hhash, ← hmetadata]
    rfl

theorem isAmount_of_parse (h : parse402HeaderOrBody conv sha256 now r = .ok q) :
    q.terms.amountPaise.IsAmount := by
  obtain ⟨_, hamount, _, _, _, _, hterms⟩ :=
    read_eq_ok_iff.mp (parse402HeaderOrBody_eq_ok_iff.mp h).1
  rw [hterms]
  exact hamount

theorem binds_of_hash (h : q'.requirementHash = q.requirementHash → q'.terms = q.terms) :
    Binds q q' := by
  refine ⟨h, ?_⟩
  intro now now' proof x x' haccepted haccepted'
  have hproof := (verifyAndSettleProof_eq_ok_iff.mp haccepted).hash
  have hproof' := (verifyAndSettleProof_eq_ok_iff.mp haccepted').hash
  exact h (hproof'.symm.trans hproof)

/-- **Two requirements are told apart by their hashes exactly when their texts
    differ, or everything else agrees.** -/
theorem binds_iff_toldApart (hq : parse402HeaderOrBody conv sha256 now r = .ok q)
    (hq' : parse402HeaderOrBody conv sha256 now' r' = .ok q')
    (hunshared : Unshared conv sha256 q.terms q'.terms) :
    Binds q q' ↔ ToldApart conv q.terms q'.terms := by
  obtain ⟨-, ⟨text, htext, hhash⟩, -⟩ := parse402HeaderOrBody_eq_ok_iff.mp hq
  obtain ⟨-, ⟨text', htext', hhash'⟩, -⟩ := parse402HeaderOrBody_eq_ok_iff.mp hq'
  constructor
  · intro hbinds same hsame hsame'
    obtain rfl := Except.ok.inj (htext.symm.trans hsame)
    obtain rfl := Except.ok.inj (htext'.symm.trans hsame')
    rw [hbinds.hash (hhash'.trans hhash.symm)]
    exact CutAlike.refl _
  · intro htold
    refine binds_of_hash ?_
    intro heq
    rw [hhash, hhash'] at heq
    obtain rfl := hunshared text text' htext htext' heq
    exact eq_of_reqStr (isAmount_of_parse hq) (isAmount_of_parse hq') htext htext'
      (htold _ htext htext')

/-- **For every requirement there is another one, for another asset, for which
    its proofs are accepted.** -/
theorem exists_unbound (hq : parse402HeaderOrBody conv sha256 now r = .ok q) :
    ∃ r' q', parse402HeaderOrBody conv sha256 now r' = .ok q' ∧ q'.asset ≠ q.asset
      ∧ (∀ now proof (x : X402PaymentAdapter),
        (x.verifyAndSettleProof now proof q').1 = .ok true
          ↔ (x.verifyAndSettleProof now proof q).1 = .ok true)
      ∧ ¬ Binds q q' := by
  -- the new asset is one of two texts that are not empty
  obtain ⟨v, hv, hne⟩ : ∃ v : PyValue, v.truthy = true ∧ v ≠ q.asset := by
    by_cases hasset : q.asset = .str "INR"
    · refine ⟨.str "USD", rfl, ?_⟩
      rw [hasset]
      intro heq
      exact absurd (PyValue.str.inj heq) (by decide)
    · exact ⟨.str "INR", rfl, fun heq => hasset heq.symm⟩
  obtain ⟨hread, ⟨text, htext, hhash⟩, hmetadata⟩ := parse402HeaderOrBody_eq_ok_iff.mp hq
  refine ⟨r.withAsset v, { q with asset := v }, ?_, hne, ?_, ?_⟩
  · refine parse402HeaderOrBody_eq_ok_iff.mpr
      ⟨read_withAsset hv hread, ⟨text, (reqStr_asset v).trans htext, hhash⟩, ?_⟩
    show q.metadata = (r.withAsset v).metadata
    rw [PaymentReply.metadata, PaymentReply.entry_withAsset (by decide), hmetadata]
    rfl
  · intro now proof x
    rw [verifyAndSettleProof_eq_ok_iff, verifyAndSettleProof_eq_ok_iff]
    exact ⟨fun h => ⟨h.unused, h.hash⟩, fun h => ⟨h.unused, h.hash⟩⟩
  · intro hbinds
    exact hne (congrArg RequirementTerms.asset (hbinds.hash rfl))

/-- **Two requirements are told apart by their hashes exactly when their texts
    differ or they are cut alike and agree in the asset; and for every requirement
    there is one that it is not told apart from.** -/
theorem hash_binds_iff (hq : parse402HeaderOrBody conv sha256 now r = .ok q)
    (hq' : parse402HeaderOrBody conv sha256 now' r' = .ok q')
    (hunshared : Unshared conv sha256 q.terms q'.terms) :
    (Binds q q' ↔ ToldApart conv q.terms q'.terms)
    ∧ ∃ r'' q'', parse402HeaderOrBody conv sha256 now r'' = .ok q'' ∧ q''.asset ≠ q.asset
      ∧ (∀ now proof (x : X402PaymentAdapter),
        (x.verifyAndSettleProof now proof q'').1 = .ok true
          ↔ (x.verifyAndSettleProof now proof q).1 = .ok true)
      ∧ ¬ Binds q q'' :=
  ⟨binds_iff_toldApart hq hq' hunshared, exists_unbound hq⟩

end X402PaymentAdapter

/-! Replies for a digital item and for a cheaper one, and a reply that moves the
    colons of the first. -/

namespace SampleRequirement

open RequirementTerms X402PaymentAdapter

def conv : ReplyConversions := ⟨Text.upperAscii, fun _ => none, fun _ => none, fun _ => none⟩

def reply (resourceUrl : String) (amountPaise : Int) (currency recipient network : String) :
    PaymentReply where
  resourceUrl := resourceUrl
  statusCode := 402
  headers := .empty
  body := some ((((OrderedMap.empty.set "amount_paise" (.int amountPaise)).set "currency"
    (.str currency)).set "recipient_address" (.str recipient)).set "network" (.str network))

def requirement (resourceUrl : String) (amountPaise : Int)
    (currency recipient network hash : String) : PaymentRequirementX402 where
  resourceUrl := resourceUrl
  amountPaise := .int amountPaise
  currency := currency
  recipientAddress := .str recipient
  network := .str network
  asset := .str "INR"
  expirationTimestamp := .finite 1300
  requirementHash := hash
  metadata := .dict []

def text : String :=
  "https://api.cafeacme.local:8080:29900:INR:mer_cafe_acme:razorpay_test:1300.0"

def digest : String := "1acc24ca1bd5407fb9b0e29ed495660a1f8d9fe3770b4900de9e14cbecf1e38b"

def otherDigest : String := "d7d2925997a15e4cff5400ece6f9277faeb0d36518db9f928ad060317536d245"

def sha256 (t : String) : String := if t = text then digest else otherDigest

def item : PaymentReply :=
  reply "https://api.cafeacme.local:8080" 29900 "INR" "mer_cafe_acme" "razorpay_test"

def cheaper : PaymentReply :=
  reply "https://api.cafeacme.local:8080" 15000 "INR" "mer_cafe_acme" "razorpay_test"

def recut : PaymentReply :=
  reply "https://api.cafeacme.local" 8080 "29900" "INR" "mer_cafe_acme:razorpay_test"

def itemRequirement : PaymentRequirementX402 :=
  requirement "https://api.cafeacme.local:8080" 29900 "INR" "mer_cafe_acme" "razorpay_test"
    "1acc24ca1bd5407fb9b0e29ed495660a"

def cheaperRequirement : PaymentRequirementX402 :=
  requirement "https://api.cafeacme.local:8080" 15000 "INR" "mer_cafe_acme" "razorpay_test"
    "d7d2925997a15e4cff5400ece6f9277f"

def recutRequirement : PaymentRequirementX402 :=
  requirement "https://api.cafeacme.local" 8080 "29900" "INR" "mer_cafe_acme:razorpay_test"
    "1acc24ca1bd5407fb9b0e29ed495660a"

theorem reqStr_requirement {resourceUrl currency recipient network hash : String}
    {amountPaise : Int} (h : amountPaise.natAbs < 10 ^ 9) :
    (requirement resourceUrl amountPaise currency recipient network hash).terms.reqStr conv
      = .ok (resourceUrl ++ ":" ++ toString amountPaise ++ ":" ++ currency ++ ":" ++ recipient
        ++ ":" ++ network ++ ":" ++ "1300.0") := by
  have hamount : conv.formatted (.int amountPaise) = .ok (toString amountPaise) := by
    rw [ReplyConversions.formatted, if_pos (fewDigits_of_lt h)]
  have hexpiration : (Binary64.finite 1300).text = "1300.0" := by decide +kernel
  rw [reqStr, ← hexpiration]
  show (conv.formatted (.int amountPaise) >>= _) = _
  rw [hamount]
  rfl

theorem add_ttl : Binary64.add (.finite 1000) (.finite 300) = .finite 1300 := by decide +kernel

theorem read_reply {r : PaymentReply} {t : RequirementTerms} (hstatus : r.statusCode = 402)
    (hamount : (r.amountPaise conv).IsAmount) (hcurrency : r.currency conv = .ok t.currency)
    (httl : r.ttl = .int 300)
    (hterms : t = ⟨r.resourceUrl, r.amountPaise conv, t.currency, r.recipient, r.network,
      r.asset, .finite 1300⟩) : RequirementTerms.read conv 1000 r = .ok t := by
  refine read_eq_ok_iff.mpr ⟨hstatus, hamount, t.currency, .finite 300, hcurrency, ?_, ?_⟩
  · have hfloat : Binary64.ofRat (300 : Int) = .finite 300 := by decide +kernel
    rw [httl, ReplyConversions.toFloat, hfloat]
  · rw [add_ttl]
    exact hterms

theorem parse_item : parse402HeaderOrBody conv sha256 1000 item = .ok itemRequirement :=
  parse402HeaderOrBody_eq_ok_iff.mpr ⟨read_reply rfl (by decide) rfl rfl rfl,
    ⟨text, reqStr_requirement (by decide), by decide⟩, rfl⟩

theorem parse_cheaper : parse402HeaderOrBody conv sha256 1000 cheaper = .ok cheaperRequirement :=
  parse402HeaderOrBody_eq_ok_iff.mpr ⟨read_reply rfl (by decide) rfl rfl rfl,
    ⟨_, reqStr_requirement (by decide), by decide⟩, rfl⟩

theorem parse_recut : parse402HeaderOrBody conv sha256 1000 recut = .ok recutRequirement :=
  parse402HeaderOrBody_eq_ok_iff.mpr ⟨read_reply rfl (by decide) rfl rfl rfl,
    ⟨text, reqStr_requirement (by decide), by decide⟩, rfl⟩

theorem unshared_cheaper :
    Unshared conv sha256 itemRequirement.terms cheaperRequirement.terms := by
  intro t t' ht ht' hsame
  rw [← Except.ok.inj ((reqStr_requirement (by decide)).symm.trans ht),
    ← Except.ok.inj ((reqStr_requirement (by decide)).symm.trans ht')] at hsame
  exact absurd hsame (by decide)

theorem told_cheaper : ToldApart conv itemRequirement.terms cheaperRequirement.terms := by
  intro t ht ht'
  have hsame := Except.ok.inj ((reqStr_requirement (by decide)).symm.trans ht)
  rw [← Except.ok.inj ((reqStr_requirement (by decide)).symm.trans ht')] at hsame
  exact absurd hsame (by decide)

end SampleRequirement

open SampleRequirement X402PaymentAdapter

/-- The requirement for the item is told apart from that for the cheaper one. -/
theorem cheaper_told_apart : Binds itemRequirement cheaperRequirement :=
  (hash_binds_iff parse_item parse_cheaper unshared_cheaper).1.mpr told_cheaper

/-- The hash of the item is also that of a requirement of 8080 paise with other
    colons, and of one for another asset. -/
theorem item_not_bound :
    parse402HeaderOrBody conv sha256 1000 item = .ok itemRequirement
    ∧ parse402HeaderOrBody conv sha256 1000 recut = .ok recutRequirement
    ∧ parse402HeaderOrBody conv sha256 1000 (item.withAsset (.str "USDC"))
      = .ok { itemRequirement with asset := .str "USDC" }
    ∧ ¬ Binds itemRequirement recutRequirement
    ∧ ¬ Binds itemRequirement { itemRequirement with asset := .str "USDC" } := by
  refine ⟨parse_item, parse_recut, ?_, ?_, ?_⟩
  · obtain ⟨hread, hhash, -⟩ := parse402HeaderOrBody_eq_ok_iff.mp parse_item
    exact parse402HeaderOrBody_eq_ok_iff.mpr
      ⟨RequirementTerms.read_withAsset rfl hread, hhash, rfl⟩
  · intro hbinds
    have hurl := congrArg RequirementTerms.resourceUrl (hbinds.hash rfl)
    exact absurd hurl (by decide)
  · intro hbinds
    have hasset := congrArg RequirementTerms.asset (hbinds.hash rfl)
    exact absurd (PyValue.str.inj hasset) (by decide)

end MandateGateway
