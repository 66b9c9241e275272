import MandateGateway.Intent.Normalizer

/-! # What the normalizer accepts

    Each stage accepts what a predicate on the raw intent says: `Opens` the first
    one, `IsHeader`, `IsTotals`.  `Accepts` has them all, and a raw intent is
    accepted exactly where it holds (`accepts_of_normalize`, `normalize_of_accepts`);
    what the proposal then consists of is in `IsProposal`. -/

namespace MandateGateway

open Exceptions
open WideText (ofString)

namespace IntentNormalizer

/-! ## The structure -/

def treeOf (env : IntentEnv) : RawIntent → Option RawDict
  | .payload dump => some dump
  | .value (.str s) =>
      match env.loads s with
      | .ok (.dict d) => some d
      | _ => none
  | .value (.dict d) => some d
  | .value _ => none

/-- The raw intent is no larger than is allowed. -/
def Sized (env : IntentEnv) : RawIntent → Prop
  | .payload _ => True
  | .value (.str s) => ∃ text, s = ofString text ∧ text.utf8ByteSize ≤ maxPayloadBytes
  | .value (.dict d) =>
      ∃ serialized, RawValue.encode env.encodeRoom (.dict d) = .ok serialized
        ∧ serialized.length ≤ maxPayloadBytes
  | .value _ => True

/-- A text is decoded to a dictionary, or refused. -/
theorem treeOf_text {env : IntentEnv} {s : WideText} {d : RawDict} :
    (match env.loads s with
      | .error ex => .error (.structural (ofString "Malformed JSON payload: " ++ ex))
      | .ok (.dict d) => .ok d
      | .ok _ => .error (.structural (ofString "JSON payload must be an object.")) :
        Except IntentError RawDict) = .ok d
      ↔ treeOf env (.value (.str s)) = some d := by
  rw [treeOf]
  cases env.loads s with
  | error ex =>
      refine ⟨fun h => ?_, fun h => ?_⟩
      · cases h
      · cases h
  | ok v =>
      cases v with
      | none | bool _ | int _ | float _ | str _ | list _ =>
          refine ⟨fun h => ?_, fun h => ?_⟩
          · cases h
          · cases h
      | dict items => exact ok_eq_ok_iff.trans (eq_comm.trans Option.some_inj.symm)

theorem parseAndValidateStructure_eq_ok_iff {env : IntentEnv} {raw : RawIntent} {d : RawDict} :
    parseAndValidateStructure env raw = .ok d ↔ treeOf env raw = some d ∧ Sized env raw := by
  cases raw with
  | payload dump =>
      rw [parseAndValidateStructure, ok_eq_ok_iff, treeOf, Option.some_inj]
      exact ⟨fun h => ⟨h.symm, trivial⟩, fun h => h.1.symm⟩
  | value v =>
      cases v with
      | none | bool _ | int _ | float _ | list _ =>
          refine ⟨fun h => ?_, fun h => ?_⟩
          · cases h
          · cases h.1
      | str s =>
          rw [parseAndValidateStructure, Sized]
          cases hscalars : WideText.scalars? s with
          | none =>
              refine ⟨fun h => ?_, ?_⟩
              · cases h
              · rintro ⟨-, text, htext, -⟩
                rw [WideText.scalars?_eq_some_iff.mpr htext] at hscalars
                cases hscalars
          | some text =>
              have hsame : ∀ text', s = ofString text' ↔ text' = text := fun text' => by
                rw [← WideText.scalars?_eq_some_iff, hscalars, Option.some_inj, eq_comm]
              refine guard_eq_ok_iff.trans (and_comm.trans (and_congr treeOf_text ?_))
              simp only [hsame, exists_eq_left, not_lt]
      | dict items =>
          rw [parseAndValidateStructure, seq_eq_ok_iff, treeOf, Option.some_inj]
          constructor
          · rintro ⟨serialized, hencode, h⟩
            obtain ⟨hsize, h⟩ := guard_eq_ok_iff.mp h
            exact ⟨Except.ok.inj h, serialized, hencode, not_lt.mp hsize⟩
          · rintro ⟨rfl, serialized, hencode, hsize⟩
            exact ⟨serialized, hencode, guard_eq_ok_iff.mpr ⟨not_lt.mpr hsize, rfl⟩⟩

/-! ## The header -/

/-- What is bought from whom, as it is read. -/
structure IsHeader (d : RawDict) (header : IntentHeader) : Prop where
  buyer     : IsIdentifier (d.get "buyer_id" .none) header.buyerId
  merchant  : IsIdentifier (d.get "merchant_id" .none) header.merchantId
  mandate   : IsIdentifier (d.get "mandate_id" .none) header.mandateId
  prompt    : IsPrompt (d.get "raw_prompt" .none) header.rawPrompt
  currency  : validateCurrency (d.get "currency" (.str (ofString "INR"))) = .ok header.currency
  region    : validateRegion (d.get "region" (.str (ofString "IN"))) = .ok header.region
  operation : validateOperation (d.get "operation" (.str (ofString "create_order")))
    = .ok header.operation
  items     : d.get "items" .none = .list header.rawItems
  some_item : header.rawItems ≠ []
  few_items : header.rawItems.length ≤ maxItemsPerIntent

theorem itemsOf_eq_ok_iff {value : RawValue} {rawItems : List RawValue} :
    itemsOf value = .ok rawItems
      ↔ value = .list rawItems ∧ rawItems ≠ [] ∧ rawItems.length ≤ maxItemsPerIntent := by
  cases value with
  | none | bool _ | int _ | float _ | str _ | dict _ =>
      refine ⟨fun h => ?_, fun h => ?_⟩
      · cases h
      · cases h.1
  | list xs =>
      cases xs with
      | nil =>
          refine ⟨fun h => ?_, fun h => ?_⟩
          · cases h
          · obtain rfl := RawValue.list.inj h.1
            exact absurd rfl h.2.1
      | cons x xs =>
          rw [itemsOf, guard_eq_ok_iff, ok_eq_ok_iff, not_lt, RawValue.list.injEq]
          constructor
          · rintro ⟨hcount, rfl⟩
            exact ⟨rfl, List.cons_ne_nil x xs, hcount⟩
          · rintro ⟨rfl, -, hcount⟩
            exact ⟨hcount, rfl⟩

theorem itemsOf_contained (value : RawValue) : Contained (itemsOf value) := by
  cases value with
  | none | bool _ | int _ | float _ | str _ | dict _ => exact raises_error_iff.mpr trivial
  | list xs =>
      cases xs with
      | nil => exact raises_error_iff.mpr trivial
      | cons x xs => exact raises_guard_iff.mpr ⟨fun _ => trivial, fun _ => raises_ok _ _⟩

theorem readHeader_eq_ok_iff {d : RawDict} {header : IntentHeader} :
    readHeader d = .ok header ↔ IsHeader d header := by
  constructor
  · intro h
    obtain ⟨buyer, hbuyer, h⟩ := seq_eq_ok_iff.mp h
    obtain ⟨merchant, hmerchant, h⟩ := seq_eq_ok_iff.mp h
    obtain ⟨mandate, hmandate, h⟩ := seq_eq_ok_iff.mp h
    obtain ⟨prompt, hprompt, h⟩ := seq_eq_ok_iff.mp h
    obtain ⟨currency, hcurrency, h⟩ := seq_eq_ok_iff.mp h
    obtain ⟨region, hregion, h⟩ := seq_eq_ok_iff.mp h
    obtain ⟨operation, hoperation, h⟩ := seq_eq_ok_iff.mp h
    obtain ⟨rawItems, hitems, h⟩ := seq_eq_ok_iff.mp h
    obtain rfl := Except.ok.inj h
    obtain ⟨hlist, hne, hcount⟩ := itemsOf_eq_ok_iff.mp hitems
    exact ⟨validateIdentifier_eq_ok_iff.mp hbuyer, validateIdentifier_eq_ok_iff.mp hmerchant,
      validateIdentifier_eq_ok_iff.mp hmandate, sanitizePrompt_eq_ok_iff.mp hprompt, hcurrency,
      hregion, hoperation, hlist, hne, hcount⟩
  · intro h
    refine seq_eq_ok_iff.mpr ⟨_, validateIdentifier_eq_ok_iff.mpr h.buyer, seq_eq_ok_iff.mpr ?_⟩
    refine ⟨_, validateIdentifier_eq_ok_iff.mpr h.merchant, seq_eq_ok_iff.mpr ?_⟩
    refine ⟨_, validateIdentifier_eq_ok_iff.mpr h.mandate, seq_eq_ok_iff.mpr ?_⟩
    refine ⟨_, sanitizePrompt_eq_ok_iff.mpr h.prompt, seq_eq_ok_iff.mpr ?_⟩
    refine ⟨_, h.currency, seq_eq_ok_iff.mpr ⟨_, h.region, seq_eq_ok_iff.mpr ?_⟩⟩
    refine ⟨_, h.operation, seq_eq_ok_iff.mpr ⟨header.rawItems, ?_, rfl⟩⟩
    exact itemsOf_eq_ok_iff.mpr ⟨h.items, h.some_item, h.few_items⟩

theorem readHeader_contained (d : RawDict) : Contained (readHeader d) := by
  refine raises_seq_iff.mpr ⟨validateIdentifier_contained _ _, fun _ _ => ?_⟩
  refine raises_seq_iff.mpr ⟨validateIdentifier_contained _ _, fun _ _ => ?_⟩
  refine raises_seq_iff.mpr ⟨validateIdentifier_contained _ _, fun _ _ => ?_⟩
  refine raises_seq_iff.mpr ⟨sanitizePrompt_contained _, fun _ _ => ?_⟩
  refine raises_seq_iff.mpr ⟨validateCurrency_contained _, fun _ _ => ?_⟩
  refine raises_seq_iff.mpr ⟨validateRegion_contained _, fun _ _ => ?_⟩
  refine raises_seq_iff.mpr ⟨validateOperation_contained _, fun _ _ => ?_⟩
  exact raises_seq_iff.mpr ⟨itemsOf_contained _, fun _ _ => raises_ok _ _⟩

/-! ## The totals -/

/-- What the items cost. -/
def subtotalOf (items : List CartItem) : Int := (items.map CartItem.subtotalPaise).sum

/-- The totals of these items, as they are read and computed. -/
structure IsTotals (d : RawDict) (items : List CartItem) (totals : Totals) : Prop where
  tax      : IsAmount (d.get "tax_paise" (.int 0)) totals.taxPaise
  shipping : IsAmount (d.get "shipping_paise" (.int 0)) totals.shippingPaise
  total    : totals.totalPaise = subtotalOf items + totals.taxPaise + totals.shippingPaise
  limited  : totals.totalPaise ≤ maxTotalAmountPaise
  declared : d.get "total_paise" .none = .none
    ∨ IsAmount (d.get "total_paise" .none) totals.totalPaise

theorem subtotalOf_nonneg (items : List CartItem) : 0 ≤ subtotalOf items := by
  refine List.sum_nonneg ?_
  intro x hx
  obtain ⟨item, -, rfl⟩ := List.mem_map.mp hx
  exact item.subtotalPaise_nonneg

theorem IsTotals.total_nonneg {d : RawDict} {items : List CartItem} {totals : Totals}
    (h : IsTotals d items totals) : 0 ≤ totals.totalPaise := by
  have hitems := subtotalOf_nonneg items
  have htax := h.tax.nonneg
  have hshipping := h.shipping.nonneg
  rw [h.total]
  omega

theorem mismatchedTotal_ne_ok {declaredVal itemsSubtotal : Int} {totals : Totals} :
    mismatchedTotal declaredVal itemsSubtotal totals ≠ .ok () := by
  intro h
  obtain ⟨_, -, h⟩ := seq_eq_ok_iff.mp h
  obtain ⟨_, -, h⟩ := seq_eq_ok_iff.mp h
  obtain ⟨_, -, h⟩ := seq_eq_ok_iff.mp h
  obtain ⟨_, -, h⟩ := seq_eq_ok_iff.mp h
  obtain ⟨_, -, h⟩ := seq_eq_ok_iff.mp h
  cases h

theorem checkDeclaredTotal_eq_ok_iff {declared : RawValue} {itemsSubtotal : Int}
    {totals : Totals} :
    checkDeclaredTotal declared itemsSubtotal totals = .ok ()
      ↔ declared = .none ∨ IsAmount declared totals.totalPaise := by
  have hgiven : ∀ value, (do
      let declaredVal ← validateIntegerAmount value "total_paise"
      if declaredVal ≠ totals.totalPaise then mismatchedTotal declaredVal itemsSubtotal totals
      else .ok ()) = .ok () ↔ IsAmount value totals.totalPaise := by
    intro value
    rw [seq_eq_ok_iff]
    constructor
    · rintro ⟨declaredVal, hvalid, h⟩
      have hsame := ((ite_eq_iff_of_ne mismatchedTotal_ne_ok).mp h).1
      rw [not_not] at hsame
      rw [← hsame]
      exact validateIntegerAmount_eq_ok_iff.mp hvalid
    · intro h
      exact ⟨_, validateIntegerAmount_eq_ok_iff.mpr h,
        (ite_eq_iff_of_ne mismatchedTotal_ne_ok).mpr ⟨not_not.mpr rfl, rfl⟩⟩
  cases declared with
  | none => exact ⟨fun _ => .inl rfl, fun _ => rfl⟩
  | bool _ | int _ | float _ | str _ | list _ | dict _ =>
      refine (hgiven _).trans ⟨.inr, fun h => h.resolve_left fun heq => ?_⟩
      cases heq

theorem computeTotals_eq_ok_iff {d : RawDict} {items : List CartItem} {totals : Totals} :
    computeTotals d items = .ok totals ↔ IsTotals d items totals := by
  constructor
  · intro h
    obtain ⟨tax, htax, h⟩ := seq_eq_ok_iff.mp h
    obtain ⟨shipping, hshipping, h⟩ := seq_eq_ok_iff.mp h
    obtain ⟨hlimit, h⟩ := (ite_eq_iff_of_ne refuseWith_ne_ok).mp h
    obtain ⟨hdeclared, h⟩ := seq_unit_eq_ok_iff.mp h
    obtain rfl := Except.ok.inj h
    exact ⟨validateIntegerAmount_eq_ok_iff.mp htax, validateIntegerAmount_eq_ok_iff.mp hshipping,
      rfl, not_lt.mp hlimit, checkDeclaredTotal_eq_ok_iff.mp hdeclared⟩
  · intro h
    obtain ⟨tax, shipping, total⟩ := totals
    obtain rfl : total = subtotalOf items + tax + shipping := h.total
    refine seq_eq_ok_iff.mpr ⟨tax, validateIntegerAmount_eq_ok_iff.mpr h.tax, ?_⟩
    refine seq_eq_ok_iff.mpr ⟨shipping, validateIntegerAmount_eq_ok_iff.mpr h.shipping, ?_⟩
    refine (ite_eq_iff_of_ne refuseWith_ne_ok).mpr ⟨not_lt.mpr h.limited, ?_⟩
    exact seq_unit_eq_ok_iff.mpr ⟨checkDeclaredTotal_eq_ok_iff.mpr h.declared, rfl⟩

/-! ## The cart and the intent -/

section
variable {env : IntentEnv} {d : RawDict} {header : IntentHeader} {validated : List CartItem}
  {totals : Totals}

/-- The cart of these items and totals. -/
structure IsCart (env : IntentEnv) (header : IntentHeader) (items : List CartItem)
    (totals : Totals) (cart : Cart) : Prop where
  merchant : cart.merchantId = header.merchantId
  mandate  : cart.mandateId = header.mandateId
  currency : cart.currency = header.currency
  items    : cart.items = items
  tax      : cart.taxPaise = totals.taxPaise
  shipping : cart.shippingPaise = totals.shippingPaise
  total    : cart.totalPaise = totals.totalPaise
  hash     : cart.cartHash = cart.computeCartObjectHash env.sha

/-- A valid item is the merchant's, in the currency of the intent. -/
theorem Describes.agrees {room : Nat} {merchantId : String} {currency : Currency}
    {rawItem : RawValue} {item : CartItem} (h : Describes room merchantId currency rawItem item) :
    item.currency = currency ∧ item.merchantId = merchantId := by
  obtain ⟨raw, head, hitem⟩ := h
  exact ⟨hitem.built.currency, hitem.built.merchant.trans hitem.read.same⟩

theorem exists_describes {room : Nat} {merchantId : String} {currency : Currency}
    {rawItems : List RawValue} {items : List CartItem}
    (h : List.Forall₂ (Describes room merchantId currency) rawItems items) :
    ∀ item ∈ items, ∃ rawItem ∈ rawItems, Describes room merchantId currency rawItem item := by
  induction h with
  | nil => exact fun _ hmem => absurd hmem List.not_mem_nil
  | cons hfirst hrest ih =>
      rw [List.forall_mem_cons]
      refine ⟨⟨_, List.mem_cons_self, hfirst⟩, fun item hmem => ?_⟩
      obtain ⟨rawItem, hraw, hdescribes⟩ := ih item hmem
      exact ⟨rawItem, List.mem_cons_of_mem _ hraw, hdescribes⟩

theorem mem_sortedItems {item : CartItem} {items : List CartItem} :
    item ∈ sortedItems items ↔ item ∈ items :=
  (List.perm_insertionSort _ items).mem_iff

theorem length_sortedItems (items : List CartItem) :
    (sortedItems items).length = items.length :=
  (List.perm_insertionSort _ items).length_eq

/-- **A cart is built of every list of valid items.** -/
theorem buildCart_returns (hheader : IsHeader d header)
    (hitems : List.Forall₂ (Describes env.itemRoom header.merchantId header.currency)
      header.rawItems validated)
    (htotals : IsTotals d (sortedItems validated) totals) :
    ∃ cart, buildCart env header (sortedItems validated) totals = .ok cart := by
  refine ⟨_, dif_pos ⟨⟨hheader.merchant.ne, hheader.mandate.ne⟩, ?_, ?_,
    ⟨htotals.tax.nonneg, htotals.shipping.nonneg⟩, htotals.total⟩⟩
  · have hlength := hitems.length_eq
    rw [← List.length_pos_iff, length_sortedItems, ← hlength, List.length_pos_iff]
    exact hheader.some_item
  · intro item hitem
    obtain ⟨rawItem, -, hdescribes⟩ := exists_describes hitems item (mem_sortedItems.mp hitem)
    exact hdescribes.agrees

theorem buildCart_eq_ok {cart : Cart} {items : List CartItem}
    (h : buildCart env header items totals = .ok cart) : IsCart env header items totals cart := by
  rw [buildCart] at h
  split at h
  · obtain rfl := Except.ok.inj h
    exact ⟨rfl, rfl, rfl, rfl, rfl, rfl, rfl, rfl⟩
  · cases h

/-- The intent of this header, these totals and these metadata. -/
structure IsIntent (header : IntentHeader) (items : List CartItem) (totals : Totals)
    (metadata : RawDict) (intent : NormalizedIntent) : Prop where
  buyer    : intent.buyerId = header.buyerId
  prompt   : header.rawPrompt = ofString intent.rawPrompt
  category : intent.targetCategory = targetCategory items
  merchant : intent.targetMerchantId = header.merchantId
  budget   : intent.maxBudgetPaise = totals.totalPaise
  currency : intent.currency = header.currency
  region   : intent.region = header.region
  metadata : intent.metadata = metadata

/-- **An intent is made** where its prompt can be encoded. -/
theorem newCommerceIntent_ends {items : List CartItem} (metadata : RawDict)
    (hheader : IsHeader d header) (htotals : IsTotals d items totals) :
    EndsBy (Encodable header.rawPrompt) (newCommerceIntent env header items totals metadata) := by
  rw [encodable_iff_isSome, newCommerceIntent]
  cases hprompt : WideText.scalars? header.rawPrompt with
  | none =>
      refine .inr ⟨?_, _, rfl⟩
      rintro ⟨text, h⟩
      cases h
  | some text =>
      refine .inl ⟨⟨text, rfl⟩, _, dif_pos ⟨hheader.buyer.ne, ?_, ?_⟩⟩
      · have htext := WideText.scalars?_eq_some_iff.mp hprompt
        have hne : text ≠ "" := fun h =>
          hheader.prompt.ne (htext.trans (ofString_eq_nil_iff.mpr h))
        have hbounded := hheader.prompt.bounded
        rw [htext, WideText.length_ofString] at hbounded
        exact ⟨hne, hbounded⟩
      · exact htotals.total_nonneg

theorem newCommerceIntent_eq_ok {items : List CartItem} {metadata : RawDict}
    {intent : NormalizedIntent}
    (h : newCommerceIntent env header items totals metadata = .ok intent) :
    IsIntent header items totals metadata intent := by
  rw [newCommerceIntent] at h
  cases hprompt : WideText.scalars? header.rawPrompt with
  | none =>
      rw [hprompt] at h
      cases h
  | some text =>
      rw [hprompt] at h
      dsimp only at h
      split at h
      · obtain rfl := Except.ok.inj h
        exact ⟨rfl, WideText.scalars?_eq_some_iff.mp hprompt, rfl, rfl, rfl, rfl, rfl, rfl⟩
      · cases h

end

/-! ## Acceptance -/

/-- The raw intent passes the first stage: it has a dictionary of no more than the
    size that is allowed, where the scan finds no claim. -/
structure Opens (env : IntentEnv) (raw : RawIntent) (d : RawDict) : Prop where
  tree      : treeOf env raw = some d
  sized     : Sized env raw
  unclaimed : ¬ Claimed env.scanRoom d
  fits      : ScanFits env.scanRoom d

structure ReadAs (env : IntentEnv) (d : RawDict) (header : IntentHeader)
    (validated : List CartItem) (totals : Totals) : Prop where
  reads    : IsHeader d header
  items    : List.Forall₂ (Describes env.itemRoom header.merchantId header.currency)
    header.rawItems validated
  counts   : IsTotals d (sortedItems validated) totals
  metadata : metadataDepth (d.get "metadata" (.dict [])) ≤ env.metadataRoom
  prompt   : Encodable header.rawPrompt

structure Accepts (env : IntentEnv) (raw : RawIntent) (d : RawDict) (header : IntentHeader)
    (validated : List CartItem) (totals : Totals) : Prop
    extends ReadAs env d header validated totals where
  opens : Opens env raw d

/-- The proposal of what is read. -/
structure IsProposal (env : IntentEnv) (d : RawDict) (header : IntentHeader)
    (validated : List CartItem) (totals : Totals) (proposal : NormalizedCommerceProposal) :
    Prop where
  cart   : IsCart env header (sortedItems validated) totals proposal.cart
  intent : ∃ clean, sanitizeMetadata env.metadataRoom (d.get "metadata" (.dict [])) = .ok clean
    ∧ IsIntent header (sortedItems validated) totals (withOperation header.operation clean)
      proposal.intent

section
variable {env : IntentEnv} {raw : RawIntent}

theorem opens_iff {d : RawDict} :
    Opens env raw d ↔ parseAndValidateStructure env raw = .ok d
      ∧ scanItems env.scanRoom [] d = .ok () := by
  rw [parseAndValidateStructure_eq_ok_iff, scanItems_eq_ok_iff]
  exact ⟨fun h => ⟨⟨h.tree, h.sized⟩, h.unclaimed, h.fits⟩,
    fun h => ⟨h.1.1, h.1.2, h.2.1, h.2.2⟩⟩

theorem accepts_of_normalize {proposal : NormalizedCommerceProposal}
    (h : normalize env raw = .ok proposal) :
    ∃ d header validated totals, Accepts env raw d header validated totals
      ∧ IsProposal env d header validated totals proposal := by
  obtain ⟨d, hparse, h⟩ := seq_eq_ok_iff.mp h
  obtain ⟨hscan, h⟩ := seq_unit_eq_ok_iff.mp h
  obtain ⟨header, hheader, h⟩ := seq_eq_ok_iff.mp h
  obtain ⟨validated, hitems, h⟩ := seq_eq_ok_iff.mp h
  obtain ⟨totals, htotals, h⟩ := seq_eq_ok_iff.mp h
  obtain ⟨cart, hcart, h⟩ := seq_eq_ok_iff.mp h
  obtain ⟨clean, hclean, h⟩ := seq_eq_ok_iff.mp h
  obtain ⟨intent, hintent, h⟩ := seq_eq_ok_iff.mp h
  obtain rfl := Except.ok.inj h
  have hheader := readHeader_eq_ok_iff.mp hheader
  have htotals := computeTotals_eq_ok_iff.mp htotals
  refine ⟨d, header, validated, totals, ⟨⟨hheader,
    (validateItems_eq_ok_iff hheader.merchant.ne).mp hitems, htotals, ?_, ?_⟩,
    opens_iff.mpr ⟨hparse, hscan⟩⟩, buildCart_eq_ok hcart, clean, hclean,
    newCommerceIntent_eq_ok hintent⟩
  · exact (sanitizeMetadata_ends _ _).returns_iff.mp ⟨clean, hclean⟩
  · exact (newCommerceIntent_ends _ hheader htotals).returns_iff.mp ⟨intent, hintent⟩

/-- **A raw intent is accepted** where every stage accepts it. -/
theorem normalize_of_accepts {d : RawDict} {header : IntentHeader} {validated : List CartItem}
    {totals : Totals} (h : Accepts env raw d header validated totals) :
    ∃ proposal, normalize env raw = .ok proposal
      ∧ IsProposal env d header validated totals proposal := by
  obtain ⟨hparse, hscan⟩ := opens_iff.mp h.opens
  obtain ⟨cart, hcart⟩ := buildCart_returns h.reads h.items h.counts
  obtain ⟨clean, hclean⟩ := (sanitizeMetadata_ends _ _).returns_iff.mpr h.metadata
  obtain ⟨intent, hintent⟩ := (newCommerceIntent_ends
    (withOperation header.operation clean) h.reads h.counts).returns_iff.mpr h.prompt
  refine ⟨⟨intent, cart, env.normalizedAt⟩, ?_, buildCart_eq_ok hcart, clean, hclean,
    newCommerceIntent_eq_ok hintent⟩
  refine seq_eq_ok_iff.mpr ⟨d, hparse, seq_unit_eq_ok_iff.mpr ⟨hscan, seq_eq_ok_iff.mpr ?_⟩⟩
  refine ⟨header, readHeader_eq_ok_iff.mpr h.reads, seq_eq_ok_iff.mpr ?_⟩
  refine ⟨validated, (validateItems_eq_ok_iff h.reads.merchant.ne).mpr h.items, ?_⟩
  refine seq_eq_ok_iff.mpr ⟨totals, computeTotals_eq_ok_iff.mpr h.counts, seq_eq_ok_iff.mpr ?_⟩
  refine ⟨cart, hcart, seq_eq_ok_iff.mpr ⟨clean, hclean, seq_eq_ok_iff.mpr ?_⟩⟩
  exact ⟨intent, hintent, rfl⟩

end

/-! ## An order of books -/

namespace Sample

def text (s : String) : RawValue := .str (ofString s)

def field (name : String) (v : RawValue) : RawKey × RawValue := (RawDict.key name, v)

def line (productId : String) (quantity : RawValue) : RawValue :=
  .dict [
    field "product_id" (text productId),
    field "name" (text "Atlas"),
    field "category" (text "Maps"),
    field "quantity" quantity,
    field "unit_price_paise" (.int 12500)]

def order (items : List RawValue) : RawDict := [
  field "buyer_id" (text "buyer-3"),
  field "merchant_id" (text "bookshop-4"),
  field "mandate_id" (text "mandate-92"),
  field "raw_prompt" (text "An atlas, please."),
  field "items" (.list items),
  field "tax_paise" (.int 2700),
  field "shipping_paise" (.int 1900)]

def env : IntentEnv where
  loads := fun _ => .error (ofString "not a text")
  encodeRoom := 900
  scanRoom := 900
  itemRoom := 900
  metadataRoom := 900
  sha := Digest.sha
  cartId := "cart-92"
  intentId := "intent-92"
  cartCreatedAt := 1709210096000000
  intentCreatedAt := 1709210096000000
  normalizedAt := 1709210096000000

def ordered (items : List RawValue) : RawIntent := .value (.dict (order items))

end Sample

end IntentNormalizer

end MandateGateway
