import MandateGateway.Intent.Acceptance
import MandateGateway.Lib.Separated
import Mathlib.Data.List.Perm.Basic

/-! # What a proposal holds

    The bounds, the arithmetic, the order and the hash of a proposal that is
    accepted (`IsWellFormed`), and that none of it depends on the order of the
    items, as long as their product ids differ by more than whitespace.  The ids
    are trimmed before the items are sorted, and the sort is stable: two items
    whose ids differ in whitespace alone are one product twice, and stay in the
    order in which they came. -/

/-! ## Intents with their items in another order

    A dictionary with its items in another order is written in as many
    characters, is scanned for the same keys, and is read the same but for the
    items, which are valid or not whatever their order. -/

namespace MandateGateway

open Exceptions
open WideText (ofString)

/-! ## Serialization -/

namespace RawValue

/-- The serializer can write `v'` where it can write `v`, in as many characters. -/
def WrittenAs (room : Nat) (v v' : RawValue) : Prop :=
  ∀ part, encode room v = .ok part →
    ∃ part', encode room v' = .ok part' ∧ part'.length = part.length

theorem encodeElems_eq_ok_iff {room : Nat} {xs : List RawValue} {parts : List (List Char)} :
    encodeElems room xs = .ok parts
      ↔ List.Forall₂ (fun x part => encode room x = .ok part) xs parts := by
  induction xs generalizing parts with
  | nil =>
      rw [List.forall₂_nil_left_iff]
      exact ok_eq_ok_iff
  | cons x xs ih =>
      rw [encodeElems, seq_eq_ok_iff, List.forall₂_cons_left_iff]
      constructor
      · rintro ⟨part, hpart, h⟩
        obtain ⟨parts', hparts, h⟩ := seq_eq_ok_iff.mp h
        exact ⟨part, parts', hpart, ih.mp hparts, (Except.ok.inj h).symm⟩
      · rintro ⟨part, parts', hpart, hparts, rfl⟩
        exact ⟨part, hpart, seq_eq_ok_iff.mpr ⟨parts', ih.mpr hparts, rfl⟩⟩

theorem length_bracketed {opening closing : Char} {parts parts' : List (List Char)}
    (h : (parts'.map List.length).Perm (parts.map List.length)) :
    (bracketed opening closing parts').length = (bracketed opening closing parts).length := by
  have hjoined : ([',', ' '].intercalate parts').length = ([',', ' '].intercalate parts).length :=
    Separated.length_intercalate_of_perm h
  simp only [bracketed, List.length_append, List.length_cons, hjoined]

/-- **A list in another order** is written in as many characters. -/
theorem list_writtenAs (room : Nat) {xs xs' : List RawValue} (hperm : xs'.Perm xs) :
    WrittenAs room (.list xs) (.list xs') := by
  intro part h
  cases room with
  | zero => cases h
  | succ room =>
      obtain ⟨parts, hparts, rfl⟩ := map_eq_ok_iff.mp h
      obtain ⟨parts', hparts', hperm'⟩ :=
        List.perm_comp_forall₂ hperm (encodeElems_eq_ok_iff.mp hparts)
      refine ⟨_, map_eq_ok_iff.mpr ⟨parts', encodeElems_eq_ok_iff.mpr hparts', rfl⟩, ?_⟩
      exact length_bracketed (hperm'.map List.length)

theorem encodeItems_cons_eq_ok_iff {room : Nat} {k : RawKey} {v : RawValue} {items : RawDict}
    {parts : List (List Char)} :
    encodeItems room ((k, v) :: items) = .ok parts
      ↔ ∃ key part rest, keyChars k = .ok key ∧ encode room v = .ok part
        ∧ encodeItems room items = .ok rest ∧ parts = (key ++ [':', ' '] ++ part) :: rest := by
  rw [encodeItems, seq_eq_ok_iff]
  constructor
  · rintro ⟨key, hkey, h⟩
    obtain ⟨part, hpart, h⟩ := seq_eq_ok_iff.mp h
    obtain ⟨rest, hrest, h⟩ := seq_eq_ok_iff.mp h
    exact ⟨key, part, rest, hkey, hpart, hrest, (Except.ok.inj h).symm⟩
  · rintro ⟨key, part, rest, hkey, hpart, hrest, rfl⟩
    exact ⟨key, hkey, seq_eq_ok_iff.mpr ⟨part, hpart, seq_eq_ok_iff.mpr ⟨rest, hrest, rfl⟩⟩⟩

theorem encodeItems_setEntries {room : Nat} {k : RawKey} {v v' : RawValue}
    (hwritten : WrittenAs room v v') {d : RawDict} {parts : List (List Char)}
    (hv : OrderedMap.lookupEntries k d = some v) (h : encodeItems room d = .ok parts) :
    ∃ parts', encodeItems room (OrderedMap.setEntries k v' d) = .ok parts'
      ∧ parts'.map List.length = parts.map List.length := by
  induction d generalizing parts with
  | nil => cases hv
  | cons item items ih =>
      obtain ⟨k₁, v₁⟩ := item
      obtain ⟨key, part, rest, hkey, hpart, hrest, rfl⟩ := encodeItems_cons_eq_ok_iff.mp h
      rw [OrderedMap.lookupEntries] at hv
      rw [OrderedMap.setEntries]
      by_cases hsame : k₁ = k
      · rw [if_pos hsame] at hv ⊢
        obtain rfl := Option.some.inj hv
        obtain ⟨part', hpart', hlength⟩ := hwritten part hpart
        refine ⟨_, encodeItems_cons_eq_ok_iff.mpr
          ⟨key, part', rest, hsame ▸ hkey, hpart', hrest, rfl⟩, ?_⟩
        simp only [List.map_cons, List.length_append, hlength]
      · rw [if_neg hsame] at hv ⊢
        obtain ⟨rest', hrest', hlengths⟩ := ih hv hrest
        refine ⟨_, encodeItems_cons_eq_ok_iff.mpr
          ⟨key, part, rest', hkey, hpart, hrest', rfl⟩, ?_⟩
        rw [List.map_cons, List.map_cons, hlengths]

end RawValue

namespace IntentNormalizer

/-! ## The dictionary with other items -/

/-- `{**d, "items": items}`. -/
def withItems (d : RawDict) (items : List RawValue) : RawDict :=
  OrderedMap.setEntries (RawDict.key "items") (.list items) d

section
variable {d : RawDict} {items items' : List RawValue}

theorem get_withItems_of_ne {name : String} (hne : name ≠ "items") (default : RawValue) :
    (withItems d items').get name default = d.get name default := by
  have hkey : RawDict.key name ≠ RawDict.key "items" := fun h =>
    hne (WideText.ofString_injective (RawKey.str.inj h))
  rw [RawDict.get, RawDict.get, RawDict.find, RawDict.find, withItems,
    OrderedMap.lookupEntries_setEntries_of_ne hkey]

theorem get_items_withItems (default : RawValue) :
    (withItems d items').get "items" default = .list items' := by
  rw [RawDict.get, RawDict.find, withItems, OrderedMap.lookupEntries_setEntries_self,
    Option.getD_some]

theorem find_items_of_get (h : d.get "items" .none = .list items) :
    d.find "items" = some (.list items) := by
  rw [RawDict.get] at h
  cases hfind : d.find "items" with
  | none =>
      rw [hfind] at h
      cases h
  | some v =>
      rw [hfind] at h
      exact congrArg some h

/-- **The dictionary is written in as many characters.** -/
theorem withItems_writtenAs (room : Nat) (hitems : d.find "items" = some (.list items))
    (hperm : items'.Perm items) :
    RawValue.WrittenAs room (.dict d) (.dict (withItems d items')) := by
  intro part h
  cases room with
  | zero => cases h
  | succ room =>
      obtain ⟨parts, hparts, rfl⟩ := map_eq_ok_iff.mp h
      obtain ⟨parts', hparts', hlengths⟩ := RawValue.encodeItems_setEntries
        (RawValue.list_writtenAs room hperm) hitems hparts
      refine ⟨_, map_eq_ok_iff.mpr ⟨parts', hparts', rfl⟩, ?_⟩
      exact RawValue.length_bracketed (.of_eq hlengths)

/-! ## The scan -/

theorem visitsOfElems_eq (room : Nat) (xs : List RawValue) :
    visitsOfElems room xs = xs.flatMap (visitsOfElem room) := by
  induction xs with
  | nil => rfl
  | cons x xs ih => rw [visitsOfElems, ih, List.flatMap_cons]

theorem visits_setEntries {room : Nat} {k : RawKey} {v v' : RawValue} {d : RawDict}
    (hvisits : (visitsOfValue room v').Perm (visitsOfValue room v))
    (hv : OrderedMap.lookupEntries k d = some v) :
    (visits room (OrderedMap.setEntries k v' d)).Perm (visits room d) := by
  induction d with
  | nil => cases hv
  | cons item items ih =>
      obtain ⟨k₁, v₁⟩ := item
      rw [OrderedMap.lookupEntries] at hv
      rw [OrderedMap.setEntries]
      by_cases hsame : k₁ = k
      · rw [if_pos hsame] at hv ⊢
        obtain rfl := Option.some.inj hv
        rw [visits, visits, hsame]
        refine List.Perm.append_right _ ?_
        by_cases hmetadata : k = metadataKey
        · rw [if_pos hmetadata, if_pos hmetadata]
        · rw [if_neg hmetadata, if_neg hmetadata]
          exact hvisits.cons _
      · rw [if_neg hsame] at hv ⊢
        rw [visits, visits]
        exact (ih hv).append_left _

/-- **The scan looks at the same.** -/
theorem visits_withItems (room : Nat) (hitems : d.find "items" = some (.list items))
    (hperm : items'.Perm items) : (visits room (withItems d items')).Perm (visits room d) := by
  refine visits_setEntries ?_ hitems
  rw [visitsOfValue, visitsOfValue, visitsOfElems_eq, visitsOfElems_eq]
  exact hperm.flatMap_right _

end

/-! ## Raw intents -/

/-- The calls differ in their identifiers and times only. -/
structure Alike (env env' : IntentEnv) : Prop where
  loads        : env'.loads = env.loads
  encodeRoom   : env'.encodeRoom = env.encodeRoom
  scanRoom     : env'.scanRoom = env.scanRoom
  itemRoom     : env'.itemRoom = env.itemRoom
  metadataRoom : env'.metadataRoom = env.metadataRoom
  sha          : env'.sha = env.sha

/-- The second raw intent is the first with its items in another order: a
    dictionary with these items under `items`, or a text, no longer than the
    other, that is decoded to it. -/
inductive Reordered (env : IntentEnv) (items : List RawValue) : RawIntent → RawIntent → Prop where
  | payload (d : RawDict) (items' : List RawValue) (hitems : d.find "items" = some (.list items))
      (hperm : items'.Perm items) :
      Reordered env items (.payload d) (.payload (withItems d items'))
  | dict (d : RawDict) (items' : List RawValue) (hitems : d.find "items" = some (.list items))
      (hperm : items'.Perm items) :
      Reordered env items (.value (.dict d)) (.value (.dict (withItems d items')))
  | text (d : RawDict) (items' : List RawValue) (text text' : String)
      (hitems : d.find "items" = some (.list items)) (hperm : items'.Perm items)
      (hload : env.loads (ofString text) = .ok (.dict d))
      (hload' : env.loads (ofString text') = .ok (.dict (withItems d items')))
      (hsize : text'.utf8ByteSize ≤ text.utf8ByteSize) :
      Reordered env items (.value (.str (ofString text))) (.value (.str (ofString text')))

section
variable {env env' : IntentEnv} {raw raw' : RawIntent} {d : RawDict} {items : List RawValue}

/-- What a reordered raw intent consists of. -/
theorem Reordered.tree (h : Reordered env items raw raw') (halike : Alike env env')
    (htree : treeOf env raw = some d) (hsized : Sized env raw) :
    d.find "items" = some (.list items) ∧ ∃ items', items'.Perm items
      ∧ treeOf env' raw' = some (withItems d items') ∧ Sized env' raw' := by
  cases h with
  | payload d₁ items' hitems hperm =>
      obtain rfl := Option.some.inj htree
      exact ⟨hitems, items', hperm, rfl, trivial⟩
  | dict d₁ items' hitems hperm =>
      obtain rfl := Option.some.inj htree
      refine ⟨hitems, items', hperm, rfl, ?_⟩
      obtain ⟨serialized, hencode, hsize⟩ := hsized
      obtain ⟨serialized', hencode', hlength⟩ :=
        withItems_writtenAs env.encodeRoom hitems hperm serialized hencode
      refine ⟨serialized', ?_, hlength ▸ hsize⟩
      rw [halike.encodeRoom]
      exact hencode'
  | text d₁ items' text text' hitems hperm hload hload' hsize =>
      rw [← treeOf_text, hload] at htree
      obtain rfl := Except.ok.inj htree
      refine ⟨hitems, items', hperm, ?_, text', rfl, ?_⟩
      · rw [← treeOf_text, halike.loads, hload']
      · obtain ⟨text₁, htext, hsize₁⟩ := hsized
        rw [← WideText.ofString_injective htext] at hsize₁
        exact hsize.trans hsize₁

/-- A reordered raw intent passes the first stage with the other one. -/
theorem Opens.reordered (h : Opens env raw d) (hreordered : Reordered env items raw raw')
    (halike : Alike env env') :
    d.find "items" = some (.list items) ∧ ∃ items', items'.Perm items
      ∧ Opens env' raw' (withItems d items') := by
  obtain ⟨hitems, items', hperm, htree, hsized⟩ := hreordered.tree halike h.tree h.sized
  have hvisits := visits_withItems env.scanRoom hitems hperm
  refine ⟨hitems, items', hperm, htree, hsized, ?_, ?_⟩
  · rw [halike.scanRoom]
    rintro ⟨visit, hvisit, hclaims⟩
    exact h.unclaimed ⟨visit, hvisits.mem_iff.mp hvisit, hclaims⟩
  · rw [halike.scanRoom]
    exact fun visit hvisit => h.fits visit (hvisits.mem_iff.mp hvisit)

end

def IntentHeader.withItems (header : IntentHeader) (items : List RawValue) : IntentHeader :=
  { header with rawItems := items }

section
variable {env env' : IntentEnv} {raw raw' : RawIntent} {d : RawDict} {header : IntentHeader}
  {items items' : List RawValue} {validated : List CartItem} {totals : Totals}

theorem IsHeader.withItems (h : IsHeader d header) (hperm : items'.Perm header.rawItems) :
    IsHeader (withItems d items') (header.withItems items') := by
  have hget : ∀ {name : String}, name ≠ "items" → ∀ default,
      (IntentNormalizer.withItems d items').get name default = d.get name default :=
    get_withItems_of_ne
  refine ⟨?_, ?_, ?_, ?_, ?_, ?_, ?_, get_items_withItems .none, ?_, ?_⟩
  · rw [hget (by decide)]
    exact h.buyer
  · rw [hget (by decide)]
    exact h.merchant
  · rw [hget (by decide)]
    exact h.mandate
  · rw [hget (by decide)]
    exact h.prompt
  · rw [hget (by decide)]
    exact h.currency
  · rw [hget (by decide)]
    exact h.region
  · rw [hget (by decide)]
    exact h.operation
  · intro hnil
    have hempty : header.rawItems = [] := List.perm_nil.mp (hnil ▸ hperm.symm)
    exact h.some_item hempty
  · exact hperm.length_eq.trans_le h.few_items

theorem IsTotals.withItems (h : IsTotals d validated totals) :
    IsTotals (withItems d items') validated totals := by
  have hget : ∀ {name : String}, name ≠ "items" → ∀ default,
      (IntentNormalizer.withItems d items').get name default = d.get name default :=
    get_withItems_of_ne
  refine ⟨?_, ?_, h.total, h.limited, ?_⟩
  · rw [hget (by decide)]
    exact h.tax
  · rw [hget (by decide)]
    exact h.shipping
  · rw [hget (by decide)]
    exact h.declared

/-- **A reordered raw intent is accepted with the other one,** with the same
    totals and, of distinct products, the same sorted items. -/
theorem Accepts.reordered (h : Accepts env raw d header validated totals)
    (hreordered : Reordered env items raw raw') (halike : Alike env env')
    (hdistinct : (validated.map CartItem.productId).Nodup) :
    ∃ items' validated', Accepts env' raw' (withItems d items') (header.withItems items')
      validated' totals ∧ sortedItems validated' = sortedItems validated := by
  obtain ⟨hitems, items', hperm, hopens⟩ := h.opens.reordered hreordered halike
  -- the items that are reordered are those that are read
  rw [find_items_of_get h.reads.items, Option.some_inj, RawValue.list.injEq] at hitems
  rw [← hitems] at hperm
  obtain ⟨validated', hvalid, hvalidated⟩ := List.perm_comp_forall₂ hperm h.items
  have hsorted : sortedItems validated' = sortedItems validated :=
    StableSort.sortBy_eq_of_perm hdistinct hvalidated
  refine ⟨items', validated', ⟨⟨h.reads.withItems hperm, ?_, ?_, ?_, h.prompt⟩, hopens⟩, hsorted⟩
  · rw [halike.itemRoom]
    exact hvalid
  · rw [hsorted]
    exact h.counts.withItems
  · rw [halike.metadataRoom, get_withItems_of_ne (by decide)]
    exact h.metadata

end

end IntentNormalizer

end MandateGateway

namespace MandateGateway

open Exceptions
open WideText (ofString)

namespace IntentNormalizer

/-- The proposal keeps its bounds and adds up. -/
structure IsWellFormed (env : IntentEnv) (d : RawDict) (proposal : NormalizedCommerceProposal) :
    Prop where
  count    : 1 ≤ proposal.cart.items.length ∧ proposal.cart.items.length ≤ maxItemsPerIntent
  quantity : ∀ item ∈ proposal.cart.items, 1 ≤ item.quantity ∧ item.quantity ≤ maxItemQuantity
  price    : ∀ item ∈ proposal.cart.items,
    0 ≤ item.unitPricePaise ∧ item.unitPricePaise ≤ maxSingleItemPricePaise
  agree    : ∀ item ∈ proposal.cart.items,
    item.merchantId = proposal.cart.merchantId ∧ item.currency = proposal.cart.currency
  sorted   : proposal.cart.items.Pairwise fun i j => i.productId ≤ j.productId
  total    : proposal.cart.totalPaise
    = (proposal.cart.items.map fun item => item.quantity * item.unitPricePaise).sum
      + proposal.cart.taxPaise + proposal.cart.shippingPaise
  declared : d.get "total_paise" .none = .none
    ∨ IsAmount (d.get "total_paise" .none) proposal.cart.totalPaise
  limited  : proposal.cart.totalPaise ≤ maxTotalAmountPaise
  hash     : proposal.cart.cartHash = computeCartHash env.sha proposal.cart.merchantId
    proposal.cart.mandateId proposal.cart.currency proposal.cart.items proposal.cart.taxPaise
    proposal.cart.shippingPaise proposal.cart.totalPaise

section
variable {env env' : IntentEnv} {raw raw' : RawIntent} {d : RawDict} {header : IntentHeader}
  {validated : List CartItem} {totals : Totals} {proposal proposal' : NormalizedCommerceProposal}

theorem Accepts.wellFormed (h : Accepts env raw d header validated totals)
    (hproposal : IsProposal env d header validated totals proposal) :
    IsWellFormed env d proposal := by
  have hcart := hproposal.cart
  have hdescribed : ∀ item ∈ proposal.cart.items, ∃ rawItem ∈ header.rawItems,
      Describes env.itemRoom header.merchantId header.currency rawItem item := by
    intro item hitem
    rw [hcart.items, mem_sortedItems] at hitem
    exact exists_describes h.items item hitem
  have hlength : proposal.cart.items.length = header.rawItems.length := by
    rw [hcart.items, length_sortedItems, h.items.length_eq]
  refine ⟨⟨?_, ?_⟩, ?_, ?_, ?_, ?_, ?_, ?_, ?_, ?_⟩
  · rw [hlength]
    exact List.length_pos_iff.mpr h.reads.some_item
  · rw [hlength]
    exact h.reads.few_items
  · intro item hitem
    obtain ⟨rawItem, -, raw, head, hvalid⟩ := hdescribed item hitem
    exact ⟨hvalid.count.2.1, hvalid.count.2.2⟩
  · intro item hitem
    obtain ⟨rawItem, -, raw, head, hvalid⟩ := hdescribed item hitem
    exact ⟨hvalid.price.1.nonneg, hvalid.price.2⟩
  · intro item hitem
    obtain ⟨rawItem, -, hvalid⟩ := hdescribed item hitem
    rw [hcart.merchant, hcart.currency]
    exact hvalid.agrees.symm
  · rw [hcart.items]
    exact StableSort.sortBy_pairwise CartItem.productId validated
  · rw [hcart.total, hcart.items, hcart.tax, hcart.shipping]
    exact h.counts.total
  · rw [hcart.total]
    exact h.counts.declared
  · rw [hcart.total]
    exact h.counts.limited
  · rw [hcart.hash, Cart.computeCartObjectHash_eq]

/-! ## The order of the items -/

def rawProductId : RawValue → Option WideText
  | .dict raw =>
      match RawDict.get raw "product_id" .none with
      | .str s => some s
      | _ => none
  | _ => none

/-- The product ids differ, and not in surrounding whitespace alone. -/
def DistinctProducts (items : List RawValue) : Prop :=
  (items.map fun item => (rawProductId item).map WideText.strip).Nodup

theorem Describes.productId {room : Nat} {merchantId : String} {currency : Currency}
    {rawItem : RawValue} {item : CartItem} (h : Describes room merchantId currency rawItem item) :
    (rawProductId rawItem).map WideText.strip = some (ofString item.productId) := by
  obtain ⟨raw, head, hitem⟩ := h
  obtain ⟨s, hs, hstrip⟩ := hitem.read.product.named
  rw [hitem.object, rawProductId, hs, Option.map_some, hstrip, hitem.built.product]

theorem nodup_productIds {room : Nat} {merchantId : String} {currency : Currency}
    {items : List RawValue} {validated : List CartItem}
    (h : List.Forall₂ (Describes room merchantId currency) items validated)
    (hdistinct : DistinctProducts items) : (validated.map CartItem.productId).Nodup := by
  have hids : items.map (fun item => (rawProductId item).map WideText.strip)
      = (validated.map CartItem.productId).map fun id => some (ofString id) := by
    clear hdistinct
    induction h with
    | nil => rfl
    | cons hitem hrest ih =>
        rw [List.map_cons, ih, hitem.productId, List.map_cons, List.map_cons]
  rw [DistinctProducts, hids] at hdistinct
  exact hdistinct.of_map _

/-- The proposals have the same items, amounts and hash. -/
structure SameCart (proposal proposal' : NormalizedCommerceProposal) : Prop where
  items    : proposal'.cart.items = proposal.cart.items
  tax      : proposal'.cart.taxPaise = proposal.cart.taxPaise
  shipping : proposal'.cart.shippingPaise = proposal.cart.shippingPaise
  total    : proposal'.cart.totalPaise = proposal.cart.totalPaise
  hash     : proposal'.cart.cartHash = proposal.cart.cartHash

theorem IsProposal.sameCart {d' : RawDict} {items' : List RawValue} {validated' : List CartItem}
    (h : IsProposal env d header validated totals proposal)
    (h' : IsProposal env' d' (header.withItems items') validated' totals proposal')
    (hsha : env'.sha = env.sha) (hsorted : sortedItems validated' = sortedItems validated) :
    SameCart proposal proposal' := by
  have hcart := h.cart
  have hcart' := h'.cart
  rw [hsorted] at hcart'
  refine ⟨hcart'.items.trans hcart.items.symm, hcart'.tax.trans hcart.tax.symm,
    hcart'.shipping.trans hcart.shipping.symm, hcart'.total.trans hcart.total.symm, ?_⟩
  rw [hcart'.hash, hcart.hash, Cart.computeCartObjectHash_eq, Cart.computeCartObjectHash_eq, hsha,
    hcart'.merchant, hcart.merchant, hcart'.mandate, hcart.mandate, hcart'.currency,
    hcart.currency, hcart'.items, hcart.items, hcart'.tax, hcart.tax, hcart'.shipping,
    hcart.shipping, hcart'.total, hcart.total]
  rfl

/-- **An accepted proposal keeps its bounds, adds up and carries its own hash, and
    the same cart comes of its items in every order,** if their product ids
    differ. -/
theorem wellFormed_and_reorderable (h : normalize env raw = .ok proposal) :
    (∃ d, treeOf env raw = some d ∧ IsWellFormed env d proposal)
      ∧ ∀ env' raw' items, Alike env env' → Reordered env items raw raw' → DistinctProducts items →
        ∃ proposal', normalize env' raw' = .ok proposal' ∧ SameCart proposal proposal' := by
  obtain ⟨d, header, validated, totals, haccepts, hproposal⟩ := accepts_of_normalize h
  refine ⟨⟨d, haccepts.opens.tree, haccepts.wellFormed hproposal⟩, ?_⟩
  intro env' raw' items halike hreordered hdistinct
  obtain ⟨hitems, -⟩ := haccepts.opens.reordered hreordered halike
  rw [find_items_of_get haccepts.reads.items, Option.some_inj, RawValue.list.injEq] at hitems
  rw [← hitems] at hdistinct
  obtain ⟨items', validated', haccepts', hsorted⟩ := haccepts.reordered hreordered halike
    (nodup_productIds haccepts.items hdistinct)
  obtain ⟨proposal', hproposal', hread⟩ := normalize_of_accepts haccepts'
  exact ⟨proposal', hproposal', hproposal.sameCart hread halike.sha hsorted⟩

end

namespace Sample

def books : List RawValue := [line "book-17" (.int 1), line "globe-2" (.int 3)]

def booksSwapped : List RawValue := [line "globe-2" (.int 3), line "book-17" (.int 1)]

def spaced : List RawValue := [line "book-17" (.int 1), line " book-17" (.int 3)]

def spacedSwapped : List RawValue := [line " book-17" (.int 3), line "book-17" (.int 1)]

def cartOf (items : List RawValue) : Except IntentError (List Int × String) :=
  (normalize env (ordered items)).map fun proposal =>
    (proposal.cart.items.map CartItem.quantity, proposal.cart.cartHash)

theorem reordered_pair (i j : RawValue) :
    Reordered env [i, j] (ordered [i, j]) (ordered [j, i]) :=
  .dict (order [i, j]) [j, i] rfl (.swap i j [])

theorem books_reorderable :
    ∃ proposal proposal', normalize env (ordered books) = .ok proposal
      ∧ IsWellFormed env (order books) proposal
      ∧ normalize env (ordered booksSwapped) = .ok proposal' ∧ SameCart proposal proposal' := by
  have hcart : cartOf books = .ok ([1, 3], Digest.globeHash) := by decide +kernel
  obtain ⟨proposal, h, -⟩ := map_eq_ok_iff.mp hcart
  obtain ⟨⟨d, htree, hwell⟩, hreorder⟩ := wellFormed_and_reorderable h
  obtain rfl := Option.some.inj htree
  have hdistinct : DistinctProducts books := by
    rw [DistinctProducts]
    decide +kernel
  obtain ⟨proposal', h', hsame⟩ := hreorder env (ordered booksSwapped) books
    ⟨rfl, rfl, rfl, rfl, rfl, rfl⟩ (reordered_pair _ _) hdistinct
  exact ⟨proposal, proposal', h, hwell, h', hsame⟩

/-- **Ids that differ in a space are one product:** in the other order its two
    lines make another cart, of another hash. -/
theorem spaced_not_reorderable :
    ∃ proposal proposal', normalize env (ordered spaced) = .ok proposal
      ∧ normalize env (ordered spacedSwapped) = .ok proposal'
      ∧ Reordered env spaced (ordered spaced) (ordered spacedSwapped)
      ∧ (spaced.map rawProductId).Nodup
      ∧ proposal'.cart.items ≠ proposal.cart.items
      ∧ proposal'.cart.cartHash ≠ proposal.cart.cartHash := by
  have hcart : cartOf spaced = .ok ([1, 3], Digest.twoLinesHash) := by decide +kernel
  have hcart' : cartOf spacedSwapped = .ok ([3, 1], Digest.swappedHash) := by decide +kernel
  obtain ⟨proposal, h, hread⟩ := map_eq_ok_iff.mp hcart
  obtain ⟨proposal', h', hread'⟩ := map_eq_ok_iff.mp hcart'
  obtain ⟨hquantities, hhash⟩ := Prod.mk.inj hread
  obtain ⟨hquantities', hhash'⟩ := Prod.mk.inj hread'
  refine ⟨proposal, proposal', h, h', reordered_pair _ _, by decide +kernel, ?_, ?_⟩
  · intro hsame
    rw [hsame, hquantities] at hquantities'
    exact absurd hquantities' (by decide)
  · rw [hhash, hhash']
    decide

end Sample

end IntentNormalizer

end MandateGateway
