import MandateGateway.Intent.Fields

/-! # The line items of an intent

    `_validate_item` in three stages: what the item is, how many for how much,
    and the line item that is built.  An item is valid or not whatever its index
    in the list, which only its errors show. -/

namespace MandateGateway

open Exceptions
open WideText (ofString)

namespace IntentNormalizer

def maxItemQuantity : Int := 1000

def maxSingleItemPricePaise : Int := 100000000

structure ItemHead where
  productId  : String
  merchantId : String
  name       : WideText
  category   : WideText

section
variable (room index : Nat) (merchantId : String) (currency : Currency) (raw : RawDict)

/-- The merchant of an item: that of the intent, named again or not. -/
def itemMerchant (productId : String) : Except IntentError String :=
  match raw.get "merchant_id" .none with
  | .none => .ok merchantId
  | value => do
      let clean ← validateIdentifier value s!"items[{index}].merchant_id"
      if clean ≠ merchantId then
        .error (.ambiguity (ofString (s!"Item '{productId}' merchant_id '{clean}' conflicts "
          ++ s!"with proposal merchant_id '{merchantId}'.")))
      else .ok clean

/-- A trimmed text of at most so many characters. -/
def itemText (name : String) (fold : WideText → WideText) (limit : Nat) :
    Except IntentError WideText :=
  match raw.get name .none with
  | .str s =>
      let clean := fold (WideText.strip s)
      let length := clean.length
      if WideText.strip s = [] then
        .error (.structural (ofString s!"Item at index {index} missing valid '{name}' string."))
      else if limit < length then
        .error (.structural (ofString (s!"Item at index {index} '{name}' length ({length}) "
          ++ s!"exceeds limit of {limit}.")))
      else .ok clean
  | _ => .error (.structural (ofString s!"Item at index {index} missing valid '{name}' string."))

/-- The first stage: the scan, and what names the item. -/
def itemHead : Except IntentError ItemHead := do
  scanItems room (ofString s!"items[{index}]") raw
  let productId ← validateIdentifier (raw.get "product_id" .none) s!"items[{index}].product_id"
  let itemMerchantId ← itemMerchant index merchantId raw productId
  let name ← itemText index raw "name" id 500
  let category ← itemText index raw "category" WideText.lower 100
  pure ⟨productId, itemMerchantId, name, category⟩

def tooMany (productId shown : String) : IntentError :=
  .monetary (ofString
    (s!"Item '{productId}' quantity ({shown}) exceeds maximum limit of {maxItemQuantity}."))

def itemQuantity (productId : String) : Except IntentError Int := do
  let quantity ← validateIntegerAmount (raw.get "quantity" .none) s!"items[{index}].quantity"
  if quantity ≤ 0 then
    .error (.monetary (ofString s!"Item '{productId}' quantity must be >= 1."))
  else if maxItemQuantity < quantity then
    refuseWith quantity (tooMany productId)
  else .ok quantity

def tooDear (productId shown : String) : IntentError :=
  .monetary (ofString (s!"Item '{productId}' unit price ({shown} paise) exceeds limit "
    ++ s!"of {maxSingleItemPricePaise} paise."))

def itemUnitPrice (productId : String) : Except IntentError Int := do
  let unitPricePaise ← validateIntegerAmount (raw.get "unit_price_paise" .none)
    s!"items[{index}].unit_price_paise"
  if maxSingleItemPricePaise < unitPricePaise then
    refuseWith unitPricePaise (tooDear productId)
  else .ok unitPricePaise

def itemCurrency (productId : String) : Except IntentError Unit :=
  match raw.get "currency" .none with
  | .none => .ok ()
  | value => do
      let itemCurrency ← validateCurrency value
      if itemCurrency ≠ currency then
        .error (.ambiguity (ofString (s!"Item '{productId}' currency '{itemCurrency.value}' "
          ++ s!"conflicts with proposal currency '{currency.value}'.")))
      else .ok ()

end

/-- `CartItem(...)`: the contract takes texts that can be encoded. -/
def newCartItem (head : ItemHead) (quantity unitPricePaise : Int) (currency : Currency) :
    Except IntentError CartItem :=
  match WideText.scalars? head.name, WideText.scalars? head.category with
  | some name, some category =>
      if h : (head.productId ≠ "" ∧ head.merchantId ≠ "") ∧ (name ≠ "" ∧ name.length ≤ 500)
          ∧ (category ≠ "" ∧ category.length ≤ 100) ∧ 1 ≤ quantity ∧ 0 ≤ unitPricePaise then
        .ok {
          productId := head.productId
          merchantId := head.merchantId
          name := name
          category := category
          quantity := quantity
          unitPricePaise := unitPricePaise
          currency := currency
          productId_ne := h.1.1
          name_bounded := h.2.1
          category_bounded := h.2.2.1
          quantity_pos := h.2.2.2.1
          price_nonneg := h.2.2.2.2 }
      else .error (.escaped (.validationError "CartItem"))
  | _, _ => .error (.escaped (.validationError "CartItem"))

def validateItem (room index : Nat) (merchantId : String) (currency : Currency)
    (rawItem : RawValue) : Except IntentError CartItem :=
  match rawItem with
  | .dict raw => do
      let head ← itemHead room index merchantId raw
      let quantity ← itemQuantity index raw head.productId
      let unitPricePaise ← itemUnitPrice index raw head.productId
      itemCurrency currency raw head.productId
      newCartItem head quantity unitPricePaise currency
  | _ => .error (.structural (ofString s!"Line item at index {index} must be an object."))

/-- The loop over the items, from this index on. -/
def validateItems (room : Nat) (merchantId : String) (currency : Currency) :
    Nat → List RawValue → Except IntentError (List CartItem)
  | _, [] => .ok []
  | index, rawItem :: rest => do
      let item ← validateItem room index merchantId currency rawItem
      let items ← validateItems room merchantId currency (index + 1) rest
      pure (item :: items)

/-! ## What the stages accept -/

def IsItemText (raw : RawDict) (name : String) (fold : WideText → WideText) (limit : Nat)
    (clean : WideText) : Prop :=
  ∃ s, raw.get name .none = .str s ∧ WideText.strip s ≠ [] ∧ clean = fold (WideText.strip s)
    ∧ clean.length ≤ limit

/-- The item names no other merchant. -/
def KeepsMerchant (merchantId : String) (raw : RawDict) : Prop :=
  raw.get "merchant_id" .none = .none ∨ IsIdentifier (raw.get "merchant_id" .none) merchantId

/-- The item names no other currency. -/
def KeepsCurrency (currency : Currency) (raw : RawDict) : Prop :=
  raw.get "currency" .none = .none ∨ validateCurrency (raw.get "currency" .none) = .ok currency

/-- What an item is, as it is read. -/
structure IsItemHead (room : Nat) (merchantId : String) (raw : RawDict) (head : ItemHead) :
    Prop where
  unclaimed : ¬ Claimed room raw
  fits      : ScanFits room raw
  product   : IsIdentifier (raw.get "product_id" .none) head.productId
  merchant  : KeepsMerchant merchantId raw
  same      : head.merchantId = merchantId
  name      : IsItemText raw "name" id 500 head.name
  category  : IsItemText raw "category" WideText.lower 100 head.category

section
variable {room index : Nat} {merchantId productId : String} {currency : Currency} {raw : RawDict}

theorem itemMerchant_eq_ok_iff {clean : String} :
    itemMerchant index merchantId raw productId = .ok clean
      ↔ KeepsMerchant merchantId raw ∧ clean = merchantId := by
  have hnamed : ∀ value, (do
      let clean ← validateIdentifier value s!"items[{index}].merchant_id"
      if clean ≠ merchantId then
        .error (.ambiguity (ofString (s!"Item '{productId}' merchant_id '{clean}' conflicts "
          ++ s!"with proposal merchant_id '{merchantId}'.")))
      else .ok clean : Except IntentError String) = .ok clean
      ↔ IsIdentifier value merchantId ∧ clean = merchantId := by
    intro value
    rw [seq_eq_ok_iff]
    constructor
    · rintro ⟨clean', hvalid, h⟩
      obtain ⟨hsame, h⟩ := guard_eq_ok_iff.mp h
      obtain rfl := Except.ok.inj h
      rw [not_not] at hsame
      rw [hsame] at hvalid ⊢
      exact ⟨validateIdentifier_eq_ok_iff.mp hvalid, rfl⟩
    · rintro ⟨hvalid, rfl⟩
      exact ⟨clean, validateIdentifier_eq_ok_iff.mpr hvalid,
        guard_eq_ok_iff.mpr ⟨not_not.mpr rfl, rfl⟩⟩
  rw [itemMerchant, KeepsMerchant]
  cases raw.get "merchant_id" .none with
  | none =>
      dsimp only
      rw [ok_eq_ok_iff]
      exact ⟨fun h => ⟨.inl rfl, h⟩, fun h => h.2⟩
  | bool _ | int _ | float _ | str _ | list _ | dict _ =>
      refine (hnamed _).trans (and_congr_left fun _ => ⟨.inr, fun h => h.resolve_left ?_⟩)
      intro heq
      cases heq

theorem itemMerchant_contained : Contained (itemMerchant index merchantId raw productId) := by
  rw [itemMerchant]
  cases raw.get "merchant_id" .none with
  | none => exact raises_ok _ _
  | bool _ | int _ | float _ | str _ | list _ | dict _ =>
      exact raises_seq_iff.mpr ⟨validateIdentifier_contained _ _, fun _ _ =>
        raises_guard_iff.mpr ⟨fun _ => trivial, fun _ => raises_ok _ _⟩⟩

theorem itemText_eq_ok_iff {name : String} {fold : WideText → WideText} {limit : Nat}
    {clean : WideText} :
    itemText index raw name fold limit = .ok clean ↔ IsItemText raw name fold limit clean := by
  rw [itemText, IsItemText]
  cases raw.get name .none with
  | none | bool _ | int _ | float _ | list _ | dict _ =>
      refine ⟨fun h => ?_, fun ⟨s, h, _⟩ => ?_⟩
      · cases h
      · cases h
  | str s =>
      constructor
      · intro h
        obtain ⟨hne, h⟩ := guard_eq_ok_iff.mp h
        obtain ⟨hlength, h⟩ := guard_eq_ok_iff.mp h
        obtain rfl := Except.ok.inj h
        exact ⟨s, rfl, hne, rfl, not_lt.mp hlength⟩
      · rintro ⟨s', heq, hne, rfl, hlength⟩
        obtain rfl := RawValue.str.inj heq
        exact guard_eq_ok_iff.mpr ⟨hne, guard_eq_ok_iff.mpr ⟨not_lt.mpr hlength, rfl⟩⟩

theorem itemText_contained (name : String) (fold : WideText → WideText) (limit : Nat) :
    Contained (itemText index raw name fold limit) := by
  rw [itemText]
  cases raw.get name .none with
  | none | bool _ | int _ | float _ | list _ | dict _ => exact raises_error_iff.mpr trivial
  | str s =>
      exact raises_guard_iff.mpr ⟨fun _ => trivial, fun _ => raises_guard_iff.mpr
        ⟨fun _ => trivial, fun _ => raises_ok _ _⟩⟩

theorem itemHead_eq_ok_iff {head : ItemHead} :
    itemHead room index merchantId raw = .ok head ↔ IsItemHead room merchantId raw head := by
  constructor
  · intro h
    obtain ⟨hscan, h⟩ := seq_unit_eq_ok_iff.mp h
    obtain ⟨productId, hproduct, h⟩ := seq_eq_ok_iff.mp h
    obtain ⟨merchant, hmerchant, h⟩ := seq_eq_ok_iff.mp h
    obtain ⟨name, hname, h⟩ := seq_eq_ok_iff.mp h
    obtain ⟨category, hcategory, h⟩ := seq_eq_ok_iff.mp h
    obtain rfl := Except.ok.inj h
    obtain ⟨hunclaimed, hfits⟩ := scanItems_eq_ok_iff.mp hscan
    obtain ⟨hkeeps, hsame⟩ := itemMerchant_eq_ok_iff.mp hmerchant
    exact ⟨hunclaimed, hfits, validateIdentifier_eq_ok_iff.mp hproduct, hkeeps, hsame,
      itemText_eq_ok_iff.mp hname, itemText_eq_ok_iff.mp hcategory⟩
  · rintro ⟨hunclaimed, hfits, hproduct, hkeeps, hsame, hname, hcategory⟩
    refine seq_unit_eq_ok_iff.mpr ⟨scanItems_eq_ok_iff.mpr ⟨hunclaimed, hfits⟩, ?_⟩
    refine seq_eq_ok_iff.mpr ⟨_, validateIdentifier_eq_ok_iff.mpr hproduct, ?_⟩
    refine seq_eq_ok_iff.mpr ⟨_, itemMerchant_eq_ok_iff.mpr ⟨hkeeps, hsame⟩, ?_⟩
    refine seq_eq_ok_iff.mpr ⟨_, itemText_eq_ok_iff.mpr hname, ?_⟩
    exact seq_eq_ok_iff.mpr ⟨_, itemText_eq_ok_iff.mpr hcategory, rfl⟩

theorem itemHead_contained_iff :
    Contained (itemHead room index merchantId raw) ↔ ClaimsFirst (visits room raw) := by
  rw [Contained, itemHead, raises_seq_iff, ← Contained, scanItems_contained_iff]
  refine and_iff_left fun _ _ => raises_seq_iff.mpr ⟨validateIdentifier_contained _ _, ?_⟩
  refine fun _ _ => raises_seq_iff.mpr ⟨itemMerchant_contained, fun _ _ => ?_⟩
  refine raises_seq_iff.mpr ⟨itemText_contained _ _ _, fun _ _ => ?_⟩
  exact raises_seq_iff.mpr ⟨itemText_contained _ _ _, fun _ _ => raises_ok _ _⟩

/-! ## Quantities and prices -/

def IsQuantity (raw : RawDict) (quantity : Int) : Prop :=
  IsAmount (raw.get "quantity" .none) quantity ∧ 0 < quantity ∧ quantity ≤ maxItemQuantity

def IsUnitPrice (raw : RawDict) (unitPricePaise : Int) : Prop :=
  IsAmount (raw.get "unit_price_paise" .none) unitPricePaise
    ∧ unitPricePaise ≤ maxSingleItemPricePaise

/-- An amount that can be read, and shown where it is too much. -/
def Showable (value : RawValue) (limit : Int) : Prop :=
  Convertible value ∧ ∀ i, IsAmount value i → limit < i → FewDigits i

theorem itemQuantity_eq_ok_iff {quantity : Int} :
    itemQuantity index raw productId = .ok quantity ↔ IsQuantity raw quantity := by
  rw [itemQuantity, seq_eq_ok_iff]
  constructor
  · rintro ⟨i, hi, h⟩
    obtain ⟨hpos, h⟩ := guard_eq_ok_iff.mp h
    obtain ⟨hlimit, h⟩ := (ite_eq_iff_of_ne refuseWith_ne_ok).mp h
    obtain rfl := Except.ok.inj h
    exact ⟨validateIntegerAmount_eq_ok_iff.mp hi, not_le.mp hpos, not_lt.mp hlimit⟩
  · rintro ⟨hi, hpos, hlimit⟩
    exact ⟨quantity, validateIntegerAmount_eq_ok_iff.mpr hi, guard_eq_ok_iff.mpr
      ⟨not_le.mpr hpos, (ite_eq_iff_of_ne refuseWith_ne_ok).mpr ⟨not_lt.mpr hlimit, rfl⟩⟩⟩

theorem limited_contained_iff {limit i : Int} (message : String → IntentError)
    (hmessage : ∀ shown, (message shown).IsNormalization) :
    Contained (if limit < i then refuseWith i message else .ok i)
      ↔ (limit < i → FewDigits i) := by
  by_cases h : limit < i
  · rw [if_pos h, refuseWith_contained_iff hmessage]
    exact ⟨fun hfew _ => hfew, fun hfew => hfew h⟩
  · rw [if_neg h]
    exact ⟨fun _ hlimit => absurd hlimit h, fun _ => raises_ok _ i⟩

theorem itemQuantity_contained_iff :
    Contained (itemQuantity index raw productId)
      ↔ Showable (raw.get "quantity" .none) maxItemQuantity := by
  rw [Contained, itemQuantity, raises_seq_iff, ← Contained, validateIntegerAmount_contained_iff,
    Showable]
  refine and_congr_right fun _ => forall_congr' fun i => ?_
  rw [validateIntegerAmount_eq_ok_iff, raises_guard_iff]
  refine imp_congr_right fun _ => ?_
  constructor
  · rintro ⟨-, h⟩ hlimit
    have hpos : ¬ i ≤ 0 := fun hle => absurd (hlimit.trans_le hle) (by decide)
    exact (limited_contained_iff (tooMany productId) fun _ => trivial).mp (h hpos) hlimit
  · intro h
    exact ⟨fun _ => trivial, fun _ =>
      (limited_contained_iff (tooMany productId) fun _ => trivial).mpr h⟩

theorem itemUnitPrice_eq_ok_iff {unitPricePaise : Int} :
    itemUnitPrice index raw productId = .ok unitPricePaise ↔ IsUnitPrice raw unitPricePaise := by
  rw [itemUnitPrice, seq_eq_ok_iff]
  constructor
  · rintro ⟨i, hi, h⟩
    obtain ⟨hlimit, h⟩ := (ite_eq_iff_of_ne refuseWith_ne_ok).mp h
    obtain rfl := Except.ok.inj h
    exact ⟨validateIntegerAmount_eq_ok_iff.mp hi, not_lt.mp hlimit⟩
  · rintro ⟨hi, hlimit⟩
    exact ⟨unitPricePaise, validateIntegerAmount_eq_ok_iff.mpr hi,
      (ite_eq_iff_of_ne refuseWith_ne_ok).mpr ⟨not_lt.mpr hlimit, rfl⟩⟩

theorem itemUnitPrice_contained_iff :
    Contained (itemUnitPrice index raw productId)
      ↔ Showable (raw.get "unit_price_paise" .none) maxSingleItemPricePaise := by
  rw [Contained, itemUnitPrice, raises_seq_iff, ← Contained, validateIntegerAmount_contained_iff,
    Showable]
  refine and_congr_right fun _ => forall_congr' fun i => ?_
  rw [validateIntegerAmount_eq_ok_iff]
  exact imp_congr_right fun _ => limited_contained_iff (tooDear productId) fun _ => trivial

theorem itemCurrency_eq_ok_iff :
    itemCurrency currency raw productId = .ok () ↔ KeepsCurrency currency raw := by
  have hnamed : ∀ value, (do
      let itemCurrency ← validateCurrency value
      if itemCurrency ≠ currency then
        .error (.ambiguity (ofString (s!"Item '{productId}' currency '{itemCurrency.value}' "
          ++ s!"conflicts with proposal currency '{currency.value}'.")))
      else .ok () : Except IntentError Unit) = .ok ()
      ↔ validateCurrency value = .ok currency := by
    intro value
    rw [seq_eq_ok_iff]
    constructor
    · rintro ⟨c, hvalid, h⟩
      obtain ⟨hsame, -⟩ := guard_eq_ok_iff.mp h
      rw [not_not] at hsame
      rw [← hsame]
      exact hvalid
    · intro hvalid
      exact ⟨currency, hvalid, guard_eq_ok_iff.mpr ⟨not_not.mpr rfl, rfl⟩⟩
  rw [itemCurrency, KeepsCurrency]
  cases raw.get "currency" .none with
  | none => exact ⟨fun _ => .inl rfl, fun _ => rfl⟩
  | bool _ | int _ | float _ | str _ | list _ | dict _ =>
      refine (hnamed _).trans ⟨.inr, fun h => h.resolve_left fun heq => ?_⟩
      cases heq

theorem itemCurrency_contained : Contained (itemCurrency currency raw productId) := by
  rw [itemCurrency]
  cases raw.get "currency" .none with
  | none => exact raises_ok _ _
  | bool _ | int _ | float _ | str _ | list _ | dict _ =>
      exact raises_seq_iff.mpr ⟨validateCurrency_contained _, fun _ _ =>
        raises_guard_iff.mpr ⟨fun _ => trivial, fun _ => raises_ok _ _⟩⟩

end

/-! ## The line item -/

def Encodable (s : WideText) : Prop := ∃ text, s = ofString text

/-- The line item of these fields. -/
structure IsCartItem (head : ItemHead) (quantity unitPricePaise : Int) (currency : Currency)
    (item : CartItem) : Prop where
  product  : item.productId = head.productId
  merchant : item.merchantId = head.merchantId
  name     : head.name = ofString item.name
  category : head.category = ofString item.category
  quantity : item.quantity = quantity
  price    : item.unitPricePaise = unitPricePaise
  currency : item.currency = currency

theorem encodable_iff_isSome {s : WideText} :
    Encodable s ↔ ∃ text, WideText.scalars? s = some text :=
  exists_congr fun _ => WideText.scalars?_eq_some_iff.symm

/-- A text within its limit, as the contract wants it. -/
theorem IsItemText.bounded {raw : RawDict} {name : String} {fold : WideText → WideText}
    {limit : Nat} {clean : WideText} (h : IsItemText raw name fold limit clean)
    (hfold : ∀ s, s ≠ [] → fold s ≠ []) {text : String} (htext : clean = ofString text) :
    text ≠ "" ∧ text.length ≤ limit := by
  obtain ⟨s, -, hne, hclean, hlength⟩ := h
  rw [htext] at hclean hlength
  rw [WideText.length_ofString] at hlength
  refine ⟨fun hempty => hfold _ hne ?_, hlength⟩
  rw [← hclean, hempty]
  rfl

/-- **A line item is built** where its texts can be encoded. -/
theorem newCartItem_ends {room : Nat} {merchantId : String} {raw : RawDict} {head : ItemHead}
    {quantity unitPricePaise : Int} (hhead : IsItemHead room merchantId raw head)
    (hmerchant : merchantId ≠ "") (hquantity : IsQuantity raw quantity)
    (hprice : IsUnitPrice raw unitPricePaise) (currency : Currency) :
    EndsBy (Encodable head.name ∧ Encodable head.category)
      (newCartItem head quantity unitPricePaise currency) := by
  rw [encodable_iff_isSome, encodable_iff_isSome, newCartItem]
  cases hname : WideText.scalars? head.name with
  | none =>
      refine .inr ⟨?_, _, rfl⟩
      rintro ⟨⟨text, h⟩, -⟩
      cases h
  | some name =>
      cases hcategory : WideText.scalars? head.category with
      | none =>
          refine .inr ⟨?_, _, rfl⟩
          rintro ⟨-, text, h⟩
          cases h
      | some category =>
          refine .inl ⟨⟨⟨name, rfl⟩, category, rfl⟩, _, dif_pos ?_⟩
          have hname' := WideText.scalars?_eq_some_iff.mp hname
          have hcategory' := WideText.scalars?_eq_some_iff.mp hcategory
          exact ⟨⟨hhead.product.ne, hhead.same ▸ hmerchant⟩,
            hhead.name.bounded (fun _ h => h) hname',
            hhead.category.bounded (fun _ => WideText.lower_ne_nil) hcategory', hquantity.2.1,
            hprice.1.nonneg⟩

theorem newCartItem_eq_ok {head : ItemHead} {quantity unitPricePaise : Int} {currency : Currency}
    {item : CartItem} (h : newCartItem head quantity unitPricePaise currency = .ok item) :
    IsCartItem head quantity unitPricePaise currency item := by
  rw [newCartItem] at h
  cases hname : WideText.scalars? head.name with
  | none =>
      rw [hname] at h
      cases h
  | some name =>
      cases hcategory : WideText.scalars? head.category with
      | none =>
          rw [hname, hcategory] at h
          cases h
      | some category =>
          rw [hname, hcategory] at h
          dsimp only at h
          split at h
          · obtain rfl := Except.ok.inj h
            exact ⟨rfl, rfl, WideText.scalars?_eq_some_iff.mp hname,
              WideText.scalars?_eq_some_iff.mp hcategory, rfl, rfl, rfl⟩
          · cases h

theorem IsCartItem.unique {head : ItemHead} {quantity unitPricePaise : Int} {currency : Currency}
    {item item' : CartItem} (h : IsCartItem head quantity unitPricePaise currency item)
    (h' : IsCartItem head quantity unitPricePaise currency item') : item = item' := by
  cases item
  cases item'
  rw [CartItem.mk.injEq]
  exact ⟨h.product.trans h'.product.symm, h.merchant.trans h'.merchant.symm,
    WideText.ofString_injective (h.name.symm.trans h'.name),
    WideText.ofString_injective (h.category.symm.trans h'.category),
    h.quantity.trans h'.quantity.symm, h.price.trans h'.price.symm,
    h.currency.trans h'.currency.symm⟩

/-! ## Items -/

structure IsItem (room : Nat) (merchantId : String) (currency : Currency) (rawItem : RawValue)
    (raw : RawDict) (head : ItemHead) (item : CartItem) : Prop where
  object : rawItem = .dict raw
  read   : IsItemHead room merchantId raw head
  count  : IsQuantity raw item.quantity
  price  : IsUnitPrice raw item.unitPricePaise
  keeps  : KeepsCurrency currency raw
  built  : IsCartItem head item.quantity item.unitPricePaise currency item

def Describes (room : Nat) (merchantId : String) (currency : Currency) (rawItem : RawValue)
    (item : CartItem) : Prop :=
  ∃ raw head, IsItem room merchantId currency rawItem raw head item

/-- Whatever the value is, no limit is met before an error of the normalizer. -/
structure SoundItem (room : Nat) (merchantId : String) (currency : Currency)
    (raw : RawDict) : Prop where
  scan     : ClaimsFirst (visits room raw)
  quantity : ∀ head, IsItemHead room merchantId raw head →
    Showable (raw.get "quantity" .none) maxItemQuantity
  price    : ∀ head quantity, IsItemHead room merchantId raw head → IsQuantity raw quantity →
    Showable (raw.get "unit_price_paise" .none) maxSingleItemPricePaise
  texts    : ∀ head quantity unitPricePaise, IsItemHead room merchantId raw head →
    IsQuantity raw quantity → IsUnitPrice raw unitPricePaise → KeepsCurrency currency raw →
      Encodable head.name ∧ Encodable head.category

section
variable {room : Nat} {merchantId : String} {currency : Currency}

/-- **The items that are accepted**, whatever their index. -/
theorem validateItem_eq_ok_iff (hmerchant : merchantId ≠ "") {index : Nat} {rawItem : RawValue}
    {item : CartItem} :
    validateItem room index merchantId currency rawItem = .ok item
      ↔ Describes room merchantId currency rawItem item := by
  constructor
  · intro h
    cases rawItem with
    | none | bool _ | int _ | float _ | str _ | list _ => cases h
    | dict raw =>
        obtain ⟨head, hhead, h⟩ := seq_eq_ok_iff.mp h
        obtain ⟨quantity, hquantity, h⟩ := seq_eq_ok_iff.mp h
        obtain ⟨price, hprice, h⟩ := seq_eq_ok_iff.mp h
        obtain ⟨hcurrency, h⟩ := seq_unit_eq_ok_iff.mp h
        have hbuilt := newCartItem_eq_ok h
        have hq := itemQuantity_eq_ok_iff.mp hquantity
        have hp := itemUnitPrice_eq_ok_iff.mp hprice
        rw [← hbuilt.quantity] at hq hbuilt
        rw [← hbuilt.price] at hp hbuilt
        exact ⟨raw, head, rfl, itemHead_eq_ok_iff.mp hhead, hq, hp,
          itemCurrency_eq_ok_iff.mp hcurrency, hbuilt⟩
  · rintro ⟨raw, head, rfl, hhead, hquantity, hprice, hcurrency, hbuilt⟩
    refine seq_eq_ok_iff.mpr ⟨head, itemHead_eq_ok_iff.mpr hhead, seq_eq_ok_iff.mpr ?_⟩
    refine ⟨_, itemQuantity_eq_ok_iff.mpr hquantity, seq_eq_ok_iff.mpr ?_⟩
    refine ⟨_, itemUnitPrice_eq_ok_iff.mpr hprice, seq_unit_eq_ok_iff.mpr ?_⟩
    refine ⟨itemCurrency_eq_ok_iff.mpr hcurrency, ?_⟩
    obtain ⟨item', hitem⟩ := (newCartItem_ends hhead hmerchant hquantity hprice
      currency).returns_iff.mpr ⟨⟨_, hbuilt.name⟩, _, hbuilt.category⟩
    rw [hitem, (newCartItem_eq_ok hitem).unique hbuilt]

/-- **An item that is refused is refused by the normalizer** exactly when it
    meets no limit first. -/
theorem validateItem_contained_iff (hmerchant : merchantId ≠ "") {index : Nat}
    {rawItem : RawValue} :
    Contained (validateItem room index merchantId currency rawItem)
      ↔ ∀ raw, rawItem = .dict raw → SoundItem room merchantId currency raw := by
  cases rawItem with
  | none | bool _ | int _ | float _ | str _ | list _ =>
      refine ⟨fun _ raw h => ?_, fun _ => raises_error_iff.mpr trivial⟩
      cases h
  | dict raw =>
      have hone : (∀ raw', RawValue.dict raw = .dict raw' → SoundItem room merchantId currency raw')
          ↔ SoundItem room merchantId currency raw := by
        refine ⟨fun h => h raw rfl, fun h raw' heq => ?_⟩
        rw [← RawValue.dict.inj heq]
        exact h
      have hbuild : ∀ head quantity price, IsItemHead room merchantId raw head →
          IsQuantity raw quantity → IsUnitPrice raw price →
            (Contained (newCartItem head quantity price currency)
              ↔ Encodable head.name ∧ Encodable head.category) :=
        fun head quantity price hhead hquantity hprice =>
          (newCartItem_ends hhead hmerchant hquantity hprice currency).contained_iff
      refine Iff.trans ?_ hone.symm
      refine (raises_seq_iff_of itemHead_contained_iff (fun _ => itemHead_eq_ok_iff)
        fun head hhead => raises_seq_iff_of itemQuantity_contained_iff
          (fun _ => itemQuantity_eq_ok_iff) fun quantity hquantity =>
            raises_seq_iff_of itemUnitPrice_contained_iff (fun _ => itemUnitPrice_eq_ok_iff)
              fun price hprice => raises_seq_iff_of (iff_true_intro itemCurrency_contained)
                (fun _ => itemCurrency_eq_ok_iff) fun _ _ =>
                  hbuild head quantity price hhead hquantity hprice).trans ?_
      constructor
      · rintro ⟨hscan, h⟩
        exact ⟨hscan, fun head hhead => (h head hhead).1,
          fun head quantity hhead hquantity => ((h head hhead).2 quantity hquantity).1,
          fun head quantity price hhead hquantity hprice =>
            (((h head hhead).2 quantity hquantity).2 price hprice).2 ()⟩
      · rintro ⟨hscan, hquantities, hprices, htexts⟩
        exact ⟨hscan, fun head hhead => ⟨hquantities head hhead, fun quantity hquantity =>
          ⟨hprices head quantity hhead hquantity, fun price hprice =>
            ⟨trivial, fun _ => htexts head quantity price hhead hquantity hprice⟩⟩⟩⟩

theorem validateItems_eq_ok_iff (hmerchant : merchantId ≠ "") {index : Nat}
    {rawItems : List RawValue} {items : List CartItem} :
    validateItems room merchantId currency index rawItems = .ok items
      ↔ List.Forall₂ (Describes room merchantId currency) rawItems items := by
  induction rawItems generalizing index items with
  | nil =>
      rw [List.forall₂_nil_left_iff]
      exact ok_eq_ok_iff
  | cons rawItem rest ih =>
      rw [validateItems, seq_eq_ok_iff, List.forall₂_cons_left_iff]
      constructor
      · rintro ⟨item, hitem, h⟩
        obtain ⟨items', hitems, h⟩ := seq_eq_ok_iff.mp h
        exact ⟨item, items', (validateItem_eq_ok_iff hmerchant).mp hitem, ih.mp hitems,
          (Except.ok.inj h).symm⟩
      · rintro ⟨item, items', hitem, hitems, rfl⟩
        exact ⟨item, (validateItem_eq_ok_iff hmerchant).mpr hitem,
          seq_eq_ok_iff.mpr ⟨items', ih.mpr hitems, rfl⟩⟩

def SoundItems (room : Nat) (merchantId : String) (currency : Currency)
    (rawItems : List RawValue) : Prop :=
  ∀ before raw after, rawItems = before ++ .dict raw :: after →
    (∀ rawItem ∈ before, ∃ item, Describes room merchantId currency rawItem item) →
      SoundItem room merchantId currency raw

theorem soundItems_iff_reached {rawItems : List RawValue} :
    SoundItems room merchantId currency rawItems
      ↔ Reached (fun rawItem => ∃ item, Describes room merchantId currency rawItem item)
        (fun rawItem => ∀ raw, rawItem = .dict raw → SoundItem room merchantId currency raw)
        rawItems := by
  constructor
  · intro h before rawItem after heq hbefore raw hraw
    exact h before raw after (hraw ▸ heq) hbefore
  · intro h before raw after heq hbefore
    exact h before (.dict raw) after heq hbefore raw rfl

/-- **The loop over the items** meets no limit exactly when the items it reaches
    are sound. -/
theorem validateItems_contained_iff (hmerchant : merchantId ≠ "") {index : Nat}
    {rawItems : List RawValue} :
    Contained (validateItems room merchantId currency index rawItems)
      ↔ SoundItems room merchantId currency rawItems := by
  induction rawItems generalizing index with
  | nil => exact iff_of_true (raises_ok _ _) (soundItems_iff_reached.mpr (reached_nil _ _))
  | cons rawItem rest ih =>
      have hfirst : Contained (validateItem room index merchantId currency rawItem) ↔ _ :=
        validateItem_contained_iff hmerchant
      rw [soundItems_iff_reached, reached_cons_iff, ← soundItems_iff_reached, ← hfirst, Contained,
        validateItems, raises_seq_iff]
      refine and_congr_right fun _ => ⟨fun h => ?_, fun h item hitem => ?_⟩
      · rintro ⟨item, hitem⟩
        have hrest := h item ((validateItem_eq_ok_iff hmerchant).mpr hitem)
        exact ih.mp (raises_seq_iff.mp hrest).1
      · have hvalid := (validateItem_eq_ok_iff hmerchant).mp hitem
        exact raises_seq_iff.mpr ⟨ih.mpr (h ⟨item, hvalid⟩), fun _ _ => raises_ok _ _⟩

end

end IntentNormalizer

end MandateGateway
