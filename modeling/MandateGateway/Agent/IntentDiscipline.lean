import MandateGateway.Agent.IntentLines

/-! # The discipline of the parser

    `parse_intent_payload` should return line items that add up, or raise an
    `IntentValidationError`.  `Sound` says of a payload that no stage it reaches meets an
    infinity, a value without a text or texts that the contract refuses, and `Honest` that
    what it declares is a whole number, and is not negative where it is a tax.  The parser
    is disciplined exactly on such payloads (`disciplined_iff`). -/

namespace MandateGateway

open Exceptions
open WideText (ofString)

namespace AgentIntentParser

open PromptInjectionDefense

/-! ## The first checks -/

/-- The payload is no larger than is allowed. -/
def Weighed (runtime : ParserRuntime) (payload : RawValue) : Prop :=
  ∃ serialized, payload.encode runtime.encodeRoom = .ok serialized
    ∧ serialized.length ≤ maxPayloadBytes

/-- No key claims authority, and the scan has room to find that out. -/
def Unclaimed (room : Nat) (payload : RawValue) : Prop :=
  payload.depth ≤ room ∧ ∀ k ∈ payload.keys, ¬ Forbidden k

def InRupees (room : Nat) (payload : RawDict) : Prop :=
  ∃ s, (rawCurrency payload).toText room = .ok s ∧ WideText.upperAscii s = ofString "INR"

/-- These are the items, and not too many. -/
def HasItems (payload : RawDict) (items : List RawValue) : Prop :=
  lineItems? payload = some items ∧ items.length ≤ maxItemsPerIntent

/-- The merchant of items that name none. -/
def IsMerchant (room : Nat) (payload : RawDict) (defaultMerchantId merchantId : WideText) :
    Prop :=
  ∃ s, (rawMerchantId defaultMerchantId payload).toText room = .ok s
    ∧ merchantId = WideText.strip s

section
variable {runtime : ParserRuntime} {room : Nat} {payload : RawDict}

theorem checkSize_eq_ok_iff {v : RawValue} :
    checkSize runtime v = .ok () ↔ Weighed runtime v := by
  rw [checkSize, Weighed]
  cases v.encode runtime.encodeRoom with
  | error err =>
      refine iff_of_false (fun h => by cases h) ?_
      rintro ⟨serialized, h, -⟩
      cases h
  | ok serialized =>
      refine guard_eq_ok_iff.trans ((and_iff_left rfl).trans (not_lt.trans ⟨fun h => ?_, ?_⟩))
      · exact ⟨serialized, rfl, h⟩
      · rintro ⟨serialized', heq, h⟩
        rw [Except.ok.inj heq]
        exact h

theorem checkSize_contained (v : RawValue) : Contained (checkSize runtime v) := by
  rw [checkSize]
  cases v.encode runtime.encodeRoom with
  | error err => exact raises_error_iff.mpr trivial
  | ok serialized => exact raises_guard_iff.mpr ⟨fun _ => trivial, fun _ => raises_ok _ ()⟩

theorem checkKey_eq_ok_iff {k : RawKey} : checkKey k = .ok () ↔ ¬ Forbidden k := by
  cases k with
  | str s => exact guard_eq_ok_iff.trans (and_iff_left rfl)
  | none | bool _ | int _ | float _ => exact iff_of_true rfl fun h => h

theorem checkKey_contained (k : RawKey) : Contained (checkKey k) := by
  cases k with
  | str s => exact raises_guard_iff.mpr ⟨fun _ => trivial, fun _ => raises_ok _ ()⟩
  | none | bool _ | int _ | float _ => exact raises_ok _ ()

theorem scanAuthorityInjection_eq_ok_iff {v : RawValue} :
    scanAuthorityInjection room v = .ok () ↔ Unclaimed room v := by
  rw [scanAuthorityInjection, RawValue.scan_eq_ok_iff, Unclaimed]
  simp only [checkKey_eq_ok_iff, implies_true, and_true]

theorem scanAuthorityInjection_contained_iff {v : RawValue} :
    Contained (scanAuthorityInjection room v)
      ↔ RawValue.RefusesFirst Forbidden (v.visits room) := by
  rw [scanAuthorityInjection, RawValue.scan_eq_walkKeys]
  exact RawValue.raises_walkKeys_iff _ _ (fun h => h) checkKey_contained
    (fun _ => checkKey_eq_ok_iff) _

theorem checkCurrency_eq_ok_iff :
    checkCurrency room payload = .ok () ↔ InRupees room payload := by
  rw [checkCurrency, seq_eq_ok_iff, InRupees]
  refine exists_congr fun s => and_congr textOf_eq_ok_iff ?_
  rw [guard_eq_ok_iff, not_not, and_iff_left rfl]

theorem checkCurrency_contained_iff :
    Contained (checkCurrency room payload) ↔ (rawCurrency payload).Printable room := by
  rw [Contained, checkCurrency, raises_seq_iff, ← Contained, textOf_contained_iff]
  exact and_iff_left fun _ _ => raises_guard_iff.mpr ⟨fun _ => trivial, fun _ => raises_ok _ ()⟩

theorem itemsOf_eq_ok_iff {items : List RawValue} :
    itemsOf payload = .ok items ↔ HasItems payload items := by
  rw [itemsOf, HasItems]
  cases lineItems? payload with
  | none => exact iff_of_false (fun h => by cases h) (fun h => by cases h.1)
  | some items' =>
      rw [Option.some_inj]
      refine guard_eq_ok_iff.trans ⟨?_, ?_⟩
      · rintro ⟨hcount, h⟩
        obtain rfl := Except.ok.inj h
        exact ⟨rfl, not_lt.mp hcount⟩
      · rintro ⟨rfl, hcount⟩
        exact ⟨not_lt.mpr hcount, rfl⟩

theorem itemsOf_contained : Contained (itemsOf payload) := by
  rw [itemsOf]
  cases lineItems? payload with
  | none => exact raises_error_iff.mpr trivial
  | some items => exact raises_guard_iff.mpr ⟨fun _ => trivial, fun _ => raises_ok _ items⟩

theorem merchantOf_eq_ok_iff {defaultMerchantId merchantId : WideText} :
    merchantOf room payload defaultMerchantId = .ok merchantId
      ↔ IsMerchant room payload defaultMerchantId merchantId := by
  rw [merchantOf, seq_eq_ok_iff, IsMerchant]
  exact exists_congr fun s => and_congr textOf_eq_ok_iff ok_eq_ok_iff

theorem merchantOf_contained_iff {defaultMerchantId : WideText} :
    Contained (merchantOf room payload defaultMerchantId)
      ↔ (rawMerchantId defaultMerchantId payload).Printable room := by
  rw [Contained, merchantOf, raises_seq_iff, ← Contained, textOf_contained_iff]
  exact and_iff_left fun _ _ => raises_ok _ _

/-- There is an item. -/
theorem HasItems.pos {items : List RawValue} (h : HasItems payload items) : 1 ≤ items.length := by
  have hitems := h.1
  rw [lineItems?] at hitems
  split at hitems
  · rw [← Option.some.inj hitems]
    exact Nat.succ_le_succ (Nat.zero_le _)
  · by_cases hsingle : isSingleItem payload = true
    · rw [if_pos hsingle] at hitems
      rw [← Option.some.inj hitems]
      exact le_refl 1
    · rw [if_neg hsingle] at hitems
      cases hitems

end

/-! ## The totals -/

/-- A total that is provided is one of the two. -/
def Agrees (v : RawValue) (grandTotal itemsTotal : Int) : Prop :=
  v = .none ∨ ∃ i, v.toInt = .ok i ∧ (i = grandTotal ∨ i = itemsTotal)

/-- A total that is provided is read, and shown where it is another one. -/
def SoundProvided (room : Nat) (v : RawValue) (grandTotal itemsTotal : Int) : Prop :=
  SoundNumber room v fun i => i ≠ grandTotal ∧ i ≠ itemsTotal →
    (FewDigits grandTotal ∧ FewDigits i) ∨ v.Printable room

structure Charges (payload : RawDict) (taxPaise shippingPaise : Int) : Prop where
  tax      : (rawTax payload).toInt = .ok taxPaise
  shipping : (rawShipping payload).toInt = .ok shippingPaise

/-- What all of it costs. -/
def grandTotal (items : List CartItemProposal) (taxPaise shippingPaise : Int) : Int :=
  itemsTotal items + taxPaise + shippingPaise

/-- The amounts are numbers, and shown where they are refused. -/
structure SoundTotals (room : Nat) (payload : RawDict) (items : List CartItemProposal) :
    Prop where
  tax      : ∃ q, (rawTax payload).amount? = some q
  shipping : ∃ q, (rawShipping payload).amount? = some q
  provided : ∀ taxPaise shippingPaise, Charges payload taxPaise shippingPaise →
    SoundProvided room (providedTotal payload) (grandTotal items taxPaise shippingPaise)
      (itemsTotal items)
  excess   : ∀ taxPaise shippingPaise, Charges payload taxPaise shippingPaise →
    Agrees (providedTotal payload) (grandTotal items taxPaise shippingPaise)
        (itemsTotal items) →
      maxTotalAmountPaise < grandTotal items taxPaise shippingPaise →
        FewDigits (grandTotal items taxPaise shippingPaise)

/-- The totals are accepted. -/
structure Totalled (payload : RawDict) (items : List CartItemProposal)
    (taxPaise shippingPaise : Int) : Prop where
  charges : Charges payload taxPaise shippingPaise
  agrees  : Agrees (providedTotal payload) (grandTotal items taxPaise shippingPaise)
    (itemsTotal items)
  limited : grandTotal items taxPaise shippingPaise ≤ maxTotalAmountPaise

section
variable {room : Nat} {payload : RawDict} {v : RawValue} {grand total i : Int}

theorem mismatchedTotal_ne_ok {detail : Except IntentError WideText} :
    mismatchedTotal room v detail ≠ .ok () := by
  intro h
  cases detail with
  | ok detail => cases h
  | error err => exact refuse_ne_ok h

theorem mismatchDetail_ends (grand i : Int) :
    EndsBy (FewDigits grand ∧ FewDigits i) (mismatchDetail grand i) :=
  (intText_ends grand).seq fun _ => (intText_ends i).seq_pure _

theorem mismatchedTotal_contained_iff {fits : Prop} {detail : Except IntentError WideText}
    (h : EndsBy fits detail) :
    Contained (mismatchedTotal room v detail) ↔ fits ∨ v.Printable room := by
  obtain ⟨hfits, text, rfl⟩ | ⟨hnot, err, rfl⟩ := h
  · exact iff_of_true (raises_error_iff.mpr trivial) (.inl hfits)
  · exact refuseValue_contained_iff.trans ⟨.inr, fun h => h.resolve_left hnot⟩

theorem checkProvidedTotal_eq_ok_iff : checkProvidedTotal room payload grand total = .ok ()
    ↔ Agrees (providedTotal payload) grand total := by
  rw [checkProvidedTotal, checkGiven_eq_ok_iff, Agrees]
  refine or_congr_right (exists_congr fun i => and_congr_right fun _ => ?_)
  rw [ite_eq_iff_of_ne mismatchedTotal_ne_ok, and_iff_left rfl, not_and_or, not_not, not_not]

theorem checkProvidedTotal_contained_iff :
    Contained (checkProvidedTotal room payload grand total)
      ↔ SoundProvided room (providedTotal payload) grand total :=
  checkGiven_contained_iff fun i =>
    refused_contained_iff (mismatchedTotal_contained_iff (mismatchDetail_ends grand i))

theorem charge_contained_iff :
    Contained (v.toInt.mapError ParserError.conversion) ↔ ∃ q, v.amount? = some q := by
  rw [← RawValue.toInt_returns_iff]
  cases v.toInt with
  | ok j => exact iff_of_true (raises_ok _ j) ⟨j, rfl⟩
  | error err => exact iff_of_false (fun h => h _ rfl) (not_exists_error_eq_ok err)

theorem checkTotals_eq_ok_iff {items : List CartItemProposal} :
    checkTotals room payload items = .ok ()
      ↔ ∃ taxPaise shippingPaise, Totalled payload items taxPaise shippingPaise := by
  rw [checkTotals, seq_eq_ok_iff]
  refine exists_congr fun taxPaise => ?_
  rw [mapError_eq_ok_iff, seq_eq_ok_iff, ← exists_and_left]
  refine exists_congr fun shippingPaise => ?_
  rw [mapError_eq_ok_iff, seq_unit_eq_ok_iff, checkProvidedTotal_eq_ok_iff,
    ite_eq_iff_of_ne refuseWith_ne_ok, and_iff_left rfl, not_lt]
  exact ⟨fun h => ⟨⟨h.1, h.2.1⟩, h.2.2.1, h.2.2.2⟩,
    fun h => ⟨h.charges.tax, h.charges.shipping, h.agrees, h.limited⟩⟩

theorem checkTotals_contained_iff {items : List CartItemProposal} :
    Contained (checkTotals room payload items) ↔ SoundTotals room payload items := by
  refine (raises_seq_iff_of charge_contained_iff (fun _ => mapError_eq_ok_iff) fun tax _ =>
    raises_seq_iff_of charge_contained_iff (fun _ => mapError_eq_ok_iff) fun shipping _ =>
    raises_seq_iff_of checkProvidedTotal_contained_iff
      (fun _ => checkProvidedTotal_eq_ok_iff) fun _ _ =>
    refused_contained_iff refuseWith_contained_iff).trans ?_
  constructor
  · rintro ⟨htax, h⟩
    obtain ⟨taxPaise, htaxed⟩ := RawValue.toInt_returns_iff.mpr htax
    exact ⟨htax, (h taxPaise htaxed).1,
      fun tax shipping hcharges => ((h tax hcharges.tax).2 shipping hcharges.shipping).1,
      fun tax shipping hcharges =>
        ((h tax hcharges.tax).2 shipping hcharges.shipping).2 ()⟩
  · intro h
    exact ⟨h.tax, fun tax htax => ⟨h.shipping, fun shipping hshipping =>
      ⟨h.provided tax shipping ⟨htax, hshipping⟩, fun _ => h.excess tax shipping
        ⟨htax, hshipping⟩⟩⟩⟩

end

/-! ## The whole -/

/-- The payload comes to its items. -/
structure Admits (runtime : ParserRuntime) (payload : RawDict) (defaultMerchantId : WideText)
    (rawItems : List RawValue) (merchantId : WideText) : Prop where
  size     : Weighed runtime (.dict payload)
  keys     : Unclaimed runtime.scanRoom (.dict payload)
  currency : InRupees runtime.textRoom payload
  items    : HasItems payload rawItems
  merchant : IsMerchant runtime.textRoom payload defaultMerchantId merchantId

structure Accepts (runtime : ParserRuntime) (payload : RawDict) (defaultMerchantId : WideText)
    (rawItems : List RawValue) (merchantId : WideText) (items : List CartItemProposal)
    (taxPaise shippingPaise : Int) : Prop where
  admits : Admits runtime payload defaultMerchantId rawItems merchantId
  reads  : List.Forall₂ (Describes runtime.textRoom merchantId) rawItems items
  totals : Totalled payload items taxPaise shippingPaise

/-- No stage that the payload reaches raises another error. -/
structure Sound (runtime : ParserRuntime) (payload : RawDict) (defaultMerchantId : WideText) :
    Prop where
  keys     : Weighed runtime (.dict payload) →
    RawValue.RefusesFirst Forbidden ((RawValue.dict payload).visits runtime.scanRoom)
  currency : Weighed runtime (.dict payload) → Unclaimed runtime.scanRoom (.dict payload) →
    (rawCurrency payload).Printable runtime.textRoom
  merchant : Weighed runtime (.dict payload) → Unclaimed runtime.scanRoom (.dict payload) →
    InRupees runtime.textRoom payload → ∀ rawItems, HasItems payload rawItems →
      (rawMerchantId defaultMerchantId payload).Printable runtime.textRoom
  items    : ∀ rawItems merchantId,
    Admits runtime payload defaultMerchantId rawItems merchantId →
      SoundItems runtime.textRoom merchantId rawItems
  totals   : ∀ rawItems merchantId items,
    Admits runtime payload defaultMerchantId rawItems merchantId →
    List.Forall₂ (Describes runtime.textRoom merchantId) rawItems items →
      SoundTotals runtime.textRoom payload items

section
variable {runtime : ParserRuntime} {payload : RawDict} {defaultMerchantId : WideText}

/-- **What is returned** is what is read of an accepted payload. -/
theorem parseIntentPayload_eq_ok_iff {items : List CartItemProposal} :
    parseIntentPayload runtime (.dict payload) defaultMerchantId = .ok items
      ↔ ∃ rawItems merchantId taxPaise shippingPaise, Accepts runtime payload
        defaultMerchantId rawItems merchantId items taxPaise shippingPaise := by
  constructor
  · intro h
    obtain ⟨hsize, h⟩ := seq_unit_eq_ok_iff.mp h
    obtain ⟨hkeys, h⟩ := seq_unit_eq_ok_iff.mp h
    obtain ⟨hcurrency, h⟩ := seq_unit_eq_ok_iff.mp h
    obtain ⟨rawItems, hitems, h⟩ := seq_eq_ok_iff.mp h
    obtain ⟨merchantId, hmerchant, h⟩ := seq_eq_ok_iff.mp h
    obtain ⟨parsed, hparsed, h⟩ := seq_eq_ok_iff.mp h
    obtain ⟨htotals, h⟩ := seq_unit_eq_ok_iff.mp h
    obtain rfl := Except.ok.inj h
    obtain ⟨taxPaise, shippingPaise, htotalled⟩ := checkTotals_eq_ok_iff.mp htotals
    exact ⟨rawItems, merchantId, taxPaise, shippingPaise,
      ⟨checkSize_eq_ok_iff.mp hsize, scanAuthorityInjection_eq_ok_iff.mp hkeys,
        checkCurrency_eq_ok_iff.mp hcurrency, itemsOf_eq_ok_iff.mp hitems,
        merchantOf_eq_ok_iff.mp hmerchant⟩, parseItems_eq_ok_iff.mp hparsed, htotalled⟩
  · rintro ⟨rawItems, merchantId, taxPaise, shippingPaise, h⟩
    refine seq_unit_eq_ok_iff.mpr ⟨checkSize_eq_ok_iff.mpr h.admits.size, ?_⟩
    refine seq_unit_eq_ok_iff.mpr ⟨scanAuthorityInjection_eq_ok_iff.mpr h.admits.keys, ?_⟩
    refine seq_unit_eq_ok_iff.mpr ⟨checkCurrency_eq_ok_iff.mpr h.admits.currency, ?_⟩
    refine seq_eq_ok_iff.mpr ⟨rawItems, itemsOf_eq_ok_iff.mpr h.admits.items, ?_⟩
    refine seq_eq_ok_iff.mpr ⟨merchantId, merchantOf_eq_ok_iff.mpr h.admits.merchant, ?_⟩
    refine seq_eq_ok_iff.mpr ⟨items, parseItems_eq_ok_iff.mpr h.reads, ?_⟩
    exact seq_unit_eq_ok_iff.mpr
      ⟨checkTotals_eq_ok_iff.mpr ⟨taxPaise, shippingPaise, h.totals⟩, rfl⟩

/-- **Nothing but an `IntentValidationError` is raised** exactly where no stage that is
    reached raises another error. -/
theorem parseIntentPayload_contained_iff :
    Contained (parseIntentPayload runtime (.dict payload) defaultMerchantId)
      ↔ Sound runtime payload defaultMerchantId := by
  -- the stages in their order, each where the ones before it accept
  refine (raises_seq_iff_of (iff_true_intro (checkSize_contained _))
    (fun _ => checkSize_eq_ok_iff) fun _ _ =>
    raises_seq_iff_of scanAuthorityInjection_contained_iff
      (fun _ => scanAuthorityInjection_eq_ok_iff) fun _ _ =>
    raises_seq_iff_of checkCurrency_contained_iff (fun _ => checkCurrency_eq_ok_iff) fun _ _ =>
    raises_seq_iff_of (iff_true_intro itemsOf_contained) (fun _ => itemsOf_eq_ok_iff)
      fun rawItems _ =>
    raises_seq_iff_of merchantOf_contained_iff (fun _ => merchantOf_eq_ok_iff)
      fun merchantId _ =>
    raises_seq_iff_of parseItems_contained_iff (fun _ => parseItems_eq_ok_iff) fun items _ =>
    (raises_seq_iff.trans (and_iff_left fun _ _ => raises_ok _ items)).trans
      checkTotals_contained_iff).trans ?_
  constructor
  · rintro ⟨-, h⟩
    have hkeys := fun hsize => h () hsize
    have hcurrency := fun hsize hunclaimed => (hkeys hsize).2 () hunclaimed
    have hmerchant := fun hsize hunclaimed hrupees rawItems hitems =>
      ((hcurrency hsize hunclaimed).2 () hrupees).2 rawItems hitems
    have hrest := fun rawItems merchantId
        (hadmits : Admits runtime payload defaultMerchantId rawItems merchantId) =>
      (hmerchant hadmits.size hadmits.keys hadmits.currency rawItems hadmits.items).2
        merchantId hadmits.merchant
    exact ⟨fun hsize => (hkeys hsize).1, fun hsize hunclaimed => (hcurrency hsize hunclaimed).1,
      fun hsize hunclaimed hrupees rawItems hitems =>
        (hmerchant hsize hunclaimed hrupees rawItems hitems).1,
      fun rawItems merchantId hadmits => (hrest rawItems merchantId hadmits).1,
      fun rawItems merchantId items hadmits => (hrest rawItems merchantId hadmits).2 items⟩
  · intro h
    exact ⟨trivial, fun _ hsize => ⟨h.keys hsize, fun _ hunclaimed =>
      ⟨h.currency hsize hunclaimed, fun _ hrupees => ⟨trivial, fun rawItems hitems =>
        ⟨h.merchant hsize hunclaimed hrupees rawItems hitems, fun merchantId hmerchant =>
          ⟨h.items rawItems merchantId ⟨hsize, hunclaimed, hrupees, hitems, hmerchant⟩,
            fun items => h.totals rawItems merchantId items
              ⟨hsize, hunclaimed, hrupees, hitems, hmerchant⟩⟩⟩⟩⟩⟩⟩

end

/-! ## What is checked -/

def IsPaise (v : RawValue) (paise : Int) : Prop := v.amount? = some (paise : Rat)

def NonNegative (v : RawValue) : Prop := ∀ q, v.amount? = some q → 0 ≤ q

/-- The first of these fields that is given. -/
def firstGiven (payload : RawDict) : List String → Option RawValue
  | [] => none
  | name :: names =>
      match RawDict.get payload name .none with
      | .none => firstGiven payload names
      | v => some v

def declaredTotal? (payload : RawDict) : Option RawValue :=
  firstGiven payload ["total_paise", "amount_paise", "total_amount_paise"]

/-- The line item is within its bounds, and costs what the item declares. -/
structure IsLine (rawItem : RawValue) (item : CartItemProposal) : Prop where
  quantity : 1 ≤ item.quantity ∧ item.quantity ≤ maxItemQuantity
  price    : 1 ≤ item.unitPricePaise ∧ item.unitPricePaise ≤ maxSingleItemPricePaise
  subtotal : ∀ raw, rawItem = .dict raw → rawSubtotal raw ≠ .none →
    IsPaise (rawSubtotal raw) item.subtotalPaise

/-- The line items add up to what the payload declares. -/
structure AddsUp (payload : RawDict) (rawItems : List RawValue) (items : List CartItemProposal)
    (taxPaise shippingPaise : Int) : Prop where
  source   : lineItems? payload = some rawItems
  count    : 1 ≤ items.length ∧ items.length ≤ maxItemsPerIntent
  lines    : List.Forall₂ IsLine rawItems items
  charges  : Charges payload taxPaise shippingPaise
  nonneg   : NonNegative (rawTax payload) ∧ NonNegative (rawShipping payload)
  limited  : grandTotal items taxPaise shippingPaise ≤ maxTotalAmountPaise
  declared : ∀ v, declaredTotal? payload = some v →
    IsPaise v (grandTotal items taxPaise shippingPaise) ∨ IsPaise v (itemsTotal items)

/-- Line items that add up are returned, or an `IntentValidationError` is raised. -/
structure Disciplined (runtime : ParserRuntime) (payload : RawValue)
    (defaultMerchantId : WideText) : Prop where
  raises  : Contained (parseIntentPayload runtime payload defaultMerchantId)
  checked : ∀ items, parseIntentPayload runtime payload defaultMerchantId = .ok items →
    ∃ d rawItems taxPaise shippingPaise, payload = .dict d
      ∧ AddsUp d rawItems items taxPaise shippingPaise

/-- The value is no number with a fraction. -/
def Whole (v : RawValue) : Prop := ∀ q, v.amount? = some q → ∃ i : Int, q = i

/-- What the payload declares is whole, and no tax, shipping or missing total is hidden
    in it. -/
structure Honest (payload : RawDict) (rawItems : List RawValue) : Prop where
  subtotals : ∀ raw, .dict raw ∈ rawItems → rawSubtotal raw ≠ .none → Whole (rawSubtotal raw)
  nonneg    : NonNegative (rawTax payload) ∧ NonNegative (rawShipping payload)
  declared  : ∀ v, declaredTotal? payload = some v → v.isTruthy = true ∧ Whole v

theorem IsPaise.whole {v : RawValue} {paise : Int} (h : IsPaise v paise) : Whole v := by
  intro q hq
  exact ⟨paise, Option.some.inj (hq.symm.trans h)⟩

theorem isPaise_of_toInt {v : RawValue} {i : Int} (h : v.toInt = .ok i) (hwhole : Whole v) :
    IsPaise v i := by
  obtain ⟨q, hq, hi⟩ := RawValue.toInt_eq_ok_iff.mp h
  obtain ⟨j, rfl⟩ := hwhole q hq
  rw [RawValue.truncate_intCast] at hi
  rw [IsPaise, hq, hi]

/-- A number that is not negative is read as one. -/
theorem NonNegative.of_toInt {v : RawValue} {i : Int} (h : NonNegative v)
    (hi : v.toInt = .ok i) : 0 ≤ i := by
  obtain ⟨q, hq, rfl⟩ := RawValue.toInt_eq_ok_iff.mp hi
  exact RawValue.truncate_nonneg (h q hq)

theorem firstGiven_cons_eq_some {payload : RawDict} {name : String} {names : List String}
    {v : RawValue} (h : firstGiven payload (name :: names) = some v) :
    (v ≠ .none ∧ payload.get name .none = v)
      ∨ (payload.get name .none = .none ∧ firstGiven payload names = some v) := by
  rw [firstGiven] at h
  cases hget : payload.get name .none with
  | none =>
      rw [hget] at h
      exact .inr ⟨rfl, h⟩
  | bool _ | int _ | float _ | str _ | list _ | dict _ =>
      rw [hget] at h
      obtain rfl := Option.some.inj h
      refine .inl ⟨fun heq => ?_, rfl⟩
      cases heq

theorem orElse_of_isTruthy {v w : RawValue} (h : v.isTruthy = true) : v.orElse w = v := if_pos h

theorem providedTotal_of_declared {payload : RawDict} {v : RawValue}
    (h : declaredTotal? payload = some v) (htrue : v.isTruthy = true) :
    v ≠ .none ∧ providedTotal payload = v := by
  rw [providedTotal]
  obtain ⟨hne, rfl⟩ | ⟨htotal, h⟩ := firstGiven_cons_eq_some h
  · rw [orElse_of_isTruthy htrue, orElse_of_isTruthy htrue]
    exact ⟨hne, rfl⟩
  · rw [htotal]
    obtain ⟨hne, rfl⟩ | ⟨hamount, h⟩ := firstGiven_cons_eq_some h
    · exact ⟨hne, orElse_of_isTruthy htrue⟩
    · rw [hamount]
      obtain ⟨hne, rfl⟩ | ⟨-, h⟩ := firstGiven_cons_eq_some h
      · exact ⟨hne, rfl⟩
      · cases h

/-- An item is a line within its bounds, where the subtotal it declares is whole. -/
theorem Describes.isLine {room : Nat} {merchantId : WideText} {rawItem : RawValue}
    {item : CartItemProposal} (h : Describes room merchantId rawItem item)
    (hwhole : ∀ raw, rawItem = .dict raw → rawSubtotal raw ≠ .none → Whole (rawSubtotal raw)) :
    IsLine rawItem item := by
  obtain ⟨raw, head, rfl, hitem⟩ := h
  refine ⟨hitem.quantity.2, hitem.price.2, fun raw' heq hgiven => ?_⟩
  obtain rfl := RawValue.dict.inj heq
  exact isPaise_of_toInt (hitem.subtotal.resolve_left hgiven) (hwhole raw rfl hgiven)

theorem IsLine.subtotal_pos {rawItem : RawValue} {item : CartItemProposal}
    (h : IsLine rawItem item) : 0 < item.subtotalPaise :=
  Int.mul_pos h.quantity.1 h.price.1

theorem itemsTotal_pos {rawItems : List RawValue} {items : List CartItemProposal}
    (hcount : 1 ≤ items.length) (h : List.Forall₂ IsLine rawItems items) :
    0 < itemsTotal items := by
  have hflip : List.Forall₂ (fun item rawItem => 0 < item.subtotalPaise ∧ IsLine rawItem item)
      items rawItems :=
    (List.Forall₂.flip h).imp fun item rawItem hline => ⟨hline.subtotal_pos, hline⟩
  have hpos := (List.forall₂_and_left items rawItems).mp hflip
  refine List.sum_pos _ ?_ ?_
  · rw [List.forall_mem_map]
    exact hpos.1
  · rw [Ne, List.map_eq_nil_iff]
    exact List.ne_nil_of_length_pos hcount

section
variable {runtime : ParserRuntime} {payload : RawDict} {defaultMerchantId : WideText}
  {rawItems : List RawValue} {items : List CartItemProposal} {taxPaise shippingPaise : Int}

/-- What is accepted adds up, where what is declared is honest. -/
theorem Accepts.addsUp {merchantId : WideText}
    (h : Accepts runtime payload defaultMerchantId rawItems merchantId items taxPaise
      shippingPaise) (hhonest : Honest payload rawItems) :
    AddsUp payload rawItems items taxPaise shippingPaise := by
  have hlength := h.reads.length_eq
  refine ⟨h.admits.items.1, ⟨?_, ?_⟩, ?_, h.totals.charges, hhonest.nonneg, h.totals.limited, ?_⟩
  · rw [← hlength]
    exact h.admits.items.pos
  · rw [← hlength]
    exact h.admits.items.2
  · refine ((List.forall₂_and_left _ _).mpr ⟨?_, h.reads⟩).imp fun rawItem item hboth =>
      hboth.2.isLine hboth.1
    rintro rawItem hmem raw rfl
    exact hhonest.subtotals raw hmem
  · intro v hdeclared
    obtain ⟨htrue, hwhole⟩ := hhonest.declared v hdeclared
    obtain ⟨hne, hprovided⟩ := providedTotal_of_declared hdeclared htrue
    have hagrees := h.totals.agrees
    rw [hprovided] at hagrees
    obtain ⟨i, hi, hgrand | hitems⟩ := hagrees.resolve_left hne
    · exact .inl (hgrand ▸ isPaise_of_toInt hi hwhole)
    · exact .inr (hitems ▸ isPaise_of_toInt hi hwhole)

/-- What adds up is declared honestly. -/
theorem AddsUp.honest (h : AddsUp payload rawItems items taxPaise shippingPaise) :
    Honest payload rawItems := by
  have hitems := itemsTotal_pos h.count.1 h.lines
  have htax := h.nonneg.1.of_toInt h.charges.tax
  have hshipping := h.nonneg.2.of_toInt h.charges.shipping
  have hgrand : 0 < grandTotal items taxPaise shippingPaise := by
    rw [grandTotal]
    omega
  refine ⟨fun raw hmem hgiven => ?_, h.nonneg, fun v hdeclared => ?_⟩
  · have hwhole : List.Forall₂ (fun rawItem item => (∀ raw, rawItem = .dict raw →
        rawSubtotal raw ≠ .none → Whole (rawSubtotal raw)) ∧ IsLine rawItem item) rawItems items :=
      h.lines.imp fun rawItem item hline =>
        ⟨fun raw heq hne => (hline.subtotal raw heq hne).whole, hline⟩
    exact ((List.forall₂_and_left _ _).mp hwhole).1 _ hmem raw rfl hgiven
  · have hcounts : ∀ paise : Int, 0 < paise → IsPaise v paise → v.isTruthy = true ∧ Whole v :=
      fun paise hpos hpaise =>
        ⟨RawValue.isTruthy_of_amount? hpaise fun hzero =>
          hpos.ne' (Rat.intCast_eq_zero_iff.mp hzero), hpaise.whole⟩
    obtain hpaise | hpaise := h.declared v hdeclared
    · exact hcounts _ hgrand hpaise
    · exact hcounts _ hitems hpaise

end

/-- **When the parser is disciplined.**  It is exactly on the dictionaries where no stage
    that is reached meets an infinity, a value without a text or texts that the contract
    refuses, and where what is accepted declares whole subtotals and totals, a total that
    counts as true, and neither a negative tax nor a negative shipping. -/
theorem disciplined_iff (runtime : ParserRuntime) (payload : RawValue)
    (defaultMerchantId : WideText) :
    Disciplined runtime payload defaultMerchantId
      ↔ ∀ d, payload = .dict d → Sound runtime d defaultMerchantId
        ∧ ∀ rawItems merchantId items taxPaise shippingPaise,
          Accepts runtime d defaultMerchantId rawItems merchantId items taxPaise shippingPaise →
            Honest d rawItems := by
  cases payload with
  | none | bool _ | int _ | float _ | str _ | list _ =>
      refine iff_of_true ⟨raises_error_iff.mpr trivial, fun items h => ?_⟩ fun d heq => ?_
      · cases h
      · cases heq
  | dict d =>
      constructor
      · rintro h d' heq
        obtain rfl := RawValue.dict.inj heq
        refine ⟨parseIntentPayload_contained_iff.mp h.raises, ?_⟩
        intro rawItems merchantId items taxPaise shippingPaise haccepts
        obtain ⟨d', rawItems', tax, shipping, heq', hadds⟩ := h.checked items
          (parseIntentPayload_eq_ok_iff.mpr ⟨_, _, _, _, haccepts⟩)
        obtain rfl := RawValue.dict.inj heq'
        obtain rfl := Option.some.inj (hadds.source.symm.trans haccepts.admits.items.1)
        exact hadds.honest
      · intro h
        obtain ⟨hsound, hhonest⟩ := h d rfl
        refine ⟨parseIntentPayload_contained_iff.mpr hsound, fun items hitems => ?_⟩
        obtain ⟨rawItems, merchantId, tax, shipping, haccepts⟩ :=
          parseIntentPayload_eq_ok_iff.mp hitems
        exact ⟨d, rawItems, tax, shipping, rfl,
          haccepts.addsUp (hhonest rawItems merchantId items tax shipping haccepts)⟩

end AgentIntentParser

/-! ## Endless tea -/

namespace SampleIntent

def field (name : String) (v : RawValue) : RawKey × RawValue := (RawDict.key name, v)

def tea (quantity : RawValue) : RawValue :=
  .dict [field "items" (.list [.dict
    [field "product_id" (.str (ofString "tea_1")), field "merchant_id" (.str (ofString "shop_1")),
      field "name" (.str (ofString "Tea")), field "quantity" quantity,
      field "price" (.int 25000)]])]

def endless : RawValue :=
  .float ⟨"Infinity", by decide +kernel, Json.all_isBare_iff.mp (by decide)⟩

def runtime : ParserRuntime where
  encodeRoom := 900
  scanRoom := 900
  textRoom := 900
  errorText := fun _ => ofString "limit"

end SampleIntent

open SampleIntent AgentIntentParser in
/-- **An infinite quantity**: the `OverflowError` of `int` leaves the parser. -/
theorem endless_tea_overflows : ¬ Disciplined runtime (tea endless) [] := by
  have hoverflow : (parseIntentPayload runtime (tea endless) []).map (fun _ => ())
      = .error (.conversion .overflowError) := by decide +kernel
  intro h
  have hraises : AgentIntentParser.Contained
      ((parseIntentPayload runtime (tea endless) []).map fun _ => ()) :=
    raises_map_iff.mpr h.raises
  rw [hoverflow] at hraises
  exact raises_error_iff.mp hraises

end MandateGateway
