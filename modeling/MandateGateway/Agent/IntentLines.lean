import MandateGateway.Agent.IntentParser

/-! # The line items of an agent's intent

    Of each stage it is said what it accepts (`_eq_ok_iff`), and when it raises nothing
    but an `IntentValidationError` (`_contained_iff`): where `int` meets no infinity, a
    value whose text is needed has one, and the contract takes the texts. -/

namespace MandateGateway

open Exceptions
open WideText (ofString)

namespace AgentIntentParser

open PromptInjectionDefense

/-- No error but an `IntentValidationError` leaves the computation. -/
def Contained {α : Type} (x : Except ParserError α) : Prop := Raises ParserError.IsValidation x

theorem contained_limit_iff {α : Type} {fits : Prop} {x : Except IntentError α}
    (h : EndsBy fits x) : Contained (x.mapError .limit) ↔ fits := by
  rcases h with ⟨hfits, a, rfl⟩ | ⟨hnot, err, rfl⟩
  · exact iff_of_true (raises_ok _ a) hfits
  · exact iff_of_false (fun h => h _ rfl) hnot

/-! ## Texts and numbers -/

/-- A value whose number is read, or that is shown where it is none. -/
structure Readable (room : Nat) (v : RawValue) : Prop where
  finite : ¬ v.Infinite
  shown  : v.amount? = none → v.Printable room

/-- A value that is read, and whose number has what is needed of it. -/
structure SoundNumber (room : Nat) (v : RawValue) (Fine : Int → Prop) : Prop where
  readable : Readable room v
  fine     : ∀ i, v.toInt = .ok i → Fine i

/-- A number that is at least one and within the limit. -/
def InRange (limit i : Int) : Prop := 0 < i ∧ i ≤ limit

/-- A value that is read, and shown where it is out of range. -/
def Showable (room : Nat) (limit : Int) (v : RawValue) : Prop :=
  SoundNumber room v fun i => ¬ InRange limit i → FewDigits i

def IsNumber (limit : Int) (v : RawValue) (i : Int) : Prop := v.toInt = .ok i ∧ InRange limit i

section
variable {α τ : Type} {room : Nat} {code : IntentErrorCode} {label : String} {v : RawValue}
  {limit i : Int}

theorem textOf_eq_ok_iff {s : WideText} : textOf room v = .ok s ↔ v.toText room = .ok s :=
  mapError_eq_ok_iff

theorem textOf_contained_iff : Contained (textOf room v) ↔ v.Printable room :=
  contained_limit_iff (RawValue.toText_ends room v)

theorem refuse_ne_ok {shown : Except IntentError τ} {detail : τ → WideText} {a : α} :
    refuse code shown detail ≠ .ok a := by
  intro h
  obtain ⟨text, -, h⟩ := seq_eq_ok_iff.mp h
  cases h

theorem refuse_contained_iff {fits : Prop} {shown : Except IntentError τ}
    {detail : τ → WideText} (h : EndsBy fits shown) :
    Contained (refuse code shown detail : Except ParserError α) ↔ fits := by
  rw [Contained, refuse, raises_seq_iff, ← Contained, contained_limit_iff h]
  exact and_iff_left fun _ _ => raises_error_iff.mpr trivial

theorem refuseWith_ne_ok {detail : String → String} {a : α} :
    refuseWith code i detail ≠ .ok a :=
  refuse_ne_ok

theorem refuseWith_contained_iff {detail : String → String} :
    Contained (refuseWith code i detail : Except ParserError α) ↔ FewDigits i :=
  refuse_contained_iff (intText_ends i)

theorem refuseValue_contained_iff :
    Contained (refuseValue room code label v : Except ParserError α) ↔ v.Printable room :=
  refuse_contained_iff (RawValue.repr_ends room v)

theorem readInt_eq_ok_iff : readInt room code label v = .ok i ↔ v.toInt = .ok i := by
  rw [readInt]
  cases v.toInt with
  | ok j => exact ok_eq_ok_iff.trans ok_eq_ok_iff.symm
  | error err =>
      cases err with
      | overflowError => exact iff_of_false (fun h => by cases h) (fun h => by cases h)
      | valueError | typeError => exact iff_of_false refuse_ne_ok (fun h => by cases h)

theorem amount?_eq_none_of_error {err : ConversionError} (h : v.toInt = .error err) :
    v.amount? = none := by
  cases hq : v.amount? with
  | none => rfl
  | some q =>
      obtain ⟨i, hi⟩ := RawValue.toInt_returns_iff.mpr ⟨q, hq⟩
      rw [hi] at h
      cases h

theorem readInt_contained_iff : Contained (readInt room code label v) ↔ Readable room v := by
  have hfinite : v.toInt ≠ .error .overflowError → ¬ v.Infinite := fun hne hinfinite =>
    hne (RawValue.toInt_eq_overflowError_iff.mpr hinfinite)
  have hrefused : ∀ err, v.toInt = .error err → err ≠ .overflowError →
      (v.Printable room ↔ Readable room v) := by
    intro err herr hne
    refine ⟨fun h => ⟨hfinite fun heq => hne ?_, fun _ => h⟩,
      fun h => h.shown (amount?_eq_none_of_error herr)⟩
    exact Except.error.inj (herr.symm.trans heq)
  rw [readInt]
  cases htoInt : v.toInt with
  | ok j =>
      obtain ⟨q, hq, -⟩ := RawValue.toInt_eq_ok_iff.mp htoInt
      refine iff_of_true (raises_ok _ j) ⟨hfinite fun heq => ?_, fun hnone => ?_⟩
      · cases htoInt.symm.trans heq
      · cases hq.symm.trans hnone
  | error err =>
      cases err with
      | overflowError =>
          refine iff_of_false (fun h => h _ rfl) fun h => ?_
          exact h.finite (RawValue.toInt_eq_overflowError_iff.mp htoInt)
      | valueError =>
          exact refuseValue_contained_iff.trans (hrefused _ htoInt fun h => by cases h)
      | typeError =>
          exact refuseValue_contained_iff.trans (hrefused _ htoInt fun h => by cases h)

theorem number_contained_iff {f : Int → Except ParserError α} {Fine : Int → Prop}
    (hf : ∀ i, Contained (f i) ↔ Fine i) :
    Contained (readInt room code label v >>= f) ↔ SoundNumber room v Fine :=
  (raises_seq_iff_of readInt_contained_iff (fun _ => readInt_eq_ok_iff) fun i _ => hf i).trans
    ⟨fun h => ⟨h.1, h.2⟩, fun h => ⟨h.readable, h.fine⟩⟩

theorem soundNumber_none (Fine : Int → Prop) : SoundNumber room .none Fine := by
  refine ⟨⟨?_, fun _ => ⟨Nat.zero_le room, RawValue.short_nil⟩⟩, fun i h => ?_⟩
  · rintro ⟨x, negative, heq, -⟩
    cases heq
  · cases h

theorem checkGiven_eq_ok_iff {check : Int → Except ParserError Unit} :
    checkGiven room label v check = .ok ()
      ↔ v = .none ∨ ∃ i, v.toInt = .ok i ∧ check i = .ok () := by
  have hgiven : ∀ w : RawValue,
      (readInt room .invalidLineItemMath label w >>= check) = .ok ()
        ↔ ∃ i, w.toInt = .ok i ∧ check i = .ok () := fun w =>
    seq_eq_ok_iff.trans (exists_congr fun i => and_congr_left' readInt_eq_ok_iff)
  cases v with
  | none => exact iff_of_true rfl (.inl rfl)
  | bool _ | int _ | float _ | str _ | list _ | dict _ =>
      refine (hgiven _).trans ⟨.inr, fun h => h.resolve_left fun heq => ?_⟩
      cases heq

theorem checkGiven_contained_iff {check : Int → Except ParserError Unit} {Fine : Int → Prop}
    (hcheck : ∀ i, Contained (check i) ↔ Fine i) :
    Contained (checkGiven room label v check) ↔ SoundNumber room v Fine := by
  cases v with
  | none => exact iff_of_true (raises_ok _ ()) (soundNumber_none Fine)
  | bool _ | int _ | float _ | str _ | list _ | dict _ => exact number_contained_iff hcheck

theorem refused_contained_iff {c fits : Prop} [Decidable c] {x : Except ParserError α} {a : α}
    (hx : Contained x ↔ fits) : Contained (if c then x else .ok a) ↔ (c → fits) := by
  by_cases h : c
  · rw [if_pos h, hx]
    exact ⟨fun hfits _ => hfits, fun hfits => hfits h⟩
  · rw [if_neg h]
    exact iff_of_true (raises_ok _ a) fun hc => absurd hc h

theorem inRange_eq_ok_iff {detail : String → String} {j : Int} :
    inRange limit detail i = .ok j ↔ InRange limit i ∧ j = i := by
  rw [inRange, ite_eq_iff_of_ne refuseWith_ne_ok, ok_eq_ok_iff, not_or, not_le, not_lt, InRange]

theorem inRange_contained_iff {detail : String → String} (i : Int) :
    Contained (inRange limit detail i) ↔ (¬ InRange limit i → FewDigits i) := by
  rw [inRange, refused_contained_iff refuseWith_contained_iff, InRange, not_and_or, not_lt, not_le]

theorem bounded_eq_ok_iff {detail : String → String} :
    (readInt room code label v >>= inRange limit detail) = .ok i ↔ IsNumber limit v i := by
  rw [seq_eq_ok_iff, IsNumber]
  constructor
  · rintro ⟨j, hj, h⟩
    obtain ⟨hrange, rfl⟩ := inRange_eq_ok_iff.mp h
    exact ⟨readInt_eq_ok_iff.mp hj, hrange⟩
  · rintro ⟨hi, hrange⟩
    exact ⟨i, readInt_eq_ok_iff.mpr hi, inRange_eq_ok_iff.mpr ⟨hrange, rfl⟩⟩

theorem bounded_contained_iff {detail : String → String} :
    Contained (readInt room code label v >>= inRange limit detail) ↔ Showable room limit v :=
  number_contained_iff inRange_contained_iff

end

/-! ## The poisoned texts -/

/-- No text that is searched is poisoned. -/
def Unpoisoned (room : Nat) (raw : RawDict) : Prop :=
  ∀ name ∈ searchedFields, ∃ s, (raw.get name (.str [])).toText room = .ok s
    ∧ poisoned s = false

section
variable {room : Nat} {raw : RawDict}

theorem searchTargets_eq_ok_iff {P : WideText → Prop} {names : List String} :
    (∃ targets, searchTargets room raw names = .ok targets ∧ ∀ s ∈ targets, P s)
      ↔ ∀ name ∈ names, ∃ s, (raw.get name (.str [])).toText room = .ok s ∧ P s := by
  induction names with
  | nil =>
      refine iff_of_true ⟨[], rfl, ?_⟩ ?_
      · exact fun s hs => absurd hs List.not_mem_nil
      · exact fun name hname => absurd hname List.not_mem_nil
  | cons name names ih =>
      rw [List.forall_mem_cons, ← ih]
      constructor
      · rintro ⟨all, h, hall⟩
        obtain ⟨s, hs, h⟩ := seq_eq_ok_iff.mp h
        obtain ⟨targets, htargets, h⟩ := seq_eq_ok_iff.mp h
        obtain rfl := Except.ok.inj h
        obtain ⟨hfirst, hrest⟩ := List.forall_mem_cons.mp hall
        exact ⟨⟨s, textOf_eq_ok_iff.mp hs, hfirst⟩, targets, htargets, hrest⟩
      · rintro ⟨⟨s, hs, hfirst⟩, targets, htargets, hrest⟩
        refine ⟨s :: targets, seq_eq_ok_iff.mpr ⟨s, textOf_eq_ok_iff.mpr hs, ?_⟩,
          List.forall_mem_cons.mpr ⟨hfirst, hrest⟩⟩
        exact seq_eq_ok_iff.mpr ⟨targets, htargets, rfl⟩

theorem searchTargets_contained_iff {names : List String} :
    Contained (searchTargets room raw names)
      ↔ ∀ name ∈ names, (raw.get name (.str [])).Printable room := by
  induction names with
  | nil => exact iff_of_true (raises_ok _ _) fun name hname => absurd hname List.not_mem_nil
  | cons name names ih =>
      rw [List.forall_mem_cons, ← ih, ← textOf_contained_iff, Contained, searchTargets,
        raises_seq_iff]
      refine and_congr_right fun htext => ⟨fun h => ?_, fun h s _ => ?_⟩
      · obtain ⟨s, hs⟩ := (RawValue.toText_ends room _).returns_iff.mpr
          (textOf_contained_iff.mp htext)
        exact (raises_seq_iff.mp (h s (textOf_eq_ok_iff.mpr hs))).1
      · exact raises_seq_iff.mpr ⟨h, fun _ _ => raises_ok _ _⟩

theorem find_poisoned_eq_none_iff {targets : List WideText} :
    targets.find? poisoned = none ↔ ∀ s ∈ targets, poisoned s = false := by
  rw [List.find?_eq_none]
  exact forall₂_congr fun s _ => iff_of_eq (Bool.not_eq_true (poisoned s))

theorem scanCatalogPoisoning_eq_ok_iff :
    scanCatalogPoisoning room raw = .ok () ↔ Unpoisoned room raw := by
  rw [Unpoisoned, ← searchTargets_eq_ok_iff, scanCatalogPoisoning, seq_eq_ok_iff]
  refine exists_congr fun targets => and_congr_right fun _ => ?_
  rw [← find_poisoned_eq_none_iff]
  cases targets.find? poisoned with
  | none => exact iff_of_true rfl rfl
  | some target => exact iff_of_false (fun h => by cases h) (fun h => by cases h)

theorem scanCatalogPoisoning_contained_iff :
    Contained (scanCatalogPoisoning room raw)
      ↔ ∀ name ∈ searchedFields, (raw.get name (.str [])).Printable room := by
  rw [← searchTargets_contained_iff, Contained, scanCatalogPoisoning, raises_seq_iff]
  refine and_iff_left fun targets _ => ?_
  cases targets.find? poisoned with
  | none => exact raises_ok _ _
  | some target => exact raises_error_iff.mpr trivial

end

/-! ## What an item is -/

structure IsText (room : Nat) (v : RawValue) (s : WideText) : Prop where
  given : v.isTruthy = true
  text  : v.toText room = .ok s
  ne    : WideText.strip s ≠ []

def SoundText (room : Nat) (v : RawValue) : Prop := v.isTruthy = true → v.Printable room

/-- What an item is, as it is read. -/
structure IsHead (room : Nat) (merchantId : WideText) (raw : RawDict) (head : ItemHead) :
    Prop where
  product  : ∃ s, IsText room (rawProductId raw) s ∧ head.productId = WideText.strip s
  merchant : ∃ s, IsText room (rawMerchantId merchantId raw) s
    ∧ head.merchantId = WideText.strip s
  name     : ∃ s, IsText room (rawName raw) s ∧ head.name = sanitizeText s
  category : ∃ s, (rawCategory raw).toText room = .ok s ∧ head.category = sanitizeText s

/-- The texts that are looked at exist. -/
structure SoundHead (room : Nat) (merchantId : WideText) (raw : RawDict) : Prop where
  product  : SoundText room (rawProductId raw)
  merchant : (∃ s, IsText room (rawProductId raw) s) →
    SoundText room (rawMerchantId merchantId raw)
  name     : (∃ s, IsText room (rawProductId raw) s) →
    (∃ s, IsText room (rawMerchantId merchantId raw) s) → SoundText room (rawName raw)
  category : (∃ s, IsText room (rawProductId raw) s) →
    (∃ s, IsText room (rawMerchantId merchantId raw) s) → (∃ s, IsText room (rawName raw) s) →
      (rawCategory raw).Printable room

section
variable {room : Nat} {merchantId : WideText} {raw : RawDict}

theorem mandatory_eq_ok_iff {v : RawValue} {s : WideText} :
    mandatory room v = .ok s ↔ IsText room v s := by
  constructor
  · intro h
    obtain ⟨hgiven, h⟩ := guard_eq_ok_iff.mp h
    obtain ⟨s', hs, h⟩ := seq_eq_ok_iff.mp h
    obtain ⟨hne, h⟩ := guard_eq_ok_iff.mp h
    obtain rfl := Except.ok.inj h
    exact ⟨Bool.not_eq_false _ ▸ hgiven, textOf_eq_ok_iff.mp hs, hne⟩
  · rintro ⟨hgiven, htext, hne⟩
    refine guard_eq_ok_iff.mpr ⟨?_, seq_eq_ok_iff.mpr ⟨s, textOf_eq_ok_iff.mpr htext, ?_⟩⟩
    · rw [hgiven]
      exact Bool.noConfusion
    · exact guard_eq_ok_iff.mpr ⟨hne, rfl⟩

theorem mandatory_contained_iff {v : RawValue} :
    Contained (mandatory room v) ↔ SoundText room v := by
  have hguard : Contained (mandatory room v) ↔ (v.isTruthy = false → True)
      ∧ (¬ v.isTruthy = false → v.Printable room) := by
    refine raises_guard_iff.trans (and_congr Iff.rfl (imp_congr_right fun _ => ?_))
    rw [raises_seq_iff, ← Contained, textOf_contained_iff]
    exact and_iff_left fun s _ => raises_guard_iff.mpr ⟨fun _ => trivial, fun _ => raises_ok _ s⟩
  rw [hguard, SoundText, Bool.not_eq_false]
  exact and_iff_right fun _ => trivial

theorem itemHead_eq_ok_iff {head : ItemHead} :
    itemHead room merchantId raw = .ok head ↔ IsHead room merchantId raw head := by
  constructor
  · intro h
    obtain ⟨productId, hproduct, h⟩ := seq_eq_ok_iff.mp h
    obtain ⟨itemMerchantId, hmerchant, h⟩ := seq_eq_ok_iff.mp h
    obtain ⟨name, hname, h⟩ := seq_eq_ok_iff.mp h
    obtain ⟨category, hcategory, h⟩ := seq_eq_ok_iff.mp h
    obtain rfl := Except.ok.inj h
    exact ⟨⟨productId, mandatory_eq_ok_iff.mp hproduct, rfl⟩,
      ⟨itemMerchantId, mandatory_eq_ok_iff.mp hmerchant, rfl⟩,
      ⟨name, mandatory_eq_ok_iff.mp hname, rfl⟩,
      ⟨category, textOf_eq_ok_iff.mp hcategory, rfl⟩⟩
  · obtain ⟨productId, itemMerchantId, name, category⟩ := head
    rintro ⟨⟨p, hp, rfl⟩, ⟨m, hm, rfl⟩, ⟨n, hn, rfl⟩, ⟨c, hc, rfl⟩⟩
    refine seq_eq_ok_iff.mpr ⟨p, mandatory_eq_ok_iff.mpr hp, seq_eq_ok_iff.mpr ?_⟩
    refine ⟨m, mandatory_eq_ok_iff.mpr hm, seq_eq_ok_iff.mpr ⟨n, mandatory_eq_ok_iff.mpr hn, ?_⟩⟩
    exact seq_eq_ok_iff.mpr ⟨c, textOf_eq_ok_iff.mpr hc, rfl⟩

theorem itemHead_contained_iff :
    Contained (itemHead room merchantId raw) ↔ SoundHead room merchantId raw := by
  refine (raises_seq_iff_of mandatory_contained_iff (fun _ => mandatory_eq_ok_iff) fun p _ =>
    raises_seq_iff_of mandatory_contained_iff (fun _ => mandatory_eq_ok_iff) fun m _ =>
    raises_seq_iff_of mandatory_contained_iff (fun _ => mandatory_eq_ok_iff) fun n _ =>
    (raises_seq_iff.trans (and_iff_left fun _ _ => raises_ok _ _)).trans
      textOf_contained_iff).trans ?_
  constructor
  · rintro ⟨hproduct, h⟩
    refine ⟨hproduct, ?_, ?_, ?_⟩
    · rintro ⟨p, hp⟩
      exact (h p hp).1
    · rintro ⟨p, hp⟩ ⟨m, hm⟩
      exact ((h p hp).2 m hm).1
    · rintro ⟨p, hp⟩ ⟨m, hm⟩ ⟨n, hn⟩
      exact ((h p hp).2 m hm).2 n hn
  · intro h
    exact ⟨h.product, fun p hp => ⟨h.merchant ⟨p, hp⟩, fun m hm =>
      ⟨h.name ⟨p, hp⟩ ⟨m, hm⟩, fun n hn => h.category ⟨p, hp⟩ ⟨m, hm⟩ ⟨n, hn⟩⟩⟩⟩

end

/-! ## How many for how much -/

def DeclaresSubtotal (raw : RawDict) (product : Int) : Prop :=
  rawSubtotal raw = .none ∨ (rawSubtotal raw).toInt = .ok product

/-- A subtotal that is declared is read, and shown where it is not the product. -/
def SoundSubtotal (room : Nat) (raw : RawDict) (product : Int) : Prop :=
  SoundNumber room (rawSubtotal raw) fun i => i ≠ product → FewDigits i

section
variable {room : Nat} {raw : RawDict} {productId : WideText} {qty unitPrice : Int}

theorem itemQuantity_eq_ok_iff :
    itemQuantity room raw = .ok qty ↔ IsNumber maxItemQuantity (rawQuantity raw) qty :=
  bounded_eq_ok_iff

theorem itemQuantity_contained_iff :
    Contained (itemQuantity room raw) ↔ Showable room maxItemQuantity (rawQuantity raw) :=
  bounded_contained_iff

theorem itemUnitPrice_eq_ok_iff :
    itemUnitPrice room raw = .ok unitPrice
      ↔ IsNumber maxSingleItemPricePaise (rawPrice raw) unitPrice := by
  rw [itemUnitPrice]
  cases rawPrice raw with
  | none => exact iff_of_false (fun h => by cases h) (fun h => by cases h.1)
  | bool _ | int _ | float _ | str _ | list _ | dict _ => exact bounded_eq_ok_iff

theorem itemUnitPrice_contained_iff :
    Contained (itemUnitPrice room raw)
      ↔ Showable room maxSingleItemPricePaise (rawPrice raw) := by
  rw [itemUnitPrice]
  cases rawPrice raw with
  | none => exact iff_of_true (raises_error_iff.mpr trivial) (soundNumber_none _)
  | bool _ | int _ | float _ | str _ | list _ | dict _ => exact bounded_contained_iff

theorem checkSubtotal_eq_ok_iff :
    checkSubtotal room raw productId qty unitPrice = .ok ()
      ↔ DeclaresSubtotal raw (qty * unitPrice) := by
  rw [checkSubtotal, checkGiven_eq_ok_iff, DeclaresSubtotal]
  refine or_congr_right ⟨?_, fun h => ⟨_, h, if_neg (not_not.mpr rfl)⟩⟩
  rintro ⟨i, hi, h⟩
  obtain ⟨hsame, -⟩ := (ite_eq_iff_of_ne refuse_ne_ok).mp h
  rw [← not_not.mp hsame]
  exact hi

theorem checkSubtotal_contained_iff :
    Contained (checkSubtotal room raw productId qty unitPrice)
      ↔ SoundSubtotal room raw (qty * unitPrice) :=
  checkGiven_contained_iff fun i => refused_contained_iff (refuse_contained_iff (intText_ends i))

end

/-! ## The line item -/

/-- The contract takes the texts of the item. -/
structure Fits (head : ItemHead) : Prop where
  product  : ∃ text, head.productId = ofString text
  merchant : ∃ text, head.merchantId = ofString text
  name     : ∃ text, head.name = ofString text ∧ text ≠ "" ∧ text.length ≤ 500
  category : ∃ text, head.category = ofString text ∧ text ≠ "" ∧ text.length ≤ 100

/-- The line item of these fields. -/
structure IsLineItem (head : ItemHead) (qty unitPrice : Int) (item : CartItemProposal) :
    Prop where
  product  : head.productId = ofString item.productId
  merchant : head.merchantId = ofString item.merchantId
  name     : head.name = ofString item.name
  category : head.category = ofString item.category
  quantity : item.quantity = qty
  price    : item.unitPricePaise = unitPrice
  currency : item.currency = .inr

section
variable {head : ItemHead} {qty unitPrice : Int} {item : CartItemProposal}

theorem headTexts_eq_some_iff {p m n c : String} :
    headTexts head = some (p, m, n, c) ↔ head.productId = ofString p
      ∧ head.merchantId = ofString m ∧ head.name = ofString n ∧ head.category = ofString c := by
  simp only [headTexts, Option.bind_eq_bind, Option.bind_eq_some_iff,
    WideText.scalars?_eq_some_iff, Option.pure_def, Option.some.injEq, Prod.mk.injEq]
  constructor
  · rintro ⟨p', hp, m', hm, n', hn, c', hc, rfl, rfl, rfl, rfl⟩
    exact ⟨hp, hm, hn, hc⟩
  · rintro ⟨hp, hm, hn, hc⟩
    exact ⟨p, hp, m, hm, n, hn, c, hc, rfl, rfl, rfl, rfl⟩

theorem newCartItemProposal_eq_ok (h : newCartItemProposal head qty unitPrice = .ok item) :
    IsLineItem head qty unitPrice item := by
  rw [newCartItemProposal] at h
  cases htexts : headTexts head with
  | none =>
      rw [htexts] at h
      cases h
  | some texts =>
      obtain ⟨p, m, n, c⟩ := texts
      rw [htexts] at h
      dsimp only at h
      split at h
      · obtain rfl := Except.ok.inj h
        obtain ⟨hp, hm, hn, hc⟩ := headTexts_eq_some_iff.mp htexts
        exact ⟨hp, hm, hn, hc, rfl, rfl, rfl⟩
      · cases h

structure Identified (head : ItemHead) : Prop where
  product  : head.productId ≠ []
  merchant : head.merchantId ≠ []

theorem IsHead.identified {room : Nat} {merchantId : WideText} {raw : RawDict}
    (h : IsHead room merchantId raw head) : Identified head := by
  obtain ⟨p, hp, hproduct⟩ := h.product
  obtain ⟨m, hm, hmerchant⟩ := h.merchant
  exact ⟨hproduct ▸ hp.ne, hmerchant ▸ hm.ne⟩

theorem ne_empty_of_ofString {s : WideText} {text : String} (hne : s ≠ [])
    (h : s = ofString text) : text ≠ "" := by
  rintro rfl
  exact hne h

/-- **A line item is built** where the contract takes the texts. -/
theorem newCartItemProposal_ends (hidentified : Identified head) (hqty : 1 ≤ qty)
    (hprice : 0 ≤ unitPrice) : EndsBy (Fits head) (newCartItemProposal head qty unitPrice) := by
  rw [newCartItemProposal]
  cases htexts : headTexts head with
  | none =>
      refine .inr ⟨?_, _, rfl⟩
      rintro ⟨⟨p, hp⟩, ⟨m, hm⟩, ⟨n, hn, -⟩, ⟨c, hc, -⟩⟩
      rw [headTexts_eq_some_iff.mpr ⟨hp, hm, hn, hc⟩] at htexts
      cases htexts
  | some texts =>
      obtain ⟨p, m, n, c⟩ := texts
      obtain ⟨hp, hm, hn, hc⟩ := headTexts_eq_some_iff.mp htexts
      have hids : p ≠ "" ∧ m ≠ "" :=
        ⟨ne_empty_of_ofString hidentified.product hp, ne_empty_of_ofString hidentified.merchant hm⟩
      by_cases hbounded : (n ≠ "" ∧ n.length ≤ 500) ∧ (c ≠ "" ∧ c.length ≤ 100)
      · refine .inl ⟨⟨⟨p, hp⟩, ⟨m, hm⟩, ⟨n, hn, hbounded.1⟩, ⟨c, hc, hbounded.2⟩⟩, _, dif_pos ?_⟩
        exact ⟨hids, hbounded.1, hbounded.2, hqty, hprice⟩
      · refine .inr ⟨?_, _, dif_neg fun h => hbounded ⟨h.2.1, h.2.2.1⟩⟩
        rintro ⟨-, -, ⟨n', hn', hname⟩, ⟨c', hc', hcategory⟩⟩
        obtain rfl := WideText.ofString_injective (hn.symm.trans hn')
        obtain rfl := WideText.ofString_injective (hc.symm.trans hc')
        exact hbounded ⟨hname, hcategory⟩

theorem IsLineItem.unique {item' : CartItemProposal} (h : IsLineItem head qty unitPrice item)
    (h' : IsLineItem head qty unitPrice item') : item = item' := by
  cases item
  cases item'
  rw [CartItemProposal.mk.injEq]
  exact ⟨WideText.ofString_injective (h.product.symm.trans h'.product),
    WideText.ofString_injective (h.merchant.symm.trans h'.merchant),
    WideText.ofString_injective (h.name.symm.trans h'.name),
    WideText.ofString_injective (h.category.symm.trans h'.category),
    h.quantity.trans h'.quantity.symm, h.price.trans h'.price.symm,
    h.currency.trans h'.currency.symm⟩

theorem IsLineItem.fits (h : IsLineItem head qty unitPrice item) : Fits head where
  product := ⟨_, h.product⟩
  merchant := ⟨_, h.merchant⟩
  name := ⟨_, h.name, item.name_bounded⟩
  category := ⟨_, h.category, item.category_bounded⟩

end

/-! ## Items -/

structure IsItem (room : Nat) (merchantId : WideText) (raw : RawDict) (head : ItemHead)
    (item : CartItemProposal) : Prop where
  clean    : Unpoisoned room raw
  read     : IsHead room merchantId raw head
  quantity : IsNumber maxItemQuantity (rawQuantity raw) item.quantity
  price    : IsNumber maxSingleItemPricePaise (rawPrice raw) item.unitPricePaise
  subtotal : DeclaresSubtotal raw item.subtotalPaise
  built    : IsLineItem head item.quantity item.unitPricePaise item

def Describes (room : Nat) (merchantId : WideText) (rawItem : RawValue)
    (item : CartItemProposal) : Prop :=
  ∃ raw head, rawItem = .dict raw ∧ IsItem room merchantId raw head item

/-- Whatever the item is, no stage that it reaches raises another error. -/
structure SoundItem (room : Nat) (merchantId : WideText) (raw : RawDict) : Prop where
  texts    : ∀ name ∈ searchedFields, (raw.get name (.str [])).Printable room
  head     : Unpoisoned room raw → SoundHead room merchantId raw
  quantity : Unpoisoned room raw → ∀ head, IsHead room merchantId raw head →
    Showable room maxItemQuantity (rawQuantity raw)
  price    : Unpoisoned room raw → ∀ head, IsHead room merchantId raw head →
    ∀ qty, IsNumber maxItemQuantity (rawQuantity raw) qty →
      Showable room maxSingleItemPricePaise (rawPrice raw)
  subtotal : Unpoisoned room raw → ∀ head, IsHead room merchantId raw head →
    ∀ qty, IsNumber maxItemQuantity (rawQuantity raw) qty →
      ∀ unitPrice, IsNumber maxSingleItemPricePaise (rawPrice raw) unitPrice →
        SoundSubtotal room raw (qty * unitPrice)
  fits     : Unpoisoned room raw → ∀ head, IsHead room merchantId raw head →
    ∀ qty, IsNumber maxItemQuantity (rawQuantity raw) qty →
      ∀ unitPrice, IsNumber maxSingleItemPricePaise (rawPrice raw) unitPrice →
        DeclaresSubtotal raw (qty * unitPrice) → Fits head

section
variable {room : Nat} {merchantId : WideText}

/-- **The items that are read.** -/
theorem parseItem_eq_ok_iff {rawItem : RawValue} {item : CartItemProposal} :
    parseItem room merchantId rawItem = .ok item ↔ Describes room merchantId rawItem item := by
  constructor
  · intro h
    cases rawItem with
    | none | bool _ | int _ | float _ | str _ | list _ => cases h
    | dict raw =>
        obtain ⟨hclean, h⟩ := seq_unit_eq_ok_iff.mp h
        obtain ⟨head, hhead, h⟩ := seq_eq_ok_iff.mp h
        obtain ⟨qty, hqty, h⟩ := seq_eq_ok_iff.mp h
        obtain ⟨unitPrice, hprice, h⟩ := seq_eq_ok_iff.mp h
        obtain ⟨hsubtotal, h⟩ := seq_unit_eq_ok_iff.mp h
        have hbuilt := newCartItemProposal_eq_ok (mapError_eq_ok_iff.mp h)
        obtain ⟨-, -, -, -, rfl, rfl, -⟩ := id hbuilt
        exact ⟨raw, head, rfl, scanCatalogPoisoning_eq_ok_iff.mp hclean,
          itemHead_eq_ok_iff.mp hhead, itemQuantity_eq_ok_iff.mp hqty,
          itemUnitPrice_eq_ok_iff.mp hprice, checkSubtotal_eq_ok_iff.mp hsubtotal, hbuilt⟩
  · rintro ⟨raw, head, rfl, h⟩
    refine seq_unit_eq_ok_iff.mpr ⟨scanCatalogPoisoning_eq_ok_iff.mpr h.clean, ?_⟩
    refine seq_eq_ok_iff.mpr ⟨head, itemHead_eq_ok_iff.mpr h.read, ?_⟩
    refine seq_eq_ok_iff.mpr ⟨_, itemQuantity_eq_ok_iff.mpr h.quantity, ?_⟩
    refine seq_eq_ok_iff.mpr ⟨_, itemUnitPrice_eq_ok_iff.mpr h.price, ?_⟩
    refine seq_unit_eq_ok_iff.mpr ⟨checkSubtotal_eq_ok_iff.mpr h.subtotal, ?_⟩
    obtain ⟨item', hitem⟩ := (newCartItemProposal_ends h.read.identified item.quantity_pos
      item.price_nonneg).returns_iff.mpr h.built.fits
    rw [mapError_eq_ok_iff, hitem, (newCartItemProposal_eq_ok hitem).unique h.built]

/-- **An item raises nothing but an `IntentValidationError`** exactly when it is sound. -/
theorem parseItem_contained_iff {raw : RawDict} :
    Contained (parseItem room merchantId (.dict raw)) ↔ SoundItem room merchantId raw := by
  have hbuild : ∀ head qty unitPrice, IsHead room merchantId raw head →
      IsNumber maxItemQuantity (rawQuantity raw) qty →
      IsNumber maxSingleItemPricePaise (rawPrice raw) unitPrice →
        (Contained ((newCartItemProposal head qty unitPrice).mapError .limit) ↔ Fits head) :=
    fun head qty unitPrice hhead hqty hprice => contained_limit_iff
      (newCartItemProposal_ends hhead.identified hqty.2.1 hprice.2.1.le)
  refine (raises_seq_iff_of scanCatalogPoisoning_contained_iff
    (fun _ => scanCatalogPoisoning_eq_ok_iff) fun _ _ =>
    raises_seq_iff_of itemHead_contained_iff (fun _ => itemHead_eq_ok_iff) fun head hhead =>
    raises_seq_iff_of itemQuantity_contained_iff (fun _ => itemQuantity_eq_ok_iff)
      fun qty hqty =>
    raises_seq_iff_of itemUnitPrice_contained_iff (fun _ => itemUnitPrice_eq_ok_iff)
      fun unitPrice hprice =>
    raises_seq_iff_of checkSubtotal_contained_iff (fun _ => checkSubtotal_eq_ok_iff)
      fun _ _ => hbuild head qty unitPrice hhead hqty hprice).trans ?_
  constructor
  · rintro ⟨htexts, h⟩
    exact ⟨htexts, fun hclean => (h () hclean).1,
      fun hclean head hhead => ((h () hclean).2 head hhead).1,
      fun hclean head hhead qty hqty => (((h () hclean).2 head hhead).2 qty hqty).1,
      fun hclean head hhead qty hqty unitPrice hprice =>
        ((((h () hclean).2 head hhead).2 qty hqty).2 unitPrice hprice).1,
      fun hclean head hhead qty hqty unitPrice hprice =>
        ((((h () hclean).2 head hhead).2 qty hqty).2 unitPrice hprice).2 ()⟩
  · intro h
    exact ⟨h.texts, fun _ hclean => ⟨h.head hclean, fun head hhead =>
      ⟨h.quantity hclean head hhead, fun qty hqty =>
        ⟨h.price hclean head hhead qty hqty, fun unitPrice hprice =>
          ⟨h.subtotal hclean head hhead qty hqty unitPrice hprice, fun _ =>
            h.fits hclean head hhead qty hqty unitPrice hprice⟩⟩⟩⟩⟩

end

/-! ## The loop -/

def SoundItems (room : Nat) (merchantId : WideText) (rawItems : List RawValue) : Prop :=
  Reached (fun rawItem => ∃ item, Describes room merchantId rawItem item)
    (fun rawItem => ∀ raw, rawItem = .dict raw → SoundItem room merchantId raw) rawItems

section
variable {room : Nat} {merchantId : WideText}

theorem parseItems_eq_ok_iff {idx : Nat} {rawItems : List RawValue}
    {items : List CartItemProposal} :
    parseItems room merchantId idx rawItems = .ok items
      ↔ List.Forall₂ (Describes room merchantId) rawItems items := by
  induction rawItems generalizing idx items with
  | nil =>
      rw [List.forall₂_nil_left_iff]
      exact ok_eq_ok_iff
  | cons rawItem rest ih =>
      rw [List.forall₂_cons_left_iff]
      cases rawItem with
      | none | bool _ | int _ | float _ | str _ | list _ =>
          refine iff_of_false (fun h => by cases h) ?_
          rintro ⟨item, items', ⟨raw, head, heq, -⟩, -⟩
          cases heq
      | dict raw =>
          rw [parseItems, seq_eq_ok_iff]
          constructor
          · rintro ⟨item, hitem, h⟩
            obtain ⟨items', hitems, h⟩ := seq_eq_ok_iff.mp h
            exact ⟨item, items', parseItem_eq_ok_iff.mp hitem, ih.mp hitems,
              (Except.ok.inj h).symm⟩
          · rintro ⟨item, items', hitem, hitems, rfl⟩
            exact ⟨item, parseItem_eq_ok_iff.mpr hitem,
              seq_eq_ok_iff.mpr ⟨items', ih.mpr hitems, rfl⟩⟩

/-- **The loop raises nothing but an `IntentValidationError`** exactly when the items it
    reaches are sound. -/
theorem parseItems_contained_iff {idx : Nat} {rawItems : List RawValue} :
    Contained (parseItems room merchantId idx rawItems)
      ↔ SoundItems room merchantId rawItems := by
  induction rawItems generalizing idx with
  | nil => exact iff_of_true (raises_ok _ _) (reached_nil _ _)
  | cons rawItem rest ih =>
      rw [SoundItems, reached_cons_iff, ← SoundItems]
      cases rawItem with
      | none | bool _ | int _ | float _ | str _ | list _ =>
          refine iff_of_true (raises_error_iff.mpr trivial) ⟨?_, ?_⟩
          · intro raw h
            cases h
          · rintro ⟨item, raw, head, heq, -⟩
            cases heq
      | dict raw =>
          have hone : (∀ raw', RawValue.dict raw = .dict raw' → SoundItem room merchantId raw')
              ↔ Contained (parseItem room merchantId (.dict raw)) := by
            rw [parseItem_contained_iff]
            refine ⟨fun h => h raw rfl, fun h raw' heq => ?_⟩
            rw [← RawValue.dict.inj heq]
            exact h
          rw [hone, Contained, parseItems, raises_seq_iff]
          refine and_congr_right fun _ => ⟨fun h => ?_, fun h item hitem => ?_⟩
          · rintro ⟨item, hitem⟩
            exact ih.mp (raises_seq_iff.mp (h item (parseItem_eq_ok_iff.mpr hitem))).1
          · exact raises_seq_iff.mpr ⟨ih.mpr (h ⟨item, parseItem_eq_ok_iff.mp hitem⟩),
              fun _ _ => raises_ok _ _⟩

end

end AgentIntentParser

end MandateGateway
