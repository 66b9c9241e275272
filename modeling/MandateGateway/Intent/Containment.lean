import MandateGateway.Intent.Acceptance

/-! # Which errors leave the normalizer

    `normalize` is documented to raise nothing but `IntentNormalizationError`.
    Its own checks do; but they convert, serialize, descend and build records
    without catching what the interpreter raises there.  `Sound` says of a raw
    intent that no stage it reaches meets such a limit, and the normalizer keeps
    to its errors exactly then (`contained_iff_sound`). -/

namespace MandateGateway

open Exceptions
open WideText (ofString)

namespace IntentNormalizer

/-! ## The structure -/

/-- The size of the raw intent can be taken. -/
def Serializable (env : IntentEnv) : RawIntent → Prop
  | .value (.str s) => Encodable s
  | .value (.dict d) =>
      (RawValue.dict d).depth ≤ env.encodeRoom ∧ RawValue.Short (RawValue.dict d).integers
  | _ => True

theorem parseAndValidateStructure_contained_iff {env : IntentEnv} {raw : RawIntent} :
    Contained (parseAndValidateStructure env raw) ↔ Serializable env raw := by
  cases raw with
  | payload dump => exact ⟨fun _ => trivial, fun _ => raises_ok _ dump⟩
  | value v =>
      cases v with
      | none | bool _ | int _ | float _ | list _ =>
          exact ⟨fun _ => trivial, fun _ => raises_error_iff.mpr trivial⟩
      | str s =>
          rw [Serializable, encodable_iff_isSome, parseAndValidateStructure]
          cases hscalars : WideText.scalars? s with
          | none =>
              refine ⟨fun h => (raises_error_iff.mp h).elim, ?_⟩
              rintro ⟨text, h⟩
              cases h
          | some text =>
              refine ⟨fun _ => ⟨text, rfl⟩, fun _ => raises_guard_iff.mpr ⟨fun _ => trivial, ?_⟩⟩
              intro hsize
              cases env.loads s with
              | error ex => exact raises_error_iff.mpr trivial
              | ok v =>
                  cases v with
                  | dict items => exact raises_ok _ items
                  | none | bool _ | int _ | float _ | str _ | list _ =>
                      exact raises_error_iff.mpr trivial
      | dict items =>
          rw [Contained, parseAndValidateStructure, raises_seq_iff, ← Contained,
            (RawValue.encode_ends env.encodeRoom (.dict items)).contained_iff]
          exact and_iff_left fun serialized _ => raises_guard_iff.mpr
            ⟨fun _ => trivial, fun _ => raises_ok _ items⟩

/-! ## The totals -/

/-- What these items, this tax and this shipping cost together. -/
def totalOf (items : List CartItem) (taxPaise shippingPaise : Int) : Int :=
  subtotalOf items + taxPaise + shippingPaise

/-- A total that is declared can be read, and shown where it is another one. -/
def SoundDeclared (declared : RawValue) (total : Int) : Prop :=
  Convertible declared ∧ ∀ i, IsAmount declared i → i ≠ total → FewDigits i

/-- The amounts can be read, and shown where they are refused. -/
structure SoundTotals (d : RawDict) (items : List CartItem) : Prop where
  tax      : Convertible (d.get "tax_paise" (.int 0))
  shipping : ∀ taxPaise, IsAmount (d.get "tax_paise" (.int 0)) taxPaise →
    Convertible (d.get "shipping_paise" (.int 0))
  excess   : ∀ taxPaise shippingPaise, IsAmount (d.get "tax_paise" (.int 0)) taxPaise →
    IsAmount (d.get "shipping_paise" (.int 0)) shippingPaise →
      maxTotalAmountPaise < totalOf items taxPaise shippingPaise →
        FewDigits (totalOf items taxPaise shippingPaise)
  declared : ∀ taxPaise shippingPaise, IsAmount (d.get "tax_paise" (.int 0)) taxPaise →
    IsAmount (d.get "shipping_paise" (.int 0)) shippingPaise →
      totalOf items taxPaise shippingPaise ≤ maxTotalAmountPaise →
        SoundDeclared (d.get "total_paise" .none) (totalOf items taxPaise shippingPaise)

theorem fewDigits_of_le {i : Int} (hnonneg : 0 ≤ i) (hle : i ≤ maxTotalAmountPaise) :
    FewDigits i := by
  have hsmall : i.natAbs < 10 ^ 9 := by
    rw [maxTotalAmountPaise] at hle
    omega
  exact fewDigits_of_lt hsmall

section
variable {itemsSubtotal : Int} {totals : Totals}

/-- The amounts that an error about a declared total shows besides it. -/
structure Shown (itemsSubtotal : Int) (totals : Totals) : Prop where
  total    : FewDigits totals.totalPaise
  subtotal : FewDigits itemsSubtotal
  tax      : FewDigits totals.taxPaise
  shipping : FewDigits totals.shippingPaise

theorem mismatchedTotal_contained_iff (hshown : Shown itemsSubtotal totals) {declaredVal : Int} :
    Contained (mismatchedTotal declaredVal itemsSubtotal totals) ↔ FewDigits declaredVal := by
  rw [Contained, mismatchedTotal, raises_seq_iff, ← Contained, (intText_ends _).contained_iff]
  refine and_iff_left fun _ _ => ?_
  refine raises_seq_iff.mpr ⟨(intText_ends _).contained_iff.mpr hshown.total, fun _ _ => ?_⟩
  refine raises_seq_iff.mpr ⟨(intText_ends _).contained_iff.mpr hshown.subtotal, fun _ _ => ?_⟩
  refine raises_seq_iff.mpr ⟨(intText_ends _).contained_iff.mpr hshown.tax, fun _ _ => ?_⟩
  refine raises_seq_iff.mpr ⟨(intText_ends _).contained_iff.mpr hshown.shipping, fun _ _ => ?_⟩
  exact raises_error_iff.mpr trivial

theorem checkDeclaredTotal_contained_iff (hshown : Shown itemsSubtotal totals)
    {declared : RawValue} :
    Contained (checkDeclaredTotal declared itemsSubtotal totals)
      ↔ SoundDeclared declared totals.totalPaise := by
  have hgiven : ∀ value, Contained (do
      let declaredVal ← validateIntegerAmount value "total_paise"
      if declaredVal ≠ totals.totalPaise then mismatchedTotal declaredVal itemsSubtotal totals
      else .ok ()) ↔ SoundDeclared value totals.totalPaise := by
    intro value
    rw [Contained, raises_seq_iff, ← Contained, validateIntegerAmount_contained_iff, SoundDeclared]
    refine and_congr_right fun _ => forall_congr' fun i => ?_
    rw [validateIntegerAmount_eq_ok_iff]
    refine imp_congr_right fun _ => ?_
    by_cases hsame : i = totals.totalPaise
    · rw [if_neg (not_not.mpr hsame)]
      exact ⟨fun _ hne => absurd hsame hne, fun _ => raises_ok _ ()⟩
    · rw [if_pos hsame, ← Contained, mismatchedTotal_contained_iff hshown]
      exact ⟨fun h _ => h, fun h => h hsame⟩
  cases declared with
  | none =>
      refine ⟨fun _ => ⟨fun s heq => ?_, fun i hamount => ?_⟩, fun _ => raises_ok _ ()⟩
      · cases heq
      · cases hamount
  | bool _ | int _ | float _ | str _ | list _ | dict _ => exact hgiven _

end

/-- Amounts of a total within the limit have texts. -/
theorem shown_of_le {items : List CartItem} {taxPaise shippingPaise : Int} (htax : 0 ≤ taxPaise)
    (hshipping : 0 ≤ shippingPaise)
    (hle : totalOf items taxPaise shippingPaise ≤ maxTotalAmountPaise) :
    Shown (subtotalOf items) ⟨taxPaise, shippingPaise, totalOf items taxPaise shippingPaise⟩ := by
  have hitems := subtotalOf_nonneg items
  have hsum : totalOf items taxPaise shippingPaise
      = subtotalOf items + taxPaise + shippingPaise := rfl
  have htotal : 0 ≤ totalOf items taxPaise shippingPaise := by omega
  have hitems' : subtotalOf items ≤ maxTotalAmountPaise := by omega
  have htax' : taxPaise ≤ maxTotalAmountPaise := by omega
  have hshipping' : shippingPaise ≤ maxTotalAmountPaise := by omega
  exact ⟨fewDigits_of_le htotal hle, fewDigits_of_le hitems hitems', fewDigits_of_le htax htax',
    fewDigits_of_le hshipping hshipping'⟩

theorem settleTotals_contained_iff {d : RawDict} {items : List CartItem}
    {taxPaise shippingPaise : Int} (htax : 0 ≤ taxPaise) (hshipping : 0 ≤ shippingPaise) :
    Contained (settleTotals d items taxPaise shippingPaise)
      ↔ (maxTotalAmountPaise < totalOf items taxPaise shippingPaise →
          FewDigits (totalOf items taxPaise shippingPaise))
        ∧ (totalOf items taxPaise shippingPaise ≤ maxTotalAmountPaise →
          SoundDeclared (d.get "total_paise" .none) (totalOf items taxPaise shippingPaise)) := by
  by_cases hover : maxTotalAmountPaise < totalOf items taxPaise shippingPaise
  · have hmessage : ∀ shown, (overTotal shown).IsNormalization := fun _ => trivial
    have hrefused : settleTotals d items taxPaise shippingPaise
        = refuseWith (totalOf items taxPaise shippingPaise) overTotal := if_pos hover
    rw [hrefused, refuseWith_contained_iff hmessage]
    exact ⟨fun h => ⟨fun _ => h, fun hle => absurd hover (not_lt.mpr hle)⟩, fun h => h.1 hover⟩
  · have hle := not_lt.mp hover
    have hchecked : settleTotals d items taxPaise shippingPaise = (do
        checkDeclaredTotal (d.get "total_paise" .none) (subtotalOf items)
          ⟨taxPaise, shippingPaise, totalOf items taxPaise shippingPaise⟩
        pure ⟨taxPaise, shippingPaise, totalOf items taxPaise shippingPaise⟩) := if_neg hover
    rw [hchecked, Contained, raises_seq_iff, ← Contained,
      checkDeclaredTotal_contained_iff (shown_of_le htax hshipping hle)]
    exact ⟨fun h => ⟨fun hlt => absurd hlt hover, fun _ => h.1⟩,
      fun h => ⟨h.2 hle, fun _ _ => raises_ok _ _⟩⟩

/-- **The totals** meet no limit exactly when the amounts are sound. -/
theorem computeTotals_contained_iff {d : RawDict} {items : List CartItem} :
    Contained (computeTotals d items) ↔ SoundTotals d items := by
  refine (raises_seq_iff_of validateIntegerAmount_contained_iff
    (fun _ => validateIntegerAmount_eq_ok_iff) fun taxPaise htax =>
      raises_seq_iff_of validateIntegerAmount_contained_iff
        (fun _ => validateIntegerAmount_eq_ok_iff) fun shippingPaise hshipping =>
          settleTotals_contained_iff htax.nonneg hshipping.nonneg).trans ?_
  constructor
  · rintro ⟨htax, h⟩
    exact ⟨htax, fun taxPaise htaxed => (h taxPaise htaxed).1,
      fun taxPaise shippingPaise htaxed hshipped =>
        ((h taxPaise htaxed).2 shippingPaise hshipped).1,
      fun taxPaise shippingPaise htaxed hshipped =>
        ((h taxPaise htaxed).2 shippingPaise hshipped).2⟩
  · rintro ⟨htax, hshipping, hexcess, hdeclared⟩
    exact ⟨htax, fun taxPaise htaxed => ⟨hshipping taxPaise htaxed, fun shippingPaise hshipped =>
      ⟨hexcess taxPaise shippingPaise htaxed hshipped,
        hdeclared taxPaise shippingPaise htaxed hshipped⟩⟩⟩

/-! ## The whole -/

/-- No stage that is reached meets a limit of the interpreter. -/
structure Sound (env : IntentEnv) (raw : RawIntent) : Prop where
  parse  : Serializable env raw
  scan   : ∀ d, treeOf env raw = some d → Sized env raw → ClaimsFirst (visits env.scanRoom d)
  items  : ∀ d header, Opens env raw d → IsHeader d header →
    SoundItems env.itemRoom header.merchantId header.currency header.rawItems
  totals : ∀ d header validated, Opens env raw d → IsHeader d header →
    List.Forall₂ (Describes env.itemRoom header.merchantId header.currency) header.rawItems
      validated → SoundTotals d (sortedItems validated)
  build  : ∀ d header validated totals, Opens env raw d → IsHeader d header →
    List.Forall₂ (Describes env.itemRoom header.merchantId header.currency) header.rawItems
      validated → IsTotals d (sortedItems validated) totals →
        metadataDepth (d.get "metadata" (.dict [])) ≤ env.metadataRoom
          ∧ Encodable header.rawPrompt

section
variable {env : IntentEnv}

theorem buildProposal_contained_iff {d : RawDict} {header : IntentHeader}
    {validated : List CartItem} {totals : Totals} (hheader : IsHeader d header)
    (hitems : List.Forall₂ (Describes env.itemRoom header.merchantId header.currency)
      header.rawItems validated)
    (htotals : IsTotals d (sortedItems validated) totals) :
    Contained (buildProposal env d header (sortedItems validated) totals)
      ↔ metadataDepth (d.get "metadata" (.dict [])) ≤ env.metadataRoom
        ∧ Encodable header.rawPrompt := by
  obtain ⟨cart, hcart⟩ := buildCart_returns hheader hitems htotals
  have hends : EndsBy (metadataDepth (d.get "metadata" (.dict [])) ≤ env.metadataRoom
      ∧ Encodable header.rawPrompt) (do
        let clean ← sanitizeMetadata env.metadataRoom (d.get "metadata" (.dict []))
        let intent ← newCommerceIntent env header (sortedItems validated) totals
          (withOperation header.operation clean)
        pure (⟨intent, cart, env.normalizedAt⟩ : NormalizedCommerceProposal)) :=
    (sanitizeMetadata_ends _ _).seq fun clean =>
      (newCommerceIntent_ends _ hheader htotals).seq_pure fun intent =>
        NormalizedCommerceProposal.mk intent cart env.normalizedAt
  rw [buildProposal, hcart]
  exact hends.contained_iff

/-- **The normalizer raises its own errors only** exactly when no stage that the
    raw intent reaches meets a limit. -/
theorem contained_iff_sound (env : IntentEnv) (raw : RawIntent) :
    Contained (normalize env raw) ↔ Sound env raw := by
  -- the stages in their order, each where the ones before it accept
  refine (raises_seq_iff_of parseAndValidateStructure_contained_iff
    (fun _ => parseAndValidateStructure_eq_ok_iff) fun d hparsed =>
    raises_seq_iff_of scanItems_contained_iff (fun _ => scanItems_eq_ok_iff) fun _ hscanned =>
    raises_seq_iff_of (iff_true_intro (readHeader_contained d)) (fun _ => readHeader_eq_ok_iff)
      fun header hread =>
    raises_seq_iff_of (validateItems_contained_iff hread.merchant.ne)
      (fun _ => validateItems_eq_ok_iff hread.merchant.ne) fun validated hvalid =>
    raises_seq_iff_of computeTotals_contained_iff (fun _ => computeTotals_eq_ok_iff)
      fun totals htotalled => buildProposal_contained_iff hread hvalid htotalled).trans ?_
  constructor
  · rintro ⟨hparse, h⟩
    have hheader := fun d (hopens : Opens env raw d) =>
      ((h d ⟨hopens.tree, hopens.sized⟩).2 () ⟨hopens.unclaimed, hopens.fits⟩).2
    exact ⟨hparse, fun d htree hsized => (h d ⟨htree, hsized⟩).1,
      fun d header hopens hread => (hheader d hopens header hread).1,
      fun d header validated hopens hread hvalid =>
        ((hheader d hopens header hread).2 validated hvalid).1,
      fun d header validated totals hopens hread hvalid =>
        ((hheader d hopens header hread).2 validated hvalid).2 totals⟩
  · rintro ⟨hparse, hscan, hitems, htotals, hbuild⟩
    refine ⟨hparse, fun d hd => ⟨hscan d hd.1 hd.2, fun _ hu => ⟨trivial, fun header hread => ?_⟩⟩⟩
    have hopens : Opens env raw d := ⟨hd.1, hd.2, hu.1, hu.2⟩
    exact ⟨hitems d header hopens hread, fun validated hvalid =>
      ⟨htotals d header validated hopens hread hvalid, fun totals =>
        hbuild d header validated totals hopens hread hvalid⟩⟩

end

namespace Sample

/-- **A superscript two** is a digit to `str.isdigit` and none to `int`: a
    `ValueError` of `int` leaves the normalizer. -/
theorem not_contained_superscript :
    ¬ Contained (normalize env (ordered [line "book-17" (text "²")])) := by
  have herror : (normalize env (ordered [line "book-17" (text "²")])).map (fun _ => ())
      = .error (.escaped .valueError) := by decide +kernel
  intro h
  have hraises : Contained ((normalize env (ordered [line "book-17" (text "²")])).map
      fun _ => ()) := raises_map_iff.mpr h
  rw [herror] at hraises
  exact raises_error_iff.mp hraises

end Sample

end IntentNormalizer

end MandateGateway
