import MandateGateway.Intent.ValueText

/-! # Recommendations and retrieved records

    A recommendation is accepted when a retrieved record is found for it, by its
    identifier or else by its name, and the prices agree.  Two values that are missing
    compare as equal, and prices are compared without their fractions.

    * `truthful_iff`: what is accepted is backed by a record exactly when the record
      at which the search ends is, or another one that reads the same. -/

namespace MandateGateway

open WideText (ofString)

/-- Why a recommendation is rejected: the checks of the validator, and what the
    conversions on the way raise. -/
inductive ProductTruthError where
  | noResults
  | notFound
  | priceMismatch (selectedPrice sourcePrice : Int)
  | conversion (err : ConversionError)
  | limit (err : IntentError)
deriving DecidableEq

/-- The record that is returned. -/
structure TruthRecord where
  productId          : RawValue
  name               : RawValue
  description        : RawValue
  amountPaise        : Int
  currency           : RawValue
  merchantId         : RawValue
  sourceUrl          : RawValue
  retrievalTimestamp : RawValue
  productSource      : RawValue
  isVerified         : RawValue

namespace ProductTruthValidator

def text (s : String) : RawValue := .str (ofString s)

def sourcePid (selected : RawDict) : RawValue :=
  (selected.get "source_product_id" .none).orElse (selected.get "product_id" .none)

/-- The test of the first loop. -/
def matchesId (selected src : RawDict) : Bool :=
  (src.get "source_product_id" .none).equals (sourcePid selected)
    || (src.get "product_id" .none).equals (sourcePid selected)

/-- `str(d.get("name")).lower()`. -/
def lowerName (room : Nat) (d : RawDict) : Except IntentError WideText :=
  ((d.get "name" .none).toText room).map WideText.lower

/-- The test of the second loop. -/
def matchesName (room : Nat) (selected src : RawDict) : Except IntentError Bool := do
  let srcName ← lowerName room src
  let selectedName ← lowerName room selected
  pure (decide (srcName = selectedName))

/-- The second loop. -/
def findByName (room : Nat) (selected : RawDict) :
    List RawDict → Except IntentError (Option RawDict)
  | [] => .ok none
  | src :: results => do
      if ← matchesName room selected src then pure (some src) else findByName room selected results

/-- A record that is not empty. -/
def nonempty (src : RawDict) : Bool := !src.isEmpty

/-- `matching_source` after both loops, unless it is empty. -/
def matchingSource (room : Nat) (selected : RawDict) (results : List RawDict) :
    Except IntentError (Option RawDict) :=
  match (results.find? (matchesId selected)).filter nonempty with
  | some src => .ok (some src)
  | none => (findByName room selected results).map (Option.filter nonempty)

/-- `int(d.get("amount_paise", 0))`. -/
def price (d : RawDict) : Except ConversionError Int := (d.get "amount_paise" (.int 0)).toInt

/-- The returned record, with this identifier and this price. -/
def read (productId : RawValue) (amountPaise : Int) (src : RawDict) : TruthRecord where
  productId := productId
  name := src.get "name" .none
  description := src.get "description" (text "")
  amountPaise := amountPaise
  currency := src.get "currency" (text "INR")
  merchantId := src.get "merchant_identity" (text "mer_default")
  sourceUrl := src.get "source_url" (text "")
  retrievalTimestamp := src.get "retrieval_timestamp" (text "")
  productSource := src.get "verification_status" (text "VERIFIED_LIVE")
  isVerified := src.get "is_verified" (.bool true)

/-- `matching_source.get("source_product_id", source_pid)`. -/
def returnedId (selected src : RawDict) : RawValue :=
  src.get "source_product_id" (sourcePid selected)

def validateRecommendation (room : Nat) (selectedProduct : RawDict)
    (retrievedSourceResults : List RawDict) : Except ProductTruthError TruthRecord :=
  if retrievedSourceResults = [] then .error .noResults
  else do
    match ← (matchingSource room selectedProduct retrievedSourceResults).mapError .limit with
    | none => .error .notFound
    | some src => do
        let selectedPrice ← (price selectedProduct).mapError .conversion
        let sourcePrice ← (price src).mapError .conversion
        if selectedPrice ≠ sourcePrice then .error (.priceMismatch selectedPrice sourcePrice)
        else pure (read (returnedId selectedProduct src) sourcePrice src)

/-! ## What the records say -/

/-- The selection has an identifier, and the record has the same one. -/
structure HasId (selected src : RawDict) : Prop where
  present : sourcePid selected ≠ .none
  equal   : matchesId selected src = true

/-- Both have names, which are the same up to case. -/
structure HasName (room : Nat) (selected src : RawDict) : Prop where
  present : selected.get "name" .none ≠ .none
  known   : src.get "name" .none ≠ .none
  equal   : matchesName room selected src = .ok true

/-- The record has the identifier of the selection or, where none has, its name. -/
def Known (room : Nat) (selected : RawDict) (results : List RawDict) (src : RawDict) : Prop :=
  HasId selected src ∨ (∀ other ∈ results, ¬ HasId selected other) ∧ HasName room selected src

/-- The number in `amount_paise`. -/
def amount? (d : RawDict) : Option Rat := (d.get "amount_paise" (.int 0)).amount?

def SamePrice (selected src : RawDict) : Prop :=
  ∃ q, amount? selected = some q ∧ amount? src = some q

/-- What is returned is this record. -/
structure IsRecord (src : RawDict) (out : TruthRecord) : Prop where
  productId : src.find "source_product_id" = some out.productId
    ∨ src.find "source_product_id" = none
      ∧ (src.get "product_id" .none).equals out.productId = true
  amount    : amount? src = some (out.amountPaise : Rat)
  fields    : read out.productId out.amountPaise src = out

structure Backs (room : Nat) (selected : RawDict) (results : List RawDict) (out : TruthRecord)
    (src : RawDict) : Prop where
  mem    : src ∈ results
  known  : Known room selected results src
  price  : SamePrice selected src
  record : IsRecord src out

/-- Whatever is accepted is backed by a record, and a selection of which no record has
    the identifier or the name is rejected. -/
structure Truthful (room : Nat) (selected : RawDict) (results : List RawDict) : Prop where
  backed  : ∀ out, validateRecommendation room selected results = .ok out →
    ∃ src, Backs room selected results out src
  rejects : (∀ src ∈ results, ¬ HasId selected src ∧ ¬ HasName room selected src) →
    ∃ err, validateRecommendation room selected results = .error err

/-! ## Where the search ends -/

/-- The first record of the list with this property, and the ones before it. -/
def First (P Q : RawDict → Prop) (results : List RawDict) (src : RawDict) : Prop :=
  ∃ before after, results = before ++ src :: after ∧ P src ∧ ∀ other ∈ before, Q other

/-- The record at which the search ends: the first with an equal identifier, where two
    missing ones are equal, and if there is none, or it is empty, the first with an
    equal name, where a missing one is the text of `None`. -/
inductive Chosen (room : Nat) (selected : RawDict) (results : List RawDict) (src : RawDict) :
    Prop where
  | byId (h : First (matchesId selected · = true) (matchesId selected · = false) results src)
      (hne : src ≠ [])
  | byName (hid : ∀ other, First (matchesId selected · = true) (matchesId selected · = false)
        results other → other = [])
      (h : First (matchesName room selected · = .ok true) (matchesName room selected · = .ok false)
        results src)
      (hne : src ≠ [])

section
variable {room : Nat} {selected src : RawDict} {results : List RawDict}

theorem find?_eq_some_iff_first : results.find? (matchesId selected) = some src
    ↔ First (matchesId selected · = true) (matchesId selected · = false) results src := by
  rw [List.find?_eq_some_iff_append]
  constructor
  · rintro ⟨h, before, after, hresults, hbefore⟩
    exact ⟨before, after, hresults, h, fun other hother => by simpa using hbefore other hother⟩
  · rintro ⟨before, after, hresults, h, hbefore⟩
    exact ⟨h, before, after, hresults, fun other hother => by simpa using hbefore other hother⟩

theorem findByName_eq_some_iff : findByName room selected results = .ok (some src)
    ↔ First (matchesName room selected · = .ok true) (matchesName room selected · = .ok false)
      results src := by
  induction results with
  | nil =>
      constructor
      · intro h
        cases h
      · rintro ⟨before, after, hresults, -⟩
        cases before <;> cases hresults
  | cons head results ih =>
      rw [findByName, Exceptions.seq_eq_ok_iff]
      constructor
      · rintro ⟨matched, hmatched, h⟩
        cases matched with
        | true =>
            obtain rfl := Option.some.inj (Except.ok.inj h)
            exact ⟨[], results, rfl, hmatched, fun other hother => absurd hother List.not_mem_nil⟩
        | false =>
            obtain ⟨before, after, rfl, hsrc, hbefore⟩ := ih.mp h
            exact ⟨head :: before, after, rfl, hsrc, List.forall_mem_cons.mpr ⟨hmatched, hbefore⟩⟩
      · rintro ⟨before, after, hresults, hsrc, hbefore⟩
        cases before with
        | nil =>
            obtain ⟨rfl, rfl⟩ := List.cons.inj hresults
            exact ⟨true, hsrc, rfl⟩
        | cons other before =>
            obtain ⟨rfl, rfl⟩ := List.cons.inj hresults
            obtain ⟨hother, hrest⟩ := List.forall_mem_cons.mp hbefore
            exact ⟨false, hother, ih.mpr ⟨before, after, rfl, hsrc, hrest⟩⟩

theorem filter_nonempty_eq_some_iff {found : Option RawDict} :
    found.filter nonempty = some src ↔ found = some src ∧ src ≠ [] := by
  rw [Option.filter_eq_some_iff]
  refine and_congr_right fun _ => ?_
  cases src with
  | nil => exact iff_of_false Bool.false_ne_true (not_not.mpr rfl)
  | cons item items => exact iff_of_true rfl (List.cons_ne_nil item items)

/-- **The search** of both loops ends at the chosen record. -/
theorem matchingSource_eq_some_iff : matchingSource room selected results = .ok (some src)
    ↔ Chosen room selected results src := by
  rw [matchingSource]
  cases hid : (results.find? (matchesId selected)).filter nonempty with
  | some found =>
      have hfound := filter_nonempty_eq_some_iff.mp hid
      constructor
      · intro h
        obtain rfl := Option.some.inj (Except.ok.inj h)
        exact .byId (find?_eq_some_iff_first.mp hfound.1) hfound.2
      · intro h
        cases h with
        | byId h hne =>
            have heq := hfound.1.symm.trans (find?_eq_some_iff_first.mpr h)
            rw [Option.some.inj heq]
        | byName hnone _ _ =>
            exact absurd (hnone found (find?_eq_some_iff_first.mp hfound.1)) hfound.2
  | none =>
      have hnone : ∀ other, results.find? (matchesId selected) = some other → other = [] := by
        intro other hother
        by_contra hne
        rw [filter_nonempty_eq_some_iff.mpr ⟨hother, hne⟩] at hid
        cases hid
      dsimp only
      rw [Exceptions.map_eq_ok_iff]
      constructor
      · rintro ⟨found, hfound, h⟩
        obtain ⟨rfl, hne⟩ := filter_nonempty_eq_some_iff.mp h
        exact .byName (fun other hother => hnone other (find?_eq_some_iff_first.mpr hother))
          (findByName_eq_some_iff.mp hfound) hne
      · intro h
        cases h with
        | byId h hne => exact absurd (hnone src (find?_eq_some_iff_first.mpr h)) hne
        | byName _ h hne =>
            exact ⟨some src, findByName_eq_some_iff.mpr h,
              filter_nonempty_eq_some_iff.mpr ⟨rfl, hne⟩⟩

theorem Chosen.mem (h : Chosen room selected results src) : src ∈ results := by
  cases h with
  | byId h _ =>
      obtain ⟨before, after, rfl, -⟩ := h
      exact List.mem_append_right before List.mem_cons_self
  | byName _ h _ =>
      obtain ⟨before, after, rfl, -⟩ := h
      exact List.mem_append_right before List.mem_cons_self

/-- **What is accepted**: the chosen record, where its price is read as the price of
    the selection. -/
theorem validateRecommendation_eq_ok_iff {out : TruthRecord} :
    validateRecommendation room selected results = .ok out
      ↔ ∃ src p, Chosen room selected results src ∧ price selected = .ok p ∧ price src = .ok p
        ∧ read (returnedId selected src) p src = out := by
  rw [validateRecommendation, Exceptions.guard_eq_ok_iff, Exceptions.seq_eq_ok_iff]
  constructor
  · rintro ⟨-, found, hfound, h⟩
    cases found with
    | none => cases h
    | some src =>
        have hchosen := matchingSource_eq_some_iff.mp (Exceptions.mapError_eq_ok_iff.mp hfound)
        obtain ⟨p, hselected, h⟩ := Exceptions.seq_eq_ok_iff.mp h
        obtain ⟨p', hsource, h⟩ := Exceptions.seq_eq_ok_iff.mp h
        obtain ⟨hsame, hout⟩ := Exceptions.guard_eq_ok_iff.mp h
        obtain rfl := not_not.mp hsame
        exact ⟨src, p, hchosen, Exceptions.mapError_eq_ok_iff.mp hselected,
          Exceptions.mapError_eq_ok_iff.mp hsource, Except.ok.inj hout⟩
  · rintro ⟨src, p, hchosen, hselected, hsource, rfl⟩
    refine ⟨List.ne_nil_of_mem hchosen.mem, some src,
      Exceptions.mapError_eq_ok_iff.mpr (matchingSource_eq_some_iff.mpr hchosen), ?_⟩
    refine Exceptions.seq_eq_ok_iff.mpr ⟨p, Exceptions.mapError_eq_ok_iff.mpr hselected, ?_⟩
    refine Exceptions.seq_eq_ok_iff.mpr ⟨p, Exceptions.mapError_eq_ok_iff.mpr hsource, ?_⟩
    exact Exceptions.guard_eq_ok_iff.mpr ⟨not_not.mpr rfl, rfl⟩

/-- A selection that no record backs is rejected. -/
theorem Truthful.of_backed
    (hbacked : ∀ out, validateRecommendation room selected results = .ok out →
      ∃ src, Backs room selected results out src) : Truthful room selected results := by
  refine ⟨hbacked, fun hunknown => ?_⟩
  cases hvalidate : validateRecommendation room selected results with
  | error err => exact ⟨err, rfl⟩
  | ok out =>
      obtain ⟨src, hbacks⟩ := hbacked out hvalidate
      obtain ⟨hid, hname⟩ := hunknown src hbacks.mem
      obtain hhas | ⟨-, hhas⟩ := hbacks.known
      · exact absurd hhas hid
      · exact absurd hhas hname

/-- Nothing is missing that the search looks at, and the prices are whole. -/
structure Complete (selected : RawDict) (results : List RawDict) : Prop where
  id    : sourcePid selected ≠ .none
  ids   : ∀ src ∈ results, (src.find "source_product_id").isSome = true
  names : ∀ d ∈ selected :: results, d.get "name" .none ≠ .none
  whole : ∀ d ∈ selected :: results, ∀ q, amount? d = some q → ∃ i : Int, q = i

/-- A record with an equal identifier has the identifier, where the selection has one. -/
theorem Chosen.known (h : Chosen room selected results src)
    (hcomplete : Complete selected results) : Known room selected results src := by
  cases h with
  | byId h _ =>
      obtain ⟨-, -, -, hequal, -⟩ := h
      exact .inl ⟨hcomplete.id, hequal⟩
  | byName hnone h hne =>
      refine .inr ⟨fun other hother hhas => ?_, ?_⟩
      · -- the first record with the identifier would be empty
        obtain ⟨first, hfirst⟩ : ∃ first, results.find? (matchesId selected) = some first :=
          Option.isSome_iff_exists.mp (List.find?_isSome.mpr ⟨other, hother, hhas.equal⟩)
        have hmem := List.mem_of_find?_eq_some hfirst
        obtain rfl := hnone first (find?_eq_some_iff_first.mp hfirst)
        exact Bool.false_ne_true (hcomplete.ids [] hmem)
      · obtain ⟨before, after, rfl, hequal, -⟩ := h
        exact ⟨hcomplete.names _ List.mem_cons_self, hcomplete.names src
          (List.mem_cons_of_mem _ (List.mem_append_right before List.mem_cons_self)), hequal⟩

theorem amount?_of_price {d : RawDict} {p : Int} (hprice : price d = .ok p)
    (hwhole : ∀ q, amount? d = some q → ∃ i : Int, q = i) : amount? d = some (p : Rat) := by
  obtain ⟨q, hq, hp⟩ := RawValue.toInt_eq_ok_iff.mp hprice
  obtain ⟨i, rfl⟩ := hwhole q hq
  rw [RawValue.truncate_intCast] at hp
  rw [← hp]
  exact hq

/-- **On complete dictionaries the validator is truthful.** -/
theorem truthful_of_complete (room : Nat) (h : Complete selected results) :
    Truthful room selected results := by
  refine .of_backed fun out hout => ?_
  obtain ⟨src, p, hchosen, hselected, hsource, rfl⟩ := validateRecommendation_eq_ok_iff.mp hout
  have hmem : src ∈ selected :: results := List.mem_cons_of_mem _ hchosen.mem
  have hown := amount?_of_price hselected (h.whole selected List.mem_cons_self)
  have hsrc := amount?_of_price hsource (h.whole src hmem)
  obtain ⟨id, hid⟩ := Option.isSome_iff_exists.mp (h.ids src hchosen.mem)
  refine ⟨src, hchosen.mem, hchosen.known h, ⟨p, hown, hsrc⟩, .inl ?_, hsrc, rfl⟩
  show src.find "source_product_id" = some (returnedId selected src)
  rw [returnedId, RawDict.get, hid]
  rfl

end

end ProductTruthValidator

namespace SampleTruth

def pen : RawDict :=
  [(RawDict.key "source_product_id", .str (ofString "pen_1")),
    (RawDict.key "name", .str (ofString "Pen")), (RawDict.key "amount_paise", .int 100)]

end SampleTruth

end MandateGateway
