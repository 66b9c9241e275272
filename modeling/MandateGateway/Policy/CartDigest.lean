import MandateGateway.Lib.ExhaustiveSearch
import MandateGateway.Policy.CartIntegrity
import Mathlib.Data.List.Permutation
import Mathlib.Data.String.Basic

/-! # What the digest of a cart tells

    The digest is taken of the items in the order of their product ids.

    * `same_of_computeCartObjectHash_eq`: carts of one digest agree in all that is
      priced, whatever texts and amounts they have;
    * `reorderable_iff`: the digest is the same for every order of the items exactly
      when items of one product cannot be told apart.  The sort is stable, so two
      different lines of one product are hashed in the order in which they came. -/

namespace MandateGateway

open StableSort

/-- The canonical object that `compute_cart_hash` serializes. -/
def canonicalCart (merchantId mandateId : String) (currency : Currency) (items : List CartItem)
    (taxPaise shippingPaise totalPaise : Int) : Json :=
  .obj [
    ("currency", .str currency.value),
    ("items", .arr ((sortedItems items).map CartItem.canonical)),
    ("mandate_id", .str mandateId),
    ("merchant_id", .str merchantId),
    ("shipping_paise", .int shippingPaise),
    ("tax_paise", .int taxPaise),
    ("total_paise", .int totalPaise)]

def computeCartHash (sha : Sha256) (merchantId mandateId : String) (currency : Currency)
    (items : List CartItem) (taxPaise shippingPaise totalPaise : Int) : String :=
  sha.hexdigest
    (canonicalCart merchantId mandateId currency items taxPaise shippingPaise totalPaise).compact

theorem Cart.computeCartObjectHash_eq (sha : Sha256) (cart : Cart) :
    cart.computeCartObjectHash sha
      = computeCartHash sha cart.merchantId cart.mandateId cart.currency cart.items cart.taxPaise
        cart.shippingPaise cart.totalPaise :=
  rfl

namespace CartItem

/-- What is priced of an item: its product, merchant, category up to case and
    surrounding whitespace, quantity and unit price. -/
def priced (item : CartItem) : String × String × String × Int × Int :=
  (item.productId, item.merchantId, Text.lower (Text.strip item.category), item.quantity,
    item.unitPricePaise)

theorem canonical_eq_iff {i j : CartItem} : i.canonical = j.canonical ↔ i.priced = j.priced := by
  simp only [canonical, priced, Json.obj.injEq, List.cons.injEq, Prod.mk.injEq, Json.str.injEq,
    Json.int.injEq, true_and, and_true]
  constructor
  · rintro ⟨hcategory, hmerchant, hproduct, hquantity, hprice⟩
    exact ⟨hproduct, hmerchant, hcategory, hquantity, hprice⟩
  · rintro ⟨hproduct, hmerchant, hcategory, hquantity, hprice⟩
    exact ⟨hcategory, hmerchant, hproduct, hquantity, hprice⟩

theorem canonical_tells : Tells productId canonical :=
  fun _ _ h => congrArg Prod.fst (canonical_eq_iff.mp h)

end CartItem

theorem sortedItems_eq (items : List CartItem) :
    sortedItems items = sortBy CartItem.productId items :=
  rfl

theorem map_priced_of_canonical {xs ys : List CartItem}
    (h : xs.map CartItem.canonical = ys.map CartItem.canonical) :
    xs.map CartItem.priced = ys.map CartItem.priced := by
  rw [CartIntegrityVerifier.map_eq_map_iff_zip] at h ⊢
  exact ⟨h.1, fun p hp => CartItem.canonical_eq_iff.mp (h.2 p hp)⟩

theorem priced_perm_of_canonical {xs ys : List CartItem}
    (h : (sortedItems xs).map CartItem.canonical = (sortedItems ys).map CartItem.canonical) :
    (xs.map CartItem.priced).Perm (ys.map CartItem.priced) := by
  have hpriced := map_priced_of_canonical h
  have hxs := (sortBy_perm CartItem.productId xs).map CartItem.priced
  have hys := (sortBy_perm CartItem.productId ys).map CartItem.priced
  rw [← sortedItems_eq] at hxs hys
  exact hxs.symm.trans (hpriced ▸ hys)

section

variable {merchantId mandateId merchantId' mandateId' : String} {currency currency' : Currency}
  {items items' : List CartItem}
  {taxPaise shippingPaise totalPaise taxPaise' shippingPaise' totalPaise' : Int}

theorem canonicalCart_eq_iff :
    canonicalCart merchantId mandateId currency items taxPaise shippingPaise totalPaise
        = canonicalCart merchantId' mandateId' currency' items' taxPaise' shippingPaise' totalPaise'
      ↔ (sortedItems items).map CartItem.canonical = (sortedItems items').map CartItem.canonical
        ∧ merchantId = merchantId' ∧ mandateId = mandateId' ∧ currency = currency'
        ∧ taxPaise = taxPaise' ∧ shippingPaise = shippingPaise' ∧ totalPaise = totalPaise' := by
  simp only [canonicalCart, Json.obj.injEq, List.cons.injEq, Prod.mk.injEq, Json.str.injEq,
    Json.int.injEq, Json.arr.injEq, true_and, and_true,
    CartIntegrityVerifier.currency_value_injective.eq_iff]
  constructor
  · rintro ⟨hcurrency, hitems, hmandate, hmerchant, hshipping, htax, htotal⟩
    exact ⟨hitems, hmerchant, hmandate, hcurrency, htax, hshipping, htotal⟩
  · rintro ⟨hitems, hmerchant, hmandate, hcurrency, htax, hshipping, htotal⟩
    exact ⟨hcurrency, hitems, hmandate, hmerchant, hshipping, htax, htotal⟩

end

/-! ## Equal digests -/

/-- SHA-256 has no collision between the texts of two carts. -/
def Apart (sha : Sha256) (a b : Cart) : Prop :=
  Set.InjOn sha.hexdigest {a.canonical.compact, b.canonical.compact}

/-- **Carts of one digest agree in their merchant, mandate, currency and amounts
    and have the same priced items.** -/
theorem same_of_computeCartObjectHash_eq {sha : Sha256} {a b : Cart} (hapart : Apart sha a b)
    (h : a.computeCartObjectHash sha = b.computeCartObjectHash sha) :
    a.merchantId = b.merchantId ∧ a.mandateId = b.mandateId ∧ a.currency = b.currency
      ∧ a.taxPaise = b.taxPaise ∧ a.shippingPaise = b.shippingPaise
      ∧ a.totalPaise = b.totalPaise
      ∧ (a.items.map CartItem.priced).Perm (b.items.map CartItem.priced) := by
  have htext : a.canonical.compact = b.canonical.compact := hapart (.inl rfl) (.inr rfl) h
  -- the text is read back through its escapes, members and items
  have hcanonical : a.canonical = b.canonical := Json.compact_injective htext
  obtain ⟨hitems, hmerchant, hmandate, hcurrency, htax, hshipping, htotal⟩ :=
    canonicalCart_eq_iff.mp hcanonical
  exact ⟨hmerchant, hmandate, hcurrency, htax, hshipping, htotal, priced_perm_of_canonical hitems⟩

namespace Digest

theorem one_copy : (1 : Int) ≤ 1 := by decide

theorem three_copies : (1 : Int) ≤ 3 := by decide

def atlas : CartItem := CartIntegrityVerifier.Sample.item 1 one_copy

def atlases : CartItem := CartIntegrityVerifier.Sample.item 3 three_copies

theorem renamed_name : "World atlas" ≠ "" ∧ "World atlas".length ≤ 500 := by decide

theorem renamed_category : " Maps" ≠ "" ∧ " Maps".length ≤ 100 := by decide

/-- The same line under another name, and its category written otherwise. -/
def atlasRenamed : CartItem :=
  { atlas with
    name := "World atlas"
    category := " Maps"
    name_bounded := renamed_name
    category_bounded := renamed_category }

theorem globe_productId : "globe-2" ≠ "" := by decide

theorem globe_name : "Globe" ≠ "" ∧ "Globe".length ≤ 500 := by decide

def globe : CartItem :=
  { atlases with
    productId := "globe-2"
    name := "Globe"
    productId_ne := globe_productId
    name_bounded := globe_name }

def twoCopies : Cart := CartIntegrityVerifier.Sample.two ""

/-- A cart of two lines, of four copies together. -/
def pair (i j : CartItem)
    (hmatch : ∀ item ∈ [i, j], item.currency = .inr ∧ item.merchantId = "bookshop-4")
    (htotal : ([i, j].map CartItem.subtotalPaise).sum = 50000) : Cart :=
  { twoCopies with
    items := [i, j]
    totalPaise := 54600
    items_ne := List.cons_ne_nil _ _
    items_match := hmatch
    total_eq := by rw [htotal]; rfl }

theorem pair_match {i j : CartItem} (hi : i.currency = .inr ∧ i.merchantId = "bookshop-4")
    (hj : j.currency = .inr ∧ j.merchantId = "bookshop-4") :
    ∀ item ∈ [i, j], item.currency = .inr ∧ item.merchantId = "bookshop-4" :=
  List.forall_mem_cons.mpr ⟨hi, List.forall_mem_singleton.mpr hj⟩

/-- One copy of a book, and three of the same book. -/
def twoLines : Cart := pair atlas atlases (pair_match ⟨rfl, rfl⟩ ⟨rfl, rfl⟩) (by decide)

/-- The same cart with its lines the other way round. -/
def twoLinesSwapped : Cart := pair atlases atlas (pair_match ⟨rfl, rfl⟩ ⟨rfl, rfl⟩) (by decide)

def bookAndGlobe : Cart := pair atlas globe (pair_match ⟨rfl, rfl⟩ ⟨rfl, rfl⟩) (by decide)

/-- The lines in another order, and one of them written otherwise. -/
def globeAndBook : Cart := pair globe atlasRenamed (pair_match ⟨rfl, rfl⟩ ⟨rfl, rfl⟩) (by decide)

def twoLinesHash : String := "0470937755636bb4ceba4f7df100b19590e5e7cf7ee9f0e8f4fd7c4bc3a5bbfa"

def swappedHash : String := "8582422959082095dd6c44fb995afc4fd90d75d71daabadf14db849a30d14a9e"

def globeHash : String := "d0d78ef232fb54bfd0bbed4f306c24b25da866a84ace288361325cf390738077"

/-- The digests of the three texts; every other text has a digest of zeros. -/
def hexdigest (text : String) : String :=
  if text = twoLines.canonical.compact then twoLinesHash
  else if text = twoLinesSwapped.canonical.compact then swappedHash
  else if text = bookAndGlobe.canonical.compact then globeHash
  else CartIntegrityVerifier.Sample.zeros

theorem hexdigest_digits (text : String) :
    (hexdigest text).toList.length = 64 ∧ ∀ c ∈ (hexdigest text).toList, isLowerHex c = true := by
  rw [hexdigest]
  split
  · exact digits_of_all (by decide +kernel) (by decide +kernel)
  split
  · exact digits_of_all (by decide +kernel) (by decide +kernel)
  split <;> exact digits_of_all (by decide +kernel) (by decide +kernel)

def sha : Sha256 := ⟨hexdigest, hexdigest_digits⟩

theorem hexdigest_eq (text : String) :
    sha.hexdigest text
      = if text = twoLines.canonical.compact then twoLinesHash
        else if text = twoLinesSwapped.canonical.compact then swappedHash
        else if text = bookAndGlobe.canonical.compact then globeHash
        else CartIntegrityVerifier.Sample.zeros :=
  rfl

theorem hash_twoLines : twoLines.computeCartObjectHash sha = twoLinesHash := by
  rw [Cart.computeCartObjectHash, hexdigest_eq, if_pos rfl]

theorem hash_swapped : twoLinesSwapped.computeCartObjectHash sha = swappedHash := by
  have hother : twoLinesSwapped.canonical.compact ≠ twoLines.canonical.compact := by
    intro h
    have hitems := (canonicalCart_eq_iff.mp (Json.compact_injective h)).1
    -- the lines keep their order, and so their quantities theirs
    have hquantities := congrArg (List.map fun p => p.2.2.2.1) (map_priced_of_canonical hitems)
    exact absurd hquantities (by decide)
  rw [Cart.computeCartObjectHash, hexdigest_eq, if_neg hother, if_pos rfl]

theorem canonical_atlasRenamed : atlasRenamed.canonical = atlas.canonical := by
  rw [CartItem.canonical_eq_iff]
  decide

theorem canonical_globeAndBook : globeAndBook.canonical = bookAndGlobe.canonical := by
  have hsorted : sortedItems globeAndBook.items = [atlasRenamed, globe] := by rfl
  have hitems : (sortedItems globeAndBook.items).map CartItem.canonical
      = (sortedItems bookAndGlobe.items).map CartItem.canonical := by
    rw [hsorted]
    show [atlasRenamed.canonical, globe.canonical] = [atlas.canonical, globe.canonical]
    rw [canonical_atlasRenamed]
  exact canonicalCart_eq_iff.mpr ⟨hitems, rfl, rfl, rfl, rfl, rfl, rfl⟩

end Digest

/-- The order of the lines, the name of a book and the case of its category are
    not in the digest. -/
theorem bookAndGlobe_same :
    (Digest.bookAndGlobe.items.map CartItem.priced).Perm
      (Digest.globeAndBook.items.map CartItem.priced) := by
  have hapart : Apart Digest.sha Digest.bookAndGlobe Digest.globeAndBook := by
    rw [Apart, Digest.canonical_globeAndBook, Set.pair_eq_singleton]
    exact Set.injOn_singleton _ _
  have hhash : Digest.bookAndGlobe.computeCartObjectHash Digest.sha
      = Digest.globeAndBook.computeCartObjectHash Digest.sha := by
    rw [Cart.computeCartObjectHash, Cart.computeCartObjectHash, Digest.canonical_globeAndBook]
  exact (same_of_computeCartObjectHash_eq hapart hhash).2.2.2.2.2.2

/-! ## The order of the items -/

section

variable (sha : Sha256) (merchantId mandateId : String) (currency : Currency)
  (items : List CartItem) (taxPaise shippingPaise totalPaise : Int)

/-- The digest is the same for every order of the items. -/
def Reorderable : Prop :=
  ∀ items', items'.Perm items →
    computeCartHash sha merchantId mandateId currency items' taxPaise shippingPaise totalPaise
      = computeCartHash sha merchantId mandateId currency items taxPaise shippingPaise totalPaise

/-- SHA-256 has no collision between the texts of the orders of the items. -/
def OrdersApart : Prop :=
  Set.InjOn sha.hexdigest {text | ∃ items', items'.Perm items ∧ text
    = (canonicalCart merchantId mandateId currency items' taxPaise shippingPaise
      totalPaise).compact}

variable {sha merchantId mandateId currency items taxPaise shippingPaise totalPaise}

/-- **The order of the items does not matter exactly when lines of one product
    are priced the same.** -/
theorem reorderable_iff
    (hapart : OrdersApart sha merchantId mandateId currency items taxPaise shippingPaise
      totalPaise) :
    Reorderable sha merchantId mandateId currency items taxPaise shippingPaise totalPaise
      ↔ ∀ i ∈ items, ∀ j ∈ items, i.productId = j.productId → i.priced = j.priced := by
  have hcanonical : Reorderable sha merchantId mandateId currency items taxPaise shippingPaise
      totalPaise ↔ ∀ items', items'.Perm items →
        (sortedItems items').map CartItem.canonical
          = (sortedItems items).map CartItem.canonical := by
    refine forall_congr' fun items' => imp_congr_right fun hperm => ?_
    constructor
    · intro h
      have htext := hapart ⟨items', hperm, rfl⟩ ⟨items, .refl items, rfl⟩ h
      exact (canonicalCart_eq_iff.mp (Json.compact_injective htext)).1
    · intro h
      rw [computeCartHash, computeCartHash, canonicalCart, canonicalCart, h]
  simp only [sortedItems_eq] at hcanonical
  rw [hcanonical, map_sortBy_perm_iff CartItem.canonical_tells]
  simp only [CartItem.canonical_eq_iff]

end

/-- A book and a globe have one digest in both orders. -/
theorem bookAndGlobe_reorderable :
    Reorderable Digest.sha "bookshop-4" "mandate-92" .inr [Digest.atlas, Digest.globe] 2700 1900
      54600 := by
  refine (reorderable_iff ?_).mpr ?_
  · -- both orders have one text
    have hsorted : sortedItems [Digest.atlas, Digest.globe] = [Digest.atlas, Digest.globe] := by
      rfl
    have hswapped : sortedItems [Digest.globe, Digest.atlas] = [Digest.atlas, Digest.globe] := by
      rfl
    have htext : ∀ items : List CartItem, items.Perm [Digest.atlas, Digest.globe] →
        canonicalCart "bookshop-4" "mandate-92" .inr items 2700 1900 54600
          = canonicalCart "bookshop-4" "mandate-92" .inr [Digest.atlas, Digest.globe] 2700 1900
            54600 := by
      intro items hitems
      rcases List.perm_pair.mp hitems with rfl | rfl
      · rfl
      · rw [canonicalCart, canonicalCart, hsorted, hswapped]
    rintro text ⟨items, hitems, rfl⟩ text' ⟨items', hitems', rfl⟩ -
    rw [htext items hitems, htext items' hitems']
  · intro i hi j hj hproduct
    rcases List.mem_pair.mp hi with rfl | rfl <;> rcases List.mem_pair.mp hj with rfl | rfl
    · rfl
    · exact absurd hproduct (by decide)
    · exact absurd hproduct (by decide)
    · rfl

/-- **One copy of a book and three of it: the digest depends on which line comes
    first.** -/
theorem twoLines_not_reorderable :
    Digest.twoLinesSwapped.items.Perm Digest.twoLines.items
      ∧ Digest.twoLinesSwapped.computeCartObjectHash Digest.sha
        ≠ Digest.twoLines.computeCartObjectHash Digest.sha := by
  refine ⟨List.Perm.swap _ _ _, ?_⟩
  rw [Digest.hash_twoLines, Digest.hash_swapped]
  decide

end MandateGateway
