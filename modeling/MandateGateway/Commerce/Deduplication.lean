import MandateGateway.Commerce.CartOptimizer
import MandateGateway.Lib.Merging
import MandateGateway.Lib.Text

/-! # Duplicate products

    The deduplicator goes through the candidates once and compares each with the
    products that are kept so far; a better duplicate takes the place of the first one
    that it duplicates.  Products that share a URL, an identifier or a title are
    duplicates, so that being duplicates is not transitive.

    * `deduplicateLaw`: what is kept stands in the places of candidates, and every
      candidate is linked to a product that is kept; nothing is kept twice where
      a better duplicate has the same duplicates. -/

namespace MandateGateway

namespace ProductDeduplicator

/-- `_normalize_title`, where `isWord` tells the letters, digits and underscores of a
    pattern. -/
def normalizeTitle (isWord : Char → Bool) (title : String) : String :=
  let cleaned := String.ofList
    ((Text.lower title).toList.filter fun c => isWord c || Text.isSpace c)
  String.intercalate " " (Text.words cleaned)

def areDuplicates (isWord : Char → Bool) (a b : CanonicalProduct) : Bool :=
  if a.productUrl ≠ "" ∧ b.productUrl ≠ "" ∧ Text.strip a.productUrl = Text.strip b.productUrl then
    true
  else if a.merchantDomain = b.merchantDomain ∧ a.productId = b.productId then true
  else if normalizeTitle isWord a.title = normalizeTitle isWord b.title
      ∧ a.merchantDomain = b.merchantDomain then true
  else false

def scoreQuality (item : CanonicalProduct) : Int :=
  (if item.verificationStatus = "PRODUCT_VERIFIED" then 50 else 0)
    + (match item.checkoutCapability with
      | .verifiedApi => 30
      | .checkoutHandoff => 20
      | _ => 0)
    + (match item.imageUrl with
      | some url => if url ≠ "" then 10 else 0
      | none => 0)

/-- The body of the loop. -/
def place (isWord : Char → Bool) (deduped : List CanonicalProduct) (candidate : CanonicalProduct) :
    List CanonicalProduct :=
  match deduped.findIdx? (areDuplicates isWord candidate) with
  | some i =>
      match deduped[i]? with
      | some existing =>
          if scoreQuality existing < scoreQuality candidate then deduped.set i candidate
          else deduped
      | none => deduped
  | none => deduped ++ [candidate]

def deduplicate (isWord : Char → Bool) (candidates : List CanonicalProduct) :
    List CanonicalProduct :=
  if candidates.length ≤ 1 then candidates else candidates.foldl (place isWord) []

section
variable {isWord : Char → Bool}

theorem areDuplicates_eq_true_iff {a b : CanonicalProduct} :
    areDuplicates isWord a b = true
      ↔ (a.productUrl ≠ "" ∧ b.productUrl ≠ "" ∧ Text.strip a.productUrl = Text.strip b.productUrl)
        ∨ (a.merchantDomain = b.merchantDomain ∧ a.productId = b.productId)
        ∨ (normalizeTitle isWord a.title = normalizeTitle isWord b.title
          ∧ a.merchantDomain = b.merchantDomain) := by
  rw [areDuplicates]
  by_cases hurl : a.productUrl ≠ "" ∧ b.productUrl ≠ ""
      ∧ Text.strip a.productUrl = Text.strip b.productUrl
  · rw [if_pos hurl]
    exact iff_of_true rfl (.inl hurl)
  rw [if_neg hurl, or_iff_right hurl]
  by_cases hid : a.merchantDomain = b.merchantDomain ∧ a.productId = b.productId
  · rw [if_pos hid]
    exact iff_of_true rfl (.inl hid)
  rw [if_neg hid, or_iff_right hid]
  by_cases htitle : normalizeTitle isWord a.title = normalizeTitle isWord b.title
      ∧ a.merchantDomain = b.merchantDomain
  · rw [if_pos htitle]
    exact iff_of_true rfl htitle
  · rw [if_neg htitle]
    exact iff_of_false Bool.false_ne_true htitle

theorem areDuplicates_symm (a b : CanonicalProduct) :
    areDuplicates isWord a b = areDuplicates isWord b a := by
  rw [Bool.eq_iff_iff, areDuplicates_eq_true_iff, areDuplicates_eq_true_iff]
  refine or_congr ?_ (or_congr ?_ ?_)
  · rw [and_left_comm, eq_comm (a := Text.strip a.productUrl)]
  · exact and_congr eq_comm eq_comm
  · exact and_congr eq_comm eq_comm

/-- **The loop merges** one candidate after the other. -/
theorem place_eq_merge (deduped : List CanonicalProduct) (candidate : CanonicalProduct) :
    place isWord deduped candidate
      = Merging.merge (areDuplicates isWord) scoreQuality deduped candidate := by
  induction deduped with
  | nil => rfl
  | cons existing deduped ih =>
      rw [Merging.merge, place, List.findIdx?_cons]
      by_cases hdup : areDuplicates isWord candidate existing = true
      · rw [if_pos hdup, if_pos hdup]
        by_cases hlt : scoreQuality existing < scoreQuality candidate
        · rw [if_pos hlt]
          exact if_pos hlt
        · rw [if_neg hlt]
          exact if_neg hlt
      · rw [if_neg hdup, if_neg hdup, ← ih, place]
        cases deduped.findIdx? (areDuplicates isWord candidate) with
        | none => rfl
        | some i =>
            rw [Option.map_some]
            dsimp only
            rw [List.getElem?_cons_succ]
            cases deduped[i]? with
            | none => rfl
            | some kept =>
                dsimp only
                by_cases hlt : scoreQuality kept < scoreQuality candidate
                · rw [if_pos hlt, if_pos hlt, List.set_cons_succ]
                · rw [if_neg hlt, if_neg hlt]

theorem deduplicate_eq_mergeAll (candidates : List CanonicalProduct) :
    deduplicate isWord candidates
      = Merging.mergeAll (areDuplicates isWord) scoreQuality candidates := by
  have hplace : place isWord = Merging.merge (areDuplicates isWord) scoreQuality :=
    funext fun deduped => funext (place_eq_merge deduped)
  rw [deduplicate, hplace]
  match candidates with
  | [] => rfl
  | [candidate] => rfl
  | a :: b :: candidates => rfl

end

/-- The candidate duplicates another one of at least its quality. -/
abbrev Yields (isWord : Char → Bool) (candidates : List CanonicalProduct) :
    CanonicalProduct → CanonicalProduct → Prop :=
  Merging.Yields (areDuplicates isWord) scoreQuality candidates

/-- The candidate is duplicated by another one of better quality. -/
abbrev Improves (isWord : Char → Bool) (candidates : List CanonicalProduct) :
    CanonicalProduct → CanonicalProduct → Prop :=
  Merging.Improves (areDuplicates isWord) scoreQuality candidates

/-- A duplicate of better quality has the same duplicates among the candidates. -/
abbrev Consistent (isWord : Char → Bool) (candidates : List CanonicalProduct) : Prop :=
  Merging.Consistent (areDuplicates isWord) scoreQuality candidates

/-- No two products are duplicates of each other. -/
abbrev Distinct (isWord : Char → Bool) (candidates : List CanonicalProduct) : Prop :=
  Merging.Distinct (areDuplicates isWord) candidates

/-- Every candidate is among these products, or duplicates one of at least its
    quality. -/
def Covered (isWord : Char → Bool) (candidates products : List CanonicalProduct) : Prop :=
  ∀ x ∈ candidates, ∃ y ∈ products, x = y ∨ Yields isWord candidates x y

/-- **What deduplication keeps.**  No candidate is kept twice, and what is kept stands in
    the places of candidates in their order, each improved from one duplicate to the next;
    every candidate is linked by duplicates of no less quality to a product that is kept.
    Where a better duplicate has the same duplicates, what is kept is distinct, covers
    the candidates, and is kept as it is when deduplicated again. -/
theorem deduplicateLaw (isWord : Char → Bool) (candidates : List CanonicalProduct) :
    List.Subperm (deduplicate isWord candidates) candidates
    ∧ (∃ firsts, List.Sublist firsts candidates
      ∧ List.Forall₂ (Relation.ReflTransGen (Improves isWord candidates)) firsts
        (deduplicate isWord candidates))
    ∧ (∀ x ∈ candidates, ∃ y ∈ deduplicate isWord candidates,
      Relation.ReflTransGen (Yields isWord candidates) x y)
    ∧ (Consistent isWord candidates →
      Distinct isWord (deduplicate isWord candidates)
      ∧ Covered isWord candidates (deduplicate isWord candidates)
      ∧ deduplicate isWord (deduplicate isWord candidates) = deduplicate isWord candidates) := by
  rw [deduplicate_eq_mergeAll candidates]
  refine ⟨Merging.mergeAll_subperm candidates, Merging.mergeAll_places candidates, ?_, ?_⟩
  · intro x hx
    exact Merging.mergeAll_linked areDuplicates_symm hx
  · intro hconsistent
    have hdistinct := Merging.mergeAll_distinct areDuplicates_symm hconsistent
    refine ⟨hdistinct, ?_, ?_⟩
    · intro x hx
      exact Merging.mergeAll_covers areDuplicates_symm hconsistent hx
    · rw [deduplicate_eq_mergeAll]
      exact Merging.mergeAll_of_distinct hdistinct

end ProductDeduplicator

namespace SampleProducts

def isWord (c : Char) : Bool := c.isAlphanum || c == '_'

def product (productId title merchantDomain productUrl : String) (imageUrl : Option String) :
    CanonicalProduct where
  productId := productId
  title := title
  brand := "UNKNOWN"
  description := ""
  category := "general"
  pricePaise := 1000
  currency := "INR"
  availability := "IN_STOCK"
  merchantName := merchantDomain
  merchantDomain := merchantDomain
  productUrl := productUrl
  imageUrl := imageUrl
  sourceProvider := "tavily"
  retrievedAt := ""
  evidenceHash := ""
  verificationStatus := "PRODUCT_VERIFIED"
  checkoutCapability := .discoveryOnly
  priceSource := "UNKNOWN"
  isLive := true

def pen : CanonicalProduct := product "1" "Pen" "one.in" "https://one.in/pen" none

def penAgain : CanonicalProduct := product "9" "Pen!" "one.in" "https://one.in/pen-9" none

def marker : CanonicalProduct := product "2" "Marker" "two.in" "https://two.in/marker" none

def both : CanonicalProduct := product "2" "Brush" "two.in" "https://one.in/pen" (some "image")

end SampleProducts

open SampleProducts ProductDeduplicator in
theorem both_replaces_pen :
    ¬ List.Sublist (deduplicate isWord [pen, penAgain, marker, both]) [pen, penAgain, marker, both]
    ∧ ¬ Distinct isWord (deduplicate isWord [pen, penAgain, marker, both])
    ∧ ¬ Covered isWord [pen, penAgain, marker, both]
      (deduplicate isWord [pen, penAgain, marker, both])
    ∧ deduplicate isWord (deduplicate isWord [pen, penAgain, marker, both])
      ≠ deduplicate isWord [pen, penAgain, marker, both] := by
  have hkept : deduplicate isWord [pen, penAgain, marker, both] = [both, marker] := by
    decide +kernel
  rw [hkept]
  refine ⟨by decide +kernel, ?_, ?_, by decide +kernel⟩
  · intro h
    have hdup := List.rel_of_pairwise_cons h List.mem_cons_self
    exact absurd hdup (by decide +kernel)
  · intro h
    obtain ⟨y, hy, heq | hyields⟩ := h penAgain (by decide +kernel)
    · rw [← heq] at hy
      exact absurd hy (by decide +kernel)
    · have hdup := hyields.dup
      have hnot : ∀ y ∈ [both, marker], areDuplicates isWord penAgain y = false := by
        decide +kernel
      rw [hnot y hy] at hdup
      cases hdup

end MandateGateway
