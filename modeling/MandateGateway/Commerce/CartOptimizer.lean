import MandateGateway.Lib.Exceptions
import MandateGateway.Lib.ExhaustiveSearch
import MandateGateway.Lib.FloatRange
import MandateGateway.Lib.OrderedMap
import MandateGateway.Values
import Mathlib.Data.Finset.Card
import Mathlib.Tactic.Ring

/-! # Combinations of a cart

    For each item that is requested there is a list of candidates; the optimizer
    goes through the combinations of their first five, drops those over the budget
    or with too many merchants, and ranks the rest.  Floating point numbers are read
    as the rationals they stand for.

    * `optimizes_iff`: the result is what the search is for, exactly when the score
      of no combination within the limits is divided by nothing, or out of range;
    * `composite_weakest_iff`: no cart says more of its checkout than its weakest
      item, exactly when no combination within the limits has an unsupported one. -/

namespace MandateGateway

open Clock

inductive CheckoutCapability where
  | verifiedApi | checkoutHandoff | discoveryOnly | unsupported
deriving DecidableEq

/-- A product of a merchant, with the evidence for it. -/
structure CanonicalProduct where
  productId          : String
  title              : String
  brand              : String
  description        : String
  category           : String
  pricePaise         : Int
  currency           : String
  availability       : String
  merchantName       : String
  merchantDomain     : String
  productUrl         : String
  imageUrl           : Option String
  sourceProvider     : String
  retrievedAt        : String
  evidenceHash       : String
  verificationStatus : String
  checkoutCapability : CheckoutCapability
  priceSource        : String
  isLive             : Bool
deriving DecidableEq

inductive CartOptimizationStrategy where
  | lowestTotalPrice | bestValue | fewestMerchants | highestTrust | balanced
deriving DecidableEq

def CartOptimizationStrategy.value : CartOptimizationStrategy → String
  | .lowestTotalPrice => "LOWEST_TOTAL_PRICE"
  | .bestValue => "BEST_VALUE"
  | .fewestMerchants => "FEWEST_MERCHANTS"
  | .highestTrust => "HIGHEST_TRUST"
  | .balanced => "BALANCED"

structure ShoppingItemIntent where
  normalizedQuery : String
  quantity        : Int

structure ShoppingRequest where
  requestId            : String
  items                : List ShoppingItemIntent
  totalBudgetPaise     : Int
  maxMerchantCount     : Int
  optimizationStrategy : CartOptimizationStrategy

structure CartResearchResult where
  itemCandidates : OrderedMap String (List CanonicalProduct)

structure CartCostSummary where
  productSubtotalPaise  : Int
  shippingCostPaise     : Option Int
  taxPaise              : Option Int
  platformFeePaise      : Option Int
  totalKnownCostPaise   : Int
  unknownCostComponents : List String
deriving DecidableEq

/-- A combination within the limits, and its score. -/
structure CartCandidate where
  cartId             : String
  items              : List CanonicalProduct
  quantities         : List Int
  merchantDomains    : Finset String
  merchantCount      : Nat
  costSummary        : CartCostSummary
  checkoutCapability : CheckoutCapability
  score              : Rat

structure CartOptimizationResult where
  requestId            : String
  optimizationStrategy : String
  candidatesEvaluated  : Nat
  feasibleCarts        : List CartCandidate
  bestRecommendedCart  : Option CartCandidate
  generatedAt          : String

/-- The time, and the digits of a new identifier for each cart. -/
structure CartEnvironment where
  now : Instant
  hex : Nat → String

/-! ## The search -/

def CartCostEngine.calculateCartCost (selectedProducts : List CanonicalProduct)
    (quantities : List Int) (verifiedShippingPaise verifiedTaxPaise : Option Int) :
    CartCostSummary :=
  let quantities :=
    if quantities = [] then List.replicate selectedProducts.length 1 else quantities
  let subtotal := (List.zipWith (fun prod qty => prod.pricePaise * qty)
    selectedProducts quantities).sum
  { productSubtotalPaise := subtotal
    shippingCostPaise := verifiedShippingPaise
    taxPaise := verifiedTaxPaise
    platformFeePaise := some 0
    totalKnownCostPaise :=
      subtotal + verifiedShippingPaise.getD 0 + verifiedTaxPaise.getD 0
    unknownCostComponents :=
      (if verifiedShippingPaise.isSome then [] else ["SHIPPING_COST"])
        ++ (if verifiedTaxPaise.isSome then [] else ["MERCHANT_TAX"]) }

namespace CartOptimizer

/-- `float(n)`. -/
def toFloat (n : Int) : Except PyError Rat :=
  match Binary64.ofRat n with
  | .infinite _ => .error (.overflowError "int too large to convert to float")
  | _ => .ok n

/-- `a / b`. -/
def divide (a b : Rat) : Except PyError Rat :=
  if b = 0 then .error (.zeroDivisionError "float division by zero") else .ok (a / b)

def compositeCapability (capabilities : List CheckoutCapability) : CheckoutCapability :=
  if capabilities.any (· = .discoveryOnly) then .discoveryOnly
  else if capabilities.any (· = .checkoutHandoff) then .checkoutHandoff
  else .verifiedApi

/-- `cap_score`. -/
def capabilityScore : CheckoutCapability → Rat
  | .verifiedApi => 10
  | .checkoutHandoff => 7
  | .discoveryOnly | .unsupported => 3

def scoreCart (items : List CanonicalProduct) (costSum : CartCostSummary) (merchantCount : Nat)
    (capability : CheckoutCapability) (request : ShoppingRequest) : Except PyError Rat := do
  let budget ← toFloat request.totalBudgetPaise
  let cost ← toFloat costSum.totalKnownCostPaise
  let budgetUsedRatio ← divide cost budget
  let budgetScore := 25 * (1 - budgetUsedRatio * (3 / 10))
  let verified ← divide
    (items.countP fun item => item.verificationStatus = "PRODUCT_VERIFIED") items.length
  let verificationScore := verified * 20
  let merchantScore ← divide 20 merchantCount
  let available ← divide (items.countP fun item => item.availability = "AVAILABLE") items.length
  let availabilityScore := available * 15
  let capScore := capabilityScore capability
  let freshnessScore := 10
  let budgetScore :=
    if request.optimizationStrategy = .lowestTotalPrice then budgetScore * (3 / 2) else budgetScore
  let merchantScore :=
    if request.optimizationStrategy = .fewestMerchants then merchantScore * (3 / 2)
    else merchantScore
  pure (budgetScore + verificationScore + merchantScore + availabilityScore + capScore
    + freshnessScore)

/-- `quantities`. -/
def quantitiesOf (request : ShoppingRequest) : List Int := request.items.map (·.quantity)

def costOf (request : ShoppingRequest) (combination : List CanonicalProduct) : CartCostSummary :=
  CartCostEngine.calculateCartCost combination (quantitiesOf request) none none

def merchantDomainsOf (combination : List CanonicalProduct) : Finset String :=
  (combination.map (·.merchantDomain)).toFinset

def capabilityOf (combination : List CanonicalProduct) : CheckoutCapability :=
  compositeCapability (combination.map (·.checkoutCapability))

def scoreOf (request : ShoppingRequest) (combination : List CanonicalProduct) :
    Except PyError Rat :=
  scoreCart combination (costOf request combination) (merchantDomainsOf combination).card
    (capabilityOf combination) request

/-- The two constraints on a combination. -/
def Within (request : ShoppingRequest) (combination : List CanonicalProduct) : Prop :=
  (costOf request combination).totalKnownCostPaise ≤ request.totalBudgetPaise
    ∧ ((merchantDomainsOf combination).card : Int) ≤ request.maxMerchantCount

instance (request : ShoppingRequest) (combination : List CanonicalProduct) :
    Decidable (Within request combination) :=
  inferInstanceAs (Decidable (_ ∧ _))

/-- A combination with its score. -/
def candidateOf (cartId : String) (request : ShoppingRequest)
    (combination : List CanonicalProduct) (score : Rat) : CartCandidate where
  cartId := cartId
  items := combination
  quantities := quantitiesOf request
  merchantDomains := merchantDomainsOf combination
  merchantCount := (merchantDomainsOf combination).card
  costSummary := costOf request combination
  checkoutCapability := capabilityOf combination
  score := score

/-- The loop over the combinations; `n` carts are feasible so far. -/
def evaluateFrom (env : CartEnvironment) (request : ShoppingRequest) :
    Nat → List (List CanonicalProduct) → Except PyError (List CartCandidate)
  | _, [] => .ok []
  | n, combination :: rest =>
      if Within request combination then do
        let score ← scoreOf request combination
        let carts ← evaluateFrom env request (n + 1) rest
        pure (candidateOf ("cart_" ++ String.ofList ((env.hex n).toList.take 10)) request
          combination score :: carts)
      else evaluateFrom env request n rest

/-- `item_candidates.get(q, [])`. -/
def candidatesOf (research : CartResearchResult) (item : ShoppingItemIntent) :
    List CanonicalProduct :=
  (research.itemCandidates.get item.normalizedQuery).getD []

def optimizeCart (env : CartEnvironment) (request : ShoppingRequest)
    (research : CartResearchResult) : Except PyError CartOptimizationResult :=
  let candidateLists := request.items.map (candidatesOf research)
  if candidateLists = [] ∨ candidateLists.any (·.isEmpty) then
    .ok {
      requestId := request.requestId
      optimizationStrategy := request.optimizationStrategy.value
      candidatesEvaluated := 0
      feasibleCarts := []
      bestRecommendedCart := none
      generatedAt := isoformat env.now }
  else do
    let combinations := ExhaustiveSearch.product (candidateLists.map (·.take 5))
    let carts ← evaluateFrom env request 0 combinations
    let feasibleCarts := ExhaustiveSearch.ranked (·.score) carts
    pure {
      requestId := request.requestId
      optimizationStrategy := request.optimizationStrategy.value
      candidatesEvaluated := combinations.length
      feasibleCarts := feasibleCarts
      bestRecommendedCart := feasibleCarts.head?
      generatedAt := isoformat env.now }

/-! ## The score of a combination -/

variable {env : CartEnvironment} {request : ShoppingRequest} {research : CartResearchResult}
  {combination : List CanonicalProduct}

/-- The number is in the range of the format. -/
def Convertible (n : Int) : Prop := n.natAbs < Binary64.limit

theorem toFloat_eq_ok_iff {n : Int} {q : Rat} : toFloat n = .ok q ↔ Convertible n ∧ q = n := by
  have hrange : (∃ negative, Binary64.ofRat n = .infinite negative) ↔ ¬ Convertible n := by
    rw [Binary64.ofRat_infinite_iff, Convertible, Nat.not_lt, ← Int.cast_abs, Int.abs_eq_natAbs]
    norm_cast
  rw [toFloat]
  cases hfloat : Binary64.ofRat n with
  | infinite negative =>
      have hnot := hrange.mp ⟨negative, hfloat⟩
      exact iff_of_false nofun fun h => hnot h.1
  | _ =>
      have hconvertible : Convertible n := by
        by_contra hnot
        obtain ⟨negative, h⟩ := hrange.mpr hnot
        rw [hfloat] at h
        cases h
      rw [and_iff_right hconvertible, Exceptions.ok_eq_ok_iff]

theorem divide_eq_ok_iff {a b q : Rat} : divide a b = .ok q ↔ b ≠ 0 ∧ q = a / b := by
  rw [divide, Exceptions.guard_eq_ok_iff, Exceptions.ok_eq_ok_iff]

/-- The score divides by the budget, and reads the budget and the cost as floats. -/
structure Scorable (request : ShoppingRequest) (combination : List CanonicalProduct) : Prop where
  budget_ne : request.totalBudgetPaise ≠ 0
  budget    : Convertible request.totalBudgetPaise
  cost      : Convertible (costOf request combination).totalKnownCostPaise

/-- **A combination of at least one item has a score** when it is scorable. -/
theorem exists_score_iff (hne : combination ≠ []) :
    (∃ score, scoreOf request combination = .ok score) ↔ Scorable request combination := by
  have hitems : (combination.length : Rat) ≠ 0 :=
    Nat.cast_ne_zero.mpr fun h => hne (List.length_eq_zero_iff.mp h)
  have hmerchants : ((merchantDomainsOf combination).card : Rat) ≠ 0 := by
    obtain ⟨item, rest, rfl⟩ := List.exists_cons_of_ne_nil hne
    refine Nat.cast_ne_zero.mpr (Finset.card_ne_zero_of_mem (a := item.merchantDomain) ?_)
    rw [merchantDomainsOf, List.mem_toFinset, List.map_cons]
    exact List.mem_cons_self
  constructor
  · rintro ⟨score, hscore⟩
    -- the three steps that can fail come first
    rw [scoreOf, scoreCart, Exceptions.seq_eq_ok_iff] at hscore
    obtain ⟨budget, hbudget, hrest⟩ := hscore
    obtain ⟨cost, hcost, hrest⟩ := Exceptions.seq_eq_ok_iff.mp hrest
    obtain ⟨ratio, hratio, -⟩ := Exceptions.seq_eq_ok_iff.mp hrest
    obtain ⟨hconvertible, rfl⟩ := toFloat_eq_ok_iff.mp hbudget
    exact ⟨Int.cast_ne_zero.mp (divide_eq_ok_iff.mp hratio).1, hconvertible,
      (toFloat_eq_ok_iff.mp hcost).1⟩
  · rintro ⟨hbudget, hconvertible, hcost⟩
    have hratio : (request.totalBudgetPaise : Rat) ≠ 0 := Int.cast_ne_zero.mpr hbudget
    simp only [scoreOf, scoreCart, Exceptions.seq_eq_ok_iff]
    exact ⟨_, _, toFloat_eq_ok_iff.mpr ⟨hconvertible, rfl⟩, _,
      toFloat_eq_ok_iff.mpr ⟨hcost, rfl⟩, _, divide_eq_ok_iff.mpr ⟨hratio, rfl⟩, _,
      divide_eq_ok_iff.mpr ⟨hitems, rfl⟩, _, divide_eq_ok_iff.mpr ⟨hmerchants, rfl⟩, _,
      divide_eq_ok_iff.mpr ⟨hitems, rfl⟩, rfl⟩

/-! ## The loop -/

theorem evaluateFrom_cons_of_within (n : Nat) {rest : List (List CanonicalProduct)}
    (hwithin : Within request combination) {carts : List CartCandidate} :
    evaluateFrom env request n (combination :: rest) = .ok carts
      ↔ ∃ score, scoreOf request combination = .ok score
        ∧ ∃ more, evaluateFrom env request (n + 1) rest = .ok more
          ∧ carts = candidateOf ("cart_" ++ String.ofList ((env.hex n).toList.take 10)) request
            combination score :: more := by
  rw [evaluateFrom, if_pos hwithin, Exceptions.seq_eq_ok_iff]
  refine exists_congr fun score => and_congr_right fun _ => ?_
  rw [Exceptions.seq_eq_ok_iff]
  exact exists_congr fun more => and_congr_right fun _ => Exceptions.ok_eq_ok_iff

theorem evaluateFrom_cons_of_not_within (n : Nat) {rest : List (List CanonicalProduct)}
    (hnot : ¬ Within request combination) :
    evaluateFrom env request n (combination :: rest) = evaluateFrom env request n rest := by
  rw [evaluateFrom, if_neg hnot]

/-- **The loop ends** when every combination within the limits has a score. -/
theorem evaluateFrom_ok_iff (n : Nat) (combinations : List (List CanonicalProduct)) :
    (∃ carts, evaluateFrom env request n combinations = .ok carts)
      ↔ ∀ combination ∈ combinations, Within request combination →
        ∃ score, scoreOf request combination = .ok score := by
  induction combinations generalizing n with
  | nil => exact iff_of_true ⟨_, rfl⟩ (List.forall_mem_nil _)
  | cons combination rest ih =>
      rw [List.forall_mem_cons]
      by_cases hwithin : Within request combination
      · rw [← ih (n + 1)]
        simp only [evaluateFrom_cons_of_within n hwithin]
        constructor
        · rintro ⟨_, score, hscore, more, hmore, -⟩
          exact ⟨fun _ => ⟨score, hscore⟩, more, hmore⟩
        · rintro ⟨hscore, more, hmore⟩
          obtain ⟨score, hscore⟩ := hscore hwithin
          exact ⟨_, score, hscore, more, hmore, rfl⟩
      · rw [evaluateFrom_cons_of_not_within n hwithin, ih n]
        exact ⟨fun h => ⟨fun hw => absurd hw hwithin, h⟩, fun h => h.2⟩

/-- **The carts** are the combinations within the limits. -/
theorem map_items_evaluateFrom {n : Nat} {combinations : List (List CanonicalProduct)}
    {carts : List CartCandidate} (h : evaluateFrom env request n combinations = .ok carts) :
    carts.map CartCandidate.items = combinations.filter fun c => Within request c := by
  induction combinations generalizing n carts with
  | nil =>
      obtain rfl : carts = [] := (Except.ok.inj h).symm
      rfl
  | cons combination rest ih =>
      by_cases hwithin : Within request combination
      · obtain ⟨score, -, more, hmore, rfl⟩ := (evaluateFrom_cons_of_within n hwithin).mp h
        -- a cart for the combination, and those of the rest
        have hkept : (combination :: rest).filter (fun c => decide (Within request c))
            = combination :: rest.filter fun c => decide (Within request c) :=
          List.filter_cons_of_pos (decide_eq_true hwithin)
        rw [hkept, List.map_cons, ih hmore]
        rfl
      · rw [evaluateFrom_cons_of_not_within n hwithin] at h
        have hdropped : (combination :: rest).filter (fun c => decide (Within request c))
            = rest.filter fun c => decide (Within request c) :=
          List.filter_cons_of_neg fun h => hwithin (of_decide_eq_true h)
        rw [hdropped, ih h]

theorem made_evaluateFrom {n : Nat} {combinations : List (List CanonicalProduct)}
    {carts : List CartCandidate} (h : evaluateFrom env request n combinations = .ok carts) :
    ∀ cart ∈ carts, scoreOf request cart.items = .ok cart.score
      ∧ cart = candidateOf cart.cartId request cart.items cart.score := by
  induction combinations generalizing n carts with
  | nil =>
      obtain rfl : carts = [] := (Except.ok.inj h).symm
      exact List.forall_mem_nil _
  | cons combination rest ih =>
      by_cases hwithin : Within request combination
      · obtain ⟨score, hscore, more, hmore, rfl⟩ := (evaluateFrom_cons_of_within n hwithin).mp h
        exact List.forall_mem_cons.mpr ⟨⟨hscore, rfl⟩, ih hmore⟩
      · rw [evaluateFrom_cons_of_not_within n hwithin] at h
        exact ih h

/-! ## What the optimizer returns -/

/-- One of the first five candidates for each of the items, of which there is one
    at least. -/
structure Combination (request : ShoppingRequest) (research : CartResearchResult)
    (combination : List CanonicalProduct) : Prop where
  requested : request.items ≠ []
  chosen    : List.Forall₂ (fun product item => product ∈ (candidatesOf research item).take 5)
    combination request.items

/-- What the search is for: the combinations within the limits, each once, by
    descending score, and the first of them as the best one. -/
structure Optimal (request : ShoppingRequest) (research : CartResearchResult)
    (result : CartOptimizationResult) : Prop where
  exact  : ∀ combination, (∃ cart ∈ result.feasibleCarts, cart.items = combination)
    ↔ Combination request research combination ∧ Within request combination
  once   : (∀ item ∈ request.items, ((candidatesOf research item).take 5).Nodup) →
    (result.feasibleCarts.map CartCandidate.items).Nodup
  made   : ∀ cart ∈ result.feasibleCarts, scoreOf request cart.items = .ok cart.score
    ∧ cart = candidateOf cart.cartId request cart.items cart.score
  sorted : result.feasibleCarts.Pairwise fun a b => b.score ≤ a.score
  best   : match result.bestRecommendedCart with
    | none => ∀ combination, ¬ (Combination request research combination
        ∧ Within request combination)
    | some cart => cart ∈ result.feasibleCarts
        ∧ ∀ other ∈ result.feasibleCarts, other.score ≤ cart.score

theorem mem_combinations_iff :
    combination ∈ ExhaustiveSearch.product ((request.items.map (candidatesOf research)).map
        (·.take 5))
      ↔ List.Forall₂ (fun product item => product ∈ (candidatesOf research item).take 5)
        combination request.items := by
  rw [ExhaustiveSearch.mem_product_iff, List.map_map, List.forall₂_map_right_iff]
  rfl

theorem not_combination (h : request.items.map (candidatesOf research) = []
    ∨ (request.items.map (candidatesOf research)).any (·.isEmpty) = true) :
    ¬ Combination request research combination := by
  rintro ⟨hrequested, hchosen⟩
  rcases h with hnone | hempty
  · exact hrequested (List.map_eq_nil_iff.mp hnone)
  · obtain ⟨candidates, hmem, hnil⟩ := List.any_eq_true.mp hempty
    refine ExhaustiveSearch.ne_nil_of_mem_product (mem_combinations_iff.mpr hchosen)
      (candidates.take 5) (List.mem_map_of_mem hmem) ?_
    rw [List.isEmpty_iff.mp hnil, List.take_nil]

theorem Combination.ne_nil (h : Combination request research combination) : combination ≠ [] := by
  rintro rfl
  exact h.requested (List.forall₂_nil_left_iff.mp h.chosen)

theorem optimal_nothing {result : CartOptimizationResult} (hcarts : result.feasibleCarts = [])
    (hbest : result.bestRecommendedCart = none)
    (hnone : ∀ combination, ¬ Combination request research combination) :
    Optimal request research result := by
  constructor
  · intro combination
    rw [hcarts]
    refine iff_of_false ?_ fun h => hnone combination h.1
    rintro ⟨cart, hcart, -⟩
    cases hcart
  · intro _
    rw [hcarts]
    exact List.nodup_nil
  · rw [hcarts]
    exact List.forall_mem_nil _
  · rw [hcarts]
    exact List.Pairwise.nil
  · rw [hbest]
    exact fun combination h => hnone combination h.1

theorem optimal_ranked {carts : List CartCandidate} {result : CartOptimizationResult}
    (hrequested : request.items ≠ [])
    (hcarts : evaluateFrom env request 0 (ExhaustiveSearch.product
      ((request.items.map (candidatesOf research)).map (·.take 5))) = .ok carts)
    (hranked : result.feasibleCarts = ExhaustiveSearch.ranked (·.score) carts)
    (hbest : result.bestRecommendedCart = result.feasibleCarts.head?) :
    Optimal request research result := by
  have hexact : ∀ combination, (∃ cart ∈ result.feasibleCarts, cart.items = combination)
      ↔ Combination request research combination ∧ Within request combination := by
    intro combination
    have hitems : (∃ cart ∈ result.feasibleCarts, cart.items = combination)
        ↔ combination ∈ carts.map CartCandidate.items := by
      simp only [hranked, ExhaustiveSearch.mem_ranked, List.mem_map]
    rw [hitems, map_items_evaluateFrom hcarts, List.mem_filter, mem_combinations_iff,
      decide_eq_true_eq]
    exact and_congr_left fun _ => ⟨fun h => ⟨hrequested, h⟩, fun h => h.chosen⟩
  refine ⟨hexact, ?_, ?_, ?_, ?_⟩
  · intro hnodup
    have hperm := (ExhaustiveSearch.ranked_perm (·.score) carts).map CartCandidate.items
    rw [hranked, hperm.nodup_iff, map_items_evaluateFrom hcarts]
    refine (ExhaustiveSearch.nodup_product ?_).filter _
    simpa only [List.forall_mem_map] using hnodup
  · intro cart hcart
    rw [hranked, ExhaustiveSearch.mem_ranked] at hcart
    exact made_evaluateFrom hcarts cart hcart
  · rw [hranked]
    exact ExhaustiveSearch.ranked_pairwise _ carts
  · rw [hbest]
    cases hhead : result.feasibleCarts.head? with
    | none =>
        intro combination hfeasible
        obtain ⟨cart, hcart, -⟩ := (hexact combination).mpr hfeasible
        rw [List.head?_eq_none_iff.mp hhead] at hcart
        cases hcart
    | some cart =>
        rw [hranked] at hhead ⊢
        exact ExhaustiveSearch.le_of_head?_ranked _ hhead

/-- **What is returned is what the search is for.** -/
theorem optimal_of_ok {result : CartOptimizationResult}
    (hok : optimizeCart env request research = .ok result) :
    Optimal request research result := by
  rw [optimizeCart] at hok
  dsimp only at hok
  by_cases hearly : request.items.map (candidatesOf research) = []
      ∨ (request.items.map (candidatesOf research)).any (·.isEmpty) = true
  · rw [if_pos hearly] at hok
    cases hok
    exact optimal_nothing rfl rfl fun _ => not_combination hearly
  · have hrequested : request.items ≠ [] :=
      fun h => hearly (.inl (List.map_eq_nil_iff.mpr h))
    rw [if_neg hearly] at hok
    obtain ⟨carts, hcarts, hresult⟩ := Exceptions.seq_eq_ok_iff.mp hok
    cases hresult
    exact optimal_ranked hrequested hcarts rfl rfl

/-- **The search ends** when every combination within the limits is scorable. -/
theorem exists_ok_iff :
    (∃ result, optimizeCart env request research = .ok result)
      ↔ ∀ combination, Combination request research combination → Within request combination →
        Scorable request combination := by
  rw [optimizeCart]
  dsimp only
  by_cases hearly : request.items.map (candidatesOf research) = []
      ∨ (request.items.map (candidatesOf research)).any (·.isEmpty) = true
  · rw [if_pos hearly]
    exact iff_of_true ⟨_, rfl⟩ fun c hc => absurd hc (not_combination hearly)
  · have hrequested : request.items ≠ [] :=
      fun h => hearly (.inl (List.map_eq_nil_iff.mpr h))
    rw [if_neg hearly]
    constructor
    · rintro ⟨result, hok⟩ combination hcombination hwithin
      obtain ⟨carts, hcarts, -⟩ := Exceptions.seq_eq_ok_iff.mp hok
      have hscores := (evaluateFrom_ok_iff 0 _).mp ⟨carts, hcarts⟩ combination
        (mem_combinations_iff.mpr hcombination.chosen) hwithin
      exact (exists_score_iff hcombination.ne_nil).mp hscores
    · intro hscorable
      obtain ⟨carts, hcarts⟩ : ∃ carts, evaluateFrom env request 0 (ExhaustiveSearch.product
          ((request.items.map (candidatesOf research)).map (·.take 5))) = .ok carts := by
        refine (evaluateFrom_ok_iff 0 _).mpr fun combination hmem hwithin => ?_
        have hcombination : Combination request research combination :=
          ⟨hrequested, mem_combinations_iff.mp hmem⟩
        exact (exists_score_iff hcombination.ne_nil).mpr
          (hscorable combination hcombination hwithin)
      exact ⟨_, Exceptions.seq_eq_ok_iff.mpr ⟨carts, hcarts, rfl⟩⟩

/-- **The optimizer returns what the search is for exactly when every combination
    within the limits is scorable.** -/
theorem optimizes_iff (env : CartEnvironment) (request : ShoppingRequest)
    (research : CartResearchResult) :
    (∃ result, optimizeCart env request research = .ok result ∧ Optimal request research result)
      ↔ ∀ combination, Combination request research combination → Within request combination →
        Scorable request combination := by
  rw [← @exists_ok_iff env]
  exact exists_congr fun _ => and_iff_left_of_imp optimal_of_ok

/-! ## The capability of a cart

    A cart is as good as the worst of its items.  The chain of tests looks for two
    of the three capabilities that can be the worst one: where no item can only be
    discovered, nothing asks for one that is not supported. -/

/-- How far a checkout gets. -/
def rank : CheckoutCapability → Nat
  | .verifiedApi => 3
  | .checkoutHandoff => 2
  | .discoveryOnly => 1
  | .unsupported => 0

/-- There is a checkout of the item. -/
def CanCheckOut (capability : CheckoutCapability) : Prop :=
  capability = .verifiedApi ∨ capability = .checkoutHandoff

/-- The capability of one of the items, and of none a lower one. -/
structure IsWeakest (capability : CheckoutCapability) (capabilities : List CheckoutCapability) :
    Prop where
  mem   : capability ∈ capabilities
  least : ∀ other ∈ capabilities, rank capability ≤ rank other

/-- What a cart may say of its checkout. -/
structure Presentable (cart : CartCandidate) : Prop where
  weakest  : IsWeakest cart.checkoutCapability (cart.items.map (·.checkoutCapability))
  withheld : (∃ item ∈ cart.items, ¬ CanCheckOut item.checkoutCapability) →
    ¬ CanCheckOut cart.checkoutCapability

theorem rank_lt_two_iff {capability : CheckoutCapability} :
    rank capability < 2 ↔ ¬ CanCheckOut capability := by
  cases capability <;> simp [rank, CanCheckOut]

theorem compositeCapability_ne_unsupported (capabilities : List CheckoutCapability) :
    compositeCapability capabilities ≠ .unsupported := by
  rw [compositeCapability]
  split
  · simp
  · split <;> simp

/-- **The chain of tests finds the weakest capability** unless something is not
    supported. -/
theorem isWeakest_compositeCapability {capabilities : List CheckoutCapability}
    (hne : capabilities ≠ []) (hsupported : CheckoutCapability.unsupported ∉ capabilities) :
    IsWeakest (compositeCapability capabilities) capabilities := by
  have hpos : ∀ other ∈ capabilities, 1 ≤ rank other := by
    intro other hother
    cases other <;> first | exact absurd hother hsupported | simp [rank]
  rw [compositeCapability]
  by_cases hdiscovery : CheckoutCapability.discoveryOnly ∈ capabilities
  · rw [if_pos (by simpa using hdiscovery)]
    exact ⟨hdiscovery, hpos⟩
  · rw [if_neg (by simpa using hdiscovery)]
    have htwo : ∀ other ∈ capabilities, 2 ≤ rank other := by
      intro other hother
      have hone := hpos other hother
      cases other <;> first | exact absurd hother hdiscovery | simp [rank] at hone ⊢
    by_cases hhandoff : CheckoutCapability.checkoutHandoff ∈ capabilities
    · rw [if_pos (by simpa using hhandoff)]
      exact ⟨hhandoff, htwo⟩
    · rw [if_neg (by simpa using hhandoff)]
      -- nothing is left but the strongest one
      have hall : ∀ other ∈ capabilities, other = .verifiedApi := by
        intro other hother
        have htwo := htwo other hother
        cases other <;> first | rfl | exact absurd hother hhandoff | simp [rank] at htwo
      obtain ⟨first, rest, rfl⟩ := List.exists_cons_of_ne_nil hne
      constructor
      · rw [← hall first List.mem_cons_self]
        exact List.mem_cons_self
      · intro other hother
        rw [hall other hother]

/-- **A cart is presentable exactly when all its items are supported.** -/
theorem presentable_iff {cart : CartCandidate} {cartId : String} {score : Rat}
    (hcart : cart = candidateOf cartId request cart.items score) (hne : cart.items ≠ []) :
    Presentable cart ↔ ∀ item ∈ cart.items, item.checkoutCapability ≠ .unsupported := by
  have hcapability : cart.checkoutCapability = capabilityOf cart.items := by
    rw [hcart]
    rfl
  rw [capabilityOf] at hcapability
  constructor
  · intro hpresentable item hitem hunsupported
    have hleast := hpresentable.weakest.least _ (List.mem_map_of_mem hitem)
    rw [hunsupported, hcapability] at hleast
    have hcomposite := compositeCapability_ne_unsupported (cart.items.map (·.checkoutCapability))
    cases hc : compositeCapability (cart.items.map (·.checkoutCapability)) <;>
      simp [hc, rank] at hleast hcomposite
  · intro hsupported
    have hweakest : IsWeakest cart.checkoutCapability
        (cart.items.map (·.checkoutCapability)) := by
      rw [hcapability]
      refine isWeakest_compositeCapability (by simpa using hne) ?_
      simpa using hsupported
    refine ⟨hweakest, ?_⟩
    rintro ⟨item, hitem, hcannot⟩
    rw [← rank_lt_two_iff] at hcannot ⊢
    exact lt_of_le_of_lt (hweakest.least _ (List.mem_map_of_mem hitem)) hcannot

/-- **The carts that are returned are presentable exactly when no combination within
    the limits has an unsupported item.** -/
theorem composite_weakest_iff {result : CartOptimizationResult}
    (hok : optimizeCart env request research = .ok result) :
    (∀ cart ∈ result.feasibleCarts, Presentable cart)
      ↔ ∀ combination, Combination request research combination → Within request combination →
        ∀ item ∈ combination, item.checkoutCapability ≠ .unsupported := by
  have hoptimal := optimal_of_ok hok
  have hcart : ∀ cart ∈ result.feasibleCarts, Presentable cart
      ↔ ∀ item ∈ cart.items, item.checkoutCapability ≠ .unsupported := by
    intro cart hcart
    have hcombination := ((hoptimal.exact cart.items).mp ⟨cart, hcart, rfl⟩).1
    exact presentable_iff (hoptimal.made cart hcart).2 hcombination.ne_nil
  constructor
  · intro hpresentable combination hcombination hwithin
    obtain ⟨cart, hmem, rfl⟩ := (hoptimal.exact combination).mpr ⟨hcombination, hwithin⟩
    exact (hcart cart hmem).mp (hpresentable cart hmem)
  · intro hsupported cart hmem
    obtain ⟨hcombination, hwithin⟩ := (hoptimal.exact cart.items).mp ⟨cart, hmem, rfl⟩
    exact (hcart cart hmem).mpr (hsupported cart.items hcombination hwithin)

end CartOptimizer

/-! Nothing of one item, for nothing. -/

namespace SampleCart

def pens : CanonicalProduct where
  productId := "prod_pens"
  title := "Pens"
  brand := "UNKNOWN"
  description := ""
  category := "general"
  pricePaise := 2500
  currency := "INR"
  availability := "AVAILABLE"
  merchantName := "Cafe Acme"
  merchantDomain := "cafeacme.local"
  productUrl := "https://cafeacme.local/pens"
  imageUrl := none
  sourceProvider := "cafe_acme"
  retrievedAt := "1970-01-01T00:00:00+00:00"
  evidenceHash := "a4a931a242d11dc7d324e938998260259a141ca550dde4f5fe1b1dfb84457a41"
  verificationStatus := "PRODUCT_VERIFIED"
  checkoutCapability := .verifiedApi
  priceSource := "UNKNOWN"
  isLive := true

def request : ShoppingRequest where
  requestId := "shop_req_1"
  items := [⟨"pens", 0⟩]
  totalBudgetPaise := 0
  maxMerchantCount := 3
  optimizationStrategy := .bestValue

def research : CartResearchResult := ⟨OrderedMap.empty.set "pens" [pens]⟩

def env : CartEnvironment := ⟨0, fun _ => "0123456789abcdef0123456789abcdef"⟩

end SampleCart

open SampleCart CartOptimizer in
/-- There is a combination within the limits, and the optimizer raises. -/
theorem nothing_raises :
    Combination request research [pens] ∧ CartOptimizer.Within request [pens]
    ∧ optimizeCart env request research
      = .error (.zeroDivisionError "float division by zero")
    ∧ ¬ ∃ result, optimizeCart env request research = .ok result
      ∧ Optimal request research result := by
  have hraises : optimizeCart env request research
      = .error (.zeroDivisionError "float division by zero") := by rfl
  refine ⟨⟨by decide, ?_⟩, by decide, hraises, ?_⟩
  · exact List.forall₂_cons.mpr ⟨by decide, List.Forall₂.nil⟩
  · rintro ⟨result, hok, -⟩
    rw [hraises] at hok
    cases hok

/-! One pack of pens, at a merchant without a checkout. -/

namespace SampleCart

def unsupportedPens : CanonicalProduct :=
  { pens with productId := "prod_unsupported_pens", checkoutCapability := .unsupported }

def onePack : ShoppingRequest :=
  { request with items := [⟨"pens", 1⟩], totalBudgetPaise := 10000 }

def unsupportedResearch : CartResearchResult :=
  ⟨OrderedMap.empty.set "pens" [unsupportedPens]⟩

end SampleCart

open SampleCart CartOptimizer in
/-- Whatever the only candidate is, a pack of it at 25 rupees is scorable. -/
theorem SampleCart.onePack_ok {research : CartResearchResult} {product : CanonicalProduct}
    (hprice : product.pricePaise = 2500)
    (hfound : candidatesOf research ⟨"pens", 1⟩ = [product]) :
    Combination onePack research [product] ∧ CartOptimizer.Within onePack [product]
      ∧ ∃ result, optimizeCart env onePack research = .ok result := by
  have hcost : (costOf onePack [product]).totalKnownCostPaise = 2500 := by
    simp [costOf, CartCostEngine.calculateCartCost, quantitiesOf, onePack, hprice]
  have hlimit : 10000 < Binary64.limit := by decide +kernel
  have hchosen : Combination onePack research [product] := by
    refine ⟨by simp [onePack], List.forall₂_cons.mpr ⟨?_, List.Forall₂.nil⟩⟩
    rw [hfound]
    simp
  refine ⟨hchosen, ⟨?_, ?_⟩, exists_ok_iff.mpr ?_⟩
  · rw [hcost]
    decide
  · simp [merchantDomainsOf, onePack, request]
  · rintro combination ⟨-, hall⟩ -
    obtain ⟨only, rest, hmem, hrest, rfl⟩ := List.forall₂_cons_right_iff.mp hall
    obtain rfl := List.forall₂_nil_right_iff.mp hrest
    rw [hfound] at hmem
    obtain rfl : only = product := by simpa using hmem
    constructor
    · decide
    · exact hlimit
    · rw [hcost]
      exact lt_trans (by decide) hlimit

open SampleCart CartOptimizer in
theorem composite_weakest_onePack :
    ∃ result, optimizeCart env onePack research = .ok result
      ∧ ((∀ cart ∈ result.feasibleCarts, Presentable cart)
        ↔ ∀ combination, Combination onePack research combination →
          CartOptimizer.Within onePack combination →
          ∀ item ∈ combination, item.checkoutCapability ≠ .unsupported) := by
  obtain ⟨-, -, result, hok⟩ := @onePack_ok research pens rfl rfl
  exact ⟨result, hok, composite_weakest_iff hok⟩

open SampleCart CartOptimizer in
/-- The only cart has nothing in it that can be checked out, and is presented as one
    with a verified checkout. -/
theorem unsupported_presented :
    ∃ result, optimizeCart env onePack unsupportedResearch = .ok result
      ∧ ∃ cart ∈ result.feasibleCarts, cart.items = [unsupportedPens]
        ∧ cart.checkoutCapability = .verifiedApi ∧ ¬ Presentable cart := by
  obtain ⟨hcombination, hwithin, result, hok⟩ :=
    @onePack_ok unsupportedResearch unsupportedPens rfl rfl
  have hoptimal := optimal_of_ok hok
  obtain ⟨cart, hmem, hitems⟩ := (hoptimal.exact _).mpr ⟨hcombination, hwithin⟩
  have hcapability : cart.checkoutCapability = .verifiedApi := by
    rw [(hoptimal.made cart hmem).2, hitems]
    rfl
  refine ⟨result, hok, cart, hmem, hitems, hcapability, ?_⟩
  intro hpresentable
  have hleast := hpresentable.weakest.least
  rw [hitems, hcapability] at hleast
  exact absurd (hleast .unsupported List.mem_cons_self) (by decide)

end MandateGateway
