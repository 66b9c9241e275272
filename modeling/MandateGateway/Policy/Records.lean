import MandateGateway.Lib.Datetime
import MandateGateway.Lib.Text
import MandateGateway.Types
import Mathlib.Algebra.Order.BigOperators.Group.List
import Mathlib.Algebra.Order.Group.Int
import Mathlib.Algebra.Ring.Int.Defs
import Mathlib.Data.Finset.Image

/-! # Mandates, merchant policies and carts

    The three contracts a purchase is judged by.  Each is validated when it is
    built, and what its validation demands is a field of the record. -/

namespace MandateGateway

open Clock

/-- Explicit buyer authorization. -/
structure BuyerMandate where
  mandateId           : String
  buyerId             : String
  version             : Int
  merchantScope       : Finset String
  categoryScope       : Finset String
  allowedRegions      : Finset Region
  maximumAmountPaise  : Int
  dailyBudgetPaise    : Int
  currency            : Currency
  autonomousExecution : Bool
  issuedAt            : Instant
  expiresAt           : Instant
  status              : MandateStatus
  buyerId_ne          : buyerId ≠ ""
  version_pos         : 1 ≤ version
  maximum_nonneg      : 0 ≤ maximumAmountPaise
  daily_ge_maximum    : maximumAmountPaise ≤ dailyBudgetPaise
  issued_lt_expires   : issuedAt < expiresAt

namespace BuyerMandate

def isActive (m : BuyerMandate) (at' : Instant) : Bool :=
  m.status == .active && decide (at' < m.expiresAt)

def authorizesMerchant (m : BuyerMandate) (merchantId : String) : Bool :=
  decide (merchantId ∈ m.merchantScope)

def authorizesCategory (m : BuyerMandate) (category : String) : Bool :=
  decide (Text.lower (Text.strip category) ∈ m.categoryScope)

def authorizesAmount (m : BuyerMandate) (amountPaise : Int) : Bool :=
  decide (amountPaise ≤ m.maximumAmountPaise)

def authorizesRegion (m : BuyerMandate) (region : Region) : Bool :=
  decide (region ∈ m.allowedRegions)

end BuyerMandate

/-- Versioned commerce policy of a merchant. -/
structure MerchantPolicy where
  policyId                     : String
  merchantId                   : String
  policyVersion                : Int
  aiCommerceEnabled            : Bool
  currency                     : Currency
  allowedCategories            : Finset String
  autonomousPurchaseLimitPaise : Int
  stepUpThresholdPaise         : Int
  maxStepUpPercent             : Int
  allowedRegions               : Finset Region
  allowedOperations            : Finset McpOperation
  blockedOperations            : Finset McpOperation
  createdAt                    : Instant
  expiresAt                    : Option Instant
  merchantId_ne                : merchantId ≠ ""
  policyVersion_pos            : 1 ≤ policyVersion
  threshold_nonneg             : 0 ≤ stepUpThresholdPaise
  threshold_le_limit           : stepUpThresholdPaise ≤ autonomousPurchaseLimitPaise
  percent_nonneg               : 0 ≤ maxStepUpPercent
  percent_le                   : maxStepUpPercent ≤ 100
  operations_disjoint          : Disjoint allowedOperations blockedOperations

namespace MerchantPolicy

def isCategoryAllowed (p : MerchantPolicy) (category : String) : Bool :=
  decide (Text.lower category ∈ p.allowedCategories.image Text.lower)

def isRegionAllowed (p : MerchantPolicy) (region : Region) : Bool :=
  decide (region ∈ p.allowedRegions)

def isActive (p : MerchantPolicy) (at' : Instant) : Bool :=
  match p.expiresAt with
  | none => true
  | some expiry => decide (at' < expiry)

end MerchantPolicy

structure CartItem where
  productId       : String
  merchantId      : String
  name            : String
  category        : String
  quantity        : Int
  unitPricePaise  : Int
  currency        : Currency
  productId_ne    : productId ≠ ""
  name_bounded    : name ≠ "" ∧ name.length ≤ 500
  category_bounded : category ≠ "" ∧ category.length ≤ 100
  quantity_pos    : 1 ≤ quantity
  price_nonneg    : 0 ≤ unitPricePaise

def CartItem.subtotalPaise (item : CartItem) : Int := item.quantity * item.unitPricePaise

/-- A cart proposal. -/
structure Cart where
  cartId          : String
  merchantId      : String
  mandateId       : String
  currency        : Currency
  items           : List CartItem
  taxPaise        : Int
  shippingPaise   : Int
  totalPaise      : Int
  createdAt       : Instant
  cartHash        : String
  merchantId_ne   : merchantId ≠ ""
  mandateId_ne    : mandateId ≠ ""
  items_ne        : items ≠ []
  items_match     : ∀ item ∈ items, item.currency = currency ∧ item.merchantId = merchantId
  tax_nonneg      : 0 ≤ taxPaise
  shipping_nonneg : 0 ≤ shippingPaise
  total_eq        : totalPaise
    = (items.map CartItem.subtotalPaise).sum + taxPaise + shippingPaise

theorem CartItem.subtotalPaise_nonneg (item : CartItem) : 0 ≤ item.subtotalPaise :=
  Int.mul_nonneg (Int.le_trans (by decide) item.quantity_pos) item.price_nonneg

theorem Cart.totalPaise_nonneg (cart : Cart) : 0 ≤ cart.totalPaise := by
  have hitems : 0 ≤ (cart.items.map CartItem.subtotalPaise).sum := by
    refine List.sum_nonneg ?_
    intro x hx
    obtain ⟨item, -, rfl⟩ := List.mem_map.mp hx
    exact item.subtotalPaise_nonneg
  have htax := cart.tax_nonneg
  have hshipping := cart.shipping_nonneg
  rw [cart.total_eq]
  omega

end MandateGateway
