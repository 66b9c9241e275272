import MandateGateway.Authorization.ControlResults
import MandateGateway.Lib.HashChain
import MandateGateway.Lib.JsonRoundTrip
import MandateGateway.Policy.Records
import Mathlib.Data.List.Forall2
import Mathlib.Data.List.Sort

/-! # The cart integrity verifier

    A cart is compared with the one that was authorized by the digests of their
    canonical contents.  The verifier takes the digest that a cart carries for
    the one of its contents, as it is written on the authorized side and in
    lower case on the other, and computes one only where none is carried.

    The route:
    * `verify_valid_iff`, which pairs are accepted, whatever the carts carry;
    * `sound_iff` and `complete_iff`, when that is right in each direction: no
      carried hash may hide a difference, and none may spoil an agreement;
    * `verify_valid_iff_of_own`, carts that carry their own hash or none;
    * `cartMismatches_eq_nil_iff`, what the reported mismatches say. -/

namespace MandateGateway

open Clock

/-! ## Digests -/

/-- A digit of a SHA-256 text. -/
def isLowerHex (c : Char) : Bool :=
  (48 ≤ c.toNat && c.toNat ≤ 57) || (97 ≤ c.toNat && c.toNat ≤ 102)

/-- A character of the class `[a-fA-F0-9]`. -/
def isHexDigit (c : Char) : Bool := isLowerHex c || (65 ≤ c.toNat && c.toNat ≤ 70)

theorem digits_of_all {digest : String} {n : Nat} (hlength : digest.toList.length = n)
    (hall : digest.toList.all isLowerHex = true) :
    digest.toList.length = n ∧ ∀ c ∈ digest.toList, isLowerHex c = true :=
  ⟨hlength, List.all_eq_true.mp hall⟩

/-- `hashlib.sha256(text).hexdigest()`: 64 digits in lower case. -/
structure Sha256 where
  hexdigest : String → String
  digits    : ∀ text, (hexdigest text).toList.length = 64
    ∧ ∀ c ∈ (hexdigest text).toList, isLowerHex c = true

/-- `_is_valid_hex64`: the pattern's `$` also stands before a final line feed. -/
def isValidHex64 (s : String) : Bool :=
  let digits := if s.toList.getLast? = some '\n' then s.toList.dropLast else s.toList
  digits.length == 64 && digits.all isHexDigit

theorem range_of_isLowerHex {c : Char} (h : isLowerHex c = true) :
    (48 ≤ c.toNat ∧ c.toNat ≤ 57) ∨ (97 ≤ c.toNat ∧ c.toNat ≤ 102) := by
  simpa [isLowerHex] using h

theorem isSpace_of_isLowerHex {c : Char} (h : isLowerHex c = true) : Text.isSpace c = false := by
  have hrange := range_of_isLowerHex h
  simp only [Text.isSpace, Bool.or_eq_false_iff, Bool.and_eq_false_iff, decide_eq_false_iff_not,
    beq_eq_false_iff_ne]
  omega

theorem lowerChar_of_lowerHex {c : Char} (h : isLowerHex c = true) :
    c.toNat ≠ 0x3A3 ∧ Text.lowerChar c = [c] := by
  have hrange := range_of_isLowerHex h
  have hsame : c.toLower = c := by
    refine dif_neg ?_
    rintro ⟨hge, hle⟩
    have hge' : 65 ≤ c.toNat := UInt32.le_iff_toNat_le.mp hge
    have hle' : c.toNat ≤ 90 := UInt32.le_iff_toNat_le.mp hle
    omega
  have hascii : c.toNat < 128 := by omega
  refine ⟨by omega, ?_⟩
  rw [Text.lowerChar, if_pos hascii, hsame]

theorem lowerChars_of_lowerHex {cs : List Char} (h : ∀ c ∈ cs, isLowerHex c = true) :
    ∀ seen, Text.lowerChars seen cs = cs := by
  induction cs with
  | nil => exact fun _ => rfl
  | cons c cs ih =>
      intro seen
      obtain ⟨hc, hcs⟩ := List.forall_mem_cons.mp h
      obtain ⟨hsigma, hlower⟩ := lowerChar_of_lowerHex hc
      rw [Text.lowerChars, if_neg hsigma, hlower, ih hcs]
      rfl

namespace Sha256

theorem hexdigest_ne_empty (sha : Sha256) (text : String) : sha.hexdigest text ≠ "" := by
  intro h
  have hlength := (sha.digits text).1
  rw [h] at hlength
  exact absurd hlength (by decide)

theorem lower_hexdigest (sha : Sha256) (text : String) :
    Text.lower (sha.hexdigest text) = sha.hexdigest text := by
  rw [Text.lower, lowerChars_of_lowerHex (sha.digits text).2, String.ofList_toList]

theorem strip_hexdigest (sha : Sha256) (text : String) :
    Text.strip (sha.hexdigest text) = sha.hexdigest text := by
  refine Text.strip_eq_self ?_
  intro c hc
  exact isSpace_of_isLowerHex ((sha.digits text).2 c hc)

theorem isValidHex64_hexdigest (sha : Sha256) (text : String) :
    isValidHex64 (sha.hexdigest text) = true := by
  obtain ⟨hlength, hdigits⟩ := sha.digits text
  have hlast : (sha.hexdigest text).toList.getLast? ≠ some '\n' := by
    intro h
    have hfeed := hdigits _ (List.mem_of_getLast? h)
    exact absurd hfeed (by decide)
  have hall : (sha.hexdigest text).toList.all isHexDigit = true := by
    rw [List.all_eq_true]
    intro c hc
    rw [isHexDigit, hdigits c hc, Bool.true_or]
  rw [isValidHex64, if_neg hlast, hlength, hall]
  rfl

end Sha256

/-! ## Canonical contents -/

/-- `_canonical_item`. -/
def CartItem.canonical (item : CartItem) : Json :=
  .obj [
    ("category", .str (Text.lower (Text.strip item.category))),
    ("merchant_id", .str item.merchantId),
    ("product_id", .str item.productId),
    ("quantity", .int item.quantity),
    ("unit_price_paise", .int item.unitPricePaise)]

/-- `sorted(items, key=lambda i: i.product_id)`. -/
def sortedItems (items : List CartItem) : List CartItem :=
  items.insertionSort fun i j => i.productId ≤ j.productId

namespace Cart

/-- The object that `compute_cart_hash` serializes. -/
def canonical (cart : Cart) : Json :=
  .obj [
    ("currency", .str cart.currency.value),
    ("items", .arr ((sortedItems cart.items).map CartItem.canonical)),
    ("mandate_id", .str cart.mandateId),
    ("merchant_id", .str cart.merchantId),
    ("shipping_paise", .int cart.shippingPaise),
    ("tax_paise", .int cart.taxPaise),
    ("total_paise", .int cart.totalPaise)]

def computeCartObjectHash (sha : Sha256) (cart : Cart) : String :=
  sha.hexdigest cart.canonical.compact

/-- `build_cart_with_hash`: the cart of these fields, with its own hash. -/
def buildCartWithHash (sha : Sha256) (fields : Cart) : Cart :=
  { fields with cartHash := fields.computeCartObjectHash sha }

/-- What the verifier takes for the hash of a cart. -/
def standingHash (sha : Sha256) (cart : Cart) : String :=
  if cart.cartHash ≠ "" then cart.cartHash else cart.computeCartObjectHash sha

end Cart

/-- What a cart is compared with: another cart, or a hash. -/
inductive AuthorizedCart where
  | cart (c : Cart)
  | hash (text : String)

namespace CartIntegrityVerifier

/-! ## The verifier -/

def expectedHash (sha : Sha256) : AuthorizedCart → String
  | .cart a => a.standingHash sha
  | .hash text => Text.lower (Text.strip text)

def currentHash (sha : Sha256) (current : Cart) : String := Text.lower (current.standingHash sha)

/-- A mismatch, where there is one. -/
def mismatch (differ : Prop) [Decidable differ] (name : String) : List String :=
  if differ then [name] else []

/-- The mismatches of two line items at the same place. -/
def itemMismatches (pair : CartItem × CartItem) : List String :=
  let a := pair.1
  let c := pair.2
  mismatch (a.productId ≠ c.productId) ("product_id_mismatch:" ++ c.productId)
    ++ mismatch (a.quantity ≠ c.quantity) ("quantity_mismatch:" ++ c.productId)
    ++ mismatch (a.unitPricePaise ≠ c.unitPricePaise) ("unit_price_mismatch:" ++ c.productId)
    ++ mismatch (Text.lower (Text.strip a.category) ≠ Text.lower (Text.strip c.category))
      ("category_mismatch:" ++ c.productId)

def itemsMismatches (a c : Cart) : List String :=
  let authorized := sortedItems a.items
  let current := sortedItems c.items
  if authorized.length ≠ current.length then ["item_count_mismatch"]
  else (authorized.zip current).flatMap itemMismatches

/-- The field mismatches of two carts, in the order in which they are found. -/
def cartMismatches (a c : Cart) : List String :=
  mismatch (a.merchantId ≠ c.merchantId) "merchant_id_mismatch"
    ++ mismatch (a.mandateId ≠ c.mandateId) "mandate_id_mismatch"
    ++ mismatch (a.currency ≠ c.currency) "currency_mismatch"
    ++ mismatch (a.taxPaise ≠ c.taxPaise) "tax_paise_mismatch"
    ++ mismatch (a.shippingPaise ≠ c.shippingPaise) "shipping_paise_mismatch"
    ++ mismatch (a.totalPaise ≠ c.totalPaise) "total_paise_mismatch"
    ++ itemsMismatches a c

def fieldMismatches (authorized : AuthorizedCart) (current : Cart) : List String :=
  match authorized with
  | .cart a => cartMismatches a current
  | .hash _ => ["hash_mismatch"]

def rejectionReason (mismatches : List String) : RejectionReason :=
  if "merchant_id_mismatch" ∈ mismatches then .merchantMismatch
  else if "currency_mismatch" ∈ mismatches then .cartCurrencyMismatch
  else if "total_paise_mismatch" ∈ mismatches then .cartTotalMismatch
  else .cartIntegrityViolation

/-- `verify`; the clock is read where no time is given. -/
def verify (sha : Sha256) (authorized : AuthorizedCart) (current : Cart) (at' : Option Instant)
    (now : Instant) : CartIntegrityResult :=
  let evalTime := at'.getD now
  let expected := expectedHash sha authorized
  if isValidHex64 expected = false then
    ⟨false, expected, "", some .cartIntegrityViolation,
      some "Authorized cart hash is missing or malformed.", ["malformed_authorized_hash"],
      evalTime⟩
  else if isValidHex64 (currentHash sha current) = false then
    ⟨false, expected, currentHash sha current, some .cartIntegrityViolation,
      some "Current cart canonical hash is malformed.", ["malformed_current_hash"], evalTime⟩
  else if expected = currentHash sha current then
    ⟨true, expected, currentHash sha current, none, none, [], evalTime⟩
  else
    let mismatches := fieldMismatches authorized current
    ⟨false, expected, currentHash sha current, some (rejectionReason mismatches),
      some ("Cart integrity verification failed. Field mismatches: "
        ++ ", ".intercalate mismatches ++ "."), mismatches, evalTime⟩

def verifyCartIntegrity (sha : Sha256) (cart : Cart) (approvedHash : String) (now : Instant) :
    Bool :=
  (verify sha (.hash approvedHash) cart none now).valid

/-! ## What is accepted -/

variable {sha : Sha256} {authorized : AuthorizedCart} {a current : Cart} {at' : Option Instant}
  {now : Instant}

/-- **A pair is accepted exactly when the two hashes are the same well-formed digits.** -/
theorem verify_valid_iff :
    (verify sha authorized current at' now).valid = true
      ↔ isValidHex64 (expectedHash sha authorized) = true
        ∧ expectedHash sha authorized = currentHash sha current := by
  rw [verify]
  dsimp only
  by_cases hexpected : isValidHex64 (expectedHash sha authorized) = false
  · rw [if_pos hexpected, hexpected]
    exact ⟨nofun, fun h => nomatch h.1⟩
  rw [if_neg hexpected]
  have hvalid := eq_true_of_ne_false hexpected
  by_cases hcurrent : isValidHex64 (currentHash sha current) = false
  · rw [if_pos hcurrent]
    refine ⟨nofun, ?_⟩
    rintro ⟨-, hsame⟩
    rw [← hsame, hvalid] at hcurrent
    cases hcurrent
  rw [if_neg hcurrent]
  by_cases hsame : expectedHash sha authorized = currentHash sha current
  · rw [if_pos hsame]
    exact ⟨fun _ => ⟨hvalid, hsame⟩, fun _ => rfl⟩
  · rw [if_neg hsame]
    exact ⟨nofun, fun h => absurd h.2 hsame⟩

theorem standingHash_of_carried {c : Cart} (h : c.cartHash ≠ "") :
    c.standingHash sha = c.cartHash :=
  if_pos h

theorem standingHash_of_none {c : Cart} (h : c.cartHash = "") :
    c.standingHash sha = c.computeCartObjectHash sha :=
  if_neg (not_not_intro h)

theorem currentHash_of_carried (h : current.cartHash ≠ "") :
    currentHash sha current = Text.lower current.cartHash := by
  rw [currentHash, standingHash_of_carried h]

theorem currentHash_of_none (h : current.cartHash = "") :
    currentHash sha current = current.computeCartObjectHash sha := by
  rw [currentHash, standingHash_of_none h]
  exact sha.lower_hexdigest _

theorem expectedHash_of_none (sha : Sha256) (h : a.cartHash = "") :
    expectedHash sha (.cart a) = a.computeCartObjectHash sha
      ∧ isValidHex64 (expectedHash sha (.cart a)) = true := by
  have hsame : expectedHash sha (.cart a) = a.computeCartObjectHash sha := standingHash_of_none h
  exact ⟨hsame, hsame ▸ sha.isValidHex64_hexdigest _⟩

/-! ## What is right to accept -/

/-- The hash that was authorized: what a cart carries does not count. -/
def authorizedHash (sha : Sha256) : AuthorizedCart → String
  | .cart a => a.computeCartObjectHash sha
  | .hash text => Text.lower (Text.strip text)

/-- An accepted cart has the contents that were authorized. -/
def Sound (sha : Sha256) (authorized : AuthorizedCart) (current : Cart) (at' : Option Instant)
    (now : Instant) : Prop :=
  (verify sha authorized current at' now).valid = true →
    current.computeCartObjectHash sha = authorizedHash sha authorized

/-- A cart of the contents of the authorized one is accepted. -/
def Complete (sha : Sha256) (authorized : AuthorizedCart) (current : Cart) (at' : Option Instant)
    (now : Instant) : Prop :=
  ∀ a, authorized = .cart a → a.canonical = current.canonical →
    (verify sha authorized current at' now).valid = true

/-- The current cart has other contents than were authorized, and a hash that
    one of the carts carries hides it. -/
def Hidden (sha : Sha256) (authorized : AuthorizedCart) (current : Cart) : Prop :=
  match authorized with
  | .hash text =>
      let approved := Text.lower (Text.strip text)
      current.computeCartObjectHash sha ≠ approved ∧ isValidHex64 approved = true
        ∧ current.cartHash ≠ "" ∧ Text.lower current.cartHash = approved
  | .cart a =>
      a.computeCartObjectHash sha ≠ current.computeCartObjectHash sha
        ∧ (a.cartHash = "" ∧ current.cartHash ≠ ""
            ∧ Text.lower current.cartHash = a.computeCartObjectHash sha
          ∨ a.cartHash ≠ "" ∧ current.cartHash = ""
            ∧ a.cartHash = current.computeCartObjectHash sha
          ∨ a.cartHash ≠ "" ∧ current.cartHash ≠ ""
            ∧ isValidHex64 a.cartHash = true ∧ a.cartHash = Text.lower current.cartHash)

/-- The two carts have the same contents, and a hash that one of them carries
    is not the one that stands for the other. -/
def Spoiled (sha : Sha256) (authorized : AuthorizedCart) (current : Cart) : Prop :=
  match authorized with
  | .hash _ => False
  | .cart a =>
      a.canonical = current.canonical
        ∧ (a.cartHash = "" ∧ current.cartHash ≠ ""
            ∧ Text.lower current.cartHash ≠ current.computeCartObjectHash sha
          ∨ a.cartHash ≠ "" ∧ current.cartHash = ""
            ∧ a.cartHash ≠ a.computeCartObjectHash sha
          ∨ a.cartHash ≠ "" ∧ current.cartHash ≠ ""
            ∧ (isValidHex64 a.cartHash = false ∨ a.cartHash ≠ Text.lower current.cartHash))

/-! ## By what the two carts carry -/

theorem valid_of_neither (ha : a.cartHash = "") (hc : current.cartHash = "") :
    (verify sha (.cart a) current at' now).valid = true
      ↔ a.computeCartObjectHash sha = current.computeCartObjectHash sha := by
  obtain ⟨hexpected, hvalid⟩ := expectedHash_of_none sha ha
  rw [verify_valid_iff, currentHash_of_none hc, ← hexpected]
  exact ⟨And.right, fun h => ⟨hvalid, h⟩⟩

theorem valid_of_current (ha : a.cartHash = "") (hc : current.cartHash ≠ "") :
    (verify sha (.cart a) current at' now).valid = true
      ↔ Text.lower current.cartHash = a.computeCartObjectHash sha := by
  obtain ⟨hexpected, hvalid⟩ := expectedHash_of_none sha ha
  rw [verify_valid_iff, currentHash_of_carried hc, ← hexpected]
  exact ⟨fun h => h.2.symm, fun h => ⟨hvalid, h.symm⟩⟩

theorem valid_of_both (ha : a.cartHash ≠ "") (hc : current.cartHash ≠ "") :
    (verify sha (.cart a) current at' now).valid = true
      ↔ isValidHex64 a.cartHash = true ∧ a.cartHash = Text.lower current.cartHash := by
  have hexpected : expectedHash sha (.cart a) = a.cartHash := standingHash_of_carried ha
  rw [verify_valid_iff, currentHash_of_carried hc, hexpected]

theorem valid_of_authorized (ha : a.cartHash ≠ "") (hc : current.cartHash = "") :
    (verify sha (.cart a) current at' now).valid = true
      ↔ a.cartHash = current.computeCartObjectHash sha := by
  have hexpected : expectedHash sha (.cart a) = a.cartHash := standingHash_of_carried ha
  rw [verify_valid_iff, currentHash_of_none hc, hexpected]
  constructor
  · exact And.right
  · intro h
    refine ⟨?_, h⟩
    rw [h]
    exact sha.isValidHex64_hexdigest _

theorem imp_eq_iff {p : Prop} {x y : String} : (p → y = x) ↔ ¬ (¬ x = y ∧ p) := by
  rw [and_comm, not_and_not_right, eq_comm (a := x)]

/-- **What is accepted has the contents that were authorized exactly where no
    carried hash hides that it has others.** -/
theorem sound_iff : Sound sha authorized current at' now ↔ ¬ Hidden sha authorized current := by
  cases authorized with
  | hash text =>
      rw [Sound, Hidden, verify_valid_iff]
      dsimp only [expectedHash, authorizedHash]
      by_cases hc : current.cartHash = ""
      · rw [currentHash_of_none hc]
        exact ⟨fun _ h => h.2.2.1 hc, fun _ h => h.2.symm⟩
      · rw [currentHash_of_carried hc]
        constructor
        · rintro hsound ⟨hother, hvalid, -, hcarried⟩
          exact hother (hsound ⟨hvalid, hcarried.symm⟩)
        · rintro hnot ⟨hvalid, hcarried⟩
          by_contra hother
          exact hnot ⟨hother, hvalid, hc, hcarried.symm⟩
  | cart a =>
      rw [Sound, Hidden]
      dsimp only [authorizedHash]
      by_cases ha : a.cartHash = "" <;> by_cases hc : current.cartHash = ""
      · rw [valid_of_neither ha hc]
        exact ⟨fun _ h => h.2.elim (fun h => h.2.1 hc)
          fun h => h.elim (fun h => h.1 ha) fun h => h.1 ha, fun _ h => h.symm⟩
      · rw [valid_of_current ha hc]
        simp only [ha, hc, ne_eq, not_true_eq_false, not_false_eq_true, true_and, false_and,
          or_false]
        exact imp_eq_iff
      · rw [valid_of_authorized ha hc]
        simp only [ha, hc, ne_eq, not_true_eq_false, not_false_eq_true, true_and, false_and,
          and_false, false_or, or_false]
        exact imp_eq_iff
      · rw [valid_of_both ha hc]
        simp only [ha, hc, ne_eq, not_false_eq_true, true_and, false_and, false_or]
        exact imp_eq_iff

/-- **Carts of the same contents are accepted exactly where no carried hash
    spoils it.** -/
theorem complete_iff :
    Complete sha authorized current at' now ↔ ¬ Spoiled sha authorized current := by
  cases authorized with
  | hash text => exact ⟨fun _ h => h, fun _ _ h => nomatch h⟩
  | cart a =>
      have hcart : Complete sha (.cart a) current at' now
          ↔ (a.canonical = current.canonical →
            (verify sha (.cart a) current at' now).valid = true) := by
        constructor
        · exact fun h => h a rfl
        · rintro h b hb
          obtain rfl := AuthorizedCart.cart.inj hb
          exact h
      rw [hcart, Spoiled, not_and]
      refine imp_congr_right fun hsame => ?_
      have hhash : a.computeCartObjectHash sha = current.computeCartObjectHash sha := by
        rw [Cart.computeCartObjectHash, hsame]
        rfl
      by_cases ha : a.cartHash = "" <;> by_cases hc : current.cartHash = ""
      · rw [valid_of_neither ha hc]
        simp only [ha, hc, hhash, ne_eq, not_true_eq_false, false_and, and_false, or_false,
          not_false_eq_true]
      · rw [valid_of_current ha hc]
        simp only [ha, hc, hhash, ne_eq, not_true_eq_false, not_false_eq_true, true_and,
          false_and, or_false, not_not]
      · rw [valid_of_authorized ha hc]
        simp only [ha, hc, hhash, ne_eq, not_true_eq_false, not_false_eq_true, true_and,
          false_and, and_false, false_or, or_false, not_not]
      · rw [valid_of_both ha hc]
        simp only [ha, hc, ne_eq, not_false_eq_true, true_and, false_and, false_or, not_or,
          Bool.not_eq_false, not_not]

/-- **The verifier judges right exactly where no carried hash hides a difference
    or spoils an agreement.** -/
theorem verify_right_iff (sha : Sha256) (authorized : AuthorizedCart) (current : Cart)
    (at' : Option Instant) (now : Instant) :
    Sound sha authorized current at' now ∧ Complete sha authorized current at' now
      ↔ ¬ Hidden sha authorized current ∧ ¬ Spoiled sha authorized current :=
  and_congr sound_iff complete_iff

namespace Sample

def item (quantity : Int) (h : 1 ≤ quantity) : CartItem where
  productId := "book-17"
  merchantId := "bookshop-4"
  name := "Atlas"
  category := "maps"
  quantity := quantity
  unitPricePaise := 12500
  currency := .inr
  productId_ne := by decide
  name_bounded := by decide
  category_bounded := by decide
  quantity_pos := h
  price_nonneg := by decide

def cart (quantity : Int) (h : 1 ≤ quantity) (carried : String) : Cart where
  cartId := "cart-92"
  merchantId := "bookshop-4"
  mandateId := "mandate-92"
  currency := .inr
  items := [item quantity h]
  taxPaise := 2700
  shippingPaise := 1900
  totalPaise := quantity * 12500 + 4600
  createdAt := 1709210096000000
  cartHash := carried
  merchantId_ne := by decide
  mandateId_ne := by decide
  items_ne := List.cons_ne_nil _ _
  items_match := by
    intro i hi
    obtain rfl := List.mem_singleton.mp hi
    exact ⟨rfl, rfl⟩
  tax_nonneg := by decide
  shipping_nonneg := by decide
  total_eq := by
    show quantity * 12500 + 4600 = quantity * 12500 + 0 + 2700 + 1900
    omega

theorem two_copies : (1 : Int) ≤ 2 := by decide

def two (carried : String) : Cart := cart 2 two_copies carried

theorem twoHundred_copies : (1 : Int) ≤ 200 := by decide

def twoHundred (carried : String) : Cart := cart 200 twoHundred_copies carried

def twoHash : String := "3b1df82569426ee7b497b3af8914188812fbb08af2a041fe2eac564516603925"

def twoHashUpper : String := "3B1DF82569426EE7B497B3AF8914188812FBB08AF2A041FE2EAC564516603925"

def twoHundredHash : String := "713893bb45ca8b33397cd46a680eb76de2eb2525b8aa7e9a08b3ba3a4029b67f"

def zeros : String := "0000000000000000000000000000000000000000000000000000000000000000"

def pick (first second : String) (text : String) : String :=
  if text = first then twoHash else if text = second then twoHundredHash else zeros

theorem pick_first (first second : String) : pick first second first = twoHash := if_pos rfl

theorem pick_second {first second : String} (h : second ≠ first) :
    pick first second second = twoHundredHash :=
  (if_neg h).trans (if_pos rfl)

theorem pick_digits (first second text : String) :
    (pick first second text).toList.length = 64
      ∧ ∀ c ∈ (pick first second text).toList, isLowerHex c = true := by
  rw [pick]
  split
  · exact digits_of_all (by decide +kernel) (by decide +kernel)
  · split <;> exact digits_of_all (by decide +kernel) (by decide +kernel)

def digests : Sha256 where
  hexdigest := pick (two "").canonical.compact (twoHundred "").canonical.compact
  digits := pick_digits _ _

theorem hexdigest_eq (text : String) :
    digests.hexdigest text
      = pick (two "").canonical.compact (twoHundred "").canonical.compact text :=
  rfl

theorem canonical_two (carried : String) : (two carried).canonical = (two "").canonical := rfl

theorem canonical_twoHundred (carried : String) :
    (twoHundred carried).canonical = (twoHundred "").canonical :=
  rfl

theorem hash_two (carried : String) : (two carried).computeCartObjectHash digests = twoHash := by
  rw [Cart.computeCartObjectHash, canonical_two, hexdigest_eq, pick_first]

theorem hash_twoHundred (carried : String) :
    (twoHundred carried).computeCartObjectHash digests = twoHundredHash := by
  have hother : (twoHundred "").canonical.compact ≠ (two "").canonical.compact := by
    intro h
    have hcanonical := Json.obj.inj (Json.compact_injective h)
    simp [two, twoHundred, cart] at hcanonical
  rw [Cart.computeCartObjectHash, canonical_twoHundred, hexdigest_eq, pick_second hother]

theorem lower_twoHash : Text.lower twoHash = twoHash := by
  have hlower := digests.lower_hexdigest (two "").canonical.compact
  rwa [hexdigest_eq, pick_first] at hlower

end Sample

/-- A cart of other contents is accepted for the hash that it carries, and one of
    the authorized contents is refused for the capital letters of the other's. -/
theorem carried_hashes_decide :
    ¬ Sound Sample.digests (.cart (Sample.two "")) (Sample.twoHundred Sample.twoHash) none 0
      ∧ ¬ Complete Sample.digests (.cart (Sample.two Sample.twoHashUpper)) (Sample.two "")
        none 0 := by
  rw [sound_iff, complete_iff, not_not, not_not]
  constructor
  · refine ⟨?_, .inl ⟨rfl, by decide, ?_⟩⟩
    · rw [Sample.hash_two, Sample.hash_twoHundred]
      decide
    · exact Sample.lower_twoHash.trans (Sample.hash_two "").symm
  · refine ⟨rfl, .inr (.inl ⟨by decide, rfl, ?_⟩)⟩
    rw [Sample.hash_two]
    decide

/-! ## Carts that carry their own hash or none -/

/-- **Two carts that carry no hash but their own are compared by their contents.** -/
theorem verify_valid_iff_of_own
    (ha : a.cartHash = "" ∨ a.cartHash = a.computeCartObjectHash sha)
    (hc : current.cartHash = "" ∨ Text.lower current.cartHash = current.computeCartObjectHash sha) :
    (verify sha (.cart a) current at' now).valid = true
      ↔ a.computeCartObjectHash sha = current.computeCartObjectHash sha := by
  have hexpected : expectedHash sha (.cart a) = a.computeCartObjectHash sha := by
    by_cases h : a.cartHash = ""
    · exact standingHash_of_none h
    · exact (standingHash_of_carried h).trans (ha.resolve_left h)
  have hcurrent : currentHash sha current = current.computeCartObjectHash sha := by
    by_cases h : current.cartHash = ""
    · exact currentHash_of_none h
    · exact (currentHash_of_carried h).trans (hc.resolve_left h)
  rw [verify_valid_iff, hexpected, hcurrent]
  exact ⟨And.right, fun h => ⟨sha.isValidHex64_hexdigest _, h⟩⟩

/-! ## The reported mismatches -/

theorem mismatch_eq_nil_iff {differ : Prop} [Decidable differ] {name : String} :
    mismatch differ name = [] ↔ ¬ differ := by
  rw [mismatch]
  by_cases h : differ
  · rw [if_pos h]
    exact ⟨nofun, fun hn => absurd h hn⟩
  · rw [if_neg h]
    exact ⟨fun _ => h, fun _ => rfl⟩

theorem itemMismatches_eq_nil_iff {i j : CartItem} (hmerchant : i.merchantId = j.merchantId) :
    itemMismatches (i, j) = [] ↔ i.canonical = j.canonical := by
  rw [itemMismatches]
  simp only [List.append_eq_nil_iff, mismatch_eq_nil_iff, not_not, CartItem.canonical,
    Json.obj.injEq, List.cons.injEq, Prod.mk.injEq, Json.str.injEq, Json.int.injEq, true_and,
    and_true, hmerchant]
  constructor
  · rintro ⟨⟨⟨hproduct, hquantity⟩, hprice⟩, hcategory⟩
    exact ⟨hcategory, hproduct, hquantity, hprice⟩
  · rintro ⟨hcategory, hproduct, hquantity, hprice⟩
    exact ⟨⟨⟨hproduct, hquantity⟩, hprice⟩, hcategory⟩

theorem map_eq_map_iff_zip {α β : Type*} {f : α → β} {xs ys : List α} :
    xs.map f = ys.map f
      ↔ xs.length = ys.length ∧ ∀ p ∈ xs.zip ys, f p.1 = f p.2 := by
  rw [← List.forall₂_eq_eq_eq, List.forall₂_map_left_iff, List.forall₂_map_right_iff,
    List.forall₂_iff_zip]
  exact and_congr_right fun _ => ⟨fun h p hp => h hp, fun h _ _ hp => h _ hp⟩

theorem merchantId_of_mem_sorted {cart : Cart} {item : CartItem}
    (h : item ∈ sortedItems cart.items) : item.merchantId = cart.merchantId :=
  (cart.items_match item ((List.mem_insertionSort _).mp h)).2

theorem itemsMismatches_eq_nil_iff (hmerchant : a.merchantId = current.merchantId) :
    itemsMismatches a current = []
      ↔ (sortedItems a.items).map CartItem.canonical
        = (sortedItems current.items).map CartItem.canonical := by
  rw [map_eq_map_iff_zip, itemsMismatches]
  by_cases hlength : (sortedItems a.items).length = (sortedItems current.items).length
  · rw [if_neg (not_not_intro hlength), List.flatMap_eq_nil_iff]
    have hpair : ∀ p ∈ (sortedItems a.items).zip (sortedItems current.items),
        (itemMismatches p = [] ↔ p.1.canonical = p.2.canonical) := by
      rintro ⟨i, j⟩ hp
      obtain ⟨hi, hj⟩ := List.of_mem_zip hp
      refine itemMismatches_eq_nil_iff ?_
      rw [merchantId_of_mem_sorted hi, merchantId_of_mem_sorted hj, hmerchant]
    exact ⟨fun h => ⟨hlength, fun p hp => (hpair p hp).mp (h p hp)⟩,
      fun h p hp => (hpair p hp).mpr (h.2 p hp)⟩
  · rw [if_pos hlength]
    exact ⟨nofun, fun h => absurd h.1 hlength⟩

theorem currency_value_injective : Function.Injective Currency.value := by
  intro c d h
  cases c <;> cases d <;> first | rfl | exact absurd h (by decide)

/-- **No mismatch is found exactly in carts of the same contents.** -/
theorem cartMismatches_eq_nil_iff :
    cartMismatches a current = [] ↔ a.canonical = current.canonical := by
  rw [cartMismatches]
  simp only [List.append_eq_nil_iff, mismatch_eq_nil_iff, not_not, Cart.canonical,
    Json.obj.injEq, List.cons.injEq, Prod.mk.injEq, Json.str.injEq, Json.int.injEq,
    Json.arr.injEq, true_and, and_true, currency_value_injective.eq_iff]
  constructor
  · rintro ⟨⟨⟨⟨⟨⟨hmerchant, hmandate⟩, hcurrency⟩, htax⟩, hshipping⟩, htotal⟩, hitems⟩
    exact ⟨hcurrency, (itemsMismatches_eq_nil_iff hmerchant).mp hitems, hmandate, hmerchant,
      hshipping, htax, htotal⟩
  · rintro ⟨hcurrency, hitems, hmandate, hmerchant, hshipping, htax, htotal⟩
    exact ⟨⟨⟨⟨⟨⟨hmerchant, hmandate⟩, hcurrency⟩, htax⟩, hshipping⟩, htotal⟩,
      (itemsMismatches_eq_nil_iff hmerchant).mpr hitems⟩

end CartIntegrityVerifier

end MandateGateway
