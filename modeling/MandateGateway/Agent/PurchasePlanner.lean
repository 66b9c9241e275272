import MandateGateway.Agent.ConfirmationGate
import MandateGateway.Agent.ProductTruth
import Mathlib.Data.List.Sort

/-! # The purchase planner

    A language model reads a request, a search answers the intent, and the candidate
    that is ranked first becomes a plan with a confirmation token, if it is among what
    was found.  Candidates are ranked by price, and nothing compares the price with what
    the intent allows.

    * `plan_cheapest`: a plan costs what the cheapest candidate does, and is within the
      budget exactly when some candidate is;
    * `boundary_formulated_iff`: when the boundary before the payment accepts a plan. -/

namespace MandateGateway

open Clock
open WideText (ofString)
open ProductTruthValidator (text price)

structure AgentRequest where
  requestId : WideText
  buyerId   : WideText
  prompt    : WideText

/-- The fields of an intent that the planner reads, as a language model fills them. -/
structure AgentIntent where
  intentType           : RawValue
  productQuery         : RawValue
  maxAmountPaise       : Int
  category             : RawValue
  currency             : RawValue
  requiresConfirmation : Bool

/-- `PurchasePlan`, as it is formulated. -/
structure FormulatedPlan where
  planId               : String
  requestId            : WideText
  merchantId           : RawValue
  buyerId              : WideText
  productId            : RawValue
  productName          : RawValue
  amountPaise          : Int
  currency             : RawValue
  productSource        : RawValue
  sourceUrl            : RawValue
  purchasePlanHash     : String
  retrievalTimestamp   : RawValue
  reasoningSummary     : WideText
  toolProvenance       : List String
  requiresConfirmation : Bool
  confirmationToken    : Option String

structure AgentDecision where
  status       : String
  purchasePlan : Option FormulatedPlan
  explanation  : WideText

/-- What ends a request: an error of a provider or a search, of the intent, of the
    validator, or of what turns values into texts and numbers. -/
inductive PlannerError (ξ : Type) where
  | provider (err : ξ)
  | invalidIntent (message : WideText)
  | conversion (err : ConversionError)
  | indexError
  | truth (err : ProductTruthError)
  | limit (err : IntentError)
  | unicodeEncodeError
  | raised (err : PyError)

/-- A language model, of which the mock ranks in its own way. -/
structure LLMProvider (ξ : Type) where
  extractIntent : WideText → Except ξ AgentIntent
  isMock        : Bool

/-- What the planner calls: the model, the live search, and the tool that searches. -/
structure PlannerWorld (ξ : Type) where
  llmProvider        : LLMProvider ξ
  searchLiveProducts : RawValue → Int → RawValue → Except ξ (List RawDict)
  searchProducts     : RawValue → Int → Except ξ (List RawDict)

variable {ξ : Type}

/-- A value between two texts. -/
def framed (opening : String) (value : WideText) (closing : String) : WideText :=
  ofString opening ++ value ++ ofString closing

/-- `value.encode("utf-8")`. -/
def encoded (value : WideText) : Except (PlannerError ξ) String :=
  match WideText.scalars? value with
  | some s => .ok s
  | none => .error .unicodeEncodeError

/-- `str(value)` in a message. -/
def shown (room : Nat) (value : RawValue) : Except (PlannerError ξ) WideText :=
  (value.toText room).mapError .limit

/-- `f"{paise / 100:.2f}"`. -/
def rupeeText (paise : Int) : Except (PlannerError ξ) WideText :=
  ((trueDiv paise 100).map fun x => ofString (x.fixed2 false)).mapError .raised

def intentTypes : List String :=
  ["PURCHASE_PRODUCT", "SEARCH_ONLY", "BUDGET_QUERY", "TRANSACTION_STATUS"]

/-- `intent.validate()`. -/
def AgentIntent.validate (room : Nat) (intent : AgentIntent) : Except (PlannerError ξ) Unit :=
  if !intent.intentType.isTruthy
      || !intentTypes.any fun t => intent.intentType.equals (text t) then do
    let value ← shown room intent.intentType
    .error (.invalidIntent (framed "Invalid or untrusted intent_type: '" value "'"))
  else if intent.maxAmountPaise ≤ 0 then do
    let value ← shown room (.int intent.maxAmountPaise)
    .error (.invalidIntent (framed "Invalid max_amount_paise: " value ". Must be positive."))
  else if !intent.currency.equals (text "INR") then do
    let value ← shown room intent.currency
    .error (.invalidIntent (framed "Unsupported currency: '" value "'. Only INR supported."))
  else .ok ()

/-! ## Ranking -/

/-- The keys of the sorting, in the order of the candidates. -/
def priced : List RawDict → Except ConversionError (List (Int × RawDict))
  | [] => .ok []
  | c :: candidates => do
      let p ← price c
      let rest ← priced candidates
      pure ((p, c) :: rest)

/-- `rank_candidates`: by price, and by the mock from the highest price down where a
    premium product is among them. -/
def LLMProvider.rankCandidates (llm : LLMProvider ξ) (candidates : List RawDict) :
    Except ConversionError (List RawDict) := do
  let keyed ← priced candidates
  let premium := candidates.any fun c =>
    (c.get "product_id" .none).equals (text "prod_premium_04")
  let sorted := if llm.isMock && premium then keyed.insertionSort fun a b => a.1 ≥ b.1
    else keyed.insertionSort fun a b => a.1 ≤ b.1
  pure (sorted.map Prod.snd)

/-! ## The plan -/

/-- `raw_hash_data`. -/
def rawHashData (room : Nat) (planId : String) (truth : TruthRecord) :
    Except (PlannerError ξ) WideText := do
  let merchantId ← shown room truth.merchantId
  let amount ← shown room (.int truth.amountPaise)
  let productId ← shown room truth.productId
  pure ((ofString "|").intercalate [ofString planId, merchantId, amount, productId])

/-- What `generate_token` joins and encodes. -/
def tokenFields (room : Nat) (request : AgentRequest) (truth : TruthRecord)
    (planHash : String) : Except (PlannerError ξ) TokenFields := do
  let merchant ← shown room truth.merchantId
  let product ← shown room truth.productId
  let source ← shown room truth.productSource
  let currency ← shown room truth.currency
  let requestId ← encoded request.requestId
  let merchantId ← encoded merchant
  let buyerId ← encoded request.buyerId
  let productId ← encoded product
  let productSource ← encoded source
  let currency ← encoded currency
  pure ⟨requestId, merchantId, buyerId, productId, productSource, truth.amountPaise, currency,
    planHash⟩

section
variable (hmac : HmacSha256) (sha : Sha256) (room : Nat) (now : Instant) (uuidHex : String)
  (gate : HumanConfirmationGate) (request : AgentRequest)

/-- `confirmation_gate.generate_token`, which computes the expiry first. -/
def issueToken (truth : TruthRecord) (planHash : String) :
    Except (PlannerError ξ) IssuedToken :=
  match addSeconds now 600 with
  | none => .error (.raised (.overflowError "date value out of range"))
  | some _ => do
      let fields ← tokenFields room request truth planHash
      (gate.generateToken hmac now fields 600).mapError .raised

/-- Steps 5 and 6: the plan of a record that was found. -/
def formulate (intent : AgentIntent) (truth : TruthRecord) :
    Except (PlannerError ξ) AgentDecision := do
  let planId := "plan_" ++ String.ofList (uuidHex.toList.take 8)
  let data ← rawHashData room planId truth
  let data ← encoded data
  let planHash := sha.hexdigest data
  let issued ← issueToken hmac room now gate request truth planHash
  let name ← shown room truth.name
  let plan : FormulatedPlan := {
    planId := planId
    requestId := request.requestId
    merchantId := truth.merchantId
    buyerId := request.buyerId
    productId := truth.productId
    productName := truth.name
    amountPaise := truth.amountPaise
    currency := truth.currency
    productSource := truth.productSource
    sourceUrl := truth.sourceUrl
    purchasePlanHash := planHash
    retrievalTimestamp := truth.retrievalTimestamp
    reasoningSummary := framed "Selected verified candidate '" name "'"
    toolProvenance := ["LiveProductSearchProvider"]
    requiresConfirmation := intent.requiresConfirmation
    confirmationToken :=
      if intent.requiresConfirmation then some issued.confirmationToken else none }
  let rupees ← rupeeText truth.amountPaise
  let source ← shown room truth.productSource
  pure ⟨if intent.requiresConfirmation then "AWAITING_CONFIRMATION" else "PLANNING", some plan,
    framed "Live purchase plan formulated for '" name "' at ₹" ++ rupees
      ++ framed " INR (Source: " source "). Awaiting explicit human confirmation."⟩

/-- Step 2: the live search, or the tool where it finds nothing. -/
def PlannerWorld.findCandidates (world : PlannerWorld ξ) (intent : AgentIntent) :
    Except ξ (List RawDict) := do
  let candidates ← world.searchLiveProducts intent.productQuery intent.maxAmountPaise
    intent.category
  if candidates = [] then world.searchProducts intent.productQuery intent.maxAmountPaise
  else pure candidates

def processRequest (world : PlannerWorld ξ) : Except (PlannerError ξ) AgentDecision := do
  let intent ← (world.llmProvider.extractIntent request.prompt).mapError .provider
  intent.validate room
  let candidates ← (world.findCandidates intent).mapError .provider
  if candidates = [] then do
    let rupees ← rupeeText intent.maxAmountPaise
    let query ← shown room intent.productQuery
    pure ⟨"REJECTED", none, framed "No matching live products found under budget ₹" rupees " INR"
      ++ framed " for query '" query "'."⟩
  else do
    let ranked ← (world.llmProvider.rankCandidates candidates).mapError .conversion
    -- `ranked[0]`; nothing compares its price with `max_amount_paise`
    match ranked with
    | [] => .error .indexError
    | selected :: _ => do
        let truth ← (ProductTruthValidator.validateRecommendation room selected
          candidates).mapError .truth
        formulate hmac sha room now uuidHex gate request intent truth

end

/-! ## The cheapest candidate -/

theorem priced_eq_ok {candidates : List RawDict} {keyed : List (Int × RawDict)}
    (h : priced candidates = .ok keyed) :
    keyed.map Prod.snd = candidates ∧ ∀ x ∈ keyed, price x.2 = .ok x.1 := by
  induction candidates generalizing keyed with
  | nil =>
      obtain rfl := Except.ok.inj h
      exact ⟨rfl, fun x hx => absurd hx List.not_mem_nil⟩
  | cons c candidates ih =>
      obtain ⟨p, hp, h⟩ := Exceptions.seq_eq_ok_iff.mp h
      obtain ⟨rest, hrest, h⟩ := Exceptions.seq_eq_ok_iff.mp h
      obtain rfl := Except.ok.inj h
      obtain ⟨hsame, hkeys⟩ := ih hrest
      exact ⟨congrArg (c :: ·) hsame, List.forall_mem_cons.mpr ⟨hp, hkeys⟩⟩

theorem rankCandidates_head {llm : LLMProvider ξ} (hprovider : llm.isMock = false)
    {candidates rest : List RawDict} {selected : RawDict}
    (h : llm.rankCandidates candidates = .ok (selected :: rest)) :
    ∃ p, price selected = .ok p ∧ selected ∈ candidates
      ∧ ∀ c ∈ candidates, ∃ q, price c = .ok q ∧ p ≤ q := by
  obtain ⟨keyed, hkeyed, h⟩ := Exceptions.seq_eq_ok_iff.mp h
  obtain ⟨hsame, hkeys⟩ := priced_eq_ok hkeyed
  have hsorted : (keyed.insertionSort fun a b => a.1 ≤ b.1).map Prod.snd = selected :: rest := by
    have hranked := Except.ok.inj h
    rwa [hprovider, Bool.false_and, if_neg Bool.false_ne_true] at hranked
  have htotal : Std.Total fun a b : Int × RawDict => a.1 ≤ b.1 := ⟨fun a b => Int.le_total a.1 b.1⟩
  have htrans : IsTrans (Int × RawDict) fun a b => a.1 ≤ b.1 :=
    ⟨fun _ _ _ hab hbc => Int.le_trans hab hbc⟩
  have hpairwise := List.pairwise_insertionSort (fun a b : Int × RawDict => a.1 ≤ b.1) keyed
  have hmem : ∀ {x}, x ∈ keyed.insertionSort (fun a b => a.1 ≤ b.1) ↔ x ∈ keyed :=
    List.mem_insertionSort _
  cases hlist : keyed.insertionSort (fun a b => a.1 ≤ b.1) with
  | nil =>
      rw [hlist] at hsorted
      cases hsorted
  | cons first others =>
      rw [hlist] at hsorted hpairwise hmem
      -- the head of a sorted list is before every other member
      obtain ⟨rfl, -⟩ := List.cons.inj hsorted
      have hfirst := hmem.mp List.mem_cons_self
      refine ⟨first.1, hkeys first hfirst, ?_, ?_⟩
      · rw [← hsame]
        exact List.mem_map_of_mem hfirst
      · intro c hc
        rw [← hsame] at hc
        obtain ⟨x, hx, rfl⟩ := List.mem_map.mp hc
        refine ⟨x.1, hkeys x hx, ?_⟩
        rcases List.mem_cons.mp (hmem.mpr hx) with rfl | hlater
        · exact Int.le_refl _
        · exact List.rel_of_pairwise_cons hpairwise hlater

/-! ## What a plan is made of -/

/-- The plan of a record that was found, with the token that is bound to it. -/
structure PlanOf (ξ : Type) (hmac : HmacSha256) (room : Nat) (gate : HumanConfirmationGate)
    (request : AgentRequest) (intent : AgentIntent) (truth : TruthRecord)
    (plan : FormulatedPlan) : Prop where
  sent     : plan.requestId = request.requestId ∧ plan.buyerId = request.buyerId
  record   : plan.merchantId = truth.merchantId ∧ plan.productId = truth.productId
    ∧ plan.productSource = truth.productSource ∧ plan.currency = truth.currency
  amount   : plan.amountPaise = truth.amountPaise
  requires : plan.requiresConfirmation = intent.requiresConfirmation
  token    : ∃ fields, (tokenFields room request truth plan.purchasePlanHash
      : Except (PlannerError ξ) TokenFields) = .ok fields
    ∧ plan.confirmationToken
      = if intent.requiresConfirmation then some (gate.token hmac fields) else none

section
variable {hmac : HmacSha256} {sha : Sha256} {room : Nat} {now : Instant} {uuidHex : String}
  {gate : HumanConfirmationGate} {request : AgentRequest} {world : PlannerWorld ξ}
  {decision : AgentDecision} {plan : FormulatedPlan}

theorem formulate_planned {intent : AgentIntent} {truth : TruthRecord}
    (h : (formulate hmac sha room now uuidHex gate request intent truth
      : Except (PlannerError ξ) AgentDecision) = .ok decision)
    (hplan : decision.purchasePlan = some plan) :
    PlanOf ξ hmac room gate request intent truth plan := by
  obtain ⟨raw, hraw, h⟩ := Exceptions.seq_eq_ok_iff.mp h
  obtain ⟨data, hdata, h⟩ := Exceptions.seq_eq_ok_iff.mp h
  obtain ⟨issued, hissued, h⟩ := Exceptions.seq_eq_ok_iff.mp h
  obtain ⟨name, hname, h⟩ := Exceptions.seq_eq_ok_iff.mp h
  obtain ⟨rupees, hrupees, h⟩ := Exceptions.seq_eq_ok_iff.mp h
  obtain ⟨source, hsource, h⟩ := Exceptions.seq_eq_ok_iff.mp h
  obtain rfl := Except.ok.inj h
  obtain rfl := Option.some.inj hplan
  refine ⟨⟨rfl, rfl⟩, ⟨rfl, rfl, rfl, rfl⟩, rfl, rfl, ?_⟩
  rw [issueToken] at hissued
  cases hexpiry : addSeconds now 600 with
  | none =>
      rw [hexpiry] at hissued
      cases hissued
  | some expiry =>
      rw [hexpiry] at hissued
      obtain ⟨fields, hfields, hissued⟩ := Exceptions.seq_eq_ok_iff.mp hissued
      have htoken := HumanConfirmationGate.generateToken_eq_ok
        (Exceptions.mapError_eq_ok_iff.mp hissued)
      exact ⟨fields, hfields, by rw [htoken.2.2]⟩

theorem processRequest_planned
    (h : processRequest hmac sha room now uuidHex gate request world = .ok decision)
    (hplan : decision.purchasePlan = some plan) :
    ∃ intent candidates selected rest truth,
      world.llmProvider.extractIntent request.prompt = .ok intent
        ∧ world.findCandidates intent = .ok candidates
        ∧ world.llmProvider.rankCandidates candidates = .ok (selected :: rest)
        ∧ ProductTruthValidator.validateRecommendation room selected candidates = .ok truth
        ∧ PlanOf ξ hmac room gate request intent truth plan := by
  obtain ⟨intent, hintent, h⟩ := Exceptions.seq_eq_ok_iff.mp h
  obtain ⟨-, h⟩ := Exceptions.seq_unit_eq_ok_iff.mp h
  obtain ⟨candidates, hcandidates, h⟩ := Exceptions.seq_eq_ok_iff.mp h
  -- a request without candidates is rejected, and has no plan
  by_cases hnone : candidates = []
  · rw [if_pos hnone] at h
    obtain ⟨rupees, hrupees, h⟩ := Exceptions.seq_eq_ok_iff.mp h
    obtain ⟨query, hquery, h⟩ := Exceptions.seq_eq_ok_iff.mp h
    obtain rfl := Except.ok.inj h
    cases hplan
  · rw [if_neg hnone] at h
    obtain ⟨ranked, hranked, h⟩ := Exceptions.seq_eq_ok_iff.mp h
    cases ranked with
    | nil => cases h
    | cons selected rest =>
        obtain ⟨truth, htruth, h⟩ := Exceptions.seq_eq_ok_iff.mp h
        exact ⟨intent, candidates, selected, rest, truth, Exceptions.mapError_eq_ok_iff.mp hintent,
          Exceptions.mapError_eq_ok_iff.mp hcandidates, Exceptions.mapError_eq_ok_iff.mp hranked,
          Exceptions.mapError_eq_ok_iff.mp htruth, formulate_planned h hplan⟩

/-- **A plan costs what the cheapest candidate does**, and is within the budget of the
    intent exactly when some candidate is. -/
theorem plan_cheapest (hprovider : world.llmProvider.isMock = false)
    (h : processRequest hmac sha room now uuidHex gate request world = .ok decision)
    (hplan : decision.purchasePlan = some plan) :
    ∃ intent candidates, world.llmProvider.extractIntent request.prompt = .ok intent
      ∧ world.findCandidates intent = .ok candidates
      ∧ (∃ c ∈ candidates, price c = .ok plan.amountPaise)
      ∧ (∀ c ∈ candidates, ∃ p, price c = .ok p ∧ plan.amountPaise ≤ p)
      ∧ (plan.amountPaise ≤ intent.maxAmountPaise
        ↔ ∃ c ∈ candidates, ∃ p, price c = .ok p ∧ p ≤ intent.maxAmountPaise) := by
  obtain ⟨intent, candidates, selected, rest, truth, hintent, hfound, hranked, htruth, hof⟩ :=
    processRequest_planned h hplan
  obtain ⟨p, hp, hmem, hlowest⟩ := rankCandidates_head hprovider hranked
  obtain ⟨src, p', -, hselected, -, rfl⟩ :=
    ProductTruthValidator.validateRecommendation_eq_ok_iff.mp htruth
  -- the validator takes the price from the candidate, which has been ranked by it
  have hamount : plan.amountPaise = p :=
    hof.amount.trans (Except.ok.inj (hselected.symm.trans hp))
  rw [hamount]
  refine ⟨intent, candidates, hintent, hfound, ⟨selected, hmem, hp⟩, hlowest, ?_⟩
  constructor
  · intro hwithin
    exact ⟨selected, hmem, p, hp, hwithin⟩
  · rintro ⟨c, hc, q, hq, hwithin⟩
    obtain ⟨q', hq', hle⟩ := hlowest c hc
    obtain rfl := Except.ok.inj (hq.symm.trans hq')
    exact Int.le_trans hle hwithin

/-! ## The boundary -/

/-- The values of the plan are the texts that the boundary reads. -/
structure FormulatedPlan.Reads (plan : FormulatedPlan) (p : PurchasePlan) : Prop where
  requestId : plan.requestId = ofString p.bound.requestId
  merchant  : plan.merchantId = text p.bound.merchantId
  buyerId   : plan.buyerId = ofString p.bound.buyerId
  product   : plan.productId = text p.bound.productId
  source    : plan.productSource = text p.bound.productSource
  amount    : plan.amountPaise = p.bound.amountPaise
  currency  : plan.currency = text p.bound.currency
  planHash  : plan.purchasePlanHash = p.bound.purchasePlanHash
  requires  : plan.requiresConfirmation = p.requiresConfirmation

theorem encoded_ofString (s : String) :
    (encoded (ofString s) : Except (PlannerError ξ) String) = .ok s := by
  rw [encoded, WideText.scalars?_eq_some_iff.mpr rfl]

theorem shown_text (room : Nat) (s : String) :
    (shown room (text s) : Except (PlannerError ξ) WideText) = .ok (ofString s) := rfl

/-- The token of a plan is bound to what the boundary reads. -/
theorem PlanOf.token_reads {intent : AgentIntent} {truth : TruthRecord} {p : PurchasePlan}
    (h : PlanOf ξ hmac room gate request intent truth plan) (hreads : plan.Reads p) :
    plan.confirmationToken
      = if p.requiresConfirmation then some (gate.token hmac p.bound) else none := by
  obtain ⟨fields, hfields, htoken⟩ := h.token
  have hbound : (tokenFields room request truth plan.purchasePlanHash
      : Except (PlannerError ξ) TokenFields) = .ok p.bound := by
    obtain ⟨hrequest, hbuyer⟩ := h.sent
    obtain ⟨hmerchant, hproduct, hsource, hcurrency⟩ := h.record
    rw [tokenFields, ← hrequest, ← hbuyer, ← hmerchant, ← hproduct, ← hsource, ← hcurrency,
      ← h.amount, hreads.requestId, hreads.merchant, hreads.buyerId, hreads.product,
      hreads.source, hreads.amount, hreads.currency, hreads.planHash]
    simp only [shown_text, encoded_ofString, bind, Except.bind]
    rfl
  rw [htoken, ← h.requires, hreads.requires, Except.ok.inj (hfields.symm.trans hbound)]

/-- **The boundary accepts a plan** from its own merchant with the token of the plan, once,
    and a plan for which the intent has asked no confirmation with any token. -/
theorem boundary_formulated_iff {read : IsoReader} {later : Instant} {p : PurchasePlan}
    {confirmationToken authenticatedMerchantId : String} {gate' : HumanConfirmationGate}
    (h : processRequest hmac sha room now uuidHex gate request world = .ok decision)
    (hplan : decision.purchasePlan = some plan) (hreads : plan.Reads p)
    (hkey : gate'.secretKey = gate.secretKey) :
    (validatePlanExecutionBoundary hmac read later p confirmationToken authenticatedMerchantId
        gate').1 = .ok true
      ↔ p.bound.merchantId = authenticatedMerchantId
        ∧ ∀ issued, plan.confirmationToken = some issued →
          confirmationToken = issued ∧ confirmationToken ∉ gate'.consumedTokens := by
  obtain ⟨intent, candidates, selected, rest, truth, -, -, -, -, hof⟩ :=
    processRequest_planned h hplan
  rw [hof.token_reads hreads]
  cases hrequires : p.requiresConfirmation with
  | true =>
      rw [validatePlanExecutionBoundary_eq_ok_iff hrequires, if_pos rfl]
      refine and_congr_right fun _ => ?_
      -- the gate that accepts has the key of the one that issued
      rw [← HumanConfirmationGate.token_congr hkey]
      constructor
      · rintro haccepts issued hissued
        obtain rfl := Option.some.inj hissued
        exact ⟨haccepts.token, haccepts.unused⟩
      · intro hissued
        obtain ⟨htoken, hunused⟩ := hissued _ rfl
        exact ⟨hunused, .inl rfl, htoken⟩
  | false =>
      rw [validatePlanExecutionBoundary, hrequires]
      by_cases hmerchant : p.bound.merchantId = authenticatedMerchantId
      · rw [if_neg (not_not.mpr hmerchant)]
        refine iff_of_true rfl ⟨hmerchant, ?_⟩
        intro issued hissued
        cases hissued
      · rw [if_pos hmerchant]
        refine iff_of_false ?_ fun haccepted => hmerchant haccepted.1
        intro haccepted
        cases haccepted

end

namespace SamplePlanner

open SampleConfirmation

def tea (id : String) (paise : Int) : RawDict :=
  [(RawDict.key "source_product_id", text id), (RawDict.key "name", text "Tea"),
    (RawDict.key "merchant_identity", text "m_1"), (RawDict.key "amount_paise", .int paise)]

def intent : AgentIntent :=
  ⟨text "PURCHASE_PRODUCT", text "tea", 50, text "general", text "INR", true⟩

/-- Two teas, both over the budget. -/
def world : PlannerWorld Unit where
  llmProvider := ⟨fun _ => .ok intent, false⟩
  searchLiveProducts _ _ _ := .ok [tea "tea_2" 300, tea "tea_1" 100]
  searchProducts _ _ := .ok []

def request : AgentRequest := ⟨ofString "req_1", ofString "b_1", ofString "tea under 50 paise"⟩

def sha : Sha256 := ⟨fun _ => digest, fun _ => digest_digits⟩

def decided : Except (PlannerError Unit) AgentDecision :=
  processRequest hmac sha 900 0 "0a1b2c3d4e5f" gate request world

theorem tea_planned : ∃ decision plan, decided = .ok decision
    ∧ decision.purchasePlan = some plan := by
  have hsome : (decided.toOption.bind AgentDecision.purchasePlan).isSome = true := by
    decide +kernel
  obtain ⟨plan, hplan⟩ := Option.isSome_iff_exists.mp hsome
  obtain ⟨decision, hdecision, hplan⟩ := Option.bind_eq_some_iff.mp hplan
  exact ⟨decision, plan, Exceptions.toOption_eq_some_iff.mp hdecision, hplan⟩

end SamplePlanner

open SamplePlanner in
theorem tea_over_budget : ∃ decision plan, decided = .ok decision
    ∧ decision.purchasePlan = some plan ∧ ¬ plan.amountPaise ≤ intent.maxAmountPaise := by
  obtain ⟨decision, plan, hdecided, hplan⟩ := tea_planned
  obtain ⟨intent', candidates, hintent, hfound, -, -, hbudget⟩ :=
    plan_cheapest rfl hdecided hplan
  obtain rfl := Except.ok.inj hintent
  obtain rfl := Except.ok.inj hfound
  refine ⟨decision, plan, hdecided, hplan, fun hwithin => ?_⟩
  obtain ⟨c, hc, p, hp, hle⟩ := hbudget.mp hwithin
  rcases List.mem_cons.mp hc with rfl | hc
  · obtain rfl := Except.ok.inj hp
    exact absurd hle (by decide)
  · obtain rfl := List.mem_singleton.mp hc
    obtain rfl := Except.ok.inj hp
    exact absurd hle (by decide)

open SamplePlanner SampleConfirmation in
theorem tea_accepted : ∃ decision plan, decided = .ok decision
    ∧ decision.purchasePlan = some plan ∧ ∃ p confirmationToken, plan.Reads p
      ∧ (validatePlanExecutionBoundary hmac read 0 p confirmationToken "m_1" gate).1
        = .ok true := by
  obtain ⟨decision, plan, hdecided, hplan⟩ := tea_planned
  obtain ⟨intent', candidates, selected, rest, truth, hintent, hfound, hranked, htruth, hof⟩ :=
    processRequest_planned hdecided hplan
  obtain rfl := Except.ok.inj hintent
  obtain rfl := Except.ok.inj hfound
  obtain ⟨rfl, -⟩ := List.cons.inj (Except.ok.inj hranked)
  obtain rfl := Except.ok.inj htruth
  obtain ⟨hmerchant, hproduct, hsource, hcurrency⟩ := hof.record
  let p : PurchasePlan := ⟨⟨"req_1", "m_1", "b_1", "tea_1", "VERIFIED_LIVE", 100, "INR",
    plan.purchasePlanHash⟩, true⟩
  have hreads : plan.Reads p := ⟨hof.sent.1, hmerchant, hof.sent.2, hproduct, hsource, hof.amount,
    hcurrency, rfl, hof.requires⟩
  refine ⟨decision, plan, hdecided, hplan, p, gate.token hmac p.bound, hreads, ?_⟩
  refine (boundary_formulated_iff hdecided hplan hreads rfl).mpr ⟨rfl, fun issued hissued => ?_⟩
  rw [hof.token_reads hreads] at hissued
  exact ⟨Option.some.inj hissued, Finset.notMem_empty _⟩

end MandateGateway
