import MandateGateway.Commerce.Webhooks
import MandateGateway.Lib.Runs

/-! # Runs of the order verification engine

    A call names an order and brings evidence or none.  Whatever it brings, the
    payment and the merchant's order that it names are written first, and without
    evidence the status becomes ORDER_UNKNOWN, also that of a verified order.

    * `orderLaw_iff`: an order is verified by its evidence, stays verified and is
      left alone by failing calls, exactly in the runs in which no call touches a
      verified order without evidence and no amount is unreadable. -/

namespace MandateGateway

open Clock Json Runs

/-- An operation of the engine. -/
inductive OrderCall where
  | recordCheckoutIntent (now : Instant)
      (preparationId requestId merchantId capability : String)
  | verifyOrderOutcome (now : Instant)
      (outcomeId paymentTransactionId merchantOrderId : Value)
      (authoritativeEvidence : Option (List (String × String)))

namespace OrderVerificationEngine

/-! ## The operations -/

/-- `outcome_id` of a recorded intent. -/
def outcomeIdOf (sha : Sha256) (preparationId nowIso : String) : String :=
  "outcome_" ++ String.ofList ((sha.hexdigest (preparationId ++ "|" ++ nowIso)).toList.take 10)

/-- The outcome of an intent that is recorded. -/
def pendingOutcome (sha : Sha256) (now : Instant)
    (preparationId requestId merchantId capability : String) : CheckoutOutcome where
  outcomeId := .str (outcomeIdOf sha preparationId (isoformat now))
  preparationId := preparationId
  requestId := requestId
  merchantId := merchantId
  capability := capability
  paymentTransactionId := .str ""
  orderStatus := .orderPending
  merchantOrderId := .null
  verifiedAt := isoformat now
  orderEvidence := none

def recordCheckoutIntent (sha : Sha256) (now : Instant)
    (preparationId requestId merchantId capability : String) (orders : Orders) :
    CheckoutOutcome × Orders :=
  let outcome := pendingOutcome sha now preparationId requestId merchantId capability
  (outcome, orders.set (.text (outcomeIdOf sha preparationId (isoformat now))) outcome)

/-- `authoritative_evidence and merchant_order_id`. -/
def supporting (evidence : Option (List (String × String))) (merchantOrderId : Value) :
    Option (List (String × String)) :=
  match evidence with
  | none | some [] => none
  | some members => if WebhookEngine.isTruthy merchantOrderId then some members else none

/-- `authoritative_evidence.get(key, default)`. -/
def evidenceText (members : List (String × String)) (key default : String) : String :=
  (OrderedMap.lookupEntries key members).getD default

/-- `int(authoritative_evidence.get("amount_paise", 0))`, unless it raises. -/
def evidenceAmount (conv : TextConversions) (members : List (String × String)) : Option Int :=
  match OrderedMap.lookupEntries "amount_paise" members with
  | none => some 0
  | some text => conv.int text

/-- The outcome of an identifier, with what every call writes in it. -/
def touched (now : Instant) (key : DictKey)
    (outcomeId paymentTransactionId merchantOrderId : Value) (orders : Orders) :
    CheckoutOutcome :=
  { (orders.get key).getD (unseen outcomeId paymentTransactionId merchantOrderId
      (isoformat now)) with
    paymentTransactionId := paymentTransactionId
    merchantOrderId := merchantOrderId
    verifiedAt := isoformat now }

/-- The evidence that a call records. -/
def orderEvidence (sha : Sha256) (conv : TextConversions) (now : Instant)
    (outcomeId paymentTransactionId merchantOrderId : Value) (members : List (String × String))
    (amount : Int) : OrderEvidence where
  orderId := outcomeId
  merchantOrderId := merchantOrderId
  paymentTransactionId := paymentTransactionId
  amountPaise := amount
  currency := evidenceText members "currency" "INR"
  verificationSource := evidenceText members "source" "connector_webhook"
  verifiedAt := isoformat now
  evidenceHash := evidenceHash sha conv outcomeId paymentTransactionId merchantOrderId
    (isoformat now)

/-- `verify_order_outcome`, with any evidence or none. -/
def verifyOrderOutcomeWith (sha : Sha256) (conv : TextConversions) (now : Instant)
    (outcomeId paymentTransactionId merchantOrderId : Value)
    (evidence : Option (List (String × String))) (orders : Orders) :
    Except WebhookError CheckoutOutcome × Orders :=
  match DictKey.of outcomeId with
  | none => (.error (.typeError s!"unhashable type: '{WebhookEngine.typeName outcomeId}'"), orders)
  | some key =>
      let outcome := touched now key outcomeId paymentTransactionId merchantOrderId orders
      match supporting evidence merchantOrderId with
      | none =>
          let unknown := { outcome with orderStatus := .orderUnknown }
          (.ok unknown, orders.set key unknown)
      | some members =>
          match evidenceAmount conv members with
          | none => (.error (.raised (.valueError
              ("invalid literal for int() with base 10: "
                ++ Text.quoted (evidenceText members "amount_paise" "")))),
              orders.set key outcome)
          | some amount =>
              let verified := { outcome with
                orderStatus := .orderVerified
                orderEvidence := some (orderEvidence sha conv now outcomeId
                  paymentTransactionId merchantOrderId members amount) }
              (.ok verified, orders.set key verified)

/-- One operation. -/
def step (sha : Sha256) (conv : TextConversions) (orders : Orders) :
    OrderCall → Except WebhookError CheckoutOutcome × Orders
  | .recordCheckoutIntent now preparationId requestId merchantId capability =>
      let (outcome, orders') :=
        recordCheckoutIntent sha now preparationId requestId merchantId capability orders
      (.ok outcome, orders')
  | .verifyOrderOutcome now outcomeId paymentTransactionId merchantOrderId evidence =>
      verifyOrderOutcomeWith sha conv now outcomeId paymentTransactionId merchantOrderId evidence
        orders

/-- The evidence that a webhook brings, as a dictionary. -/
def webhookMembers (evidence : AuthoritativeEvidence) : List (String × String) :=
  [("amount_paise", evidence.amountPaise), ("currency", evidence.currency),
    ("source", evidence.source)]

/-! ## What a step does -/

/-- A step of a run. -/
abbrev OrderStep : Type := Step Orders OrderCall (Except WebhookError CheckoutOutcome)

def Verified (key : DictKey) (orders : Orders) : Prop :=
  ∃ o, orders.get key = some o ∧ o.orderStatus = .orderVerified

/-- The call brings evidence for the order, with the merchant's identifier of it. -/
def Brings (key : DictKey) : OrderCall → Prop
  | .recordCheckoutIntent .. => False
  | .verifyOrderOutcome _ outcomeId _ merchantOrderId evidence =>
      DictKey.of outcomeId = some key ∧ (supporting evidence merchantOrderId).isSome

def Records (key : DictKey) (c : OrderStep) : Prop := Brings key c.act ∧ ∃ o, c.out = .ok o

/-- A step neither downgrades a verified order nor, without evidence for it,
    replaces what it is bound to; and one that raises changes no order. -/
structure Keeps (c : OrderStep) : Prop where
  verified : ∀ key o, c.pre.get key = some o → o.orderStatus = .orderVerified →
    ∃ o', c.post.get key = some o' ∧ o'.orderStatus = .orderVerified
      ∧ (¬ Brings key c.act → o'.paymentTransactionId = o.paymentTransactionId
        ∧ o'.merchantOrderId = o.merchantOrderId)
  atomic   : ∀ err, c.out = .error err → ∀ key, c.post.get key = c.pre.get key

/-- After each step of the run the orders with recorded evidence are the verified
    ones, and each step keeps them. -/
structure OrderLaw (history : List OrderStep) : Prop where
  verified_iff : ∀ before c after, history = before ++ c :: after →
    ∀ key, Verified key c.post ↔ ∃ r ∈ before ++ [c], Records key r
  keeps        : ∀ c ∈ history, Keeps c

/-- The order has been written with these identifiers at this time. -/
def Current (key : DictKey) (paymentTransactionId merchantOrderId : Value) (nowIso : String)
    (orders : Orders) : Prop :=
  ∃ o, orders.get key = some o ∧ o.paymentTransactionId = paymentTransactionId
    ∧ o.merchantOrderId = merchantOrderId ∧ o.verifiedAt = nowIso

/-- No verified order is named without evidence or by a new intent, and the
    amount of evidence can be read, unless the call would write what is there. -/
def Careful (sha : Sha256) (conv : TextConversions) (c : OrderStep) : Prop :=
  match c.act with
  | .recordCheckoutIntent now preparationId _ _ _ =>
      ¬ Verified (.text (outcomeIdOf sha preparationId (isoformat now))) c.pre
  | .verifyOrderOutcome now outcomeId paymentTransactionId merchantOrderId evidence =>
      ∀ key, DictKey.of outcomeId = some key →
        match supporting evidence merchantOrderId with
        | none => ¬ Verified key c.pre
        | some members => (evidenceAmount conv members).isSome
            ∨ Current key paymentTransactionId merchantOrderId (isoformat now) c.pre

variable {sha : Sha256} {conv : TextConversions} {orders : Orders} {call : OrderCall}
  {c : OrderStep} {key : DictKey}

/-- What a call can do. -/
inductive Effect (sha : Sha256) (conv : TextConversions) (orders : Orders) :
    OrderCall → Except WebhookError CheckoutOutcome → Orders → Prop
  | intent {now : Instant} {preparationId requestId merchantId capability : String}
      {o : CheckoutOutcome} (status : o.orderStatus = .orderPending) :
      Effect sha conv orders
        (.recordCheckoutIntent now preparationId requestId merchantId capability) (.ok o)
        (orders.set (.text (outcomeIdOf sha preparationId (isoformat now))) o)
  | unhashable {now : Instant} {outcomeId paymentTransactionId merchantOrderId : Value}
      {evidence : Option (List (String × String))} {err : WebhookError}
      (hkey : DictKey.of outcomeId = none) :
      Effect sha conv orders
        (.verifyOrderOutcome now outcomeId paymentTransactionId merchantOrderId evidence)
        (.error err) orders
  | unsupported {now : Instant} {outcomeId paymentTransactionId merchantOrderId : Value}
      {evidence : Option (List (String × String))} {key : DictKey} {o : CheckoutOutcome}
      (hkey : DictKey.of outcomeId = some key)
      (hsupporting : supporting evidence merchantOrderId = none)
      (status : o.orderStatus = .orderUnknown) :
      Effect sha conv orders
        (.verifyOrderOutcome now outcomeId paymentTransactionId merchantOrderId evidence)
        (.ok o) (orders.set key o)
  | unreadable {now : Instant} {outcomeId paymentTransactionId merchantOrderId : Value}
      {evidence : Option (List (String × String))} {key : DictKey}
      {members : List (String × String)} {err : WebhookError}
      (hkey : DictKey.of outcomeId = some key)
      (hsupporting : supporting evidence merchantOrderId = some members)
      (hamount : evidenceAmount conv members = none) :
      Effect sha conv orders
        (.verifyOrderOutcome now outcomeId paymentTransactionId merchantOrderId evidence)
        (.error err)
        (orders.set key
          (touched now key outcomeId paymentTransactionId merchantOrderId orders))
  | supported {now : Instant} {outcomeId paymentTransactionId merchantOrderId : Value}
      {evidence : Option (List (String × String))} {key : DictKey}
      {members : List (String × String)} {amount : Int} {o : CheckoutOutcome}
      (hkey : DictKey.of outcomeId = some key)
      (hsupporting : supporting evidence merchantOrderId = some members)
      (hamount : evidenceAmount conv members = some amount)
      (status : o.orderStatus = .orderVerified) :
      Effect sha conv orders
        (.verifyOrderOutcome now outcomeId paymentTransactionId merchantOrderId evidence)
        (.ok o) (orders.set key o)

theorem effect_step (sha : Sha256) (conv : TextConversions) (orders : Orders)
    (call : OrderCall) :
    Effect sha conv orders call (step sha conv orders call).1 (step sha conv orders call).2 := by
  cases call with
  | recordCheckoutIntent now preparationId requestId merchantId capability => exact .intent rfl
  | verifyOrderOutcome now outcomeId paymentTransactionId merchantOrderId evidence =>
      rw [step, verifyOrderOutcomeWith]
      cases hkey : DictKey.of outcomeId with
      | none => exact .unhashable hkey
      | some key =>
          dsimp only
          cases hsupporting : supporting evidence merchantOrderId with
          | none => exact .unsupported hkey hsupporting rfl
          | some members =>
              dsimp only
              cases hamount : evidenceAmount conv members with
              | none => exact .unreadable hkey hsupporting hamount
              | some amount => exact .supported hkey hsupporting hamount rfl

theorem verified_set_of_ne {key' : DictKey} {o : CheckoutOutcome} (hne : key ≠ key') :
    Verified key (orders.set key' o) ↔ Verified key orders := by
  rw [Verified, Verified, orders.get_set_of_ne hne]

theorem verified_set_self {o : CheckoutOutcome} :
    Verified key (orders.set key o) ↔ o.orderStatus = .orderVerified := by
  rw [Verified, orders.get_set_self]
  constructor
  · rintro ⟨o', ho', hstatus⟩
    rw [Option.some.inj ho']
    exact hstatus
  · exact fun hstatus => ⟨o, rfl, hstatus⟩

/-- A write over an order that is not verified keeps the verified ones. -/
theorem kept_of_set {act : OrderCall} {key' : DictKey} {o : CheckoutOutcome}
    (hnot : ¬ Verified key' orders) :
    ∀ key p, orders.get key = some p → p.orderStatus = .orderVerified →
      ∃ p', (orders.set key' o).get key = some p' ∧ p'.orderStatus = .orderVerified
        ∧ (¬ Brings key act → p'.paymentTransactionId = p.paymentTransactionId
          ∧ p'.merchantOrderId = p.merchantOrderId) := by
  intro key p hp hstatus
  have hne : key ≠ key' := fun heq => hnot ⟨p, heq ▸ hp, hstatus⟩
  refine ⟨p, ?_, hstatus, fun _ => ⟨rfl, rfl⟩⟩
  rw [orders.get_set_of_ne hne]
  exact hp

theorem get_set_touched_iff {now : Instant}
    {outcomeId paymentTransactionId merchantOrderId : Value} :
    (∀ k, (orders.set key
        (touched now key outcomeId paymentTransactionId merchantOrderId orders)).get k
          = orders.get k)
      ↔ Current key paymentTransactionId merchantOrderId (isoformat now) orders := by
  constructor
  · intro hsame
    have hkey := hsame key
    rw [orders.get_set_self] at hkey
    exact ⟨_, hkey.symm, rfl, rfl, rfl⟩
  · rintro ⟨o, ho, rfl, rfl, htime⟩ k
    by_cases hk : k = key
    · subst hk
      rw [orders.get_set_self, touched, ho, Option.getD_some, ← htime]
    · rw [orders.get_set_of_ne hk]

theorem careful_verify_iff {now : Instant}
    {outcomeId paymentTransactionId merchantOrderId : Value}
    {evidence : Option (List (String × String))}
    {out : Except WebhookError CheckoutOutcome} {post : Orders}
    (hkey : DictKey.of outcomeId = some key) :
    Careful sha conv ⟨orders, .verifyOrderOutcome now outcomeId paymentTransactionId
        merchantOrderId evidence, out, post⟩
      ↔ match supporting evidence merchantOrderId with
        | none => ¬ Verified key orders
        | some members => (evidenceAmount conv members).isSome
            ∨ Current key paymentTransactionId merchantOrderId (isoformat now) orders := by
  constructor
  · exact fun hcareful => hcareful key hkey
  · intro h key' hkey'
    obtain rfl := Option.some.inj (hkey.symm.trans hkey')
    exact h

theorem not_verified_of_keeps {act : OrderCall} {out : Except WebhookError CheckoutOutcome}
    {o : CheckoutOutcome} (hstatus : o.orderStatus ≠ .orderVerified)
    (hkeeps : Keeps ⟨orders, act, out, orders.set key o⟩) : ¬ Verified key orders := by
  rintro ⟨p, hp, hverified⟩
  obtain ⟨p', hp', hverified', -⟩ := hkeeps.verified key p hp hverified
  exact hstatus (verified_set_self.mp ⟨p', hp', hverified'⟩)

/-- **A step keeps the orders exactly when it is a careful one.** -/
theorem keeps_iff (h : Effect sha conv c.pre c.act c.out c.post) :
    Keeps c ↔ Careful sha conv c := by
  obtain ⟨pre, act, out, post⟩ := c
  dsimp only at h
  cases h with
  | intent status =>
      constructor
      · exact not_verified_of_keeps (by rw [status]; decide)
      · exact fun hnot => ⟨kept_of_set hnot, nofun⟩
  | unhashable hkey =>
      refine iff_of_true ⟨?_, fun _ _ _ => rfl⟩ fun key hsome => ?_
      · exact fun _ o ho hstatus => ⟨o, ho, hstatus, fun _ => ⟨rfl, rfl⟩⟩
      · rw [hkey] at hsome
        cases hsome
  | unsupported hkey hsupporting status =>
      rw [careful_verify_iff hkey, hsupporting]
      constructor
      · exact not_verified_of_keeps (by rw [status]; decide)
      · exact fun hnot => ⟨kept_of_set hnot, nofun⟩
  | @unreadable _ _ _ _ _ _ _ err hkey hsupporting hamount =>
      -- the identifiers and the time are written before the amount is read
      rw [careful_verify_iff hkey, hsupporting]
      dsimp only
      rw [hamount, Option.isSome_none, or_iff_right Bool.false_ne_true, ← get_set_touched_iff]
      constructor
      · exact fun hkeeps => hkeeps.atomic err rfl
      · intro hsame
        refine ⟨fun k o ho hstatus => ?_, fun _ _ => hsame⟩
        exact ⟨o, (hsame k).trans ho, hstatus, fun _ => ⟨rfl, rfl⟩⟩
  | @supported _ _ _ _ _ key _ _ o hkey hsupporting hamount status =>
      rw [careful_verify_iff hkey, hsupporting]
      dsimp only
      rw [hamount]
      refine iff_of_true ⟨fun key' p hp hverified => ?_, nofun⟩ (Or.inl rfl)
      by_cases hk : key' = key
      · subst hk
        refine ⟨o, pre.get_set_self _ _, status, fun hnot => absurd ⟨hkey, ?_⟩ hnot⟩
        rw [hsupporting]
        rfl
      · refine ⟨p, ?_, hverified, fun _ => ⟨rfl, rfl⟩⟩
        rw [pre.get_set_of_ne hk]
        exact hp

theorem verified_or_records (h : Effect sha conv c.pre c.act c.out c.post)
    (hverified : Verified key c.post) : Verified key c.pre ∨ Records key c := by
  obtain ⟨pre, act, out, post⟩ := c
  dsimp only at h hverified ⊢
  cases h with
  | @intent _ _ _ _ _ o status =>
      refine Or.inl ((verified_set_of_ne ?_).mp hverified)
      rintro rfl
      have hpending := verified_set_self.mp hverified
      rw [status] at hpending
      cases hpending
  | unhashable hkey => exact Or.inl hverified
  | unsupported hkey hsupporting status =>
      refine Or.inl ((verified_set_of_ne ?_).mp hverified)
      rintro rfl
      have hunknown := verified_set_self.mp hverified
      rw [status] at hunknown
      cases hunknown
  | @unreadable _ _ _ _ _ key' _ _ hkey hsupporting hamount =>
      left
      by_cases hk : key = key'
      · subst hk
        -- the status is that from before, and an unseen order is an unknown one
        have hstatus := verified_set_self.mp hverified
        cases hfound : pre.get key with
        | none =>
            rw [touched, hfound] at hstatus
            cases hstatus
        | some o =>
            rw [touched, hfound] at hstatus
            exact ⟨o, hfound, hstatus⟩
      · exact (verified_set_of_ne hk).mp hverified
  | @supported _ _ _ _ _ key' _ _ o hkey hsupporting hamount status =>
      by_cases hk : key = key'
      · subst hk
        refine Or.inr ⟨⟨hkey, ?_⟩, o, rfl⟩
        rw [hsupporting]
        rfl
      · exact Or.inl ((verified_set_of_ne hk).mp hverified)

theorem verified_of_records (h : Effect sha conv c.pre c.act c.out c.post)
    (hrecords : Records key c) : Verified key c.post := by
  obtain ⟨pre, act, out, post⟩ := c
  dsimp only at h ⊢
  obtain ⟨hbrings, o', hout⟩ := hrecords
  cases h with
  | intent status => exact absurd hbrings id
  | unhashable hkey => cases hout
  | unsupported hkey hsupporting status =>
      have hsome := hbrings.2
      rw [hsupporting] at hsome
      cases hsome
  | unreadable hkey hsupporting hamount => cases hout
  | @supported _ _ _ _ _ key' _ _ o hkey hsupporting hamount status =>
      obtain rfl := Option.some.inj (hkey.symm.trans hbrings.1)
      exact verified_set_self.mpr status

/-- **The verified orders after a step that keeps them** are those from before,
    and the one that the step records evidence for. -/
theorem verified_post_iff (h : Effect sha conv c.pre c.act c.out c.post) (hkeeps : Keeps c) :
    Verified key c.post ↔ Verified key c.pre ∨ Records key c := by
  constructor
  · exact verified_or_records h
  · rintro (⟨o, ho, hstatus⟩ | hrecords)
    · obtain ⟨o', ho', hstatus', -⟩ := hkeeps.verified key o ho hstatus
      exact ⟨o', ho', hstatus'⟩
    · exact verified_of_records h hrecords

/-! ## Runs -/

/-- The verified orders are those with recorded evidence. -/
def Recorded (past : List OrderStep) (orders : Orders) : Prop :=
  ∀ key, Verified key orders ↔ ∃ r ∈ past, Records key r

theorem Recorded.step {past : List OrderStep} (h : Recorded past orders) (call : OrderCall)
    (hkeeps : Keeps (stepAt (step sha conv) orders call)) :
    Recorded (past ++ [stepAt (step sha conv) orders call]) (step sha conv orders call).2 := by
  intro key
  have hpost : Verified key (OrderVerificationEngine.step sha conv orders call).2
      ↔ Verified key orders ∨ Records key (stepAt (OrderVerificationEngine.step sha conv) orders
        call) := verified_post_iff (effect_step sha conv orders call) hkeeps
  rw [hpost, h key]
  constructor
  · rintro (⟨r, hr, hrecords⟩ | hrecords)
    · exact ⟨r, List.mem_append_left _ hr, hrecords⟩
    · exact ⟨_, List.mem_append_right _ (List.mem_singleton_self _), hrecords⟩
  · rintro ⟨r, hr, hrecords⟩
    rcases List.mem_append.mp hr with hr | hr
    · exact Or.inl ⟨r, hr, hrecords⟩
    · rw [List.mem_singleton.mp hr] at hrecords
      exact Or.inr hrecords

theorem recorded_of_keeps {calls : List OrderCall}
    (hkeeps : ∀ c ∈ steps (step sha conv) .empty calls, Keeps c) :
    Recorded (steps (step sha conv) .empty calls) (exec (step sha conv) .empty calls) := by
  refine history_inv (H := Recorded) (fun past s call h hk => h.step call hk) ?_ hkeeps
  intro key
  refine iff_of_false ?_ (by simp)
  rintro ⟨o, ho, -⟩
  cases ho

/-- **The orders follow the law exactly in the runs of careful steps**: in every
    other run a verified order is downgraded, or a call that raises has written
    an order. -/
theorem orderLaw_iff (sha : Sha256) (conv : TextConversions) (calls : List OrderCall) :
    OrderLaw (steps (step sha conv) .empty calls)
      ↔ ∀ c ∈ steps (step sha conv) .empty calls, Careful sha conv c := by
  have hiff : ∀ c ∈ steps (step sha conv) .empty calls, Keeps c ↔ Careful sha conv c := by
    intro c hc
    obtain ⟨l, call, r, -, rfl⟩ := mem_steps_iff.mp hc
    exact keeps_iff (effect_step sha conv _ call)
  constructor
  · exact fun hlaw c hc => (hiff c hc).mp (hlaw.keeps c hc)
  · intro hcareful
    have hkeeps : ∀ c ∈ steps (step sha conv) .empty calls, Keeps c :=
      fun c hc => (hiff c hc).mpr (hcareful c hc)
    refine ⟨?_, hkeeps⟩
    intro before c after hsplit key
    obtain ⟨l, call, r, rfl, rfl, rfl, rfl⟩ := steps_eq_append_cons_iff.mp hsplit
    rw [← steps_concat]
    -- the law of the first steps is what was recorded in them
    have hfirst : ∀ c ∈ steps (step sha conv) .empty (l ++ [call]), Keeps c := by
      intro c hc
      refine hkeeps c ?_
      rw [hsplit]
      rw [steps_concat] at hc
      exact List.mem_append.mpr ((List.mem_append.mp hc).imp_right fun h =>
        List.mem_cons.mpr (Or.inl (List.mem_singleton.mp h)))
    have hrecorded := recorded_of_keeps hfirst key
    rw [exec_append] at hrecorded
    exact hrecorded

end OrderVerificationEngine

/-! An order that is verified, then named without evidence; and one whose amount
    is not a whole number. -/

namespace SampleOrders

open OrderVerificationEngine

def digest : String := "e8811f3798878e6ed39bff1ae4bbc91c7ea81662ae92b5491fcb44d92542cb18"

theorem digest_digits : digest.toList.length = 64 ∧ ∀ c ∈ digest.toList, isLowerHex c = true :=
  digits_of_all (by decide) (by decide)

def sha : Sha256 := ⟨fun _ => digest, fun _ => digest_digits⟩

def conv : TextConversions where
  str
    | .str s => s
    | _ => "None"
  int text := if text = "48000" then some 48000 else none

def evidence (amountPaise : String) : List (String × String) :=
  [("amount_paise", amountPaise), ("currency", "INR"), ("source", "connector_cafe_acme_api")]

def confirmed : OrderCall :=
  .verifyOrderOutcome 0 (.str "outcome_1") (.str "txn_1") (.str "m_ord_1")
    (some (evidence "48000"))

def unconfirmed : OrderCall :=
  .verifyOrderOutcome 1000000 (.str "outcome_1") (.str "txn_2") .null none

def unreadable : OrderCall :=
  .verifyOrderOutcome 0 (.str "outcome_1") (.str "txn_1") (.str "m_ord_1")
    (some (evidence "480.00"))

def outcome (calls : List OrderCall) : Option (OrderStatus × Value) :=
  ((exec (step sha conv) .empty calls).get (.text "outcome_1")).map
    fun o => (o.orderStatus, o.paymentTransactionId)

theorem outcome_confirmed :
    outcome [confirmed] = some (.orderVerified, .str "txn_1") := by rfl

theorem outcome_unconfirmed :
    outcome [confirmed, unconfirmed] = some (.orderUnknown, .str "txn_2") := by rfl

theorem outcome_unreadable : outcome [unreadable] = some (.orderUnknown, .str "txn_1") := by rfl

end SampleOrders

open SampleOrders OrderVerificationEngine in
/-- A verified order is an unknown one after a call without evidence, and bound
    to another payment; a call that raises leaves an order where there was none. -/
theorem confirmed_order_lost :
    outcome [confirmed] = some (.orderVerified, .str "txn_1")
    ∧ outcome [confirmed, unconfirmed] = some (.orderUnknown, .str "txn_2")
    ∧ ¬ OrderLaw (steps (step sha conv) .empty [confirmed, unconfirmed])
    ∧ outcome [] = none ∧ outcome [unreadable] = some (.orderUnknown, .str "txn_1")
    ∧ ¬ OrderLaw (steps (step sha conv) .empty [unreadable]) := by
  refine ⟨outcome_confirmed, outcome_unconfirmed, ?_, rfl, outcome_unreadable, ?_⟩
  · intro hlaw
    have hkeeps := hlaw.keeps (stepAt (step sha conv) (exec (step sha conv) .empty [confirmed])
      unconfirmed) (List.mem_cons_of_mem _ List.mem_cons_self)
    have hkey : DictKey.of (.str "outcome_1") = some (.text "outcome_1") := rfl
    have hnot := (careful_verify_iff hkey).mp
      ((keeps_iff (effect_step sha conv _ unconfirmed)).mp hkeeps)
    exact hnot ⟨_, rfl, rfl⟩
  · intro hlaw
    have hkeeps := hlaw.keeps (stepAt (step sha conv) .empty unreadable) List.mem_cons_self
    have hkey : DictKey.of (.str "outcome_1") = some (.text "outcome_1") := rfl
    have hor := (careful_verify_iff hkey).mp
      ((keeps_iff (effect_step sha conv _ unreadable)).mp hkeeps)
    rcases hor with hread | ⟨o, ho, -⟩
    · cases hread
    · cases ho

end MandateGateway
