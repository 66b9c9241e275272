import MandateGateway.Agent.ConfirmationGate
import MandateGateway.Lib.JsonTree
import MandateGateway.Lib.Runs
import MandateGateway.Lib.Separated

/-! # Runs of the confirmation gate

    A token is accepted once (`countP_accepts_le_one`), and a refusal leaves the
    gate alone.  What a token is bound to is the joined text of eight fields, so
    it is bound to the fields themselves as long as none of the texts has the
    separator in it (`TokenFields.eq_of_rawMsg`); where one does, other fields
    have the same token (`TokenFields.exists_other`).

    * `token_bound`: what holds of every run, and of which issuances. -/

namespace MandateGateway

open Clock Runs

/-! ## The signed text -/

namespace TokenFields

variable {f g : TokenFields}

/-- The fields as they stand in the signed text. -/
def texts (f : TokenFields) : List String :=
  [f.requestId, f.merchantId, f.buyerId, f.productId, f.productSource, toString f.amountPaise,
    f.currency, f.purchasePlanHash]

def SeparatorFree (f : TokenFields) : Prop := ∀ t ∈ f.texts, '|' ∉ t.toList

instance : Decidable f.SeparatorFree :=
  inferInstanceAs (Decidable (∀ t ∈ f.texts, '|' ∉ t.toList))

theorem toList_rawMsg (f : TokenFields) :
    f.rawMsg.toList = ['|'].intercalate (f.texts.map String.toList) := by
  simp [rawMsg, texts, List.intercalate_cons_cons]

/-- **A text with free fields has them alone.** -/
theorem eq_of_rawMsg (hfree : f.SeparatorFree) (h : f.rawMsg = g.rawMsg) : f = g := by
  have hlists : ['|'].intercalate (f.texts.map String.toList)
      = ['|'].intercalate (g.texts.map String.toList) := by
    rw [← toList_rawMsg, ← toList_rawMsg, h]
  have hparts : ∀ l ∈ f.texts.map String.toList, '|' ∉ l := List.forall_mem_map.mpr hfree
  have htexts : f.texts = g.texts :=
    List.map_injective_iff.mpr (fun _ _ => String.toList_inj.mp)
      (Separated.intercalate_inj hparts rfl hlists)
  obtain ⟨hreq, hmer, hbuy, hprod, hsrc, hamount, hcur, hplan, _⟩ :
      _ ∧ _ ∧ _ ∧ _ ∧ _ ∧ _ ∧ _ ∧ _ ∧ _ := by
    simpa only [texts, List.cons.injEq] using htexts
  obtain ⟨⟩ := f
  obtain ⟨⟩ := g
  rw [TokenFields.mk.injEq]
  exact ⟨hreq, hmer, hbuy, hprod, hsrc, Json.toString_int_injective hamount, hcur, hplan⟩

theorem exists_other_pair {s t : String} (h : '|' ∈ s.toList ∨ '|' ∈ t.toList) :
    ∃ s' t' : String, s' ≠ s ∧ ∀ u : String, u ++ s' ++ "|" ++ t' = u ++ s ++ "|" ++ t := by
  obtain ⟨l, m, hne, heq⟩ := Separated.exists_other_cut h
  refine ⟨String.ofList l, String.ofList m, ?_, ?_⟩
  · intro hs
    rw [← hs, String.toList_ofList] at hne
    exact hne rfl
  · intro u
    rw [← String.toList_inj]
    simpa using heq

/-- **Where a field has the separator in it, other fields have the same text.** -/
theorem exists_other (h : ¬ f.SeparatorFree) : ∃ g, g ≠ f ∧ g.rawMsg = f.rawMsg := by
  have hparts : ('|' ∈ f.requestId.toList ∨ '|' ∈ f.merchantId.toList)
      ∨ ('|' ∈ f.buyerId.toList ∨ '|' ∈ f.productId.toList)
      ∨ ('|' ∈ f.productId.toList ∨ '|' ∈ f.productSource.toList)
      ∨ ('|' ∈ f.currency.toList ∨ '|' ∈ f.purchasePlanHash.toList) := by
    have hamount : '|' ∉ (toString f.amountPaise).toList :=
      Json.notMem_toString_int (by decide) (by decide) _
    simp only [SeparatorFree, texts, List.forall_mem_cons] at h
    tauto
  -- the separator is moved between two neighbours
  rcases hparts with h | h | h | h
  · obtain ⟨s, t, hne, heq⟩ := exists_other_pair h
    refine ⟨{ f with requestId := s, merchantId := t }, ?_, ?_⟩
    · intro heq'
      exact hne (congrArg requestId heq')
    · have hstart := heq ""
      rw [String.empty_append, String.empty_append] at hstart
      simp only [rawMsg, hstart]
  · obtain ⟨s, t, hne, heq⟩ := exists_other_pair h
    refine ⟨{ f with buyerId := s, productId := t }, ?_, ?_⟩
    · intro heq'
      exact hne (congrArg buyerId heq')
    · simp only [rawMsg, heq]
  · obtain ⟨s, t, hne, heq⟩ := exists_other_pair h
    refine ⟨{ f with productId := s, productSource := t }, ?_, ?_⟩
    · intro heq'
      exact hne (congrArg productId heq')
    · simp only [rawMsg, heq]
  · obtain ⟨s, t, hne, heq⟩ := exists_other_pair h
    refine ⟨{ f with currency := s, purchasePlanHash := t }, ?_, ?_⟩
    · intro heq'
      exact hne (congrArg currency heq')
    · simp only [rawMsg, heq]

end TokenFields

/-! ## Runs -/

/-- An operation of the gate. -/
inductive GateCall where
  | generateToken (now : Instant) (fields : TokenFields) (ttlSeconds : Int)
  | verifyAndConsumeToken (now : Instant) (attempt : TokenAttempt)

/-- The fields whose text an operation signs. -/
def GateCall.fields : GateCall → TokenFields
  | .generateToken _ fields _ => fields
  | .verifyAndConsumeToken _ attempt => attempt.fields

/-- What an operation of the gate returns or raises. -/
inductive GateAnswer where
  | issued (result : Except PyError IssuedToken)
  | verified (result : Except GateError Bool)

namespace HumanConfirmationGate

/-- One operation. -/
def step (hmac : HmacSha256) (read : IsoReader) (gate : HumanConfirmationGate) :
    GateCall → GateAnswer × HumanConfirmationGate
  | .generateToken now fields ttlSeconds =>
      (.issued (gate.generateToken hmac now fields ttlSeconds), gate)
  | .verifyAndConsumeToken now attempt =>
      let (result, gate') := gate.verifyAndConsumeToken hmac read now attempt
      (.verified result, gate')

abbrev GateStep := Step HumanConfirmationGate GateCall GateAnswer

def Issues (token : String) (fields : TokenFields) (c : GateStep) : Prop :=
  ∃ now ttlSeconds issued, c.act = .generateToken now fields ttlSeconds
    ∧ c.out = .issued (.ok issued) ∧ issued.confirmationToken = token

def AcceptsFor (token : String) (fields : TokenFields) (c : GateStep) : Prop :=
  ∃ now expiresAt, c.act = .verifyAndConsumeToken now ⟨token, fields, expiresAt⟩
    ∧ c.out = .verified (.ok true)

def accepts (token : String) (c : GateStep) : Bool :=
  match c.act, c.out with
  | .verifyAndConsumeToken _ attempt, .verified (.ok _) => attempt.confirmationToken == token
  | _, _ => false

def Refuses (c : GateStep) : Prop := ∃ err, c.out = .verified (.error err)

variable {hmac : HmacSha256} {read : IsoReader} {gate : HumanConfirmationGate}

theorem step_secretKey (gate : HumanConfirmationGate) (call : GateCall) :
    (step hmac read gate call).2.secretKey = gate.secretKey := by
  cases call with
  | generateToken now fields ttlSeconds => rfl
  | verifyAndConsumeToken now attempt =>
      rcases verifyAndConsumeToken_cases hmac read now attempt gate with ⟨-, h⟩ | ⟨-, err, h⟩
      · rw [step, h]
      · rw [step, h]

theorem exec_secretKey (gate : HumanConfirmationGate) (calls : List GateCall) :
    (exec (step hmac read) gate calls).secretKey = gate.secretKey :=
  exec_inv (I := fun g => g.secretKey = gate.secretKey)
    (fun g call h => (step_secretKey g call).trans h) rfl calls

theorem acceptsFor_stepAt_iff {token : String} {fields : TokenFields} {call : GateCall} :
    AcceptsFor token fields (stepAt (step hmac read) gate call)
      ↔ ∃ now expiresAt, call = .verifyAndConsumeToken now ⟨token, fields, expiresAt⟩
        ∧ Accepts hmac read now ⟨token, fields, expiresAt⟩ gate := by
  refine exists₂_congr fun now expiresAt => and_congr_right ?_
  intro hact
  rw [stepAt_act] at hact
  rw [hact, stepAt_out, ← verifyAndConsumeToken_eq_ok_iff]
  show GateAnswer.verified (gate.verifyAndConsumeToken hmac read now _).1 = _ ↔ _
  rw [GateAnswer.verified.injEq]

theorem accepts_stepAt {token : String} {call : GateCall}
    (h : accepts token (stepAt (step hmac read) gate call) = true) :
    token ∉ gate.consumedTokens ∧ token ∈ (step hmac read gate call).2.consumedTokens := by
  cases call with
  | generateToken now fields ttlSeconds => cases h
  | verifyAndConsumeToken now attempt =>
      rw [accepts, stepAt_act, stepAt_out] at h
      rcases verifyAndConsumeToken_cases hmac read now attempt gate
        with ⟨haccepts, hcall⟩ | ⟨-, err, hcall⟩
      · rw [step, hcall] at h ⊢
        obtain rfl := eq_of_beq h
        exact ⟨haccepts.unused, Finset.mem_insert_self _ _⟩
      · rw [step, hcall] at h
        cases h

theorem consumed_kept {token : String} (call : GateCall) (h : token ∈ gate.consumedTokens) :
    token ∈ (step hmac read gate call).2.consumedTokens := by
  cases call with
  | generateToken now fields ttlSeconds => exact h
  | verifyAndConsumeToken now attempt =>
      rcases verifyAndConsumeToken_cases hmac read now attempt gate
        with ⟨-, hcall⟩ | ⟨-, err, hcall⟩
      · rw [step, hcall]
        exact Finset.mem_insert_of_mem h
      · rw [step, hcall]
        exact h

/-- **A token is accepted at most once.** -/
theorem countP_accepts_le_one (token : String) (gate : HumanConfirmationGate)
    (calls : List GateCall) :
    (steps (step hmac read) gate calls).countP (accepts token) ≤ 1 := by
  refine countP_le_one_of_latch (L := fun g => token ∈ g.consumedTokens) (G := fun _ => True)
    ?_ ?_ ?_ gate calls (fun _ _ => trivial)
  · intro g call h
    exact (accepts_stepAt h).1
  · intro g call _ h
    exact (accepts_stepAt h).2
  · intro g call h
    exact consumed_kept call h

theorem refuses_keeps {c : GateStep} {calls : List GateCall}
    (hc : c ∈ steps (step hmac read) gate calls) (h : Refuses c) : c.post = c.pre := by
  obtain ⟨before, call, after, rfl, rfl⟩ := mem_steps_iff.mp hc
  obtain ⟨err, herr⟩ := h
  rw [stepAt_out] at herr
  rw [stepAt_post, stepAt_pre]
  cases call with
  | generateToken now fields ttlSeconds => rfl
  | verifyAndConsumeToken now attempt =>
      rcases verifyAndConsumeToken_cases hmac read now attempt
        (exec (step hmac read) gate before) with ⟨-, hcall⟩ | ⟨-, err', hcall⟩
      · rw [step, hcall] at herr
        cases herr
      · rw [step, hcall]

/-! ## What a token is bound to -/

/-- No two texts of a history have the same token. -/
def TokensDiffer (hmac : HmacSha256) (gate : HumanConfirmationGate) (history : List GateStep) :
    Prop :=
  ∀ c ∈ history, ∀ d ∈ history, gate.token hmac c.act.fields = gate.token hmac d.act.fields →
    c.act.fields.rawMsg = d.act.fields.rawMsg

/-- A token that fits the text of an attempt was issued for that text before. -/
def Unforgeable (hmac : HmacSha256) (gate : HumanConfirmationGate) (history : List GateStep) :
    Prop :=
  ∀ before c after now attempt, history = before ++ c :: after →
    c.act = .verifyAndConsumeToken now attempt →
    attempt.confirmationToken = gate.token hmac attempt.fields →
    ∃ i ∈ before, ∃ fields, Issues attempt.confirmationToken fields i
      ∧ fields.rawMsg = attempt.fields.rawMsg

/-- Tokens are accepted only after they are issued, and for the fields for which
    they are issued. -/
def Bound (history : List GateStep) : Prop :=
  ∀ before c after token fields, history = before ++ c :: after → AcceptsFor token fields c →
    (∃ i ∈ before, Issues token fields i)
      ∧ ∀ i ∈ history, ∀ other, Issues token other i → other = fields

/-- Tokens are issued for fields without the separator. -/
def IssuesFree (history : List GateStep) : Prop :=
  ∀ c ∈ history, ∀ now fields ttlSeconds, c.act = .generateToken now fields ttlSeconds →
    fields.SeparatorFree

theorem Issues.act_fields {token : String} {fields : TokenFields} {c : GateStep}
    (h : Issues token fields c) : c.act.fields = fields := by
  obtain ⟨now, ttlSeconds, issued, hact, -, -⟩ := h
  rw [hact]
  rfl

theorem Issues.token_eq {token : String} {fields : TokenFields} {c : GateStep}
    {calls : List GateCall} (hc : c ∈ steps (step hmac read) gate calls)
    (h : Issues token fields c) : token = gate.token hmac fields := by
  obtain ⟨before, call, after, rfl, rfl⟩ := mem_steps_iff.mp hc
  obtain ⟨now, ttlSeconds, issued, hact, hout, rfl⟩ := h
  rw [stepAt_act] at hact
  rw [hact, stepAt_out] at hout
  have hissued := GateAnswer.issued.inj hout
  rw [(generateToken_eq_ok hissued).2.2]
  exact token_congr (exec_secretKey gate before) fields

theorem AcceptsFor.token_eq {token : String} {fields : TokenFields} {c : GateStep}
    {calls : List GateCall} (hc : c ∈ steps (step hmac read) gate calls)
    (h : AcceptsFor token fields c) : token = gate.token hmac fields := by
  obtain ⟨before, call, after, rfl, rfl⟩ := mem_steps_iff.mp hc
  obtain ⟨now, expiresAt, -, haccepts⟩ := acceptsFor_stepAt_iff.mp h
  exact haccepts.token.trans (token_congr (exec_secretKey gate before) fields)

theorem bound_of_issuesFree {calls : List GateCall}
    (hdiffer : TokensDiffer hmac gate (steps (step hmac read) gate calls))
    (hunforgeable : Unforgeable hmac gate (steps (step hmac read) gate calls))
    (hfree : IssuesFree (steps (step hmac read) gate calls)) :
    Bound (steps (step hmac read) gate calls) := by
  have hissued : ∀ i ∈ steps (step hmac read) gate calls, ∀ token fields, Issues token fields i →
      fields.SeparatorFree := by
    rintro i hi token fields ⟨now, ttlSeconds, issued, hact, -, -⟩
    exact hfree i hi now fields ttlSeconds hact
  intro before c after token fields hsplit haccepted
  have hc : c ∈ steps (step hmac read) gate calls := by
    rw [hsplit]
    exact List.mem_append_right _ List.mem_cons_self
  have hfits := haccepted.token_eq hc
  obtain ⟨now, expiresAt, hact, -⟩ := haccepted
  constructor
  -- the text that was issued is that of the attempt, and fields without the separator
  -- are read off their text
  · obtain ⟨i, hi, other, hissues, htext⟩ :=
      hunforgeable before c after now _ hsplit hact hfits
    have hmem : i ∈ steps (step hmac read) gate calls := by
      rw [hsplit]
      exact List.mem_append_left _ hi
    obtain rfl := TokenFields.eq_of_rawMsg (hissued i hmem _ _ hissues) htext
    exact ⟨i, hi, hissues⟩
  · intro i hi other hissues
    refine TokenFields.eq_of_rawMsg (hissued i hi _ _ hissues) ?_
    have htexts := hdiffer i hi c hc
    rw [hissues.act_fields, hact] at htexts
    exact htexts ((hissues.token_eq hi).symm.trans hfits)

/-- A token that is issued and then shown with fields of the same text. -/
def shown (hmac : HmacSha256) (gate : HumanConfirmationGate) (now : Instant)
    (fields other : TokenFields) (ttlSeconds : Int) : List GateCall :=
  [.generateToken now fields ttlSeconds,
    .verifyAndConsumeToken now ⟨gate.token hmac fields, other, ""⟩]

section
variable {now : Instant} {fields other : TokenFields} {ttlSeconds : Int}

theorem shown_issues (hexpiry : addSeconds now ttlSeconds ≠ none) :
    Issues (gate.token hmac fields) fields
      (stepAt (step hmac read) gate (.generateToken now fields ttlSeconds)) := by
  obtain ⟨expiry, hadd⟩ := Option.ne_none_iff_exists'.mp hexpiry
  have hissued : gate.generateToken hmac now fields ttlSeconds
      = .ok ⟨gate.token hmac fields, gate.signature hmac fields, fields, expiry, "PENDING"⟩ := by
    rw [generateToken, hadd]
  exact ⟨now, ttlSeconds, _, rfl, congrArg GateAnswer.issued hissued, rfl⟩

theorem shown_accepted (hunused : gate.token hmac fields ∉ gate.consumedTokens)
    (htext : other.rawMsg = fields.rawMsg) :
    AcceptsFor (gate.token hmac fields) other (stepAt (step hmac read) gate
      (.verifyAndConsumeToken now ⟨gate.token hmac fields, other, ""⟩)) := by
  have htoken : gate.token hmac fields = gate.token hmac other := by
    rw [token, token, htext]
  exact acceptsFor_stepAt_iff.mpr ⟨now, "", rfl, hunused, .inl rfl, htoken⟩

theorem shown_tokensDiffer (htext : other.rawMsg = fields.rawMsg) :
    TokensDiffer hmac gate
      (steps (step hmac read) gate (shown hmac gate now fields other ttlSeconds)) := by
  have hone : ∀ c ∈ steps (step hmac read) gate (shown hmac gate now fields other ttlSeconds),
      c.act.fields.rawMsg = fields.rawMsg := by
    rw [shown, steps_cons, steps_cons, List.forall_mem_cons, List.forall_mem_cons]
    exact ⟨rfl, htext, List.forall_mem_nil _⟩
  intro c hc d hd _
  rw [hone c hc, hone d hd]

theorem shown_unforgeable (hexpiry : addSeconds now ttlSeconds ≠ none)
    (htext : other.rawMsg = fields.rawMsg) :
    Unforgeable hmac gate
      (steps (step hmac read) gate (shown hmac gate now fields other ttlSeconds)) := by
  intro before c after now' attempt hsplit hact _
  rw [shown, steps_cons, steps_cons] at hsplit
  -- the one attempt is the second call, and the first one issued its token
  cases before with
  | nil =>
      obtain ⟨rfl, -⟩ := List.cons.inj hsplit
      cases hact
  | cons i before =>
      obtain ⟨rfl, hrest⟩ := List.cons.inj hsplit
      cases before with
      | nil =>
          obtain ⟨rfl, -⟩ := List.cons.inj hrest
          cases hact
          exact ⟨_, List.mem_singleton_self _, fields, shown_issues hexpiry, htext.symm⟩
      | cons j before => cases before <;> cases hrest

theorem shown_issuesFree (hfree : fields.SeparatorFree) :
    IssuesFree (steps (step hmac read) gate (shown hmac gate now fields other ttlSeconds)) := by
  rw [IssuesFree, shown, steps_cons, steps_cons, List.forall_mem_cons, List.forall_mem_cons]
  refine ⟨?_, ?_, List.forall_mem_nil _⟩
  · intro now' fields' ttlSeconds' hact
    rw [stepAt_act] at hact
    obtain ⟨-, rfl, -⟩ := GateCall.generateToken.inj hact
    exact hfree
  · intro now' fields' ttlSeconds' hact
    rw [stepAt_act] at hact
    cases hact

theorem shown_not_bound (hexpiry : addSeconds now ttlSeconds ≠ none)
    (hunused : gate.token hmac fields ∉ gate.consumedTokens) (hne : other ≠ fields)
    (htext : other.rawMsg = fields.rawMsg) :
    ¬ Bound (steps (step hmac read) gate (shown hmac gate now fields other ttlSeconds)) := by
  intro hbound
  have hlaw := hbound [_] _ [] _ _ rfl (shown_accepted hunused htext)
  exact hne (hlaw.2 _ List.mem_cons_self fields (shown_issues hexpiry)).symm

end

end HumanConfirmationGate

open HumanConfirmationGate

/-- **In every run a token is accepted at most once and a refusal changes
    nothing; and what is accepted is what was issued, as long as tokens are issued
    for fields without the separator.**  For other fields this fails. -/
theorem token_bound {hmac : HmacSha256} {read : IsoReader} {gate : HumanConfirmationGate}
    {calls : List GateCall}
    (hdiffer : TokensDiffer hmac gate (steps (step hmac read) gate calls))
    (hunforgeable : Unforgeable hmac gate (steps (step hmac read) gate calls)) :
    (∀ token, (steps (step hmac read) gate calls).countP (accepts token) ≤ 1)
    ∧ (∀ c ∈ steps (step hmac read) gate calls, Refuses c → c.post = c.pre)
    ∧ (IssuesFree (steps (step hmac read) gate calls) →
        Bound (steps (step hmac read) gate calls))
    ∧ ∀ now fields ttlSeconds, addSeconds now ttlSeconds ≠ none →
        gate.token hmac fields ∉ gate.consumedTokens → ¬ fields.SeparatorFree →
        ∃ other : TokenFields, other ≠ fields
          ∧ TokensDiffer hmac gate
            (steps (step hmac read) gate (shown hmac gate now fields other ttlSeconds))
          ∧ Unforgeable hmac gate
            (steps (step hmac read) gate (shown hmac gate now fields other ttlSeconds))
          ∧ ¬ Bound
            (steps (step hmac read) gate (shown hmac gate now fields other ttlSeconds)) := by
  refine ⟨?_, ?_, ?_, ?_⟩
  · intro token
    exact countP_accepts_le_one token gate calls
  · intro c hc hrefuses
    exact refuses_keeps hc hrefuses
  · exact bound_of_issuesFree hdiffer hunforgeable
  · intro now fields ttlSeconds hexpiry hunused hfree
    obtain ⟨other, hne, htext⟩ := TokenFields.exists_other hfree
    exact ⟨other, hne, shown_tokensDiffer htext, shown_unforgeable hexpiry htext,
      shown_not_bound hexpiry hunused hne htext⟩

/-! The merchant of a confirmation, taken out of the request id that the other
    merchant chose. -/

namespace SampleConfirmation

theorem sample_expiry : addSeconds 0 600 ≠ none := by decide

theorem gate_unused (token : String) : token ∉ gate.consumedTokens := Finset.notMem_empty token

theorem fields_free : fields.SeparatorFree := by decide

theorem token_bound_sample :
    (steps (step hmac read) gate (shown hmac gate 0 fields fields 600)).countP
        (accepts issued.confirmationToken) ≤ 1
    ∧ Bound (steps (step hmac read) gate (shown hmac gate 0 fields fields 600)) := by
  have hlaw := @token_bound hmac read gate (shown hmac gate 0 fields fields 600)
    (shown_tokensDiffer rfl) (shown_unforgeable sample_expiry rfl)
  exact ⟨hlaw.1 issued.confirmationToken, hlaw.2.2.1 (shown_issuesFree fields_free)⟩

def movedDigest : String := "6d68f030bf338f316a0592e90ac3977d2cdf1fb3ac1a915f39fb07d26584a92e"

theorem movedDigest_digits :
    movedDigest.toList.length = 64 ∧ ∀ c ∈ movedDigest.toList, isLowerHex c = true :=
  digits_of_all (by decide) (by decide)

def movedHmac : HmacSha256 := .constant movedDigest movedDigest_digits

def movedFields : TokenFields :=
  { fields with requestId := "req_1|m_9", merchantId := "m_1", buyerId := "b_1" }

def otherFields : TokenFields :=
  { fields with requestId := "req_1", merchantId := "m_9", buyerId := "m_1|b_1" }

theorem moved_merchant_accepted :
    otherFields.merchantId ≠ movedFields.merchantId
    ∧ TokensDiffer movedHmac gate
      (steps (step movedHmac read) gate (shown movedHmac gate 0 movedFields otherFields 600))
    ∧ Unforgeable movedHmac gate
      (steps (step movedHmac read) gate (shown movedHmac gate 0 movedFields otherFields 600))
    ∧ ¬ Bound
      (steps (step movedHmac read) gate (shown movedHmac gate 0 movedFields otherFields 600)) := by
  have htext : otherFields.rawMsg = movedFields.rawMsg := by decide
  have hmerchant : otherFields.merchantId ≠ movedFields.merchantId := by decide
  refine ⟨hmerchant, shown_tokensDiffer htext, shown_unforgeable sample_expiry htext,
    shown_not_bound sample_expiry (gate_unused _) ?_ htext⟩
  intro h
  exact hmerchant (congrArg TokenFields.merchantId h)

end SampleConfirmation

end MandateGateway
