import MandateGateway.Orchestrator.Idempotency
import MandateGateway.Receipt.Verifier

/-! # What a result says of its payment

    The orchestrator writes the receipt and the state of a result by hand,
    beside the payment service and the receipt signer.  The signature is a
    label with random digits, which no verifier can decode: the result of a
    payment never agrees with it.

    * `decodeText_signatureText`: the label is not a text in base64;
    * `sound_exec`: what is stored in a run, and what is cached;
    * `mirrors_iff`: a result agrees with its payment exactly when there was
      none. -/

namespace MandateGateway

open Runs PaymentExecutionService ReceiptVerifier

/-! ## The signature -/

namespace OrchestratorCall

theorem inAlphabet_of_isLowerHex {c : Char} (h : isLowerHex c = true) :
    Base64.inAlphabet c = true ∧ c ≠ '=' := by
  have hrange := range_of_isLowerHex h
  constructor
  · rw [Base64.inAlphabet, Base64.value]
    rcases hrange with ⟨hlow, hhigh⟩ | ⟨hlow, hhigh⟩
    · rw [if_neg (by omega), if_neg (by omega), if_pos ⟨hlow, hhigh⟩]
      rfl
    · rw [if_neg (by omega), if_pos ⟨hlow, by omega⟩]
      rfl
  · rintro rfl
    exact absurd h (by decide)

theorem label_countP : "ed25519:sig_".toList.countP Base64.inAlphabet = 10 := by decide

theorem label_unpadded : '=' ∉ "ed25519:sig_".toList := by decide

/-- **The signature of a receipt is not a text in base64**: of its characters 42
    are in the alphabet. -/
theorem decodeText_signatureText (c : OrchestratorCall) :
    ∃ exc, decodeText c.signatureText = .error exc := by
  obtain ⟨hlength, hdigits⟩ := (c.env.uuid .signature).digits
  have hchars : c.signatureText.toList
      = "ed25519:sig_".toList ++ (c.env.uuid .signature).hex.toList := by
    rw [signatureText, String.toList_append]
  have hcount : c.signatureText.toList.countP Base64.inAlphabet = 42 := by
    rw [hchars, List.countP_append, label_countP, List.countP_eq_length.mpr, hlength]
    intro d hd
    exact (inAlphabet_of_isLowerHex (hdigits d hd)).1
  have hpad : '=' ∉ c.signatureText.toList := by
    rw [hchars, List.mem_append, not_or]
    refine ⟨label_unpadded, ?_⟩
    intro hd
    exact (inAlphabet_of_isLowerHex (hdigits _ hd)).2 rfl
  rw [decodeText]
  cases asciiRefusal c.signatureText with
  | some message => exact ⟨message, rfl⟩
  | none =>
      dsimp only
      cases hdecode : Base64.decode c.signatureText with
      | error exc => exact ⟨exc, rfl⟩
      | ok data =>
          have hgroups := Base64.decode_unpadded hpad hdecode
          rw [hcount] at hgroups
          exact absurd hgroups (by decide)

end OrchestratorCall

/-! ## What a result has to agree with -/

/-- The orchestrator's signing key, with what a verification is made with. -/
structure ReceiptSigning where
  ed        : Ed25519
  key       : ed.PrivateKey
  conv      : FieldConversions
  defaults  : ReceiptDefaults
  parseText : List String → String

namespace EndToEndExecutionResult

/-- The bindings of a result, with the hash of the cart that was paid. -/
def bindings (service : PaymentExecutionService) (res : EndToEndExecutionResult) :
    ExpectedBindings where
  transactionId := some res.transactionId
  mandateId := some res.mandateId
  merchantId := some res.merchantId
  amountPaise := some res.amountPaise
  cartHash := (service.transactions.get res.transactionId).bind Transaction.cartHash

/-- The result agrees with its payment: there is a receipt for a committed
    payment only, it verifies under the signing key with the bindings of the
    result, and the state is the stored one. -/
structure Mirrors (sha : Sha256) (signing : ReceiptSigning) (service : PaymentExecutionService)
    (res : EndToEndExecutionResult) : Prop where
  committed : res.receipt.isSome = true
    ↔ ∃ tx, service.transactions.get res.transactionId = some tx ∧ tx.state = .committed
  verified  : ∀ r ∈ res.receipt,
    ReportsValid (verify signing.ed sha.hexdigest signing.conv signing.defaults signing.parseText
      (.dict r.dump) (.object (signing.ed.publicKey signing.key)) (res.bindings service) none)
  state     : ∀ tx, service.transactions.get res.transactionId = some tx →
    res.transactionState = tx.state

/-- How a result is written: with a receipt that no one signed, or without one
    and in a state that no payment is stored in. -/
structure Labelled (res : EndToEndExecutionResult) : Prop where
  allowed  : res.overallDecision = .allow →
    ∃ r, res.receipt = some r ∧ ∃ exc, decodeText (r.signature.getD "") = .error exc
  withheld : res.overallDecision ≠ .allow →
    res.receipt = none
      ∧ (res.transactionState = .stepUpRequired ∨ res.transactionState = .rejected)

end EndToEndExecutionResult

theorem not_reportsValid_dump {ed : Ed25519} {sha256 : String → String} {conv : FieldConversions}
    {defaults : ReceiptDefaults} {parseText : List String → String} {r : ActionReceipt}
    {key : KeyInput} {expected : ExpectedBindings} {exc : String}
    (h : decodeText (r.signature.getD "") = .error exc) :
    ¬ ReportsValid (verify ed sha256 conv defaults parseText (.dict r.dump) key expected none) := by
  rw [verify_valid_iff]
  rintro ⟨r', hread, hpasses, -⟩
  rw [PresentedReceipt.read] at hread
  cases hfields : ActionReceipt.fromFields conv defaults sha256 r.dump with
  | faulty faults =>
      rw [hfields] at hread
      cases hread
  | valid r'' =>
      rw [hfields] at hread
      obtain rfl := Option.some.inj hread
      obtain ⟨keyObj, -, hcheck⟩ := hpasses.signature
      rw [checkSignature, ActionReceipt.signature_of_fromFields_dump hfields, h] at hcheck
      cases hcheck

namespace EndToEndExecutionResult

section
variable {sha : Sha256} {signing : ReceiptSigning} {service : PaymentExecutionService}
  {res : EndToEndExecutionResult}

/-- The result of a payment agrees with nothing. -/
theorem Labelled.not_mirrors (h : res.Labelled) (hallow : res.overallDecision = .allow) :
    ¬ res.Mirrors sha signing service := by
  intro hmirrors
  obtain ⟨r, hr, exc, hexc⟩ := h.allowed hallow
  exact not_reportsValid_dump hexc (hmirrors.verified r hr)

end

end EndToEndExecutionResult

/-! ## What is stored -/

/-- A state in which the service stores a transaction that passed its gate. -/
def TransactionState.Attempted (s : TransactionState) : Prop :=
  s = .executing ∨ s = .committed ∨ s = .rolledBack

/-- Every stored transaction has passed the gate. -/
def AllAttempted (service : PaymentExecutionService) : Prop :=
  ∀ t tx, service.transactions.get t = some tx → tx.state.Attempted

section
variable {service service' : PaymentExecutionService} {adapter : RazorpayAdapter} {o : CallOutcome}

theorem AllAttempted.set (h : AllAttempted service) {t : String} {tx : Transaction}
    (htx : tx.state.Attempted) (results : OrderedMap String ExecutionResult)
    (audit : List ExecutionAuditEvidence) :
    AllAttempted { service with
      transactions := service.transactions.set t tx
      results := results
      auditEvents := audit } := by
  intro u tx' hu
  by_cases hut : u = t
  · rw [hut, OrderedMap.get_set_self] at hu
    obtain rfl := Option.some.inj hu
    exact htx
  · exact h u tx' ((OrderedMap.get_set_of_ne _ hut _).symm.trans hu)

theorem AllAttempted.reconciled (h : AllAttempted service) {t : String} {ext : Option String}
    (heffect : ReconcileEffect service adapter t ext o service') : AllAttempted service' := by
  cases heffect with
  | notFound => exact h
  | cached => exact h
  | raised => exact h
  | settled _ _ _ _ hstate => exact h.set (.inr hstate) _ _
  | undecided => exact h

theorem AllAttempted.executed (h : AllAttempted service) {proposal : PaymentExecuteProposalRequest}
    {auth : AuthorizationResult} {tx : Transaction}
    (hgate : executionGate proposal auth tx = .ok none)
    (heffect : ExecuteEffect service adapter proposal auth tx o service') :
    AllAttempted service' := by
  cases heffect with
  | replayed => exact h
  | reconciled _ _ hreconcile => exact h.reconciled hreconcile
  | refused _ hrefused =>
      rw [hgate] at hrefused
      cases hrefused
  | unprintable _ hraised =>
      rw [hgate] at hraised
      cases hraised
  | ambiguous _ _ hclaim => exact h.set (.inl hclaim.executing) _ _
  | answered _ _ _ _ _ _ hstatus =>
      refine h.set ?_ _ _
      rcases hstatus with ⟨hstate, -⟩ | ⟨hstate, -⟩
      · exact .inl hstate
      · exact .inr hstate

theorem AllAttempted.internal (h : AllAttempted service) {sha : Sha256} {c : OrchestratorCall}
    {result : Except PyError EndToEndExecutionResult} {payment : Option CallOutcome}
    (heffect : c.InternalEffect sha service result payment service') : AllAttempted service' := by
  cases heffect with
  | raised => exact h
  | withheld => exact h
  | @attempted cart auth _ _ _ _ _ hgate =>
      rcases c.pay_cases sha cart auth service with hpay | ⟨-, o, s', hpay, hexecute⟩
      · rw [hpay]
        exact h
      · rw [hpay]
        exact h.executed hgate hexecute

end

/-- The result of a pipeline is labelled. -/
theorem OrchestratorCall.InternalEffect.labelled {sha : Sha256} {c : OrchestratorCall}
    {service service' : PaymentExecutionService} {res : EndToEndExecutionResult}
    {payment : Option CallOutcome}
    (h : c.InternalEffect sha service (.ok res) payment service') : res.Labelled := by
  cases h with
  | withheld _ _ _ hdecision hstate =>
      exact ⟨fun h => absurd h hdecision, fun _ => ⟨rfl, hstate⟩⟩
  | attempted _ _ _ hdecision =>
      exact ⟨fun _ => ⟨_, rfl, c.decodeText_signatureText⟩, fun h => absurd hdecision h⟩

namespace CommerceOrchestrator

/-- What holds of an orchestrator in any run. -/
structure Sound (o : CommerceOrchestrator) : Prop where
  cached : ∀ key res, o.executedIntents.get key = some res → res.Labelled
  stored : AllAttempted o.executionService

theorem new_sound : Sound new where
  cached := by
    intro key res h
    cases h
  stored := by
    intro t tx h
    cases h

theorem Sound.executeIntent {o : CommerceOrchestrator} (h : Sound o) (sha : Sha256)
    (c : OrchestratorCall) : Sound (o.executeIntent sha c).2 := by
  have heffect := intent_effect sha o c
  generalize CommerceOrchestrator.executeIntent sha o c = r at heffect ⊢
  obtain ⟨outcome, o'⟩ := r
  cases heffect with
  | cached => exact h
  | raised => exact h
  | returned _ hinternal =>
      refine ⟨?_, h.stored.internal hinternal⟩
      intro key res hres
      by_cases hkey : key = c.request.idempotencyKey
      · simp only [hkey, OrderedMap.get_set_self] at hres
        obtain rfl := Option.some.inj hres
        exact hinternal.labelled
      · simp only [OrderedMap.get_set_of_ne _ hkey] at hres
        exact h.cached key res hres

theorem sound_exec (sha : Sha256) (calls : List OrchestratorCall) :
    Sound (exec (executeIntent sha) new calls) :=
  exec_inv (fun _ c h => h.executeIntent sha c) new_sound calls

/-! ## Agreement -/

/-- What a call returns agrees with its payment. -/
def Faithful (sha : Sha256) (signing : ReceiptSigning) (c : IntentStep) : Prop :=
  ∀ res, c.out.result = .ok res → res.Mirrors sha signing c.post.executionService

/-- The call meets no payment: it raises, it is not allowed to pay, or it
    repeats a call that was not; nor is there one under the transaction that
    it names. -/
structure Unpaid (o : CommerceOrchestrator) (c : OrchestratorCall) : Prop where
  repeated : ∀ res, o.executedIntents.get c.request.idempotencyKey = some res →
    res.overallDecision ≠ .allow
      ∧ o.executionService.transactions.get res.transactionId = none
  first    : o.executedIntents.get c.request.idempotencyKey = none → c.Completes →
    ¬ c.Allowed ∧ o.executionService.transactions.get c.transactionId = none

/-- **A result agrees with its payment exactly when it is of no payment**, and
    none is stored under its transaction. -/
theorem mirrors_iff (sha : Sha256) (signing : ReceiptSigning) {service : PaymentExecutionService}
    {res : EndToEndExecutionResult} (hstored : AllAttempted service) (hres : res.Labelled) :
    res.Mirrors sha signing service
      ↔ res.overallDecision ≠ .allow ∧ service.transactions.get res.transactionId = none := by
  by_cases hdecision : res.overallDecision = .allow
  · exact iff_of_false (hres.not_mirrors hdecision) fun h => h.1 hdecision
  rw [and_iff_right hdecision]
  obtain ⟨hreceipt, hstate⟩ := hres.withheld hdecision
  constructor
  · intro h
    cases htx : service.transactions.get res.transactionId with
    | none => rfl
    | some tx =>
        have hattempted := hstored _ tx htx
        rw [← h.state tx htx] at hattempted
        rcases hstate with hs | hs
        · rw [hs] at hattempted
          exact absurd hattempted (by simp [TransactionState.Attempted])
        · rw [hs] at hattempted
          exact absurd hattempted (by simp [TransactionState.Attempted])
  · intro hnone
    refine ⟨?_, ?_, ?_⟩
    · rw [hreceipt, hnone]
      simp
    · rw [hreceipt]
      intro r hr
      cases hr
    · rw [hnone]
      intro tx htx
      cases htx

theorem faithful_iff_unpaid {o : CommerceOrchestrator} (h : Sound o) (sha : Sha256)
    (signing : ReceiptSigning) (c : OrchestratorCall) :
    Faithful sha signing (stepAt (executeIntent sha) o c) ↔ Unpaid o c := by
  have heffect := intent_effect sha o c
  rw [Faithful, stepAt_out, stepAt_post]
  generalize executeIntent sha o c = r at heffect ⊢
  obtain ⟨outcome, o'⟩ := r
  cases heffect with
  | @cached res hkey =>
      have hmirrors := mirrors_iff sha signing h.stored (h.cached _ res hkey)
      constructor
      · intro hall
        refine ⟨?_, ?_⟩
        · intro res' hres'
          obtain rfl := Option.some.inj (hkey.symm.trans hres')
          exact hmirrors.mp (hall res rfl)
        · intro hnone
          rw [hkey] at hnone
          cases hnone
      · rintro hunpaid res' ⟨⟩
        exact hmirrors.mpr (hunpaid.repeated res hkey)
  | raised hkey hnot =>
      refine iff_of_true ?_ ⟨?_, fun _ hcompletes => absurd hcompletes hnot⟩
      · intro res hres
        cases hres
      · intro res hres
        rw [hkey] at hres
        cases hres
  | @returned res payment service hkey hinternal =>
      have hmirrors : res.Mirrors sha signing service ↔ ¬ c.Allowed
          ∧ o.executionService.transactions.get c.transactionId = none := by
        rw [mirrors_iff sha signing (h.stored.internal hinternal) hinternal.labelled,
          hinternal.transactionId_eq]
        cases hinternal with
        | withheld _ _ hnot hdecision => exact and_congr_left' (iff_of_true hdecision hnot)
        | attempted _ _ hallowed hdecision =>
            exact iff_of_false (fun h => h.1 hdecision) fun h => h.1 hallowed
      constructor
      · intro hall
        refine ⟨?_, fun _ _ => hmirrors.mp (hall res rfl)⟩
        intro res' hres'
        rw [hkey] at hres'
        cases hres'
      · rintro hunpaid res' ⟨⟩
        exact hmirrors.mpr (hunpaid.first hkey (hinternal.completes_iff.mpr ⟨_, rfl⟩))

/-- **What a call of any run returns agrees with its payment exactly when the
    call meets none.** -/
theorem run_faithful_iff (sha : Sha256) (signing : ReceiptSigning)
    (calls : List OrchestratorCall) (c : OrchestratorCall) :
    Faithful sha signing (stepAt (executeIntent sha) (exec (executeIntent sha) new calls) c)
      ↔ Unpaid (exec (executeIntent sha) new calls) c :=
  faithful_iff_unpaid (sound_exec sha calls) sha signing c

/-- The key pair of a signed receipt. -/
def sampleSigning : ReceiptSigning :=
  ⟨ReceiptVerifier.Sample.scheme, (), .strict, ReceiptVerifier.Sample.env.defaults, fun _ => ""⟩

open OrchestratorCall.Sample in
/-- A purchase that the provider takes has a receipt which does not verify. -/
theorem purchase_not_faithful :
    ¬ Faithful digests sampleSigning
      (stepAt (executeIntent digests) new (call firstUuid "buy_user_orch" owner_ne)) := by
  rw [faithful_iff_unpaid new_sound]
  intro h
  exact (h.first rfl (completes_call _ _)).1 (reaches_call _ _).allowed

end CommerceOrchestrator

end MandateGateway
