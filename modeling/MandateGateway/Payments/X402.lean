import MandateGateway.Hmac
import MandateGateway.Lib.OrderedMap
import MandateGateway.Lib.Runs
import Mathlib.Data.Fintype.EquivFin

/-! # Proofs of payment for x402 requirements

    The adapter signs a proof token while a requirement lasts.  Where a proof is
    settled, the token is looked for among the used ones and the two requirement
    hashes are compared; the signature and the time are not looked at.

    * `countP_settles_le_one`: a token is settled at most once;
    * `settlement_law`: which settlements are of issued proofs, and that every
      requirement can be settled without one. -/

namespace MandateGateway

open Runs

/-- The amount, the recipient, the network, the asset and the metadata are as the
    reply has them. -/
structure PaymentRequirementX402 where
  resourceUrl         : String
  amountPaise         : PyValue
  currency            : String
  recipientAddress    : PyValue
  network             : PyValue
  asset               : PyValue
  expirationTimestamp : Binary64
  requirementHash     : String
  metadata            : PyValue

structure PaymentProofX402 where
  requirementHash : String
  transactionHash : String
  signature       : String
  proofToken      : String
  createdAt       : Binary64

structure X402PaymentError where
  message : String
  code    : String

/-- An entry of `_settled_payments`. -/
structure SettledPayment where
  requirement : PaymentRequirementX402
  proof       : PaymentProofX402
  settledAt   : Rat
  status      : String

structure X402PaymentAdapter where
  secret          : ByteArray
  usedProofs      : Finset String
  settledPayments : OrderedMap String SettledPayment

/-- What the process supplies to an issuance: the digits of a UUID, and the
    readings of the clock for the check, the signed text and the proof. -/
structure ProofEnv where
  hex       : String
  checkedAt : Rat
  signedAt  : Rat
  createdAt : Rat

namespace X402PaymentAdapter

/-- `X402PaymentAdapter(signing_secret)`. -/
def new (signingSecret : String) : X402PaymentAdapter := ⟨signingSecret.toUTF8, ∅, .empty⟩

/-- The requirement is over at the time. -/
def Expired (now : Rat) (requirement : PaymentRequirementX402) : Prop :=
  Binary64.lt requirement.expirationTimestamp (.finite now) = true

instance (now : Rat) (requirement : PaymentRequirementX402) :
    Decidable (Expired now requirement) :=
  inferInstanceAs (Decidable (_ = _))

def generatePaymentProof (hmac : HmacSha256) (env : ProofEnv)
    (requirement : PaymentRequirementX402) (transactionId agentId : String)
    (x : X402PaymentAdapter) : Except X402PaymentError PaymentProofX402 :=
  if Expired env.checkedAt requirement then
    .error ⟨"x402 payment requirement has EXPIRED.", "REQUIREMENT_EXPIRED"⟩
  else
    let raw := requirement.requirementHash ++ ":" ++ transactionId ++ ":" ++ agentId ++ ":"
      ++ (Binary64.finite env.signedAt).text
    let sig := hmac.short x.secret raw.toUTF8
    .ok {
      requirementHash := requirement.requirementHash
      transactionHash := transactionId
      signature := sig
      proofToken := "x402_proof_" ++ String.ofList (env.hex.toList.take 12) ++ "_" ++ sig
      createdAt := .finite env.createdAt }

def verifyAndSettleProof (now : Rat) (proof : PaymentProofX402)
    (requirement : PaymentRequirementX402) (x : X402PaymentAdapter) :
    Except X402PaymentError Bool × X402PaymentAdapter :=
  if proof.proofToken ∈ x.usedProofs then
    (.error ⟨"x402 payment proof token has already been REPLAYED/USED.", "PROOF_REPLAYED"⟩, x)
  else if proof.requirementHash ≠ requirement.requirementHash then
    (.error ⟨"x402 payment proof requirement hash mismatch.", "REQUIREMENT_MISMATCH"⟩, x)
  else
    (.ok true, { x with
      usedProofs := insert proof.proofToken x.usedProofs
      settledPayments :=
        x.settledPayments.set proof.proofToken ⟨requirement, proof, now, "SETTLED"⟩ })

/-! ## What is settled -/

/-- The two checks of a settlement. -/
structure Accepts (proof : PaymentProofX402) (requirement : PaymentRequirementX402)
    (x : X402PaymentAdapter) : Prop where
  unused : proof.proofToken ∉ x.usedProofs
  hash   : proof.requirementHash = requirement.requirementHash

/-- **A proof is settled and its token used, or refused and nothing changed.** -/
theorem verifyAndSettleProof_cases (now : Rat) (proof : PaymentProofX402)
    (requirement : PaymentRequirementX402) (x : X402PaymentAdapter) :
    (Accepts proof requirement x
      ∧ ∃ x', x.verifyAndSettleProof now proof requirement = (.ok true, x')
        ∧ x'.usedProofs = insert proof.proofToken x.usedProofs)
    ∨ (¬ Accepts proof requirement x
      ∧ ∃ err, x.verifyAndSettleProof now proof requirement = (.error err, x)) := by
  rw [verifyAndSettleProof]
  by_cases hused : proof.proofToken ∈ x.usedProofs
  · rw [if_pos hused]
    exact .inr ⟨fun h => h.unused hused, _, rfl⟩
  · rw [if_neg hused]
    by_cases hhash : proof.requirementHash = requirement.requirementHash
    · rw [if_neg (not_not.mpr hhash)]
      exact .inl ⟨⟨hused, hhash⟩, _, rfl, rfl⟩
    · rw [if_pos hhash]
      exact .inr ⟨fun h => hhash h.hash, _, rfl⟩

theorem verifyAndSettleProof_eq_ok_iff {now : Rat} {proof : PaymentProofX402}
    {requirement : PaymentRequirementX402} {x : X402PaymentAdapter} :
    (x.verifyAndSettleProof now proof requirement).1 = .ok true ↔ Accepts proof requirement x := by
  rcases verifyAndSettleProof_cases now proof requirement x with
    ⟨h, x', hcall, -⟩ | ⟨h, err, hcall⟩
  · rw [hcall]
    exact iff_of_true rfl h
  · rw [hcall]
    exact iff_of_false nofun h

end X402PaymentAdapter

/-! ## Runs -/

/-- The operations that read or change the state of the adapter. -/
inductive X402Call where
  | generatePaymentProof (env : ProofEnv) (requirement : PaymentRequirementX402)
      (transactionId agentId : String)
  | verifyAndSettleProof (now : Rat) (proof : PaymentProofX402)
      (requirement : PaymentRequirementX402)

/-- What an operation returns or raises. -/
inductive X402Answer where
  | issued (result : Except X402PaymentError PaymentProofX402)
  | settled (result : Except X402PaymentError Bool)

namespace X402PaymentAdapter

/-- One operation. -/
def step (hmac : HmacSha256) (x : X402PaymentAdapter) :
    X402Call → X402Answer × X402PaymentAdapter
  | .generatePaymentProof env requirement transactionId agentId =>
      (.issued (x.generatePaymentProof hmac env requirement transactionId agentId), x)
  | .verifyAndSettleProof now proof requirement =>
      let (result, x') := x.verifyAndSettleProof now proof requirement
      (.settled result, x')

abbrev X402Step := Step X402PaymentAdapter X402Call X402Answer

def Issues (proof : PaymentProofX402) (requirement : PaymentRequirementX402) (c : X402Step) :
    Prop :=
  ∃ env transactionId agentId,
    c.act = .generatePaymentProof env requirement transactionId agentId
      ∧ c.out = .issued (.ok proof)

def settles (token : String) (c : X402Step) : Bool :=
  match c.act, c.out with
  | .verifyAndSettleProof _ proof _, .settled (.ok _) => proof.proofToken == token
  | _, _ => false

/-- The past issued the proof for the requirement, which is not over. -/
def Genuine (past : List X402Step) (now : Rat) (proof : PaymentProofX402)
    (requirement : PaymentRequirementX402) : Prop :=
  (∃ i ∈ past, Issues proof requirement i) ∧ ¬ Expired now requirement

def SettlesGenuine (history : List X402Step) : Prop :=
  ∀ before c after now proof requirement, history = before ++ c :: after →
    c.act = .verifyAndSettleProof now proof requirement → c.out = .settled (.ok true) →
    Genuine before now proof requirement

/-- Every proof that is shown is used, or of another requirement, or genuine. -/
def ShownGenuine (history : List X402Step) : Prop :=
  ∀ before c after now proof requirement, history = before ++ c :: after →
    c.act = .verifyAndSettleProof now proof requirement →
    proof.proofToken ∈ c.pre.usedProofs
      ∨ proof.requirementHash ≠ requirement.requirementHash
      ∨ Genuine before now proof requirement

variable {hmac : HmacSha256} {x : X402PaymentAdapter}

theorem out_settled_iff {now : Rat} {proof : PaymentProofX402}
    {requirement : PaymentRequirementX402} {c : X402Step} {calls : List X402Call}
    (hc : c ∈ steps (step hmac) x calls)
    (hact : c.act = .verifyAndSettleProof now proof requirement) :
    c.out = .settled (.ok true) ↔ Accepts proof requirement c.pre := by
  obtain ⟨l, call, _, rfl, rfl⟩ := mem_steps_iff.mp hc
  obtain rfl : call = _ := hact
  rw [stepAt_pre, ← verifyAndSettleProof_eq_ok_iff, stepAt_out]
  show X402Answer.settled (verifyAndSettleProof now proof requirement _).1 = _ ↔ _
  rw [X402Answer.settled.injEq]

theorem settles_stepAt {token : String} {call : X402Call}
    (h : settles token (stepAt (step hmac) x call) = true) :
    token ∉ x.usedProofs ∧ token ∈ (step hmac x call).2.usedProofs := by
  cases call with
  | generatePaymentProof env requirement transactionId agentId => cases h
  | verifyAndSettleProof now proof requirement =>
      rw [settles, stepAt_act, stepAt_out] at h
      rw [step] at h ⊢
      rcases verifyAndSettleProof_cases now proof requirement x with
        ⟨haccepts, x', hcall, hpost⟩ | ⟨-, err, hcall⟩
      · rw [hcall] at h ⊢
        obtain rfl := eq_of_beq h
        refine ⟨haccepts.unused, ?_⟩
        rw [hpost]
        exact Finset.mem_insert_self _ _
      · rw [hcall] at h
        cases h

theorem usedProofs_kept {token : String} (call : X402Call) (h : token ∈ x.usedProofs) :
    token ∈ (step hmac x call).2.usedProofs := by
  cases call with
  | generatePaymentProof env requirement transactionId agentId => exact h
  | verifyAndSettleProof now proof requirement =>
      rw [step]
      rcases verifyAndSettleProof_cases now proof requirement x with
        ⟨-, x', hcall, hpost⟩ | ⟨-, err, hcall⟩
      · rw [hcall]
        show token ∈ x'.usedProofs
        rw [hpost]
        exact Finset.mem_insert_of_mem h
      · rw [hcall]
        exact h

/-- **A token is settled at most once.** -/
theorem countP_settles_le_one (token : String) (x : X402PaymentAdapter) (calls : List X402Call) :
    (steps (step hmac) x calls).countP (settles token) ≤ 1 := by
  refine countP_le_one_of_latch (L := fun y => token ∈ y.usedProofs) (G := fun _ => True)
    ?_ ?_ ?_ x calls (fun _ _ => trivial)
  · intro y call h
    exact (settles_stepAt h).1
  · intro y call _ h
    exact (settles_stepAt h).2
  · intro y call h
    exact usedProofs_kept call h

theorem settlesGenuine_iff (hmac : HmacSha256) (x : X402PaymentAdapter) (calls : List X402Call) :
    SettlesGenuine (steps (step hmac) x calls) ↔ ShownGenuine (steps (step hmac) x calls) := by
  refine forall_congr' fun before => forall_congr' fun c => forall_congr' fun after =>
    forall_congr' fun now => forall_congr' fun proof => forall_congr' fun requirement =>
    forall_congr' fun hsplit => forall_congr' fun hact => ?_
  have hc : c ∈ steps (step hmac) x calls := by
    rw [hsplit]
    exact List.mem_append_right _ List.mem_cons_self
  rw [out_settled_iff hc hact]
  -- a settlement depends on the use and on the hash of the proof, and on nothing else
  constructor
  · intro hlaw
    by_cases hused : proof.proofToken ∈ c.pre.usedProofs
    · exact .inl hused
    · by_cases hhash : proof.requirementHash = requirement.requirementHash
      · exact .inr (.inr (hlaw ⟨hused, hhash⟩))
      · exact .inr (.inl hhash)
  · rintro (hused | hhash | hgenuine) haccepts
    · exact absurd hused haccepts.unused
    · exact absurd haccepts.hash hhash
    · exact hgenuine

/-! ## Proofs that nobody issued -/

def issuedToken (c : X402Step) : Option String :=
  match c.out with
  | .issued (.ok proof) => some proof.proofToken
  | _ => none

/-- **Every requirement can be settled by a proof that was not issued.** -/
theorem exists_forged (hmac : HmacSha256) (x : X402PaymentAdapter) (calls : List X402Call)
    (now : Rat) (requirement : PaymentRequirementX402) :
    ∃ proof : PaymentProofX402,
      (∀ i ∈ steps (step hmac) x calls, ∀ other, ¬ Issues proof other i)
        ∧ ((exec (step hmac) x calls).verifyAndSettleProof now proof requirement).1
          = .ok true := by
  -- a token that is neither used nor issued
  obtain ⟨token, htoken⟩ := Infinite.exists_notMem_finset
    ((exec (step hmac) x calls).usedProofs
      ∪ ((steps (step hmac) x calls).filterMap issuedToken).toFinset)
  rw [Finset.mem_union, not_or, List.mem_toFinset] at htoken
  refine ⟨⟨requirement.requirementHash, "", "", token, .finite now⟩, ?_, ?_⟩
  · rintro i hi other ⟨env, transactionId, agentId, hact, hout⟩
    refine htoken.2 (List.mem_filterMap.mpr ⟨i, hi, ?_⟩)
    rw [issuedToken, hout]
  · exact verifyAndSettleProof_eq_ok_iff.mpr ⟨htoken.1, rfl⟩

/-- **In every run a token is settled at most once; the settlements are of issued
    proofs in time exactly when every proof shown that passes the two checks is;
    and at every time a proof that nobody issued passes them.** -/
theorem settlement_law (hmac : HmacSha256) (x : X402PaymentAdapter) (calls : List X402Call) :
    (SettlesGenuine (steps (step hmac) x calls) ↔ ShownGenuine (steps (step hmac) x calls))
    ∧ (∀ token, (steps (step hmac) x calls).countP (settles token) ≤ 1)
    ∧ ∀ now requirement, ∃ proof : PaymentProofX402,
        (∀ i ∈ steps (step hmac) x calls, ∀ other, ¬ Issues proof other i)
          ∧ ((exec (step hmac) x calls).verifyAndSettleProof now proof requirement).1
            = .ok true :=
  ⟨settlesGenuine_iff hmac x calls, fun token => countP_settles_le_one token x calls,
    exists_forged hmac x calls⟩

end X402PaymentAdapter

/-! A requirement of five minutes, and a proof made up for it. -/

namespace SampleX402

def zeros : String := "0000000000000000000000000000000000000000000000000000000000000000"

theorem zeros_digits : zeros.toList.length = 64 ∧ ∀ c ∈ zeros.toList, isLowerHex c = true :=
  digits_of_all (by decide) (by decide)

def hmac : HmacSha256 := .constant zeros zeros_digits

def adapter : X402PaymentAdapter := .new "x402_proof_signing_secret_key_m26"

def requirement : PaymentRequirementX402 where
  resourceUrl := "/premium"
  amountPaise := .int 50000
  currency := "INR"
  recipientAddress := .str "merchant_default_x402"
  network := .str "lightning_or_razorpay"
  asset := .str "INR"
  expirationTimestamp := .finite 300
  requirementHash := "0123456789abcdef0123456789abcdef"
  metadata := .dict []

def forged : PaymentProofX402 where
  requirementHash := "0123456789abcdef0123456789abcdef"
  transactionHash := "tx"
  signature := ""
  proofToken := "made_up"
  createdAt := .finite 0

end SampleX402

open SampleX402 X402PaymentAdapter in
/-- The proof is settled without an issuance, and after the time. -/
theorem forged_proof_settled :
    (adapter.verifyAndSettleProof 1000 forged requirement).1 = .ok true
    ∧ Expired 1000 requirement
    ∧ ¬ SettlesGenuine (steps (step hmac) adapter
        [.verifyAndSettleProof 1000 forged requirement]) := by
  have hok : (adapter.verifyAndSettleProof 1000 forged requirement).1 = .ok true :=
    verifyAndSettleProof_eq_ok_iff.mpr ⟨Finset.notMem_empty _, rfl⟩
  refine ⟨hok, rfl, ?_⟩
  intro hlaw
  obtain ⟨⟨i, hi, -⟩, -⟩ := hlaw [] _ [] 1000 forged requirement rfl rfl
    (congrArg X402Answer.settled hok)
  cases hi

end MandateGateway
