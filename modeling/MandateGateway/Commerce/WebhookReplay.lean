import MandateGateway.Commerce.Webhooks
import MandateGateway.Lib.Runs
import Mathlib.Data.Fintype.EquivFin

/-! # Captured webhooks

    Of what a call brings, the body alone is signed.  A sender who has captured a
    signed body can show it with other identifiers, times and payloads.

    * `captured_law`: captured bodies shown with what they were sent with are
      dispatched once, in time and as they say; with a new identifier and the
      time of the clock, any of them is dispatched again, as anything. -/

namespace MandateGateway

open Clock Json Runs

/-- What a signed body was first sent with, and the payload that it encodes. -/
structure Capture where
  eventId   : String
  timestamp : Int
  payload   : Value

namespace CommerceWebhookHandler

/-- A call, and what it reads off the clock. -/
abbrev HandlerCall : Type := WebhookClock × MerchantWebhook

/-- What a call returns or raises. -/
abbrev HandlerAnswer : Type := Except CommerceWebhookError CommerceWebhookResult

def step (lib : HandlerLibrary) (h : CommerceWebhookHandler) (call : HandlerCall) :
    HandlerAnswer × CommerceWebhookHandler :=
  h.processWebhook lib call.1 call.2

abbrev HandlerStep := Step CommerceWebhookHandler HandlerCall HandlerAnswer

/-- The step dispatches an event: its identifier is new, and is processed. -/
def Dispatches (c : HandlerStep) : Prop :=
  c.act.2.eventId ∉ c.pre.processedEvents ∧ c.act.2.eventId ∈ c.post.processedEvents

/-- The signature of the call is verified. -/
def Verified (lib : HandlerLibrary) (c : HandlerStep) : Prop :=
  c.pre.verifySignature lib c.act.2.rawBody c.act.2.signature = .ok true

section
variable (lib : HandlerLibrary) (captured : ByteArray → Option Capture)

/-- A sender without the secret has verified signatures of captured bodies only. -/
def Unforgeable (history : List HandlerStep) : Prop :=
  ∀ c ∈ history, Verified lib c → (captured c.act.2.rawBody).isSome

/-- The call brings the identifier, the time and the payload of its body. -/
def CarriesOwn (c : HandlerStep) : Prop :=
  ∀ o, captured c.act.2.rawBody = some o →
    c.act.2.eventId = o.eventId ∧ lib.conv.int c.act.2.timestampHeader = some o.timestamp
      ∧ c.act.2.payload = o.payload

/-- What is dispatched is a captured body, within the window of its own time, and
    its own payload. -/
def DispatchesOwn (c : HandlerStep) : Prop :=
  Dispatches c → ∃ o, captured c.act.2.rawBody = some o
    ∧ (c.act.1.seconds - o.timestamp).natAbs ≤ 300
    ∧ (c.out, c.post.orderVerifier)
      = dispatch lib c.act.1 c.act.2.eventId o.payload c.pre.orderVerifier

end

variable {lib : HandlerLibrary} {captured : ByteArray → Option Capture}
  {h : CommerceWebhookHandler}

/-- No body is dispatched by two steps. -/
def DispatchedOnce (history : List HandlerStep) : Prop :=
  history.Pairwise fun c d => c.act.2.rawBody = d.act.2.rawBody → Dispatches c → ¬ Dispatches d

theorem dispatches_stepAt_iff {call : HandlerCall} :
    Dispatches (stepAt (step lib) h call) ↔ Admits lib call.1 call.2 h := by
  rcases processWebhook_cases lib call.1 call.2 h with ⟨hadmits, hcall⟩ | ⟨hadmits, hpost⟩
  · refine iff_of_true ⟨hadmits.unseen, ?_⟩ hadmits
    rw [stepAt_post, step, hcall]
    exact Finset.mem_insert_self _ _
  · refine iff_of_false ?_ hadmits
    rintro ⟨hnew, hprocessed⟩
    rw [stepAt_post, step, hpost] at hprocessed
    exact hnew hprocessed

theorem processedEvents_kept {eventId : String} (call : HandlerCall)
    (hmem : eventId ∈ h.processedEvents) : eventId ∈ (step lib h call).2.processedEvents := by
  rcases processWebhook_cases lib call.1 call.2 h with ⟨-, hcall⟩ | ⟨-, hpost⟩
  · rw [step, hcall]
    exact Finset.mem_insert_of_mem hmem
  · rw [step, hpost]
    exact hmem

theorem dispatches_pairwise (h : CommerceWebhookHandler) (calls : List HandlerCall) :
    (steps (step lib) h calls).Pairwise fun c d =>
      Dispatches c → Dispatches d → c.act.2.eventId ≠ d.act.2.eventId := by
  induction calls generalizing h with
  | nil => exact List.Pairwise.nil
  | cons call calls ih =>
      rw [steps_cons, List.pairwise_cons]
      refine ⟨?_, ih _⟩
      intro d hd hfirst hlater hsame
      obtain ⟨l, call', _, rfl, rfl⟩ := mem_steps_iff.mp hd
      refine hlater.1 ?_
      rw [← hsame]
      -- what the first step processed is still there
      exact exec_inv (I := fun g : CommerceWebhookHandler =>
          (stepAt (step lib) h call).act.2.eventId ∈ g.processedEvents)
        (fun g call hmem => processedEvents_kept call hmem) hfirst.2 l

theorem dispatchedOnce_of_own {calls : List HandlerCall}
    (hunforgeable : Unforgeable lib captured (steps (step lib) h calls))
    (hown : ∀ c ∈ steps (step lib) h calls, CarriesOwn lib captured c) :
    DispatchedOnce (steps (step lib) h calls) := by
  refine (dispatches_pairwise h calls).imp_of_mem ?_
  intro c d hc hd hdiffer hbody hfirst hlater
  have hverified : Verified lib c := by
    obtain ⟨l, call, _, rfl, rfl⟩ := mem_steps_iff.mp hc
    exact (dispatches_stepAt_iff.mp hfirst).signed
  obtain ⟨o, ho⟩ := Option.isSome_iff_exists.mp (hunforgeable c hc hverified)
  -- the body has one identifier, and no identifier is dispatched twice
  have hfirstId := (hown c hc o ho).1
  rw [hbody] at ho
  exact hdiffer hfirst hlater (hfirstId.trans (hown d hd o ho).1.symm)

theorem dispatchesOwn_of_own {calls : List HandlerCall}
    (hunforgeable : Unforgeable lib captured (steps (step lib) h calls))
    (hown : ∀ c ∈ steps (step lib) h calls, CarriesOwn lib captured c) :
    ∀ c ∈ steps (step lib) h calls, DispatchesOwn lib captured c := by
  intro c hc hdispatches
  have hunforged := hunforgeable c hc
  have hcarries := hown c hc
  obtain ⟨l, call, _, rfl, rfl⟩ := mem_steps_iff.mp hc
  have hadmits := dispatches_stepAt_iff.mp hdispatches
  obtain ⟨o, ho⟩ := Option.isSome_iff_exists.mp (hunforged hadmits.signed)
  obtain ⟨-, htime, hpayload⟩ := hcarries o ho
  refine ⟨o, ho, ?_, ?_⟩
  · obtain ⟨event, hevent, hwindow⟩ := hadmits.fresh
    obtain rfl := Option.some.inj (hevent.symm.trans htime)
    exact hwindow
  · rcases processWebhook_cases lib call.1 call.2 (exec (step lib) h l) with
      ⟨-, hcall⟩ | ⟨hnot, -⟩
    · rw [stepAt_out, stepAt_post, stepAt_pre, stepAt_act, step, hcall, ← hpayload]
      rfl
    · exact absurd hadmits hnot

/-- **A captured body can be dispatched again at any time, as any payload.** -/
theorem admits_again (hread : ∀ i : Int, lib.conv.int (toString i) = some i)
    {rawBody : ByteArray} {signature : String}
    (hverified : h.verifySignature lib rawBody signature = .ok true) (clock : WebhookClock)
    (payload : Value) :
    ∃ eventId header, Admits lib clock ⟨rawBody, signature, eventId, header, payload⟩ h := by
  obtain ⟨eventId, hunseen⟩ := Infinite.exists_notMem_finset h.processedEvents
  refine ⟨eventId, toString clock.seconds, hverified, ⟨clock.seconds, hread _, ?_⟩, hunseen⟩
  rw [Int.sub_self]
  decide

/-- **Captured bodies that are shown with what they were sent with are dispatched
    at most once, in time and as what they encode.**  With a new identifier and
    the time of the clock a captured body is dispatched again, as any payload. -/
theorem captured_law {calls : List HandlerCall}
    (hunforgeable : Unforgeable lib captured (steps (step lib) h calls)) :
    ((∀ c ∈ steps (step lib) h calls, CarriesOwn lib captured c) →
      DispatchedOnce (steps (step lib) h calls)
        ∧ ∀ c ∈ steps (step lib) h calls, DispatchesOwn lib captured c)
    ∧ ((∀ i : Int, lib.conv.int (toString i) = some i) →
      ∀ rawBody signature, h.verifySignature lib rawBody signature = .ok true →
        ∀ clock payload, ∃ eventId header,
          Admits lib clock ⟨rawBody, signature, eventId, header, payload⟩ h) := by
  constructor
  · intro hown
    exact ⟨dispatchedOnce_of_own hunforgeable hown, dispatchesOwn_of_own hunforgeable hown⟩
  · intro hread rawBody signature hverified clock payload
    exact admits_again hread hverified clock payload

end CommerceWebhookHandler

/-! An order that is confirmed at 1000 seconds, and its body shown a day later. -/

namespace SampleWebhook

open CommerceWebhookHandler

def digest : String := "ed9fd72b171ccbba3c43e4d28707816a9d86acd95aaca71413c48129b6ae5ace"

theorem digest_digits :
    digest.toList.length = 64 ∧ ∀ c ∈ digest.toList, isLowerHex c = true :=
  digits_of_all (by decide) (by decide)

def firstEvidence : String := "427728832851e7049c01e37413c181adb5480aa1f645699aa9192401af5e3cbc"

def laterEvidence : String := "36e5cde5ef07edd0742ff7df1868e7fcb3614e4da85ab08a242e48439171d24a"

def evidence (text : String) : String :=
  if text = "outcome_m_ord_1||m_ord_1|1970-01-01T00:16:40+00:00" then firstEvidence
  else laterEvidence

theorem evidence_digits (text : String) : (evidence text).toList.length = 64
    ∧ ∀ c ∈ (evidence text).toList, isLowerHex c = true := by
  rw [evidence]
  by_cases h : text = "outcome_m_ord_1||m_ord_1|1970-01-01T00:16:40+00:00"
  · rw [if_pos h]
    exact digits_of_all (by decide) (by decide)
  · rw [if_neg h]
    exact digits_of_all (by decide) (by decide)

def readInt (text : String) : Option Int :=
  if text = "1000" then some 1000
  else if text = "87400" then some 87400
  else if text = "0" then some 0 else none

def writeStr : Value → String
  | .str s => s
  | .int i => toString i
  | _ => ""

def lib : HandlerLibrary where
  hmac := .constant digest digest_digits
  sha := ⟨evidence, evidence_digits⟩
  conv := ⟨writeStr, readInt⟩

def rawBody : ByteArray :=
  "\x7b\"event\":\"order.confirmed\",\"merchant_order_id\":\"m_ord_1\"\x7d".toUTF8

def payload (merchantOrderId : String) : Value :=
  .obj [("event", .str "order.confirmed"), ("merchant_order_id", .str merchantOrderId)]

def handler : CommerceWebhookHandler := ⟨.empty, "whsec_cafe_acme_live_m25", ∅⟩

def capture : Capture := ⟨"evt_1", 1000, payload "m_ord_1"⟩

def captured (body : ByteArray) : Option Capture :=
  if body.data.toList = rawBody.data.toList then some capture else none

theorem captured_rawBody : captured rawBody = some capture := if_pos rfl

def original : HandlerCall :=
  (⟨1000, 1000000000, 1000000000⟩,
    ⟨rawBody, "sha256=" ++ digest, "evt_1", "1000", payload "m_ord_1"⟩)

def again : HandlerCall :=
  (⟨87400, 87400000000, 87400000000⟩,
    ⟨rawBody, "sha256=" ++ digest, "evt_2", "87400", payload "m_ord_2"⟩)

theorem rawBody_size : rawBody.size ≠ 0 := by decide

theorem signature_clean : Text.strip (Text.remove "sha256=" ("sha256=" ++ digest)) = digest := by
  decide +kernel

theorem verified (h : CommerceWebhookHandler) :
    h.verifySignature lib rawBody ("sha256=" ++ digest) = .ok true :=
  verifySignature_digest rawBody_size (by decide) signature_clean

theorem admits_original : Admits lib original.1 original.2 handler :=
  ⟨verified _, ⟨1000, rfl, by decide⟩, Finset.notMem_empty _⟩

theorem processedEvents_original :
    (step lib handler original).2.processedEvents = {"evt_1"} := by
  rcases processWebhook_cases lib original.1 original.2 handler with ⟨-, hcall⟩ | ⟨hnot, -⟩
  · rw [step, hcall]
    rfl
  · exact absurd admits_original hnot

theorem admits_other : Admits lib again.1 again.2 (step lib handler original).2 := by
  refine ⟨verified _, ⟨87400, rfl, by decide⟩, ?_⟩
  rw [processedEvents_original, Finset.mem_singleton]
  decide

theorem unforgeable_of_rawBody {calls : List HandlerCall}
    (h : ∀ call ∈ calls, call.2.rawBody = rawBody) :
    Unforgeable lib captured (steps (step lib) handler calls) := by
  intro c hc _
  obtain ⟨l, call, r, rfl, rfl⟩ := mem_steps_iff.mp hc
  rw [stepAt_act, h call (List.mem_append_right _ List.mem_cons_self), captured_rawBody]
  rfl

end SampleWebhook

open SampleWebhook CommerceWebhookHandler in
/-- The captured body is dispatched a second time, a day late and as another
    order. -/
theorem captured_body_replayed :
    Unforgeable lib captured (steps (step lib) handler [original, again])
    ∧ ¬ DispatchedOnce (steps (step lib) handler [original, again])
    ∧ ¬ DispatchesOwn lib captured (stepAt (step lib) (step lib handler original).2 again) := by
  refine ⟨unforgeable_of_rawBody ?_, ?_, ?_⟩
  · rw [List.forall_mem_cons, List.forall_mem_cons]
    exact ⟨rfl, rfl, List.forall_mem_nil _⟩
  · intro honce
    rw [DispatchedOnce, steps_cons, List.pairwise_cons] at honce
    exact honce.1 _ List.mem_cons_self rfl (dispatches_stepAt_iff.mpr admits_original)
      (dispatches_stepAt_iff.mpr admits_other)
  · intro hown
    obtain ⟨o, ho, hwindow, -⟩ := hown (dispatches_stepAt_iff.mpr admits_other)
    obtain rfl : capture = o := Option.some.inj (captured_rawBody.symm.trans ho)
    exact absurd hwindow (by decide)

open SampleWebhook CommerceWebhookHandler in
/-- The captured body is shown twice as it was sent. -/
theorem captured_law_sample :
    DispatchedOnce (steps (step lib) handler [original, original]) := by
  have hlaw := @captured_law lib captured handler [original, original] (unforgeable_of_rawBody (by
    rw [List.forall_mem_cons, List.forall_mem_cons]
    exact ⟨rfl, rfl, List.forall_mem_nil _⟩))
  refine (hlaw.1 ?_).1
  intro c hc o ho
  obtain ⟨l, call, r, hsplit, rfl⟩ := mem_steps_iff.mp hc
  have hcall : call ∈ [original, original] := by
    rw [hsplit]
    exact List.mem_append_right _ List.mem_cons_self
  obtain rfl : call = original := by simpa using hcall
  obtain rfl : capture = o := Option.some.inj (captured_rawBody.symm.trans ho)
  exact ⟨rfl, rfl, rfl⟩

end MandateGateway
