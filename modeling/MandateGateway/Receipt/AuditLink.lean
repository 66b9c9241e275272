import MandateGateway.Receipt.Verifier

/-! # Receipts and the audit ledger

    A receipt carries the hash of its transaction's latest event, and is
    compared with the event that is the latest when it is verified.  It stays
    valid through any events of other transactions, and no longer than until
    the next event of its own (`valid_until_next_event`). -/

namespace MandateGateway

open Clock HashChain LocalLedger Runs

namespace ReceiptVerifier

/-! ## The latest event of a transaction -/

/-- The events that further appends add. -/
def laterEvents (sha256 : String → String) (ledger : LocalLedger) (more : List LedgerCall) :
    List AuditEvent :=
  (steps (LocalLedger.step sha256) ledger more).filterMap returned

section
variable {sha256 : String → String} {calls more : List LedgerCall} {tx : String}
  {e e' : AuditEvent}

/-- The ledger after some appends. -/
def ledgerAfter (sha256 : String → String) (calls : List LedgerCall) : LocalLedger :=
  exec (LocalLedger.step sha256) LocalLedger.new calls

theorem ledgerAfter_events :
    (ledgerAfter sha256 (calls ++ more)).events
      = (ledgerAfter sha256 calls).events
        ++ laterEvents sha256 (ledgerAfter sha256 calls) more := by
  have hall := (recorded_run sha256 (calls ++ more)).2.1
  have hfirst := (recorded_run sha256 calls).2.1
  rw [steps_append, List.filterMap_append, ← hfirst] at hall
  exact hall

theorem mem_of_latestEvent {ledger : LocalLedger} (h : latestEvent ledger tx = some e) :
    e ∈ ledger.events ∧ e.transactionId = some tx := by
  rw [latestEvent] at h
  have hmatches := List.find?_some h
  exact ⟨List.mem_reverse.mp (List.mem_of_find?_eq_some h), of_decide_eq_true hmatches⟩

theorem latestEvent_of_others (h : latestEvent (ledgerAfter sha256 calls) tx = some e)
    (hothers : ∀ e' ∈ laterEvents sha256 (ledgerAfter sha256 calls) more,
      e'.transactionId ≠ some tx) :
    latestEvent (ledgerAfter sha256 (calls ++ more)) tx = some e := by
  have hnone : (laterEvents sha256 (ledgerAfter sha256 calls) more).reverse.find?
      (fun e => e.transactionId = some tx) = none := by
    rw [List.find?_eq_none]
    intro e' he'
    rw [decide_eq_true_eq]
    exact hothers e' (List.mem_reverse.mp he')
  rw [latestEvent, ledgerAfter_events, List.reverse_append, List.find?_append, hnone]
  exact h

theorem latestEvent_of_own
    (h : ∃ e' ∈ laterEvents sha256 (ledgerAfter sha256 calls) more, e'.transactionId = some tx) :
    ∃ e' ∈ laterEvents sha256 (ledgerAfter sha256 calls) more,
      latestEvent (ledgerAfter sha256 (calls ++ more)) tx = some e' := by
  obtain ⟨e', he', htx⟩ := h
  have hfound : ((laterEvents sha256 (ledgerAfter sha256 calls) more).reverse.find?
      (fun e => e.transactionId = some tx)).isSome = true := by
    rw [List.find?_isSome]
    exact ⟨e', List.mem_reverse.mpr he', decide_eq_true htx⟩
  obtain ⟨latest, hlatest⟩ := Option.isSome_iff_exists.mp hfound
  refine ⟨latest, List.mem_reverse.mp (List.mem_of_find?_eq_some hlatest), ?_⟩
  rw [latestEvent, ledgerAfter_events, List.reverse_append, List.find?_append, hlatest]
  rfl

theorem later_hash_ne (hsha : Function.Injective sha256)
    (hgenesis : ∀ text, sha256 text ≠ AuditLedger.genesisHash)
    (he : e ∈ (ledgerAfter sha256 calls).events)
    (he' : e' ∈ laterEvents sha256 (ledgerAfter sha256 calls) more) :
    e'.eventHash ≠ e.eventHash := by
  have hchain : Chained sha256 AuditLedger.genesisHash
      (ledgerAfter sha256 (calls ++ more)).events (ledgerAfter sha256 (calls ++ more)).headHash :=
    (recorded_run sha256 (calls ++ more)).1
  obtain ⟨l, m, hsplit⟩ := List.append_of_mem he
  obtain ⟨m', r, hsplit'⟩ := List.append_of_mem he'
  rw [ledgerAfter_events, hsplit, hsplit', List.append_assoc, List.cons_append,
    ← List.append_assoc m] at hchain
  refine hchain.hash_ne_of_later (R := fun x y => x.toAuditFields.SameHeader y.toAuditFields) ?_ ?_
  · intro x y hx hy hhash
    have hheader := (AuditEvent.same_of_hash hsha hx hy hhash).1
    exact ⟨hheader, hheader.previousHash⟩
  · intro x hx hhash
    rw [AuditEvent.Intact, AuditFields.computeEventHash_eq, Option.map_eq_some_iff] at hx
    obtain ⟨payload, -, hdigest⟩ := hx
    exact hgenesis _ (hdigest.trans hhash)

end

/-! ## Receipts of a ledger -/

section
variable {ed : Ed25519} {sha256 : String → String} {conv : FieldConversions}
  {defaults : ReceiptDefaults} {parseText : List String → String} {input : KeyInput}
  {expected : ExpectedBindings} {presented : PresentedReceipt} {r : ActionReceipt}

theorem verify_of_passes {ledger : LocalLedger}
    (hread : presented.read sha256 conv defaults = some r)
    (h : Passes ed sha256 r input expected) :
    verify ed sha256 conv defaults parseText presented input expected (some ledger)
      = verifyAuditLink sha256 r ledger := by
  have hreceipt : verify ed sha256 conv defaults parseText presented input expected (some ledger)
      = verifyReceipt ed sha256 r input expected (some ledger) := by
    cases presented with
    | receipt r' =>
        cases hread
        rfl
    | dict d =>
        rw [PresentedReceipt.read] at hread
        rw [verify]
        cases hfields : ActionReceipt.fromFields conv defaults sha256 d with
        | faulty faults =>
            rw [hfields] at hread
            cases hread
        | valid r' =>
            rw [hfields] at hread
            cases hread
            rfl
  obtain ⟨hcomplete, hhash, hpresent, ⟨keyObj, hload, hcheck⟩, hbindings⟩ := h
  rw [hreceipt, verifyReceipt.eq_def, if_neg hcomplete, if_neg (not_not.mpr hhash), if_neg hpresent,
    hload]
  dsimp only
  rw [hcheck]
  exact if_neg (not_not.mpr hbindings)

theorem read_receipt (r : ActionReceipt) :
    (PresentedReceipt.receipt r).read sha256 conv defaults = some r := rfl

theorem valid_of_linked {ledger : LocalLedger}
    (hread : presented.read sha256 conv defaults = some r)
    (h : Passes ed sha256 r input expected) (hlinked : Linked sha256 r ledger) :
    ReportsValid
      (verify ed sha256 conv defaults parseText presented input expected (some ledger)) := by
  refine verify_valid_iff.mpr ⟨r, hread, h, ?_⟩
  intro ledger' hledger
  rw [← Option.some.inj hledger]
  exact hlinked

theorem verifyAuditLink_mismatch {ledger : LocalLedger} {event : AuditEvent} {auditHash : String}
    (hhash : r.auditHash = some auditHash) (hpresent : auditHash ≠ "")
    (hchain : ledger.verifyChain sha256 = some (true, none))
    (hlatest : latestEvent ledger r.transactionId = some event)
    (hdiffers : event.eventHash ≠ auditHash) :
    verifyAuditLink sha256 r ledger = .ok ⟨.json (.str r.receiptId), false, true, true, true, true,
      some false, some (auditMismatchText auditHash event.eventHash)⟩ := by
  rw [verifyAuditLink, hhash, Option.getD_some, if_neg hpresent, hchain]
  dsimp only
  rw [if_neg (by decide), hlatest]
  exact if_pos hdiffers

end

/-- **A receipt that is signed with the hash of its transaction's latest event
    is valid with that ledger until the next event of the transaction**: events
    of others leave it valid, and after one of its own the report is that the
    digests differ. -/
theorem valid_until_next_event (ed : Ed25519) (conv : FieldConversions)
    (parseText : List String → String) {sha256 : String → String} (hcorrect : ed.Correct)
    (hsha : Function.Injective sha256) (hdigest : ∀ t, sha256 t ≠ "")
    (hgenesis : ∀ t, sha256 t ≠ AuditLedger.genesisHash) (key : ed.PrivateKey) (env : SignEnv)
    (call : SignCall) (r : ActionReceipt)
    (hsign : signReceipt ed sha256 conv env key call = .ok r) (hid : call.receiptId ≠ some "")
    (calls : List LedgerCall) (event : AuditEvent)
    (hlatest : latestEvent (ledgerAfter sha256 calls) call.transactionId = some event)
    (haudit : call.auditHash = some event.eventHash) (input : KeyInput)
    (hform : (ed.publicKey key).Form input) (expected : ExpectedBindings)
    (hmatches : expected.Matches r) (defaults : ReceiptDefaults) (presented : PresentedReceipt)
    (hread : presented.read sha256 conv defaults = some r) (more : List LedgerCall) :
    (ReportsValid (verify ed sha256 conv defaults parseText presented input expected
        (some (ledgerAfter sha256 (calls ++ more))))
      ↔ ∀ e ∈ laterEvents sha256 (ledgerAfter sha256 calls) more,
        e.transactionId ≠ some call.transactionId)
    ∧ ((∃ e ∈ laterEvents sha256 (ledgerAfter sha256 calls) more,
        e.transactionId = some call.transactionId) →
      ∃ e, latestEvent (ledgerAfter sha256 (calls ++ more)) call.transactionId = some e
        ∧ verify ed sha256 conv defaults parseText presented input expected
            (some (ledgerAfter sha256 (calls ++ more)))
          = .ok ⟨.json (.str r.receiptId), false, true, true, true, true, some false,
            some (auditMismatchText event.eventHash e.eventHash)⟩) := by
  have hpasses := passes_of_signed hcorrect hdigest hsign hid hform hmatches
  obtain ⟨-, σ, -, rfl⟩ := (signReceipt_eq_ok_iff hdigest).mp hsign
  have hevent := (mem_of_latestEvent hlatest).1
  have hchain := verifyChain_iff.mpr (recorded_run sha256 (calls ++ more)).1
  have hpresent : event.eventHash ≠ "" := by
    have hintact := (recorded_run sha256 calls).1.valid event hevent
    rw [AuditEvent.Intact, AuditFields.computeEventHash_eq, Option.map_eq_some_iff] at hintact
    obtain ⟨payload, -, hhash⟩ := hintact
    rw [← hhash]
    exact hdigest _
  have hown : (∃ e ∈ laterEvents sha256 (ledgerAfter sha256 calls) more,
      e.transactionId = some call.transactionId) →
      ∃ e, latestEvent (ledgerAfter sha256 (calls ++ more)) call.transactionId = some e
        ∧ verify ed sha256 conv defaults parseText presented input expected
            (some (ledgerAfter sha256 (calls ++ more)))
          = .ok ⟨.json (.str ((call.described env).signed sha256 σ).receiptId), false, true, true,
            true, true, some false, some (auditMismatchText event.eventHash e.eventHash)⟩ := by
    intro h
    obtain ⟨e, he, hlast⟩ := latestEvent_of_own h
    refine ⟨e, hlast, (verify_of_passes hread hpasses).trans ?_⟩
    exact verifyAuditLink_mismatch haudit hpresent hchain hlast
      (later_hash_ne hsha hgenesis hevent he)
  refine ⟨?_, hown⟩
  constructor
  · intro hvalid e he htx
    obtain ⟨e', -, hreport⟩ := hown ⟨e, he, htx⟩
    rw [hreport] at hvalid
    exact not_reportsValid_refused rfl hvalid
  · intro hothers
    have hhash : ((call.described env).signed sha256 σ).auditHash.getD "" = event.eventHash := by
      show call.auditHash.getD "" = _
      rw [haudit]
      rfl
    refine valid_of_linked hread hpasses
      ⟨?_, ⟨none, hchain⟩, event, latestEvent_of_others hlatest hothers, hhash.symm⟩
    rw [hhash]
    exact hpresent

/-! ## A receipt that outlives its link -/

namespace Sample

open Json LocalLedger.Sample

theorem fifth_second : 5 < 60 := by decide

theorem ninth_second : 9 < 60 := by decide

def paid : LedgerCall where
  env := ⟨noon 5 fifth_second, "e-1"⟩
  call := ⟨.paymentSuccess, some "tx-1", none, none, none, none, none⟩

def released : LedgerCall where
  env := ⟨noon 9 ninth_second, "e-2"⟩
  call := ⟨.reservationReleased, some "tx-1", none, none, none, none, none⟩

def paidTree : Tree := hashed paid AuditLedger.genesisHash []

def releasedTree : Tree := hashed released auditDigest []

def releasedDigest : String := "4a864658d3c7403b6eaf1b4b6826ab00df026ded590fc44a4bf1787c37090ed7"

def linkDigests : List (String × String) := [
  (paidTree.text, auditDigest),
  (releasedTree.text, releasedDigest),
  ((call.described env).canonical.compact, payloadDigest)]

theorem marked : ∀ d ∈ [auditDigest, releasedDigest, payloadDigest], d.toList.head? ≠ some '#' := by
  decide

theorem linkDigests_injective : Function.Injective (knownDigests linkDigests) := by
  refine knownDigests_injective marked ?_
  show [auditDigest, releasedDigest, payloadDigest].Nodup
  decide

theorem linkDigests_ne {p : String} (hp : p.toList.head? ≠ some '#')
    (hfresh : p ∉ [auditDigest, releasedDigest, payloadDigest]) :
    ∀ t, knownDigests linkDigests t ≠ p :=
  knownDigests_ne hp hfresh

theorem compact_third (v : Json) (ms : List (String × Json)) :
    ((compact (.obj (("amount_paise", v) :: ms))).toList.drop 2).head? = some 'a' := by
  rw [toList_compact, render, renderMembers_cons]
  rfl

theorem text_third (v : Tree) (ms : List (String × Tree)) :
    ((Tree.obj (("buyer_id", v) :: ms)).text.toList.drop 2).head? = some 'b' := by
  rw [Tree.text, String.toList_ofList, Tree.render, Tree.renderMembers, toList_stringText]
  cases ms <;> rfl

theorem payload_ne_event (r : ActionReceipt) (f : AuditFields) (payload : Tree) :
    (Tree.obj (f.members payload)).text ≠ r.canonical.compact := by
  intro h
  have hthird := text_third (AuditFields.textOrNull f.buyerId) (f.members payload).tail
  rw [show ("buyer_id", AuditFields.textOrNull f.buyerId) :: (f.members payload).tail
    = f.members payload from rfl, h] at hthird
  cases (compact_third _ _).symm.trans hthird

theorem paid_ne_released : paidTree.text ≠ releasedTree.text := by
  refine fun h => absurd (Tree.text_injective h) ?_
  rw [paidTree, releasedTree, hashed, hashed, Tree.obj.injEq]
  intro hmembers
  exact absurd (AuditFields.members_injective hmembers).1.eventId (by decide)

theorem digest_paid : knownDigests linkDigests
    (hashed paid LocalLedger.new.headHash []).text = auditDigest :=
  knownDigests_cons_self paidTree.text _ _

theorem digest_released (events : List AuditEvent) : knownDigests linkDigests
    (hashed released (LocalLedger.mk events auditDigest).headHash []).text = releasedDigest := by
  show knownDigests linkDigests releasedTree.text = releasedDigest
  rw [linkDigests, knownDigests_cons_of_ne paid_ne_released, knownDigests_cons_self]

theorem digest_payload :
    (call.described env).computeCanonicalHash (knownDigests linkDigests) = payloadDigest := by
  have hpaid : paidTree.text ≠ (call.described env).canonical.compact :=
    payload_ne_event _ (newFields paid.env paid.call AuditLedger.genesisHash) _
  have hreleased : releasedTree.text ≠ (call.described env).canonical.compact :=
    payload_ne_event _ (newFields released.env released.call auditDigest) _
  rw [ActionReceipt.computeCanonicalHash, linkDigests, knownDigests_cons_of_ne hpaid,
    knownDigests_cons_of_ne hreleased, knownDigests_cons_self]

def paidEvent : AuditEvent :=
  ⟨newFields paid.env paid.call AuditLedger.genesisHash, auditDigest⟩

def releasedEvent : AuditEvent := ⟨newFields released.env released.call auditDigest, releasedDigest⟩

theorem step_of_digest {sha256 : String → String} {digest : String} (c : LedgerCall)
    (ledger : LocalLedger) (hpayload : c.call.payload = none)
    (h : sha256 (hashed c ledger.headHash []).text = digest) :
    LocalLedger.step sha256 ledger c = (.ok ⟨newFields c.env c.call ledger.headHash, digest⟩,
      ⟨ledger.events ++ [⟨newFields c.env c.call ledger.headHash, digest⟩], digest⟩) := by
  have hnone : c.call.payload.getD [] = PyJson.ofMembers [] := by
    rw [hpayload]
    rfl
  have hsorted : Tree.sortKeys (.obj []) = .obj [] := rfl
  have happend := appendEvent_of_tree sha256 c.env c.call ledger [] hnone
  rw [hsorted] at happend
  rw [LocalLedger.step, happend, ← h]
  rfl

theorem ledgerAfter_paid :
    ledgerAfter (knownDigests linkDigests) [paid] = ⟨[paidEvent], auditDigest⟩ := by
  rw [ledgerAfter, exec_cons, exec_nil, step_of_digest paid _ rfl digest_paid]
  rfl

theorem laterEvents_released :
    laterEvents (knownDigests linkDigests) (ledgerAfter (knownDigests linkDigests) [paid])
      [released] = [releasedEvent] := by
  rw [ledgerAfter_paid, laterEvents, steps_cons, steps_nil, List.filterMap_cons, returned,
    stepAt_out, step_of_digest released _ rfl (digest_released _)]
  rfl

def linkedReceipt : ActionReceipt :=
  (call.described env).signed (knownDigests linkDigests) signatureBytes

theorem signReceipt_linked :
    signReceipt scheme (knownDigests linkDigests) .strict env () call = .ok linkedReceipt := by
  refine (signReceipt_eq_ok_iff (linkDigests_ne (by decide) (by decide))).mpr
    ⟨described_wellFormed, signatureBytes, ?_, rfl⟩
  rw [ActionReceipt.canonicalPayloadHash_hashed, digest_payload]
  exact scheme_sign

theorem ledgerAfter_released :
    (ledgerAfter (knownDigests linkDigests) ([paid] ++ [released])).events
      = [paidEvent, releasedEvent] := by
  rw [ledgerAfter_events, laterEvents_released, ledgerAfter_paid]
  rfl

theorem latestEvent_paid :
    latestEvent (ledgerAfter (knownDigests linkDigests) [paid]) call.transactionId
      = some paidEvent := by
  rw [ledgerAfter_paid]
  rfl

theorem latestEvent_released :
    latestEvent (ledgerAfter (knownDigests linkDigests) ([paid] ++ [released])) call.transactionId
      = some releasedEvent := by
  rw [latestEvent, ledgerAfter_released]
  rfl

theorem linkDigests_ne_empty : ∀ t, knownDigests linkDigests t ≠ "" :=
  linkDigests_ne (by decide) (by decide)

theorem linkDigests_ne_genesis : ∀ t, knownDigests linkDigests t ≠ AuditLedger.genesisHash :=
  linkDigests_ne (by decide) (by decide)

theorem linkedReceipt_passes :
    Passes scheme (knownDigests linkDigests) linkedReceipt (.object (scheme.publicKey ())) {} :=
  passes_of_signed Ed25519.known_correct linkDigests_ne_empty signReceipt_linked (by decide)
    .object (nothing_expected _)

theorem linkedReceipt_transaction : linkedReceipt.transactionId = call.transactionId := rfl

theorem linkedReceipt_auditHash : linkedReceipt.auditHash = some auditDigest := rfl

theorem auditDigest_ne_empty : auditDigest ≠ "" := by
  decide

theorem paidEvent_hash : paidEvent.eventHash = auditDigest := rfl

theorem releasedEvent_transaction : releasedEvent.transactionId = some call.transactionId := rfl

theorem releasedEvent_hash : releasedEvent.eventHash = releasedDigest := rfl

theorem linkedReceipt_linked :
    Linked (knownDigests linkDigests) linkedReceipt
      (ledgerAfter (knownDigests linkDigests) [paid]) := by
  have hhash : linkedReceipt.auditHash.getD "" = auditDigest := by
    rw [linkedReceipt_auditHash, Option.getD_some]
  refine ⟨?_, ⟨none, verifyChain_iff.mpr (recorded_run _ [paid]).1⟩, paidEvent, ?_, ?_⟩
  · rw [hhash]
    exact auditDigest_ne_empty
  · rw [linkedReceipt_transaction]
    exact latestEvent_paid
  · rw [hhash, paidEvent_hash]

/-- **A valid receipt becomes invalid when its transaction goes on.** -/
theorem receipt_expires_with_next_event :
    ReportsValid (verify scheme (knownDigests linkDigests) .strict env.defaults (fun _ => "")
        (.receipt linkedReceipt) (.object (scheme.publicKey ())) {}
        (some (ledgerAfter (knownDigests linkDigests) [paid])))
      ∧ verify scheme (knownDigests linkDigests) .strict env.defaults (fun _ => "")
          (.receipt linkedReceipt) (.object (scheme.publicKey ())) {}
          (some (ledgerAfter (knownDigests linkDigests) ([paid] ++ [released])))
        = .ok ⟨.json (.str linkedReceipt.receiptId), false, true, true, true, true, some false,
          some (auditMismatchText auditDigest releasedDigest)⟩ := by
  constructor
  · exact valid_of_linked (read_receipt linkedReceipt) linkedReceipt_passes linkedReceipt_linked
  · have hlatest := latestEvent_released
    rw [← linkedReceipt_transaction] at hlatest
    have hdiffers : releasedEvent.eventHash ≠ auditDigest := by
      rw [releasedEvent_hash]
      decide
    have hmismatch := verifyAuditLink_mismatch linkedReceipt_auditHash auditDigest_ne_empty
      (verifyChain_iff.mpr (recorded_run _ ([paid] ++ [released])).1) hlatest hdiffers
    rw [releasedEvent_hash] at hmismatch
    exact (verify_of_passes (read_receipt linkedReceipt) linkedReceipt_passes).trans hmismatch

/-- The receipt is valid with the ledger that it was signed for, and no longer
    with the one that follows. -/
theorem linkedReceipt_until_released :
    ReportsValid (verify scheme (knownDigests linkDigests) .strict env.defaults (fun _ => "")
        (.receipt linkedReceipt) (.object (scheme.publicKey ())) {}
        (some (ledgerAfter (knownDigests linkDigests) ([paid] ++ []))))
      ∧ ¬ ReportsValid (verify scheme (knownDigests linkDigests) .strict env.defaults (fun _ => "")
        (.receipt linkedReceipt) (.object (scheme.publicKey ())) {}
        (some (ledgerAfter (knownDigests linkDigests) ([paid] ++ [released])))) := by
  have hlink := valid_until_next_event scheme .strict (fun _ => "") Ed25519.known_correct
    linkDigests_injective linkDigests_ne_empty linkDigests_ne_genesis () env call linkedReceipt
    signReceipt_linked (by decide) [paid] paidEvent latestEvent_paid
    (congrArg some paidEvent_hash.symm) (.object (scheme.publicKey ())) .object {}
    (nothing_expected _) env.defaults (.receipt linkedReceipt) (read_receipt linkedReceipt)
  have hnew : releasedEvent ∈ laterEvents (knownDigests linkDigests)
      (ledgerAfter (knownDigests linkDigests) [paid]) [released] := by
    rw [laterEvents_released]
    exact List.mem_singleton_self _
  constructor
  · exact (hlink []).1.mpr (List.forall_mem_nil _)
  · intro hvalid
    exact (hlink [released]).1.mp hvalid releasedEvent hnew releasedEvent_transaction

end Sample

end ReceiptVerifier

end MandateGateway
