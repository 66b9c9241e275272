import MandateGateway.Audit.Ledger
import MandateGateway.Lib.UniqueRows

/-! # The audit repository in full

    The table of audit events with payloads and timestamps of every form, its
    append, and the verification of what is stored.  The hash of an append is
    taken of the values that it is given, and that of the verification of what
    the stored row is read as: they agree for timestamps with an offset and for
    payloads whose keys are in the order of their texts (`rowIntact_iff`). -/

namespace MandateGateway

open Clock HashChain Json Json.Tree Runs

/-- A row of `audit_events`. -/
structure AuditEventModel where
  eventId        : String
  sequenceNumber : Nat
  eventType      : String
  transactionId  : Option String
  mandateId      : Option String
  merchantId     : Option String
  buyerId        : Option String
  payloadJson    : String
  previousHash   : String
  eventHash      : String
  timestamp      : Datetime
deriving DecidableEq

def uniqueColumns : List (AuditEventModel → String ⊕ Nat) := [
  fun e => .inl e.eventId,
  fun e => .inr e.sequenceNumber,
  fun e => .inl e.eventHash]

/-- The table `audit_events`. -/
abbrev AuditTable : Type := UniqueRows uniqueColumns

/-- The arguments of an append to the repository; the type of the event is
    given as it is or by its value. -/
structure RepositoryCall where
  eventType     : String ⊕ AuditEventType
  transactionId : Option String
  mandateId     : Option String
  merchantId    : Option String
  buyerId       : Option String
  payload       : Option (List (PyKey × PyJson))
  at?           : Option Datetime
  eventId?      : Option String

namespace AuditRepository

def getAllEvents (t : AuditTable) : List AuditEventModel :=
  t.rows.insertionSort fun a b => a.sequenceNumber ≤ b.sequenceNumber

/-- `get_latest_event`: the last one by sequence number. -/
def getLatestEvent (t : AuditTable) : Option AuditEventModel := (getAllEvents t).getLast?

/-- The sequence number and the previous hash of the next event. -/
structure Head where
  nextSeq  : Nat
  prevHash : String
deriving DecidableEq

/-- What an append reads. -/
def readHead (t : AuditTable) : Head :=
  match getLatestEvent t with
  | none => ⟨1, AuditLedger.genesisHash⟩
  | some latest => ⟨latest.sequenceNumber + 1, latest.eventHash⟩

/-- `AuditEventType(str(event_type))`, unless it is one already. -/
def resolveType : String ⊕ AuditEventType → Except AppendError AuditEventType
  | .inr t => .ok t
  | .inl value =>
      match AuditEventType.ofValue value with
      | none => .error (.valueError s!"{Text.quoted value} is not a valid AuditEventType")
      | some t => .ok t

def newFields (env : AppendEnv) (call : RepositoryCall) (eventType : AuditEventType)
    (head : Head) : AuditFields where
  eventId := orElseText call.eventId? env.uuid
  eventType := eventType
  timestamp := call.at?.getD env.now
  transactionId := call.transactionId
  mandateId := call.mandateId
  merchantId := call.merchantId
  buyerId := call.buyerId
  payload := .dict (call.payload.getD [])
  previousHash := head.prevHash

def rowOf (fields : AuditFields) (sequenceNumber : Nat) (payloadJson eventHash : String) :
    AuditEventModel where
  eventId := fields.eventId
  sequenceNumber := sequenceNumber
  eventType := fields.eventType.value
  transactionId := fields.transactionId
  mandateId := fields.mandateId
  merchantId := fields.merchantId
  buyerId := fields.buyerId
  payloadJson := payloadJson
  previousHash := fields.previousHash
  eventHash := eventHash
  timestamp := fields.timestamp

def newRow (sha256 : String → String) (env : AppendEnv) (call : RepositoryCall) (head : Head) :
    Except AppendError AuditEventModel :=
  match resolveType call.eventType with
  | .error err => .error err
  | .ok eventType =>
      let fields := newFields env call eventType head
      match fields.computeEventHash sha256 with
      | none => .error .typeError
      | some eventHash =>
          match PyJson.dumps fields.payload with
          | none => .error .typeError
          | some payloadJson => .ok (rowOf fields head.nextSeq payloadJson eventHash)

/-- `session.add` and the flush; what breaks a constraint is rolled back. -/
def insertRow (row : AuditEventModel) (t : AuditTable) :
    Except AppendError AuditEventModel × AuditTable :=
  match t.insert row with
  | some t' => (.ok row, t')
  | none =>
      (.error (.valueError (s!"Failed to append audit event {row.eventId} at sequence "
        ++ s!"{row.sequenceNumber}: integrity constraint violated.")), t)

/-- The part of `append_event` that follows the reading of the head. -/
def appendBehind (sha256 : String → String) (env : AppendEnv) (call : RepositoryCall)
    (head : Head) (t : AuditTable) : Except AppendError AuditEventModel × AuditTable :=
  match newRow sha256 env call head with
  | .error err => (.error err, t)
  | .ok row => insertRow row t

def appendEvent (sha256 : String → String) (env : AppendEnv) (call : RepositoryCall)
    (t : AuditTable) : Except AppendError AuditEventModel × AuditTable :=
  appendBehind sha256 env call (readHead t) t

/-! ## Verification -/

/-- `timestamp.replace(tzinfo=timezone.utc)`, for a naive one. -/
def assumeUtc (t : Datetime) : Datetime := if t.Naive then t.inUtc else t

def readFields (row : AuditEventModel) (eventType : AuditEventType) (payload : PyJson) :
    AuditFields where
  eventId := row.eventId
  eventType := eventType
  timestamp := assumeUtc row.timestamp
  transactionId := row.transactionId
  mandateId := row.mandateId
  merchantId := row.merchantId
  buyerId := row.buyerId
  payload := payload
  previousHash := row.previousHash

/-- `json.loads(payload_json) if payload_json else {}`. -/
def readPayload (payloadJson : String) : Option PyJson :=
  if payloadJson = "" then some (.dict []) else PyJson.loads payloadJson

/-- What `verify_chain` reports of a row: `none` where it is intact. -/
def rowFault (sha256 decodeError : String → String) (row : AuditEventModel) :
    Except AppendError (Option String) :=
  match readPayload row.payloadJson with
  | none => .ok (some (s!"Invalid payload_json at sequence {row.sequenceNumber}: "
      ++ decodeError row.payloadJson))
  | some payload =>
      match AuditEventType.ofValue row.eventType with
      | none => .ok (some
          s!"Invalid event_type '{row.eventType}' at sequence {row.sequenceNumber}.")
      | some eventType =>
          match (readFields row eventType payload).computeEventHash sha256 with
          | none => .error .typeError
          | some recomputed =>
              if row.eventHash ≠ recomputed then
                .ok (some (s!"Audit event_hash tampered at sequence {row.sequenceNumber}: "
                  ++ s!"stored '{row.eventHash}' != recomputed '{recomputed}'."))
              else .ok none

/-- The loop of `verify_chain`. -/
def checkRows (sha256 decodeError : String → String) :
    Nat → Nat → String → List AuditEventModel → Except AppendError (Bool × Option String)
  | _, _, _, [] => .ok (true, none)
  | idx, expectedSeq, expectedPrevHash, row :: rows =>
      if row.sequenceNumber ≠ expectedSeq then
        .ok (false, some (s!"Audit chain sequence broken at index {idx}: expected sequence "
          ++ s!"{expectedSeq}, got {row.sequenceNumber}."))
      else if row.previousHash ≠ expectedPrevHash then
        .ok (false, some (s!"Audit chain link broken at sequence {row.sequenceNumber}: "
          ++ s!"previous_hash '{row.previousHash}' != expected '{expectedPrevHash}'."))
      else match rowFault sha256 decodeError row with
      | .error err => .error err
      | .ok (some fault) => .ok (false, some fault)
      | .ok none => checkRows sha256 decodeError (idx + 1) (expectedSeq + 1) row.eventHash rows

def verifyChain (sha256 decodeError : String → String) (t : AuditTable) :
    Except AppendError (Bool × Option String) :=
  checkRows sha256 decodeError 0 1 AuditLedger.genesisHash (getAllEvents t)

/-! ## Rows that verify -/

/-- The row carries the hash of what it is read as. -/
def RowIntact (sha256 : String → String) (row : AuditEventModel) : Prop :=
  ∃ payload eventType, readPayload row.payloadJson = some payload
    ∧ AuditEventType.ofValue row.eventType = some eventType
    ∧ (readFields row eventType payload).computeEventHash sha256 = some row.eventHash

/-- Linked rows, each with its own property. -/
abbrev RowChain (Valid : AuditEventModel → Prop) :
    String → List AuditEventModel → String → Prop :=
  Chain AuditEventModel.previousHash AuditEventModel.eventHash Valid

section
variable {sha256 decodeError : String → String}

variable (decodeError) in
theorem rowFault_eq_none_iff {row : AuditEventModel} :
    rowFault sha256 decodeError row = .ok none ↔ RowIntact sha256 row := by
  constructor
  · intro h
    rw [rowFault] at h
    cases hpayload : readPayload row.payloadJson with
    | none =>
        rw [hpayload] at h
        cases h
    | some payload =>
        rw [hpayload] at h
        dsimp only at h
        cases htype : AuditEventType.ofValue row.eventType with
        | none =>
            rw [htype] at h
            cases h
        | some eventType =>
            rw [htype] at h
            dsimp only at h
            cases hhash : (readFields row eventType payload).computeEventHash sha256 with
            | none =>
                rw [hhash] at h
                cases h
            | some recomputed =>
                rw [hhash] at h
                have hsame := not_not.mp (Exceptions.check_eq_ok_none_iff.mp h).1
                exact ⟨payload, eventType, hpayload, htype, hsame ▸ hhash⟩
  · rintro ⟨payload, eventType, hpayload, htype, hhash⟩
    rw [rowFault, hpayload]
    dsimp only
    rw [htype]
    dsimp only
    rw [hhash]
    exact if_neg (not_not_intro rfl)

/-- **The loop accepts consecutive numbers and linked, intact rows.** -/
theorem checkRows_iff (idx : Nat) {seq : Nat} {p : String} {rows : List AuditEventModel} :
    checkRows sha256 decodeError idx seq p rows = .ok (true, none)
      ↔ rows.map AuditEventModel.sequenceNumber = List.range' seq rows.length
        ∧ ∃ h, RowChain (RowIntact sha256) p rows h := by
  induction rows generalizing idx seq p with
  | nil => exact iff_of_true rfl ⟨rfl, p, .nil p⟩
  | cons row rows ih =>
      have hchain : (∃ h, RowChain (RowIntact sha256) p (row :: rows) h)
          ↔ row.previousHash = p ∧ RowIntact sha256 row
            ∧ ∃ h, RowChain (RowIntact sha256) row.eventHash rows h := by
        constructor
        · rintro ⟨h, hc⟩
          obtain ⟨hlink, hvalid, hrest⟩ := chain_cons_iff.mp hc
          exact ⟨hlink, hvalid, h, hrest⟩
        · rintro ⟨hlink, hvalid, h, hrest⟩
          exact ⟨h, chain_cons_iff.mpr ⟨hlink, hvalid, hrest⟩⟩
      have hreported {message : String} : (.ok (false, some message) :
          Except AppendError (Bool × Option String)) ≠ .ok (true, none) := nofun
      rw [hchain, checkRows, List.map_cons, List.length_cons, List.range'_succ, List.cons.injEq,
        Exceptions.ite_eq_iff_of_ne hreported, Exceptions.ite_eq_iff_of_ne hreported, not_not,
        not_not, and_assoc, ← rowFault_eq_none_iff decodeError]
      refine and_congr_right fun _ => ?_
      rw [and_left_comm]
      refine and_congr_right fun _ => ?_
      rcases rowFault sha256 decodeError row with err | _ | fault
      · simp
      · rw [ih (idx + 1), and_iff_right rfl]
      · simp

end

/-! ## Appending -/

/-- Consecutive numbers from one, and a chain from the genesis hash. -/
structure Linked (t : AuditTable) (h : String) : Prop where
  sequence : t.rows.map AuditEventModel.sequenceNumber = List.range' 1 t.rows.length
  chain    : RowChain (fun _ => True) AuditLedger.genesisHash t.rows h

section
variable {t t' : AuditTable} {h : String}

theorem Linked.getAllEvents_eq (hl : Linked t h) : getAllEvents t = t.rows := by
  refine List.Pairwise.insertionSort_eq ?_
  have hsorted : (t.rows.map AuditEventModel.sequenceNumber).Pairwise (· ≤ ·) := by
    rw [hl.sequence]
    exact List.pairwise_le_range'
  exact List.pairwise_map.mp hsorted

/-- The next event comes behind the last one. -/
theorem Linked.readHead_eq (hl : Linked t h) : readHead t = ⟨t.rows.length + 1, h⟩ := by
  rw [readHead, getLatestEvent, hl.getAllEvents_eq]
  have hsequence := hl.sequence
  have hchain := hl.chain
  rcases List.eq_nil_or_concat t.rows with hrows | ⟨rows, row, hrows⟩
  · rw [hrows] at hchain ⊢
    rw [chain_nil_iff.mp hchain]
    rfl
  · rw [List.concat_eq_append] at hrows
    rw [hrows, List.map_append, List.length_append, List.length_singleton,
      List.range'_concat] at hsequence
    have hlast := List.append_inj_right' hsequence rfl
    rw [hrows] at hchain ⊢
    rw [(chain_concat_iff.mp hchain).2.2.symm, List.getLast?_append, List.length_append]
    simp only [List.map_cons, List.map_nil, List.cons.injEq, and_true] at hlast
    simp only [List.getLast?_singleton, Option.some_or, List.length_singleton, hlast,
      Head.mk.injEq, and_true]
    omega

theorem linked_empty : Linked UniqueRows.empty AuditLedger.genesisHash := ⟨rfl, .nil _⟩

/-- The next row, added behind the last one, keeps the chain. -/
theorem Linked.concat (hl : Linked t h) {row : AuditEventModel}
    (hseq : row.sequenceNumber = t.rows.length + 1) (hprev : row.previousHash = h)
    (hrows : t'.rows = t.rows ++ [row]) : Linked t' row.eventHash := by
  constructor
  · rw [hrows, List.map_append, hl.sequence, List.length_append, List.length_singleton,
      List.range'_concat, List.map_cons, List.map_nil, hseq]
    congr 2
    omega
  · rw [hrows]
    refine chain_concat_iff.mpr ⟨?_, trivial, rfl⟩
    rw [hprev]
    exact hl.chain

/-- **A linked table verifies exactly when its rows are intact.** -/
theorem Linked.verifyChain_iff (hl : Linked t h) (sha256 decodeError : String → String) :
    verifyChain sha256 decodeError t = .ok (true, none)
      ↔ ∀ row ∈ t.rows, RowIntact sha256 row := by
  rw [verifyChain, hl.getAllEvents_eq, checkRows_iff, and_iff_right hl.sequence]
  constructor
  · rintro ⟨h', hchain⟩
    exact hchain.valid
  · intro hvalid
    exact ⟨h, hl.chain.of_valid hvalid⟩

end

/-! ## What an append stores -/

/-- The text of the event is written with the keys of every dictionary in the
    order of their texts. -/
def KeysInOrder (payload : PyJson) : Prop :=
  ∀ tree, PyJson.written false payload = some tree → Sorted tree

section
variable {sha256 : String → String} {env : AppendEnv} {call : RepositoryCall} {head : Head}
  {row : AuditEventModel}

theorem newRow_eq_ok (h : newRow sha256 env call head = .ok row) :
    ∃ eventType tree, PyJson.written false (.dict (call.payload.getD [])) = some tree
      ∧ row = rowOf (newFields env call eventType head) head.nextSeq tree.text
        (sha256 (Tree.obj ((newFields env call eventType head).members tree)).text) := by
  rw [newRow] at h
  cases htype : resolveType call.eventType with
  | error err =>
      rw [htype] at h
      cases h
  | ok eventType =>
      rw [htype] at h
      dsimp only at h
      rw [AuditFields.computeEventHash_eq, PyJson.dumps] at h
      cases hwritten : PyJson.written false (newFields env call eventType head).payload with
      | none =>
          rw [hwritten] at h
          cases hdefault : PyJson.written true (newFields env call eventType head).payload with
          | none =>
              rw [hdefault] at h
              cases h
          | some tree =>
              rw [hdefault] at h
              cases h
      | some tree =>
          rw [hwritten, PyJson.written_default _ hwritten] at h
          exact ⟨eventType, tree, hwritten, (Except.ok.inj h).symm⟩

theorem Tree.text_ne_empty (tree : Tree) : tree.text ≠ "" := by
  intro hempty
  have hlength := tree.length_render_pos
  rw [← String.toList_ofList (l := tree.render)] at hlength
  rw [Tree.text] at hempty
  rw [hempty] at hlength
  exact absurd hlength (by decide)

theorem readPayload_text (tree : Tree) :
    readPayload tree.text = some (PyJson.ofTree tree.merged) := by
  rw [readPayload, if_neg (Tree.text_ne_empty tree), PyJson.loads_text]

theorem keysInOrder_iff {payload : PyJson} {tree : Tree}
    (h : PyJson.written false payload = some tree) : KeysInOrder payload ↔ Sorted tree := by
  constructor
  · intro hall
    exact hall tree h
  · intro hsorted tree' htree'
    rw [h] at htree'
    rw [← Option.some.inj htree']
    exact hsorted

/-- **Fields with a payload that was read back have a stored hash exactly when
    their members are the ones that were hashed.** -/
theorem reread_hash_iff (hsha : Function.Injective sha256) {fields reread : AuditFields}
    {tree : Tree} (hpayload : reread.payload = PyJson.ofTree tree.merged) :
    reread.computeEventHash sha256 = some (sha256 (Tree.obj (fields.members tree)).text)
      ↔ reread.members tree.rewritten = fields.members tree := by
  rw [AuditFields.computeEventHash_eq, hpayload, PyJson.written_merged, Option.map_some,
    Option.some.injEq, hsha.eq_iff, Tree.text_injective.eq_iff, Tree.obj.injEq]

/-- **A stored row is intact exactly when its timestamp has an offset and its
    payload is written with the keys in the order of their texts.** -/
theorem rowIntact_iff (hsha : Function.Injective sha256)
    (h : newRow sha256 env call head = .ok row) :
    RowIntact sha256 row
      ↔ ¬ (call.at?.getD env.now).Naive
        ∧ KeysInOrder (.dict (call.payload.getD [])) := by
  obtain ⟨eventType, tree, hwritten, rfl⟩ := newRow_eq_ok h
  have hread := readPayload_text tree
  rw [RowIntact, keysInOrder_iff hwritten]
  constructor
  · rintro ⟨payload, eventType', hpayload, htype, hhash⟩
    rw [show (rowOf (newFields env call eventType head) head.nextSeq tree.text _).payloadJson
      = tree.text from rfl, hread] at hpayload
    obtain rfl := Option.some.inj hpayload
    obtain ⟨hheader, htree⟩ := AuditFields.members_injective ((reread_hash_iff hsha rfl).mp hhash)
    refine ⟨fun hnaive => ?_, rewritten_eq_iff.mp htree⟩
    -- a naive timestamp is read with an offset
    have htime : assumeUtc (call.at?.getD env.now) = call.at?.getD env.now := hheader.timestamp
    rw [assumeUtc, if_pos hnaive] at htime
    rw [← htime] at hnaive
    cases hnaive
  · rintro ⟨haware, hsorted⟩
    refine ⟨PyJson.ofTree tree.merged, eventType, hread, AuditEventType.ofValue_value eventType,
      (reread_hash_iff hsha rfl).mpr ?_⟩
    have htime : assumeUtc (call.at?.getD env.now) = call.at?.getD env.now := if_neg haware
    rw [rewritten_eq_iff.mpr hsorted]
    show AuditFields.members ⟨_, _, assumeUtc (call.at?.getD env.now), _, _, _, _, _, _⟩ tree = _
    rw [htime]
    rfl

theorem keysInOrder_ofMembers {ms : List (String × Tree)} (h : Distinct (.obj ms)) :
    KeysInOrder (.dict (PyJson.ofMembers ms)) := by
  intro tree hwritten
  have htree : PyJson.written false (.dict (PyJson.ofMembers ms)) = some (sortKeys (.obj ms)) :=
    PyJson.written_ofTree false (.obj ms)
  rw [htree] at hwritten
  rw [← Option.some.inj hwritten]
  exact h.sortKeys_sorted

theorem newRow_of_written {eventType : AuditEventType} {tree : Tree}
    (htype : resolveType call.eventType = .ok eventType)
    (hwritten : PyJson.written false (.dict (call.payload.getD [])) = some tree) :
    newRow sha256 env call head
      = .ok (rowOf (newFields env call eventType head) head.nextSeq tree.text
        (sha256 (Tree.obj ((newFields env call eventType head).members tree)).text)) := by
  have hpayload : PyJson.written false (newFields env call eventType head).payload = some tree :=
    hwritten
  rw [newRow, htype]
  dsimp only
  rw [AuditFields.computeEventHash_eq, PyJson.dumps, hpayload,
    PyJson.written_default _ hpayload]
  rfl

end

/-! ## Runs -/

/-- A call of `append_event`, with what the process supplies to it. -/
structure StoreCall where
  env  : AppendEnv
  call : RepositoryCall

/-- One append, in a unit of work of its own. -/
def step (sha256 : String → String) (t : AuditTable) (c : StoreCall) :
    Except AppendError AuditEventModel × AuditTable :=
  appendEvent sha256 c.env c.call t

/-- The event can be written, and the unique columns of its row are free. -/
def Accepted (sha256 : String → String) (t : AuditTable) (c : StoreCall) : Prop :=
  ∃ row, newRow sha256 c.env c.call (readHead t) = .ok row ∧ ¬ t.Taken row

/-- The row carries the hash and the text of some fields. -/
def Written (sha256 : String → String) (row : AuditEventModel) : Prop :=
  ∃ fields n tree,
    row = rowOf fields n tree.text (sha256 (Tree.obj (fields.members tree)).text)

/-- The timestamp has an offset, and the keys are in the order of their texts. -/
def Canonical (c : StoreCall) : Prop :=
  ¬ (c.call.at?.getD c.env.now).Naive ∧ KeysInOrder (.dict (c.call.payload.getD []))

section
variable {sha256 : String → String}

variable (sha256) in
/-- **Behind any head, an append adds its row where the unique columns are
    free; otherwise it changes nothing.** -/
theorem appendBehind_cases (env : AppendEnv) (call : RepositoryCall) (head : Head)
    (t : AuditTable) :
    (∃ row t', newRow sha256 env call head = .ok row ∧ ¬ t.Taken row
        ∧ appendBehind sha256 env call head t = (.ok row, t') ∧ t'.rows = t.rows ++ [row])
      ∨ (∀ row, newRow sha256 env call head = .ok row → t.Taken row)
        ∧ ∃ err, appendBehind sha256 env call head t = (.error err, t) := by
  rw [appendBehind]
  cases hrow : newRow sha256 env call head with
  | error err =>
      refine .inr ⟨?_, err, rfl⟩
      intro row h
      cases h
  | ok row =>
      dsimp only
      rw [insertRow]
      by_cases htaken : t.Taken row
      · rw [UniqueRows.insert_of_taken htaken]
        refine .inr ⟨?_, _, rfl⟩
        intro row' h
        rw [← Except.ok.inj h]
        exact htaken
      · obtain ⟨t', hinsert, hrows⟩ := UniqueRows.insert_of_free htaken
        rw [hinsert]
        exact .inl ⟨row, t', rfl, htaken, rfl, hrows⟩

variable (sha256) in
/-- **An append adds the row of an accepted call, or changes nothing.** -/
theorem step_cases (t : AuditTable) (c : StoreCall) :
    (∃ row, newRow sha256 c.env c.call (readHead t) = .ok row ∧ Accepted sha256 t c
        ∧ (step sha256 t c).2.rows = t.rows ++ [row])
      ∨ ¬ Accepted sha256 t c ∧ (step sha256 t c).2 = t := by
  rw [step, appendEvent]
  rcases appendBehind_cases sha256 c.env c.call (readHead t) t with
    ⟨row, t', hrow, hfree, happend, hrows⟩ | ⟨htaken, err, happend⟩
  · rw [happend]
    exact .inl ⟨row, hrow, ⟨row, hrow, hfree⟩, hrows⟩
  · rw [happend]
    refine .inr ⟨?_, rfl⟩
    rintro ⟨row, hrow, hfree⟩
    exact hfree (htaken row hrow)

theorem Linked.newRow_numbers {t : AuditTable} {h : String} (hl : Linked t h) {c : StoreCall}
    {row : AuditEventModel} (hrow : newRow sha256 c.env c.call (readHead t) = .ok row) :
    row.sequenceNumber = t.rows.length + 1 ∧ row.previousHash = h := by
  obtain ⟨eventType, tree, -, rfl⟩ := newRow_eq_ok hrow
  rw [hl.readHead_eq]
  exact ⟨rfl, rfl⟩

theorem written_of_newRow {env : AppendEnv} {call : RepositoryCall} {head : Head}
    {row : AuditEventModel} (h : newRow sha256 env call head = .ok row) : Written sha256 row := by
  obtain ⟨eventType, tree, -, rfl⟩ := newRow_eq_ok h
  exact ⟨_, _, tree, rfl⟩

theorem Written.eventId_of_hash (hsha : Function.Injective sha256) {row row' : AuditEventModel}
    (h : Written sha256 row) (h' : Written sha256 row') (hhash : row.eventHash = row'.eventHash) :
    row.eventId = row'.eventId := by
  obtain ⟨fields, n, tree, rfl⟩ := h
  obtain ⟨fields', n', tree', rfl⟩ := h'
  have htext := Tree.text_injective (hsha hhash)
  exact (AuditFields.members_injective (Tree.obj.inj htext)).1.eventId

/-- A linked table of written rows. -/
structure Recorded (sha256 : String → String) (t : AuditTable) (h : String) : Prop
    extends Linked t h where
  written : ∀ row ∈ t.rows, Written sha256 row

theorem recorded_empty : Recorded sha256 UniqueRows.empty AuditLedger.genesisHash :=
  ⟨linked_empty, List.forall_mem_nil _⟩

/-- **Behind the last event, a row is refused only for its identifier.** -/
theorem Recorded.taken_iff (hsha : Function.Injective sha256) {t : AuditTable} {h : String}
    (hr : Recorded sha256 t h) {row : AuditEventModel} (hrow : Written sha256 row)
    (hseq : row.sequenceNumber = t.rows.length + 1) :
    t.Taken row ↔ row.eventId ∈ t.rows.map AuditEventModel.eventId := by
  constructor
  · rintro ⟨column, hcolumn, hmem⟩
    simp only [uniqueColumns, List.mem_cons, List.not_mem_nil, or_false] at hcolumn
    obtain ⟨row', hrow', hsame⟩ := List.mem_map.mp hmem
    rcases hcolumn with rfl | rfl | rfl
    · exact List.mem_map.mpr ⟨row', hrow', Sum.inl.inj hsame⟩
    · have hrange := List.mem_map_of_mem (f := AuditEventModel.sequenceNumber) hrow'
      rw [hr.sequence, List.mem_range'_1, Sum.inr.inj hsame, hseq] at hrange
      omega
    · exact List.mem_map.mpr
        ⟨row', hrow', (hr.written row' hrow').eventId_of_hash hsha hrow (Sum.inl.inj hsame)⟩
  · intro hmem
    obtain ⟨row', hrow', hsame⟩ := List.mem_map.mp hmem
    exact ⟨_, List.mem_cons_self, List.mem_map.mpr ⟨row', hrow', congrArg Sum.inl hsame⟩⟩

/-- The table with the next row is recorded up to that row. -/
theorem Recorded.concat {t t' : AuditTable} {h : String} (hr : Recorded sha256 t h)
    {row : AuditEventModel} (hrow : Written sha256 row)
    (hseq : row.sequenceNumber = t.rows.length + 1) (hprev : row.previousHash = h)
    (hrows : t'.rows = t.rows ++ [row]) : Recorded sha256 t' row.eventHash := by
  refine ⟨hr.toLinked.concat hseq hprev hrows, ?_⟩
  rw [hrows]
  exact List.forall_mem_append.mpr ⟨hr.written, List.forall_mem_singleton.mpr hrow⟩

/-- **A row that can be made is appended unless its identifier is taken.** -/
theorem Recorded.step_of_fresh (hsha : Function.Injective sha256) {t : AuditTable} {h : String}
    (hr : Recorded sha256 t h) {c : StoreCall} {row : AuditEventModel}
    (hrow : newRow sha256 c.env c.call (readHead t) = .ok row)
    (hfresh : row.eventId ∉ t.rows.map AuditEventModel.eventId) :
    (step sha256 t c).2.rows = t.rows ++ [row]
      ∧ Recorded sha256 (step sha256 t c).2 row.eventHash := by
  obtain ⟨hseq, hprev⟩ := hr.newRow_numbers hrow
  have hwritten := written_of_newRow hrow
  have hfree := mt (hr.taken_iff hsha hwritten hseq).mp hfresh
  rcases step_cases sha256 t c with ⟨row', hrow', -, hrows⟩ | ⟨hnot, -⟩
  · rw [hrow] at hrow'
    obtain rfl := Except.ok.inj hrow'
    exact ⟨hrows, hr.concat hwritten hseq hprev hrows⟩
  · exact absurd ⟨row, hrow, hfree⟩ hnot

/-- The table is linked, and its rows are intact exactly where every accepted
    call was canonical. -/
def Faithful (sha256 : String → String)
    (past : List (Step AuditTable StoreCall (Except AppendError AuditEventModel)))
    (t : AuditTable) : Prop :=
  (∃ h, Linked t h)
    ∧ ((∀ row ∈ t.rows, RowIntact sha256 row)
      ↔ ∀ c ∈ past, Accepted sha256 c.pre c.act → Canonical c.act)

theorem faithful_step (hsha : Function.Injective sha256)
    {past : List (Step AuditTable StoreCall (Except AppendError AuditEventModel))}
    {t : AuditTable} (h : Faithful sha256 past t) (c : StoreCall) :
    Faithful sha256 (past ++ [stepAt (step sha256) t c]) (step sha256 t c).2 := by
  obtain ⟨⟨h, hl⟩, hiff⟩ := h
  rw [Faithful, List.forall_mem_append, List.forall_mem_singleton, stepAt_pre, stepAt_act]
  rcases step_cases sha256 t c with ⟨row, hrow, hacc, hrows⟩ | ⟨hnot, hpost⟩
  · obtain ⟨hseq, hprev⟩ := hl.newRow_numbers hrow
    refine ⟨⟨row.eventHash, hl.concat hseq hprev hrows⟩, ?_⟩
    rw [hrows, List.forall_mem_append, List.forall_mem_singleton, hiff,
      rowIntact_iff hsha hrow]
    exact and_congr_right fun _ => ⟨fun hcanonical _ => hcanonical, fun hall => hall hacc⟩
  · rw [hpost]
    exact ⟨⟨h, hl⟩, hiff.trans (and_iff_left fun hacc => absurd hacc hnot).symm⟩

/-- **The rows that a run of appends stores verify exactly when every call that
    was accepted had a timestamp with an offset and a payload whose keys are in
    the order of their texts.** -/
theorem stored_rows_verify_iff (hsha : Function.Injective sha256) (decodeError : String → String)
    (calls : List StoreCall) :
    verifyChain sha256 decodeError (exec (step sha256) UniqueRows.empty calls) = .ok (true, none)
      ↔ ∀ c ∈ steps (step sha256) UniqueRows.empty calls,
        Accepted sha256 c.pre c.act → Canonical c.act := by
  have hstart : Faithful sha256 [] UniqueRows.empty :=
    ⟨⟨_, linked_empty⟩, iff_of_true (List.forall_mem_nil _) (List.forall_mem_nil _)⟩
  have hrun : Faithful sha256 (steps (step sha256) UniqueRows.empty calls)
      (exec (step sha256) UniqueRows.empty calls) :=
    history_inv (P := fun _ => True) (H := Faithful sha256)
      (fun _ _ c h' _ => faithful_step hsha h' c) hstart fun _ _ => trivial
  obtain ⟨⟨h, hl⟩, hiff⟩ := hrun
  exact (hl.verifyChain_iff sha256 decodeError).trans hiff

theorem single_verifies_iff (hsha : Function.Injective sha256)
    (decodeError : String → String) {c : StoreCall} {eventType : AuditEventType} {tree : Tree}
    (htype : resolveType c.call.eventType = .ok eventType)
    (hwritten : PyJson.written false (.dict (c.call.payload.getD [])) = some tree) :
    verifyChain sha256 decodeError (exec (step sha256) UniqueRows.empty [c]) = .ok (true, none)
      ↔ Canonical c := by
  have hstart : Faithful sha256 [] UniqueRows.empty :=
    ⟨⟨_, linked_empty⟩, iff_of_true (List.forall_mem_nil _) (List.forall_mem_nil _)⟩
  have hacc : Accepted sha256 UniqueRows.empty c := by
    refine ⟨_, newRow_of_written htype hwritten, ?_⟩
    rintro ⟨column, -, hmem⟩
    cases hmem
  obtain ⟨⟨h, hl⟩, hiff⟩ := faithful_step hsha hstart c
  rw [List.nil_append, List.forall_mem_singleton] at hiff
  exact (hl.verifyChain_iff sha256 decodeError).trans
    (hiff.trans ⟨fun hall => hall hacc, fun hcanonical _ => hcanonical⟩)

end

/-! ## A naive timestamp, and keys that are numbers -/

namespace Sample

def noon : Datetime := (LocalLedger.Sample.proposed []).env.now

def naiveNoon : Datetime :=
  { noon with
    offset := none
    offset_valid := by
      intro o h
      cases h }

def proposed (payload : List (PyKey × PyJson)) (t : Datetime) : StoreCall where
  env := (LocalLedger.Sample.proposed []).env
  call := ⟨.inr .cartProposed, some "tx-1", some "mandate-1", none, none, some payload, some t,
    none⟩

def numbered : List (PyKey × PyJson) := [(.int 2, .none), (.int 10, .none)]

def inNumbers : Tree := .obj [("2", .null), ("10", .null)]

def inTexts : Tree := .obj [("10", .null), ("2", .null)]

def hashed (t : Datetime) (payload : Tree) : Tree :=
  .obj ((newFields (proposed [] t).env (proposed [] t).call .cartProposed
    ⟨1, AuditLedger.genesisHash⟩).members payload)

def known : List (String × String) := [
  ((hashed naiveNoon (.obj [])).text,
    "5c50b4368280caf4050c465eeee3f2a04c06694ac645337f7fba42898c0fdf6e"),
  ((hashed noon (.obj [])).text,
    "9e10e1ca619c70c08f699d60fa36ff68a349b839ddebda4fbb451ea1243076c5"),
  ((hashed noon inNumbers).text,
    "b0c0696973ed187a5863bf7cb51c61bb52494d09076945893329e2dd8ed2f354"),
  ((hashed noon inTexts).text,
    "e01217e7a0ed7c9247a6555874a43999d4fccf8e6a3c0a88414a16561896cd41")]

theorem known_injective : Function.Injective (knownDigests known) := by
  refine knownDigests_injective ?_ ?_
  · intro d hd
    simp only [known, List.map_cons, List.map_nil, List.mem_cons, List.not_mem_nil, or_false]
      at hd
    rcases hd with rfl | rfl | rfl | rfl <;> decide +kernel
  · simp only [known, List.map_cons, List.map_nil]
    decide +kernel

theorem written_numbered : PyJson.written false (.dict numbered) = some inNumbers := by
  rfl

def cart : StoreCall :=
  proposed (PyJson.ofMembers [LocalLedger.Sample.total, LocalLedger.Sample.items]) noon

def started : StoreCall where
  env := LocalLedger.Sample.started.env
  call := ⟨.inr .paymentStarted, some "tx-1", none, none, none, none, none, none⟩

def table : AuditTable :=
  exec (step (knownDigests LocalLedger.Sample.known)) UniqueRows.empty [cart, started]

theorem distinct_nil : Distinct (.obj []) := .obj List.nodup_nil (List.forall_mem_nil _)

theorem distinct_cart :
    Distinct (.obj [LocalLedger.Sample.total, LocalLedger.Sample.items]) := by
  refine .obj (by decide) (List.forall_mem_cons.mpr ⟨.num _, List.forall_mem_singleton.mpr ?_⟩)
  exact .arr (List.forall_mem_cons.mpr ⟨.num _, List.forall_mem_singleton.mpr .null⟩)

theorem table_ids : table.rows.map AuditEventModel.eventId = ["e-1", "e-2"] := by
  obtain ⟨hrows, hrecorded⟩ := recorded_empty.step_of_fresh (c := cart)
    LocalLedger.Sample.known_injective
    (newRow_of_written rfl (PyJson.written_ofTree false (.obj _))) List.not_mem_nil
  obtain ⟨hrows', -⟩ := hrecorded.step_of_fresh (c := started)
    LocalLedger.Sample.known_injective
    (newRow_of_written rfl (PyJson.written_ofTree false (.obj []))) (by
      rw [hrows]
      show "e-2" ∉ ["e-1"]
      decide)
  rw [table, exec_cons, exec_cons, exec_nil, hrows', hrows]
  rfl

theorem not_keysInOrder_numbered : ¬ KeysInOrder (.dict numbered) := by
  intro h
  cases h inNumbers written_numbered with
  | obj hkeys _ => exact absurd hkeys (by decide)

end Sample

/-- Two events with offsets, and payloads with texts as keys. -/
theorem stored_rows_verify_iff_texts :
    verifyChain (knownDigests LocalLedger.Sample.known) id Sample.table = .ok (true, none)
      ∧ Sample.table.rows.map AuditEventModel.eventId = ["e-1", "e-2"] := by
  refine ⟨(stored_rows_verify_iff LocalLedger.Sample.known_injective id
    [Sample.cart, Sample.started]).mpr ?_, Sample.table_ids⟩
  rw [steps_cons, steps_cons, steps_nil]
  refine List.forall_mem_cons.mpr ⟨fun _ => ?_, List.forall_mem_singleton.mpr fun _ => ?_⟩
  · exact ⟨by decide, keysInOrder_ofMembers Sample.distinct_cart⟩
  · exact ⟨by decide, keysInOrder_ofMembers Sample.distinct_nil⟩

/-- A naive timestamp, and a payload with numbers as keys, are hashed one way
    and verified another. -/
theorem naive_and_numbered_rejected :
    verifyChain (knownDigests Sample.known) id
        (exec (step (knownDigests Sample.known)) UniqueRows.empty
          [Sample.proposed [] Sample.naiveNoon]) ≠ .ok (true, none)
      ∧ verifyChain (knownDigests Sample.known) id
        (exec (step (knownDigests Sample.known)) UniqueRows.empty
          [Sample.proposed Sample.numbered Sample.noon]) ≠ .ok (true, none) := by
  constructor
  · intro hverify
    have hcanonical := (single_verifies_iff Sample.known_injective id rfl rfl).mp hverify
    exact hcanonical.1 rfl
  · intro hverify
    have hcanonical := (single_verifies_iff
      (c := Sample.proposed Sample.numbered Sample.noon) Sample.known_injective id rfl
      Sample.written_numbered).mp hverify
    exact Sample.not_keysInOrder_numbered hcanonical.2

end AuditRepository

end MandateGateway
