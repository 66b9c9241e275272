import MandateGateway.Audit.Event
import MandateGateway.Lib.HashChain
import MandateGateway.Lib.Runs

/-! # The audit ledger of a process

    The append-only chain that a process keeps in memory, and its
    verification.  A ledger verifies exactly when its events are a hash chain
    from the genesis hash to its head (`verifyChain_iff`); appending keeps
    that, and the head determines the hashed fields of every event. -/

namespace MandateGateway

open Clock HashChain Json Json.Tree Runs

/-- Why an append raises. -/
inductive AppendError where
  /-- the payload cannot be written as JSON -/
  | typeError
  /-- a record refused by its data contract, and the failing field -/
  | validationError (record field : String)
  | runtimeError (message : String)
  | valueError (message : String)
deriving DecidableEq, Repr

/-- What the running process supplies to an append: the time and a fresh
    identifier. -/
structure AppendEnv where
  now  : Datetime
  uuid : String
deriving DecidableEq

/-- The arguments of an append. -/
structure AppendCall where
  eventType     : AuditEventType
  transactionId : Option String
  mandateId     : Option String
  merchantId    : Option String
  buyerId       : Option String
  payload       : Option (List (PyKey × PyJson))
  at?           : Option Datetime

/-- The events of a process, and the hash of the last one. -/
structure LocalLedger where
  events   : List AuditEvent
  headHash : String

namespace LocalLedger

/-- `AuditLedger()`. -/
def new : LocalLedger := ⟨[], AuditLedger.genesisHash⟩

/-- The fields of a new event; an empty payload is the default one. -/
def newFields (env : AppendEnv) (call : AppendCall) (previousHash : String) : AuditFields where
  eventId := env.uuid
  eventType := call.eventType
  timestamp := call.at?.getD env.now
  transactionId := call.transactionId
  mandateId := call.mandateId
  merchantId := call.merchantId
  buyerId := call.buyerId
  payload := .dict (call.payload.getD [])
  previousHash := previousHash

def isTextKey : PyKey → Bool
  | .str _ => true
  | _ => false

/-- `dict[str, Any]`. -/
def isTextDict : PyJson → Bool
  | .dict items => items.all fun item => isTextKey item.1
  | _ => false

/-- `AuditEvent.create`. -/
def create (sha256 : String → String) (fields : AuditFields) : Except AppendError AuditEvent :=
  match fields.computeEventHash sha256 with
  | none => .error .typeError
  | some eventHash =>
      if isTextDict fields.payload then .ok ⟨fields, eventHash⟩
      else .error (.validationError "AuditEvent" "payload")

def appendEvent (sha256 : String → String) (env : AppendEnv) (call : AppendCall)
    (ledger : LocalLedger) : Except AppendError AuditEvent × LocalLedger :=
  match create sha256 (newFields env call ledger.headHash) with
  | .error err => (.error err, ledger)
  | .ok event =>
      match event.verifyHash sha256 with
      | none => (.error .typeError, ledger)
      | some false =>
          (.error (.runtimeError (s!"Computed audit event hash for AuditEventType."
            ++ s!"{call.eventType.value} failed self-verification.")), ledger)
      | some true => (.ok event, ⟨ledger.events ++ [event], event.eventHash⟩)

/-! ## Verification -/

def linkBroken (index : Nat) (event : AuditEvent) (expectedPrevious : String) : String :=
  s!"Chain broken at index {index}: event previous_hash '{event.previousHash}' "
    ++ s!"!= expected '{expectedPrevious}'."

def hashInvalid (index : Nat) (event : AuditEvent) : String :=
  s!"Hash calculation invalid at index {index}: event_id '{event.eventId}' "
    ++ "payload or headers altered."

def headInvalid (headHash lastDigest : String) : String :=
  s!"Ledger head_hash '{headHash}' != last event digest '{lastDigest}'."

/-- The loop of `verify_chain`: the digest of the last event, or what is wrong. -/
def checkEvents (sha256 : String → String) :
    Nat → String → List AuditEvent → Option (Except String String)
  | _, expectedPrevious, [] => some (.ok expectedPrevious)
  | index, expectedPrevious, event :: events =>
      if event.previousHash ≠ expectedPrevious then
        some (.error (linkBroken index event expectedPrevious))
      else match event.verifyHash sha256 with
      | none => none
      | some false => some (.error (hashInvalid index event))
      | some true => checkEvents sha256 (index + 1) event.eventHash events

/-- `verify_chain`; `none` where recomputing a hash raises. -/
def verifyChain (sha256 : String → String) (ledger : LocalLedger) :
    Option (Bool × Option String) :=
  if ledger.events.isEmpty then
    if ledger.headHash ≠ AuditLedger.genesisHash then
      some (false, some "Empty ledger head_hash does not match GENESIS_HASH.")
    else some (true, none)
  else match checkEvents sha256 0 AuditLedger.genesisHash ledger.events with
  | none => none
  | some (.error message) => some (false, some message)
  | some (.ok lastDigest) =>
      if ledger.headHash ≠ lastDigest then
        some (false, some (headInvalid ledger.headHash lastDigest))
      else some (true, none)

/-- The events are a chain from one hash to another. -/
abbrev Chained (sha256 : String → String) : String → List AuditEvent → String → Prop :=
  Chain (fun e => e.previousHash) AuditEvent.eventHash (AuditEvent.Intact sha256)

section
variable {sha256 : String → String}

theorem checkEvents_eq_ok_iff (index : Nat) {p h : String} {es : List AuditEvent} :
    checkEvents sha256 index p es = some (.ok h) ↔ Chained sha256 p es h := by
  induction es generalizing index p with
  | nil =>
      rw [checkEvents, Chained, chain_nil_iff, Option.some.injEq, Except.ok.injEq]
  | cons e es ih =>
      rw [checkEvents, Chained, chain_cons_iff, ← AuditEvent.verifyHash_eq_true_iff]
      by_cases hlink : e.previousHash = p
      · rw [if_neg (not_not.mpr hlink), and_iff_right hlink]
        cases hverify : e.verifyHash sha256 with
        | none =>
            constructor
            · intro h
              cases h
            · rintro ⟨hvalid, -⟩
              cases hvalid
        | some valid =>
            cases valid with
            | false =>
                constructor
                · intro h
                  cases h
                · rintro ⟨hvalid, -⟩
                  cases hvalid
            | true => exact (ih (index + 1)).trans (and_iff_right rfl).symm
      · rw [if_pos hlink]
        constructor
        · intro h
          cases h
        · rintro ⟨hlink', -⟩
          exact absurd hlink' hlink

/-- **A ledger verifies exactly when its events are a chain from the genesis
    hash to its head.** -/
theorem verifyChain_iff {ledger : LocalLedger} :
    verifyChain sha256 ledger = some (true, none)
      ↔ Chained sha256 AuditLedger.genesisHash ledger.events ledger.headHash := by
  obtain ⟨events, headHash⟩ := ledger
  have hreported {message : String} :
      (some (false, some message) : Option (Bool × Option String)) ≠ some (true, none) := nofun
  cases events with
  | nil =>
      show (if headHash ≠ AuditLedger.genesisHash then _ else _) = _ ↔ _
      rw [Chained, chain_nil_iff, Exceptions.ite_eq_iff_of_ne hreported, not_not,
        and_iff_left rfl]
      exact eq_comm
  | cons e es =>
      rw [← checkEvents_eq_ok_iff 0]
      show (match checkEvents sha256 0 AuditLedger.genesisHash (e :: es) with
        | none => none
        | some (.error message) => some (false, some message)
        | some (.ok lastDigest) => if headHash ≠ lastDigest then _ else _) = _ ↔ _
      rcases checkEvents sha256 0 AuditLedger.genesisHash (e :: es) with _ | message | lastDigest
      · simp
      · simp
      · dsimp only
        rw [Exceptions.ite_eq_iff_of_ne hreported, not_not, and_iff_left rfl, Option.some.injEq,
          Except.ok.injEq]
        exact eq_comm

/-! ## Appending -/

theorem create_eq_ok {fields : AuditFields} {e : AuditEvent}
    (h : create sha256 fields = .ok e) : e.toAuditFields = fields ∧ e.Intact sha256 := by
  rw [create] at h
  cases hhash : fields.computeEventHash sha256 with
  | none =>
      rw [hhash] at h
      cases h
  | some eventHash =>
      rw [hhash] at h
      dsimp only at h
      by_cases hkeys : isTextDict fields.payload = true
      · rw [if_pos hkeys] at h
        obtain rfl := Except.ok.inj h
        exact ⟨rfl, hhash⟩
      · rw [if_neg hkeys] at h
        cases h

/-- The event that is made for a call, behind the head of a ledger. -/
structure Made (sha256 : String → String) (env : AppendEnv) (call : AppendCall)
    (ledger : LocalLedger) (e : AuditEvent) : Prop where
  fields : e.toAuditFields = newFields env call ledger.headHash
  intact : e.Intact sha256

/-- **An append adds the event of the call and moves the head to it, or it
    raises and changes nothing.** -/
theorem appendEvent_cases (sha256 : String → String) (env : AppendEnv) (call : AppendCall)
    (ledger : LocalLedger) :
    (∃ err, appendEvent sha256 env call ledger = (.error err, ledger))
      ∨ ∃ e, Made sha256 env call ledger e ∧ appendEvent sha256 env call ledger
        = (.ok e, ⟨ledger.events ++ [e], e.eventHash⟩) := by
  cases hcreate : create sha256 (newFields env call ledger.headHash) with
  | error err =>
      refine .inl ⟨err, ?_⟩
      rw [appendEvent, hcreate]
  | ok e =>
      obtain ⟨hfields, hintact⟩ := create_eq_ok hcreate
      refine .inr ⟨e, ⟨hfields, hintact⟩, ?_⟩
      rw [appendEvent, hcreate]
      simp only [AuditEvent.verifyHash_eq_true_iff.mpr hintact]

theorem isTextDict_ofMembers (ms : List (String × Tree)) :
    isTextDict (.dict (PyJson.ofMembers ms)) = true := by
  induction ms with
  | nil => rfl
  | cons m ms ih => exact ih

variable (sha256) in
/-- **An append whose payload is a JSON tree with texts as keys succeeds.** -/
theorem appendEvent_of_tree (env : AppendEnv) (call : AppendCall) (ledger : LocalLedger)
    (ms : List (String × Tree)) (h : call.payload.getD [] = PyJson.ofMembers ms) :
    appendEvent sha256 env call ledger
      = let fields := newFields env call ledger.headHash
        let digest := sha256 (Tree.obj (fields.members (sortKeys (.obj ms)))).text
        (.ok ⟨fields, digest⟩, ⟨ledger.events ++ [⟨fields, digest⟩], digest⟩) := by
  have hwritten : PyJson.written true (newFields env call ledger.headHash).payload
      = some (sortKeys (.obj ms)) := by
    rw [newFields, h]
    exact PyJson.written_ofTree true (.obj ms)
  have hhash : (newFields env call ledger.headHash).computeEventHash sha256
      = some (sha256 (Tree.obj ((newFields env call ledger.headHash).members
        (sortKeys (.obj ms)))).text) := by
    rw [AuditFields.computeEventHash_eq, hwritten]
    rfl
  have hkeys : isTextDict (newFields env call ledger.headHash).payload = true := by
    rw [newFields, h]
    exact isTextDict_ofMembers ms
  have hverify := AuditEvent.verifyHash_eq_true_iff.mpr
    (show AuditEvent.Intact sha256 ⟨newFields env call ledger.headHash, _⟩ from hhash)
  simp only [appendEvent, create, hhash, if_pos hkeys, hverify]

end

/-! ## Runs -/

/-- A call of `append_event`, with what the process supplies to it. -/
structure LedgerCall where
  env  : AppendEnv
  call : AppendCall

/-- One append. -/
def step (sha256 : String → String) (ledger : LocalLedger) (c : LedgerCall) :
    Except AppendError AuditEvent × LocalLedger :=
  appendEvent sha256 c.env c.call ledger

abbrev AppendStep := Step LocalLedger LedgerCall (Except AppendError AuditEvent)

def returned (c : AppendStep) : Option AuditEvent := c.out.toOption

/-- Two events with the same hashed fields and the same hash; the order of the
    members of the payload does not count. -/
structure SameHashed (e e' : AuditEvent) : Prop where
  header    : e.toAuditFields.SameHeader e'.toAuditFields
  payload   : ∃ ms ms', e.payload = PyJson.ofTree (.obj ms)
    ∧ e'.payload = PyJson.ofTree (.obj ms') ∧ Same (.obj ms) (.obj ms')
  eventHash : e.eventHash = e'.eventHash

section
variable {sha256 : String → String}

/-- The events in memory are those that were returned, in their order. -/
def Recorded (sha256 : String → String) (past : List AppendStep) (ledger : LocalLedger) : Prop :=
  Chained sha256 AuditLedger.genesisHash ledger.events ledger.headHash
    ∧ ledger.events = past.filterMap returned
    ∧ ∀ c ∈ past, ∀ e, returned c = some e → Made sha256 c.act.env c.act.call c.pre e

theorem recorded_step {past : List AppendStep} {ledger : LocalLedger}
    (h : Recorded sha256 past ledger) (c : LedgerCall) :
    Recorded sha256 (past ++ [stepAt (step sha256) ledger c]) (step sha256 ledger c).2 := by
  obtain ⟨hchain, hevents, hmade⟩ := h
  have hpast : (past ++ [stepAt (step sha256) ledger c]).filterMap returned
      = ledger.events ++ (returned (stepAt (step sha256) ledger c)).toList := by
    rw [List.filterMap_append, ← hevents, List.filterMap_cons]
    cases returned (stepAt (step sha256) ledger c) <;> rfl
  rw [Recorded, hpast, List.forall_mem_append]
  rcases appendEvent_cases sha256 c.env c.call ledger with ⟨err, happend⟩ | ⟨e, he, happend⟩
  · have hstep : step sha256 ledger c = (.error err, ledger) := happend
    have hreturned : returned (stepAt (step sha256) ledger c) = none := by
      rw [returned, stepAt_out, hstep]
      rfl
    rw [hreturned, hstep]
    refine ⟨hchain, (List.append_nil _).symm, hmade, ?_⟩
    intro c' hc' e he
    rw [List.mem_singleton.mp hc', hreturned] at he
    cases he
  · have hstep : step sha256 ledger c = (.ok e, ⟨ledger.events ++ [e], e.eventHash⟩) := happend
    have hreturned : returned (stepAt (step sha256) ledger c) = some e := by
      rw [returned, stepAt_out, hstep]
      rfl
    have hlink : e.previousHash = ledger.headHash := congrArg AuditFields.previousHash he.fields
    rw [hreturned, hstep]
    refine ⟨chain_concat_iff.mpr ⟨?_, he.intact, rfl⟩, rfl, hmade, ?_⟩
    · show Chained sha256 AuditLedger.genesisHash ledger.events e.previousHash
      rw [hlink]
      exact hchain
    · intro c' hc' e' he'
      rw [List.mem_singleton.mp hc'] at he' ⊢
      rw [hreturned] at he'
      obtain rfl := Option.some.inj he'
      exact he

variable (sha256) in
theorem recorded_run (calls : List LedgerCall) :
    Recorded sha256 (steps (step sha256) new calls) (exec (step sha256) new calls) :=
  history_inv (P := fun _ => True) (H := Recorded sha256) (fun _ _ c h _ => recorded_step h c)
    ⟨.nil _, rfl, List.forall_mem_nil _⟩ fun _ _ => trivial

def TreePayload (e : AuditEvent) : Prop := ∃ ms, e.payload = PyJson.ofTree (.obj ms)

theorem sameHashed_of_hash (hsha : Function.Injective sha256) {e e' : AuditEvent}
    (h : e.Intact sha256) (h' : e'.Intact sha256) (ht : TreePayload e) (ht' : TreePayload e')
    (hhash : e.eventHash = e'.eventHash) : SameHashed e e' := by
  obtain ⟨hheader, hpayload⟩ := AuditEvent.same_of_hash hsha h h' hhash
  obtain ⟨ms, hms⟩ := ht
  obtain ⟨ms', hms'⟩ := ht'
  rw [hms, hms', PyJson.written_ofTree, PyJson.written_ofTree] at hpayload
  exact ⟨hheader, ⟨ms, ms', hms, hms', Option.some.inj hpayload⟩, hhash⟩

/-- **Every run of appends leaves a ledger that verifies, with the events in
    the order of the appends; and of two ledgers that verify with one head, the
    events have the same hashed fields, one by one.** -/
theorem chain_tamper_evident (hsha : Function.Injective sha256)
    (hgenesis : ∀ text, sha256 text ≠ AuditLedger.genesisHash) :
    (∀ calls, verifyChain sha256 (exec (step sha256) new calls) = some (true, none)
      ∧ (exec (step sha256) new calls).events
        = (steps (step sha256) new calls).filterMap returned
      ∧ ∀ c ∈ steps (step sha256) new calls, ∀ e, returned c = some e →
        Made sha256 c.act.env c.act.call c.pre e)
    ∧ ∀ ledger ledger' : LocalLedger, (∀ e ∈ ledger.events, TreePayload e) →
      (∀ e ∈ ledger'.events, TreePayload e) → verifyChain sha256 ledger = some (true, none) →
        verifyChain sha256 ledger' = some (true, none) → ledger.headHash = ledger'.headHash →
        List.Forall₂ SameHashed ledger.events ledger'.events := by
  constructor
  · intro calls
    obtain ⟨hchain, hevents, hmade⟩ := recorded_run sha256 calls
    exact ⟨verifyChain_iff.mpr hchain, hevents, hmade⟩
  · intro ledger ledger' htrees htrees' hverify hverify' hhead
    -- the payloads are trees, so that is a part of what makes an event valid here
    have hchain := verifyChain_iff.mp hverify
    have hchain' := verifyChain_iff.mp hverify'
    rw [hhead] at hchain
    have hvalid : ∀ {l : List AuditEvent} {h : String},
        Chained sha256 AuditLedger.genesisHash l h → (∀ e ∈ l, TreePayload e) →
          Chain (fun e => e.previousHash) AuditEvent.eventHash
            (fun e => e.Intact sha256 ∧ TreePayload e) AuditLedger.genesisHash l h :=
      fun hc ht => hc.of_valid fun e he => ⟨hc.valid e he, ht e he⟩
    refine (hvalid hchain htrees).forall₂_of_same_head ?_ ?_ (hvalid hchain' htrees')
    · rintro e e' ⟨h, ht⟩ ⟨h', ht'⟩ hhash
      have hsame := sameHashed_of_hash hsha h h' ht ht' hhash
      exact ⟨hsame, hsame.header.previousHash⟩
    · rintro e ⟨h, -⟩ hhash
      rw [AuditEvent.Intact, AuditFields.computeEventHash_eq, Option.map_eq_some_iff] at h
      obtain ⟨payload, -, hdigest⟩ := h
      exact hgenesis _ (hdigest.trans hhash)

end

/-! ## One head, two orders of a payload -/

namespace Sample

theorem leapDay_valid : 1 ≤ 2024 ∧ 2024 ≤ 9999 ∧ 1 ≤ 2 ∧ 2 ≤ 12 ∧ 1 ≤ 29
    ∧ 29 ≤ daysInMonth 2024 2 := by
  decide

theorem noon_valid {second : Nat} (h : second < 60) :
    12 < 24 ∧ 0 < 60 ∧ second < 60 ∧ 0 < 1000000 := by
  omega

theorem utc_valid : ∀ o ∈ some (0 : Int), -86400000000 < o ∧ o < 86400000000 := by
  rintro o ⟨⟩
  decide

def noon (second : Nat) (h : second < 60) : Datetime where
  year := 2024
  month := 2
  day := 29
  hour := 12
  minute := 0
  second := second
  microsecond := 0
  offset := some 0
  date_valid := leapDay_valid
  time_valid := noon_valid h
  offset_valid := utc_valid

def half : FloatText := ⟨"2.5", by decide +kernel, all_isBare_iff.mp (by decide)⟩

def proposed (payload : List (String × Tree)) : LedgerCall where
  env := ⟨noon 0 (by decide), "e-1"⟩
  call := ⟨.cartProposed, some "tx-1", some "mandate-1", none, none,
    some (PyJson.ofMembers payload), none⟩

def started : LedgerCall where
  env := ⟨noon 5 (by decide), "e-2"⟩
  call := ⟨.paymentStarted, some "tx-1", none, none, none, none, none⟩

def items : String × Tree := ("items", .arr [.num (.int 2), .null])

def total : String × Tree := ("total", .num (.float half))

def hashed (c : LedgerCall) (head : String) (payload : List (String × Tree)) : Tree :=
  .obj ((newFields c.env c.call head).members (.obj payload))

def firstDigest : String := "ad310f80c873a4bd64a20a63e2e296dfaa30acf72f938958087e1ac7b1530164"

def secondDigest : String := "3f1eb0af5df850d1cc4d34e013ad8f5418ca559443279b702bfc309edbdab345"

def first : Tree := hashed (proposed [items, total]) AuditLedger.genesisHash [items, total]

def second : Tree := hashed started firstDigest []

def known : List (String × String) := [(first.text, firstDigest), (second.text, secondDigest)]

theorem known_injective : Function.Injective (knownDigests known) := by
  refine knownDigests_injective ?_ ?_
  · show ∀ d ∈ [firstDigest, secondDigest], d.toList.head? ≠ some '#'
    decide +kernel
  · show [firstDigest, secondDigest].Nodup
    decide +kernel

theorem known_ne_genesis : ∀ text, knownDigests known text ≠ AuditLedger.genesisHash := by
  refine knownDigests_ne (by decide) ?_
  show AuditLedger.genesisHash ∉ [firstDigest, secondDigest]
  decide +kernel

theorem digest_first : knownDigests known first.text = firstDigest := by
  rw [knownDigests, known, OrderedMap.lookupEntries, if_pos rfl]
  rfl

theorem digest_second : knownDigests known second.text = secondDigest := by
  have hne : first.text ≠ second.text := by
    refine fun h => absurd (Tree.text_injective h) ?_
    rw [first, second, hashed, hashed, Tree.obj.injEq]
    intro hmembers
    exact absurd (AuditFields.members_injective hmembers).1.eventId (by decide)
  rw [knownDigests, known, OrderedMap.lookupEntries, if_neg hne, OrderedMap.lookupEntries,
    if_pos rfl]
  rfl

def ledger (payload : List (String × Tree)) : LocalLedger :=
  exec (step (knownDigests known)) new [proposed payload, started]

theorem ledger_of_sorted {payload : List (String × Tree)}
    (h : sortKeys (.obj payload) = .obj [items, total]) :
    ledger payload
      = ⟨[⟨newFields (proposed payload).env (proposed payload).call AuditLedger.genesisHash,
            firstDigest⟩,
          ⟨newFields started.env started.call firstDigest, secondDigest⟩], secondDigest⟩ := by
  have hfirst := appendEvent_of_tree (knownDigests known) (proposed payload).env
    (proposed payload).call new payload rfl
  have hsecond := fun l : LocalLedger =>
    appendEvent_of_tree (knownDigests known) started.env started.call l [] rfl
  have hdigest : knownDigests known (Tree.obj ((newFields (proposed payload).env
      (proposed payload).call new.headHash).members (.obj [items, total]))).text
      = firstDigest := digest_first
  have hdigest' : knownDigests known (Tree.obj ((newFields started.env started.call
      firstDigest).members (sortKeys (.obj [])))).text = secondDigest := digest_second
  simp only [h, hdigest] at hfirst
  rw [ledger, exec_cons, exec_cons, exec_nil, step, step, hfirst, hsecond]
  simp only [hdigest']
  rfl

end Sample

/-- Two orders of one payload. -/
theorem chain_tamper_evident_reordered :
    verifyChain (knownDigests Sample.known) (Sample.ledger [Sample.total, Sample.items])
        = some (true, none)
      ∧ List.Forall₂ SameHashed (Sample.ledger [Sample.items, Sample.total]).events
        (Sample.ledger [Sample.total, Sample.items]).events := by
  have hevident := chain_tamper_evident Sample.known_injective Sample.known_ne_genesis
  have hverify := fun payload : List (String × Tree) =>
    (hevident.1 [Sample.proposed payload, Sample.started]).1
  have hsorted : sortKeys (.obj [Sample.items, Sample.total])
      = .obj [Sample.items, Sample.total] := by
    rfl
  have hreordered : sortKeys (.obj [Sample.total, Sample.items])
      = .obj [Sample.items, Sample.total] := by
    rfl
  have htrees : ∀ payload, sortKeys (.obj payload) = .obj [Sample.items, Sample.total] →
      ∀ e ∈ (Sample.ledger payload).events, TreePayload e := by
    intro payload h
    rw [Sample.ledger_of_sorted h]
    exact List.forall_mem_cons.mpr ⟨⟨payload, rfl⟩, List.forall_mem_singleton.mpr ⟨[], rfl⟩⟩
  refine ⟨hverify _, hevident.2 _ _ (htrees _ hsorted) (htrees _ hreordered) (hverify _)
    (hverify _) ?_⟩
  rw [Sample.ledger_of_sorted hsorted, Sample.ledger_of_sorted hreordered]

end LocalLedger

end MandateGateway
