import MandateGateway.Audit.Repository

/-! # Appends in memory and through the database

    `append_event` links an event to the head of the process and leaves the
    table alone; `async_append_event` links it to the last row of the table and
    then adds it to the chain of the process.  That chain survives exactly the
    runs in which the two heads agree whenever a row is added, and in which
    the payloads of the rows can be read back as they were hashed
    (`local_chain_verifies_iff`). -/

namespace MandateGateway

open AuditRepository HashChain Json Json.Tree Runs

/-- The chain of a process, and the table behind it. -/
structure SharedLedger where
  ledger : LocalLedger
  table  : AuditTable

/-- An append of either kind, with what the process supplies to it. -/
inductive MixedCall where
  | appendEvent (env : AppendEnv) (call : AppendCall)
  | asyncAppendEvent (env : AppendEnv) (call : AppendCall)

namespace SharedLedger

open LocalLedger

/-- What `async_append_event` asks of the repository. -/
def storeCall (env : AppendEnv) (call : AppendCall) : StoreCall where
  env := env
  call := ⟨.inr call.eventType, call.transactionId, call.mandateId, call.merchantId,
    call.buyerId, call.payload, call.at?, none⟩

/-- The event that a row is read as. -/
def eventOf (model : AuditEventModel) (eventType : AuditEventType) (payload : PyJson) :
    AuditEvent where
  eventId := model.eventId
  eventType := eventType
  timestamp := model.timestamp
  transactionId := model.transactionId
  mandateId := model.mandateId
  merchantId := model.merchantId
  buyerId := model.buyerId
  payload := payload
  previousHash := model.previousHash
  eventHash := model.eventHash

/-- `AuditEvent(...)` of a row. -/
def domainEvent (decodeError : String → String) (model : AuditEventModel) :
    Except AppendError AuditEvent :=
  match readPayload model.payloadJson with
  | none => .error (.valueError (decodeError model.payloadJson))
  | some payload =>
      match resolveType (.inl model.eventType) with
      | .error err => .error err
      | .ok eventType =>
          if isTextDict payload then .ok (eventOf model eventType payload)
          else .error (.validationError "AuditEvent" "payload")

def asyncAppendEvent (sha256 decodeError : String → String) (env : AppendEnv)
    (call : AppendCall) (s : SharedLedger) : Except AppendError AuditEvent × SharedLedger :=
  match AuditRepository.step sha256 s.table (storeCall env call) with
  | (.error err, table) => (.error err, ⟨s.ledger, table⟩)
  | (.ok model, table) =>
      match domainEvent decodeError model with
      | .error err => (.error err, ⟨s.ledger, table⟩)
      | .ok event =>
          (.ok event, ⟨⟨s.ledger.events ++ [event], event.eventHash⟩, table⟩)

/-- One append of either kind. -/
def step (sha256 decodeError : String → String) (s : SharedLedger) :
    MixedCall → Except AppendError AuditEvent × SharedLedger
  | .appendEvent env call =>
      let (reply, ledger) := LocalLedger.appendEvent sha256 env call s.ledger
      (reply, ⟨ledger, s.table⟩)
  | .asyncAppendEvent env call => asyncAppendEvent sha256 decodeError env call s

/-- The table accepts a row for the call. -/
def Stored (sha256 : String → String) (s : SharedLedger) (env : AppendEnv)
    (call : AppendCall) : Prop :=
  Accepted sha256 s.table (storeCall env call)

/-- **What the local chain needs of a call**: a row that is added is behind the
    local head, and its payload has its keys in the order of their texts. -/
def Fits (sha256 : String → String) (s : SharedLedger) : MixedCall → Prop
  | .appendEvent _ _ => True
  | .asyncAppendEvent env call =>
      Stored sha256 s env call →
        (readHead s.table).prevHash = s.ledger.headHash
          ∧ KeysInOrder (.dict (call.payload.getD []))

section
variable {sha256 decodeError : String → String} {env : AppendEnv} {call : AppendCall}

/-! ## The event of a row -/

theorem written_dict_obj {items : List (PyKey × PyJson)} {tree : Tree}
    (h : PyJson.written false (.dict items) = some tree) : ∃ ms, tree = .obj ms := by
  rw [PyJson.written, Option.map_eq_some_iff] at h
  obtain ⟨sorted, -, rfl⟩ := h
  exact ⟨_, rfl⟩

structure EventOfRow (sha256 : String → String) (call : AppendCall) (row : AuditEventModel)
    (e : AuditEvent) : Prop where
  eventHash    : e.eventHash = row.eventHash
  previousHash : e.previousHash = row.previousHash
  intact_iff   : Function.Injective sha256 →
    (e.Intact sha256 ↔ KeysInOrder (.dict (call.payload.getD [])))

variable (decodeError) in
/-- **A new row is read as an event that carries its own hash exactly when the
    payload was written with the keys in the order of their texts.** -/
theorem domainEvent_of_newRow {head : Head} {row : AuditEventModel}
    (h : newRow sha256 env (storeCall env call).call head = .ok row) :
    ∃ e, domainEvent decodeError row = .ok e ∧ EventOfRow sha256 call row e := by
  obtain ⟨eventType, tree, hwritten, rfl⟩ := newRow_eq_ok h
  obtain ⟨ms, rfl⟩ := written_dict_obj hwritten
  let fields := newFields env (storeCall env call).call eventType head
  have hread := readPayload_text (.obj ms)
  have htype : resolveType (.inl eventType.value) = .ok eventType := by
    rw [resolveType, AuditEventType.ofValue_value]
  have hdict : isTextDict (PyJson.ofTree (Tree.obj ms).merged) = true :=
    isTextDict_ofMembers _
  refine ⟨eventOf (rowOf fields head.nextSeq (Tree.obj ms).text
    (sha256 (Tree.obj (fields.members (.obj ms))).text)) eventType
    (PyJson.ofTree (Tree.obj ms).merged), ?_, rfl, rfl, ?_⟩
  · show (match readPayload (Tree.obj ms).text with
      | none => _
      | some payload => _) = _
    rw [hread]
    show (match resolveType (.inl eventType.value) with
      | .error err => _
      | .ok eventType => _) = _
    rw [htype]
    exact if_pos hdict
  · intro hsha
    refine (reread_hash_iff hsha rfl).trans (Iff.trans ?_ (keysInOrder_iff hwritten).symm)
    rw [← rewritten_eq_iff]
    refine ⟨fun h => (AuditFields.members_injective h).2, fun htree => ?_⟩
    rw [htree]
    rfl

/-! ## Appends -/

/-- **What an append of either kind does**: an append in memory adds an event
    behind the local head, one through the table adds the event of the row that
    is added there; an append that raises changes nothing. -/
inductive Moves (sha256 : String → String) (s : SharedLedger) : MixedCall → SharedLedger → Prop
  | refused {c : MixedCall}
      (h : ∀ env call, c = .asyncAppendEvent env call → ¬ Stored sha256 s env call) :
      Moves sha256 s c s
  | local {env : AppendEnv} {call : AppendCall} {e : AuditEvent}
      (hmade : Made sha256 env call s.ledger e) :
      Moves sha256 s (.appendEvent env call)
        ⟨⟨s.ledger.events ++ [e], e.eventHash⟩, s.table⟩
  | stored {env : AppendEnv} {call : AppendCall} {row : AuditEventModel} {e : AuditEvent}
      {table : AuditTable} (hacc : Stored sha256 s env call)
      (hrow : newRow sha256 env (storeCall env call).call (readHead s.table) = .ok row)
      (hevent : EventOfRow sha256 call row e) (hrows : table.rows = s.table.rows ++ [row]) :
      Moves sha256 s (.asyncAppendEvent env call)
        ⟨⟨s.ledger.events ++ [e], e.eventHash⟩, table⟩

theorem step_appendEvent (s : SharedLedger) :
    (step sha256 decodeError s (.appendEvent env call)).2
      = ⟨(LocalLedger.appendEvent sha256 env call s.ledger).2, s.table⟩ := rfl

variable (sha256 decodeError) in
theorem step_moves (s : SharedLedger) (c : MixedCall) :
    Moves sha256 s c (step sha256 decodeError s c).2 := by
  cases c with
  | appendEvent env call =>
      rw [step]
      rcases appendEvent_cases sha256 env call s.ledger with ⟨err, h⟩ | ⟨e, hmade, h⟩
      · rw [h]
        refine .refused ?_
        intro env' call' hc
        cases hc
      · rw [h]
        exact .local hmade
  | asyncAppendEvent env call =>
      rw [step, asyncAppendEvent, AuditRepository.step, AuditRepository.appendEvent]
      rcases appendBehind_cases sha256 (storeCall env call).env (storeCall env call).call
          (readHead s.table) s.table with
        ⟨row, table, hrow, hfree, h, hrows⟩ | ⟨htaken, err, h⟩
      · obtain ⟨e, hdomain, hevent⟩ := domainEvent_of_newRow decodeError hrow
        simp only [h, hdomain]
        exact .stored ⟨row, hrow, hfree⟩ hrow hevent hrows
      · simp only [h]
        refine .refused ?_
        rintro env' call' ⟨⟩ ⟨row, hrow, hfree⟩
        exact hfree (htaken row hrow)

/-! ## Runs -/

/-- The local chain verifies, and the table is linked. -/
structure Whole (sha256 : String → String) (s : SharedLedger) : Prop where
  chained : Chained sha256 AuditLedger.genesisHash s.ledger.events s.ledger.headHash
  linked  : ∃ h, Linked s.table h

variable (decodeError) in
/-- **After a call the local chain verifies exactly when the call fits.** -/
theorem verifies_iff_fits (hsha : Function.Injective sha256) {s : SharedLedger}
    (hs : Whole sha256 s) (c : MixedCall) :
    verifyChain sha256 (step sha256 decodeError s c).2.ledger = some (true, none)
      ↔ Fits sha256 s c := by
  rw [verifyChain_iff]
  have hmoves := step_moves sha256 decodeError s c
  generalize (step sha256 decodeError s c).2 = s' at hmoves ⊢
  cases hmoves with
  | refused h =>
      refine iff_of_true hs.chained ?_
      cases c with
      | appendEvent env call => trivial
      | asyncAppendEvent env call => exact fun hacc => absurd hacc (h env call rfl)
  | «local» hmade =>
      refine iff_of_true (chain_concat_iff.mpr ⟨?_, hmade.intact, rfl⟩) trivial
      rw [hmade.fields]
      exact hs.chained
  | @stored env call row e table hacc hrow hevent hrows =>
      obtain ⟨h, hl⟩ := hs.linked
      have hhead : (readHead s.table).prevHash = e.previousHash := by
        rw [hevent.previousHash, (hl.newRow_numbers (c := storeCall env call) hrow).2,
          hl.readHead_eq]
      rw [Chained, chain_concat_iff, hevent.intact_iff hsha, ← hhead]
      constructor
      · rintro ⟨hchain, hkeys, -⟩ -
        exact ⟨hchain.head_unique hs.chained, hkeys⟩
      · intro hfits
        obtain ⟨hsame, hkeys⟩ := hfits hacc
        rw [hsame]
        exact ⟨hs.chained, hkeys, rfl⟩

variable (decodeError) in
/-- The table stays linked. -/
theorem linked_step {s : SharedLedger} (h : ∃ h, Linked s.table h) (c : MixedCall) :
    ∃ h, Linked (step sha256 decodeError s c).2.table h := by
  have hmoves := step_moves sha256 decodeError s c
  generalize (step sha256 decodeError s c).2 = s' at hmoves ⊢
  cases hmoves with
  | refused _ => exact h
  | «local» _ => exact h
  | @stored env call row e table hacc hrow hevent hrows =>
      obtain ⟨h, hl⟩ := h
      obtain ⟨hseq, hprev⟩ := hl.newRow_numbers (c := storeCall env call) hrow
      exact ⟨row.eventHash, hl.concat hseq hprev hrows⟩

/-- The local chain verifies, and the rows of the table are numbered and linked
    up to the same head, as they are where the two are equal. -/
def SameHead (sha256 : String → String) (s : SharedLedger) : Prop :=
  verifyChain sha256 s.ledger = some (true, none) ∧ Linked s.table s.ledger.headHash

/-- **The local chain verifies after every call of a run exactly when every
    call of the run fits.** -/
theorem local_chain_verifies_iff (hsha : Function.Injective sha256)
    (decodeError : String → String) {s : SharedLedger} (h : SameHead sha256 s)
    (calls : List MixedCall) :
    (∀ c ∈ steps (step sha256 decodeError) s calls,
        verifyChain sha256 c.post.ledger = some (true, none))
      ↔ ∀ c ∈ steps (step sha256 decodeError) s calls, Fits sha256 c.pre c.act := by
  refine forall_steps_iff (I := Whole sha256)
    (fun s c hs => verifies_iff_fits decodeError hsha hs c) ?_
    ⟨verifyChain_iff.mp h.1, _, h.2⟩ calls
  intro s c hs hfits
  exact ⟨verifyChain_iff.mp ((verifies_iff_fits decodeError hsha hs c).mpr hfits),
    linked_step decodeError hs.linked c⟩

end

/-! ## The two kinds, in both orders -/

namespace Sample

def start : SharedLedger := ⟨LocalLedger.new, UniqueRows.empty⟩

theorem sameHead_start (sha256 : String → String) : SameHead sha256 start :=
  ⟨rfl, linked_empty⟩

def cart : LedgerCall :=
  LocalLedger.Sample.proposed [LocalLedger.Sample.total, LocalLedger.Sample.items]

def started : LedgerCall := LocalLedger.Sample.started

def aloneDigest : String := "76bae6be5675eaa228de1c39ce61862d8fbde45b2fb3f56153c091e8e498c12b"

/-- The SHA-256 digests of what is hashed for the cart, and for its payment
    behind nothing and behind the cart. -/
def known : List (String × String) :=
  ((LocalLedger.Sample.hashed started AuditLedger.genesisHash []).text, aloneDigest)
    :: LocalLedger.Sample.known

theorem known_injective : Function.Injective (knownDigests known) := by
  refine knownDigests_injective ?_ ?_
  · show ∀ d ∈ [aloneDigest, LocalLedger.Sample.firstDigest, LocalLedger.Sample.secondDigest],
      d.toList.head? ≠ some '#'
    decide +kernel
  · show [aloneDigest, LocalLedger.Sample.firstDigest, LocalLedger.Sample.secondDigest].Nodup
    decide +kernel

theorem known_ne_genesis : ∀ text, knownDigests known text ≠ AuditLedger.genesisHash := by
  refine knownDigests_ne (by decide) ?_
  show AuditLedger.genesisHash ∉ [aloneDigest, LocalLedger.Sample.firstDigest,
    LocalLedger.Sample.secondDigest]
  decide

end Sample

/-- A cart through the table, then its payment in memory. -/
theorem local_chain_verifies_iff_async_first :
    Function.Injective (knownDigests Sample.known)
      ∧ ∀ c ∈ steps (step (knownDigests Sample.known) id) Sample.start
          [.asyncAppendEvent Sample.cart.env Sample.cart.call,
            .appendEvent Sample.started.env Sample.started.call],
        verifyChain (knownDigests Sample.known) c.post.ledger = some (true, none) := by
  refine ⟨Sample.known_injective, (local_chain_verifies_iff Sample.known_injective id
    (Sample.sameHead_start _) _).mpr ?_⟩
  rw [steps_cons, steps_cons, steps_nil]
  refine List.forall_mem_cons.mpr ⟨fun _ => ⟨rfl, ?_⟩, List.forall_mem_singleton.mpr trivial⟩
  exact keysInOrder_ofMembers AuditRepository.Sample.distinct_cart

/-- A cart in memory, then its payment through the table, which knows nothing
    of the cart. -/
theorem sync_append_breaks_chain :
    verifyChain (knownDigests Sample.known)
        (exec (step (knownDigests Sample.known) id) Sample.start
          [.appendEvent Sample.cart.env Sample.cart.call,
            .asyncAppendEvent Sample.started.env Sample.started.call]).ledger
      ≠ some (true, none) := by
  have hstart : Whole (knownDigests Sample.known) Sample.start := ⟨.nil _, _, linked_empty⟩
  rw [exec_cons, exec_cons, exec_nil]
  generalize hlocal : (step (knownDigests Sample.known) id Sample.start
    (.appendEvent Sample.cart.env Sample.cart.call)).2 = s
  have hverifies : verifyChain (knownDigests Sample.known) s.ledger = some (true, none) := by
    rw [← hlocal]
    exact (verifies_iff_fits id Sample.known_injective hstart _).mpr trivial
  rw [step_appendEvent] at hlocal
  have htable : s.table = UniqueRows.empty := (congrArg SharedLedger.table hlocal).symm
  have happend := appendEvent_of_tree (knownDigests Sample.known) Sample.cart.env
    Sample.cart.call Sample.start.ledger [LocalLedger.Sample.total, LocalLedger.Sample.items] rfl
  have hhead : s.ledger.headHash ≠ AuditLedger.genesisHash := by
    rw [← hlocal, happend]
    dsimp only
    exact Sample.known_ne_genesis _
  have hs : Whole (knownDigests Sample.known) s := by
    refine ⟨verifyChain_iff.mp hverifies, AuditLedger.genesisHash, ?_⟩
    rw [htable]
    exact linked_empty
  have hstored : Stored (knownDigests Sample.known) s Sample.started.env Sample.started.call := by
    refine ⟨_, newRow_of_written rfl (PyJson.written_ofTree false (.obj [])), ?_⟩
    rw [htable]
    rintro ⟨column, -, hmem⟩
    cases hmem
  rw [ne_eq, verifies_iff_fits id Sample.known_injective hs]
  intro hfits
  have hsame := (hfits hstored).1
  rw [htable] at hsame
  exact hhead hsame.symm

end SharedLedger

end MandateGateway
