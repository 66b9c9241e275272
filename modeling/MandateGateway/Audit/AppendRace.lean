import MandateGateway.Audit.Repository

/-! # Racing appends

    `append_event` lets go of the lock of the process once it has read the head
    of the chain, and computes and inserts its row behind that head later.  A
    call is therefore two steps, the reading and the insertion, and the calls
    interleave freely.

    A call left alone is `append_event` (`exec_alone`).  In a race no event is
    lost and no number is used twice, but a call whose head is not the last
    event any more is refused; all calls succeed, and the chain verifies,
    exactly when no call is overtaken between its steps, and its event is one
    that can be stored and verified at all (`race_succeeds_iff`). -/

namespace MandateGateway

open AuditRepository HashChain Runs

namespace AppendRace

/-- How far a call is. -/
inductive Stage where
  | waiting
  /-- the head is read, and the lock is free again -/
  | inserting (head : Head)
  | returned (row : AuditEventModel)
  | raised (err : AppendError)

/-- The table, and how far each call is. -/
structure State (ι : Type) where
  table : AuditTable
  stage : ι → Stage

variable {ι : Type} [DecidableEq ι]

def State.setStage (s : State ι) (i : ι) (stage : Stage) : State ι :=
  { s with stage := fun j => if j = i then stage else s.stage j }

/-- The type of the event is resolved and the head is read. -/
def readStep (c : StoreCall) (t : AuditTable) : Stage :=
  match resolveType c.call.eventType with
  | .error err => .raised err
  | .ok _ => .inserting (readHead t)

/-- The end of a call. -/
def replied : Except AppendError AuditEventModel → Stage
  | .ok row => .returned row
  | .error err => .raised err

/-- The row is made and inserted behind the head that was read. -/
def insertStep (sha256 : String → String) (c : StoreCall) (i : ι) (head : Head) (s : State ι) :
    State ι :=
  let (reply, table) := appendBehind sha256 c.env c.call head s.table
  State.setStage { s with table := table } i (replied reply)

/-- The next step of the call `i`. -/
def step (sha256 : String → String) (calls : ι → StoreCall) (s : State ι) (i : ι) :
    Unit × State ι :=
  match s.stage i with
  | .waiting => ((), s.setStage i (readStep (calls i) s.table))
  | .inserting head => ((), insertStep sha256 (calls i) i head s)
  | .returned _ => ((), s)
  | .raised _ => ((), s)

/-- Before the race no call has started. -/
def before (t : AuditTable) : State ι := ⟨t, fun _ => .waiting⟩

theorem setStage_stage_self (s : State ι) (i : ι) (stage : Stage) :
    (s.setStage i stage).stage i = stage := if_pos rfl

theorem setStage_stage_of_ne (s : State ι) {i j : ι} (stage : Stage) (h : j ≠ i) :
    (s.setStage i stage).stage j = s.stage j := if_neg h

section
variable {sha256 : String → String} {calls : ι → StoreCall} {s : State ι} {i : ι}

theorem step_of_waiting (h : s.stage i = .waiting) :
    (step sha256 calls s i).2 = s.setStage i (readStep (calls i) s.table) := by
  rw [step, h]

theorem step_of_inserting {head : Head} (h : s.stage i = .inserting head) :
    (step sha256 calls s i).2
      = State.setStage
        { s with table := (appendBehind sha256 (calls i).env (calls i).call head s.table).2 } i
        (replied (appendBehind sha256 (calls i).env (calls i).call head s.table).1) := by
  rw [step, h]
  rfl

variable (sha256 calls) in
/-- **A call left alone is `append_event`**: its two steps change the table as
    the call does and end with its reply. -/
theorem exec_alone (h : s.stage i = .waiting) :
    (exec (step sha256 calls) s [i, i]).table
        = (AuditRepository.step sha256 s.table (calls i)).2
      ∧ (exec (step sha256 calls) s [i, i]).stage i
        = replied (AuditRepository.step sha256 s.table (calls i)).1 := by
  rw [exec_cons, exec_cons, exec_nil, step_of_waiting h]
  cases htype : resolveType (calls i).call.eventType with
  | error err =>
      have hread : readStep (calls i) s.table = .raised err := by
        rw [readStep, htype]
      have hnew : newRow sha256 (calls i).env (calls i).call (readHead s.table)
          = .error err := by
        rw [newRow, htype]
      rw [hread, step, setStage_stage_self, AuditRepository.step, appendEvent, appendBehind, hnew]
      exact ⟨rfl, setStage_stage_self s i _⟩
  | ok eventType =>
      have hread : readStep (calls i) s.table = .inserting (readHead s.table) := by
        rw [readStep, htype]
      rw [hread, step_of_inserting (setStage_stage_self s i _)]
      exact ⟨rfl, setStage_stage_self _ i _⟩

/-! ## What a step does -/

/-- The event can be stored behind the last one, and verified: it can be
    written, its identifier is not used, its timestamp has an offset and its
    keys are in the order of their texts. -/
structure Storable (sha256 : String → String) (t : AuditTable) (c : StoreCall) : Prop where
  written   : ∃ row, newRow sha256 c.env c.call (readHead t) = .ok row
    ∧ row.eventId ∉ t.rows.map AuditEventModel.eventId
  canonical : Canonical c

/-- **What a call needs of its next step**: a valid type when it starts; when it
    inserts, that no event was inserted since it read the head, and an event
    that can be stored. -/
def Clear (sha256 : String → String) (calls : ι → StoreCall) (s : State ι) (i : ι) : Prop :=
  match s.stage i with
  | .waiting => ∃ eventType, resolveType (calls i).call.eventType = .ok eventType
  | .inserting head => head = readHead s.table ∧ Storable sha256 s.table (calls i)
  | _ => True

/-- What is right of a state: no call was refused, every event that was
    returned is stored, no number is used twice, and the chain verifies. -/
structure Right (sha256 decodeError : String → String) (s : State ι) : Prop where
  succeeds : ∀ i err, s.stage i ≠ .raised err
  kept     : ∀ i row, s.stage i = .returned row → row ∈ s.table.rows
  distinct : (s.table.rows.map AuditEventModel.sequenceNumber).Nodup
  verifies : verifyChain sha256 decodeError s.table = .ok (true, none)

/-- A head that was read is the last event, or an event was inserted since. -/
def Pending (t : AuditTable) (head : Head) : Prop :=
  1 ≤ head.nextSeq ∧ (head = readHead t ∨ head.nextSeq ≤ t.rows.length)

/-- The table is recorded, and nothing that was returned is lost. -/
structure Kept (sha256 : String → String) (s : State ι) : Prop where
  recorded : ∃ h, Recorded sha256 s.table h
  pending  : ∀ i head, s.stage i = .inserting head → Pending s.table head
  stored   : ∀ i row, s.stage i = .returned row → row ∈ s.table.rows

omit [DecidableEq ι] in
theorem kept_before {t : AuditTable} {h : String} (hr : Recorded sha256 t h) :
    Kept sha256 (before (ι := ι) t) := by
  refine ⟨⟨h, hr⟩, ?_, ?_⟩
  · intro i head hstage
    cases hstage
  · intro i row hstage
    cases hstage

omit [DecidableEq ι] in
/-- A kept state is right when no call was refused and every row is intact. -/
theorem Kept.right_iff {decodeError : String → String} (hk : Kept sha256 s) :
    Right sha256 decodeError s
      ↔ (∀ i err, s.stage i ≠ .raised err) ∧ ∀ row ∈ s.table.rows, RowIntact sha256 row := by
  obtain ⟨h, hr⟩ := hk.recorded
  rw [← hr.toLinked.verifyChain_iff sha256 decodeError]
  constructor
  · intro hright
    exact ⟨hright.succeeds, hright.verifies⟩
  · rintro ⟨hsucceeds, hverifies⟩
    refine ⟨hsucceeds, hk.stored, ?_, hverifies⟩
    rw [hr.sequence]
    exact List.nodup_range'

theorem taken_of_stale {t : AuditTable} {h : String} (hl : Linked t h) {row : AuditEventModel}
    (hpos : 1 ≤ row.sequenceNumber) (hstale : row.sequenceNumber ≤ t.rows.length) :
    t.Taken row := by
  have hused : row.sequenceNumber ∈ t.rows.map AuditEventModel.sequenceNumber := by
    rw [hl.sequence, List.mem_range'_1]
    omega
  obtain ⟨row', hrow', hseq⟩ := List.mem_map.mp hused
  exact ⟨_, List.mem_cons_of_mem _ List.mem_cons_self,
    List.mem_map.mpr ⟨row', hrow', congrArg Sum.inr hseq⟩⟩

theorem appendBehind_stale {t : AuditTable} {h : String} (hl : Linked t h) (c : StoreCall)
    {head : Head} (hpos : 1 ≤ head.nextSeq) (hstale : head.nextSeq ≤ t.rows.length) :
    ∃ err, appendBehind sha256 c.env c.call head t = (.error err, t) := by
  rcases appendBehind_cases sha256 c.env c.call head t with
    ⟨row, t', hrow, hfree, -, -⟩ | ⟨-, herr⟩
  · obtain ⟨eventType, tree, -, rfl⟩ := newRow_eq_ok hrow
    exact absurd (taken_of_stale hl hpos hstale) hfree
  · exact herr

/-- **A call that was overtaken is refused**, with an error that names its
    event and the number that is used already. -/
theorem overtaken_refused {head : Head} {row : AuditEventModel} (hk : Kept sha256 s)
    (h : s.stage i = .inserting head) (hpos : 1 ≤ head.nextSeq)
    (hstale : head.nextSeq ≤ s.table.rows.length)
    (hrow : newRow sha256 (calls i).env (calls i).call head = .ok row) :
    (step sha256 calls s i).2.stage i
      = .raised (.valueError (s!"Failed to append audit event {row.eventId} at sequence "
        ++ s!"{row.sequenceNumber}: integrity constraint violated.")) := by
  obtain ⟨_, hr⟩ := hk.recorded
  have hseq : row.sequenceNumber = head.nextSeq := by
    obtain ⟨eventType, tree, -, rfl⟩ := newRow_eq_ok hrow
    rfl
  rw [step_of_inserting h, setStage_stage_self, appendBehind, hrow]
  dsimp only
  rw [insertRow, UniqueRows.insert_of_taken (taken_of_stale hr.toLinked (hseq ▸ hpos)
    (hseq ▸ hstale))]
  rfl

omit [DecidableEq ι] in
/-- **What an insertion behind a pending head does**: behind the last event it
    adds a row that can be made and whose identifier is not used; otherwise it
    is refused and changes nothing. -/
theorem insert_cases (hsha : Function.Injective sha256) (hk : Kept sha256 s) {head : Head}
    (hp : Pending s.table head) (c : StoreCall) :
    (head = readHead s.table ∧ ∃ row t', newRow sha256 c.env c.call (readHead s.table) = .ok row
        ∧ row.eventId ∉ s.table.rows.map AuditEventModel.eventId
        ∧ appendBehind sha256 c.env c.call head s.table = (.ok row, t')
        ∧ t'.rows = s.table.rows ++ [row] ∧ Recorded sha256 t' row.eventHash)
      ∨ (head = readHead s.table → ∀ row, newRow sha256 c.env c.call (readHead s.table) = .ok row →
          row.eventId ∈ s.table.rows.map AuditEventModel.eventId)
        ∧ ∃ err, appendBehind sha256 c.env c.call head s.table = (.error err, s.table) := by
  obtain ⟨h, hr⟩ := hk.recorded
  by_cases hlast : head = readHead s.table
  · rw [hlast]
    rcases appendBehind_cases sha256 c.env c.call (readHead s.table) s.table with
      ⟨row, t', hrow, hfree, happend, hrows⟩ | ⟨htaken, herr⟩
    · obtain ⟨hseq, hprev⟩ := hr.newRow_numbers hrow
      have hwritten := written_of_newRow hrow
      exact .inl ⟨rfl, row, t', hrow, mt (hr.taken_iff hsha hwritten hseq).mpr hfree, happend,
        hrows, hr.concat hwritten hseq hprev hrows⟩
    · refine .inr ⟨fun _ row hrow => ?_, herr⟩
      exact (hr.taken_iff hsha (written_of_newRow hrow) (hr.newRow_numbers hrow).1).mp
        (htaken row hrow)
  · refine .inr ⟨fun h => absurd h hlast, ?_⟩
    exact appendBehind_stale hr.toLinked c hp.1 (hp.2.resolve_left hlast)

theorem pending_readHead {t : AuditTable} {h : String} (hl : Linked t h) :
    Pending t (readHead t) := by
  refine ⟨?_, .inl rfl⟩
  rw [hl.readHead_eq]
  exact Nat.le_add_left 1 _

/-- A pending head stays pending when a row is added. -/
theorem Pending.concat {t t' : AuditTable} {h : String} {head : Head} {row : AuditEventModel}
    (hp : Pending t head) (hl : Linked t h) (hrows : t'.rows = t.rows ++ [row]) :
    Pending t' head := by
  refine ⟨hp.1, .inr ?_⟩
  rw [hrows, List.length_append, List.length_singleton]
  rcases hp.2 with hlast | hle
  · rw [hlast, hl.readHead_eq]
  · exact Nat.le_succ_of_le hle

/-- A call moves on: the others keep what they read and returned. -/
theorem Kept.setStage (hk : Kept sha256 s) {t : AuditTable} {stage : Stage}
    (hrecorded : ∃ h, Recorded sha256 t h)
    (hpending : ∀ head, Pending s.table head → Pending t head)
    (hrows : ∀ row ∈ s.table.rows, row ∈ t.rows)
    (hread : ∀ head, stage = .inserting head → Pending t head)
    (hreturned : ∀ row, stage = .returned row → row ∈ t.rows) :
    Kept sha256 (State.setStage { s with table := t } i stage) := by
  refine ⟨hrecorded, ?_, ?_⟩
  · intro j head hj
    by_cases hji : j = i
    · rw [hji, setStage_stage_self] at hj
      exact hread head hj
    · rw [setStage_stage_of_ne _ _ hji] at hj
      exact hpending head (hk.pending j head hj)
  · intro j row hj
    by_cases hji : j = i
    · rw [hji, setStage_stage_self] at hj
      exact hreturned row hj
    · rw [setStage_stage_of_ne _ _ hji] at hj
      exact hrows row (hk.stored j row hj)

/-- **Nothing is lost in a race, and the chain stays linked.** -/
theorem kept_step (hsha : Function.Injective sha256) (hk : Kept sha256 s) (i : ι) :
    Kept sha256 (step sha256 calls s i).2 := by
  obtain ⟨h, hr⟩ := hk.recorded
  cases hstage : s.stage i with
  | waiting =>
      rw [step_of_waiting hstage]
      refine hk.setStage ⟨h, hr⟩ (fun _ hp => hp) (fun _ hrow => hrow) ?_ ?_
      · intro head hhead
        rw [readStep] at hhead
        cases htype : resolveType (calls i).call.eventType with
        | error err =>
            rw [htype] at hhead
            cases hhead
        | ok eventType =>
            rw [htype] at hhead
            rw [← Stage.inserting.inj hhead]
            exact pending_readHead hr.toLinked
      · intro row hrow
        rw [readStep] at hrow
        cases htype : resolveType (calls i).call.eventType with
        | error err =>
            rw [htype] at hrow
            cases hrow
        | ok eventType =>
            rw [htype] at hrow
            cases hrow
  | inserting head =>
      rw [step_of_inserting hstage]
      rcases insert_cases hsha hk (hk.pending i head hstage) (calls i) with
        ⟨-, row, t', -, -, happend, hrows, hrecorded⟩ | ⟨-, err, happend⟩
      · rw [happend]
        refine hk.setStage ⟨row.eventHash, hrecorded⟩
          (fun _ hp => hp.concat hr.toLinked hrows) ?_ ?_ ?_
        · intro row' hrow'
          rw [hrows]
          exact List.mem_append_left _ hrow'
        · intro head' hhead'
          cases hhead'
        · intro row' hrow'
          rw [← Stage.returned.inj hrow', hrows]
          exact List.mem_append_right _ List.mem_cons_self
      · rw [happend]
        refine hk.setStage ⟨h, hr⟩ (fun _ hp => hp) (fun _ hrow => hrow) ?_ ?_
        · intro head' hhead'
          cases hhead'
        · intro row' hrow'
          cases hrow'
  | returned row =>
      rw [step, hstage]
      exact hk
  | raised err =>
      rw [step, hstage]
      exact hk

theorem succeeds_setStage {t : AuditTable} {stage : Stage}
    (h : ∀ j err, s.stage j ≠ .raised err) :
    (∀ j err, (State.setStage { s with table := t } i stage).stage j ≠ .raised err)
      ↔ ∀ err, stage ≠ .raised err := by
  constructor
  · intro hall err
    have hown := hall i err
    rw [setStage_stage_self] at hown
    exact hown
  · intro hstage j err
    by_cases hji : j = i
    · rw [hji, setStage_stage_self]
      exact hstage err
    · rw [setStage_stage_of_ne _ _ hji]
      exact h j err

/-- **After a step everything is right exactly when the step was clear.** -/
theorem right_iff_clear {decodeError : String → String} (hsha : Function.Injective sha256)
    (hk : Kept sha256 s) (hright : Right sha256 decodeError s) (i : ι) :
    Right sha256 decodeError (step sha256 calls s i).2 ↔ Clear sha256 calls s i := by
  obtain ⟨hsucceeds, hintact⟩ := hk.right_iff.mp hright
  rw [(kept_step hsha hk i).right_iff, Clear]
  cases hstage : s.stage i with
  | waiting =>
      rw [step_of_waiting hstage]
      rw [show s.setStage i (readStep (calls i) s.table)
        = State.setStage { s with table := s.table } i (readStep (calls i) s.table) from rfl,
        succeeds_setStage hsucceeds, readStep]
      cases htype : resolveType (calls i).call.eventType with
      | error err =>
          refine iff_of_false (fun h => h.1 err rfl) ?_
          rintro ⟨eventType, h⟩
          cases h
      | ok eventType =>
          refine iff_of_true ⟨?_, hintact⟩ ⟨eventType, rfl⟩
          intro err h
          cases h
  | inserting head =>
      rw [step_of_inserting hstage, succeeds_setStage hsucceeds]
      rcases insert_cases hsha hk (hk.pending i head hstage) (calls i) with
        ⟨hlast, row, t', hrow, hfresh, happend, hrows, -⟩ | ⟨hused, err, happend⟩
      · rw [happend]
        show (_ ∧ ∀ row ∈ t'.rows, RowIntact sha256 row) ↔ _
        rw [hrows, List.forall_mem_append, List.forall_mem_singleton, rowIntact_iff hsha hrow]
        constructor
        · rintro ⟨-, -, hcanonical⟩
          exact ⟨hlast, ⟨row, hrow, hfresh⟩, hcanonical⟩
        · rintro ⟨-, -, hcanonical⟩
          refine ⟨?_, hintact, hcanonical⟩
          intro err h
          cases h
      · rw [happend]
        refine iff_of_false (fun h => h.1 err rfl) ?_
        rintro ⟨hlast, ⟨row, hrow, hfresh⟩, -⟩
        exact hfresh (hused hlast row hrow)
  | returned row =>
      rw [step, hstage]
      exact iff_of_true ⟨hsucceeds, hintact⟩ trivial
  | raised err => exact absurd hstage (hsucceeds i err)

theorem step_stage_of_ne {j : ι} (h : j ≠ i) :
    (step sha256 calls s i).2.stage j = s.stage j := by
  cases hstage : s.stage i with
  | waiting =>
      rw [step_of_waiting hstage]
      exact setStage_stage_of_ne s _ h
  | inserting head =>
      rw [step_of_inserting hstage]
      exact setStage_stage_of_ne _ _ h
  | returned row => rw [step, hstage]
  | raised err => rw [step, hstage]

/-- A storable event of a call that is not overtaken. -/
theorem clear_alone (h : s.stage i = .waiting) (hs : Storable sha256 s.table (calls i)) :
    ∀ c ∈ steps (step sha256 calls) s [i, i], Clear sha256 calls c.pre c.act := by
  obtain ⟨row, hrow, -⟩ := hs.written
  cases htype : resolveType (calls i).call.eventType with
  | error err =>
      rw [newRow, htype] at hrow
      cases hrow
  | ok eventType =>
      have hread : (step sha256 calls s i).2 = s.setStage i (.inserting (readHead s.table)) := by
        rw [step_of_waiting h, readStep, htype]
      rw [steps_cons, steps_cons, steps_nil, hread]
      refine List.forall_mem_cons.mpr ⟨?_, List.forall_mem_singleton.mpr ?_⟩
      · rw [stepAt_pre, stepAt_act, Clear, h]
        exact ⟨eventType, htype⟩
      · rw [stepAt_pre, stepAt_act, Clear, setStage_stage_self]
        exact ⟨rfl, hs⟩

/-! ## Runs -/

/-- **In every race, the numbers of the events are distinct and consecutive,
    the events are linked, and those that were returned are stored.** -/
theorem race_keeps (hsha : Function.Injective sha256) {t : AuditTable} {h : String}
    (hr : Recorded sha256 t h) (calls : ι → StoreCall) (order : List ι) :
    Kept sha256 (exec (step sha256 calls) (before t) order) :=
  exec_inv (I := Kept sha256) (fun _ i hk => kept_step hsha hk i) (kept_before hr) order

/-- **Every call of a race succeeds, with nothing lost, no number used twice and
    a chain that verifies, exactly when every step of the race is clear.** -/
theorem race_succeeds_iff (hsha : Function.Injective sha256) (decodeError : String → String)
    {t : AuditTable} {h : String} (hr : Recorded sha256 t h)
    (hverifies : verifyChain sha256 decodeError t = .ok (true, none)) (calls : ι → StoreCall)
    (order : List ι) :
    (∀ c ∈ steps (step sha256 calls) (before t) order, Right sha256 decodeError c.post)
      ↔ ∀ c ∈ steps (step sha256 calls) (before t) order, Clear sha256 calls c.pre c.act := by
  refine forall_steps_iff (I := fun s => Kept sha256 s ∧ Right sha256 decodeError s)
    (fun s i hs => right_iff_clear hsha hs.1 hs.2 i) ?_ ?_ order
  · intro s i hs hclear
    exact ⟨kept_step hsha hs.1 i, (right_iff_clear hsha hs.1 hs.2 i).mpr hclear⟩
  · have hkept := kept_before (ι := ι) hr
    refine ⟨hkept, hkept.right_iff.mpr ⟨?_, (hr.toLinked.verifyChain_iff sha256 decodeError).mp
      hverifies⟩⟩
    intro i err hstage
    cases hstage

end

/-! ## Two appends at once -/

namespace Sample

def calls (i : Bool) : StoreCall :=
  if i then AuditRepository.Sample.started else AuditRepository.Sample.cart

def sha256 : String → String := knownDigests LocalLedger.Sample.known

theorem sha256_injective : Function.Injective sha256 := LocalLedger.Sample.known_injective

theorem storable_cart : Storable sha256 UniqueRows.empty (calls false) := by
  refine ⟨⟨_, newRow_of_written rfl (PyJson.written_ofTree false (.obj _)), List.not_mem_nil⟩,
    by decide, ?_⟩
  exact keysInOrder_ofMembers AuditRepository.Sample.distinct_cart

theorem storable_started {t : AuditTable}
    (h : t.rows.map AuditEventModel.eventId = ["e-1"]) : Storable sha256 t (calls true) := by
  refine ⟨⟨_, newRow_of_written rfl (PyJson.written_ofTree false (.obj [])), ?_⟩, by decide, ?_⟩
  · rw [h]
    show "e-2" ∉ ["e-1"]
    decide
  · exact keysInOrder_ofMembers AuditRepository.Sample.distinct_nil

theorem ids_after_cart :
    (AuditRepository.step sha256 UniqueRows.empty (calls false)).2.rows.map
      AuditEventModel.eventId = ["e-1"] := by
  obtain ⟨row, hrow, hfresh⟩ := storable_cart.written
  obtain ⟨eventType, tree, -, rfl⟩ := newRow_eq_ok hrow
  rw [(recorded_empty.step_of_fresh sha256_injective hrow hfresh).1]
  rfl

def bothRead : State Bool :=
  ((before UniqueRows.empty).setStage false (.inserting (readHead UniqueRows.empty))).setStage
    true (.inserting (readHead UniqueRows.empty))

theorem exec_bothRead :
    exec (step sha256 calls) (before UniqueRows.empty) [false, true] = bothRead := by
  rw [exec_cons, exec_cons, exec_nil, step_of_waiting rfl, step_of_waiting rfl]
  rfl

theorem table_after_both :
    (step sha256 calls bothRead false).2.table
      = (AuditRepository.step sha256 UniqueRows.empty (calls false)).2 := by
  have hstage : bothRead.stage false = .inserting (readHead UniqueRows.empty) := rfl
  rw [step_of_inserting hstage]
  rfl

end Sample

/-- The cart, then the payment. -/
theorem race_succeeds_iff_in_turn :
    Function.Injective Sample.sha256
      ∧ ∀ c ∈ steps (step Sample.sha256 Sample.calls) (before UniqueRows.empty)
        [false, false, true, true], Right Sample.sha256 id c.post := by
  refine ⟨Sample.sha256_injective, (race_succeeds_iff Sample.sha256_injective id recorded_empty rfl
    Sample.calls [false, false, true, true]).mpr ?_⟩
  have hfirst : (before UniqueRows.empty : State Bool).stage false = .waiting := rfl
  have htable := (exec_alone Sample.sha256 Sample.calls hfirst).1
  refine forall_steps_append_iff.mpr
    ⟨clear_alone hfirst Sample.storable_cart, clear_alone ?_ ?_⟩
  · rw [exec_cons, exec_cons, exec_nil, step_stage_of_ne Bool.false_ne_true.symm,
      step_stage_of_ne Bool.false_ne_true.symm]
    rfl
  · rw [htable]
    exact Sample.storable_started Sample.ids_after_cart

/-- Both calls read the head of the empty chain; the payment, which is inserted
    second, is refused. -/
theorem overtaken_append_refused :
    (exec (step Sample.sha256 Sample.calls) (before UniqueRows.empty)
        [false, true, false, true]).stage true
      = .raised (.valueError
        "Failed to append audit event e-2 at sequence 1: integrity constraint violated.") := by
  have hkept : Kept Sample.sha256 (step Sample.sha256 Sample.calls Sample.bothRead false).2 := by
    rw [← Sample.exec_bothRead]
    exact race_keeps Sample.sha256_injective recorded_empty Sample.calls [false, true, false]
  have hstage : (step Sample.sha256 Sample.calls Sample.bothRead false).2.stage true
      = .inserting (readHead UniqueRows.empty) := step_stage_of_ne Bool.false_ne_true.symm
  have hlength : (step Sample.sha256 Sample.calls Sample.bothRead false).2.table.rows.length
      = 1 := by
    rw [Sample.table_after_both, ← List.length_map AuditEventModel.eventId,
      Sample.ids_after_cart]
    rfl
  have hrow : newRow Sample.sha256 (Sample.calls true).env (Sample.calls true).call
      (readHead UniqueRows.empty) = .ok _ :=
    newRow_of_written rfl (PyJson.written_ofTree false (.obj []))
  rw [show [false, true, false, true] = [false, true] ++ [false, true] from rfl, exec_append,
    Sample.exec_bothRead, exec_cons, exec_cons, exec_nil,
    overtaken_refused hkept hstage (Nat.le_refl 1) (Nat.le_of_eq hlength.symm) hrow]
  rfl

end AppendRace

end MandateGateway
