import MandateGateway.Lib.Runs
import MandateGateway.Policy.MandateLifecycle
import Mathlib.Logic.Relation

/-! # Runs of mandate transitions

    Mandates are moved by units of work that overlap, and in memory.  A call in
    a unit of work locks the row of its mandate until the unit ends; a call of
    another unit on the same mandate waits.  What the unit changed is seen by
    the others once it is committed, and is dropped where it is rolled back.
    Where no lock is asked for, on SQLite, the runs are those in which the units
    do not overlap.

    * `consistent_step`: what a unit holds is reached from what is committed;
    * `committed_step`, `seen_step`: a status moves along the lifecycle;
    * `terminal_for_good`: a terminal status stays, and refuses every request. -/

namespace MandateGateway

open Clock Raising MandateRepository Relation Runs

namespace MandateLifecycle

/-! ## Statuses -/

/-- One text of a status follows another by a legal transition. -/
def Moves (text text' : String) : Prop :=
  ∃ current target : MandateStatus, text = current.value
    ∧ target ∈ mandateLegalTransitions current ∧ text' = target.value

/-- The text of a status that is never left. -/
def TerminalText (text : String) : Prop := ∃ s : MandateStatus, s.Terminal ∧ text = s.value

theorem value_injective : Function.Injective MandateStatus.value := by
  intro s t h
  exact Option.some.inj ((MandateStatus.ofValue_value s).symm.trans
    (h ▸ MandateStatus.ofValue_value t))

theorem not_moves_of_terminal {text text' : String} (h : TerminalText text) :
    ¬ Moves text text' := by
  obtain ⟨s, hs, rfl⟩ := h
  rintro ⟨current, target, hsame, hlegal, -⟩
  obtain rfl := value_injective hsame
  exact not_legal_of_terminal hs hlegal

theorem eq_of_reaches_of_terminal {text text' : String} (h : TerminalText text)
    (hreach : ReflTransGen Moves text text') : text' = text := by
  rcases hreach.cases_head with rfl | ⟨next, hmove, -⟩
  · rfl
  · exact absurd hmove (not_moves_of_terminal h)

theorem terminal_of_value {s : MandateStatus} (h : TerminalText s.value) : s.Terminal := by
  obtain ⟨t, ht, hsame⟩ := h
  exact value_injective hsame ▸ ht

/-! ## Calls -/

/-- A transition in the database. -/
inductive StoredCall where
  | transitionMandateStatus (mandateId : String) (targetStatus : String ⊕ MandateStatus)
  | revokeMandate (mandateId : String)
  | expireMandate (mandateId : String)
  | asyncTransitionMandate (mandateId : String) (target : MandateStatus)

namespace StoredCall

/-- The mandate whose row is locked. -/
def mandateId : StoredCall → String
  | .transitionMandateStatus mandateId _ | .revokeMandate mandateId
  | .expireMandate mandateId => mandateId
  | .asyncTransitionMandate mandateId _ => Text.strip mandateId

def run : StoredCall → Action (MandateModel ⊕ BuyerMandate)
  | .transitionMandateStatus mandateId targetStatus => do
      pure (.inl (← MandateRepository.transitionMandateStatus mandateId targetStatus))
  | .revokeMandate mandateId => do pure (.inl (← MandateRepository.revokeMandate mandateId))
  | .expireMandate mandateId => do pure (.inl (← MandateRepository.expireMandate mandateId))
  | .asyncTransitionMandate mandateId target => do
      pure (.inr (← MandateLifecycle.asyncTransitionMandate mandateId target))

/-- **Every call does nothing to the table or makes a legal transition of its
    mandate.** -/
theorem run_cases (c : StoredCall) (db : MandateTable) :
    (c.run db).2 = db
      ∨ ∃ row target, Legal c.mandateId row target db
        ∧ (c.run db).2 = moved c.mandateId target db := by
  have hrepository (mandateId : String) (targetStatus : String ⊕ MandateStatus) :
      (MandateRepository.transitionMandateStatus mandateId targetStatus db).2 = db
        ∨ ∃ row target, Legal mandateId row target db
          ∧ (MandateRepository.transitionMandateStatus mandateId targetStatus db).2
            = moved mandateId target db := by
    rcases transitionMandateStatus_cases mandateId targetStatus db with
      ⟨err, hrun⟩ | ⟨row, target, hlegal, hrun⟩
    · rw [hrun]
      exact .inl rfl
    · rw [hrun]
      exact .inr ⟨row, target, hlegal, rfl⟩
  cases c with
  | transitionMandateStatus mandateId targetStatus =>
      rw [run, state_bind_pure]
      exact hrepository mandateId targetStatus
  | revokeMandate mandateId =>
      rw [run, state_bind_pure]
      exact hrepository mandateId (.inr .revoked)
  | expireMandate mandateId =>
      rw [run, state_bind_pure]
      exact hrepository mandateId (.inr .expired)
  | asyncTransitionMandate mandateId target =>
      rw [run, state_bind_pure]
      exact asyncTransitionMandate_cases mandateId target db

end StoredCall

/-! ## Units of work -/

/-- What is committed, the statuses of the locked rows, each as the unit of work
    that holds it has it, and the mandates in memory. -/
structure Store (ι ν : Type) where
  committed : MandateTable
  held      : String → Option (ι × String)
  memory    : ν → BuyerMandate

/-- A call in a unit of work, the end of a unit, or a transition in memory,
    whose result takes the place of its mandate. -/
inductive Act (ι ν : Type) where
  | stored (i : ι) (call : StoredCall)
  | commit (i : ι)
  | rollback (i : ι)
  | transition (v : ν) (target : MandateStatus)

inductive Reply where
  | waiting
  | stored (reply : Except MandateError (MandateModel ⊕ BuyerMandate))
  | ended
  | transitioned (reply : Except MandateError BuyerMandate)

namespace Store

variable {ι ν : Type}

/-- Before the run no unit of work is open. -/
def start (db : MandateTable) (memory : ν → BuyerMandate) : Store ι ν := ⟨db, fun _ => none, memory⟩

/-- Every unit of work holds a status that is reached from the committed one. -/
def Consistent (s : Store ι ν) : Prop :=
  ∀ mandateId i text, s.held mandateId = some (i, text) →
    ∃ row, s.committed.get mandateId = some row ∧ ReflTransGen Moves row.status text

theorem consistent_start (db : MandateTable) (memory : ν → BuyerMandate) :
    (start db memory : Store ι ν).Consistent :=
  fun _ _ _ h => nomatch h

variable [DecidableEq ι]

/-- The status of a mandate for a unit of work, where `text` is committed. -/
def statusFor (s : Store ι ν) (i : ι) (mandateId text : String) : String :=
  match s.held mandateId with
  | none => text
  | some (j, own) => if j = i then own else text

/-- The table as a unit of work sees it. -/
def view (s : Store ι ν) (i : ι) : MandateTable :=
  s.committed.mapRows (fun r => { r with status := s.statusFor i r.mandateId r.status })
    fun _ => rfl

/-- The locks without those of one unit. -/
def released (s : Store ι ν) (i : ι) (mandateId : String) : Option (ι × String) :=
  (s.held mandateId).filter fun h => decide (h.1 ≠ i)

/-- Whether another unit of work has the lock of the mandate. -/
def waits (s : Store ι ν) (i : ι) (mandateId : String) : Bool :=
  (s.held mandateId).any fun h => decide (h.1 ≠ i)

/-- The store after a call that found the lock free. -/
def afterCall (s : Store ι ν) (i : ι) (call : StoredCall) : Store ι ν :=
  { s with
    held := fun mandateId =>
      if mandateId = call.mandateId then
        (((call.run (s.view i)).2).get mandateId).map fun r => (i, r.status)
      else s.held mandateId }

def step [DecidableEq ν] (s : Store ι ν) : Act ι ν → Reply × Store ι ν
  | .stored i call =>
      if s.waits i call.mandateId then (.waiting, s)
      else (.stored (call.run (s.view i)).1, s.afterCall i call)
  | .commit i => (.ended, { s with committed := s.view i, held := s.released i })
  | .rollback i => (.ended, { s with held := s.released i })
  | .transition v target =>
      match transitionMandate (s.memory v) target with
      | .error err => (.transitioned (.error err), s)
      | .ok m =>
          (.transitioned (.ok m), { s with memory := fun w => if w = v then m else s.memory w })

variable {s : Store ι ν} {i j : ι} {mandateId text : String} {row : MandateModel}

theorem statusFor_of_own (h : s.held mandateId = some (i, text)) (committed : String) :
    s.statusFor i mandateId committed = text := by
  rw [statusFor, h]
  exact if_pos rfl

theorem statusFor_of_not_own (h : ∀ text, s.held mandateId ≠ some (i, text))
    (committed : String) : s.statusFor i mandateId committed = committed := by
  rw [statusFor]
  cases hheld : s.held mandateId with
  | none => rfl
  | some pair =>
      obtain ⟨j, own⟩ := pair
      refine if_neg ?_
      rintro rfl
      exact h own hheld

/-- A row as a unit of work sees it. -/
theorem get_view (h : s.committed.get mandateId = some row) (i : ι) :
    (s.view i).get mandateId
      = some { row with status := s.statusFor i mandateId row.status } := by
  obtain ⟨-, hkey⟩ := Table.get_eq_some_iff.mp h
  rw [view, Table.get_mapRows, h, Option.map_some, hkey]

theorem committed_of_view {seen : MandateModel} (h : (s.view i).get mandateId = some seen) :
    ∃ row, s.committed.get mandateId = some row
      ∧ seen.status = s.statusFor i mandateId row.status := by
  cases hrow : s.committed.get mandateId with
  | none =>
      rw [view, Table.get_mapRows, hrow] at h
      cases h
  | some row =>
      rw [get_view hrow] at h
      obtain rfl := Option.some.inj h
      exact ⟨row, rfl, rfl⟩

theorem not_waits_iff :
    s.waits i mandateId = false ↔ ∀ j text, s.held mandateId = some (j, text) → j = i := by
  rw [waits]
  cases s.held mandateId with
  | none => exact ⟨fun _ => nofun, fun _ => rfl⟩
  | some pair =>
      obtain ⟨j, own⟩ := pair
      rw [Option.any_some, decide_eq_false_iff_not, not_not]
      constructor
      · rintro rfl j' text h
        exact (congrArg Prod.fst (Option.some.inj h)).symm
      · intro h
        exact h j own rfl

theorem held_afterCall_self (s : Store ι ν) (i : ι) (call : StoredCall) :
    (s.afterCall i call).held call.mandateId
      = (((call.run (s.view i)).2).get call.mandateId).map fun r => (i, r.status) :=
  if_pos rfl

theorem held_afterCall_of_ne (s : Store ι ν) (i : ι) {call : StoredCall}
    (h : mandateId ≠ call.mandateId) :
    (s.afterCall i call).held mandateId = s.held mandateId :=
  if_neg h

theorem released_eq_some_iff {h : ι × String} :
    s.released i mandateId = some h ↔ s.held mandateId = some h ∧ h.1 ≠ i := by
  rw [released, Option.filter_eq_some_iff, decide_eq_true_iff]

/-! ## What is held is reached from what is committed -/

/-- What a unit of work sees is reached from what is committed. -/
theorem Consistent.reaches (h : s.Consistent) (hrow : s.committed.get mandateId = some row)
    (i : ι) : ReflTransGen Moves row.status (s.statusFor i mandateId row.status) := by
  by_cases hown : ∃ text, s.held mandateId = some (i, text)
  · obtain ⟨text, hown⟩ := hown
    obtain ⟨row', hrow', hreach⟩ := h mandateId i text hown
    obtain rfl := Option.some.inj (hrow.symm.trans hrow')
    rw [statusFor_of_own hown]
    exact hreach
  · rw [statusFor_of_not_own (not_exists.mp hown)]

/-- What a call makes of a status that it sees. -/
theorem reaches_run (call : StoredCall) {db : MandateTable} {after : MandateModel}
    (h : ((call.run db).2).get call.mandateId = some after) :
    ∃ before, db.get call.mandateId = some before
      ∧ ReflTransGen Moves before.status after.status := by
  rcases call.run_cases db with hsame | ⟨before, target, hlegal, hmoved⟩
  · rw [hsame] at h
    exact ⟨after, h, .refl⟩
  · rw [hmoved, moved, Table.get_modify_self _ hlegal.row] at h
    obtain rfl := Option.some.inj h
    obtain ⟨current, hcurrent, hnext⟩ := hlegal.legal
    exact ⟨before, hlegal.row, .single ⟨current, target, hcurrent, hnext, rfl⟩⟩

theorem consistent_afterCall (h : s.Consistent) (i : ι) (call : StoredCall) :
    (s.afterCall i call).Consistent := by
  intro mandateId j text hheld
  by_cases hid : mandateId = call.mandateId
  · subst hid
    rw [held_afterCall_self, Option.map_eq_some_iff] at hheld
    obtain ⟨after, hafter, hpair⟩ := hheld
    obtain ⟨rfl, rfl⟩ := Prod.mk.inj hpair
    obtain ⟨seen, hseen, hmoved⟩ := reaches_run call hafter
    obtain ⟨row, hrow, hstatus⟩ := committed_of_view hseen
    rw [hstatus] at hmoved
    exact ⟨row, hrow, (h.reaches hrow i).trans hmoved⟩
  · rw [held_afterCall_of_ne s i hid] at hheld
    exact h mandateId j text hheld

theorem seen_afterCall {seen : MandateModel}
    (hseen : (s.view i).get mandateId = some seen) (j : ι) (call : StoredCall)
    (hfree : s.waits j call.mandateId = false) :
    ∃ seen', ((s.afterCall j call).view i).get mandateId = some seen'
      ∧ ReflTransGen Moves seen.status seen'.status := by
  obtain ⟨row, hrow, hstatus⟩ := committed_of_view hseen
  have hcommitted : (s.afterCall j call).committed.get mandateId = some row := hrow
  refine ⟨_, get_view hcommitted i, ?_⟩
  show ReflTransGen Moves seen.status ((s.afterCall j call).statusFor i mandateId row.status)
  by_cases hid : mandateId = call.mandateId
  · subst hid
    by_cases hunit : i = j
    · subst hunit
      cases hafter : ((call.run (s.view i)).2).get call.mandateId with
      | none =>
          -- a call never takes the row away
          rcases call.run_cases (s.view i) with hsame | ⟨before, target, hlegal, hmoved⟩
          · rw [hsame, hseen] at hafter
            cases hafter
          · rw [hmoved, moved, Table.get_modify_self _ hlegal.row] at hafter
            cases hafter
      | some after =>
          obtain ⟨before, hbefore, hmoves⟩ := reaches_run call hafter
          obtain rfl := Option.some.inj (hseen.symm.trans hbefore)
          have hheld := held_afterCall_self s i call
          rw [hafter, Option.map_some] at hheld
          rw [statusFor_of_own hheld]
          exact hmoves
    · -- the lock was free or the other unit's own, so this one sees what is committed
      have hbefore : ∀ text, s.held call.mandateId ≠ some (i, text) :=
        fun text hown => hunit (not_waits_iff.mp hfree i text hown)
      have hafter : ∀ text, (s.afterCall j call).held call.mandateId ≠ some (i, text) := by
        intro text hown
        rw [held_afterCall_self, Option.map_eq_some_iff] at hown
        obtain ⟨r, -, hpair⟩ := hown
        exact hunit (congrArg Prod.fst hpair).symm
      rw [hstatus, statusFor_of_not_own hbefore, statusFor_of_not_own hafter]
  · rw [hstatus, statusFor, statusFor, held_afterCall_of_ne s j hid]

theorem statusFor_released {committed : MandateTable} (hunit : i ≠ j)
    (h : s.held mandateId = some (i, text)) (status : String) :
    ({ s with committed := committed, held := s.released j } : Store ι ν).statusFor i mandateId
      status = text :=
  statusFor_of_own (released_eq_some_iff.mpr ⟨h, hunit⟩) status

theorem not_own_released {committed : MandateTable}
    (h : ∀ text, s.held mandateId ≠ some (i, text)) (status : String) :
    ({ s with committed := committed, held := s.released j } : Store ι ν).statusFor i mandateId
      status = status := by
  refine statusFor_of_not_own ?_ status
  intro text hown
  exact h text (released_eq_some_iff.mp hown).1

variable [DecidableEq ν]

/-- **The invariant is kept by every step.** -/
theorem consistent_step (h : s.Consistent) (a : Act ι ν) : (step s a).2.Consistent := by
  cases a with
  | stored i call =>
      rw [step]
      by_cases hwaits : s.waits i call.mandateId = true
      · rw [if_pos hwaits]
        exact h
      · rw [if_neg hwaits]
        exact consistent_afterCall h i call
  | commit i =>
      intro mandateId j text hheld
      obtain ⟨hheld, hne⟩ := released_eq_some_iff.mp hheld
      obtain ⟨row, hrow, hreach⟩ := h mandateId j text hheld
      refine ⟨_, get_view hrow i, ?_⟩
      -- the row is another unit's, so the commit leaves it alone
      have hother : ∀ text, s.held mandateId ≠ some (i, text) := by
        intro text' hown
        exact hne (congrArg Prod.fst (Option.some.inj (hheld.symm.trans hown)))
      rw [statusFor_of_not_own hother]
      exact hreach
  | rollback i =>
      intro mandateId j text hheld
      exact h mandateId j text (released_eq_some_iff.mp hheld).1
  | transition v target =>
      rw [step]
      cases transitionMandate (s.memory v) target with
      | error err => exact h
      | ok m => exact h

theorem consistent_exec (h : s.Consistent) (as : List (Act ι ν)) :
    (exec step s as).Consistent :=
  exec_inv (I := Consistent) (fun _ a h => consistent_step h a) h as

/-! ## A status moves along the lifecycle -/

/-- **One step moves a committed status along the lifecycle, if at all.** -/
theorem committed_step (h : s.Consistent) (hrow : s.committed.get mandateId = some row)
    (a : Act ι ν) :
    ∃ row', (step s a).2.committed.get mandateId = some row'
      ∧ ReflTransGen Moves row.status row'.status := by
  cases a with
  | stored i call =>
      rw [step]
      by_cases hwaits : s.waits i call.mandateId = true
      · rw [if_pos hwaits]
        exact ⟨row, hrow, .refl⟩
      · rw [if_neg hwaits]
        exact ⟨row, hrow, .refl⟩
  | commit i => exact ⟨_, get_view hrow i, h.reaches hrow i⟩
  | rollback i => exact ⟨row, hrow, .refl⟩
  | transition v target =>
      rw [step]
      cases transitionMandate (s.memory v) target with
      | error err => exact ⟨row, hrow, .refl⟩
      | ok m => exact ⟨row, hrow, .refl⟩

theorem committed_exec (h : s.Consistent) (hrow : s.committed.get mandateId = some row)
    (as : List (Act ι ν)) :
    ∃ row', (exec step s as).committed.get mandateId = some row'
      ∧ ReflTransGen Moves row.status row'.status := by
  induction as generalizing s row with
  | nil => exact ⟨row, hrow, .refl⟩
  | cons a as ih =>
      obtain ⟨row', hrow', hfirst⟩ := committed_step h hrow a
      obtain ⟨row'', hrow'', hrest⟩ := ih (consistent_step h a) hrow'
      exact ⟨row'', hrow'', hfirst.trans hrest⟩

/-- **One step moves what a unit of work sees along the lifecycle, if at all,
    unless it rolls the unit back.** -/
theorem seen_step (h : s.Consistent) {seen : MandateModel}
    (hseen : (s.view i).get mandateId = some seen) {a : Act ι ν} (ha : a ≠ .rollback i) :
    ∃ seen', ((step s a).2.view i).get mandateId = some seen'
      ∧ ReflTransGen Moves seen.status seen'.status := by
  obtain ⟨row, hrow, hstatus⟩ := committed_of_view hseen
  cases a with
  | stored j call =>
      rw [step]
      cases hwaits : s.waits j call.mandateId with
      | true =>
          rw [if_pos rfl]
          exact ⟨seen, hseen, .refl⟩
      | false =>
          rw [if_neg Bool.false_ne_true]
          exact seen_afterCall hseen j call hwaits
  | commit j =>
      have hcommitted : (step s (.commit j)).2.committed.get mandateId
          = some { row with status := s.statusFor j mandateId row.status } := get_view hrow j
      refine ⟨_, get_view hcommitted i, ?_⟩
      show ReflTransGen Moves seen.status (({ s with
        committed := s.view j, held := s.released j } : Store ι ν).statusFor i mandateId
          (s.statusFor j mandateId row.status))
      rw [hstatus]
      by_cases hown : ∃ text, s.held mandateId = some (i, text)
      · obtain ⟨text, hown⟩ := hown
        rw [statusFor_of_own hown]
        by_cases hunit : i = j
        · subst hunit
          have hgone : ∀ text, s.released i mandateId ≠ some (i, text) :=
            fun text hheld => (released_eq_some_iff.mp hheld).2 rfl
          rw [statusFor_of_not_own hgone, statusFor_of_own hown]
        · rw [statusFor_released hunit hown]
      · have hnot := not_exists.mp hown
        rw [statusFor_of_not_own hnot, not_own_released hnot]
        exact h.reaches hrow j
  | rollback j =>
      have hunit : i ≠ j := by
        rintro rfl
        exact ha rfl
      have hcommitted : (step s (.rollback j)).2.committed.get mandateId = some row := hrow
      refine ⟨_, get_view hcommitted i, ?_⟩
      show ReflTransGen Moves seen.status (({ s with held := s.released j } : Store ι ν).statusFor
        i mandateId row.status)
      rw [hstatus]
      by_cases hown : ∃ text, s.held mandateId = some (i, text)
      · obtain ⟨text, hown⟩ := hown
        rw [statusFor_of_own hown, statusFor_released hunit hown]
      · have hnot := not_exists.mp hown
        rw [statusFor_of_not_own hnot, not_own_released hnot]
  | transition v target =>
      rw [step]
      cases transitionMandate (s.memory v) target with
      | error err => exact ⟨seen, hseen, .refl⟩
      | ok m => exact ⟨seen, hseen, .refl⟩

theorem seen_exec (h : s.Consistent) {seen : MandateModel}
    (hseen : (s.view i).get mandateId = some seen) {as : List (Act ι ν)}
    (has : Act.rollback i ∉ as) :
    ∃ seen', ((exec step s as).view i).get mandateId = some seen'
      ∧ ReflTransGen Moves seen.status seen'.status := by
  induction as generalizing s seen with
  | nil => exact ⟨seen, hseen, .refl⟩
  | cons a as ih =>
      rw [List.mem_cons, not_or] at has
      obtain ⟨seen', hseen', hfirst⟩ := seen_step h hseen (Ne.symm has.1)
      obtain ⟨seen'', hseen'', hrest⟩ := ih (consistent_step h a) hseen' has.2
      exact ⟨seen'', hseen'', hfirst.trans hrest⟩

/-- A terminal mandate in memory stays as it is. -/
theorem memory_step {v : ν} (h : (s.memory v).status.Terminal) (a : Act ι ν) :
    (step s a).2.memory v = s.memory v := by
  cases a with
  | stored i call =>
      rw [step]
      by_cases hwaits : s.waits i call.mandateId = true
      · rw [if_pos hwaits]
      · rw [if_neg hwaits]
        rfl
  | commit i => rfl
  | rollback i => rfl
  | transition w target =>
      rw [step, transitionMandate]
      by_cases hlegal : target ∈ mandateLegalTransitions (s.memory w).status
      · rw [if_pos hlegal]
        refine if_neg ?_
        rintro rfl
        exact not_legal_of_terminal h hlegal
      · rw [if_neg hlegal]

theorem memory_exec {v : ν} (h : (s.memory v).status.Terminal) (as : List (Act ι ν)) :
    (exec step s as).memory v = s.memory v := by
  induction as generalizing s with
  | nil => rfl
  | cons a as ih =>
      have hfirst := memory_step h a
      rw [exec_cons, ih (hfirst ▸ h), hfirst]

end Store

/-! ## Terminal statuses -/

theorem refused_of_stored {db : MandateTable} {mandateId text : String} {row : MandateModel}
    (hrow : db.get mandateId = some row) (h : TerminalText row.status)
    (hid : Text.strip text = mandateId) {m : BuyerMandate}
    (hread : asyncGetMandate text db = .ok (some m)) : Refused m := by
  subst hid
  rw [asyncGetMandate] at hread
  by_cases hblank : Text.strip text = ""
  · rw [if_pos hblank] at hread
    cases hread
  · rw [if_neg hblank, getMandate, hrow] at hread
    dsimp only at hread
    cases hbuilt : ofModel row with
    | error err =>
        rw [hbuilt] at hread
        cases hread
    | ok m' =>
        rw [hbuilt] at hread
        obtain rfl := Option.some.inj (Except.ok.inj hread)
        rw [status_of_ofModel hbuilt] at h
        exact refused_of_terminal (terminal_of_value h)

/-- The mandate is stored with the status, and what is read of it is refused. -/
structure StaysRefused (db : MandateTable) (mandateId status : String) : Prop where
  stored  : ∃ row, db.get mandateId = some row ∧ row.status = status
  refused : ∀ text, Text.strip text = mandateId →
    ∀ m, asyncGetMandate text db = .ok (some m) → Refused m

theorem staysRefused_of_reaches {db : MandateTable} {mandateId status : String}
    (h : TerminalText status)
    (hstored : ∃ row, db.get mandateId = some row ∧ ReflTransGen Moves status row.status) :
    StaysRefused db mandateId status := by
  obtain ⟨row, hrow, hreach⟩ := hstored
  have hsame := eq_of_reaches_of_terminal h hreach
  refine ⟨⟨row, hrow, hsame⟩, ?_⟩
  intro text hid m hread
  rw [← hsame] at h
  exact refused_of_stored hrow h hid hread

/-- **In every run of transitions, a mandate that is REVOKED or EXPIRED stays so
    and neither evaluator accepts a request under it: as it is committed, as a
    unit of work that is not rolled back sees it, and in memory.** -/
theorem terminal_for_good {ι ν : Type} [DecidableEq ι] [DecidableEq ν] (db : MandateTable)
    (memory : ν → BuyerMandate) (before after : List (Act ι ν)) :
    (∀ mandateId row, (exec Store.step (.start db memory) before).committed.get mandateId
        = some row → TerminalText row.status →
      StaysRefused (exec Store.step (.start db memory) (before ++ after)).committed mandateId
        row.status)
    ∧ (∀ i mandateId row, ((exec Store.step (.start db memory) before).view i).get mandateId
        = some row → TerminalText row.status → .rollback i ∉ after →
      StaysRefused ((exec Store.step (.start db memory) (before ++ after)).view i) mandateId
        row.status)
    ∧ ∀ v, ((exec Store.step (.start db memory) before : Store ι ν).memory v).status.Terminal →
      (exec Store.step (.start db memory) (before ++ after)).memory v
          = (exec Store.step (.start db memory) before).memory v
        ∧ Refused ((exec Store.step (.start db memory) before).memory v) := by
  have hconsistent : (exec Store.step (.start db memory : Store ι ν) before).Consistent :=
    Store.consistent_exec (Store.consistent_start db memory) before
  rw [exec_append]
  refine ⟨?_, ?_, ?_⟩
  · intro mandateId row hrow hterminal
    exact staysRefused_of_reaches hterminal (Store.committed_exec hconsistent hrow after)
  · intro i mandateId row hseen hterminal hkept
    exact staysRefused_of_reaches hterminal (Store.seen_exec hconsistent hseen hkept)
  · intro v hterminal
    exact ⟨Store.memory_exec hterminal after, refused_of_terminal hterminal⟩

end MandateLifecycle

end MandateGateway
