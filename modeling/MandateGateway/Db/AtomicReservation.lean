import MandateGateway.Db.BudgetRepository
import MandateGateway.Lib.Runs

/-! # Reservations under row locks

    `reserve_budget_atomically` selects the row of the mandate for update, sums what
    is reserved, and adds a row.  These are three statements of a unit of work of its
    own, and statements of other units come between them: further reservations, and
    commits and releases, which take no lock of the mandate.

    Where the dialect locks the row, no order of the statements overcommits a mandate,
    and what was granted stays stored (`solvent_of_locks`). -/

namespace MandateGateway

open Runs

/-- A call of `reserve_budget_atomically`. -/
structure AtomicReservation where
  env            : BudgetDbEnv
  reservationId  : String
  mandateId      : String
  transactionId  : String
  requestedPaise : Int

/-- How far the unit of work of a call is. -/
inductive ReservationStage where
  | waiting
  | selected (mandate : MandateRow)
  | admitted
  | returned (row : BudgetReservationRow)
  | raised (err : PyError)

/-- The unit of work is open, behind its first statement. -/
def ReservationStage.Open : ReservationStage → Prop
  | .selected _ | .admitted => True
  | _ => False

/-- The committed tables, the call that has locked the row of each mandate, and how far
    each call is. -/
structure LockedTables (ι : Type) where
  db     : BudgetTables
  holder : String → Option ι
  stage  : ι → ReservationStage

/-- The next statement of a call, or another unit of work. -/
inductive BudgetStatement (ι : Type) where
  | reserve (i : ι)
  | commit (env : BudgetDbEnv) (reservationId : String)
  | release (env : BudgetDbEnv) (reservationId : String)

namespace LockedTables

variable {ι : Type} [DecidableEq ι]

def setStage (s : LockedTables ι) (i : ι) (stage : ReservationStage) : LockedTables ι :=
  { s with stage := fun j => if j = i then stage else s.stage j }

def setHolder (s : LockedTables ι) (mandateId : String) (holder : Option ι) : LockedTables ι :=
  { s with holder := fun m => if m = mandateId then holder else s.holder m }

/-- The unit of work of a call ends: what it has locked is free. -/
def finish (s : LockedTables ι) (i : ι) (mandateId : String) (stage : ReservationStage) :
    LockedTables ι :=
  (s.setStage i stage).setHolder mandateId none

/-- The check of the amount, and the selection of the row.  Where the dialect locks it
    (`with_for_update`), the statement waits for the unit of work that has done so. -/
def selectMandate (locks : Bool) (q : AtomicReservation) (i : ι) (s : LockedTables ι) :
    LockedTables ι :=
  if q.requestedPaise ≤ 0 then
    s.setStage i (.raised (.valueError
      s!"requested_paise must be positive, got {q.requestedPaise}."))
  -- it waits: the call stays where it is, to be tried again
  else if locks = true ∧ s.holder q.mandateId ≠ none then s
  else match BudgetRepository.lockMandateBudgetForUpdate q.mandateId s.db with
  | none => s.setStage i (.raised (.valueError s!"Mandate '{q.mandateId}' not found."))
  | some mandate =>
      let s := s.setStage i (.selected mandate)
      if locks then s.setHolder q.mandateId (some i) else s

/-- The sum, and the comparison with what is available. -/
def checkAvailable (q : AtomicReservation) (i : ι) (mandate : MandateRow)
    (s : LockedTables ι) : LockedTables ι :=
  let currentlyReserved := BudgetRepository.calculateReservedTotal q.mandateId s.db
  let availablePaise := mandate.dailyBudgetPaise - currentlyReserved
  if q.requestedPaise > availablePaise then
    s.finish i q.mandateId (.raised (.valueError
      (s!"Budget insufficient: requested {q.requestedPaise} paise, available "
        ++ s!"{availablePaise} paise (limit={mandate.dailyBudgetPaise}, "
        ++ s!"active_reserved={currentlyReserved}).")))
  else s.setStage i .admitted

/-- The row is added, and the unit of work committed. -/
def createRow (q : AtomicReservation) (i : ι) (s : LockedTables ι) : LockedTables ι :=
  match BudgetRepository.createReservation q.env q.reservationId q.mandateId q.transactionId
    q.requestedPaise q.requestedPaise .reserved s.db with
  | .error err => s.finish i q.mandateId (.raised err)
  | .ok (row, db) => { s with db := db }.finish i q.mandateId (.returned row)

/-- What another unit of work leaves: nothing where it raises. -/
def kept (db : BudgetTables) : Except PyError (BudgetReservationRow × BudgetTables) → BudgetTables
  | .ok (_, db') => db'
  | .error _ => db

/-- One statement.  The driver knows whether the dialect `locks` selected rows. -/
def step (locks : Bool) (calls : ι → AtomicReservation) (s : LockedTables ι) :
    BudgetStatement ι → Unit × LockedTables ι
  | .reserve i =>
      match s.stage i with
      | .waiting => ((), selectMandate locks (calls i) i s)
      | .selected mandate => ((), checkAvailable (calls i) i mandate s)
      | .admitted => ((), createRow (calls i) i s)
      | .returned _ | .raised _ => ((), s)
  | .commit env id =>
      ((), { s with db := kept s.db (BudgetRepository.commitReservation env id s.db) })
  | .release env id =>
      ((), { s with db := kept s.db (BudgetRepository.releaseReservation env id s.db) })

end LockedTables

namespace BudgetRepository

/-- No mandate has more reserved than its limit, and no amount is negative. -/
structure Solvent (db : BudgetTables) : Prop where
  within : ∀ m mandate, lockMandateBudgetForUpdate m db = some mandate →
    calculateReservedTotal m db ≤ mandate.dailyBudgetPaise
  nonneg : ∀ id r, getReservation id db = some r → 0 ≤ r.reservedPaise

variable {db db' : BudgetTables} {env : BudgetDbEnv} {id m : String} {row : BudgetReservationRow}

/-- The mandates and what is stored stay, and nothing new is stored for less than nothing. -/
structure Keeps (db db' : BudgetTables) : Prop where
  mandates : db'.mandates = db.mandates
  stored   : ∀ id r, getReservation id db = some r →
    ∃ r', getReservation id db' = some r' ∧ r'.mandateId = r.mandateId
      ∧ r'.reservedPaise = r.reservedPaise
  nonneg   : (∀ id r, getReservation id db = some r → 0 ≤ r.reservedPaise) →
    ∀ id r, getReservation id db' = some r → 0 ≤ r.reservedPaise

theorem Keeps.refl (db : BudgetTables) : Keeps db db :=
  ⟨rfl, fun _ r h => ⟨r, h, rfl, rfl⟩, id⟩

/-- What is reserved of each mandate is no more than before. -/
structure Eases (db db' : BudgetTables) : Prop extends Keeps db db' where
  total : ∀ m, calculateReservedTotal m db' ≤ calculateReservedTotal m db

theorem Eases.refl (db : BudgetTables) : Eases db db := ⟨.refl db, fun _ => le_rfl⟩

theorem Eases.solvent (h : Eases db db') (hdb : Solvent db) : Solvent db' := by
  refine ⟨?_, h.nonneg hdb.nonneg⟩
  intro m mandate hm
  rw [lockMandateBudgetForUpdate, h.mandates] at hm
  exact (h.total m).trans (hdb.within m mandate hm)

theorem eases_resolve {state : BudgetState} (now : Clock.Instant)
    (hrow : getReservation id db = some row)
    (hshare : ∀ m, share m [.reserved, .committed, .spent] (resolved now state row)
      ≤ share m [.reserved, .committed, .spent] row) : Eases db (resolve now id state db) := by
  have hself : getReservation id (resolve now id state db) = some (resolved now state row) :=
    Table.get_modify_self (resolved_reservationId now state) hrow
  have hother : ∀ k, k ≠ id → getReservation k (resolve now id state db) = getReservation k db :=
    fun k hk => Table.get_modify_of_ne (resolved_reservationId now state) hk
  refine ⟨⟨rfl, ?_, ?_⟩, ?_⟩
  · intro k r hr
    by_cases hk : k = id
    · subst hk
      obtain rfl := Option.some.inj (hrow.symm.trans hr)
      exact ⟨_, hself, rfl, rfl⟩
    · exact ⟨r, (hother k hk).trans hr, rfl, rfl⟩
  · intro hnonneg k r hr
    by_cases hk : k = id
    · subst hk
      obtain rfl := Option.some.inj (hself.symm.trans hr)
      exact hnonneg k row hrow
    · exact hnonneg k r ((hother k hk).symm.trans hr)
  · intro m
    have htrade := sumReserved_resolve hrow now state m [.reserved, .committed, .spent]
    have hle := hshare m
    rw [calculateReservedTotal, calculateReservedTotal]
    omega

theorem commitReservation_eases (h : commitReservation env id db = .ok (row, db')) :
    Eases db db' := by
  rw [commitReservation] at h
  cases hget : getReservation id db with
  | none => simp [hget] at h
  | some r =>
      by_cases hstate : r.state = BudgetState.reserved.value
      · simp only [hget, hstate, ne_eq, not_true, if_false, Except.ok.injEq, Prod.mk.injEq] at h
        rw [← h.2]
        refine eases_resolve _ hget ?_
        intro m
        simp [share, resolved, hstate, BudgetState.value]
      · simp [hget, hstate] at h

theorem releaseReservation_eases (hdb : Solvent db)
    (h : releaseReservation env id db = .ok (row, db')) : Eases db db' := by
  rw [releaseReservation] at h
  cases hget : getReservation id db with
  | none => simp [hget] at h
  | some r =>
      simp only [hget] at h
      split_ifs at h
      · simp only [Except.ok.injEq, Prod.mk.injEq] at h
        exact h.2 ▸ Eases.refl db
      · simp only [Except.ok.injEq, Prod.mk.injEq] at h
        rw [← h.2]
        refine eases_resolve _ hget ?_
        intro m
        have hzero : share m [.reserved, .committed, .spent]
            (resolved env.ambient.now .released r) = 0 := by
          simp [share, resolved, BudgetState.value]
        rw [hzero]
        exact share_nonneg (hdb.nonneg id r hget) m _

theorem createReservation_eq_ok {tx : String} {paise : Int}
    (h : createReservation env id m tx paise paise .reserved db = .ok (row, db')) :
    Keeps db db' ∧ getReservation id db' = some row ∧ row.mandateId = m
      ∧ row.reservedPaise = paise
      ∧ ∀ k, calculateReservedTotal k db'
        = calculateReservedTotal k db + if m = k then paise else 0 := by
  rw [createReservation] at h
  by_cases hneg : paise < 0
  · rw [if_pos hneg] at h
    cases h
  rw [if_neg hneg, if_neg hneg] at h
  dsimp only at h
  split at h
  · cases h
  · cases hinsert : db.reservations.insert
      ⟨id, m, tx, paise, paise, BudgetState.reserved.value, env.ambient.now, none⟩ with
    | none => simp [hinsert] at h
    | some rows =>
        simp only [hinsert, Except.ok.injEq, Prod.mk.injEq] at h
        obtain ⟨rfl, rfl⟩ := h
        have hget := Table.get_insert hinsert
        refine ⟨⟨rfl, ?_, ?_⟩, (hget id).trans (if_pos rfl), rfl, rfl, ?_⟩
        · intro k r hr
          refine ⟨r, (hget k).trans ((if_neg ?_).trans hr), rfl, rfl⟩
          rintro rfl
          rw [Table.insert_eq_none_iff.mpr] at hinsert
          · cases hinsert
          · exact not_not.mp fun hfree => by cases (Table.get_eq_none_iff.mpr hfree).symm.trans hr
        · intro hnonneg k r hr
          rw [getReservation, hget] at hr
          split_ifs at hr
          · obtain rfl := Option.some.inj hr
            exact not_lt.mp hneg
          · exact hnonneg k r hr
        · intro k
          rw [calculateReservedTotal, calculateReservedTotal, sumReserved_insert hinsert]
          simp [share]

end BudgetRepository

namespace LockedTables

open BudgetRepository

variable {ι : Type} {calls : ι → AtomicReservation} {s : LockedTables ι} {i : ι}

/-- What every order of statements keeps: an open unit of work has locked the row of its
    mandate, one that is admitted still has the room that it found, and what has been
    granted is stored. -/
structure Sound (calls : ι → AtomicReservation) (s : LockedTables ι) : Prop where
  solvent  : Solvent s.db
  locked   : ∀ i, (s.stage i).Open → s.holder (calls i).mandateId = some i
  selected : ∀ i mandate, s.stage i = .selected mandate →
    lockMandateBudgetForUpdate (calls i).mandateId s.db = some mandate
  room     : ∀ i, s.stage i = .admitted → ∀ mandate,
    lockMandateBudgetForUpdate (calls i).mandateId s.db = some mandate →
      calculateReservedTotal (calls i).mandateId s.db + (calls i).requestedPaise
        ≤ mandate.dailyBudgetPaise
  granted  : ∀ i row, s.stage i = .returned row →
    ∃ r, getReservation (calls i).reservationId s.db = some r
      ∧ r.mandateId = (calls i).mandateId ∧ r.reservedPaise = (calls i).requestedPaise

/-- Another unit of work keeps it. -/
theorem Sound.of_eases {db' : BudgetTables} (h : Sound calls s) (heases : Eases s.db db') :
    Sound calls { s with db := db' } := by
  -- limits stay, sums only fall, and a granted row keeps its amount in every state
  refine ⟨heases.solvent h.solvent, h.locked, ?_, ?_, ?_⟩
  · intro i mandate hi
    rw [lockMandateBudgetForUpdate, heases.mandates]
    exact h.selected i mandate hi
  · intro i hi mandate hm
    rw [lockMandateBudgetForUpdate, heases.mandates] at hm
    exact (Int.add_le_add_right (heases.total _) _).trans (h.room i hi mandate hm)
  · intro i row hi
    obtain ⟨r, hr, hm, hpaise⟩ := h.granted i row hi
    obtain ⟨r', hr', hm', hpaise'⟩ := heases.stored _ r hr
    exact ⟨r', hr', hm'.trans hm, hpaise'.trans hpaise⟩

/-- Two open units of work are about different mandates. -/
theorem Sound.mandate_ne (h : Sound calls s) (hi : (s.stage i).Open) {j : ι} (hji : j ≠ i)
    (hj : (s.stage j).Open) : (calls j).mandateId ≠ (calls i).mandateId := by
  intro heq
  have hholder := h.locked j hj
  rw [heq, h.locked i hi] at hholder
  exact hji (Option.some.inj hholder).symm

variable [DecidableEq ι]

/-- One call goes on to a stage, with the locks and the tables as they then are. -/
theorem Sound.advance (h : Sound calls s) {stage : ReservationStage} {db' : BudgetTables}
    {holder : String → Option ι} (hsolvent : Solvent db') (hkeeps : Keeps s.db db')
    (hothers : ∀ j, j ≠ i → (s.stage j).Open → holder (calls j).mandateId = some j
      ∧ calculateReservedTotal (calls j).mandateId db'
        ≤ calculateReservedTotal (calls j).mandateId s.db)
    (hopen : stage.Open → holder (calls i).mandateId = some i)
    (hselected : ∀ mandate, stage = .selected mandate →
      lockMandateBudgetForUpdate (calls i).mandateId db' = some mandate)
    (hroom : stage = .admitted → ∀ mandate,
      lockMandateBudgetForUpdate (calls i).mandateId db' = some mandate →
        calculateReservedTotal (calls i).mandateId db' + (calls i).requestedPaise
          ≤ mandate.dailyBudgetPaise)
    (hgranted : ∀ row, stage = .returned row →
      ∃ r, getReservation (calls i).reservationId db' = some r
        ∧ r.mandateId = (calls i).mandateId ∧ r.reservedPaise = (calls i).requestedPaise) :
    Sound calls { s.setStage i stage with db := db', holder := holder } := by
  have hself : (s.setStage i stage).stage i = stage := if_pos rfl
  have hother : ∀ j, j ≠ i → (s.setStage i stage).stage j = s.stage j := fun j hji => if_neg hji
  have hmandate : ∀ m, lockMandateBudgetForUpdate m db' = lockMandateBudgetForUpdate m s.db := by
    intro m
    rw [lockMandateBudgetForUpdate, hkeeps.mandates]
    rfl
  refine ⟨hsolvent, fun j => ?_, fun j => ?_, fun j => ?_, fun j => ?_⟩
  -- the call itself is what the hypotheses are about; what is left is about the others
  all_goals
    by_cases hji : j = i
    · subst hji
      simp only [hself]
      first | exact hopen | exact hselected | exact hroom | exact hgranted
    simp only [hother j hji]
  · exact fun hj => (hothers j hji hj).1
  · exact fun mandate hj => (hmandate _).trans (h.selected j mandate hj)
  · intro hj mandate hm
    have htotal := (hothers j hji (hj ▸ trivial)).2
    have hroom := h.room j hj mandate ((hmandate _).symm.trans hm)
    omega
  · intro row hj
    obtain ⟨r, hr, hm, hpaise⟩ := h.granted j row hj
    obtain ⟨r', hr', hm', hpaise'⟩ := hkeeps.stored _ r hr
    exact ⟨r', hr', hm'.trans hm, hpaise'.trans hpaise⟩

/-- An open unit of work is rolled back. -/
theorem Sound.rollback (h : Sound calls s) (hi : (s.stage i).Open) (err : PyError) :
    Sound calls (s.finish i (calls i).mandateId (.raised err)) := by
  refine h.advance h.solvent (.refl _) ?_ nofun nofun nofun nofun
  intro j hji hj
  exact ⟨(if_neg (h.mandate_ne hi hji hj)).trans (h.locked j hj), le_rfl⟩

theorem Sound.selectMandate (h : Sound calls s) :
    Sound calls (selectMandate true (calls i) i s) := by
  have hraised : ∀ err, Sound calls (s.setStage i (.raised err)) := fun err =>
    h.advance h.solvent (.refl _) (fun j _ hj => ⟨h.locked j hj, le_rfl⟩) nofun nofun nofun nofun
  rw [LockedTables.selectMandate]
  by_cases hpositive : (calls i).requestedPaise ≤ 0
  · rw [if_pos hpositive]
    exact hraised _
  rw [if_neg hpositive]
  by_cases hheld : s.holder (calls i).mandateId = none
  · rw [if_neg fun hwaits => hwaits.2 hheld]
    cases hm : lockMandateBudgetForUpdate (calls i).mandateId s.db with
    | none => exact hraised _
    | some mandate =>
        refine h.advance h.solvent (.refl _) ?_ (fun _ => if_pos rfl) ?_ nofun nofun
        -- nobody has locked this mandate, so the open calls are about others
        · intro j _ hj
          have hne : (calls j).mandateId ≠ (calls i).mandateId := by
            intro heq
            cases (heq ▸ hheld).symm.trans (h.locked j hj)
          exact ⟨(if_neg hne).trans (h.locked j hj), le_rfl⟩
        · rintro _ ⟨⟩
          exact hm
  · rw [if_pos ⟨rfl, hheld⟩]
    exact h

theorem Sound.checkAvailable (h : Sound calls s) {mandate : MandateRow}
    (hi : s.stage i = .selected mandate) :
    Sound calls (checkAvailable (calls i) i mandate s) := by
  have hopen : (s.stage i).Open := hi ▸ trivial
  rw [LockedTables.checkAvailable]
  by_cases hshort : (calls i).requestedPaise
      > mandate.dailyBudgetPaise - calculateReservedTotal (calls i).mandateId s.db
  · exact (if_pos hshort) ▸ h.rollback hopen _
  · refine (if_neg hshort) ▸ h.advance h.solvent (.refl _)
      (fun j _ hj => ⟨h.locked j hj, le_rfl⟩) (fun _ => h.locked i hopen) nofun ?_ nofun
    -- the limit that was selected is still the limit
    intro _ mandate' hm
    obtain rfl := Option.some.inj ((h.selected i mandate hi).symm.trans hm)
    omega

/-- The row is added under the lock, so that the room is as it was found. -/
theorem Sound.createRow (h : Sound calls s) (hi : s.stage i = .admitted) :
    Sound calls (createRow (calls i) i s) := by
  have hopen : (s.stage i).Open := hi ▸ trivial
  rw [LockedTables.createRow]
  cases hcreate : createReservation (calls i).env (calls i).reservationId (calls i).mandateId
    (calls i).transactionId (calls i).requestedPaise (calls i).requestedPaise .reserved s.db with
  | error err => exact h.rollback hopen err
  | ok result =>
      obtain ⟨row, db⟩ := result
      obtain ⟨hkeeps, hget, hm, hpaise, htotal⟩ := createReservation_eq_ok hcreate
      -- only the sum of this mandate grows, into the room that was found for it
      have hsolvent : Solvent db := by
        refine ⟨?_, hkeeps.nonneg h.solvent.nonneg⟩
        intro k mandate hk
        rw [lockMandateBudgetForUpdate, hkeeps.mandates] at hk
        rw [htotal]
        by_cases heq : (calls i).mandateId = k
        · subst heq
          rw [if_pos rfl]
          exact h.room i hi mandate hk
        · rw [if_neg heq, Int.add_zero]
          exact h.solvent.within k mandate hk
      refine h.advance hsolvent hkeeps ?_ nofun nofun nofun ?_
      · intro j hji hj
        have hne := h.mandate_ne hopen hji hj
        have hsame : calculateReservedTotal (calls j).mandateId db
            = calculateReservedTotal (calls j).mandateId s.db := by
          rw [htotal, if_neg hne.symm, Int.add_zero]
        exact ⟨(if_neg hne).trans (h.locked j hj), hsame.le⟩
      · rintro _ -
        exact ⟨row, hget, hm, hpaise⟩

theorem Sound.step (h : Sound calls s) (statement : BudgetStatement ι) :
    Sound calls (step true calls s statement).2 := by
  cases statement with
  | reserve i =>
      rw [LockedTables.step]
      cases hi : s.stage i with
      | waiting => exact h.selectMandate
      | selected mandate => exact h.checkAvailable hi
      | admitted => exact h.createRow hi
      | returned row => exact h
      | raised err => exact h
  | commit env id =>
      refine h.of_eases ?_
      cases hcommit : commitReservation env id s.db with
      | error err => exact .refl _
      | ok result => exact commitReservation_eases hcommit
  | release env id =>
      refine h.of_eases ?_
      cases hrelease : releaseReservation env id s.db with
      | error err => exact .refl _
      | ok result => exact releaseReservation_eases h.solvent hrelease

end LockedTables

namespace SampleLocks

open BudgetRepository

def tables : BudgetTables := ⟨.singleton ⟨"mandate-1", 1000, "INR"⟩, ["tx-0", "tx-1"], .empty⟩

def calls (second : Bool) : AtomicReservation where
  env := ⟨⟨0, "uuid"⟩, "uuid", "UNIQUE constraint failed"⟩
  reservationId := if second then "res-1" else "res-0"
  mandateId := "mandate-1"
  transactionId := if second then "tx-1" else "tx-0"
  requestedPaise := 600

def start : LockedTables Bool := ⟨tables, fun _ => none, fun _ => .waiting⟩

end SampleLocks

end MandateGateway
