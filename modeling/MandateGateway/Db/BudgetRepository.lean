import MandateGateway.Lib.Exceptions
import MandateGateway.Lib.Table
import MandateGateway.Types
import MandateGateway.Values
import Mathlib.Algebra.Order.BigOperators.Group.List
import Mathlib.Algebra.Order.Group.Int

/-! # The budget repository

    Reservations as rows, and the accounting of a mandate as sums over them.
    An operation either returns with the tables it leaves or raises, and then
    the unit of work around it discards what it wrote. -/

namespace MandateGateway

open Clock

/-- What the accounting reads of a row of `mandates`. -/
structure MandateRow where
  mandateId        : String
  dailyBudgetPaise : Int
  currency         : String
deriving DecidableEq, Repr

/-- A row of `budget_reservations`; the state is the text that is stored. -/
structure BudgetReservationRow where
  reservationId  : String
  mandateId      : String
  transactionId  : String
  requestedPaise : Int
  reservedPaise  : Int
  state          : String
  createdAt      : Instant
  resolvedAt     : Option Instant
deriving DecidableEq, Repr

/-- The tables of the accounting, and the identifiers of the stored
    transactions, which a reservation refers to. -/
structure BudgetTables where
  mandates     : Table MandateRow.mandateId
  transactions : List String
  reservations : Table BudgetReservationRow.reservationId

/-- What a call receives from the process and the driver. -/
structure BudgetDbEnv where
  ambient        : Ambient
  budgetUuid     : String
  constraintText : String
deriving DecidableEq, Repr

namespace BudgetRepository

def getReservation (reservationId : String) (db : BudgetTables) : Option BudgetReservationRow :=
  db.reservations.get reservationId

def lockMandateBudgetForUpdate (mandateId : String) (db : BudgetTables) : Option MandateRow :=
  db.mandates.get mandateId

/-- The reserved amounts of a mandate's rows in some of the states, summed. -/
def sumReserved (mandateId : String) (states : List BudgetState) (db : BudgetTables) : Int :=
  db.reservations.total fun r =>
    if r.mandateId = mandateId ∧ r.state ∈ states.map BudgetState.value then r.reservedPaise else 0

def calculateReservedTotal (mandateId : String) (db : BudgetTables) : Int :=
  sumReserved mandateId [.reserved, .committed, .spent] db

/-- The constraints that the schema declares on a new row, but for its key. -/
def admits (db : BudgetTables) (row : BudgetReservationRow) : Bool :=
  decide (0 ≤ row.requestedPaise) && decide (0 ≤ row.reservedPaise)
    && (db.mandates.get row.mandateId).isSome && decide (row.transactionId ∈ db.transactions)
    && db.reservations.rows.all fun r =>
      !decide (r.mandateId = row.mandateId ∧ r.transactionId = row.transactionId)

def createReservation (env : BudgetDbEnv) (reservationId mandateId transactionId : String)
    (requestedPaise reservedPaise : Int) (state : BudgetState) (db : BudgetTables) :
    Except PyError (BudgetReservationRow × BudgetTables) :=
  if requestedPaise < 0 then
    .error (.valueError s!"requested_paise cannot be negative, got {requestedPaise}.")
  else if reservedPaise < 0 then
    .error (.valueError s!"reserved_paise cannot be negative, got {reservedPaise}.")
  else
    let row : BudgetReservationRow := {
      reservationId := reservationId
      mandateId := mandateId
      transactionId := transactionId
      requestedPaise := requestedPaise
      reservedPaise := reservedPaise
      state := state.value
      createdAt := env.ambient.now
      resolvedAt := none }
    if admits db row = false then .error (.integrityError env.constraintText)
    else match db.reservations.insert row with
    | none => .error (.integrityError env.constraintText)
    | some rows => .ok (row, { db with reservations := rows })

def resolved (now : Instant) (state : BudgetState) (r : BudgetReservationRow) :
    BudgetReservationRow :=
  { r with state := state.value, resolvedAt := some now }

theorem resolved_reservationId (now : Instant) (state : BudgetState) (r : BudgetReservationRow) :
    (resolved now state r).reservationId = r.reservationId := rfl

/-- The tables after a row is moved to a state. -/
def resolve (now : Instant) (reservationId : String) (state : BudgetState) (db : BudgetTables) :
    BudgetTables :=
  { db with
    reservations :=
      db.reservations.modify reservationId (resolved now state) (resolved_reservationId now state) }

def commitReservation (env : BudgetDbEnv) (reservationId : String) (db : BudgetTables) :
    Except PyError (BudgetReservationRow × BudgetTables) :=
  match getReservation reservationId db with
  | none => .error (.valueError s!"Reservation '{reservationId}' not found.")
  | some r =>
      if r.state ≠ BudgetState.reserved.value then
        .error (.valueError
          s!"Cannot commit reservation '{reservationId}' in state '{r.state}'.")
      else
        .ok (resolved env.ambient.now .committed r,
          resolve env.ambient.now reservationId .committed db)

def releaseReservation (env : BudgetDbEnv) (reservationId : String) (db : BudgetTables) :
    Except PyError (BudgetReservationRow × BudgetTables) :=
  match getReservation reservationId db with
  | none => .error (.valueError s!"Reservation '{reservationId}' not found.")
  | some r =>
      if r.state = BudgetState.released.value then .ok (r, db)
      else if r.state ≠ BudgetState.reserved.value ∧ r.state ≠ BudgetState.expired.value then
        .error (.valueError
          s!"Cannot release reservation '{reservationId}' in state '{r.state}'.")
      else
        .ok (resolved env.ambient.now .released r,
          resolve env.ambient.now reservationId .released db)

/-! ## How the sums change -/

/-- What a row counts towards a mandate's sum over some states. -/
def share (mandateId : String) (states : List BudgetState) (r : BudgetReservationRow) : Int :=
  if r.mandateId = mandateId ∧ r.state ∈ states.map BudgetState.value then r.reservedPaise else 0

theorem share_of_ne {m : String} {states : List BudgetState} {r : BudgetReservationRow}
    (h : r.mandateId ≠ m) : share m states r = 0 := by
  refine if_neg ?_
  rintro ⟨hm, -⟩
  exact h hm

theorem share_nonneg {r : BudgetReservationRow} (h : 0 ≤ r.reservedPaise) (m : String)
    (states : List BudgetState) : 0 ≤ share m states r := by
  rw [share]
  by_cases hcounts : r.mandateId = m ∧ r.state ∈ states.map BudgetState.value
  · rw [if_pos hcounts]
    exact h
  · rw [if_neg hcounts]

theorem share_reserved {r : BudgetReservationRow} (h : r.state = BudgetState.reserved.value) :
    share r.mandateId [.reserved] r = r.reservedPaise
      ∧ share r.mandateId [.committed, .spent] r = 0 := by
  constructor
  · simp [share, h]
  · simp [share, h, BudgetState.value]

theorem share_resolved {target : BudgetState} (h : target = .committed ∨ target = .released)
    (now : Instant) (r : BudgetReservationRow) :
    share r.mandateId [.reserved] (resolved now target r) = 0
      ∧ share r.mandateId [.committed, .spent] (resolved now target r)
        = if target = .committed then r.reservedPaise else 0 := by
  rcases h with rfl | rfl
  · simp [share, resolved, BudgetState.value]
  · simp [share, resolved, BudgetState.value]

theorem createReservation_of_admits {env : BudgetDbEnv} {id m tx : String} {paise : Int}
    {state : BudgetState} {db : BudgetTables} (hpos : 0 ≤ paise)
    (hfree : getReservation id db = none)
    (hadmits : admits db ⟨id, m, tx, paise, paise, state.value, env.ambient.now, none⟩ = true) :
    ∃ rows, db.reservations.insert ⟨id, m, tx, paise, paise, state.value, env.ambient.now, none⟩
        = some rows
      ∧ createReservation env id m tx paise paise state db
        = .ok (⟨id, m, tx, paise, paise, state.value, env.ambient.now, none⟩,
            { db with reservations := rows }) := by
  have hkey : id ∉ db.reservations.rows.map BudgetReservationRow.reservationId :=
    Table.get_eq_none_iff.mp hfree
  obtain ⟨rows, hrows⟩ : ∃ rows, db.reservations.insert
      ⟨id, m, tx, paise, paise, state.value, env.ambient.now, none⟩ = some rows :=
    Table.exists_insert hkey
  refine ⟨rows, hrows, ?_⟩
  have hneg : ¬ paise < 0 := by omega
  rw [createReservation, if_neg hneg, if_neg hneg]
  simp only [hadmits, hrows, Bool.true_eq_false, if_false]

theorem createReservation_of_not_admits {env : BudgetDbEnv} {id m tx : String} {paise : Int}
    {state : BudgetState} {db : BudgetTables} (hpos : 0 ≤ paise)
    (hadmits : admits db ⟨id, m, tx, paise, paise, state.value, env.ambient.now, none⟩ = false) :
    createReservation env id m tx paise paise state db
      = .error (.integrityError env.constraintText) := by
  have hneg : ¬ paise < 0 := by omega
  rw [createReservation, if_neg hneg, if_neg hneg]
  exact if_pos hadmits

theorem sumReserved_insert {db : BudgetTables} {row : BudgetReservationRow}
    {rows : Table BudgetReservationRow.reservationId}
    (h : db.reservations.insert row = some rows) (m : String) (states : List BudgetState) :
    sumReserved m states { db with reservations := rows }
      = sumReserved m states db + share m states row :=
  Table.total_insert _ h

theorem sumReserved_resolve {db : BudgetTables} {id : String} {row : BudgetReservationRow}
    (h : getReservation id db = some row) (now : Instant) (state : BudgetState) (m : String)
    (states : List BudgetState) :
    sumReserved m states (resolve now id state db) + share m states row
      = sumReserved m states db + share m states (resolved now state row) :=
  Table.total_modify _ (resolved_reservationId now state) h

theorem calculateReservedTotal_eq (m : String) (db : BudgetTables) :
    calculateReservedTotal m db
      = sumReserved m [.committed, .spent] db + sumReserved m [.reserved] db := by
  rw [calculateReservedTotal, sumReserved, sumReserved, sumReserved, Table.total, Table.total,
    Table.total, ← List.sum_map_add]
  congr 1
  refine List.map_congr_left ?_
  intro r _
  by_cases hm : r.mandateId = m
  · by_cases hres : r.state = BudgetState.reserved.value
    · simp [hm, hres, BudgetState.value]
    · simp [hm, hres]
  · simp [hm]

theorem sumReserved_nonneg {db : BudgetTables}
    (hnonneg : ∀ r ∈ db.reservations.rows, 0 ≤ r.reservedPaise) (m : String)
    (states : List BudgetState) : 0 ≤ sumReserved m states db := by
  refine List.sum_nonneg ?_
  intro x hx
  obtain ⟨r, hr, rfl⟩ := List.mem_map.mp hx
  exact share_nonneg (hnonneg r hr) m states

theorem share_le_sumReserved {db : BudgetTables} {id : String} {row : BudgetReservationRow}
    (hnonneg : ∀ r ∈ db.reservations.rows, 0 ≤ r.reservedPaise)
    (h : getReservation id db = some row) (m : String) (states : List BudgetState) :
    share m states row ≤ sumReserved m states db := by
  refine List.single_le_sum ?_ _ (List.mem_map_of_mem (Table.get_eq_some_iff.mp h).1)
  intro x hx
  obtain ⟨r, hr, rfl⟩ := List.mem_map.mp hx
  exact share_nonneg (hnonneg r hr) m states

end BudgetRepository

end MandateGateway
