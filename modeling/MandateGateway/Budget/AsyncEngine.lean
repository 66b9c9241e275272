import MandateGateway.Budget.Engine
import MandateGateway.Db.BudgetRepository

/-! # The budget engine over the database

    The asynchronous operations of the engine.  The rows decide, and what the
    engine keeps in memory is rebuilt from them as a by-product: a budget with
    nothing spent, and reservations in INR with an expiry of their own. -/

namespace MandateGateway

open Clock Exceptions OrderedMap

/-- `Currency(text)`, as it raises. -/
def parseCurrency (text : String) : Except PyError Currency :=
  if text = Currency.inr.value then .ok .inr
  else if text = Currency.usd.value then .ok .usd
  else .error (.valueError s!"{Text.quoted text} is not a valid Currency")

/-- `DailyBudget(...)`, as it raises: the fields' own bounds, then the
    invariant over them. -/
def DailyBudget.build (b : DailyBudget) : Except PyError DailyBudget :=
  let faults :=
    (if b.mandateId = "" then ["mandate_id"] else [])
      ++ (if b.dailyLimitPaise < 0 then ["daily_limit_paise"] else [])
      ++ (if b.spentPaise < 0 then ["spent_paise"] else [])
      ++ (if b.reservedPaise < 0 then ["reserved_paise"] else [])
  if faults ≠ [] then .error (.validationError "DailyBudget" faults)
  else if b.spentPaise + b.reservedPaise > b.dailyLimitPaise then
    .error (.validationError "DailyBudget" [""])
  else .ok b

/-- `BudgetReservation(...)`, as it raises. -/
def BudgetReservation.build (r : BudgetReservation) : Except PyError BudgetReservation :=
  let faults :=
    (if r.transactionId = "" then ["transaction_id"] else [])
      ++ (if r.mandateId = "" then ["mandate_id"] else [])
      ++ (if r.amountPaise < 0 then ["amount_paise"] else [])
  if faults ≠ [] then .error (.validationError "BudgetReservation" faults) else .ok r

theorem BudgetReservation.build_of_valid {r : BudgetReservation} (htx : r.transactionId ≠ "")
    (hm : r.mandateId ≠ "") (hamount : 0 ≤ r.amountPaise) : r.build = .ok r := by
  simp [build, htx, hm, Int.not_lt.mpr hamount]

theorem BudgetReservation.build_of_no_transaction {r : BudgetReservation}
    (htx : r.transactionId = "") (hm : r.mandateId ≠ "") (hamount : 0 ≤ r.amountPaise) :
    r.build = .error (.validationError "BudgetReservation" ["transaction_id"]) := by
  simp [build, htx, hm, Int.not_lt.mpr hamount]

theorem DailyBudget.build_of_valid {b : DailyBudget} (hm : b.mandateId ≠ "")
    (hspent : 0 ≤ b.spentPaise) (hreserved : 0 ≤ b.reservedPaise)
    (hwithin : b.spentPaise + b.reservedPaise ≤ b.dailyLimitPaise) : b.build = .ok b := by
  have hlimit : 0 ≤ b.dailyLimitPaise := by omega
  simp [build, hm, Int.not_lt.mpr hspent, Int.not_lt.mpr hreserved, Int.not_lt.mpr hlimit,
    Int.not_lt.mpr hwithin]

/-- The tables, and the engine's stores as the asynchronous operations leave
    them. -/
structure AsyncBudget where
  db    : BudgetTables
  cache : BudgetEngine

namespace AsyncBudget

/-- `async_reserve`: what follows a reservation that the rows have room for. -/
def storeReservation (env : BudgetDbEnv) (mandateId transactionId : String) (amountPaise : Int)
    (currency : Currency) (resId : String) (ttlSeconds : Int) (evalTime : Instant)
    (dailyLimit reservedSpent availablePaise : Int) (s : AsyncBudget) :
    Except PyError (BudgetEvaluationResult × AsyncBudget) := do
  let (row, db) ← BudgetRepository.createReservation env resId mandateId transactionId
    amountPaise amountPaise .reserved s.db
  match addSeconds evalTime ttlSeconds with
  | none => .error .timestampOutOfRange
  | some expiresAt =>
      let reservation ← BudgetReservation.build {
        reservationId := row.reservationId
        transactionId := row.transactionId
        mandateId := row.mandateId
        amountPaise := row.requestedPaise
        currency := currency
        state := .reserved
        createdAt := evalTime
        expiresAt := expiresAt
        updatedAt := evalTime }
      let budget ← DailyBudget.build {
        budgetId := env.budgetUuid
        mandateId := mandateId
        currency := currency
        dateUtc := dateText evalTime
        dailyLimitPaise := dailyLimit
        spentPaise := 0
        reservedPaise := reservedSpent + amountPaise
        createdAt := env.ambient.now
        updatedAt := env.ambient.now }
      .ok ({
          valid := true
          decision := .allow
          mandateId := mandateId
          requestedPaise := amountPaise
          availablePaise := availablePaise - amountPaise
          reservation := some reservation
          rejectionReason := none
          rejectionDetail := none
          evaluatedAt := evalTime },
        { db := db
          cache :=
            ⟨s.cache.budgets.set mandateId budget, s.cache.reservations.set resId reservation⟩ })

/-- `async_reserve`: the checks on a mandate's row, then the reservation. -/
def reserveFrom (env : BudgetDbEnv) (mandate : MandateRow) (mandateId transactionId : String)
    (amountPaise : Int) (currency : Currency) (resId : String) (ttlSeconds : Int)
    (evalTime : Instant) (s : AsyncBudget) :
    Except PyError (BudgetEvaluationResult × AsyncBudget) :=
  match parseCurrency mandate.currency with
  | .error err => .error err
  | .ok mandateCurrency =>
      if mandateCurrency ≠ currency then
        .ok (.rejected mandateId amountPaise 0 .budgetCurrencyMismatch
          (s!"Budget currency mismatch: mandate is in {mandateCurrency.value}, "
            ++ s!"requested in {currency.value}.") evalTime, s)
      else match BudgetRepository.getReservation resId s.db with
      | some existing =>
          .ok (.rejected mandateId amountPaise 0 .invalidTransactionState
            (s!"Duplicate reservation ID {resId} already exists "
              ++ s!"in state {existing.state}.") evalTime, s)
      | none =>
          let dailyLimit := mandate.dailyBudgetPaise
          let reservedSpent := BudgetRepository.calculateReservedTotal mandateId s.db
          let availablePaise := max 0 (dailyLimit - reservedSpent)
          if reservedSpent + amountPaise > dailyLimit then
            .ok (.rejected mandateId amountPaise availablePaise .budgetExceeded
              (s!"Budget limit exceeded: requested {amountPaise} paise, "
                ++ s!"available {availablePaise} paise "
                ++ s!"(limit={dailyLimit}, spent_and_reserved={reservedSpent}).") evalTime, s)
          else
            s.storeReservation env mandateId transactionId amountPaise currency resId ttlSeconds
              evalTime dailyLimit reservedSpent availablePaise

/-- `async_reserve`. -/
def reserve (env : BudgetDbEnv) (mandateId transactionId : String) (amountPaise : Int)
    (currency : Currency) (reservationId : Option String) (ttlSeconds : Int)
    (at? : Option Instant) (s : AsyncBudget) :
    Except PyError (BudgetEvaluationResult × AsyncBudget) :=
  let evalTime := env.ambient.time at?
  if amountPaise ≤ 0 then
    .ok (.rejected mandateId amountPaise 0 .invalidAmount
      s!"Budget reservation amount must be positive integer paise, got {amountPaise}."
      evalTime, s)
  else match BudgetRepository.lockMandateBudgetForUpdate mandateId s.db with
  | none =>
      .ok (.rejected mandateId amountPaise 0 .budgetExceeded
        s!"No budget registered for mandate {mandateId}." evalTime, s)
  | some mandate =>
      s.reserveFrom env mandate mandateId transactionId amountPaise currency
        (orElseText reservationId env.ambient.uuid) ttlSeconds evalTime

/-- Why a reservation stored in this state cannot be committed. -/
def commitRefusal (reservationId state : String) : Option String :=
  if state = BudgetState.committed.value then
    some s!"Double-commit error: Reservation {reservationId} is already COMMITTED."
  else if state = BudgetState.released.value then
    some s!"Illegal state transition: Cannot commit RELEASED reservation {reservationId}."
  else if state ≠ BudgetState.reserved.value then
    some s!"Cannot commit reservation {reservationId} in state {state}."
  else none

/-- Why a reservation stored in this state cannot be released. -/
def releaseRefusal (reservationId state : String) : Option String :=
  if state = BudgetState.released.value then
    some s!"Double-release error: Reservation {reservationId} is already RELEASED."
  else if state = BudgetState.committed.value then
    some s!"Illegal state transition: Cannot release COMMITTED reservation {reservationId}."
  else none

/-- The common body of `async_commit` and `async_release`: look the row up,
    check its owner and state, move it, and rebuild the reservation. -/
def resolve (refusal : String → String → Option String)
    (move : BudgetDbEnv → String → BudgetTables →
      Except PyError (BudgetReservationRow × BudgetTables))
    (target : BudgetState) (env : BudgetDbEnv) (mandateId reservationId : String)
    (at? : Option Instant) (s : AsyncBudget) :
    Except PyError (BudgetReservation × AsyncBudget) :=
  match BudgetRepository.getReservation reservationId s.db with
  | none => .error (.valueError s!"Reservation {reservationId} not found.")
  | some row =>
      if row.mandateId ≠ mandateId then
        .error (.valueError
          (s!"Reservation {reservationId} belongs to mandate {row.mandateId}, "
            ++ s!"not {mandateId}."))
      else match refusal reservationId row.state with
      | some message => .error (.valueError message)
      | none => do
          let (updated, db) ← move env reservationId s.db
          let evalTime := env.ambient.time at?
          match addSeconds evalTime 300 with
          | none => .error .timestampOutOfRange
          | some expiresAt =>
              let reservation ← BudgetReservation.build {
                reservationId := updated.reservationId
                transactionId := updated.transactionId
                mandateId := updated.mandateId
                amountPaise := updated.requestedPaise
                currency := .inr
                state := target
                createdAt := updated.createdAt
                expiresAt := expiresAt
                updatedAt := evalTime }
              .ok (reservation,
                { db := db
                  cache :=
                    { s.cache with
                      reservations := s.cache.reservations.set reservationId reservation } })

/-- `async_commit`. -/
def commit : BudgetDbEnv → String → String → Option Instant → AsyncBudget →
    Except PyError (BudgetReservation × AsyncBudget) :=
  resolve commitRefusal BudgetRepository.commitReservation .committed

/-- `async_release`. -/
def release : BudgetDbEnv → String → String → Option Instant → AsyncBudget →
    Except PyError (BudgetReservation × AsyncBudget) :=
  resolve releaseRefusal BudgetRepository.releaseReservation .released

end AsyncBudget

end MandateGateway
