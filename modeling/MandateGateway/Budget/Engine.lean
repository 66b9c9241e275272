import MandateGateway.Authorization.ControlResults
import MandateGateway.Lib.Exceptions
import MandateGateway.Lib.OrderedMap
import MandateGateway.Types
import MandateGateway.Values

/-! # The budget engine

    Reservation, commit and release against the two stores of the engine: the
    budget of each mandate, and the reservations by identifier.  The locks of
    the source make each call atomic, so a call is one step from the state
    before it to the state after it, together with what it returns or raises. -/

/-! ## Daily budgets and reservations

    The two budget records and the pure functions that move an amount between
    a budget's columns.  `model_copy` in the source skips the record's
    validation, so the records carry no invariant of their own: what holds of
    the budgets an engine stores is a theorem about its runs. -/

namespace MandateGateway

open Clock Exceptions

/-- Accounting state of a mandate's budget. -/
structure DailyBudget where
  budgetId        : String
  mandateId       : String
  currency        : Currency
  dateUtc         : String
  dailyLimitPaise : Int
  spentPaise      : Int
  reservedPaise   : Int
  createdAt       : Instant
  updatedAt       : Instant
deriving DecidableEq, Repr

def DailyBudget.availablePaise (b : DailyBudget) : Int :=
  b.dailyLimitPaise - b.spentPaise - b.reservedPaise

/-- Reservation record of a single transaction. -/
structure BudgetReservation where
  reservationId : String
  transactionId : String
  mandateId     : String
  amountPaise   : Int
  currency      : Currency
  state         : BudgetState
  createdAt     : Instant
  expiresAt     : Instant
  updatedAt     : Instant
deriving DecidableEq, Repr

def BudgetReservation.isExpired (r : BudgetReservation) (now : Instant)
    (at? : Option Instant) : Bool :=
  decide (r.expiresAt ≤ at?.getD now)

def assertCanReserve (budget : DailyBudget) (requestedPaise : Int) : Except PyError Unit :=
  if requestedPaise ≤ 0 then
    .error (.valueError s!"requested_paise must be positive, got {requestedPaise}.")
  else if budget.spentPaise + budget.reservedPaise + requestedPaise > budget.dailyLimitPaise then
    .error (.budgetInsufficientError
      (s!"Budget insufficient: requested {requestedPaise} paise, "
        ++ s!"available {budget.availablePaise} paise "
        ++ s!"(limit={budget.dailyLimitPaise}, spent={budget.spentPaise}, "
        ++ s!"reserved={budget.reservedPaise})."))
  else .ok ()

def reserveBudget (now : Instant) (budget : DailyBudget) (paise : Int) :
    Except PyError DailyBudget :=
  match assertCanReserve budget paise with
  | .error e => .error e
  | .ok () =>
      .ok { budget with
        reservedPaise := budget.reservedPaise + paise
        updatedAt := now }

def commitReservation (now : Instant) (budget : DailyBudget) (paise : Int) :
    Except PyError DailyBudget :=
  if paise > budget.reservedPaise then
    .error (.valueError
      s!"Cannot commit {paise} paise — only {budget.reservedPaise} paise reserved.")
  else
    .ok { budget with
      reservedPaise := budget.reservedPaise - paise
      spentPaise := budget.spentPaise + paise
      updatedAt := now }

def releaseReservation (now : Instant) (budget : DailyBudget) (paise : Int) :
    Except PyError DailyBudget :=
  if paise > budget.reservedPaise then
    .error (.valueError
      s!"Cannot release {paise} paise — only {budget.reservedPaise} paise reserved.")
  else
    .ok { budget with
      reservedPaise := budget.reservedPaise - paise
      updatedAt := now }

theorem assertCanReserve_eq_ok_iff (b : DailyBudget) (paise : Int) :
    assertCanReserve b paise = .ok ()
      ↔ 0 < paise ∧ b.spentPaise + b.reservedPaise + paise ≤ b.dailyLimitPaise := by
  rw [assertCanReserve, guard_eq_ok_iff, guard_eq_ok_iff, Int.not_le, Int.not_lt]
  exact ⟨fun h => ⟨h.1, h.2.1⟩, fun h => ⟨h.1, h.2, rfl⟩⟩

theorem reserveBudget_eq_ok_iff {now : Instant} {b b' : DailyBudget} {paise : Int} :
    reserveBudget now b paise = .ok b'
      ↔ (0 < paise ∧ b.spentPaise + b.reservedPaise + paise ≤ b.dailyLimitPaise)
        ∧ b' = { b with reservedPaise := b.reservedPaise + paise, updatedAt := now } := by
  rw [← assertCanReserve_eq_ok_iff, reserveBudget]
  cases assertCanReserve b paise with
  | error e =>
      constructor
      · intro h
        cases h
      · rintro ⟨h, -⟩
        cases h
  | ok u =>
      show Except.ok _ = Except.ok b' ↔ _
      rw [ok_eq_ok_iff]
      exact ⟨fun h => ⟨rfl, h⟩, fun h => h.2⟩

theorem commitReservation_eq_ok_iff {now : Instant} {b b' : DailyBudget} {paise : Int} :
    commitReservation now b paise = .ok b'
      ↔ paise ≤ b.reservedPaise
        ∧ b' = { b with
            reservedPaise := b.reservedPaise - paise
            spentPaise := b.spentPaise + paise
            updatedAt := now } := by
  rw [commitReservation, guard_eq_ok_iff, ok_eq_ok_iff, Int.not_lt]

theorem releaseReservation_eq_ok_iff {now : Instant} {b b' : DailyBudget} {paise : Int} :
    releaseReservation now b paise = .ok b'
      ↔ paise ≤ b.reservedPaise
        ∧ b' = { b with reservedPaise := b.reservedPaise - paise, updatedAt := now } := by
  rw [releaseReservation, guard_eq_ok_iff, ok_eq_ok_iff, Int.not_lt]

end MandateGateway

namespace MandateGateway

open Clock Exceptions OrderedMap

/-- Outcome of a reservation request. -/
structure BudgetEvaluationResult where
  valid           : Bool
  decision        : PolicyDecision
  mandateId       : String
  requestedPaise  : Int
  availablePaise  : Int
  reservation     : Option BudgetReservation
  rejectionReason : Option RejectionReason
  rejectionDetail : Option String
  evaluatedAt     : Instant
deriving DecidableEq, Repr

namespace BudgetEvaluationResult

def isAllowed (r : BudgetEvaluationResult) : Bool := r.valid && r.decision == .allow

def toSecurityControlOutcome (r : BudgetEvaluationResult) : SecurityControlOutcome where
  controlName := "BUDGET"
  passed := r.valid
  decision := r.decision
  rejectionReason := r.rejectionReason
  detail := r.rejectionDetail
  stepUpDiff := none

def rejected (mandateId : String) (requested available : Int) (reason : RejectionReason)
    (detail : String) (evalTime : Instant) : BudgetEvaluationResult where
  valid := false
  decision := .reject
  mandateId := mandateId
  requestedPaise := requested
  availablePaise := available
  reservation := none
  rejectionReason := some reason
  rejectionDetail := some detail
  evaluatedAt := evalTime

end BudgetEvaluationResult

/-- The stores of a `BudgetEngine`. -/
structure BudgetEngine where
  budgets      : OrderedMap String DailyBudget
  reservations : OrderedMap String BudgetReservation

namespace BudgetEngine

/-- `BudgetEngine()`. -/
def new : BudgetEngine := ⟨empty, empty⟩

/-- `register_budget`: register or reset the budget of a mandate. -/
def registerBudget (env : Ambient) (mandateId : String) (dailyLimitPaise : Int)
    (currency : Currency) (dateUtc : Option String) (spentPaise reservedPaise : Int)
    (e : BudgetEngine) : Except PyError DailyBudget × BudgetEngine :=
  if dailyLimitPaise < 0 then
    (.error (.valueError
      s!"daily_limit_paise must be non-negative, got {dailyLimitPaise}."), e)
  else if spentPaise < 0 ∨ reservedPaise < 0 then
    (.error (.valueError "spent_paise and reserved_paise must be non-negative."), e)
  else if spentPaise + reservedPaise > dailyLimitPaise then
    (.error (.valueError "spent_paise + reserved_paise exceeds daily_limit_paise."), e)
  else if mandateId = "" then
    (.error (.validationError "DailyBudget" ["mandate_id"]), e)
  else
    let budget : DailyBudget := {
      budgetId := env.uuid
      mandateId := mandateId
      currency := currency
      dateUtc := dateUtc.getD (dateText env.now)
      dailyLimitPaise := dailyLimitPaise
      spentPaise := spentPaise
      reservedPaise := reservedPaise
      createdAt := env.now
      updatedAt := env.now }
    (.ok budget, { e with budgets := e.budgets.set mandateId budget })

/-- `reserve`: the checks on a registered budget, then the reservation. -/
def reserveFrom (env : Ambient) (budget : DailyBudget) (mandateId transactionId : String)
    (amountPaise : Int) (currency : Currency) (resId : String) (ttlSeconds : Int)
    (evalTime : Instant) (e : BudgetEngine) :
    Except PyError BudgetEvaluationResult × BudgetEngine :=
  if budget.currency ≠ currency then
    (.ok (.rejected mandateId amountPaise budget.availablePaise .budgetCurrencyMismatch
      (s!"Budget currency mismatch: mandate is in {budget.currency.value}, "
        ++ s!"requested in {currency.value}.") evalTime), e)
  else match e.reservations.get resId with
  | some existing =>
      (.ok (.rejected mandateId amountPaise budget.availablePaise .invalidTransactionState
        (s!"Duplicate reservation ID {resId} already exists "
          ++ s!"in state {existing.state.value}.") evalTime), e)
  | none =>
      if budget.spentPaise + budget.reservedPaise + amountPaise > budget.dailyLimitPaise then
        (.ok (.rejected mandateId amountPaise budget.availablePaise .budgetExceeded
          (s!"Budget limit exceeded: requested {amountPaise} paise, "
            ++ s!"available {budget.availablePaise} paise (limit={budget.dailyLimitPaise}, "
            ++ s!"spent={budget.spentPaise}, reserved={budget.reservedPaise}).") evalTime), e)
      else match reserveBudget env.now budget amountPaise with
      | .error err => (.error err, e)
      | .ok updated =>
          match addSeconds evalTime ttlSeconds with
          | none => (.error .timestampOutOfRange, e)
          | some expiresAt =>
              -- the record's validation runs before either store is written
              if transactionId = "" then
                (.error (.validationError "BudgetReservation" ["transaction_id"]), e)
              else
                let reservation : BudgetReservation := {
                  reservationId := resId
                  transactionId := transactionId
                  mandateId := mandateId
                  amountPaise := amountPaise
                  currency := currency
                  state := .reserved
                  createdAt := evalTime
                  expiresAt := expiresAt
                  updatedAt := evalTime }
                (.ok {
                    valid := true
                    decision := .allow
                    mandateId := mandateId
                    requestedPaise := amountPaise
                    availablePaise := updated.availablePaise
                    reservation := some reservation
                    rejectionReason := none
                    rejectionDetail := none
                    evaluatedAt := evalTime },
                  { budgets := e.budgets.set mandateId updated
                    reservations := e.reservations.set resId reservation })

def reserve (env : Ambient) (mandateId transactionId : String) (amountPaise : Int)
    (currency : Currency) (reservationId : Option String) (ttlSeconds : Int)
    (at? : Option Instant) (e : BudgetEngine) :
    Except PyError BudgetEvaluationResult × BudgetEngine :=
  let evalTime := env.time at?
  if amountPaise ≤ 0 then
    (.ok (.rejected mandateId amountPaise 0 .invalidAmount
      s!"Budget reservation amount must be positive integer paise, got {amountPaise}."
      evalTime), e)
  else match e.budgets.get mandateId with
  | none =>
      (.ok (.rejected mandateId amountPaise 0 .budgetExceeded
        s!"No budget registered for mandate {mandateId}." evalTime), e)
  | some budget =>
      reserveFrom env budget mandateId transactionId amountPaise currency
        (orElseText reservationId env.uuid) ttlSeconds evalTime e

def commitRefusal (reservationId : String) : BudgetState → Option String
  | .reserved => none
  | .committed =>
      some s!"Double-commit error: Reservation {reservationId} is already COMMITTED."
  | .released =>
      some s!"Illegal state transition: Cannot commit RELEASED reservation {reservationId}."
  | .expired =>
      some s!"Illegal state transition: Cannot commit EXPIRED reservation {reservationId}."
  | st => some s!"Cannot commit reservation {reservationId} in state {st.value}."

def releaseRefusal (reservationId : String) : BudgetState → Option String
  | .reserved | .expired => none
  | .released =>
      some s!"Double-release error: Reservation {reservationId} is already RELEASED."
  | .committed =>
      some s!"Illegal state transition: Cannot release COMMITTED reservation {reservationId}."
  | st => some s!"Cannot release reservation {reservationId} in state {st.value}."

/-- The common body of `commit` and `release`: look the reservation up, check
    its owner and state, move the amount in the budget, and store both. -/
def resolve (refusal : String → BudgetState → Option String)
    (move : Instant → DailyBudget → Int → Except PyError DailyBudget)
    (target : BudgetState) (env : Ambient) (mandateId reservationId : String)
    (at? : Option Instant) (e : BudgetEngine) :
    Except PyError BudgetReservation × BudgetEngine :=
  match e.reservations.get reservationId with
  | none => (.error (.valueError s!"Reservation {reservationId} not found."), e)
  | some reservation =>
      if reservation.mandateId ≠ mandateId then
        (.error (.valueError
          (s!"Reservation {reservationId} belongs to mandate {reservation.mandateId}, "
            ++ s!"not {mandateId}.")), e)
      else match refusal reservationId reservation.state with
      | some message => (.error (.valueError message), e)
      | none =>
          match e.budgets.get mandateId with
          | none =>
              (.error (.valueError s!"No budget registered for mandate {mandateId}."), e)
          | some budget =>
              match move env.now budget reservation.amountPaise with
              | .error err => (.error err, e)
              | .ok updatedBudget =>
                  let updated : BudgetReservation :=
                    { reservation with state := target, updatedAt := env.time at? }
                  (.ok updated,
                    { budgets := e.budgets.set mandateId updatedBudget
                      reservations := e.reservations.set reservationId updated })

/-- `commit`: move the amount from reserved to spent. -/
def commit : Ambient → String → String → Option Instant → BudgetEngine →
    Except PyError BudgetReservation × BudgetEngine :=
  resolve commitRefusal commitReservation .committed

/-- `release`: return the amount from reserved to available. -/
def release : Ambient → String → String → Option Instant → BudgetEngine →
    Except PyError BudgetReservation × BudgetEngine :=
  resolve releaseRefusal releaseReservation .released

end BudgetEngine

/-! ## Calls on an engine -/

/-- A call of the engine's public operations. -/
inductive BudgetCall where
  | register (env : Ambient) (mandateId : String) (dailyLimitPaise : Int)
      (currency : Currency) (dateUtc : Option String) (spentPaise reservedPaise : Int)
  | reserve (env : Ambient) (mandateId transactionId : String) (amountPaise : Int)
      (currency : Currency) (reservationId : Option String) (ttlSeconds : Int)
      (at? : Option Instant)
  | commit (env : Ambient) (mandateId reservationId : String) (at? : Option Instant)
  | release (env : Ambient) (mandateId reservationId : String) (at? : Option Instant)

/-- The books a registration asks for. -/
structure Registration where
  mandateId       : String
  dailyLimitPaise : Int
  spentPaise      : Int
  reservedPaise   : Int
deriving DecidableEq, Repr

/-- The arguments `register_budget` accepts. -/
def Registration.Accepted (reg : Registration) : Prop :=
  reg.mandateId ≠ "" ∧ 0 ≤ reg.spentPaise ∧ 0 ≤ reg.reservedPaise
    ∧ reg.spentPaise + reg.reservedPaise ≤ reg.dailyLimitPaise

instance (reg : Registration) : Decidable reg.Accepted :=
  inferInstanceAs (Decidable (_ ∧ _))

def BudgetCall.registration : BudgetCall → Option Registration
  | .register _ m limit _ _ spent reserved => some ⟨m, limit, spent, reserved⟩
  | _ => none

/-- What a call returns, or raises. -/
inductive BudgetReply where
  | registered (budget : DailyBudget)
  | evaluated (result : BudgetEvaluationResult)
  | resolved (reservation : BudgetReservation)
  | raised (err : PyError)

/-- A reply that rejects the request, or no reply at all. -/
def BudgetReply.refuses : BudgetReply → Bool
  | .registered _ => false
  | .evaluated r => !r.valid
  | .resolved _ => false
  | .raised _ => true

/-- The reply that wraps a computation's result. -/
def BudgetReply.wrap {α : Type} (ok : α → BudgetReply) : Except PyError α → BudgetReply
  | .ok a => ok a
  | .error err => .raised err

def BudgetEngine.call (e : BudgetEngine) : BudgetCall → BudgetReply × BudgetEngine
  | .register env m limit cur date spent reserved =>
      let r := e.registerBudget env m limit cur date spent reserved
      (.wrap .registered r.1, r.2)
  | .reserve env m tx amount cur resId ttl at? =>
      let r := e.reserve env m tx amount cur resId ttl at?
      (.wrap .evaluated r.1, r.2)
  | .commit env m resId at? =>
      let r := e.commit env m resId at?
      (.wrap .resolved r.1, r.2)
  | .release env m resId at? =>
      let r := e.release env m resId at?
      (.wrap .resolved r.1, r.2)

end MandateGateway
