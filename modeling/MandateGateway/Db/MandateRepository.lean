import MandateGateway.Lib.Lifecycle
import MandateGateway.Lib.RaisingLoop
import MandateGateway.Lib.Table
import MandateGateway.Types
import MandateGateway.Values

/-! # The mandate repository

    Mandates as rows, whose status is a text, and the lifecycle that a change
    of it is checked against.

    * `transitionMandateStatus_cases`: a call leaves the table alone, or moves
      one mandate along a legal transition;
    * `not_legal_of_terminal`: no legal transition leaves REVOKED or EXPIRED. -/

namespace MandateGateway

open Clock Raising

/-! ## The lifecycle -/

def MandateStatus.all : List MandateStatus := [.draft, .active, .suspended, .revoked, .expired]

/-- `MandateStatus(text)`. -/
def MandateStatus.ofValue (text : String) : Option MandateStatus :=
  MandateStatus.all.find? fun s => s.value == text

theorem MandateStatus.ofValue_value (s : MandateStatus) : ofValue s.value = some s := by
  cases s <;> decide

theorem MandateStatus.ofValue_eq_some_iff {text : String} {s : MandateStatus} :
    ofValue text = some s ↔ text = s.value := by
  constructor
  · intro h
    rw [ofValue] at h
    exact (beq_iff_eq.mp (by simpa using List.find?_some h)).symm
  · rintro rfl
    exact ofValue_value s

/-- `_MANDATE_LEGAL_TRANSITIONS`. -/
def mandateLegalTransitions : MandateStatus → List MandateStatus
  | .draft => [.active]
  | .active => [.suspended, .revoked, .expired]
  | .suspended => [.active, .revoked, .expired]
  | .revoked | .expired => []

/-- A status that is never left. -/
def MandateStatus.Terminal (s : MandateStatus) : Prop := s = .revoked ∨ s = .expired

theorem not_legal_of_terminal {s target : MandateStatus} (h : s.Terminal) :
    target ∉ mandateLegalTransitions s := by
  rcases h with rfl | rfl <;> exact List.not_mem_nil

/-- Why a mandate operation raises. -/
inductive MandateError where
  | raised (err : PyError)
  | lifecycleError (message code : String)
deriving DecidableEq

/-- `MandateStateTransitionError(current_status, target_status)`. -/
def illegalMandateTransition (current target : MandateStatus) : MandateError :=
  .lifecycleError
    (s!"Illegal mandate state transition: {current.value} → {target.value}. "
      ++ "Terminal or invalid state path.")
    "MANDATE_ILLEGAL_TRANSITION"

def parseMandateStatus (text : String) : Except MandateError MandateStatus :=
  match MandateStatus.ofValue text with
  | some s => .ok s
  | none => .error (.raised (.valueError s!"{Text.quoted text} is not a valid MandateStatus"))

theorem parseMandateStatus_eq_ok_iff {text : String} {s : MandateStatus} :
    parseMandateStatus text = .ok s ↔ text = s.value := by
  rw [← MandateStatus.ofValue_eq_some_iff, parseMandateStatus]
  cases MandateStatus.ofValue text with
  | none => exact ⟨nofun, nofun⟩
  | some s' => exact ⟨fun h => congrArg some (Except.ok.inj h), fun h => congrArg Except.ok
      (Option.some.inj h)⟩

/-- The check of a transition against the lifecycle. -/
def checkMandateTransition (current target : MandateStatus) : Except MandateError Unit :=
  if target ∈ mandateLegalTransitions current then .ok ()
  else .error (illegalMandateTransition current target)

/-! ## The rows -/

/-- A row of `mandates`, in full. -/
structure MandateModel where
  mandateId             : String
  buyerId               : String
  merchantId            : Option String
  categoryScope         : Option String
  dailyBudgetPaise      : Int
  cumulativeBudgetPaise : Option Int
  currency              : String
  region                : String
  status                : String
  expiresAt             : Instant
  createdAt             : Instant
deriving DecidableEq, Repr

/-- The table `mandates`. -/
abbrev MandateTable : Type := Table MandateModel.mandateId

namespace MandateRepository

/-- An operation of the repository. -/
abbrev Action (α : Type) : Type := Raising MandateTable MandateError α

def getMandate (mandateId : String) (db : MandateTable) : Option MandateModel := db.get mandateId

def lockMandateForUpdate (mandateId : String) (db : MandateTable) : Option MandateModel :=
  db.get mandateId

def setStatus (target : MandateStatus) (r : MandateModel) : MandateModel :=
  { r with status := target.value }

theorem setStatus_mandateId (target : MandateStatus) (r : MandateModel) :
    (setStatus target r).mandateId = r.mandateId :=
  rfl

def moved (mandateId : String) (target : MandateStatus) (db : MandateTable) : MandateTable :=
  db.modify mandateId (setStatus target) (setStatus_mandateId target)

/-- `transition_mandate_status`; the target is a member of the enumeration or a
    text. -/
def transitionMandateStatus (mandateId : String) (targetStatus : String ⊕ MandateStatus) :
    Action MandateModel := do
  match ← asks (lockMandateForUpdate mandateId) with
  | none => raise (.raised (.valueError s!"Mandate '{mandateId}' not found."))
  | some mandate =>
      let current ← ofExcept (parseMandateStatus mandate.status)
      let target ← ofExcept (targetStatus.elim parseMandateStatus Except.ok)
      ofExcept (checkMandateTransition current target)
      modify (moved mandateId target)
      pure (setStatus target mandate)

def revokeMandate (mandateId : String) : Action MandateModel :=
  transitionMandateStatus mandateId (.inr .revoked)

def expireMandate (mandateId : String) : Action MandateModel :=
  transitionMandateStatus mandateId (.inr .expired)

/-! ## What a transition does -/

/-- The mandate of a table moves along a legal transition. -/
structure Legal (mandateId : String) (r : MandateModel) (target : MandateStatus)
    (db : MandateTable) : Prop where
  row   : db.get mandateId = some r
  legal : ∃ current : MandateStatus, r.status = current.value
    ∧ target ∈ mandateLegalTransitions current

/-- **A call raises and leaves the table alone, or moves one mandate along a
    legal transition.** -/
theorem transitionMandateStatus_cases (mandateId : String)
    (targetStatus : String ⊕ MandateStatus) (db : MandateTable) :
    (∃ err, transitionMandateStatus mandateId targetStatus db = (.error err, db))
      ∨ ∃ row target, Legal mandateId row target db
        ∧ transitionMandateStatus mandateId targetStatus db
          = (.ok (setStatus target row), moved mandateId target db) := by
  rw [transitionMandateStatus]
  cases hrow : lockMandateForUpdate mandateId db with
  | none =>
      rw [bind_of_ok (asks_of_eq hrow)]
      exact .inl ⟨_, rfl⟩
  | some row =>
      rw [bind_of_ok (asks_of_eq hrow)]
      dsimp only
      cases hcurrent : parseMandateStatus row.status with
      | error err => exact .inl ⟨err, rfl⟩
      | ok current =>
          rw [bind_of_ok (ofExcept_of_eq rfl db)]
          cases htarget : targetStatus.elim parseMandateStatus Except.ok with
          | error err => exact .inl ⟨err, rfl⟩
          | ok target =>
              rw [bind_of_ok (ofExcept_of_eq rfl db), checkMandateTransition]
              by_cases hlegal : target ∈ mandateLegalTransitions current
              · rw [if_pos hlegal]
                exact .inr ⟨row, target,
                  ⟨hrow, current, parseMandateStatus_eq_ok_iff.mp hcurrent, hlegal⟩, rfl⟩
              · rw [if_neg hlegal]
                exact .inl ⟨_, rfl⟩

end MandateRepository

end MandateGateway
