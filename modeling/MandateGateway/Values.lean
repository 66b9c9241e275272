import MandateGateway.Lib.Binary64
import MandateGateway.Lib.Datetime
import MandateGateway.Lib.Text
import Mathlib.Data.List.Basic

/-! # Dynamic values, exceptions and the ambient environment

    What the gateway's functions receive from outside their arguments: values
    of dynamic type, the clock, fresh identifiers, and the exceptions they
    raise. -/

namespace MandateGateway

open Clock

/-- A value of dynamic type (`Any`). -/
inductive PyValue where
  | none
  | bool (b : Bool)
  | int (i : Int)
  | float (x : Binary64)
  | str (s : String)
  | list (xs : List PyValue)
  | dict (kvs : List (String × PyValue))

/-- `bool(value)`. -/
def PyValue.truthy : PyValue → Bool
  | .none => false
  | .bool b => b
  | .int i => i != 0
  | .float x => x != .finite 0
  | .str s => s != ""
  | .list xs => !xs.isEmpty
  | .dict kvs => !kvs.isEmpty

/-- The exceptions that can leave a modelled function. -/
inductive PyError where
  | valueError (message : String)
  | transactionStateError (message : String)
  | budgetInsufficientError (message : String)
  | nonceAlreadyConsumedError (message : String)
  | authorizationExpiredError (message : String)
  | zeroDivisionError (message : String)
  | overflowError (message : String)
  | timestampOutOfRange
  /-- a record refused by its data contract: the record and the failing fields -/
  | validationError (record : String) (fields : List String)
  /-- a query for at most one row that found several -/
  | multipleResultsFound
  /-- a statement that breaks a database constraint -/
  | integrityError (message : String)
  /-- whatever an external adapter raises -/
  | adapterError (message : String)
deriving DecidableEq, Repr

/-- `str(e)`; of a data contract's refusal, the first line. -/
def PyError.text : PyError → String
  | .valueError m | .transactionStateError m | .budgetInsufficientError m
  | .nonceAlreadyConsumedError m | .authorizationExpiredError m | .zeroDivisionError m
  | .overflowError m | .integrityError m | .adapterError m => m
  | .timestampOutOfRange => "timestamp out of range"
  | .validationError record fields =>
      let plural := if fields.length = 1 then "" else "s"
      s!"{fields.length} validation error{plural} for {record}"
  | .multipleResultsFound => "Multiple rows were found when one or none was required"

/-- What the running process supplies to one call: the time and a fresh
    identifier. -/
structure Ambient where
  now  : Instant
  uuid : String
deriving DecidableEq, Repr

/-- `at if at is not None else _utc_now()`. -/
def Ambient.time (env : Ambient) (at? : Option Instant) : Instant := at?.getD env.now

/-- The built-in conversions of dynamic values, and the text of an exception. -/
structure Coercions where
  str  : PyValue → String
  repr : PyValue → String
  int  : PyValue → Except PyError Int
  exceptionText : PyError → String

/-- `a / b` on integers. -/
def trueDiv (a b : Int) : Except PyError Binary64 :=
  if b = 0 then .error (.zeroDivisionError "division by zero")
  else match Binary64.ofRat ((a : Rat) / b) with
  | .infinite _ => .error (.overflowError "integer division result too large for a float")
  | x => .ok x

/-- `x` when it is a non-empty string, else `y`: `x or y`. -/
def orElseText (x : Option String) (y : String) : String :=
  match x with
  | some s => if s = "" then y else s
  | none => y

end MandateGateway
