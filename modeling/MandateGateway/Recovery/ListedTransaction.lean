import MandateGateway.Lib.Datetime
import MandateGateway.Types
import MandateGateway.Values

/-! # Listed transactions

    The audits of a recovery read dictionaries of untyped values.  A member of
    an enumeration of texts is compared, hashed and looked up as its text, and
    stands here as that text; every other object is of a type `ι` that the
    audits only compare, hash, print and convert. -/

namespace MandateGateway

open Clock

/-- A value of a dictionary. -/
inductive ListedValue (ι : Type) where
  | none
  | text (s : String)
  | datetime (t : Datetime)
  | object (v : ι)
deriving DecidableEq

instance {ι : Type} [DecidableEq ι] : LawfulBEq (ListedValue ι) := inferInstance

/-- A dictionary: the value of each key that it has. -/
abbrev ListedTransaction (ι : Type) : Type := String → Option (ListedValue ι)

/-- What an audit may raise. -/
inductive ReconciliationError where
  | typeError (message : String)
  /-- what recomputing the hash of an audit event raises -/
  | unhashableEvent
  | raised (err : PyError)
deriving DecidableEq, Repr

/-- The built-in functions on the values of a dictionary. -/
structure ListedBuiltins (ι : Type) where
  /-- the text of the `TypeError` that `hash(v)` raises -/
  unhashable : ι → Option String
  /-- `str(v)` -/
  str        : ListedValue ι → String
  /-- `int(v)` -/
  int        : ListedValue ι → Except ReconciliationError Int

variable {ι : Type}

namespace ListedTransaction

/-- `tx.get(key, default)`. -/
def getD (tx : ListedTransaction ι) (key : String) (default : ListedValue ι) : ListedValue ι :=
  (tx key).getD default

/-- `tx.get(key)`. -/
def get (tx : ListedTransaction ι) (key : String) : ListedValue ι := tx.getD key .none

end ListedTransaction

/-- `hash(v)`, as it raises. -/
def ListedBuiltins.hash (builtins : ListedBuiltins ι) : ListedValue ι →
    Except ReconciliationError Unit
  | .object v =>
      match builtins.unhashable v with
      | some message => .error (.typeError message)
      | none => .ok ()
  | .none | .text _ | .datetime _ => .ok ()

/-- `v in (state.value, ...)`. -/
def ListedValue.isState [DecidableEq ι] (states : List TransactionState) (v : ListedValue ι) :
    Bool :=
  states.any fun s => decide (v = .text s.value)

theorem ListedValue.isState_iff [DecidableEq ι] {states : List TransactionState}
    {v : ListedValue ι} : v.isState states = true ↔ ∃ s ∈ states, v = .text s.value := by
  rw [isState, List.any_eq_true]
  simp only [decide_eq_true_eq]

end MandateGateway
