import MandateGateway.Lib.Binary64
import MandateGateway.Lib.RaisingLoop
import MandateGateway.Lib.Table
import MandateGateway.Nonce.Record

/-! # The nonce repository

    Nonces as rows, and their consumption.  A row has no expiry: the age of a
    nonce is measured when it is consumed, against a lifetime that the caller
    gives. -/

namespace MandateGateway

open Clock

/-- A row of `nonce_records`; the status is the text that is stored. -/
structure NonceRow where
  nonce         : String
  transactionId : String
  mandateId     : String
  status        : String
  createdAt     : Instant
  consumedAt    : Option Instant
deriving DecidableEq, Repr

/-- The table `nonce_records`. -/
abbrev NonceTable : Type := Table NonceRow.nonce

namespace NonceRepository

/-- An operation of the repository. -/
abbrev Action (α : Type) : Type := Raising NonceTable PyError α

def lockNonceForUpdate (nonce : String) (db : NonceTable) : Option NonceRow := db.get nonce

def createNonce (now : Instant) (nonce transactionId mandateId : String) (status : NonceState)
    (createdAt : Option Instant) : Action NonceRow := fun db =>
  if Text.strip nonce = "" then (.error (.valueError "Nonce value cannot be empty."), db)
  else if Text.strip transactionId = "" then
    (.error (.valueError "Transaction ID cannot be empty."), db)
  else if Text.strip mandateId = "" then
    (.error (.valueError "Mandate ID cannot be empty."), db)
  else
    let row : NonceRow := {
      nonce := Text.strip nonce
      transactionId := Text.strip transactionId
      mandateId := Text.strip mandateId
      status := status.value
      createdAt := createdAt.getD now
      consumedAt := none }
    match db.insert row with
    | none =>
        (.error (.valueError s!"Nonce '{nonce}' already exists in persistence store."), db)
    | some db' => (.ok row, db')

def consume (evalTime : Instant) (row : NonceRow) : NonceRow :=
  { row with
    status := NonceState.consumed.value
    consumedAt := some evalTime }

theorem consume_nonce (evalTime : Instant) (row : NonceRow) :
    (consume evalTime row).nonce = row.nonce := rfl

def consumed (nonce : String) (evalTime : Instant) (db : NonceTable) : NonceTable :=
  db.modify nonce (consume evalTime) (consume_nonce evalTime)

/-- The row is older than its lifetime, if it has one. -/
def Aged (row : NonceRow) (ttlSeconds : Int) (evalTime : Instant) : Prop :=
  0 < ttlSeconds ∧ ttlSeconds * 1000000 ≤ evalTime - row.createdAt

instance (row : NonceRow) (ttlSeconds : Int) (evalTime : Instant) :
    Decidable (Aged row ttlSeconds evalTime) :=
  inferInstanceAs (Decidable (_ ∧ _))

def agedMessage (cleanNonce : String) (row : NonceRow) (ttlSeconds : Int) (evalTime : Instant) :
    String :=
  let age := (Binary64.ofRat (((evalTime - row.createdAt : Int) : Rat) / 1000000)).fixed1
  let created := isoText " " row.createdAt
  let evaluated := isoText " " evalTime
  s!"Nonce '{cleanNonce}' expired: created at {created}, evaluated at {evaluated} "
    ++ s!"(age {age}s >= TTL {ttlSeconds}s)."

def consumeNonce (now : Instant) (nonce transactionId mandateId : String) (ttlSeconds : Int)
    (at? : Option Instant) : Action NonceRow := fun db =>
  let cleanNonce := Text.strip nonce
  let cleanTx := Text.strip transactionId
  let cleanMan := Text.strip mandateId
  let evalTime := at?.getD now
  if cleanNonce = "" then (.error (.valueError "Nonce value cannot be empty."), db)
  else match lockNonceForUpdate cleanNonce db with
  | none =>
      (.error (.valueError s!"Nonce '{cleanNonce}' not found in persistence store."), db)
  | some record =>
      if record.transactionId ≠ cleanTx ∨ record.mandateId ≠ cleanMan then
        (.error (.valueError
          (s!"Nonce context mismatch for '{String.ofList (cleanNonce.toList.take 8)}...': "
            ++ s!"bound to tx='{record.transactionId}', mandate='{record.mandateId}'; "
            ++ s!"submitted for tx='{cleanTx}', mandate='{cleanMan}'.")), db)
      else if record.status = NonceState.consumed.value then
        (.error (.valueError
          (s!"Nonce '{cleanNonce}' has already been consumed at "
            ++ s!"{timestampText record.consumedAt}.")), db)
      else if Aged record ttlSeconds evalTime then
        (.error (.valueError (agedMessage cleanNonce record ttlSeconds evalTime)), db)
      else (.ok (consume evalTime record), consumed cleanNonce evalTime db)

/-! ## Creation and consumption -/

def newRow (nonce transactionId mandateId : String) (status : NonceState) (createdAt : Instant) :
    NonceRow :=
  ⟨nonce, transactionId, mandateId, status.value, createdAt, none⟩

theorem createNonce_of_fresh (now : Instant) {nonce transactionId mandateId : String}
    (status : NonceState) (createdAt : Option Instant) {db : NonceTable}
    (hnonce : Text.strip nonce = nonce) (htx : Text.strip transactionId = transactionId)
    (hmandate : Text.strip mandateId = mandateId) (hne : nonce ≠ "") (hneTx : transactionId ≠ "")
    (hneMandate : mandateId ≠ "") (hfresh : db.get nonce = none) :
    ∃ db', createNonce now nonce transactionId mandateId status createdAt db
        = (.ok (newRow nonce transactionId mandateId status (createdAt.getD now)), db')
      ∧ ∀ k, db'.get k = if k = nonce then
          some (newRow nonce transactionId mandateId status (createdAt.getD now))
        else db.get k := by
  have hfree : (newRow nonce transactionId mandateId status (createdAt.getD now)).nonce
      ∉ db.rows.map NonceRow.nonce := Table.get_eq_none_iff.mp hfresh
  obtain ⟨db', hinsert⟩ := Table.exists_insert hfree
  refine ⟨db', ?_, Table.get_insert hinsert⟩
  rw [newRow] at hinsert
  rw [createNonce, hnonce, htx, hmandate, if_neg hne, if_neg hneTx, if_neg hneMandate]
  simp only [hinsert]
  rfl

section
variable {now : Instant} {nonce transactionId mandateId : String} {ttlSeconds : Int} {t : Instant}
  {row : NonceRow} {db : NonceTable}

theorem aged_iff (hpositive : 0 < ttlSeconds) :
    Aged row ttlSeconds t ↔ ¬ t < row.createdAt + ttlSeconds * 1000000 := by
  have hlate : ∀ i t n : Int, n ≤ t - i ↔ ¬ t < i + n := by
    intro i t n
    omega
  rw [Aged, and_iff_right hpositive]
  exact hlate row.createdAt t (ttlSeconds * 1000000)

/-- The row is issued for these bindings. -/
structure Consumable (row : NonceRow) (transactionId mandateId : String) : Prop where
  transaction : row.transactionId = Text.strip transactionId
  mandate     : row.mandateId = Text.strip mandateId
  issued      : row.status = NonceState.issued.value

theorem consumeNonce_of_consumable (hclean : Text.strip nonce = nonce) (hne : nonce ≠ "")
    (hrow : db.get nonce = some row) (h : Consumable row transactionId mandateId) :
    consumeNonce now nonce transactionId mandateId ttlSeconds (some t) db
      = if Aged row ttlSeconds t then
          (.error (.valueError (agedMessage nonce row ttlSeconds t)), db)
        else (.ok (consume t row), consumed nonce t db) := by
  have hbound : ¬ (row.transactionId ≠ Text.strip transactionId
      ∨ row.mandateId ≠ Text.strip mandateId) :=
    not_or.mpr ⟨not_not.mpr h.transaction, not_not.mpr h.mandate⟩
  have hissued : ¬ row.status = NonceState.consumed.value := by
    rw [h.issued]
    decide
  rw [consumeNonce, hclean, if_neg hne, lockNonceForUpdate]
  simp only [hrow, if_neg hbound, if_neg hissued, Option.getD_some]

end

end NonceRepository

end MandateGateway
