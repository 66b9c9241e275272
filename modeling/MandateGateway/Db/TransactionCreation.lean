import MandateGateway.Db.Session
import MandateGateway.Lib.Runs
import MandateGateway.Lib.UniqueRows
import Mathlib.Data.Finset.Insert

/-! # Creating transactions

    A transaction is stored once for each idempotency key.  A call with a key
    that is stored compares five fields of the context, and returns the stored
    transaction or raises; the identifier of the transaction, its currency and
    what else is recorded are not compared.

    * `createTransaction_of_used`: what a call with a used key does;
    * `used_key_law`: over runs, with where the stored transaction comes from. -/

namespace MandateGateway

open Clock Runs

/-- The unique columns of `transactions`. -/
def transactionColumns : List (TransactionRow → String) :=
  [TransactionRow.transactionId, TransactionRow.idempotencyKey]

/-- The table, and the keys of the tables that it refers to. -/
structure TransactionStore where
  transactions : UniqueRows transactionColumns
  merchants    : Finset String
  mandates     : Finset String

/-- What a session sees, and what is committed. -/
structure CreationUow where
  session   : TransactionStore
  committed : TransactionStore

/-- The arguments of `create_transaction`; the state is its text. -/
structure CreateTransaction where
  transactionId     : String
  buyerId           : String
  merchantId        : String
  mandateId         : String
  amountPaise       : Int
  cartHash          : String
  idempotencyKey    : String
  authDecision      : String
  state             : String
  currency          : String
  region            : String
  providerPaymentId : Option String
  providerStatus    : Option String

/-- The defaults of the two time columns, and the driver's text of a broken
    constraint. -/
structure CreationEnv where
  createdAt      : Instant
  updatedAt      : Instant
  constraintText : String

namespace CreateTransaction

/-- `TransactionModel(...)`, with the defaults of its columns. -/
def row (env : CreationEnv) (q : CreateTransaction) : TransactionRow where
  transactionId := q.transactionId
  buyerId := q.buyerId
  merchantId := q.merchantId
  mandateId := q.mandateId
  cartHash := q.cartHash
  amountPaise := q.amountPaise
  currency := q.currency
  region := q.region
  authDecision := q.authDecision
  state := q.state
  providerPaymentId := q.providerPaymentId
  providerStatus := q.providerStatus
  idempotencyKey := q.idempotencyKey
  createdAt := env.createdAt
  updatedAt := env.updatedAt

/-- The context that a stored transaction is compared with. -/
def SameContext (existing : TransactionRow) (q : CreateTransaction) : Prop :=
  existing.buyerId = q.buyerId ∧ existing.merchantId = q.merchantId
    ∧ existing.mandateId = q.mandateId ∧ existing.amountPaise = q.amountPaise
    ∧ existing.cartHash = q.cartHash

instance (existing : TransactionRow) (q : CreateTransaction) :
    Decidable (SameContext existing q) :=
  inferInstanceAs (Decidable (_ ∧ _))

def conflict (q : CreateTransaction) : PyError :=
  .valueError (s!"Idempotency key '{q.idempotencyKey}' mismatch: "
    ++ "attempt to reuse existing key with conflicting context.")

end CreateTransaction

namespace TransactionStore

/-- `get_transaction_by_idempotency_key`. -/
def getByIdempotencyKey (key : String) (s : TransactionStore) :
    Except PyError (Option TransactionRow) :=
  scalarOneOrNone (s.transactions.rows.filter fun r => r.idempotencyKey == key)

/-- The foreign keys and the check of the table hold of a row. -/
def Admissible (r : TransactionRow) (s : TransactionStore) : Prop :=
  r.merchantId ∈ s.merchants ∧ r.mandateId ∈ s.mandates ∧ 0 ≤ r.amountPaise

instance (r : TransactionRow) (s : TransactionStore) : Decidable (s.Admissible r) :=
  inferInstanceAs (Decidable (_ ∧ _))

/-- The flush of one new row. -/
def add (r : TransactionRow) (s : TransactionStore) : Option TransactionStore :=
  if s.Admissible r then (s.transactions.insert r).map fun t => { s with transactions := t }
  else none

end TransactionStore

namespace CreationUow

def rollback (u : CreationUow) : CreationUow := ⟨u.committed, u.committed⟩

def commit (u : CreationUow) : CreationUow := ⟨u.session, u.session⟩

/-- `create_transaction`; a flush that breaks a constraint rolls back. -/
def createTransaction (env : CreationEnv) (q : CreateTransaction) (u : CreationUow) :
    Except PyError TransactionRow × CreationUow :=
  match u.session.getByIdempotencyKey q.idempotencyKey with
  | .error err => (.error err, u)
  | .ok (some existing) =>
      if q.SameContext existing then (.ok existing, u) else (.error q.conflict, u)
  | .ok none =>
      match u.session.add (q.row env) with
      | some session => (.ok (q.row env), { u with session := session })
      | none => (.error (.integrityError env.constraintText), u.rollback)

end CreationUow

/-! ## A used key -/

namespace TransactionStore

variable {s : TransactionStore}

/-- **The lookup finds the one transaction of a key, or none.** -/
theorem getByIdempotencyKey_eq_some_iff {key : String} {r : TransactionRow} :
    s.getByIdempotencyKey key = .ok (some r)
      ↔ r ∈ s.transactions.rows ∧ r.idempotencyKey = key := by
  have hnodup := s.transactions.nodup TransactionRow.idempotencyKey
    (List.mem_cons_of_mem _ List.mem_cons_self)
  rw [getByIdempotencyKey, scalarOneOrNone_eq_some_iff]
  exact UniqueRows.filter_eq_singleton_iff hnodup

theorem rows_of_add {r : TransactionRow} {s' : TransactionStore} (h : s.add r = some s') :
    s'.transactions.rows = s.transactions.rows ++ [r] := by
  rw [add] at h
  by_cases hadmissible : s.Admissible r
  · rw [if_pos hadmissible] at h
    obtain ⟨t, ht, rfl⟩ := Option.map_eq_some_iff.mp h
    by_cases htaken : s.transactions.Taken r
    · rw [UniqueRows.insert_of_taken htaken] at ht
      cases ht
    · obtain ⟨t', hinsert, hrows⟩ := UniqueRows.insert_of_free htaken
      obtain rfl := Option.some.inj (hinsert.symm.trans ht)
      exact hrows
  · rw [if_neg hadmissible] at h
    cases h

end TransactionStore

open TransactionStore CreateTransaction

/-- **A call with a used key writes nothing: it returns the stored transaction,
    or raises where the context differs.** -/
theorem createTransaction_of_used {env : CreationEnv} {q : CreateTransaction} {u : CreationUow}
    {existing : TransactionRow} (hmem : existing ∈ u.session.transactions.rows)
    (hkey : existing.idempotencyKey = q.idempotencyKey) :
    u.createTransaction env q
      = (if q.SameContext existing then .ok existing else .error q.conflict, u) := by
  rw [CreationUow.createTransaction, getByIdempotencyKey_eq_some_iff.mpr ⟨hmem, hkey⟩]
  dsimp only
  by_cases hsame : q.SameContext existing
  · rw [if_pos hsame, if_pos hsame]
  · rw [if_neg hsame, if_neg hsame]

/-- A creation, or the end of a session. -/
inductive CreationCall
  | create (env : CreationEnv) (q : CreateTransaction)
  | commit
  | rollback

inductive CreationAnswer
  | created (answer : Except PyError TransactionRow)
  | done

namespace CreationUow

variable {u : CreationUow}

def step (u : CreationUow) : CreationCall → CreationAnswer × CreationUow
  | .create env q => (.created (u.createTransaction env q).1, (u.createTransaction env q).2)
  | .commit => (.done, u.commit)
  | .rollback => (.done, u.rollback)

/-- The rows that a session sees or that are committed. -/
def Stored (r : TransactionRow) (u : CreationUow) : Prop :=
  r ∈ u.session.transactions.rows ∨ r ∈ u.committed.transactions.rows

def Created (r : TransactionRow) (c : Step CreationUow CreationCall CreationAnswer) : Prop :=
  ∃ env q, c.act = .create env q ∧ r = q.row env ∧ c.out = .created (.ok r)

theorem createTransaction_cases (env : CreationEnv) (q : CreateTransaction) (u : CreationUow) :
    (u.createTransaction env q).2 = u
    ∨ (u.createTransaction env q).2 = u.rollback
    ∨ ∃ session, u.session.add (q.row env) = some session
        ∧ u.createTransaction env q = (.ok (q.row env), { u with session := session }) := by
  rw [createTransaction]
  cases u.session.getByIdempotencyKey q.idempotencyKey with
  | error err => exact .inl rfl
  | ok found =>
      cases found with
      | some existing =>
          dsimp only
          by_cases hsame : q.SameContext existing
          · rw [if_pos hsame]
            exact .inl rfl
          · rw [if_neg hsame]
            exact .inl rfl
      | none =>
          dsimp only
          cases hadd : u.session.add (q.row env) with
          | none => exact .inr (.inl rfl)
          | some session => exact .inr (.inr ⟨session, rfl, rfl⟩)

theorem stored_or_created {call : CreationCall} {r : TransactionRow}
    (h : Stored r (u.step call).2) : Stored r u ∨ Created r (stepAt step u call) := by
  have hcommitted : r ∈ u.committed.transactions.rows → Stored r u := Or.inr
  cases call with
  | commit => exact .inl (.inl (h.elim id id))
  | rollback => exact .inl (hcommitted (h.elim id id))
  | create env q =>
      rw [step] at h
      obtain hsame | hback | ⟨session, hadd, hnew⟩ := createTransaction_cases env q u
      · rw [hsame] at h
        exact .inl h
      -- a broken constraint takes the session back to what is committed
      · rw [hback] at h
        exact .inl (hcommitted (h.elim id id))
      · rw [hnew] at h
        obtain hsession | hold := h
        · rw [rows_of_add hadd, List.mem_append, List.mem_singleton] at hsession
          obtain hold | rfl := hsession
          · exact .inl (.inl hold)
          · refine .inr ⟨env, q, rfl, rfl, ?_⟩
            rw [stepAt_out, step, hnew]
        · exact .inl (hcommitted hold)

theorem stored_origin (u : CreationUow) (calls : List CreationCall) {r : TransactionRow}
    (h : Stored r (exec step u calls)) :
    Stored r u ∨ ∃ c ∈ steps step u calls, Created r c := by
  -- forwards, as the first step changes what the others start from
  induction calls generalizing u with
  | nil => exact .inl h
  | cons call calls ih =>
      obtain hfirst | ⟨c, hc, hcreated⟩ := ih _ h
      · obtain hstored | hcreated := stored_or_created hfirst
        · exact .inl hstored
        · exact .inr ⟨_, List.mem_cons_self, hcreated⟩
      · exact .inr ⟨c, List.mem_cons_of_mem _ hc, hcreated⟩

/-- **In every run, a creation with a used key writes nothing.**  It returns the
    stored transaction where buyer, merchant, mandate, amount and cart are the
    stored ones, and raises otherwise; the stored transaction was there before
    the run or is the row of an earlier call. -/
theorem used_key_law (u : CreationUow) (calls : List CreationCall)
    {before after : List (Step CreationUow CreationCall CreationAnswer)}
    {c : Step CreationUow CreationCall CreationAnswer}
    (hsplit : steps step u calls = before ++ c :: after)
    {env : CreationEnv} {q : CreateTransaction} (hact : c.act = .create env q)
    {existing : TransactionRow} (hmem : existing ∈ c.pre.session.transactions.rows)
    (hkey : existing.idempotencyKey = q.idempotencyKey) :
    c.post = c.pre
    ∧ (q.SameContext existing → c.out = .created (.ok existing))
    ∧ (¬ q.SameContext existing → c.out = .created (.error q.conflict))
    ∧ (Stored existing u ∨ ∃ c' ∈ before, Created existing c') := by
  obtain ⟨l, call, r, rfl, rfl, rfl, rfl⟩ := steps_eq_append_cons_iff.mp hsplit
  rw [stepAt_act] at hact
  subst hact
  rw [stepAt_pre] at hmem
  have hused := @createTransaction_of_used env _ _ _ hmem hkey
  rw [stepAt_post, stepAt_pre, stepAt_out, step, hused]
  refine ⟨rfl, ?_, ?_, stored_origin u l (.inl hmem)⟩
  · intro hsame
    rw [if_pos hsame]
  · intro hdiffers
    rw [if_neg hdiffers]

end CreationUow

/-! A purchase that is created, and its key sent again with another identifier
    and currency. -/

namespace SampleCreation

open CreationUow

def env : CreationEnv := ⟨0, 0, "UNIQUE constraint failed"⟩

def first : CreateTransaction where
  transactionId := "txn_1"
  buyerId := "buyer_1"
  merchantId := "mer_1"
  mandateId := "man_1"
  amountPaise := 50000
  cartHash := "cart_1"
  idempotencyKey := "idem_1"
  authDecision := "ALLOW"
  state := "AUTHORIZED"
  currency := "INR"
  region := "IN"
  providerPaymentId := none
  providerStatus := none

def again : CreateTransaction := { first with transactionId := "txn_2", currency := "USD" }

def store : TransactionStore := ⟨.empty, {"mer_1"}, {"man_1"}⟩

def uow : CreationUow := ⟨store, store⟩

theorem created_first : (uow.createTransaction env first).1 = .ok (first.row env)
    ∧ (uow.createTransaction env first).2.session.transactions.rows = [first.row env] :=
  ⟨rfl, rfl⟩

end SampleCreation

open SampleCreation CreationUow in
/-- A key that is sent again with another transaction and currency returns the
    transaction that is stored. -/
theorem differing_request_returned :
    ((uow.createTransaction env first).2.createTransaction env again).1 = .ok (first.row env)
    ∧ (first.row env).transactionId ≠ again.transactionId
    ∧ (first.row env).currency ≠ again.currency := by
  refine ⟨?_, by decide, by decide⟩
  have hmem : first.row env ∈ (uow.createTransaction env first).2.session.transactions.rows := by
    rw [created_first.2]
    exact List.mem_singleton_self _
  have hused := @createTransaction_of_used env again _ _ hmem rfl
  rw [if_pos ⟨rfl, rfl, rfl, rfl, rfl⟩] at hused
  exact congrArg Prod.fst hused

open SampleCreation CreationUow in
/-- The key is sent again with the same context. -/
theorem used_key_law_sample :
    (stepAt step (step uow (.create env first)).2 (.create env first)).out
      = .created (.ok (first.row env)) := by
  have hmem : first.row env ∈ (step uow (.create env first)).2.session.transactions.rows := by
    rw [step, created_first.2]
    exact List.mem_singleton_self _
  have hrun : steps step uow [.create env first, .create env first]
      = [stepAt step uow (.create env first)]
        ++ stepAt step (step uow (.create env first)).2 (.create env first) :: [] := rfl
  exact (used_key_law uow [.create env first, .create env first]
    hrun rfl hmem rfl).2.1 ⟨rfl, rfl, rfl, rfl, rfl⟩

end MandateGateway
