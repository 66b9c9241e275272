import MandateGateway.Budget.AsyncEngine
import MandateGateway.Budget.Effects
import MandateGateway.Lib.Runs

/-! # The budget engine and its database path

    The same operations on the engine in memory, which keeps running columns,
    and on the database, which sums over rows.  `Simulates` is the relation
    between the two that the operations keep, `call_outcome` what one
    operation does on both sides, and the theorems on runs say exactly how
    long the two agree. -/

namespace MandateGateway

open Clock Exceptions OrderedMap Runs

/-- An operation that both paths have. -/
inductive AccountingCall where
  | reserve (env : BudgetDbEnv) (mandateId transactionId : String) (amountPaise : Int)
      (currency : Currency) (reservationId : Option String) (ttlSeconds : Int)
      (at? : Option Instant)
  | commit (env : BudgetDbEnv) (mandateId reservationId : String) (at? : Option Instant)
  | release (env : BudgetDbEnv) (mandateId reservationId : String) (at? : Option Instant)

/-- The call on the engine in memory. -/
def AccountingCall.toCall : AccountingCall → BudgetCall
  | .reserve env m tx amount cur resId ttl at? =>
      .reserve env.ambient m tx amount cur resId ttl at?
  | .commit env m id at? => .commit env.ambient m id at?
  | .release env m id at? => .release env.ambient m id at?

namespace AsyncBudget

/-- An operation in a unit of work of its own, which is committed when the
    operation returns and rolled back when it raises. -/
def inUnitOfWork {α : Type} (ok : α → BudgetReply) (s : AsyncBudget) :
    Except PyError (α × AsyncBudget) → BudgetReply × AsyncBudget
  | .ok (a, s') => (ok a, s')
  | .error err => (.raised err, s)

/-- One call on the database path. -/
def call (s : AsyncBudget) : AccountingCall → BudgetReply × AsyncBudget
  | .reserve env m tx amount cur resId ttl at? =>
      s.inUnitOfWork .evaluated (s.reserve env m tx amount cur resId ttl at?)
  | .commit env m id at? => s.inUnitOfWork .resolved (s.commit env m id at?)
  | .release env m id at? => s.inUnitOfWork .resolved (s.release env m id at?)

end AsyncBudget

/-- The decision of a reply, and its reason. -/
inductive Verdict where
  | accepted
  | rejected (reason : Option RejectionReason)
  | raised (err : PyError)
deriving DecidableEq, Repr

def BudgetReply.verdict : BudgetReply → Verdict
  | .registered _ => .accepted
  | .evaluated r => if r.valid then .accepted else .rejected r.rejectionReason
  | .resolved _ => .accepted
  | .raised err => .raised err

/-- The two paths side by side. -/
structure TwoPaths where
  memory : BudgetEngine
  async  : AsyncBudget

/-- The same call on both paths. -/
def TwoPaths.call (s : TwoPaths) (c : AccountingCall) :
    (BudgetReply × BudgetReply) × TwoPaths :=
  (((s.memory.call c.toCall).1, (s.async.call c).1),
    ⟨(s.memory.call c.toCall).2, (s.async.call c).2⟩)

/-- What a mandate has spent and reserved, and its currency. -/
def BudgetEngine.totals (e : BudgetEngine) (m : String) : Option (Int × Int × String) :=
  (e.budgets.get m).map fun b => (b.spentPaise, b.reservedPaise, b.currency.value)

/-- The same from the rows. -/
def BudgetTables.totals (db : BudgetTables) (m : String) : Option (Int × Int × String) :=
  (db.mandates.get m).map fun row =>
    (BudgetRepository.sumReserved m [.committed, .spent] db,
      BudgetRepository.sumReserved m [.reserved] db, row.currency)

/-! ## The simulation relation -/

/-- A budget and the row of its mandate have the same limit and currency, and
    the columns are the sums over the rows. -/
structure Balances (db : BudgetTables) (m : String) (b : DailyBudget) (row : MandateRow) :
    Prop where
  named    : m ≠ ""
  limit    : row.dailyBudgetPaise = b.dailyLimitPaise
  currency : row.currency = b.currency.value
  spent    : b.spentPaise = BudgetRepository.sumReserved m [.committed, .spent] db
  reserved : b.reservedPaise = BudgetRepository.sumReserved m [.reserved] db

structure Mirrors (r : BudgetReservation) (row : BudgetReservationRow) : Prop where
  owner       : row.mandateId = r.mandateId
  transaction : row.transactionId = r.transactionId
  requested   : row.requestedPaise = r.amountPaise
  reserved    : row.reservedPaise = r.amountPaise
  state       : row.state = r.state.value
  positive    : 0 < r.amountPaise
  ordered     : r.transactionId ≠ ""
  live        : r.state = .reserved ∨ r.state = .committed ∨ r.state = .released

/-- **The tables implement the engine's stores.** -/
structure Simulates (e : BudgetEngine) (db : BudgetTables) : Prop where
  mandates     : ∀ m, Option.Rel (Balances db m) (e.budgets.get m) (db.mandates.get m)
  reservations : ∀ id, Option.Rel Mirrors (e.reservations.get id) (db.reservations.get id)
  owned        : ∀ id r, e.reservations.get id = some r →
    ∃ b, e.budgets.get r.mandateId = some b

variable {e : BudgetEngine} {db : BudgetTables}

theorem Simulates.mandate_of_none (h : Simulates e db) {m : String}
    (hb : e.budgets.get m = none) : db.mandates.get m = none := by
  have hrel := h.mandates m
  rw [hb] at hrel
  exact Table.eq_none_of_rel hrel

theorem Simulates.mandate_of_some (h : Simulates e db) {m : String} {b : DailyBudget}
    (hb : e.budgets.get m = some b) :
    ∃ mandate, db.mandates.get m = some mandate ∧ Balances db m b mandate := by
  have hrel := h.mandates m
  rw [hb] at hrel
  exact Table.eq_some_of_rel hrel

theorem Simulates.row_of_none (h : Simulates e db) {id : String}
    (hid : e.reservations.get id = none) : db.reservations.get id = none := by
  have hrel := h.reservations id
  rw [hid] at hrel
  exact Table.eq_none_of_rel hrel

theorem Simulates.row_of_some (h : Simulates e db) {id : String} {r : BudgetReservation}
    (hid : e.reservations.get id = some r) :
    ∃ row, db.reservations.get id = some row ∧ Mirrors r row := by
  have hrel := h.reservations id
  rw [hid] at hrel
  exact Table.eq_some_of_rel hrel

/-- Related paths have the same totals. -/
theorem Simulates.totals_eq (h : Simulates e db) (m : String) : e.totals m = db.totals m := by
  rw [BudgetEngine.totals, BudgetTables.totals]
  cases hb : e.budgets.get m with
  | none => rw [h.mandate_of_none hb, Option.map_none, Option.map_none]
  | some b =>
      obtain ⟨mandate, hmandate, hbal⟩ := h.mandate_of_some hb
      rw [hmandate, Option.map_some, Option.map_some, hbal.spent, hbal.reserved, hbal.currency]

theorem parseCurrency_value (c : Currency) : parseCurrency c.value = .ok c := by
  cases c with
  | inr => rfl
  | usd => rfl

/-- No amount on record is negative. -/
theorem Simulates.nonneg (h : Simulates e db) :
    ∀ row ∈ db.reservations.rows, 0 ≤ row.reservedPaise := by
  intro row hrow
  have hget : db.reservations.get row.reservationId = some row :=
    Table.get_eq_some_iff.mpr ⟨hrow, rfl⟩
  cases hid : e.reservations.get row.reservationId with
  | none =>
      rw [h.row_of_none hid] at hget
      cases hget
  | some r =>
      obtain ⟨row', hrow', hmir⟩ := h.row_of_some hid
      obtain rfl := Option.some.inj (hget.symm.trans hrow')
      rw [hmir.reserved]
      exact Int.le_of_lt hmir.positive

theorem Simulates.amounts_nonneg (h : Simulates e db) {m : String} {b : DailyBudget}
    {mandate : MandateRow} (hbal : Balances db m b mandate) :
    0 ≤ b.spentPaise ∧ 0 ≤ b.reservedPaise := by
  rw [hbal.spent, hbal.reserved]
  exact ⟨BudgetRepository.sumReserved_nonneg h.nonneg m _,
    BudgetRepository.sumReserved_nonneg h.nonneg m _⟩

/-! ## When the paths go on together -/

/-- The checks of `reserve` pass, those of its arguments' validation apart. -/
def Reservable (e : BudgetEngine) (m id : String) (amount : Int) (cur : Currency) : Prop :=
  0 < amount ∧ e.reservations.get id = none ∧ ∃ b, e.budgets.get m = some b
    ∧ b.currency = cur ∧ b.spentPaise + b.reservedPaise + amount ≤ b.dailyLimitPaise

/-- The reservation `r` of `m` is stored under `id` and reserved. -/
def Resolvable (e : BudgetEngine) (m id : String) (r : BudgetReservation) : Prop :=
  e.reservations.get id = some r ∧ r.mandateId = m ∧ r.state = .reserved

/-- The transaction is stored, and the mandate has no reservation for it. -/
def Unclaimed (db : BudgetTables) (m tx : String) : Prop :=
  tx ∈ db.transactions
    ∧ ∀ row ∈ db.reservations.rows, ¬ (row.mandateId = m ∧ row.transactionId = tx)

/-- The database can follow: a reservation that the engine has room for is the
    first of its mandate and transaction, and a reservation to resolve is
    resolved while five minutes more are still on the calendar. -/
def Served (s : TwoPaths) : AccountingCall → Prop
  | .reserve env m tx amount cur resId _ _ =>
      Reservable s.memory m (orElseText resId env.ambient.uuid) amount cur →
        Unclaimed s.async.db m tx
  | .commit env m id at? | .release env m id at? =>
      ∀ r, Resolvable s.memory m id r → addSeconds (env.ambient.time at?) 300 ≠ none

/-- The engine in memory accepts the call. -/
def Proceeds (e : BudgetEngine) : AccountingCall → Prop
  | .reserve env m tx amount cur resId ttl at? =>
      Reservable e m (orElseText resId env.ambient.uuid) amount cur
        ∧ addSeconds (env.ambient.time at?) ttl ≠ none ∧ tx ≠ ""
  | .commit _ m id _ | .release _ m id _ => ∃ r, Resolvable e m id r

inductive Outcome (s : TwoPaths) (c : AccountingCall) : Prop
  /-- both refuse, with the same reason -/
  | refused {reply reply' : BudgetReply} (hm : s.memory.call c.toCall = (reply, s.memory))
      (ha : s.async.call c = (reply', s.async)) (hverdict : reply.verdict = reply'.verdict)
      (hserved : Served s c) (hno : ¬ Proceeds s.memory c)
  /-- both reserve -/
  | reserved {env : BudgetDbEnv} {m tx : String} {amount : Int} {cur : Currency}
      {resId : Option String} {ttl : Int} {at? : Option Instant}
      {result result' : BudgetEvaluationResult} {b b' c' : DailyBudget}
      {r r' : BudgetReservation} {db' : BudgetTables}
      (hc : c = .reserve env m tx amount cur resId ttl at?)
      (hm : s.memory.call c.toCall = (.evaluated result,
        ⟨s.memory.budgets.set m b',
          s.memory.reservations.set (orElseText resId env.ambient.uuid) r⟩))
      (ha : s.async.call c = (.evaluated result', ⟨db',
        ⟨s.async.cache.budgets.set m c',
          s.async.cache.reservations.set (orElseText resId env.ambient.uuid) r'⟩⟩))
      (hvalid : result.valid = true ∧ result'.valid = true)
      (hsim : Simulates ⟨s.memory.budgets.set m b',
        s.memory.reservations.set (orElseText resId env.ambient.uuid) r⟩ db')
      (hb : s.memory.budgets.get m = some b)
      (hspent : b'.spentPaise = b.spentPaise)
      (hreserved : b'.reservedPaise = b.reservedPaise + amount)
      (hcurrency : b'.currency = cur ∧ r.currency = cur ∧ c'.currency = cur ∧ r'.currency = cur)
      (hcspent : c'.spentPaise = 0)
      (hcreserved : c'.reservedPaise = b.spentPaise + b.reservedPaise + amount)
      (hgo : Proceeds s.memory c) (hserved : Served s c)
  /-- both commit, or both release -/
  | resolved {env : BudgetDbEnv} {m id : String} {at? : Option Instant} {b b' : DailyBudget}
      {r r₁ r₂ : BudgetReservation} {db' : BudgetTables}
      (hc : c = .commit env m id at? ∨ c = .release env m id at?)
      (hm : s.memory.call c.toCall = (.resolved r₁,
        ⟨s.memory.budgets.set m b', s.memory.reservations.set id r₁⟩))
      (ha : s.async.call c = (.resolved r₂, ⟨db',
        { s.async.cache with reservations := s.async.cache.reservations.set id r₂ }⟩))
      (hsim : Simulates ⟨s.memory.budgets.set m b', s.memory.reservations.set id r₁⟩ db')
      (hr : Resolvable s.memory m id r) (hb : s.memory.budgets.get m = some b)
      (hreserved : b'.reservedPaise < b.reservedPaise)
      (hcurrency : r₁.currency = r.currency ∧ r₂.currency = .inr)
      (hserved : Served s c)
  /-- the database raises where the engine does not, or something else -/
  | diverged (hverdict : (s.call c).1.1.verdict ≠ (s.call c).1.2.verdict)
      (hserved : ¬ Served s c)

/-! ## Reservations -/

/-- A change of one budget and one reservation in memory, and of one row in the
    database, keeps the relation when the mandate's sums follow. -/
theorem Simulates.update (h : Simulates e db) {m id : String} {b' : DailyBudget}
    {mandate : MandateRow} {r : BudgetReservation} {row : BudgetReservationRow}
    {db' : BudgetTables} (hmandate : db.mandates.get m = some mandate)
    (hmandates : db'.mandates = db.mandates)
    (hget : ∀ id', db'.reservations.get id'
      = if id' = id then some row else db.reservations.get id')
    (hmir : Mirrors r row) (howner : r.mandateId = m) (hbal : Balances db' m b' mandate)
    (hother : ∀ m', m' ≠ m → ∀ states,
      BudgetRepository.sumReserved m' states db' = BudgetRepository.sumReserved m' states db) :
    Simulates ⟨e.budgets.set m b', e.reservations.set id r⟩ db' where
  mandates := by
    intro m'
    rw [hmandates]
    by_cases hm : m' = m
    · subst hm
      rw [get_set_self, hmandate]
      exact .some hbal
    · rw [get_set_of_ne _ hm]
      have hold := h.mandates m'
      generalize e.budgets.get m' = ob at hold ⊢
      generalize db.mandates.get m' = orow at hold ⊢
      cases hold with
      | none => exact .none
      | some hb =>
          refine .some ⟨hb.named, hb.limit, hb.currency, ?_, ?_⟩
          · rw [hother m' hm]
            exact hb.spent
          · rw [hother m' hm]
            exact hb.reserved
  reservations := by
    intro id'
    rw [hget]
    by_cases hid : id' = id
    · subst hid
      rw [get_set_self, if_pos rfl]
      exact .some hmir
    · rw [get_set_of_ne _ hid, if_neg hid]
      exact h.reservations id'
  owned := by
    intro id' r' hr'
    have hkeep : ∀ m', (∃ b, e.budgets.get m' = some b) →
        ∃ b, (e.budgets.set m b').get m' = some b := by
      intro m' hm'
      rw [← contains_iff] at hm' ⊢
      exact contains_set hm'
    by_cases hid : id' = id
    · subst hid
      rw [get_set_self, Option.some.injEq] at hr'
      subst hr'
      exact ⟨b', by rw [howner, get_set_self]⟩
    · rw [get_set_of_ne _ hid] at hr'
      exact hkeep _ (h.owned id' r' hr')

variable {s : TwoPaths}

section Calls

variable {env : BudgetDbEnv} {m tx : String} {amount : Int} {cur : Currency}
  {resId : Option String} {ttl : Int} {at? : Option Instant}

theorem memory_call_of_reserve {reply : Except PyError BudgetEvaluationResult}
    {e' : BudgetEngine}
    (h : s.memory.reserve env.ambient m tx amount cur resId ttl at? = (reply, e')) :
    s.memory.call (AccountingCall.reserve env m tx amount cur resId ttl at?).toCall
      = (.wrap .evaluated reply, e') := by
  rw [AccountingCall.toCall, BudgetEngine.call, h]

theorem async_call_of_reserve {reply : Except PyError (BudgetEvaluationResult × AsyncBudget)}
    (h : s.async.reserve env m tx amount cur resId ttl at? = reply) :
    s.async.call (.reserve env m tx amount cur resId ttl at?)
      = s.async.inUnitOfWork .evaluated reply := by
  rw [AsyncBudget.call, h]

theorem refused_of_rejected {available available' : Int} {reason : RejectionReason}
    {detail detail' : String} {t t' : Instant}
    (hm : s.memory.reserve env.ambient m tx amount cur resId ttl at?
      = (.ok (.rejected m amount available reason detail t), s.memory))
    (ha : s.async.reserve env m tx amount cur resId ttl at?
      = .ok (.rejected m amount available' reason detail' t', s.async))
    (hno : ¬ Reservable s.memory m (orElseText resId env.ambient.uuid) amount cur) :
    Outcome s (.reserve env m tx amount cur resId ttl at?) := by
  exact .refused (memory_call_of_reserve hm) (async_call_of_reserve ha) rfl
    (fun hgo => absurd hgo hno) fun hgo => hno hgo.1

/-- A reservation that is stored on both sides: the row, with its sums, keeps
    the relation. -/
theorem Simulates.reserve (h : Simulates e db) {id : String} {b : DailyBudget}
    {mandate : MandateRow} {r : BudgetReservation}
    {rows : Table BudgetReservationRow.reservationId} (hb : Balances db m b mandate)
    (hmandate : db.mandates.get m = some mandate)
    (hinsert : db.reservations.insert
      ⟨id, m, tx, amount, amount, BudgetState.reserved.value, env.ambient.now, none⟩ = some rows)
    (hmir : Mirrors r
      ⟨id, m, tx, amount, amount, BudgetState.reserved.value, env.ambient.now, none⟩)
    (now : Instant) :
    Simulates ⟨e.budgets.set m
        { b with reservedPaise := b.reservedPaise + amount, updatedAt := now },
      e.reservations.set id r⟩ { db with reservations := rows } := by
  refine h.update hmandate rfl (Table.get_insert hinsert) hmir hmir.owner.symm ?_ ?_
  · refine ⟨hb.named, hb.limit, hb.currency, ?_, ?_⟩
    · rw [BudgetRepository.sumReserved_insert hinsert, ← hb.spent]
      have hshare : BudgetRepository.share m [.committed, .spent]
          ⟨id, m, tx, amount, amount, BudgetState.reserved.value, env.ambient.now, none⟩ = 0 := by
        simp [BudgetRepository.share, BudgetState.value]
      rw [hshare, Int.add_zero]
    · rw [BudgetRepository.sumReserved_insert hinsert, ← hb.reserved]
      have hshare : BudgetRepository.share m [.reserved]
          ⟨id, m, tx, amount, amount, BudgetState.reserved.value, env.ambient.now, none⟩
            = amount := by
        simp [BudgetRepository.share]
      rw [hshare]
  · intro m' hne states
    rw [BudgetRepository.sumReserved_insert hinsert,
      BudgetRepository.share_of_ne (Ne.symm hne), Int.add_zero]

/-- The constraints admit a row of a stored mandate exactly when its
    transaction is stored and not reserved for yet. -/
theorem admits_iff {id : String} {mandate : MandateRow} {now : Instant}
    (hpos : 0 < amount) (hmandate : db.mandates.get m = some mandate) :
    BudgetRepository.admits db
        ⟨id, m, tx, amount, amount, BudgetState.reserved.value, now, none⟩ = true
      ↔ Unclaimed db m tx := by
  have hnonneg : decide (0 ≤ amount) = true := decide_eq_true (Int.le_of_lt hpos)
  simp only [BudgetRepository.admits, hnonneg, hmandate, Option.isSome_some, Bool.true_and,
    Bool.and_true, Bool.and_eq_true, decide_eq_true_eq, List.all_eq_true, Bool.not_eq_true',
    decide_eq_false_iff_not, Unclaimed]

/-- A reservation that every check has passed: it is stored on both sides, or
    refused for its expiry or its transaction identifier, unless the database
    does not admit the row. -/
theorem reserve_outcome_of_reservable (h : Simulates s.memory s.async.db)
    {b : DailyBudget} {mandate : MandateRow} {available : Int}
    (hbal : Balances s.async.db m b mandate) (hpos : 0 < amount)
    (hb : s.memory.budgets.get m = some b) (hrow : s.async.db.mandates.get m = some mandate)
    (hcur : b.currency = cur)
    (hid : s.memory.reservations.get (orElseText resId env.ambient.uuid) = none)
    (hget : s.async.db.reservations.get (orElseText resId env.ambient.uuid) = none)
    (hroom : b.spentPaise + b.reservedPaise + amount ≤ b.dailyLimitPaise)
    (hmemory : s.memory.reserve env.ambient m tx amount cur resId ttl at?
      = s.memory.reserveFrom env.ambient b m tx amount cur
          (orElseText resId env.ambient.uuid) ttl (env.ambient.time at?))
    (hasync : s.async.reserve env m tx amount cur resId ttl at?
      = s.async.storeReservation env m tx amount cur (orElseText resId env.ambient.uuid) ttl
          (env.ambient.time at?) b.dailyLimitPaise (b.spentPaise + b.reservedPaise) available) :
    Outcome s (.reserve env m tx amount cur resId ttl at?) := by
  have hgo : Reservable s.memory m (orElseText resId env.ambient.uuid) amount cur :=
    ⟨hpos, hid, b, hb, hcur, hroom⟩
  have hreserve := reserveBudget_eq_ok_iff.mpr
    ⟨⟨hpos, hroom⟩, (rfl : _ = { b with
      reservedPaise := b.reservedPaise + amount, updatedAt := env.ambient.now })⟩
  simp only [BudgetEngine.reserveFrom, if_neg (not_not_intro hcur), hid,
    if_neg (Int.not_lt.mpr hroom), hreserve] at hmemory
  rw [AsyncBudget.storeReservation] at hasync
  cases hadmits : BudgetRepository.admits s.async.db
      ⟨orElseText resId env.ambient.uuid, m, tx, amount, amount, BudgetState.reserved.value,
        env.ambient.now, none⟩ with
  | false =>
      rw [BudgetRepository.createReservation_of_not_admits (Int.le_of_lt hpos) hadmits] at hasync
      have hasync' : s.async.reserve env m tx amount cur resId ttl at?
        = .error (.integrityError env.constraintText) := hasync
      refine .diverged ?_ ?_
      · show (s.memory.call _).1.verdict ≠ (s.async.call _).1.verdict
        rw [AccountingCall.toCall, BudgetEngine.call, AsyncBudget.call, hmemory, hasync']
        -- whatever the engine in memory says, it is not a broken constraint
        cases addSeconds (env.ambient.time at?) ttl with
        | none =>
            intro hv
            cases hv
        | some expiresAt =>
            by_cases htx : tx = ""
            · simp only [if_pos htx]
              intro hv
              cases hv
            · simp only [if_neg htx]
              intro hv
              cases hv
      · intro hserved
        rw [(admits_iff hpos hrow).mpr (hserved hgo)] at hadmits
        cases hadmits
  | true =>
      have hserved : Served s (.reserve env m tx amount cur resId ttl at?) :=
        fun _ => (admits_iff hpos hrow).mp hadmits
      obtain ⟨rows, hinsert, hcreate⟩ :=
        BudgetRepository.createReservation_of_admits (Int.le_of_lt hpos) hget hadmits
      rw [hcreate] at hasync
      cases hadd : addSeconds (env.ambient.time at?) ttl with
      | none =>
          simp only [hadd] at hmemory hasync
          have hasync' : s.async.reserve env m tx amount cur resId ttl at?
              = .error .timestampOutOfRange := hasync
          exact .refused (memory_call_of_reserve hmemory) (async_call_of_reserve hasync') rfl
            hserved fun hgo' => hgo'.2.1 hadd
      | some expiresAt =>
          simp only [hadd] at hmemory hasync
          by_cases htx : tx = ""
          · have hbuild : BudgetReservation.build ⟨orElseText resId env.ambient.uuid, tx, m, amount,
                cur, .reserved, env.ambient.time at?, expiresAt, env.ambient.time at?⟩
                = .error (.validationError "BudgetReservation" ["transaction_id"]) :=
              BudgetReservation.build_of_no_transaction htx hbal.named (Int.le_of_lt hpos)
            simp only [if_pos htx] at hmemory
            simp only [hbuild, bind, Except.bind] at hasync
            exact .refused (memory_call_of_reserve hmemory) (async_call_of_reserve hasync) rfl
              hserved fun hgo' => hgo'.2.2 htx
          · let r : BudgetReservation := ⟨orElseText resId env.ambient.uuid, tx, m, amount,
              cur, .reserved, env.ambient.time at?, expiresAt, env.ambient.time at?⟩
            have hbuild : BudgetReservation.build r = .ok r :=
              BudgetReservation.build_of_valid htx hbal.named (Int.le_of_lt hpos)
            obtain ⟨hspent, hreserved⟩ := h.amounts_nonneg hbal
            let c : DailyBudget := ⟨env.budgetUuid, m, cur, dateText (env.ambient.time at?),
              b.dailyLimitPaise, 0, b.spentPaise + b.reservedPaise + amount, env.ambient.now,
              env.ambient.now⟩
            have hbudget : DailyBudget.build c = .ok c := by
              refine DailyBudget.build_of_valid hbal.named (Int.le_refl 0) ?_ ?_
              · show 0 ≤ b.spentPaise + b.reservedPaise + amount
                omega
              · show 0 + (b.spentPaise + b.reservedPaise + amount) ≤ b.dailyLimitPaise
                omega
            simp only [if_neg htx] at hmemory
            simp only [r, c] at hbuild hbudget
            simp only [hbuild, hbudget, bind, Except.bind] at hasync
            have hmir : Mirrors r ⟨orElseText resId env.ambient.uuid, m, tx, amount, amount,
                BudgetState.reserved.value, env.ambient.now, none⟩ :=
              ⟨rfl, rfl, rfl, rfl, rfl, hpos, htx, Or.inl rfl⟩
            have hsim := h.reserve hbal hrow hinsert hmir env.ambient.now
            refine .reserved rfl (memory_call_of_reserve hmemory) (async_call_of_reserve hasync)
              ⟨rfl, rfl⟩ hsim hb rfl rfl ?_ rfl rfl ?_ hserved
            · exact ⟨hcur, rfl, rfl, rfl⟩
            · refine ⟨hgo, ?_, htx⟩
              rw [hadd]
              exact Option.some_ne_none expiresAt

variable (env m tx amount cur resId ttl at?) in
/-- **What a reservation does on both paths.** -/
theorem reserve_outcome (h : Simulates s.memory s.async.db) :
    Outcome s (.reserve env m tx amount cur resId ttl at?) := by
  by_cases hpos : amount ≤ 0
  · refine refused_of_rejected (by rw [BudgetEngine.reserve, if_pos hpos])
      (by rw [AsyncBudget.reserve, if_pos hpos]) ?_
    rintro ⟨hamount, -⟩
    omega
  cases hb : s.memory.budgets.get m with
  | none =>
      have hrow := h.mandate_of_none hb
      refine refused_of_rejected (by simp only [BudgetEngine.reserve, if_neg hpos, hb]; rfl)
        (by simp only [AsyncBudget.reserve, if_neg hpos,
          BudgetRepository.lockMandateBudgetForUpdate, hrow]; rfl) ?_
      rintro ⟨-, -, b, hb', -⟩
      rw [hb] at hb'
      cases hb'
  | some b =>
      obtain ⟨mandate, hrow, hbal⟩ := h.mandate_of_some hb
      have hmemory : s.memory.reserve env.ambient m tx amount cur resId ttl at?
          = s.memory.reserveFrom env.ambient b m tx amount cur
              (orElseText resId env.ambient.uuid) ttl (env.ambient.time at?) := by
        simp only [BudgetEngine.reserve, if_neg hpos, hb]
      have hasync : s.async.reserve env m tx amount cur resId ttl at?
          = s.async.reserveFrom env mandate m tx amount cur
              (orElseText resId env.ambient.uuid) ttl (env.ambient.time at?) := by
        simp only [AsyncBudget.reserve, if_neg hpos,
          BudgetRepository.lockMandateBudgetForUpdate, hrow]
      have hparse : parseCurrency mandate.currency = .ok b.currency := by
        rw [hbal.currency, parseCurrency_value]
      by_cases hcur : b.currency ≠ cur
      · refine refused_of_rejected
          (by rw [hmemory]; simp only [BudgetEngine.reserveFrom, if_pos hcur]; rfl)
          (by rw [hasync]; simp only [AsyncBudget.reserveFrom, hparse, if_pos hcur]; rfl) ?_
        rintro ⟨-, -, b', hb', hcur', -⟩
        obtain rfl := Option.some.inj (hb.symm.trans hb')
        exact hcur hcur'
      cases hid : s.memory.reservations.get (orElseText resId env.ambient.uuid) with
      | some r =>
          obtain ⟨row, hget, -⟩ := h.row_of_some hid
          refine refused_of_rejected
            (by rw [hmemory]; simp only [BudgetEngine.reserveFrom, if_neg hcur, hid]; rfl)
            (by rw [hasync]; simp only [AsyncBudget.reserveFrom, hparse, if_neg hcur,
                  BudgetRepository.getReservation, hget]; rfl) ?_
          rintro ⟨-, hfree, -⟩
          rw [hid] at hfree
          cases hfree
      | none =>
          have hget := h.row_of_none hid
          have htotal : BudgetRepository.calculateReservedTotal m s.async.db
              = b.spentPaise + b.reservedPaise := by
            rw [BudgetRepository.calculateReservedTotal_eq, hbal.spent, hbal.reserved]
          by_cases hroom : b.spentPaise + b.reservedPaise + amount > b.dailyLimitPaise
          · refine refused_of_rejected
              (by rw [hmemory]
                  simp only [BudgetEngine.reserveFrom, if_neg hcur, hid, if_pos hroom]
                  rfl)
              (by rw [hasync]
                  simp only [AsyncBudget.reserveFrom, hparse, if_neg hcur,
                    BudgetRepository.getReservation, hget, htotal, hbal.limit, if_pos hroom]
                  rfl) ?_
            rintro ⟨-, -, b', hb', -, hroom'⟩
            obtain rfl := Option.some.inj (hb.symm.trans hb')
            omega
          have hstore : s.async.reserve env m tx amount cur resId ttl at?
              = s.async.storeReservation env m tx amount cur (orElseText resId env.ambient.uuid)
                  ttl (env.ambient.time at?) b.dailyLimitPaise (b.spentPaise + b.reservedPaise)
                  (max 0 (b.dailyLimitPaise - (b.spentPaise + b.reservedPaise))) := by
            rw [hasync]
            simp only [AsyncBudget.reserveFrom, hparse, if_neg hcur,
              BudgetRepository.getReservation, hget, htotal, hbal.limit, if_neg hroom]
          exact reserve_outcome_of_reservable h hbal (Int.not_le.mp hpos) hb hrow
            (Decidable.not_not.mp hcur) hid hget (Int.not_lt.mp hroom) hmemory hstore

end Calls

/-! ## Commits and releases -/

/-- Moving a reserved row to COMMITTED or RELEASED, and its amount in the
    budget, keeps the relation. -/
theorem Simulates.resolve (h : Simulates e db) {m id : String} {b b' : DailyBudget}
    {mandate : MandateRow} {r r' : BudgetReservation} {row : BudgetReservationRow}
    {target : BudgetState} {now : Instant} (hbal : Balances db m b mandate)
    (hmandate : db.mandates.get m = some mandate) (hmir : Mirrors r row)
    (hget : BudgetRepository.getReservation id db = some row) (howner : r.mandateId = m)
    (hstate : r.state = .reserved) (htarget : target = .committed ∨ target = .released)
    (hr' : r'.mandateId = r.mandateId ∧ r'.transactionId = r.transactionId
      ∧ r'.amountPaise = r.amountPaise ∧ r'.state = target)
    (hlimit : b'.dailyLimitPaise = b.dailyLimitPaise) (hcurrency : b'.currency = b.currency)
    (hspent : b'.spentPaise
      = b.spentPaise + if target = .committed then r.amountPaise else 0)
    (hreserved : b'.reservedPaise = b.reservedPaise - r.amountPaise) :
    Simulates ⟨e.budgets.set m b', e.reservations.set id r'⟩
      (BudgetRepository.resolve now id target db) := by
  have hrow : row.mandateId = m := hmir.owner.trans howner
  have hbefore := BudgetRepository.share_reserved (hmir.state.trans (congrArg _ hstate))
  have hafter := BudgetRepository.share_resolved htarget now row
  have hgets : ∀ id', (BudgetRepository.resolve now id target db).reservations.get id'
      = if id' = id then some (BudgetRepository.resolved now target row)
        else db.reservations.get id' := by
    intro id'
    by_cases hid : id' = id
    · rw [if_pos hid, hid]
      exact Table.get_modify_self (BudgetRepository.resolved_reservationId now target) hget
    · rw [if_neg hid]
      exact Table.get_modify_of_ne (BudgetRepository.resolved_reservationId now target) hid
  refine h.update hmandate rfl hgets ?_ (hr'.1.trans howner) ?_ ?_
  · refine ⟨hmir.owner.trans hr'.1.symm, hmir.transaction.trans hr'.2.1.symm,
      hmir.requested.trans hr'.2.2.1.symm, hmir.reserved.trans hr'.2.2.1.symm, ?_, ?_, ?_, ?_⟩
    · rw [hr'.2.2.2]
      rfl
    · rw [hr'.2.2.1]
      exact hmir.positive
    · rw [hr'.2.1]
      exact hmir.ordered
    · rw [hr'.2.2.2]
      exact Or.inr htarget
  · refine ⟨hbal.named, hbal.limit.trans hlimit.symm, ?_, ?_, ?_⟩
    · rw [hcurrency]
      exact hbal.currency
    · have hsum := BudgetRepository.sumReserved_resolve hget now target m [.committed, .spent]
      rw [← hrow, hbefore.2, hafter.2, hmir.reserved, hrow] at hsum
      rw [hspent, hbal.spent]
      omega
    · have hsum := BudgetRepository.sumReserved_resolve hget now target m [.reserved]
      rw [← hrow, hbefore.1, hafter.1, hmir.reserved, hrow] at hsum
      rw [hreserved, hbal.reserved]
      omega
  · intro m' hne states
    have hsum := BudgetRepository.sumReserved_resolve hget now target m' states
    rw [BudgetRepository.share_of_ne (by rw [hrow]; exact Ne.symm hne),
      BudgetRepository.share_of_ne
        (show (BudgetRepository.resolved now target row).mandateId ≠ m' by
          rw [BudgetRepository.resolved, hrow]; exact Ne.symm hne)] at hsum
    omega

/-- What the two bodies of `commit` and `release` have in common: they refuse
    the same states with the same texts, and resolve a reserved one. -/
structure SameResolution (refusal : String → BudgetState → Option String)
    (refusal' : String → String → Option String)
    (move : Instant → DailyBudget → Int → Except PyError DailyBudget)
    (move' : BudgetDbEnv → String → BudgetTables →
      Except PyError (BudgetReservationRow × BudgetTables)) (target : BudgetState) : Prop where
  settles  : target = .committed ∨ target = .released
  refusals : ∀ id st, st = .reserved ∨ st = .committed ∨ st = .released →
    refusal' id st.value = refusal id st
  reserved : ∀ id st, st = .reserved ∨ st = .committed ∨ st = .released →
    (refusal id st = none ↔ st = .reserved)
  moves    : ∀ now b paise, paise ≤ b.reservedPaise → ∃ b', move now b paise = .ok b'
    ∧ b'.dailyLimitPaise = b.dailyLimitPaise ∧ b'.currency = b.currency
    ∧ b'.spentPaise = b.spentPaise + (if target = .committed then paise else 0)
    ∧ b'.reservedPaise = b.reservedPaise - paise
  moves'   : ∀ env id db row, BudgetRepository.getReservation id db = some row →
    row.state = BudgetState.reserved.value →
      move' env id db = .ok (BudgetRepository.resolved env.ambient.now target row,
        BudgetRepository.resolve env.ambient.now id target db)

theorem sameResolution_commit :
    SameResolution BudgetEngine.commitRefusal AsyncBudget.commitRefusal commitReservation
      BudgetRepository.commitReservation .committed where
  settles := Or.inl rfl
  refusals := by
    rintro id st (rfl | rfl | rfl)
    · rfl
    · rfl
    · rfl
  reserved := by
    intro id st _
    exact BudgetEngine.commitRefusal_eq_none_iff
  moves := by
    intro now b paise hle
    exact ⟨_, commitReservation_eq_ok_iff.mpr ⟨hle, rfl⟩, rfl, rfl, rfl, rfl⟩
  moves' := by
    intro env id db row hget hstate
    simp only [BudgetRepository.commitReservation, hget, if_neg (not_not_intro hstate)]

theorem sameResolution_release :
    SameResolution BudgetEngine.releaseRefusal AsyncBudget.releaseRefusal releaseReservation
      BudgetRepository.releaseReservation .released where
  settles := Or.inr rfl
  refusals := by
    rintro id st (rfl | rfl | rfl)
    · rfl
    · rfl
    · rfl
  reserved := by
    intro id st hlive
    rw [BudgetEngine.releaseRefusal_eq_none_iff]
    refine ⟨?_, Or.inl⟩
    rintro (hst | rfl)
    · exact hst
    · simp at hlive
  moves := by
    intro now b paise hle
    exact ⟨_, releaseReservation_eq_ok_iff.mpr ⟨hle, rfl⟩, rfl, rfl, (Int.add_zero _).symm, rfl⟩
  moves' := by
    intro env id db row hget hstate
    have hreleased : row.state ≠ BudgetState.released.value := by
      rw [hstate]
      decide
    simp only [BudgetRepository.releaseReservation, hget, if_neg hreleased]
    exact if_neg fun hne => hne.1 hstate

section Resolutions

variable {refusal : String → BudgetState → Option String}
  {refusal' : String → String → Option String}
  {move : Instant → DailyBudget → Int → Except PyError DailyBudget}
  {move' : BudgetDbEnv → String → BudgetTables →
    Except PyError (BudgetReservationRow × BudgetTables)} {target : BudgetState}
  {env : BudgetDbEnv} {m id : String} {at? : Option Instant} {c : AccountingCall}

theorem async_resolve_eq (hsame : SameResolution refusal refusal' move move' target)
    {a : AsyncBudget} {row : BudgetReservationRow}
    (hget : a.db.reservations.get id = some row) (howner : row.mandateId = m)
    (hstored : row.state = BudgetState.reserved.value) :
    a.resolve refusal' move' target env m id at?
      = match addSeconds (env.ambient.time at?) 300 with
        | none => .error .timestampOutOfRange
        | some expiresAt =>
            (BudgetReservation.build ⟨row.reservationId, row.transactionId, row.mandateId,
              row.requestedPaise, .inr, target, row.createdAt, expiresAt,
              env.ambient.time at?⟩).bind fun reservation =>
                .ok (reservation,
                  { db := BudgetRepository.resolve env.ambient.now id target a.db
                    cache := { a.cache with
                      reservations := a.cache.reservations.set id reservation } }) := by
  have hrefusal : refusal' id row.state = none := by
    rw [hstored, hsame.refusals id _ (Or.inl rfl)]
    exact (hsame.reserved id _ (Or.inl rfl)).mpr rfl
  have hmoved := hsame.moves' env id a.db row hget hstored
  subst howner
  rw [AsyncBudget.resolve, BudgetRepository.getReservation, hget]
  simp only [ne_eq, not_true_eq_false, if_false, hrefusal, hmoved]
  rfl

theorem resolve_outcome_of_resolvable (h : Simulates s.memory s.async.db)
    (hsame : SameResolution refusal refusal' move move' target)
    (hc : c = .commit env m id at? ∨ c = .release env m id at?)
    (hmemory : s.memory.call c.toCall
      = (.wrap .resolved (s.memory.resolve refusal move target env.ambient m id at?).1,
          (s.memory.resolve refusal move target env.ambient m id at?).2))
    (hasync : s.async.call c
      = s.async.inUnitOfWork .resolved (s.async.resolve refusal' move' target env m id at?))
    (hserved : Served s c
      ↔ ∀ r, Resolvable s.memory m id r → addSeconds (env.ambient.time at?) 300 ≠ none)
    {r : BudgetReservation} (hr : Resolvable s.memory m id r) : Outcome s c := by
  obtain ⟨hid, howner, hstate⟩ := hr
  obtain ⟨row, hget, hmir⟩ := h.row_of_some hid
  obtain ⟨b, hb⟩ := h.owned id r hid
  rw [howner] at hb
  obtain ⟨mandate, hrow, hbal⟩ := h.mandate_of_some hb
  have hstored : row.state = BudgetState.reserved.value := by rw [hmir.state, hstate]
  -- the amount is part of what the mandate has reserved
  have hle : r.amountPaise ≤ b.reservedPaise := by
    have hshare := BudgetRepository.share_le_sumReserved h.nonneg hget m [.reserved]
    rw [← hmir.owner.trans howner, (BudgetRepository.share_reserved hstored).1, hmir.reserved,
      hmir.owner.trans howner, ← hbal.reserved] at hshare
    exact hshare
  have href : refusal id r.state = none := (hsame.reserved id _ hmir.live).mpr hstate
  obtain ⟨b', hmove, hlimit, hcurrency, hspent, hreserved⟩ :=
    hsame.moves env.ambient.now b r.amountPaise hle
  let r₁ : BudgetReservation := { r with state := target, updatedAt := env.ambient.time at? }
  have hmem : s.memory.resolve refusal move target env.ambient m id at?
      = (.ok r₁, ⟨s.memory.budgets.set m b', s.memory.reservations.set id r₁⟩) := by
    rw [BudgetEngine.resolve, hid]
    simp only [if_neg (not_not_intro howner), href, hb, hmove]
    rfl
  rw [hmem] at hmemory
  rw [async_resolve_eq hsame hget (hmir.owner.trans howner) hstored] at hasync
  cases hadd : addSeconds (env.ambient.time at?) 300 with
  | none =>
      simp only [hadd] at hasync
      refine .diverged ?_ fun hs => hserved.mp hs r ⟨hid, howner, hstate⟩ hadd
      show (s.memory.call c.toCall).1.verdict ≠ (s.async.call c).1.verdict
      rw [hmemory, hasync]
      intro hv
      cases hv
  | some expiresAt =>
      let r₂ : BudgetReservation := ⟨row.reservationId, row.transactionId, row.mandateId,
        row.requestedPaise, .inr, target, row.createdAt, expiresAt, env.ambient.time at?⟩
      have hbuild : BudgetReservation.build r₂ = .ok r₂ := by
        refine BudgetReservation.build_of_valid ?_ ?_ ?_
        · show row.transactionId ≠ ""
          rw [hmir.transaction]
          exact hmir.ordered
        · show row.mandateId ≠ ""
          rw [hmir.owner, howner]
          exact hbal.named
        · show 0 ≤ row.requestedPaise
          rw [hmir.requested]
          exact Int.le_of_lt hmir.positive
      simp only [hadd] at hasync
      rw [show BudgetReservation.build _ = _ from hbuild] at hasync
      have hsim : Simulates ⟨s.memory.budgets.set m b', s.memory.reservations.set id r₁⟩
          (BudgetRepository.resolve env.ambient.now id target s.async.db) :=
        h.resolve hbal hrow hmir hget howner hstate hsame.settles ⟨rfl, rfl, rfl, rfl⟩ hlimit
          hcurrency hspent hreserved
      refine .resolved hc hmemory hasync hsim ⟨hid, howner, hstate⟩ hb ?_ ⟨rfl, rfl⟩
        (hserved.mpr fun r' _ => ?_)
      · rw [hreserved]
        have hpos := hmir.positive
        omega
      · rw [hadd]
        exact Option.some_ne_none expiresAt

/-- **What a commit or a release does on both paths.** -/
theorem resolve_outcome (h : Simulates s.memory s.async.db)
    (hsame : SameResolution refusal refusal' move move' target)
    (hc : c = .commit env m id at? ∨ c = .release env m id at?)
    (hmemory : s.memory.call c.toCall
      = (.wrap .resolved (s.memory.resolve refusal move target env.ambient m id at?).1,
          (s.memory.resolve refusal move target env.ambient m id at?).2))
    (hasync : s.async.call c
      = s.async.inUnitOfWork .resolved (s.async.resolve refusal' move' target env m id at?)) :
    Outcome s c := by
  have hserved : Served s c
      ↔ ∀ r, Resolvable s.memory m id r → addSeconds (env.ambient.time at?) 300 ≠ none := by
    rcases hc with rfl | rfl <;> exact Iff.rfl
  have hproceeds : Proceeds s.memory c ↔ ∃ r, Resolvable s.memory m id r := by
    rcases hc with rfl | rfl <;> exact Iff.rfl
  by_cases hr : ∃ r, Resolvable s.memory m id r
  · obtain ⟨r, hr⟩ := hr
    exact resolve_outcome_of_resolvable h hsame hc hmemory hasync hserved hr
  -- there is nothing to resolve, and both refuse with the same text
  have hrefused : ∀ err : PyError,
      s.memory.resolve refusal move target env.ambient m id at? = (.error err, s.memory) →
      s.async.resolve refusal' move' target env m id at? = .error err → Outcome s c := by
    intro err hm ha
    rw [hm] at hmemory
    rw [ha] at hasync
    exact .refused hmemory hasync rfl (hserved.mpr fun r hr' => absurd ⟨r, hr'⟩ hr)
      (fun hgo => hr (hproceeds.mp hgo))
  cases hid : s.memory.reservations.get id with
  | none =>
      have hget := h.row_of_none hid
      refine hrefused (.valueError s!"Reservation {id} not found.") ?_ ?_
      · rw [BudgetEngine.resolve, hid]
      · rw [AsyncBudget.resolve, BudgetRepository.getReservation, hget]
  | some r =>
      obtain ⟨row, hget, hmir⟩ := h.row_of_some hid
      by_cases hm : r.mandateId ≠ m
      · refine hrefused (.valueError
          (s!"Reservation {id} belongs to mandate {r.mandateId}, " ++ s!"not {m}.")) ?_ ?_
        · rw [BudgetEngine.resolve, hid]
          exact if_pos hm
        · rw [AsyncBudget.resolve, BudgetRepository.getReservation, hget]
          simp only [hmir.owner, if_pos hm]
      have hrefusal := hsame.refusals id r.state hmir.live
      cases href : refusal id r.state with
      | some message =>
          refine hrefused (.valueError message) ?_ ?_
          · rw [BudgetEngine.resolve, hid]
            simp only [if_neg hm, href]
          · rw [AsyncBudget.resolve, BudgetRepository.getReservation, hget]
            simp only [hmir.owner, if_neg hm, hmir.state, hrefusal, href]
      | none =>
          have hstate : r.state = .reserved := (hsame.reserved id _ hmir.live).mp href
          exact absurd ⟨r, hid, Decidable.not_not.mp hm, hstate⟩ hr

end Resolutions

/-- **What one call does on both paths.** -/
theorem call_outcome (h : Simulates s.memory s.async.db) (c : AccountingCall) :
    Outcome s c := by
  cases c with
  | reserve env m tx amount cur resId ttl at? =>
      exact reserve_outcome env m tx amount cur resId ttl at? h
  | commit env m id at? =>
      exact resolve_outcome h sameResolution_commit (Or.inl rfl) rfl rfl
  | release env m id at? =>
      exact resolve_outcome h sameResolution_release (Or.inr rfl) rfl rfl

/-! ## Runs -/

abbrev PathStep := Step TwoPaths AccountingCall (BudgetReply × BudgetReply)

/-- Both paths give the same decision for the same reason, and afterwards have
    the same totals and currency for every mandate. -/
def Agrees (c : PathStep) : Prop :=
  c.out.1.verdict = c.out.2.verdict
    ∧ ∀ m, c.post.memory.totals m = c.post.async.db.totals m

/-- The budgets and reservations that the database path rebuilds in memory have
    the columns and currencies of those of the engine. -/
structure CacheAgrees (s : TwoPaths) : Prop where
  budgets      : ∀ m c, s.async.cache.budgets.get m = some c →
    ∃ b, s.memory.budgets.get m = some b ∧ c.spentPaise = b.spentPaise
      ∧ c.reservedPaise = b.reservedPaise ∧ c.currency = b.currency
  reservations : ∀ id c, s.async.cache.reservations.get id = some c →
    ∃ r, s.memory.reservations.get id = some r ∧ c.currency = r.currency

/-- The rebuilt objects can follow: nothing is spent when a budget is rebuilt,
    and what is resolved is in INR and of a mandate without a rebuilt budget. -/
def CacheServed (s : TwoPaths) : AccountingCall → Prop
  | .reserve env m tx amount cur resId ttl at? =>
      Proceeds s.memory (.reserve env m tx amount cur resId ttl at?) →
        ∀ b, s.memory.budgets.get m = some b → b.spentPaise = 0
  | .commit _ m id _ | .release _ m id _ =>
      ∀ r, Resolvable s.memory m id r →
        s.async.cache.budgets.get m = none ∧ r.currency = .inr

theorem call_eq {c : AccountingCall} {reply reply' : BudgetReply} {e' : BudgetEngine}
    {a' : AsyncBudget} (hm : s.memory.call c.toCall = (reply, e'))
    (ha : s.async.call c = (reply', a')) : s.call c = ((reply, reply'), ⟨e', a'⟩) := by
  rw [TwoPaths.call, hm, ha]

/-- **A step of related paths agrees exactly when the database can follow**,
    and then the paths stay related. -/
theorem agrees_iff (h : Simulates s.memory s.async.db) (c : AccountingCall) :
    (Agrees (stepAt TwoPaths.call s c) ↔ Served s c)
      ∧ (Served s c → Simulates (s.call c).2.memory (s.call c).2.async.db) := by
  rw [Agrees, stepAt_out, stepAt_post]
  cases call_outcome h c with
  | refused hm ha hverdict hserved =>
      rw [call_eq hm ha]
      exact ⟨⟨fun _ => hserved, fun _ => ⟨hverdict, h.totals_eq⟩⟩, fun _ => h⟩
  | reserved hc hm ha hvalid hsim hb hspent hreserved hcurrency hcspent hcreserved hgo hserved =>
      rw [call_eq hm ha]
      refine ⟨⟨fun _ => hserved, fun _ => ⟨?_, hsim.totals_eq⟩⟩, fun _ => hsim⟩
      show BudgetReply.verdict _ = BudgetReply.verdict _
      rw [BudgetReply.verdict, BudgetReply.verdict, hvalid.1, hvalid.2]
      rfl
  | resolved hc hm ha hsim hr hb hreserved hcurrency hserved =>
      rw [call_eq hm ha]
      exact ⟨⟨fun _ => hserved, fun _ => ⟨rfl, hsim.totals_eq⟩⟩, fun _ => hsim⟩
  | diverged hverdict hserved =>
      exact ⟨⟨fun hagree => absurd hagree.1 hverdict, fun hs => absurd hs hserved⟩,
        fun hs => absurd hs hserved⟩

theorem cacheAgrees_iff (h : Simulates s.memory s.async.db) (hcache : CacheAgrees s)
    {c : AccountingCall} (hserved : Served s c) :
    CacheAgrees (s.call c).2 ↔ CacheServed s c := by
  cases call_outcome h c with
  | diverged hverdict hno => exact absurd hserved hno
  | refused hm ha hverdict hserved hno =>
      rw [call_eq hm ha]
      refine ⟨fun _ => ?_, fun _ => hcache⟩
      cases c with
      | reserve env m tx amount cur resId ttl at? => exact fun hgo => absurd hgo hno
      | commit env m id at? => exact fun r hr => absurd ⟨r, hr⟩ hno
      | release env m id at? => exact fun r hr => absurd ⟨r, hr⟩ hno
  | @reserved env m tx amount cur resId ttl at? result result' b b' c' r r' db' hc hm ha hvalid
      hsim hb hspent hreserved hcurrency hcspent hcreserved hgo =>
      rw [call_eq hm ha]
      subst hc
      constructor
      · intro hagree hgo' b₀ hb₀
        obtain rfl := Option.some.inj (hb.symm.trans hb₀)
        obtain ⟨b₁, hb₁, hs, -⟩ := hagree.budgets m c' (get_set_self ..)
        obtain rfl : b' = b₁ := by
          have hself : (s.memory.budgets.set m b').get m = some b₁ := hb₁
          rwa [get_set_self, Option.some.injEq] at hself
        omega
      · intro hno
        have hzero : b.spentPaise = 0 := hno hgo b hb
        have hrebuilt : c'.spentPaise = b'.spentPaise ∧ c'.reservedPaise = b'.reservedPaise
            ∧ c'.currency = b'.currency :=
          ⟨by omega, by omega, hcurrency.2.2.1.trans hcurrency.1.symm⟩
        exact ⟨related_set hcache.budgets hrebuilt, related_set hcache.reservations
          (hcurrency.2.2.2.trans hcurrency.2.1.symm)⟩
  | @resolved env m id at? b b' r r₁ r₂ db' hc hm ha hsim hr hb hreserved hcurrency =>
      rw [call_eq hm ha]
      have hiff : CacheServed s c ↔ ∀ r, Resolvable s.memory m id r →
          s.async.cache.budgets.get m = none ∧ r.currency = .inr := by
        rcases hc with rfl | rfl <;> exact Iff.rfl
      rw [hiff]
      constructor
      · intro hagree r₀ hr₀
        obtain rfl : r = r₀ := Option.some.inj (hr.1.symm.trans hr₀.1)
        constructor
        · cases hc₀ : s.async.cache.budgets.get m with
          | none => rfl
          | some c₀ =>
              -- the rebuilt budget agreed before, and the column has moved since
              obtain ⟨b₀, hb₀, -, hold, -⟩ := hcache.budgets m c₀ hc₀
              obtain rfl := Option.some.inj (hb.symm.trans hb₀)
              obtain ⟨b₃, hb₃, -, hnew, -⟩ := hagree.budgets m c₀ hc₀
              obtain rfl : b' = b₃ := by
                have hself : (s.memory.budgets.set m b').get m = some b₃ := hb₃
                rwa [get_set_self, Option.some.injEq] at hself
              omega
        · obtain ⟨r₃, hr₃, hcur⟩ := hagree.reservations id r₂ (get_set_self ..)
          obtain rfl : r₁ = r₃ := by
            have hself : (s.memory.reservations.set id r₁).get id = some r₃ := hr₃
            rwa [get_set_self, Option.some.injEq] at hself
          rw [← hcurrency.1, ← hcur, hcurrency.2]
      · intro hno
        obtain ⟨hnone, hinr⟩ := hno r hr
        refine ⟨?_, ?_⟩
        · intro m₁ c₁ hc₁
          have hne : m₁ ≠ m := by
            rintro rfl
            have hget : s.async.cache.budgets.get m₁ = some c₁ := hc₁
            rw [hnone] at hget
            cases hget
          show ∃ b₁, (s.memory.budgets.set m b').get m₁ = some b₁ ∧ _
          rw [get_set_of_ne _ hne]
          exact hcache.budgets m₁ c₁ hc₁
        · have hrebuilt : r₂.currency = r₁.currency := by rw [hcurrency.2, hcurrency.1, hinr]
          exact related_set hcache.reservations hrebuilt

/-- Where the two paths start: the same mandates with the same limits and
    currencies, nothing reserved or spent, and nothing rebuilt. -/
structure Starts (s : TwoPaths) : Prop where
  mandates     : ∀ m, Option.Rel (fun (b : DailyBudget) (row : MandateRow) => m ≠ ""
      ∧ row.dailyBudgetPaise = b.dailyLimitPaise ∧ row.currency = b.currency.value
      ∧ b.spentPaise = 0 ∧ b.reservedPaise = 0)
    (s.memory.budgets.get m) (s.async.db.mandates.get m)
  noReservations : s.memory.reservations = empty
  noRows       : s.async.db.reservations = Table.empty
  noCache      : s.async.cache = BudgetEngine.new

theorem Starts.simulates (h : Starts s) : Simulates s.memory s.async.db where
  mandates := by
    intro m
    have hm := h.mandates m
    generalize s.memory.budgets.get m = ob at hm ⊢
    generalize s.async.db.mandates.get m = orow at hm ⊢
    cases hm with
    | none => exact .none
    | some hstart =>
        obtain ⟨hnamed, hlimit, hcurrency, hspent, hreserved⟩ := hstart
        refine .some ⟨hnamed, hlimit, hcurrency, ?_, ?_⟩
        · rw [hspent, BudgetRepository.sumReserved, h.noRows]
          rfl
        · rw [hreserved, BudgetRepository.sumReserved, h.noRows]
          rfl
  reservations := by
    intro id
    rw [h.noReservations, h.noRows]
    exact .none
  owned := by
    intro id r hr
    rw [h.noReservations] at hr
    cases hr

theorem Starts.cacheAgrees (h : Starts s) : CacheAgrees s where
  budgets := by
    intro m c hc
    rw [h.noCache] at hc
    cases hc
  reservations := by
    intro id c hc
    rw [h.noCache] at hc
    cases hc

/-- **The two budget paths agree over a run exactly as long as the database can
    follow**, and the objects it rebuilds agree as well exactly as long as they
    can follow, too. -/
theorem paths_agree_iff {s : TwoPaths} (h : Starts s) (calls : List AccountingCall) :
    ((∀ c ∈ steps TwoPaths.call s calls, Agrees c)
        ↔ ∀ c ∈ steps TwoPaths.call s calls, Served c.pre c.act)
    ∧ ((∀ c ∈ steps TwoPaths.call s calls, Agrees c ∧ CacheAgrees c.post)
        ↔ ∀ c ∈ steps TwoPaths.call s calls, Served c.pre c.act ∧ CacheServed c.pre c.act) := by
  constructor
  · refine forall_steps_iff (I := fun s => Simulates s.memory s.async.db) ?_ ?_ h.simulates calls
    · intro s c hs
      exact (agrees_iff hs c).1
    · intro s c hs hserved
      exact (agrees_iff hs c).2 hserved
  · refine forall_steps_iff (I := fun s => Simulates s.memory s.async.db ∧ CacheAgrees s) ?_ ?_
      ⟨h.simulates, h.cacheAgrees⟩ calls
    · rintro s c ⟨hs, hcache⟩
      rw [(agrees_iff hs c).1]
      refine and_congr_right ?_
      intro hserved
      exact cacheAgrees_iff hs hcache hserved
    · rintro s c ⟨hs, hcache⟩ ⟨hserved, hcserved⟩
      exact ⟨(agrees_iff hs c).2 hserved, (cacheAgrees_iff hs hcache hserved).mpr hcserved⟩

/-- One mandate on both paths, and two stored transactions. -/
def oneMandate : TwoPaths where
  memory := exec BudgetEngine.call BudgetEngine.new
    [.register ⟨1709210096000000, "budget-1"⟩ "mandate-1" 1000 .inr none 0 0]
  async :=
    { db :=
        { mandates := Table.singleton ⟨"mandate-1", 1000, "INR"⟩
          transactions := ["tx-1", "tx-2"]
          reservations := Table.empty }
      cache := BudgetEngine.new }

theorem oneMandate_starts : Starts oneMandate where
  mandates := by
    intro m
    by_cases hm : m = "mandate-1"
    · subst hm
      exact .some ⟨by decide, rfl, rfl, rfl, rfl⟩
    · have hmemory : oneMandate.memory.budgets.get m = none := get_set_of_ne _ hm _
      have hrow : oneMandate.async.db.mandates.get m = none := by
        refine Table.get_eq_none_iff.mpr ?_
        rintro hmem
        exact hm (List.mem_singleton.mp hmem)
      rw [hmemory, hrow]
      exact .none
  noReservations := rfl
  noRows := rfl
  noCache := rfl

/-- A reservation that is released and made again for the same transaction. -/
def reservedAgain : List AccountingCall :=
  let env : BudgetDbEnv := ⟨⟨1709210096000000, "uuid-1"⟩, "budget-2", "unique violation"⟩
  [.reserve env "mandate-1" "tx-1" 400 .inr (some "res-1") 300 none,
    .release env "mandate-1" "res-1" none,
    .reserve env "mandate-1" "tx-1" 400 .inr (some "res-2") 300 none]

/-- A reservation that is committed. -/
def reservedAndSpent : List AccountingCall :=
  let env : BudgetDbEnv := ⟨⟨1709210096000000, "uuid-1"⟩, "budget-2", "unique violation"⟩
  [.reserve env "mandate-1" "tx-1" 400 .inr (some "res-1") 300 none,
    .commit env "mandate-1" "res-1" none]

theorem paths_agree_iff_reservedAndSpent :
    ((∀ c ∈ steps TwoPaths.call oneMandate reservedAndSpent, Agrees c)
        ↔ ∀ c ∈ steps TwoPaths.call oneMandate reservedAndSpent, Served c.pre c.act)
    ∧ ((∀ c ∈ steps TwoPaths.call oneMandate reservedAndSpent, Agrees c ∧ CacheAgrees c.post)
        ↔ ∀ c ∈ steps TwoPaths.call oneMandate reservedAndSpent,
            Served c.pre c.act ∧ CacheServed c.pre c.act) :=
  paths_agree_iff oneMandate_starts reservedAndSpent

/-- The decisions of a run on both paths. -/
def verdicts (calls : List AccountingCall) : List (Verdict × Verdict) :=
  (steps TwoPaths.call oneMandate calls).map fun c => (c.out.1.verdict, c.out.2.verdict)

theorem reservedAgain_diverges :
    verdicts reservedAgain = [(.accepted, .accepted), (.accepted, .accepted),
      (.accepted, .raised (.integrityError "unique violation"))]
    ∧ (¬ ∀ c ∈ steps TwoPaths.call oneMandate reservedAgain, Agrees c)
    ∧ (exec TwoPaths.call oneMandate reservedAndSpent).memory.totals "mandate-1"
        = some (400, 0, "INR")
    ∧ (exec TwoPaths.call oneMandate reservedAndSpent).async.cache.totals "mandate-1"
        = some (0, 400, "INR") := by
  have hverdicts : verdicts reservedAgain = [(.accepted, .accepted), (.accepted, .accepted),
      (.accepted, .raised (.integrityError "unique violation"))] := by decide +kernel
  refine ⟨hverdicts, ?_, by decide +kernel, by decide +kernel⟩
  intro hagree
  have hsame : ∀ v ∈ verdicts reservedAgain, v.1 = v.2 := by
    intro v hv
    obtain ⟨c, hc, rfl⟩ := List.mem_map.mp hv
    exact (hagree c hc).1
  rw [hverdicts] at hsame
  have hlast := hsame (.accepted, .raised (.integrityError "unique violation")) (by simp)
  cases hlast

end MandateGateway
