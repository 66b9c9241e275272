import Mathlib.Data.List.Nodup
import MandateGateway.Budget.Coverage
import MandateGateway.Lib.Gathering
import MandateGateway.Recovery.ListedTransaction

/-! # Stranded budget reservations

    `audit_budget_reservations`: for every mandate with a reserved amount and
    every listed transaction of the mandate that has failed, the first
    reservation of the two is released if it is reserved.  What is reported is
    the whole reserved amount of the mandate.

    * `round_cases`: what one mandate and one transaction do;
    * `Swept`: the state of the engine between two rounds;
    * `releasesOrphans_iff`: when the audit releases the orphaned reservations,
      and reports each with its own amount. -/

namespace MandateGateway

open Clock Exceptions OrderedMap Raising Runs

/-- A released reservation. -/
structure OrphanedReservationRecord (ι : Type) where
  mandateId     : String
  transactionId : ListedValue ι
  amountPaise   : Int
  released      : Bool
  reason        : String
deriving DecidableEq

namespace RecoveryReconciliationEngine

variable {ι : Type} [DecidableEq ι]

/-- States of a payment that went through. -/
def successStates : List TransactionState := [.success, .completed]

/-- States of a payment that did not. -/
def failedStates : List TransactionState := [.failure, .rolledBack, .rejected]

/-- What is collected of the listed successes, whose identifiers are hashed. -/
def ofSuccesses {β : Type} (builtins : ListedBuiltins ι)
    (collect : ListedTransaction ι → List β) :
    List (ListedTransaction ι) → Except ReconciliationError (List β)
  | [] => .ok []
  | tx :: rest =>
      if (tx.get "state").isState successStates = true then
        match builtins.hash (tx.get "transaction_id") with
        | .error err => .error err
        | .ok () => (ofSuccesses builtins collect rest).map (collect tx ++ ·)
      else ofSuccesses builtins collect rest

/-- `terminal_success_tx_ids`; a set hashes what it takes in. -/
def terminalSuccessTxIds (builtins : ListedBuiltins ι) :
    List (ListedTransaction ι) → Except ReconciliationError (List (ListedValue ι)) :=
  ofSuccesses builtins fun tx => [tx.get "transaction_id"]

/-- The first reservation of a mandate and a transaction. -/
def findReservation (e : BudgetEngine) (mandateId : String) (txId : ListedValue ι) :
    Option BudgetReservation :=
  e.reservations.values.find? fun res =>
    decide (.text res.transactionId = txId ∧ res.mandateId = mandateId)

def releaseReport (mandateId : String) (record : DailyBudget) (txId : ListedValue ι) :
    OrphanedReservationRecord ι :=
  ⟨mandateId, txId, record.reservedPaise, true, "RELEASED_ORPHANED_RESERVATION_FROM_FAILED_TX"⟩

/-- The reservation of a failed transaction is released. `env` is what the
    process supplies to the release of a reservation. -/
def releaseStranded (env : String → Ambient) (mandateId : String) (record : DailyBudget)
    (txId : ListedValue ι) :
    Raising BudgetEngine ReconciliationError (List (OrphanedReservationRecord ι)) := fun e =>
  match findReservation e mandateId txId with
  | none => (.ok [], e)
  | some res =>
      if res.state.value = "RESERVED" then
        match e.release (env res.reservationId) mandateId res.reservationId none with
        | (.error err, e') => (.error (.raised err), e')
        | (.ok _, e') => (.ok [releaseReport mandateId record txId], e')
      else (.ok [], e)

def auditTransaction (builtins : ListedBuiltins ι) (env : String → Ambient)
    (successIds : List (ListedValue ι)) (budget : String × DailyBudget)
    (tx : ListedTransaction ι) :
    Raising BudgetEngine ReconciliationError (List (OrphanedReservationRecord ι)) :=
  if tx.get "mandate_id" = .text budget.1 then
    if (tx.getD "state" (.text "")).isState failedStates = true then
      ofExcept (builtins.hash (tx.getD "transaction_id" (.text ""))) >>= fun _ =>
        if tx.getD "transaction_id" (.text "") ∈ successIds then pure []
        else releaseStranded env budget.1 budget.2 (tx.getD "transaction_id" (.text ""))
    else pure []
  else pure []

/-- `audit_budget_reservations`: the budgets are those of the beginning. -/
def auditBudgetReservations (builtins : ListedBuiltins ι) (env : String → Ambient)
    (transactions : List (ListedTransaction ι)) :
    Raising BudgetEngine ReconciliationError (List (OrphanedReservationRecord ι)) := fun e =>
  match terminalSuccessTxIds builtins transactions with
  | .error err => (.error err, e)
  | .ok successIds =>
      gather (fun budget =>
        if decide (budget.2.reservedPaise > 0) = true then
          gather (auditTransaction builtins env successIds budget) transactions
        else pure []) e.budgets.entries e

/-! ## What the audit is for -/

def ListedFailed (transactions : List (ListedTransaction ι)) (mandateId transactionId : String) :
    Prop :=
  ∃ tx ∈ transactions, tx.get "mandate_id" = .text mandateId
    ∧ tx.get "transaction_id" = .text transactionId
    ∧ (tx.get "state").isState failedStates = true

/-- The payment is listed as gone through. -/
def ListedSuccessful (transactions : List (ListedTransaction ι)) (transactionId : String) : Prop :=
  ∃ tx ∈ transactions, tx.get "transaction_id" = .text transactionId
    ∧ (tx.get "state").isState successStates = true

/-- The reservation is held for a payment that has failed. -/
def Orphaned (transactions : List (ListedTransaction ι)) (r : BudgetReservation) : Prop :=
  r.state = .reserved ∧ ListedFailed transactions r.mandateId r.transactionId
    ∧ ¬ ListedSuccessful transactions r.transactionId

instance (transactions : List (ListedTransaction ι)) (r : BudgetReservation) :
    Decidable (Orphaned transactions r) :=
  inferInstanceAs (Decidable (_ ∧ (∃ tx ∈ transactions, _) ∧ ¬ ∃ tx ∈ transactions, _))

def orphans (transactions : List (ListedTransaction ι)) (e : BudgetEngine) :
    List BudgetReservation :=
  e.reservations.values.filter fun r => decide (Orphaned transactions r)

def ownReport (r : BudgetReservation) : OrphanedReservationRecord ι :=
  ⟨r.mandateId, .text r.transactionId, r.amountPaise, true,
    "RELEASED_ORPHANED_RESERVATION_FROM_FAILED_TX"⟩

def releasedAt (env : String → Ambient) (r : BudgetReservation) : BudgetReservation :=
  { r with state := .released, updatedAt := (env r.reservationId).now }

/-- **The audit returns, has released the orphaned reservations and no others,
    and reports each of them once with its own amount.** -/
def ReleasesOrphans (builtins : ListedBuiltins ι) (env : String → Ambient)
    (transactions : List (ListedTransaction ι)) (e : BudgetEngine) : Prop :=
  ∃ report e', auditBudgetReservations builtins env transactions e = (.ok report, e')
    ∧ (∀ id, e'.reservations.get id = (e.reservations.get id).map fun r =>
        if Orphaned transactions r then releasedAt env r else r)
    ∧ report.Perm ((orphans transactions e).map ownReport)

/-! ## Reservations of reachable engines -/

/-- Reservations are stored under their identifiers, and have a transaction. -/
def Filed (e : BudgetEngine) : Prop :=
  ∀ id r, e.reservations.get id = some r → r.reservationId = id ∧ r.transactionId ≠ ""

theorem Filed.set {e : BudgetEngine} (h : Filed e) {id : String} {r : BudgetReservation}
    {budgets : OrderedMap String DailyBudget} (hid : r.reservationId = id)
    (htx : r.transactionId ≠ "") : Filed ⟨budgets, e.reservations.set id r⟩ := by
  intro id' r' hget
  by_cases heq : id' = id
  · rw [heq, get_set_self, Option.some.injEq] at hget
    rw [heq, ← hget]
    exact ⟨hid, htx⟩
  · rw [get_set_of_ne _ heq] at hget
    exact h id' r' hget

theorem Filed.resolve {e : BudgetEngine} (h : Filed e)
    (refusal : String → BudgetState → Option String)
    (move : Instant → DailyBudget → Int → Except PyError DailyBudget) (target : BudgetState)
    (env : Ambient) (m id : String) (at? : Option Instant) :
    Filed (e.resolve refusal move target env m id at?).2 := by
  rcases BudgetEngine.resolve_cases e refusal move target env m id at? with
    ⟨err, hrun⟩ | ⟨r, b, b', hid, -, -, -, -, hrun⟩
  · rw [hrun]
    exact h
  · rw [hrun]
    obtain ⟨hkey, htx⟩ := h id r hid
    exact h.set hkey htx

theorem Filed.reserve {e : BudgetEngine} (h : Filed e) (env : Ambient) (m tx : String)
    (amount : Int) (cur : Currency) (resId : Option String) (ttl : Int) (at? : Option Instant) :
    Filed (e.reserve env m tx amount cur resId ttl at?).2 := by
  obtain ⟨reply, hcall, -⟩ | ⟨b, r, result, -, -, -, ⟨-, htx⟩, -, -, hcall⟩ :=
    BudgetEngine.reserve_cases e env m tx amount cur resId ttl at?
  · rw [hcall]
    exact h
  · rw [hcall]
    exact h.set rfl htx

theorem Filed.call {e : BudgetEngine} (h : Filed e) (c : BudgetCall) : Filed (e.call c).2 := by
  cases c with
  | register env m limit cur date spent reserved =>
      have heff := BudgetEngine.register_effect e env m limit cur date spent reserved
      generalize (e.call (.register env m limit cur date spent reserved)).1 = reply at heff
      generalize (e.call (.register env m limit cur date spent reserved)).2 = e' at heff
      cases heff with
      | refused => exact h
      | registered => exact h
  | reserve env m tx amount cur resId ttl at? => exact h.reserve env m tx amount cur resId ttl at?
  | commit env m id at? => exact h.resolve _ _ _ env m id at?
  | release env m id at? => exact h.resolve _ _ _ env m id at?

theorem exec_filed (calls : List BudgetCall) :
    Filed (exec BudgetEngine.call BudgetEngine.new calls) := by
  refine exec_inv (I := Filed) (fun _ c h => h.call c) ?_ calls
  intro id r hget
  cases hget

/-! ## Between two rounds -/

/-- A reservation when these have been released. -/
def settle (env : String → Ambient) (released : List BudgetReservation) (r : BudgetReservation) :
    BudgetReservation :=
  if r ∈ released then releasedAt env r else r

def drawn (m : String) (released : List BudgetReservation) : Int :=
  (released.map fun r => if r.mandateId = m then r.amountPaise else 0).sum

theorem drawn_concat (m : String) (released : List BudgetReservation) (r : BudgetReservation) :
    drawn m (released ++ [r])
      = drawn m released + if r.mandateId = m then r.amountPaise else 0 := by
  simp [drawn]

theorem drawn_eq_zero {m : String} {released : List BudgetReservation}
    (h : ∀ r ∈ released, r.mandateId ≠ m) : drawn m released = 0 := by
  refine List.sum_eq_zero fun x hx => ?_
  obtain ⟨r, hr, rfl⟩ := List.mem_map.mp hx
  exact if_neg (h r hr)

/-- **The engine `e` is `e₀` with these reservations released.** -/
structure Swept (env : String → Ambient) (e₀ : BudgetEngine) (released : List BudgetReservation)
    (e : BudgetEngine) : Prop where
  reservations : e.reservations = e₀.reservations.mapValues (settle env released)
  budgets      : ∀ m b₀, e₀.budgets.get m = some b₀ → ∃ b, e.budgets.get m = some b
    ∧ 0 ≤ b.reservedPaise ∧ b.reservedPaise + drawn m released = b₀.reservedPaise

section
variable {env : String → Ambient} {e₀ e : BudgetEngine} {released : List BudgetReservation}
  {r : BudgetReservation}

theorem settle_nil (env : String → Ambient) : settle env [] = id := by
  funext r
  exact if_neg List.not_mem_nil

theorem mapValues_id (d : OrderedMap String BudgetReservation) : d.mapValues id = d := by
  obtain ⟨entries, hnd⟩ := d
  simp only [mapValues, id_eq, Prod.mk.eta, List.map_id']

theorem Swept.start (env : String → Ambient) (h : e₀.WellFormed) : Swept env e₀ [] e₀ := by
  constructor
  · rw [settle_nil, mapValues_id]
  · intro m b₀ hb
    exact ⟨b₀, hb, (h.solvent m b₀ hb).1, add_zero _⟩

theorem settle_transactionId (env : String → Ambient) (released : List BudgetReservation)
    (r : BudgetReservation) : (settle env released r).transactionId = r.transactionId := by
  rw [settle]
  by_cases h : r ∈ released
  · rw [if_pos h]
    rfl
  · rw [if_neg h]

theorem settle_mandateId (env : String → Ambient) (released : List BudgetReservation)
    (r : BudgetReservation) : (settle env released r).mandateId = r.mandateId := by
  rw [settle]
  by_cases h : r ∈ released
  · rw [if_pos h]
    rfl
  · rw [if_neg h]

theorem Swept.get_reservation (h : Swept env e₀ released e) (id : String) :
    e.reservations.get id = (e₀.reservations.get id).map (settle env released) := by
  rw [h.reservations, get_mapValues]

/-- The first reservation of a mandate and a transaction stays the same one. -/
theorem Swept.findReservation (h : Swept env e₀ released e) (m : String) (txId : ListedValue ι) :
    findReservation e m txId = (findReservation e₀ m txId).map (settle env released) := by
  have hsame : (fun res : BudgetReservation =>
        decide (ListedValue.text res.transactionId = txId ∧ res.mandateId = m))
          ∘ settle env released
      = fun res => decide (ListedValue.text res.transactionId = txId ∧ res.mandateId = m) := by
    funext res
    simp only [Function.comp_apply, settle_transactionId, settle_mandateId]
  rw [RecoveryReconciliationEngine.findReservation, h.reservations, values_mapValues,
    List.find?_map, hsame, RecoveryReconciliationEngine.findReservation]

theorem findReservation_eq_some {m : String} {txId : ListedValue ι}
    (h : findReservation e₀ m txId = some r) :
    r ∈ e₀.reservations.values ∧ txId = .text r.transactionId ∧ r.mandateId = m := by
  rw [findReservation] at h
  have hkeys := List.find?_some h
  rw [decide_eq_true_eq] at hkeys
  exact ⟨List.mem_of_find?_eq_some h, hkeys.1.symm, hkeys.2⟩

theorem Filed.get_of_mem (h : Filed e₀) (hr : r ∈ e₀.reservations.values) :
    e₀.reservations.get r.reservationId = some r := by
  obtain ⟨id, hid⟩ := e₀.reservations.mem_values_iff.mp hr
  rw [(h id r hid).1]
  exact hid

theorem release_of_get (env : Ambient) {id : String} {b : DailyBudget}
    (hid : e.reservations.get id = some r) (hstate : r.state = .reserved)
    (hb : e.budgets.get r.mandateId = some b) :
    (b.reservedPaise < r.amountPaise ∧ ∃ err, e.release env r.mandateId id none = (.error err, e))
    ∨ (r.amountPaise ≤ b.reservedPaise ∧ e.release env r.mandateId id none
        = (.ok { r with state := .released, updatedAt := env.now },
          ⟨e.budgets.set r.mandateId
              { b with reservedPaise := b.reservedPaise - r.amountPaise, updatedAt := env.now },
            e.reservations.set id { r with state := .released, updatedAt := env.now }⟩)) := by
  have hm : ¬ r.mandateId ≠ r.mandateId := fun hne => hne rfl
  have hrefusal : BudgetEngine.releaseRefusal id r.state = none :=
    BudgetEngine.releaseRefusal_eq_none_iff.mpr (Or.inl hstate)
  simp only [BudgetEngine.release, BudgetEngine.resolve, hid, if_neg hm, hrefusal, hb,
    releaseReservation]
  by_cases hle : r.amountPaise > b.reservedPaise
  · simp only [if_pos hle]
    exact Or.inl ⟨hle, _, rfl⟩
  · simp only [if_neg hle]
    exact Or.inr ⟨Int.not_lt.mp hle, rfl⟩

/-- One more release. -/
theorem Swept.release (h : Swept env e₀ released e) (hfiled : Filed e₀) {b : DailyBudget}
    (hr : r ∈ e₀.reservations.values) (hnew : r ∉ released)
    (hb : e.budgets.get r.mandateId = some b) (hle : r.amountPaise ≤ b.reservedPaise)
    (now : Instant) :
    Swept env e₀ (released ++ [r])
      ⟨e.budgets.set r.mandateId
          { b with reservedPaise := b.reservedPaise - r.amountPaise, updatedAt := now },
        e.reservations.set r.reservationId (releasedAt env r)⟩ := by
  constructor
  · show e.reservations.set r.reservationId (releasedAt env r) = _
    rw [h.reservations]
    refine set_mapValues_of_get _ (hfiled.get_of_mem hr) ?_ ?_
    · exact if_pos (List.mem_append_right _ List.mem_cons_self)
    · intro id r' hget hne
      -- a reservation under another identifier is another one
      have hother : r' ≠ r := by
        rintro rfl
        exact hne (hfiled id r' hget).1.symm
      have hmem : r' ∈ released ++ [r] ↔ r' ∈ released := by
        rw [List.mem_append, List.mem_singleton, or_iff_left hother]
      simp only [settle, hmem]
  · intro m b₀ hb₀
    obtain ⟨b', hb', hnonneg, hdrawn⟩ := h.budgets m b₀ hb₀
    rw [drawn_concat]
    by_cases hm : m = r.mandateId
    · subst hm
      obtain rfl := Option.some.inj (hb.symm.trans hb')
      refine ⟨_, get_set_self _ _ _, ?_, ?_⟩
      · dsimp only
        omega
      · rw [if_pos rfl]
        dsimp only
        omega
    · have hget : (e.budgets.set r.mandateId
          { b with reservedPaise := b.reservedPaise - r.amountPaise, updatedAt := now }).get m
            = some b' := by
        rw [get_set_of_ne _ hm]
        exact hb'
      refine ⟨b', hget, hnonneg, ?_⟩
      rw [if_neg (Ne.symm hm), add_zero]
      exact hdrawn

end

/-! ## One mandate and one transaction -/

abbrev Round (ι : Type) : Type := (String × DailyBudget) × ListedTransaction ι

def Round.txId (p : Round ι) : ListedValue ι := p.2.getD "transaction_id" (.text "")

/-- The transaction is listed for the mandate of the round, and has failed. -/
def Round.Fails (p : Round ι) : Prop :=
  p.2.get "mandate_id" = .text p.1.1
    ∧ (p.2.getD "state" (.text "")).isState failedStates = true

/-- The round points at the reservation, which is reserved. -/
structure Picks (e₀ : BudgetEngine) (successIds : List (ListedValue ι)) (p : Round ι)
    (r : BudgetReservation) : Prop where
  fails    : p.Fails
  unpaid   : p.txId ∉ successIds
  found    : findReservation e₀ p.1.1 p.txId = some r
  reserved : r.state = .reserved

/-- The report of a reservation, with the amount that its mandate has reserved. -/
def mandateReport (e₀ : BudgetEngine) (r : BudgetReservation) : OrphanedReservationRecord ι :=
  { ownReport r with
    amountPaise := (e₀.budgets.get r.mandateId).elim 0 DailyBudget.reservedPaise }

section
variable {builtins : ListedBuiltins ι} {env : String → Ambient} {e₀ e : BudgetEngine}
  {successIds : List (ListedValue ι)} {released : List BudgetReservation} {p : Round ι}

/-- What a round does between two states of the audit. -/
inductive RoundEffect (builtins : ListedBuiltins ι) (env : String → Ambient) (e₀ : BudgetEngine)
    (successIds : List (ListedValue ι)) (released : List BudgetReservation) (p : Round ι)
    (e : BudgetEngine) :
    Except ReconciliationError (List (OrphanedReservationRecord ι)) × BudgetEngine → Prop
  /-- nothing is left to release -/
  | skipped (hhash : p.Fails → builtins.hash p.txId = .ok ())
      (hpicked : ∀ r, Picks e₀ successIds p r → r ∈ released) :
      RoundEffect builtins env e₀ successIds released p e (.ok [], e)
  | unhashable {err : ReconciliationError} (hfails : p.Fails)
      (hhash : builtins.hash p.txId = .error err) :
      RoundEffect builtins env e₀ successIds released p e (.error err, e)
  /-- the budget has less reserved than the reservation -/
  | short {r : BudgetReservation} {b : DailyBudget} {err : PyError}
      (hpicks : Picks e₀ successIds p r) (hnew : r ∉ released)
      (hb : e.budgets.get r.mandateId = some b) (hless : b.reservedPaise < r.amountPaise) :
      RoundEffect builtins env e₀ successIds released p e (.error (.raised err), e)
  | released {r : BudgetReservation} {e' : BudgetEngine}
      (hhash : builtins.hash p.txId = .ok ()) (hpicks : Picks e₀ successIds p r)
      (hnew : r ∉ released) (hswept : Swept env e₀ (released ++ [r]) e') :
      RoundEffect builtins env e₀ successIds released p e (.ok [mandateReport e₀ r], e')

theorem Picks.unique {r r' : BudgetReservation} (h : Picks e₀ successIds p r)
    (h' : Picks e₀ successIds p r') : r = r' :=
  Option.some.inj (h.found.symm.trans h'.found)

theorem reserved_of_value {st : BudgetState} (h : st.value = "RESERVED") : st = .reserved := by
  cases st with
  | reserved => rfl
  | available | committed | spent | expired | released => exact absurd h (by decide)

theorem releaseStranded_of_picks (hfiled : Filed e₀) (h : Swept env e₀ released e)
    (hb₀ : e₀.budgets.get p.1.1 = some p.1.2) (hhash : builtins.hash p.txId = .ok ())
    {r : BudgetReservation} (hpicks : Picks e₀ successIds p r) (hnew : r ∉ released) :
    RoundEffect builtins env e₀ successIds released p e
      (releaseStranded env p.1.1 p.1.2 p.txId e) := by
  obtain ⟨hr, htx, hm⟩ := findReservation_eq_some hpicks.found
  have hsettled : settle env released r = r := if_neg hnew
  have hvalue : r.state.value = "RESERVED" := by
    rw [hpicks.reserved]
    rfl
  rw [releaseStranded, h.findReservation, hpicks.found, Option.map_some, hsettled]
  dsimp only
  rw [if_pos hvalue]
  have hget : e.reservations.get r.reservationId = some r := by
    rw [h.get_reservation, hfiled.get_of_mem hr, Option.map_some, hsettled]
  rw [← hm] at hb₀ ⊢
  obtain ⟨b, hb, -, -⟩ := h.budgets r.mandateId p.1.2 hb₀
  rcases release_of_get (env r.reservationId) hget hpicks.reserved hb with
    ⟨hless, err, hrun⟩ | ⟨hle, hrun⟩
  · rw [hrun]
    exact .short hpicks hnew hb hless
  · have hreport : (releaseReport r.mandateId p.1.2 p.txId : OrphanedReservationRecord ι)
        = mandateReport e₀ r := by
      rw [mandateReport, hb₀, htx]
      rfl
    rw [hrun]
    dsimp only
    rw [hreport]
    exact .released hhash hpicks hnew (h.release hfiled hr hnew hb hle _)

theorem releaseStranded_of_not_picks (h : Swept env e₀ released e) (hfails : p.Fails)
    (hunpaid : p.txId ∉ successIds) (hnone : ∀ r, Picks e₀ successIds p r → r ∈ released) :
    releaseStranded env p.1.1 p.1.2 p.txId e = (.ok [], e) := by
  rw [releaseStranded, h.findReservation]
  cases hfound : findReservation e₀ p.1.1 p.txId with
  | none => rfl
  | some r =>
      rw [Option.map_some]
      dsimp only
      refine if_neg fun hvalue => ?_
      have hstate := reserved_of_value hvalue
      by_cases hold : r ∈ released
      · rw [settle, if_pos hold] at hstate
        cases hstate
      · rw [settle, if_neg hold] at hstate
        exact hold (hnone r ⟨hfails, hunpaid, hfound, hstate⟩)

theorem releaseStranded_effect (hfiled : Filed e₀) (h : Swept env e₀ released e)
    (hb₀ : e₀.budgets.get p.1.1 = some p.1.2) (hfails : p.Fails)
    (hhash : builtins.hash p.txId = .ok ()) (hunpaid : p.txId ∉ successIds) :
    RoundEffect builtins env e₀ successIds released p e
      (releaseStranded env p.1.1 p.1.2 p.txId e) := by
  by_cases hnew : ∃ r, Picks e₀ successIds p r ∧ r ∉ released
  · obtain ⟨r, hpicks, hnew⟩ := hnew
    exact releaseStranded_of_picks hfiled h hb₀ hhash hpicks hnew
  · have hnone : ∀ r, Picks e₀ successIds p r → r ∈ released := fun r hpicks =>
      not_not.mp fun hnot => hnew ⟨r, hpicks, hnot⟩
    rw [releaseStranded_of_not_picks h hfails hunpaid hnone]
    exact .skipped (fun _ => hhash) hnone

variable (builtins successIds) in
/-- **What one round does.** -/
theorem round_cases (hfiled : Filed e₀) (h : Swept env e₀ released e)
    (hb₀ : e₀.budgets.get p.1.1 = some p.1.2) :
    RoundEffect builtins env e₀ successIds released p e
      (auditTransaction builtins env successIds p.1 p.2 e) := by
  rw [auditTransaction]
  by_cases hmandate : p.2.get "mandate_id" = .text p.1.1
  · rw [if_pos hmandate]
    by_cases hstate : (p.2.getD "state" (.text "")).isState failedStates = true
    · rw [if_pos hstate]
      have hfails : p.Fails := ⟨hmandate, hstate⟩
      show RoundEffect builtins env e₀ successIds released p e
        ((ofExcept (builtins.hash p.txId) >>= fun _ =>
          if p.txId ∈ successIds then pure [] else releaseStranded env p.1.1 p.1.2 p.txId) e)
      cases hhash : builtins.hash p.txId with
      | error err =>
          rw [bind_of_error (ofExcept_of_eq rfl e)]
          exact .unhashable hfails hhash
      | ok u =>
          rw [bind_of_ok (ofExcept_of_eq rfl e)]
          by_cases hpaid : p.txId ∈ successIds
          · rw [if_pos hpaid]
            exact .skipped (fun _ => hhash) fun r hpicks => absurd hpaid hpicks.unpaid
          · rw [if_neg hpaid]
            exact releaseStranded_effect hfiled h hb₀ hfails hhash hpaid
    · rw [if_neg hstate]
      exact .skipped (fun hfails => absurd hfails.2 hstate)
        fun r hpicks => absurd hpicks.fails.2 hstate
  · rw [if_neg hmandate]
    exact .skipped (fun hfails => absurd hfails.1 hmandate)
      fun r hpicks => absurd hpicks.fails.1 hmandate

/-! ## The whole audit -/

/-- The state of the audit after these rounds, and what it has to report. -/
structure Audited (builtins : ListedBuiltins ι) (env : String → Ambient) (e₀ : BudgetEngine)
    (successIds : List (ListedValue ι)) (released : List BudgetReservation)
    (done : List (Round ι)) (report : List (OrphanedReservationRecord ι)) (e : BudgetEngine) :
    Prop where
  swept    : Swept env e₀ released e
  once     : released.Nodup
  report   : report = released.map (mandateReport e₀)
  picked   : ∀ r, r ∈ released ↔ ∃ p ∈ done, Picks e₀ successIds p r
  hashable : ∀ p ∈ done, p.Fails → builtins.hash p.txId = .ok ()

theorem Audited.start (hwf : e₀.WellFormed) :
    Audited builtins env e₀ successIds [] [] [] e₀ where
  swept := Swept.start env hwf
  once := List.nodup_nil
  report := rfl
  picked := by
    intro r
    refine ⟨fun h => absurd h List.not_mem_nil, ?_⟩
    rintro ⟨p, hp, -⟩
    cases hp
  hashable := by
    intro p hp
    cases hp

theorem Audited.hashable_concat {done : List (Round ι)}
    {report : List (OrphanedReservationRecord ι)}
    (h : Audited builtins env e₀ successIds released done report e)
    (hhash : p.Fails → builtins.hash p.txId = .ok ()) :
    ∀ q ∈ done ++ [p], q.Fails → builtins.hash q.txId = .ok () := by
  intro q hq
  rcases List.mem_append.mp hq with hold | hlast
  · exact h.hashable q hold
  · rw [List.mem_singleton.mp hlast]
    exact hhash

/-- A round that returns. -/
theorem Audited.round {done : List (Round ι)} {report out : List (OrphanedReservationRecord ι)}
    {e' : BudgetEngine} (h : Audited builtins env e₀ successIds released done report e)
    (heff : RoundEffect builtins env e₀ successIds released p e (.ok out, e')) :
    ∃ released', Audited builtins env e₀ successIds released' (done ++ [p]) (report ++ out) e' := by
  have hsplit : ∀ r, (∃ q ∈ done ++ [p], Picks e₀ successIds q r)
      ↔ r ∈ released ∨ Picks e₀ successIds p r := by
    intro r
    rw [h.picked r]
    constructor
    · rintro ⟨q, hq, hpicks⟩
      rcases List.mem_append.mp hq with hold | hlast
      · exact Or.inl ⟨q, hold, hpicks⟩
      · rw [List.mem_singleton.mp hlast] at hpicks
        exact Or.inr hpicks
    · rintro (⟨q, hq, hpicks⟩ | hpicks)
      · exact ⟨q, List.mem_append_left _ hq, hpicks⟩
      · exact ⟨p, List.mem_append_right _ List.mem_cons_self, hpicks⟩
  cases heff with
  | skipped hhash hpicked =>
      refine ⟨released, h.swept, h.once, ?_, fun r => ?_, h.hashable_concat hhash⟩
      · rw [List.append_nil]
        exact h.report
      · rw [hsplit]
        exact ⟨Or.inl, fun hr => hr.elim (fun hold => hold) (hpicked r)⟩
  | @released r _ hhash hpicks hnew hswept =>
      refine ⟨released ++ [r], hswept, ?_, ?_, fun r' => ?_, h.hashable_concat fun _ => hhash⟩
      · refine List.nodup_append.mpr ⟨h.once, by simp, ?_⟩
        intro r₁ h₁ r₂ h₂ heq
        rw [List.mem_singleton.mp h₂] at heq
        exact hnew (heq ▸ h₁)
      · rw [h.report, List.map_append, List.map_singleton]
      · rw [hsplit, List.mem_append, List.mem_singleton]
        constructor
        · rintro (hold | rfl)
          · exact Or.inl hold
          · exact Or.inr hpicks
        · rintro (hold | hpicks')
          · exact Or.inl hold
          · exact Or.inr (hpicks'.unique hpicks)

end

def rounds (e : BudgetEngine) (transactions : List (ListedTransaction ι)) : List (Round ι) :=
  (e.budgets.entries.filter fun budget => decide (budget.2.reservedPaise > 0)).flatMap
    fun budget => transactions.map (Prod.mk budget)

omit [DecidableEq ι] in
theorem mem_rounds {e : BudgetEngine} {transactions : List (ListedTransaction ι)} {p : Round ι} :
    p ∈ rounds e transactions
      ↔ e.budgets.get p.1.1 = some p.1.2 ∧ 0 < p.1.2.reservedPaise ∧ p.2 ∈ transactions := by
  obtain ⟨⟨m, b⟩, tx⟩ := p
  rw [rounds, List.mem_flatMap]
  constructor
  · rintro ⟨budget, hbudget, hmap⟩
    obtain ⟨hmem, hpos⟩ := List.mem_filter.mp hbudget
    obtain ⟨tx', htx, heq⟩ := List.mem_map.mp hmap
    obtain ⟨rfl, rfl⟩ := Prod.mk.inj heq
    exact ⟨e.budgets.mem_entries_iff.mp hmem, of_decide_eq_true hpos, htx⟩
  · rintro ⟨hget, hpos, htx⟩
    exact ⟨(m, b), List.mem_filter.mpr ⟨e.budgets.mem_entries_iff.mpr hget, decide_eq_true hpos⟩,
      List.mem_map.mpr ⟨tx, htx, rfl⟩⟩

theorem audit_eq_gather {builtins : ListedBuiltins ι} {env : String → Ambient}
    {transactions : List (ListedTransaction ι)} {e : BudgetEngine}
    {successIds : List (ListedValue ι)}
    (h : terminalSuccessTxIds builtins transactions = .ok successIds) :
    auditBudgetReservations builtins env transactions e
      = gather (fun p : Round ι => auditTransaction builtins env successIds p.1 p.2)
          (rounds e transactions) e := by
  rw [auditBudgetReservations, h]
  dsimp only
  rw [gather_ite, gather_gather]
  rfl

/-! ## The identifiers of successful payments -/

section
variable {β : Type} {builtins : ListedBuiltins ι} {collect : ListedTransaction ι → List β}
  {transactions : List (ListedTransaction ι)}

variable (collect) in
theorem ofSuccesses_eq_ok
    (h : ∀ tx ∈ transactions, (tx.get "state").isState successStates = true →
      builtins.hash (tx.get "transaction_id") = .ok ()) :
    ∃ out, ofSuccesses builtins collect transactions = .ok out := by
  induction transactions with
  | nil => exact ⟨[], rfl⟩
  | cons tx rest ih =>
      rw [List.forall_mem_cons] at h
      obtain ⟨out, hrest⟩ := ih h.2
      rw [ofSuccesses, hrest]
      by_cases hstate : (tx.get "state").isState successStates = true
      · rw [if_pos hstate, h.1 hstate]
        exact ⟨_, rfl⟩
      · rw [if_neg hstate]
        exact ⟨_, rfl⟩

theorem ofSuccesses_spec {out : List β}
    (h : ofSuccesses builtins collect transactions = .ok out) :
    (∀ tx ∈ transactions, (tx.get "state").isState successStates = true →
        builtins.hash (tx.get "transaction_id") = .ok ())
      ∧ ∀ x, x ∈ out ↔ ∃ tx ∈ transactions, (tx.get "state").isState successStates = true
        ∧ x ∈ collect tx := by
  induction transactions generalizing out with
  | nil =>
      obtain rfl := Except.ok.inj h
      simp
  | cons tx rest ih =>
      rw [ofSuccesses] at h
      by_cases hstate : (tx.get "state").isState successStates = true
      · rw [if_pos hstate] at h
        cases hhash : builtins.hash (tx.get "transaction_id") with
        | error err =>
            rw [hhash] at h
            cases h
        | ok u =>
            rw [hhash] at h
            obtain ⟨out', hrest, rfl⟩ := map_eq_ok_iff.mp h
            obtain ⟨hall, hmem⟩ := ih hrest
            refine ⟨List.forall_mem_cons.mpr ⟨fun _ => hhash, hall⟩, fun x => ?_⟩
            rw [List.mem_append, hmem, List.exists_mem_cons_iff, and_iff_right hstate]
      · rw [if_neg hstate] at h
        obtain ⟨hall, hmem⟩ := ih h
        refine ⟨List.forall_mem_cons.mpr ⟨fun hs => absurd hs hstate, hall⟩, fun x => ?_⟩
        rw [hmem, List.exists_mem_cons_iff, or_iff_right fun hx => hstate hx.1]

theorem mem_terminalSuccessTxIds_iff {successIds : List (ListedValue ι)}
    (h : terminalSuccessTxIds builtins transactions = .ok successIds) (v : ListedValue ι) :
    v ∈ successIds ↔ ∃ tx ∈ transactions, tx.get "transaction_id" = v
      ∧ (tx.get "state").isState successStates = true := by
  rw [(ofSuccesses_spec h).2]
  refine exists_congr fun tx => and_congr_right fun _ => ?_
  rw [List.mem_singleton, and_comm, eq_comm]

end

/-! ## The reservations that the rounds point at -/

section
variable {builtins : ListedBuiltins ι} {env : String → Ambient} {e : BudgetEngine}
  {transactions : List (ListedTransaction ι)} {successIds : List (ListedValue ι)}
  {r : BudgetReservation}

omit [DecidableEq ι] in
theorem getD_eq_text_iff {tx : ListedTransaction ι} {key t : String} (ht : t ≠ "") :
    tx.getD key (.text "") = .text t ↔ tx.get key = .text t := by
  rw [ListedTransaction.get, ListedTransaction.getD, ListedTransaction.getD]
  cases tx key with
  | some v => exact Iff.rfl
  | none => simp [Ne.symm ht]

theorem isState_failed_getD (tx : ListedTransaction ι) :
    (tx.getD "state" (.text "")).isState failedStates
      = (tx.get "state").isState failedStates := by
  rw [ListedTransaction.get, ListedTransaction.getD, ListedTransaction.getD]
  cases tx "state" with
  | some v => rfl
  | none => simp [ListedValue.isState, failedStates, TransactionState.value]

theorem mem_orphans :
    r ∈ orphans transactions e ↔ r ∈ e.reservations.values ∧ Orphaned transactions r := by
  rw [orphans, List.mem_filter, decide_eq_true_eq]

/-- **A round points at an orphaned reservation** that is the first one of its
    mandate and transaction, and whose mandate has something reserved. -/
theorem exists_picks_iff (hfiled : Filed e)
    (hids : terminalSuccessTxIds builtins transactions = .ok successIds) :
    (∃ p ∈ rounds e transactions, Picks e successIds p r)
      ↔ r ∈ orphans transactions e
        ∧ findReservation e r.mandateId (.text r.transactionId : ListedValue ι) = some r
        ∧ ∃ b, e.budgets.get r.mandateId = some b ∧ 0 < b.reservedPaise := by
  have hmem := mem_terminalSuccessTxIds_iff hids
  have hpaid : (.text r.transactionId : ListedValue ι) ∈ successIds
      ↔ ListedSuccessful transactions r.transactionId := hmem _
  rw [mem_orphans]
  constructor
  · rintro ⟨⟨⟨m, b⟩, tx⟩, hp, hpicks⟩
    obtain ⟨hb, hpos, htx⟩ := mem_rounds.mp hp
    obtain ⟨hr, hid, rfl⟩ := findReservation_eq_some hpicks.found
    have hfound := hpicks.found
    have hunpaid := hpicks.unpaid
    rw [hid] at hfound hunpaid
    have hne := (hfiled _ r (hfiled.get_of_mem hr)).2
    refine ⟨⟨hr, hpicks.reserved, ⟨tx, htx, hpicks.fails.1, (getD_eq_text_iff hne).mp hid, ?_⟩, ?_⟩,
      hfound, b, hb, hpos⟩
    · rw [← isState_failed_getD]
      exact hpicks.fails.2
    · rw [← hpaid]
      exact hunpaid
  · rintro ⟨⟨hr, hreserved, ⟨tx, htx, hmandate, hid, hstate⟩, hunpaid⟩, hfound, b, hb, hpos⟩
    have hne := (hfiled _ r (hfiled.get_of_mem hr)).2
    have htxId : Round.txId ((r.mandateId, b), tx) = .text r.transactionId :=
      (getD_eq_text_iff hne).mpr hid
    refine ⟨((r.mandateId, b), tx), mem_rounds.mpr ⟨hb, hpos, htx⟩, ⟨hmandate, ?_⟩, ?_, ?_,
      hreserved⟩
    · rw [isState_failed_getD]
      exact hstate
    · rw [htxId, hpaid]
      exact hunpaid
    · rw [htxId]
      exact hfound

/-! ## When the audit is exact -/

/-- Transactions and reservations that the audit is right about. -/
structure Auditable (builtins : ListedBuiltins ι) (transactions : List (ListedTransaction ι))
    (e : BudgetEngine) : Prop where
  /-- the identifiers that the audit puts into its set, or looks for in it, have hashes -/
  paidIds   : ∀ tx ∈ transactions, (tx.get "state").isState successStates = true →
    builtins.hash (tx.get "transaction_id") = .ok ()
  failedIds : ∀ p ∈ rounds e transactions, p.Fails → builtins.hash p.txId = .ok ()
  /-- no earlier reservation has the mandate and the transaction of an orphaned one -/
  first     : ∀ r ∈ orphans transactions e,
    findReservation e r.mandateId (.text r.transactionId : ListedValue ι) = some r
  /-- an orphaned reservation is all that its mandate has reserved -/
  whole     : ∀ r ∈ orphans transactions e, ∀ b, e.budgets.get r.mandateId = some b →
    b.reservedPaise = r.amountPaise
  /-- and the only orphaned one of its mandate -/
  only      : ∀ r ∈ orphans transactions e, ∀ r' ∈ orphans transactions e,
    r.mandateId = r'.mandateId → r = r'

theorem Audited.report_eq {released : List BudgetReservation} {done : List (Round ι)}
    {report : List (OrphanedReservationRecord ι)} {e' : BudgetEngine}
    (h : Audited builtins env e successIds released done report e')
    (hwhole : ∀ r ∈ released, ∀ b, e.budgets.get r.mandateId = some b →
      b.reservedPaise = r.amountPaise) (hwf : e.WellFormed)
    (hvalues : ∀ r ∈ released, r ∈ e.reservations.values) :
    report = released.map ownReport := by
  rw [h.report]
  refine List.map_congr_left fun r hr => ?_
  obtain ⟨b, hb⟩ := hwf.registered r (hvalues r hr)
  have hamount : (e.budgets.get r.mandateId).elim 0 DailyBudget.reservedPaise = r.amountPaise := by
    rw [hb]
    exact hwhole r hr b hb
  rw [mandateReport, hamount]
  rfl

theorem orphans_nodup (hfiled : Filed e) : (orphans transactions e).Nodup := by
  refine List.Nodup.filter _ ?_
  refine List.Nodup.of_map BudgetReservation.reservationId ?_
  have hkeys : e.reservations.values.map BudgetReservation.reservationId
      = e.reservations.entries.map Prod.fst := by
    rw [OrderedMap.values, List.map_map]
    refine List.map_congr_left fun entry hentry => ?_
    exact (hfiled entry.1 entry.2 (e.reservations.mem_entries_iff.mp hentry)).1
  rw [hkeys]
  exact e.reservations.nodupKeys

/-- What a round points at and no round before has released is still reserved. -/
theorem Auditable.covered (h : Auditable builtins transactions e) (hfiled : Filed e)
    (hids : terminalSuccessTxIds builtins transactions = .ok successIds)
    {released : List BudgetReservation} {done : List (Round ι)} {p : Round ι}
    {report : List (OrphanedReservationRecord ι)} {e' : BudgetEngine} {r : BudgetReservation}
    {b : DailyBudget} (hp : p ∈ rounds e transactions)
    (hdone : ∀ q ∈ done, q ∈ rounds e transactions)
    (hpicks : Picks e successIds p r) (hnew : r ∉ released)
    (haudited : Audited builtins env e successIds released done report e')
    (hb : e'.budgets.get r.mandateId = some b) : r.amountPaise ≤ b.reservedPaise := by
  obtain ⟨horphan, -, b₀, hb₀, -⟩ := (exists_picks_iff hfiled hids).mp ⟨p, hp, hpicks⟩
  obtain ⟨b', hb', -, hdrawn⟩ := haudited.swept.budgets r.mandateId b₀ hb₀
  obtain rfl := Option.some.inj (hb.symm.trans hb')
  -- no other reservation of the mandate is orphaned, so nothing is drawn from it yet
  have hnone : drawn r.mandateId released = 0 := by
    refine drawn_eq_zero fun r' hr' hm => hnew ?_
    obtain ⟨q, hq, hpicks'⟩ := (haudited.picked r').mp hr'
    obtain ⟨horphan', -⟩ := (exists_picks_iff hfiled hids).mp ⟨q, hdone q hq, hpicks'⟩
    rw [h.only r horphan r' horphan' hm.symm]
    exact hr'
  have hwhole := h.whole r horphan b₀ hb₀
  rw [hnone, add_zero] at hdrawn
  omega

variable (env) in
/-- **The audit returns** where it is right about its input. -/
theorem exists_audited (hwf : e.WellFormed) (hfiled : Filed e)
    (hids : terminalSuccessTxIds builtins transactions = .ok successIds)
    (h : Auditable builtins transactions e) :
    ∃ report e' released, auditBudgetReservations builtins env transactions e = (.ok report, e')
      ∧ Audited builtins env e successIds released (rounds e transactions) report e' := by
  have htotal := gather_total (rounds e transactions)
    (f := fun p : Round ι => auditTransaction builtins env successIds p.1 p.2)
    (s := e)
    (I := fun done report e' => (∀ p ∈ done, p ∈ rounds e transactions)
      ∧ ∃ released, Audited builtins env e successIds released done report e') ?_
    ⟨fun p hp => absurd hp List.not_mem_nil, [], Audited.start hwf⟩
  · obtain ⟨report, e', hrun, -, released, haudited⟩ := htotal
    rw [audit_eq_gather hids]
    exact ⟨report, e', released, hrun, haudited⟩
  · rintro done p report e' hp ⟨hdone, released, haudited⟩
    have hdone' : ∀ q ∈ done ++ [p], q ∈ rounds e transactions := by
      intro q hq
      rcases List.mem_append.mp hq with hold | hlast
      · exact hdone q hold
      · rw [List.mem_singleton.mp hlast]
        exact hp
    have heff := round_cases builtins successIds hfiled
      haudited.swept (mem_rounds.mp hp).1
    generalize auditTransaction builtins env successIds p.1 p.2 e' = result at heff
    cases heff with
    | skipped hhash hpicked =>
        exact ⟨_, _, rfl, hdone', haudited.round (.skipped hhash hpicked)⟩
    | released hhash hpicks hnew hswept =>
        exact ⟨_, _, rfl, hdone', haudited.round (.released hhash hpicks hnew hswept)⟩
    | unhashable hfails hhash =>
        rw [h.failedIds p hp hfails] at hhash
        cases hhash
    | @short r b err hpicks hnew hb hless =>
        exact absurd hless (not_lt.mpr (h.covered hfiled hids hp hdone hpicks hnew haudited hb))

theorem releasesOrphans_of_auditable (hwf : e.WellFormed) (hfiled : Filed e)
    (h : Auditable builtins transactions e) :
    ReleasesOrphans builtins env transactions e := by
  obtain ⟨successIds, hids⟩ := ofSuccesses_eq_ok _ h.paidIds
  obtain ⟨report, e', released, hrun, haudited⟩ := exists_audited env hwf hfiled hids h
  have hreleased : ∀ r, r ∈ released ↔ r ∈ orphans transactions e := by
    intro r
    rw [haudited.picked, exists_picks_iff hfiled hids]
    refine ⟨fun hpicked => hpicked.1, fun horphan => ⟨horphan, h.first r horphan, ?_⟩⟩
    have hr := (mem_orphans.mp horphan).1
    obtain ⟨b, hb⟩ := hwf.registered r hr
    refine ⟨b, hb, ?_⟩
    rw [h.whole r horphan b hb]
    exact hwf.positive r hr
  refine ⟨report, e', hrun, fun id => ?_, ?_⟩
  · rw [haudited.swept.get_reservation]
    cases hget : e.reservations.get id with
    | none => rfl
    | some r =>
        have hr : r ∈ e.reservations.values := e.reservations.mem_values_iff.mpr ⟨id, hget⟩
        have hiff : r ∈ released ↔ Orphaned transactions r := by
          rw [hreleased, mem_orphans, and_iff_right hr]
        rw [Option.map_some, Option.map_some, settle]
        simp only [hiff]
  · have hvalues : ∀ r ∈ released, r ∈ e.reservations.values :=
      fun r hr => (mem_orphans.mp ((hreleased r).mp hr)).1
    rw [haudited.report_eq (fun r hr => h.whole r ((hreleased r).mp hr)) hwf hvalues]
    exact ((List.perm_ext_iff_of_nodup haudited.once (orphans_nodup hfiled)).mpr hreleased).map _

theorem audited_of_ok (hwf : e.WellFormed) (hfiled : Filed e)
    (hids : terminalSuccessTxIds builtins transactions = .ok successIds)
    {report : List (OrphanedReservationRecord ι)} {e' : BudgetEngine}
    (hrun : auditBudgetReservations builtins env transactions e = (.ok report, e')) :
    ∃ released, Audited builtins env e successIds released (rounds e transactions) report e' := by
  rw [audit_eq_gather hids] at hrun
  refine gather_returns
    (I := fun done report e' =>
      ∃ released, Audited builtins env e successIds released done report e')
    ?_ ⟨[], Audited.start hwf⟩ hrun
  rintro done p report e₁ out e₂ hp ⟨released, haudited⟩ hround
  have heff := round_cases builtins successIds hfiled
    haudited.swept (mem_rounds.mp hp).1
  rw [hround] at heff
  exact haudited.round heff

/-- Two reservations of one mandate have not both been released, if each is all
    that the mandate has reserved. -/
theorem Audited.only {released : List BudgetReservation} {done : List (Round ι)}
    {report : List (OrphanedReservationRecord ι)} {e' : BudgetEngine}
    (h : Audited builtins env e successIds released done report e') {r r' : BudgetReservation}
    (hr : r ∈ released) (hr' : r' ∈ released) (hm : r.mandateId = r'.mandateId) {b : DailyBudget}
    (hb : e.budgets.get r.mandateId = some b) (hpos : 0 < b.reservedPaise)
    (hamount : r.amountPaise = b.reservedPaise) (hamount' : r'.amountPaise = b.reservedPaise)
    (hnonneg : ∀ x ∈ released, 0 ≤ x.amountPaise) : r = r' := by
  by_contra hne
  obtain ⟨b', -, hleft, hdrawn⟩ := h.swept.budgets r.mandateId b hb
  let share : BudgetReservation → Int := fun x =>
    if x.mandateId = r.mandateId then x.amountPaise else 0
  have hfirst : share r + ((released.erase r).map share).sum = drawn r.mandateId released :=
    List.sum_map_erase share hr
  have hother : r' ∈ released.erase r := (List.mem_erase_of_ne (Ne.symm hne)).mpr hr'
  have hrest : share r' ≤ ((released.erase r).map share).sum := by
    refine List.single_le_sum ?_ _ (List.mem_map_of_mem hother)
    intro w hw
    obtain ⟨x, hx, rfl⟩ := List.mem_map.mp hw
    show 0 ≤ if x.mandateId = r.mandateId then x.amountPaise else 0
    by_cases hxm : x.mandateId = r.mandateId
    · rw [if_pos hxm]
      exact hnonneg x (List.mem_of_mem_erase hx)
    · rw [if_neg hxm]
  have hshare : share r = b.reservedPaise := by
    rw [← hamount]
    exact if_pos rfl
  have hshare' : share r' = b.reservedPaise := by
    rw [← hamount']
    exact if_pos hm.symm
  omega

theorem Audited.released_of_orphan {released : List BudgetReservation} {done : List (Round ι)}
    {report : List (OrphanedReservationRecord ι)} {e' : BudgetEngine}
    (h : Audited builtins env e successIds released done report e') (hfiled : Filed e)
    (hres : ∀ id, e'.reservations.get id = (e.reservations.get id).map fun r =>
      if Orphaned transactions r then releasedAt env r else r) :
    ∀ r ∈ orphans transactions e, r ∈ released := by
  intro r horphan
  obtain ⟨hr, hstranded⟩ := mem_orphans.mp horphan
  by_contra hnot
  have hget := hres r.reservationId
  rw [h.swept.get_reservation, hfiled.get_of_mem hr, Option.map_some, Option.map_some,
    if_pos hstranded, settle, if_neg hnot, Option.some.injEq] at hget
  have hstate : r.state = .released := congrArg BudgetReservation.state hget
  rw [hstranded.1] at hstate
  cases hstate

theorem Audited.whole_of_reports {released : List BudgetReservation} {done : List (Round ι)}
    {report : List (OrphanedReservationRecord ι)} {e' : BudgetEngine}
    (h : Audited builtins env e successIds released done report e')
    (hperm : report.Perm ((orphans transactions e).map ownReport)) :
    ∀ r ∈ orphans transactions e, ∀ b, e.budgets.get r.mandateId = some b →
      b.reservedPaise = r.amountPaise := by
  intro r horphan b hb
  have hmem := hperm.mem_iff.mpr (List.mem_map_of_mem horphan)
  rw [h.report] at hmem
  obtain ⟨r', -, heq⟩ := List.mem_map.mp hmem
  have hmandate : r'.mandateId = r.mandateId :=
    congrArg OrphanedReservationRecord.mandateId heq
  have hamount : (e.budgets.get r'.mandateId).elim 0 DailyBudget.reservedPaise
      = r.amountPaise := congrArg OrphanedReservationRecord.amountPaise heq
  rw [hmandate, hb] at hamount
  exact hamount

theorem auditable_of_releasesOrphans (hwf : e.WellFormed) (hfiled : Filed e)
    (h : ReleasesOrphans builtins env transactions e) : Auditable builtins transactions e := by
  obtain ⟨report, e', hrun, hres, hperm⟩ := h
  cases hids : terminalSuccessTxIds builtins transactions with
  | error err =>
      rw [auditBudgetReservations, hids] at hrun
      cases (Prod.mk.inj hrun).1
  | ok successIds =>
      obtain ⟨released, haudited⟩ := audited_of_ok hwf hfiled hids hrun
      have hpicked : ∀ r ∈ released, r ∈ orphans transactions e
          ∧ findReservation e r.mandateId (.text r.transactionId : ListedValue ι) = some r
          ∧ ∃ b, e.budgets.get r.mandateId = some b ∧ 0 < b.reservedPaise := by
        intro r hr
        exact (exists_picks_iff hfiled hids).mp ((haudited.picked r).mp hr)
      have hall := haudited.released_of_orphan hfiled hres
      have hwhole := haudited.whole_of_reports hperm
      refine ⟨(ofSuccesses_spec hids).1, haudited.hashable,
        fun r horphan => (hpicked r (hall r horphan)).2.1, hwhole, ?_⟩
      intro r horphan r' horphan' hm
      obtain ⟨-, -, b, hb, hpos⟩ := hpicked r (hall r horphan)
      refine haudited.only (hall r horphan) (hall r' horphan') hm hb hpos
        (hwhole r horphan b hb).symm (hwhole r' horphan' b (hm ▸ hb)).symm ?_
      intro x hx
      exact Int.le_of_lt (hwf.positive x (mem_orphans.mp (hpicked x hx).1).1)

/-- **The audit is exact, after any calls on the engine, exactly when every
    orphaned reservation is the first of its mandate and transaction, is all
    that its mandate has reserved, and every looked-up identifier has a hash.** -/
theorem releasesOrphans_iff (calls : List BudgetCall) (builtins : ListedBuiltins ι)
    (env : String → Ambient) (transactions : List (ListedTransaction ι)) :
    ReleasesOrphans builtins env transactions (exec BudgetEngine.call BudgetEngine.new calls)
      ↔ Auditable builtins transactions (exec BudgetEngine.call BudgetEngine.new calls) :=
  ⟨auditable_of_releasesOrphans (BudgetEngine.exec_wellFormed calls) (exec_filed calls),
    releasesOrphans_of_auditable (BudgetEngine.exec_wellFormed calls) (exec_filed calls)⟩

end

/-! ## One failed payment beside an open one -/

/-- A mandate of 1000 with 300 reserved for a first payment and 200 for a second. -/
def twoReserved : List BudgetCall :=
  [.register ⟨0, "b"⟩ "m" 1000 .inr none 0 0,
    .reserve ⟨0, "u"⟩ "m" "t1" 300 .inr (some "r1") 300 none,
    .reserve ⟨0, "u"⟩ "m" "t2" 200 .inr (some "r2") 300 none]

def failedFirst : ListedTransaction Empty := fun key =>
  if key = "mandate_id" then some (.text "m")
  else if key = "transaction_id" then some (.text "t1")
  else if key = "state" then some (.text "FAILURE")
  else none

def noObjects : ListedBuiltins Empty := ⟨fun _ => none, fun _ => "", fun _ => .ok 0⟩

def firstReserved : BudgetReservation where
  reservationId := "r1"
  transactionId := "t1"
  mandateId := "m"
  amountPaise := 300
  currency := .inr
  state := .reserved
  createdAt := 0
  expiresAt := 300000000
  updatedAt := 0

/-- The reservation of 300 is reported as one of 500. -/
theorem not_releasesOrphans_beside_open :
    ¬ ReleasesOrphans noObjects (fun _ => ⟨0, ""⟩) [failedFirst]
      (exec BudgetEngine.call BudgetEngine.new twoReserved) := by
  intro h
  have hwhole := (auditable_of_releasesOrphans (BudgetEngine.exec_wellFormed twoReserved)
    (exec_filed twoReserved) h).whole
  have hget : (exec BudgetEngine.call BudgetEngine.new twoReserved).reservations.get "r1"
      = some firstReserved := by decide +kernel
  have horphan : Orphaned [failedFirst] firstReserved := by decide
  have hreserved : ((exec BudgetEngine.call BudgetEngine.new twoReserved).budgets.get "m").map
      DailyBudget.reservedPaise = some 500 := by decide +kernel
  obtain ⟨b, hb, hamount⟩ := Option.map_eq_some_iff.mp hreserved
  have hvalue := OrderedMap.mem_values_iff _ |>.mpr ⟨"r1", hget⟩
  have hown := hwhole firstReserved (mem_orphans.mpr ⟨hvalue, horphan⟩) b hb
  rw [hamount] at hown
  exact absurd hown (by decide)

end RecoveryReconciliationEngine

end MandateGateway
