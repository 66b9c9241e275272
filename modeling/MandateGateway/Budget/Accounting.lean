import MandateGateway.Budget.Effects
import MandateGateway.Lib.Escrow
import MandateGateway.Lib.Runs
import Mathlib.Algebra.Order.Group.Int

/-! # The books of the budget engine

    The engine keeps running columns: `spent_paise` and `reserved_paise` are
    changed by each call and never recomputed.  Here they are shown to agree,
    after every run, with the escrow ledger in which both are sums over the
    reservations (`exec_refines`), and what that says of the engine is read
    off in `BudgetEngine.exec_accounts`. -/

namespace MandateGateway

open Clock OrderedMap Escrow Runs

/-- Where a reservation's state puts it in the ledger. -/
def BudgetState.phase : BudgetState → Phase
  | .reserved => .held
  | .committed => .settled
  | _ => .voided

theorem BudgetState.phase_eq_held_iff {st : BudgetState} :
    st.phase = .held ↔ st = .reserved := by
  cases st <;> simp [phase]

theorem BudgetState.phase_eq_settled_iff {st : BudgetState} :
    st.phase = .settled ↔ st = .committed := by
  cases st <;> simp [phase]

def BudgetReservation.toHold (r : BudgetReservation) : Hold String Int :=
  ⟨r.mandateId, r.amountPaise, r.state.phase⟩

namespace BudgetEngine

/-- **The engine's stores implement the ledger `L`.** -/
structure Refines (e : BudgetEngine) (L : Ledger String String Int) : Prop where
  holds     : L.holds = e.reservations.mapValues BudgetReservation.toHold
  unexpired : ∀ r ∈ e.reservations.values, r.state ≠ .expired
  unopened  : ∀ m, e.budgets.get m = none → L.openings m = none
  columns   : ∀ m b, e.budgets.get m = some b → ∃ o, L.openings m = some o
    ∧ b.dailyLimitPaise = o.limit ∧ b.spentPaise = L.settled m o
    ∧ b.reservedPaise = L.held m o

theorem new_refines : Refines new Ledger.empty where
  holds := rfl
  unexpired := fun _ hr => nomatch hr
  unopened := fun _ _ => rfl
  columns := fun _ _ hb => nomatch hb

variable {e : BudgetEngine} {L : Ledger String String Int}

theorem Refines.get_hold (h : Refines e L) (id : String) :
    L.holds.get id = (e.reservations.get id).map BudgetReservation.toHold := by
  rw [h.holds, get_mapValues]

/-- Registering a new mandate opens its account. -/
theorem Refines.register (h : Refines e L) {m : String} {b : DailyBudget}
    (hm : e.budgets.get m = none) (o : Opening Int) (hlimit : b.dailyLimitPaise = o.limit)
    (hspent : b.spentPaise = o.settled) (hreserved : b.reservedPaise = o.held) :
    Refines { e with budgets := e.budgets.set m b }
      (L.openAccount m o (h.unopened m hm)) where
  holds := h.holds
  unexpired := h.unexpired
  unopened := by
    intro m' hm'
    have hne : m' ≠ m := by
      rintro rfl
      rw [get_set_self] at hm'
      cases hm'
    rw [get_set_of_ne _ hne] at hm'
    show Function.update L.openings m (some o) m' = none
    rw [Function.update_of_ne hne]
    exact h.unopened m' hm'
  columns := by
    intro m' b' hb'
    by_cases hne : m' = m
    · subst hne
      rw [get_set_self, Option.some.injEq] at hb'
      subst hb'
      have hopen := h.unopened m' hm
      refine ⟨o, Function.update_self .., hlimit, ?_, ?_⟩
      · show b.spentPaise = o.settled + phaseTotal .settled m' L.holds
        rw [L.phaseTotal_unopened _ hopen, add_zero, hspent]
      · show b.reservedPaise = o.held + phaseTotal .held m' L.holds
        rw [L.phaseTotal_unopened _ hopen, add_zero, hreserved]
    · rw [get_set_of_ne _ hne] at hb'
      obtain ⟨o', ho', hcols⟩ := h.columns m' b' hb'
      exact ⟨o', (Function.update_of_ne hne ..).trans ho', hcols⟩

theorem Refines.get_budget_eq_none (h : Refines e L) {m : String}
    (hm : L.openings m = none) : e.budgets.get m = none := by
  cases hb : e.budgets.get m with
  | none => rfl
  | some b =>
      obtain ⟨o, ho, -⟩ := h.columns m b hb
      rw [hm] at ho
      cases ho

/-- A change of one registered budget and of the reservations is a change of
    the ledger, when the account's columns follow and the other accounts keep
    theirs. -/
theorem Refines.update (h : Refines e L) {L' : Ledger String String Int} {m : String}
    {b b' : DailyBudget} {rs : OrderedMap String BudgetReservation}
    (hb : e.budgets.get m = some b) (hopen : L'.openings = L.openings)
    (hholds : L'.holds = rs.mapValues BudgetReservation.toHold)
    (hlive : ∀ r ∈ rs.values, r.state ≠ .expired)
    (hself : ∀ o, b.dailyLimitPaise = o.limit → b.spentPaise = L.settled m o →
      b.reservedPaise = L.held m o → b'.dailyLimitPaise = o.limit
        ∧ b'.spentPaise = L'.settled m o ∧ b'.reservedPaise = L'.held m o)
    (hother : ∀ m' o, m' ≠ m →
      L'.settled m' o = L.settled m' o ∧ L'.held m' o = L.held m' o) :
    Refines ⟨e.budgets.set m b', rs⟩ L' := by
  refine ⟨hholds, hlive, ?_, ?_⟩
  · intro m' hm'
    rw [hopen]
    by_cases hne : m' = m
    · subst hne
      rw [get_set_self] at hm'
      cases hm'
    · rw [get_set_of_ne _ hne] at hm'
      exact h.unopened m' hm'
  · intro m' b'' hb''
    rw [hopen]
    by_cases hne : m' = m
    · subst hne
      rw [get_set_self, Option.some.injEq] at hb''
      subst hb''
      obtain ⟨o, ho, hl, hs, hr⟩ := h.columns m' b hb
      exact ⟨o, ho, hself o hl hs hr⟩
    · rw [get_set_of_ne _ hne] at hb''
      obtain ⟨o, ho, hl, hs, hr⟩ := h.columns m' b'' hb''
      obtain ⟨hs', hr'⟩ := hother m' o hne
      exact ⟨o, ho, hl, hs.trans hs'.symm, hr.trans hr'.symm⟩

/-- A granted reservation places a hold. -/
theorem Refines.reserve (h : Refines e L) {m id : String} {b b' : DailyBudget}
    {r : BudgetReservation} {amount : Int} (hb : e.budgets.get m = some b)
    (hid : e.reservations.get id = none) (hpos : 0 < amount)
    (hroom : b.spentPaise + b.reservedPaise + amount ≤ b.dailyLimitPaise)
    (hm : r.mandateId = m) (hamount : r.amountPaise = amount) (hstate : r.state = .reserved)
    (hlimit' : b'.dailyLimitPaise = b.dailyLimitPaise) (hspent' : b'.spentPaise = b.spentPaise)
    (hreserved' : b'.reservedPaise = b.reservedPaise + amount) :
    ∃ L', L'.openings = L.openings
      ∧ Refines ⟨e.budgets.set m b', e.reservations.set id r⟩ L' := by
  obtain ⟨o, ho, hlimit, hspent, hreserved⟩ := h.columns m b hb
  have hid' : L.holds.get id = none := by
    rw [h.get_hold, hid]
    rfl
  have hroom' : L.settled m o + L.held m o + amount ≤ o.limit := by
    rw [← hlimit, ← hspent, ← hreserved]
    exact hroom
  refine ⟨L.place id m amount o hid' ho (Int.le_of_lt hpos) hroom', rfl,
    h.update hb rfl ?_ ?_ ?_ ?_⟩
  · have hhold : r.toHold = ⟨m, amount, .held⟩ := by
      rw [BudgetReservation.toHold, hm, hamount, hstate]
      rfl
    show L.holds.set id ⟨m, amount, .held⟩ = (e.reservations.set id r).mapValues _
    rw [mapValues_set, ← h.holds, hhold]
  · intro x hx
    rcases e.reservations.mem_values_set hx with rfl | hold
    · rw [hstate]
      exact nofun
    · exact h.unexpired x hold
  · intro o' hl hs hr
    rw [L.settled_place, L.held_place, if_pos rfl]
    exact ⟨hlimit'.trans hl, hspent'.trans hs, by rw [hreserved', hr]⟩
  · intro m' o' hne
    rw [L.settled_place, L.held_place, if_neg (Ne.symm hne), add_zero]
    exact ⟨rfl, rfl⟩

/-- Committing a reservation settles its hold, releasing it voids the hold. -/
theorem Refines.resolve (h : Refines e L) {m id : String} {b b' : DailyBudget}
    {r r' : BudgetReservation} {q : Phase} (hb : e.budgets.get m = some b)
    (hid : e.reservations.get id = some r) (hm : r.mandateId = m)
    (hstate : r.state = .reserved) (hr' : r'.toHold = { r.toHold with phase := q })
    (hq : q ≠ .held) (hlive : r'.state ≠ .expired)
    (hlimit' : b'.dailyLimitPaise = b.dailyLimitPaise)
    (hspent' : b'.spentPaise = b.spentPaise + if q = .settled then r.amountPaise else 0)
    (hreserved' : b'.reservedPaise = b.reservedPaise - r.amountPaise) :
    ∃ L', L'.openings = L.openings
      ∧ Refines ⟨e.budgets.set m b', e.reservations.set id r'⟩ L' := by
  have hid' : L.holds.get id = some r.toHold := by
    rw [h.get_hold, hid]
    rfl
  have hheld : r.toHold.phase = .held := BudgetState.phase_eq_held_iff.mpr hstate
  refine ⟨L.resolve id r.toHold q hid' hheld hq, rfl, h.update hb rfl ?_ ?_ ?_ ?_⟩
  · show L.holds.set id { r.toHold with phase := q } = (e.reservations.set id r').mapValues _
    rw [mapValues_set, ← h.holds, hr']
  · intro x hx
    rcases e.reservations.mem_values_set hx with rfl | hold
    · exact hlive
    · exact h.unexpired x hold
  · intro o hl hs hr
    have hshare : r.toHold.share m = r.amountPaise := if_pos hm
    rw [L.settled_resolve, L.held_resolve, hshare]
    exact ⟨hlimit'.trans hl, by rw [hspent', hs], by rw [hreserved', hr]⟩
  · intro m' o hne
    have hshare : r.toHold.share m' = 0 := if_neg fun hc => hne (hc.symm.trans hm)
    rw [L.settled_resolve, L.held_resolve, hshare, ite_self, add_zero, sub_zero]
    exact ⟨rfl, rfl⟩

/-! ## Runs -/

/-- The registrations among the calls, in order. -/
def registrations (calls : List BudgetCall) : List Registration :=
  calls.filterMap BudgetCall.registration

/-- `o` is the opening that a registration asks for. -/
def Opens (reg : Registration) (o : Opening Int) : Prop :=
  o.limit = reg.dailyLimitPaise ∧ o.settled = reg.spentPaise ∧ o.held = reg.reservedPaise

/-- The accounts of the ledger are those the accepted registrations opened. -/
structure Opened (calls : List BudgetCall) (L : Ledger String String Int) : Prop where
  complete : ∀ reg ∈ registrations calls, reg.Accepted →
    ∃ o, L.openings reg.mandateId = some o ∧ Opens reg o
  sound    : ∀ m o, L.openings m = some o →
    ∃ reg ∈ registrations calls, reg.Accepted ∧ reg.mandateId = m

theorem Opened.append_other {calls : List BudgetCall} {c : BudgetCall}
    {L' : Ledger String String Int} (h : Opened calls L) (hopen : L'.openings = L.openings)
    (hc : ∀ reg, c.registration = some reg → ¬ reg.Accepted) : Opened (calls ++ [c]) L' := by
  have hreg : ∀ reg, reg.Accepted →
      (reg ∈ registrations (calls ++ [c]) ↔ reg ∈ registrations calls) := by
    intro reg hacc
    rw [registrations, List.filterMap_append, List.mem_append]
    constructor
    · rintro (hl | hr)
      · exact hl
      · obtain ⟨c', hc', hreg⟩ := List.mem_filterMap.mp hr
        rw [List.mem_singleton.mp hc'] at hreg
        exact absurd hacc (hc reg hreg)
    · exact Or.inl
  refine ⟨?_, ?_⟩
  · intro reg hmem hacc
    rw [hopen]
    exact h.complete reg ((hreg reg hacc).mp hmem) hacc
  · intro m o ho
    rw [hopen] at ho
    obtain ⟨reg, hmem, hacc, hm⟩ := h.sound m o ho
    exact ⟨reg, (hreg reg hacc).mpr hmem, hacc, hm⟩

theorem Opened.append_refines {calls : List BudgetCall} {c : BudgetCall}
    {e' : BudgetEngine} (h : Opened calls L)
    (hc : ∀ reg, c.registration = some reg → ¬ reg.Accepted)
    (hstep : ∃ L', L'.openings = L.openings ∧ Refines e' L') :
    ∃ L', Refines e' L' ∧ Opened (calls ++ [c]) L' := by
  obtain ⟨L', hopen, hL'⟩ := hstep
  exact ⟨L', hL', h.append_other hopen hc⟩

theorem Opened.append_register {calls : List BudgetCall} {c : BudgetCall}
    {reg : Registration} (h : Opened calls L) (hc : c.registration = some reg)
    (hacc : reg.Accepted) (o : Opening Int) (ho : Opens reg o)
    (hfresh : L.openings reg.mandateId = none) :
    Opened (calls ++ [c]) (L.openAccount reg.mandateId o hfresh) := by
  have hregs : registrations (calls ++ [c]) = registrations calls ++ [reg] := by
    rw [registrations, List.filterMap_append, List.filterMap_cons_some hc]
    rfl
  refine ⟨?_, ?_⟩
  · intro reg' hmem hacc'
    rw [hregs, List.mem_append, List.mem_singleton] at hmem
    rcases hmem with hold | rfl
    · obtain ⟨o', ho', hopens⟩ := h.complete reg' hold hacc'
      have hne : reg'.mandateId ≠ reg.mandateId := by
        intro heq
        rw [heq, hfresh] at ho'
        cases ho'
      exact ⟨o', (Function.update_of_ne hne ..).trans ho', hopens⟩
    · exact ⟨o, Function.update_self .., ho⟩
  · intro m o' ho'
    rw [hregs]
    by_cases hm : m = reg.mandateId
    · exact ⟨reg, List.mem_append_right _ (List.mem_singleton_self reg), hacc, hm.symm⟩
    · obtain ⟨reg', hmem, hacc', hm'⟩ :=
        h.sound m o' ((Function.update_of_ne hm ..).symm.trans ho')
      exact ⟨reg', List.mem_append_left _ hmem, hacc', hm'⟩

/-- **One call of the engine is at most one operation of the ledger.** -/
theorem Refines.call (h : Refines e L) {calls : List BudgetCall} (hopened : Opened calls L)
    (c : BudgetCall)
    (hfresh : ∀ reg, c.registration = some reg → L.openings reg.mandateId = none) :
    ∃ L', Refines (e.call c).2 L' ∧ Opened (calls ++ [c]) L' := by
  have heff := call_effect e c
  generalize (e.call c).1 = reply at heff
  generalize (e.call c).2 = e' at heff
  cases heff with
  | refused _ hreg => exact hopened.append_refines hreg ⟨L, rfl, h⟩
  | @registered env m limit cur date spent reserved b hreg hlimit hspent hreserved =>
      have hopen : L.openings m = none := hfresh _ rfl
      let o : Opening Int := ⟨limit, spent, reserved, hreg.2.1, hreg.2.2.1, hreg.2.2.2⟩
      exact ⟨L.openAccount m o hopen,
        h.register (h.get_budget_eq_none hopen) o hlimit hspent hreserved,
        hopened.append_register rfl hreg o ⟨rfl, rfl, rfl⟩ hopen⟩
  | reserved hb hid hpos hroom hm hamount hstate _ =>
      refine hopened.append_refines nofun ?_
      exact h.reserve hb hid hpos hroom hm hamount hstate rfl rfl rfl
  | committed hb hid hm hstate _ hr' =>
      refine hopened.append_refines nofun ?_
      subst hr'
      exact h.resolve (q := .settled) hb hid hm hstate rfl nofun nofun rfl rfl rfl
  | released hb hid hm hstate _ hr' =>
      refine hopened.append_refines nofun ?_
      subst hr'
      -- no run of the engine expires a reservation
      have hlive := h.unexpired _ (e.reservations.mem_values_iff.mpr ⟨_, hid⟩)
      exact h.resolve (q := .voided) hb hid hm (hstate.resolve_right hlive) rfl nofun nofun rfl
        (Int.add_zero _).symm rfl

/-- **The engine refines the escrow ledger over every run** that registers
    each mandate at most once. -/
theorem exec_refines (calls : List BudgetCall)
    (hreg : ((registrations calls).map Registration.mandateId).Nodup) :
    ∃ L, Refines (exec BudgetEngine.call new calls) L ∧ Opened calls L := by
  -- from the right: the last call meets the accounts that the calls before it opened
  induction calls using List.reverseRecOn with
  | nil => exact ⟨Ledger.empty, new_refines, nofun, nofun⟩
  | append_singleton calls c ih =>
      rw [registrations, List.filterMap_append, List.map_append, List.nodup_append] at hreg
      obtain ⟨hold, -, hdisj⟩ := hreg
      obtain ⟨L, hL, hopened⟩ := ih hold
      rw [exec_append]
      refine hL.call hopened c ?_
      intro reg hc
      cases ho : L.openings reg.mandateId with
      | none => rfl
      | some o =>
          -- an open account was registered before, so this would be the second time
          obtain ⟨reg', hmem, -, hm⟩ := hopened.sound _ o ho
          refine absurd hm (hdisj _ (List.mem_map_of_mem hmem) _ ?_)
          rw [List.filterMap_cons_some hc]
          exact List.mem_cons_self

/-! ## What the ledger says of the engine -/

/-- The amounts of a mandate's reservations in a state, summed. -/
def amountIn (e : BudgetEngine) (m : String) (st : BudgetState) : Int :=
  ((e.reservations.values.filter fun r => decide (r.mandateId = m ∧ r.state = st)).map
    BudgetReservation.amountPaise).sum

/-- **The books of a mandate balance**: the columns of its budget are within
    the limit and made of what was registered and its reservations. -/
structure Accounts (e : BudgetEngine) (reg : Registration) (b : DailyBudget) : Prop where
  limit_eq        : b.dailyLimitPaise = reg.dailyLimitPaise
  spent_nonneg    : 0 ≤ b.spentPaise
  reserved_nonneg : 0 ≤ b.reservedPaise
  within          : b.spentPaise + b.reservedPaise ≤ b.dailyLimitPaise
  reserved_eq     : b.reservedPaise = reg.reservedPaise + e.amountIn reg.mandateId .reserved
  spent_eq        : b.spentPaise = reg.spentPaise + e.amountIn reg.mandateId .committed

theorem Refines.phaseTotal_eq (h : Refines e L) (m : String) {p : Phase} {st : BudgetState}
    (hp : ∀ st', BudgetState.phase st' = p ↔ st' = st) :
    phaseTotal p m L.holds = e.amountIn m st := by
  rw [phaseTotal, h.holds, total_mapValues, amountIn, ← total_ite]
  congr 1
  funext r
  show (if r.state.phase = p then if r.mandateId = m then r.amountPaise else 0 else 0)
    = if r.mandateId = m ∧ r.state = st then r.amountPaise else 0
  by_cases hm : r.mandateId = m
  · by_cases hs : r.state = st
    · rw [if_pos ((hp _).mpr hs), if_pos hm, if_pos ⟨hm, hs⟩]
    · rw [if_neg fun hc => hs ((hp _).mp hc), if_neg fun hc => hs hc.2]
  · rw [if_neg hm, ite_self, if_neg fun hc => hm hc.1]

theorem Refines.accounts (h : Refines e L) {reg : Registration} {o : Opening Int}
    (ho : L.openings reg.mandateId = some o) (hopens : Opens reg o) :
    ∃ b, e.budgets.get reg.mandateId = some b ∧ Accounts e reg b := by
  obtain ⟨hlim, hset, hheld⟩ := hopens
  cases hb : e.budgets.get reg.mandateId with
  | none =>
      rw [h.unopened _ hb] at ho
      cases ho
  | some b =>
      obtain ⟨o', ho', hl, hs, hr⟩ := h.columns _ b hb
      obtain rfl : o = o' := Option.some.inj (ho.symm.trans ho')
      refine ⟨b, rfl, hl.trans hlim, ?_, ?_, ?_, ?_, ?_⟩
      · rw [hs]
        exact L.settled_nonneg _ o
      · rw [hr]
        exact L.held_nonneg _ o
      · rw [hs, hr, hl]
        exact L.solvent _ o ho
      · rw [hr, Ledger.held, hheld,
          h.phaseTotal_eq _ fun _ => BudgetState.phase_eq_held_iff]
      · rw [hs, Ledger.settled, hset,
          h.phaseTotal_eq _ fun _ => BudgetState.phase_eq_settled_iff]

theorem exec_accounts {calls : List BudgetCall}
    (hreg : ((registrations calls).map Registration.mandateId).Nodup) {reg : Registration}
    (hmem : reg ∈ registrations calls) (hacc : reg.Accepted) :
    ∃ b, (exec BudgetEngine.call new calls).budgets.get reg.mandateId = some b
      ∧ Accounts (exec BudgetEngine.call new calls) reg b := by
  obtain ⟨L, hL, hopened⟩ := exec_refines calls hreg
  obtain ⟨o, ho, hopens⟩ := hopened.complete reg hmem hacc
  exact hL.accounts ho hopens

theorem exec_registered {calls : List BudgetCall}
    (hreg : ((registrations calls).map Registration.mandateId).Nodup) {m : String}
    {b : DailyBudget} (hb : (exec BudgetEngine.call new calls).budgets.get m = some b) :
    ∃ reg ∈ registrations calls, reg.Accepted ∧ reg.mandateId = m := by
  obtain ⟨L, hL, hopened⟩ := exec_refines calls hreg
  obtain ⟨o, ho, -⟩ := hL.columns m b hb
  exact hopened.sound m o ho

theorem reservation_after_set {rs : OrderedMap String BudgetReservation} {id : String}
    {r : BudgetReservation} (h : rs.get id = some r) (id' : String) {r' : BudgetReservation}
    (hstate : r'.state ≠ .reserved) :
    ∃ r'', (rs.set id' r').get id = some r'' ∧ (r'' = r ∨ r''.state ≠ .reserved) := by
  by_cases hid : id = id'
  · subst hid
    exact ⟨r', get_set_self .., Or.inr hstate⟩
  · exact ⟨r, (get_set_of_ne _ hid _).trans h, Or.inl rfl⟩

theorem reservation_after {id : String} {r : BudgetReservation}
    (h : e.reservations.get id = some r) (c : BudgetCall) :
    ∃ r', (e.call c).2.reservations.get id = some r' ∧ (r' = r ∨ r'.state ≠ .reserved) := by
  have heff := call_effect e c
  generalize (e.call c).1 = reply at heff
  generalize (e.call c).2 = e' at heff
  cases heff with
  | refused => exact ⟨r, h, Or.inl rfl⟩
  | registered => exact ⟨r, h, Or.inl rfl⟩
  | @reserved env m tx amount cur resId ttl at? b id' r' result hb hid =>
      have hne : id ≠ id' := by
        rintro rfl
        rw [h] at hid
        cases hid
      exact ⟨r, (get_set_of_ne _ hne _).trans h, Or.inl rfl⟩
  | committed _ _ _ _ _ hr' =>
      refine reservation_after_set h _ ?_
      rw [hr']
      exact nofun
  | released _ _ _ _ _ hr' =>
      refine reservation_after_set h _ ?_
      rw [hr']
      exact nofun

/-- The reservation `id` is stored and in state RESERVED. -/
def isReserved (id : String) (e : BudgetEngine) : Bool :=
  decide ((e.reservations.get id).map BudgetReservation.state = some .reserved)

theorem isReserved_iff {id : String} {e : BudgetEngine} :
    isReserved id e = true ↔ ∃ r, e.reservations.get id = some r ∧ r.state = .reserved := by
  rw [isReserved, decide_eq_true_iff, Option.map_eq_some_iff]

/-- The step takes the reservation `id` out of RESERVED. -/
def leavesReserved (id : String) (s : Step BudgetEngine BudgetCall BudgetReply) : Bool :=
  isReserved id s.pre && !isReserved id s.post

theorem countP_leavesReserved_le_one (id : String) (e : BudgetEngine)
    (calls : List BudgetCall) :
    (steps BudgetEngine.call e calls).countP (leavesReserved id) ≤ 1 := by
  refine countP_le_one_of_latch (G := fun _ => True)
    (L := fun e => ∃ r, e.reservations.get id = some r ∧ r.state ≠ .reserved) ?_ ?_ ?_ e calls
    fun _ _ => trivial
  -- the latch: the reservation is stored and no longer RESERVED
  · rintro e c hleaves ⟨r', hr', hne⟩
    obtain ⟨r, hr, hstate⟩ := isReserved_iff.mp (Bool.and_eq_true_iff.mp hleaves).1
    exact hne (by rw [← Option.some.inj (hr.symm.trans hr')]; exact hstate)
  · intro e c _ hleaves
    have hpre : isReserved id e = true := (Bool.and_eq_true_iff.mp hleaves).1
    have hpost : (!isReserved id (e.call c).2) = true := (Bool.and_eq_true_iff.mp hleaves).2
    obtain ⟨r, hr, -⟩ := isReserved_iff.mp hpre
    obtain ⟨r', hr', -⟩ := reservation_after hr c
    refine ⟨r', hr', ?_⟩
    intro hst
    have hnot : isReserved id (e.call c).2 = false := by simpa using hpost
    rw [isReserved_iff.mpr ⟨r', hr', hst⟩] at hnot
    cases hnot
  · rintro e c ⟨r, hr, hne⟩
    obtain ⟨r', hr', hcase⟩ := reservation_after hr c
    refine ⟨r', hr', ?_⟩
    rcases hcase with rfl | hst
    · exact hne
    · exact hst

/-- **The budget engine keeps its books over every run** in which each mandate
    is registered once: after each call the books of every accepted
    registration balance and no other mandate has a budget, no reservation
    leaves RESERVED twice, and a call that rejects or raises changes nothing. -/
theorem run_keeps_books (calls : List BudgetCall)
    (hreg : ((registrations calls).map Registration.mandateId).Nodup) :
    (∀ l, l <+: calls →
      (∀ reg ∈ registrations l, reg.Accepted →
        ∃ b, (exec BudgetEngine.call new l).budgets.get reg.mandateId = some b
          ∧ Accounts (exec BudgetEngine.call new l) reg b)
      ∧ ∀ m b, (exec BudgetEngine.call new l).budgets.get m = some b →
          ∃ reg ∈ registrations l, reg.Accepted ∧ reg.mandateId = m)
    ∧ (∀ id, (steps BudgetEngine.call new calls).countP (leavesReserved id) ≤ 1)
    ∧ ∀ s ∈ steps BudgetEngine.call new calls, s.out.refuses = true → s.post = s.pre := by
  refine ⟨?_, fun id => countP_leavesReserved_le_one id new calls, ?_⟩
  · intro l hl
    have hreg' : ((registrations l).map Registration.mandateId).Nodup :=
      hreg.sublist ((hl.sublist.filterMap _).map _)
    exact ⟨fun reg hmem hacc => exec_accounts hreg' hmem hacc,
      fun m b hb => exec_registered hreg' hb⟩
  · intro s hs hrefuses
    obtain ⟨l, c, r, -, rfl⟩ := mem_steps_iff.mp hs
    exact call_eq_of_refuses _ hrefuses

/-- One mandate, a purchase that is committed and a second that does not fit. -/
def twoPurchases : List BudgetCall :=
  let env : Ambient := ⟨1709210096000000, "budget-1"⟩
  [.register env "mandate-1" 1000 .inr none 0 0,
    .reserve env "mandate-1" "tx-1" 400 .inr (some "res-1") 300 none,
    .commit env "mandate-1" "res-1" none,
    .reserve env "mandate-1" "tx-2" 700 .inr (some "res-2") 300 none]

theorem run_keeps_books_of_twoPurchases :
    (∃ b, (exec BudgetEngine.call new twoPurchases).budgets.get "mandate-1" = some b
      ∧ b.spentPaise = 400
      ∧ Accounts (exec BudgetEngine.call new twoPurchases) ⟨"mandate-1", 1000, 0, 0⟩ b)
    ∧ (∀ id, (steps BudgetEngine.call new twoPurchases).countP (leavesReserved id) ≤ 1)
    ∧ ∀ s ∈ steps BudgetEngine.call new twoPurchases, s.out.refuses = true →
        s.post = s.pre := by
  obtain ⟨hbooks, hrest⟩ := run_keeps_books twoPurchases (by decide)
  obtain ⟨b, hb, haccounts⟩ :=
    (hbooks twoPurchases (List.prefix_refl _)).1 ⟨"mandate-1", 1000, 0, 0⟩ (by decide)
      (by decide)
  refine ⟨⟨b, hb, ?_, haccounts⟩, hrest⟩
  have hspent :
      (exec BudgetEngine.call new twoPurchases).amountIn "mandate-1" .committed = 400 := by
    decide
  rw [haccounts.spent_eq]
  exact hspent

end BudgetEngine

end MandateGateway
