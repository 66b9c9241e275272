import MandateGateway.Budget.Accounting

/-! # Reservations under a reset

    `register_budget` replaces the budget of a mandate and leaves its
    reservations alone.  The columns of the new budget are within their limit,
    but its reserved column is whatever the caller passes: it may be less than
    what is still reserved, and then a reservation can be neither committed
    nor released.

    The file shows what holds in every state (`WellFormed`), that every call
    but an accepted registration keeps the difference between the reserved
    column and what is reserved (`slack_call`), and from both the exact
    condition under which reservations stay settleable. -/

namespace MandateGateway

open Clock Exceptions OrderedMap Runs

namespace BudgetEngine

variable {e : BudgetEngine}

/-! ## What holds in every state -/

/-- Stored amounts are positive, no reservation has expired or is without a
    budget, and every budget is within its limit. -/
structure WellFormed (e : BudgetEngine) : Prop where
  positive   : ∀ r ∈ e.reservations.values, 0 < r.amountPaise
  unexpired  : ∀ r ∈ e.reservations.values, r.state ≠ .expired
  registered : ∀ r ∈ e.reservations.values, ∃ b, e.budgets.get r.mandateId = some b
  solvent    : ∀ m b, e.budgets.get m = some b →
    0 ≤ b.reservedPaise ∧ b.spentPaise + b.reservedPaise ≤ b.dailyLimitPaise

theorem new_wellFormed : WellFormed new where
  positive := by
    intro r hr
    cases hr
  unexpired := by
    intro r hr
    cases hr
  registered := by
    intro r hr
    cases hr
  solvent := by
    intro m b hb
    cases hb

theorem get_budgets_set {m m' : String} {b : DailyBudget} (b' : DailyBudget)
    (h : e.budgets.get m = some b) : ∃ b'', (e.budgets.set m' b').get m = some b'' := by
  by_cases hm : m = m'
  · rw [hm, get_set_self]
    exact ⟨b', rfl⟩
  · rw [get_set_of_ne _ hm]
    exact ⟨b, h⟩

/-- A new budget and one stored reservation keep the state well formed, when
    both are as they should be. -/
theorem WellFormed.set (h : WellFormed e) {m id : String} {b : DailyBudget}
    {r : BudgetReservation}
    (hb : 0 ≤ b.reservedPaise ∧ b.spentPaise + b.reservedPaise ≤ b.dailyLimitPaise)
    (hpos : 0 < r.amountPaise) (hlive : r.state ≠ .expired) (hm : r.mandateId = m) :
    WellFormed ⟨e.budgets.set m b, e.reservations.set id r⟩ where
  positive := by
    intro x hx
    rcases e.reservations.mem_values_set hx with rfl | hold
    · exact hpos
    · exact h.positive x hold
  unexpired := by
    intro x hx
    rcases e.reservations.mem_values_set hx with rfl | hold
    · exact hlive
    · exact h.unexpired x hold
  registered := by
    intro x hx
    rcases e.reservations.mem_values_set hx with rfl | hold
    · rw [hm]
      exact ⟨b, get_set_self ..⟩
    · obtain ⟨b', hb'⟩ := h.registered x hold
      exact get_budgets_set b hb'
  solvent := by
    intro m' b' hb'
    by_cases hne : m' = m
    · rw [hne, get_set_self, Option.some.injEq] at hb'
      rw [← hb']
      exact hb
    · rw [get_set_of_ne _ hne] at hb'
      exact h.solvent m' b' hb'

/-- **Every call keeps the state well formed**, a reset included. -/
theorem WellFormed.call (h : WellFormed e) (c : BudgetCall) : WellFormed (e.call c).2 := by
  have heff := call_effect e c
  generalize (e.call c).1 = reply at heff
  generalize (e.call c).2 = e' at heff
  cases heff with
  | refused => exact h
  | @registered env m limit cur date spent reserved b hreg hlimit hspent hreserved =>
      refine ⟨h.positive, h.unexpired, ?_, ?_⟩
      · intro r hr
        obtain ⟨b', hb'⟩ := h.registered r hr
        exact get_budgets_set b hb'
      · intro m' b' hb'
        by_cases hne : m' = m
        · rw [hne, get_set_self, Option.some.injEq] at hb'
          rw [← hb', hlimit, hspent, hreserved]
          exact ⟨hreg.2.2.1, hreg.2.2.2⟩
        · rw [get_set_of_ne _ hne] at hb'
          exact h.solvent m' b' hb'
  | @reserved env m tx amount cur resId ttl at? b id r result hb hid hpos hroom hm hamount
      hstate hvalid =>
      obtain ⟨hnonneg, -⟩ := h.solvent m b hb
      refine h.set ⟨?_, ?_⟩ ?_ ?_ hm
      · dsimp only
        omega
      · dsimp only
        omega
      · rw [hamount]
        exact hpos
      · rw [hstate]
        decide
  | @committed env m id at? b r r' hb hid hm hstate hle hr' =>
      obtain ⟨-, hwithin⟩ := h.solvent m b hb
      subst hr'
      refine h.set ⟨?_, ?_⟩ ?_ ?_ hm
      · dsimp only
        omega
      · dsimp only
        omega
      · exact h.positive r (e.reservations.mem_values_iff.mpr ⟨id, hid⟩)
      · show BudgetState.committed ≠ .expired
        decide
  | @released env m id at? b r r' hb hid hm hstate hle hr' =>
      obtain ⟨-, hwithin⟩ := h.solvent m b hb
      have hpos := h.positive r (e.reservations.mem_values_iff.mpr ⟨id, hid⟩)
      subst hr'
      refine h.set ⟨?_, ?_⟩ hpos ?_ hm
      · dsimp only
        omega
      · dsimp only
        omega
      · show BudgetState.released ≠ .expired
        decide

theorem exec_wellFormed (calls : List BudgetCall) :
    WellFormed (exec BudgetEngine.call new calls) :=
  exec_inv (I := WellFormed) (fun _ c h => h.call c) new_wellFormed calls

/-! ## The slack of a mandate -/

/-- What a reservation counts towards the reserved amount of `m`. -/
def heldShare (m : String) (r : BudgetReservation) : Int :=
  if r.mandateId = m ∧ r.state = .reserved then r.amountPaise else 0

theorem amountIn_eq_total (e : BudgetEngine) (m : String) :
    e.amountIn m .reserved = total (heldShare m) e.reservations :=
  (total_ite _ _ _).symm

/-- How far the reserved column of a mandate exceeds what is reserved. -/
def slack (e : BudgetEngine) (m : String) : Option Int :=
  (e.budgets.get m).map fun b => b.reservedPaise - e.amountIn m .reserved

theorem heldShare_of_ne {m m' : String} {r : BudgetReservation} (hm : r.mandateId = m)
    (hne : m' ≠ m) : heldShare m' r = 0 := by
  refine if_neg ?_
  rintro ⟨hm', -⟩
  exact hne (hm'.symm.trans hm)

theorem heldShare_of_not_reserved {m : String} {r : BudgetReservation}
    (h : r.state ≠ .reserved) : heldShare m r = 0 := by
  refine if_neg ?_
  rintro ⟨-, hstate⟩
  exact h hstate

/-- A change of one budget and of one reservation of the same mandate that
    moves both by the same amount keeps the slack of every mandate. -/
theorem slack_set {m id : String} {b b' : DailyBudget} {r : BudgetReservation} {d : Int}
    (hb : e.budgets.get m = some b) (hreserved : b'.reservedPaise = b.reservedPaise + d)
    (hself : total (heldShare m) (e.reservations.set id r)
      = total (heldShare m) e.reservations + d)
    (hother : ∀ m', m' ≠ m → total (heldShare m') (e.reservations.set id r)
      = total (heldShare m') e.reservations) (m' : String) :
    slack ⟨e.budgets.set m b', e.reservations.set id r⟩ m' = slack e m' := by
  rw [slack, slack, amountIn_eq_total, amountIn_eq_total]
  dsimp only
  by_cases hne : m' = m
  · rw [hne, get_set_self, hb, hself, Option.map_some, Option.map_some, hreserved,
      add_sub_add_right_eq_sub]
  · rw [get_set_of_ne _ hne, hother m' hne]

theorem total_heldShare_resolve {m id : String} {r r' : BudgetReservation}
    (hid : e.reservations.get id = some r) (hm : r.mandateId = m) (hm' : r'.mandateId = m)
    (hstate : r.state = .reserved) (hstate' : r'.state ≠ .reserved) :
    total (heldShare m) (e.reservations.set id r')
        = total (heldShare m) e.reservations + -r.amountPaise
      ∧ ∀ m', m' ≠ m → total (heldShare m') (e.reservations.set id r')
        = total (heldShare m') e.reservations := by
  constructor
  · have hold : heldShare m r = r.amountPaise := if_pos ⟨hm, hstate⟩
    have hnew : heldShare m r' = 0 := heldShare_of_not_reserved hstate'
    have hsum := total_set_of_get (heldShare m) r' hid
    rw [hold, hnew] at hsum
    omega
  · intro m' hne
    have hsum := total_set_of_get (heldShare m') r' hid
    rw [heldShare_of_ne hm hne, heldShare_of_ne hm' hne] at hsum
    omega

/-- **A call that registers nothing keeps every slack.** -/
theorem slack_call (h : WellFormed e) {c : BudgetCall}
    (hc : ∀ reg, c.registration = some reg → ¬ reg.Accepted) (m : String) :
    slack (e.call c).2 m = slack e m := by
  have heff := call_effect e c
  generalize (e.call c).1 = reply at heff
  generalize (e.call c).2 = e' at heff
  cases heff with
  | refused => rfl
  | registered b hreg => exact absurd hreg (hc _ rfl)
  | @reserved env m tx amount cur resId ttl at? b id r result hb hid hpos hroom hm hamount
      hstate hvalid =>
      refine slack_set hb rfl ?_ ?_ _
      · rw [total_set_new _ _ hid, heldShare, if_pos ⟨hm, hstate⟩, hamount]
      · intro m' hne
        rw [total_set_new _ _ hid, heldShare_of_ne hm hne, add_zero]
  | @committed env m id at? b r r' hb hid hm hstate hle hr' =>
      have hm' : r'.mandateId = m := by
        rw [hr']
        exact hm
      have hstate' : r'.state ≠ .reserved := by
        rw [hr']
        show BudgetState.committed ≠ .reserved
        decide
      obtain ⟨hself, hother⟩ := total_heldShare_resolve hid hm hm' hstate hstate'
      exact slack_set hb rfl hself hother _
  | @released env m id at? b r r' hb hid hm hstate hle hr' =>
      -- no reservation has expired, so the released one was reserved
      have hlive := h.unexpired r (e.reservations.mem_values_iff.mpr ⟨id, hid⟩)
      have hm' : r'.mandateId = m := by
        rw [hr']
        exact hm
      have hstate' : r'.state ≠ .reserved := by
        rw [hr']
        show BudgetState.released ≠ .reserved
        decide
      obtain ⟨hself, hother⟩ :=
        total_heldShare_resolve hid hm hm' (hstate.resolve_right hlive) hstate'
      exact slack_set hb rfl hself hother _

theorem slack_register {c : BudgetCall} {reg : Registration}
    (hc : c.registration = some reg) (hacc : reg.Accepted) (m : String) :
    slack (e.call c).2 m
      = if m = reg.mandateId then
          some (reg.reservedPaise - e.amountIn reg.mandateId .reserved)
        else slack e m := by
  have heff := call_effect e c
  generalize (e.call c).1 = reply at heff
  generalize (e.call c).2 = e' at heff
  cases heff with
  | refused _ hreg => exact absurd hacc (hreg reg hc)
  | @registered env m' limit cur date spent reserved b hreg hlimit hspent hreserved =>
      obtain rfl := Option.some.inj hc
      show ((e.budgets.set m' b).get m).map _ = _
      by_cases hm : m = m'
      · rw [if_pos hm, hm, get_set_self, Option.map_some, hreserved]
        rfl
      · rw [if_neg hm, get_set_of_ne _ hm]
        rfl
  | reserved => cases hc
  | committed => cases hc
  | released => cases hc

/-! ## Settling a reservation -/

structure CanSettle (e : BudgetEngine) (id : String) (r : BudgetReservation) : Prop where
  commits  : ∀ env at?, ∃ r', (e.call (.commit env r.mandateId id at?)).1 = .resolved r'
  releases : ∀ env at?, ∃ r', (e.call (.release env r.mandateId id at?)).1 = .resolved r'

/-- Every reservation in state RESERVED can be settled, and every budget is
    within its limit. -/
structure Settleable (e : BudgetEngine) : Prop where
  settles : ∀ id r, e.reservations.get id = some r → r.state = .reserved → CanSettle e id r
  solvent : ∀ m b, e.budgets.get m = some b →
    0 ≤ b.reservedPaise ∧ b.spentPaise + b.reservedPaise ≤ b.dailyLimitPaise

/-- A reservation that may be resolved is resolved when its amount can be
    moved, and otherwise the call raises what the move raises. -/
theorem resolve_of_get (refusal : String → BudgetState → Option String)
    (move : Instant → DailyBudget → Int → Except PyError DailyBudget) (target : BudgetState)
    {id : String} {r : BudgetReservation} {b : DailyBudget}
    (hid : e.reservations.get id = some r) (href : refusal id r.state = none)
    (hb : e.budgets.get r.mandateId = some b) (env : Ambient) (at? : Option Instant) :
    (e.resolve refusal move target env r.mandateId id at?).1
      = match move env.now b r.amountPaise with
        | .error err => .error err
        | .ok _ => .ok { r with state := target, updatedAt := env.time at? } := by
  have hm : ¬ r.mandateId ≠ r.mandateId := by
    intro hne
    exact hne rfl
  simp only [resolve, hid, if_neg hm, href, hb]
  cases move env.now b r.amountPaise with
  | error err => rfl
  | ok b' => rfl

theorem commit_resolves_iff {id : String} {r : BudgetReservation} {b : DailyBudget}
    (hid : e.reservations.get id = some r) (hstate : r.state = .reserved)
    (hb : e.budgets.get r.mandateId = some b) (env : Ambient) (at? : Option Instant) :
    (∃ r', (e.call (.commit env r.mandateId id at?)).1 = .resolved r')
      ↔ r.amountPaise ≤ b.reservedPaise := by
  have hrun := resolve_of_get commitRefusal commitReservation .committed hid
    (commitRefusal_eq_none_iff.mpr hstate) hb env at?
  rw [call, commit]
  dsimp only
  rw [hrun, commitReservation]
  by_cases hle : r.amountPaise > b.reservedPaise
  · rw [if_pos hle]
    constructor
    · rintro ⟨r', h⟩
      cases h
    · intro h
      exact absurd hle (Int.not_lt.mpr h)
  · rw [if_neg hle]
    constructor
    · intro _
      exact Int.not_lt.mp hle
    · intro _
      exact ⟨_, rfl⟩

theorem release_resolves {id : String} {r : BudgetReservation} {b : DailyBudget}
    (hid : e.reservations.get id = some r) (hstate : r.state = .reserved)
    (hb : e.budgets.get r.mandateId = some b) (hle : r.amountPaise ≤ b.reservedPaise)
    (env : Ambient) (at? : Option Instant) :
    ∃ r', (e.call (.release env r.mandateId id at?)).1 = .resolved r' := by
  have hrun := resolve_of_get releaseRefusal releaseReservation .released hid
    (releaseRefusal_eq_none_iff.mpr (Or.inl hstate)) hb env at?
  rw [call, release]
  dsimp only
  rw [hrun, releaseReservation, if_neg (Int.not_lt.mpr hle)]
  exact ⟨_, rfl⟩

/-- Every mandate's reserved column covers what is reserved. -/
def Covered (e : BudgetEngine) : Prop := ∀ m d, slack e m = some d → 0 ≤ d

theorem heldShare_nonneg (h : WellFormed e) (m : String) {r : BudgetReservation}
    (hr : r ∈ e.reservations.values) : 0 ≤ heldShare m r := by
  rw [heldShare]
  by_cases hheld : r.mandateId = m ∧ r.state = .reserved
  · rw [if_pos hheld]
    exact Int.le_of_lt (h.positive r hr)
  · rw [if_neg hheld]

theorem amount_le_amountIn (h : WellFormed e) {id : String} {r : BudgetReservation}
    (hid : e.reservations.get id = some r) (hstate : r.state = .reserved) :
    r.amountPaise ≤ e.amountIn r.mandateId .reserved := by
  have hmem := e.reservations.mem_values_iff.mpr ⟨id, hid⟩
  have hshare : heldShare r.mandateId r = r.amountPaise := if_pos ⟨rfl, hstate⟩
  rw [amountIn_eq_total, ← hshare]
  refine List.single_le_sum ?_ _ (List.mem_map_of_mem hmem)
  intro w hw
  obtain ⟨x, hx, rfl⟩ := List.mem_map.mp hw
  exact heldShare_nonneg h _ hx

/-- **Covered reservations can be settled.** -/
theorem Covered.settleable (hwf : WellFormed e) (h : Covered e) : Settleable e := by
  refine ⟨?_, hwf.solvent⟩
  intro id r hid hstate
  obtain ⟨b, hb⟩ := hwf.registered r (e.reservations.mem_values_iff.mpr ⟨id, hid⟩)
  have hslack : 0 ≤ b.reservedPaise - e.amountIn r.mandateId .reserved := by
    refine h r.mandateId _ ?_
    rw [slack, hb]
    rfl
  have hamount := amount_le_amountIn hwf hid hstate
  have hle : r.amountPaise ≤ b.reservedPaise := by omega
  exact ⟨fun env at? => (commit_resolves_iff hid hstate hb env at?).mpr hle,
    release_resolves hid hstate hb hle⟩

theorem exists_reserved_of_amountIn {m : String} (h : e.amountIn m .reserved ≠ 0) :
    ∃ id r, e.reservations.get id = some r ∧ r.mandateId = m ∧ r.state = .reserved := by
  obtain ⟨w, hw, hne⟩ := List.exists_mem_ne_zero_of_sum_ne_zero h
  obtain ⟨r, hr, rfl⟩ := List.mem_map.mp hw
  obtain ⟨hmem, hheld⟩ := List.mem_filter.mp hr
  obtain ⟨id, hid⟩ := e.reservations.mem_values_iff.mp hmem
  obtain ⟨hm, hstate⟩ := of_decide_eq_true hheld
  exact ⟨id, r, hid, hm, hstate⟩

/-- **A mandate that is not covered runs into a reservation that cannot be
    settled**, by committing its reservations one after the other. -/
theorem exists_stuck (h : WellFormed e) {m : String} {d : Int} (hslack : slack e m = some d)
    (hneg : d < 0) :
    ∃ more, (∀ c ∈ more, BudgetCall.registration c = none)
      ∧ ¬ Settleable (exec BudgetEngine.call e more) := by
  -- on what is still reserved, which each commit lowers
  induction hn : (e.amountIn m .reserved).toNat using Nat.strong_induction_on
    generalizing e with
  | _ n ih =>
      obtain ⟨b, hb, hd⟩ := Option.map_eq_some_iff.mp hslack
      obtain ⟨hnonneg, -⟩ := h.solvent m b hb
      obtain ⟨id, r, hid, rfl, hstate⟩ := exists_reserved_of_amountIn (e := e) (m := m)
        (by omega)
      let c : BudgetCall := .commit ⟨0, ""⟩ r.mandateId id none
      by_cases hle : r.amountPaise ≤ b.reservedPaise
      · have hpos := h.positive r (e.reservations.mem_values_iff.mpr ⟨id, hid⟩)
        obtain ⟨r', hreply⟩ := (commit_resolves_iff hid hstate hb ⟨0, ""⟩ none).mpr hle
        have hkeep : slack (e.call c).2 r.mandateId = some d := by
          rw [slack_call h (by intro reg hreg; cases hreg), hslack]
        have hlower : ((e.call c).2.amountIn r.mandateId .reserved).toNat < n := by
          have heff : Effect e (.commit ⟨0, ""⟩ r.mandateId id none) (e.call c).1 (e.call c).2 :=
            call_effect e c
          rw [hreply] at heff
          generalize (e.call c).2 = e' at heff hkeep
          cases heff with
          | refused hrefuses => cases hrefuses
          | committed hb' hid' _ _ _ _ =>
              obtain rfl := Option.some.inj (hb.symm.trans hb')
              obtain rfl := Option.some.inj (hid.symm.trans hid')
              rw [slack, get_set_self, Option.map_some, Option.some.injEq] at hkeep
              change b.reservedPaise - r.amountPaise - _ = d at hkeep
              omega
        obtain ⟨more, hmore, hstuck⟩ := ih _ hlower (h.call c) hkeep rfl
        refine ⟨c :: more, ?_, hstuck⟩
        rw [List.forall_mem_cons]
        exact ⟨rfl, hmore⟩
      · refine ⟨[], ?_, ?_⟩
        · intro c' hc'
          cases hc'
        · intro hsettle
          exact hle ((commit_resolves_iff hid hstate hb ⟨0, ""⟩ none).mp
            ((hsettle.settles id r hid hstate).commits ⟨0, ""⟩ none))

/-! ## Runs -/

/-- An accepted registration that carries at least what is still reserved. -/
def CarriesReserved (c : Step BudgetEngine BudgetCall BudgetReply) : Prop :=
  ∀ reg, c.act.registration = some reg → reg.Accepted →
    c.pre.amountIn reg.mandateId .reserved ≤ reg.reservedPaise

theorem Covered.call (hwf : WellFormed e) (h : Covered e) (c : BudgetCall)
    (hc : CarriesReserved (stepAt BudgetEngine.call e c)) : Covered (e.call c).2 := by
  intro m d hd
  by_cases hreg : ∃ reg, c.registration = some reg ∧ reg.Accepted
  · obtain ⟨reg, hcall, hacc⟩ := hreg
    have hcarries : e.amountIn reg.mandateId .reserved ≤ reg.reservedPaise := hc reg hcall hacc
    rw [slack_register hcall hacc] at hd
    by_cases hm : m = reg.mandateId
    · rw [if_pos hm, Option.some.injEq] at hd
      omega
    · rw [if_neg hm] at hd
      exact h m d hd
  · rw [slack_call hwf] at hd
    · exact h m d hd
    · intro reg hcall hacc
      exact hreg ⟨reg, hcall, hacc⟩

theorem new_covered : Covered new := by
  intro m d hd
  cases hd

/-- **Exactly when reservations stay settleable**: in every state that calls
    other than `register_budget` reach from a state of the run, every RESERVED
    reservation can be committed and released, if and only if each accepted
    registration of the run carries at least the amount its mandate then has
    reserved. -/
theorem reservations_settle_iff (calls : List BudgetCall) :
    (∀ l more, l <+: calls → (∀ c ∈ more, BudgetCall.registration c = none) →
        Settleable (exec BudgetEngine.call new (l ++ more)))
      ↔ ∀ c ∈ steps BudgetEngine.call new calls, CarriesReserved c := by
  constructor
  · intro hsettle c hc reg hreg hacc
    obtain ⟨l, a, r, rfl, rfl⟩ := mem_steps_iff.mp hc
    rw [stepAt_act] at hreg
    rw [stepAt_pre]
    by_contra hshort
    -- the registration leaves its mandate short, and commits reach the stuck one
    have hwf := exec_wellFormed (l ++ [a])
    have hslack := slack_register (e := exec BudgetEngine.call new l) hreg hacc reg.mandateId
    rw [if_pos rfl] at hslack
    have hlast : exec BudgetEngine.call new (l ++ [a])
        = ((exec BudgetEngine.call new l).call a).2 := exec_append _ _ _
    rw [← hlast] at hslack
    obtain ⟨more, hmore, hstuck⟩ := exists_stuck hwf hslack (by omega)
    refine hstuck ?_
    rw [← exec_append]
    refine hsettle (l ++ [a]) more ?_ hmore
    exact ⟨r, by rw [List.append_assoc]; rfl⟩
  · rintro hcarries l more ⟨rest, rfl⟩ hmore
    have hinv : WellFormed (exec BudgetEngine.call new (l ++ more))
        ∧ Covered (exec BudgetEngine.call new (l ++ more)) := by
      refine exec_inv_of_steps (I := fun e => WellFormed e ∧ Covered e)
        (P := CarriesReserved) ?_ ⟨new_wellFormed, new_covered⟩ ?_
      · rintro e c ⟨hwf, hcov⟩ hc
        exact ⟨hwf.call c, hcov.call hwf c hc⟩
      · intro c hc
        rw [steps_append, List.mem_append] at hc
        rcases hc with hrun | hlater
        · refine hcarries c ?_
          rw [steps_append, List.mem_append]
          exact Or.inl hrun
        · intro reg hreg
          obtain ⟨l', a, r', rfl, rfl⟩ := mem_steps_iff.mp hlater
          rw [stepAt_act, hmore a (List.mem_append_right _ List.mem_cons_self)] at hreg
          cases hreg
    exact hinv.2.settleable hinv.1

/-- A purchase is reserved, and the mandate's budget is reset. -/
def resetWhileReserved : List BudgetCall :=
  let env : Ambient := ⟨1709210096000000, "budget-1"⟩
  [.register env "mandate-1" 1000 .inr none 0 0,
    .reserve env "mandate-1" "tx-1" 400 .inr (some "res-1") 300 none,
    .register env "mandate-1" 1000 .inr none 0 0]

/-- The reservation is RESERVED, and neither `commit` nor `release` accepts it. -/
theorem resetWhileReserved_stuck :
    ∃ r, (exec BudgetEngine.call new resetWhileReserved).reservations.get "res-1" = some r
      ∧ r.state = .reserved
      ∧ (∃ m, ((exec BudgetEngine.call new resetWhileReserved).call
          (.commit ⟨1709210097000000, ""⟩ "mandate-1" "res-1" none)).1 = .raised (.valueError m))
      ∧ ∃ m, ((exec BudgetEngine.call new resetWhileReserved).call
          (.release ⟨1709210097000000, ""⟩ "mandate-1" "res-1" none)).1
            = .raised (.valueError m) :=
  ⟨_, rfl, rfl, ⟨_, rfl⟩, ⟨_, rfl⟩⟩

end BudgetEngine

end MandateGateway
