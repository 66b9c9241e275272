import MandateGateway.Budget.Effects
import MandateGateway.Lib.Runs

/-! # Commits and the expiry of a reservation

    A reservation carries `expires_at` and could be moved to EXPIRED, but no
    operation of the engine reads the one or writes the other: `commit`
    accepts a reservation by its owner, its state and the mandate's reserved
    total.  Whether a run commits in time is therefore up to its callers, and
    `commits_in_time_iff` says exactly when they see to it. -/

namespace MandateGateway

open Clock OrderedMap Runs

namespace BudgetEngine

/-- `r` is stored under `id` and `commit` of the mandate `m` accepts it. -/
structure Committable (e : BudgetEngine) (m id : String) (r : BudgetReservation) : Prop where
  stored  : e.reservations.get id = some r
  owner   : r.mandateId = m
  state   : r.state = .reserved
  covered : ∃ b, e.budgets.get m = some b ∧ r.amountPaise ≤ b.reservedPaise

variable {e : BudgetEngine}

/-- **`commit` returns exactly for a committable reservation**, whatever its
    expiry. -/
theorem commit_returns_iff {env : Ambient} {m id : String} {at? : Option Instant}
    {r' : BudgetReservation} :
    (e.commit env m id at?).1 = .ok r'
      ↔ ∃ r, Committable e m id r
          ∧ r' = { r with state := .committed, updatedAt := env.time at? } := by
  rw [commit]
  rcases resolve_cases e commitRefusal commitReservation .committed env m id at? with
    ⟨err, h⟩ | ⟨r, b, b', hid, hm, href, hb, hmove, h⟩
  · rw [h]
    constructor
    · intro hok
      cases hok
    · -- the checks of a committable reservation all pass, so nothing is raised
      rintro ⟨r, ⟨hid, hm, hstate, b, hb, hle⟩, -⟩
      have href : commitRefusal id r.state = none := commitRefusal_eq_none_iff.mpr hstate
      have hmove : commitReservation env.now b r.amountPaise = .ok { b with
          reservedPaise := b.reservedPaise - r.amountPaise
          spentPaise := b.spentPaise + r.amountPaise
          updatedAt := env.now } := commitReservation_eq_ok_iff.mpr ⟨hle, rfl⟩
      rw [resolve] at h
      simp only [hid, if_neg (not_not_intro hm), href, hb, hmove] at h
      cases congrArg Prod.fst h
  · obtain ⟨hle, -⟩ := commitReservation_eq_ok_iff.mp hmove
    rw [h]
    constructor
    · intro hok
      exact ⟨r, ⟨hid, hm, commitRefusal_eq_none_iff.mp href, b, hb, hle⟩,
        (Except.ok.inj hok).symm⟩
    · rintro ⟨r₀, ⟨hid₀, -⟩, rfl⟩
      rw [Option.some.inj (hid₀.symm.trans hid)]

/-- The commit of a step, if it made one, came before the expiry. -/
def CommitsInTime (s : Step BudgetEngine BudgetCall BudgetReply) : Prop :=
  ∀ env m id at? r, s.act = .commit env m id at? → s.out = .resolved r →
    r.state = .committed → env.time at? < r.expiresAt

def CommittedInTime (e : BudgetEngine) : Prop :=
  ∀ id r, e.reservations.get id = some r → r.state = .committed → r.updatedAt < r.expiresAt

/-- The step commits no committable reservation that is expired by then. -/
def SparesExpired (s : Step BudgetEngine BudgetCall BudgetReply) : Prop :=
  ∀ env m id at? r, s.act = .commit env m id at? → Committable s.pre m id r →
    r.isExpired env.now at? = false

theorem isExpired_eq_false_iff {r : BudgetReservation} {env : Ambient} {at? : Option Instant} :
    r.isExpired env.now at? = false ↔ env.time at? < r.expiresAt := by
  rw [BudgetReservation.isExpired, decide_eq_false_iff_not, Int.not_le]
  rfl

theorem commitsInTime_stepAt_iff (c : BudgetCall) :
    CommitsInTime (stepAt BudgetEngine.call e c)
      ↔ SparesExpired (stepAt BudgetEngine.call e c) := by
  constructor
  · intro h env m id at? r hact hr
    rw [stepAt_act] at hact
    subst hact
    let r' : BudgetReservation := { r with state := .committed, updatedAt := env.time at? }
    have hret : (e.commit env m id at?).1 = .ok r' := commit_returns_iff.mpr ⟨r, hr, rfl⟩
    refine isExpired_eq_false_iff.mpr (h env m id at? r' rfl ?_ rfl)
    rw [stepAt_out, call, hret]
    rfl
  · intro h env m id at? r' hact hout _
    rw [stepAt_act] at hact
    subst hact
    rw [stepAt_out, call] at hout
    cases hret : (e.commit env m id at?).1 with
    | error err =>
        rw [hret] at hout
        cases hout
    | ok r'' =>
        rw [hret] at hout
        obtain ⟨r, hr, rfl⟩ := commit_returns_iff.mp hret
        cases hout
        exact isExpired_eq_false_iff.mp (h env m id at? r rfl hr)

/-- A step that commits in time leaves the committed reservations in time. -/
theorem CommittedInTime.step (he : CommittedInTime e) {c : BudgetCall}
    (hc : CommitsInTime (stepAt BudgetEngine.call e c)) : CommittedInTime (e.call c).2 := by
  have heff := call_effect e c
  rw [CommitsInTime, stepAt_act, stepAt_out] at hc
  generalize (e.call c).1 = reply at heff hc
  generalize (e.call c).2 = e' at heff
  intro id₀ r₀ hget hstate
  -- a call stores one reservation at most; the others are those of before
  cases heff with
  | refused => exact he id₀ r₀ hget hstate
  | registered => exact he id₀ r₀ hget hstate
  | @reserved env m tx amount cur resId ttl at? b id r result hb hid hpos hroom hm ha hst hv =>
      by_cases hid₀ : id₀ = id
      · subst hid₀
        rw [get_set_self, Option.some.injEq] at hget
        subst hget
        rw [hst] at hstate
        cases hstate
      · rw [get_set_of_ne _ hid₀] at hget
        exact he id₀ r₀ hget hstate
  | @committed env m id at? b r r' hb hid hm hst hle hr' =>
      by_cases hid₀ : id₀ = id
      · subst hid₀
        rw [get_set_self, Option.some.injEq] at hget
        subst hget
        have htime := hc env m id₀ at? r' rfl rfl hstate
        rw [hr'] at htime ⊢
        exact htime
      · rw [get_set_of_ne _ hid₀] at hget
        exact he id₀ r₀ hget hstate
  | @released env m id at? b r r' hb hid hm hst hle hr' =>
      by_cases hid₀ : id₀ = id
      · subst hid₀
        rw [get_set_self, Option.some.injEq] at hget
        subst hget
        rw [hr'] at hstate
        cases hstate
      · rw [get_set_of_ne _ hid₀] at hget
        exact he id₀ r₀ hget hstate

theorem committedInTime_of_steps {calls : List BudgetCall}
    (h : ∀ s ∈ steps BudgetEngine.call new calls, CommitsInTime s) :
    CommittedInTime (exec BudgetEngine.call new calls) := by
  refine exec_inv_of_steps (P := CommitsInTime) (fun e c he hc => he.step hc) ?_ h
  intro id r hr
  cases hr

/-- **A run commits only in time, and so leaves only reservations committed in
    time, iff none of its commits meets a committable reservation that is
    expired by then.** -/
theorem commits_in_time_iff (calls : List BudgetCall) :
    ((∀ s ∈ steps BudgetEngine.call new calls, CommitsInTime s)
        ∧ CommittedInTime (exec BudgetEngine.call new calls))
      ↔ ∀ s ∈ steps BudgetEngine.call new calls, SparesExpired s := by
  have hsteps : (∀ s ∈ steps BudgetEngine.call new calls, CommitsInTime s)
      ↔ ∀ s ∈ steps BudgetEngine.call new calls, SparesExpired s :=
    forall_steps_iff (I := fun _ => True) (fun e c _ => commitsInTime_stepAt_iff c)
      (fun _ _ _ _ => trivial) trivial calls
  rw [← hsteps]
  exact ⟨fun h => h.1, fun h => ⟨h, committedInTime_of_steps h⟩⟩

/-- A reservation of 300 seconds, committed when they are over. -/
def lateCommit : List BudgetCall :=
  let env : Ambient := ⟨1709210096000000, "budget-1"⟩
  let late : Instant := 1709210396000000
  [.register env "mandate-1" 1000 .inr none 0 0,
    .reserve env "mandate-1" "tx-1" 400 .inr (some "res-1") 300 none,
    .commit env "mandate-1" "res-1" (some late)]

/-- The state of `res-1` after the run, and its last update against its expiry. -/
def lateOutcome : Option (BudgetState × Instant × Instant) :=
  ((exec BudgetEngine.call new lateCommit).reservations.get "res-1").map
    fun r => (r.state, r.updatedAt, r.expiresAt)

theorem lateCommit_not_in_time :
    lateOutcome = some (.committed, 1709210396000000, 1709210396000000)
    ∧ (¬ ∀ s ∈ steps BudgetEngine.call new lateCommit, CommitsInTime s)
    ∧ ¬ CommittedInTime (exec BudgetEngine.call new lateCommit) := by
  have houtcome :
      lateOutcome = some (.committed, 1709210396000000, 1709210396000000) := by decide
  have hlate : ¬ CommittedInTime (exec BudgetEngine.call new lateCommit) := by
    intro h
    obtain ⟨r, hr, heq⟩ := Option.map_eq_some_iff.mp houtcome
    obtain ⟨hstate, hrest⟩ := Prod.mk.inj heq
    obtain ⟨hupdated, hexpires⟩ := Prod.mk.inj hrest
    have hlt := h "res-1" r hr hstate
    rw [hupdated, hexpires] at hlt
    exact Int.lt_irrefl _ hlt
  exact ⟨houtcome, fun h => hlate (committedInTime_of_steps h), hlate⟩

end BudgetEngine

end MandateGateway
