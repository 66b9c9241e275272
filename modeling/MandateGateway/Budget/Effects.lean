import MandateGateway.Budget.Engine

/-! # What a call on the budget engine does

    `call_effect` says once what a call can do to the two stores: nothing, if
    it refuses, or one of four changes.  Every invariant of the engine is
    derived from it, without looking at the operations again. -/

namespace MandateGateway

open Clock Exceptions OrderedMap

namespace BudgetEngine

/-- The changes a call can make to the stores. -/
inductive Effect (e : BudgetEngine) : BudgetCall → BudgetReply → BudgetEngine → Prop
  /-- a call that rejects or raises changes nothing -/
  | refused {c : BudgetCall} {r : BudgetReply} (h : r.refuses = true)
      (hreg : ∀ reg, c.registration = some reg → ¬ reg.Accepted) : Effect e c r e
  | registered {env : Ambient} {m : String} {limit : Int} {cur : Currency}
      {date : Option String} {spent reserved : Int} (b : DailyBudget)
      (hreg : Registration.Accepted ⟨m, limit, spent, reserved⟩)
      (hlimit : b.dailyLimitPaise = limit) (hspent : b.spentPaise = spent)
      (hreserved : b.reservedPaise = reserved) :
      Effect e (.register env m limit cur date spent reserved) (.registered b)
        { e with budgets := e.budgets.set m b }
  | reserved {env : Ambient} {m tx : String} {amount : Int} {cur : Currency}
      {resId : Option String} {ttl : Int} {at? : Option Instant} {b : DailyBudget}
      {id : String} {r : BudgetReservation} {result : BudgetEvaluationResult}
      (hb : e.budgets.get m = some b) (hid : e.reservations.get id = none)
      (hpos : 0 < amount)
      (hroom : b.spentPaise + b.reservedPaise + amount ≤ b.dailyLimitPaise)
      (hm : r.mandateId = m) (hamount : r.amountPaise = amount)
      (hstate : r.state = .reserved) (hvalid : result.valid = true) :
      Effect e (.reserve env m tx amount cur resId ttl at?) (.evaluated result)
        ⟨e.budgets.set m
            { b with reservedPaise := b.reservedPaise + amount, updatedAt := env.now },
          e.reservations.set id r⟩
  | committed {env : Ambient} {m id : String} {at? : Option Instant} {b : DailyBudget}
      {r r' : BudgetReservation} (hb : e.budgets.get m = some b)
      (hid : e.reservations.get id = some r) (hm : r.mandateId = m)
      (hstate : r.state = .reserved) (hle : r.amountPaise ≤ b.reservedPaise)
      (hr' : r' = { r with state := .committed, updatedAt := env.time at? }) :
      Effect e (.commit env m id at?) (.resolved r')
        ⟨e.budgets.set m
            { b with
              reservedPaise := b.reservedPaise - r.amountPaise
              spentPaise := b.spentPaise + r.amountPaise
              updatedAt := env.now },
          e.reservations.set id r'⟩
  | released {env : Ambient} {m id : String} {at? : Option Instant} {b : DailyBudget}
      {r r' : BudgetReservation} (hb : e.budgets.get m = some b)
      (hid : e.reservations.get id = some r) (hm : r.mandateId = m)
      (hstate : r.state = .reserved ∨ r.state = .expired)
      (hle : r.amountPaise ≤ b.reservedPaise)
      (hr' : r' = { r with state := .released, updatedAt := env.time at? }) :
      Effect e (.release env m id at?) (.resolved r')
        ⟨e.budgets.set m
            { b with
              reservedPaise := b.reservedPaise - r.amountPaise
              updatedAt := env.now },
          e.reservations.set id r'⟩

variable (e : BudgetEngine)

theorem registerBudget_cases (env : Ambient) (m : String) (limit : Int) (cur : Currency)
    (date : Option String) (spent reserved : Int) :
    (¬ Registration.Accepted ⟨m, limit, spent, reserved⟩
      ∧ ∃ err, e.registerBudget env m limit cur date spent reserved = (.error err, e))
    ∨ Registration.Accepted ⟨m, limit, spent, reserved⟩ ∧ ∃ b : DailyBudget,
      (b.currency = cur ∧ b.dailyLimitPaise = limit ∧ b.spentPaise = spent
        ∧ b.reservedPaise = reserved)
      ∧ e.registerBudget env m limit cur date spent reserved
        = (.ok b, { e with budgets := e.budgets.set m b }) := by
  rw [Registration.Accepted, registerBudget]
  dsimp only
  -- each check refuses something that is not accepted, and together they miss nothing
  by_cases hlimit : limit < 0
  · exact .inl ⟨by omega, _, if_pos hlimit⟩
  rw [if_neg hlimit]
  by_cases hneg : spent < 0 ∨ reserved < 0
  · exact .inl ⟨by omega, _, if_pos hneg⟩
  rw [if_neg hneg]
  by_cases hsum : spent + reserved > limit
  · exact .inl ⟨by omega, _, if_pos hsum⟩
  rw [if_neg hsum]
  by_cases hm : m = ""
  · exact .inl ⟨fun hacc => hacc.1 hm, _, if_pos hm⟩
  · rw [if_neg hm]
    exact .inr ⟨⟨hm, by omega⟩, _, ⟨rfl, rfl, rfl, rfl⟩, rfl⟩

theorem register_effect (env : Ambient) (m : String) (limit : Int) (cur : Currency)
    (date : Option String) (spent reserved : Int) :
    Effect e (.register env m limit cur date spent reserved)
      (e.call (.register env m limit cur date spent reserved)).1
      (e.call (.register env m limit cur date spent reserved)).2 := by
  rw [call]
  obtain ⟨hrefused, err, hcall⟩ | ⟨haccepted, b, ⟨-, hlimit, hspent, hreserved⟩, hcall⟩ :=
    registerBudget_cases e env m limit cur date spent reserved
  · rw [hcall]
    refine .refused rfl fun reg hreg => ?_
    rw [← Option.some.inj hreg]
    exact hrefused
  · rw [hcall]
    exact .registered b haccepted hlimit hspent hreserved

/-- `reserve` answers without a change and without a reservation, or stores
    the reservation it returns and charges the mandate's budget with it. -/
theorem reserve_cases (env : Ambient) (m tx : String) (amount : Int) (cur : Currency)
    (resId : Option String) (ttl : Int) (at? : Option Instant) :
    (∃ reply, e.reserve env m tx amount cur resId ttl at? = (reply, e)
        ∧ ∀ result, reply = .ok result → result.valid = false ∧ result.reservation = none)
    ∨ ∃ b r result, e.budgets.get m = some b
        ∧ e.reservations.get r.reservationId = none
        ∧ (0 < amount ∧ b.spentPaise + b.reservedPaise + amount ≤ b.dailyLimitPaise)
        ∧ (r.reservationId = orElseText resId env.uuid ∧ r.transactionId ≠ "")
        ∧ (r.mandateId = m ∧ r.amountPaise = amount ∧ r.state = .reserved)
        ∧ (result.valid = true ∧ result.reservation = some r)
        ∧ e.reserve env m tx amount cur resId ttl at?
          = (.ok result, ⟨e.budgets.set m
              { b with reservedPaise := b.reservedPaise + amount, updatedAt := env.now },
            e.reservations.set r.reservationId r⟩) := by
  have hrejected : ∀ available reason detail evalTime,
      ∀ result, Except.ok (.rejected m amount available reason detail evalTime)
          = (.ok result : Except PyError BudgetEvaluationResult) →
        result.valid = false ∧ result.reservation = none := by
    intro available reason detail evalTime result h
    rw [← Except.ok.inj h]
    exact ⟨rfl, rfl⟩
  have hraised : ∀ err : PyError, ∀ result : BudgetEvaluationResult,
      (.error err : Except PyError BudgetEvaluationResult) = .ok result →
        result.valid = false ∧ result.reservation = none := by
    intro err result h
    cases h
  rw [reserve]
  by_cases hpos : amount ≤ 0
  · simp only [if_pos hpos]
    exact Or.inl ⟨_, rfl, hrejected _ _ _ _⟩
  simp only [if_neg hpos]
  cases hb : e.budgets.get m with
  | none => exact Or.inl ⟨_, rfl, hrejected _ _ _ _⟩
  | some b =>
      simp only [reserveFrom]
      by_cases hcur : b.currency ≠ cur
      · simp only [if_pos hcur]
        exact Or.inl ⟨_, rfl, hrejected _ _ _ _⟩
      simp only [if_neg hcur]
      cases hid : e.reservations.get (orElseText resId env.uuid) with
      | some existing => exact Or.inl ⟨_, rfl, hrejected _ _ _ _⟩
      | none =>
          by_cases hroom : b.spentPaise + b.reservedPaise + amount > b.dailyLimitPaise
          · simp only [if_pos hroom]
            exact Or.inl ⟨_, rfl, hrejected _ _ _ _⟩
          simp only [if_neg hroom]
          cases hres : reserveBudget env.now b amount with
          | error err => exact Or.inl ⟨_, rfl, hraised err⟩
          | ok updated =>
              obtain ⟨hroom', rfl⟩ := reserveBudget_eq_ok_iff.mp hres
              -- the two refusals left come before the first write
              cases hadd : addSeconds (env.time at?) ttl with
              | none => exact Or.inl ⟨_, rfl, hraised _⟩
              | some expiresAt =>
                  by_cases htx : tx = ""
                  · simp only [if_pos htx]
                    exact Or.inl ⟨_, rfl, hraised _⟩
                  · simp only [if_neg htx]
                    let r : BudgetReservation := {
                      reservationId := orElseText resId env.uuid
                      transactionId := tx
                      mandateId := m
                      amountPaise := amount
                      currency := cur
                      state := .reserved
                      createdAt := env.time at?
                      expiresAt := expiresAt
                      updatedAt := env.time at? }
                    exact Or.inr ⟨b, r, _, rfl, hid, hroom', ⟨rfl, htx⟩, ⟨rfl, rfl, rfl⟩,
                      ⟨rfl, rfl⟩, rfl⟩

theorem reserve_effect (env : Ambient) (m tx : String) (amount : Int) (cur : Currency)
    (resId : Option String) (ttl : Int) (at? : Option Instant) :
    Effect e (.reserve env m tx amount cur resId ttl at?)
      (e.call (.reserve env m tx amount cur resId ttl at?)).1
      (e.call (.reserve env m tx amount cur resId ttl at?)).2 := by
  rw [call]
  rcases reserve_cases e env m tx amount cur resId ttl at? with
    ⟨reply, h, hreply⟩ | ⟨b, r, result, hb, hid, ⟨hpos, hroom⟩, -, ⟨hm, ha, hst⟩, ⟨hv, -⟩, h⟩
  · simp only [h]
    refine .refused ?_ nofun
    cases reply with
    | error err => rfl
    | ok result =>
        show (!result.valid) = true
        rw [(hreply result rfl).1]
        rfl
  · simp only [h]
    exact .reserved hb hid hpos hroom hm ha hst hv

theorem resolve_cases (refusal : String → BudgetState → Option String)
    (move : Instant → DailyBudget → Int → Except PyError DailyBudget)
    (target : BudgetState) (env : Ambient) (m id : String) (at? : Option Instant) :
    (∃ err, e.resolve refusal move target env m id at? = (.error err, e))
    ∨ ∃ r b b', e.reservations.get id = some r ∧ r.mandateId = m
        ∧ refusal id r.state = none ∧ e.budgets.get m = some b
        ∧ move env.now b r.amountPaise = .ok b'
        ∧ e.resolve refusal move target env m id at?
          = (.ok { r with state := target, updatedAt := env.time at? },
              ⟨e.budgets.set m b',
                e.reservations.set id { r with state := target, updatedAt := env.time at? }⟩) := by
  rw [resolve]
  cases hid : e.reservations.get id with
  | none => exact Or.inl ⟨_, rfl⟩
  | some r =>
      by_cases hm : r.mandateId ≠ m
      · exact Or.inl ⟨_, if_pos hm⟩
      simp only [if_neg hm]
      cases href : refusal id r.state with
      | some message => exact Or.inl ⟨_, rfl⟩
      | none =>
          cases hb : e.budgets.get m with
          | none => exact Or.inl ⟨_, rfl⟩
          | some b =>
              cases hmove : move env.now b r.amountPaise with
              | error err => exact Or.inl ⟨err, by simp only [hmove]⟩
              | ok b' =>
                  exact Or.inr ⟨r, b, b', rfl, Decidable.not_not.mp hm, href, rfl, hmove,
                    by simp only [hmove]⟩

theorem commitRefusal_eq_none_iff {id : String} {st : BudgetState} :
    commitRefusal id st = none ↔ st = .reserved := by
  cases st <;> simp [commitRefusal]

theorem releaseRefusal_eq_none_iff {id : String} {st : BudgetState} :
    releaseRefusal id st = none ↔ st = .reserved ∨ st = .expired := by
  cases st <;> simp [releaseRefusal]

theorem commit_effect (env : Ambient) (m id : String) (at? : Option Instant) :
    Effect e (.commit env m id at?) (e.call (.commit env m id at?)).1
      (e.call (.commit env m id at?)).2 := by
  rw [call, commit]
  rcases resolve_cases e commitRefusal commitReservation .committed env m id at? with
    ⟨err, h⟩ | ⟨r, b, b', hid, hm, href, hb, hmove, h⟩
  · simp only [h]
    exact .refused rfl nofun
  · obtain ⟨hle, rfl⟩ := commitReservation_eq_ok_iff.mp hmove
    simp only [h]
    exact .committed hb hid hm (commitRefusal_eq_none_iff.mp href) hle rfl

theorem release_effect (env : Ambient) (m id : String) (at? : Option Instant) :
    Effect e (.release env m id at?) (e.call (.release env m id at?)).1
      (e.call (.release env m id at?)).2 := by
  rw [call, release]
  rcases resolve_cases e releaseRefusal releaseReservation .released env m id at? with
    ⟨err, h⟩ | ⟨r, b, b', hid, hm, href, hb, hmove, h⟩
  · simp only [h]
    exact .refused rfl nofun
  · obtain ⟨hle, rfl⟩ := releaseReservation_eq_ok_iff.mp hmove
    simp only [h]
    exact .released hb hid hm (releaseRefusal_eq_none_iff.mp href) hle rfl

/-- **Every call has one of the five effects.** -/
theorem call_effect (c : BudgetCall) : Effect e c (e.call c).1 (e.call c).2 := by
  cases c with
  | register env m limit cur date spent reserved =>
      exact register_effect e env m limit cur date spent reserved
  | reserve env m tx amount cur resId ttl at? =>
      exact reserve_effect e env m tx amount cur resId ttl at?
  | commit env m id at? => exact commit_effect e env m id at?
  | release env m id at? => exact release_effect e env m id at?

theorem call_eq_of_refuses {c : BudgetCall} (h : (e.call c).1.refuses = true) :
    (e.call c).2 = e := by
  have heff := call_effect e c
  generalize (e.call c).1 = r at h heff
  generalize (e.call c).2 = e' at heff
  cases heff with
  | refused => rfl
  | registered => cases h
  | reserved hb hid hpos hroom hm hamount hstate hvalid =>
      have hinv : (!_) = true := h
      rw [hvalid] at hinv
      cases hinv
  | committed => cases h
  | released => cases h

end BudgetEngine

end MandateGateway
