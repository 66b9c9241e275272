import MandateGateway.Lib.OrderedMap
import Mathlib.Algebra.Order.BigOperators.Group.List
import Mathlib.Algebra.Order.Group.Defs
import Mathlib.Logic.Function.Basic

/-! # Escrow ledgers

    What a store of budgets and reservations is for, with the budgets' running
    columns left out: accounts open with a limit, a hold sets an amount of an
    account aside, and a hold is settled or voided once.  The settled and the
    held amount of an account are *defined* from its opening and its holds, so
    they cannot drift apart from them.

    A `Ledger` carries its solvency as fields: an account that would promise
    more than its limit, a hold on an account nobody opened, or a negative
    hold cannot be built.  Each operation takes the condition it needs. -/

namespace Escrow

open OrderedMap

/-- Where a hold stands. -/
inductive Phase where
  | held | settled | voided
deriving DecidableEq, Repr

variable {α η M : Type*}

/-- An amount set aside on an account. -/
structure Hold (α M : Type*) where
  account : α
  amount  : M
  phase   : Phase

/-- How an account starts. -/
structure Opening (M : Type*) [AddCommGroup M] [LinearOrder M] where
  limit   : M
  settled : M
  held    : M
  settled_nonneg : 0 ≤ settled
  held_nonneg    : 0 ≤ held
  within         : settled + held ≤ limit

variable [DecidableEq α]

section Weights

variable [AddCommGroup M]

/-- What a hold sets aside on account `m`, whatever its phase. -/
def Hold.share (m : α) (h : Hold α M) : M := if h.account = m then h.amount else 0

/-- What a hold adds to phase `p` of account `m`. -/
def Hold.weight (p : Phase) (m : α) (h : Hold α M) : M :=
  if h.phase = p then h.share m else 0

/-- The holds of account `m` in phase `p`, summed. -/
def phaseTotal (p : Phase) (m : α) (holds : OrderedMap η (Hold α M)) : M :=
  total (Hold.weight p m) holds

theorem phaseTotal_eq_zero {p : Phase} {m : α} {holds : OrderedMap η (Hold α M)}
    (h : ∀ x ∈ holds.values, x.account ≠ m) : phaseTotal p m holds = 0 := by
  refine List.sum_eq_zero ?_
  intro w hw
  obtain ⟨x, hx, rfl⟩ := List.mem_map.mp hw
  rw [Hold.weight, Hold.share, if_neg (h x hx), ite_self]

variable [DecidableEq η] {holds : OrderedMap η (Hold α M)} {id : η}

theorem phaseTotal_place (p : Phase) (m : α) (h : Hold α M) (hid : holds.get id = none) :
    phaseTotal p m (holds.set id h) = phaseTotal p m holds + h.weight p m :=
  total_set_new _ h hid

theorem phaseTotal_replace (p : Phase) (m : α) {old : Hold α M} (h : Hold α M)
    (hid : holds.get id = some old) :
    phaseTotal p m (holds.set id h)
      = phaseTotal p m holds - old.weight p m + h.weight p m := by
  have key := total_set_of_get (Hold.weight p m) h hid
  show total (Hold.weight p m) (holds.set id h)
    = total (Hold.weight p m) holds - old.weight p m + h.weight p m
  rw [sub_add_eq_add_sub, ← key, add_sub_cancel_right]

variable {h : Hold α M} {q : Phase}

theorem phaseTotal_resolve_held (m : α) (hid : holds.get id = some h)
    (hheld : h.phase = .held) (hq : q ≠ .held) :
    phaseTotal .held m (holds.set id { h with phase := q })
      = phaseTotal .held m holds - h.share m := by
  rw [phaseTotal_replace _ _ _ hid, Hold.weight, Hold.weight, if_pos hheld, if_neg hq, add_zero]

theorem phaseTotal_resolve_self (m : α) (hid : holds.get id = some h)
    (hheld : h.phase = .held) (hq : q ≠ .held) :
    phaseTotal q m (holds.set id { h with phase := q })
      = phaseTotal q m holds + h.share m := by
  have hne : h.phase ≠ q := by
    rw [hheld]
    exact hq.symm
  rw [phaseTotal_replace _ _ _ hid, Hold.weight, Hold.weight, if_neg hne, if_pos rfl, sub_zero]
  rfl

theorem phaseTotal_resolve_of_ne {p : Phase} (m : α) (hid : holds.get id = some h)
    (hheld : h.phase = .held) (hp : p ≠ .held) (hpq : p ≠ q) :
    phaseTotal p m (holds.set id { h with phase := q }) = phaseTotal p m holds := by
  have hne : h.phase ≠ p := by
    rw [hheld]
    exact hp.symm
  rw [phaseTotal_replace _ _ _ hid, Hold.weight, Hold.weight, if_neg hne, if_neg hpq.symm,
    sub_zero, add_zero]

end Weights

variable [AddCommGroup M] [LinearOrder M] [IsOrderedAddMonoid M]

omit [IsOrderedAddMonoid M] in
theorem Hold.share_nonneg (m : α) {h : Hold α M} (hpos : 0 ≤ h.amount) : 0 ≤ h.share m := by
  by_cases hm : h.account = m
  · rw [Hold.share, if_pos hm]
    exact hpos
  · rw [Hold.share, if_neg hm]

theorem phaseTotal_nonneg (p : Phase) (m : α) {holds : OrderedMap η (Hold α M)}
    (hpos : ∀ x ∈ holds.values, 0 ≤ x.amount) : 0 ≤ phaseTotal p m holds := by
  refine List.sum_nonneg ?_
  intro w hw
  obtain ⟨x, hx, rfl⟩ := List.mem_map.mp hw
  by_cases hp : x.phase = p
  · rw [Hold.weight, if_pos hp]
    exact Hold.share_nonneg m (hpos x hx)
  · rw [Hold.weight, if_neg hp]

/-- A **solvent ledger**: accounts, and the holds placed on them. -/
structure Ledger (α η M : Type*) [DecidableEq α] [AddCommGroup M] [LinearOrder M] where
  openings : α → Option (Opening M)
  holds    : OrderedMap η (Hold α M)
  opened   : ∀ h ∈ holds.values, openings h.account ≠ none
  nonneg   : ∀ h ∈ holds.values, 0 ≤ h.amount
  solvent  : ∀ m o, openings m = some o →
    o.settled + phaseTotal .settled m holds + (o.held + phaseTotal .held m holds) ≤ o.limit

namespace Ledger

/-- The ledger without accounts. -/
def empty : Ledger α η M where
  openings := fun _ => none
  holds := OrderedMap.empty
  opened := fun _ hh => nomatch hh
  nonneg := fun _ hh => nomatch hh
  solvent := fun _ _ ho => nomatch ho

omit [IsOrderedAddMonoid M] in
theorem phaseTotal_unopened (L : Ledger α η M) {m : α} (p : Phase)
    (hm : L.openings m = none) : phaseTotal p m L.holds = 0 := by
  refine phaseTotal_eq_zero ?_
  intro x hx hxm
  refine L.opened x hx ?_
  rw [hxm]
  exact hm

def openAccount (L : Ledger α η M) (m : α) (o : Opening M) (hm : L.openings m = none) :
    Ledger α η M where
  openings := Function.update L.openings m (some o)
  holds := L.holds
  opened := by
    intro h hh
    by_cases ha : h.account = m
    · rw [ha, Function.update_self]
      exact Option.some_ne_none o
    · rw [Function.update_of_ne ha]
      exact L.opened h hh
  nonneg := L.nonneg
  solvent := by
    intro m' o' ho'
    by_cases ha : m' = m
    · subst ha
      rw [Function.update_self, Option.some.injEq] at ho'
      subst ho'
      rw [L.phaseTotal_unopened _ hm, L.phaseTotal_unopened _ hm, add_zero, add_zero]
      exact o.within
    · rw [Function.update_of_ne ha] at ho'
      exact L.solvent m' o' ho'

/-- The amount of `m` settled so far. -/
def settled (L : Ledger α η M) (m : α) (o : Opening M) : M :=
  o.settled + phaseTotal .settled m L.holds

/-- The amount of `m` on hold. -/
def held (L : Ledger α η M) (m : α) (o : Opening M) : M :=
  o.held + phaseTotal .held m L.holds

theorem settled_nonneg (L : Ledger α η M) (m : α) (o : Opening M) : 0 ≤ L.settled m o :=
  add_nonneg o.settled_nonneg (phaseTotal_nonneg _ m L.nonneg)

theorem held_nonneg (L : Ledger α η M) (m : α) (o : Opening M) : 0 ≤ L.held m o :=
  add_nonneg o.held_nonneg (phaseTotal_nonneg _ m L.nonneg)

variable [DecidableEq η]

/-- Put a new hold on an open account that has room for it. -/
def place (L : Ledger α η M) (id : η) (m : α) (amount : M) (o : Opening M)
    (hid : L.holds.get id = none) (hm : L.openings m = some o) (hpos : 0 ≤ amount)
    (hroom : L.settled m o + L.held m o + amount ≤ o.limit) : Ledger α η M where
  openings := L.openings
  holds := L.holds.set id ⟨m, amount, .held⟩
  opened := by
    intro h hh
    rcases L.holds.mem_values_set hh with rfl | hold
    · show L.openings m ≠ none
      rw [hm]
      exact Option.some_ne_none o
    · exact L.opened h hold
  nonneg := by
    intro h hh
    rcases L.holds.mem_values_set hh with rfl | hold
    · exact hpos
    · exact L.nonneg h hold
  solvent := by
    intro m' o' ho'
    have hset : phaseTotal .settled m' (L.holds.set id ⟨m, amount, .held⟩)
        = phaseTotal .settled m' L.holds := by
      rw [phaseTotal_place _ _ _ hid]
      exact add_zero _
    have hheld : phaseTotal .held m' (L.holds.set id ⟨m, amount, .held⟩)
        = phaseTotal .held m' L.holds + if m = m' then amount else 0 :=
      phaseTotal_place _ _ _ hid
    rw [hset, hheld]
    -- only the account of the hold gains, and it has the room
    by_cases ha : m = m'
    · subst ha
      obtain rfl : o = o' := Option.some.inj (hm.symm.trans ho')
      rw [if_pos rfl, ← add_assoc, ← add_assoc]
      rw [settled, held, ← add_assoc] at hroom
      exact hroom
    · rw [if_neg ha, add_zero]
      exact L.solvent m' o' ho'

/-- Settle a hold, or void it. -/
def resolve (L : Ledger α η M) (id : η) (h : Hold α M) (q : Phase)
    (hid : L.holds.get id = some h) (hheld : h.phase = .held) (hq : q ≠ .held) :
    Ledger α η M where
  openings := L.openings
  holds := L.holds.set id { h with phase := q }
  opened := by
    intro x hx
    rcases L.holds.mem_values_set hx with rfl | hold
    · exact L.opened h (L.holds.mem_values_iff.mpr ⟨id, hid⟩)
    · exact L.opened x hold
  nonneg := by
    intro x hx
    rcases L.holds.mem_values_set hx with rfl | hold
    · exact L.nonneg h (L.holds.mem_values_iff.mpr ⟨id, hid⟩)
    · exact L.nonneg x hold
  solvent := by
    intro m o ho
    have hbound := L.solvent m o ho
    rw [phaseTotal_resolve_held m hid hheld hq]
    cases q with
    | held => exact absurd rfl hq
    | settled =>
        -- the share moves from one column to the other
        rw [phaseTotal_resolve_self m hid hheld hq]
        calc o.settled + (phaseTotal .settled m L.holds + h.share m)
              + (o.held + (phaseTotal .held m L.holds - h.share m))
            = o.settled + phaseTotal .settled m L.holds
              + (o.held + phaseTotal .held m L.holds) := by abel
          _ ≤ o.limit := hbound
    | voided =>
        -- the share leaves the held column and goes nowhere
        have hshare : 0 ≤ h.share m :=
          Hold.share_nonneg m (L.nonneg h (L.holds.mem_values_iff.mpr ⟨id, hid⟩))
        rw [phaseTotal_resolve_of_ne m hid hheld (by decide) (by decide)]
        calc o.settled + phaseTotal .settled m L.holds
              + (o.held + (phaseTotal .held m L.holds - h.share m))
            ≤ o.settled + phaseTotal .settled m L.holds
              + (o.held + phaseTotal .held m L.holds) := by
                have hsub := sub_le_self (phaseTotal .held m L.holds) hshare
                gcongr
          _ ≤ o.limit := hbound

/-! ## What the operations do to the columns -/

section Columns

variable (L : Ledger α η M) {id : η} {m : α} (m' : α) (o' : Opening M)

omit [IsOrderedAddMonoid M] in
theorem held_place {amount : M} {o : Opening M} (hid : L.holds.get id = none)
    (hm : L.openings m = some o) (hpos : 0 ≤ amount)
    (hroom : L.settled m o + L.held m o + amount ≤ o.limit) :
    (L.place id m amount o hid hm hpos hroom).held m' o'
      = L.held m' o' + if m = m' then amount else 0 := by
  have h : phaseTotal .held m' (L.holds.set id ⟨m, amount, .held⟩)
      = phaseTotal .held m' L.holds + if m = m' then amount else 0 :=
    phaseTotal_place _ _ _ hid
  show o'.held + phaseTotal .held m' (L.holds.set id ⟨m, amount, .held⟩) = _
  rw [h, ← add_assoc]
  rfl

omit [IsOrderedAddMonoid M] in
theorem settled_place {amount : M} {o : Opening M} (hid : L.holds.get id = none)
    (hm : L.openings m = some o) (hpos : 0 ≤ amount)
    (hroom : L.settled m o + L.held m o + amount ≤ o.limit) :
    (L.place id m amount o hid hm hpos hroom).settled m' o' = L.settled m' o' := by
  have h : phaseTotal .settled m' (L.holds.set id ⟨m, amount, .held⟩)
      = phaseTotal .settled m' L.holds + 0 :=
    phaseTotal_place _ _ _ hid
  show o'.settled + phaseTotal .settled m' (L.holds.set id ⟨m, amount, .held⟩) = _
  rw [h, add_zero]
  rfl

variable {h : Hold α M} {q : Phase} (hid : L.holds.get id = some h)
  (hheld : h.phase = .held) (hq : q ≠ .held)

theorem held_resolve :
    (L.resolve id h q hid hheld hq).held m' o' = L.held m' o' - h.share m' := by
  show o'.held + phaseTotal .held m' (L.holds.set id { h with phase := q }) = _
  rw [phaseTotal_resolve_held m' hid hheld hq, ← add_sub_assoc]
  rfl

theorem settled_resolve :
    (L.resolve id h q hid hheld hq).settled m' o'
      = L.settled m' o' + if q = .settled then h.share m' else 0 := by
  show o'.settled + phaseTotal .settled m' (L.holds.set id { h with phase := q }) = _
  by_cases hs : q = .settled
  · subst hs
    rw [phaseTotal_resolve_self m' hid hheld hq, ← add_assoc, if_pos rfl]
    rfl
  · rw [phaseTotal_resolve_of_ne m' hid hheld (by decide) (Ne.symm hs), if_neg hs, add_zero]
    rfl

end Columns

end Ledger

end Escrow
