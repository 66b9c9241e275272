import MandateGateway.Lib.RaisingLoop

/-! # Loops that gather

    A loop over a list whose rounds each add something to one result.  A round
    that raises ends the loop, and what the rounds did to the state stays done.

    * `gather_returns`: what the rounds that return make true, the loop that
      returns makes true;
    * `gather_total`: a loop whose every round returns from where the rounds
      before it have led returns;
    * `gather_gather`: two nested loops are one loop over the pairs. -/

namespace Raising

variable {σ ε α β γ : Type}

/-- `out = []; for x in xs: out += f(x); return out`. -/
def gather (f : α → Raising σ ε (List β)) : List α → Raising σ ε (List β)
  | [] => pure []
  | x :: xs => do
      let out ← f x
      let rest ← gather f xs
      pure (out ++ rest)

variable {f : α → Raising σ ε (List β)}

/-- A result with something in front of it. -/
def prepend (out : List β) (r : Except ε (List β) × σ) : Except ε (List β) × σ :=
  (r.1.map (out ++ ·), r.2)

theorem prepend_nil (r : Except ε (List β) × σ) : prepend [] r = r := by
  obtain ⟨r, s⟩ := r
  cases r <;> rfl

theorem prepend_prepend (out rest : List β) (r : Except ε (List β) × σ) :
    prepend out (prepend rest r) = prepend (out ++ rest) r := by
  obtain ⟨r, s⟩ := r
  cases r with
  | error e => rfl
  | ok all =>
      show (Except.ok (out ++ (rest ++ all)), s) = (Except.ok (out ++ rest ++ all), s)
      rw [List.append_assoc]

@[simp] theorem gather_nil (s : σ) : gather f [] s = (.ok [], s) := rfl

theorem gather_cons_of_error {x : α} {xs : List α} {s s' : σ} {e : ε}
    (h : f x s = (.error e, s')) : gather f (x :: xs) s = (.error e, s') := by
  rw [gather]
  exact bind_of_error h

theorem gather_cons_of_ok {x : α} {xs : List α} {s s' : σ} {out : List β}
    (h : f x s = (.ok out, s')) : gather f (x :: xs) s = prepend out (gather f xs s') := by
  rw [gather, bind_of_ok h]
  cases hrest : gather f xs s' with
  | mk r s'' =>
      cases r with
      | ok rest => exact bind_of_ok hrest
      | error e => exact bind_of_error hrest

theorem gather_cons_eq_ok_iff {x : α} {xs : List α} {s s'' : σ} {all : List β} :
    gather f (x :: xs) s = (.ok all, s'')
      ↔ ∃ out s' rest, f x s = (.ok out, s') ∧ gather f xs s' = (.ok rest, s'')
        ∧ all = out ++ rest := by
  rw [gather, bind_eq_ok_iff]
  constructor
  · rintro ⟨out, s', hx, h⟩
    obtain ⟨rest, s₂, hrest, hpure⟩ := bind_eq_ok_iff.mp h
    obtain ⟨hall, rfl⟩ := Prod.mk.inj hpure
    exact ⟨out, s', rest, hx, hrest, (Except.ok.inj hall).symm⟩
  · rintro ⟨out, s', rest, hx, hrest, rfl⟩
    exact ⟨out, s', hx, bind_eq_ok_iff.mpr ⟨rest, s'', hrest, rfl⟩⟩

/-! ## The rules of the loop -/

section Rules

variable {I : List α → List β → σ → Prop}

/-- **Partial correctness**: an invariant that every round which returns extends
    holds when the loop returns. -/
theorem gather_returns {s s' : σ} {out : List β} {xs : List α}
    (hstep : ∀ done x acc s out s', x ∈ xs → I done acc s → f x s = (.ok out, s') →
      I (done ++ [x]) (acc ++ out) s')
    (h : I [] [] s) (hrun : gather f xs s = (.ok out, s')) : I xs out s' := by
  suffices hall : ∀ (todo done : List α) (acc : List β) (s : σ) (rest : List β) (s' : σ),
      (∀ x ∈ todo, x ∈ xs) → I done acc s → gather f todo s = (.ok rest, s') →
        I (done ++ todo) (acc ++ rest) s' from
    hall xs [] [] s out s' (fun _ hx => hx) h hrun
  intro todo
  induction todo with
  | nil =>
      intro done acc s rest s' _ hI hnil
      obtain ⟨hrest, rfl⟩ := Prod.mk.inj hnil
      rw [← Except.ok.inj hrest, List.append_nil, List.append_nil]
      exact hI
  | cons x todo ih =>
      intro done acc s all s'' hsub hI hcons
      obtain ⟨out, s', rest, hx, hrest, rfl⟩ := gather_cons_eq_ok_iff.mp hcons
      have hround := hstep done x acc s out s' (hsub x List.mem_cons_self) hI hx
      have hgo := ih (done ++ [x]) (acc ++ out) s' rest s''
        (fun y hy => hsub y (List.mem_cons_of_mem x hy)) hround hrest
      rw [List.append_assoc, List.append_assoc] at hgo
      exact hgo

/-- **Total correctness**: the loop returns if every round does from where the
    invariant holds. -/
theorem gather_total {s : σ} (xs : List α)
    (hstep : ∀ done x acc s, x ∈ xs → I done acc s →
      ∃ out s', f x s = (.ok out, s') ∧ I (done ++ [x]) (acc ++ out) s')
    (h : I [] [] s) : ∃ out s', gather f xs s = (.ok out, s') ∧ I xs out s' := by
  suffices hall : ∀ (todo done : List α) (acc : List β) (s : σ), (∀ x ∈ todo, x ∈ xs) →
      I done acc s → ∃ rest s', gather f todo s = (.ok rest, s')
        ∧ I (done ++ todo) (acc ++ rest) s' from
    hall xs [] [] s (fun _ hx => hx) h
  intro todo
  induction todo with
  | nil =>
      intro done acc s _ hI
      refine ⟨[], s, rfl, ?_⟩
      rw [List.append_nil, List.append_nil]
      exact hI
  | cons x todo ih =>
      intro done acc s hsub hI
      obtain ⟨out, s', hx, hround⟩ := hstep done x acc s (hsub x List.mem_cons_self) hI
      obtain ⟨rest, s'', hrest, hgo⟩ := ih (done ++ [x]) (acc ++ out) s'
        (fun y hy => hsub y (List.mem_cons_of_mem x hy)) hround
      refine ⟨out ++ rest, s'', gather_cons_eq_ok_iff.mpr ⟨out, s', rest, hx, hrest, rfl⟩, ?_⟩
      rw [List.append_assoc, List.append_assoc] at hgo
      exact hgo

end Rules

/-! ## Nested loops -/

theorem gather_append_of_error {xs ys : List α} {s s' : σ} {e : ε}
    (h : gather f xs s = (.error e, s')) : gather f (xs ++ ys) s = (.error e, s') := by
  induction xs generalizing s with
  | nil => cases h
  | cons x xs ih =>
      rw [List.cons_append]
      cases hx : f x s with
      | mk r s₁ =>
          cases r with
          | error e' =>
              rw [gather_cons_of_error hx] at h ⊢
              exact h
          | ok out =>
              rw [gather_cons_of_ok hx] at h ⊢
              obtain ⟨hr, hs⟩ := Prod.mk.inj h
              have htail : gather f xs s₁ = (.error e, s') := by
                cases hxs : gather f xs s₁ with
                | mk r s₂ =>
                    rw [hxs] at hr hs
                    cases r with
                    | ok rest => cases hr
                    | error e' => exact Prod.ext hr hs
              rw [ih htail]
              rfl

theorem gather_append_of_ok {xs ys : List α} {s s' : σ} {out : List β}
    (h : gather f xs s = (.ok out, s')) :
    gather f (xs ++ ys) s = prepend out (gather f ys s') := by
  induction xs generalizing s out with
  | nil =>
      obtain ⟨hout, rfl⟩ := Prod.mk.inj h
      rw [← Except.ok.inj hout, prepend_nil]
      rfl
  | cons x xs ih =>
      obtain ⟨first, s₁, rest, hx, hxs, rfl⟩ := gather_cons_eq_ok_iff.mp h
      rw [List.cons_append, gather_cons_of_ok hx, ih hxs, prepend_prepend]

theorem gather_map (g : γ → α) (xs : List γ) :
    gather f (xs.map g) = gather (fun x => f (g x)) xs := by
  induction xs with
  | nil => rfl
  | cons x xs ih => rw [List.map_cons, gather, ih, gather]

/-- **Two nested loops are one loop over the pairs.** -/
theorem gather_gather (f : α → γ → Raising σ ε (List β)) (ys : List γ) (xs : List α) :
    gather (fun x => gather (f x) ys) xs
      = gather (fun p => f p.1 p.2) (xs.flatMap fun x => ys.map (Prod.mk x)) := by
  induction xs with
  | nil => rfl
  | cons x xs ih =>
      funext s
      have hinner : gather (fun p => f p.1 p.2) (ys.map (Prod.mk x)) = gather (f x) ys :=
        gather_map (Prod.mk x) ys
      rw [List.flatMap_cons]
      cases hx : gather (f x) ys s with
      | mk r s' =>
          rw [← hinner] at hx
          cases r with
          | error e =>
              rw [gather_append_of_error hx, gather_cons_of_error (hinner ▸ hx)]
          | ok out =>
              rw [gather_append_of_ok hx, gather_cons_of_ok (hinner ▸ hx), ih]

/-- A loop that leaves out the rounds of some items. -/
theorem gather_ite (c : α → Bool) (xs : List α) :
    gather (fun x => if c x = true then f x else pure []) xs = gather f (xs.filter c) := by
  induction xs with
  | nil => rfl
  | cons x xs ih =>
      rw [gather, ih]
      by_cases hc : c x = true
      · rw [List.filter_cons_of_pos hc, if_pos hc, gather]
      · rw [List.filter_cons_of_neg hc, if_neg hc]
        funext s
        have hskip : (pure [] : Raising σ ε (List β)) s = (.ok [], s) := rfl
        rw [bind_of_ok hskip]
        cases hrest : gather f (xs.filter c) s with
        | mk r s' =>
            cases r with
            | ok rest => exact bind_of_ok hrest
            | error e => exact bind_of_error hrest

end Raising
