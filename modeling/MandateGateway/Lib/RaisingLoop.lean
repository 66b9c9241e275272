import Mathlib.Tactic.TypeStar

/-! # Handlers and loops that may raise

    A loop carries a *variant* on the state that every round which goes on
    makes smaller, so it ends whatever its rounds do.  What a computation does
    to the state, returned or not, is a relation (`Moves`); relations compose
    along a sequence. -/

/-! ## Computations with a state that may raise

    A computation returns or raises, and what it did to the state stays done
    either way.  Besides the sequencing laws the file has the rules for
    *partial correctness*: what holds of the state and the result when the
    computation returns. -/

/-- A computation on a state `σ` that returns an `α` or raises an `ε`. -/
def Raising (σ ε α : Type) : Type := σ → Except ε α × σ

namespace Raising

variable {σ τ ε α β : Type}

protected def pure (a : α) : Raising σ ε α := fun s => (.ok a, s)

protected def bind (x : Raising σ ε α) (f : α → Raising σ ε β) : Raising σ ε β := fun s =>
  match x s with
  | (.ok a, s') => f a s'
  | (.error e, s') => (.error e, s')

instance : Monad (Raising σ ε) where
  pure := Raising.pure
  bind := Raising.bind

def raise (e : ε) : Raising σ ε α := fun s => (.error e, s)

/-- A computation that does not touch the state. -/
def ofExcept (x : Except ε α) : Raising σ ε α := fun s => (x, s)

/-- Read something off the state. -/
def asks (f : σ → α) : Raising σ ε α := fun s => (.ok (f s), s)

def modify (f : σ → σ) : Raising σ ε Unit := fun s => (.ok (), f s)

/-- A computation on a part of the state. -/
def zoom (part : σ → τ) (put : τ → σ → σ) (x : Raising τ ε α) : Raising σ ε α := fun s =>
  ((x (part s)).1, put (x (part s)).2 s)

/-- Run `x`, then `final` on the state it leaves, whether it returned or not. -/
def andFinally (x : Raising σ ε α) (final : σ → σ) : Raising σ ε α := fun s =>
  ((x s).1, final (x s).2)

/-! ## Sequencing -/

variable {x : Raising σ ε α} {f : α → Raising σ ε β} {s s' : σ} {a : α} {e : ε}

theorem bind_of_ok (h : x s = (.ok a, s')) : (x >>= f) s = f a s' := by
  show Raising.bind x f s = f a s'
  rw [Raising.bind, h]

theorem bind_of_error (h : x s = (.error e, s')) : (x >>= f) s = (.error e, s') := by
  show Raising.bind x f s = (.error e, s')
  rw [Raising.bind, h]

/-- **A sequence returns exactly when both parts do.** -/
theorem bind_eq_ok_iff {s s'' : σ} {b : β} :
    (x >>= f) s = (.ok b, s'') ↔ ∃ a s', x s = (.ok a, s') ∧ f a s' = (.ok b, s'') := by
  cases hx : x s with
  | mk r s' =>
      cases r with
      | ok a =>
          rw [bind_of_ok hx]
          constructor
          · intro h
            exact ⟨a, s', rfl, h⟩
          · rintro ⟨a', s₁, heq, h⟩
            obtain ⟨ha, rfl⟩ := Prod.mk.inj heq
            obtain rfl := Except.ok.inj ha
            exact h
      | error e =>
          rw [bind_of_error hx]
          constructor
          · intro h
            exact nomatch (Prod.mk.inj h).1
          · rintro ⟨a', s₁, heq, -⟩
            exact nomatch (Prod.mk.inj heq).1

theorem bind_eq_error {s s'' : σ} (h : (x >>= f) s = (.error e, s'')) :
    x s = (.error e, s'') ∨ ∃ a s', x s = (.ok a, s') ∧ f a s' = (.error e, s'') := by
  cases hx : x s with
  | mk r s' =>
      cases r with
      | ok a =>
          rw [bind_of_ok hx] at h
          exact .inr ⟨a, s', rfl, h⟩
      | error e' =>
          rw [bind_of_error hx] at h
          obtain ⟨he, rfl⟩ := Prod.mk.inj h
          obtain rfl := Except.error.inj he
          exact .inl rfl

theorem ofExcept_eq_ok_iff {x : Except ε α} : ofExcept x s = (.ok a, s') ↔ x = .ok a ∧ s' = s := by
  rw [ofExcept, Prod.mk.injEq]
  exact ⟨fun h => ⟨h.1, h.2.symm⟩, fun h => ⟨h.1, h.2.symm⟩⟩

theorem ofExcept_of_eq {x r : Except ε α} (h : x = r) (s : σ) : ofExcept x s = (r, s) := by
  rw [ofExcept, h]

theorem asks_of_eq {f : σ → α} {s : σ} (h : f s = a) : (asks f : Raising σ ε α) s = (.ok a, s) := by
  rw [asks, h]

theorem state_bind_pure (x : Raising σ ε α) (f : α → β) (s : σ) :
    ((x >>= fun a => pure (f a)) s).2 = (x s).2 := by
  cases hx : x s with
  | mk r s' =>
      cases r with
      | ok a =>
          rw [bind_of_ok hx]
          rfl
      | error e => rw [bind_of_error hx]

theorem not_exists_raised_eq_ok (e : ε) (s : σ) :
    ¬ ∃ (a : α) (s' : σ), ((.error e, s) : Except ε α × σ) = (.ok a, s') := by
  rintro ⟨a, s', h⟩
  cases (Prod.mk.inj h).1

theorem zoom_eq_ok_iff {part : σ → τ} {put : τ → σ → σ} {x : Raising τ ε α} :
    zoom part put x s = (.ok a, s') ↔ ∃ t, x (part s) = (.ok a, t) ∧ s' = put t s := by
  rw [zoom, Prod.mk.injEq]
  constructor
  · rintro ⟨ha, rfl⟩
    exact ⟨_, Prod.ext ha rfl, rfl⟩
  · rintro ⟨t, hx, rfl⟩
    rw [hx]
    exact ⟨rfl, rfl⟩

theorem andFinally_eq_ok_iff {final : σ → σ} :
    andFinally x final s = (.ok a, s') ↔ ∃ t, x s = (.ok a, t) ∧ s' = final t := by
  rw [andFinally, Prod.mk.injEq]
  constructor
  · rintro ⟨ha, rfl⟩
    exact ⟨_, Prod.ext ha rfl, rfl⟩
  · rintro ⟨t, hx, rfl⟩
    rw [hx]
    exact ⟨rfl, rfl⟩

/-! ## Partial correctness -/

/-- Started where `P` holds, the computation returns only where `Q` does. -/
def Returns (P : σ → Prop) (x : Raising σ ε α) (Q : α → σ → Prop) : Prop :=
  ∀ s a s', P s → x s = (.ok a, s') → Q a s'

theorem Returns.bind {P : σ → Prop} {Q : α → σ → Prop} {R : β → σ → Prop} (hx : Returns P x Q)
    (hf : ∀ a, Returns (Q a) (f a) R) : Returns P (x >>= f) R := by
  intro s b s'' hP h
  obtain ⟨a, s', hxs, hfs⟩ := bind_eq_ok_iff.mp h
  exact hf a s' b s'' (hx s a s' hP hxs) hfs

/-- A computation on a part of the state keeps its specification there. -/
theorem Returns.zoom {part : σ → τ} {put : τ → σ → σ} {P : τ → Prop} {x : Raising τ ε α}
    {Q : α → τ → Prop} (hput : ∀ t s, part (put t s) = t) (hx : Returns P x Q) :
    Returns (fun s => P (part s)) (zoom part put x) fun a s => Q a (part s) := by
  intro s a s' hP h
  obtain ⟨t, hrun, rfl⟩ := zoom_eq_ok_iff.mp h
  show Q a (part (put t s))
  rw [hput]
  exact hx (part s) a t hP hrun

theorem Returns.andFinally {P : σ → Prop} {final : σ → σ} {Q : α → σ → Prop}
    (hx : Returns P x fun a s => Q a (final s)) : Returns P (andFinally x final) Q := by
  intro s a s' hP h
  obtain ⟨t, hrun, rfl⟩ := andFinally_eq_ok_iff.mp h
  exact hx s a t hP hrun

/-- Where the computation returns, this part of the state is as before. -/
def Keeps (part : σ → τ) (x : Raising σ ε α) : Prop :=
  ∀ s a s', x s = (.ok a, s') → part s' = part s

theorem Keeps.bind {part : σ → τ} (hx : Keeps part x) (hf : ∀ a, Keeps part (f a)) :
    Keeps part (x >>= f) := by
  intro s b s'' h
  obtain ⟨a, s', hxs, hfs⟩ := bind_eq_ok_iff.mp h
  exact (hf a s' b s'' hfs).trans (hx s a s' hxs)

/-- Returned or not, this part of the state is as before. -/
def Fixes (part : σ → τ) (x : Raising σ ε α) : Prop := ∀ s, part (x s).2 = part s

theorem Fixes.bind {part : σ → τ} (hx : Fixes part x) (hf : ∀ a, Fixes part (f a)) :
    Fixes part (x >>= f) := by
  intro s
  have hxs := hx s
  cases hrun : x s with
  | mk r s' =>
      rw [hrun] at hxs
      cases r with
      | ok a =>
          rw [bind_of_ok hrun]
          exact (hf a s').trans hxs
      | error err =>
          rw [bind_of_error hrun]
          exact hxs

theorem Fixes.ofExcept {part : σ → τ} (x : Except ε α) : Fixes part (ofExcept x) :=
  fun _ => rfl

/-- What holds of every result that a computation may return. -/
theorem Returns.of_forall {P : σ → Prop} {Q : α → σ → Prop} (h : ∀ a s, Q a s) : Returns P x Q :=
  fun _ a s' _ _ => h a s'

end Raising

namespace Raising

variable {σ τ ε α β : Type}

/-- Run `x`; what it raises is handled on the state that it leaves. -/
def handle (x : Raising σ ε α) (handler : ε → Raising σ ε α) : Raising σ ε α := fun s =>
  match x s with
  | (.ok a, s') => (.ok a, s')
  | (.error e, s') => handler e s'

variable {x : Raising σ ε α} {f : α → Raising σ ε β} {handler : ε → Raising σ ε α}
  {s s' : σ} {a : α} {e : ε}

theorem handle_of_ok (h : x s = (.ok a, s')) : handle x handler s = (.ok a, s') := by
  rw [handle, h]

theorem handle_of_error (h : x s = (.error e, s')) : handle x handler s = handler e s' := by
  rw [handle, h]

/-- Rounds of `body`, of which each goes on with another value or ends the
    loop. -/
def loop (variant : σ → Nat) (body : τ → Raising σ ε (τ ⊕ α))
    (hvariant : ∀ t s t' s', body t s = (.ok (.inl t'), s') → variant s' < variant s)
    (t : τ) (s : σ) : Except ε α × σ :=
  match _hrun : body t s with
  | (.ok (.inl t'), s') => loop variant body hvariant t' s'
  | (.ok (.inr a), s') => (.ok a, s')
  | (.error e, s') => (.error e, s')
termination_by variant s
decreasing_by exact hvariant _ _ _ _ _hrun

section
variable {variant : σ → Nat} {body : τ → Raising σ ε (τ ⊕ α)}
  {hvariant : ∀ t s t' s', body t s = (.ok (.inl t'), s') → variant s' < variant s}

/-- One round, and what comes after it. -/
theorem loop_eq (t : τ) (s : σ) :
    loop variant body hvariant t s = match body t s with
      | (.ok (.inl t'), s') => loop variant body hvariant t' s'
      | (.ok (.inr a), s') => (.ok a, s')
      | (.error e, s') => (.error e, s') := by
  rw [loop]
  split
  next heq => rw [heq]
  next heq => rw [heq]
  next heq => rw [heq]

theorem loop_of_next {t t' : τ} (h : body t s = (.ok (.inl t'), s')) :
    loop variant body hvariant t s = loop variant body hvariant t' s' := by
  rw [loop_eq, h]

theorem loop_of_done {t : τ} (h : body t s = (.ok (.inr a), s')) :
    loop variant body hvariant t s = (.ok a, s') := by
  rw [loop_eq, h]

theorem loop_of_error {t : τ} (h : body t s = (.error e, s')) :
    loop variant body hvariant t s = (.error e, s') := by
  rw [loop_eq, h]

/-- **The rule of the loop**: what holds before each round, and what each way of
    leaving the loop makes of it. -/
theorem loop_rule {P : τ → σ → Prop} {Q : Except ε α → σ → Prop}
    (hnext : ∀ t s t' s', P t s → body t s = (.ok (.inl t'), s') → P t' s')
    (hdone : ∀ t s a s', P t s → body t s = (.ok (.inr a), s') → Q (.ok a) s')
    (herror : ∀ t s e s', P t s → body t s = (.error e, s') → Q (.error e) s')
    {t : τ} {s : σ} (h : P t s) :
    Q (loop variant body hvariant t s).1 (loop variant body hvariant t s).2 := by
  -- induction on what the variant still allows
  induction hn : variant s using Nat.strongRecOn generalizing t s with
  | _ n ih =>
      cases hrun : body t s with
      | mk r s' =>
          cases r with
          | error e =>
              rw [loop_of_error hrun]
              exact herror t s e s' h hrun
          | ok next =>
              cases next with
              | inr a =>
                  rw [loop_of_done hrun]
                  exact hdone t s a s' h hrun
              | inl t' =>
                  rw [loop_of_next hrun]
                  have hless := hvariant t s t' s' hrun
                  exact ih (variant s') (hn ▸ hless) (hnext t s t' s' h hrun) rfl

end

/-! ## What becomes of the state -/

/-- Returned or not, the computation moves the state as `R` says. -/
def Moves (R : σ → σ → Prop) (x : Raising σ ε α) : Prop := ∀ s, R s (x s).2

variable {R S T : σ → σ → Prop}

theorem Moves.of_eq {r : Except ε α} (hx : Moves R x) (h : x s = (r, s')) : R s s' := by
  have hmoved := hx s
  rw [h] at hmoved
  exact hmoved

/-- A computation that does not touch the state. -/
theorem Moves.ofExcept (hrefl : ∀ s, R s s) (x : Except ε α) : Moves R (ofExcept x) :=
  fun s => hrefl s

theorem Moves.asks (hrefl : ∀ s, R s s) (f : σ → α) :
    Moves R (asks f : Raising σ ε α) := fun s => hrefl s

/-- **Moves compose along a sequence**, and what is said of the whole must hold
    where the first part raises. -/
theorem Moves.bind_of (hx : Moves R x) (hf : ∀ a, Moves S (f a)) (hstop : ∀ s s', R s s' → T s s')
    (hgo : ∀ s s' s'', R s s' → S s' s'' → T s s'') : Moves T (x >>= f) := by
  intro s
  have hxs := hx s
  cases hrun : x s with
  | mk r s' =>
      rw [hrun] at hxs
      cases r with
      | ok a =>
          rw [bind_of_ok hrun]
          exact hgo s s' _ hxs (hf a s')
      | error e =>
          rw [bind_of_error hrun]
          exact hstop s s' hxs

theorem Moves.bind (htrans : ∀ s s' s'', R s s' → R s' s'' → R s s'') (hx : Moves R x)
    (hf : ∀ a, Moves R (f a)) : Moves R (x >>= f) :=
  hx.bind_of hf (fun _ _ h => h) htrans

theorem Moves.handle (htrans : ∀ s s' s'', R s s' → R s' s'' → R s s'') (hx : Moves R x)
    (hhandler : ∀ e, Moves R (handler e)) : Moves R (handle x handler) := by
  intro s
  have hxs := hx s
  cases hrun : x s with
  | mk r s' =>
      rw [hrun] at hxs
      cases r with
      | ok a =>
          rw [handle_of_ok hrun]
          exact hxs
      | error e =>
          rw [handle_of_error hrun]
          exact htrans s s' _ hxs (hhandler e s')

end Raising
