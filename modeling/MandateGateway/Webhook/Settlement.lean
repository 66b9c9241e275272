import MandateGateway.Lib.Runs
import MandateGateway.Webhook.Delivery

/-! # Runs of webhook deliveries

    Any number of deliveries, in any order, with any identifiers, times and
    payloads, each committed or not as its caller likes.  A payment that is
    settled stays as it is, one payload settles at most one payment and does so
    once, and what is not signed does nothing (`runs_settle_once`). -/

namespace MandateGateway

open Runs

namespace WebhookEngine

/-- A delivery, and which answers its caller commits. -/
structure Delivery where
  env     : WebhookEnv
  call    : WebhookCall
  commits : Answer → Bool

/-- The next delivery. -/
def step (engine : WebhookEngine) (s : WebhookStore) (d : Delivery) : Answer × WebhookStore :=
  engine.deliver d.commits d.env d.call s

/-- The delivery changes the state of a transaction. -/
def Changes (c : Step WebhookStore Delivery Answer) : Prop :=
  ∃ t, stateIn c.post.db t ≠ stateIn c.pre.db t

/-- The transaction is stored as paid or as rolled back. -/
def Settled (t : String) (s : WebhookStore) : Prop :=
  ∃ state, (state = .committed ∨ state = .rolledBack)
    ∧ stateIn s.db t = some (TransactionState.value state)

/-- The call carries no HMAC of its body. -/
def Unsigned (engine : WebhookEngine) (call : WebhookCall) : Prop :=
  ∀ signature, call.signature = some signature →
    ¬ IsHmacOf (engine.hmac engine.webhookSecret call.rawPayload) signature

/-- An event does not apply to a settled transaction. -/
theorem Settled.not_applies {s : WebhookStore} {e : ProviderEvent} {dbTx : TransactionRow}
    {current target : TransactionState} (h : Settled e.transactionId s) :
    ¬ Applies e s.beginUnit dbTx current target := by
  intro happlies
  obtain ⟨state, hsettled, hstate⟩ := h
  have hrow : s.db.transactions.get e.transactionId = some dbTx := happlies.row
  rw [stateIn, hrow, Option.map_some, happlies.state] at hstate
  have hparsed := congrArg TransactionState.ofValue (Option.some.inj hstate)
  rw [TransactionState.ofValue_value, TransactionState.ofValue_value] at hparsed
  rw [Option.some.inj hparsed] at happlies
  exact happlies.live (.inr hsettled)

/-! ## One delivery -/

variable {engine : WebhookEngine} {s : WebhookStore} {d : Delivery} {t : String}

theorem step_effect (engine : WebhookEngine) (s : WebhookStore) (d : Delivery) :
    Effect engine d.env d.call s (step engine s d).2 := deliver_effect

/-- **A settled transaction stays in its state.** -/
theorem step_of_settled (h : Settled t s) :
    stateIn (step engine s d).2.db t = stateIn s.db t := by
  have heffect := step_effect engine s d
  generalize (step engine s d).2 = after at heffect ⊢
  cases heffect with
  | nothing => rfl
  | registered hevent hnew => rfl
  | @applied e dbTx current target ledger events hevent hnew happlies hlegal =>
      by_cases hsame : t = e.transactionId
      · rw [hsame] at h
        exact absurd happlies h.not_applies
      · exact stateIn_moved_of_ne d.env.db target s.db hsame

theorem settled_step (h : Settled t s) (d : Delivery) : Settled t (step engine s d).2 := by
  obtain ⟨state, hsettled, hstate⟩ := h
  exact ⟨state, hsettled, (step_of_settled ⟨state, hsettled, hstate⟩).trans hstate⟩

theorem exec_of_settled (h : Settled t s) (ds : List Delivery) :
    stateIn (exec (step engine) s ds).db t = stateIn s.db t := by
  induction ds generalizing s with
  | nil => rfl
  | cons d ds ih => exact (ih (settled_step h d)).trans (step_of_settled h)

/-- **A delivery that changes a state settles the transaction that its payload
    names.** -/
theorem settled_of_changes (h : Changes (stepAt (step engine) s d)) :
    ∃ e payload, parsePayload d.call.rawPayload = some payload
      ∧ Names d.call.eventId payload e ∧ Settled e.transactionId (step engine s d).2 := by
  obtain ⟨t, hchanged⟩ := h
  rw [stepAt_post, stepAt_pre] at hchanged
  have heffect := step_effect engine s d
  generalize (step engine s d).2 = after at heffect hchanged ⊢
  cases heffect with
  | nothing => exact absurd rfl hchanged
  | registered hevent hnew => exact absurd rfl hchanged
  | @applied e dbTx current target ledger events hevent hnew happlies hlegal =>
      obtain ⟨-, payload, hparse, hnames, -⟩ := inspect_eq_event_iff.mp hevent
      exact ⟨e, payload, hparse, hnames, target, targetState_settles happlies.target,
        stateIn_moved d.env.db target happlies.row⟩

theorem not_changes_of_settled {e : ProviderEvent} {payload : Json.Value}
    {eventId : Option String} (hparse : parsePayload d.call.rawPayload = some payload)
    (hnames : Names eventId payload e) (h : Settled e.transactionId s) :
    ¬ Changes (stepAt (step engine) s d) := by
  rintro ⟨t, hchanged⟩
  rw [stepAt_post, stepAt_pre] at hchanged
  have heffect := step_effect engine s d
  generalize (step engine s d).2 = after at heffect hchanged
  cases heffect with
  | nothing => exact hchanged rfl
  | registered hevent hnew => exact hchanged rfl
  | @applied e' dbTx current target ledger events hevent hnew happlies hlegal =>
      obtain ⟨-, payload', hparse', hnames', -⟩ := inspect_eq_event_iff.mp hevent
      obtain rfl := Option.some.inj (hparse.symm.trans hparse')
      rw [hnames.same_transaction hnames'] at h
      exact h.not_applies happlies

/-- **An unsigned call changes nothing.** -/
theorem step_of_unsigned (h : Unsigned engine d.call) : (step engine s d).2 = s := by
  have hnot (e : ProviderEvent) : engine.inspect d.env d.call ≠ .ok (.inr e) := by
    intro hevent
    obtain ⟨signature, hsignature, hhmac⟩ :=
      isHmacOf_of_verified (inspect_eq_event_iff.mp hevent).1
    exact h signature hsignature hhmac
  have heffect := step_effect engine s d
  generalize (step engine s d).2 = after at heffect ⊢
  cases heffect with
  | nothing => rfl
  | registered hevent hnew => exact absurd hevent (hnot _)
  | applied hevent hnew happlies hlegal => exact absurd hevent (hnot _)

/-! ## Every run -/

theorem pairwise_changes (engine : WebhookEngine) (s : WebhookStore) (ds : List Delivery) :
    (steps (step engine) s ds).Pairwise fun c c' =>
      c.act.call.rawPayload = c'.act.call.rawPayload → Changes c → ¬ Changes c' := by
  induction ds generalizing s with
  | nil => exact List.Pairwise.nil
  | cons d ds ih =>
      rw [steps_cons]
      refine List.pairwise_cons.mpr ⟨?_, ih _⟩
      intro c' hc' hsame hchanges
      obtain ⟨e, payload, hparse, hnames, hsettled⟩ := settled_of_changes hchanges
      obtain ⟨l, d', r, rfl, rfl⟩ := mem_steps_iff.mp hc'
      -- the payment is still settled when the payload comes again
      have hstill : Settled e.transactionId (exec (step engine) (step engine s d).2 l) :=
        exec_inv (I := Settled e.transactionId) (fun _ d h => settled_step h d) hsettled l
      rw [stepAt_act, stepAt_act] at hsame
      rw [hsame] at hparse
      exact not_changes_of_settled hparse hnames hstill

/-- **In every run of deliveries a settled payment stays as it is, a payload
    changes a state at most once, and an unsigned call changes nothing.** -/
theorem runs_settle_once (engine : WebhookEngine) (s : WebhookStore) (ds : List Delivery) :
    (∀ before after, ds = before ++ after → ∀ t state,
      state = TransactionState.committed ∨ state = .rolledBack →
      stateIn (exec (step engine) s before).db t = some state.value →
      stateIn (exec (step engine) s ds).db t = some state.value)
    ∧ ((steps (step engine) s ds).Pairwise fun c c' =>
      c.act.call.rawPayload = c'.act.call.rawPayload → Changes c → ¬ Changes c')
    ∧ ∀ c ∈ steps (step engine) s ds, Unsigned engine c.act.call → c.post = c.pre := by
  refine ⟨?_, pairwise_changes engine s ds, ?_⟩
  · rintro before after rfl t state hsettled hstate
    rw [exec_append]
    exact (exec_of_settled ⟨state, hsettled, hstate⟩ after).trans hstate
  · intro c hc hunsigned
    obtain ⟨l, d, r, rfl, rfl⟩ := mem_steps_iff.mp hc
    exact step_of_unsigned hunsigned

end WebhookEngine

end MandateGateway
