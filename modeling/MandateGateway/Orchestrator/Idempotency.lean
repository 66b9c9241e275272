import MandateGateway.Lib.Runs
import MandateGateway.Orchestrator.Engine
import Mathlib.Data.List.Pairwise

/-! # Results that are shared by an idempotency key

    The orchestrator remembers a result under the idempotency key of the
    request alone.  A later call with the key gets that result, whoever makes
    it and whatever it asks for.

    * `history`: what the cache of a run holds, and for whom;
    * `isolated_iff`: no two different requests share a result exactly when no
      request repeats the key of an earlier, different one that completed. -/

namespace MandateGateway

open Runs

namespace OrchestratorExecutionRequest

/-- The same buyer, merchant, mandate and intent. -/
structure SameIntent (r r' : OrchestratorExecutionRequest) : Prop where
  buyerId        : r.buyerId = r'.buyerId
  merchantId     : r.merchantId = r'.merchantId
  mandateId      : r.mandateId = r'.mandateId
  userIntentText : r.userIntentText = r'.userIntentText

theorem SameIntent.refl (r : OrchestratorExecutionRequest) : SameIntent r r :=
  ⟨rfl, rfl, rfl, rfl⟩

theorem SameIntent.symm {r r' : OrchestratorExecutionRequest} (h : SameIntent r r') :
    SameIntent r' r :=
  ⟨h.buyerId.symm, h.merchantId.symm, h.mandateId.symm, h.userIntentText.symm⟩

theorem SameIntent.trans {r r' r'' : OrchestratorExecutionRequest} (h : SameIntent r r')
    (h' : SameIntent r' r'') : SameIntent r r'' :=
  ⟨h.buyerId.trans h'.buyerId, h.merchantId.trans h'.merchantId, h.mandateId.trans h'.mandateId,
    h.userIntentText.trans h'.userIntentText⟩

end OrchestratorExecutionRequest

namespace CommerceOrchestrator

/-- A call of a run. -/
abbrev IntentStep : Type := Step CommerceOrchestrator OrchestratorCall OrchestratorOutcome

/-- Two calls under one key return one result. -/
def SharesResult (c d : IntentStep) : Prop :=
  c.act.request.idempotencyKey = d.act.request.idempotencyKey
    ∧ ∃ res, c.out.result = .ok res ∧ d.out.result = .ok res

/-- Two calls that share a result make the same request. -/
def ApartOrSame (c d : IntentStep) : Prop :=
  SharesResult c d → c.act.request.SameIntent d.act.request

instance : Std.Symm ApartOrSame where
  symm _ _ h hshared :=
    (h ⟨hshared.1.symm, hshared.2.imp fun _ hboth => hboth.symm⟩).symm

/-- Only the same request shares a result. -/
def Isolated (run : List IntentStep) : Prop := run.Pairwise ApartOrSame

/-- The later call does not repeat the key of the earlier one, unless this does
    not complete or is the same request. -/
def KeepsKey (a b : OrchestratorCall) : Prop :=
  a.request.idempotencyKey = b.request.idempotencyKey → a.Completes →
    a.request.SameIntent b.request

section
variable {sha : Sha256} {o : CommerceOrchestrator} {c : OrchestratorCall}
  {res : EndToEndExecutionResult}

/-! ## The cache -/

theorem executeIntent_of_cached (sha : Sha256)
    (h : o.executedIntents.get c.request.idempotencyKey = some res) :
    o.executeIntent sha c = (⟨.ok res, none⟩, o) := by
  rw [executeIntent, h]

theorem cached_of_returned (h : (o.executeIntent sha c).1.result = .ok res) :
    (o.executeIntent sha c).2.executedIntents.get c.request.idempotencyKey = some res := by
  have heffect := intent_effect sha o c
  generalize o.executeIntent sha c = r at heffect h ⊢
  obtain ⟨outcome, o'⟩ := r
  cases heffect with
  | cached hkey =>
      cases h
      exact hkey
  | raised => cases h
  | returned hkey _ =>
      cases h
      exact OrderedMap.get_set_self _ _ _

theorem cached_of_cached {key : String} (h : o.executedIntents.get key = some res) :
    (o.executeIntent sha c).2.executedIntents.get key = some res := by
  have heffect := intent_effect sha o c
  generalize o.executeIntent sha c = r at heffect ⊢
  obtain ⟨outcome, o'⟩ := r
  cases heffect with
  | cached _ => exact h
  | raised => exact h
  | returned hkey _ =>
      have hne : key ≠ c.request.idempotencyKey := by
        rintro rfl
        rw [hkey] at h
        cases h
      rw [OrderedMap.get_set_of_ne _ hne]
      exact h

theorem cached_cases {key : String}
    (h : (o.executeIntent sha c).2.executedIntents.get key = some res) :
    o.executedIntents.get key = some res
      ∨ (c.request.idempotencyKey = key ∧ c.Completes
          ∧ (o.executeIntent sha c).1.result = .ok res) := by
  have heffect := intent_effect sha o c
  generalize o.executeIntent sha c = r at heffect h ⊢
  obtain ⟨outcome, o'⟩ := r
  cases heffect with
  | cached _ => exact .inl h
  | raised => exact .inl h
  | returned hkey hinternal =>
      by_cases hsame : key = c.request.idempotencyKey
      · obtain rfl := hsame
        rw [OrderedMap.get_set_self] at h
        obtain rfl := Option.some.inj h
        exact .inr ⟨rfl, hinternal.completes_iff.mpr ⟨_, rfl⟩, rfl⟩
      · rw [OrderedMap.get_set_of_ne _ hsame] at h
        exact .inl h

theorem returned_of_completes (sha : Sha256) (o : CommerceOrchestrator) (h : c.Completes) :
    ∃ res, (o.executeIntent sha c).1.result = .ok res := by
  have heffect := intent_effect sha o c
  generalize o.executeIntent sha c = r at heffect ⊢
  obtain ⟨outcome, o'⟩ := r
  cases heffect with
  | cached _ => exact ⟨_, rfl⟩
  | raised _ hnot => exact absurd h hnot
  | returned => exact ⟨_, rfl⟩

theorem sharesResult_next (sha : Sha256) (o : CommerceOrchestrator) {c d : OrchestratorCall}
    (hkey : c.request.idempotencyKey = d.request.idempotencyKey) (hcompletes : c.Completes) :
    SharesResult (stepAt (executeIntent sha) o c)
      (stepAt (executeIntent sha) (o.executeIntent sha c).2 d) := by
  obtain ⟨res, hres⟩ := returned_of_completes sha o hcompletes
  have hcached := cached_of_returned hres
  rw [hkey] at hcached
  refine ⟨hkey, res, hres, ?_⟩
  rw [stepAt_out, executeIntent_of_cached sha hcached]

/-! ## The cache of a run -/

/-- The cache holds what some call returned that completed, and everything that
    any call returned. -/
structure History (past : List IntentStep) (o : CommerceOrchestrator) : Prop where
  computed : ∀ key res, o.executedIntents.get key = some res →
    ∃ c ∈ past, c.act.request.idempotencyKey = key ∧ c.act.Completes ∧ c.out.result = .ok res
  kept     : ∀ c ∈ past, ∀ res, c.out.result = .ok res →
    o.executedIntents.get c.act.request.idempotencyKey = some res
  returned : ∀ c ∈ past, c.act.Completes → ∃ res, c.out.result = .ok res

theorem History.concat {past : List IntentStep} (h : History past o) (c : OrchestratorCall) :
    History (past ++ [stepAt (executeIntent sha) o c]) (o.executeIntent sha c).2 := by
  refine ⟨?_, ?_, ?_⟩
  · intro key res hcached
    rcases cached_cases hcached with hbefore | ⟨hkey, hcompletes, hres⟩
    · obtain ⟨e, he, hfound⟩ := h.computed key res hbefore
      exact ⟨e, List.mem_append_left _ he, hfound⟩
    · exact ⟨_, List.mem_append_right _ (List.mem_singleton_self _), hkey, hcompletes, hres⟩
  · intro d hd res hres
    rcases List.mem_append.mp hd with hpast | hlast
    · exact cached_of_cached (h.kept d hpast res hres)
    · obtain rfl := List.mem_singleton.mp hlast
      exact cached_of_returned hres
  · intro d hd hcompletes
    rcases List.mem_append.mp hd with hpast | hlast
    · exact h.returned d hpast hcompletes
    · obtain rfl := List.mem_singleton.mp hlast
      exact returned_of_completes sha o hcompletes

/-- **The cache of a run belongs to the calls that completed in it.** -/
theorem history (sha : Sha256) (calls : List OrchestratorCall) :
    History (steps (executeIntent sha) new calls) (exec (executeIntent sha) new calls) := by
  have hnew : History [] new := by
    refine ⟨?_, List.forall_mem_nil _, List.forall_mem_nil _⟩
    intro key res hcached
    cases hcached
  refine history_inv (P := fun _ => True) ?_ hnew fun _ _ => trivial
  intro past o c h _
  exact h.concat c

/-! ## Isolation -/

theorem isolated_next_iff {past : List IntentStep} (h : History past o) (hpast : Isolated past) :
    (∀ d ∈ past, ApartOrSame d (stepAt (executeIntent sha) o c))
      ↔ ∀ d ∈ past, KeepsKey d.act c := by
  have hanswer : ∀ d ∈ past, d.act.request.idempotencyKey = c.request.idempotencyKey →
      ∀ res, d.out.result = .ok res → (o.executeIntent sha c).1.result = .ok res := by
    intro d hd hkey res hres
    have hcached := h.kept d hd res hres
    rw [hkey] at hcached
    rw [executeIntent_of_cached sha hcached]
  constructor
  · intro hshared d hd hkey hcompletes
    obtain ⟨res, hres⟩ := h.returned d hd hcompletes
    exact hshared d hd ⟨hkey, res, hres, hanswer d hd hkey res hres⟩
  · rintro hkeeps d hd ⟨hkey, res, hres, -⟩
    -- the result is that of a call which completed, maybe another one than `d`
    obtain ⟨e, he, hekey, hcompletes, heres⟩ := h.computed _ _ (h.kept d hd res hres)
    have hsame : e.act.request.SameIntent d.act.request :=
      hpast.forall_of_forall (fun _ _ _ => .refl _) he hd ⟨hekey, res, heres, hres⟩
    exact hsame.symm.trans (hkeeps e he (hekey.trans hkey) hcompletes)

/-- **The calls of a run share results only with the same request exactly when
    none repeats the key of a different request that completed.** -/
theorem isolated_iff (sha : Sha256) (calls : List OrchestratorCall) :
    Isolated (steps (executeIntent sha) new calls) ↔ calls.Pairwise KeepsKey := by
  -- the condition on the calls, read off the steps
  rw [← map_act_steps (f := executeIntent sha) new calls, List.pairwise_map, map_act_steps]
  induction calls using List.reverseRecOn with
  | nil => exact iff_of_true List.Pairwise.nil List.Pairwise.nil
  | append_singleton calls c ih =>
      rw [steps_concat, Isolated, List.pairwise_append, List.pairwise_append]
      simp only [List.pairwise_singleton, List.mem_singleton, forall_eq, true_and]
      rw [← Isolated]
      have hhistory := history sha calls
      constructor
      · rintro ⟨hpast, hnext⟩
        exact ⟨ih.mp hpast, (isolated_next_iff hhistory hpast).mp hnext⟩
      · rintro ⟨hpast, hnext⟩
        exact ⟨ih.mpr hpast, (isolated_next_iff hhistory (ih.mpr hpast)).mpr hnext⟩

end

theorem owner_ne : "buy_user_orch" ≠ "" := by decide

theorem stranger_ne : "buy_user_1" ≠ "" := by decide

open OrchestratorCall.Sample in
/-- A buyer who repeats the key of another buyer gets the result of the other's
    payment. -/
theorem twoBuyers_share :
    ¬ Isolated (steps (executeIntent digests) new
      [call firstUuid "buy_user_orch" owner_ne, call secondUuid "buy_user_1" stranger_ne]) := by
  intro h
  have hpair := (List.pairwise_cons.mp h).1 _ (List.mem_singleton_self _)
  have hsame := hpair (sharesResult_next digests new rfl (completes_call firstUuid owner_ne))
  exact absurd hsame.buyerId (by decide)

end CommerceOrchestrator

end MandateGateway
