import MandateGateway.Lib.Runs
import MandateGateway.StepUp.AsyncEngine

/-! # The bindings of a challenge over its resolutions

    A resolution writes a text of its own into the column that holds the
    bindings of the challenge.  `rowAfter` is what each operation makes of the
    challenge's row, and the last theorem says which sequences of operations
    leave the challenge readable, with its bindings and the status of its
    first resolution. -/

namespace MandateGateway

open Clock Raising Runs

/-- An operation on the stored challenges, in a unit of work that keeps what
    an operation did before it raised, or rolls it back. -/
inductive ResolutionCall where
  | approve (keeps : Bool) (env : StepUpDbEnv) (challengeId approverId : String)
      (metadata : Option String) (at? : Option Instant)
  | reject (keeps : Bool) (challengeId : String) (reason : Option String)
  | asyncReject (keeps : Bool) (env : StepUpDbEnv) (challengeId reason : String)
      (at? : Option Instant)
  | asyncGet (challengeId : String)

/-- What an operation returns or raises. -/
inductive ResolutionAnswer where
  | row (result : Except StoreError StepUpChallengeRow)
  | challenge (result : Except StoreError StoredChallenge)
  | lookup (result : Except StoreError (Option StoredChallenge))

namespace AsyncStepUp

open StepUpRepository (approvalMetadata rejectionMetadata)

/-- One operation. -/
def step (s : AsyncStepUp) : ResolutionCall → ResolutionAnswer × AsyncStepUp
  | .approve keeps env challengeId approverId metadata at? =>
      let (result, s') := within keeps (onRepository
        (StepUpRepository.approveChallenge env challengeId approverId metadata at?)) s
      (.row result, s')
  | .reject keeps challengeId reason =>
      let (result, s') := within keeps (onRepository
        (StepUpRepository.rejectChallenge challengeId reason)) s
      (.row result, s')
  | .asyncReject keeps env challengeId reason at? =>
      let (result, s') := within keeps (rejectChallenge env challengeId reason at?) s
      (.challenge result, s')
  | .asyncGet challengeId => (.lookup (getChallenge challengeId s), s)

/-! ## What is read back -/

/-- The challenge has the bindings of its creation. -/
structure Bound (terms : ChallengeTerms) (r : StoredChallenge) : Prop where
  mandate     : r.mandateId = .str (Text.strip terms.mandateId)
  transaction : r.transactionId = Text.strip terms.transactionId
  cartHash    : r.cartHash = .str (normalizedHash terms.cartHash)
  approved    : r.approvedPaise = .int terms.approvedPaise
  proposed    : r.proposedPaise = .int terms.proposedPaise
  merchant    : r.merchantId = .str (Text.strip terms.merchantId)

/-- The challenge is read back, with its bindings and with this status. -/
def Restores (cid : String) (terms : ChallengeTerms) (status : StepUpChallengeStatus)
    (s : AsyncStepUp) : Prop :=
  ∃ r, getChallenge cid s = .ok (some r) ∧ r.status = status ∧ Bound terms r

def statusOf (cid : String) (s : AsyncStepUp) : Option StepUpChallengeStatus :=
  (StepUpRepository.getChallenge cid s.db).bind fun row =>
    StepUpChallengeStatus.ofValue row.status

/-- The status that the first resolution gives: a challenge that is no longer
    pending keeps the status it got. -/
def settled (cid : String) (status : StepUpChallengeStatus) (s : AsyncStepUp) :
    List ResolutionCall → StepUpChallengeStatus
  | [] => status
  | call :: calls =>
      let s' := (step s call).2
      settled cid (if status = .pending then (statusOf cid s').getD .pending else status) s' calls

/-- The text in the column has the bindings of the challenge. -/
def Carries (terms : ChallengeTerms) (metadata : Option String) : Prop :=
  ∃ members, Metadata.load metadata = .ok members
    ∧ Metadata.get members "mandate_id" (.str "") = .str (Text.strip terms.mandateId)
    ∧ Metadata.get members "cart_hash" (.str "") = .str (normalizedHash terms.cartHash)
    ∧ Metadata.get members "approved_paise" (.int 0) = .int terms.approvedPaise
    ∧ Metadata.get members "proposed_paise" (.int 0) = .int terms.proposedPaise
    ∧ Metadata.get members "merchant_id" (.str "") = .str (Text.strip terms.merchantId)

/-- A text that is read as an object. -/
def loads (metadata : String) : Bool := (Metadata.load (some metadata)).toOption.isSome

/-- The operation leaves the challenge of this row readable, with its bindings
    and with the status it has, if that is not pending.  Its approval must not
    be found late once it is approved or rejected, unless the late approval is
    rolled back; and what resolves it must write the bindings again. -/
def Harmless (cid : String) (terms : ChallengeTerms) (row : StepUpChallengeRow) :
    ResolutionCall → Prop
  | .approve keeps env challengeId approverId metadata at? => challengeId = cid →
      if row.expiresAt ≤ at?.getD env.repositoryNow then
        keeps = true → row.status = StepUpChallengeStatus.pending.value
          ∨ row.status = StepUpChallengeStatus.expired.value
      else row.status = StepUpChallengeStatus.pending.value →
        Carries terms (some (approvalMetadata approverId metadata))
  | .reject _ challengeId reason => challengeId = cid →
      row.status = StepUpChallengeStatus.pending.value →
        Carries terms (some (rejectionMetadata reason))
  | .asyncReject keeps _ challengeId reason _ => Text.strip challengeId = cid →
      row.status = StepUpChallengeStatus.pending.value →
        keeps = true ∨ loads (rejectionMetadata (some reason)) = true →
          Carries terms (some (rejectionMetadata (some reason)))
  | .asyncGet _ => True

/-! ## What the operations make of a row -/

def rowAfter (cid : String) (row : StepUpChallengeRow) : ResolutionCall → StepUpChallengeRow
  | .approve keeps env challengeId approverId metadata at? =>
      let checkTime := at?.getD env.repositoryNow
      if challengeId ≠ cid then row
      else if row.expiresAt ≤ checkTime then
        if keeps then StepUpRepository.expire row else row
      else if row.status ≠ StepUpChallengeStatus.pending.value then row
      else StepUpRepository.approve checkTime (approvalMetadata approverId metadata) row
  | .reject _ challengeId reason =>
      if challengeId ≠ cid ∨ row.status ≠ StepUpChallengeStatus.pending.value then row
      else StepUpRepository.reject (rejectionMetadata reason) row
  | .asyncReject keeps _ challengeId reason _ =>
      if Text.strip challengeId ≠ cid ∨ row.status ≠ StepUpChallengeStatus.pending.value then row
      else if keeps || loads (rejectionMetadata (some reason)) then
        StepUpRepository.reject (rejectionMetadata (some reason)) row
      else row
  | .asyncGet _ => row

section
variable {cid : String} {row : StepUpChallengeRow} {s : AsyncStepUp}

/-- A unit of work leaves the tables of its operation, or those before it. -/
theorem within_db {α : Type} (keeps : Bool) (x : Action α) (s : AsyncStepUp) :
    (within keeps x s).2.db
      = if keeps || (x s).1.toOption.isSome then (x s).2.db else s.db := by
  rw [within]
  rcases hx : x s with ⟨r, s'⟩
  cases r with
  | ok a =>
      show s'.db = if (keeps || true) = true then s'.db else s.db
      rw [Bool.or_true, if_pos rfl]
  | error err =>
      show (if keeps = true then s' else { s' with db := s.db }).db
        = if (keeps || false) = true then s'.db else s.db
      rw [Bool.or_false]
      cases keeps <;> rfl

theorem onRepository_db {α : Type} (x : StepUpRepository.Action α) (s : AsyncStepUp) :
    (onRepository x s).2.db = (x s.db).2 := by
  rw [onRepository]
  rcases x s.db with ⟨_ | _, db⟩ <;> rfl

/-- An operation that leaves a row alone does so in a unit of work too. -/
theorem get_within {α : Type} (keeps : Bool) {x : Action α}
    (h : StepUpRepository.getChallenge cid (x s).2.db = StepUpRepository.getChallenge cid s.db) :
    StepUpRepository.getChallenge cid (within keeps x s).2.db
      = StepUpRepository.getChallenge cid s.db := by
  rw [within_db]
  cases keeps || (x s).1.toOption.isSome with
  | true => exact h
  | false => rfl

theorem approve_row (keeps : Bool) (env : StepUpDbEnv) (challengeId approverId : String)
    (metadata : Option String) (at? : Option Instant)
    (h : StepUpRepository.getChallenge cid s.db = some row) :
    StepUpRepository.getChallenge cid
        (step s (.approve keeps env challengeId approverId metadata at?)).2.db
      = some (rowAfter cid row (.approve keeps env challengeId approverId metadata at?)) := by
  show StepUpRepository.getChallenge cid (within keeps (onRepository _) s).2.db = _
  rw [rowAfter]
  by_cases hid : challengeId = cid
  · subst hid
    rw [if_neg (not_not.mpr rfl)]
    by_cases htime : row.expiresAt ≤ at?.getD env.repositoryNow
    · obtain ⟨err, hlate⟩ := StepUpRepository.approveChallenge_late env approverId metadata at? h
        htime
      rw [if_pos htime, within_db, onRepository]
      simp only [hlate]
      cases keeps with
      | true => exact StepUpRepository.get_updated_self _ h
      | false => exact h
    · have hlive := Int.not_le.mp htime
      rw [if_neg htime]
      by_cases hpending : row.status = StepUpChallengeStatus.pending.value
      · have happrove := onRepository_eq_ok_iff.mpr ⟨_, StepUpRepository.approveChallenge_pending
          env approverId metadata at? h hlive hpending, rfl⟩
        rw [if_neg (not_not.mpr hpending), within_ok happrove]
        exact StepUpRepository.get_updated_self _ h
      · obtain ⟨err, hresolved⟩ := StepUpRepository.approveChallenge_resolved env approverId
          metadata at? h hlive hpending
        rw [if_pos hpending, ← h]
        refine get_within keeps ?_
        rw [onRepository_db, hresolved]
  · rw [if_pos hid, ← h]
    refine get_within keeps ?_
    rw [onRepository_db]
    exact StepUpRepository.get_approveChallenge_of_ne env approverId metadata at? (Ne.symm hid)

theorem reject_row (keeps : Bool) (challengeId : String) (reason : Option String)
    (h : StepUpRepository.getChallenge cid s.db = some row) :
    StepUpRepository.getChallenge cid (step s (.reject keeps challengeId reason)).2.db
      = some (rowAfter cid row (.reject keeps challengeId reason)) := by
  show StepUpRepository.getChallenge cid (within keeps (onRepository _) s).2.db = _
  rw [rowAfter]
  by_cases hid : challengeId = cid
  · subst hid
    by_cases hpending : row.status = StepUpChallengeStatus.pending.value
    · have hreject := onRepository_eq_ok_iff.mpr
        ⟨_, StepUpRepository.rejectChallenge_pending reason h hpending, rfl⟩
      rw [if_neg (not_or.mpr ⟨not_not.mpr rfl, not_not.mpr hpending⟩), within_ok hreject]
      exact StepUpRepository.get_updated_self _ h
    · obtain ⟨err, hresolved⟩ := StepUpRepository.rejectChallenge_resolved reason h hpending
      rw [if_pos (.inr hpending), ← h]
      refine get_within keeps ?_
      rw [onRepository_db, hresolved]
  · rw [if_pos (.inl hid), ← h]
    refine get_within keeps ?_
    rw [onRepository_db]
    exact StepUpRepository.get_rejectChallenge_of_ne reason (Ne.symm hid)

/-- `async_reject_challenge` on a pending challenge: the row is rejected, and
    whether the call returns depends on the text that it wrote. -/
theorem rejectChallenge_pending (env : StepUpDbEnv) {challengeId : String} (reason : String)
    (at? : Option Instant)
    (h : StepUpRepository.getChallenge (Text.strip challengeId) s.db = some row)
    (hpending : row.status = StepUpChallengeStatus.pending.value) :
    (rejectChallenge env challengeId reason at? s).2.db
        = StepUpRepository.rejected (Text.strip challengeId) (rejectionMetadata (some reason)) s.db
      ∧ (rejectChallenge env challengeId reason at? s).1.toOption.isSome
        = loads (rejectionMetadata (some reason)) := by
  have hreject := onRepository_eq_ok_iff.mpr
    ⟨_, StepUpRepository.rejectChallenge_pending (some reason) h hpending, rfl⟩
  rw [rejectChallenge]
  simp only [h]
  rw [bind_of_ok hreject, loads]
  dsimp only [StepUpRepository.reject]
  cases Metadata.load (some (rejectionMetadata (some reason))) with
  | error err =>
      rw [bind_of_error (ofExcept_of_eq (Eq.refl (Except.error err)) _)]
      exact ⟨rfl, rfl⟩
  | ok members =>
      rw [bind_of_ok (ofExcept_of_eq (Eq.refl (Except.ok members)) _)]
      exact ⟨rfl, rfl⟩

theorem rejectChallenge_resolved (env : StepUpDbEnv) {challengeId : String} (reason : String)
    (at? : Option Instant)
    (h : StepUpRepository.getChallenge (Text.strip challengeId) s.db = some row)
    (hresolved : row.status ≠ StepUpChallengeStatus.pending.value) :
    ∃ err, rejectChallenge env challengeId reason at? s = (.error err, s) := by
  obtain ⟨err, hreject⟩ := StepUpRepository.rejectChallenge_resolved (some reason) h hresolved
  refine ⟨.raised err, ?_⟩
  rw [rejectChallenge]
  simp only [h]
  refine bind_of_error ?_
  rw [onRepository, hreject]

theorem get_rejectChallenge_of_ne (env : StepUpDbEnv) {challengeId : String} (reason : String)
    (at? : Option Instant) (hne : cid ≠ Text.strip challengeId) :
    StepUpRepository.getChallenge cid (rejectChallenge env challengeId reason at? s).2.db
      = StepUpRepository.getChallenge cid s.db := by
  cases hrow : StepUpRepository.getChallenge (Text.strip challengeId) s.db with
  | none =>
      rw [rejectChallenge]
      simp only [hrow]
      rfl
  | some row =>
      by_cases hpending : row.status = StepUpChallengeStatus.pending.value
      · rw [(rejectChallenge_pending env reason at? hrow hpending).1]
        exact StepUpRepository.get_updated_of_ne _ hne
      · obtain ⟨err, hresolved⟩ := rejectChallenge_resolved env reason at? hrow hpending
        rw [hresolved]

theorem asyncReject_row (keeps : Bool) (env : StepUpDbEnv) (challengeId reason : String)
    (at? : Option Instant) (h : StepUpRepository.getChallenge cid s.db = some row) :
    StepUpRepository.getChallenge cid
        (step s (.asyncReject keeps env challengeId reason at?)).2.db
      = some (rowAfter cid row (.asyncReject keeps env challengeId reason at?)) := by
  show StepUpRepository.getChallenge cid (within keeps (rejectChallenge _ _ _ _) s).2.db = _
  rw [rowAfter]
  by_cases hid : Text.strip challengeId = cid
  · subst hid
    by_cases hpending : row.status = StepUpChallengeStatus.pending.value
    · obtain ⟨hdb, hreturns⟩ := rejectChallenge_pending env reason at? h hpending
      rw [if_neg (not_or.mpr ⟨not_not.mpr rfl, not_not.mpr hpending⟩), within_db, hdb, hreturns]
      cases keeps || loads (rejectionMetadata (some reason)) with
      | true => exact StepUpRepository.get_updated_self _ h
      | false => exact h
    · obtain ⟨err, hresolved⟩ := rejectChallenge_resolved env reason at? h hpending
      rw [if_pos (.inr hpending), ← h]
      refine get_within keeps ?_
      rw [hresolved]
  · rw [if_pos (.inl hid), ← h]
    exact get_within keeps (get_rejectChallenge_of_ne env reason at? (Ne.symm hid))

/-- **What an operation makes of a challenge depends on its row only.** -/
theorem row_step (h : StepUpRepository.getChallenge cid s.db = some row) (call : ResolutionCall) :
    StepUpRepository.getChallenge cid (step s call).2.db = some (rowAfter cid row call) := by
  cases call with
  | approve keeps env id approver metadata at? =>
      exact approve_row keeps env id approver metadata at? h
  | reject keeps id reason => exact reject_row keeps id reason h
  | asyncReject keeps env id reason at? => exact asyncReject_row keeps env id reason at? h
  | asyncGet id => exact h

end

/-! ## When a row is read back -/

/-- The row of a challenge that is read back with its bindings. -/
structure Readable (terms : ChallengeTerms) (status : StepUpChallengeStatus)
    (row : StepUpChallengeRow) : Prop where
  carries     : Carries terms row.approverMetadata
  transaction : row.transactionId = Text.strip terms.transactionId
  status      : row.status = status.value

section
variable {cid : String} {terms : ChallengeTerms} {status : StepUpChallengeStatus}
  {row : StepUpChallengeRow} {s : AsyncStepUp}

/-- **A challenge is read back exactly as its row is readable.** -/
theorem restores_iff (hcid : Text.strip cid = cid) (hne : cid ≠ "")
    (h : StepUpRepository.getChallenge cid s.db = some row) :
    Restores cid terms status s ↔ Readable terms status row := by
  rw [Restores, getChallenge, hcid, if_neg hne]
  simp only [h]
  constructor
  · rintro ⟨r, hr, hstatus, hbound⟩
    cases hload : Metadata.load row.approverMetadata with
    | error err =>
        rw [hload] at hr
        cases hr
    | ok members =>
        rw [hload] at hr
        cases hvalue : StepUpChallengeStatus.ofValue row.status with
        | none =>
            simp only [hvalue] at hr
            cases hr
        | some st =>
            simp only [hvalue] at hr
            obtain rfl := Option.some.inj (Except.ok.inj hr)
            have hst : st = status := hstatus
            rw [hst] at hvalue
            exact ⟨⟨members, hload, hbound.mandate, hbound.cartHash, hbound.approved,
                hbound.proposed, hbound.merchant⟩, hbound.transaction,
              StepUpChallengeStatus.ofValue_eq_some_iff.mp hvalue⟩
  · rintro ⟨⟨members, hload, hmandate, hcart, happroved, hproposed, hmerchant⟩, htx, hstatus⟩
    have hvalue := StepUpChallengeStatus.ofValue_eq_some_iff.mpr hstatus
    rw [hload, hvalue]
    exact ⟨_, rfl, rfl, hmandate, htx, hcart, happroved, hproposed, hmerchant⟩

/-- The status that counts after an operation that leaves this row. -/
def nextStatus (status : StepUpChallengeStatus) (row : StepUpChallengeRow) :
    StepUpChallengeStatus :=
  if status = .pending then (StepUpChallengeStatus.ofValue row.status).getD .pending else status

theorem nextStatus_self (h : row.status = status.value) : nextStatus status row = status := by
  rw [nextStatus, StepUpChallengeStatus.ofValue_eq_some_iff.mpr h, Option.getD_some, ite_self]

theorem nextStatus_pending (h : row.status = status.value) :
    nextStatus .pending row = status := by
  rw [nextStatus, if_pos rfl, StepUpChallengeStatus.ofValue_eq_some_iff.mpr h, Option.getD_some]

/-- A row that an operation leaves alone stays readable. -/
theorem Readable.kept (h : Readable terms status row) :
    Readable terms (nextStatus status row) row := by
  rw [nextStatus_self h.status]
  exact h

theorem Readable.resolved_iff (result : StepUpChallengeStatus) {row' : StepUpChallengeRow}
    (h : Readable terms status row) (hpending : row.status = StepUpChallengeStatus.pending.value)
    (htx : row'.transactionId = row.transactionId) (hstatus : row'.status = result.value) :
    Readable terms (nextStatus status row') row' ↔ Carries terms row'.approverMetadata := by
  have hst : status = .pending :=
    StepUpChallengeStatus.value_injective (h.status.symm.trans hpending)
  rw [hst, nextStatus_pending hstatus]
  constructor
  · intro h'
    exact h'.carries
  · intro hcarries
    exact ⟨hcarries, htx.trans h.transaction, hstatus⟩

/-- The status a resolved challenge has is the one that counts. -/
theorem Readable.moved_iff (result : StepUpChallengeStatus) {row' : StepUpChallengeRow}
    (h : Readable terms status row)
    (hresolved : row.status ≠ StepUpChallengeStatus.pending.value)
    (hmetadata : row'.approverMetadata = row.approverMetadata)
    (htx : row'.transactionId = row.transactionId) (hstatus : row'.status = result.value) :
    Readable terms (nextStatus status row') row' ↔ row.status = result.value := by
  have hne : status ≠ .pending := by
    rintro rfl
    exact hresolved h.status
  rw [nextStatus, if_neg hne, h.status]
  constructor
  · intro h'
    rw [← h'.status, hstatus]
  · intro hsame
    refine ⟨?_, htx.trans h.transaction, hstatus.trans hsame.symm⟩
    rw [hmetadata]
    exact h.carries

/-- **A row stays readable over an operation exactly when it is harmless.** -/
theorem Readable.after_iff (h : Readable terms status row) (call : ResolutionCall) :
    Readable terms (nextStatus status (rowAfter cid row call)) (rowAfter cid row call)
      ↔ Harmless cid terms row call := by
  cases call with
  | approve keeps env id approver metadata at? =>
      rw [rowAfter, Harmless]
      by_cases hid : id = cid
      · rw [if_neg (not_not.mpr hid), forall_prop_of_true hid]
        by_cases htime : row.expiresAt ≤ at?.getD env.repositoryNow
        · rw [if_pos htime, if_pos htime]
          cases keeps with
          | false => exact iff_of_true h.kept fun hno => absurd hno (by decide)
          | true =>
              rw [if_pos rfl, forall_prop_of_true rfl]
              by_cases hpending : row.status = StepUpChallengeStatus.pending.value
              · have hexpired := (h.resolved_iff .expired hpending rfl rfl :
                  Readable terms (nextStatus status (StepUpRepository.expire row)) _ ↔ _)
                exact iff_of_true (hexpired.mpr h.carries) (.inl hpending)
              · have hexpired := (h.moved_iff .expired hpending rfl rfl rfl :
                  Readable terms (nextStatus status (StepUpRepository.expire row)) _ ↔ _)
                exact hexpired.trans (or_iff_right hpending).symm
        · rw [if_neg htime, if_neg htime]
          by_cases hpending : row.status = StepUpChallengeStatus.pending.value
          · rw [if_neg (not_not.mpr hpending), forall_prop_of_true hpending]
            exact h.resolved_iff .approved hpending rfl rfl
          · rw [if_pos hpending]
            exact iff_of_true h.kept fun hyes => absurd hyes hpending
      · rw [if_pos hid]
        exact iff_of_true h.kept fun hyes => absurd hyes hid
  | reject keeps id reason =>
      rw [rowAfter, Harmless]
      by_cases hresolves : id = cid ∧ row.status = StepUpChallengeStatus.pending.value
      · obtain ⟨hid, hpending⟩ := hresolves
        rw [if_neg (not_or.mpr ⟨not_not.mpr hid, not_not.mpr hpending⟩), forall_prop_of_true hid,
          forall_prop_of_true hpending]
        exact h.resolved_iff .rejected hpending rfl rfl
      · rw [if_pos (not_and_or.mp hresolves)]
        exact iff_of_true h.kept fun hid hpending => absurd ⟨hid, hpending⟩ hresolves
  | asyncReject keeps env id reason at? =>
      rw [rowAfter, Harmless]
      by_cases hresolves : Text.strip id = cid ∧ row.status = StepUpChallengeStatus.pending.value
      · obtain ⟨hid, hpending⟩ := hresolves
        rw [if_neg (not_or.mpr ⟨not_not.mpr hid, not_not.mpr hpending⟩), forall_prop_of_true hid,
          forall_prop_of_true hpending, ← Bool.or_eq_true]
        by_cases hkept : (keeps || loads (rejectionMetadata (some reason))) = true
        · rw [if_pos hkept, forall_prop_of_true hkept]
          exact h.resolved_iff .rejected hpending rfl rfl
        · rw [if_neg hkept]
          exact iff_of_true h.kept fun hyes => absurd hyes hkept
      · rw [if_pos (not_and_or.mp hresolves)]
        exact iff_of_true h.kept fun hid hpending => absurd ⟨hid, hpending⟩ hresolves
  | asyncGet id => exact iff_of_true h.kept trivial

theorem Restores.stored (h : Restores cid terms status s) (hcid : Text.strip cid = cid) :
    ∃ row, StepUpRepository.getChallenge cid s.db = some row := by
  obtain ⟨r, hr, -⟩ := h
  rw [getChallenge, hcid] at hr
  by_cases hempty : cid = ""
  · rw [if_pos hempty] at hr
    cases hr
  · rw [if_neg hempty] at hr
    cases hrow : StepUpRepository.getChallenge cid s.db with
    | none =>
        simp only [hrow] at hr
        cases hr
    | some row => exact ⟨row, rfl⟩

/-- The operation is harmless to the challenge as it is stored before it. -/
def Spares (cid : String) (terms : ChallengeTerms)
    (c : Step AsyncStepUp ResolutionCall ResolutionAnswer) : Prop :=
  ∀ row, StepUpRepository.getChallenge cid c.pre.db = some row → Harmless cid terms row c.act

theorem restores_step_iff (hcid : Text.strip cid = cid) (hne : cid ≠ "")
    (h : Restores cid terms status s) (call : ResolutionCall) :
    Restores cid terms (settled cid status s [call]) (step s call).2
      ↔ Spares cid terms (stepAt step s call) := by
  obtain ⟨row, hrow⟩ := h.stored hcid
  have hafter := row_step hrow call
  have hreadable := (restores_iff hcid hne hrow).mp h
  have hnext : settled cid status s [call] = nextStatus status (rowAfter cid row call) := by
    rw [settled, settled, statusOf, hafter, Option.bind_some]
    rfl
  rw [hnext, restores_iff hcid hne hafter, hreadable.after_iff]
  constructor
  · intro hharmless row' hrow'
    obtain rfl := Option.some.inj (hrow.symm.trans hrow')
    exact hharmless
  · intro hspares
    exact hspares row hrow

/-- **A challenge can be read back all along a run exactly when every operation
    spares it.** -/
theorem restores_run_iff (hcid : Text.strip cid = cid) (hne : cid ≠ "")
    (calls : List ResolutionCall) (h : Restores cid terms status s) :
    (∀ before after, calls = before ++ after →
        Restores cid terms (settled cid status s before) (exec step s before))
      ↔ ∀ c ∈ steps step s calls, Spares cid terms c := by
  induction calls generalizing s status with
  | nil =>
      refine iff_of_true ?_ (fun c hc => absurd hc List.not_mem_nil)
      intro before after hnil
      rw [(List.append_eq_nil_iff.mp hnil.symm).1]
      exact h
  | cons call calls ih =>
      rw [steps_cons, List.forall_mem_cons, ← restores_step_iff hcid hne h call]
      constructor
      · intro hall
        have hone := hall [call] calls rfl
        refine ⟨hone, (ih hone).mp ?_⟩
        intro before after hcalls
        exact hall (call :: before) after (by rw [hcalls, List.cons_append])
      · rintro ⟨hone, hrest⟩ before after hcalls
        cases before with
        | nil => exact h
        | cons call' before =>
            obtain ⟨rfl, htail⟩ := List.cons.inj hcalls
            exact (ih hone).mpr hrest before after htail

/-! ## Challenges that were created -/

theorem newChallengeId_ne_empty (env : Ambient) : StepUpEngine.newChallengeId env ≠ "" := by
  intro h
  have hlist := congrArg String.toList h
  rw [StepUpEngine.newChallengeId, String.toList_append] at hlist
  exact absurd (List.append_eq_nil_iff.mp hlist).1 (by decide)

theorem created_restores {env : StepUpDbEnv} {at? : Option Instant} {s₀ : AsyncStepUp}
    {r : StoredChallenge} (hcid : Text.strip (StepUpEngine.newChallengeId env.ambient)
      = StepUpEngine.newChallengeId env.ambient)
    (h : createChallenge env terms at? s₀ = (.ok r, s)) :
    Restores (StepUpEngine.newChallengeId env.ambient) terms .pending s := by
  obtain ⟨expires, -, hstored⟩ := createChallenge_stored h
  refine (restores_iff hcid (newChallengeId_ne_empty env.ambient) hstored).mpr ?_
  exact ⟨⟨_, Metadata.load_bindings _ _ _ _ _, rfl, rfl, rfl, rfl, rfl⟩, rfl, rfl⟩

/-- **The bindings of a created challenge are read back after every sequence of
    operations, with the status of the first resolution, exactly when each of
    the operations spares the challenge.** -/
theorem created_restored_iff {env : StepUpDbEnv} {at? : Option Instant} {s₀ : AsyncStepUp}
    {r : StoredChallenge} (hcid : Text.strip (StepUpEngine.newChallengeId env.ambient)
      = StepUpEngine.newChallengeId env.ambient)
    (h : createChallenge env terms at? s₀ = (.ok r, s)) (calls : List ResolutionCall) :
    (∀ before after, calls = before ++ after →
        Restores (StepUpEngine.newChallengeId env.ambient) terms
          (settled (StepUpEngine.newChallengeId env.ambient) .pending s before)
          (exec step s before))
      ↔ ∀ c ∈ steps step s calls,
        Spares (StepUpEngine.newChallengeId env.ambient) terms c :=
  restores_run_iff hcid (newChallengeId_ne_empty env.ambient) calls (created_restores hcid h)

end

/-! ## The texts of a resolution that gives none -/

theorem load_refused {text : String} {c : Char} {rest : List Char} (htext : text.toList = c :: rest)
    (hspace : Json.isSpace c = false) (hstart : c ∉ Json.starters) (hdigit : c.isDigit = false) :
    Metadata.load (some text) = .error .jsonDecodeError := by
  have hne : text ≠ "" := by
    rintro rfl
    cases htext
  rw [Metadata.load, Option.filter_some, if_pos (bne_iff_ne.mpr hne)]
  simp only [Json.decode_eq_none htext hspace hstart hdigit]

theorem load_approvalMetadata (approverId : String) :
    Metadata.load (some (approvalMetadata approverId none)) = .error .jsonDecodeError :=
  load_refused (c := 'a') (by rw [approvalMetadata, orElseText, String.toList_append]; rfl) rfl
    (by decide) rfl

theorem load_rejectionMetadata :
    Metadata.load (some (rejectionMetadata none)) = .error .jsonDecodeError :=
  load_refused (c := 'r') rfl rfl (by decide) rfl

theorem load_defaultReason :
    Metadata.load (some (rejectionMetadata (some "Human rejected challenge")))
      = .error .jsonDecodeError :=
  load_refused (c := 'H') rfl rfl (by decide) rfl

theorem not_carries_of_load {terms : ChallengeTerms} {metadata : Option String} {err : StoreError}
    (h : Metadata.load metadata = .error err) : ¬ Carries terms metadata := by
  rintro ⟨members, hload, -⟩
  rw [h] at hload
  cases hload

/-- **No resolution that leaves its text to the code is harmless to a pending
    challenge**, if the unit of work keeps it. -/
theorem default_not_harmless {cid : String} {terms : ChallengeTerms} {row : StepUpChallengeRow}
    (hpending : row.status = StepUpChallengeStatus.pending.value) :
    (∀ keeps env approverId at?, at?.getD env.repositoryNow < row.expiresAt →
        ¬ Harmless cid terms row (.approve keeps env cid approverId none at?))
      ∧ (∀ keeps, ¬ Harmless cid terms row (.reject keeps cid none))
      ∧ ∀ env challengeId at?, Text.strip challengeId = cid →
        ¬ Harmless cid terms row
          (.asyncReject true env challengeId "Human rejected challenge" at?) := by
  refine ⟨?_, ?_, ?_⟩
  · intro keeps env approverId at? htime h
    have happrove := h rfl
    rw [if_neg (Int.not_le.mpr htime)] at happrove
    exact not_carries_of_load (load_approvalMetadata approverId) (happrove hpending)
  · intro keeps h
    exact not_carries_of_load load_rejectionMetadata (h rfl hpending)
  · intro env challengeId at? hid h
    exact not_carries_of_load load_defaultReason (h hid hpending (.inl rfl))

/-! ## A resolved challenge -/

namespace Sample

def row : StepUpChallengeRow where
  challengeId := "challenge-1"
  transactionId := "tx-1"
  status := "PENDING"
  riskClassification := "STEP_UP_REQUIRED"
  createdAt := env.repositoryNow
  expiresAt := env.ambient.now + 300000000
  approvedAt := none
  approverMetadata := some (Metadata.bindings "mandate-1" "ab12" 10000 10500 "merchant-1").dumps

theorem stored : StepUpRepository.getChallenge "challenge-1" created.db = some row := rfl

def approval (metadata : Option String) : ResolutionCall :=
  .approve true env "challenge-1" "human-1" metadata none

theorem strip_id : Text.strip (StepUpEngine.newChallengeId env.ambient)
    = StepUpEngine.newChallengeId env.ambient := by
  decide

end Sample

/-- An approval that writes the bindings again: the approved challenge is read
    back. -/
theorem created_restored_iff_rewritten :
    Restores (StepUpEngine.newChallengeId Sample.env.ambient) Sample.terms .approved
      (exec step Sample.created [Sample.approval Sample.row.approverMetadata]) := by
  obtain ⟨r, hr⟩ := Sample.created_eq
  have hspares : ∀ c ∈ steps step Sample.created [Sample.approval Sample.row.approverMetadata],
      Spares (StepUpEngine.newChallengeId Sample.env.ambient) Sample.terms c := by
    intro c hc row hrow
    obtain rfl := List.mem_singleton.mp hc
    obtain rfl := Option.some.inj (Sample.stored.symm.trans hrow)
    intro _
    rw [if_neg (by decide)]
    intro _
    rw [approvalMetadata, Sample.row, orElseText, if_neg (Metadata.dumps_ne_empty _)]
    exact ⟨_, Metadata.load_bindings _ _ _ _ _, rfl, rfl, rfl, rfl, rfl⟩
  exact (created_restored_iff Sample.strip_id hr _).mpr hspares _ [] (List.append_nil _).symm

/-- **An approval without metadata**: the bindings are gone, and the challenge
    can no longer be read. -/
theorem approved_unreadable :
    (∃ r, createChallenge Sample.env Sample.terms none Sample.start = (.ok r, Sample.created))
      ∧ getChallenge "challenge-1" (exec step Sample.created [Sample.approval none])
        = .error .jsonDecodeError
      ∧ ¬ Restores (StepUpEngine.newChallengeId Sample.env.ambient) Sample.terms
        (settled (StepUpEngine.newChallengeId Sample.env.ambient) .pending Sample.created
          [Sample.approval none]) (exec step Sample.created [Sample.approval none]) := by
  have hget : getChallenge "challenge-1" (exec step Sample.created [Sample.approval none])
      = .error .jsonDecodeError := by
    have hrow : StepUpRepository.getChallenge "challenge-1"
        (exec step Sample.created [Sample.approval none]).db
        = some (StepUpRepository.approve Sample.env.repositoryNow
          (approvalMetadata "human-1" none) Sample.row) :=
      row_step Sample.stored (Sample.approval none)
    have hstrip : Text.strip "challenge-1" = "challenge-1" := by decide
    have hload : Metadata.load (StepUpRepository.approve Sample.env.repositoryNow
        (approvalMetadata "human-1" none) Sample.row).approverMetadata = .error .jsonDecodeError :=
      load_approvalMetadata "human-1"
    rw [getChallenge, hstrip, if_neg (by decide)]
    simp only [hrow, hload]
    rfl
  refine ⟨Sample.created_eq, hget, ?_⟩
  rintro ⟨r, hr, -⟩
  have hsame : StepUpEngine.newChallengeId Sample.env.ambient = "challenge-1" := by decide
  rw [hsame, hget] at hr
  cases hr

end AsyncStepUp

end MandateGateway
