import MandateGateway.StepUp.AsyncEngine
import MandateGateway.StepUp.Effects

/-! # Confirmations in memory and over the database

    The two functions that record a human's confirmation, on a challenge that
    both of them hold.  The asynchronous one compares fewer bindings, keeps
    the texts as they were submitted, rejects what has expired and looks at
    the clock a second time; the last theorem says on which confirmations none
    of this matters. -/

namespace MandateGateway

open Clock Exceptions OrderedMap Raising StepUpEngine

/-! ## Challenges held twice -/

structure StepUpChallengeRow.Holds (row : StepUpChallengeRow) (record : StepUpChallengeRecord) :
    Prop where
  id          : row.challengeId = record.challengeId
  transaction : row.transactionId = record.transactionId
  status      : row.status = record.status.value
  expires     : row.expiresAt = record.expiresAt
  metadata    : record.status = .pending → row.approverMetadata = some (Metadata.bindings
    record.mandateId record.cartHash record.approvedPaise record.proposedPaise
    record.merchantId).dumps

/-- The two engines hold the same challenge under an identifier, or none. -/
def Paired (cid : String) (e : StepUpEngine) (s : AsyncStepUp) : Prop :=
  (e.challenges.get cid = none ∧ StepUpRepository.getChallenge cid s.db = none)
    ∨ ∃ record row, e.challenges.get cid = some record
      ∧ StepUpRepository.getChallenge cid s.db = some row ∧ row.Holds record

/-- The bound values of the two records are the same. -/
structure SameBindings (r : StepUpChallengeRecord) (r' : StoredChallenge) : Prop where
  mandate     : r'.mandateId = .str r.mandateId
  transaction : r'.transactionId = r.transactionId
  cartHash    : r'.cartHash = .str r.cartHash
  approved    : r'.approvedPaise = .int r.approvedPaise
  proposed    : r'.proposedPaise = .int r.proposedPaise
  merchant    : r'.merchantId = .str r.merchantId
  status      : r'.status = r.status

/-- Both accept or both refuse, the challenge has the same status after
    either, and an accepted one the same bound values. -/
structure SameOutcome (cid : String)
    (mem : Except PyError StepUpChallengeRecord × StepUpEngine)
    (async : Except StoreError StoredChallenge × AsyncStepUp) : Prop where
  accepts : (∃ r, mem.1 = .ok r) ↔ ∃ r', async.1 = .ok r'
  status  : (mem.2.statusOf cid).map StepUpChallengeStatus.value
    = (StepUpRepository.getChallenge cid async.2.db).map StepUpChallengeRow.status
  bound   : ∀ r r', mem.1 = .ok r → async.1 = .ok r' → SameBindings r r'

section
variable {cid : String} {e : StepUpEngine} {s : AsyncStepUp}

theorem sameOutcome_refused_iff {err : PyError} {err' : StoreError} :
    SameOutcome cid (.error err, e) (.error err', s)
      ↔ (e.statusOf cid).map StepUpChallengeStatus.value
        = (StepUpRepository.getChallenge cid s.db).map StepUpChallengeRow.status := by
  constructor
  · intro h
    exact h.status
  · intro h
    refine ⟨⟨?_, ?_⟩, h, ?_⟩
    · rintro ⟨r, hr⟩
      cases hr
    · rintro ⟨r, hr⟩
      cases hr
    · intro r r' hr
      cases hr

theorem sameOutcome_accepted_iff {r : StepUpChallengeRecord} {r' : StoredChallenge}
    (hstatus : (e.statusOf cid).map StepUpChallengeStatus.value
      = (StepUpRepository.getChallenge cid s.db).map StepUpChallengeRow.status) :
    SameOutcome cid (.ok r, e) (.ok r', s) ↔ SameBindings r r' := by
  constructor
  · intro h
    exact h.bound r r' rfl rfl
  · intro h
    refine ⟨⟨fun _ => ⟨r', rfl⟩, fun _ => ⟨r, rfl⟩⟩, hstatus, ?_⟩
    intro r₁ r₂ h₁ h₂
    obtain rfl := Except.ok.inj h₁
    obtain rfl := Except.ok.inj h₂
    exact h

theorem not_sameOutcome_only_memory {r : StepUpChallengeRecord} {err' : StoreError} :
    ¬ SameOutcome cid (.ok r, e) (.error err', s) := by
  intro h
  obtain ⟨r', hr'⟩ := h.accepts.mp ⟨r, rfl⟩
  cases hr'

theorem not_sameOutcome_only_async {err : PyError} {r' : StoredChallenge} :
    ¬ SameOutcome cid (.error err, e) (.ok r', s) := by
  intro h
  obtain ⟨r, hr⟩ := h.accepts.mpr ⟨r', rfl⟩
  cases hr

end

/-! ## The confirmation in memory -/

namespace StepUpEngine

variable (env : Ambient) {c : TrustedConfirmation} (at? : Option Instant) {e : StepUpEngine}
  {record : StepUpChallengeRecord}

theorem confirm_unknown (hget : e.challenges.get (Text.strip c.challengeId) = none) :
    ∃ err, StepUpEngine.recordHumanConfirmation env c at? e = (.error err, e) := by
  rw [StepUpEngine.recordHumanConfirmation]
  simp only [hget]
  exact ⟨_, rfl⟩

theorem confirm_resolved (hget : e.challenges.get (Text.strip c.challengeId) = some record)
    (h : record.status ≠ .pending) :
    ∃ err, StepUpEngine.recordHumanConfirmation env c at? e = (.error err, e) := by
  rw [StepUpEngine.recordHumanConfirmation]
  simp only [hget, if_pos h]
  exact ⟨_, rfl⟩

theorem confirm_late (hget : e.challenges.get (Text.strip c.challengeId) = some record)
    (hpending : record.status = .pending) (h : record.expiresAt ≤ env.time at?) :
    ∃ err, StepUpEngine.recordHumanConfirmation env c at? e
      = (.error err, ⟨e.challenges.set (Text.strip c.challengeId) (expiredRecord record)⟩) := by
  rw [StepUpEngine.recordHumanConfirmation]
  simp only [hget, if_neg (not_not.mpr hpending), if_pos h]
  exact ⟨_, rfl⟩

theorem confirm_mismatched (hget : e.challenges.get (Text.strip c.challengeId) = some record)
    (hpending : record.status = .pending) (htime : env.time at? < record.expiresAt)
    (h : ¬ ContextMatches record c) :
    ∃ err, StepUpEngine.recordHumanConfirmation env c at? e = (.error err, e) := by
  rw [StepUpEngine.recordHumanConfirmation]
  simp only [hget, if_neg (not_not.mpr hpending), if_neg (Int.not_le.mpr htime)]
  cases hcontext : contextError record c with
  | none => exact absurd (contextError_eq_none_iff.mp hcontext) h
  | some err => exact ⟨err, rfl⟩

theorem confirm_matched (hget : e.challenges.get (Text.strip c.challengeId) = some record)
    (hpending : record.status = .pending) (htime : env.time at? < record.expiresAt)
    (h : ContextMatches record c) :
    StepUpEngine.recordHumanConfirmation env c at? e
      = (.ok (approvedRecord record c.confirmedBy (env.time at?)),
        ⟨e.challenges.set (Text.strip c.challengeId)
          (approvedRecord record c.confirmedBy (env.time at?))⟩) := by
  rw [StepUpEngine.recordHumanConfirmation]
  simp only [hget, if_neg (not_not.mpr hpending), if_neg (Int.not_le.mpr htime),
    contextError_eq_none_iff.mpr h]

end StepUpEngine

/-! ## The confirmation over the database -/

namespace AsyncStepUp

/-- What the asynchronous function compares: a binding that is empty in the
    column matches anything. -/
structure Compared (record : StepUpChallengeRecord) (c : TrustedConfirmation) : Prop where
  mandate     : record.mandateId = "" ∨ Text.strip c.mandateId = record.mandateId
  transaction : Text.strip c.transactionId = record.transactionId
  cartHash    : record.cartHash = "" ∨ normalizedHash c.cartHash = record.cartHash

/-- The members that the column of a pending challenge is read as. -/
def members (record : StepUpChallengeRecord) : List (String × Json.Value) :=
  [("mandate_id", .str record.mandateId), ("cart_hash", .str record.cartHash),
    ("approved_paise", .int record.approvedPaise), ("proposed_paise", .int record.proposedPaise),
    ("merchant_id", .str record.merchantId)]

theorem recorded_passes_iff {recorded submitted : String} :
    ¬ (Metadata.truthy (.str recorded) && !Metadata.isText (.str recorded) submitted) = true
      ↔ recorded = "" ∨ submitted = recorded := by
  rw [Metadata.truthy, Metadata.isText, Bool.and_eq_true, bne_iff_ne, Bool.not_eq_true',
    beq_eq_false_iff_ne, not_and_or, not_not, not_not, eq_comm (a := recorded) (b := submitted)]

theorem confirmationRefusal_eq_none_iff {row : StepUpChallengeRow}
    {record : StepUpChallengeRecord} {c : TrustedConfirmation}
    (htransaction : row.transactionId = record.transactionId) :
    confirmationRefusal row (members record) c = none ↔ Compared record c := by
  rw [confirmationRefusal, check_eq_none_iff, check_eq_none_iff, check_eq_none_iff, htransaction,
    not_not]
  have hmandate : Metadata.get (members record) "mandate_id" (.str "")
    = .str record.mandateId := rfl
  have hcart : Metadata.get (members record) "cart_hash" (.str "") = .str record.cartHash := rfl
  rw [hmandate, hcart, recorded_passes_iff, recorded_passes_iff]
  constructor
  · rintro ⟨h₁, h₂, h₃, -⟩
    exact ⟨h₁, h₂.symm, h₃⟩
  · intro h
    exact ⟨h.mandate, h.transaction.symm, h.cartHash, rfl⟩

/-- The record that an accepted confirmation leaves in memory. -/
def confirmedChallenge (env : StepUpDbEnv) (row : StepUpChallengeRow)
    (record : StepUpChallengeRecord) (c : TrustedConfirmation) : StoredChallenge where
  challengeId := row.challengeId
  mandateId := .str c.mandateId
  transactionId := row.transactionId
  cartHash := .str c.cartHash
  approvedPaise := .int record.approvedPaise
  proposedPaise := .int record.proposedPaise
  merchantId := if record.merchantId = "" then .str c.merchantId else .str record.merchantId
  status := .approved
  createdAt := row.createdAt
  expiresAt := row.expiresAt
  confirmedAt := some env.repositoryNow
  confirmedBy := .str c.confirmedBy

section
variable (env : StepUpDbEnv) {c : TrustedConfirmation} (at? : Option Instant) {s : AsyncStepUp}
  {row : StepUpChallengeRow} {record : StepUpChallengeRecord}

theorem confirm_unknown
    (hget : StepUpRepository.getChallenge (Text.strip c.challengeId) s.db = none) :
    ∃ err, recordHumanConfirmation env c at? s = (.error err, s) := by
  rw [recordHumanConfirmation]
  simp only [hget]
  exact ⟨_, rfl⟩

theorem confirm_resolved
    (hget : StepUpRepository.getChallenge (Text.strip c.challengeId) s.db = some row)
    (h : row.status ≠ StepUpChallengeStatus.pending.value) :
    ∃ err, recordHumanConfirmation env c at? s = (.error err, s) := by
  rw [recordHumanConfirmation]
  simp only [hget, if_pos h]
  exact ⟨_, rfl⟩

theorem confirm_late
    (hget : StepUpRepository.getChallenge (Text.strip c.challengeId) s.db = some row)
    (hpending : row.status = StepUpChallengeStatus.pending.value)
    (h : row.expiresAt ≤ env.ambient.time at?) :
    ∃ err, recordHumanConfirmation env c at? s = (.error err,
      { s with
        db := StepUpRepository.rejected (Text.strip c.challengeId) "Challenge expired" s.db })
    := by
  have hreject := StepUpRepository.rejectChallenge_pending (some "Challenge expired") hget
    hpending
  have hrepo := bind_of_ok (x := onRepository (StepUpRepository.rejectChallenge
    (Text.strip c.challengeId) (some "Challenge expired"))) (s := s)
    (f := fun _ => (raiseValueError
      s!"Step-up challenge {Text.quoted (Text.strip c.challengeId)} has EXPIRED." :
        Action StoredChallenge))
    (onRepository_eq_ok_iff.mpr ⟨_, hreject, rfl⟩)
  rw [recordHumanConfirmation]
  simp only [hget, if_neg (not_not.mpr hpending), if_pos h]
  exact ⟨_, hrepo⟩

theorem confirm_live
    (hget : StepUpRepository.getChallenge (Text.strip c.challengeId) s.db = some row)
    (hholds : row.Holds record) (hpending : record.status = .pending)
    (htime : env.ambient.time at? < record.expiresAt) :
    recordHumanConfirmation env c at? s
      = match confirmationRefusal row (members record) c with
        | some message => raiseValueError message s
        | none => approveConfirmed env (members record) c s := by
  have hstatus : row.status = StepUpChallengeStatus.pending.value := by
    rw [hholds.status, hpending]
  have hlive : ¬ row.expiresAt ≤ env.ambient.time at? := by
    rw [hholds.expires]
    exact Int.not_le.mpr htime
  have hload : Metadata.load row.approverMetadata = .ok (members record) := by
    rw [hholds.metadata hpending, Metadata.load_bindings]
    rfl
  rewrite [recordHumanConfirmation]
  simp only [hget, if_neg (not_not.mpr hstatus), if_neg hlive]
  rewrite [hload]
  rfl

theorem confirm_mismatched
    (hget : StepUpRepository.getChallenge (Text.strip c.challengeId) s.db = some row)
    (hholds : row.Holds record) (hpending : record.status = .pending)
    (htime : env.ambient.time at? < record.expiresAt) (h : ¬ Compared record c) :
    ∃ err, recordHumanConfirmation env c at? s = (.error err, s) := by
  rw [confirm_live env at? hget hholds hpending htime]
  cases hrefusal : confirmationRefusal row (members record) c with
  | none => exact absurd ((confirmationRefusal_eq_none_iff hholds.transaction).mp hrefusal) h
  | some message => exact ⟨_, rfl⟩

theorem confirm_compared
    (hget : StepUpRepository.getChallenge (Text.strip c.challengeId) s.db = some row)
    (hholds : row.Holds record) (hpending : record.status = .pending)
    (htime : env.ambient.time at? < record.expiresAt) (h : Compared record c) :
    recordHumanConfirmation env c at? s = approveConfirmed env (members record) c s := by
  rw [confirm_live env at? hget hholds hpending htime,
    (confirmationRefusal_eq_none_iff hholds.transaction).mpr h]

theorem approve_late
    (hget : StepUpRepository.getChallenge (Text.strip c.challengeId) s.db = some row)
    (hholds : row.Holds record) (h : record.expiresAt ≤ env.repositoryNow) :
    ∃ err, approveConfirmed env (members record) c s = (.error err,
      { s with db := StepUpRepository.expired (Text.strip c.challengeId) s.db }) := by
  have hlate : row.expiresAt ≤ env.repositoryNow := by
    rw [hholds.expires]
    exact h
  obtain ⟨err, herr⟩ := StepUpRepository.approveChallenge_late env c.confirmedBy none none hget
    hlate
  refine ⟨.raised err, ?_⟩
  rw [approveConfirmed]
  refine bind_of_error ?_
  rw [onRepository, herr]

theorem approve_live
    (hget : StepUpRepository.getChallenge (Text.strip c.challengeId) s.db = some row)
    (hholds : row.Holds record) (hpending : record.status = .pending)
    (h : env.repositoryNow < record.expiresAt) :
    approveConfirmed env (members record) c s = (.ok (confirmedChallenge env row record c),
      { db := StepUpRepository.approved (Text.strip c.challengeId) env.repositoryNow
          (StepUpRepository.approvalMetadata c.confirmedBy none) s.db
        cache := s.cache.set (Text.strip c.challengeId) (confirmedChallenge env row record c) })
    := by
  have hstatus : row.status = StepUpChallengeStatus.pending.value := by
    rw [hholds.status, hpending]
  have hlive : env.repositoryNow < row.expiresAt := by
    rw [hholds.expires]
    exact h
  have happrove := onRepository_eq_ok_iff.mpr ⟨_, StepUpRepository.approveChallenge_pending env
    c.confirmedBy none none hget hlive hstatus, rfl⟩
  have hmerchant : (if Metadata.truthy (Metadata.get (members record) "merchant_id" (.str ""))
      then Metadata.get (members record) "merchant_id" (.str "") else .str c.merchantId)
      = if record.merchantId = "" then .str c.merchantId else .str record.merchantId := by
    show (if (record.merchantId != "") = true then Json.Value.str record.merchantId else _) = _
    by_cases hne : record.merchantId = ""
    · rw [if_pos hne, hne]
      rfl
    · rw [if_neg hne, if_pos (bne_iff_ne.mpr hne)]
  rw [approveConfirmed]
  rw [bind_of_ok happrove]
  show remember _ _ _ = _
  rw [remember, hmerchant]
  rfl

end

/-! ## When the two agree -/

structure Verbatim (record : StepUpChallengeRecord) (c : TrustedConfirmation) : Prop where
  mandate  : c.mandateId = record.mandateId
  cartHash : c.cartHash = record.cartHash
  merchant : record.merchantId = "" → c.merchantId = ""

/-- The confirmation of a pending challenge is one that both functions treat
    alike: in time, and either the challenge's own context as it is stored and
    still in time when the repository looks, or a context that differs where
    both of them compare, or one that the repository refuses as late in a unit
    of work that is rolled back. -/
structure Agreeing (env : StepUpDbEnv) (c : TrustedConfirmation) (at? : Option Instant)
    (keeps : Bool) (record : StepUpChallengeRecord) : Prop where
  inTime   : env.ambient.time at? < record.expiresAt
  matched  : ContextMatches record c →
    env.repositoryNow < record.expiresAt ∧ Verbatim record c
  differs  : ¬ ContextMatches record c →
    ¬ Compared record c ∨ (record.expiresAt ≤ env.repositoryNow ∧ keeps = false)

section
variable {env : StepUpDbEnv} {c : TrustedConfirmation} {at? : Option Instant} {keeps : Bool}
  {e : StepUpEngine} {s : AsyncStepUp} {row : StepUpChallengeRow}
  {record : StepUpChallengeRecord}

theorem Compared.of_matches (h : ContextMatches record c) : Compared record c where
  mandate := .inr h.mandate
  transaction := h.transaction
  cartHash := .inr h.cartHash

theorem sameBindings_confirmed_iff (hholds : row.Holds record) :
    SameBindings (approvedRecord record c.confirmedBy (env.ambient.time at?))
      (confirmedChallenge env row record c) ↔ Verbatim record c := by
  constructor
  · intro h
    refine ⟨Json.Value.str.inj h.mandate, Json.Value.str.inj h.cartHash, ?_⟩
    intro hempty
    have hmerchant : (if record.merchantId = "" then Json.Value.str c.merchantId
        else .str record.merchantId) = .str record.merchantId := h.merchant
    rw [if_pos hempty, hempty] at hmerchant
    exact Json.Value.str.inj hmerchant
  · intro h
    refine ⟨congrArg _ h.mandate, hholds.transaction, congrArg _ h.cartHash, rfl, rfl, ?_, rfl⟩
    show (if record.merchantId = "" then Json.Value.str c.merchantId
        else .str record.merchantId) = .str record.merchantId
    by_cases hempty : record.merchantId = ""
    · rw [if_pos hempty, h.merchant hempty, hempty]
    · rw [if_neg hempty]

theorem status_updated {cid : String} {f : StepUpChallengeRow → StepUpChallengeRow}
    (hf : ∀ r, (f r).challengeId = r.challengeId) {db : StepUpTables}
    (hrow : StepUpRepository.getChallenge cid db = some row) :
    (StepUpRepository.getChallenge cid (StepUpRepository.updated cid f hf db)).map
      StepUpChallengeRow.status = some (f row).status := by
  rw [StepUpRepository.get_updated_self hf hrow]
  rfl

theorem status_paired {cid : String} (h : Paired cid e s) :
    (e.statusOf cid).map StepUpChallengeStatus.value
      = (StepUpRepository.getChallenge cid s.db).map StepUpChallengeRow.status := by
  rcases h with ⟨hmem, hrow⟩ | ⟨record, row, hmem, hrow, hholds⟩
  · rw [statusOf, hmem, hrow]
    rfl
  · rw [statusOf, hmem, hrow, Option.map_some, Option.map_some, Option.map_some, hholds.status]

theorem statusOf_stored {cid : String} :
    StepUpEngine.statusOf ⟨e.challenges.set cid record⟩ cid = some record.status := by
  rw [statusOf, get_set_self, Option.map_some]

/-- A late confirmation: the challenge has expired in memory, and is rejected
    in the database or still pending there. -/
theorem late_disagrees (hmem : e.challenges.get (Text.strip c.challengeId) = some record)
    (hrow : StepUpRepository.getChallenge (Text.strip c.challengeId) s.db = some row)
    (hholds : row.Holds record) (hpending : record.status = .pending)
    (hlate : record.expiresAt ≤ env.ambient.time at?) :
    ¬ SameOutcome (Text.strip c.challengeId)
      (StepUpEngine.recordHumanConfirmation env.ambient c at? e)
      (within keeps (recordHumanConfirmation env c at?) s) := by
  have hrowPending : row.status = StepUpChallengeStatus.pending.value := by
    rw [hholds.status, hpending]
  obtain ⟨err, hmemory⟩ := StepUpEngine.confirm_late env.ambient at? hmem hpending hlate
  obtain ⟨err', hasync⟩ := confirm_late env at? hrow hrowPending
    (by rw [hholds.expires]; exact hlate)
  rw [hmemory, within_error hasync, sameOutcome_refused_iff, statusOf_stored]
  intro hsame
  cases keeps with
  | true =>
      rw [if_pos rfl, StepUpRepository.rejected, status_updated _ hrow] at hsame
      exact absurd (Option.some.inj hsame) (by decide : StepUpChallengeStatus.expired.value
        ≠ StepUpChallengeStatus.rejected.value)
  | false =>
      rw [if_neg (by decide), hrow, Option.map_some, Option.map_some, hrowPending] at hsame
      exact absurd (Option.some.inj hsame) (by decide : StepUpChallengeStatus.expired.value
        ≠ StepUpChallengeStatus.pending.value)

/-- A confirmation in time and with the challenge's context: accepted in
    memory, so that the repository must accept it too. -/
theorem matched_agrees_iff (hmem : e.challenges.get (Text.strip c.challengeId) = some record)
    (hrow : StepUpRepository.getChallenge (Text.strip c.challengeId) s.db = some row)
    (hholds : row.Holds record) (hpending : record.status = .pending)
    (htime : env.ambient.time at? < record.expiresAt) (hmatch : ContextMatches record c) :
    SameOutcome (Text.strip c.challengeId)
        (StepUpEngine.recordHumanConfirmation env.ambient c at? e)
        (within keeps (recordHumanConfirmation env c at?) s)
      ↔ env.repositoryNow < record.expiresAt ∧ Verbatim record c := by
  have hcompared := confirm_compared env at? hrow hholds hpending htime
    (Compared.of_matches hmatch)
  rw [StepUpEngine.confirm_matched env.ambient at? hmem hpending htime hmatch]
  by_cases hlive : env.repositoryNow < record.expiresAt
  · rw [within_ok (hcompared.trans (approve_live env hrow hholds hpending hlive)),
      sameOutcome_accepted_iff, sameBindings_confirmed_iff hholds]
    · exact (and_iff_right hlive).symm
    · rw [statusOf_stored, StepUpRepository.approved, status_updated _ hrow]
      rfl
  · obtain ⟨err, hlate⟩ := approve_late env (c := c) hrow hholds (Int.not_lt.mp hlive)
    rw [within_error (hcompared.trans hlate)]
    constructor
    · intro h
      exact absurd h not_sameOutcome_only_memory
    · rintro ⟨h, -⟩
      exact absurd h hlive

theorem mismatched_agrees_iff (hmem : e.challenges.get (Text.strip c.challengeId) = some record)
    (hrow : StepUpRepository.getChallenge (Text.strip c.challengeId) s.db = some row)
    (hholds : row.Holds record) (hpending : record.status = .pending)
    (htime : env.ambient.time at? < record.expiresAt) (hmatch : ¬ ContextMatches record c) :
    SameOutcome (Text.strip c.challengeId)
        (StepUpEngine.recordHumanConfirmation env.ambient c at? e)
        (within keeps (recordHumanConfirmation env c at?) s)
      ↔ ¬ Compared record c ∨ (record.expiresAt ≤ env.repositoryNow ∧ keeps = false) := by
  have hrowPending : row.status = StepUpChallengeStatus.pending.value := by
    rw [hholds.status, hpending]
  have hstatus : e.statusOf (Text.strip c.challengeId) = some .pending := by
    rw [statusOf, hmem, Option.map_some, hpending]
  obtain ⟨err, hmemory⟩ := StepUpEngine.confirm_mismatched env.ambient at? hmem hpending htime
    hmatch
  rw [hmemory]
  by_cases hcompared : Compared record c
  · have hpassed := confirm_compared env at? hrow hholds hpending htime
      hcompared
    by_cases hlive : env.repositoryNow < record.expiresAt
    · rw [within_ok (hpassed.trans (approve_live env hrow hholds hpending hlive))]
      constructor
      · intro h
        exact absurd h not_sameOutcome_only_async
      · rintro (h | ⟨h, -⟩)
        · exact absurd hcompared h
        · exact absurd hlive (Int.not_lt.mpr h)
    · obtain ⟨err', hlate⟩ := approve_late env (c := c) hrow hholds (Int.not_lt.mp hlive)
      rw [within_error (hpassed.trans hlate), sameOutcome_refused_iff, hstatus]
      cases keeps with
      | true =>
          rw [if_pos rfl, StepUpRepository.expired, status_updated _ hrow]
          constructor
          · intro h
            exact absurd (Option.some.inj h) (by decide : StepUpChallengeStatus.pending.value
              ≠ StepUpChallengeStatus.expired.value)
          · rintro (h | ⟨-, h⟩)
            · exact absurd hcompared h
            · cases h
      | false =>
          rw [if_neg (by decide), hrow, Option.map_some, Option.map_some, hrowPending]
          exact iff_of_true rfl (.inr ⟨Int.not_lt.mp hlive, rfl⟩)
  · obtain ⟨err', hrefused⟩ := confirm_mismatched env at? hrow hholds hpending
      htime hcompared
    rw [within_error_same hrefused, sameOutcome_refused_iff, hstatus, hrow, Option.map_some,
      Option.map_some, hrowPending]
    exact iff_of_true rfl (.inl hcompared)

/-- **The two functions agree on a confirmation exactly where its challenge is
    not pending, or the confirmation is one that both treat alike.** -/
theorem confirmations_agree_iff (hpaired : Paired (Text.strip c.challengeId) e s) :
    SameOutcome (Text.strip c.challengeId)
        (StepUpEngine.recordHumanConfirmation env.ambient c at? e)
        (within keeps (recordHumanConfirmation env c at?) s)
      ↔ ∀ record, e.challenges.get (Text.strip c.challengeId) = some record →
        record.status = .pending → Agreeing env c at? keeps record := by
  have hstatus := status_paired hpaired
  rcases hpaired with ⟨hmem, hrow⟩ | ⟨record, row, hmem, hrow, hholds⟩
  · obtain ⟨err, hmemory⟩ := StepUpEngine.confirm_unknown env.ambient at? hmem
    obtain ⟨err', hasync⟩ := confirm_unknown env at? hrow
    rw [hmemory, within_error_same hasync, sameOutcome_refused_iff]
    refine iff_of_true hstatus ?_
    intro record hget
    rw [hmem] at hget
    cases hget
  · have hall : (∀ r, e.challenges.get (Text.strip c.challengeId) = some r →
        r.status = .pending → Agreeing env c at? keeps r) ↔ (record.status = .pending →
        Agreeing env c at? keeps record) := by
      constructor
      · intro h
        exact h record hmem
      · intro h r hget
        obtain rfl := Option.some.inj (hmem.symm.trans hget)
        exact h
    rw [hall]
    by_cases hpending : record.status = .pending
    · by_cases htime : env.ambient.time at? < record.expiresAt
      · by_cases hmatch : ContextMatches record c
        · rw [matched_agrees_iff hmem hrow hholds hpending htime hmatch]
          constructor
          · intro h _
            exact ⟨htime, fun _ => h, fun hno => absurd hmatch hno⟩
          · intro h
            exact (h hpending).matched hmatch
        · rw [mismatched_agrees_iff hmem hrow hholds hpending htime hmatch]
          constructor
          · intro h _
            exact ⟨htime, fun hyes => absurd hyes hmatch, fun _ => h⟩
          · intro h
            exact (h hpending).differs hmatch
      · constructor
        · intro h
          exact absurd h (late_disagrees hmem hrow hholds hpending (Int.not_lt.mp htime))
        · intro h
          exact absurd (h hpending).inTime htime
    · have hrowResolved : row.status ≠ StepUpChallengeStatus.pending.value := by
        rw [hholds.status]
        intro h
        exact hpending (StepUpChallengeStatus.value_injective h)
      obtain ⟨err, hmemory⟩ := StepUpEngine.confirm_resolved env.ambient at? hmem hpending
      obtain ⟨err', hasync⟩ := confirm_resolved env at? hrow hrowResolved
      rw [hmemory, within_error_same hasync, sameOutcome_refused_iff]
      exact iff_of_true hstatus fun h => absurd h hpending

end

/-! ## A challenge created twice -/

/-- **A challenge that both engines create on the same terms is paired.** -/
theorem created_paired {env : StepUpDbEnv} {terms : ChallengeTerms} {at? : Option Instant}
    {e : StepUpEngine} {s s' : AsyncStepUp} {r : StoredChallenge}
    (h : createChallenge env terms at? s = (.ok r, s')) :
    Paired (newChallengeId env.ambient)
      (StepUpEngine.createChallenge env.ambient terms at? e).2 s' := by
  obtain ⟨expires, hexpires, hstored⟩ := createChallenge_stored h
  refine .inr ⟨terms.record (newChallengeId env.ambient) (env.ambient.time at?) expires,
    createdRow env terms expires, ?_, hstored, ?_⟩
  · rw [StepUpEngine.createChallenge]
    simp only [hexpires]
    exact get_set_self _ _ _
  · exact ⟨rfl, rfl, rfl, rfl, fun _ => rfl⟩

namespace Sample

def confirmation (proposedPaise : Int) : TrustedConfirmation where
  challengeId := "challenge-1"
  mandateId := "mandate-1"
  transactionId := "tx-1"
  cartHash := "ab12"
  proposedPaise := proposedPaise
  merchantId := "merchant-1"
  confirmedBy := "buyer-1"

def memory : StepUpEngine := (StepUpEngine.createChallenge env.ambient terms none .new).2

theorem paired (proposedPaise : Int) :
    Paired (Text.strip (confirmation proposedPaise).challengeId) memory created := by
  have hstrip : Text.strip "challenge-1" = newChallengeId env.ambient := by decide
  show Paired (Text.strip "challenge-1") memory created
  rw [hstrip]
  obtain ⟨r, hr⟩ := created_eq
  exact created_paired hr

def record : StepUpChallengeRecord :=
  terms.record "challenge-1" env.ambient.now (env.ambient.now + 300000000)

theorem get_memory (proposedPaise : Int) :
    memory.challenges.get (Text.strip (confirmation proposedPaise).challengeId)
      = some record := by
  have hstrip : Text.strip "challenge-1" = newChallengeId env.ambient := by decide
  show memory.challenges.get (Text.strip "challenge-1") = some record
  rw [hstrip]
  decide +kernel

theorem compared (proposedPaise : Int) : Compared record (confirmation proposedPaise) where
  mandate := .inr (by show Text.strip "mandate-1" = Text.strip "mandate-1"; rfl)
  transaction := by show Text.strip "tx-1" = Text.strip "tx-1"; rfl
  cartHash := .inr (by show normalizedHash "ab12" = normalizedHash "ab12"; rfl)

end Sample

/-- The challenge's own context, confirmed in time and committed. -/
theorem confirmations_agree_iff_own :
    SameOutcome (Text.strip (Sample.confirmation 10500).challengeId)
      (StepUpEngine.recordHumanConfirmation Sample.env.ambient (Sample.confirmation 10500) none
        Sample.memory)
      (within true (recordHumanConfirmation Sample.env (Sample.confirmation 10500) none)
        Sample.created) := by
  refine (confirmations_agree_iff (Sample.paired 10500)).mpr ?_
  intro record hget _
  obtain rfl := Option.some.inj ((Sample.get_memory 10500).symm.trans hget)
  refine ⟨by decide, fun _ => ⟨by decide, ?_⟩, fun hno => absurd ?_ hno⟩
  · exact ⟨by decide, by decide, fun h => absurd h (by decide)⟩
  · exact ⟨by decide, by decide, by decide, by decide, by decide⟩

/-- Another amount is refused in memory and approved over the database. -/
theorem otherAmount_accepted :
    Paired (Text.strip (Sample.confirmation 999999).challengeId) Sample.memory Sample.created
      ∧ ¬ SameOutcome (Text.strip (Sample.confirmation 999999).challengeId)
        (StepUpEngine.recordHumanConfirmation Sample.env.ambient (Sample.confirmation 999999) none
          Sample.memory)
        (within true (recordHumanConfirmation Sample.env (Sample.confirmation 999999) none)
          Sample.created) := by
  have hpaired := Sample.paired 999999
  refine ⟨hpaired, ?_⟩
  rcases hpaired with ⟨hmem, -⟩ | ⟨record, row, hmem, hrow, hholds⟩
  · rw [Sample.get_memory] at hmem
    cases hmem
  · obtain rfl := Option.some.inj ((Sample.get_memory 999999).symm.trans hmem)
    have hlive : Sample.env.repositoryNow < Sample.record.expiresAt := by decide
    have hmatch : ¬ ContextMatches Sample.record (Sample.confirmation 999999) := fun h =>
      absurd h.amount (by decide)
    obtain ⟨err, hmemory⟩ := StepUpEngine.confirm_mismatched Sample.env.ambient none hmem rfl
      (by decide) hmatch
    have hpassed := confirm_compared Sample.env none hrow hholds rfl (by decide)
      (Sample.compared 999999)
    rw [hmemory, within_ok (hpassed.trans (approve_live Sample.env hrow hholds rfl hlive))]
    exact not_sameOutcome_only_async

end AsyncStepUp

end MandateGateway
