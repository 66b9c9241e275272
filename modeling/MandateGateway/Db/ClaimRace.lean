import MandateGateway.Db.ExecutionAttemptRepository
import MandateGateway.Lib.Runs

/-! # Racing claims

    `claim_attempt` as the steps that other callers can come between: the
    lookup by merchant and key, the insert, and what follows a broken
    constraint.  Each caller has a session of its own.  An insert is seen by
    the others once it is committed, and the one constraint that the schema
    declares is the primary key: the index on merchant and key is not unique.
    An insert of an identifier that another session holds waits for it. -/

namespace MandateGateway

open Exceptions Raising Runs

namespace ExecutionAttemptRepository

/-- One caller of `claim_attempt`, with the `attempt_id` it may pass. -/
structure Claimant where
  env       : DbEnv
  claim     : AttemptClaim
  attemptId : Option String
deriving DecidableEq, Repr

/-- The attempt that a caller inserts. -/
def Claimant.row (c : Claimant) : ExecutionAttemptRow :=
  { c.claim.clean.newAttempt c.env with
    attemptId := orElseText c.attemptId (c.claim.clean.newAttempt c.env).attemptId }

/-- The attempt is under the caller's merchant and key. -/
def Claimant.isUnderKey (c : Claimant) (a : ExecutionAttemptRow) : Bool :=
  a.merchantId == Text.strip c.claim.clean.merchantId
    && a.idempotencyKey == Text.strip c.claim.clean.idempotencyKey

/-- How far a caller is. -/
inductive ClaimStage where
  | started
  | inserting
  | recovering
  | granted (attempt : ExecutionAttemptRow) (isExisting : Bool)
  | raised (err : PyError)
deriving DecidableEq, Repr

/-- The committed attempts, the inserts that are not committed, each with its
    caller, and how far each caller is. -/
structure RaceState (ι : Type) where
  committed : Table ExecutionAttemptRow.attemptId
  pending   : List (ι × ExecutionAttemptRow)
  stage     : ι → ClaimStage

/-- A step of one caller, or the commit of its session. -/
inductive RaceAction (ι : Type) where
  | lookup (i : ι)
  | insert (i : ι)
  | recover (i : ι)
  | commit (i : ι)
deriving DecidableEq, Repr

def Claimant.afterLookup (c : Claimant) (found : List ExecutionAttemptRow) : ClaimStage :=
  match c.claim.check with
  | .error err => .raised err
  | .ok () =>
      match scalarOneOrNone found with
      | .error err => .raised err
      | .ok none => .inserting
      | .ok (some existing) =>
          match c.claim.clean.checkExisting existing with
          | .error err => .raised err
          | .ok () => .granted existing true

/-- The stage that the second lookup leads to, after a broken constraint: here
    the payload is not compared. -/
def Claimant.afterRecovery (c : Claimant) (found : List ExecutionAttemptRow) : ClaimStage :=
  match scalarOneOrNone found with
  | .error err => .raised err
  | .ok none =>
      .raised (.valueError
        s!"Execution attempt claim failed due to database constraint: {c.env.constraintText}")
  | .ok (some dup) =>
      if dup.transactionId ≠ c.claim.clean.transactionId then
        .raised (.valueError
          (s!"Idempotency key context mismatch: key "
            ++ s!"{Text.quoted c.claim.clean.idempotencyKey} "
            ++ s!"bound to transaction '{dup.transactionId}'."))
      else .granted dup true

namespace RaceState

variable {ι : Type}

/-- Every attempt that some session has stored. -/
def stored (s : RaceState ι) : List ExecutionAttemptRow :=
  s.committed.rows ++ s.pending.map Prod.snd

variable [DecidableEq ι]

def setStage (s : RaceState ι) (i : ι) (stage : ClaimStage) : RaceState ι :=
  { s with stage := fun j => if j = i then stage else s.stage j }

/-- What a caller's session sees: the committed attempts and its own. -/
def visible (s : RaceState ι) (i : ι) : List ExecutionAttemptRow :=
  s.committed.rows ++ (s.pending.filter fun p => decide (p.1 = i)).map Prod.snd

/-- The attempts under the caller's key that its session sees. -/
def found (calls : ι → Claimant) (s : RaceState ι) (i : ι) : List ExecutionAttemptRow :=
  (s.visible i).filter (calls i).isUnderKey

/-- The insert of a caller: it breaks the primary key, waits for the session
    that holds its identifier, or goes through. -/
def insertStep (calls : ι → Claimant) (i : ι) (s : RaceState ι) : RaceState ι :=
  let row := (calls i).row
  if row.attemptId ∈ (s.visible i).map ExecutionAttemptRow.attemptId then
    setStage { s with pending := s.pending.filter fun p => !decide (p.1 = i) } i .recovering
  else if row.attemptId ∈ s.stored.map ExecutionAttemptRow.attemptId then s
  else setStage { s with pending := s.pending ++ [(i, row)] } i (.granted row false)

/-- The commit of a caller's session. -/
def commitStep (i : ι) (s : RaceState ι) : RaceState ι :=
  match s.pending.find? fun p => decide (p.1 = i) with
  | none => s
  | some p =>
      match s.committed.insert p.2 with
      | none => s
      | some rows =>
          { s with
            committed := rows
            pending := s.pending.filter fun p => !decide (p.1 = i) }

/-- A step of the race; a caller that is elsewhere does not move. -/
def step (calls : ι → Claimant) (s : RaceState ι) : RaceAction ι → Unit × RaceState ι
  | .lookup i =>
      match s.stage i with
      | .started => ((), s.setStage i ((calls i).afterLookup (s.found calls i)))
      | _ => ((), s)
  | .insert i =>
      match s.stage i with
      | .inserting => ((), insertStep calls i s)
      | _ => ((), s)
  | .recover i =>
      match s.stage i with
      | .recovering => ((), s.setStage i ((calls i).afterRecovery (s.found calls i)))
      | _ => ((), s)
  | .commit i => ((), commitStep i s)

/-- Before the race: nothing is pending and no caller has started. -/
def before (committed : Table ExecutionAttemptRow.attemptId) : RaceState ι :=
  ⟨committed, [], fun _ => .started⟩

/-! ## What a step can do -/

inductive Moves (calls : ι → Claimant) (s : RaceState ι) : RaceAction ι → RaceState ι → Prop where
  | stays {a : RaceAction ι} (hout : ∀ i, a = .insert i → s.stage i = .inserting →
      (calls i).row.attemptId ∈ s.stored.map ExecutionAttemptRow.attemptId)
      (hrec : ∀ i, a = .recover i → s.stage i ≠ .recovering) : Moves calls s a s
  | lookup {i : ι} (hstage : s.stage i = .started) :
      Moves calls s (.lookup i) (s.setStage i ((calls i).afterLookup (s.found calls i)))
  | conflict {i : ι} (hstage : s.stage i = .inserting)
      (htaken : (calls i).row.attemptId ∈ s.stored.map ExecutionAttemptRow.attemptId) :
      Moves calls s (.insert i)
        (setStage { s with pending := s.pending.filter fun p => !decide (p.1 = i) } i .recovering)
  | insert {i : ι} (hstage : s.stage i = .inserting)
      (hfree : (calls i).row.attemptId ∉ s.stored.map ExecutionAttemptRow.attemptId) :
      Moves calls s (.insert i)
        (setStage { s with pending := s.pending ++ [(i, (calls i).row)] } i
          (.granted (calls i).row false))
  | recover {i : ι} (hstage : s.stage i = .recovering) :
      Moves calls s (.recover i) (s.setStage i ((calls i).afterRecovery (s.found calls i)))
  | commit {i : ι} {p : ι × ExecutionAttemptRow} {rows : Table ExecutionAttemptRow.attemptId}
      (hpending : p ∈ s.pending) (howner : p.1 = i) (hinsert : s.committed.insert p.2 = some rows) :
      Moves calls s (.commit i)
        { s with
          committed := rows
          pending := s.pending.filter fun p => !decide (p.1 = i) }

variable {calls : ι → Claimant} {s : RaceState ι}

theorem visible_subset (s : RaceState ι) (i : ι) : s.visible i ⊆ s.stored := by
  intro x hx
  rw [visible, List.mem_append] at hx
  rw [stored, List.mem_append]
  rcases hx with hcommitted | hpending
  · exact Or.inl hcommitted
  · obtain ⟨p, hp, rfl⟩ := List.mem_map.mp hpending
    exact Or.inr (List.mem_map_of_mem (List.mem_of_mem_filter hp))

theorem insert_moves {i : ι} (hstage : s.stage i = .inserting) :
    Moves calls s (.insert i) (insertStep calls i s) := by
  rw [insertStep]
  by_cases hown : (calls i).row.attemptId ∈ (s.visible i).map ExecutionAttemptRow.attemptId
  · simp only [if_pos hown]
    refine Moves.conflict hstage ?_
    obtain ⟨x, hx, hid⟩ := List.mem_map.mp hown
    exact List.mem_map.mpr ⟨x, visible_subset s i hx, hid⟩
  by_cases htaken : (calls i).row.attemptId ∈ s.stored.map ExecutionAttemptRow.attemptId
  · simp only [if_neg hown, if_pos htaken]
    refine Moves.stays ?_ ?_
    · intro j hj _
      obtain rfl := RaceAction.insert.inj hj
      exact htaken
    · intro j hj
      cases hj
  · simp only [if_neg hown, if_neg htaken]
    exact Moves.insert hstage htaken

theorem commit_moves (i : ι) : Moves calls s (.commit i) (commitStep i s) := by
  have hstays : Moves calls s (.commit i) s := by
    refine Moves.stays ?_ ?_
    · intro j hj
      cases hj
    · intro j hj
      cases hj
  rw [commitStep]
  cases hfind : s.pending.find? fun p => decide (p.1 = i) with
  | none => exact hstays
  | some p =>
      dsimp only
      cases hinsert : s.committed.insert p.2 with
      | none => exact hstays
      | some rows =>
          exact Moves.commit (List.mem_of_find?_eq_some hfind)
            (by simpa using List.find?_some hfind) hinsert

/-- **Every step of the race is one of its moves.** -/
theorem step_moves (calls : ι → Claimant) (s : RaceState ι) (a : RaceAction ι) :
    Moves calls s a (step calls s a).2 := by
  cases a with
  | lookup i =>
      have hstays : Moves calls s (.lookup i) s := by
        refine Moves.stays ?_ ?_
        · intro j hj
          cases hj
        · intro j hj
          cases hj
      rw [step]
      cases hstage : s.stage i with
      | started => exact Moves.lookup hstage
      | inserting => exact hstays
      | recovering => exact hstays
      | granted a e => exact hstays
      | raised err => exact hstays
  | insert i =>
      have hstays : s.stage i ≠ .inserting → Moves calls s (.insert i) s := by
        intro hne
        refine Moves.stays ?_ ?_
        · intro j hj hstage
          obtain rfl := RaceAction.insert.inj hj
          exact absurd hstage hne
        · intro j hj
          cases hj
      rw [step]
      cases hstage : s.stage i with
      | inserting => exact insert_moves hstage
      | started => exact hstays (by rw [hstage]; intro h; cases h)
      | recovering => exact hstays (by rw [hstage]; intro h; cases h)
      | granted a e => exact hstays (by rw [hstage]; intro h; cases h)
      | raised err => exact hstays (by rw [hstage]; intro h; cases h)
  | recover i =>
      have hstays : s.stage i ≠ .recovering → Moves calls s (.recover i) s := by
        intro hne
        refine Moves.stays ?_ ?_
        · intro j hj
          cases hj
        · intro j hj
          obtain rfl := RaceAction.recover.inj hj
          exact hne
      rw [step]
      cases hstage : s.stage i with
      | recovering => exact Moves.recover hstage
      | started => exact hstays (by rw [hstage]; intro h; cases h)
      | inserting => exact hstays (by rw [hstage]; intro h; cases h)
      | granted a e => exact hstays (by rw [hstage]; intro h; cases h)
      | raised err => exact hstays (by rw [hstage]; intro h; cases h)
  | commit i => exact commit_moves i

/-! ## What holds in every state of a race -/

def SameKey (calls : ι → Claimant) (merchantId idempotencyKey : String) : Prop :=
  ∀ i, (calls i).claim.clean.merchantId = merchantId
    ∧ (calls i).claim.clean.idempotencyKey = idempotencyKey

omit [DecidableEq ι] in
theorem SameKey.isUnderKey_eq {m k : String} (h : SameKey calls m k) (i j : ι) :
    (calls i).isUnderKey = (calls j).isUnderKey := by
  funext a
  rw [Claimant.isUnderKey, Claimant.isUnderKey, (h i).1, (h i).2, (h j).1, (h j).2]

theorem isUnderKey_row (c : Claimant) : c.isUnderKey c.row = true := by
  rw [Claimant.isUnderKey, Bool.and_eq_true, beq_iff_eq, beq_iff_eq]
  constructor
  · exact (Text.strip_strip c.claim.merchantId).symm
  · exact (Text.strip_strip c.claim.idempotencyKey).symm

/-- What holds of a race that started from the table `start`. -/
structure Inv (calls : ι → Claimant) (start : Table ExecutionAttemptRow.attemptId)
    (s : RaceState ι) : Prop where
  startKept    : ∀ x ∈ start.rows, x ∈ s.committed.rows
  pendingOwner : ∀ p ∈ s.pending, s.stage p.1 = .granted p.2 false
  newStored    : ∀ i a, s.stage i = .granted a false → a ∈ s.stored ∧ a = (calls i).row
  storedFrom   : ∀ x ∈ s.stored, x ∈ start.rows ∨ ∃ i, s.stage i = .granted x false
  pastLookup   : ∀ i, s.stage i = .inserting → ∀ x ∈ start.rows, (calls i).isUnderKey x = false

omit [DecidableEq ι] in
theorem before_inv (calls : ι → Claimant) (start : Table ExecutionAttemptRow.attemptId) :
    Inv calls start (before start) where
  startKept := by
    intro x hx
    exact hx
  pendingOwner := by
    intro p hp
    cases hp
  newStored := by
    intro i a h
    cases h
  storedFrom := by
    intro x hx
    rw [stored, before, List.map_nil, List.append_nil] at hx
    exact Or.inl hx
  pastLookup := by
    intro i h
    cases h

variable {start : Table ExecutionAttemptRow.attemptId}

theorem setStage_stage_self (s : RaceState ι) (i : ι) (stage : ClaimStage) :
    (s.setStage i stage).stage i = stage := if_pos rfl

theorem setStage_stage_of_ne (s : RaceState ι) {i j : ι} (stage : ClaimStage) (h : j ≠ i) :
    (s.setStage i stage).stage j = s.stage j := if_neg h

/-- A caller that was not told to own a new attempt may come to another stage
    that does not say so either, past the lookup only if nothing was there. -/
theorem Inv.setStage (h : Inv calls start s) {i : ι} {stage : ClaimStage}
    (hold : ∀ a, s.stage i ≠ .granted a false) (hnew : ∀ a, stage ≠ .granted a false)
    (hpast : stage = .inserting → ∀ x ∈ start.rows, (calls i).isUnderKey x = false) :
    Inv calls start (s.setStage i stage) where
  startKept := h.startKept
  pendingOwner := by
    intro p hp
    have howner := h.pendingOwner p hp
    rw [setStage_stage_of_ne, howner]
    intro heq
    rw [heq] at howner
    exact hold _ howner
  newStored := by
    intro j a hj
    by_cases hji : j = i
    · rw [hji, setStage_stage_self] at hj
      exact absurd hj (hnew a)
    · rw [setStage_stage_of_ne _ _ hji] at hj
      exact h.newStored j a hj
  storedFrom := by
    intro x hx
    rcases h.storedFrom x hx with hstart | ⟨j, hj⟩
    · exact Or.inl hstart
    · refine Or.inr ⟨j, ?_⟩
      rw [setStage_stage_of_ne, hj]
      intro heq
      rw [heq] at hj
      exact hold _ hj
  pastLookup := by
    intro j hj
    by_cases hji : j = i
    · rw [hji, setStage_stage_self] at hj
      rw [hji]
      exact hpast hj
    · rw [setStage_stage_of_ne _ _ hji] at hj
      exact h.pastLookup j hj

theorem Inv.pending_filter (h : Inv calls start s) {i : ι}
    (hold : ∀ a, s.stage i ≠ .granted a false) :
    (s.pending.filter fun p => !decide (p.1 = i)) = s.pending := by
  rw [List.filter_eq_self]
  intro p hp
  have hne : p.1 ≠ i := by
    intro heq
    have howner := h.pendingOwner p hp
    rw [heq] at howner
    exact hold _ howner
  rw [decide_eq_false hne]
  rfl

theorem afterLookup_eq_granted_iff {c : Claimant} {rows : List ExecutionAttemptRow}
    {a : ExecutionAttemptRow} {e : Bool} :
    c.afterLookup rows = .granted a e
      ↔ c.claim.check = .ok () ∧ rows = [a] ∧ c.claim.clean.checkExisting a = .ok ()
        ∧ e = true := by
  rw [Claimant.afterLookup]
  cases c.claim.check with
  | error err => simp
  | ok u =>
      cases hfound : scalarOneOrNone rows with
      | error err =>
          simp only [reduceCtorEq, false_iff]
          rintro ⟨-, rfl, -⟩
          cases hfound
      | ok o =>
          cases o with
          | none =>
              simp only [reduceCtorEq, false_iff]
              rintro ⟨-, rfl, -⟩
              cases hfound
          | some existing =>
              obtain rfl := scalarOneOrNone_eq_some_iff.mp hfound
              dsimp only
              constructor
              · intro h
                cases hsame : c.claim.clean.checkExisting existing with
                | error err =>
                    rw [hsame] at h
                    cases h
                | ok u =>
                    rw [hsame] at h
                    obtain ⟨rfl, rfl⟩ := ClaimStage.granted.inj h
                    exact ⟨rfl, rfl, hsame, rfl⟩
              · rintro ⟨-, hone, hsame, rfl⟩
                obtain rfl := List.singleton_inj.mp hone
                rw [hsame]

theorem eq_nil_of_afterLookup {c : Claimant} {rows : List ExecutionAttemptRow}
    (h : c.afterLookup rows = .inserting) : rows = [] := by
  rw [Claimant.afterLookup] at h
  cases hcheck : c.claim.check with
  | error err =>
      rw [hcheck] at h
      cases h
  | ok u =>
      rw [hcheck] at h
      dsimp only at h
      cases hfound : scalarOneOrNone rows with
      | error err =>
          rw [hfound] at h
          cases h
      | ok o =>
          rw [hfound] at h
          cases o with
          | none => exact scalarOneOrNone_eq_none_iff.mp hfound
          | some existing =>
              dsimp only at h
              cases hsame : c.claim.clean.checkExisting existing with
              | error err =>
                  rw [hsame] at h
                  cases h
              | ok u =>
                  rw [hsame] at h
                  cases h

theorem afterRecovery_eq_granted_iff {c : Claimant} {rows : List ExecutionAttemptRow}
    {a : ExecutionAttemptRow} {e : Bool} :
    c.afterRecovery rows = .granted a e
      ↔ rows = [a] ∧ a.transactionId = c.claim.clean.transactionId ∧ e = true := by
  rw [Claimant.afterRecovery]
  cases hfound : scalarOneOrNone rows with
  | error err =>
      simp only [reduceCtorEq, false_iff]
      rintro ⟨rfl, -⟩
      cases hfound
  | ok o =>
      cases o with
      | none =>
          simp only [reduceCtorEq, false_iff]
          rintro ⟨rfl, -⟩
          cases hfound
      | some dup =>
          obtain rfl := scalarOneOrNone_eq_some_iff.mp hfound
          dsimp only
          by_cases htx : dup.transactionId ≠ c.claim.clean.transactionId
          · rw [if_pos htx]
            simp only [reduceCtorEq, false_iff]
            rintro ⟨hone, heq, -⟩
            obtain rfl := List.singleton_inj.mp hone
            exact htx heq
          · rw [if_neg htx]
            constructor
            · intro h
              obtain ⟨rfl, rfl⟩ := ClaimStage.granted.inj h
              exact ⟨rfl, Decidable.not_not.mp htx, rfl⟩
            · rintro ⟨hone, -, rfl⟩
              rw [List.singleton_inj.mp hone]

theorem afterRecovery_ne_inserting (c : Claimant) (rows : List ExecutionAttemptRow) :
    c.afterRecovery rows ≠ .inserting := by
  rw [Claimant.afterRecovery]
  cases scalarOneOrNone rows with
  | error err => simp
  | ok o =>
      cases o with
      | none => simp
      | some dup =>
          by_cases htx : dup.transactionId ≠ c.claim.clean.transactionId
          · simp [htx]
          · simp [htx]

theorem mem_found_iff {i : ι} {x : ExecutionAttemptRow} :
    x ∈ s.found calls i ↔ x ∈ s.visible i ∧ (calls i).isUnderKey x = true := List.mem_filter

/-- A caller whose insert goes through holds the attempt. -/
theorem Inv.insert (h : Inv calls start s) {i : ι} (hstage : s.stage i = .inserting) :
    Inv calls start (RaceState.setStage { s with pending := s.pending ++ [(i, (calls i).row)] } i
      (.granted (calls i).row false)) where
  startKept := h.startKept
  pendingOwner := by
    intro p hp
    rcases List.mem_append.mp hp with hold | hnew
    · have howner := h.pendingOwner p hold
      rw [setStage_stage_of_ne]
      · exact howner
      · intro heq
        rw [heq, hstage] at howner
        cases howner
    · rw [List.mem_singleton.mp hnew, setStage_stage_self]
  newStored := by
    intro j a hj
    have hmore : s.stored ⊆ s.committed.rows
        ++ (s.pending ++ [(i, (calls i).row)]).map Prod.snd := by
      intro x hx
      rw [List.map_append, ← List.append_assoc]
      exact List.mem_append_left _ hx
    by_cases hji : j = i
    · rw [hji, setStage_stage_self] at hj
      obtain ⟨rfl, -⟩ := ClaimStage.granted.inj hj
      refine ⟨?_, by rw [hji]⟩
      refine List.mem_append_right _ (List.mem_map_of_mem (a := (i, (calls i).row)) ?_)
      exact List.mem_append_right _ (List.mem_singleton_self _)
    · rw [setStage_stage_of_ne _ _ hji] at hj
      obtain ⟨hstored, hrow⟩ := h.newStored j a hj
      exact ⟨hmore hstored, hrow⟩
  storedFrom := by
    intro x hx
    change x ∈ s.committed.rows ++ (s.pending ++ [(i, (calls i).row)]).map Prod.snd at hx
    rw [List.map_append, ← List.append_assoc] at hx
    rcases List.mem_append.mp hx with hold | hnew
    · rcases h.storedFrom x hold with hstart | ⟨j, hj⟩
      · exact Or.inl hstart
      · refine Or.inr ⟨j, ?_⟩
        rw [setStage_stage_of_ne]
        · exact hj
        · intro heq
          rw [heq, hstage] at hj
          cases hj
    · refine Or.inr ⟨i, ?_⟩
      rw [List.mem_singleton.mp hnew, setStage_stage_self]
  pastLookup := by
    intro j hj
    by_cases hji : j = i
    · rw [hji, setStage_stage_self] at hj
      cases hj
    · rw [setStage_stage_of_ne _ _ hji] at hj
      exact h.pastLookup j hj

/-- A commit moves what a session holds to the committed attempts. -/
theorem Inv.commit (h : Inv calls start s) {i : ι} {p : ι × ExecutionAttemptRow}
    {rows : Table ExecutionAttemptRow.attemptId} (hpending : p ∈ s.pending) (howner : p.1 = i)
    (hinsert : s.committed.insert p.2 = some rows) :
    Inv calls start { s with
      committed := rows
      pending := s.pending.filter fun p => !decide (p.1 = i) } := by
  have hrows := Table.rows_of_insert hinsert
  -- all that the session holds is the one attempt its caller was granted
  have honly : ∀ q ∈ s.pending, q.1 = i → q.2 = p.2 := by
    intro q hq hqi
    have hfirst := h.pendingOwner q hq
    have hsecond := h.pendingOwner p hpending
    rw [hqi] at hfirst
    rw [howner, hfirst] at hsecond
    exact (ClaimStage.granted.inj hsecond).1
  have hsame : ∀ x, x ∈ rows.rows ++ (s.pending.filter fun p => !decide (p.1 = i)).map Prod.snd
      ↔ x ∈ s.stored := by
    intro x
    rw [hrows, stored, List.mem_append, List.mem_append, List.mem_append, List.mem_singleton]
    constructor
    · rintro ((hold | rfl) | hrest)
      · exact Or.inl hold
      · exact Or.inr (List.mem_map_of_mem hpending)
      · obtain ⟨q, hq, rfl⟩ := List.mem_map.mp hrest
        exact Or.inr (List.mem_map_of_mem (List.mem_of_mem_filter hq))
    · rintro (hold | hrest)
      · exact Or.inl (Or.inl hold)
      · obtain ⟨q, hq, rfl⟩ := List.mem_map.mp hrest
        by_cases hqi : q.1 = i
        · exact Or.inl (Or.inr (honly q hq hqi))
        · refine Or.inr (List.mem_map_of_mem (List.mem_filter.mpr ⟨hq, ?_⟩))
          rw [decide_eq_false hqi]
          rfl
  refine ⟨?_, ?_, ?_, ?_, h.pastLookup⟩
  · intro x hx
    show x ∈ rows.rows
    rw [hrows]
    exact List.mem_append_left _ (h.startKept x hx)
  · intro q hq
    exact h.pendingOwner q (List.mem_of_mem_filter hq)
  · intro j a hj
    obtain ⟨hstored, hrow⟩ := h.newStored j a hj
    exact ⟨(hsame a).mpr hstored, hrow⟩
  · intro x hx
    exact h.storedFrom x ((hsame x).mp hx)

/-- **Every step keeps the invariant.** -/
theorem Inv.step (h : Inv calls start s) (a : RaceAction ι) :
    Inv calls start (step calls s a).2 := by
  have hmoves := step_moves calls s a
  generalize (RaceState.step calls s a).2 = s' at hmoves
  cases hmoves with
  | stays => exact h
  | @lookup i hstage =>
      refine h.setStage ?_ ?_ ?_
      · intro a ha
        rw [hstage] at ha
        cases ha
      · intro a ha
        obtain ⟨-, -, -, hnew⟩ := afterLookup_eq_granted_iff.mp ha
        cases hnew
      · intro hinserting x hx
        -- an attempt of the start is seen by every lookup
        have hnone := eq_nil_of_afterLookup hinserting
        rw [← Bool.not_eq_true]
        intro hkey
        have hmem : x ∈ s.found calls i :=
          mem_found_iff.mpr ⟨List.mem_append_left _ (h.startKept x hx), hkey⟩
        rw [hnone] at hmem
        cases hmem
  | @conflict i hstage htaken =>
      have hold : ∀ a, s.stage i ≠ .granted a false := by
        intro a ha
        rw [hstage] at ha
        cases ha
      rw [h.pending_filter hold]
      refine h.setStage hold ?_ ?_
      · intro a ha
        cases ha
      · intro ha
        cases ha
  | insert hstage hfree => exact h.insert hstage
  | @recover i hstage =>
      refine h.setStage ?_ ?_ ?_
      · intro a ha
        rw [hstage] at ha
        cases ha
      · intro a ha
        obtain ⟨-, -, hnew⟩ := afterRecovery_eq_granted_iff.mp ha
        cases hnew
      · intro hinserting
        exact absurd hinserting (afterRecovery_ne_inserting _ _)
  | commit hpending howner hinsert => exact h.commit hpending howner hinsert

/-! ## Safe races -/

/-- At most one caller is told that the attempt is new, and every caller that
    obtains an attempt has its payload. -/
structure Safe (calls : ι → Claimant) (stage : ι → ClaimStage) : Prop where
  oneNew      : ∀ i j a b, stage i = .granted a false → stage j = .granted b false → i = j
  samePayload : ∀ i a e, stage i = .granted a e →
    a.payloadFingerprint = (calls i).claim.clean.payloadFingerprint

/-- A step that the missing unique index and the missing comparison do not
    hurt: an insert that goes through finds nothing stored under the key, and
    a second lookup does not find a different payload of the same transaction. -/
structure Orderly (calls : ι → Claimant) (c : Step (RaceState ι) (RaceAction ι) Unit) :
    Prop where
  inserts  : ∀ i, c.act = .insert i → c.pre.stage i = .inserting →
    (calls i).row.attemptId ∉ c.pre.stored.map ExecutionAttemptRow.attemptId →
    ∀ x ∈ c.pre.stored, (calls i).isUnderKey x = false
  recovers : ∀ i dup, c.act = .recover i → c.pre.stage i = .recovering →
    c.pre.found calls i = [dup] → dup.transactionId = (calls i).claim.clean.transactionId →
    dup.payloadFingerprint = (calls i).claim.clean.payloadFingerprint

theorem Safe.setStage (h : Safe calls s.stage) {i : ι} {stage : ClaimStage}
    (hnew : ∀ a, stage ≠ .granted a false)
    (hpayload : ∀ a e, stage = .granted a e →
      a.payloadFingerprint = (calls i).claim.clean.payloadFingerprint) :
    Safe calls (s.setStage i stage).stage where
  oneNew := by
    intro j k a b hj hk
    by_cases hji : j = i
    · rw [hji, setStage_stage_self] at hj
      exact absurd hj (hnew a)
    · by_cases hki : k = i
      · rw [hki, setStage_stage_self] at hk
        exact absurd hk (hnew b)
      · rw [setStage_stage_of_ne _ _ hji] at hj
        rw [setStage_stage_of_ne _ _ hki] at hk
        exact h.oneNew j k a b hj hk
  samePayload := by
    intro j a e hj
    by_cases hji : j = i
    · rw [hji, setStage_stage_self] at hj
      rw [hji]
      exact hpayload a e hj
    · rw [setStage_stage_of_ne _ _ hji] at hj
      exact h.samePayload j a e hj

theorem safe_insert_iff {m k : String} (hkey : SameKey calls m k) (hinv : Inv calls start s)
    (hsafe : Safe calls s.stage) {i : ι} (hstage : s.stage i = .inserting) :
    Safe calls (s.setStage i (.granted (calls i).row false)).stage
      ↔ ∀ x ∈ s.stored, (calls i).isUnderKey x = false := by
  constructor
  · intro hpost x hx
    rw [← Bool.not_eq_true]
    intro hunder
    rcases hinv.storedFrom x hx with hstart | ⟨j, hj⟩
    · rw [hinv.pastLookup i hstage x hstart] at hunder
      cases hunder
    · -- the one that stored it was told so, and now this caller is
      have hji : j ≠ i := by
        intro heq
        rw [heq, hstage] at hj
        cases hj
      refine hji (hpost.oneNew j i x (calls i).row ?_ (setStage_stage_self s i _))
      rw [setStage_stage_of_ne _ _ hji]
      exact hj
  · intro hfree
    have hnone : ∀ j a, s.stage j ≠ .granted a false := by
      intro j a hj
      obtain ⟨hstored, hrow⟩ := hinv.newStored j a hj
      have hunder := isUnderKey_row (calls j)
      rw [← hrow, hkey.isUnderKey_eq j i, hfree a hstored] at hunder
      cases hunder
    refine ⟨?_, ?_⟩
    · intro j l a b hj hl
      by_cases hji : j = i
      · by_cases hli : l = i
        · rw [hji, hli]
        · rw [setStage_stage_of_ne _ _ hli] at hl
          exact absurd hl (hnone l b)
      · rw [setStage_stage_of_ne _ _ hji] at hj
        exact absurd hj (hnone j a)
    · intro j a e hj
      by_cases hji : j = i
      · rw [hji, setStage_stage_self] at hj
        obtain ⟨rfl, -⟩ := ClaimStage.granted.inj hj
        rw [hji]
        rfl
      · rw [setStage_stage_of_ne _ _ hji] at hj
        exact hsafe.samePayload j a e hj

/-- **A step out of a safe state is safe exactly when it is orderly.** -/
theorem safe_step_iff {m k : String} (hkey : SameKey calls m k) (hinv : Inv calls start s)
    (hsafe : Safe calls s.stage) (a : RaceAction ι) :
    Safe calls (step calls s a).2.stage ↔ Orderly calls (stepAt (step calls) s a) := by
  have hmoves := step_moves calls s a
  generalize hpost : (RaceState.step calls s a).2 = s' at hmoves
  cases hmoves with
  | stays hout hrec =>
      refine iff_of_true hsafe ⟨?_, ?_⟩
      · intro i hact hstage hfree
        exact absurd (hout i hact hstage) hfree
      · intro i dup hact hstage
        exact absurd hstage (hrec i hact)
  | @lookup i hstage =>
      refine iff_of_true (hsafe.setStage ?_ ?_) ⟨?_, ?_⟩
      · intro x hx
        obtain ⟨-, -, -, hnew⟩ := afterLookup_eq_granted_iff.mp hx
        cases hnew
      · intro x e hx
        obtain ⟨-, -, hsame, -⟩ := afterLookup_eq_granted_iff.mp hx
        exact (checkExisting_eq_ok_iff.mp hsame).2
      · intro j hact
        cases hact
      · intro j dup hact
        cases hact
  | @conflict i hstage htaken =>
      refine iff_of_true (Safe.setStage (s := s) hsafe ?_ ?_) ⟨?_, ?_⟩
      · intro x hx
        cases hx
      · intro x e hx
        cases hx
      · intro j hact _ hfree
        obtain rfl := RaceAction.insert.inj hact
        exact absurd htaken hfree
      · intro j dup hact
        cases hact
  | @insert i hstage hfree =>
      have hiff := safe_insert_iff hkey hinv hsafe hstage
      constructor
      · intro hsafe'
        refine ⟨?_, ?_⟩
        · intro j hact _ _
          obtain rfl := RaceAction.insert.inj hact
          exact hiff.mp hsafe'
        · intro j dup hact
          cases hact
      · intro horderly
        exact hiff.mpr (horderly.inserts i rfl hstage hfree)
  | @recover i hstage =>
      constructor
      · intro hsafe'
        refine ⟨?_, ?_⟩
        · intro j hact
          cases hact
        · intro j dup hact _ hfound htx
          obtain rfl := RaceAction.recover.inj hact
          refine hsafe'.samePayload i dup true ?_
          rw [setStage_stage_self]
          exact afterRecovery_eq_granted_iff.mpr ⟨hfound, htx, rfl⟩
      · intro horderly
        refine hsafe.setStage ?_ ?_
        · intro x hx
          obtain ⟨-, -, hnew⟩ := afterRecovery_eq_granted_iff.mp hx
          cases hnew
        · intro x e hx
          obtain ⟨hfound, htx, -⟩ := afterRecovery_eq_granted_iff.mp hx
          exact horderly.recovers i x rfl hstage hfound htx
  | commit hpending howner hinsert =>
      refine iff_of_true hsafe ⟨?_, ?_⟩
      · intro j hact
        cases hact
      · intro j dup hact
        cases hact

omit [DecidableEq ι] in
theorem before_safe (calls : ι → Claimant) (start : Table ExecutionAttemptRow.attemptId) :
    Safe calls (before start).stage where
  oneNew := by
    intro i j a b h
    cases h
  samePayload := by
    intro i a e h
    cases h

/-- **Exactly when racing claims are safe**: in every interleaving of callers
    with one merchant and key, all states are safe if and only if all steps
    are orderly. -/
theorem race_safe_iff {m k : String} (hkey : SameKey calls m k)
    (start : Table ExecutionAttemptRow.attemptId) (schedule : List (RaceAction ι)) :
    (∀ c ∈ steps (step calls) (before start) schedule, Safe calls c.post.stage)
      ↔ ∀ c ∈ steps (step calls) (before start) schedule, Orderly calls c := by
  refine forall_steps_iff (I := fun s => Inv calls start s ∧ Safe calls s.stage) ?_ ?_
    ⟨before_inv calls start, before_safe calls start⟩ schedule
  · rintro s a ⟨hinv, hsafe⟩
    exact safe_step_iff hkey hinv hsafe a
  · rintro s a ⟨hinv, hsafe⟩ horderly
    exact ⟨hinv.step a, (safe_step_iff hkey hinv hsafe a).mpr horderly⟩

/-! ## One caller alone -/

section Alone

variable {c : Claimant} {db : Database}

/-- The steps of `claim_attempt` with nobody else between them. -/
def alone (c : Claimant) (db : Database) : RaceState Unit :=
  exec (step fun _ => c) (before db.executionAttempts) [.lookup (), .insert (), .recover ()]

end Alone

/-! ## Two races -/

namespace Sample

def workers (first : Bool) : Claimant where
  env := ⟨1709210096000000, if first then "0a1b2c3d" else "4e5f6a7b", "", ""⟩
  claim := ⟨"tx-1", "merchant-1", "exec:tx-1", "bf011ded7a333868"⟩
  attemptId := none

theorem workers_sameKey : SameKey workers "merchant-1" "exec:tx-1" := by
  intro first
  constructor
  · show Text.strip "merchant-1" = "merchant-1"
    decide
  · show Text.strip "exec:tx-1" = "exec:tx-1"
    decide

def bothLookFirst : List (RaceAction Bool) :=
  [.lookup true, .lookup false, .insert true, .insert false, .commit true, .commit false]

def oneAfterTheOther : List (RaceAction Bool) :=
  [.lookup true, .insert true, .commit true, .lookup false, .insert false]

def tampering (first : Bool) : Claimant where
  env := ⟨1709210096000000, "", "", "duplicate key"⟩
  claim := ⟨"tx-1", "merchant-1", "exec:tx-1",
    if first then "bf011ded7a333868" else "511874b86a90205b"⟩
  attemptId := some "exec:tx-1:1"

def recoversOther : List (RaceAction Bool) :=
  [.lookup true, .lookup false, .insert true, .commit true, .insert false, .recover false]

end Sample

theorem race_safe_iff_oneAfterTheOther :
    (∀ c ∈ steps (step Sample.workers) (before Table.empty) Sample.oneAfterTheOther,
        Safe Sample.workers c.post.stage)
      ↔ ∀ c ∈ steps (step Sample.workers) (before Table.empty) Sample.oneAfterTheOther,
          Orderly Sample.workers c :=
  race_safe_iff Sample.workers_sameKey Table.empty Sample.oneAfterTheOther

/-- Two workers are told to own a new attempt, and a caller obtains an attempt
    with a payload that is not its own. -/
theorem races_unsafe :
    ((exec (step Sample.workers) (before Table.empty) Sample.bothLookFirst).stage true
          = .granted (Sample.workers true).row false
        ∧ (exec (step Sample.workers) (before Table.empty) Sample.bothLookFirst).stage false
          = .granted (Sample.workers false).row false)
      ∧ (exec (step Sample.tampering) (before Table.empty) Sample.recoversOther).stage false
          = .granted (Sample.tampering true).row true
      ∧ (Sample.tampering true).row.payloadFingerprint
          ≠ (Sample.tampering false).claim.clean.payloadFingerprint :=
  ⟨⟨by decide +kernel, by decide +kernel⟩, by decide +kernel, by decide⟩

end RaceState

end ExecutionAttemptRepository

end MandateGateway
