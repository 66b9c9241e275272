import MandateGateway.Budget.Coverage

/-! # Racing reservations

    `reserve` holds the lock of its mandate while it works, but the map of
    reservations is shared by all mandates: another call can store into it
    between the lookup of the identifier and the write.  Here a call is two
    steps, the one that reads the stores and decides and the one that writes
    what was decided, and calls on different mandates interleave freely.

    A call left alone is `reserve` (`exec_alone`).  In a race nothing is lost
    iff no call writes over an identifier taken since it looked
    (`race_keeps_iff`). -/

namespace MandateGateway

open Clock OrderedMap Runs

/-- A call of `reserve`. -/
structure ReserveRequest where
  env           : Ambient
  mandateId     : String
  transactionId : String
  amountPaise   : Int
  currency      : Currency
  reservationId : Option String
  ttlSeconds    : Int
  at?           : Option Instant

namespace ReserveRequest

def run (q : ReserveRequest) (e : BudgetEngine) :
    Except PyError BudgetEvaluationResult × BudgetEngine :=
  e.reserve q.env q.mandateId q.transactionId q.amountPaise q.currency q.reservationId
    q.ttlSeconds q.at?

/-- How far a call is.  A call that is storing has the lock of its mandate and
    has computed `updated_budget` and `reservation`. -/
inductive Stage where
  | waiting
  | storing (updated : DailyBudget) (reservation : BudgetReservation)
      (result : BudgetEvaluationResult)
  | returned (result : BudgetEvaluationResult)
  | raised (err : PyError)

/-- Where the checks of the critical section lead: to an answer, or to the
    budget and the reservation that the call goes on to store. -/
def afterRead (q : ReserveRequest) (e : BudgetEngine) : Stage :=
  match q.run e with
  | (.error err, _) => .raised err
  | (.ok result, e') =>
      match result.reservation, e'.budgets.get q.mandateId with
      | some reservation, some updated => .storing updated reservation result
      | _, _ => .returned result

/-- What a call goes on to store after its read of `e`. -/
structure Plan (q : ReserveRequest) (e : BudgetEngine) (updated : DailyBudget)
    (r : BudgetReservation) (result : BudgetEvaluationResult) : Prop where
  budget   : ∃ b, e.budgets.get q.mandateId = some b
    ∧ updated.reservedPaise = b.reservedPaise + r.amountPaise
  unused   : e.reservations.get r.reservationId = none
  owner    : r.mandateId = q.mandateId
  reserved : r.state = .reserved
  success  : result.valid = true
  carried  : result.reservation = some r
  run_eq   : q.run e = (.ok result,
    ⟨e.budgets.set q.mandateId updated, e.reservations.set r.reservationId r⟩)

theorem afterRead_cases (q : ReserveRequest) (e : BudgetEngine) :
    (∃ updated r result, q.afterRead e = .storing updated r result
      ∧ Plan q e updated r result)
    ∨ (∃ result, q.afterRead e = .returned result ∧ q.run e = (.ok result, e)
      ∧ result.valid = false)
    ∨ ∃ err, q.afterRead e = .raised err ∧ q.run e = (.error err, e) := by
  rw [afterRead]
  rcases BudgetEngine.reserve_cases e q.env q.mandateId q.transactionId q.amountPaise
      q.currency q.reservationId q.ttlSeconds q.at? with
    ⟨reply, h, hreply⟩ | ⟨b, r, result, hb, hid, -, -, ⟨hm, ha, hst⟩, ⟨hv, hr⟩, h⟩
  · have hrun : q.run e = (reply, e) := h
    rw [hrun]
    cases reply with
    | error err => exact Or.inr (Or.inr ⟨err, rfl, rfl⟩)
    | ok result =>
        obtain ⟨hv, hnone⟩ := hreply result rfl
        exact Or.inr (Or.inl ⟨result, by simp only [hnone], rfl, hv⟩)
  · refine Or.inl ⟨{ b with
        reservedPaise := b.reservedPaise + q.amountPaise, updatedAt := q.env.now },
      r, result, ?_, ⟨b, hb, ?_⟩, hid, hm, hst, hv, hr, h⟩
    · have hrun : q.run e = _ := h
      rw [hrun]
      simp only [hr, get_set_self]
    · show b.reservedPaise + q.amountPaise = b.reservedPaise + r.amountPaise
      rw [ha]

end ReserveRequest

open ReserveRequest BudgetEngine

/-- The shared engine, the mandates whose lock is held, and how far each call
    is. -/
structure ReserveRace (ι : Type) where
  engine : BudgetEngine
  held   : List String
  stage  : ι → Stage

namespace ReserveRace

variable {ι : Type} [DecidableEq ι]

def setStage (s : ReserveRace ι) (i : ι) (stage : Stage) : ReserveRace ι :=
  { s with stage := fun j => if j = i then stage else s.stage j }

/-- The read of a call.  An amount that is not positive is refused before the
    lock is asked for; any other call waits while the lock is held. -/
def readStep (calls : ι → ReserveRequest) (i : ι) (s : ReserveRace ι) : ReserveRace ι :=
  if 0 < (calls i).amountPaise ∧ (calls i).mandateId ∈ s.held then s
  else match (calls i).afterRead s.engine with
  | .storing updated reservation result =>
      setStage { s with held := (calls i).mandateId :: s.held } i
        (.storing updated reservation result)
  | stage => s.setStage i stage

/-- The writes of a call, and the end of its critical section. -/
def storeStep (calls : ι → ReserveRequest) (i : ι) (updated : DailyBudget)
    (reservation : BudgetReservation) (result : BudgetEvaluationResult)
    (s : ReserveRace ι) : ReserveRace ι :=
  setStage
    { s with
      engine :=
        ⟨s.engine.budgets.set (calls i).mandateId updated,
          s.engine.reservations.set reservation.reservationId reservation⟩
      held := s.held.erase (calls i).mandateId } i (.returned result)

/-- The next step of the call `i`. -/
def step (calls : ι → ReserveRequest) (s : ReserveRace ι) (i : ι) : Unit × ReserveRace ι :=
  match s.stage i with
  | .waiting => ((), readStep calls i s)
  | .storing updated reservation result => ((), storeStep calls i updated reservation result s)
  | .returned _ => ((), s)
  | .raised _ => ((), s)

/-- Before the race: no lock is held and no call has started. -/
def before (e : BudgetEngine) : ReserveRace ι := ⟨e, [], fun _ => .waiting⟩

theorem setStage_stage_self (s : ReserveRace ι) (i : ι) (stage : Stage) :
    (s.setStage i stage).stage i = stage := if_pos rfl

theorem setStage_stage_of_ne (s : ReserveRace ι) {i j : ι} (stage : Stage) (h : j ≠ i) :
    (s.setStage i stage).stage j = s.stage j := if_neg h

/-- The end of a call that `reserve` replies to. -/
def replied : Except PyError BudgetEvaluationResult → Stage
  | .ok result => .returned result
  | .error err => .raised err

/-- **A call left alone is `reserve`**: its two steps change the engine as the
    call does and end with its reply. -/
theorem exec_alone (calls : ι → ReserveRequest) (s : ReserveRace ι) (i : ι)
    (hstage : s.stage i = .waiting) (hfree : (calls i).mandateId ∉ s.held) :
    (exec (step calls) s [i, i]).engine = ((calls i).run s.engine).2
      ∧ (exec (step calls) s [i, i]).stage i = replied ((calls i).run s.engine).1 := by
  have hread : (step calls s i).2 = readStep calls i s := by
    rw [step, hstage]
  rw [exec_cons, hread, readStep, if_neg fun h => hfree h.2]
  rcases (calls i).afterRead_cases s.engine with
    ⟨updated, r, result, h, hplan⟩ | ⟨result, h, hrun, -⟩ | ⟨err, h, hrun⟩
  · rw [h, hplan.run_eq]
    simp only [exec_cons, exec_nil, step, setStage_stage_self, storeStep]
    exact ⟨rfl, rfl⟩
  · rw [h, hrun]
    simp only [exec_cons, exec_nil, step, setStage_stage_self]
    exact ⟨rfl, rfl⟩
  · rw [h, hrun]
    simp only [exec_cons, exec_nil, step, setStage_stage_self]
    exact ⟨rfl, rfl⟩

/-! ## What a step can do -/

inductive Moves (calls : ι → ReserveRequest) (s : ReserveRace ι) (i : ι) :
    ReserveRace ι → Prop where
  | stays (hstage : ∀ updated r result, s.stage i ≠ .storing updated r result) :
      Moves calls s i s
  | answers {stage : Stage} (hstage : s.stage i = .waiting)
      (hplan : ∀ updated r result, stage ≠ .storing updated r result)
      (hfail : ∀ result, stage = .returned result → result.valid = false) :
      Moves calls s i (s.setStage i stage)
  | reads {updated : DailyBudget} {r : BudgetReservation} {result : BudgetEvaluationResult}
      (hstage : s.stage i = .waiting) (hfree : (calls i).mandateId ∉ s.held)
      (hplan : Plan (calls i) s.engine updated r result) :
      Moves calls s i (setStage { s with held := (calls i).mandateId :: s.held } i
        (.storing updated r result))
  | stores {updated : DailyBudget} {r : BudgetReservation} {result : BudgetEvaluationResult}
      (hstage : s.stage i = .storing updated r result) :
      Moves calls s i (storeStep calls i updated r result s)

variable {calls : ι → ReserveRequest} {s : ReserveRace ι}

/-- A plan is made for a positive amount only. -/
theorem Plan.amount_pos {q : ReserveRequest} {e : BudgetEngine} {updated : DailyBudget}
    {r : BudgetReservation} {result : BudgetEvaluationResult}
    (h : Plan q e updated r result) : 0 < q.amountPaise := by
  by_contra hpos
  have hrun := h.run_eq
  rw [ReserveRequest.run, reserve, if_pos (Int.not_lt.mp hpos)] at hrun
  have hvalid := h.success
  rw [← Except.ok.inj (congrArg Prod.fst hrun)] at hvalid
  cases hvalid

theorem readStep_moves {i : ι} (hstage : s.stage i = .waiting) :
    Moves calls s i (readStep calls i s) := by
  rw [readStep]
  by_cases hwait : 0 < (calls i).amountPaise ∧ (calls i).mandateId ∈ s.held
  · rw [if_pos hwait]
    refine .stays ?_
    intro updated r result h
    rw [hstage] at h
    cases h
  rw [if_neg hwait]
  rcases (calls i).afterRead_cases s.engine with
    ⟨updated, r, result, hread, hplan⟩ | ⟨result, hread, -, hv⟩ | ⟨err, hread, -⟩
  · rw [hread]
    exact .reads hstage (fun hheld => hwait ⟨Plan.amount_pos hplan, hheld⟩) hplan
  · rw [hread]
    refine .answers hstage ?_ ?_
    · intro updated r result' h
      cases h
    · intro result' h
      rw [← Stage.returned.inj h]
      exact hv
  · rw [hread]
    refine .answers hstage ?_ ?_
    · intro updated r result' h
      cases h
    · intro result' h
      cases h

/-- **Every step of the race is one of its moves.** -/
theorem step_moves (calls : ι → ReserveRequest) (s : ReserveRace ι) (i : ι) :
    Moves calls s i (step calls s i).2 := by
  rw [step]
  cases hstage : s.stage i with
  | waiting => exact readStep_moves hstage
  | storing updated r result => exact .stores hstage
  | returned result =>
      refine .stays ?_
      intro updated r result' h
      rw [hstage] at h
      cases h
  | raised err =>
      refine .stays ?_
      intro updated r result' h
      rw [hstage] at h
      cases h

/-! ## What holds in every state of a race -/

/-- The call `j` returned with success and the reservation `r`. -/
def Succeeded (s : ReserveRace ι) (j : ι) (r : BudgetReservation) : Prop :=
  ∃ result, s.stage j = .returned result ∧ result.valid = true ∧ result.reservation = some r

/-- What is known of a call that has read and not yet stored. -/
structure Pending (calls : ι → ReserveRequest) (start : BudgetEngine) (s : ReserveRace ι)
    (i : ι) (updated : DailyBudget) (r : BudgetReservation) : Prop where
  locked   : (calls i).mandateId ∈ s.held
  owner    : r.mandateId = (calls i).mandateId
  reserved : r.state = .reserved
  new      : start.reservations.get r.reservationId = none
  column   : ∃ b, s.engine.budgets.get (calls i).mandateId = some b
    ∧ updated.reservedPaise = b.reservedPaise + r.amountPaise
  /-- an identifier taken since the read was taken by a call on another mandate -/
  taken    : ∀ r', s.engine.reservations.get r.reservationId = some r' →
    r'.mandateId ≠ (calls i).mandateId ∧ r'.reservationId = r.reservationId
      ∧ ∃ j, Succeeded s j r'

/-- What holds of a race that started from the engine `start`. -/
structure Inv (calls : ι → ReserveRequest) (start : BudgetEngine) (s : ReserveRace ι) :
    Prop where
  earlier   : ∀ id r, start.reservations.get id = some r →
    s.engine.reservations.get id = some r
  exclusive : ∀ i j u r result u' r' result', s.stage i = .storing u r result →
    s.stage j = .storing u' r' result' → (calls i).mandateId = (calls j).mandateId → i = j
  pending   : ∀ i u r result, s.stage i = .storing u r result → Pending calls start s i u r
    ∧ result.valid = true ∧ result.reservation = some r

variable {start : BudgetEngine}

omit [DecidableEq ι] in
theorem before_inv (calls : ι → ReserveRequest) (start : BudgetEngine) :
    Inv calls start (before start) where
  earlier := by
    intro id r h
    exact h
  exclusive := by
    intro i j u r result u' r' result' h
    cases h
  pending := by
    intro i u r result h
    cases h

/-- A call that had not returned with success is not one that had. -/
theorem Succeeded.setStage {j : ι} {r : BudgetReservation} (h : Succeeded s j r) {i : ι}
    (hi : ∀ result, s.stage i = .returned result → result.valid = false) (held : List String)
    (e : BudgetEngine) (stage : Stage) :
    Succeeded (ReserveRace.setStage { s with engine := e, held := held } i stage) j r := by
  obtain ⟨result, hstage, hv, hr⟩ := h
  refine ⟨result, ?_, hv, hr⟩
  rw [setStage_stage_of_ne]
  · exact hstage
  · rintro rfl
    rw [hi result hstage] at hv
    cases hv

/-- A change of the stage of one call, which may also take a lock, leaves what
    is known of another. -/
theorem Pending.setStage {j : ι} {u : DailyBudget} {r : BudgetReservation}
    (h : Pending calls start s j u r) {i : ι}
    (hi : ∀ result, s.stage i = .returned result → result.valid = false) {held : List String}
    (hheld : s.held ⊆ held) (stage : Stage) :
    Pending calls start (ReserveRace.setStage { s with held := held } i stage) j u r where
  locked := hheld h.locked
  owner := h.owner
  reserved := h.reserved
  new := h.new
  column := h.column
  taken := by
    intro r' hr'
    obtain ⟨hm, hid, k, hk⟩ := h.taken r' hr'
    exact ⟨hm, hid, k, hk.setStage hi held s.engine stage⟩

/-- A call that answers without storing leaves the invariant. -/
theorem Inv.answers (h : Inv calls start s) {i : ι} {stage : Stage}
    (hstage : s.stage i = .waiting)
    (hplan : ∀ updated r result, stage ≠ .storing updated r result) :
    Inv calls start (s.setStage i stage) := by
  have hi : ∀ result, s.stage i = .returned result → result.valid = false := by
    intro result hr
    rw [hstage] at hr
    cases hr
  have hother : ∀ j u r result, (s.setStage i stage).stage j = .storing u r result →
      s.stage j = .storing u r result := by
    intro j u r result hj
    by_cases hji : j = i
    · rw [hji, setStage_stage_self] at hj
      exact absurd hj (hplan u r result)
    · rwa [setStage_stage_of_ne _ _ hji] at hj
  refine ⟨h.earlier, ?_, ?_⟩
  · intro j k u r result u' r' result' hj hk
    exact h.exclusive j k _ _ _ _ _ _ (hother _ _ _ _ hj) (hother _ _ _ _ hk)
  · intro j u r result hj
    obtain ⟨hpend, hres⟩ := h.pending j u r result (hother _ _ _ _ hj)
    exact ⟨hpend.setStage hi (List.Subset.refl _) stage, hres⟩

/-- A read with a plan takes the lock, which no other call on the mandate has. -/
theorem Inv.reads (h : Inv calls start s) {i : ι} {updated : DailyBudget}
    {r : BudgetReservation} {result : BudgetEvaluationResult} (hstage : s.stage i = .waiting)
    (hfree : (calls i).mandateId ∉ s.held) (hplan : Plan (calls i) s.engine updated r result) :
    Inv calls start (ReserveRace.setStage { s with held := (calls i).mandateId :: s.held } i
      (.storing updated r result)) := by
  have hi : ∀ result, s.stage i = .returned result → result.valid = false := by
    intro result hr
    rw [hstage] at hr
    cases hr
  -- a call on the same mandate that is storing would hold the lock
  have halone : ∀ j u r result, s.stage j = .storing u r result →
      (calls j).mandateId ≠ (calls i).mandateId := by
    intro j u r result hj heq
    have hlocked := (h.pending j u r result hj).1.locked
    rw [heq] at hlocked
    exact hfree hlocked
  refine ⟨h.earlier, ?_, ?_⟩
  · intro j k u r₁ result₁ u' r₂ result₂ hj hk heq
    by_cases hji : j = i
    · by_cases hki : k = i
      · rw [hji, hki]
      · rw [setStage_stage_of_ne _ _ hki] at hk
        rw [hji] at heq
        exact absurd heq.symm (halone k _ _ _ hk)
    · rw [setStage_stage_of_ne _ _ hji] at hj
      by_cases hki : k = i
      · rw [hki] at heq
        exact absurd heq (halone j _ _ _ hj)
      · rw [setStage_stage_of_ne _ _ hki] at hk
        exact h.exclusive j k _ _ _ _ _ _ hj hk heq
  · intro j u r₁ result₁ hj
    by_cases hji : j = i
    · subst hji
      rw [setStage_stage_self] at hj
      obtain ⟨rfl, rfl, rfl⟩ := Stage.storing.inj hj
      refine ⟨⟨List.mem_cons_self, hplan.owner, hplan.reserved, ?_, hplan.budget, ?_⟩,
        hplan.success, hplan.carried⟩
      · cases hstart : start.reservations.get r.reservationId with
        | none => rfl
        | some r₀ =>
            have hused := h.earlier _ _ hstart
            rw [hplan.unused] at hused
            cases hused
      · intro r' hr'
        have hunused := hplan.unused
        rw [show s.engine.reservations.get r.reservationId = some r' from hr'] at hunused
        cases hunused
    · rw [setStage_stage_of_ne _ _ hji] at hj
      obtain ⟨hpend, hres⟩ := h.pending j u r₁ result₁ hj
      exact ⟨hpend.setStage hi (List.subset_cons_self ..) _, hres⟩

/-- A write leaves what is known of a call on another mandate, whose identifier
    it may take. -/
theorem Pending.storeStep {i j : ι} {u u' : DailyBudget} {r r' : BudgetReservation}
    {result : BudgetEvaluationResult} (h : Pending calls start s j u r)
    (hstage : s.stage i = .storing u' r' result) (hstored : Pending calls start s i u' r')
    (hresult : result.valid = true ∧ result.reservation = some r')
    (hne : (calls j).mandateId ≠ (calls i).mandateId) :
    Pending calls start (ReserveRace.storeStep calls i u' r' result s) j u r where
  locked := (List.mem_erase_of_ne hne).mpr h.locked
  owner := h.owner
  reserved := h.reserved
  new := h.new
  column := by
    obtain ⟨b, hb, hcol⟩ := h.column
    exact ⟨b, (get_set_of_ne _ hne _).trans hb, hcol⟩
  taken := by
    intro r₀ hr₀
    have hi : ∀ result, s.stage i = .returned result → result.valid = false := by
      intro result' hr
      rw [hstage] at hr
      cases hr
    have hget : (s.engine.reservations.set r'.reservationId r').get r.reservationId
        = some r₀ := hr₀
    by_cases hid : r.reservationId = r'.reservationId
    · rw [hid, get_set_self, Option.some.injEq] at hget
      subst hget
      refine ⟨?_, hid.symm, i, result, setStage_stage_self .., hresult⟩
      rw [hstored.owner]
      exact Ne.symm hne
    · rw [get_set_of_ne _ hid] at hget
      obtain ⟨hm, hid', k, hk⟩ := h.taken r₀ hget
      exact ⟨hm, hid', k, hk.setStage hi _ _ _⟩

/-- The writes of a call leave the invariant. -/
theorem Inv.stores (h : Inv calls start s) {i : ι} {updated : DailyBudget}
    {r : BudgetReservation} {result : BudgetEvaluationResult}
    (hstage : s.stage i = .storing updated r result) :
    Inv calls start (storeStep calls i updated r result s) := by
  obtain ⟨hstored, hresult⟩ := h.pending i updated r result hstage
  have hother : ∀ j u r₁ result₁,
      (storeStep calls i updated r result s).stage j = .storing u r₁ result₁ →
        j ≠ i ∧ s.stage j = .storing u r₁ result₁ := by
    intro j u r₁ result₁ hj
    by_cases hji : j = i
    · subst hji
      rw [storeStep, setStage_stage_self] at hj
      cases hj
    · rw [storeStep, setStage_stage_of_ne _ _ hji] at hj
      exact ⟨hji, hj⟩
  refine ⟨?_, ?_, ?_⟩
  · intro id r₀ hr₀
    have hne : id ≠ r.reservationId := by
      rintro rfl
      rw [hstored.new] at hr₀
      cases hr₀
    exact (get_set_of_ne _ hne _).trans (h.earlier id r₀ hr₀)
  · intro j k u r₁ result₁ u' r₂ result₂ hj hk
    exact h.exclusive j k _ _ _ _ _ _ (hother _ _ _ _ hj).2 (hother _ _ _ _ hk).2
  · intro j u r₁ result₁ hj
    obtain ⟨hji, hj'⟩ := hother j u r₁ result₁ hj
    obtain ⟨hpend, hres⟩ := h.pending j u r₁ result₁ hj'
    refine ⟨hpend.storeStep hstage hstored hresult ?_, hres⟩
    intro heq
    exact hji (h.exclusive j i _ _ _ _ _ _ hj' hstage heq)

theorem Inv.step (h : Inv calls start s) (i : ι) :
    Inv calls start (ReserveRace.step calls s i).2 := by
  have hmoves := step_moves calls s i
  generalize (ReserveRace.step calls s i).2 = s' at hmoves
  cases hmoves with
  | stays => exact h
  | answers hstage hplan => exact h.answers hstage hplan
  | reads hstage hfree hplan => exact h.reads hstage hfree hplan
  | stores hstage => exact h.stores hstage

/-- **The invariant holds in every state of a race.** -/
theorem exec_inv (calls : ι → ReserveRequest) (start : BudgetEngine) (schedule : List ι) :
    Inv calls start (exec (step calls) (before start) schedule) :=
  Runs.exec_inv (I := Inv calls start) (fun _ i h => h.step i) (before_inv calls start) schedule

/-! ## Nothing is lost -/

/-- No reservation is lost and the totals stay equal: the reservations of
    before are there, every call that returned success has its own in the
    store, and the reserved column of each mandate exceeds the sum of its
    RESERVED reservations by no more or less than before. -/
structure Kept (start : BudgetEngine) (s : ReserveRace ι) : Prop where
  earlier : ∀ id r, start.reservations.get id = some r →
    s.engine.reservations.get id = some r
  stored  : ∀ i result, s.stage i = .returned result → result.valid = true →
    ∃ r, result.reservation = some r ∧ s.engine.reservations.get r.reservationId = some r
  totals  : ∀ m, slack s.engine m = slack start m

def WritesFresh (c : Step (ReserveRace ι) ι Unit) : Prop :=
  ∀ updated r result, c.pre.stage c.act = .storing updated r result →
    c.pre.engine.reservations.get r.reservationId = none

omit [DecidableEq ι] in
theorem before_kept (start : BudgetEngine) : Kept start (before start : ReserveRace ι) where
  earlier := by
    intro id r h
    exact h
  stored := by
    intro i result h
    cases h
  totals := by
    intro m
    rfl

/-- A step that changes no store and gives no success loses nothing. -/
theorem Kept.setStage (h : Kept start s) {i : ι} {stage : Stage} (held : List String)
    (hfail : ∀ result, stage = .returned result → result.valid = false) :
    Kept start (ReserveRace.setStage { s with held := held } i stage) where
  earlier := h.earlier
  stored := by
    intro j result hj hv
    by_cases hji : j = i
    · rw [hji, setStage_stage_self] at hj
      rw [hfail result hj] at hv
      cases hv
    · rw [setStage_stage_of_ne _ _ hji] at hj
      exact h.stored j result hj hv
  totals := h.totals

/-- A write under an identifier that is free loses nothing. -/
theorem Kept.stores (h : Kept start s) (hinv : Inv calls start s) {i : ι}
    {updated : DailyBudget} {r : BudgetReservation} {result : BudgetEvaluationResult}
    (hstage : s.stage i = .storing updated r result)
    (hfresh : s.engine.reservations.get r.reservationId = none) :
    Kept start (storeStep calls i updated r result s) := by
  obtain ⟨hpend, hresult⟩ := hinv.pending i updated r result hstage
  obtain ⟨b, hb, hcolumn⟩ := hpend.column
  have hkeep : ∀ id r₀, s.engine.reservations.get id = some r₀ →
      (s.engine.reservations.set r.reservationId r).get id = some r₀ := by
    intro id r₀ hr₀
    have hne : id ≠ r.reservationId := by
      rintro rfl
      rw [hfresh] at hr₀
      cases hr₀
    exact (get_set_of_ne _ hne _).trans hr₀
  refine ⟨fun id r₀ hr₀ => hkeep id r₀ (h.earlier id r₀ hr₀), ?_, ?_⟩
  · intro j result' hj hv
    by_cases hji : j = i
    · subst hji
      rw [storeStep, setStage_stage_self] at hj
      rw [← Stage.returned.inj hj]
      exact ⟨r, hresult.2, get_set_self ..⟩
    · rw [storeStep, setStage_stage_of_ne _ _ hji] at hj
      obtain ⟨r', hr', hget⟩ := h.stored j result' hj hv
      exact ⟨r', hr', hkeep _ r' hget⟩
  · intro m
    rw [← h.totals m]
    refine slack_set hb hcolumn ?_ ?_ m
    · rw [total_set_new _ _ hfresh, heldShare, if_pos ⟨hpend.owner, hpend.reserved⟩]
    · intro m' hne
      rw [total_set_new _ _ hfresh, heldShare_of_ne hpend.owner hne, add_zero]

theorem Kept.step (h : Kept start s) (hinv : Inv calls start s) {i : ι}
    (hfresh : WritesFresh (stepAt (ReserveRace.step calls) s i)) :
    Kept start (ReserveRace.step calls s i).2 := by
  have hmoves := step_moves calls s i
  generalize (ReserveRace.step calls s i).2 = s' at hmoves
  cases hmoves with
  | stays => exact h
  | answers hstage hplan hfail => exact h.setStage s.held hfail
  | reads hstage hfree hplan =>
      refine h.setStage _ ?_
      intro result hr
      cases hr
  | stores hstage => exact h.stores hinv hstage (hfresh _ _ _ hstage)

theorem not_kept_of_overwrite (hinv : Inv calls start s) {i : ι} {updated : DailyBudget}
    {r r' : BudgetReservation} {result : BudgetEvaluationResult}
    (hstage : s.stage i = .storing updated r result)
    (htaken : s.engine.reservations.get r.reservationId = some r') :
    ¬ Kept start (ReserveRace.step calls s i).2 := by
  have hstep : (ReserveRace.step calls s i).2 = storeStep calls i updated r result s := by
    rw [step, hstage]
  rw [hstep]
  intro hkept
  obtain ⟨hpend, -⟩ := hinv.pending i updated r result hstage
  obtain ⟨hm, hid, j, hj⟩ := hpend.taken r' htaken
  have hi : ∀ result, s.stage i = .returned result → result.valid = false := by
    intro result' hr
    rw [hstage] at hr
    cases hr
  obtain ⟨result', hstage', hv, hr'⟩ :=
    hj.setStage hi (s.held.erase (calls i).mandateId)
      ⟨s.engine.budgets.set (calls i).mandateId updated,
        s.engine.reservations.set r.reservationId r⟩ (.returned result)
  obtain ⟨r₀, hr₀, hget⟩ := hkept.stored j result' hstage' hv
  obtain rfl : r' = r₀ := Option.some.inj (hr'.symm.trans hr₀)
  have hself : (s.engine.reservations.set r.reservationId r).get r'.reservationId = some r' :=
    hget
  rw [hid, get_set_self, Option.some.injEq] at hself
  rw [← hself] at hm
  exact hm hpend.owner

/-- **A race of reservations loses nothing iff no call writes over a
    reservation stored since its own lookup.** -/
theorem race_keeps_iff (calls : ι → ReserveRequest) (start : BudgetEngine)
    (schedule : List ι) :
    (∀ l, l <+: schedule → Kept start (exec (step calls) (before start) l))
      ↔ ∀ c ∈ steps (step calls) (before start) schedule, WritesFresh c := by
  constructor
  · intro h c hc updated r result hstage
    obtain ⟨l, i, rest, rfl, rfl⟩ := mem_steps_iff.mp hc
    cases htaken : (stepAt (step calls) (exec (step calls) (before start) l)
        i).pre.engine.reservations.get r.reservationId with
    | none => rfl
    | some r' =>
        have hkept := h (l ++ [i]) ⟨rest, by simp⟩
        rw [exec_append] at hkept
        exact absurd hkept (not_kept_of_overwrite (exec_inv calls start l) hstage htaken)
  · rintro h l ⟨rest, rfl⟩
    have hfresh : ∀ c ∈ steps (step calls) (before start) l, WritesFresh c := by
      intro c hc
      refine h c ?_
      rw [steps_append]
      exact List.mem_append_left _ hc
    have hboth : Inv calls start (exec (step calls) (before start) l)
        ∧ Kept start (exec (step calls) (before start) l) := by
      refine exec_inv_of_steps (I := fun s => Inv calls start s ∧ Kept start s)
        (P := WritesFresh) ?_ ⟨before_inv calls start, before_kept start⟩ hfresh
      rintro s i ⟨hinv, hkept⟩ hwrites
      exact ⟨hinv.step i, hkept.step hinv hwrites⟩
    exact hboth.2

/-- Two mandates with room for a purchase each. -/
def twoMandates : BudgetEngine :=
  let env : Ambient := ⟨1709210096000000, "budget-1"⟩
  exec BudgetEngine.call new
    [.register env "mandate-1" 1000 .inr none 0 0, .register env "mandate-2" 1000 .inr none 0 0]

/-- A reservation on each of them, both under the identifier `res-1`. -/
def sameId : Bool → ReserveRequest
  | false =>
      { env := ⟨1709210096000000, "uuid-1"⟩, mandateId := "mandate-1", transactionId := "tx-1"
        amountPaise := 400, currency := .inr, reservationId := some "res-1", ttlSeconds := 300
        at? := none }
  | true =>
      { env := ⟨1709210096000000, "uuid-2"⟩, mandateId := "mandate-2", transactionId := "tx-2"
        amountPaise := 700, currency := .inr, reservationId := some "res-1", ttlSeconds := 300
        at? := none }

/-- Both look before either stores. -/
def bothLookFirst : List Bool := [false, true, false, true]

/-- The reserved columns, what is reserved, and the owner of `res-1`. -/
def raceOutcome (s : ReserveRace Bool) : List (Option Int) × Option String :=
  ([slack s.engine "mandate-1", slack s.engine "mandate-2"],
    (s.engine.reservations.get "res-1").map BudgetReservation.mandateId)

theorem sameId_overwritten :
    (sameId false).mandateId ≠ (sameId true).mandateId
    ∧ raceOutcome (exec (step sameId) (before twoMandates) bothLookFirst)
        = ([some 400, some 0], some "mandate-2")
    ∧ ¬ Kept twoMandates (exec (step sameId) (before twoMandates) bothLookFirst) := by
  have houtcome : raceOutcome (exec (step sameId) (before twoMandates) bothLookFirst)
      = ([some 400, some 0], some "mandate-2") := by decide +kernel
  refine ⟨by decide, houtcome, ?_⟩
  intro h
  -- 400 of `mandate-1` are reserved with no reservation left for them
  have hslack := h.totals "mandate-1"
  have hstart : slack twoMandates "mandate-1" = some 0 := by decide
  have hend := (List.cons.inj (Prod.mk.inj houtcome).1).1
  rw [hend, hstart, Option.some.injEq] at hslack
  omega

end ReserveRace

end MandateGateway
