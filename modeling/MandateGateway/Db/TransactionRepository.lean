import MandateGateway.Db.Session
import MandateGateway.Lib.Exceptions

/-! # The transaction repository

    State transitions and provider outcomes on the stored transaction rows.
    Every operation first looks its row up and raises when it is missing. -/

namespace MandateGateway

open Exceptions Raising

/-- `TransactionStateError(current, target)`, whose text is that of the pair. -/
def illegalTransition (current target : TransactionState) : PyError :=
  .transactionStateError
    (s!"(<TransactionState.{current.value}: '{current.value}'>, "
      ++ s!"<TransactionState.{target.value}: '{target.value}'>)")

/-- `TransactionState(text)`, as it raises. -/
def parseState (text : String) : Except PyError TransactionState :=
  match TransactionState.ofValue text with
  | some s => .ok s
  | none => .error (.valueError s!"{Text.quoted text} is not a valid TransactionState")

def checkTransition (stored : String) (target : TransactionState) : Except PyError Unit :=
  match parseState stored with
  | .error err => .error err
  | .ok current =>
      if current.isTerminal then .error (illegalTransition current target)
      else if current.canTransitionTo target = false then
        .error (illegalTransition current target)
      else .ok ()

namespace TransactionRepository

def getTransaction (transactionId : String) : DbAction (Option TransactionRow) :=
  DbAction.query fun db => db.transactions.get transactionId

/-- An update of a row, which stamps `updated_at` when it changes the row. -/
def stamped (env : DbEnv) (f : TransactionRow → TransactionRow) (r : TransactionRow) :
    TransactionRow :=
  if f r = r then r else { f r with updatedAt := env.now }

variable {env : DbEnv} {t : String} {f : TransactionRow → TransactionRow} {db : Database}
  {uow uow' : UnitOfWork} {row : TransactionRow} {current target : TransactionState}

theorem stamped_transactionId (hf : ∀ r, (f r).transactionId = r.transactionId)
    (r : TransactionRow) : (stamped env f r).transactionId = r.transactionId := by
  rw [stamped]
  by_cases h : f r = r
  · rw [if_pos h]
  · rw [if_neg h]
    exact hf r

/-- The database after an update of the row with this identifier. -/
def updated (env : DbEnv) (transactionId : String) (f : TransactionRow → TransactionRow)
    (hf : ∀ r, (f r).transactionId = r.transactionId) (db : Database) : Database :=
  { db with
    transactions := db.transactions.modify transactionId (stamped env f)
      (stamped_transactionId hf) }

def update (env : DbEnv) (transactionId : String) (f : TransactionRow → TransactionRow)
    (hf : ∀ r, (f r).transactionId = r.transactionId) : DbAction Unit :=
  DbAction.write (updated env transactionId f hf)

/-- `lock_transaction_for_update`, and the error of a missing row. -/
def lockTransaction (transactionId : String) : DbAction TransactionRow := do
  match ← getTransaction transactionId with
  | none => raise (.valueError s!"Transaction '{transactionId}' not found.")
  | some row => pure row

def setState (target : TransactionState) (r : TransactionRow) : TransactionRow :=
  { r with state := target.value }

theorem setState_transactionId (target : TransactionState) (r : TransactionRow) :
    (setState target r).transactionId = r.transactionId :=
  rfl

def transitionTransactionState (env : DbEnv) (transactionId : String)
    (target : TransactionState) : DbAction Unit := do
  let row ← lockTransaction transactionId
  ofExcept (checkTransition row.state target)
  update env transactionId (setState target) fun _ => rfl

def markProviderDispatchStarted (env : DbEnv) (transactionId : String) : DbAction Unit := do
  transitionTransactionState env transactionId .executing
  update env transactionId (fun r => { r with providerStatus := some "DISPATCHED" })
    fun _ => rfl

def settledState (providerStatus : String) : Option TransactionState :=
  let upper := Text.upperAscii providerStatus
  if upper ∈ ["SUCCESS", "CAPTURED", "PAID"] then some .success
  else if upper ∈ ["FAILURE", "FAILED", "DECLINED"] then some .failure
  else none

def recordProviderOutcome (env : DbEnv) (transactionId providerStatus : String)
    (providerPaymentId : Option String) : DbAction Unit := do
  let _ ← lockTransaction transactionId
  update env transactionId
    (fun r => { r with
      providerPaymentId := providerPaymentId.or r.providerPaymentId
      providerStatus := some providerStatus })
    fun _ => rfl
  match settledState providerStatus with
  | some target => transitionTransactionState env transactionId target
  | none => pure ()

/-! ## When an operation returns -/

theorem update_apply (env : DbEnv) {hf : ∀ r, (f r).transactionId = r.transactionId} :
    update env t f hf uow = (.ok (), { uow with session := updated env t f hf uow.session }) :=
  rfl

theorem get_updated (env : DbEnv) (f : TransactionRow → TransactionRow)
    (hf : ∀ r, (f r).transactionId = r.transactionId) (h : db.transactions.get t = some row) :
    (updated env t f hf db).transactions.get t = some (stamped env f row) :=
  Table.get_modify_self (stamped_transactionId hf) h

theorem get_updated_of_ne (env : DbEnv) {t t' : String} (f : TransactionRow → TransactionRow)
    (hf : ∀ r, (f r).transactionId = r.transactionId) (db : Database) (hne : t' ≠ t) :
    (updated env t f hf db).transactions.get t' = db.transactions.get t' :=
  Table.get_modify_of_ne (stamped_transactionId hf) hne

theorem stamped_state (r : TransactionRow) : (stamped env f r).state = (f r).state := by
  rw [stamped]
  by_cases h : f r = r
  · rw [if_pos h, h]
  · rw [if_neg h]

theorem getTransaction_of_eq {found : Option TransactionRow}
    (h : uow.session.transactions.get t = found) : getTransaction t uow = (.ok found, uow) := by
  rw [← h]
  rfl

theorem lockTransaction_eq_ok_iff :
    lockTransaction t uow = (.ok row, uow')
      ↔ uow.session.transactions.get t = some row ∧ uow' = uow := by
  rw [lockTransaction, bind_of_ok (getTransaction_of_eq rfl)]
  cases uow.session.transactions.get t with
  | none =>
      constructor
      · intro h
        exact nomatch (Prod.mk.inj h).1
      · rintro ⟨h, -⟩
        cases h
  | some r =>
      constructor
      · intro h
        obtain ⟨hr, rfl⟩ := Prod.mk.inj h
        exact ⟨congrArg some (Except.ok.inj hr), rfl⟩
      · rintro ⟨hr, rfl⟩
        obtain rfl := Option.some.inj hr
        rfl

theorem lockTransaction_of_missing (h : uow.session.transactions.get t = none) :
    lockTransaction t uow = (.error (.valueError s!"Transaction '{t}' not found."), uow) := by
  rw [lockTransaction, bind_of_ok (getTransaction_of_eq h)]
  rfl

theorem checkTransition_eq_ok_iff {stored : String} :
    checkTransition stored target = .ok ()
      ↔ ∃ current : TransactionState, stored = current.value ∧ current.isTerminal = false
        ∧ current.canTransitionTo target = true := by
  rw [checkTransition, parseState]
  cases hparse : TransactionState.ofValue stored with
  | none =>
      constructor
      · intro h
        cases h
      · rintro ⟨current, hstored, -⟩
        rw [TransactionState.ofValue_eq_some_iff.mpr hstored] at hparse
        cases hparse
  | some current =>
      obtain rfl := TransactionState.ofValue_eq_some_iff.mp hparse
      dsimp only
      rw [guard_eq_ok_iff, guard_eq_ok_iff, Bool.not_eq_true, Bool.not_eq_false]
      constructor
      · rintro ⟨hterminal, hlegal, -⟩
        exact ⟨current, rfl, hterminal, hlegal⟩
      · rintro ⟨current', hvalue, hterminal, hlegal⟩
        rw [hvalue, TransactionState.ofValue_value] at hparse
        obtain rfl := Option.some.inj hparse
        exact ⟨hterminal, hlegal, rfl⟩

def StoredIn (t : String) (state : TransactionState) (uow : UnitOfWork) : Prop :=
  ∃ row, uow.session.transactions.get t = some row ∧ row.state = state.value

theorem StoredIn.of_transactions_eq {state : TransactionState} (h : StoredIn t state uow)
    (heq : uow'.session.transactions = uow.session.transactions) : StoredIn t state uow' := by
  rw [StoredIn, heq]
  exact h

/-- **A transition returns exactly for a stored transaction that can make it.** -/
theorem transitionTransactionState_eq_ok_iff :
    transitionTransactionState env t target uow = (.ok (), uow')
      ↔ (∃ row, uow.session.transactions.get t = some row
          ∧ checkTransition row.state target = .ok ())
        ∧ update env t (setState target) (fun _ => rfl) uow = (.ok (), uow') := by
  rw [transitionTransactionState, bind_eq_ok_iff]
  constructor
  · rintro ⟨row, uow₁, hlock, hrest⟩
    obtain ⟨hrow, rfl⟩ := lockTransaction_eq_ok_iff.mp hlock
    obtain ⟨u, uow₂, hcheck, hupdate⟩ := bind_eq_ok_iff.mp hrest
    obtain ⟨hok, rfl⟩ := ofExcept_eq_ok_iff.mp hcheck
    exact ⟨⟨row, hrow, hok⟩, hupdate⟩
  · rintro ⟨⟨row, hrow, hcheck⟩, hupdate⟩
    refine ⟨row, uow, lockTransaction_eq_ok_iff.mpr ⟨hrow, rfl⟩, ?_⟩
    exact bind_eq_ok_iff.mpr ⟨(), uow, ofExcept_eq_ok_iff.mpr ⟨hcheck, rfl⟩, hupdate⟩

theorem transition_returns {P : UnitOfWork → Prop} :
    Returns P (transitionTransactionState env t target) fun _ => StoredIn t target := by
  intro uow u uow' _ h
  obtain ⟨⟨row, hrow, -⟩, hupdate⟩ := transitionTransactionState_eq_ok_iff.mp h
  obtain ⟨-, rfl⟩ := Prod.mk.inj (hupdate.symm.trans (update_apply env))
  have hstate : (stamped env (setState target) row).state = target.value := stamped_state row
  exact ⟨_, get_updated env (setState target) (fun _ => rfl) hrow, hstate⟩

theorem checkTransition_executing_iff {stored : String} :
    checkTransition stored .executing = .ok () ↔ stored = "AUTHORIZED" := by
  rw [checkTransition_eq_ok_iff]
  constructor
  · rintro ⟨current, rfl, -, hlegal⟩
    cases current with
    | authorized => rfl
    | draft | proposed | validating | rejected | stepUpRequired | userApproved | reserved
    | executing | success | failure | committed | rolledBack | completed | receipt | expired
    | consumed => exact absurd hlegal (by decide)
  · rintro rfl
    exact ⟨.authorized, rfl, rfl, rfl⟩

/-- The database after the claim of the EXECUTING state. -/
def dispatchStarted (env : DbEnv) (t : String) (db : Database) : Database :=
  updated env t (fun r => { r with providerStatus := some "DISPATCHED" }) (fun _ => rfl)
    (updated env t (setState .executing) (fun _ => rfl) db)

/-- **The EXECUTING state is claimed exactly from an AUTHORIZED transaction.** -/
theorem markProviderDispatchStarted_eq_ok_iff :
    markProviderDispatchStarted env t uow = (.ok (), uow')
      ↔ StoredIn t .authorized uow
        ∧ uow' = { uow with session := dispatchStarted env t uow.session } := by
  rw [markProviderDispatchStarted, bind_eq_ok_iff]
  constructor
  · rintro ⟨u, uow₁, htransition, hupdate⟩
    obtain ⟨⟨row, hrow, hcheck⟩, hfirst⟩ := transitionTransactionState_eq_ok_iff.mp htransition
    obtain ⟨-, rfl⟩ := Prod.mk.inj (hfirst.symm.trans (update_apply env))
    obtain ⟨-, rfl⟩ := Prod.mk.inj (hupdate.symm.trans (update_apply env))
    exact ⟨⟨row, hrow, checkTransition_executing_iff.mp hcheck⟩, rfl⟩
  · rintro ⟨⟨row, hrow, hstate⟩, rfl⟩
    have htransition := transitionTransactionState_eq_ok_iff.mpr
      ⟨⟨row, hrow, checkTransition_executing_iff.mpr hstate⟩, update_apply env⟩
    exact ⟨(), _, htransition, update_apply env⟩

theorem get_dispatchStarted (env : DbEnv) (h : db.transactions.get t = some row) :
    ∃ row', (dispatchStarted env t db).transactions.get t = some row'
      ∧ row'.state = "EXECUTING" := by
  have hfirst := get_updated env (setState .executing) (fun _ => rfl) h
  have hsecond := get_updated env
    (fun r => { r with providerStatus := some "DISPATCHED" }) (fun _ => rfl) hfirst
  refine ⟨_, hsecond, ?_⟩
  rw [stamped_state]
  exact stamped_state row

/-! ## What an operation does to a stored transaction -/

def moved (env : DbEnv) (t : String) (target : TransactionState) (db : Database) : Database :=
  updated env t (setState target) (fun _ => rfl) db

def noteOutcome (status : String) (ref : Option String) (r : TransactionRow) : TransactionRow :=
  { r with
    providerPaymentId := ref.or r.providerPaymentId
    providerStatus := some status }

/-- The database after a provider outcome, before the transition it leads to. -/
def outcomeNoted (env : DbEnv) (t status : String) (ref : Option String) (db : Database) :
    Database :=
  updated env t (noteOutcome status ref) (fun _ => rfl) db

theorem StoredIn.moved (h : StoredIn t current uow) (env : DbEnv) (target : TransactionState) :
    StoredIn t target { uow with session := moved env t target uow.session } := by
  obtain ⟨row, hrow, -⟩ := h
  have hstate : (stamped env (setState target) row).state = target.value := stamped_state row
  exact ⟨_, get_updated env (setState target) (fun _ => rfl) hrow, hstate⟩

theorem StoredIn.outcomeNoted (h : StoredIn t current uow) (env : DbEnv) (status : String)
    (ref : Option String) :
    StoredIn t current { uow with session := outcomeNoted env t status ref uow.session } := by
  obtain ⟨row, hrow, hstate⟩ := h
  have hnoted : (stamped env (noteOutcome status ref) row).state = row.state := stamped_state row
  exact ⟨_, get_updated env (noteOutcome status ref) (fun _ => rfl) hrow, hnoted.trans hstate⟩

theorem checkTransition_of_legal (hlive : current.isTerminal = false)
    (hlegal : target ∈ current.legalNextStates) : checkTransition current.value target = .ok () :=
  checkTransition_eq_ok_iff.mpr ⟨current, rfl, hlive, List.contains_iff_mem.mpr hlegal⟩

theorem checkTransition_of_illegal (h : target ∉ current.legalNextStates) :
    checkTransition current.value target = .error (illegalTransition current target) := by
  rw [checkTransition, parseState, TransactionState.ofValue_value]
  dsimp only
  by_cases hterminal : current.isTerminal = true
  · rw [if_pos hterminal]
  · have hcannot : current.canTransitionTo target = false := by
      rw [← Bool.not_eq_true, TransactionState.canTransitionTo, List.contains_iff_mem]
      exact h
    rw [if_neg hterminal, if_pos hcannot]

/-- **A legal transition of a stored transaction moves its row.** -/
theorem transitionTransactionState_of_legal (h : StoredIn t current uow)
    (hlive : current.isTerminal = false) (hlegal : target ∈ current.legalNextStates) :
    transitionTransactionState env t target uow
      = (.ok (), { uow with session := moved env t target uow.session }) := by
  obtain ⟨row, hrow, hstate⟩ := h
  refine transitionTransactionState_eq_ok_iff.mpr ⟨⟨row, hrow, ?_⟩, rfl⟩
  rw [hstate]
  exact checkTransition_of_legal hlive hlegal

/-- **An illegal transition raises and changes nothing.** -/
theorem transitionTransactionState_of_illegal (h : StoredIn t current uow)
    (hillegal : target ∉ current.legalNextStates) :
    transitionTransactionState env t target uow
      = (.error (illegalTransition current target), uow) := by
  obtain ⟨row, hrow, hstate⟩ := h
  rw [transitionTransactionState, bind_of_ok (lockTransaction_eq_ok_iff.mpr ⟨hrow, rfl⟩), hstate,
    checkTransition_of_illegal hillegal]
  rfl

theorem recordProviderOutcome_of_stored {t status : String} {ref : Option String}
    (h : StoredIn t current uow) :
    recordProviderOutcome env t status ref uow
      = (match settledState status with
        | some target => transitionTransactionState env t target
        | none => pure ()) { uow with session := outcomeNoted env t status ref uow.session } := by
  obtain ⟨row, hrow, -⟩ := h
  rw [recordProviderOutcome, bind_of_ok (lockTransaction_eq_ok_iff.mpr ⟨hrow, rfl⟩)]
  exact bind_of_ok (update_apply env)

theorem recordProviderOutcome_success (h : StoredIn t .executing uow) (env : DbEnv)
    (ref : Option String) :
    recordProviderOutcome env t "SUCCESS" ref uow
      = (.ok (), { uow with
          session := moved env t .success
            (outcomeNoted env t "SUCCESS" ref uow.session) }) := by
  have hsettled : settledState "SUCCESS" = some .success := by decide
  rw [recordProviderOutcome_of_stored h, hsettled]
  exact transitionTransactionState_of_legal (h.outcomeNoted env "SUCCESS" ref) rfl (by decide)

theorem recordProviderOutcome_unknown (h : StoredIn t .executing uow) (env : DbEnv)
    (ref : Option String) :
    recordProviderOutcome env t "UNKNOWN" ref uow
      = (.ok (), { uow with
          session := outcomeNoted env t "UNKNOWN" ref uow.session }) := by
  have hsettled : settledState "UNKNOWN" = none := by decide
  rw [recordProviderOutcome_of_stored h, hsettled]
  rfl

theorem recordProviderOutcome_failed (h : StoredIn t .executing uow) (env : DbEnv)
    (ref : Option String) :
    recordProviderOutcome env t "FAILED" ref uow
      = (.ok (), { uow with
          session := moved env t .failure
            (outcomeNoted env t "FAILED" ref uow.session) }) := by
  have hsettled : settledState "FAILED" = some .failure := by decide
  rw [recordProviderOutcome_of_stored h, hsettled]
  exact transitionTransactionState_of_legal (h.outcomeNoted env "FAILED" ref) rfl (by decide)

theorem stamped_providerStatus (r : TransactionRow) :
    (stamped env f r).providerStatus = (f r).providerStatus := by
  rw [stamped]
  by_cases h : f r = r
  · rw [if_pos h, h]
  · rw [if_neg h]

theorem get_outcomeNoted (env : DbEnv) (status : String) (ref : Option String)
    (h : db.transactions.get t = some row) :
    ∃ row', (outcomeNoted env t status ref db).transactions.get t = some row'
      ∧ row'.state = row.state ∧ row'.providerStatus = some status :=
  ⟨_, get_updated env (noteOutcome status ref) (fun _ => rfl) h, stamped_state row,
    stamped_providerStatus row⟩

/-- The row of a transition. -/
theorem get_moved (env : DbEnv) (target : TransactionState) (h : db.transactions.get t = some row) :
    ∃ row', (moved env t target db).transactions.get t = some row'
      ∧ row'.state = target.value ∧ row'.providerStatus = row.providerStatus :=
  ⟨_, get_updated env (setState target) (fun _ => rfl) h, stamped_state row,
    stamped_providerStatus row⟩

theorem checkTransition_ne_integrityError {stored : String} (message : String) :
    checkTransition stored target ≠ .error (.integrityError message) := by
  intro h
  rw [checkTransition, parseState] at h
  cases hparse : TransactionState.ofValue stored with
  | none =>
      rw [hparse] at h
      cases h
  | some current =>
      rw [hparse] at h
      dsimp only at h
      split at h
      · cases h
      split at h <;> cases h

theorem checkTransition_of_not_executing {stored : String}
    (htarget : target = .success ∨ target = .failure) (h : stored ≠ "EXECUTING") :
    ∃ err, checkTransition stored target = .error err := by
  cases hcheck : checkTransition stored target with
  | error err => exact ⟨err, rfl⟩
  | ok u =>
      exfalso
      obtain ⟨current, rfl, -, hlegal⟩ := checkTransition_eq_ok_iff.mp hcheck
      have hmem := List.contains_iff_mem.mp hlegal
      cases current with
      | executing => exact h rfl
      | draft | proposed | validating | rejected | stepUpRequired | userApproved | reserved
      | authorized | success | failure | committed | rolledBack | completed | receipt | expired
      | consumed => rcases htarget with rfl | rfl <;> exact absurd hmem (by decide)

/-- **An outcome that may not move its row is noted all the same**, and raises. -/
theorem recordProviderOutcome_of_refused {t status : String} {ref : Option String} {err : PyError}
    (hrow : uow.session.transactions.get t = some row)
    (hsettled : settledState status = some target)
    (hrefused : checkTransition row.state target = .error err) :
    recordProviderOutcome env t status ref uow
      = (.error err, { uow with session := outcomeNoted env t status ref uow.session }) := by
  obtain ⟨row', hrow', hstate, -⟩ := get_outcomeNoted env status ref hrow
  let noted : UnitOfWork := { uow with session := outcomeNoted env t status ref uow.session }
  have hread : lockTransaction t noted = (.ok row', noted) :=
    lockTransaction_eq_ok_iff.mpr ⟨hrow', rfl⟩
  have hcheck : checkTransition row'.state target = .error err := by
    rw [hstate]
    exact hrefused
  rw [recordProviderOutcome, bind_of_ok (lockTransaction_eq_ok_iff.mpr ⟨hrow, rfl⟩),
    bind_of_ok (update_apply env), hsettled]
  dsimp only
  rw [transitionTransactionState]
  exact (bind_of_ok hread).trans (bind_of_error (ofExcept_of_eq hcheck noted))

/-! ## What an operation leaves alone -/

/-- Databases that differ in the row of one transaction at most. -/
structure SameBut (t : String) (db db' : Database) : Prop where
  rows     : ∀ t', t' ≠ t → db'.transactions.get t' = db.transactions.get t'
  attempts : db'.executionAttempts = db.executionAttempts
  events   : db'.outboxEvents = db.outboxEvents

theorem SameBut.refl (t : String) (db : Database) : SameBut t db db :=
  ⟨fun _ _ => rfl, rfl, rfl⟩

theorem SameBut.trans {db₁ db₂ db₃ : Database} (h : SameBut t db₁ db₂) (h' : SameBut t db₂ db₃) :
    SameBut t db₁ db₃ :=
  ⟨fun t' hne => (h'.rows t' hne).trans (h.rows t' hne), h'.attempts.trans h.attempts,
    h'.events.trans h.events⟩

theorem sameBut_updated (env : DbEnv) (t : String) (f : TransactionRow → TransactionRow)
    (hf : ∀ r, (f r).transactionId = r.transactionId) (db : Database) :
    SameBut t db (updated env t f hf db) :=
  ⟨fun _ hne => get_updated_of_ne env f hf db hne, rfl, rfl⟩

theorem sameBut_moved (env : DbEnv) (t : String) (target : TransactionState) (db : Database) :
    SameBut t db (moved env t target db) :=
  sameBut_updated env t (setState target) (fun _ => rfl) db

theorem sameBut_outcomeNoted (env : DbEnv) (t status : String) (ref : Option String)
    (db : Database) : SameBut t db (outcomeNoted env t status ref db) :=
  sameBut_updated env t (noteOutcome status ref) (fun _ => rfl) db

/-- **A transition touches the row of its transaction alone**, returned or not. -/
theorem transition_sameBut (env : DbEnv) (t : String) (target : TransactionState)
    (uow : UnitOfWork) :
    SameBut t uow.session (transitionTransactionState env t target uow).2.session := by
  cases hget : uow.session.transactions.get t with
  | none =>
      rw [transitionTransactionState, bind_of_error (lockTransaction_of_missing hget)]
      exact SameBut.refl t _
  | some row =>
      rw [transitionTransactionState, bind_of_ok (lockTransaction_eq_ok_iff.mpr ⟨hget, rfl⟩)]
      cases hcheck : checkTransition row.state target with
      | error err =>
          rw [← hcheck, bind_of_error (ofExcept_of_eq hcheck uow)]
          exact SameBut.refl t _
      | ok u =>
          rw [← hcheck, bind_of_ok (ofExcept_of_eq hcheck uow)]
          exact sameBut_moved env t target uow.session

theorem recordProviderOutcome_sameBut (env : DbEnv) (t status : String) (ref : Option String)
    (uow : UnitOfWork) :
    SameBut t uow.session (recordProviderOutcome env t status ref uow).2.session := by
  cases hget : uow.session.transactions.get t with
  | none =>
      rw [recordProviderOutcome, bind_of_error (lockTransaction_of_missing hget)]
      exact SameBut.refl t _
  | some row =>
      rw [recordProviderOutcome, bind_of_ok (lockTransaction_eq_ok_iff.mpr ⟨hget, rfl⟩),
        bind_of_ok (update_apply env)]
      have hnoted := sameBut_outcomeNoted env t status ref uow.session
      cases settledState status with
      | some target =>
          exact hnoted.trans (transition_sameBut env t target
            { uow with session := outcomeNoted env t status ref uow.session })
      | none => exact hnoted

theorem keeps_of_sameBut {α β : Type} {x : DbAction α} {part : Database → β}
    (hpart : ∀ db db', SameBut t db db' → part db' = part db)
    (hx : ∀ uow, SameBut t uow.session (x uow).2.session) :
    Keeps (fun uow => part uow.session) x := by
  intro uow a uow' hrun
  have hsame := hx uow
  rw [hrun] at hsame
  exact hpart uow.session uow'.session hsame

theorem lockTransaction_fixes_committed (t : String) :
    Fixes UnitOfWork.committed (lockTransaction t) := by
  refine Fixes.bind (fun _ => rfl) fun found => ?_
  cases found with
  | none => exact fun _ => rfl
  | some row => exact fun _ => rfl

theorem transition_fixes_committed (env : DbEnv) (t : String) (target : TransactionState) :
    Fixes UnitOfWork.committed (transitionTransactionState env t target) :=
  Fixes.bind (lockTransaction_fixes_committed t) fun _ =>
    Fixes.bind (Fixes.ofExcept _) fun _ => fun _ => rfl

end TransactionRepository

end MandateGateway
