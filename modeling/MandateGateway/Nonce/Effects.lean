import MandateGateway.Lib.Runs
import MandateGateway.Nonce.Engine

/-! # What the calls of the nonce engine do

    Runs of the engine, and the effect of each step on its store: a nonce is
    issued under a new value, or consumed by a validation that presents it
    rightfully, and nothing else is written.  What the store holds therefore
    tells the past of the run (`Accounted`), from which the guarantees of the
    engine follow. -/

namespace MandateGateway

open Clock Exceptions OrderedMap Runs

/-- A call of the engine, with what the process supplies to it. -/
inductive NonceCall where
  | issue (env : NonceEnv) (mandateId transactionId : String) (ttlSeconds : Int)
      (at? : Option Instant)
  | validate (env : Ambient) (nonceValue mandateId transactionId : String)
      (at? : Option Instant)
deriving DecidableEq

/-- What a call returns or raises. -/
inductive NonceAnswer where
  | issued (result : Except PyError NonceRecord)
  | evaluated (result : NonceEvaluationResult)

namespace NonceEngine

def step (e : NonceEngine) : NonceCall → NonceAnswer × NonceEngine
  | .issue env mandateId transactionId ttlSeconds at? =>
      let (result, e') := issueNonce env mandateId transactionId ttlSeconds at? e
      (.issued result, e')
  | .validate env nonceValue mandateId transactionId at? =>
      let (result, e') := validateAndConsume env nonceValue mandateId transactionId at? e
      (.evaluated result, e')

abbrev CallStep := Step NonceEngine NonceCall NonceAnswer

/-! ## What steps do -/

/-- A generated value is not in use, and has no whitespace around it. -/
def Generates (c : CallStep) : Prop :=
  ∀ env mandateId transactionId ttlSeconds at?,
    c.act = .issue env mandateId transactionId ttlSeconds at? →
      c.pre.records.get env.value = none ∧ Text.strip env.value = env.value

def Issues (mandateId transactionId : String) (record : NonceRecord) (c : CallStep) : Prop :=
  (∃ env ttlSeconds at?, c.act = .issue env mandateId transactionId ttlSeconds at?)
    ∧ c.out = .issued (.ok record)

/-- The step validates a nonce, and accepts it. -/
def accepts (v : String) (c : CallStep) : Bool :=
  match c.act, c.out with
  | .validate _ nonceValue _ _ _, .evaluated r => Text.strip nonceValue == v && r.isAllowed
  | _, _ => false

theorem accepts_issue (v : String) (e : NonceEngine) (env : NonceEnv)
    (mandateId transactionId : String) (ttlSeconds : Int) (at? : Option Instant) :
    accepts v (stepAt step e (.issue env mandateId transactionId ttlSeconds at?)) = false := by
  rw [accepts, stepAt_act]

theorem accepts_validate (v : String) (e : NonceEngine) (env : Ambient)
    (nonceValue mandateId transactionId : String) (at? : Option Instant) :
    accepts v (stepAt step e (.validate env nonceValue mandateId transactionId at?))
      = (Text.strip nonceValue == v
        && (validateAndConsume env nonceValue mandateId transactionId at? e).1.isAllowed) := by
  simp only [accepts, stepAt_act, stepAt_out, step]

theorem post_validate (e : NonceEngine) (env : Ambient)
    (nonceValue mandateId transactionId : String) (at? : Option Instant) :
    (stepAt step e (.validate env nonceValue mandateId transactionId at?)).post
      = (validateAndConsume env nonceValue mandateId transactionId at? e).2 := by
  rw [stepAt_post, step]

theorem out_validate (e : NonceEngine) (env : Ambient)
    (nonceValue mandateId transactionId : String) (at? : Option Instant) :
    (stepAt step e (.validate env nonceValue mandateId transactionId at?)).out
      = .evaluated (validateAndConsume env nonceValue mandateId transactionId at? e).1 := by
  rw [stepAt_out, step]

/-- The step validates a nonce, and does not accept it. -/
def Rejects (c : CallStep) : Prop := ∃ r, c.out = .evaluated r ∧ r.isAllowed = false

/-- A nonce is presented with its bindings, within its time. -/
structure Presents (record : NonceRecord) (mandateId transactionId : String) (t : Instant) :
    Prop where
  mandate     : record.mandateId = Text.strip mandateId
  transaction : record.transactionId = Text.strip transactionId
  started     : record.issuedAt ≤ t
  live        : t < record.expiresAt

/-- The same nonce, whatever became of it. -/
structure SameNonce (a b : NonceRecord) : Prop where
  value       : b.nonceValue = a.nonceValue
  mandate     : b.mandateId = a.mandateId
  transaction : b.transactionId = a.transactionId
  issuedAt    : b.issuedAt = a.issuedAt
  expiresAt   : b.expiresAt = a.expiresAt

theorem SameNonce.refl (a : NonceRecord) : SameNonce a a := ⟨rfl, rfl, rfl, rfl, rfl⟩

theorem SameNonce.trans {a b c : NonceRecord} (h : SameNonce a b) (h' : SameNonce b c) :
    SameNonce a c :=
  ⟨h'.value.trans h.value, h'.mandate.trans h.mandate, h'.transaction.trans h.transaction,
    h'.issuedAt.trans h.issuedAt, h'.expiresAt.trans h.expiresAt⟩

theorem SameNonce.consume (a : NonceRecord) (t : Instant) : SameNonce a (a.consume t) :=
  ⟨rfl, rfl, rfl, rfl, rfl⟩

theorem Presents.of_same {a b : NonceRecord} {mandateId transactionId : String} {t : Instant}
    (h : Presents b mandateId transactionId t) (hsame : SameNonce a b) :
    Presents a mandateId transactionId t where
  mandate := hsame.mandate.symm.trans h.mandate
  transaction := hsame.transaction.symm.trans h.transaction
  started := by
    rw [← hsame.issuedAt]
    exact h.started
  live := by
    rw [← hsame.expiresAt]
    exact h.live

/-- **A stored nonce is refused unless it is presented rightfully and was not
    consumed before.** -/
theorem storedRefusal_eq_none_iff {record : NonceRecord}
    {cleanNonce mandateId transactionId : String} {t : Instant} :
    storedRefusal record cleanNonce mandateId transactionId t = none
      ↔ record.state = .issued ∧ Presents record mandateId transactionId t := by
  have hissued : ¬ record.state = .consumed ↔ record.state = .issued := by
    cases record.state <;> decide
  rw [storedRefusal]
  simp only [Option.orElse_eq_none, nonceBindingRefusal, nonceConsumedRefusal, nonceFutureRefusal,
    nonceExpiryRefusal, check_eq_none_iff, not_or, not_not, hissued, Int.not_lt, Int.not_le,
    and_true]
  constructor
  · rintro ⟨⟨hmandate, htransaction⟩, hstate, hstarted, hlive⟩
    exact ⟨hstate, hmandate, htransaction, hstarted, hlive⟩
  · rintro ⟨hstate, h⟩
    exact ⟨⟨h.mandate, h.transaction⟩, hstate, h.started, h.live⟩

section
variable (env : Ambient) (nonceValue mandateId transactionId : String) (at? : Option Instant)
  (e : NonceEngine)

variable {env nonceValue mandateId transactionId at? e} in
theorem validate_accepted {record : NonceRecord} (hne : Text.strip nonceValue ≠ "")
    (hget : e.records.get (Text.strip nonceValue) = some record)
    (hissued : record.state = .issued)
    (h : Presents record mandateId transactionId (env.time at?)) :
    validateAndConsume env nonceValue mandateId transactionId at? e
      = (acceptedNonce (Text.strip nonceValue) mandateId transactionId
          (record.consume (env.time at?)) (env.time at?),
        ⟨e.records.set (Text.strip nonceValue) (record.consume (env.time at?))⟩) := by
  have hrefusal : storedRefusal record (Text.strip nonceValue) mandateId transactionId
      (env.time at?) = none := storedRefusal_eq_none_iff.mpr ⟨hissued, h⟩
  rw [validateAndConsume]
  simp only [if_neg hne, hget, hrefusal]

/-- **A validation accepts a nonce that is presented rightfully, or leaves the
    store unchanged.** -/
theorem validate_cases :
    ((validateAndConsume env nonceValue mandateId transactionId at? e).1.isAllowed = false
        ∧ (validateAndConsume env nonceValue mandateId transactionId at? e).2 = e)
      ∨ ∃ record, e.records.get (Text.strip nonceValue) = some record
        ∧ record.state = .issued ∧ Presents record mandateId transactionId (env.time at?)
        ∧ (validateAndConsume env nonceValue mandateId transactionId at? e).1.isAllowed = true
        ∧ (validateAndConsume env nonceValue mandateId transactionId at? e).2
          = ⟨e.records.set (Text.strip nonceValue) (record.consume (env.time at?))⟩ := by
  rw [validateAndConsume]
  by_cases hne : Text.strip nonceValue = ""
  · simp only [if_pos hne]
    exact .inl ⟨rfl, trivial⟩
  · simp only [if_neg hne]
    cases hget : e.records.get (Text.strip nonceValue) with
    | none => exact .inl ⟨rfl, rfl⟩
    | some record =>
        cases hrefusal : storedRefusal record (Text.strip nonceValue) mandateId transactionId
            (env.time at?) with
        | some refusal => exact .inl ⟨by simp only [hrefusal]; rfl, by simp only [hrefusal]⟩
        | none =>
            obtain ⟨hissued, hpresents⟩ := storedRefusal_eq_none_iff.mp hrefusal
            exact .inr ⟨record, rfl, hissued, hpresents, by simp only [hrefusal]; rfl,
              by simp only [hrefusal]⟩

end

/-- **An issuance stores the nonce it returns, or leaves the store unchanged.** -/
theorem issue_cases (env : NonceEnv) (mandateId transactionId : String) (ttlSeconds : Int)
    (at? : Option Instant) (e : NonceEngine) :
    (∃ err, issueNonce env mandateId transactionId ttlSeconds at? e = (.error err, e))
      ∨ ∃ record, issueNonce env mandateId transactionId ttlSeconds at? e
          = (.ok record, ⟨e.records.set env.value record⟩)
        ∧ record.nonceValue = env.value ∧ record.mandateId = Text.strip mandateId
        ∧ record.transactionId = Text.strip transactionId ∧ record.state = .issued := by
  rw [issueNonce]
  by_cases hmandate : Text.strip mandateId = ""
  · exact .inl ⟨_, if_pos hmandate⟩
  · rw [if_neg hmandate]
    by_cases htransaction : Text.strip transactionId = ""
    · exact .inl ⟨_, if_pos htransaction⟩
    · rw [if_neg htransaction]
      cases hexpires : addSeconds (env.ambient.time at?) ttlSeconds with
      | none => exact .inl ⟨.timestampOutOfRange, by simp only [hexpires]⟩
      | some expiresTime =>
          cases hbuild : NonceRecord.build env.ambient.uuid env.value (Text.strip transactionId)
              (Text.strip mandateId) .issued (env.ambient.time at?) expiresTime none with
          | error err => exact .inl ⟨err, by simp only [hexpires, hbuild]⟩
          | ok record =>
              obtain ⟨hvalue, htx, hm, hstate, -⟩ := NonceRecord.build_eq_ok hbuild
              exact .inr ⟨record, by simp only [hexpires, hbuild], hvalue, hm, htx, hstate⟩

/-- What a step does to the store. -/
inductive Effect (c : CallStep) : Prop
  | unchanged (hpost : c.post = c.pre) (hno : ∀ v, accepts v c = false)
      (hnone : ∀ mandateId transactionId record, ¬ Issues mandateId transactionId record c)
  | issued (mandateId transactionId : String) (record : NonceRecord)
      (hissues : Issues mandateId transactionId record c)
      (hmandate : record.mandateId = Text.strip mandateId)
      (htransaction : record.transactionId = Text.strip transactionId)
      (hstate : record.state = .issued)
      (hfree : c.pre.records.get record.nonceValue = none)
      (hclean : Text.strip record.nonceValue = record.nonceValue)
      (hpost : c.post.records = c.pre.records.set record.nonceValue record)
  | consumed (v : String) (record : NonceRecord) (t : Instant)
      (hget : c.pre.records.get v = some record) (hissued : record.state = .issued)
      (haccepts : ∀ v', accepts v' c = true ↔ v' = v)
      (hnone : ∀ mandateId transactionId record, ¬ Issues mandateId transactionId record c)
      (hpost : c.post.records = c.pre.records.set v (record.consume t))

section
variable {e : NonceEngine}

theorem issue_effect {env : NonceEnv} {mandateId transactionId : String} {ttlSeconds : Int}
    {at? : Option Instant}
    (h : Generates (stepAt step e (.issue env mandateId transactionId ttlSeconds at?))) :
    Effect (stepAt step e (.issue env mandateId transactionId ttlSeconds at?)) := by
  obtain ⟨hfree, hclean⟩ := h env mandateId transactionId ttlSeconds at? rfl
  rcases issue_cases env mandateId transactionId ttlSeconds at? e with
    ⟨err, hcall⟩ | ⟨record, hcall, hvalue, hmandate, htransaction, hstate⟩
  · have hstep : step e (.issue env mandateId transactionId ttlSeconds at?)
        = (.issued (.error err), e) := by
      rw [step, hcall]
    refine .unchanged (by rw [stepAt_post, stepAt_pre, hstep])
      (fun v => accepts_issue v e env mandateId transactionId ttlSeconds at?) ?_
    rintro m tx record ⟨-, hout⟩
    rw [stepAt_out, hstep] at hout
    cases NonceAnswer.issued.inj hout
  · have hstep : step e (.issue env mandateId transactionId ttlSeconds at?)
        = (.issued (.ok record), ⟨e.records.set env.value record⟩) := by
      rw [step, hcall]
    rw [← hvalue] at hfree hclean
    refine .issued mandateId transactionId record ⟨⟨env, ttlSeconds, at?, stepAt_act _ _⟩, ?_⟩
      hmandate htransaction hstate hfree hclean ?_
    · rw [stepAt_out, hstep]
    · rw [stepAt_post, stepAt_pre, hstep, hvalue]

theorem validate_effect {env : Ambient} {nonceValue mandateId transactionId : String}
    {at? : Option Instant} :
    Effect (stepAt step e (.validate env nonceValue mandateId transactionId at?)) := by
  have hnone : ∀ m tx record, ¬ Issues m tx record
      (stepAt step e (.validate env nonceValue mandateId transactionId at?)) := by
    rintro m tx record ⟨⟨env', ttl, at', hact⟩, -⟩
    cases hact
  rcases validate_cases env nonceValue mandateId transactionId at? e with
    ⟨hrejected, hpost⟩ | ⟨record, hget, hissued, -, haccepted, hpost⟩
  · refine .unchanged ((post_validate e _ _ _ _ _).trans hpost) ?_ hnone
    intro v
    rw [accepts_validate, hrejected, Bool.and_false]
  · refine .consumed (Text.strip nonceValue) record (env.time at?) hget hissued ?_ hnone ?_
    · intro v
      rw [accepts_validate, haccepted, Bool.and_true, beq_iff_eq, eq_comm]
    · rw [post_validate, hpost, stepAt_pre]

theorem step_effect (e : NonceEngine) (call : NonceCall) (h : Generates (stepAt step e call)) :
    Effect (stepAt step e call) := by
  cases call with
  | issue env mandateId transactionId ttlSeconds at? => exact issue_effect h
  | validate env nonceValue mandateId transactionId at? => exact validate_effect

end

/-! ## Single use -/

def Consumed (v : String) (e : NonceEngine) : Prop :=
  ∃ record, e.records.get v = some record ∧ record.state = .consumed

theorem Effect.consumed_kept {c : CallStep} (h : Effect c) {v : String}
    (hconsumed : Consumed v c.pre) : Consumed v c.post := by
  obtain ⟨record, hget, hstate⟩ := hconsumed
  cases h with
  | unchanged hpost hno hnone =>
      rw [hpost]
      exact ⟨record, hget, hstate⟩
  | issued m tx new hissues hmandate htransaction hnew hfree hclean hpost =>
      have hne : v ≠ new.nonceValue := by
        rintro rfl
        rw [hfree] at hget
        cases hget
      refine ⟨record, ?_, hstate⟩
      rw [hpost, get_set_of_ne _ hne, hget]
  | consumed v' old t hold hissued haccepts hnone hpost =>
      have hne : v ≠ v' := by
        rintro rfl
        rw [hget] at hold
        obtain rfl := Option.some.inj hold
        rw [hstate] at hissued
        cases hissued
      refine ⟨record, ?_, hstate⟩
      rw [hpost, get_set_of_ne _ hne, hget]

theorem Effect.accepted {c : CallStep} (h : Effect c) {v : String} (haccepts : accepts v c = true) :
    (∃ record, c.pre.records.get v = some record ∧ record.state = .issued)
      ∧ Consumed v c.post := by
  cases h with
  | unchanged hpost hno hnone =>
      rw [hno] at haccepts
      cases haccepts
  | issued m tx new hissues =>
      obtain ⟨⟨env, ttl, at?, hact⟩, -⟩ := hissues
      rw [accepts, hact] at haccepts
      cases haccepts
  | consumed v' old t hold hissued hiff hnone hpost =>
      obtain rfl := (hiff v).mp haccepts
      refine ⟨⟨old, hold, hissued⟩, old.consume t, ?_, rfl⟩
      rw [hpost, get_set_self]

/-- **Every nonce is accepted at most once.** -/
theorem countP_accepts_le_one (e : NonceEngine) (calls : List NonceCall) (v : String)
    (h : ∀ c ∈ steps step e calls, Generates c) :
    (steps step e calls).countP (accepts v) ≤ 1 := by
  refine countP_le_one_of_guarded_latch (L := Consumed v) ?_ ?_ ?_ e calls h
  · rintro s a haccepts ⟨record, hget, hstate⟩
    cases a with
    | issue env mandateId transactionId ttlSeconds at? =>
        rw [accepts_issue] at haccepts
        cases haccepts
    | validate env nonceValue mandateId transactionId at? =>
        obtain ⟨⟨old, hold, hissued⟩, -⟩ := validate_effect.accepted haccepts
        rw [stepAt_pre, hget] at hold
        obtain rfl := Option.some.inj hold
        rw [hstate] at hissued
        cases hissued
  · intro s a hP haccepts
    exact ((step_effect s a hP).accepted haccepts).2
  · intro s a hP hconsumed
    exact (step_effect s a hP).consumed_kept hconsumed

/-! ## What the store tells of the past -/

def IssuedIn (past : List CallStep) (v : String) (record : NonceRecord) : Prop :=
  ∃ mandateId transactionId r₀, ∃ c₀ ∈ past, Issues mandateId transactionId r₀ c₀
    ∧ r₀.nonceValue = v ∧ r₀.mandateId = Text.strip mandateId
    ∧ r₀.transactionId = Text.strip transactionId ∧ SameNonce r₀ record

/-- An issued nonce is in the store, and consumed only if the past accepted it. -/
def StoredAfter (past : List CallStep) (r₀ : NonceRecord) (e : NonceEngine) : Prop :=
  Text.strip r₀.nonceValue = r₀.nonceValue ∧ ∃ record, e.records.get r₀.nonceValue = some record
    ∧ SameNonce r₀ record
    ∧ (record.state = .issued ∨ ∃ c ∈ past, accepts r₀.nonceValue c = true)

/-- The store holds what the past issued, and nothing else. -/
structure Accounted (past : List CallStep) (e : NonceEngine) : Prop where
  issued : ∀ v record, e.records.get v = some record → IssuedIn past v record
  stored : ∀ mandateId transactionId r₀, ∀ c₀ ∈ past, Issues mandateId transactionId r₀ c₀ →
    StoredAfter past r₀ e

theorem IssuedIn.snoc {past : List CallStep} {v : String} {record : NonceRecord}
    (h : IssuedIn past v record) (c : CallStep) : IssuedIn (past ++ [c]) v record := by
  obtain ⟨m, tx, r₀, c₀, hc₀, hrest⟩ := h
  exact ⟨m, tx, r₀, c₀, List.mem_append_left _ hc₀, hrest⟩

theorem IssuedIn.of_same {past : List CallStep} {v : String} {record record' : NonceRecord}
    (h : IssuedIn past v record) (hsame : SameNonce record record') :
    IssuedIn past v record' := by
  obtain ⟨m, tx, r₀, c₀, hc₀, hissues, hvalue, hmandate, htransaction, hsame₀⟩ := h
  exact ⟨m, tx, r₀, c₀, hc₀, hissues, hvalue, hmandate, htransaction, hsame₀.trans hsame⟩

/-- **A step extends the past of every stored nonce.** -/
theorem Effect.issuedIn {past : List CallStep} {c : CallStep} (h : Effect c)
    (hpre : ∀ v record, c.pre.records.get v = some record → IssuedIn past v record) :
    ∀ v record, c.post.records.get v = some record → IssuedIn (past ++ [c]) v record := by
  intro v record hget
  cases h with
  | unchanged hpost hno hnone =>
      rw [hpost] at hget
      exact (hpre v record hget).snoc c
  | issued m tx new hissues hmandate htransaction hnew hfree hclean hpost =>
      rw [hpost, get_set] at hget
      by_cases hv : v = new.nonceValue
      · rw [if_pos hv] at hget
        obtain rfl := Option.some.inj hget
        exact ⟨m, tx, new, c, List.mem_append_right _ (List.mem_singleton.mpr rfl), hissues,
          hv.symm, hmandate, htransaction, .refl new⟩
      · rw [if_neg hv] at hget
        exact (hpre v record hget).snoc c
  | consumed v' old t hold hissued haccepts hnone hpost =>
      rw [hpost, get_set] at hget
      by_cases hv : v = v'
      · rw [if_pos hv] at hget
        obtain rfl := Option.some.inj hget
        subst hv
        exact ((hpre v old hold).of_same (.consume old t)).snoc c
      · rw [if_neg hv] at hget
        exact (hpre v record hget).snoc c

/-- **A step keeps every nonce that was issued.** -/
theorem Effect.storedAfter {past : List CallStep} {c : CallStep} (h : Effect c)
    {r₀ : NonceRecord} (hpre : StoredAfter past r₀ c.pre) :
    StoredAfter (past ++ [c]) r₀ c.post := by
  obtain ⟨hclean₀, record, hget, hsame, hstate⟩ := hpre
  have hlater : record.state = .issued ∨ ∃ c' ∈ past ++ [c], accepts r₀.nonceValue c' = true := by
    rcases hstate with hissued | ⟨c', hc', haccepts⟩
    · exact .inl hissued
    · exact .inr ⟨c', List.mem_append_left _ hc', haccepts⟩
  refine ⟨hclean₀, ?_⟩
  cases h with
  | unchanged hpost hno hnone =>
      rw [hpost]
      exact ⟨record, hget, hsame, hlater⟩
  | issued m tx new hissues hmandate htransaction hnew hfree hclean hpost =>
      have hne : r₀.nonceValue ≠ new.nonceValue := by
        intro heq
        rw [heq, hfree] at hget
        cases hget
      exact ⟨record, by rw [hpost, get_set_of_ne _ hne, hget], hsame, hlater⟩
  | consumed v' old t hold hissued haccepts hnone hpost =>
      by_cases hv : r₀.nonceValue = v'
      · subst hv
        obtain rfl := Option.some.inj (hget.symm.trans hold)
        exact ⟨record.consume t, by rw [hpost, get_set_self], hsame.trans (.consume record t),
          .inr ⟨c, List.mem_append_right _ (List.mem_singleton.mpr rfl), (haccepts _).mpr rfl⟩⟩
      · exact ⟨record, by rw [hpost, get_set_of_ne _ hv, hget], hsame, hlater⟩

theorem Effect.storedAfter_self {past : List CallStep} {c : CallStep} (h : Effect c)
    {mandateId transactionId : String} {r₀ : NonceRecord}
    (hissues : Issues mandateId transactionId r₀ c) : StoredAfter (past ++ [c]) r₀ c.post := by
  cases h with
  | unchanged hpost hno hnone => exact absurd hissues (hnone _ _ _)
  | consumed v' old t hold hissued haccepts hnone hpost => exact absurd hissues (hnone _ _ _)
  | issued m tx new hnew hmandate htransaction hstate hfree hclean hpost =>
      obtain rfl : new = r₀ :=
        Except.ok.inj (NonceAnswer.issued.inj (hnew.2.symm.trans hissues.2))
      exact ⟨hclean, new, by rw [hpost, get_set_self], .refl new, .inl hstate⟩

theorem Accounted.step {past : List CallStep} {e : NonceEngine} {call : NonceCall}
    (h : Accounted past e) (hgenerates : Generates (stepAt step e call)) :
    Accounted (past ++ [stepAt step e call]) (step e call).2 := by
  have heffect := step_effect e call hgenerates
  refine ⟨heffect.issuedIn h.issued, ?_⟩
  intro m tx r₀ c₀ hc₀ hissues
  rcases List.mem_append.mp hc₀ with hpast | hlast
  · exact heffect.storedAfter (h.stored m tx r₀ c₀ hpast hissues)
  · obtain rfl := List.mem_singleton.mp hlast
    exact heffect.storedAfter_self hissues

theorem run_accounted {calls : List NonceCall} (h : ∀ c ∈ steps step new calls, Generates c) :
    Accounted (steps step new calls) (exec step new calls) := by
  refine history_inv (H := Accounted) (fun past e call h hP => h.step hP) ?_ h
  refine ⟨?_, ?_⟩
  · intro v record hget
    cases hget
  · intro m tx r₀ c₀ hc₀
    cases hc₀

/-! ## The guarantees of the engine -/

/-- The step presents the nonce to its holder's bindings, within its time. -/
def PresentedTo (mandateId transactionId : String) (record : NonceRecord) (c : CallStep) : Prop :=
  ∃ env nonceValue m tx at?, c.act = .validate env nonceValue m tx at?
    ∧ Text.strip m = Text.strip mandateId ∧ Text.strip tx = Text.strip transactionId
    ∧ record.issuedAt ≤ env.time at? ∧ env.time at? < record.expiresAt

theorem accepted_issued {calls : List NonceCall} {call : NonceCall} {v : String}
    (h : ∀ c ∈ steps step new calls, Generates c)
    (haccepts : accepts v (stepAt step (exec step new calls) call) = true) :
    ∃ mandateId transactionId record, ∃ c₀ ∈ steps step new calls,
      Issues mandateId transactionId record c₀ ∧ record.nonceValue = v
        ∧ PresentedTo mandateId transactionId record (stepAt step (exec step new calls) call) := by
  cases call with
  | issue env mandateId transactionId ttlSeconds at? =>
      rw [accepts_issue] at haccepts
      cases haccepts
  | validate env nonceValue m tx at? =>
      rw [accepts_validate, Bool.and_eq_true, beq_iff_eq] at haccepts
      obtain ⟨hv, hallowed⟩ := haccepts
      rcases validate_cases env nonceValue m tx at? (exec step new calls) with
        ⟨hrejected, -⟩ | ⟨record, hget, -, hpresents, -⟩
      · rw [hallowed] at hrejected
        cases hrejected
      · rw [hv] at hget
        obtain ⟨mandateId, transactionId, r₀, c₀, hc₀, hissues, hvalue, hmandate, htransaction,
          hsame⟩ := (run_accounted h).issued v record hget
        have hpresents₀ := hpresents.of_same hsame
        refine ⟨mandateId, transactionId, r₀, c₀, hc₀, hissues, hvalue,
          ⟨env, nonceValue, m, tx, at?, stepAt_act _ _, ?_, ?_, hpresents₀.started,
            hpresents₀.live⟩⟩
        · rw [← hpresents₀.mandate, hmandate]
        · rw [← hpresents₀.transaction, htransaction]

/-- A nonce has the bindings it is issued for. -/
theorem Issues.bound {e : NonceEngine} {call : NonceCall} {mandateId transactionId : String}
    {record : NonceRecord} (h : Issues mandateId transactionId record (stepAt step e call)) :
    record.mandateId = Text.strip mandateId ∧ record.transactionId = Text.strip transactionId := by
  obtain ⟨⟨env, ttlSeconds, at?, hact⟩, hout⟩ := h
  rw [stepAt_act] at hact
  subst hact
  have hcall : (issueNonce env mandateId transactionId ttlSeconds at? e).1 = .ok record :=
    NonceAnswer.issued.inj hout
  rcases issue_cases env mandateId transactionId ttlSeconds at? e with
    ⟨err, hissue⟩ | ⟨r, hissue, -, hmandate, htransaction, -⟩
  · rw [hissue] at hcall
    cases hcall
  · rw [hissue] at hcall
    obtain rfl := Except.ok.inj hcall
    exact ⟨hmandate, htransaction⟩

/-- **The holder of a nonce that was not accepted yet can consume it.** -/
theorem holder_accepted {calls : List NonceCall} {mandateId transactionId : String}
    {r₀ : NonceRecord} {c₀ : CallStep} (h : ∀ c ∈ steps step new calls, Generates c)
    (hc₀ : c₀ ∈ steps step new calls) (hissues : Issues mandateId transactionId r₀ c₀)
    (hunused : ∀ c ∈ steps step new calls, accepts r₀.nonceValue c = false)
    {env : Ambient} {nonceValue m tx : String} {at? : Option Instant}
    (hvalue : Text.strip nonceValue = Text.strip r₀.nonceValue)
    (hm : Text.strip m = Text.strip mandateId) (htx : Text.strip tx = Text.strip transactionId)
    (hstarted : r₀.issuedAt ≤ env.time at?) (hlive : env.time at? < r₀.expiresAt) :
    (validateAndConsume env nonceValue m tx at? (exec step new calls)).1.isAllowed = true := by
  obtain ⟨hclean, record, hget, hsame, hstate⟩ :=
    (run_accounted h).stored mandateId transactionId r₀ c₀ hc₀ hissues
  have hissued : record.state = .issued := by
    rcases hstate with hissued | ⟨c, hc, haccepts⟩
    · exact hissued
    · rw [hunused c hc] at haccepts
      cases haccepts
  rw [hclean] at hvalue
  have hne : Text.strip nonceValue ≠ "" := by
    intro hempty
    have hlong := r₀.nonceValue_long
    rw [← hvalue, hempty] at hlong
    exact absurd hlong (by decide)
  have hbound : r₀.mandateId = Text.strip mandateId
      ∧ r₀.transactionId = Text.strip transactionId := by
    obtain ⟨l, call, r, rfl, rfl⟩ := mem_steps_iff.mp hc₀
    exact hissues.bound
  have hpresents : Presents record m tx (env.time at?) := by
    refine ⟨?_, ?_, ?_, ?_⟩
    · rw [hsame.mandate, hbound.1, hm]
    · rw [hsame.transaction, hbound.2, htx]
    · rw [hsame.issuedAt]
      exact hstarted
    · rw [hsame.expiresAt]
      exact hlive
  rw [validate_accepted hne (by rw [hvalue, hget]) hissued hpresents]
  rfl

/-- A validation that is not accepted changes nothing. -/
theorem Rejects.unchanged {e : NonceEngine} {call : NonceCall}
    (h : Rejects (stepAt step e call)) :
    (stepAt step e call).post = e := by
  obtain ⟨r, hout, hrejected⟩ := h
  cases call with
  | issue env mandateId transactionId ttlSeconds at? => cases hout
  | validate env nonceValue m tx at? =>
      rw [out_validate] at hout
      rw [← NonceAnswer.evaluated.inj hout] at hrejected
      rcases validate_cases env nonceValue m tx at? e with
        ⟨-, hpost⟩ | ⟨record, -, -, -, haccepted, -⟩
      · rw [post_validate, hpost]
      · rw [hrejected] at haccepted
        cases haccepted

/-- **In a run with fresh values every nonce is accepted at most once, and only
    as it was issued; a rejected validation changes nothing, and a nonce that
    was not accepted stays consumable by its holder.** -/
theorem nonces_single_use (calls : List NonceCall)
    (h : ∀ c ∈ steps step new calls, Generates c) :
    (∀ v, (steps step new calls).countP (accepts v) ≤ 1)
    ∧ (∀ before c after v, steps step new calls = before ++ c :: after → accepts v c = true →
      ∃ mandateId transactionId record, ∃ c₀ ∈ before,
        Issues mandateId transactionId record c₀ ∧ record.nonceValue = v
          ∧ PresentedTo mandateId transactionId record c)
    ∧ (∀ c ∈ steps step new calls, Rejects c → c.post = c.pre)
    ∧ ∀ before after, calls = before ++ after →
      ∀ mandateId transactionId record, ∀ c₀ ∈ steps step new before,
        Issues mandateId transactionId record c₀ →
        (∀ c ∈ steps step new before, accepts record.nonceValue c = false) →
        ∀ env nonceValue m tx at?, Text.strip nonceValue = Text.strip record.nonceValue →
          Text.strip m = Text.strip mandateId → Text.strip tx = Text.strip transactionId →
          record.issuedAt ≤ env.time at? → env.time at? < record.expiresAt →
          (validateAndConsume env nonceValue m tx at? (exec step new before)).1.isAllowed
            = true := by
  refine ⟨fun v => countP_accepts_le_one new calls v h, ?_, ?_, ?_⟩
  · intro before c after v hsplit haccepts
    obtain ⟨l, call, r, rfl, rfl, rfl, rfl⟩ := steps_eq_append_cons_iff.mp hsplit
    exact accepted_issued (forall_steps_append_iff.mp h).1 haccepts
  · intro c hc hrejects
    obtain ⟨l, call, r, rfl, rfl⟩ := mem_steps_iff.mp hc
    exact hrejects.unchanged
  · rintro before after rfl m₀ tx₀ record c₀ hc₀ hissues hunused env nonceValue m tx at? hvalue hm
      htx hstarted hlive
    exact holder_accepted (forall_steps_append_iff.mp h).1 hc₀ hissues hunused hvalue hm htx
      hstarted hlive

/-! ## A nonce that is presented twice -/

namespace Sample

def issuance : NonceCall :=
  .issue ⟨⟨1709210096000000, "1"⟩, "0123456789abcdef"⟩ "mandate-1" "tx-1" 300 none

def validation (transactionId : String) : NonceCall :=
  .validate ⟨1709210097000000, "2"⟩ "0123456789abcdef" "mandate-1" transactionId none

def calls : List NonceCall :=
  [issuance, validation "tx-2", validation "tx-1", validation "tx-1"]

theorem calls_generate : ∀ c ∈ steps step new calls, Generates c := by
  intro c hc env m tx ttl at? hact
  rcases List.mem_cons.mp hc with rfl | hc
  · obtain ⟨rfl, -⟩ := NonceCall.issue.inj hact
    exact ⟨rfl, by decide⟩
  · rcases List.mem_cons.mp hc with rfl | hc
    · cases hact
    · rcases List.mem_cons.mp hc with rfl | hc
      · cases hact
      · obtain rfl := List.mem_singleton.mp hc
        cases hact

end Sample

theorem nonces_single_use_sample :
    (steps step new Sample.calls).countP (accepts "0123456789abcdef") ≤ 1 :=
  (nonces_single_use Sample.calls Sample.calls_generate).1 "0123456789abcdef"

end NonceEngine

end MandateGateway
