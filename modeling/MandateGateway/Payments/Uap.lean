import MandateGateway.Hmac
import MandateGateway.Lib.OrderedMap

/-! # Delegated authorizations

    A user delegates to an agent a bounded authority to pay.  The layer keeps
    one object for each authorization, under its identifier and under its token,
    and every operation that changes an authorization changes that object.

    * `validateAuthorization_cases`: what is validated, and that a validation
      changes nothing but the status of what is over its time;
    * `step_effect`: an operation adds an authorization, closes one, or leaves
      all of them. -/

namespace MandateGateway

inductive AuthorizationStatus where
  | active | revoked | expired | consumed | suspended
deriving DecidableEq

def AuthorizationStatus.value : AuthorizationStatus → String
  | .active => "ACTIVE"
  | .revoked => "REVOKED"
  | .expired => "EXPIRED"
  | .consumed => "CONSUMED"
  | .suspended => "SUSPENDED"

structure AuthorizationPolicy where
  authorizationId     : String
  agentId             : String
  userId              : String
  scopeMerchants      : List String
  maxAmountPaise      : Int
  dailyLimitPaise     : Int
  allowedCurrency     : String
  categoryScope       : List String
  expirationTimestamp : Binary64
  status              : AuthorizationStatus
  token               : String

/-- `policy.status = status`. -/
def AuthorizationPolicy.withStatus (status : AuthorizationStatus) (p : AuthorizationPolicy) :
    AuthorizationPolicy :=
  { p with status := status }

/-- The arguments of `issue_authorization`. -/
structure DelegationRequest where
  agentId         : String
  userId          : String
  maxAmountPaise  : Int
  dailyLimitPaise : Int
  scopeMerchants  : Option (List String)
  categoryScope   : Option (List String)
  ttlSeconds      : Binary64

/-- The arguments of `validate_authorization`. -/
structure DelegatedPayment where
  tokenOrId   : String
  agentId     : String
  merchantId  : String
  category    : String
  amountPaise : Int

/-- `UAPAuthorizationError`, or what the text of one raises. -/
inductive UapError where
  | authorizationError (message code : String)
  | raised (err : PyError)

/-- The state of a `UAPAuthorizationLayer`: the policy objects in the order in
    which they are made, and the two dictionaries, the first of which refers to
    them. -/
structure UAPAuthorizationLayer where
  secret         : ByteArray
  policies       : List AuthorizationPolicy
  authorizations : OrderedMap String Nat
  tokens         : OrderedMap String String

/-- `category_scope or [...]`. -/
def DelegationRequest.categories (q : DelegationRequest) : List String :=
  match q.categoryScope with
  | none | some [] => ["grocery", "general", "beverage"]
  | some scope => scope

/-- `text[-8:]`. -/
def lastEight (text : String) : String :=
  String.ofList (text.toList.drop (text.toList.length - 8))

namespace UAPAuthorizationLayer

/-- `UAPAuthorizationLayer(secret_key)`. -/
def new (secretKey : String) : UAPAuthorizationLayer :=
  ⟨secretKey.toUTF8, [], .empty, .empty⟩

variable (hmac : HmacSha256)

/-- The policy that `issue_authorization` makes, from the digits of a UUID and
    a reading of the clock. -/
def policyOf (hex : String) (now : Rat) (q : DelegationRequest) (u : UAPAuthorizationLayer) :
    AuthorizationPolicy :=
  let authId := "uap_auth_" ++ String.ofList (hex.toList.take 12)
  let expTime := Binary64.add (.finite now) q.ttlSeconds
  let rawMsg := authId ++ ":" ++ q.agentId ++ ":" ++ q.userId ++ ":"
    ++ toString q.maxAmountPaise ++ ":" ++ expTime.text
  let tokenSig := hmac.short u.secret rawMsg.toUTF8
  { authorizationId := authId
    agentId := q.agentId
    userId := q.userId
    scopeMerchants := q.scopeMerchants.getD []
    maxAmountPaise := q.maxAmountPaise
    dailyLimitPaise := q.dailyLimitPaise
    allowedCurrency := "INR"
    categoryScope := q.categories
    expirationTimestamp := expTime
    status := .active
    token := "uap_tok_" ++ lastEight authId ++ "_" ++ tokenSig }

/-- `issue_authorization`: the reference to the new object, and the object. -/
def issueAuthorization (hex : String) (now : Rat) (q : DelegationRequest)
    (u : UAPAuthorizationLayer) : (Nat × AuthorizationPolicy) × UAPAuthorizationLayer :=
  let policy := u.policyOf hmac hex now q
  let ref := u.policies.length
  ((ref, policy), { u with
    policies := u.policies ++ [policy]
    authorizations := u.authorizations.set policy.authorizationId ref
    tokens := u.tokens.set policy.token policy.authorizationId })

/-- `self._authorizations.get(auth_id)`. -/
def find (authorizationId : String) (u : UAPAuthorizationLayer) :
    Option (Nat × AuthorizationPolicy) :=
  match u.authorizations.get authorizationId with
  | none => none
  | some ref => (u.policies[ref]?).map fun policy => (ref, policy)

/-- `self._tokens.get(token_or_id, token_or_id)`. -/
def authId (tokenOrId : String) (u : UAPAuthorizationLayer) : String :=
  (u.tokens.get tokenOrId).getD tokenOrId

def setStatus (ref : Nat) (status : AuthorizationStatus) (u : UAPAuthorizationLayer) :
    UAPAuthorizationLayer :=
  { u with policies := u.policies.modify ref (AuthorizationPolicy.withStatus status) }

/-- An operation that gives an authorization another status. -/
def close (authorizationId : String) (status : AuthorizationStatus) (u : UAPAuthorizationLayer) :
    Bool × UAPAuthorizationLayer :=
  match u.find authorizationId with
  | none => (false, u)
  | some (ref, _) => (true, u.setStatus ref status)

def revokeAuthorization (authorizationId : String) (u : UAPAuthorizationLayer) :
    Bool × UAPAuthorizationLayer :=
  u.close authorizationId .revoked

def suspendAuthorization (authorizationId : String) (u : UAPAuthorizationLayer) :
    Bool × UAPAuthorizationLayer :=
  u.close authorizationId .suspended

def consumeAuthorization (tokenOrId : String) (singleUse : Bool) (u : UAPAuthorizationLayer) :
    UAPAuthorizationLayer :=
  if singleUse then (u.close (u.authId tokenOrId) .consumed).2 else u

/-- The refusal of a policy that is not active. -/
def statusError : AuthorizationStatus → UapError
  | .revoked => .authorizationError "UAP delegation policy has been REVOKED."
      "AUTHORIZATION_REVOKED"
  | .suspended => .authorizationError "UAP delegation policy is currently SUSPENDED."
      "AUTHORIZATION_SUSPENDED"
  | .consumed => .authorizationError "Single-use UAP authorization token already CONSUMED."
      "TOKEN_ALREADY_CONSUMED"
  | status => .authorizationError
      s!"UAP delegation policy is in invalid status '{status.value}'." "INVALID_STATUS"

/-- The refusal of an amount; the amount in rupees can be out of range. -/
def amountError (amountPaise maxAmountPaise : Int) : UapError :=
  match trueDiv amountPaise 100 with
  | .error err => .raised err
  | .ok rupees => .authorizationError
      (s!"Requested amount ₹{rupees.fixed2 false} exceeds delegated max amount "
        ++ s!"₹{maxAmountPaise / 100}.") "AMOUNT_EXCEEDS_DELEGATION"

/-- The checks of an active policy that is not over its time. -/
def checkScope (policy : AuthorizationPolicy) (q : DelegatedPayment) : Except UapError Unit :=
  if policy.agentId ≠ q.agentId then
    .error (.authorizationError "Agent identity mismatch for UAP delegation token."
      "AGENT_MISMATCH")
  else if policy.scopeMerchants ≠ [] ∧ q.merchantId ∉ policy.scopeMerchants then
    .error (.authorizationError s!"Merchant '{q.merchantId}' is outside delegated merchant scope."
      "MERCHANT_OUT_OF_SCOPE")
  else if policy.categoryScope ≠ []
      ∧ Text.lower q.category ∉ policy.categoryScope.map Text.lower then
    .error (.authorizationError s!"Category '{q.category}' is outside delegated category scope."
      "CATEGORY_OUT_OF_SCOPE")
  else if policy.maxAmountPaise < q.amountPaise then
    .error (amountError q.amountPaise policy.maxAmountPaise)
  else .ok ()

def validateAuthorization (now : Rat) (q : DelegatedPayment) (u : UAPAuthorizationLayer) :
    Except UapError (Nat × AuthorizationPolicy) × UAPAuthorizationLayer :=
  match u.find (u.authId q.tokenOrId) with
  | none => (.error (.authorizationError "UAP delegation policy not found."
      "AUTHORIZATION_NOT_FOUND"), u)
  | some (ref, policy) =>
      if policy.status ≠ .active then (.error (statusError policy.status), u)
      else if Binary64.lt policy.expirationTimestamp (.finite now) then
        (.error (.authorizationError "UAP delegation policy has EXPIRED."
          "AUTHORIZATION_EXPIRED"), u.setStatus ref .expired)
      else match checkScope policy q with
        | .error err => (.error err, u)
        | .ok () => (.ok (ref, policy), u)

/-! ## What is validated -/

structure Covers (policy : AuthorizationPolicy) (q : DelegatedPayment) : Prop where
  agent    : policy.agentId = q.agentId
  merchant : policy.scopeMerchants = [] ∨ q.merchantId ∈ policy.scopeMerchants
  category : policy.categoryScope = []
    ∨ Text.lower q.category ∈ policy.categoryScope.map Text.lower
  amount   : q.amountPaise ≤ policy.maxAmountPaise

theorem checkScope_eq_ok_iff {policy : AuthorizationPolicy} {q : DelegatedPayment} :
    checkScope policy q = .ok () ↔ Covers policy q := by
  rw [checkScope, Exceptions.guard_eq_ok_iff, Exceptions.guard_eq_ok_iff,
    Exceptions.guard_eq_ok_iff, Exceptions.guard_eq_ok_iff,
    and_iff_left rfl, not_not, not_and_not_right, not_and_not_right, Int.not_lt]
  constructor
  · rintro ⟨hagent, hmerchant, hcategory, hamount⟩
    exact ⟨hagent, or_iff_not_imp_left.mpr hmerchant, or_iff_not_imp_left.mpr hcategory, hamount⟩
  · rintro ⟨hagent, hmerchant, hcategory, hamount⟩
    exact ⟨hagent, or_iff_not_imp_left.mp hmerchant, or_iff_not_imp_left.mp hcategory, hamount⟩

/-- An authorization that a payment names, and that validates it. -/
structure Validates (now : Rat) (q : DelegatedPayment) (ref : Nat) (policy : AuthorizationPolicy)
    (u : UAPAuthorizationLayer) : Prop where
  named  : u.find (u.authId q.tokenOrId) = some (ref, policy)
  active : policy.status = .active
  inTime : Binary64.lt policy.expirationTimestamp (.finite now) = false
  covers : Covers policy q

/-- **A payment is validated; or finds its authorization over its time; or
    changes nothing.** -/
theorem validateAuthorization_cases (now : Rat) (q : DelegatedPayment)
    (u : UAPAuthorizationLayer) :
    (∃ ref policy, Validates now q ref policy u
      ∧ u.validateAuthorization now q = (.ok (ref, policy), u))
    ∨ (∃ ref err, u.validateAuthorization now q = (.error err, u.setStatus ref .expired))
    ∨ (∃ err, u.validateAuthorization now q = (.error err, u)) := by
  rw [validateAuthorization]
  cases hfind : u.find (u.authId q.tokenOrId) with
  | none => exact .inr (.inr ⟨_, rfl⟩)
  | some found =>
      obtain ⟨ref, policy⟩ := found
      dsimp only
      by_cases hactive : policy.status = .active
      · rw [if_neg (not_not.mpr hactive)]
        cases htime : Binary64.lt policy.expirationTimestamp (.finite now) with
        | true =>
            rw [if_pos rfl]
            exact .inr (.inl ⟨ref, _, rfl⟩)
        | false =>
            rw [if_neg Bool.false_ne_true]
            cases hscope : checkScope policy q with
            | error err => exact .inr (.inr ⟨err, rfl⟩)
            | ok _ =>
                exact .inl ⟨ref, policy,
                  ⟨hfind, hactive, htime, checkScope_eq_ok_iff.mp hscope⟩, rfl⟩
      · rw [if_pos hactive]
        exact .inr (.inr ⟨_, rfl⟩)

theorem Validates.validateAuthorization_eq {now : Rat} {q : DelegatedPayment} {ref : Nat}
    {policy : AuthorizationPolicy} {u : UAPAuthorizationLayer}
    (h : Validates now q ref policy u) :
    u.validateAuthorization now q = (.ok (ref, policy), u) := by
  rw [validateAuthorization, h.named]
  dsimp only
  rw [if_neg (not_not.mpr h.active), h.inTime, if_neg Bool.false_ne_true,
    checkScope_eq_ok_iff.mpr h.covers]

theorem validateAuthorization_eq_ok_iff {now : Rat} {q : DelegatedPayment} {ref : Nat}
    {policy : AuthorizationPolicy} {u : UAPAuthorizationLayer} :
    (u.validateAuthorization now q).1 = .ok (ref, policy) ↔ Validates now q ref policy u := by
  constructor
  · intro h
    rcases validateAuthorization_cases now q u with
      ⟨ref', policy', hvalid, hcall⟩ | ⟨ref', err, hcall⟩ | ⟨err, hcall⟩
    · rw [hcall] at h
      cases h
      exact hvalid
    · rw [hcall] at h
      cases h
    · rw [hcall] at h
      cases h
  · intro h
    rw [h.validateAuthorization_eq]

theorem find_eq_some_iff {id : String} {ref : Nat} {policy : AuthorizationPolicy}
    {u : UAPAuthorizationLayer} :
    u.find id = some (ref, policy)
      ↔ u.authorizations.get id = some ref ∧ u.policies[ref]? = some policy := by
  rw [find]
  cases hget : u.authorizations.get id with
  | none => simp
  | some ref' =>
      simp only [Option.map_eq_some_iff, Prod.mk.injEq, Option.some.injEq]
      constructor
      · rintro ⟨p, hp, rfl, rfl⟩
        exact ⟨rfl, hp⟩
      · rintro ⟨rfl, hp⟩
        exact ⟨policy, hp, rfl, rfl⟩

end UAPAuthorizationLayer

/-! ## The operations -/

/-- The operations of the layer. -/
inductive UapOperation where
  | issueAuthorization (hex : String) (q : DelegationRequest)
  | revokeAuthorization (authorizationId : String)
  | suspendAuthorization (authorizationId : String)
  | validateAuthorization (q : DelegatedPayment)
  | consumeAuthorization (tokenOrId : String) (singleUse : Bool)

/-- An operation, and the time at which it is called. -/
structure UapCall where
  now       : Rat
  operation : UapOperation

/-- What an operation returns or raises. -/
inductive UapAnswer where
  | issued (ref : Nat) (policy : AuthorizationPolicy)
  | closed (found : Bool)
  | validated (result : Except UapError (Nat × AuthorizationPolicy))
  | consumed

namespace UAPAuthorizationLayer

/-- One operation. -/
def step (hmac : HmacSha256) (u : UAPAuthorizationLayer) (call : UapCall) :
    UapAnswer × UAPAuthorizationLayer :=
  match call.operation with
  | .issueAuthorization hex q =>
      let ((ref, policy), u') := u.issueAuthorization hmac hex call.now q
      (.issued ref policy, u')
  | .revokeAuthorization authorizationId =>
      let (found, u') := u.revokeAuthorization authorizationId
      (.closed found, u')
  | .suspendAuthorization authorizationId =>
      let (found, u') := u.suspendAuthorization authorizationId
      (.closed found, u')
  | .validateAuthorization q =>
      let (result, u') := u.validateAuthorization call.now q
      (.validated result, u')
  | .consumeAuthorization tokenOrId singleUse =>
      (.consumed, u.consumeAuthorization tokenOrId singleUse)

/-- What an operation does to the policy objects. -/
inductive Effect (hmac : HmacSha256) (u u' : UAPAuthorizationLayer) (call : UapCall) : Prop
  | unchanged (hpost : u'.policies = u.policies)
  | issued (hex : String) (q : DelegationRequest)
      (hcall : call.operation = .issueAuthorization hex q)
      (hpost : u'.policies = u.policies ++ [u.policyOf hmac hex call.now q])
  | closed (ref : Nat) (status : AuthorizationStatus) (hstatus : status ≠ .active)
      (hpost : u'.policies = u.policies.modify ref (AuthorizationPolicy.withStatus status))

theorem Effect.of_close {hmac : HmacSha256} {u : UAPAuthorizationLayer} {call : UapCall}
    (id : String) {status : AuthorizationStatus} (hstatus : status ≠ .active) :
    Effect hmac u (u.close id status).2 call := by
  rw [close]
  cases u.find id with
  | none => exact .unchanged rfl
  | some found => exact .closed found.1 status hstatus rfl

/-- **Every operation adds an authorization, closes one, or leaves all of them.** -/
theorem step_effect (hmac : HmacSha256) (u : UAPAuthorizationLayer) (call : UapCall) :
    Effect hmac u (step hmac u call).2 call := by
  obtain ⟨now, operation⟩ := call
  cases operation with
  | issueAuthorization hex q => exact .issued hex q rfl rfl
  | revokeAuthorization id => exact .of_close id (by decide)
  | suspendAuthorization id => exact .of_close id (by decide)
  | validateAuthorization q =>
      show Effect hmac u (u.validateAuthorization now q).2 _
      rcases validateAuthorization_cases now q u with
        ⟨ref, policy, -, hcall⟩ | ⟨ref, err, hcall⟩ | ⟨err, hcall⟩
      · rw [hcall]
        exact .unchanged rfl
      · rw [hcall]
        exact .closed ref .expired (by decide) rfl
      · rw [hcall]
        exact .unchanged rfl
  | consumeAuthorization tokenOrId singleUse =>
      show Effect hmac u (u.consumeAuthorization tokenOrId singleUse) _
      cases singleUse with
      | true => exact .of_close (u.authId tokenOrId) (by decide)
      | false => exact .unchanged rfl

end UAPAuthorizationLayer

end MandateGateway
