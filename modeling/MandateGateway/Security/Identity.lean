import MandateGateway.Policy.CartIntegrity
import Mathlib.Data.Finset.Dedup

/-! # API keys

    A key is `rzp_<environment>_<8 digits>_<24 digits>`.  Its first three parts
    are the prefix that it is looked up by, and what is stored of it is the
    digest of a salt and the key.

    * `lookupPrefix_rawSecret`: a generated key is looked up by its prefix;
    * `verifyCredentialSecret_eq_ok_true_iff`: which keys a digest verifies. -/

namespace MandateGateway

open Clock Text

structure AuthenticatedPrincipal where
  credentialId    : String
  merchantId      : String
  scopes          : Finset String
  authenticatedAt : Instant
deriving DecidableEq

/-- `SECRET_HASH_SALT`. -/
def secretHashSalt : String := "rzp_sec_v1_salt_9876543210_"

/-- `text[:n]`. -/
def front (n : Nat) (text : String) : String := String.ofList (text.toList.take n)

section
variable (sha256 : String → String)

def computeCredentialFingerprint (rawSecret : String) : String :=
  if rawSecret = "" ∨ strip rawSecret = "" then "fp_rzp_unknown"
  else "fp_rzp_" ++ front 16 (sha256 (strip rawSecret))

def hashCredentialSecret (rawSecret : String) : Except PyError String :=
  if rawSecret = "" ∨ strip rawSecret = "" then .error (.valueError "Raw secret cannot be empty.")
  else .ok (sha256 (secretHashSalt ++ strip rawSecret))

/-- Texts have the same bytes when they are the same. -/
def verifyCredentialSecret (rawSecret storedHash : String) : Except PyError Bool :=
  if rawSecret = "" ∨ storedHash = "" then .ok false
  else (hashCredentialSecret sha256 rawSecret).map fun computed => decide (computed = storedHash)

end

/-! ## Generated keys -/

/-- What `uuid4().hex` and `token_hex(16)` draw. -/
structure KeyDraw where
  uuidHex : String
  entropy : String
  uuidHex_digits : uuidHex.toList.length = 32 ∧ ∀ c ∈ uuidHex.toList, isLowerHex c = true
  entropy_digits : entropy.toList.length = 32 ∧ ∀ c ∈ entropy.toList, isLowerHex c = true

namespace KeyDraw

def envClean (environment : String) : String :=
  if lower environment = "test" then "test" else "live"

def credentialId (draw : KeyDraw) : String := "cred_" ++ front 12 draw.uuidHex

def credentialPrefix (environment : String) (draw : KeyDraw) : String :=
  "rzp_" ++ envClean environment ++ "_" ++ front 8 draw.entropy

def rawSecret (environment : String) (draw : KeyDraw) : String :=
  draw.credentialPrefix environment ++ "_" ++ String.ofList (draw.entropy.toList.drop 8)

end KeyDraw

/-- The tuple that `generate_credential_key_pair` returns. -/
structure CredentialKeyPair where
  credentialId     : String
  credentialPrefix : String
  rawSecret        : String
  secretHash       : String

def generateCredentialKeyPair (sha256 : String → String) (environment : String) (draw : KeyDraw) :
    Except PyError CredentialKeyPair :=
  (hashCredentialSecret sha256 (draw.rawSecret environment)).map fun secretHash =>
    ⟨draw.credentialId, draw.credentialPrefix environment, draw.rawSecret environment, secretHash⟩

/-- The prefix that `authenticate_credential` looks a key up by. -/
def lookupPrefix (rawKeyClean : String) : String :=
  match splitAt '_' rawKeyClean with
  | first :: second :: third :: _ =>
      if first = "rzp" then first ++ "_" ++ second ++ "_" ++ third
      else if 18 ≤ rawKeyClean.length then front 18 rawKeyClean else rawKeyClean
  | _ => if 18 ≤ rawKeyClean.length then front 18 rawKeyClean else rawKeyClean

/-! ## What a digest verifies -/

theorem hashCredentialSecret_of_ne {sha256 : String → String} {rawSecret : String}
    (h : strip rawSecret ≠ "") :
    hashCredentialSecret sha256 rawSecret = .ok (sha256 (secretHashSalt ++ strip rawSecret)) := by
  refine if_neg ?_
  rintro (rfl | hblank)
  · exact h rfl
  · exact h hblank

/-- **A digest verifies the keys that have it, salted and trimmed.** -/
theorem verifyCredentialSecret_eq_ok_true_iff {sha256 : String → String}
    {rawSecret storedHash : String} (hraw : strip rawSecret ≠ "") (hstored : storedHash ≠ "") :
    verifyCredentialSecret sha256 rawSecret storedHash = .ok true
      ↔ sha256 (secretHashSalt ++ strip rawSecret) = storedHash := by
  have hne : ¬ (rawSecret = "" ∨ storedHash = "") := by
    rintro (rfl | hempty)
    · exact hraw rfl
    · exact hstored hempty
  rw [verifyCredentialSecret, if_neg hne, hashCredentialSecret_of_ne hraw, Except.map,
    Except.ok.injEq, decide_eq_true_eq]

/-! ## The parts of a generated key -/

theorem ne_separator_of_isLowerHex {c : Char} (h : isLowerHex c = true) : c ≠ '_' := by
  have hrange := range_of_isLowerHex h
  rintro rfl
  revert hrange
  decide

namespace KeyDraw

variable (environment : String) (draw : KeyDraw)

theorem envClean_cases : envClean environment = "test" ∨ envClean environment = "live" :=
  ite_eq_or_eq _ _ _

theorem solid_envClean : Solid (envClean environment) := by
  obtain h | h := envClean_cases environment
  · rw [h]
    exact solid_of_all (by decide) (by decide)
  · rw [h]
    exact solid_of_all (by decide) (by decide)

/-- A part of a text of digits. -/
theorem solid_part {part text : List Char} (hpart : part <+: text ∨ part <:+ text)
    (hne : part ≠ []) (hdigits : ∀ c ∈ text, isLowerHex c = true) :
    Solid (String.ofList part) := by
  refine ⟨fun hempty => hne (String.ofList_injective hempty), ?_⟩
  intro c hc
  rw [String.toList_ofList] at hc
  exact isSpace_of_isLowerHex (hdigits c (hpart.elim (·.subset hc) (·.subset hc)))

theorem take_ne_nil {text : List Char} {n : Nat} (hlength : text.length = 32) (hn : 0 < n) :
    text.take n ≠ [] := by
  rw [ne_eq, List.take_eq_nil_iff]
  rintro (hzero | hnil)
  · omega
  · rw [hnil] at hlength
    cases hlength

theorem entropy_drop_ne_nil : draw.entropy.toList.drop 8 ≠ [] := by
  rw [ne_eq, List.drop_eq_nil_iff, draw.entropy_digits.1]
  decide

theorem solid_separator : Solid "_" := solid_of_all (by decide) (by decide)

theorem solid_credentialPrefix : Solid (draw.credentialPrefix environment) := by
  have hentropy : Solid (front 8 draw.entropy) :=
    solid_part (.inl (List.take_prefix _ _)) (take_ne_nil draw.entropy_digits.1 (by decide))
      draw.entropy_digits.2
  have hrzp : Solid "rzp_" := solid_of_all (by decide) (by decide)
  exact ((hrzp.append (solid_envClean environment)).append solid_separator).append hentropy

theorem solid_rawSecret : Solid (draw.rawSecret environment) :=
  ((draw.solid_credentialPrefix environment).append solid_separator).append
    (solid_part (.inr (List.drop_suffix _ _)) draw.entropy_drop_ne_nil draw.entropy_digits.2)

/-- The parts of a generated key. -/
def parts : List (List Char) :=
  ["rzp".toList, (envClean environment).toList, draw.entropy.toList.take 8,
    draw.entropy.toList.drop 8]

theorem toList_rawSecret : (draw.rawSecret environment).toList
    = ['_'].intercalate (draw.parts environment) := by
  simp [rawSecret, credentialPrefix, front, parts, List.intercalate]

theorem splitAt_rawSecret : splitAt '_' (draw.rawSecret environment)
    = (draw.parts environment).map String.ofList := by
  have hdigits : ∀ c ∈ draw.entropy.toList, c ≠ '_' :=
    fun c hc => ne_separator_of_isLowerHex (draw.entropy_digits.2 c hc)
  have hparts : ∀ part ∈ draw.parts environment, '_' ∉ part := by
    rw [parts, List.forall_mem_cons, List.forall_mem_cons, List.forall_mem_cons,
      List.forall_mem_singleton]
    refine ⟨by decide, ?_, ?_, ?_⟩
    · obtain h | h := envClean_cases environment
      · rw [h]
        decide
      · rw [h]
        decide
    · exact fun hmem => hdigits _ (List.mem_of_mem_take hmem) rfl
    · exact fun hmem => hdigits _ (List.mem_of_mem_drop hmem) rfl
  rw [splitAt, toList_rawSecret, List.splitOn_intercalate '_' hparts (List.cons_ne_nil _ _)]

end KeyDraw

/-- **A generated key is looked up by its own prefix.** -/
theorem lookupPrefix_rawSecret (environment : String) (draw : KeyDraw) :
    lookupPrefix (draw.rawSecret environment) = draw.credentialPrefix environment := by
  rw [lookupPrefix, draw.splitAt_rawSecret, KeyDraw.parts]
  simp [KeyDraw.credentialPrefix, front]

/-- **A generated key is stored under its salted digest.** -/
theorem generateCredentialKeyPair_eq (sha256 : String → String) (environment : String)
    (draw : KeyDraw) :
    generateCredentialKeyPair sha256 environment draw
      = .ok ⟨draw.credentialId, draw.credentialPrefix environment, draw.rawSecret environment,
          sha256 (secretHashSalt ++ draw.rawSecret environment)⟩ := by
  have hsolid := draw.solid_rawSecret environment
  have hne : strip (draw.rawSecret environment) ≠ "" := by
    rw [hsolid.strip]
    exact hsolid.1
  rw [generateCredentialKeyPair, hashCredentialSecret_of_ne hne, hsolid.strip]
  rfl

end MandateGateway
