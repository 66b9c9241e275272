import MandateGateway.Policy.CartIntegrity
import MandateGateway.Webhook.Payload

/-! # Keyed digests

    `hmac.new(key, message, hashlib.sha256).hexdigest()`, its first 32 digits,
    and what a constant-time comparison with it decides. -/

namespace MandateGateway

/-- HMAC-SHA256 under a key: 64 digits in lower case. -/
structure HmacSha256 where
  hexdigest : ByteArray → ByteArray → String
  digits    : ∀ key message, (hexdigest key message).toList.length = 64
    ∧ ∀ c ∈ (hexdigest key message).toList, isLowerHex c = true

theorem ascii_of_isLowerHex {c : Char} (h : isLowerHex c = true) : c.toNat < 128 := by
  have hrange := range_of_isLowerHex h
  omega

namespace HmacSha256

/-- The same digits for every message. -/
def constant (digest : String)
    (h : digest.toList.length = 64 ∧ ∀ c ∈ digest.toList, isLowerHex c = true) : HmacSha256 where
  hexdigest _ _ := digest
  digits _ _ := h

/-- One digest for a message, and another one for every other message. -/
def telling (known : ByteArray) (digest other : String)
    (h : digest.toList.length = 64 ∧ ∀ c ∈ digest.toList, isLowerHex c = true)
    (hother : other.toList.length = 64 ∧ ∀ c ∈ other.toList, isLowerHex c = true) :
    HmacSha256 where
  hexdigest _ message :=
    @ite String (message = known) (ByteArray.instDecidableEq message known) digest other
  digits key message := by
    by_cases hknown : message = known
    · rw [if_pos hknown]
      exact h
    · rw [if_neg hknown]
      exact hother

theorem hexdigest_telling {known : ByteArray} {digest other : String}
    {h : digest.toList.length = 64 ∧ ∀ c ∈ digest.toList, isLowerHex c = true}
    {hother : other.toList.length = 64 ∧ ∀ c ∈ other.toList, isLowerHex c = true}
    (key : ByteArray) : (telling known digest other h hother).hexdigest key known = digest :=
  if_pos rfl

variable (hmac : HmacSha256) (key message : ByteArray)

/-- `hexdigest()[:32]`. -/
def short : String := String.ofList ((hmac.hexdigest key message).toList.take 32)

theorem isAscii_hexdigest : WebhookEngine.isAscii (hmac.hexdigest key message) = true := by
  rw [WebhookEngine.isAscii, List.all_eq_true]
  intro c hc
  exact decide_eq_true (ascii_of_isLowerHex ((hmac.digits key message).2 c hc))

theorem isAscii_short : WebhookEngine.isAscii (hmac.short key message) = true := by
  rw [WebhookEngine.isAscii, short, String.toList_ofList, List.all_eq_true]
  intro c hc
  have hdigit := (hmac.digits key message).2 c (List.mem_of_mem_take hc)
  exact decide_eq_true (ascii_of_isLowerHex hdigit)

end HmacSha256

namespace WebhookEngine

theorem isAscii_append {s t : String} (hs : isAscii s = true) (ht : isAscii t = true) :
    isAscii (s ++ t) = true := by
  rw [isAscii, String.toList_append, List.all_append, Bool.and_eq_true]
  exact ⟨hs, ht⟩

/-- **A text is found equal to an ASCII one exactly when it is that text.** -/
theorem compareDigest_eq_ok_true_iff {presented expected : String}
    (hexpected : isAscii expected = true) :
    compareDigest presented expected = .ok true ↔ presented = expected := by
  rw [compareDigest]
  by_cases h : presented = expected
  · subst h
    rw [hexpected, Bool.and_self, if_pos rfl, decide_eq_true rfl]
    exact iff_of_true rfl rfl
  · by_cases hascii : (isAscii presented && isAscii expected) = true
    · rw [if_pos hascii, decide_eq_false h]
      refine iff_of_false ?_ h
      intro hsame
      cases hsame
    · rw [if_neg hascii]
      refine iff_of_false ?_ h
      intro hraised
      cases hraised

theorem compareDigest_comm (a b : String) : compareDigest a b = compareDigest b a := by
  have hsame : decide (a = b) = decide (b = a) := decide_eq_decide.mpr eq_comm
  rw [compareDigest, compareDigest, Bool.and_comm, hsame]

end WebhookEngine

end MandateGateway
