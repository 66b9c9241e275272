import MandateGateway.Lib.Exceptions
import MandateGateway.Lib.Url

/-! # URLs for a handoff

    The validator refuses URLs that are not of the web, that have credentials, or whose
    host it lists as internal.  The host that it looks up is the text in front of the
    first colon behind the last `@`, in lower case: of a host between brackets that is
    a bracket, and other forms of an address are not listed.

    * `safe_iff`: a URL that is accepted is safe exactly when no URL that passes
      the other checks has a part for credentials, or an internal host, that is not
      listed;
    * `isListed_quad_iff`: among the addresses in four decimal parts, the link-local
      ones are the internal ones that are not listed, all but one. -/

namespace MandateGateway

open WideText (ofString)

/-- Why a URL is refused. -/
inductive CommerceConnectorError where
  | empty
  | maliciousScheme (start : WideText)
  | malformed (start : WideText)
  | unsupportedScheme (scheme : WideText)
  | missingNetloc
  | credentials
  | internal (host : WideText)
deriving DecidableEq

namespace GenericWebCheckoutConnector

open Url

/-- The schemes that are refused by name. -/
def dangerousSchemes : List String :=
  ["javascript:", "data:", "file:", "vbscript:", "about:", "blob:"]

def startsWith (start : String) (s : WideText) : Bool := (ofString start).isPrefixOf s

/-- `netloc.lower().split("@")[-1].split(":")[0]`. -/
def netlocLower (netloc : WideText) : WideText :=
  upTo ':' (afterLast '@' (WideText.lower netloc))

def blockedHosts : List String :=
  ["localhost", "127.0.0.1", "0.0.0.0", "169.254.169.254", "::1"]

def blockedStarts : List String :=
  ["192.168.", "10.", "127."]
    ++ (List.range' 16 16).map fun b => "172." ++ toString b ++ "."

/-- The host is refused. -/
def isListed (host : WideText) : Bool :=
  blockedHosts.any (fun blocked => host = ofString blocked)
    || blockedStarts.any (startsWith · host)

def validateHandoffUrl (splitter : Splitter) (url : WideText) :
    Except CommerceConnectorError WideText :=
  if url = [] then .error .empty
  else
    let urlStr := WideText.strip url
    if dangerousSchemes.any (startsWith · (WideText.lower urlStr)) then
      .error (.maliciousScheme (urlStr.take 30))
    else
      match urlsplit splitter urlStr with
      | none => .error (.malformed (urlStr.take 30))
      | some parsed =>
          if parsed.scheme ≠ ofString "http" ∧ parsed.scheme ≠ ofString "https" then
            .error (.unsupportedScheme parsed.scheme)
          else if parsed.netloc = [] then .error .missingNetloc
          else if username parsed.netloc ≠ [] ∨ password parsed.netloc ≠ [] then
            .error .credentials
          else if isListed (netlocLower parsed.netloc) then
            .error (.internal (netlocLower parsed.netloc))
          else .ok urlStr

/-! ## What is accepted -/

/-- The URL is of the web, and names no internal host. -/
structure Safe (splitter : Splitter) (fold : WideText → WideText) (url : WideText) : Prop where
  trimmed : WideText.strip url = url
  parses  : ∃ parsed, urlsplit splitter url = some parsed
    ∧ (parsed.scheme = ofString "http" ∨ parsed.scheme = ofString "https")
    ∧ ¬ HasUserinfo parsed.netloc ∧ ¬ InternalHost fold parsed.netloc

/-- The URL passes the checks that are not about its host. -/
structure Reaches (splitter : Splitter) (url : WideText) (parsed : Parts) : Prop where
  ne          : url ≠ []
  harmless    : dangerousSchemes.any (startsWith · (WideText.lower (WideText.strip url))) = false
  split       : urlsplit splitter (WideText.strip url) = some parsed
  scheme      : parsed.scheme = ofString "http" ∨ parsed.scheme = ofString "https"
  netloc      : parsed.netloc ≠ []
  credentials : username parsed.netloc = [] ∧ password parsed.netloc = []

section
variable {splitter : Splitter} {fold : WideText → WideText} {url out : WideText}

/-- **What is accepted**, and that it is trimmed. -/
theorem validateHandoffUrl_eq_ok_iff :
    validateHandoffUrl splitter url = .ok out
      ↔ (∃ parsed, Reaches splitter url parsed ∧ isListed (netlocLower parsed.netloc) = false)
        ∧ WideText.strip url = out := by
  rw [validateHandoffUrl, Exceptions.guard_eq_ok_iff]
  dsimp only
  rw [Exceptions.guard_eq_ok_iff]
  constructor
  · rintro ⟨hne, hharmless, h⟩
    cases hsplit : urlsplit splitter (WideText.strip url) with
    | none =>
        rw [hsplit] at h
        cases h
    | some parsed =>
        rw [hsplit] at h
        dsimp only at h
        obtain ⟨hscheme, h⟩ := Exceptions.guard_eq_ok_iff.mp h
        obtain ⟨hnetloc, h⟩ := Exceptions.guard_eq_ok_iff.mp h
        obtain ⟨hcredentials, h⟩ := Exceptions.guard_eq_ok_iff.mp h
        obtain ⟨hlisted, h⟩ := Exceptions.guard_eq_ok_iff.mp h
        rw [not_or, not_not, not_not] at hcredentials
        refine ⟨⟨parsed, ⟨hne, Bool.eq_false_iff.mpr hharmless, hsplit, ?_, hnetloc,
          hcredentials⟩, Bool.eq_false_iff.mpr hlisted⟩, Except.ok.inj h⟩
        by_contra hneither
        exact hscheme (not_or.mp hneither)
  · rintro ⟨⟨parsed, hreaches, hlisted⟩, rfl⟩
    refine ⟨hreaches.ne, Bool.eq_false_iff.mp hreaches.harmless, ?_⟩
    rw [hreaches.split]
    dsimp only
    refine Exceptions.guard_eq_ok_iff.mpr ⟨?_, Exceptions.guard_eq_ok_iff.mpr
      ⟨hreaches.netloc, Exceptions.guard_eq_ok_iff.mpr ⟨?_, Exceptions.guard_eq_ok_iff.mpr
        ⟨Bool.eq_false_iff.mp hlisted, rfl⟩⟩⟩⟩
    · rintro ⟨hhttp, hhttps⟩
      exact hreaches.scheme.elim hhttp hhttps
    · rintro (h | h)
      · exact h hreaches.credentials.1
      · exact h hreaches.credentials.2

theorem validateHandoffUrl_returned (h : validateHandoffUrl splitter url = .ok out) :
    validateHandoffUrl splitter out = .ok out := by
  obtain ⟨⟨parsed, hreaches, hlisted⟩, rfl⟩ := validateHandoffUrl_eq_ok_iff.mp h
  have hne : WideText.strip url ≠ [] := by
    intro hnil
    have hsplit := hreaches.split
    rw [hnil] at hsplit
    -- nothing has no scheme
    obtain rfl : (⟨[], []⟩ : Parts) = parsed := by
      rw [urlsplit] at hsplit
      by_cases haccepts : acceptsNetloc splitter [] = true
      · exact Option.some.inj ((if_pos haccepts).symm.trans hsplit)
      · exact absurd ((if_neg haccepts).symm.trans hsplit) (Option.some_ne_none _).symm
    exact hreaches.netloc rfl
  refine validateHandoffUrl_eq_ok_iff.mpr ⟨⟨parsed, ⟨hne, ?_, ?_, hreaches.scheme,
    hreaches.netloc, hreaches.credentials⟩, hlisted⟩, WideText.strip_strip url⟩
  · rw [WideText.strip_strip]
    exact hreaches.harmless
  · rw [WideText.strip_strip]
    exact hreaches.split

end

/-- **Which URLs are handled safely.**  Whatever is returned for a URL is safe exactly when,
    if the URL passes the other checks, its host is listed, or there is no part for
    credentials and no internal host. -/
theorem safe_iff (splitter : Splitter) (fold : WideText → WideText) (url : WideText) :
    (∀ out, validateHandoffUrl splitter url = .ok out → Safe splitter fold out)
      ↔ ∀ parsed, Reaches splitter url parsed → isListed (netlocLower parsed.netloc) = false →
        ¬ HasUserinfo parsed.netloc ∧ ¬ InternalHost fold parsed.netloc := by
  constructor
  · intro h parsed hreaches hlisted
    obtain ⟨-, parsed', hsplit, -, huserinfo, hinternal⟩ :=
      h _ (validateHandoffUrl_eq_ok_iff.mpr ⟨⟨parsed, hreaches, hlisted⟩, rfl⟩)
    obtain rfl := Option.some.inj (hreaches.split.symm.trans hsplit)
    exact ⟨huserinfo, hinternal⟩
  · intro h out hout
    obtain ⟨⟨parsed, hreaches, hlisted⟩, rfl⟩ := validateHandoffUrl_eq_ok_iff.mp hout
    obtain ⟨huserinfo, hinternal⟩ := h parsed hreaches hlisted
    exact ⟨WideText.strip_strip url, parsed, hreaches.split, hreaches.scheme, huserinfo, hinternal⟩

/-! ## Internal hosts that are not listed -/

theorem forall_ne_of_not_mem {c : Char} {l : List Char} (h : c ∉ l) :
    ∀ p ∈ l.map CodePoint.char, decide (p ≠ .char c) = true := by
  intro p hp
  obtain ⟨c', hc', rfl⟩ := List.mem_map.mp hp
  refine decide_eq_true fun heq => h ?_
  rw [← CodePoint.char.inj heq]
  exact hc'

theorem upTo_eq_self {c : Char} {l : List Char} (h : c ∉ l) :
    upTo c (l.map .char) = l.map .char :=
  List.takeWhile_eq_self_iff.mpr (forall_ne_of_not_mem h)

theorem afterLast_eq_self {c : Char} {l : List Char} (h : c ∉ l) :
    afterLast c (l.map .char) = l.map .char :=
  List.rtakeWhile_eq_self_iff.mpr (forall_ne_of_not_mem h)

/-- **No host between brackets is listed.** -/
theorem not_isListed_of_bracket {rest : List Char} (hascii : ∀ c ∈ rest, c.toNat < 128)
    (hat : '@' ∉ rest) : isListed (netlocLower (('[' :: rest).map .char)) = false := by
  have hall : ∀ c ∈ '[' :: rest, c.toNat < 128 := List.forall_mem_cons.mpr ⟨by decide, hascii⟩
  have hlower : ∀ n < 128, (Char.ofNat n).toLower = '@' → Char.ofNat n = '@' := by decide
  have hfree : '@' ∉ ('[' :: rest).map Char.toLower := by
    intro h
    obtain ⟨c, hc, heq⟩ := List.mem_map.mp h
    have hat' := hlower c.toNat (hall c hc)
    rw [Char.ofNat_toNat] at hat'
    rw [hat' heq] at hc
    exact hat ((List.mem_cons.mp hc).resolve_left (by decide))
  rw [netlocLower, WideText.lower_of_ascii hall, afterLast_eq_self hfree]
  rfl

/-- The four bytes of an address in decimal. -/
def quad (a b c d : Nat) : List Char :=
  Nat.toDigits 10 a ++ '.' :: (Nat.toDigits 10 b ++ '.' ::
    (Nat.toDigits 10 c ++ '.' :: Nat.toDigits 10 d))

theorem toDigits_inj {m n : Nat} : Nat.toDigits 10 m = Nat.toDigits 10 n ↔ m = n := by
  constructor
  · intro h
    rw [← @Nat.ofDigitChars_toDigits 10 m (by decide) le_rfl, h,
      Nat.ofDigitChars_toDigits (by decide) le_rfl]
  · intro h
    rw [h]

theorem dot_not_mem (n : Nat) : '.' ∉ Nat.toDigits 10 n := by
  intro h
  exact absurd (Nat.isDigit_of_mem_toDigits (by decide) (by decide) h) (by decide)

theorem prefix_dot_iff {p x q y : List Char} (hp : '.' ∉ p) (hx : '.' ∉ x) :
    (p ++ '.' :: q) <+: (x ++ '.' :: y) ↔ p = x ∧ q <+: y := by
  induction p generalizing x with
  | nil =>
      cases x with
      | nil => simp
      | cons c x =>
          have hc : '.' ≠ c := fun h => hx (h ▸ List.mem_cons_self)
          simp [hc]
  | cons c p ih =>
      cases x with
      | nil =>
          have hc : c ≠ '.' := fun h => hp (h ▸ List.mem_cons_self)
          simp [hc]
      | cons c' x =>
          rw [List.cons_append, List.cons_append, List.cons_prefix_cons,
            ih (fun h => hp (List.mem_cons_of_mem c h)) (fun h => hx (List.mem_cons_of_mem c' h)),
            List.cons.injEq, and_assoc]

theorem isListed_map_iff {l : List Char} : isListed (l.map .char) = true
    ↔ (∃ blocked ∈ blockedHosts, l = blocked.toList)
      ∨ ∃ start ∈ blockedStarts, start.toList <+: l := by
  have hinjective : Function.Injective CodePoint.char := fun _ _ h => CodePoint.char.inj h
  rw [isListed, Bool.or_eq_true, List.any_eq_true, List.any_eq_true]
  refine or_congr (exists_congr fun blocked => and_congr_right fun _ => ?_)
    (exists_congr fun start => and_congr_right fun _ => ?_)
  · rw [decide_eq_true_iff, WideText.ofString]
    exact (List.map_injective_iff.mpr hinjective).eq_iff
  · rw [startsWith, List.isPrefixOf_iff_prefix, WideText.ofString]
    exact List.prefix_map_iff_of_injective hinjective

theorem append_dot_inj {p x q y : List Char} (hp : '.' ∉ p) (hx : '.' ∉ x) :
    p ++ '.' :: q = x ++ '.' :: y ↔ p = x ∧ q = y := by
  constructor
  · intro h
    have hprefix : p ++ '.' :: q <+: x ++ '.' :: y := by rw [h]
    obtain ⟨rfl, -⟩ := (prefix_dot_iff hp hx).mp hprefix
    exact ⟨rfl, List.cons.inj (List.append_cancel_left h) |>.2⟩
  · rintro ⟨rfl, rfl⟩
    rfl

theorem quad_inj {a b c d a' b' c' d' : Nat} :
    quad a b c d = quad a' b' c' d' ↔ a = a' ∧ b = b' ∧ c = c' ∧ d = d' := by
  rw [quad, quad, append_dot_inj (dot_not_mem a) (dot_not_mem a'),
    append_dot_inj (dot_not_mem b) (dot_not_mem b'),
    append_dot_inj (dot_not_mem c) (dot_not_mem c'), toDigits_inj, toDigits_inj, toDigits_inj,
    toDigits_inj]

theorem isDigit_or_dot_of_mem_quad {a b c d : Nat} {x : Char} (h : x ∈ quad a b c d) :
    x.isDigit = true ∨ x = '.' := by
  have hdigits : ∀ {n : Nat}, x ∈ Nat.toDigits 10 n → x.isDigit = true :=
    fun hx => Nat.isDigit_of_mem_toDigits (by decide) (by decide) hx
  simp only [quad, List.mem_append, List.mem_cons] at h
  obtain h | h | h | h | h | h | h := h
  · exact .inl (hdigits h)
  · exact .inr h
  · exact .inl (hdigits h)
  · exact .inr h
  · exact .inl (hdigits h)
  · exact .inr h
  · exact .inl (hdigits h)

theorem plain_of_mem_quad {a b c d : Nat} {x : Char} (hx : x ∈ quad a b c d) :
    x.toNat < 128 ∧ x.toLower = x ∧ x ≠ '@' ∧ x ≠ ':' ∧ x ≠ '[' ∧ x ≠ 'l' := by
  have hplain : ∀ n < 128, (Char.ofNat n).isDigit = true ∨ Char.ofNat n = '.' →
      (Char.ofNat n).toLower = Char.ofNat n ∧ Char.ofNat n ≠ '@' ∧ Char.ofNat n ≠ ':'
        ∧ Char.ofNat n ≠ '[' ∧ Char.ofNat n ≠ 'l' := by decide
  have hascii : x.toNat < 128 := by
    obtain hdigit | rfl := isDigit_or_dot_of_mem_quad hx
    · rw [Char.isDigit, Bool.and_eq_true, decide_eq_true_eq, decide_eq_true_eq] at hdigit
      exact lt_of_le_of_lt hdigit.2 (by decide)
    · decide
  have h := hplain x.toNat hascii
  rw [Char.ofNat_toNat] at h
  exact ⟨hascii, h (isDigit_or_dot_of_mem_quad hx)⟩

theorem lower_quad (a b c d : Nat) : (quad a b c d).map Char.toLower = quad a b c d := by
  rw [List.map_congr_left fun x hx => (plain_of_mem_quad hx).2.1, List.map_id']

theorem afterLast_quad (a b c d : Nat) :
    afterLast '@' ((quad a b c d).map .char) = (quad a b c d).map .char :=
  afterLast_eq_self fun h => (plain_of_mem_quad h).2.2.1 rfl

theorem upTo_quad (a b c d : Nat) :
    upTo ':' ((quad a b c d).map .char) = (quad a b c d).map .char :=
  upTo_eq_self fun h => (plain_of_mem_quad h).2.2.2.1 rfl

theorem netlocLower_quad (a b c d : Nat) :
    netlocLower ((quad a b c d).map .char) = (quad a b c d).map .char := by
  rw [netlocLower, WideText.lower_of_ascii fun x hx => (plain_of_mem_quad hx).1, lower_quad,
    afterLast_quad, upTo_quad]

theorem blockedStarts_eq : blockedStarts.map String.toList
    = [Nat.toDigits 10 192 ++ '.' :: (Nat.toDigits 10 168 ++ '.' :: []),
        Nat.toDigits 10 10 ++ '.' :: [], Nat.toDigits 10 127 ++ '.' :: []]
      ++ (List.range' 16 16).map fun b =>
        Nat.toDigits 10 172 ++ '.' :: (Nat.toDigits 10 b ++ '.' :: []) := by
  decide +kernel

theorem prefix_quad_one {x a b c d : Nat} :
    Nat.toDigits 10 x ++ '.' :: [] <+: quad a b c d ↔ x = a := by
  rw [quad, prefix_dot_iff (dot_not_mem x) (dot_not_mem a), toDigits_inj]
  exact and_iff_left (List.nil_prefix)

theorem prefix_quad_two {x y a b c d : Nat} :
    Nat.toDigits 10 x ++ '.' :: (Nat.toDigits 10 y ++ '.' :: []) <+: quad a b c d
      ↔ x = a ∧ y = b := by
  rw [quad, prefix_dot_iff (dot_not_mem x) (dot_not_mem a),
    prefix_dot_iff (dot_not_mem y) (dot_not_mem b), toDigits_inj, toDigits_inj]
  exact and_congr_right fun _ => and_iff_left (List.nil_prefix)

theorem exists_start_quad_iff {a b c d : Nat} :
    (∃ start ∈ blockedStarts, start.toList <+: quad a b c d)
      ↔ (a = 192 ∧ b = 168) ∨ a = 10 ∨ a = 127 ∨ (a = 172 ∧ 16 ≤ b ∧ b < 32) := by
  have hlists : (∃ start ∈ blockedStarts, start.toList <+: quad a b c d)
      ↔ ∃ chars ∈ blockedStarts.map String.toList, chars <+: quad a b c d := by
    constructor
    · rintro ⟨start, hstart, hprefix⟩
      exact ⟨_, List.mem_map_of_mem hstart, hprefix⟩
    · rintro ⟨chars, hchars, hprefix⟩
      obtain ⟨start, hstart, rfl⟩ := List.mem_map.mp hchars
      exact ⟨start, hstart, hprefix⟩
  rw [hlists, blockedStarts_eq]
  constructor
  · rintro ⟨chars, hchars, hprefix⟩
    obtain h | h := List.mem_append.mp hchars
    · obtain rfl | rfl | rfl := by simpa only [List.mem_cons, List.not_mem_nil, or_false] using h
      · obtain ⟨rfl, rfl⟩ := prefix_quad_two.mp hprefix
        exact .inl ⟨rfl, rfl⟩
      · exact .inr (.inl (prefix_quad_one.mp hprefix).symm)
      · exact .inr (.inr (.inl (prefix_quad_one.mp hprefix).symm))
    · obtain ⟨n, hn, rfl⟩ := List.mem_map.mp h
      obtain ⟨rfl, rfl⟩ := prefix_quad_two.mp hprefix
      have hrange := List.mem_range'_1.mp hn
      exact .inr (.inr (.inr ⟨rfl, hrange.1, hrange.2⟩))
  · rintro (⟨rfl, rfl⟩ | rfl | rfl | ⟨rfl, hb⟩)
    · exact ⟨_, List.mem_append_left _ List.mem_cons_self, prefix_quad_two.mpr ⟨rfl, rfl⟩⟩
    · exact ⟨_, List.mem_append_left _ (List.mem_cons_of_mem _ List.mem_cons_self),
        prefix_quad_one.mpr rfl⟩
    · exact ⟨_, List.mem_append_left _ (List.mem_cons_of_mem _ (List.mem_cons_of_mem _
        List.mem_cons_self)), prefix_quad_one.mpr rfl⟩
    · exact ⟨_, List.mem_append_right _ (List.mem_map_of_mem (List.mem_range'_1.mpr hb)),
        prefix_quad_two.mpr ⟨rfl, rfl⟩⟩

theorem exists_host_quad_iff {a b c d : Nat} :
    (∃ blocked ∈ blockedHosts, quad a b c d = blocked.toList)
      ↔ (a = 127 ∧ b = 0 ∧ c = 0 ∧ d = 1) ∨ (a = 0 ∧ b = 0 ∧ c = 0 ∧ d = 0)
        ∨ (a = 169 ∧ b = 254 ∧ c = 169 ∧ d = 254) := by
  have hhosts : blockedHosts.map String.toList = ["localhost".toList, quad 127 0 0 1, quad 0 0 0 0,
      quad 169 254 169 254, "::1".toList] := by decide +kernel
  have hlists : (∃ blocked ∈ blockedHosts, quad a b c d = blocked.toList)
      ↔ quad a b c d ∈ blockedHosts.map String.toList := by
    rw [List.mem_map]
    exact exists_congr fun blocked => and_congr_right fun _ => eq_comm
  have hname : quad a b c d ≠ "localhost".toList := by
    intro h
    have hmem : 'l' ∈ quad a b c d := by
      rw [h]
      decide
    exact (plain_of_mem_quad hmem).2.2.2.2.2 rfl
  have hcolon : quad a b c d ≠ "::1".toList := by
    intro h
    have hmem : ':' ∈ quad a b c d := by
      rw [h]
      decide
    exact (plain_of_mem_quad hmem).2.2.2.1 rfl
  rw [hlists, hhosts, List.mem_cons, List.mem_cons, List.mem_cons, List.mem_cons,
    List.mem_singleton, or_iff_right hname, quad_inj, quad_inj, quad_inj, or_iff_left hcolon]

theorem internal4_bytes_iff {a b c d : Nat} (hb : b < 256) (hc : c < 256) (hd : d < 256) :
    Internal4 (a * 2 ^ 24 + b * 2 ^ 16 + c * 2 ^ 8 + d)
      ↔ a = 127 ∨ (a = 0 ∧ b = 0 ∧ c = 0 ∧ d = 0) ∨ a = 10 ∨ (a = 172 ∧ 16 ≤ b ∧ b < 32)
        ∨ (a = 192 ∧ b = 168) ∨ (a = 169 ∧ b = 254) := by
  have h24 : (a * 2 ^ 24 + b * 2 ^ 16 + c * 2 ^ 8 + d) / 2 ^ 24 = a := by omega
  have h20 : (a * 2 ^ 24 + b * 2 ^ 16 + c * 2 ^ 8 + d) / 2 ^ 20 = a * 2 ^ 4 + b / 2 ^ 4 := by omega
  have h16 : (a * 2 ^ 24 + b * 2 ^ 16 + c * 2 ^ 8 + d) / 2 ^ 16 = a * 2 ^ 8 + b := by omega
  constructor
  · intro h
    cases h with
    | loopback h => exact .inl (h24 ▸ h)
    | unspecified h => exact .inr (.inl (by omega))
    | private8 h => exact .inr (.inr (.inl (h24 ▸ h)))
    | private12 h =>
        rw [h20] at h
        exact .inr (.inr (.inr (.inl (by omega))))
    | private16 h =>
        rw [h16] at h
        exact .inr (.inr (.inr (.inr (.inl (by omega)))))
    | linkLocal h =>
        rw [h16] at h
        exact .inr (.inr (.inr (.inr (.inr (by omega)))))
  · rintro (h | h | h | h | h | h)
    · exact .loopback (h24.trans h)
    · exact .unspecified (by omega)
    · exact .private8 (h24.trans h)
    · exact .private12 (h20.trans (by omega))
    · exact .private16 (h16.trans (by omega))
    · exact .linkLocal (h16.trans (by omega))

/-- The text writes the address of its bytes. -/
theorem ipv4?_quad {a b c d : Nat} (ha : a < 256) (hb : b < 256) (hc : c < 256) (hd : d < 256) :
    ipv4? (quad a b c d) = some (a * 2 ^ 24 + b * 2 ^ 16 + c * 2 ^ 8 + d) := by
  have hpart : ∀ n < 256, part (Nat.toDigits 10 n) = some n := by decide +kernel
  have hlast : (quad a b c d).getLast? ≠ some '.' := by
    intro h
    have hne : Nat.toDigits 10 d ≠ [] := Nat.toDigits_ne_nil
    have hquad : quad a b c d = (Nat.toDigits 10 a ++ '.' :: (Nat.toDigits 10 b ++ '.' ::
        (Nat.toDigits 10 c ++ ['.']))) ++ Nat.toDigits 10 d := by
      simp [quad]
    rw [hquad, List.getLast?_append, List.getLast?_eq_some_getLast hne, Option.some_or] at h
    exact dot_not_mem d (Option.some.inj h ▸ List.getLast_mem hne)
  have hsplit : (quad a b c d).splitOn '.' = [Nat.toDigits 10 a, Nat.toDigits 10 b,
      Nat.toDigits 10 c, Nat.toDigits 10 d] := by
    have hjoin : quad a b c d = ['.'].intercalate [Nat.toDigits 10 a, Nat.toDigits 10 b,
        Nat.toDigits 10 c, Nat.toDigits 10 d] := by
      simp [quad, List.intercalate_cons_cons, List.intercalate_singleton]
    rw [hjoin]
    refine List.splitOn_intercalate '.' ?_ (List.cons_ne_nil _ _)
    simp only [List.mem_cons, List.not_mem_nil, or_false]
    rintro digits (rfl | rfl | rfl | rfl) <;> exact dot_not_mem _
  rw [ipv4?, if_neg hlast, hsplit]
  simp only [List.mapM_cons, List.mapM_nil, hpart a ha, hpart b hb, hpart c hc, hpart d hd]
  exact if_pos ⟨ha, hb, hc, hd⟩

theorem internalHost_quad_iff {a b c d : Nat} (ha : a < 256) (hb : b < 256) (hc : c < 256)
    (hd : d < 256) : InternalHost id ((quad a b c d).map .char)
      ↔ Internal4 (a * 2 ^ 24 + b * 2 ^ 16 + c * 2 ^ 8 + d) := by
  have hbare : ¬ IsBracketed ((quad a b c d).map .char) := by
    rw [IsBracketed, afterLast_quad]
    intro h
    obtain ⟨x, hx, heq⟩ := List.mem_map.mp h
    exact (plain_of_mem_quad hx).2.2.2.2.1 (CodePoint.char.inj heq)
  have hhost : host ((quad a b c d).map .char) = (quad a b c d).map .char := by
    rw [host, afterLast_quad, if_neg hbare, upTo_quad]
  have hinjective : Function.Injective (List.map CodePoint.char) :=
    List.map_injective_iff.mpr fun _ _ h => CodePoint.char.inj h
  constructor
  · intro h
    cases h with
    | localhost name h hname =>
        rw [id, hhost] at h
        have hchars : quad a b c d = name.toList := hinjective h
        have hlower : (Text.lower name).toList = quad a b c d := by
          rw [Text.lower, String.toList_ofList, ← hchars,
            Text.lowerChars_of_ascii fun x hx => (plain_of_mem_quad hx).1, lower_quad]
        have hmem : 'l' ∈ quad a b c d := by
          rw [← hlower]
          obtain hname | hname := hname
          · rw [hname]
            decide
          · rw [hname]
            decide
        exact absurd rfl (plain_of_mem_quad hmem).2.2.2.2.2
    | four _ text n h haddress hinternal =>
        rw [id, hhost] at h
        obtain rfl := hinjective h
        rw [ipv4?_quad ha hb hc hd] at haddress
        rw [Option.some.inj haddress]
        exact hinternal
    | sixteen hbracketed _ _ _ _ _ => exact absurd hbracketed hbare
  · intro h
    exact .four hbare (quad a b c d) _ hhost (ipv4?_quad ha hb hc hd) h

/-- **Which of the hosts in four decimal bytes are listed**: the internal ones except
    for all link-local ones but one. -/
theorem isListed_quad_iff {a b c d : Nat} (ha : a < 256) (hb : b < 256) (hc : c < 256)
    (hd : d < 256) : isListed (netlocLower ((quad a b c d).map .char)) = true
      ↔ InternalHost id ((quad a b c d).map .char) ∧ (a = 169 → c = 169 ∧ d = 254) := by
  rw [netlocLower_quad, isListed_map_iff, exists_start_quad_iff, exists_host_quad_iff,
    internalHost_quad_iff ha hb hc hd, internal4_bytes_iff hb hc hd]
  constructor
  · rintro ((⟨rfl, -⟩ | hzero | ⟨rfl, rfl, hrest⟩) | ⟨rfl, rfl⟩ | rfl | rfl | ⟨rfl, hrange⟩)
    · exact ⟨.inl rfl, by omega⟩
    · exact ⟨.inr (.inl hzero), by omega⟩
    · exact ⟨.inr (.inr (.inr (.inr (.inr ⟨rfl, rfl⟩)))), fun _ => hrest⟩
    · exact ⟨.inr (.inr (.inr (.inr (.inl ⟨rfl, rfl⟩)))), by omega⟩
    · exact ⟨.inr (.inr (.inl rfl)), by omega⟩
    · exact ⟨.inl rfl, by omega⟩
    · exact ⟨.inr (.inr (.inr (.inl ⟨rfl, hrange⟩))), by omega⟩
  · rintro ⟨rfl | hzero | rfl | ⟨rfl, hrange⟩ | ⟨rfl, rfl⟩ | ⟨rfl, rfl⟩, hlocal⟩
    · exact .inr (.inr (.inr (.inl rfl)))
    · exact .inl (.inr (.inl hzero))
    · exact .inr (.inr (.inl rfl))
    · exact .inr (.inr (.inr (.inr ⟨rfl, hrange⟩)))
    · exact .inr (.inl ⟨rfl, rfl⟩)
    · exact .inl (.inr (.inr ⟨rfl, rfl, hlocal rfl⟩))

theorem linkLocal_not_listed : ¬ isListed (netlocLower ((quad 169 254 1 1).map .char)) = true := by
  rw [isListed_quad_iff (by decide) (by decide) (by decide) (by decide)]
  exact fun h => absurd (h.2 rfl) (by decide)

end GenericWebCheckoutConnector

namespace SampleHandoff

def splitter : Url.Splitter where
  brackets _ := true
  nfkc := id

def loopback : WideText := ofString "http://[::1]/"

end SampleHandoff

open SampleHandoff GenericWebCheckoutConnector in
theorem loopback_accepted : ¬ ∀ out, validateHandoffUrl splitter loopback = .ok out →
    Safe splitter id out := by
  intro h
  obtain ⟨-, parsed, hsplit, -, -, hinternal⟩ := h loopback (by decide +kernel)
  have hparsed : Url.urlsplit splitter loopback
      = some ⟨ofString "http", ofString "[::1]"⟩ := by decide +kernel
  obtain rfl := Option.some.inj (hparsed.symm.trans hsplit)
  refine hinternal (.sixteen ?_ "::1".toList [0, 0, 0, 0, 0, 0, 0, 1] ?_ ?_ (.loopback rfl))
  · decide +kernel
  · decide +kernel
  · decide +kernel

end MandateGateway
