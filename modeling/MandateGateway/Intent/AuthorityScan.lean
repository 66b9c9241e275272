import MandateGateway.Intent.RawValue

/-! # Authority claims

    Two recursions keep the claims of an agent about its own authority out of an
    intent: the scan raises at a forbidden key, and the sanitizer drops it from
    the metadata.  The scan passes over every key `metadata`, whatever dictionary
    it is in, and looks into the dictionaries in a list, but not into the lists
    in a list.

    `visits` says what the scan looks at, in its order; `scan_eq_walk` that it
    raises at the first thing there which does not pass. -/

namespace MandateGateway

open WideText (ofString)

namespace IntentNormalizer

/-- `FORBIDDEN_AUTHORITY_KEYS`. -/
def forbiddenAuthorityKeys : List String :=
  ["authorized", "approved", "policy_passed", "mandate_valid", "budget_approved", "budget_ok",
    "skip_step_up", "skip_policy", "override_policy", "override_merchant", "payment_confirmed",
    "execution_allowed", "admin", "is_trusted", "system", "role", "security_approved"]

/-- The text is forbidden, up to case and surrounding whitespace. -/
def ForbiddenText (text : WideText) : Prop :=
  WideText.lower (WideText.strip text) ∈ forbiddenAuthorityKeys.map ofString

instance (text : WideText) : Decidable (ForbiddenText text) :=
  inferInstanceAs (Decidable (_ ∈ _))

def metadataKey : RawKey := RawDict.key "metadata"

def unauthorizedClaim (key path : WideText) : IntentError :=
  .securityViolation (ofString "Proposal contains unauthorized authority claim key '" ++ key
    ++ ofString "' at path '" ++ path ++ ofString "'.")

/-! ## The scan -/

mutual

/-- `_scan_for_authority_injections`, which may go so many dictionaries deeper. -/
def scanItems (room : Nat) (path : WideText) : RawDict → Except IntentError Unit
  | [] => .ok ()
  | (k, v) :: items =>
      if k = metadataKey then scanItems room path items
      else do
        let keyText ← k.text
        let currentPath := if path = [] then keyText else path ++ ofString "." ++ keyText
        if ForbiddenText keyText then .error (unauthorizedClaim keyText currentPath)
        else do
          scanValue room currentPath v
          scanItems room path items

def scanValue (room : Nat) (path : WideText) : RawValue → Except IntentError Unit
  | .dict items =>
      match room with
      | 0 => .error (.escaped .recursionError)
      | room + 1 => scanItems room path items
  | .list xs => scanElems room path 0 xs
  | _ => .ok ()

/-- Of a list, only the dictionaries are scanned. -/
def scanElems (room : Nat) (path : WideText) (idx : Nat) :
    List RawValue → Except IntentError Unit
  | [] => .ok ()
  | x :: xs => do
      scanElem room (path ++ ofString s!"[{idx}]") x
      scanElems room path (idx + 1) xs

def scanElem (room : Nat) (path : WideText) : RawValue → Except IntentError Unit
  | .dict items =>
      match room with
      | 0 => .error (.escaped .recursionError)
      | room + 1 => scanItems room path items
  | _ => .ok ()

end

/-! ## What the scan looks at -/

/-- The scan looks at a key, or is to enter a dictionary that is nested too deep. -/
inductive Visit where
  | key (k : RawKey)
  | tooDeep

mutual

/-- What the scan looks at in a dictionary, in its order. -/
def visits (room : Nat) : RawDict → List Visit
  | [] => []
  | (k, v) :: items =>
      (if k = metadataKey then [] else .key k :: visitsOfValue room v) ++ visits room items

def visitsOfValue (room : Nat) : RawValue → List Visit
  | .dict items =>
      match room with
      | 0 => [.tooDeep]
      | room + 1 => visits room items
  | .list xs => visitsOfElems room xs
  | _ => []

def visitsOfElems (room : Nat) : List RawValue → List Visit
  | [] => []
  | x :: xs => visitsOfElem room x ++ visitsOfElems room xs

def visitsOfElem (room : Nat) : RawValue → List Visit
  | .dict items =>
      match room with
      | 0 => [.tooDeep]
      | room + 1 => visits room items
  | _ => []

end

/-- What kind of error it is; of an error of the normalizer, not which. -/
def errorKind : IntentError → Option Escaped
  | .normalization _ _ => none
  | .escaped err => some err

def Visit.check : Visit → Except (Option Escaped) Unit
  | .tooDeep => .error (some .recursionError)
  | .key k =>
      match k.text with
      | .error err => .error (errorKind err)
      | .ok text => if ForbiddenText text then .error none else .ok ()

/-- The checks of visits in their order. -/
def walk : List Visit → Except (Option Escaped) Unit
  | [] => .ok ()
  | visit :: rest => do
      visit.check
      walk rest

theorem walk_append (xs ys : List Visit) :
    walk (xs ++ ys) = (do walk xs; walk ys) := by
  induction xs with
  | nil => rfl
  | cons visit xs ih =>
      rw [List.cons_append, walk, ih, walk]
      cases visit.check with
      | error err => rfl
      | ok checked => rfl

theorem mapError_seq {β γ : Type} (f : IntentError → Option Escaped) (x : Except IntentError β)
    (k : β → Except IntentError γ) :
    (x >>= k).mapError f = x.mapError f >>= fun a => (k a).mapError f := by
  cases x with
  | error err => rfl
  | ok a => rfl

mutual

/-- **The scan raises at the first visit that does not pass.** -/
theorem scan_eq_walk : ∀ (room : Nat) (path : WideText) (items : RawDict),
    (scanItems room path items).mapError errorKind = walk (visits room items)
  | room, path, [] => rfl
  | room, path, (k, v) :: items => by
      rw [scanItems, visits]
      by_cases hmetadata : k = metadataKey
      · rw [if_pos hmetadata, if_pos hmetadata, List.nil_append]
        exact scan_eq_walk room path items
      rw [if_neg hmetadata, if_neg hmetadata, List.cons_append, walk, Visit.check, mapError_seq]
      cases k.text with
      | error err => rfl
      | ok keyText =>
          by_cases hforbidden : ForbiddenText keyText
          · show Except.mapError errorKind (if ForbiddenText keyText then _ else _) = _
            rw [if_pos hforbidden]
            dsimp only
            rw [if_pos hforbidden]
            rfl
          · show Except.mapError errorKind (if ForbiddenText keyText then _ else _) = _
            rw [if_neg hforbidden, mapError_seq]
            dsimp only
            rw [if_neg hforbidden, scanValue_eq_walk, scan_eq_walk room path items]
            exact (walk_append _ _).symm

theorem scanValue_eq_walk : ∀ (room : Nat) (path : WideText) (v : RawValue),
    (scanValue room path v).mapError errorKind = walk (visitsOfValue room v)
  | 0, _, .dict _ => rfl
  | room + 1, path, .dict items => scan_eq_walk room path items
  | room, path, .list xs => scanElems_eq_walk room path 0 xs
  | _, _, .none => rfl
  | _, _, .bool _ => rfl
  | _, _, .int _ => rfl
  | _, _, .float _ => rfl
  | _, _, .str _ => rfl

theorem scanElems_eq_walk : ∀ (room : Nat) (path : WideText) (idx : Nat) (xs : List RawValue),
    (scanElems room path idx xs).mapError errorKind = walk (visitsOfElems room xs)
  | _, _, _, [] => rfl
  | room, path, idx, x :: xs => by
      rw [scanElems, visitsOfElems, walk_append, mapError_seq, scanElem_eq_walk]
      refine congrArg _ (funext fun _ => ?_)
      exact scanElems_eq_walk room path (idx + 1) xs

theorem scanElem_eq_walk : ∀ (room : Nat) (path : WideText) (v : RawValue),
    (scanElem room path v).mapError errorKind = walk (visitsOfElem room v)
  | 0, _, .dict _ => rfl
  | room + 1, path, .dict items => scan_eq_walk room path items
  | _, _, .list _ => rfl
  | _, _, .none => rfl
  | _, _, .bool _ => rfl
  | _, _, .int _ => rfl
  | _, _, .float _ => rfl
  | _, _, .str _ => rfl

end

/-! ## How the scan ends -/

def ForbiddenKey (k : RawKey) : Prop := ∃ text, k.text = .ok text ∧ ForbiddenText text

def Visit.Claims : Visit → Prop
  | .key k => ForbiddenKey k
  | .tooDeep => False

/-- The visit breaks a limit of the interpreter. -/
def Visit.Breaks : Visit → Prop
  | .key k => k.Unprintable
  | .tooDeep => True

/-- What a visit finds. -/
inductive Visit.Found (visit : Visit) : Prop where
  | nothing (hclaims : ¬ visit.Claims) (hbreaks : ¬ visit.Breaks)
      (hcheck : visit.check = .ok ())
  | claim (hclaims : visit.Claims) (hbreaks : ¬ visit.Breaks)
      (hcheck : visit.check = .error none)
  | limit (hclaims : ¬ visit.Claims) (hbreaks : visit.Breaks) (err : Escaped)
      (hcheck : visit.check = .error (some err))

theorem Visit.found (visit : Visit) : visit.Found := by
  cases visit with
  | tooDeep => exact .limit id trivial .recursionError rfl
  | key k =>
      rcases k.text_cases with ⟨hprintable, text, htext⟩ | ⟨hunprintable, htext⟩
      · by_cases hforbidden : ForbiddenText text
        · refine .claim ⟨text, htext, hforbidden⟩ hprintable ?_
          rw [Visit.check, htext]
          exact if_pos hforbidden
        · refine .nothing ?_ hprintable ?_
          · rintro ⟨text', htext', hforbidden'⟩
            rw [← Except.ok.inj (htext.symm.trans htext')] at hforbidden'
            exact hforbidden hforbidden'
          · rw [Visit.check, htext]
            exact if_neg hforbidden
      · refine .limit ?_ hunprintable .valueError ?_
        · rintro ⟨text, htext', -⟩
          rw [htext] at htext'
          cases htext'
        · rw [Visit.check, htext]
          rfl

theorem walk_eq_ok_iff {vs : List Visit} :
    walk vs = .ok () ↔ (∀ visit ∈ vs, ¬ visit.Claims) ∧ ∀ visit ∈ vs, ¬ visit.Breaks := by
  induction vs with
  | nil =>
      exact ⟨fun _ => ⟨fun _ h => absurd h List.not_mem_nil, fun _ h => absurd h List.not_mem_nil⟩,
        fun _ => rfl⟩
  | cons visit vs ih =>
      rw [walk, List.forall_mem_cons, List.forall_mem_cons]
      cases visit.found with
      | nothing hclaims hbreaks hcheck =>
          rw [hcheck, and_iff_right hclaims, and_iff_right hbreaks]
          exact ih
      | claim hclaims hbreaks hcheck =>
          rw [hcheck]
          refine ⟨fun h => ?_, fun h => absurd hclaims h.1.1⟩
          cases h
      | limit hclaims hbreaks err hcheck =>
          rw [hcheck]
          refine ⟨fun h => ?_, fun h => absurd hbreaks h.2.1⟩
          cases h

/-- Whatever breaks a limit comes after a claim. -/
def ClaimsFirst (vs : List Visit) : Prop :=
  ∀ before visit after, vs = before ++ visit :: after → visit.Breaks →
    ∃ claim ∈ before, claim.Claims

theorem claimsFirst_cons_of_nothing {visit : Visit} {vs : List Visit}
    (hclaims : ¬ visit.Claims) (hbreaks : ¬ visit.Breaks) :
    ClaimsFirst (visit :: vs) ↔ ClaimsFirst vs := by
  constructor
  · intro h before v after heq hv
    obtain ⟨claim, hmem, hclaim⟩ := h (visit :: before) v after (by rw [heq, List.cons_append]) hv
    rcases List.mem_cons.mp hmem with rfl | hmem
    · exact absurd hclaim hclaims
    · exact ⟨claim, hmem, hclaim⟩
  · intro h before v after heq hv
    cases before with
    | nil =>
        obtain ⟨rfl, -⟩ := List.cons.inj heq
        exact absurd hv hbreaks
    | cons first before =>
        obtain ⟨-, hrest⟩ := List.cons.inj heq
        obtain ⟨claim, hmem, hclaim⟩ := h before v after hrest hv
        exact ⟨claim, List.mem_cons_of_mem first hmem, hclaim⟩

theorem walk_ne_escaped_iff {vs : List Visit} :
    (∀ err, walk vs ≠ .error (some err)) ↔ ClaimsFirst vs := by
  induction vs with
  | nil =>
      refine ⟨fun _ before v after heq => ?_, fun _ err h => ?_⟩
      · cases before <;> cases heq
      · cases h
  | cons visit vs ih =>
      rw [walk]
      cases visit.found with
      | nothing hclaims hbreaks hcheck =>
          rw [hcheck, claimsFirst_cons_of_nothing hclaims hbreaks]
          exact ih
      | claim hclaims hbreaks hcheck =>
          rw [hcheck]
          refine ⟨fun _ before v after heq hv => ?_, fun _ err h => ?_⟩
          · cases before with
            | nil =>
                obtain ⟨rfl, -⟩ := List.cons.inj heq
                exact absurd hv hbreaks
            | cons first before =>
                obtain ⟨rfl, -⟩ := List.cons.inj heq
                exact ⟨visit, List.mem_cons_self, hclaims⟩
          · cases h
      | limit hclaims hbreaks err hcheck =>
          rw [hcheck]
          refine ⟨fun h => absurd rfl (h err), fun h => ?_⟩
          obtain ⟨claim, hmem, -⟩ := h [] visit vs rfl hbreaks
          exact absurd hmem List.not_mem_nil

theorem contained_iff_mapError {α : Type} {x : Except IntentError α} :
    Contained x ↔ ∀ err, x.mapError errorKind ≠ .error (some err) := by
  cases x with
  | ok a =>
      refine ⟨fun _ err h => ?_, fun _ => Exceptions.raises_ok _ a⟩
      cases h
  | error err =>
      rw [Contained, Exceptions.raises_error_iff]
      cases err with
      | normalization kind message =>
          refine ⟨fun _ err h => ?_, fun _ => trivial⟩
          cases h
      | escaped err => exact ⟨fun h => h.elim, fun h => absurd rfl (h err)⟩

/-- The scan finds a claim where it looks. -/
def Claimed (room : Nat) (d : RawDict) : Prop := ∃ visit ∈ visits room d, visit.Claims

def ScanFits (room : Nat) (d : RawDict) : Prop := ∀ visit ∈ visits room d, ¬ visit.Breaks

/-- **The scan passes** where it finds no claim and breaks no limit. -/
theorem scanItems_eq_ok_iff {room : Nat} {path : WideText} {d : RawDict} :
    scanItems room path d = .ok () ↔ ¬ Claimed room d ∧ ScanFits room d := by
  have hwalk : walk (visits room d) = .ok () ↔ ¬ Claimed room d ∧ ScanFits room d := by
    rw [walk_eq_ok_iff, Claimed, not_exists]
    simp only [not_and, ScanFits]
  rw [← hwalk, ← scan_eq_walk room path d]
  cases scanItems room path d with
  | error err =>
      refine ⟨fun h => ?_, fun h => ?_⟩
      · cases h
      · cases h
  | ok passed => exact ⟨fun _ => rfl, fun _ => rfl⟩

theorem scanItems_contained_iff {room : Nat} {path : WideText} {d : RawDict} :
    Contained (scanItems room path d) ↔ ClaimsFirst (visits room d) := by
  rw [contained_iff_mapError, scan_eq_walk, walk_ne_escaped_iff]

/-! ## The sanitizer -/

mutual

/-- `_sanitize_metadata` from what is clean already; it may go so many
    dictionaries deeper. -/
def sanitizeItems (room : Nat) (clean : RawDict) : RawDict → Except IntentError RawDict
  | [] => .ok clean
  | (k, v) :: items =>
      match k with
      | .str text =>
          let keyClean := WideText.strip text
          if WideText.lower keyClean ∈ forbiddenAuthorityKeys.map ofString then
            sanitizeItems room clean items
          else do
            match ← sanitizeValue room v with
            | some v' => sanitizeItems room (OrderedMap.setEntries (.str keyClean) v' clean) items
            | none => sanitizeItems room clean items
      | _ => sanitizeItems room clean items

/-- What is kept of a value: no list is. -/
def sanitizeValue (room : Nat) : RawValue → Except IntentError (Option RawValue)
  | .dict items =>
      match room with
      | 0 => .error (.escaped .recursionError)
      | room + 1 => (sanitizeItems room [] items).map fun clean => some (.dict clean)
  | .list _ => .ok none
  | v => .ok (some v)

end

def sanitizeMetadata (room : Nat) : RawValue → Except IntentError RawDict
  | .dict items => sanitizeItems room [] items
  | _ => .ok []

mutual

def keysOfValue : RawValue → List RawKey
  | .dict items => keysOf items
  | .list xs => keysOfElems xs
  | _ => []

def keysOf : RawDict → List RawKey
  | [] => []
  | (k, v) :: items => k :: keysOfValue v ++ keysOf items

def keysOfElems : List RawValue → List RawKey
  | [] => []
  | x :: xs => keysOfValue x ++ keysOfElems xs

end

mutual

/-- How deep the dictionaries are nested that the sanitizer enters. -/
def keptDepth : RawDict → Nat
  | [] => 0
  | (k, v) :: items =>
      match k with
      | .str text =>
          if ForbiddenText text then keptDepth items
          else max (keptDepthOfValue v) (keptDepth items)
      | _ => keptDepth items

def keptDepthOfValue : RawValue → Nat
  | .dict items => keptDepth items + 1
  | _ => 0

end

/-! ## What the sanitizer leaves -/

section
variable (room : Nat) (clean : RawDict) {text : WideText} (v : RawValue) (items : RawDict)

theorem sanitizeItems_of_forbidden (h : ForbiddenText text) :
    sanitizeItems room clean ((.str text, v) :: items) = sanitizeItems room clean items := by
  show (if ForbiddenText text then _ else _) = _
  rw [if_pos h]

theorem sanitizeItems_of_allowed (h : ¬ ForbiddenText text) :
    sanitizeItems room clean ((.str text, v) :: items) = (do
      match ← sanitizeValue room v with
      | some v' =>
          sanitizeItems room (OrderedMap.setEntries (.str (WideText.strip text)) v' clean) items
      | none => sanitizeItems room clean items) := by
  show (if ForbiddenText text then _ else _) = _
  rw [if_neg h]

end

mutual

theorem sanitizeItems_ends : ∀ (room : Nat) (clean items : RawDict),
    EndsBy (keptDepth items ≤ room) (sanitizeItems room clean items)
  | room, clean, [] => .inl ⟨Nat.zero_le room, clean, rfl⟩
  | room, clean, (k, v) :: items => by
      cases k with
      | none | bool _ | int _ | float _ => exact sanitizeItems_ends room clean items
      | str text =>
          have hdepth : keptDepth ((.str text, v) :: items)
              = if ForbiddenText text then keptDepth items
                else max (keptDepthOfValue v) (keptDepth items) := rfl
          rw [hdepth]
          by_cases hforbidden : ForbiddenText text
          · rw [if_pos hforbidden, sanitizeItems_of_forbidden room clean v items hforbidden]
            exact sanitizeItems_ends room clean items
          · rw [if_neg hforbidden, sanitizeItems_of_allowed room clean v items hforbidden]
            rcases sanitizeValue_ends room v with ⟨hfits, kept, hvalue⟩ | ⟨hdeep, err, hvalue⟩
            · rw [hvalue]
              -- a kept value does not change how deep the rest goes
              have hrest : ∀ clean', EndsBy (max (keptDepthOfValue v) (keptDepth items) ≤ room)
                  (sanitizeItems room clean' items) := by
                intro clean'
                have hmax : max (keptDepthOfValue v) (keptDepth items) ≤ room
                    ↔ keptDepth items ≤ room := by omega
                have hends := sanitizeItems_ends room clean' items
                rw [EndsBy] at hends ⊢
                rw [hmax]
                exact hends
              cases kept with
              | none => exact hrest clean
              | some v' => exact hrest _
            · rw [hvalue]
              exact .inr ⟨by omega, _, rfl⟩

theorem sanitizeValue_ends : ∀ (room : Nat) (v : RawValue),
    EndsBy (keptDepthOfValue v ≤ room) (sanitizeValue room v)
  | 0, .dict items => .inr ⟨by rw [keptDepthOfValue]; omega, _, rfl⟩
  | room + 1, .dict items => by
      rw [sanitizeValue, keptDepthOfValue]
      rcases sanitizeItems_ends room [] items with ⟨hfits, out, hout⟩ | ⟨hdeep, err, hout⟩
      · rw [hout]
        exact .inl ⟨by omega, _, rfl⟩
      · rw [hout]
        exact .inr ⟨by omega, _, rfl⟩
  | room, .list _ => .inl ⟨Nat.zero_le room, _, rfl⟩
  | room, .none => .inl ⟨Nat.zero_le room, _, rfl⟩
  | room, .bool _ => .inl ⟨Nat.zero_le room, _, rfl⟩
  | room, .int _ => .inl ⟨Nat.zero_le room, _, rfl⟩
  | room, .float _ => .inl ⟨Nat.zero_le room, _, rfl⟩
  | room, .str _ => .inl ⟨Nat.zero_le room, _, rfl⟩

end

theorem mem_keysOf_setEntries {key k : RawKey} {v : RawValue} {d : RawDict}
    (h : key ∈ keysOf (OrderedMap.setEntries k v d)) :
    key = k ∨ key ∈ keysOfValue v ∨ key ∈ keysOf d := by
  induction d with
  | nil =>
      rw [OrderedMap.setEntries, keysOf, keysOf, List.append_nil, List.mem_cons] at h
      exact h.imp_right .inl
  | cons item items ih =>
      obtain ⟨k', v'⟩ := item
      rw [OrderedMap.setEntries] at h
      rw [keysOf, List.mem_append, List.mem_cons]
      by_cases hkey : k' = k
      · rw [if_pos hkey, keysOf, List.mem_append, List.mem_cons] at h
        rcases h with (hhead | hvalue) | hrest
        · exact .inl hhead
        · exact .inr (.inl hvalue)
        · exact .inr (.inr (.inr hrest))
      · rw [if_neg hkey, keysOf, List.mem_append] at h
        rcases h with hhead | hrest
        · exact .inr (.inr (.inl (List.mem_cons.mp hhead)))
        · rcases ih hrest with hsame | hvalue | hold
          · exact .inl hsame
          · exact .inr (.inl hvalue)
          · exact .inr (.inr (.inr hold))

/-- No key claims authority, at any depth. -/
def Clean (d : RawDict) : Prop := ∀ key ∈ keysOf d, ¬ ForbiddenKey key

theorem forbiddenKey_strip_iff {text : WideText} :
    ForbiddenKey (.str (WideText.strip text)) ↔ ForbiddenText text := by
  constructor
  · rintro ⟨text', htext, hforbidden⟩
    obtain rfl := Except.ok.inj htext
    rw [ForbiddenText, WideText.strip_strip] at hforbidden
    exact hforbidden
  · intro h
    refine ⟨_, rfl, ?_⟩
    rw [ForbiddenText, WideText.strip_strip]
    exact h

mutual

/-- **The sanitizer leaves no claim,** at any depth. -/
theorem sanitizeItems_clean : ∀ (room : Nat) (clean items : RawDict) {out : RawDict},
    sanitizeItems room clean items = .ok out → Clean clean → Clean out
  | _, _, [], _, h, hclean => by
      obtain rfl := Except.ok.inj h
      exact hclean
  | room, clean, (k, v) :: items, out, h, hclean => by
      cases k with
      | none | bool _ | int _ | float _ => exact sanitizeItems_clean room clean items h hclean
      | str text =>
          by_cases hforbidden : ForbiddenText text
          · rw [sanitizeItems_of_forbidden room clean v items hforbidden] at h
            exact sanitizeItems_clean room clean items h hclean
          · rw [sanitizeItems_of_allowed room clean v items hforbidden] at h
            obtain ⟨kept, hvalue, h⟩ := Exceptions.seq_eq_ok_iff.mp h
            cases kept with
            | none => exact sanitizeItems_clean room clean items h hclean
            | some v' =>
                refine sanitizeItems_clean room _ items h fun key hkey => ?_
                rcases mem_keysOf_setEntries hkey with rfl | hvalue' | hold
                · exact forbiddenKey_strip_iff.not.mpr hforbidden
                · exact sanitizeValue_clean room v hvalue key hvalue'
                · exact hclean key hold

theorem sanitizeValue_clean : ∀ (room : Nat) (v : RawValue) {v' : RawValue},
    sanitizeValue room v = .ok (some v') → ∀ key ∈ keysOfValue v', ¬ ForbiddenKey key
  | 0, .dict _, _, h => by cases h
  | room + 1, .dict items, v', h => by
      obtain ⟨clean, hitems, hclean⟩ := Exceptions.map_eq_ok_iff.mp h
      obtain rfl := Option.some.inj hclean
      exact sanitizeItems_clean room [] items hitems fun _ hkey => absurd hkey List.not_mem_nil
  | _, .list _, _, h => by cases h
  | _, .none, _, h => by
      obtain rfl := Option.some.inj (Except.ok.inj h)
      exact fun _ hkey => absurd hkey List.not_mem_nil
  | _, .bool _, _, h => by
      obtain rfl := Option.some.inj (Except.ok.inj h)
      exact fun _ hkey => absurd hkey List.not_mem_nil
  | _, .int _, _, h => by
      obtain rfl := Option.some.inj (Except.ok.inj h)
      exact fun _ hkey => absurd hkey List.not_mem_nil
  | _, .float _, _, h => by
      obtain rfl := Option.some.inj (Except.ok.inj h)
      exact fun _ hkey => absurd hkey List.not_mem_nil
  | _, .str _, _, h => by
      obtain rfl := Option.some.inj (Except.ok.inj h)
      exact fun _ hkey => absurd hkey List.not_mem_nil

end

/-- How deep the metadata are nested that the sanitizer enters. -/
def metadataDepth : RawValue → Nat
  | .dict items => keptDepth items
  | _ => 0

theorem sanitizeMetadata_ends (room : Nat) (raw : RawValue) :
    EndsBy (metadataDepth raw ≤ room) (sanitizeMetadata room raw) := by
  cases raw with
  | dict items => exact sanitizeItems_ends room [] items
  | none | bool _ | int _ | float _ | str _ | list _ => exact .inl ⟨Nat.zero_le room, [], rfl⟩

theorem sanitizeMetadata_clean {room : Nat} {raw : RawValue} {out : RawDict}
    (h : sanitizeMetadata room raw = .ok out) : Clean out := by
  have hempty : Clean [] := fun _ hkey => absurd hkey List.not_mem_nil
  cases raw with
  | dict items => exact sanitizeItems_clean room [] items h hempty
  | none | bool _ | int _ | float _ | str _ | list _ =>
      obtain rfl := Except.ok.inj h
      exact hempty

end IntentNormalizer

end MandateGateway
