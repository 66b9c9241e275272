import MandateGateway.Intent.Acceptance

/-! # What claims of authority get past

    The metadata of an accepted intent are clean.  Outside of them a claim is to
    be refused (`KeepsOut`); but the scan looks under no key `metadata`, at
    whatever depth it is, and into no list that is in a list (`scannedKeys`).  A
    claim is refused exactly where one stands where the scan looks, or where the
    raw intent is refused for something else (`keepsOut_iff`). -/

namespace MandateGateway

open Exceptions
open WideText (ofString)

namespace IntentNormalizer

/-! ## Where the scan looks -/

mutual

def scannedKeys : RawDict → List RawKey
  | [] => []
  | (k, v) :: items =>
      (if k = metadataKey then [] else k :: scannedKeysOfValue v) ++ scannedKeys items

def scannedKeysOfValue : RawValue → List RawKey
  | .dict items => scannedKeys items
  | .list xs => scannedKeysOfElems xs
  | _ => []

def scannedKeysOfElems : List RawValue → List RawKey
  | [] => []
  | x :: xs => scannedKeysOfElem x ++ scannedKeysOfElems xs

def scannedKeysOfElem : RawValue → List RawKey
  | .dict items => scannedKeys items
  | _ => []

end

/-- No dictionary is too deep. -/
def Reached (vs : List Visit) : Prop := ∀ visit ∈ vs, ¬ visit.Breaks

theorem reached_append_iff {vs ws : List Visit} :
    Reached (vs ++ ws) ↔ Reached vs ∧ Reached ws :=
  List.forall_mem_append

theorem not_reached_tooDeep : ¬ Reached [.tooDeep] := fun h =>
  h .tooDeep List.mem_cons_self trivial

mutual

/-- **Where no limit is broken the scan visits these keys.** -/
theorem visits_eq : ∀ (room : Nat) (d : RawDict), Reached (visits room d) →
    visits room d = (scannedKeys d).map .key
  | _, [], _ => rfl
  | room, (k, v) :: items, h => by
      rw [visits, reached_append_iff] at h
      rw [visits, scannedKeys, List.map_append, visits_eq room items h.2]
      by_cases hmetadata : k = metadataKey
      · rw [if_pos hmetadata, if_pos hmetadata]
        rfl
      · rw [if_neg hmetadata] at h
        rw [if_neg hmetadata, if_neg hmetadata, List.map_cons,
          visitsOfValue_eq room v (List.forall_mem_cons.mp h.1).2]

theorem visitsOfValue_eq : ∀ (room : Nat) (v : RawValue), Reached (visitsOfValue room v) →
    visitsOfValue room v = (scannedKeysOfValue v).map .key
  | 0, .dict _, h => absurd h not_reached_tooDeep
  | room + 1, .dict items, h => visits_eq room items h
  | room, .list xs, h => visitsOfElems_eq_map room xs h
  | _, .none, _ => rfl
  | _, .bool _, _ => rfl
  | _, .int _, _ => rfl
  | _, .float _, _ => rfl
  | _, .str _, _ => rfl

theorem visitsOfElems_eq_map : ∀ (room : Nat) (xs : List RawValue),
    Reached (visitsOfElems room xs) → visitsOfElems room xs = (scannedKeysOfElems xs).map .key
  | _, [], _ => rfl
  | room, x :: xs, h => by
      rw [visitsOfElems, reached_append_iff] at h
      rw [visitsOfElems, scannedKeysOfElems, List.map_append, visitsOfElem_eq room x h.1,
        visitsOfElems_eq_map room xs h.2]

theorem visitsOfElem_eq : ∀ (room : Nat) (v : RawValue), Reached (visitsOfElem room v) →
    visitsOfElem room v = (scannedKeysOfElem v).map .key
  | 0, .dict _, h => absurd h not_reached_tooDeep
  | room + 1, .dict items, h => visits_eq room items h
  | _, .list _, _ => rfl
  | _, .none, _ => rfl
  | _, .bool _, _ => rfl
  | _, .int _, _ => rfl
  | _, .float _, _ => rfl
  | _, .str _, _ => rfl

end

/-- A claim is found where the scan looks. -/
theorem claimed_iff {room : Nat} {d : RawDict} (hfits : ScanFits room d) :
    Claimed room d ↔ ∃ k ∈ scannedKeys d, ForbiddenKey k := by
  rw [Claimed, visits_eq room d hfits]
  constructor
  · rintro ⟨visit, hvisit, hclaims⟩
    obtain ⟨k, hk, rfl⟩ := List.mem_map.mp hvisit
    exact ⟨k, hk, hclaims⟩
  · rintro ⟨k, hk, hforbidden⟩
    exact ⟨.key k, List.mem_map_of_mem hk, hforbidden⟩

/-! ## What is to be refused -/

def outsideKeys : RawDict → List RawKey
  | [] => []
  | (k, v) :: items =>
      k :: (match v with
        | .dict inner => if k = metadataKey then [] else keysOf inner
        | _ => keysOfValue v) ++ outsideKeys items

/-- A claim outside the metadata object is refused, and none is left in it. -/
structure KeepsOut (env : IntentEnv) (raw : RawIntent) : Prop where
  refused : ∀ d, treeOf env raw = some d → (∃ k ∈ outsideKeys d, ForbiddenKey k) →
    ∃ err, normalize env raw = .error err
  cleaned : ∀ proposal, normalize env raw = .ok proposal → Clean proposal.intent.metadata

/-- Claims outside its items apart, the raw intent would be accepted. -/
def Acceptable (env : IntentEnv) (raw : RawIntent) (d : RawDict) : Prop :=
  Sized env raw ∧ ScanFits env.scanRoom d
    ∧ ∃ header validated totals, ReadAs env d header validated totals

section
variable {env : IntentEnv} {raw : RawIntent}

theorem returns_iff_acceptable {d : RawDict} (htree : treeOf env raw = some d) :
    (∃ proposal, normalize env raw = .ok proposal)
      ↔ Acceptable env raw d ∧ ¬ ∃ k ∈ scannedKeys d, ForbiddenKey k := by
  constructor
  · rintro ⟨proposal, h⟩
    obtain ⟨d', header, validated, totals, haccepts, -⟩ := accepts_of_normalize h
    obtain rfl := Option.some.inj (htree.symm.trans haccepts.opens.tree)
    refine ⟨⟨haccepts.opens.sized, haccepts.opens.fits, header, validated, totals,
      haccepts.toReadAs⟩, ?_⟩
    rw [← claimed_iff haccepts.opens.fits]
    exact haccepts.opens.unclaimed
  · rintro ⟨⟨hsized, hfits, header, validated, totals, hread⟩, hclear⟩
    rw [← claimed_iff hfits] at hclear
    have haccepts : Accepts env raw d header validated totals :=
      ⟨hread, htree, hsized, hclear, hfits⟩
    obtain ⟨proposal, hproposal, -⟩ := normalize_of_accepts haccepts
    exact ⟨proposal, hproposal⟩

theorem not_forbiddenKey_operation : ¬ ForbiddenKey (RawDict.key "operation") := by
  rintro ⟨text, htext, hforbidden⟩
  obtain rfl := Except.ok.inj htext
  revert hforbidden
  decide +kernel

/-- **The metadata of an accepted intent hold no claim.** -/
theorem clean_of_normalize {proposal : NormalizedCommerceProposal}
    (h : normalize env raw = .ok proposal) : Clean proposal.intent.metadata := by
  obtain ⟨d, header, validated, totals, -, hproposal⟩ := accepts_of_normalize h
  obtain ⟨clean, hclean, hintent⟩ := hproposal.intent
  rw [hintent.metadata]
  intro key hkey
  rcases mem_keysOf_setEntries hkey with rfl | hvalue | hold
  · exact not_forbiddenKey_operation
  · exact absurd hvalue List.not_mem_nil
  · exact sanitizeMetadata_clean hclean key hold

end

/-- **Claims are kept out** exactly where, if there is one outside the metadata
    object, the scan looks at one, or the raw intent is not acceptable. -/
theorem keepsOut_iff (env : IntentEnv) (raw : RawIntent) :
    KeepsOut env raw ↔ ∀ d, treeOf env raw = some d → (∃ k ∈ outsideKeys d, ForbiddenKey k) →
      (∃ k ∈ scannedKeys d, ForbiddenKey k) ∨ ¬ Acceptable env raw d := by
  constructor
  · intro h d htree hclaim
    by_contra hneither
    rw [not_or, not_not] at hneither
    obtain ⟨proposal, hproposal⟩ := (returns_iff_acceptable htree).mpr ⟨hneither.2, hneither.1⟩
    obtain ⟨err, herr⟩ := h.refused d htree hclaim
    rw [hproposal] at herr
    cases herr
  · intro h
    refine ⟨fun d htree hclaim => ?_, fun proposal => clean_of_normalize⟩
    cases hnormalize : normalize env raw with
    | error err => exact ⟨err, rfl⟩
    | ok proposal =>
        obtain ⟨hacceptable, hclear⟩ := (returns_iff_acceptable htree).mp ⟨proposal, hnormalize⟩
        exact absurd (h d htree hclaim) (not_or.mpr ⟨hclear, not_not.mpr hacceptable⟩)

namespace Sample

def noted (note : RawValue) : RawIntent :=
  .value (.dict (order [line "book-17" (.int 1)] ++ [field "notes" note]))

def admin : RawValue := .dict [field "admin" (.bool true)]

theorem admin_forbidden : ForbiddenKey (RawDict.key "admin") := ⟨_, rfl, by decide +kernel⟩

theorem noted_accepted {note : RawValue}
    (h : (normalize env (noted note)).map (fun _ => ()) = .ok ()) :
    ∀ err, normalize env (noted note) ≠ .error err := by
  obtain ⟨proposal, hproposal, -⟩ := map_eq_ok_iff.mp h
  intro err herr
  rw [hproposal] at herr
  cases herr

/-- **The claim of an agent to be an admin gets past** in a list in a list, and
    under a key `metadata` further down. -/
theorem not_keepsOut_admin :
    ¬ KeepsOut env (noted (.list [.list [admin]]))
      ∧ ¬ KeepsOut env (noted (.dict [field "metadata" admin])) := by
  constructor
  · intro h
    obtain ⟨err, herr⟩ := h.refused _ rfl ⟨_, by decide +kernel, admin_forbidden⟩
    exact noted_accepted (by decide +kernel) err herr
  · intro h
    obtain ⟨err, herr⟩ := h.refused _ rfl ⟨_, by decide +kernel, admin_forbidden⟩
    exact noted_accepted (by decide +kernel) err herr

end Sample

end IntentNormalizer

end MandateGateway
