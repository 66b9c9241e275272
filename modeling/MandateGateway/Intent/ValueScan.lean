import MandateGateway.Intent.RawValue

/-! # Scans of raw values

    Several checks go through a value in the same way: every key and every text
    of it is looked at, in the order in which they stand, whatever lists and
    dictionaries they are nested in. -/

namespace MandateGateway

namespace RawValue

variable {ε : Type}

mutual

/-- Look at the keys and the texts of a value, which may nest so many lists and
    dictionaries. -/
def scan (onKey : RawKey → Except ε Unit) (onText : WideText → Except ε Unit) (tooDeep : ε)
    (room : Nat) : RawValue → Except ε Unit
  | .str s => onText s
  | .list xs =>
      match room with
      | 0 => .error tooDeep
      | room + 1 => scanElems onKey onText tooDeep room xs
  | .dict items =>
      match room with
      | 0 => .error tooDeep
      | room + 1 => scanItems onKey onText tooDeep room items
  | _ => .ok ()

def scanElems (onKey : RawKey → Except ε Unit) (onText : WideText → Except ε Unit) (tooDeep : ε)
    (room : Nat) : List RawValue → Except ε Unit
  | [] => .ok ()
  | x :: xs => do
      scan onKey onText tooDeep room x
      scanElems onKey onText tooDeep room xs

def scanItems (onKey : RawKey → Except ε Unit) (onText : WideText → Except ε Unit) (tooDeep : ε)
    (room : Nat) : List (RawKey × RawValue) → Except ε Unit
  | [] => .ok ()
  | (k, v) :: items => do
      onKey k
      scan onKey onText tooDeep room v
      scanItems onKey onText tooDeep room items

end

mutual

def keys : RawValue → List RawKey
  | .list xs => keysElems xs
  | .dict items => keysItems items
  | _ => []

def keysElems : List RawValue → List RawKey
  | [] => []
  | x :: xs => keys x ++ keysElems xs

def keysItems : List (RawKey × RawValue) → List RawKey
  | [] => []
  | (k, v) :: items => k :: (keys v ++ keysItems items)

end

mutual

/-- The texts of a value, at any depth, without those that are keys. -/
def texts : RawValue → List WideText
  | .str s => [s]
  | .list xs => textsElems xs
  | .dict items => textsItems items
  | _ => []

def textsElems : List RawValue → List WideText
  | [] => []
  | x :: xs => texts x ++ textsElems xs

def textsItems : List (RawKey × RawValue) → List WideText
  | [] => []
  | (_, v) :: items => texts v ++ textsItems items

end

section
variable {onKey : RawKey → Except ε Unit} {onText : WideText → Except ε Unit} {tooDeep : ε}

mutual

/-- **A scan passes** where every key and every text does, at any depth that there
    is room for. -/
theorem scan_eq_ok_iff : ∀ (room : Nat) (v : RawValue),
    scan onKey onText tooDeep room v = .ok ()
      ↔ v.depth ≤ room ∧ (∀ k ∈ v.keys, onKey k = .ok ()) ∧ ∀ s ∈ v.texts, onText s = .ok ()
  | room, .none => by simp [scan, depth, keys, texts]
  | room, .bool _ => by simp [scan, depth, keys, texts]
  | room, .int _ => by simp [scan, depth, keys, texts]
  | room, .float _ => by simp [scan, depth, keys, texts]
  | room, .str s => by simp [scan, depth, keys, texts]
  | 0, .list xs => by simp [scan, depth]
  | 0, .dict items => by simp [scan, depth]
  | room + 1, .list xs => by
      rw [scan, depth, Nat.succ_le_succ_iff]
      exact scanElems_eq_ok_iff room xs
  | room + 1, .dict items => by
      rw [scan, depth, Nat.succ_le_succ_iff]
      exact scanItems_eq_ok_iff room items

theorem scanElems_eq_ok_iff : ∀ (room : Nat) (xs : List RawValue),
    scanElems onKey onText tooDeep room xs = .ok ()
      ↔ depthElems xs ≤ room ∧ (∀ k ∈ keysElems xs, onKey k = .ok ())
        ∧ ∀ s ∈ textsElems xs, onText s = .ok ()
  | room, [] => by simp [scanElems, depthElems, keysElems, textsElems]
  | room, x :: xs => by
      rw [scanElems, Exceptions.seq_unit_eq_ok_iff, scan_eq_ok_iff room x,
        scanElems_eq_ok_iff room xs, depthElems, keysElems, textsElems, Nat.max_le,
        List.forall_mem_append, List.forall_mem_append]
      constructor
      · rintro ⟨⟨hd, hk, ht⟩, hds, hks, hts⟩
        exact ⟨⟨hd, hds⟩, ⟨hk, hks⟩, ht, hts⟩
      · rintro ⟨⟨hd, hds⟩, ⟨hk, hks⟩, ht, hts⟩
        exact ⟨⟨hd, hk, ht⟩, hds, hks, hts⟩

theorem scanItems_eq_ok_iff : ∀ (room : Nat) (items : List (RawKey × RawValue)),
    scanItems onKey onText tooDeep room items = .ok ()
      ↔ depthItems items ≤ room ∧ (∀ k ∈ keysItems items, onKey k = .ok ())
        ∧ ∀ s ∈ textsItems items, onText s = .ok ()
  | room, [] => by simp [scanItems, depthItems, keysItems, textsItems]
  | room, (k, v) :: items => by
      rw [scanItems, Exceptions.seq_unit_eq_ok_iff, Exceptions.seq_unit_eq_ok_iff,
        scan_eq_ok_iff room v, scanItems_eq_ok_iff room items, depthItems, keysItems, textsItems,
        Nat.max_le, List.forall_mem_cons, List.forall_mem_append, List.forall_mem_append]
      constructor
      · rintro ⟨hkey, ⟨hd, hk, ht⟩, hds, hks, hts⟩
        exact ⟨⟨hd, hds⟩, ⟨hkey, hk, hks⟩, ht, hts⟩
      · rintro ⟨⟨hd, hds⟩, ⟨hkey, hk, hks⟩, ht, hts⟩
        exact ⟨hkey, ⟨hd, hk, ht⟩, hds, hks, hts⟩

end

end

/-! ## Scans of the keys -/

mutual

/-- The keys that a scan comes to, in the order in which it does; `.none` is where there
    is no room left. -/
def visits (room : Nat) : RawValue → List (Option RawKey)
  | .list xs =>
      match room with
      | 0 => [.none]
      | room + 1 => visitsElems room xs
  | .dict items =>
      match room with
      | 0 => [.none]
      | room + 1 => visitsItems room items
  | _ => []

def visitsElems (room : Nat) : List RawValue → List (Option RawKey)
  | [] => []
  | x :: xs => visits room x ++ visitsElems room xs

def visitsItems (room : Nat) : List (RawKey × RawValue) → List (Option RawKey)
  | [] => []
  | (k, v) :: items => some k :: (visits room v ++ visitsItems room items)

end

section
variable (onKey : RawKey → Except ε Unit) (tooDeep : ε)

/-- One key after the other. -/
def walkKeys : List (Option RawKey) → Except ε Unit
  | [] => .ok ()
  | .none :: _ => .error tooDeep
  | some k :: rest => do
      onKey k
      walkKeys rest

theorem walkKeys_append (before after : List (Option RawKey)) :
    walkKeys onKey tooDeep (before ++ after) = (do
      walkKeys onKey tooDeep before
      walkKeys onKey tooDeep after) := by
  induction before with
  | nil => rfl
  | cons visit before ih =>
      cases visit with
      | none => rfl
      | some k =>
          rw [List.cons_append, walkKeys, walkKeys, ih]
          cases onKey k with
          | error err => rfl
          | ok _ => rfl

mutual

theorem scan_eq_walkKeys : ∀ (room : Nat) (v : RawValue),
    scan onKey (fun _ => .ok ()) tooDeep room v = walkKeys onKey tooDeep (visits room v)
  | _, .none => rfl
  | _, .bool _ => rfl
  | _, .int _ => rfl
  | _, .float _ => rfl
  | _, .str _ => rfl
  | 0, .list _ => rfl
  | 0, .dict _ => rfl
  | room + 1, .list xs => scanElems_eq_walkKeys room xs
  | room + 1, .dict items => scanItems_eq_walkKeys room items

theorem scanElems_eq_walkKeys : ∀ (room : Nat) (xs : List RawValue),
    scanElems onKey (fun _ => .ok ()) tooDeep room xs
      = walkKeys onKey tooDeep (visitsElems room xs)
  | _, [] => rfl
  | room, x :: xs => by
      rw [scanElems, visitsElems, walkKeys_append, scan_eq_walkKeys room x,
        scanElems_eq_walkKeys room xs]

theorem scanItems_eq_walkKeys : ∀ (room : Nat) (items : List (RawKey × RawValue)),
    scanItems onKey (fun _ => .ok ()) tooDeep room items
      = walkKeys onKey tooDeep (visitsItems room items)
  | _, [] => rfl
  | room, (k, v) :: items => by
      rw [scanItems, visitsItems, walkKeys, walkKeys_append, scan_eq_walkKeys room v,
        scanItems_eq_walkKeys room items]

end

/-- A key that is refused comes before the room is used up: what is reached through keys
    that are not refused is a key. -/
def RefusesFirst (Bad : RawKey → Prop) (vs : List (Option RawKey)) : Prop :=
  Exceptions.Reached (fun visit => ∀ k, visit = some k → ¬ Bad k) (fun visit => visit ≠ .none) vs

theorem refusesFirst_cons_iff {Bad : RawKey → Prop} {k : RawKey} {vs : List (Option RawKey)} :
    RefusesFirst Bad (some k :: vs) ↔ (¬ Bad k → RefusesFirst Bad vs) := by
  rw [RefusesFirst, Exceptions.reached_cons_iff, and_iff_right (Option.some_ne_none k)]
  refine imp_congr_left ⟨fun h => h k rfl, fun h k' heq => ?_⟩
  rw [← Option.some.inj heq]
  exact h

/-- **A scan of the keys raises no more than its check does** exactly when it is never
    short of room before a key is refused. -/
theorem raises_walkKeys_iff {P : ε → Prop} {Bad : RawKey → Prop} (hdeep : ¬ P tooDeep)
    (hraises : ∀ k, Exceptions.Raises P (onKey k)) (hbad : ∀ k, onKey k = .ok () ↔ ¬ Bad k)
    (vs : List (Option RawKey)) :
    Exceptions.Raises P (walkKeys onKey tooDeep vs) ↔ RefusesFirst Bad vs := by
  induction vs with
  | nil => exact iff_of_true (Exceptions.raises_ok _ _) (Exceptions.reached_nil _ _)
  | cons visit vs ih =>
      cases visit with
      | none =>
          refine iff_of_false (fun h => hdeep (Exceptions.raises_error_iff.mp h)) fun h => ?_
          exact (Exceptions.reached_cons_iff.mp h).1 rfl
      | some k =>
          rw [refusesFirst_cons_iff, ← ih, walkKeys, Exceptions.raises_seq_iff,
            and_iff_right (hraises k), ← hbad k]
          exact ⟨fun h hok => h () hok, fun h _ hok => h hok⟩

end

end RawValue

end MandateGateway
