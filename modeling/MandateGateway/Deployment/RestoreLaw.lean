import MandateGateway.Deployment.BackupRestore

/-! # What a restore gives back

    A row is read back cell by cell (`parseRow_serializeRow`), and a restore of an
    exported snapshot leaves the source's rows in the exported tables and the
    target's own in the others (`insertAll_export`).

    * `restore_law`: the tables come back exactly when the others agree already,
      and a snapshot that was altered is refused exactly when its checksum was
      not cleared. -/

namespace MandateGateway

open Clock HashChain Json Json.Tree

namespace BackupRestoreManager

/-! ## Cells and rows are read back -/

theorem eq_dateTime_of_mem_sql {type : ColumnType} (h : 'M' ∈ type.sql.toList) :
    type = .dateTime := by
  cases type with
  | dateTime => rfl
  | string length =>
      have hsql : (ColumnType.string length).sql
          = "VARCHAR(" ++ toString length ++ ")" := rfl
      rw [hsql, String.toList_append, String.toList_append, List.mem_append, List.mem_append,
        Nat.toString_eq_repr, Nat.toList_repr] at h
      rcases h with (h | h) | h
      · exact absurd h (by decide)
      · exact absurd (Nat.isDigit_of_mem_toDigits (by decide) (by decide) h) (by decide)
      · exact absurd h (by decide)
  | text => exact absurd h (by decide)
  | bigInteger => exact absurd h (by decide)
  | boolean => exact absurd h (by decide)

theorem type_of_named (t : TableName) :
    ∀ col ∈ t.columns, "_at".toList <:+ col.name.toList ∨ col.name = "timestamp" →
      col.type = .dateTime := by
  cases t <;> decide +kernel

theorem type_of_isDatetime (t : TableName) :
    ∀ col ∈ t.columns, isDatetime col = true → col.type = .dateTime := by
  intro col hcol h
  have hname := type_of_named t col hcol
  have hsql : ∀ needle : String, 'M' ∈ needle.toList →
      Text.occursIn needle col.type.sql = true → col.type = .dateTime := by
    intro needle hneedle hoccurs
    exact eq_dateTime_of_mem_sql ((of_decide_eq_true hoccurs).subset hneedle)
  rw [isDatetime, Bool.or_eq_true, Bool.or_eq_true, Bool.or_eq_true, Bool.or_eq_true] at h
  rcases h with (((htype | hsuffix) | htimestamp) | hdatetime) | htimestamp
  · exact eq_of_beq htype
  · exact hname (.inl (of_decide_eq_true hsuffix))
  · exact hname (.inr (eq_of_beq htimestamp))
  · exact hsql "DATETIME" (by decide) hdatetime
  · exact hsql "TIMESTAMP" (by decide) htimestamp

variable {reader : DatetimeReader}

/-- **What a column holds is read back as it was.** -/
theorem parseCell_serializeCell {t : TableName} {col : Column} (hcol : col ∈ t.columns) {x : Cell}
    (h : col.holds x = true) : parseCell reader col (some (serializeCell x)) = x := by
  rw [Column.holds, Bool.or_eq_true, Bool.and_eq_true] at h
  cases x with
  | datetime d =>
      have htype : col.type = .dateTime := by
        rcases h with h | ⟨-, h⟩
        · cases htype : col.type <;> rw [htype] at h <;> first | rfl | cases h
        · cases h
      have hparsed : isDatetime col = true := by
        rw [isDatetime, htype]
        rfl
      rw [serializeCell, parseCell, if_pos hparsed, reader.read_isoformat]
  | value v =>
      cases v with
      | str s =>
          -- no column of texts has the name of a time
          have hplain : ¬ isDatetime col = true := by
            intro hparsed
            have htype := type_of_isDatetime t col hcol hparsed
            rcases h with h | ⟨-, h⟩
            · rw [htype] at h
              cases h
            · cases h
          rw [serializeCell, parseCell, if_neg hplain]
      | null => rfl
      | bool b => rfl
      | num n => rfl
      | arr xs => rfl
      | obj ms => rfl

theorem map_of_forall_zip {columns : List Column} {cells : List Cell} {f : Column → Cell}
    (hall : Column.holdsAll columns cells = true) (h : ∀ p ∈ columns.zip cells, f p.1 = p.2) :
    columns.map f = cells := by
  induction columns generalizing cells with
  | nil =>
      cases cells with
      | nil => rfl
      | cons x xs => cases hall
  | cons c cs ih =>
      cases cells with
      | nil => cases hall
      | cons x xs =>
          rw [Column.holdsAll, Bool.and_eq_true] at hall
          rw [List.zip_cons_cons, List.forall_mem_cons] at h
          rw [List.map_cons, h.1, ih hall.2 h.2]

/-- **A row is read back from its dictionary.** -/
theorem parseRow_serializeRow {t : TableName} (r : Row t) :
    parseRow reader t (serializeRow r).members = r.cells := by
  refine map_of_forall_zip r.holds ?_
  intro p hp
  have hkeys : ((serializeCells t.columns r.cells).map Prod.fst).Nodup := by
    have hnames := keys_serializeCells r.holds
    rw [keys] at hnames
    rw [hnames]
    exact t.nodup_columns
  have hlookup : OrderedMap.lookupEntries p.1.name (serializeRow r).members
      = some (serializeCell p.2) :=
    OrderedMap.lookupEntries_of_mem hkeys (List.mem_map.mpr ⟨p, hp, rfl⟩)
  rw [hlookup]
  exact parseCell_serializeCell (List.of_mem_zip hp).1 (holds_of_mem_zip r.holds p hp)

variable {env : RestoreEnv}

theorem parseRows_map {t : TableName} (rows : List (Row t)) :
    parseRows env t (rows.map serializeRow) = .ok rows := by
  induction rows with
  | nil => rfl
  | cons r rows ih =>
      have hstore : env.store t (parseRow env.reader t (serializeRow r).members) = .ok r := by
        rw [parseRow_serializeRow]
        exact env.store_cells t r
      rw [List.map_cons, parseRows, hstore, ih]
      rfl

/-! ## Tables -/

/-- The tables of the three lists. -/
def Exported (t : TableName) : Prop := t ∈ insertSpecs.map Prod.fst

instance : DecidablePred Exported :=
  fun t => inferInstanceAs (Decidable (t ∈ insertSpecs.map Prod.fst))

/-- **Two tables are in none of the lists.** -/
theorem exported_iff (t : TableName) : Exported t ↔ t ≠ .apiCredentials ∧ t ≠ .webhookEvents := by
  cases t <;> decide

theorem exported_iff_wiped (t : TableName) : Exported t ↔ t ∈ wipeModels := by
  cases t <;> decide

theorem model_of_insertSpecs : ∀ spec ∈ insertSpecs, spec.2.model = spec.1 := by
  decide

/-- The source's rows in the exported tables, and the target's in the others. -/
def overlay (source target : PersistentDb) : PersistentDb := fun t =>
  if Exported t then source t else target t

variable {ts : String} {source target : PersistentDb} {wipeExisting : Bool}

theorem insertAll_of_specs {specs : List (TableName × SnapshotField)}
    (hnodup : (specs.map Prod.fst).Nodup) (hmodel : ∀ spec ∈ specs, spec.2.model = spec.1)
    (db : PersistentDb) :
    insertAll env (exportDatabaseSnapshot env.sha256 ts source) specs db
      = .ok fun t => if t ∈ specs.map Prod.fst then db t ++ source t else db t := by
  induction specs generalizing db with
  | nil => rfl
  | cons spec specs ih =>
      obtain ⟨t, field⟩ := spec
      rw [List.forall_mem_cons] at hmodel
      rw [List.map_cons, List.nodup_cons] at hnodup
      obtain rfl : field.model = t := hmodel.1
      have hparsed : parseRows env field.model
          ((exportDatabaseSnapshot env.sha256 ts source).rows field) = .ok (source field.model) :=
        parseRows_map (source field.model)
      have hrest := ih hnodup.2 hmodel.2
        (Function.update db field.model (db field.model ++ source field.model))
      rw [insertAll, hparsed]
      refine hrest.trans (congrArg Except.ok (funext fun t => ?_))
      by_cases hself : t = field.model
      · subst hself
        rw [if_neg hnodup.1, Function.update_self, List.map_cons, if_pos List.mem_cons_self]
      · have hmem : t ∈ field.model :: specs.map Prod.fst ↔ t ∈ specs.map Prod.fst := by
          rw [List.mem_cons]
          exact or_iff_right hself
        rw [Function.update_of_ne hself, List.map_cons, if_congr hmem rfl rfl]

/-- The call wipes the target, or the tables that it restores are empty. -/
def Clears (wipeExisting : Bool) (target : PersistentDb) : Prop :=
  wipeExisting = true ∨ ∀ t, Exported t → target t = []

/-- What is there when the rows are added. -/
def cleared (wipeExisting : Bool) (target : PersistentDb) : PersistentDb :=
  if wipeExisting then wipe wipeModels target else target

theorem cleared_of_exported (h : Clears wipeExisting target) {t : TableName} (ht : Exported t) :
    cleared wipeExisting target t = [] := by
  rw [cleared]
  rcases h with rfl | hempty
  · rw [if_pos rfl, wipe, if_pos ((exported_iff_wiped t).mp ht)]
  · cases wipeExisting with
    | true => rw [if_pos rfl, wipe, if_pos ((exported_iff_wiped t).mp ht)]
    | false => exact hempty t ht

theorem cleared_of_not_exported {t : TableName} (ht : ¬ Exported t) :
    cleared wipeExisting target t = target t := by
  rw [cleared]
  cases wipeExisting with
  | true => rw [if_pos rfl, wipe, if_neg fun hwiped => ht ((exported_iff_wiped t).mpr hwiped)]
  | false => rfl

/-- **What the rows of an exported snapshot make of a cleared target.** -/
theorem insertAll_export (h : Clears wipeExisting target) :
    insertAll env (exportDatabaseSnapshot env.sha256 ts source) insertSpecs
        (cleared wipeExisting target)
      = .ok (overlay source target) := by
  rw [insertAll_of_specs (by decide) model_of_insertSpecs]
  refine congrArg Except.ok (funext fun t => ?_)
  show (if Exported t then _ else _) = if Exported t then _ else _
  by_cases ht : Exported t
  · rw [if_pos ht, if_pos ht, cleared_of_exported h ht, List.nil_append]
  · rw [if_neg ht, if_neg ht, cleared_of_not_exported ht]

/-! ## The round trip -/

def LedgerVerifies (env : RestoreEnv) (db : PersistentDb) : Prop :=
  ∃ reason, verifyChainOf env db = .ok (true, reason)

/-- The restore of what is exported returns, and leaves the source's rows in
    every table. -/
def RoundTrips (env : RestoreEnv) (ts : String) (source : PersistentDb) (wipeExisting : Bool)
    (target : PersistentDb) : Prop :=
  let restored := restoreDatabaseSnapshot env (exportDatabaseSnapshot env.sha256 ts source)
    wipeExisting target
  (∃ answer, restored.1 = .ok answer) ∧ ∀ t, restored.2 t = source t

/-- The tables that are in none of the lists hold the source's rows already. -/
structure OthersAgree (source target : PersistentDb) : Prop where
  apiCredentials : target .apiCredentials = source .apiCredentials
  webhookEvents  : target .webhookEvents = source .webhookEvents

theorem othersAgree_iff : OthersAgree source target ↔ overlay source target = source := by
  constructor
  · intro h
    refine funext fun t => ?_
    rw [overlay]
    by_cases ht : Exported t
    · rw [if_pos ht]
    · rw [if_neg ht]
      rw [exported_iff, not_and_or, not_not, not_not] at ht
      rcases ht with rfl | rfl
      · exact h.apiCredentials
      · exact h.webhookEvents
  · intro h
    have hother : ∀ t, ¬ Exported t → target t = source t := by
      intro t ht
      have hrows := congrFun h t
      rw [overlay, if_neg ht] at hrows
      exact hrows
    exact ⟨hother _ (by decide), hother _ (by decide)⟩

theorem exists_verifyRestoreIntegrity_iff :
    (∃ report, verifyRestoreIntegrity env (overlay source target)
        (exportDatabaseSnapshot env.sha256 ts source) = .ok report)
      ↔ LedgerVerifies env source := by
  have htransactions : overlay source target .transactions = source .transactions :=
    if_pos (by decide)
  have haudit : verifyChainOf env (overlay source target) = verifyChainOf env source := by
    have hevents : overlay source target .auditEvents = source .auditEvents := if_pos (by decide)
    rw [verifyChainOf, verifyChainOf, hevents]
  have hcount : ¬ (overlay source target .transactions).length
      ≠ ((exportDatabaseSnapshot env.sha256 ts source).rows .transactions).length := by
    rw [htransactions]
    exact not_not.mpr (List.length_map serializeRow).symm
  rw [verifyRestoreIntegrity, if_neg hcount, haudit, LedgerVerifies]
  cases verifyChainOf env source with
  | error err =>
      constructor
      · rintro ⟨report, h⟩
        cases h
      · rintro ⟨reason, h⟩
        cases h
  | ok result =>
      obtain ⟨valid, reason⟩ := result
      cases valid with
      | true => exact ⟨fun _ => ⟨reason, rfl⟩, fun _ => ⟨_, rfl⟩⟩
      | false =>
          constructor
          · rintro ⟨report, h⟩
            cases h
          · rintro ⟨reason', h⟩
            cases h

theorem restore_export (h : Clears wipeExisting target) :
    restoreDatabaseSnapshot env (exportDatabaseSnapshot env.sha256 ts source) wipeExisting target
      = match env.flush (cleared wipeExisting target) (overlay source target) with
        | some text => (.error (.databaseError text), target)
        | none =>
            match verifyRestoreIntegrity env (overlay source target)
                (exportDatabaseSnapshot env.sha256 ts source) with
            | .error err => (.error err, overlay source target)
            | .ok integrityRes =>
                (.ok {
                  status := "RESTORED"
                  restoredRecordsCount := (insertSpecs.map fun spec =>
                    ((exportDatabaseSnapshot env.sha256 ts source).rows spec.2).length).sum
                  snapshotChecksum :=
                    (exportDatabaseSnapshot env.sha256 ts source).snapshotChecksum
                  integrityVerification := integrityRes }, overlay source target) := by
  have hguard : ¬ ((exportDatabaseSnapshot env.sha256 ts source).snapshotChecksum ≠ ""
      ∧ (exportDatabaseSnapshot env.sha256 ts source).snapshotChecksum
        ≠ (exportDatabaseSnapshot env.sha256 ts source).computeChecksum env.sha256) :=
    fun hguard => hguard.2 rfl
  have hinsert : insertAll env (exportDatabaseSnapshot env.sha256 ts source) insertSpecs
      (cleared wipeExisting target) = .ok (overlay source target) := insertAll_export h
  rw [cleared] at hinsert
  rw [restoreDatabaseSnapshot, if_neg hguard]
  simp only [hinsert]
  rfl

/-- **The round trip**, of a cleared target. -/
theorem roundTrips_iff (h : Clears wipeExisting target) :
    RoundTrips env ts source wipeExisting target
      ↔ OthersAgree source target ∧ env.flush (cleared wipeExisting target) source = none
        ∧ LedgerVerifies env source := by
  rw [RoundTrips, restore_export h]
  cases hflush : env.flush (cleared wipeExisting target) (overlay source target) with
  | some text =>
      refine iff_of_false ?_ ?_
      · rintro ⟨⟨answer, hanswer⟩, -⟩
        cases hanswer
      · rintro ⟨hagree, haccepted, -⟩
        rw [othersAgree_iff.mp hagree, haccepted] at hflush
        cases hflush
  | none =>
      cases hverify : verifyRestoreIntegrity env (overlay source target)
          (exportDatabaseSnapshot env.sha256 ts source) with
      | error err =>
          refine iff_of_false ?_ ?_
          · rintro ⟨⟨answer, hanswer⟩, -⟩
            cases hanswer
          · rintro ⟨-, -, hledger⟩
            obtain ⟨report, hreport⟩ := exists_verifyRestoreIntegrity_iff.mpr hledger
            rw [hverify] at hreport
            cases hreport
      | ok report =>
          have hledger := exists_verifyRestoreIntegrity_iff.mp ⟨report, hverify⟩
          constructor
          · rintro ⟨-, hrows⟩
            have hsource : overlay source target = source := funext hrows
            rw [hsource] at hflush
            exact ⟨othersAgree_iff.mpr hsource, hflush, hledger⟩
          · rintro ⟨hagree, -, -⟩
            exact ⟨⟨_, rfl⟩, congrFun (othersAgree_iff.mp hagree)⟩

/-! ## Altered snapshots -/

/-- Equal contents: the order of the members of a row does not count. -/
def SameTables (original snapshot : BackupSnapshot) : Prop :=
  ∀ field, Same (original.tableTree field) (snapshot.tableTree field)

/-- The contents differ from those that the checksum was computed over, and the
    checksum is kept or cleared. -/
structure Altered (sha256 : String → String) (original snapshot : BackupSnapshot) : Prop where
  differ   : ¬ SameTables original snapshot
  checksum : snapshot.snapshotChecksum = original.computeChecksum sha256
    ∨ snapshot.snapshotChecksum = ""

/-- The call raises for the checksum, with nothing changed. -/
def Refuses (env : RestoreEnv) (snapshot : BackupSnapshot) (wipeExisting : Bool)
    (target : PersistentDb) : Prop :=
  restoreDatabaseSnapshot env snapshot wipeExisting target = (.error checksumFailed, target)

/-- **Snapshots of one checksum have equal contents.** -/
theorem sameTables_of_computeChecksum_eq {sha256 : String → String}
    (hsha : Function.Injective sha256) {original snapshot : BackupSnapshot}
    (h : snapshot.computeChecksum sha256 = original.computeChecksum sha256) :
    SameTables original snapshot := by
  have hpayload : Same original.payload snapshot.payload := (dumps_injective (hsha h)).symm
  have hkeys : ∀ s : BackupSnapshot, (keys (("snapshot_version", .str s.snapshotVersion)
      :: SnapshotField.all.map fun field => (field.name, s.tableTree field))).Nodup := by
    intro s
    show (["snapshot_version", "merchants", "merchant_policies", "products", "mandates",
      "budget_reservations", "step_up_challenges", "replays", "nonces", "transactions",
      "execution_attempts", "outbox_events", "audit_events", "receipts", "forensic_events"]
        : List String).Nodup
    decide
  intro field
  have hmem : field ∈ SnapshotField.all := by
    cases field <;> decide
  have hlookup : ∀ s : BackupSnapshot, OrderedMap.lookupEntries field.name
      (("snapshot_version", Tree.str s.snapshotVersion)
        :: SnapshotField.all.map fun field => (field.name, s.tableTree field))
      = some (s.tableTree field) := by
    intro s
    exact OrderedMap.lookupEntries_of_mem (hkeys s)
      (List.mem_cons_of_mem _ (List.mem_map.mpr ⟨field, hmem, rfl⟩))
  have hsame := hpayload.lookup (hkeys original) (hkeys snapshot) field.name
  rw [hlookup, hlookup, Option.map_some, Option.map_some] at hsame
  exact Option.some.inj hsame

theorem verifyRestoreIntegrity_ne_checksumFailed (db : PersistentDb) (snapshot : BackupSnapshot) :
    verifyRestoreIntegrity env db snapshot ≠ .error checksumFailed := by
  -- the other texts begin with another letter
  have hfirst : ∀ text : String, text.toList.head? = some 'R' →
      RestoreError.valueError text ≠ checksumFailed := by
    intro text htext heq
    have hsame := RestoreError.valueError.inj heq
    rw [hsame] at htext
    exact absurd htext (by decide)
  have hhead : ∀ first rest : String, first.toList.head? = some 'R' →
      (first ++ rest).toList.head? = some 'R' := by
    intro first rest hletter
    rw [String.toList_append, List.head?_append, hletter]
    rfl
  intro h
  simp only [verifyRestoreIntegrity] at h
  split_ifs at h with hcount
  · exact hfirst _ (hhead _ _ (hhead _ _ (hhead _ _ rfl))) (Except.error.inj h)
  · cases hchain : verifyChainOf env db with
    | error err =>
        rw [hchain] at h
        cases h
    | ok result =>
        obtain ⟨valid, reason⟩ := result
        rw [hchain] at h
        cases valid with
        | true => cases h
        | false => exact hfirst _ (hhead _ _ rfl) (Except.error.inj h)

theorem restore_ne_checksumFailed {snapshot : BackupSnapshot}
    (hguard : ¬ (snapshot.snapshotChecksum ≠ ""
      ∧ snapshot.snapshotChecksum ≠ snapshot.computeChecksum env.sha256)) :
    (restoreDatabaseSnapshot env snapshot wipeExisting target).1 ≠ .error checksumFailed := by
  have hdatabase : ∀ text, RestoreError.databaseError text ≠ checksumFailed := nofun
  intro h
  rw [restoreDatabaseSnapshot, if_neg hguard] at h
  cases hinsert : insertAll env snapshot insertSpecs
      (if wipeExisting then wipe wipeModels target else target) with
  | error text =>
      simp only [hinsert] at h
      exact hdatabase text (Except.error.inj h)
  | ok restored =>
      simp only [hinsert] at h
      cases hflush : env.flush (if wipeExisting then wipe wipeModels target else target)
          restored with
      | some text =>
          simp only [hflush] at h
          exact hdatabase text (Except.error.inj h)
      | none =>
          simp only [hflush] at h
          have hlater : verifyRestoreIntegrity env restored snapshot ≠ .error checksumFailed :=
            verifyRestoreIntegrity_ne_checksumFailed restored snapshot
          cases hverify : verifyRestoreIntegrity env restored snapshot with
          | error err =>
              simp only [hverify] at h
              rw [hverify] at hlater
              exact hlater (congrArg Except.error (Except.error.inj h))
          | ok report =>
              simp only [hverify] at h
              cases h

/-- **An altered snapshot is refused exactly when its checksum was not cleared.** -/
theorem refuses_iff (hsha : Function.Injective env.sha256) {original snapshot : BackupSnapshot}
    (h : Altered env.sha256 original snapshot) :
    Refuses env snapshot wipeExisting target ↔ snapshot.snapshotChecksum ≠ "" := by
  constructor
  · intro hrefuses hcleared
    refine restore_ne_checksumFailed ?_ (congrArg Prod.fst hrefuses)
    exact fun hguard => hguard.1 hcleared
  · intro hkept
    have hchecksum := h.checksum.resolve_right hkept
    have hdiffers : snapshot.snapshotChecksum ≠ snapshot.computeChecksum env.sha256 := by
      intro hsame
      exact h.differ (sameTables_of_computeChecksum_eq hsha (hsame.symm.trans hchecksum))
    rw [Refuses, restoreDatabaseSnapshot, if_pos ⟨hkept, hdiffers⟩]

/-- **The law of backup and restore**, for a hash without collisions: a cleared
    target gets the source's tables back exactly when it holds the same
    credentials and webhook events already, the database takes the rows and the
    ledger verifies; an altered snapshot is refused exactly when its checksum was
    not cleared. -/
theorem restore_law (env : RestoreEnv) (hsha : Function.Injective env.sha256) :
    (∀ ts source wipeExisting target, Clears wipeExisting target →
        (RoundTrips env ts source wipeExisting target
          ↔ OthersAgree source target ∧ env.flush (cleared wipeExisting target) source = none
            ∧ LedgerVerifies env source))
      ∧ ∀ original snapshot wipeExisting target, Altered env.sha256 original snapshot →
        (Refuses env snapshot wipeExisting target ↔ snapshot.snapshotChecksum ≠ "") :=
  ⟨fun _ _ _ _ hclears => roundTrips_iff hclears, fun _ _ _ _ haltered => refuses_iff hsha haltered⟩

namespace Sample

theorem newYear_date :
    1 ≤ 2024 ∧ 2024 ≤ 9999 ∧ 1 ≤ 1 ∧ 1 ≤ 12 ∧ 1 ≤ 1 ∧ 1 ≤ daysInMonth 2024 1 := by decide

theorem newYear_offset : ∀ o ∈ some (0 : Int), -86400000000 < o ∧ o < 86400000000 := by decide

def newYear : Datetime := ⟨2024, 1, 1, 0, 0, 0, 0, some 0, newYear_date, epoch_time, newYear_offset⟩

def acme : Row .merchants where
  cells := [.value (.str "mer_a"), .value (.str "Acme"), .null, .value (.bool true),
    .datetime newYear, .datetime newYear]
  holds := by decide

def credential : Row .apiCredentials where
  cells := [.value (.str "cred_1"), .value (.str "mer_a"), .value (.str "mg_live_1"),
    .value (.str "5e884898da28047151d0e56f8dc62927"), .value (.str "ACTIVE"),
    .value (.str "payments:write"), .datetime newYear, .null, .null, .null]
  holds := by decide

def emptyDb : PersistentDb := fun _ => []

def withMerchant : PersistentDb
  | .merchants => [acme]
  | _ => []

def withCredential : PersistentDb
  | .apiCredentials => [credential]
  | _ => []

def exported : BackupSnapshot :=
  ⟨"1.0.0", "2024-01-02T00:00:00+00:00", "", fun field => serializeTable withMerchant field.model⟩

def emptied (checksum : String) : BackupSnapshot :=
  ⟨"1.0.0", "2024-01-02T00:00:00+00:00", checksum, fun _ => []⟩

theorem emptied_snapshotChecksum (checksum : String) :
    (emptied checksum).snapshotChecksum = checksum := rfl

def exportedDigest : String :=
  "2e5d47c5b36e4c84150164c635991b4b5cf8ceaa468d034f5226e1fb7b87ca95"

def emptiedDigest : String :=
  "744e10a8e0481b5b3d0d87d28236dbbfe5700bfa6d8c7fb6fe567c31fc079999"

def known : List (String × String) := [
  (exported.payload.sortKeys.dumps, exportedDigest),
  ((emptied "").payload.sortKeys.dumps, emptiedDigest)]

theorem known_injective : Function.Injective (knownDigests known) := by
  refine knownDigests_injective ?_ ?_
  · show ∀ d ∈ [exportedDigest, emptiedDigest], d.toList.head? ≠ some '#'
    decide
  · show [exportedDigest, emptiedDigest].Nodup
    decide

def permissive : RestoreEnv where
  sha256 := knownDigests known
  reader := .strict
  store := fun t cells =>
    if h : Column.holdsAll t.columns cells = true then .ok ⟨cells, h⟩
    else .error "invalid input for query argument"
  store_cells := fun _ r => dif_pos r.holds
  flush := fun _ _ => none
  decodeError := fun _ => "Expecting value: line 1 column 1 (char 0)"

theorem sha256_injective : Function.Injective permissive.sha256 := by
  have hsha : permissive.sha256 = knownDigests known := by rw [permissive]
  rw [hsha]
  exact known_injective

theorem exportedDigest_ne_empty : exportedDigest ≠ "" := by decide

theorem computeChecksum_exported :
    exported.computeChecksum permissive.sha256 = exportedDigest := by
  have hsha : permissive.sha256 = knownDigests known := by rw [permissive]
  rw [hsha, BackupSnapshot.computeChecksum, known]
  exact knownDigests_cons_self _ _ _

theorem clears_emptyDb : Clears false emptyDb := .inr fun _ _ => rfl

theorem altered_emptied {checksum : String}
    (h : checksum = exported.computeChecksum permissive.sha256 ∨ checksum = "") :
    Altered permissive.sha256 exported (emptied checksum) where
  differ := by
    intro hsame
    have hmerchants := hsame .merchants
    rw [Same, BackupSnapshot.tableTree, BackupSnapshot.tableTree, sortKeys, sortKeys,
      sortElems_eq_map, sortElems_eq_map] at hmerchants
    have hlength : 1 = 0 := congrArg List.length (Tree.arr.inj hmerchants)
    cases hlength
  checksum := h

end Sample

/-- A credential does not come back, and the emptied snapshot is restored once
    its checksum is cleared. -/
theorem credential_lost_and_cleared_checksum_accepted :
    (¬ ∀ ts source wipeExisting target, Clears wipeExisting target →
        RoundTrips Sample.permissive ts source wipeExisting target)
      ∧ ¬ ∀ original snapshot wipeExisting target,
        Altered Sample.permissive.sha256 original snapshot →
          Refuses Sample.permissive snapshot wipeExisting target := by
  constructor
  · intro h
    have hlost := (roundTrips_iff Sample.clears_emptyDb).mp
      (h "2024-01-02T00:00:00+00:00" Sample.withCredential false Sample.emptyDb
        Sample.clears_emptyDb)
    exact absurd hlost.1.apiCredentials (List.cons_ne_nil _ _).symm
  · intro h
    have haltered := Sample.altered_emptied (.inr rfl)
    exact (refuses_iff Sample.sha256_injective haltered).mp
      (h _ _ false Sample.emptyDb haltered) rfl

/-- A merchant comes back, and the emptied snapshot is refused while it has its
    checksum. -/
theorem merchant_restored_and_emptied_refused :
    RoundTrips Sample.permissive "2024-01-02T00:00:00+00:00" Sample.withMerchant false
        Sample.emptyDb
      ∧ Refuses Sample.permissive
        (Sample.emptied (Sample.exported.computeChecksum Sample.permissive.sha256)) false
        Sample.emptyDb := by
  have hlaw := restore_law Sample.permissive Sample.sha256_injective
  constructor
  · exact (hlaw.1 _ _ _ _ Sample.clears_emptyDb).mpr ⟨⟨rfl, rfl⟩, rfl, none, rfl⟩
  · have hkept : Sample.exported.computeChecksum Sample.permissive.sha256 ≠ "" := by
      rw [Sample.computeChecksum_exported]
      exact Sample.exportedDigest_ne_empty
    refine (hlaw.2 Sample.exported (Sample.emptied _) false Sample.emptyDb
      (Sample.altered_emptied (Or.inl rfl))).mpr ?_
    rw [Sample.emptied_snapshotChecksum]
    exact hkept

end BackupRestoreManager

end MandateGateway
