import MandateGateway.Observability.Timeline

/-! # What a timeline shows

    An entry names its record by component and identifier.  The entries of a
    transaction come from records of the transaction exactly when no pending event
    of another one mentions its identifier, and no attempt of another one is stored
    under it without its surrounding whitespace (`timeline_isolated_iff`). -/

namespace MandateGateway

open Clock OutboxRepository StableSort ExecutionAttemptRepository

/-- A record that a timeline may show. -/
inductive TimelineRecord where
  | transaction (tx : TransactionRow)
  | attempt (att : ExecutionAttemptRow)
  | audit (auditEvt : AuditEventRow)
  | receipt (rcp : ActionReceiptRow)
  | outbox (ob : OutboxEventRow)

namespace TimelineRecord

def Stored (db : EvidenceDb) : TimelineRecord → Prop
  | .transaction tx => tx ∈ db.tables.transactions.rows
  | .attempt att => att ∈ db.tables.executionAttempts.rows
  | .audit auditEvt => auditEvt ∈ db.audit.rows
  | .receipt rcp => rcp ∈ db.receipts.rows
  | .outbox ob => ob ∈ db.tables.outboxEvents.rows

/-- The transaction that the record is about; an outbox event is about its
    aggregate. -/
def transactionId : TimelineRecord → Option String
  | .transaction tx => some tx.transactionId
  | .attempt att => some att.transactionId
  | .audit auditEvt => auditEvt.transactionId
  | .receipt rcp => some rcp.transactionId
  | .outbox ob => some ob.aggregateId

def name : TimelineRecord → String × String
  | .transaction tx => ("TransactionRepository", tx.transactionId)
  | .attempt att => ("PaymentExecutionEngine", att.attemptId)
  | .audit auditEvt => ("AuditRepository", auditEvt.eventId)
  | .receipt rcp => ("ReceiptRepository", rcp.receiptId)
  | .outbox ob => ("OutboxRepository", ob.outboxId)

/-- **Stored records have different names.** -/
theorem eq_of_name_eq {db : EvidenceDb} {r r' : TimelineRecord} (hr : r.Stored db)
    (hr' : r'.Stored db) (hname : r.name = r'.name) : r = r' := by
  have hcomponent : r.name.1 = r'.name.1 := congrArg Prod.fst hname
  have hid : r.name.2 = r'.name.2 := congrArg Prod.snd hname
  cases r with
  | transaction tx =>
      cases r' with
      | transaction tx' =>
          exact congrArg _ (List.inj_on_of_nodup_map db.tables.transactions.nodupKeys hr hr' hid)
      | _ => simp [name] at hcomponent
  | attempt att =>
      cases r' with
      | attempt att' =>
          exact congrArg _
            (List.inj_on_of_nodup_map db.tables.executionAttempts.nodupKeys hr hr' hid)
      | _ => simp [name] at hcomponent
  | audit auditEvt =>
      cases r' with
      | audit auditEvt' => exact congrArg _ (List.inj_on_of_nodup_map db.audit.nodupIds hr hr' hid)
      | _ => simp [name] at hcomponent
  | receipt rcp =>
      cases r' with
      | receipt rcp' => exact congrArg _ (List.inj_on_of_nodup_map db.receipts.nodupKeys hr hr' hid)
      | _ => simp [name] at hcomponent
  | outbox ob =>
      cases r' with
      | outbox ob' =>
          exact congrArg _ (List.inj_on_of_nodup_map db.tables.outboxEvents.nodupKeys hr hr' hid)
      | _ => simp [name] at hcomponent

end TimelineRecord

namespace TimelineItem

def name (item : TimelineItem) : String × String := (item.component, item.sourceId)

/-- The entry comes from a stored record of the transaction. -/
def ComesFrom (db : EvidenceDb) (transactionId : String) (item : TimelineItem) : Prop :=
  ∃ r : TimelineRecord, r.Stored db ∧ r.name = item.name ∧ r.transactionId = some transactionId

theorem comesFrom_iff {db : EvidenceDb} {transactionId : String} {item : TimelineItem}
    {r : TimelineRecord} (hstored : r.Stored db) (hname : item.name = r.name) :
    item.ComesFrom db transactionId ↔ r.transactionId = some transactionId := by
  constructor
  · rintro ⟨r', hstored', hname', howner⟩
    rw [← TimelineRecord.eq_of_name_eq hstored' hstored (hname'.trans hname)]
    exact howner
  · intro howner
    exact ⟨r, hstored, hname.symm, howner⟩

end TimelineItem

namespace TransactionTimelineReconstructor

variable {env : TimelineEnv} {transactionId : String} {requestingMerchantId : Option String}
  {db : EvidenceDb}

/-- The reconstruction returns: the transaction is there and may be seen, its
    amount has a float, and it has at most one receipt. -/
structure Readable (transactionId : String) (requestingMerchantId : Option String)
    (db : EvidenceDb) (tx : TransactionRow) : Prop where
  stored    : db.tables.transactions.get transactionId = some tx
  permitted : denied requestingMerchantId tx = false
  amount    : |(tx.amountPaise : ℚ)| < Binary64.limit
  receipts  : (db.receipts.select fun r => r.transactionId == transactionId).length ≤ 1

/-- Nothing of another transaction is selected. -/
structure OwnRecordsOnly (env : TimelineEnv) (transactionId : String) (db : EvidenceDb) :
    Prop where
  /-- no attempt of another one stands under the identifier less its whitespace -/
  attempts : ∀ att ∈ db.tables.executionAttempts.rows,
    att.transactionId = Text.strip transactionId → att.transactionId = transactionId
  /-- no event of another one that is read mentions the identifier -/
  events : ∀ ob ∈ getPendingEvents env.outboxOrder 500 db.tables,
    Text.occursIn transactionId ob.payloadJson = true → ob.aggregateId = transactionId

/-! ## When a reconstruction returns -/

theorem exists_rupees_iff (amountPaise : Int) :
    (∃ amount, rupees amountPaise = .ok amount) ↔ |(amountPaise : ℚ)| < Binary64.limit := by
  rw [← not_le, ← Binary64.ofRat_infinite_iff, rupees]
  cases hrounded : Binary64.ofRat amountPaise with
  | infinite negative =>
      refine iff_of_false ?_ fun h => h ⟨negative, rfl⟩
      rintro ⟨amount, h⟩
      cases h
  | finite q => exact iff_of_true ⟨_, rfl⟩ nofun
  | nan => exact iff_of_true ⟨_, rfl⟩ nofun

theorem exists_receipt_iff :
    (∃ rcp, getReceiptForTransaction transactionId db.receipts = .ok rcp)
      ↔ (db.receipts.select fun r => r.transactionId == transactionId).length ≤ 1 := by
  rw [getReceiptForTransaction]
  match db.receipts.select fun r => r.transactionId == transactionId with
  | [] => exact iff_of_true ⟨none, rfl⟩ (Nat.zero_le 1)
  | [rcp] => exact iff_of_true ⟨some rcp, rfl⟩ (Nat.le_refl 1)
  | _ :: _ :: rest =>
      refine iff_of_false ?_ ?_
      · rintro ⟨rcp, h⟩
        cases h
      · rw [List.length_cons, List.length_cons]
        omega

/-- **What an answer shows are the collected entries, redacted and in order.** -/
theorem reconstruct_eq_ok {answer : Timeline}
    (h : reconstruct env transactionId requestingMerchantId db = .ok answer) :
    ∃ tx amount rcp, Readable transactionId requestingMerchantId db tx
      ∧ getReceiptForTransaction transactionId db.receipts = .ok rcp
      ∧ answer.events = (sortBy sortKey (collect env transactionId db tx amount rcp)).map
          (TimelineItem.toDict env.redactValue) := by
  rw [reconstruct] at h
  cases hstored : db.tables.transactions.get transactionId with
  | none =>
      rw [hstored] at h
      cases h
  | some tx =>
      simp only [hstored] at h
      by_cases hdenied : denied requestingMerchantId tx = true
      · rw [if_pos hdenied] at h
        cases h
      rw [if_neg hdenied] at h
      cases hamount : rupees tx.amountPaise with
      | error err =>
          rw [hamount] at h
          cases h
      | ok amount =>
          simp only [hamount] at h
          cases hreceipt : getReceiptForTransaction transactionId db.receipts with
          | error err =>
              rw [hreceipt] at h
              cases h
          | ok rcp =>
              simp only [hreceipt] at h
              obtain rfl := Except.ok.inj h
              exact ⟨tx, amount, rcp, ⟨hstored, by simpa using hdenied,
                (exists_rupees_iff _).mp ⟨amount, hamount⟩,
                exists_receipt_iff.mp ⟨rcp, hreceipt⟩⟩, rfl, rfl⟩

theorem reconstruct_of_readable {tx : TransactionRow}
    (h : Readable transactionId requestingMerchantId db tx) :
    ∃ answer, reconstruct env transactionId requestingMerchantId db = .ok answer := by
  obtain ⟨amount, hamount⟩ := (exists_rupees_iff _).mpr h.amount
  obtain ⟨rcp, hreceipt⟩ := exists_receipt_iff.mpr h.receipts
  rw [reconstruct]
  simp only [h.stored, h.permitted, hamount, hreceipt]
  exact ⟨_, rfl⟩

/-! ## What is shown -/

theorem comesFrom_of_auditEvent {auditEvt : AuditEventRow}
    (hmem : auditEvt ∈ db.audit.getEventsForTransaction transactionId) :
    (auditItem auditEvt).ComesFrom db transactionId := by
  have hselected := List.mem_filter.mp ((sortBy_perm _ _).subset hmem)
  exact (TimelineItem.comesFrom_iff (r := .audit auditEvt) hselected.1 rfl).mpr
    (beq_iff_eq.mp hselected.2)

theorem comesFrom_of_receipt {r : ActionReceiptRow}
    (hreceipt : getReceiptForTransaction transactionId db.receipts = .ok (some r)) :
    (receiptItem r).ComesFrom db transactionId := by
  have hselected : r ∈ db.receipts.select fun r => r.transactionId == transactionId := by
    rw [scalarOneOrNone_eq_some_iff.mp hreceipt]
    exact List.mem_singleton_self r
  rw [Table.select, List.mem_filter] at hselected
  exact (TimelineItem.comesFrom_iff (r := .receipt r) hselected.1 rfl).mpr
    (congrArg some (beq_iff_eq.mp hselected.2))

theorem comesFrom_attempts_iff {tx : TransactionRow} :
    (∀ att ∈ getAttemptsForTransaction env.attemptOrder transactionId db.tables,
        (attemptItem tx att).ComesFrom db transactionId)
      ↔ ∀ att ∈ db.tables.executionAttempts.rows,
        att.transactionId = Text.strip transactionId → att.transactionId = transactionId := by
  have hmem : ∀ att, att ∈ getAttemptsForTransaction env.attemptOrder transactionId db.tables
      ↔ att ∈ db.tables.executionAttempts.rows
        ∧ att.transactionId = Text.strip transactionId := by
    intro att
    rw [getAttemptsForTransaction, Arrangement.mem_arrange, Table.select, List.mem_filter,
      beq_iff_eq]
  constructor
  · intro h att hatt hid
    have hown := h att ((hmem att).mpr ⟨hatt, hid⟩)
    exact Option.some.inj
      ((TimelineItem.comesFrom_iff (r := .attempt att) hatt rfl).mp hown)
  · intro h att hatt
    obtain ⟨hrow, hid⟩ := (hmem att).mp hatt
    exact (TimelineItem.comesFrom_iff (r := .attempt att) hrow rfl).mpr
      (congrArg some (h att hrow hid))

theorem comesFrom_outbox_iff :
    (∀ ob ∈ (getPendingEvents env.outboxOrder 500 db.tables).filter (shows transactionId),
        (outboxItem ob).ComesFrom db transactionId)
      ↔ ∀ ob ∈ getPendingEvents env.outboxOrder 500 db.tables,
        Text.occursIn transactionId ob.payloadJson = true → ob.aggregateId = transactionId := by
  have hown : ∀ ob ∈ getPendingEvents env.outboxOrder 500 db.tables,
      ((outboxItem ob).ComesFrom db transactionId ↔ ob.aggregateId = transactionId) := by
    intro ob hob
    rw [TimelineItem.comesFrom_iff (r := .outbox ob) (mem_getPendingEvents hob).1 rfl]
    exact Option.some_inj
  constructor
  · intro h ob hob hoccurs
    refine (hown ob hob).mp (h ob (List.mem_filter.mpr ⟨hob, ?_⟩))
    rw [shows, hoccurs, Bool.true_or]
  · intro h ob hmem
    obtain ⟨hob, hshown⟩ := List.mem_filter.mp hmem
    rw [shows, Bool.or_eq_true, beq_iff_eq] at hshown
    refine (hown ob hob).mpr ?_
    cases hshown with
    | inl hoccurs => exact h ob hob hoccurs
    | inr haggregate => exact haggregate.symm

/-- **The collected entries come from the transaction's records exactly when
    nothing of another one is selected.** -/
theorem comesFrom_collect_iff {tx : TransactionRow} {amount : Binary64}
    {rcp : Option ActionReceiptRow}
    (hstored : db.tables.transactions.get transactionId = some tx)
    (hreceipt : getReceiptForTransaction transactionId db.receipts = .ok rcp) :
    (∀ item ∈ collect env transactionId db tx amount rcp, item.ComesFrom db transactionId)
      ↔ OwnRecordsOnly env transactionId db := by
  have htx := Table.get_eq_some_iff.mp hstored
  have htransaction : (transactionItem tx amount).ComesFrom db transactionId :=
    (TimelineItem.comesFrom_iff (r := .transaction tx) htx.1 rfl).mpr (congrArg some htx.2)
  have hreceipts : ∀ r ∈ rcp.toList, (receiptItem r).ComesFrom db transactionId := by
    intro r hmem
    rw [Option.mem_toList] at hmem
    obtain rfl := hmem
    exact comesFrom_of_receipt hreceipt
  rw [collect, List.cons_append, List.cons_append, List.cons_append, List.forall_mem_cons,
    List.forall_mem_append, List.forall_mem_append, List.forall_mem_append, List.forall_mem_map,
    List.forall_mem_map, List.forall_mem_map, List.forall_mem_map, comesFrom_attempts_iff,
    comesFrom_outbox_iff]
  constructor
  · rintro ⟨-, ⟨⟨hatt, -⟩, -⟩, hob⟩
    exact ⟨hatt, hob⟩
  · rintro ⟨hatt, hob⟩
    exact ⟨htransaction, ⟨⟨hatt, fun _ => comesFrom_of_auditEvent⟩, hreceipts⟩, hob⟩

theorem forall_events_iff {items : List TimelineItem} {redactValue : Json.Tree → Json.Tree} :
    (∀ item ∈ (sortBy sortKey items).map (TimelineItem.toDict redactValue),
      item.ComesFrom db transactionId) ↔ ∀ item ∈ items, item.ComesFrom db transactionId := by
  rw [List.forall_mem_map]
  exact ⟨fun h item hitem => h item ((sortBy_perm _ _).symm.subset hitem),
    fun h item hitem => h item ((sortBy_perm _ _).subset hitem)⟩

theorem forall_answer_iff {tx : TransactionRow}
    (h : Readable transactionId requestingMerchantId db tx) :
    (∀ answer, reconstruct env transactionId requestingMerchantId db = .ok answer →
        ∀ item ∈ answer.events, item.ComesFrom db transactionId)
      ↔ OwnRecordsOnly env transactionId db := by
  constructor
  · intro hall
    have hread : ∃ answer, reconstruct env transactionId requestingMerchantId db = .ok answer :=
      reconstruct_of_readable h
    obtain ⟨answer, hanswer⟩ := hread
    have hitems := hall answer hanswer
    obtain ⟨tx', amount, rcp, hread, hreceipt, hevents⟩ := reconstruct_eq_ok hanswer
    rw [hevents, forall_events_iff] at hitems
    exact (comesFrom_collect_iff hread.stored hreceipt).mp hitems
  · intro hown answer hanswer
    obtain ⟨tx', amount, rcp, hread, hreceipt, hevents⟩ := reconstruct_eq_ok hanswer
    rw [hevents, forall_events_iff]
    exact (comesFrom_collect_iff hread.stored hreceipt).mpr hown

/-- **The isolation law**: whatever the state, the transaction and the merchant
    who asks, every entry of an answer comes from a record of the transaction
    exactly when there is no answer or nothing of another transaction is
    selected. -/
theorem timeline_isolated_iff (env : TimelineEnv) (transactionId : String)
    (requestingMerchantId : Option String) (db : EvidenceDb) :
    (∀ answer, reconstruct env transactionId requestingMerchantId db = .ok answer →
        ∀ item ∈ answer.events, item.ComesFrom db transactionId)
      ↔ (¬ ∃ tx, Readable transactionId requestingMerchantId db tx)
        ∨ OwnRecordsOnly env transactionId db := by
  by_cases hreadable : ∃ tx, Readable transactionId requestingMerchantId db tx
  · obtain ⟨tx, htx⟩ := hreadable
    rw [forall_answer_iff htx, or_iff_right fun hnone => hnone ⟨tx, htx⟩]
  · refine iff_of_true ?_ (.inl hreadable)
    intro answer hanswer
    obtain ⟨tx, -, -, htx, -⟩ := reconstruct_eq_ok hanswer
    exact absurd ⟨tx, htx⟩ hreadable

namespace Sample

def payment (transactionId merchantId : String) : TransactionRow where
  transactionId := transactionId
  buyerId := "buyer_1"
  merchantId := merchantId
  mandateId := "man_1"
  cartHash := "hash_1"
  amountPaise := 5000
  currency := "INR"
  region := "IN"
  authDecision := "ALLOW"
  state := "COMMITTED"
  providerPaymentId := none
  providerStatus := none
  idempotencyKey := transactionId
  createdAt := 0
  updatedAt := 0

def otherEvent : OutboxEventRow where
  outboxId := "outbox_1"
  eventType := "PAYMENT_COMMITTED"
  aggregateType := "TRANSACTION"
  aggregateId := "tx_10"
  payloadJson := (Json.obj [("amount_paise", .int 5000), ("merchant_id", .str "mer_b"),
    ("transaction_id", .str "tx_10")]).compact
  status := "PENDING"
  createdAt := 0
  dispatchedAt := none

def twoMerchants : EvidenceDb where
  tables := {
    transactions := ⟨[payment "tx_1" "mer_a", payment "tx_10" "mer_b"], by decide⟩
    executionAttempts := .empty
    outboxEvents := .singleton otherEvent }
  audit := .empty
  receipts := .empty

def plain : TimelineEnv where
  redactValue := id
  attemptOrder := .stable ExecutionAttemptRow.createdAt
  outboxOrder := tableOrder

theorem readable_twoMerchants :
    Readable "tx_1" (some "mer_a") twoMerchants (payment "tx_1" "mer_a") where
  stored := rfl
  permitted := by decide
  amount := by
    have hlimit : 5000 < Binary64.limit := by decide +kernel
    show |((5000 : Int) : ℚ)| < Binary64.limit
    rw [Int.cast_ofNat, abs_of_pos (by norm_num)]
    exact_mod_cast hlimit
  receipts := Nat.zero_le 1

theorem otherEvent_mentions : Text.occursIn "tx_1" otherEvent.payloadJson = true := by
  decide

end Sample

/-- The first merchant is shown the second one's event: `tx_1` is a part of
    `tx_10`. -/
theorem other_merchants_event_shown :
    ¬ ∀ (env : TimelineEnv) (transactionId : String) (requestingMerchantId : Option String)
        (db : EvidenceDb) (answer : Timeline),
      reconstruct env transactionId requestingMerchantId db = .ok answer →
        ∀ item ∈ answer.events, item.ComesFrom db transactionId := by
  intro h
  have hown : OwnRecordsOnly Sample.plain "tx_1" Sample.twoMerchants :=
    (forall_answer_iff Sample.readable_twoMerchants).mp
      (h Sample.plain "tx_1" (some "mer_a") Sample.twoMerchants)
  have hpending : Sample.otherEvent
      ∈ getPendingEvents Sample.plain.outboxOrder 500 Sample.twoMerchants.tables :=
    List.mem_singleton_self _
  exact absurd (hown.events _ hpending Sample.otherEvent_mentions) (by decide)

end TransactionTimelineReconstructor

end MandateGateway
