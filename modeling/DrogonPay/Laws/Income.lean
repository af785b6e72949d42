import DrogonPay.Laws.OneSettled
import DrogonPay.Laws.SettledAmounts
import DrogonPay.ReadCommitted.Alone

/-!
Contract: a settled attempt has its income in the ledger, once.

Owns:
- `Db.income` and `incomeColumn`, the income of an attempt, and what statements
  add to it;
- `IncomeExact`, the law in both directions, and the amount of an income;
- `incomeGuarded`, the condition on the steps under which every run keeps it,
  and a run in which a sync settles an attempt of a paid order without a row.

Does not own: the REFUND rows of the ledger.
-/

namespace DrogonPay

open ReadCommitted

/-- The income booked of an attempt. -/
def Db.income (db : Db) (paymentNo : Bytes) : List LedgerRow :=
  db.ledger.filter fun row => row.entryType = .PAYMENT && row.paymentNo = paymentNo

namespace PaymentService

/-- The attempt was SUCCESS in one of these states. -/
def wasSuccess (states : List Db) (paymentNo : Bytes) : Bool :=
  states.any fun db => (db.payments.find paymentNo).any fun row => row.status = .SUCCESS

/-- An attempt that is SUCCESS has one income, with the amount of its order, and
an attempt with an income is or was SUCCESS. -/
structure IncomeExact (s : PaySys) : Prop where
  booked : ∀ paymentNo row, s.db.payments.find paymentNo = some row → row.status = .SUCCESS →
    ∃ entry order, s.db.income paymentNo = [entry] ∧ entry.orderNo = row.orderNo ∧
      s.db.orders.find row.orderNo = some order ∧ entry.amount = order.amount
  settled : ∀ paymentNo row, s.db.payments.find paymentNo = some row →
    s.db.income paymentNo ≠ [] → wasSuccess s.history paymentNo

/-- The transaction has just settled an attempt. -/
def justSettled (record : List PayEntry) : Bool :=
  match record.getLast? with
  | some (.ran (.casPayment _ .SUCCESS _) (settled : Bool)) => settled
  | _ => false

/-- Right after an attempt is settled, its order is not found PAID. Only a sync
looks there. -/
def incomeGuarded (s : PaySys) (event : PayEvent) : Bool :=
  match event with
  | .exec pid _ =>
      match s.executing event with
      | some (.findOrder orderNo, seen) =>
          !((s.procs[pid]?).any fun p => justSettled p.slot.record) ||
            (seen.orders.find orderNo).all fun order => order.status ≠ .PAID
      | _ => true
  | _ => true

/-! ## The income of an attempt -/

/-- The income of the numbered attempts: an empty number stands for none. -/
def incomeColumn : Column payStore Bytes (List LedgerRow) where
  read db paymentNo := if paymentNo = [] then [] else db.income paymentNo
  act w paymentNo rows :=
    match w with
    | .insertLedger row =>
        if row.entryType = .PAYMENT ∧ row.paymentNo ≠ [] ∧ row.paymentNo = paymentNo then
          rows ++ [row]
        else rows
    | _ => rows
  lock := Key.income
  read_apply db w paymentNo := by
    cases w with
    | insertLedger row =>
        show (if paymentNo = [] then [] else (db.ledger ++ [row]).filter fun row =>
          row.entryType = .PAYMENT && row.paymentNo = paymentNo) = _
        by_cases isNull : paymentNo = []
        · subst isNull
          simp
        · by_cases isIncome : row.entryType = .PAYMENT ∧ row.paymentNo = paymentNo
          · obtain ⟨isPayment, rfl⟩ := isIncome
            simp [isNull, isPayment, Db.income]
          · have others : ¬ (row.entryType = .PAYMENT ∧ row.paymentNo ≠ [] ∧
                row.paymentNo = paymentNo) := fun both => isIncome ⟨both.1, both.2.2⟩
            simp [isNull, isIncome, others, Db.income]
    | _ => rfl
  act_unlocked w paymentNo rows unlocked := by
    cases w with
    | insertLedger row =>
        refine if_neg fun ⟨isPayment, named, isKey⟩ => unlocked ?_
        simp [Write.keys, isPayment, ← isKey, named]
    | _ => rfl

/-- The income of an attempt before and after a statement. -/
inductive IncomeAfter (st : Stmt) (paymentNo : Bytes) : List LedgerRow → List LedgerRow → Prop where
  | same {rows : List LedgerRow} : IncomeAfter st paymentNo rows rows
  | booked {row : LedgerRow} (issued : st = .insertLedger row)
      (isPayment : row.entryType = .PAYMENT) (isKey : row.paymentNo = paymentNo) :
      IncomeAfter st paymentNo [] [row]

/-- The unique index admits one income of an attempt. -/
theorem income_after {db : Db} {env : Env} {st : Stmt} {res : st.Res}
    (ran : st.run db env = some res) (paymentNo : Bytes) :
    IncomeAfter st paymentNo (incomeColumn.read db paymentNo)
      (incomeColumn.read (payStore.applyAll db (st.writes res)) paymentNo) := by
  have locked : ∀ (w : Write) (k : Bytes), incomeColumn.lock k ∈ w.keys → w.table = .ledger := by
    intro w k isKey
    cases w <;> simp_all [Write.keys, incomeColumn, Write.table]
  have untouched : st.table ≠ some .ledger → incomeColumn.read
      (payStore.applyAll db (st.writes res)) paymentNo = incomeColumn.read db paymentNo :=
    fun other => read_other_table locked db res other paymentNo
  cases st with
  | insertLedger row =>
      have admits := (admitted_eq_some ran).1
      show IncomeAfter _ _ _ (incomeColumn.read (Db.apply db (.insertLedger row)) paymentNo)
      rw [incomeColumn.read_apply]
      by_cases isIncome : row.entryType = .PAYMENT ∧ row.paymentNo ≠ [] ∧ row.paymentNo = paymentNo
      · obtain ⟨isPayment, named, rfl⟩ := isIncome
        have fresh : incomeColumn.read db row.paymentNo = [] := by
          simp only [Db.admitsLedger, isPayment, Db.hasIncome, decide_true, Bool.true_and,
            Bool.and_eq_true, Bool.not_eq_true', Bool.and_eq_false_iff] at admits
          have noIncome := admits.2.resolve_left (by simp [named])
          simp only [incomeColumn, named, if_false, Db.income, List.filter_eq_nil_iff]
          intro other member isOther
          exact List.any_eq_false.mp noIncome other member isOther
        rw [fresh]
        simp only [incomeColumn, isPayment, named, ne_eq, not_false_iff, and_self, if_true,
          List.nil_append]
        exact .booked rfl isPayment rfl
      · simp only [incomeColumn, isIncome, if_false]
        exact .same
  | _ =>
      rw [untouched (by simp [Stmt.table])]
      exact .same

/-- The income of an attempt is only added to, and only once. -/
theorem IncomeAfter.grows {st : Stmt} {paymentNo : Bytes} {old new : List LedgerRow}
    (after : IncomeAfter st paymentNo old new) : old <+: new ∧ (old.length ≤ 1 → new.length ≤ 1) := by
  cases after with
  | same => exact ⟨List.prefix_rfl, id⟩
  | booked _ _ _ => exact ⟨List.nil_prefix, fun _ => Nat.le_refl 1⟩

theorem incomeColumn_grows {ok : PaySys → PayEvent → Prop} :
    incomeColumn.Keeps (fun _ _ old new => old <+: new) ok := by
  refine .of_executing (fun _ _ => List.prefix_rfl) (fun _ _ _ _ first second => first.trans second) ?_
  intro s event st seen env res _ _ result paymentNo
  exact (income_after result paymentNo).grows.1

theorem incomeColumn_once {ok : PaySys → PayEvent → Prop} :
    incomeColumn.Keeps (fun _ _ old new => old.length ≤ 1 → new.length ≤ 1) ok := by
  refine .of_executing (fun _ _ => id) (fun _ _ _ _ first second => second ∘ first) ?_
  intro s event st seen env res _ _ result paymentNo
  exact (income_after result paymentNo).grows.2

/-- Income was inserted. -/
theorem insertLedger_of_income {w : Write} {st : Stmt} {res : st.Res} {paymentNo : Bytes}
    {rows : List LedgerRow} {row : LedgerRow} (write : w ∈ st.writes res) (notBefore : row ∉ rows)
    (now : row ∈ incomeColumn.act w paymentNo rows) :
    st = .insertLedger row ∧ row.entryType = .PAYMENT ∧ row.paymentNo = paymentNo := by
  have table := Stmt.writes_table write
  cases w with
  | insertLedger new =>
      simp only [incomeColumn] at now
      split at now
      · rename_i isIncome
        obtain rfl : row = new := (List.mem_append.mp now).elim (absurd · notBefore)
          List.mem_singleton.mp
        cases st with
        | insertLedger booked =>
            simp only [Stmt.writes, List.mem_singleton, Write.insertLedger.injEq] at write
            exact ⟨by rw [write], isIncome.1, isIncome.2.2⟩
        | _ => cases table
      · exact absurd now notBefore
  | _ => exact absurd now notBefore

/-! ## Attempts that were settled -/

/-- The attempt was settled by now if it was then. -/
def RemembersSuccess (history : List Db) (paymentNo : Bytes) (old new : Option PaymentRow) : Prop :=
  old.any (fun row => row.status = .SUCCESS) →
    new.any (fun row => row.status = .SUCCESS) ∨ wasSuccess history paymentNo

theorem PaymentAfter.keeps_success {st : Stmt} {paymentNo : Bytes} {old new : Option PaymentRow}
    (after : PaymentAfter st paymentNo old new) (guarded : st ≠ .failPayment paymentNo)
    (success : old.any fun row => row.status = .SUCCESS) :
    new.any fun row => row.status = .SUCCESS := by
  cases after with
  | same => exact success
  | inserted _ _ => cases success
  | moved move =>
      cases move with
      | cas unsettled =>
          rcases unsettled with isInit | isProcessing
          · simp [isInit] at success
          · simp [isProcessing] at success
      | fail => exact absurd rfl guarded

theorem wasSuccess_later {db : Db} {history : List Db} {paymentNo : Bytes}
    (was : wasSuccess history paymentNo) : wasSuccess (db :: history) paymentNo := by
  rw [wasSuccess, List.any_cons, Bool.or_eq_true]
  exact Or.inr was

theorem paymentColumn_remembers {ok : PaySys → PayEvent → Prop} :
    paymentColumn.Keeps RemembersSuccess fun s event => ok s event ∧ s.Obliged payContract := by
  refine ⟨fun _ _ _ => Or.inl, ?_, ?_, ?_, ?_⟩
  · exact fun history paymentNo a b c first second success => (first success).elim second Or.inr
  · exact fun remembers success => (remembers success).imp_right wasSuccess_later
  · intro s event pid p st res meets runs paymentNo success
    -- what a pooled statement sees is committed
    refine Or.inr ?_
    simp only [wasSuccess, Sys.history, List.any_cons, Bool.or_eq_true]
    exact Or.inl success
  · intro s event pid p record st res meets runs paymentNo success
    obtain ⟨env, _, ran⟩ := runs.result
    refine Or.inl (PaymentAfter.keeps_success (payment_after ran paymentNo) ?_ success)
    rintro rfl
    -- an attempt fails outside of transactions only
    have pooled : some record = none := runs.issue meets.2
    cases pooled

section Runs

variable {cfg : Config} {ok : PaySys → PayEvent → Prop} {events : List PayEvent} {s : PaySys}
  {p : PayProc} {paymentNo : Bytes}

/-- Every attempt has a number. -/
theorem named_attempts (run : PayRun cfg ok events s) : (s.db.payments.find []) = none := by
  by_contra found
  obtain ⟨row, found⟩ := Option.ne_none_iff_exists'.mp found
  have booked : (paymentColumn.read s.db []).any fun payment =>
      payment.toPaymentBooking = row.toPaymentBooking := by
    simp [paymentColumn, found]
  obtain ⟨p, member, st, res, made⟩ : ∃ p ∈ s.procs, ∃ st res, Made payContract paymentColumn
      (fun payment => payment.any fun payment =>
        payment.toPaymentBooking = row.toPaymentBooking) [] p.log st res :=
    run.made (by simp [paymentColumn, Db.empty, Table.find, Table.empty]) (verified_serve cfg) s.db
      List.mem_cons_self booked
  obtain ⟨w, old, write, fails, becomes⟩ := made.changed
  obtain ⟨before, after, known, record, split, issue, isPrefix, within⟩ := made.issued
  obtain rfl := insertPayment_of_booked write fails becomes
  have promise : BookingPromise known record row.toPaymentBooking := issue
  exact promise.1 (Db.paymentNo_of_find found)

/-- The income of an attempt, as the column reads it. -/
theorem read_income (run : PayRun cfg ok events s) {row : PaymentRow}
    (found : s.db.payments.find paymentNo = some row) :
    incomeColumn.read s.db paymentNo = s.db.income paymentNo := by
  refine if_neg fun isNull => ?_
  rw [isNull, named_attempts run] at found
  cases found

/-- What a process logged of an attempt it settled or read settled. -/
theorem wasSuccess_of_seen (run : PayRun cfg ok events s) (member : p ∈ s.procs)
    {log record : List PayEntry} {payment : PaymentRow} (inLog : log ⊆ p.log)
    (inRecord : record ⊆ p.log) (seen : SettledSeen log record payment) :
    wasSuccess s.history payment.paymentNo := by
  have obliged := run.with_invariant fun run => run.obliged (verified_serve cfg)
  have recalls := (obliged.recalls (I := fun _ => True) paymentColumn_remembers
    (fun _ => ⟨trivial, fun _ _ => trivial⟩) p member).1
  have settled : (s.db.payments.find payment.paymentNo).any (fun row => row.status = .SUCCESS) ∨
      wasSuccess s.history payment.paymentNo := by
    rcases seen with ⟨tradeNo, saw⟩ | ⟨success, saw⟩
    · obtain ⟨seen, env, ran, _, _, after⟩ := recalls _ _ (inRecord saw)
      refine after payment.paymentNo ?_
      obtain ⟨row, found, _⟩ : ∃ row, seen.payments.find payment.paymentNo = some row ∧ _ :=
        (Option.any_eq_true _ _).mp (Option.some.inj ran)
      rw [paymentColumn.read_applyAll]
      show (actOnPayment (.setPayment payment.paymentNo .SUCCESS tradeNo) payment.paymentNo
        (seen.payments.find payment.paymentNo)).any _ = true
      simp [found, actOnPayment, PaymentRow.advance]
    · obtain ⟨seen, env, ran, _, before, _⟩ := recalls _ _ (inLog saw)
      refine before payment.paymentNo ?_
      rw [show paymentColumn.read seen payment.paymentNo = some payment from
        Db.find_of_attempts (Option.some.inj ran)]
      simpa using success
  rcases settled with now | was
  · rw [wasSuccess, Sys.history, List.any_cons, Bool.or_eq_true]
    exact Or.inl now
  · exact was

/-- Who booked an income saw its attempt settled, and the order of both. -/
theorem of_income (run : PayRun cfg ok events s) {entry : LedgerRow}
    (member : entry ∈ incomeColumn.read s.db paymentNo) :
    wasSuccess s.history paymentNo ∧ ∀ row, s.db.payments.find paymentNo = some row →
      entry.orderNo = row.orderNo ∧
        ∃ order, s.db.orders.find row.orderNo = some order ∧ entry.amount = order.amount := by
  obtain ⟨p, isProc, st, res, made⟩ : ∃ p ∈ s.procs, ∃ st res, Made payContract incomeColumn
      (fun rows => entry ∈ rows) paymentNo p.log st res :=
    run.made (by simp [incomeColumn, Db.income, Db.empty]) (verified_serve cfg) s.db
      List.mem_cons_self member
  obtain ⟨w, old, write, fails, becomes⟩ := made.changed
  obtain ⟨before, after, known, record, split, issue, isPrefix, within⟩ := made.issued
  obtain ⟨rfl, isPayment, isKey⟩ := insertLedger_of_income write fails becomes
  obtain ⟨entries, isRecord, promise⟩ : LedgerPromise known record entry := issue
  rw [isPayment] at promise
  obtain ⟨⟨order, found, sameAmount⟩, payment, seen, isAttempt, isOrder, settled⟩ := promise
  have inLog : before ⊆ p.log := by
    rw [split]
    exact List.subset_append_left _ _
  have knownInLog : known ⊆ p.log := List.Subset.trans isPrefix.subset inLog
  have recordInLog : entries ⊆ p.log := List.Subset.trans (within entries isRecord) inLog
  refine ⟨?_, fun row isRow => ?_⟩
  · rw [← isKey, ← isAttempt]
    exact wasSuccess_of_seen run isProc knownInLog recordInLog settled
  · rw [← isKey, ← isAttempt] at isRow
    have booked := booking_of_seen run isProc knownInLog recordInLog seen List.mem_cons_self isRow
    have sameOrder : entry.orderNo = row.orderNo :=
      isOrder.symm.trans (congrArg PaymentBooking.orderNo booked)
    obtain ⟨there, is, isBooking⟩ := order_known run isProc (recordInLog found)
    refine ⟨sameOrder, there, sameOrder ▸ is, sameAmount.trans ?_⟩
    exact congrArg OrderBooking.amount isBooking

/-- A transaction that has just settled an attempt has not found its order
PAID. -/
theorem unpaid_of_guarded (run : PayRun cfg (fun s event => incomeGuarded s event = true) events s)
    (member : p ∈ s.procs) {before : List PayEntry} {orderNo : Bytes} {tradeNo : Option Bytes}
    {order : OrderRow}
    (isRecord : p.slot.record = before ++ [.ran (.casPayment paymentNo .SUCCESS tradeNo) true,
      .ran (.findOrder orderNo) (some order)]) : order.status ≠ .PAID := by
  obtain ⟨_, _, witnessed⟩ := run.witnessed (W := fun _ before st res =>
    justSettled before = true → ∀ orderNo order,
      (Entry.ran st res : PayEntry) = .ran (.findOrder orderNo) (some order) →
      order.status ≠ .PAID) (by
    rintro events s event pid p _ record st res _ guarded _ runs settled orderNo order ⟨⟩
    obtain ⟨env, rfl, ran⟩ := runs.result
    have found : (s.view record).orders.find orderNo = some order := Option.some.inj ran
    simp only [incomeGuarded, runs.executing, runs.proc, Option.any_some, runs.slot,
      Slot.record_active, settled, Bool.not_true, Bool.false_or, found, Option.all_some,
      decide_eq_true_eq] at guarded
    exact guarded) p member
  refine witnessed (before ++ [.ran (.casPayment paymentNo .SUCCESS tradeNo) true]) _ _ []
    (by rw [isRecord, List.append_assoc]; rfl) ?_ orderNo order rfl
  simp [justSettled]

/-- A transaction that booked the income of an attempt, or found it booked, sees
it. -/
theorem income_in_view (run : PayRun cfg ok events s) (member : p ∈ s.procs)
    (isKey : paymentNo ≠ [])
    (booked : (∃ row res, Saw p.slot.record (.insertLedger row) res ∧ row.entryType = .PAYMENT ∧
        row.paymentNo = paymentNo) ∨
      ∃ orderNo row, Saw p.slot.record (.findLedger orderNo .PAYMENT paymentNo) (some row)) :
    incomeColumn.read (s.view p.slot.record) paymentNo ≠ [] := by
  have recalls := (run.recalls (I := fun _ => True) incomeColumn_grows
    (fun _ => ⟨trivial, fun _ _ => trivial⟩) p member).2
  have of_member : ∀ (row : LedgerRow) {rows : List LedgerRow}, row ∈ rows →
      rows <+: incomeColumn.read (s.view p.slot.record) paymentNo →
      incomeColumn.read (s.view p.slot.record) paymentNo ≠ [] :=
    fun _ _ member grown => List.ne_nil_of_mem (grown.subset member)
  rcases booked with ⟨row, res, saw, isPayment, rfl⟩ | ⟨orderNo, row, saw⟩
  · obtain ⟨seen, env, _, _, _, after⟩ := recalls _ _ saw
    refine of_member row ?_ (after row.paymentNo)
    rw [incomeColumn.read_applyAll]
    show row ∈ incomeColumn.act (.insertLedger row) row.paymentNo _
    simp [incomeColumn, isPayment, isKey]
  · obtain ⟨seen, env, ran, _, before, _⟩ := recalls _ _ saw
    have found : seen.ledger.find? _ = some row := Option.some.inj ran
    refine of_member row ?_ (before paymentNo)
    have passes := List.find?_some found
    simp only [Bool.and_eq_true, decide_eq_true_eq] at passes
    simp [incomeColumn, isKey, Db.income, List.mem_of_find?_eq_some found, passes.1.2, passes.2]

/-- An attempt that only some entries show SUCCESS was settled by one of them. -/
theorem settling_of_new {entries : List PayEntry}
    (now : (paymentColumn.read (s.view entries) paymentNo).any fun row => row.status = .SUCCESS)
    (notBefore : ¬ (paymentColumn.read s.db paymentNo).any fun row => row.status = .SUCCESS) :
    ∃ tradeNo, Saw entries (.casPayment paymentNo .SUCCESS tradeNo) true := by
  let Settled (value : Option PaymentRow) : Prop := value.any fun row => row.status = .SUCCESS
  have shows : Settled (paymentColumn.read (s.view entries) paymentNo) := now
  obtain ⟨before, st, res, after, w, old, rfl, write, fails, becomes⟩ :=
    paymentColumn.origin shows notBefore
  obtain ⟨tradeNo, rfl⟩ := casPayment_of_success write fails becomes
  cases res with
  | false => cases write
  | true => exact ⟨tradeNo, List.mem_append_right _ List.mem_cons_self⟩

/-- Every attempt that is SUCCESS has an income. -/
theorem income_of_success
    (run : PayRun cfg (fun s event => incomeGuarded s event = true) events s) :
    ∀ paymentNo, ((paymentColumn.read s.db paymentNo).any fun row => row.status = .SUCCESS) →
      incomeColumn.read s.db paymentNo ≠ [] := by
  induction run with
  | nil =>
      intro paymentNo success
      simp [Sys.initial, paymentColumn, Db.empty, Table.find, Table.empty] at success
  | @snoc _ event s s' run guarded stepped inductionHypothesis =>
      intro paymentNo success
      by_cases already : (paymentColumn.read s.db paymentNo).any fun row => row.status = .SUCCESS
      · -- the income of an attempt stays
        have grown := run.column_step incomeColumn_grows guarded stepped paymentNo
        exact fun empty => inductionHypothesis paymentNo already
          (List.prefix_nil.mp (empty ▸ grown))
      · have named : paymentNo ≠ [] := by
          rintro rfl
          rw [show paymentColumn.read s'.db [] = none from
            named_attempts (run.snoc guarded stepped)] at success
          cases success
        rcases run.step_publishes (verified_serve cfg) stepped with
          same | ⟨pid, p, entries, publishes, isView⟩
        · rw [same] at success
          exact absurd success already
        · rw [isView] at success ⊢
          obtain ⟨tradeNo, settled⟩ := settling_of_new success already
          cases publishes with
          | pooled runs issue =>
              injection List.mem_singleton.mp settled with isStmt
              subst isStmt
              obtain ⟨_, isTxn, _⟩ := issue.2.2 rfl
              cases isTxn
          | txn commits issued commit =>
              have member := List.mem_of_getElem? commits.proc
              have isRecord : p.slot.record = entries := by rw [commits.slot, Slot.record_active]
              rw [← isRecord]
              refine income_in_view run member named ?_
              rw [isRecord]
              rcases commit.1 paymentNo tradeNo settled with booked | found |
                ⟨earlier, payment, order, isLast, paid, _⟩
              · exact Or.inl booked
              · exact Or.inr found
              · exact absurd paid (unpaid_of_guarded run member (isRecord.trans isLast))

end Runs

/-- Every run whose steps are guarded keeps the income of the attempts exact. -/
theorem income_exact {cfg : Config} {events : List PayEvent} {s : PaySys}
    (run : PayRun cfg (fun s event => incomeGuarded s event = true) events s) : IncomeExact s := by
  constructor
  · intro paymentNo row found success
    have isIncome := read_income run found
    have isThere : s.db.income paymentNo ≠ [] := by
      rw [← isIncome]
      exact income_of_success run paymentNo (by simp [paymentColumn, found, success])
    have once : (s.db.income paymentNo).length ≤ 1 := by
      rw [← isIncome]
      exact (run.column_holds incomeColumn_once
        (by simp [incomeColumn, Db.income, Db.empty])).1 paymentNo
    obtain ⟨entry, isEntry⟩ : ∃ entry, s.db.income paymentNo = [entry] := by
      refine List.length_eq_one_iff.mp (Nat.le_antisymm once ?_)
      exact List.length_pos_iff.mpr isThere
    have member : entry ∈ incomeColumn.read s.db paymentNo := by
      rw [isIncome, isEntry]
      exact List.mem_singleton_self entry
    obtain ⟨sameOrder, order, isOrder, sameAmount⟩ := (of_income run member).2 row found
    exact ⟨entry, order, isEntry, sameOrder, isOrder, sameAmount⟩
  · intro paymentNo row found isThere
    obtain ⟨entry, member⟩ := List.exists_mem_of_ne_nil _ isThere
    rw [← read_income run found] at member
    exact (of_income run member).1

theorem income_exact_of_two :
    ∃ s, PayRun shop (fun s event => incomeGuarded s event = true) retriedThenPaid s ∧
      paymentIs s.db "#p" .PROCESSING ∧ paymentIs s.db "#q" .SUCCESS ∧ IncomeExact s := by
  obtain ⟨s, run, holds⟩ := replay_run incomeGuarded retriedThenPaid
    (fun s => paymentIs s.db "#p" .PROCESSING && paymentIs s.db "#q" .SUCCESS) (by decide +kernel)
  rw [Bool.and_eq_true] at holds
  exact ⟨s, run, holds.1, holds.2, income_exact run⟩

def paidAnswer : ChannelAnswer :=
  ⟨Json.object [("trade_state", Json.text "SUCCESS"), ("transaction_id", Json.text "T2"),
    ("amount", Json.object [("total", .int 1000)])], []⟩

/-- The order is paid before the retry books its attempt, and a query is told
that it is paid. -/
def settledWhenPaid : List PayEvent :=
  retried ++ [.spawn (.paymentNotification paidNotice (drawn "k1"))] ++ steps 2 11 3 ++
    steps 1 1 4 ++ [.answer 1 codeUrl] ++ steps 1 3 4 ++
    [.spawn (.queryOrder (ascii "o"))] ++ steps 3 1 5 ++ [.answer 3 paidAnswer] ++ steps 3 5 5 ++
    steps 0 1 6

theorem income_missing_by_sync :
    ¬ ∀ (cfg : Config) (events : List PayEvent) (s : PaySys),
      PayRun cfg (fun _ _ => True) events s → s.Quiescent → s.Clean → IncomeExact s := by
  intro claim
  obtain ⟨s, run, holds⟩ := replay_run (fun _ _ => true) settledWhenPaid
    (fun s => s.restsCleanly && (paymentIs s.db "#q" .SUCCESS && (s.db.income (ascii "#q")).isEmpty))
    (by decide +kernel)
  simp only [Bool.and_eq_true, List.isEmpty_iff, paymentIs_iff] at holds
  obtain ⟨rests, ⟨row, found, success⟩, nothing⟩ := holds
  obtain ⟨quiescent, clean⟩ := Sys.quiescent_of_restsCleanly rests
  have isExact := claim shop _ s (run.mono fun _ _ _ => trivial) quiescent clean
  obtain ⟨entry, _, booked, _⟩ := isExact.booked _ row found success
  rw [nothing] at booked
  cases booked

end PaymentService
end DrogonPay
