import DrogonPay.Laws.Acknowledged
import DrogonPay.Laws.CoveredOrders
import DrogonPay.Laws.Income

/-!
Contract: nothing is booked in the ledger that did not happen.

Owns:
- `ledger_of_commits`, the rule by which what holds of a ledger row when its transaction
  is committed holds of every row of the ledger;
- `LedgerSound`: every income belongs to an attempt that was SUCCESS, has the
  amount of its order and is the only one of the attempt, and every refund row
  to a refund that was REFUND_SUCCESS, with its order, payment and amount;
- `ledger_sound`, that every run keeps it.

Does not own: that everything that happened is booked.
-/

namespace DrogonPay

open ReadCommitted

/-- The income of an attempt that was settled, booked once and in full. -/
structure IncomeSound (s : PaySys) (entry : LedgerRow) : Prop where
  settled : ∃ db ∈ s.history, ∃ row, db.payments.find entry.paymentNo = some row ∧
    row.status = .SUCCESS ∧ row.orderNo = entry.orderNo
  full : ∃ order, s.db.orders.find entry.orderNo = some order ∧ order.amount = entry.amount
  once : s.db.income entry.paymentNo = [entry]

/-- The row of a refund that was settled. -/
def RefundEntrySound (history : List Db) (entry : LedgerRow) : Prop :=
  ∃ db ∈ history, ∃ refundNo row, db.refunds.find refundNo = some row ∧
    row.status = .REFUND_SUCCESS ∧ row.orderNo = entry.orderNo ∧
    row.paymentNo = entry.paymentNo ∧ row.amount = entry.amount

def LedgerSound (s : PaySys) : Prop :=
  ∀ entry ∈ s.db.ledger,
    match entry.entryType with
    | .PAYMENT => IncomeSound s entry
    | .REFUND => RefundEntrySound s.history entry

/-! ## Rows of the ledger -/

/-- A ledger row was there, or one of the entries inserts it. -/
theorem ledger_origin {db : Db} {entries : List PayEntry} {row : LedgerRow}
    (member : row ∈ (payStore.applyAll db (payStore.pending entries)).ledger) :
    row ∈ db.ledger ∨ ∃ before after, entries = before ++ .ran (.insertLedger row) () :: after := by
  induction entries generalizing db with
  | nil => exact Or.inl member
  | cons entry rest inductionHypothesis =>
      have later : ∀ {db}, row ∈ (payStore.applyAll db (payStore.pending rest)).ledger →
          row ∈ db.ledger ∨
            ∃ before after, entry :: rest = before ++ .ran (.insertLedger row) () :: after := by
        intro db inRest
        rcases inductionHypothesis inRest with old | ⟨before, after, rfl⟩
        · exact Or.inl old
        · exact Or.inr ⟨entry :: before, after, rfl⟩
      cases entry with
      | ran st res =>
          rw [Store.pending_cons_ran, Store.applyAll_append] at member
          rcases later member with written | split
          · rw [ledger_after] at written
            rcases List.mem_append.mp written with old | new
            · exact Or.inl old
            · cases st with
              | insertLedger booked =>
                  rw [List.mem_singleton.mp new]
                  exact Or.inr ⟨[], rest, rfl⟩
              | _ => cases new
          · exact Or.inr split
      | _ => exact later member

section Runs

variable {cfg : Config} {ok : PaySys → PayEvent → Prop} {events : List PayEvent} {s : PaySys}
  {p : PayProc}

/-- What holds of a ledger row when its transaction is committed, and stays true
as the history grows, holds of every row of the ledger. -/
theorem ledger_of_commits {P : List Db → LedgerRow → Prop}
    (later : ∀ {db history entry}, P history entry → P (db :: history) entry)
    (each : ∀ {events s event s' pid p record before after entry log}, PayRun cfg ok events s →
      ok s event → s.step (serve cfg) event = some s' → s.Commits event pid p record →
      s'.db = s.view record → record = before ++ .ran (.insertLedger entry) () :: after →
      log <+: p.log → LedgerPromise log (some before) entry → P s'.history entry)
    (run : PayRun cfg ok events s) : ∀ entry ∈ s.db.ledger, P s.history entry := by
  induction run with
  | nil => exact fun _ member => absurd member List.not_mem_nil
  | @snoc _ event s s' run meets stepped inductionHypothesis =>
      intro entry member
      have grown : P s.history entry → P s'.history entry := by
        intro holds
        rcases Sys.step_cases stepped with ⟨_, _, rfl⟩ | ⟨_, _, _, _, _, _, rfl⟩
        · exact holds
        · exact later holds
      rcases run.step_publishes (verified_serve cfg) stepped with
        same | ⟨pid, p, entries, publishes, isView⟩
      · rw [same] at member
        exact grown (inductionHypothesis entry member)
      · rw [isView] at member
        rcases ledger_origin member with old | ⟨before, after, split⟩
        · exact grown (inductionHypothesis entry old)
        · cases publishes with
          | @pooled st res runs issue =>
              -- the ledger is written in transactions only
              have isLast : before = [] ∧
                  (Entry.ran st res : PayEntry) = .ran (.insertLedger entry) () := by
                cases before with
                | nil => exact ⟨rfl, (List.cons.inj split).1⟩
                | cons _ _ => simp at split
              injection isLast.2 with isStmt
              subst isStmt
              obtain ⟨_, isTxn, _⟩ : LedgerPromise p.log none entry := issue
              cases isTxn
          | txn commits issued _ =>
              obtain ⟨log, isPrefix, promise⟩ := issued before _ _ after split
              exact each run meets stepped commits isView split isPrefix promise

/-! ## Refunds -/

/-- What is known when a transaction updates a refund it has read: a row is
there. -/
def Matched : (st : Stmt) → st.Res → Prop
  | .updateRefund _ _ _, (res : Option Nat) => res.isSome
  | _, _ => True

theorem matched_of_runs {event : PayEvent} {pid : Nat} {record : List PayEntry} {st : Stmt}
    {res : st.Res} (run : PayRun cfg ok events s) (runs : s.RunsOnTxn event pid p record st res) :
    Matched st res := by
  cases st with
  | updateRefund refundNo status refundId =>
      have promise : Promise p.log (some record) (.updateRefund refundNo status refundId) :=
        runs.issue (run.obliged (verified_serve cfg))
      obtain ⟨_, rfl, refund, rfl, saw, _⟩ := promise
      obtain ⟨row, found, _⟩ := refund_read run (List.mem_of_getElem? runs.proc)
        (Proc.mem_known_of_log saw)
      rw [runs.slot] at found
      obtain ⟨env, _, result⟩ := runs.result
      have answer : stampIf ((s.view []).refunds.find refund.refundNo) (fun _ => true) env.now =
          res := Option.some.inj result
      rw [← answer, show (s.view []).refunds.find refund.refundNo = some row from found]
      rfl
  | _ => trivial

/-- A transaction that settles a refund sees it settled, if no commit showed it
before. -/
theorem settled_in_view (run : PayRun cfg ok events s) (member : p ∈ s.procs) {refundNo : Bytes}
    {byKey : Bool} {before after : List PayEntry} (split : p.slot.record = before ++ after)
    (settles : SettlesRefund before refundNo byKey) :
    ((s.view p.slot.record).refunds.find refundNo).any (fun row => row.status = .REFUND_SUCCESS) ∨
      RefundService.wasSettled s.history refundNo := by
  have obliged := run.with_invariant fun run => run.obliged (verified_serve cfg)
  have recalls := (obliged.recalls (I := fun _ => True) RefundService.refundColumn_remembers
    (fun _ => ⟨trivial, fun _ _ => trivial⟩) p member).2
  have settledBy : ∀ {st : Stmt} {res : st.Res} {refundId : Option Bytes} {now : Nat}
      (rest : List PayEntry), p.slot.record = .ran st res :: rest →
      st.writes res = [.setRefund refundNo .REFUND_SUCCESS refundId now] →
      (∀ db env, st.run db env = some res → (db.refunds.find refundNo).isSome) →
      ((s.view p.slot.record).refunds.find refundNo).any
          (fun row => row.status = .REFUND_SUCCESS) ∨
        RefundService.wasSettled s.history refundNo := by
    intro st res refundId now _ isRecord isWrite matched
    have saw : Saw p.slot.record st res := by
      rw [isRecord]
      exact List.mem_cons_self
    obtain ⟨seen, env, ran, _, _, remembers⟩ := recalls _ _ saw
    refine (remembers refundNo).2 ?_
    obtain ⟨row, found⟩ := Option.isSome_iff_exists.mp (matched seen env ran)
    rw [refundColumn.read_applyAll, show payStore.writes st res = _ from isWrite]
    show (actOnRefund (.setRefund refundNo .REFUND_SUCCESS refundId now) refundNo
      (seen.refunds.find refundNo)).any _ = true
    simp [found, actOnRefund, RefundRow.advance]
  cases byKey with
  | false =>
      obtain ⟨refundId, now, rest, rfl⟩ := settles
      refine settledBy (rest ++ after) (by rw [split]; rfl) rfl fun db env ran => ?_
      have answer := Option.some.inj ran
      cases found : db.refunds.find refundNo with
      | none => simp [found, stampIf] at answer
      | some _ => rfl
  | true =>
      obtain ⟨refundId, res, rest, rfl⟩ := settles
      obtain ⟨_, _, known⟩ := Run.witnessed (W := fun _ _ => Matched)
        (fun run _ _ runs => matched_of_runs run runs) run p member
      obtain ⟨now, rfl⟩ := Option.isSome_iff_exists.mp
        (known [] (.updateRefund refundNo .REFUND_SUCCESS refundId) res (rest ++ after) split)
      refine settledBy (rest ++ after) (by rw [split]; rfl) rfl fun db env ran => ?_
      have answer := Option.some.inj ran
      cases found : db.refunds.find refundNo with
      | none => simp [found, stampIf] at answer
      | some _ => rfl

/-- A row of a refund is booked by the transaction that settled it. -/
theorem refund_entries_sound (run : PayRun cfg ok events s) : ∀ entry ∈ s.db.ledger,
    entry.entryType = .REFUND → RefundEntrySound s.history entry := by
  refine ledger_of_commits (P := fun history entry => entry.entryType = .REFUND →
    RefundEntrySound history entry) ?_ ?_ run
  · intro db history entry sound isRefund
    obtain ⟨db, member, found⟩ := sound isRefund
    exact ⟨db, List.mem_cons_of_mem _ member, found⟩
  · intro events s event s' pid p record before after entry log run meets stepped commits isView
      split isPrefix promise isRefund
    obtain ⟨entries, same, promise⟩ := promise
    cases same
    rw [isRefund] at promise
    obtain ⟨_, refundNo, refund, byKey, read, sameOrder, samePayment, sameAmount, settles, _⟩ :=
      promise
    have member := List.mem_of_getElem? commits.proc
    have isRecord : p.slot.record = record := by rw [commits.slot, Slot.record_active]
    obtain ⟨row, found, booked⟩ := refund_read run member
      (Proc.mem_known_of_log (isPrefix.subset read))
    have told : ∀ {settled : RefundRow}, settled.toRefundBooking = row.toRefundBooking →
        settled.orderNo = entry.orderNo ∧ settled.paymentNo = entry.paymentNo ∧
          settled.amount = entry.amount := by
      intro settled same
      have isBooking := same.trans booked.symm
      exact ⟨(congrArg RefundBooking.orderNo isBooking).trans sameOrder.symm,
        (congrArg RefundBooking.paymentNo isBooking).trans samePayment.symm,
        (congrArg RefundBooking.amount isBooking).trans sameAmount.symm⟩
    have inHistory : s'.db ∈ s'.history ∧ ∀ db ∈ s.history, db ∈ s'.history := by
      rcases Sys.step_cases stepped with ⟨_, _, rfl⟩ | ⟨_, _, _, _, _, _, rfl⟩
      · exact ⟨List.mem_cons_self, fun db member => member⟩
      · exact ⟨List.mem_cons_self, fun db member => List.mem_cons_of_mem _ member⟩
    rcases settled_in_view run member (isRecord.trans split) settles with now | was
    · obtain ⟨settled, isSettled, success⟩ := (Option.any_eq_true _ _).mp now
      obtain rfl : settled = row := Option.some.inj (isSettled.symm.trans found)
      rw [isRecord, ← isView] at found
      exact ⟨s'.db, inHistory.1, refundNo, settled, found, by simpa using success, told rfl⟩
    · obtain ⟨db, isPast, success⟩ := List.any_eq_true.mp was
      obtain ⟨settled, isSettled, success⟩ := (Option.any_eq_true _ _).mp success
      obtain ⟨now, foundNow, same⟩ := refund_stays run member isPast isSettled
      obtain rfl : now = row := Option.some.inj (foundNow.symm.trans found)
      exact ⟨db, inHistory.2 db isPast, refundNo, settled, isSettled, by simpa using success,
        told same⟩

/-! ## Income -/

/-- An income names an attempt. -/
theorem income_named (run : PayRun cfg ok events s) : ∀ entry ∈ s.db.ledger,
    entry.entryType = .PAYMENT → entry.paymentNo ≠ [] := by
  refine ledger_of_commits
    (P := fun _ entry => entry.entryType = .PAYMENT → entry.paymentNo ≠ []) id ?_ run
  intro events s event s' pid p record before after entry log run meets stepped commits isView
    split isPrefix promise isPayment isNull
  obtain ⟨entries, same, promise⟩ := promise
  cases same
  rw [isPayment] at promise
  obtain ⟨_, payment, seen, isAttempt, _⟩ := promise
  have member := List.mem_of_getElem? commits.proc
  have isRecord : p.slot.record = record := by rw [commits.slot, Slot.record_active]
  have read : ∃ row, (s.view p.slot.record).payments.find payment.paymentNo = some row ∧
      payment.toPaymentBooking = row.toPaymentBooking := by
    rcases seen with saw | locked
    · exact attempt_read run member (Proc.mem_known_of_log (isPrefix.subset saw))
    · have inRecord : Saw p.slot.record
          (.lockAttempt payment.orderNo PaymentService.openStatuses) (some payment) := by
        rw [isRecord, split]
        exact locked.append _
      exact lockedAttempt_read run member (List.mem_append_right _ inRecord)
  obtain ⟨row, found, _⟩ := read
  rw [isRecord, ← isView, isAttempt, isNull,
    PaymentService.named_attempts (run.snoc meets stepped)] at found
  cases found

theorem income_sound (run : PayRun cfg ok events s) {entry : LedgerRow}
    (member : entry ∈ s.db.ledger) (isPayment : entry.entryType = .PAYMENT) :
    IncomeSound s entry := by
  have named := income_named run entry member isPayment
  have isIncome : entry ∈ s.db.income entry.paymentNo := by
    simp [Db.income, member, isPayment]
  have read : PaymentService.incomeColumn.read s.db entry.paymentNo =
      s.db.income entry.paymentNo := if_neg named
  obtain ⟨was, ofAttempt⟩ := PaymentService.of_income run (read ▸ isIncome)
  obtain ⟨db, isPast, success⟩ := List.any_eq_true.mp was
  obtain ⟨row, found, success⟩ := (Option.any_eq_true _ _).mp success
  -- the attempt is still there, with its booking
  have stays : ∃ now, s.db.payments.find entry.paymentNo = some now ∧
      row.toPaymentBooking = now.toPaymentBooking := by
    rcases List.mem_cons.mp isPast with rfl | earlier
    · exact ⟨row, found, rfl⟩
    · have kept := run.column_history paymentColumn_keeps_booking entry.paymentNo
      exact (List.pairwise_cons.mp kept).1 db earlier row found
  obtain ⟨now, foundNow, booked⟩ := stays
  obtain ⟨sameOrder, order, isOrder, sameAmount⟩ := ofAttempt now foundNow
  have ofOrder : row.orderNo = entry.orderNo :=
    (congrArg PaymentBooking.orderNo booked).trans sameOrder.symm
  refine ⟨⟨db, isPast, row, found, by simpa using success, ofOrder⟩,
    ⟨order, sameOrder ▸ isOrder, sameAmount.symm⟩, ?_⟩
  have short : (s.db.income entry.paymentNo).length ≤ 1 := by
    rw [← read]
    exact (run.column_holds PaymentService.incomeColumn_once
      (by simp [PaymentService.incomeColumn, Db.income, Db.empty])).1 entry.paymentNo
  obtain ⟨only, isOnly⟩ := List.length_eq_one_iff.mp
    (Nat.le_antisymm short (List.length_pos_of_mem isIncome))
  rw [isOnly] at isIncome ⊢
  rw [List.mem_singleton.mp isIncome]

/-- Every run books in the ledger only what happened. -/
theorem ledger_sound (run : PayRun cfg ok events s) : LedgerSound s := by
  intro entry member
  cases isType : entry.entryType with
  | PAYMENT => exact income_sound run member isType
  | REFUND => exact refund_entries_sound run entry member isType

end Runs

theorem ledger_sound_refunded :
    ∃ s, PayRun shop (fun _ _ => true = true) CallbackService.refundNotified s ∧
      (s.db.ledger.map fun entry => entry.entryType) = [.PAYMENT, .REFUND] ∧ LedgerSound s := by
  obtain ⟨s, run, holds⟩ := replay_run (fun _ _ => true) CallbackService.refundNotified
    (fun s => (s.db.ledger.map fun entry => entry.entryType) = [.PAYMENT, .REFUND])
    (by decide +kernel)
  exact ⟨s, run, by simpa using holds, ledger_sound run⟩

end DrogonPay
