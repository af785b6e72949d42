import DrogonPay.Laws.Acknowledged

/-!
Contract: a payment notification settles its own transaction.

Owns:
- `Request.pays`, the order and the transaction a notification of a success names;
- `numberContract`, what such a notification compares before it moves an attempt;
- `settles_own_transaction`: whatever else runs, the attempt it moves has no number
  or the notified one, and is left with the notified one.

Does not own: the doors that compare no number.
-/

namespace DrogonPay

open ReadCommitted

open CallbackService in
/-- The order a notification says is paid, and its transaction. -/
def Request.pays : Request → Option (Bytes × Bytes)
  | .paymentNotification notification _ => do
      let notice ← PaymentNotice.of notification.plain
      if notice.tradeState = ascii "SUCCESS" then some (notice.orderNo, notice.transactionId)
      else none
  | _ => none

namespace CallbackService

open PaymentService (openStatuses)

/-! ## What a notification compares -/

/-- The attempt was locked and its number compared with the one of the notice. -/
structure Compared (plain : Json) (notice : PaymentNotice) (payment : PaymentRow)
    (record : List PayEntry) : Prop where
  read : PaymentNotice.of plain = some notice
  locked : Saw record (.lockAttempt notice.orderNo openStatuses) (some payment)
  ofOrder : payment.orderNo = notice.orderNo
  same : otherTransaction payment notice.transactionId = false
  named : notice.tradeState = ascii "SUCCESS" → notice.transactionId ≠ []

/-- A notification moves its attempt to its own state and number, after it compared the
number. -/
def NumberPromise (plain : Json) (record : Option (List PayEntry)) : Stmt → Prop
  | .casPayment paymentNo status tradeNo => ∃ entries notice payment, record = some entries ∧
      Compared plain notice payment entries ∧ payment.paymentNo = paymentNo ∧
      status = (PayUtils.mapTradeState notice.tradeState).2 ∧ tradeNo = some notice.transactionId
  | _ => True

def numberContract (plain : Json) : Contract paySig where
  issue _ := NumberPromise plain
  call _ _ := True
  commit _ _ := True
  finish _ := True

section Programs

variable {cfg : Config} {slot : Slot paySig} {log record : List PayEntry} {delivery : Delivery}
  {plain : Json} {notice : PaymentNotice} {payment : PaymentRow} {order : OrderRow} {orderStatus : OrderStatus}
  {paymentStatus : PaymentStatus}

theorem numbered_end (slot : Slot paySig) (log : List PayEntry) :
    Verified (numberContract plain) ⟨slot, log, []⟩ := by
  have closed : ∀ log, Verified (numberContract plain) ⟨.closed, log, []⟩ :=
    fun _ => Verified.nil_closed.mpr fun _ => trivial
  cases slot with
  | none => exact Verified.nil_none.mpr fun _ => trivial
  | closed => exact closed log
  | active record => exact Verified.nil_active.mpr ⟨trivial, closed _⟩

theorem numbered_reports {program : PayProg} (reports : program.Reports) :
    Runs (numberContract plain) slot log program :=
  verifiedAll_reports reports fun _ => numbered_end _ _

theorem numbered_rollback {program : PayProg} (reports : program.Reports) :
    Runs (numberContract plain) slot log (.rollback program) :=
  runs_rollback.mpr (numbered_reports reports)

theorem numbered_orThrow {α : Type} {value : Option α} {next : α → PayProg}
    (continues : ∀ a, value = some a → Runs (numberContract plain) slot log (next a)) :
    Runs (numberContract plain) slot log (orThrow value next) := by
  cases value with
  | none => exact numbered_reports trivial
  | some a => exact continues a rfl

theorem numbered_finalizeAndCommit {commitFailed : String} :
    Runs (numberContract plain) (.active record) log
      (finalizeAndCommit delivery commitFailed) := by
  refine runs_sql_txn.mpr ⟨trivial, fun owned _ => ?_, fun _ => numbered_rollback trivial⟩
  match owned with
  | false => exact numbered_rollback trivial
  | true =>
      exact runs_commit.mpr ⟨trivial, numbered_reports trivial, numbered_rollback trivial⟩

theorem numbered_bookNotifiedOrder :
    Runs (numberContract plain) (.active record) log
      (bookNotifiedOrder delivery payment order orderStatus) := by
  refine runs_sql_txn.mpr ⟨trivial, fun stamp _ => ?_, fun _ => numbered_reports trivial⟩
  dsimp only
  split
  · exact runs_sql_txn.mpr ⟨trivial, fun _ _ => numbered_finalizeAndCommit,
      fun _ => runs_sql_txn_closed.mpr (numbered_rollback trivial)⟩
  · refine runs_commit.mpr ⟨trivial, ?_, numbered_reports trivial⟩
    exact runs_sql_db.mpr ⟨trivial, fun _ _ => numbered_reports trivial,
      fun _ => numbered_reports trivial⟩

theorem Compared.snoc (compared : Compared plain notice payment record) (entry : PayEntry) :
    Compared plain notice payment (record ++ [entry]) :=
  { compared with locked := compared.locked.append _ }

theorem numbered_settleNotifiedPayment (compared : Compared plain notice payment record)
    (mapped : paymentStatus = (PayUtils.mapTradeState notice.tradeState).2) :
    Runs (numberContract plain) (.active record) log
      (settleNotifiedPayment delivery notice payment order orderStatus paymentStatus) := by
  refine runs_sql_txn.mpr ⟨trivial, fun _ _ => ?_, fun _ => numbered_reports trivial⟩
  refine runs_sql_txn.mpr ⟨⟨_, notice, payment, rfl, compared.snoc _, rfl, mapped, rfl⟩,
    fun won _ => ?_, fun _ => numbered_reports trivial⟩
  match won with
  | false =>
      exact runs_rollback.mpr (runs_sql_db.mpr ⟨trivial, fun _ _ => numbered_reports trivial,
        fun _ => numbered_reports trivial⟩)
  | true => exact numbered_bookNotifiedOrder

theorem numbered_checkNotifiedPayment (read : PaymentNotice.of plain = some notice)
    (locked : Saw record (.lockAttempt notice.orderNo openStatuses) (some payment))
    (ofOrder : payment.orderNo = notice.orderNo)
    (named : notice.tradeState = ascii "SUCCESS" → notice.transactionId ≠ []) :
    Runs (numberContract plain) (.active record) log
      (checkNotifiedPayment delivery notice payment order) := by
  refine numbered_orThrow fun problem _ => ?_
  match problem with
  | some text => exact numbered_rollback trivial
  | none =>
      dsimp only
      split
      · exact numbered_rollback trivial
      · rename_i same
        have compared : Compared plain notice payment record :=
          ⟨read, locked, ofOrder, Bool.eq_false_iff.mpr same, named⟩
        dsimp only [resolveNotifiedPayment]
        split
        · exact runs_sql_txn.mpr ⟨trivial, fun sumText _ =>
            numbered_settleNotifiedPayment (compared.snoc _) rfl,
            fun _ => runs_sql_txn_closed.mpr (numbered_reports trivial)⟩
        · exact numbered_settleNotifiedPayment compared rfl

theorem numbered_settlePaymentNotice (read : PaymentNotice.of plain = some notice)
    (named : notice.tradeState = ascii "SUCCESS" → notice.transactionId ≠ []) :
    Runs (numberContract plain) slot log (settlePaymentNotice delivery notice) := by
  refine runs_start.mpr ⟨?_, numbered_reports trivial⟩
  refine runs_sql_txn.mpr ⟨trivial, fun found possible => ?_, fun _ => numbered_reports trivial⟩
  match found, possible with
  | none, _ => exact numbered_rollback trivial
  | some payment, possible =>
      dsimp only
      split
      · exact numbered_rollback trivial
      · refine runs_sql_txn.mpr ⟨trivial, fun ordered _ => ?_, fun _ => numbered_reports trivial⟩
        have locked : Saw ([] ++ [.ran (.lockAttempt notice.orderNo openStatuses) (some payment)])
            (.lockAttempt notice.orderNo openStatuses) (some payment) := Saw.last
        match ordered with
        | none => exact numbered_reports trivial
        | some order =>
            exact numbered_checkNotifiedPayment read (locked.append _) (possible payment rfl).1
              named

theorem named_of_passed (passed : paymentNoticeProblem notice = none)
    (isSuccess : notice.tradeState = ascii "SUCCESS") : notice.transactionId ≠ [] := by
  unfold paymentNoticeProblem at passed
  split at passed
  · cases passed
  · split at passed
    · cases passed
    · split at passed
      · cases passed
      · rename_i unnamed
        intro empty
        exact unnamed (by simp [isSuccess, empty])

theorem numbered_recordDuplicate {orderNo : Bytes} :
    Runs (numberContract plain) slot log (recordDuplicate orderNo) := by
  refine runs_sql_db.mpr ⟨trivial, fun found _ => ?_, fun _ => numbered_reports trivial⟩
  match found with
  | none => exact numbered_reports trivial
  | some payment =>
      exact runs_sql_db.mpr ⟨trivial, fun _ _ => numbered_reports trivial,
        fun _ => numbered_reports trivial⟩

theorem numbered_reserveDelivery {duplicate proceed : PayProg}
    (repeated : ∀ log, Runs (numberContract plain) slot log duplicate)
    (proceeds : ∀ log, Runs (numberContract plain) slot log proceed) :
    Runs (numberContract plain) slot log (reserveDelivery delivery duplicate proceed) := by
  refine runs_sql_db.mpr ⟨trivial, fun found _ => ?_, fun _ => numbered_reports trivial⟩
  match found with
  | some existing =>
      dsimp only
      split
      · exact runs_sql_db.mpr ⟨trivial, fun _ _ => numbered_reports trivial,
          fun _ => numbered_reports trivial⟩
      · exact repeated _
  | none =>
      refine runs_sql_db.mpr ⟨trivial, fun reserved _ => ?_, fun _ => numbered_reports trivial⟩
      match reserved with
      | none => exact numbered_reports trivial
      | some _ => exact proceeds _

theorem numbered_handlePaymentCallback {notification : Notification} {ownerToken : Bytes} :
    Runs (numberContract notification.plain) slot log
      (handlePaymentCallback cfg notification ownerToken) := by
  unfold handlePaymentCallback
  split
  · exact numbered_reports trivial
  · refine numbered_orThrow fun merchant _ => ?_
    dsimp only
    split
    · exact numbered_reports trivial
    · refine numbered_orThrow fun notice read => ?_
      split
      · exact numbered_reports trivial
      · rename_i passed
        exact numbered_reserveDelivery (fun _ => numbered_recordDuplicate)
          fun _ => numbered_settlePaymentNotice read (named_of_passed passed)

end Programs


/-! ## What it moves -/

section Runs

variable {cfg : Config} {ok : PaySys → PayEvent → Prop} {events : List PayEvent} {s : PaySys}
  {pid : Nat} {p : PayProc} {env : Env} {request : Request} {orderNo number paymentNo : Bytes}
  {status : PaymentStatus} {tradeNo : Option Bytes} {seen : Db}

theorem notice_of_pays (pays : request.pays = some (orderNo, number)) :
    ∃ notification ownerToken notice, request = .paymentNotification notification ownerToken ∧
      PaymentNotice.of notification.plain = some notice ∧
      notice.tradeState = ascii "SUCCESS" ∧ notice.orderNo = orderNo ∧
      notice.transactionId = number := by
  cases request with
  | paymentNotification notification ownerToken =>
      obtain ⟨notice, read, said⟩ := Option.bind_eq_some_iff.mp pays
      split at said
      · rename_i isSuccess
        cases said
        exact ⟨_, _, notice, rfl, read, isSuccess, rfl, rfl⟩
      · cases said
  | _ => cases pays

theorem verified_numbers (cfg : Config) {notification : Notification} (request : Request)
    (isRequest : ∃ ownerToken, request = .paymentNotification notification ownerToken) :
    Verified (numberContract notification.plain) (Proc.spawn request (serve cfg request)) := by
  obtain ⟨ownerToken, rfl⟩ := isRequest
  exact Verified.of_runs numbered_handlePaymentCallback

/-- A booked number that is not another one is none, or the notified one. -/
theorem own_of_same {payment : PaymentRow} (named : number ≠ [])
    (same : otherTransaction payment number = false) :
    payment.channelTradeNo = [] ∨ payment.channelTradeNo = number := by
  by_contra neither
  rw [not_or] at neither
  simp [otherTransaction, neither.1, neither.2, named] at same

/-- The attempt that a notification of a success moves is one of its order and
waits, has no number or the notified one, and is given the notified one. -/
theorem settles_own_transaction (run : PayRun cfg ok events s) (proc : s.procs[pid]? = some p)
    (owner : Owner p.log request) (pays : request.pays = some (orderNo, number))
    (executes : s.executing (.exec pid env) = some (.casPayment paymentNo status tradeNo, seen)) :
    ∃ row, seen.payments.find paymentNo = some row ∧ row.orderNo = orderNo ∧
      row.status ∈ [PaymentStatus.INIT, .PROCESSING] ∧
      (row.channelTradeNo = [] ∨ row.channelTradeNo = number) ∧
      tradeNo = some number ∧ number ≠ [] := by
  obtain ⟨notification, ownerToken, notice, rfl, read, isSuccess, rfl, rfl⟩ := notice_of_pays pays
  obtain ⟨q, record, proc', rfl, active, issued⟩ := Sys.issued_of_executing executes
  obtain rfl : q = p := Option.some.inj (proc'.symm.trans proc)
  have member := List.mem_of_getElem? proc
  have isDelivery : IsDelivery (.paymentNotification notification ownerToken) :=
    Or.inl ⟨_, _, rfl⟩
  -- the attempt was locked, and the transaction wrote none since
  obtain ⟨entries, rfl, orderNo', locked, saw', isPayment', waits, unwritten⟩ : ∃ entries,
      record = some entries ∧ LockedPromise entries paymentNo :=
    issued (verified_delivery run member owner isDelivery).obligation
  obtain ⟨entries', notice', payment, same, compared, isPayment, _, isNumber⟩ :
      NumberPromise notification.plain (some entries) (.casPayment paymentNo status tradeNo) :=
    issued (run.verified_of (verified_numbers cfg) q member _ owner ⟨_, rfl⟩).obligation
  obtain rfl : notice' = notice := Option.some.inj (compared.read.symm.trans read)
  obtain rfl : entries = entries' := Option.some.inj same
  have isRecord : q.slot.record = entries := by rw [active entries rfl, Slot.record_active]
  have asSeen := locked_as_seen run member paymentNo
  rw [isRecord] at asSeen
  have row := asSeen _ payment compared.locked isPayment unwritten
  obtain rfl : locked = payment :=
    Option.some.inj ((asSeen _ locked saw' isPayment' unwritten).symm.trans row)
  have named := compared.named isSuccess
  exact ⟨locked, row, compared.ofOrder, waits, own_of_same named compared.same, isNumber, named⟩

end Runs

/-- The notification of the payment has locked and compared its attempt. -/
def notificationCompared : List PayEvent :=
  [.spawn (.createPayment tenYuanOnWechat [] (drawn "p") 0)] ++ steps 0 4 1 ++
    [.answer 0 codeUrl] ++ steps 0 2 1 ++
    [.spawn (.paymentNotification paidNotice (drawn "k1"))] ++ steps 1 6 2

/-- Process 1 serves a notification of a success and is about to move an attempt. -/
def movesNext (s : PaySys) : Bool :=
  ((s.procs[1]?).bind fun p => (requestOf p.log).bind Request.pays).isSome &&
    match s.executing (.exec 1 ⟨9, fun _ => 0⟩) with
    | some (.casPayment _ _ _, _) => true
    | _ => false

theorem settles_own_transaction_compared :
    ∃ s p request orderNo number paymentNo status tradeNo seen row,
      PayRun shop (fun _ _ => true = true) notificationCompared s ∧ s.procs[1]? = some p ∧
      Owner p.log request ∧ request.pays = some (orderNo, number) ∧
      s.executing (.exec 1 ⟨9, fun _ => 0⟩) = some (.casPayment paymentNo status tradeNo, seen) ∧
      seen.payments.find paymentNo = some row ∧
      (row.channelTradeNo = [] ∨ row.channelTradeNo = number) ∧ tradeNo = some number := by
  obtain ⟨s, run, moves⟩ := replay_run (fun _ _ => true) notificationCompared movesNext
    (by decide +kernel)
  simp only [movesNext, Bool.and_eq_true, Option.isSome_iff_exists, Option.bind_eq_some_iff]
    at moves
  obtain ⟨⟨⟨orderNo, number⟩, p, proc, request, isRequest, pays⟩, executes⟩ := moves
  split at executes
  · rename_i paymentNo status tradeNo seen executing
    have owner := owner_of_requestOf isRequest
    obtain ⟨row, found, _, _, own, isNumber, _⟩ :=
      settles_own_transaction run proc owner pays executing
    exact ⟨s, p, request, orderNo, number, paymentNo, status, tradeNo, seen, row, run, proc, owner,
      pays, executing, found, own, isNumber⟩
  · cases executes

end CallbackService
end DrogonPay
