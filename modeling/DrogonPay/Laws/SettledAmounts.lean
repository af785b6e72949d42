import DrogonPay.Laws.Settled
import DrogonPay.Promises.Programs
import DrogonPay.ReadCommitted.Origins

/-!
Contract: an attempt is settled by a message with its amount and its order's.

Owns:
- `WorthOrders`: an attempt and its order are worth the same fen, or neither
  amount can be read;
- `AttemptsAsTold`, the law over every attempt that is or was SUCCESS, kept by
  every run.

Does not own: how a total is compared with an amount; the contract of the
services says that it was.
-/

namespace DrogonPay

open ReadCommitted

namespace PaymentService

/-- Every attempt has an order worth the same. -/
def WorthOrders (db : Db) : Prop :=
  ∀ paymentNo row, db.payments.find paymentNo = some row →
    ∃ order, db.orders.find row.orderNo = some order ∧
      PayUtils.parseAmountToFen order.amount = PayUtils.parseAmountToFen row.amount

/-- Every attempt that is or was SUCCESS was moved there by a process that held a
message whose total is positive and the amount of both the attempt and its
order. -/
def AttemptsAsTold (s : PaySys) : Prop :=
  ∀ db ∈ s.history, ∀ paymentNo row, db.payments.find paymentNo = some row →
    row.status = .SUCCESS →
    ∃ order, db.orders.find row.orderNo = some order ∧
      ∃ p ∈ s.procs, ∃ before tradeNo after,
        p.log = before ++ .ran (.casPayment paymentNo .SUCCESS tradeNo) true :: after ∧
        ∃ message ∈ before, ∃ fen, Says message row.orderNo fen ∧ 0 < fen ∧
          PayUtils.parseAmountToFen row.amount = some fen ∧
          PayUtils.parseAmountToFen order.amount = some fen

section Runs

variable {cfg : Config} {ok : PaySys → PayEvent → Prop} {events : List PayEvent} {s : PaySys}
  {p : PayProc}

/-- A reused order was compared with the amount of the new attempt. -/
theorem worth_orders (run : PayRun cfg ok events s) : WorthOrders s.db := by
  intro paymentNo row found
  have booked : (paymentColumn.read s.db paymentNo).any fun payment =>
      payment.toPaymentBooking = row.toPaymentBooking := by
    simp [paymentColumn, found]
  obtain ⟨p, member, st, res, made⟩ : ∃ p ∈ s.procs, ∃ st res, Made payContract paymentColumn
      (fun payment => payment.any fun payment =>
        payment.toPaymentBooking = row.toPaymentBooking) paymentNo p.log st res :=
    run.made (by simp [paymentColumn, Db.empty, Table.find, Table.empty]) (verified_serve cfg) s.db
      List.mem_cons_self booked
  obtain ⟨w, old, write, fails, becomes⟩ := made.changed
  obtain ⟨before, after, known, record, split, issue, isPrefix, within⟩ := made.issued
  obtain rfl := insertPayment_of_booked write fails becomes
  have logged : ∀ {entry : PayEntry}, entry ∈ before → entry ∈ p.log := by
    intro entry member
    rw [split]
    exact List.mem_append_left _ member
  have ofBooked : ∀ {order : OrderBooking} {now : Nat}, .ran (.insertOrder order) now ∈ before →
      order.orderNo = row.orderNo → order.amount = row.amount →
      ∃ order, s.db.orders.find row.orderNo = some order ∧
        PayUtils.parseAmountToFen order.amount = PayUtils.parseAmountToFen row.amount := by
    intro order now saw isOrder sameAmount
    obtain ⟨there, is, isBooking⟩ := order_committed run member (logged saw)
    refine ⟨there, isOrder ▸ is, ?_⟩
    rw [← sameAmount, ← isBooking]
  -- the order is the one the process booked, or the one it compared with
  obtain ⟨_, worth⟩ : BookingPromise known record row.toPaymentBooking := issue
  cases record with
  | some record =>
      obtain ⟨_, order, now, saw, isOrder, sameAmount⟩ := worth
      exact ofBooked (within record rfl saw) isOrder sameAmount
  | none =>
      rcases worth.2 with ⟨order, now, saw, isOrder, sameAmount⟩ | ⟨order, saw, sameFen⟩
      · exact ofBooked (isPrefix.subset saw) isOrder sameAmount
      · obtain ⟨there, is, isBooking⟩ := order_known run member (logged (isPrefix.subset saw))
        refine ⟨there, is, ?_⟩
        rw [← congrArg OrderBooking.amount isBooking]
        exact sameFen

/-- An attempt that was read is there, with the booking it was read with. -/
theorem seen_in_view (run : PayRun cfg ok events s) (member : p ∈ s.procs)
    {log record : List PayEntry} {payment : PaymentRow} (inLog : log ⊆ p.known)
    (inRecord : record ⊆ p.known) (seen : AttemptSeen log record payment) :
    ∃ row, (s.view p.slot.record).payments.find payment.paymentNo = some row ∧
      payment.toPaymentBooking = row.toPaymentBooking := by
  rcases seen with saw | locked
  · exact attempt_read run member (inLog saw)
  · exact lockedAttempt_read run member (inRecord locked)

/-- The attempt a process settles has the booking it read. -/
theorem booking_of_seen (run : PayRun cfg ok events s) (member : p ∈ s.procs)
    {log record : List PayEntry} {payment row : PaymentRow} (inLog : log ⊆ p.log)
    (inRecord : record ⊆ p.log) (seen : AttemptSeen log record payment) {db : Db}
    (isPast : db ∈ s.history) (found : db.payments.find payment.paymentNo = some row) :
    payment.toPaymentBooking = row.toPaymentBooking := by
  obtain ⟨now, is, booked⟩ := payment_stays run member isPast found
  obtain ⟨now', is', booked'⟩ := seen_in_view run member
    (fun _ known => Proc.mem_known_of_log (inLog known))
    (fun _ known => Proc.mem_known_of_log (inRecord known)) seen
  obtain rfl : now = now' := Option.some.inj (is.symm.trans is')
  exact booked'.trans booked.symm

end Runs

/-- Every run settles attempts as told. -/
theorem attempts_as_told {cfg : Config} {ok : PaySys → PayEvent → Prop} {events : List PayEvent}
    {s : PaySys} (run : PayRun cfg ok events s) : AttemptsAsTold s := by
  intro db isPast paymentNo row found success
  have holds : (paymentColumn.read db paymentNo).any fun payment => payment.status = .SUCCESS := by
    simp [paymentColumn, found, success]
  obtain ⟨p, member, st, res, made⟩ : ∃ p ∈ s.procs, ∃ st res, Made payContract paymentColumn
      (fun row => row.any fun payment => payment.status = .SUCCESS) paymentNo p.log st res :=
    run.made (by simp [paymentColumn, Db.empty, Table.find, Table.empty]) (verified_serve cfg) db
      isPast holds
  obtain ⟨w, old, write, fails, becomes⟩ := made.changed
  obtain ⟨before, after, known, record, split, issue, isPrefix, within⟩ := made.issued
  obtain ⟨tradeNo, rfl⟩ := casPayment_of_success write fails becomes
  obtain ⟨entries, isRecord, payment, message, fen, held, rfl, _, _, told, positive, worth⟩ :=
    issue.2.2 rfl
  have inLog : before ⊆ p.log := by
    rw [split]
    exact List.subset_append_left _ _
  have booked := booking_of_seen run member (List.Subset.trans isPrefix.subset inLog)
    (List.Subset.trans (within entries isRecord) inLog) held.seen isPast found
  have sameOrder : payment.orderNo = row.orderNo := congrArg PaymentBooking.orderNo booked
  have sameAmount : payment.amount = row.amount := congrArg PaymentBooking.amount booked
  have worths : ∀ earlier ∈ s.history, WorthOrders earlier := run.forall_history worth_orders
  obtain ⟨order, isOrder, orderWorth⟩ := worths db isPast payment.paymentNo row found
  cases res with
  | false => cases write
  | true =>
      exact ⟨order, isOrder, p, member, before, tradeNo, after, split, message,
        isPrefix.subset held.heard, fen, sameOrder ▸ told, positive, sameAmount ▸ worth,
        orderWorth.trans (sameAmount ▸ worth)⟩

theorem attempts_as_told_paid :
    ∃ s, PayRun shop (fun _ _ => True) paidOnWechat s ∧ orderIs s.db "o" .PAID = true ∧
      AttemptsAsTold s := by
  obtain ⟨s, run, paid⟩ := replay_run (fun _ _ => true) paidOnWechat
    (fun s => orderIs s.db "o" .PAID) (by decide +kernel)
  exact ⟨s, run.mono fun _ _ _ => trivial, paid, attempts_as_told run⟩

end PaymentService
end DrogonPay
