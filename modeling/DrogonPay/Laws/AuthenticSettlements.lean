import DrogonPay.Laws.Authentic
import DrogonPay.Laws.AlipayForms
import DrogonPay.Laws.Announced

/-!
Contract: no attempt is settled and no refund succeeds but on an authentic message.

Owns: `authentic_settlement` and `authentic_refund`, the laws over every run of a
deployment whose processes hear nothing but what its doors and clients let through.

Does not own: that an authentic message is heard at all.
-/

namespace DrogonPay

open ReadCommitted PaymentService AlipayCallbackController

variable {cfg : Config} {gateway : Gateway} {events : List PayEvent} {s : PaySys} {p : PayProc}

/-- Every request that starts a process comes through its door. -/
theorem started_by_gateway (run : PayRun cfg gateway.Admits events s) (member : p ∈ s.procs)
    {request : Request} (owner : Owner p.log request) : gateway.Starts request :=
  run.started (fun _ _ admits => admits) member owner

/-- A request that is logged starts the process. -/
theorem authentic_request (run : PayRun cfg gateway.Admits events s) (member : p ∈ s.procs)
    {request : Request} (heard : .spawned request ∈ p.log)
    (isNotification : (∃ notification ownerToken,
        request = .paymentNotification notification ownerToken ∨
          request = .refundNotification notification ownerToken) ∨
      ∃ tradeNo outTradeNo tradeStatus totalAmount,
        request = .alipayNotification tradeNo outTradeNo tradeStatus totalAmount) :
    gateway.Authentic (.spawned request) := by
  obtain ⟨started, owner⟩ := run.owned p member
  obtain rfl := run.spawned_of member owner (List.mem_append_left _ heard)
  exact (started_by_gateway run member owner).authentic isNotification

theorem authentic_answer (run : PayRun cfg gateway.Admits events s) (member : p ∈ s.procs)
    {call : ChannelCall} {a : ChannelAnswer} (heard : .answered call a ∈ p.log)
    (through : a.error = []) : gateway.Authentic (.answered call a) := by
  have answers : gateway.Answers call a := by
    refine run.heard (H := fun _ call a => gateway.Answers call a) (fun _ => id) ?_ member heard
    intro s event pid p call a admits hears
    obtain ⟨k, rest, head⟩ := hears.head
    rw [hears.heard] at admits
    exact admits p call k rest hears.proc head
  exact answers.authentic through

theorem authentic_announcement (run : PayRun cfg gateway.Admits events s) (member : p ∈ s.procs)
    {message : PayEntry} (heard : message ∈ p.log) {orderNo number : Bytes} {fen : Nat}
    (announces : Announces message orderNo fen number) : gateway.Authentic message := by
  cases announces with
  | notification read paid total =>
      exact authentic_request run member heard (Or.inl ⟨_, _, Or.inl rfl⟩)
  | wechatAnswer through => exact authentic_answer run member heard through
  | alipayAnswer through => exact authentic_answer run member heard through
  | alipayNotification paid total =>
      exact authentic_request run member heard (Or.inr ⟨_, _, _, _, rfl⟩)

theorem authentic_of_refunds (run : PayRun cfg gateway.Admits events s) (member : p ∈ s.procs)
    {message : PayEntry} (heard : message ∈ p.log) {booking : RefundBooking}
    (refunds : Refunds message booking) : gateway.Authentic message := by
  have through : ∀ {call a}, RefundMade call a → a.error = [] := by
    intro call a made
    cases made <;> assumption
  cases refunds with
  | notification =>
      exact authentic_request run member heard (Or.inl ⟨_, _, Or.inr rfl⟩)
  | asked asks made => exact authentic_answer run member heard (through made)
  | queried made => exact authentic_answer run member heard (through made)

/-- Every attempt that is or was SUCCESS was settled by a process that had heard an
authentic message of its payment, with the amount of the attempt and of its order, and
was given the transaction the message names. -/
theorem authentic_settlement (run : PayRun cfg gateway.Admits events s) {db : Db}
    (isPast : db ∈ s.history) {paymentNo : Bytes} {row : PaymentRow}
    (found : db.payments.find paymentNo = some row) (success : row.status = .SUCCESS) :
    ∃ order, db.orders.find row.orderNo = some order ∧
      ∃ p ∈ s.procs, ∃ before number after,
        p.log = before ++ .ran (.casPayment paymentNo .SUCCESS (some number)) true :: after ∧
        ∃ message ∈ before, gateway.Authentic message ∧
          ∃ fen, Announces message row.orderNo fen number ∧ 0 < fen ∧
            PayUtils.parseAmountToFen row.amount = some fen ∧
            PayUtils.parseAmountToFen order.amount = some fen := by
  have holds : (paymentColumn.read db paymentNo).any fun payment => payment.status = .SUCCESS := by
    simp [paymentColumn, found, success]
  obtain ⟨p, member, st, res, made⟩ : ∃ p ∈ s.procs, ∃ st res, Made payContract paymentColumn
      (fun row => row.any fun payment => payment.status = .SUCCESS) paymentNo p.log st res :=
    run.made (by simp [paymentColumn, Db.empty, Table.find, Table.empty]) (verified_serve cfg) db
      isPast holds
  obtain ⟨w, old, write, fails, becomes⟩ := made.changed
  obtain ⟨before, after, known, record, split, issue, isPrefix, within⟩ := made.issued
  obtain ⟨tradeNo, rfl⟩ := casPayment_of_success write fails becomes
  obtain ⟨entries, isRecord, promise⟩ := issue.2.2 rfl
  have inLog : before ⊆ p.log := by
    rw [split]
    exact List.subset_append_left _ _
  cases res with
  | false => cases write
  | true =>
      obtain ⟨payment, seen, rfl, message, fen, number, heard, announces, positive, worth, rfl⟩ :=
        announced_settlement run member split promise isPrefix.subset (within entries isRecord)
      have booked := booking_of_seen run member inLog inLog seen isPast found
      have sameOrder : payment.orderNo = row.orderNo := congrArg PaymentBooking.orderNo booked
      have sameAmount : payment.amount = row.amount := congrArg PaymentBooking.amount booked
      have worths : ∀ earlier ∈ s.history, WorthOrders earlier := run.forall_history worth_orders
      obtain ⟨order, isOrder, orderWorth⟩ := worths db isPast payment.paymentNo row found
      rw [sameAmount] at worth
      exact ⟨order, isOrder, p, member, before, number, after, split, message, heard,
        authentic_announcement run member (inLog heard) announces, fen, sameOrder ▸ announces,
        positive, worth, orderWorth.trans worth⟩

/-- Every refund that is or was REFUND_SUCCESS was moved there by a process that had
heard an authentic message that it was made. -/
theorem authentic_refund (run : PayRun cfg gateway.Admits events s) {db : Db}
    (isPast : db ∈ s.history) {refundNo : Bytes} {row : RefundRow}
    (found : db.refunds.find refundNo = some row) (success : row.status = .REFUND_SUCCESS) :
    ∃ p ∈ s.procs, ∃ before move after, p.log = before ++ move :: after ∧
      RefundService.MovesRefund refundNo move ∧
      ∃ message ∈ before, gateway.Authentic message ∧ Refunds message row.toRefundBooking := by
  have holds : (refundColumn.read db refundNo).any fun refund =>
      refund.status = .REFUND_SUCCESS := by
    simp [refundColumn, found, success]
  obtain ⟨p, member, st, res, made⟩ : ∃ p ∈ s.procs, ∃ st res, Made payContract refundColumn
      (fun row => row.any fun refund => refund.status = .REFUND_SUCCESS) refundNo p.log st res :=
    run.made (by simp [refundColumn, Db.empty, Table.find, Table.empty]) (verified_serve cfg) db
      isPast holds
  obtain ⟨w, old, write, fails, becomes⟩ := made.changed
  obtain ⟨before, after, known, record, split, issue, isPrefix, _⟩ := made.issued
  obtain ⟨moves, promise⟩ : RefundService.MovesRefund refundNo (.ran st res) ∧
      RefundMovePromise known record refundNo .REFUND_SUCCESS := by
    rcases moves_of_refundSuccess write fails becomes with ⟨refundId, rfl⟩ | ⟨refundId, rfl⟩
    · cases res with
      | none => cases write
      | some now => exact ⟨Or.inl ⟨refundId, now, rfl⟩, issue⟩
    · cases res with
      | none => cases write
      | some now => exact ⟨Or.inr ⟨refundId, now, rfl⟩, issue.2⟩
  obtain ⟨seen, foundSeen, message, heard, refunds⟩ :=
    announced_refund run member split moves promise isPrefix.subset
  obtain ⟨seen', foundSeen', booked⟩ := refund_stays run member isPast found
  obtain rfl : seen = seen' := Option.some.inj (foundSeen.symm.trans foundSeen')
  rw [← booked] at refunds
  refine ⟨p, member, before, _, after, split, moves, message, heard, ?_, refunds⟩
  refine authentic_of_refunds run member ?_ refunds
  rw [split]
  exact List.mem_append_left _ heard

/-! ## The till -/

/-- The answer to the refund, as it is posted. -/
def refundedBody : Bytes :=
  ascii "\x7b\"alipay_trade_refund_response\":\x7b\"code\":\"10000\"\x7d\x7d"

def refundedRoot : Json :=
  Json.object [("alipay_trade_refund_response", Json.object [("code", Json.text "10000")])]

/-- A deployment with an Alipay key and no certificate of WeChat. -/
def till : Gateway where
  wechat := ⟨tillDoor.tools, WechatChannel.keyless, WechatChannel.CertSettings.ofConfig [] 60, shop⟩
  alipay := tillDoor
  platformCertPath := []
  platformCaCertPath := []
  timeoutMs := 5000
  writer := ⟨fun _ => ascii "null", fun _ => ⟨110, ascii "ull", by decide, by decide⟩⟩
  parseJson body := if body = refundedBody then some refundedRoot else none

def refundedAnswer : ChannelAnswer := ⟨Json.object [("code", Json.text "10000")], []⟩

/-- The till lets this notification and this answer through, and nothing else. -/
def tillAdmits (s : PaySys) : PayEvent → Bool
  | .spawn (.alipayNotification tradeNo outTradeNo tradeStatus totalAmount) =>
      tradeNo = ascii "T" && outTradeNo = ascii "o" && tradeStatus = ascii "TRADE_SUCCESS" &&
        totalAmount = ascii "10.00"
  | .spawn (.paymentNotification _ _) | .spawn (.refundNotification _ _) => false
  | .answer pid a =>
      a.error.isEmpty && Json.same a.result refundedAnswer.result &&
        match (s.procs[pid]?).bind fun p => p.queue.head? with
        | some (.call (.refund channel _) _) => channel = ascii "alipay"
        | _ => false
  | _ => true

theorem till_answers {payload : Json} :
    till.Answers (.refund (ascii "alipay") payload) refundedAnswer := by
  refine ⟨.answered ⟨⟨200, by decide, by decide⟩, refundedBody, some refundedRoot, none⟩, by rfl, ?_⟩
  rintro response ⟨⟩
  exact ⟨by rfl, fun other => absurd rfl other⟩

theorem till_admits {s : PaySys} {event : PayEvent} (admits : tillAdmits s event = true) :
    till.Admits s event := by
  cases event with
  | spawn request =>
      cases request with
      | alipayNotification tradeNo outTradeNo tradeStatus totalAmount =>
          simp only [tillAdmits, Bool.and_eq_true, decide_eq_true_eq] at admits
          obtain ⟨⟨⟨rfl, rfl⟩, rfl⟩, rfl⟩ := admits
          exact ⟨paidForm, notify_paidForm⟩
      | paymentNotification _ _ => cases admits
      | refundNotification _ _ => cases admits
      | _ => trivial
  | answer pid a =>
      intro p call k rest proc head
      simp only [tillAdmits, proc, Option.bind_some, head, List.head?_cons, Bool.and_eq_true,
        List.isEmpty_iff] at admits
      obtain ⟨⟨through, same⟩, asked⟩ := admits
      obtain ⟨result, error⟩ := a
      obtain rfl : error = [] := through
      obtain rfl : result = refundedAnswer.result := Json.eq_of_same _ _ same
      cases call with
      | refund channel payload =>
          obtain rfl : channel = ascii "alipay" := by simpa using asked
          exact till_answers
      | _ => cases asked
  | _ => trivial

/-- The order is paid, and four of its ten yuan are refunded. -/
def refundedOnAlipay : List PayEvent :=
  paidWhileCalling ++ [.spawn (.createRefund (refundOf "r" "4.00") [] (drawn "u"))] ++
    steps 2 10 3 ++ [.answer 2 refundedAnswer] ++ steps 2 2 4

theorem authentic_settlement_paid :
    ∃ s row order, PayRun shop till.Admits paidWhileCalling s ∧
      s.db.payments.find (ascii "#p") = some row ∧ row.status = .SUCCESS ∧
      s.db.orders.find row.orderNo = some order ∧
      ∃ p ∈ s.procs, ∃ before number after, p.log = before ++
          .ran (.casPayment (ascii "#p") .SUCCESS (some number)) true :: after ∧
        ∃ message ∈ before, till.Authentic message ∧
          ∃ fen, Announces message row.orderNo fen number := by
  obtain ⟨s, run, paid⟩ := replay_run tillAdmits paidWhileCalling
    (fun s => paymentIs s.db "#p" .SUCCESS) (by decide +kernel)
  have run : PayRun shop till.Admits paidWhileCalling s := run.mono fun _ _ => till_admits
  obtain ⟨row, found, success⟩ := paymentIs_iff.mp paid
  obtain ⟨order, isOrder, p, member, before, number, after, split, message, heard, authentic, fen,
    announces, _⟩ := authentic_settlement run List.mem_cons_self found success
  exact ⟨s, row, order, run, found, success, isOrder, p, member, before, number, after, split,
    message, heard, authentic, fen, announces⟩

theorem authentic_refund_made :
    ∃ s row, PayRun shop till.Admits refundedOnAlipay s ∧
      s.db.refunds.find (ascii "r") = some row ∧ row.status = .REFUND_SUCCESS ∧
      ∃ p ∈ s.procs, ∃ before move after, p.log = before ++ move :: after ∧
        RefundService.MovesRefund (ascii "r") move ∧
        ∃ message ∈ before, till.Authentic message ∧ Refunds message row.toRefundBooking := by
  obtain ⟨s, run, refunded⟩ := replay_run tillAdmits refundedOnAlipay
    (fun s => refundIs s.db "r" .REFUND_SUCCESS) (by decide +kernel)
  have run : PayRun shop till.Admits refundedOnAlipay s := run.mono fun _ _ => till_admits
  obtain ⟨row, found, success⟩ := refundIs_iff.mp refunded
  exact ⟨s, row, run, found, success, authentic_refund run List.mem_cons_self found success⟩

end DrogonPay
