import DrogonPay.Laws.Charges
import DrogonPay.Laws.RefundAmount
import DrogonPay.Laws.SettledAmounts
import DrogonPay.Laws.SettledNumber
import DrogonPay.ReadCommitted.Told

/-!
Contract: which message a process has been told when it settles an attempt or a
refund.

Owns:
- `Announces`, a message by which an order was paid, with its total and its
  transaction, and `Refunds`, a message by which a refund is made;
- the proof that the syncs and the refund notification move a row only after such a
  message;
- `announced_settlement` and `announced_refund`, for every process of a run.

Does not own: where a message comes from.
-/

namespace DrogonPay

open ReadCommitted PaymentService

open CallbackService in
/-- A message by which this order was paid: the total and the transaction it names. -/
inductive Announces : PayEntry → Bytes → Nat → Bytes → Prop where
  | notification {notification : Notification} {ownerToken : Drawn} {notice : PaymentNotice}
      {fen : Nat} (read : PaymentNotice.of notification.plain = some notice)
      (paid : (PayUtils.mapTradeState notice.tradeState).2 = .SUCCESS)
      (total : notifiedTotal notification.plain = some (fen : Int)) :
      Announces (.spawned (.paymentNotification notification ownerToken)) notice.orderNo fen
        notice.transactionId
  | wechatAnswer {orderNo : Bytes} {a : ChannelAnswer} {said : SyncAnswer} {fen : Nat}
      (through : a.error = []) (read : readWechatAnswer a.result = some (some said))
      (paid : said.paymentStatus = .SUCCESS) (total : said.totalFen = fen) :
      Announces (.answered (.queryPayment (ascii "wechat") orderNo) a) orderNo fen
        said.transactionId
  | alipayAnswer {orderNo : Bytes} {a : ChannelAnswer} {said : SyncAnswer} {fen : Nat}
      (through : a.error = []) (read : readAlipayAnswer a.result = some (some said))
      (paid : said.paymentStatus = .SUCCESS) (total : said.totalFen = fen) :
      Announces (.answered (.queryPayment (ascii "alipay") orderNo) a) orderNo fen
        said.transactionId
  | alipayNotification {tradeNo orderNo tradeStatus totalAmount : Bytes} {fen : Nat}
      (paid : tradeStatus = ascii "TRADE_SUCCESS" ∨ tradeStatus = ascii "TRADE_FINISHED")
      (total : PayUtils.parseAmountToFen totalAmount = some fen) :
      Announces (.spawned (.alipayNotification tradeNo orderNo tradeStatus totalAmount)) orderNo
        fen tradeNo

open CallbackService RefundService in
/-- A message by which this refund was made. -/
inductive Refunds : PayEntry → RefundBooking → Prop where
  | notification {notification : Notification} {ownerToken : Drawn} {notice : RefundNotice}
      {booking : RefundBooking} {fen : Nat}
      (read : RefundNotice.of notification.plain = some notice)
      (named : notice.refundNo = booking.refundNo)
      (made : PayUtils.mapRefundStatus notice.refundStatusRaw = some .REFUND_SUCCESS)
      (refunded : refundedFen notification.plain = some (fen : Int))
      (worth : PayUtils.parseAmountToFen booking.amount = some fen) :
      Refunds (.spawned (.refundNotification notification ownerToken)) booking
  | asked {call : ChannelCall} {a : ChannelAnswer} {booking : RefundBooking} {fen : Nat}
      (asks : AsksFor call booking fen) (made : RefundMade call a) :
      Refunds (.answered call a) booking
  | queried {a : ChannelAnswer} {booking : RefundBooking}
      (made : RefundMade (.queryRefund (ascii "wechat") booking.refundNo) a) :
      Refunds (.answered (.queryRefund (ascii "wechat") booking.refundNo) a) booking

/-- An attempt is worth the total of a message that was heard, whose transaction it is
given. -/
def Announced (known : List PayEntry) (payment : PaymentRow) (tradeNo : Option Bytes) : Prop :=
  ∃ message fen number, message ∈ known ∧ Announces message payment.orderNo fen number ∧
    0 < fen ∧ PayUtils.parseAmountToFen payment.amount = some fen ∧ tradeNo = some number

/-- An attempt is settled after it was read, on a message. -/
def AnnouncePromise (known : List PayEntry) : Stmt → Prop
  | .casPayment paymentNo status tradeNo => status = .SUCCESS → ∃ payment,
      Saw known (.newestAttempt payment.orderNo openStatuses) (some payment) ∧
        payment.paymentNo = paymentNo ∧ Announced known payment tradeNo
  | _ => True

theorem told_orThrow {P : List PayEntry → Stmt → Prop} {known : List PayEntry} {α : Type}
    {value : Option α} {next : α → PayProg}
    (continues : ∀ a, value = some a → (next a).Told P known) :
    (orThrow value next).Told P known := by
  cases value with
  | none => trivial
  | some a => exact continues a rfl

/-! ## The order syncs -/

section OrderSync

variable {cfg : Config} {known : List PayEntry} {orderNo paymentNo : Bytes} {said : SyncAnswer}
  {payment : PaymentRow} {callback : Option OrderStatus → PayProg}

theorem told_writeSyncedOrder {order : OrderRow} {status : OrderStatus}
    (continues : ∀ status, (callback status).Reports) :
    (writeSyncedOrder order paymentNo status callback).Told AnnouncePromise known := by
  refine ⟨trivial, fun _ _ => ?_, (continues none).told _⟩
  dsimp only
  split
  · refine ⟨⟨trivial, fun found _ => ?_, trivial⟩, (continues _).told _⟩
    match found with
    | none => exact ⟨trivial, fun _ _ => trivial, trivial⟩
    | some _ => trivial
  · exact (continues _).told _

theorem told_syncWechatOrder {orderStatus : OrderStatus} {settledRefundFen : Nat}
    (continues : ∀ status, (callback status).Reports) :
    (syncWechatOrder orderNo paymentNo orderStatus settledRefundFen callback).Told
      AnnouncePromise known := by
  refine ⟨trivial, fun found _ => ?_, (continues none).told _⟩
  match found with
  | none => exact (continues none).told _
  | some order =>
      dsimp only
      split
      · exact (continues _).told _
      · exact told_writeSyncedOrder continues

theorem told_syncAlipayOrder (continues : ∀ status, (callback status).Reports) :
    (PaymentService.syncAlipayOrder orderNo paymentNo said callback).Told AnnouncePromise
      known := by
  refine ⟨trivial, fun found _ => ?_, (continues none).told _⟩
  match found with
  | none => exact (continues none).told _
  | some order =>
      dsimp only
      split
      · exact (continues _).told _
      · split
        · exact (continues none).told _
        · exact told_writeSyncedOrder continues

/-- The attempt of a sync that may settle it was read, and is worth what was said. -/
def Worth (known : List PayEntry) (said : SyncAnswer) (payment : PaymentRow) : Prop :=
  said.paymentStatus = .SUCCESS →
    Saw known (.newestAttempt payment.orderNo openStatuses) (some payment) ∧
      Announced known payment (some said.transactionId)

theorem told_casPayment (worth : Worth known said payment)
    (continues : ∀ status, (callback status).Reports) {next : PayProg}
    (books : next.Told AnnouncePromise known) :
    (Prog.sql .txn (.casPayment payment.paymentNo said.paymentStatus (some said.transactionId)) fun
      | none => .rollback (callback none)
      | some false => .rollback (callback (some said.orderStatus))
      | some true => next : PayProg).Told AnnouncePromise known := by
  refine ⟨fun success => ?_, fun won _ => ?_, (continues none).told _⟩
  · obtain ⟨saw, announced⟩ := worth success
    exact ⟨payment, saw, rfl, announced⟩
  · match won with
    | false => exact (continues _).told _
    | true => exact books

theorem told_syncWechatTransaction (worth : Worth known said payment)
    (continues : ∀ status, (callback status).Reports) :
    (syncWechatTransaction orderNo said payment callback).Told AnnouncePromise known := by
  have pays : ∀ settledRefundFen, (syncWechatPayment orderNo said payment settledRefundFen
      callback).Told AnnouncePromise known := by
    intro settledRefundFen
    unfold syncWechatPayment
    split
    · exact told_syncWechatOrder continues
    · split
      · exact (continues _).told _
      · exact told_casPayment worth continues (told_syncWechatOrder continues)
  intro started
  match started with
  | false => trivial
  | true =>
      dsimp only
      split
      · exact ⟨trivial, fun _ _ => pays _, pays _⟩
      · exact pays _

theorem told_syncAlipayTransaction (worth : Worth known said payment)
    (continues : ∀ status, (callback status).Reports) :
    (syncAlipayTransaction orderNo said payment callback).Told AnnouncePromise known := by
  intro started
  match started with
  | false => trivial
  | true =>
      dsimp only
      split
      · exact told_syncAlipayOrder continues
      · split
        · exact (continues _).told _
        · exact told_casPayment worth continues (told_syncAlipayOrder continues)

/-- A sync is told of a payment before it reads the attempt. -/
theorem told_syncAttempt {transaction : PaymentRow → PayProg} (coherent : Coherent said)
    (heard : ∀ fen : Nat, said.paymentStatus = .SUCCESS → said.totalFen = fen →
      ∃ message ∈ known, Announces message orderNo fen said.transactionId)
    (transacts : ∀ payment known, Worth known said payment →
      (transaction payment).Told AnnouncePromise known)
    (continues : ∀ status, (callback status).Reports) :
    (syncAttempt orderNo said transaction callback).Told AnnouncePromise known := by
  refine ⟨trivial, fun found possible => ?_, (continues none).told _⟩
  match found with
  | none => exact (continues _).told _
  | some payment =>
      dsimp only
      split
      · exact (continues none).told _
      · rename_i passes
        refine transacts payment _ fun success => ?_
        obtain rfl : payment.orderNo = orderNo := (possible payment rfl).1
        have gate : reconcileAmountProblem said.totalFen payment.amount = false := by
          simpa [coherent.success.mp success] using passes
        obtain ⟨fen, total, positive, worth⟩ := reconcileAmountProblem_eq_false gate
        obtain ⟨message, member, announces⟩ := heard fen success total
        exact ⟨Saw.last, message, fen, _, List.mem_append_left _ member, announces, positive, worth,
          rfl⟩

theorem told_syncOrderStatusFromWechat {result : Json}
    (heard : ∀ said (fen : Nat), readWechatAnswer result = some (some said) →
      said.paymentStatus = .SUCCESS → said.totalFen = fen →
      ∃ message ∈ known, Announces message orderNo fen said.transactionId)
    (continues : ∀ status, (callback status).Reports) :
    (syncOrderStatusFromWechat orderNo result callback).Told AnnouncePromise known := by
  refine told_orThrow fun answer read => ?_
  match answer with
  | none => exact (continues none).told _
  | some said =>
      exact told_syncAttempt (coherent_readWechatAnswer read) (fun fen => heard said fen read)
        (fun _ _ worth => told_syncWechatTransaction worth continues) continues

theorem told_syncOrderStatusFromAlipay {result : Json}
    (heard : ∀ said (fen : Nat), readAlipayAnswer result = some (some said) →
      said.paymentStatus = .SUCCESS → said.totalFen = fen →
      ∃ message ∈ known, Announces message orderNo fen said.transactionId)
    (continues : ∀ status, (callback status).Reports) :
    (syncOrderStatusFromAlipay orderNo result callback).Told AnnouncePromise known := by
  refine told_orThrow fun answer read => ?_
  match answer with
  | none => exact (continues none).told _
  | some said =>
      exact told_syncAttempt (readAlipayAnswer_cases read).1 (fun fen => heard said fen read)
        (fun _ _ worth => told_syncAlipayTransaction worth continues) continues

/-- An Alipay answer that a payment was made names its state and its transaction. -/
theorem paid_readAlipayAnswer {result : Json}
    (read : readAlipayAnswer result = some (some said)) (paid : said.paymentStatus = .SUCCESS) :
    (∃ tradeStatus, result.stringAt "trade_status" = some tradeStatus ∧
      (tradeStatus = ascii "TRADE_SUCCESS" ∨ tradeStatus = ascii "TRADE_FINISHED")) ∧
    result.stringAt "trade_no" = some said.transactionId := by
  simp only [readAlipayAnswer, Option.bind_eq_bind, Option.bind_eq_some_iff, Option.pure_def] at read
  obtain ⟨code, _, read⟩ := read
  split at read
  · cases read
  · obtain ⟨tradeStatus, isStatus, read⟩ := Option.bind_eq_some_iff.mp read
    split at read
    · cases read
    · rename_i orderStatus paymentStatus mapped
      obtain ⟨transactionId, named, read⟩ := Option.bind_eq_some_iff.mp read
      obtain ⟨rfl, rfl⟩ : paymentStatus = said.paymentStatus ∧
          transactionId = said.transactionId := by
        split at read
        all_goals
          obtain ⟨totalFen, _, isSaid⟩ := Option.bind_eq_some_iff.mp read
          cases isSaid
          exact ⟨rfl, rfl⟩
      refine ⟨⟨tradeStatus, isStatus, ?_⟩, named⟩
      rw [paid] at mapped
      unfold mapAlipayTradeStatus at mapped
      split at mapped
      · rename_i settled
        exact settled
      · split_ifs at mapped <;> cases mapped

/-- An Alipay notification is its own answer. -/
theorem told_alipayNotification {tradeNo tradeStatus totalAmount : Bytes}
    (spawned : .spawned (.alipayNotification tradeNo orderNo tradeStatus totalAmount) ∈ known) :
    (alipayNotification tradeNo orderNo tradeStatus totalAmount).Told AnnouncePromise known := by
  refine told_syncOrderStatusFromAlipay (fun said fen read paid isTotal => ?_)
    reports_answerAlipay
  obtain ⟨text, isText, total⟩ := (readAlipayAnswer_cases read).2.2 fen isTotal
  obtain ⟨⟨status, isStatus, settled⟩, named⟩ := paid_readAlipayAnswer read paid
  obtain rfl : totalAmount = text := Option.some.inj isText
  obtain rfl : tradeStatus = status := Option.some.inj isStatus
  obtain rfl : tradeNo = said.transactionId := Option.some.inj named
  exact ⟨_, spawned, .alipayNotification settled total⟩

theorem told_queryOrder : (queryOrder cfg orderNo).Told AnnouncePromise known := by
  unfold queryOrder
  split
  · trivial
  · refine ⟨trivial, fun found _ => ?_, trivial⟩
    match found with
    | none => trivial
    | some order =>
        dsimp only
        split
        · rename_i onWechat
          intro a
          dsimp only
          split
          · rename_i through
            refine told_syncOrderStatusFromWechat (fun said fen read paid total => ?_)
              (reports_answerSynced order _ _ _ _)
            exact ⟨_, List.mem_append_right _ (List.mem_singleton_self _),
              onWechat.1 ▸ .wechatAnswer (List.isEmpty_iff.mp through) read paid total⟩
          · trivial
        · split
          · rename_i onAlipay
            intro a
            dsimp only
            split
            · rename_i through
              refine told_syncOrderStatusFromAlipay (fun said fen read paid total => ?_)
                (reports_answerSynced order _ _ _ _)
              exact ⟨_, List.mem_append_right _ (List.mem_singleton_self _),
                onAlipay.1 ▸ .alipayAnswer (List.isEmpty_iff.mp through) read paid total⟩
            · trivial
          · trivial

end OrderSync

/-! ## The sweep -/

section Reconcile

open ReconciliationService RefundService

variable {cfg : Config} {known : List PayEntry} {refundNo : Bytes}

/-- A refund sync settles no attempt. -/
theorem told_syncRefundStatusFromWechat {result : Json} {callback : Option RefundStatus → PayProg}
    (continues : ∀ status, (callback status).Reports) :
    (syncRefundStatusFromWechat refundNo result callback).Told AnnouncePromise known := by
  have settles : ∀ (order : OrderRow) (orderNo : Bytes) known,
      (settleSyncedOrder order orderNo callback).Told AnnouncePromise known := by
    intro order orderNo known
    unfold settleSyncedOrder
    split
    · refine ⟨trivial, fun sumText _ => ?_, (continues none).told _⟩
      dsimp only
      split
      · exact ⟨trivial, fun _ _ => (continues _).told _, (continues none).told _⟩
      · exact (continues _).told _
    · exact (continues _).told _
  have books : ∀ (refund : RefundRow) known,
      (bookSyncedRefund refund callback).Told AnnouncePromise known := by
    intro refund known
    refine ⟨trivial, fun found _ => ?_, (continues none).told _⟩
    match found with
    | none => exact (continues none).told _
    | some order =>
        refine ⟨⟨trivial, fun booked _ => ?_, trivial⟩, settles order _ _⟩
        match booked with
        | none => exact ⟨trivial, fun _ _ => trivial, trivial⟩
        | some _ => trivial
  refine told_orThrow fun wechatStatus _ => ?_
  split
  · exact (continues none).told _
  · refine told_orThrow fun refundId _ => ?_
    split
    · exact (continues none).told _
    · rename_i refundStatus _
      refine ⟨trivial, fun found _ => ?_, (continues none).told _⟩
      match found with
      | none => exact (continues none).told _
      | some refund =>
          dsimp only
          split
          · exact (continues _).told _
          · intro started
            match started with
            | false => trivial
            | true =>
                refine ⟨trivial, fun _ _ => ⟨⟨trivial, fun _ _ => ?_, (continues none).told _⟩, ?_⟩,
                  (continues none).told _⟩
                · dsimp only
                  split
                  · trivial
                  · exact (continues _).told _
                · split
                  · exact books refund _
                  · trivial

theorem told_forEach {ρ : Type} {each : ρ → PayProg}
    (tells : ∀ row, (each row).Told AnnouncePromise known) (rows : List ρ) :
    (forEach rows each).Told AnnouncePromise known := by
  induction rows with
  | nil => trivial
  | cons row rest inductionHypothesis => exact ⟨tells row, inductionHypothesis⟩

theorem told_dispatch {configured : Bool} {sweep next : PayProg}
    (sweeps : sweep.Told AnnouncePromise known) (continues : next.Told AnnouncePromise known) :
    (dispatch configured sweep next).Told AnnouncePromise known := by
  cases configured with
  | false => exact continues
  | true => exact ⟨sweeps, continues⟩

theorem told_reconcile {now : Nat} : (reconcile cfg now).Told AnnouncePromise known := by
  have done : ∀ status, (Prog.done : PayProg).Reports := fun _ : Option OrderStatus => trivial
  have wechatOrder : ∀ known order, (syncWeChatOrder now order).Told AnnouncePromise known := by
    intro known order a
    dsimp only
    split
    · rename_i through
      refine told_orThrow fun _ _ => told_orThrow fun tradeState _ => ?_
      have synced : (syncOrderStatusFromWechat order.orderNo a.result fun _ => .done).Told
          AnnouncePromise (known ++ [.answered (.queryPayment (ascii "wechat") order.orderNo) a]) :=
        told_syncOrderStatusFromWechat (fun said fen read paid total =>
          ⟨_, List.mem_append_right _ (List.mem_singleton_self _),
            .wechatAnswer (List.isEmpty_iff.mp through) read paid total⟩) done
      unfold closeIfExpired
      split
      · exact ⟨fun _ => trivial, synced⟩
      · exact synced
    · trivial
  have alipayOrder : ∀ known order,
      (ReconciliationService.syncAlipayOrder order).Told AnnouncePromise known := by
    intro known order a
    dsimp only
    split
    · rename_i through
      exact told_syncOrderStatusFromAlipay (fun said fen read paid total =>
        ⟨_, List.mem_append_right _ (List.mem_singleton_self _),
          .alipayAnswer (List.isEmpty_iff.mp through) read paid total⟩) done
    · trivial
  have refunds : ∀ known refund, (syncRefund refund).Told AnnouncePromise known := by
    intro known refund a
    dsimp only
    split
    · exact told_syncRefundStatusFromWechat fun _ => trivial
    · trivial
  refine told_dispatch ⟨trivial, fun rows _ => told_forEach (wechatOrder _) rows, trivial⟩ ?_
  refine told_dispatch ⟨trivial, fun rows _ => told_forEach (alipayOrder _) rows, trivial⟩ ?_
  refine told_dispatch ⟨trivial, fun rows _ => told_forEach (refunds _) rows, trivial⟩ ?_
  exact ⟨⟨trivial, fun _ _ => trivial, trivial⟩, trivial⟩

end Reconcile

/-! ## The refund notification -/

section Notified

open CallbackService

variable {cfg : Config} {known : List PayEntry} {plain : Json} {delivery : Delivery}

/-- A refund is moved to the status of the notice it is moved by, and never by primary
key. -/
def NoticePromise (plain : Json) (_ : List PayEntry) : Stmt → Prop
  | .casRefund _ status _ => ∃ notice, RefundNotice.of plain = some notice ∧
      PayUtils.mapRefundStatus notice.refundStatusRaw = some status
  | .updateRefund _ _ _ => False
  | _ => True

theorem told_finalizeAndCommit {commitFailed : String} :
    (finalizeAndCommit delivery commitFailed).Told (NoticePromise plain) known := by
  refine ⟨trivial, fun owned _ => ?_, trivial⟩
  match owned with
  | true =>
      intro committed
      cases committed <;> trivial
  | false => trivial

theorem told_recordDuplicate {orderNo : Bytes} :
    (recordDuplicate orderNo).Told (NoticePromise plain) known := by
  refine ⟨trivial, fun found _ => ?_, trivial⟩
  match found with
  | some payment => exact ⟨trivial, fun _ _ => trivial, trivial⟩
  | none => trivial

theorem told_reserveDelivery {duplicate proceed : PayProg}
    (repeated : ∀ known, duplicate.Told (NoticePromise plain) known)
    (proceeds : ∀ known, proceed.Told (NoticePromise plain) known) :
    (reserveDelivery delivery duplicate proceed).Told (NoticePromise plain) known := by
  refine ⟨trivial, fun found _ => ?_, trivial⟩
  match found with
  | some existing =>
      dsimp only
      split
      · exact ⟨trivial, fun _ _ => trivial, trivial⟩
      · exact repeated _
  | none =>
      refine ⟨trivial, fun reserved _ => ?_, trivial⟩
      match reserved with
      | none => trivial
      | some _ => exact proceeds _

theorem told_settleRefundNotice {notice : RefundNotice} {refund : RefundRow} {order : OrderRow}
    {refundStatus : RefundStatus} (read : RefundNotice.of plain = some notice)
    (mapped : PayUtils.mapRefundStatus notice.refundStatusRaw = some refundStatus) :
    (settleRefundNotice delivery notice refund order refundStatus).Told (NoticePromise plain)
      known := by
  have covers : ∀ known,
      (settleNotifiedOrder order refund.orderNo).Told (NoticePromise plain) known := by
    intro known
    refine ⟨trivial, fun sumText _ => ?_, trivial⟩
    dsimp only
    split
    · trivial
    · split
      · exact ⟨trivial, fun _ _ => trivial, trivial⟩
      · trivial
  have finishes : ∀ known,
      (insertCallbackAndFinish delivery refund.paymentNo).Told (NoticePromise plain) known :=
    fun known => ⟨trivial, fun _ _ => told_finalizeAndCommit, trivial⟩
  intro started
  match started with
  | false => trivial
  | true =>
      refine ⟨⟨notice, read, mapped⟩, fun won _ => ?_, trivial⟩
      match won with
      | none => exact ⟨trivial, fun _ _ => trivial, trivial⟩
      | some _ =>
          refine ⟨⟨trivial, fun _ _ => ?_, trivial⟩, ?_⟩
          · dsimp only
            split
            · exact covers _
            · trivial
          · unfold bookNotifiedRefund
            split
            · exact ⟨trivial, fun _ _ => finishes _, finishes _⟩
            · exact finishes _

theorem told_checkRefundNotice {notice : RefundNotice}
    (read : RefundNotice.of plain = some notice) :
    (checkRefundNotice delivery notice).Told (NoticePromise plain) known := by
  unfold checkRefundNotice
  split
  · trivial
  · rename_i refundStatus mapped
    refine ⟨trivial, fun found _ => ?_, trivial⟩
    match found with
    | none => trivial
    | some refund =>
        dsimp only
        split
        · trivial
        · refine told_orThrow fun checked _ => ?_
          match checked with
          | .error problem => trivial
          | .ok notifyCurrency =>
              refine ⟨trivial, fun ordered _ => ?_, trivial⟩
              match ordered with
              | none => trivial
              | some order =>
                  dsimp only
                  split
                  · trivial
                  · exact told_settleRefundNotice read mapped

theorem told_handleRefundCallback {notification : Notification} {ownerToken : Bytes} :
    (handleRefundCallback cfg notification ownerToken).Told (NoticePromise notification.plain)
      known := by
  unfold handleRefundCallback
  split
  · trivial
  · refine told_orThrow fun merchant _ => ?_
    dsimp only
    split
    · trivial
    · refine told_orThrow fun notice read => ?_
      split
      · trivial
      · refine told_reserveDelivery (fun known => told_orThrow fun tradeOrderNo _ => ?_)
          fun known => told_checkRefundNotice read
        split
        · trivial
        · exact told_recordDuplicate

end Notified

/-! ## Settlements -/

/-- The call asks after an order. -/
def ChannelCall.Queries : ChannelCall → Prop
  | .queryPayment _ _ => True
  | _ => False

/-- A request that books what a channel says of an order. -/
def Request.syncs : Request → Prop
  | .queryOrder _ | .reconcile _ | .alipayNotification _ _ _ _ => True
  | _ => False

theorem told_serve (cfg : Config) (request : Request) (syncs : request.syncs) :
    (serve cfg request).Told AnnouncePromise [.spawned request] := by
  cases request with
  | queryOrder orderNo => exact told_queryOrder
  | reconcile now => exact told_reconcile
  | alipayNotification tradeNo outTradeNo tradeStatus totalAmount =>
      exact told_alipayNotification (List.mem_singleton_self _)
  | _ => exact syncs.elim

/-- The other requests ask after no order. -/
theorem unasking_serve (cfg : Config) {request : Request} (other : ¬ request.syncs) :
    (serve cfg request).Mute ChannelCall.Queries := by
  cases request with
  | createPayment body key paymentNo now => exact asks_createPayment fun _ _ => id
  | createQRPayment body paymentNo now => exact asks_createQRPayment fun _ _ _ => id
  | createRefund body key uuid => exact asks_createRefund fun _ _ _ _ _ => ⟨id, id⟩
  | queryRefund refundNo => exact mute_queryRefund fun _ _ => id
  | paymentNotification notification ownerToken => exact mute_handlePaymentCallback _ _
  | refundNotification notification ownerToken => exact mute_handleRefundCallback _ _
  | _ => exact absurd trivial other

section Runs

variable {cfg : Config} {ok : PaySys → PayEvent → Prop} {events : List PayEvent} {s : PaySys}
  {p : PayProc} {paymentNo : Bytes} {tradeNo : Option Bytes}

theorem Announced.mono {known known' : List PayEntry} {payment : PaymentRow}
    (announced : Announced known payment tradeNo) (within : known ⊆ known') :
    Announced known' payment tradeNo := by
  obtain ⟨message, fen, number, member, rest⟩ := announced
  exact ⟨message, fen, number, within member, rest⟩

/-- Only a notification settles an attempt on its own message. -/
theorem notification_of_says (run : PayRun cfg ok events s) (member : p ∈ s.procs)
    {request : Request} (owner : Owner p.log request) (other : ¬ request.syncs)
    {message : PayEntry} (heard : message ∈ p.log) {orderNo : Bytes} {fen : Nat}
    (claims : Says message orderNo fen) :
    ∃ notification ownerToken, request = .paymentNotification notification ownerToken ∧
      message = .spawned request ∧ notification.plain.stringAt "out_trade_no" = some orderNo ∧
      notifiedTotal notification.plain = some (fen : Int) := by
  have unheard : ∀ channel orderNo a, .answered (.queryPayment channel orderNo) a ∉ p.log :=
    fun channel orderNo a heard =>
      run.unheard (unasking_serve cfg other) member owner heard trivial
  cases claims with
  | @notification notification ownerToken _ _ named total =>
      have same := run.spawned_of member owner (List.mem_append_left _ heard)
      exact ⟨notification, ownerToken, same.symm, congrArg Entry.spawned same, named, total⟩
  | wechatAnswer read total => exact absurd heard (unheard _ _ _)
  | alipayAnswer read total => exact absurd heard (unheard _ _ _)
  | alipayNotification total =>
      have same := run.spawned_of member owner (List.mem_append_left _ heard)
      exact absurd (same ▸ trivial) other

/-- What settles an attempt was told of its payment before. -/
theorem announced_settlement (run : PayRun cfg ok events s) (member : p ∈ s.procs)
    {before after log entries : List PayEntry}
    (split : p.log = before ++ .ran (.casPayment paymentNo .SUCCESS tradeNo) true :: after)
    (promise : SettlePromise log entries paymentNo) (inLog : log ⊆ before)
    (inRecord : entries ⊆ before) :
    ∃ payment, AttemptSeen before before payment ∧ payment.paymentNo = paymentNo ∧
      Announced before payment tradeNo := by
  obtain ⟨request, owner⟩ := run.owned p member
  by_cases syncs : request.syncs
  · obtain ⟨known, within, promise⟩ := run.told (P := fun _ => AnnouncePromise)
      (told_serve cfg) member owner syncs split
    obtain ⟨payment, saw, isPayment, announced⟩ := promise rfl
    exact ⟨payment, Or.inl (saw.mono within), isPayment, announced.mono within⟩
  · obtain ⟨payment, message, fen, held, isPayment, _, _, claims, positive, worth⟩ := promise
    have logged : ∀ {entry : PayEntry}, entry ∈ before → entry ∈ p.log := by
      intro entry member
      rw [split]
      exact List.mem_append_left _ member
    obtain ⟨notification, ownerToken, rfl, rfl, named, total⟩ :=
      notification_of_says run member owner syncs (logged (inLog held.heard)) claims
    obtain ⟨_, _, _, _, _, notice, _, _, compared, _, settles, isNumber⟩ :=
      run.issued_of (CallbackService.verified_numbers cfg) member owner ⟨ownerToken, rfl⟩
        (split ▸ List.mem_append_right _ List.mem_cons_self)
    have isOrder : notice.orderNo = payment.orderNo := by
      have read := compared.read
      simp only [CallbackService.PaymentNotice.of, named, Option.bind_eq_bind, Option.bind_some,
        Option.bind_eq_some_iff, Option.pure_def, Option.some.injEq] at read
      obtain ⟨transactionId, _, tradeState, _, rfl⟩ := read
      rfl
    refine ⟨payment, ?_, isPayment, _, fen, notice.transactionId, inLog held.heard, ?_, positive, worth,
      isNumber⟩
    · exact held.seen.imp (fun saw => saw.mono inLog) fun saw => saw.mono inRecord
    · exact isOrder ▸ .notification compared.read settles.symm total

theorem told_refundNotification (cfg : Config) {notification : Notification} (request : Request)
    (isRequest : ∃ ownerToken, request = .refundNotification notification ownerToken) :
    (serve cfg request).Told (NoticePromise notification.plain) [.spawned request] := by
  obtain ⟨ownerToken, rfl⟩ := isRequest
  exact told_handleRefundCallback

/-- What makes a refund succeed was told that it was made. -/
theorem announced_refund (run : PayRun cfg ok events s) (member : p ∈ s.procs)
    {before after log : List PayEntry} {record : Option (List PayEntry)} {move : PayEntry}
    {refundNo : Bytes} (split : p.log = before ++ move :: after)
    (moves : RefundService.MovesRefund refundNo move)
    (promise : RefundMovePromise log record refundNo .REFUND_SUCCESS) (inLog : log ⊆ before) :
    ∃ row, (s.view p.slot.record).refunds.find refundNo = some row ∧
      ∃ message ∈ before, Refunds message row.toRefundBooking := by
  have logged : ∀ {entry : PayEntry}, entry ∈ log → entry ∈ p.log := by
    intro entry member
    rw [split]
    exact List.mem_append_left _ (inLog member)
  cases record with
  | none =>
      obtain ⟨booking, now, asked, totalFen, booked, rfl, _, call, a, heard, made, asks⟩ :=
        promise rfl
      obtain ⟨row, found, isBooking⟩ :=
        refund_booked run member (Proc.mem_known_of_log (logged booked))
      exact ⟨row, found, _, inLog heard, isBooking ▸ .asked asks made⟩
  | some record =>
      obtain ⟨_, refund, rfl, read, message⟩ := promise
      obtain ⟨row, found, isBooking⟩ :=
        refund_read run member (Proc.mem_known_of_log (logged read))
      refine ⟨row, found, ?_⟩
      rw [← isBooking]
      rcases message rfl with ⟨_, heard, notification, ownerToken, fen, rfl, named, refunded,
        worth⟩ | ⟨a, heard, made⟩
      · obtain ⟨request, owner⟩ := run.owned p member
        obtain rfl := run.spawned_of member owner (List.mem_append_left _ (logged heard))
        have told : ∀ {st : Stmt} {res : st.Res}, move = .ran st res →
            ∃ known, NoticePromise notification.plain known st := by
          rintro st res rfl
          obtain ⟨known, _, promise⟩ := run.told
            (P := fun _ => NoticePromise notification.plain) (told_refundNotification cfg) member
            owner ⟨ownerToken, rfl⟩ split
          exact ⟨known, promise⟩
        rcases moves with ⟨refundId, now, isMove⟩ | ⟨refundId, now, isMove⟩
        · obtain ⟨_, notice, isNotice, made⟩ := told isMove
          have isRefund : notice.refundNo = refund.refundNo := by
            have read := isNotice
            simp only [CallbackService.RefundNotice.of, named, Option.bind_eq_bind,
              Option.bind_some, Option.bind_eq_some_iff, Option.pure_def, Option.some.injEq] at read
            obtain ⟨refundStatusRaw, _, refundId, _, rfl⟩ := read
            rfl
          exact ⟨_, inLog heard, .notification isNotice isRefund made refunded worth⟩
        · obtain ⟨_, never⟩ := told isMove
          exact never.elim
      · exact ⟨_, inLog heard, .queried made⟩

end Runs
end DrogonPay
