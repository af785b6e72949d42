import DrogonPay.Promises.Offers
import DrogonPay.ReadCommitted.Lineage

/-!
Contract: the calls by which a channel is asked to move money.

Owns:
- `ChannelCall.Charges`, the offer of an order and the request of a refund;
- the proof that only a create request makes such a call, and what it forks does
  not.

Does not own: what a create knows when it calls.
-/

namespace DrogonPay

open ReadCommitted PaymentService

/-- The call asks for money: an order to be paid, or a refund. -/
def ChannelCall.Charges : ChannelCall → Prop
  | .createQRPayment _ _ | .refund _ _ => True
  | _ => False

section Mute

variable {cfg : Config} {acts : ChannelCall → Prop}

theorem asks_orThrow {mine theirs : ChannelCall → Prop} {α : Type} {value : Option α}
    {next : α → PayProg} (continues : ∀ a, (next a).Asks mine theirs) :
    (orThrow value next).Asks mine theirs := by
  cases value with
  | none => trivial
  | some a => exact continues a

theorem mute_insertLedgerEntry (row : LedgerRow) : (insertLedgerEntry row).Mute acts := by
  intro found
  match found with
  | some none => exact fun _ => trivial
  | some (some _) => trivial
  | none => trivial

/-! ## The order syncs -/

section OrderSync

variable {orderNo paymentNo : Bytes} {said : SyncAnswer} {payment : PaymentRow}
  {callback : Option OrderStatus → PayProg}

theorem mute_writeSyncedOrder {order : OrderRow} {status : OrderStatus}
    (continues : ∀ status, (callback status).Mute acts) :
    (writeSyncedOrder order paymentNo status callback).Mute acts := by
  intro updated
  match updated with
  | none => exact continues none
  | some _ =>
      dsimp only
      split
      · exact ⟨mute_insertLedgerEntry _, continues _⟩
      · exact continues _

theorem mute_syncWechatOrder {orderStatus : OrderStatus} {settledRefundFen : Nat}
    (continues : ∀ status, (callback status).Mute acts) :
    (syncWechatOrder orderNo paymentNo orderStatus settledRefundFen callback).Mute acts := by
  intro found
  match found with
  | none => exact continues none
  | some none => exact continues none
  | some (some order) =>
      dsimp only
      split
      · exact continues _
      · exact mute_writeSyncedOrder continues

theorem mute_syncWechatPayment {settledRefundFen : Nat}
    (continues : ∀ status, (callback status).Mute acts) :
    (syncWechatPayment orderNo said payment settledRefundFen callback).Mute acts := by
  unfold syncWechatPayment
  split
  · exact mute_syncWechatOrder continues
  · split
    · exact continues _
    · intro won
      match won with
      | none => exact continues none
      | some false => exact continues _
      | some true => exact mute_syncWechatOrder continues

theorem mute_syncWechatTransaction (continues : ∀ status, (callback status).Mute acts) :
    (syncWechatTransaction orderNo said payment callback).Mute acts := by
  intro started
  match started with
  | false => trivial
  | true =>
      dsimp only
      split
      · intro summed
        match summed with
        | none => exact mute_syncWechatPayment continues
        | some _ => exact mute_syncWechatPayment continues
      · exact mute_syncWechatPayment continues

theorem mute_syncAttempt {transaction : PaymentRow → PayProg}
    (transacts : ∀ payment, (transaction payment).Mute acts)
    (continues : ∀ status, (callback status).Mute acts) :
    (syncAttempt orderNo said transaction callback).Mute acts := by
  intro found
  match found with
  | none => exact continues none
  | some none => exact continues _
  | some (some payment) =>
      dsimp only
      split
      · exact continues none
      · exact transacts payment

theorem mute_syncOrderStatusFromWechat {result : Json}
    (continues : ∀ status, (callback status).Mute acts) :
    (syncOrderStatusFromWechat orderNo result callback).Mute acts := by
  refine asks_orThrow fun read => ?_
  match read with
  | none => exact continues none
  | some said => exact mute_syncAttempt (fun _ => mute_syncWechatTransaction continues) continues

theorem mute_syncAlipayOrder (continues : ∀ status, (callback status).Mute acts) :
    (PaymentService.syncAlipayOrder orderNo paymentNo said callback).Mute acts := by
  intro found
  match found with
  | none => exact continues none
  | some none => exact continues none
  | some (some order) =>
      dsimp only
      split
      · exact continues _
      · split
        · exact continues none
        · exact mute_writeSyncedOrder continues

theorem mute_syncAlipayTransaction (continues : ∀ status, (callback status).Mute acts) :
    (syncAlipayTransaction orderNo said payment callback).Mute acts := by
  intro started
  match started with
  | false => trivial
  | true =>
      dsimp only
      split
      · exact mute_syncAlipayOrder continues
      · split
        · exact continues _
        · intro won
          match won with
          | none => exact continues none
          | some false => exact continues _
          | some true => exact mute_syncAlipayOrder continues

theorem mute_syncOrderStatusFromAlipay {result : Json}
    (continues : ∀ status, (callback status).Mute acts) :
    (syncOrderStatusFromAlipay orderNo result callback).Mute acts := by
  refine asks_orThrow fun read => ?_
  match read with
  | none => exact continues none
  | some said => exact mute_syncAttempt (fun _ => mute_syncAlipayTransaction continues) continues

theorem mute_alipayNotification {tradeNo tradeStatus totalAmount : Bytes} :
    (alipayNotification tradeNo orderNo tradeStatus totalAmount).Mute acts := by
  refine mute_syncOrderStatusFromAlipay fun status => ?_
  cases status <;> trivial

theorem mute_queryOrder (silent : ∀ channel orderNo, ¬ acts (.queryPayment channel orderNo)) :
    (queryOrder cfg orderNo).Mute acts := by
  have queries : ∀ {order : OrderRow} {errorKey : String} {sync : Json → PayProg},
      (∀ result, (sync result).Mute acts) → (queryChannel orderNo order errorKey sync).Mute acts := by
    intro order errorKey sync syncs
    refine ⟨silent _ _, fun a => ?_⟩
    dsimp only
    split
    · exact syncs _
    · trivial
  have answers : ∀ {order : OrderRow} {result : Json} {numberKey shownAs responseKey : String}
      (status : Option OrderStatus),
      (answerSynced order result numberKey shownAs responseKey status).Mute acts :=
    fun _ => asks_orThrow fun _ => trivial
  unfold queryOrder
  split
  · trivial
  · intro found
    match found with
    | none => trivial
    | some none => trivial
    | some (some order) =>
        dsimp only
        split
        · exact queries fun result => mute_syncOrderStatusFromWechat answers
        · split
          · exact queries fun result => mute_syncOrderStatusFromAlipay answers
          · trivial

end OrderSync

/-! ## The refund sync -/

section RefundSync

open RefundService

variable {refund : RefundRow} {refundNo : Bytes} {callback : Option RefundStatus → PayProg}

theorem mute_bookSyncedRefund (continues : ∀ status, (callback status).Mute acts) :
    (bookSyncedRefund refund callback).Mute acts := by
  have settles : ∀ order : OrderRow,
      (settleSyncedOrder order refund.orderNo callback).Mute acts := by
    intro order
    unfold settleSyncedOrder
    split
    · intro summed
      match summed with
      | none => exact continues none
      | some sumText =>
          dsimp only
          split
          · intro covered
            cases covered with
            | none => exact continues none
            | some _ => exact continues _
          · exact continues _
    · exact continues _
  intro found
  match found with
  | none => exact continues none
  | some none => exact continues none
  | some (some order) => exact ⟨mute_insertLedgerEntry _, settles order⟩

theorem mute_syncRefundTransaction {refundStatus : RefundStatus} {refundId : Bytes}
    (continues : ∀ status, (callback status).Mute acts) :
    (syncRefundTransaction refund refundStatus refundId callback).Mute acts := by
  intro started
  match started with
  | false => trivial
  | true =>
      intro updated
      match updated with
      | none => exact continues none
      | some _ =>
          refine ⟨fun stamped => ?_, ?_⟩
          · match stamped with
            | none => exact continues none
            | some _ =>
                dsimp only
                split
                · trivial
                · exact continues _
          · split
            · exact mute_bookSyncedRefund continues
            · trivial

theorem mute_syncRefundStatusFromWechat {result : Json}
    (continues : ∀ status, (callback status).Mute acts) :
    (syncRefundStatusFromWechat refundNo result callback).Mute acts := by
  refine asks_orThrow fun wechatStatus => ?_
  split
  · exact continues none
  · refine asks_orThrow fun refundId => ?_
    split
    · exact continues none
    · intro found
      match found with
      | none => exact continues none
      | some none => exact continues none
      | some (some refund) =>
          dsimp only
          split
          · exact continues _
          · exact mute_syncRefundTransaction continues

theorem mute_queryRefund (silent : ∀ channel refundNo, ¬ acts (.queryRefund channel refundNo)) :
    (queryRefund cfg refundNo).Mute acts := by
  intro found
  match found with
  | none => trivial
  | some none => trivial
  | some (some refund) =>
      dsimp only
      split
      · refine ⟨silent _ _, fun a => ?_⟩
        dsimp only
        split
        · exact mute_syncRefundStatusFromWechat fun _ => trivial
        · trivial
      · trivial

end RefundSync

/-! ## The notifications -/

section Callback

open CallbackService

variable {delivery : Delivery}

theorem mute_finalizeAndCommit (commitFailed : String) :
    (finalizeAndCommit delivery commitFailed).Mute acts := by
  intro owned
  match owned with
  | some true =>
      intro committed
      cases committed <;> trivial
  | some false => trivial
  | none => trivial

theorem mute_recordDuplicate (orderNo : Bytes) : (recordDuplicate orderNo).Mute acts := by
  intro found
  match found with
  | some (some payment) =>
      intro recorded
      cases recorded <;> trivial
  | some none => trivial
  | none => trivial

theorem mute_reserveDelivery {duplicate proceed : PayProg} (repeated : duplicate.Mute acts)
    (proceeds : proceed.Mute acts) : (reserveDelivery delivery duplicate proceed).Mute acts := by
  intro found
  match found with
  | none => trivial
  | some (some existing) =>
      dsimp only
      split
      · exact fun _ => trivial
      · exact repeated
  | some none =>
      intro reserved
      match reserved with
      | none => trivial
      | some none => trivial
      | some (some _) => exact proceeds

theorem mute_settleNotifiedPayment {notice : PaymentNotice} {payment : PaymentRow}
    {order : OrderRow} (orderStatus : OrderStatus) (paymentStatus : PaymentStatus) :
    (settleNotifiedPayment delivery notice payment order orderStatus paymentStatus).Mute acts := by
  have books : (bookNotifiedOrder delivery payment order orderStatus).Mute acts := by
    intro updated
    match updated with
    | none => trivial
    | some _ =>
        dsimp only
        split
        · exact fun _ => mute_finalizeAndCommit _
        · intro committed
          match committed with
          | false => trivial
          | true => exact fun _ => trivial
  intro recorded
  match recorded with
  | none => trivial
  | some _ =>
      intro won
      match won with
      | none => trivial
      | some false => exact fun _ => trivial
      | some true => exact books

theorem mute_settlePaymentNotice (notice : PaymentNotice) :
    (settlePaymentNotice delivery notice).Mute acts := by
  have resolves : ∀ (payment : PaymentRow) (order : OrderRow),
      (resolveNotifiedPayment delivery notice payment order).Mute acts := by
    intro payment order
    dsimp only [resolveNotifiedPayment]
    split
    · intro summed
      cases summed <;> exact mute_settleNotifiedPayment _ _
    · exact mute_settleNotifiedPayment _ _
  intro started
  match started with
  | false => trivial
  | true =>
      intro found
      match found with
      | none => trivial
      | some none => trivial
      | some (some payment) =>
          dsimp only
          split
          · trivial
          · intro ordered
            match ordered with
            | none => trivial
            | some none => trivial
            | some (some order) =>
                refine asks_orThrow fun problem => ?_
                match problem with
                | some text => trivial
                | none =>
                    dsimp only
                    split
                    · trivial
                    · exact resolves payment order

theorem mute_handlePaymentCallback (notification : Notification) (ownerToken : Bytes) :
    (handlePaymentCallback cfg notification ownerToken).Mute acts := by
  unfold handlePaymentCallback
  split
  · trivial
  · refine asks_orThrow fun merchant => ?_
    dsimp only
    split
    · trivial
    · refine asks_orThrow fun notice => ?_
      split
      · trivial
      · exact mute_reserveDelivery (mute_recordDuplicate _) (mute_settlePaymentNotice _)

theorem mute_settleRefundNotice {notice : RefundNotice} {refund : RefundRow} {order : OrderRow}
    (refundStatus : RefundStatus) :
    (settleRefundNotice delivery notice refund order refundStatus).Mute acts := by
  have finishes : (insertCallbackAndFinish delivery refund.paymentNo).Mute acts := by
    intro recorded
    match recorded with
    | none => trivial
    | some _ => exact mute_finalizeAndCommit _
  have covers : (settleNotifiedOrder order refund.orderNo).Mute acts := by
    intro summed
    match summed with
    | none => trivial
    | some sumText =>
        dsimp only
        split
        · trivial
        · split
          · intro covered
            cases covered <;> trivial
          · trivial
  intro started
  match started with
  | false => trivial
  | true =>
      intro won
      match won with
      | none => trivial
      | some none => exact fun _ => trivial
      | some (some _) =>
          refine ⟨fun stamped => ?_, ?_⟩
          · match stamped with
            | none => trivial
            | some _ =>
                dsimp only
                split
                · exact covers
                · trivial
          · unfold bookNotifiedRefund
            split
            · exact fun _ => finishes
            · exact finishes

theorem mute_checkRefundNotice (notice : RefundNotice) :
    (checkRefundNotice delivery notice).Mute acts := by
  unfold checkRefundNotice
  split
  · trivial
  · intro found
    match found with
    | none => trivial
    | some none => trivial
    | some (some refund) =>
        dsimp only
        split
        · trivial
        · refine asks_orThrow fun checked => ?_
          match checked with
          | .error problem => trivial
          | .ok notifyCurrency =>
              intro ordered
              match ordered with
              | none => trivial
              | some none => trivial
              | some (some order) =>
                  dsimp only
                  split
                  · trivial
                  · exact mute_settleRefundNotice _

theorem mute_handleRefundCallback (notification : Notification) (ownerToken : Bytes) :
    (handleRefundCallback cfg notification ownerToken).Mute acts := by
  unfold handleRefundCallback
  split
  · trivial
  · refine asks_orThrow fun merchant => ?_
    dsimp only
    split
    · trivial
    · refine asks_orThrow fun notice => ?_
      split
      · trivial
      · refine mute_reserveDelivery (asks_orThrow fun tradeOrderNo => ?_)
          (mute_checkRefundNotice _)
        split
        · trivial
        · exact mute_recordDuplicate _

end Callback

/-! ## The sweep -/

section Reconcile

open ReconciliationService

variable {now : Nat}

theorem mute_forEach {ρ : Type} {each : ρ → PayProg} (mutes : ∀ row, (each row).Mute acts)
    (rows : List ρ) : (forEach rows each).Mute acts := by
  induction rows with
  | nil => trivial
  | cons row rest inductionHypothesis => exact ⟨mutes row, inductionHypothesis⟩

theorem mute_dispatch {configured : Bool} {sweep next : PayProg} (sweeps : sweep.Mute acts)
    (continues : next.Mute acts) : (dispatch configured sweep next).Mute acts := by
  cases configured with
  | false => exact continues
  | true => exact ⟨sweeps, continues⟩

theorem mute_reconcile (silentOrders : ∀ channel orderNo, ¬ acts (.queryPayment channel orderNo))
    (silentRefunds : ∀ channel refundNo, ¬ acts (.queryRefund channel refundNo))
    (silentCloses : ∀ channel orderNo, ¬ acts (.closeOrder channel orderNo)) :
    (reconcile cfg now).Mute acts := by
  have wechatOrder : ∀ order, (syncWeChatOrder now order).Mute acts := by
    refine fun order => ⟨silentOrders _ _, fun a => ?_⟩
    dsimp only
    split
    · refine asks_orThrow fun said => asks_orThrow fun tradeState => ?_
      have synced : (syncOrderStatusFromWechat order.orderNo a.result fun _ => .done).Mute acts :=
        mute_syncOrderStatusFromWechat fun _ => trivial
      unfold closeIfExpired
      split
      · exact ⟨⟨silentCloses _ _, fun _ => trivial⟩, synced⟩
      · exact synced
    · trivial
  have alipayOrder : ∀ order, (ReconciliationService.syncAlipayOrder order).Mute acts := by
    refine fun order => ⟨silentOrders _ _, fun a => ?_⟩
    dsimp only
    split
    · exact mute_syncOrderStatusFromAlipay fun _ => trivial
    · trivial
  have refunds : ∀ refund, (syncRefund refund).Mute acts := by
    refine fun refund => ⟨silentRefunds _ _, fun a => ?_⟩
    dsimp only
    split
    · exact mute_syncRefundStatusFromWechat fun _ => trivial
    · trivial
  refine mute_dispatch (fun swept => ?_) (mute_dispatch (fun swept => ?_)
    (mute_dispatch (fun swept => ?_) ⟨fun _ => trivial, trivial⟩))
  · cases swept with
    | none => trivial
    | some rows => exact mute_forEach wechatOrder rows
  · cases swept with
    | none => trivial
    | some rows => exact mute_forEach alipayOrder rows
  · cases swept with
    | none => trivial
    | some rows => exact mute_forEach refunds rows

end Reconcile

/-- A request that creates an attempt or a refund. -/
def Request.creates : Request → Prop
  | .createPayment _ _ _ _ | .createQRPayment _ _ _ | .createRefund _ _ _ => True
  | _ => False

/-- The other requests ask a channel for no money. -/
theorem mute_serve (cfg : Config) {request : Request} (other : ¬ request.creates) :
    (serve cfg request).Mute ChannelCall.Charges := by
  cases request with
  | createPayment _ _ _ _ => exact absurd trivial other
  | createQRPayment _ _ _ => exact absurd trivial other
  | createRefund _ _ _ => exact absurd trivial other
  | queryOrder orderNo => exact mute_queryOrder fun _ _ => id
  | queryRefund refundNo => exact mute_queryRefund fun _ _ => id
  | paymentNotification notification ownerToken => exact mute_handlePaymentCallback _ _
  | refundNotification notification ownerToken => exact mute_handleRefundCallback _ _
  | alipayNotification tradeNo outTradeNo tradeStatus totalAmount =>
      exact mute_alipayNotification
  | reconcile now => exact mute_reconcile (fun _ _ => id) (fun _ _ => id) fun _ _ => id

end Mute
end DrogonPay
