import DrogonPay.Promises.Delivery
import DrogonPay.ReadCommitted.Replies

/-!
Contract: on what grounds a WeChat notification is acknowledged.

Owns:
- `Subject`, the payment or refund a message is about, and `Request.notifies`,
  the success a notification reports;
- `Grounds`, everything a handler takes for a settled subject;
- `answers_serve`: both handlers acknowledge a success on such grounds only.

Does not own: whether the subject is settled then.
-/

namespace DrogonPay

open ReadCommitted

/-- The payment of an order, or a refund. -/
inductive Subject where
  | order (orderNo : Bytes)
  | refund (refundNo : Bytes)
deriving DecidableEq, Repr

open CallbackService in
/-- The order or the refund a WeChat notification reports the success of. -/
def Request.notifies : Request → Option Subject
  | .paymentNotification notification _ => do
      let notice ← PaymentNotice.of notification.plain
      if notice.tradeState = ascii "SUCCESS" then some (.order notice.orderNo) else none
  | .refundNotification notification _ => do
      let notice ← RefundNotice.of notification.plain
      if notice.refundStatusRaw = ascii "SUCCESS" then some (.refund notice.refundNo) else none
  | _ => none

/-- The answer tells the channel to stop. -/
def Reply.acknowledges (out : Reply) : Bool :=
  out.body.stringAt "code" = some (ascii "SUCCESS")

namespace CallbackService

/-- What a handler takes for a settled subject: the reservation is finalized,
the row was read settled, a guarded update found it in another status than it
was read in, or the settlement is committed. -/
inductive Grounds (subject : Subject) (v : Sight paySig) : Prop where
  | repeated {key : Bytes} {existing : IdempotencyRow}
      (found : Saw v.seen (.findIdempotency key) (some existing))
      (finished : existing.responseSnapshot.isSome)
  | locked {orderNo : Bytes} {payment : PaymentRow} (isOrder : subject = .order orderNo)
      (found : Saw v.seen (.lockAttempt orderNo PaymentService.openStatuses) (some payment))
      (settled : payment.status = .SUCCESS ∨ payment.status = .REFUNDED)
  | outrun {paymentNo : Bytes} {status : PaymentStatus} {tradeNo : Option Bytes}
      (lost : Saw v.seen (.casPayment paymentNo status tradeNo) false)
  | read {refundNo : Bytes} {refund : RefundRow} (isRefund : subject = .refund refundNo)
      (found : Saw v.seen (.findRefund refundNo) (some refund))
      (settled : refund.status = .REFUND_SUCCESS)
  | outrunRefund {refundNo : Bytes} {refundId : Option Bytes} (isRefund : subject = .refund refundNo)
      (lost : Saw v.seen (.casRefund refundNo .REFUND_SUCCESS refundId) none)
  | finalized {key ownerToken : Bytes} {snapshot : Json}
      (committed : Saw v.log (.finalizeReservation key ownerToken snapshot) true)

/-- An acknowledgement has its grounds. -/
def Grounded (subject : Subject) (v : Sight paySig) (out : Reply) : Prop :=
  out.acknowledges = true → Grounds subject v

theorem Grounds.mono {subject : Subject} {v v' : Sight paySig} (grounds : Grounds subject v)
    (seen : v.seen ⊆ v'.seen) (log : v.log ⊆ v'.log) : Grounds subject v' := by
  cases grounds with
  | repeated found finished => exact .repeated (found.mono seen) finished
  | locked isOrder found settled => exact .locked isOrder (found.mono seen) settled
  | outrun lost => exact .outrun (lost.mono seen)
  | read isRefund found settled => exact .read isRefund (found.mono seen) settled
  | outrunRefund isRefund lost => exact .outrunRefund isRefund (lost.mono seen)
  | finalized committed => exact .finalized (committed.mono log)

section Answers

variable {subject : Subject} {v : Sight paySig} {delivery : Delivery}

theorem fail_not_acknowledged (text : String) (error : Option ErrorCode) :
    Reply.acknowledges ⟨Json.object [("code", Json.text "FAIL"), ("message", Json.text text)],
      error⟩ = false := rfl

theorem answers_fail {text : String} {error : ErrorCode} :
    (respondFail text error).Answers (Grounded subject) v :=
  ⟨fun acknowledged => absurd acknowledged (by simp [fail_not_acknowledged]), trivial⟩

theorem answers_success (grounds : Grounds subject v) :
    respondSuccess.Answers (Grounded subject) v :=
  ⟨fun _ => grounds, trivial⟩

theorem answers_orThrow {α : Type} {value : Option α} {next : α → PayProg}
    (continues : ∀ a, value = some a → (next a).Answers (Grounded subject) v) :
    (orThrow value next).Answers (Grounded subject) v := by
  cases value with
  | none => trivial
  | some a => exact continues a rfl

/-- The finalizing is in the log when its commit is acknowledged. -/
theorem answers_finalizeAndCommit {commitFailed : String} :
    (finalizeAndCommit delivery commitFailed).Answers (Grounded subject) v := by
  refine ⟨fun owned _ => ?_, answers_fail⟩
  match owned with
  | false => exact answers_fail
  | true =>
      have committed : Saw (v.within (.finalizeReservation delivery.idempotencyKey
          delivery.ownerToken delivery.plain) true).committed.log
          (.finalizeReservation delivery.idempotencyKey delivery.ownerToken delivery.plain) true :=
        List.mem_append_right _ Saw.last
      exact ⟨answers_success (.finalized committed), answers_fail⟩

theorem answers_skipAdvanced {paymentNo : Bytes} (grounds : Grounds subject v) :
    (skipAdvanced paymentNo).Answers (Grounded subject) v := by
  refine ⟨fun _ _ => answers_success (grounds.mono ?_ ?_), answers_success (grounds.mono ?_ ?_)⟩
  · exact List.subset_append_left _ _
  · exact List.subset_append_left _ _
  · exact List.Subset.refl _
  · exact List.Subset.refl _

theorem answers_recordDuplicate {orderNo : Bytes} (grounds : Grounds subject v) :
    (recordDuplicate orderNo).Answers (Grounded subject) v := by
  refine ⟨fun found _ => ?_, answers_fail⟩
  match found with
  | none => exact answers_fail
  | some payment =>
      refine ⟨fun _ _ => answers_success (grounds.mono ?_ ?_), answers_fail⟩
      · exact List.Subset.trans (List.subset_append_left _ _) (List.subset_append_left _ _)
      · exact List.Subset.trans (List.subset_append_left _ _) (List.subset_append_left _ _)

theorem answers_reserveDelivery {duplicate proceed : PayProg}
    (repeated : ∀ v', Grounds subject v' → duplicate.Answers (Grounded subject) v')
    (proceeds : ∀ v', proceed.Answers (Grounded subject) v') :
    (reserveDelivery delivery duplicate proceed).Answers (Grounded subject) v := by
  refine ⟨fun found _ => ?_, answers_fail⟩
  match found with
  | some existing =>
      dsimp only
      split
      · exact ⟨fun _ _ => answers_fail, answers_fail⟩
      · rename_i unfinished
        refine repeated _ (.repeated Saw.last ?_)
        exact Option.ne_none_iff_isSome.mp fun isNone => unfinished (by rw [isNone]; rfl)
  | none =>
      refine ⟨fun reserved _ => ?_, answers_fail⟩
      match reserved with
      | none => exact answers_fail
      | some _ => exact proceeds _

/-! ## Payment notifications -/

section Payment

variable {notice : PaymentNotice} {payment : PaymentRow} {order : OrderRow}

theorem answers_settleNotifiedPayment {orderStatus : OrderStatus} {paymentStatus : PaymentStatus}
    (paid : orderStatus = .PAID) :
    (settleNotifiedPayment delivery notice payment order orderStatus paymentStatus).Answers
      (Grounded subject) v := by
  refine ⟨fun _ _ => ?_, answers_fail⟩
  refine ⟨fun won _ => ?_, answers_fail⟩
  match won with
  | false => exact answers_skipAdvanced (.outrun Saw.last)
  | true =>
      refine ⟨fun _ _ => ?_, answers_fail⟩
      dsimp only
      rw [if_pos (Or.inl paid)]
      exact ⟨fun _ _ => answers_finalizeAndCommit, answers_finalizeAndCommit⟩

theorem answers_checkNotifiedPayment (isSuccess : notice.tradeState = ascii "SUCCESS") :
    (checkNotifiedPayment delivery notice payment order).Answers (Grounded subject) v := by
  refine answers_orThrow fun problem _ => ?_
  match problem with
  | some text => exact answers_fail
  | none =>
      dsimp only
      split
      · exact answers_fail
      · unfold resolveNotifiedPayment
        rw [isSuccess]
        exact answers_settleNotifiedPayment rfl

theorem answers_settlePaymentNotice (isSuccess : notice.tradeState = ascii "SUCCESS") :
    (settlePaymentNotice delivery notice).Answers (Grounded (.order notice.orderNo)) v := by
  intro started
  match started with
  | false => trivial
  | true =>
      refine ⟨fun found _ => ?_, answers_fail⟩
      match found with
      | none => exact answers_fail
      | some payment =>
          dsimp only
          split
          · rename_i settled
            exact answers_success (.locked rfl Saw.last settled)
          · refine ⟨fun ordered _ => ?_, answers_fail⟩
            match ordered with
            | none => exact answers_fail
            | some order => exact answers_checkNotifiedPayment isSuccess

end Payment

/-! ## Refund notifications -/

section Refund

variable {notice : RefundNotice} {refund : RefundRow} {order : OrderRow}
  {refundStatus : RefundStatus}

theorem answers_insertCallbackAndFinish {paymentNo : Bytes} :
    (insertCallbackAndFinish delivery paymentNo).Answers (Grounded subject) v :=
  ⟨fun _ _ => answers_finalizeAndCommit, answers_fail⟩

theorem answers_bookNotifiedRefund :
    (bookNotifiedRefund delivery refund order refundStatus).Answers (Grounded subject) v := by
  unfold bookNotifiedRefund
  split
  · exact ⟨fun _ _ => answers_insertCallbackAndFinish, answers_insertCallbackAndFinish⟩
  · exact answers_insertCallbackAndFinish

theorem answers_settleNotifiedOrder {orderNo : Bytes} :
    (settleNotifiedOrder order orderNo).Answers (Grounded subject) v := by
  refine ⟨fun sumText _ => ?_, answers_fail⟩
  dsimp only
  split
  · exact answers_fail
  · split
    · exact ⟨fun _ _ => trivial, answers_fail⟩
    · trivial

theorem answers_writeNotifiedPayload :
    (writeNotifiedPayload refund order refundStatus).Answers (Grounded subject) v := by
  refine ⟨fun _ _ => ?_, answers_fail⟩
  dsimp only
  split
  · exact answers_settleNotifiedOrder
  · trivial

theorem startless_writeNotifiedPayload :
    (writeNotifiedPayload refund order refundStatus).Startless := by
  intro stamped
  match stamped with
  | none => trivial
  | some _ =>
      dsimp only
      split
      · intro summed
        match summed with
        | none => trivial
        | some sumText =>
            dsimp only
            split
            · trivial
            · split
              · intro covered
                cases covered <;> trivial
              · trivial
      · trivial

theorem startless_bookNotifiedRefund :
    (bookNotifiedRefund delivery refund order refundStatus).Startless := by
  have finishes : (insertCallbackAndFinish delivery refund.paymentNo).Startless := by
    intro recorded
    match recorded with
    | none => trivial
    | some _ =>
        intro owned
        match owned with
        | some true =>
            intro committed
            cases committed <;> trivial
        | some false => trivial
        | none => trivial
  unfold bookNotifiedRefund
  split
  · exact fun _ => finishes
  · exact finishes

theorem answers_settleRefundNotice (isSubject : subject = .refund refund.refundNo)
    (settles : refundStatus = .REFUND_SUCCESS) :
    (settleRefundNotice delivery notice refund order refundStatus).Answers
      (Grounded subject) v := by
  intro started
  match started with
  | false => trivial
  | true =>
      refine ⟨fun won _ => ?_, answers_fail⟩
      match won with
      | none =>
          subst settles
          exact answers_skipAdvanced (.outrunRefund isSubject Saw.last)
      | some now =>
          exact ⟨⟨startless_writeNotifiedPayload, startless_bookNotifiedRefund⟩,
            answers_writeNotifiedPayload, answers_bookNotifiedRefund⟩

theorem answers_checkRefundNotice (isSuccess : notice.refundStatusRaw = ascii "SUCCESS") :
    (checkRefundNotice delivery notice).Answers (Grounded (.refund notice.refundNo)) v := by
  unfold checkRefundNotice
  rw [isSuccess, show PayUtils.mapRefundStatus (ascii "SUCCESS") = some .REFUND_SUCCESS from rfl]
  refine ⟨fun found possible => ?_, answers_fail⟩
  match found with
  | none => exact answers_fail
  | some refund =>
      obtain isRefund : refund.refundNo = notice.refundNo := possible refund rfl
      dsimp only
      split
      · rename_i settled
        exact answers_success (.read rfl Saw.last settled)
      · refine answers_orThrow fun checked _ => ?_
        match checked with
        | .error problem => exact answers_fail
        | .ok notifyCurrency =>
            refine ⟨fun ordered _ => ?_, answers_fail⟩
            match ordered with
            | none => exact answers_fail
            | some order =>
                dsimp only
                split
                · exact answers_fail
                · exact answers_settleRefundNotice (by rw [isRefund]) rfl

end Refund

end Answers

/-- A success is acknowledged on grounds only. -/
theorem answers_serve (cfg : Config) {request : Request} {subject : Subject}
    (notifies : request.notifies = some subject) :
    (serve cfg request).Answers (Grounded subject) Sight.blank := by
  cases request with
  | paymentNotification notification ownerToken =>
      obtain ⟨notice, read, isSubject⟩ := Option.bind_eq_some_iff.mp notifies
      split at isSubject
      · rename_i isSuccess
        cases isSubject
        change (handlePaymentCallback cfg notification ownerToken.text).Answers _ _
        unfold handlePaymentCallback
        split
        · exact answers_fail
        · refine answers_orThrow fun merchant _ => ?_
          dsimp only
          split
          · exact answers_fail
          · refine answers_orThrow fun notice' read' => ?_
            obtain rfl : notice' = notice := Option.some.inj (read'.symm.trans read)
            split
            · exact answers_fail
            · exact answers_reserveDelivery (fun _ => answers_recordDuplicate)
                fun _ => answers_settlePaymentNotice isSuccess
      · cases isSubject
  | refundNotification notification ownerToken =>
      obtain ⟨notice, read, isSubject⟩ := Option.bind_eq_some_iff.mp notifies
      split at isSubject
      · rename_i isSuccess
        cases isSubject
        change (handleRefundCallback cfg notification ownerToken.text).Answers _ _
        unfold handleRefundCallback
        split
        · exact answers_fail
        · refine answers_orThrow fun merchant _ => ?_
          dsimp only
          split
          · exact answers_fail
          · refine answers_orThrow fun notice' read' => ?_
            obtain rfl : notice' = notice := Option.some.inj (read'.symm.trans read)
            split
            · exact answers_fail
            · refine answers_reserveDelivery (fun v' grounds => answers_orThrow fun tradeOrderNo _ => ?_)
                fun _ => answers_checkRefundNotice isSuccess
              split
              · exact answers_fail
              · exact answers_recordDuplicate grounds
      · cases isSubject
  | _ => cases notifies

end CallbackService
end DrogonPay
