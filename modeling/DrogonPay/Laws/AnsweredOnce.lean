import DrogonPay.Laws.Settled
import DrogonPay.Promises.Delivery
import DrogonPay.ReadCommitted.Outcomes

/-!
Contract: how often a WeChat delivery is answered.

Owns:
- `PaymentAnswered` and `RefundAnswered`, the conditions on the notification and
  on the outcomes of the statements under which the callback runs once;
- `answered_once_iff`: these conditions are exact;
- `lostPayload`, where one failed statement makes both chains of a refund
  notification answer.

Does not own: which of the outcomes a database has.
-/

namespace DrogonPay

open ReadCommitted

namespace CallbackService

variable {o : Outcomes paySig}

/-! ## Rules -/

/-- The program answers once iff the condition holds. -/
def OnceIff (o : Outcomes paySig) (slot : Slot paySig) (program : PayProg) (condition : Prop) :
    Prop :=
  ∃ n, program.Replying o n slot [] ∧ (n = 1 ↔ condition)

section Rules

variable {slot : Slot paySig} {record : List PayEntry} {program : PayProg} {condition : Prop}
  {st : Stmt} {k : Option st.Res → PayProg} {next : Bool → PayProg}

theorem OnceIff.congr {condition' : Prop} (once : OnceIff o slot program condition)
    (same : condition ↔ condition') : OnceIff o slot program condition' := by
  obtain ⟨n, replying, isOne⟩ := once
  exact ⟨n, replying, isOne.trans same⟩

theorem replying_answer {body : Json} {error : Option ErrorCode} {rest : List PayProg} {n : Nat}
    (replying : Replying o n slot rest) : (answer body error).Replying o (n + 1) slot rest :=
  replying_reply replying

theorem onceIff_answer {body : Json} {error : Option ErrorCode}
    (silent : reported slot.record = []) : OnceIff o slot (answer body error) True :=
  ⟨1, replying_answer (replying_nil silent), by simp⟩

theorem onceIff_done (silent : reported slot.record = []) : OnceIff o slot .done False :=
  ⟨0, replying_done silent, by simp⟩

theorem onceIff_db (once : OnceIff o slot (k (o.sql .db st)) condition) :
    OnceIff o slot (.sql .db st k) condition := by
  obtain ⟨n, replying, isOne⟩ := once
  exact ⟨n, replying_db replying, isOne⟩

theorem onceIff_txn
    (ran : ∀ res, o.sql .txn st = some res →
      OnceIff o (.active (record ++ [.ran st res])) (k (some res)) condition)
    (failed : o.sql .txn st = none → OnceIff o .closed (k none) condition) :
    OnceIff o (.active record) (.sql .txn st k) condition := by
  cases ended : o.sql .txn st with
  | some res =>
      obtain ⟨n, replying, isOne⟩ := ran res ended
      exact ⟨n, replying_txn_ran ended replying, isOne⟩
  | none =>
      obtain ⟨n, replying, isOne⟩ := failed ended
      exact ⟨n, replying_txn_failed ended replying, isOne⟩

theorem onceIff_txn_closed (once : OnceIff o .closed (k none) condition) :
    OnceIff o .closed (.sql .txn st k) condition := by
  obtain ⟨n, replying, isOne⟩ := once
  exact ⟨n, replying_txn_closed replying, isOne⟩

theorem onceIff_start (opened : o.begins = true → OnceIff o (.active []) (next true) condition)
    (refused : o.begins = false → OnceIff o .closed (next false) condition) :
    OnceIff o slot (.start next) condition := by
  cases begins : o.begins with
  | true =>
      obtain ⟨n, replying, isOne⟩ := opened begins
      exact ⟨n, replying_start (fun _ => replying) (by simp [begins]), isOne⟩
  | false =>
      obtain ⟨n, replying, isOne⟩ := refused begins
      exact ⟨n, replying_start (by simp [begins]) fun _ => replying, isOne⟩

theorem onceIff_rollback (once : OnceIff o slot.rolledBack program condition) :
    OnceIff o slot (.rollback program) condition :=
  once

theorem onceIff_orThrow {α : Type} {value : Option α} {next : α → PayProg}
    (silent : reported slot.record = [])
    (continues : ∀ a, value = some a → OnceIff o slot (next a) condition)
    (throws : value = none → ¬ condition) : OnceIff o slot (orThrow value next) condition := by
  cases found : value with
  | none => exact (onceIff_done silent).congr (by simpa using throws found)
  | some a => exact continues a found

end Rules

/-! ## What both handlers share -/

section Shared

variable {slot : Slot paySig} {record : List PayEntry} {delivery : Delivery}

theorem once_recordDuplicate {orderNo : Bytes} (silent : reported slot.record = []) :
    OnceIff o slot (recordDuplicate orderNo) True := by
  refine onceIff_db ?_
  match o.sql .db (.newestAttempt orderNo PaymentService.openStatuses) with
  | none => exact onceIff_answer silent
  | some none => exact onceIff_answer silent
  | some (some payment) =>
      refine onceIff_db ?_
      match o.sql .db (.insertCallback (auditRow payment.paymentNo)) with
      | none => exact onceIff_answer silent
      | some _ => exact onceIff_answer silent

theorem once_skipAdvanced {paymentNo : Bytes} : OnceIff o slot (skipAdvanced paymentNo) True :=
  onceIff_rollback (onceIff_db (onceIff_answer (by simp)))

theorem replying_finalizeAndCommit {commitFailed : String} (silent : reported record = []) :
    (finalizeAndCommit delivery commitFailed).Replying o 1 (.active record) [] := by
  have rolledBack : ∀ text code, (Prog.rollback (respondFail text code)).Replying o 1
      (.active (record ++ [.ran (.finalizeReservation delivery.idempotencyKey delivery.ownerToken
        delivery.plain) false])) [] :=
    fun text code => replying_answer (replying_nil (by simp))
  cases ended : o.sql .txn (.finalizeReservation delivery.idempotencyKey delivery.ownerToken
      delivery.plain) with
  | none => exact replying_txn_failed ended (replying_answer (replying_nil (by simp)))
  | some owned =>
      refine replying_txn_ran ended ?_
      match owned with
      | false => exact rolledBack _ _
      | true =>
          refine replying_commit (by simpa using silent) fun done => ?_
          cases done with
          | true => exact replying_answer (replying_nil (by simp))
          | false => exact replying_answer (replying_nil (by simp))

/-- On a transaction that is gone, finalizing answers an error. -/
theorem replying_finalizeAndCommit_closed {commitFailed : String} :
    (finalizeAndCommit delivery commitFailed).Replying o 1 .closed [] :=
  replying_txn_closed (replying_answer (replying_nil (by simp)))

/-- A delivery is answered if what follows its reservation is. -/
def ReservedAnswered (o : Outcomes paySig) (delivery : Delivery) (duplicate proceeds : Prop) :
    Prop :=
  (∀ existing, o.sql .db (.findIdempotency delivery.idempotencyKey) = some (some existing) →
    existing.responseSnapshot ≠ none → duplicate) ∧
  (o.sql .db (.findIdempotency delivery.idempotencyKey) = some none →
    ∀ now, o.sql .db (.reserve delivery.idempotencyKey delivery.requestHash
      (some delivery.ownerToken) reservationTtl) = some (some now) → proceeds)

theorem once_reserveDelivery {duplicate proceed : PayProg} {repeats proceeds : Prop}
    (silent : reported slot.record = []) (repeated : OnceIff o slot duplicate repeats)
    (continues : OnceIff o slot proceed proceeds) :
    OnceIff o slot (reserveDelivery delivery duplicate proceed)
      (ReservedAnswered o delivery repeats proceeds) := by
  refine onceIff_db ?_
  unfold ReservedAnswered
  cases o.sql .db (.findIdempotency delivery.idempotencyKey) with
  | none => exact (onceIff_answer silent).congr (by simp)
  | some found =>
      cases found with
      | some existing =>
          dsimp only
          split
          · rename_i unfinished
            exact (onceIff_db (onceIff_answer silent)).congr (by simp_all)
          · rename_i finished
            exact repeated.congr (by simp_all)
      | none =>
          refine onceIff_db ?_
          cases o.sql .db (.reserve delivery.idempotencyKey delivery.requestHash
              (some delivery.ownerToken) reservationTtl) with
          | none => exact (onceIff_answer silent).congr (by simp)
          | some reserved =>
              cases reserved with
              | none => exact (onceIff_answer silent).congr (by simp)
              | some now => exact continues.congr (by simp)

end Shared

/-! ## Payment notifications -/

section Payments

variable {record : List PayEntry} {delivery : Delivery} {notice : PaymentNotice}
  {payment : PaymentRow} {order : OrderRow} {orderStatus : OrderStatus}
  {paymentStatus : PaymentStatus}

theorem once_finalizeAndCommit {commitFailed : String} (silent : reported record = []) :
    OnceIff o (.active record) (finalizeAndCommit delivery commitFailed) True :=
  ⟨1, replying_finalizeAndCommit silent, by simp⟩

theorem onceIff_commit {next : Bool → PayProg} (silent : reported record = [])
    (once : ∀ done, (next done).Replying o 1 .closed []) :
    OnceIff o (.active record) (.commit next) True :=
  ⟨1, replying_commit silent once, by simp⟩

theorem once_bookNotifiedOrder (silent : reported record = []) :
    OnceIff o (.active record) (bookNotifiedOrder delivery payment order orderStatus) True := by
  refine onceIff_txn (fun stamp _ => ?_) fun _ => onceIff_answer (by simp)
  dsimp only
  split
  · exact onceIff_txn (fun _ _ => once_finalizeAndCommit (by simpa using silent))
      fun _ => ⟨1, replying_finalizeAndCommit_closed, by simp⟩
  · refine onceIff_commit (by simpa using silent) fun done => ?_
    cases done with
    | false => exact replying_answer (replying_nil (by simp))
    | true => exact replying_db (replying_answer (replying_nil (by simp)))

theorem once_settleNotifiedPayment (silent : reported record = []) :
    OnceIff o (.active record)
      (settleNotifiedPayment delivery notice payment order orderStatus paymentStatus) True := by
  refine onceIff_txn (fun _ _ => ?_) fun _ => onceIff_answer (by simp)
  refine onceIff_txn (fun won _ => ?_) fun _ => onceIff_answer (by simp)
  match won with
  | false => exact once_skipAdvanced
  | true => exact once_bookNotifiedOrder (by simpa using silent)

theorem once_resolveNotifiedPayment (silent : reported record = []) :
    OnceIff o (.active record) (resolveNotifiedPayment delivery notice payment order) True := by
  dsimp only [resolveNotifiedPayment]
  split
  · exact onceIff_txn (fun _ _ => once_settleNotifiedPayment (by simpa using silent))
      fun _ => onceIff_txn_closed (onceIff_answer (by simp))
  · exact once_settleNotifiedPayment silent

theorem once_checkNotifiedPayment (silent : reported record = []) :
    OnceIff o (.active record) (checkNotifiedPayment delivery notice payment order)
      (paymentAmountProblem delivery.plain payment order ≠ none) := by
  refine onceIff_orThrow silent (fun problem read => ?_) (fun throws reads => reads throws)
  have reads : True ↔ paymentAmountProblem delivery.plain payment order ≠ none := by simp [read]
  match problem with
  | some text => exact (onceIff_rollback (onceIff_answer (by simp))).congr reads
  | none =>
      dsimp only
      split
      · exact (onceIff_rollback (onceIff_answer (by simp))).congr reads
      · exact (once_resolveNotifiedPayment silent).congr reads

/-- The transaction of a payment notification is begun, and the amounts of the
notification can be read when they are compared. -/
def SettlementAnswered (o : Outcomes paySig) (delivery : Delivery) (notice : PaymentNotice) :
    Prop :=
  o.begins = true ∧ ∀ payment order,
    o.sql .txn (.lockAttempt notice.orderNo PaymentService.openStatuses) = some (some payment) →
    ¬ (payment.status = .SUCCESS ∨ payment.status = .REFUNDED) →
    o.sql .txn (.findOrder payment.orderNo) = some (some order) →
    paymentAmountProblem delivery.plain payment order ≠ none

theorem settlementAnswered_iff (opened : o.begins = true)
    (locked : o.sql .txn (.lockAttempt notice.orderNo PaymentService.openStatuses) =
      some (some payment)) :
    SettlementAnswered o delivery notice ↔
      (¬ (payment.status = .SUCCESS ∨ payment.status = .REFUNDED) → ∀ order,
        o.sql .txn (.findOrder payment.orderNo) = some (some order) →
        paymentAmountProblem delivery.plain payment order ≠ none) := by
  constructor
  · exact fun answered unsettled order ordered => answered.2 payment order locked unsettled ordered
  · refine fun readable => ⟨opened, fun other order found unsettled ordered => ?_⟩
    obtain rfl : payment = other := Option.some.inj (Option.some.inj (locked.symm.trans found))
    exact readable unsettled order ordered

theorem once_settlePaymentNotice {slot : Slot paySig} :
    OnceIff o slot (settlePaymentNotice delivery notice)
      (SettlementAnswered o delivery notice) := by
  refine onceIff_start (fun opened => ?_) fun refused =>
    (onceIff_done (by simp)).congr (by simp [SettlementAnswered, refused])
  refine onceIff_txn (fun found locked => ?_) fun failed =>
    (onceIff_answer (by simp)).congr (by simp [SettlementAnswered, opened, failed])
  match found with
  | none =>
      exact (onceIff_rollback (onceIff_answer (by simp))).congr
        (by simp [SettlementAnswered, opened, locked])
  | some payment =>
      have reads := @settlementAnswered_iff o delivery notice payment opened locked
      dsimp only
      split
      · rename_i settled
        exact (onceIff_rollback (onceIff_answer (by simp))).congr (by simp [reads, settled])
      · rename_i unsettled
        refine onceIff_txn (fun ordered read => ?_) fun failed =>
          (onceIff_answer (by simp)).congr (by simp [reads, failed])
        match ordered with
        | none => exact (onceIff_answer (by simp)).congr (by simp [reads, read])
        | some order =>
            exact (once_checkNotifiedPayment (by simp)).congr (by simp [reads, read, unsettled])

end Payments

/-! ## Refund notifications -/

section Refunds

variable {slot : Slot paySig} {record : List PayEntry} {delivery : Delivery}
  {notice : RefundNotice} {refund : RefundRow} {order : OrderRow} {refundStatus : RefundStatus}
  {paymentNo : Bytes}

/-- The ledger row of a settled refund. -/
def refundEntry (refund : RefundRow) (order : OrderRow) : LedgerRow :=
  ⟨order.userId, refund.orderNo, refund.paymentNo, .REFUND, refund.amount⟩

/-- No statement fails after which the other chain of the notification still has
one to submit, and the settled sum can be read. -/
def ChainsSucceed (o : Outcomes paySig) (refund : RefundRow) (order : OrderRow)
    (refundStatus : RefundStatus) : Prop :=
  o.sql .txn (.setRefundPayload refund.refundNo) ≠ none ∧
    (refundStatus = .REFUND_SUCCESS →
      o.sql .txn (.insertLedger (refundEntry refund order)) ≠ none ∧
      ∃ sumText settledRefundFen,
        o.sql .txn (.sumRefunds refund.orderNo [.REFUND_SUCCESS]) = some sumText ∧
        PayUtils.parseAmountToFen sumText = some settledRefundFen ∧
        (PayUtils.refundsCoverOrderAmount settledRefundFen (PayUtils.fenOf order.amount) = true →
          o.sql .txn (.insertCallback (auditRow refund.paymentNo)) ≠ none ∧
            o.sql .txn (.coverOrder refund.orderNo) ≠ none))

theorem replying_finish_closed :
    Replying o 1 .closed [insertCallbackAndFinish delivery paymentNo] :=
  replying_txn_closed (replying_answer (replying_nil (by simp)))

theorem replying_finish (silent : reported record = []) :
    Replying o 1 (.active record) [insertCallbackAndFinish delivery paymentNo] := by
  cases audited : o.sql .txn (.insertCallback (auditRow paymentNo)) with
  | none => exact replying_txn_failed audited (replying_answer (replying_nil (by simp)))
  | some _ =>
      exact replying_txn_ran audited (replying_finalizeAndCommit (by simpa using silent))

section Covering

variable {covered : Option (Option Nat) → PayProg}

/-- The covered order is written between the audit row and the finalizing. -/
theorem replying_covering (passes : ∀ res, covered (some res) = .done)
    (silent : reported record = [])
    (succeed : o.sql .txn (.insertCallback (auditRow refund.paymentNo)) ≠ none ∧
      o.sql .txn (.coverOrder refund.orderNo) ≠ none) :
    Replying o 1 (.active record) [insertCallbackAndFinish delivery refund.paymentNo,
      .sql .txn (.coverOrder refund.orderNo) covered] := by
  obtain ⟨_, audited⟩ := Option.ne_none_iff_exists'.mp succeed.1
  obtain ⟨res, closed⟩ := Option.ne_none_iff_exists'.mp succeed.2
  refine replying_txn_ran audited (replying_txn_ran closed ?_)
  rw [passes]
  exact replying_finalizeAndCommit (by simpa using silent)

/-- Each of the two that fails makes both chains answer. -/
theorem replying_covering_failed (fails : covered none = .rollback internalError)
    (failed : ¬ (o.sql .txn (.insertCallback (auditRow refund.paymentNo)) ≠ none ∧
      o.sql .txn (.coverOrder refund.orderNo) ≠ none)) :
    Replying o 2 (.active record) [insertCallbackAndFinish delivery refund.paymentNo,
      .sql .txn (.coverOrder refund.orderNo) covered] := by
  cases audited : o.sql .txn (.insertCallback (auditRow refund.paymentNo)) with
  | none =>
      refine replying_txn_failed audited (replying_answer (replying_txn_closed ?_))
      rw [fails]
      exact replying_answer (replying_nil (by simp))
  | some _ =>
      have closed : o.sql .txn (.coverOrder refund.orderNo) = none := by simpa [audited] using failed
      refine replying_txn_ran audited (replying_txn_failed closed ?_)
      rw [fails]
      exact replying_answer replying_finalizeAndCommit_closed

end Covering

/-- The order of a settled refund, beside the audit row. -/
theorem once_settleNotifiedOrder (o : Outcomes paySig) (delivery : Delivery) (refund : RefundRow)
    (order : OrderRow) (silent : reported record = []) :
    ∃ n, Replying o n (.active record) [settleNotifiedOrder order refund.orderNo,
        insertCallbackAndFinish delivery refund.paymentNo] ∧
      (n = 1 ↔ ∃ sumText settledRefundFen,
        o.sql .txn (.sumRefunds refund.orderNo [.REFUND_SUCCESS]) = some sumText ∧
        PayUtils.parseAmountToFen sumText = some settledRefundFen ∧
        (PayUtils.refundsCoverOrderAmount settledRefundFen (PayUtils.fenOf order.amount) = true →
          o.sql .txn (.insertCallback (auditRow refund.paymentNo)) ≠ none ∧
            o.sql .txn (.coverOrder refund.orderNo) ≠ none)) := by
  cases summed : o.sql .txn (.sumRefunds refund.orderNo [.REFUND_SUCCESS]) with
  | none =>
      exact ⟨2, replying_txn_failed summed (replying_answer replying_finish_closed), by simp⟩
  | some sumText =>
      cases parsed : PayUtils.parseAmountToFen sumText with
      | none =>
          refine ⟨2, replying_txn_ran summed ?_, by simp [parsed]⟩
          dsimp only
          rw [parsed]
          exact replying_answer replying_finish_closed
      | some settledRefundFen =>
          cases covers : PayUtils.refundsCoverOrderAmount settledRefundFen
              (PayUtils.fenOf order.amount) with
          | false =>
              refine ⟨1, replying_txn_ran summed ?_, by simp [parsed, covers]⟩
              dsimp only
              rw [parsed]
              simp only [covers]
              exact replying_finish (by simpa using silent)
          | true =>
              by_cases succeed : o.sql .txn (.insertCallback (auditRow refund.paymentNo)) ≠ none ∧
                  o.sql .txn (.coverOrder refund.orderNo) ≠ none
              · refine ⟨1, replying_txn_ran summed ?_, by simpa [parsed, covers] using succeed⟩
                dsimp only
                rw [parsed]
                simp only [covers, if_true]
                exact replying_covering (fun _ => rfl) (by simpa using silent) succeed
              · refine ⟨2, replying_txn_ran summed ?_, by simpa [parsed, covers] using succeed⟩
                dsimp only
                rw [parsed]
                simp only [covers, if_true]
                exact replying_covering_failed rfl succeed

/-- The two chains of a refund notification answer once iff they do not stand in
each other's way. -/
theorem once_chains (silent : reported record = []) :
    OnceIff o (.active record) (.both (writeNotifiedPayload refund order refundStatus)
      (bookNotifiedRefund delivery refund order refundStatus))
      (ChainsSucceed o refund order refundStatus) := by
  unfold bookNotifiedRefund ChainsSucceed
  by_cases settles : refundStatus = .REFUND_SUCCESS
  · simp only [settles, if_true, forall_const]
    show ∃ n, Replying o n (.active record) [writeNotifiedPayload refund order .REFUND_SUCCESS,
      .sql .txn (.insertLedger (refundEntry refund order)) _] ∧ _
    cases written : o.sql .txn (.setRefundPayload refund.refundNo) with
    | none =>
        exact ⟨2, replying_txn_failed written (replying_answer
          (replying_txn_closed replying_finish_closed)), by simp⟩
    | some stamp =>
        cases booked : o.sql .txn (.insertLedger (refundEntry refund order)) with
        | none =>
            exact ⟨2, replying_txn_ran written (replying_txn_failed booked
              (replying_txn_closed (replying_answer replying_finish_closed))), by simp⟩
        | some _ =>
            have still : reported (record ++ [.ran (.setRefundPayload refund.refundNo) stamp] ++
                [.ran (.insertLedger (refundEntry refund order)) ()]) = [] := by
              simpa using silent
            obtain ⟨n, replying, isOne⟩ := once_settleNotifiedOrder o delivery refund order still
            exact ⟨n, replying_txn_ran written (replying_txn_ran booked replying),
              by simpa using isOne⟩
  · simp only [settles, if_false, false_implies, and_true]
    show ∃ n, Replying o n (.active record) [writeNotifiedPayload refund order refundStatus,
      insertCallbackAndFinish delivery refund.paymentNo] ∧ _
    cases written : o.sql .txn (.setRefundPayload refund.refundNo) with
    | none =>
        exact ⟨2, replying_txn_failed written (replying_answer replying_finish_closed), by simp⟩
    | some stamp =>
        refine ⟨1, replying_txn_ran written ?_, by simp⟩
        dsimp only
        rw [if_neg settles]
        exact replying_finish (by simpa using silent)

/-- The transaction of a refund notification is begun, and its chains succeed if
it moves the refund. -/
def RefundSettlementAnswered (o : Outcomes paySig) (notice : RefundNotice) (refund : RefundRow)
    (order : OrderRow) (refundStatus : RefundStatus) : Prop :=
  o.begins = true ∧ ∀ now,
    o.sql .txn (.casRefund refund.refundNo refundStatus (some notice.refundId)) =
      some (some now) →
    ChainsSucceed o refund order refundStatus

theorem once_settleRefundNotice :
    OnceIff o slot (settleRefundNotice delivery notice refund order refundStatus)
      (RefundSettlementAnswered o notice refund order refundStatus) := by
  unfold RefundSettlementAnswered
  refine onceIff_start (fun opened => ?_) fun refused =>
    (onceIff_done (by simp)).congr (by simp [refused])
  refine onceIff_txn (fun won moved => ?_) fun failed =>
    (onceIff_rollback (onceIff_answer (by simp))).congr (by simp [opened, failed])
  match won with
  | none => exact once_skipAdvanced.congr (by simp [opened, moved])
  | some now => exact (once_chains (by simp)).congr (by simp [opened, moved])

/-- The amounts of a refund notification can be read when they are compared, and
what follows is answered. -/
def RefundCheckAnswered (o : Outcomes paySig) (delivery : Delivery) (notice : RefundNotice) : Prop :=
  ∀ refundStatus, PayUtils.mapRefundStatus notice.refundStatusRaw = some refundStatus →
    ∀ refund, o.sql .db (.findRefund notice.refundNo) = some (some refund) →
    refund.status ≠ .REFUND_SUCCESS →
    refundAmountProblem delivery.plain refund ≠ none ∧
      ∀ notifyCurrency, refundAmountProblem delivery.plain refund = some (.ok notifyCurrency) →
      ∀ order, o.sql .db (.findOrder refund.orderNo) = some (some order) →
      (!notifyCurrency.isEmpty && notifyCurrency ≠ order.currency) = false →
      RefundSettlementAnswered o notice refund order refundStatus

theorem once_checkRefundNotice (silent : reported slot.record = []) :
    OnceIff o slot (checkRefundNotice delivery notice) (RefundCheckAnswered o delivery notice) := by
  unfold checkRefundNotice RefundCheckAnswered
  cases PayUtils.mapRefundStatus notice.refundStatusRaw with
  | none => exact (onceIff_answer silent).congr (by simp)
  | some refundStatus =>
      refine onceIff_db ?_
      cases o.sql .db (.findRefund notice.refundNo) with
      | none => exact (onceIff_answer silent).congr (by simp)
      | some found =>
          cases found with
          | none => exact (onceIff_answer silent).congr (by simp)
          | some refund =>
              simp only [Option.some.injEq, forall_eq']
              split
              · rename_i settled
                exact (onceIff_answer silent).congr (by simp [settled])
              · rename_i unsettled
                refine onceIff_orThrow silent (fun checked read => ?_) (by simp_all)
                match checked with
                | .error problem => exact (onceIff_answer silent).congr (by simp [read])
                | .ok notifyCurrency =>
                    refine onceIff_db ?_
                    cases o.sql .db (.findOrder refund.orderNo) with
                    | none => exact (onceIff_answer silent).congr (by simp [read])
                    | some ordered =>
                        cases ordered with
                        | none => exact (onceIff_answer silent).congr (by simp [read])
                        | some order =>
                            dsimp only
                            split
                            · rename_i mismatch
                              refine (onceIff_answer silent).congr ?_
                              simp only [read, Option.some.injEq, Except.ok.injEq, forall_eq', mismatch]
                              simp
                            · rename_i mismatch
                              have fits := Bool.eq_false_of_not_eq_true mismatch
                              refine once_settleRefundNotice.congr ?_
                              simp only [read, Option.some.injEq, Except.ok.injEq, forall_eq', fits]
                              simp [unsettled]

end Refunds

/-! ## Both handlers -/

/-- The merchant a notification names. -/
def merchantOf (plain : Json) : Option (Bytes × Bytes) := do
  return (← plain.stringAt "appid", ← plain.stringAt "mchid")

/-- The merchant and the notice can be read when they are looked at, and what
follows is answered. -/
def NoticeAnswered {Notice : Type} (cfg : Config) (plain : Json) (read : Option Notice)
    (problem : Notice → Option String) (answered : Notice → Prop) : Prop :=
  cfg.wechatReady = true → ∃ merchant, merchantOf plain = some merchant ∧
    (identityProblem cfg merchant.1 merchant.2 = none → ∃ notice, read = some notice ∧
      (problem notice = none → answered notice))

/-- When a payment notification is answered once. -/
def PaymentAnswered (cfg : Config) (o : Outcomes paySig) (notification : Notification)
    (ownerToken : Bytes) : Prop :=
  NoticeAnswered cfg notification.plain (PaymentNotice.of notification.plain) paymentNoticeProblem
    fun notice =>
      let delivery : Delivery := ⟨deliveryKey notification.id notice.orderNo notice.tradeState,
        notification.bodyHash, ownerToken, notification.plain⟩
      ReservedAnswered o delivery True (SettlementAnswered o delivery notice)

/-- When a refund notification is answered once. -/
def RefundAnswered (cfg : Config) (o : Outcomes paySig) (notification : Notification)
    (ownerToken : Bytes) : Prop :=
  NoticeAnswered cfg notification.plain (RefundNotice.of notification.plain) refundNoticeProblem
    fun notice =>
      let delivery : Delivery := ⟨deliveryKey notification.id notice.refundNo notice.refundStatusRaw,
        notification.bodyHash, ownerToken, notification.plain⟩
      ReservedAnswered o delivery (notification.plain.stringAt "out_trade_no" ≠ none)
        (RefundCheckAnswered o delivery notice)

/-- The checks both handlers begin with. -/
theorem once_checked {Notice : Type} {cfg : Config} {plain : Json} {read : Option Notice}
    {problem : Notice → Option String} {answered : Notice → Prop} {proceed : Notice → PayProg}
    {slot : Slot paySig} (silent : reported slot.record = [])
    (proceeds : ∀ notice, OnceIff o slot (proceed notice) (answered notice)) :
    OnceIff o slot
      (if !cfg.wechatReady then respondFail "wechat client not ready" (.system 1400)
      else
        orThrow (merchantOf plain) fun merchant =>
          match identityProblem cfg merchant.1 merchant.2 with
          | some problem => respondFail problem (.system 1400)
          | none =>
              orThrow read fun notice =>
                match problem notice with
                | some problem => respondFail problem (.system 1400)
                | none => proceed notice)
      (NoticeAnswered cfg plain read problem answered) := by
  unfold NoticeAnswered
  cases cfg.wechatReady with
  | false => exact (onceIff_answer silent).congr (by simp)
  | true =>
      refine onceIff_orThrow silent (fun merchant isMerchant => ?_) fun throws => by simp [throws]
      simp only [isMerchant, Option.some.injEq, exists_eq_left', forall_const]
      cases identityProblem cfg merchant.1 merchant.2 with
      | some text => exact (onceIff_answer silent).congr (by simp)
      | none =>
          refine onceIff_orThrow silent (fun notice isNotice => ?_) fun throws => by simp [throws]
          simp only [isNotice, Option.some.injEq, exists_eq_left', forall_const]
          cases problem notice with
          | some text => exact (onceIff_answer silent).congr (by simp)
          | none => exact (proceeds notice).congr (by simp)

theorem once_handlePaymentCallback {cfg : Config} {notification : Notification}
    {ownerToken : Bytes} {slot : Slot paySig} (silent : reported slot.record = []) :
    OnceIff o slot (handlePaymentCallback cfg notification ownerToken)
      (PaymentAnswered cfg o notification ownerToken) :=
  once_checked silent fun _ =>
    once_reserveDelivery silent (once_recordDuplicate silent) once_settlePaymentNotice

theorem once_recordRefundDuplicate {plain : Json} {slot : Slot paySig}
    (silent : reported slot.record = []) :
    OnceIff o slot (recordRefundDuplicate plain) (plain.stringAt "out_trade_no" ≠ none) := by
  refine onceIff_orThrow silent (fun tradeOrderNo named => ?_) (fun throws reads => reads throws)
  have reads : True ↔ plain.stringAt "out_trade_no" ≠ none := by simp [named]
  split
  · exact (onceIff_answer silent).congr reads
  · exact (once_recordDuplicate silent).congr reads

theorem once_handleRefundCallback {cfg : Config} {notification : Notification}
    {ownerToken : Bytes} {slot : Slot paySig} (silent : reported slot.record = []) :
    OnceIff o slot (handleRefundCallback cfg notification ownerToken)
      (RefundAnswered cfg o notification ownerToken) :=
  once_checked silent fun _ =>
    once_reserveDelivery silent (once_recordRefundDuplicate silent) (once_checkRefundNotice silent)

/-- The request is answered exactly once when its statements end like this. -/
def AnsweredOnce (cfg : Config) (o : Outcomes paySig) (request : Request) : Prop :=
  ∃ ended, (Proc.spawn request (serve cfg request)).Finishes o ended ∧
    (reported ended.log).length = 1

theorem OnceIff.answeredOnce_iff {cfg : Config} {request : Request} {condition : Prop}
    (once : OnceIff o .none (serve cfg request) condition) :
    AnsweredOnce cfg o request ↔ condition := by
  obtain ⟨n, replying, isOne⟩ := once
  obtain ⟨ended, finishes, count⟩ := replying.of_spawn request
  rw [← isOne]
  constructor
  · rintro ⟨other, finishes', once⟩
    rw [← count, finishes.unique finishes', once]
  · exact fun one => ⟨ended, finishes, count.trans one⟩

theorem refundNotification_answered_iff (cfg : Config) (o : Outcomes paySig)
    (notification : Notification) (ownerToken : Drawn) :
    AnsweredOnce cfg o (.refundNotification notification ownerToken) ↔
      RefundAnswered cfg o notification ownerToken.text :=
  OnceIff.answeredOnce_iff (once_handleRefundCallback (by simp))

/-- The deliveries that are answered exactly once, whatever fails. -/
theorem answered_once_iff (cfg : Config) (o : Outcomes paySig) (notification : Notification)
    (ownerToken : Drawn) :
    (AnsweredOnce cfg o (.paymentNotification notification ownerToken) ↔
      PaymentAnswered cfg o notification ownerToken.text) ∧
    (AnsweredOnce cfg o (.refundNotification notification ownerToken) ↔
      RefundAnswered cfg o notification ownerToken.text) :=
  ⟨OnceIff.answeredOnce_iff (once_handlePaymentCallback (by simp)),
    refundNotification_answered_iff cfg o notification ownerToken⟩

/-! The write of the payload fails in the transaction of a refund notification. -/

/-- An accepted refund of four yuan. -/
def refundUnderway (refundNo : Bytes) : RefundRow :=
  ⟨⟨refundNo, ascii "o", ascii "#p", ascii "4.00"⟩, .REFUNDING, [], 0⟩

def orderUnderway (orderNo : Bytes) : OrderRow :=
  ⟨⟨orderNo, 1, ascii "10.00", ascii "CNY", ascii "wechat", [], none⟩, .PAID, 0, 0⟩

/-- The key is free, the refund is found and moved, and its payload is not
written. -/
def lostPayload : Outcomes paySig where
  sql on st :=
    match on, st with
    | .db, .findIdempotency _ => some (none : Option IdempotencyRow)
    | .db, .reserve _ _ _ _ => some (some 1 : Option Nat)
    | .db, .findRefund refundNo => some (some (refundUnderway refundNo) : Option RefundRow)
    | .db, .findOrder orderNo => some (some (orderUnderway orderNo) : Option OrderRow)
    | .txn, .casRefund _ _ _ => some (some 2 : Option Nat)
    | _, _ => none
  possible on st res ended := by
    cases on <;> cases st <;> cases ended <;> simp [Stmt.Possible, refundUnderway, orderUnderway]
  call _ := ⟨.null, []⟩
  begins := true
  commits := true
  ends := true

theorem refund_answered_twice :
    ¬ ∀ (cfg : Config) (o : Outcomes paySig) (notification : Notification) (ownerToken : Drawn),
      AnsweredOnce cfg o (.paymentNotification notification ownerToken) ∧
        AnsweredOnce cfg o (.refundNotification notification ownerToken) := by
  intro claim
  have answered := (refundNotification_answered_iff _ _ _ _).mp
    (claim shop lostPayload (refundedNotice "N2" "r" 400) (drawn "k")).2
  obtain ⟨merchant, isMerchant, passes⟩ := answered rfl
  cases isMerchant
  obtain ⟨notice, isNotice, proceeds⟩ := passes rfl
  cases isNotice
  have checked := (proceeds rfl).2 rfl 1 rfl
  have settled := (checked .REFUND_SUCCESS rfl (refundUnderway (ascii "r")) rfl nofun).2 [] rfl
    (orderUnderway (ascii "o")) rfl rfl
  exact (settled.2 2 rfl).1 rfl

end CallbackService
end DrogonPay
