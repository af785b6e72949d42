import DrogonPay.Promises.Calls
import DrogonPay.Laws.OfferedAmounts
import DrogonPay.Laws.RefundComparison

/-!
Contract: what a create request knows when it asks a channel for money.

Owns:
- `chargeContract`: such a call is the first of its process and names the attempt
  or the refund the process has booked, with its amount; and a refund is booked
  for an attempt that was read SUCCESS, of an order that was read PAID;
- the proof that the three create requests keep it, and that what they fork makes
  no such call.

Does not own: that nobody else calls for the same row.
-/

namespace DrogonPay

open ReadCommitted PaymentService

/-! ## The contract -/

/-- No answer to a call for money has come. -/
def Uncharged (log : List PayEntry) : Prop :=
  ∀ x a, x.Charges → .answered x a ∉ log

/-- The payload offers the order of this attempt, at its amount: in fen, or as a
text of the same worth. -/
inductive OffersOrder (payload : Json) (booking : PaymentBooking) : Prop where
  | inFen {amount : Json}
      (named : payload.at? (ascii "out_trade_no") = some (.str booking.orderNo))
      (has : payload.at? (ascii "amount") = some amount)
      (total : amount.at? (ascii "total") = some (.int (PayUtils.fenOf booking.amount)))
  | inYuan {text : Bytes}
      (named : payload.at? (ascii "out_trade_no") = some (.str booking.orderNo))
      (total : payload.at? (ascii "total_amount") = some (.str text))
      (worth : PayUtils.parseAmountToFen text = PayUtils.parseAmountToFen booking.amount)

/-- The call is made for an attempt or a refund that the log has booked. -/
def CallsFor (log : List PayEntry) : ChannelCall → Prop
  | .createQRPayment _ payload =>
      ∃ booking now, Saw log (.insertPayment booking) now ∧ OffersOrder payload booking
  | .refund channel payload =>
      ∃ booking now fen, Saw log (.insertRefund booking) now ∧
        PayUtils.parseAmountToFen booking.amount = some fen ∧
        AsksFor (.refund channel payload) booking fen
  | _ => True

/-- The attempt was read settled, and its order paid. -/
def PaidPromise (log : List PayEntry) (booking : RefundBooking) : Prop :=
  (∃ payment, Saw log (.findPaymentOf booking.paymentNo booking.orderNo) (some payment) ∧
    payment.status = .SUCCESS) ∧
  ∃ order, Saw log (.findOrder booking.orderNo) (some order) ∧ order.status = .PAID

/-- The transaction has written no order. -/
def OrdersUntouched (record : List PayEntry) : Prop :=
  ∀ db : Db, (payStore.applyAll db (payStore.pending record)).orders = db.orders

def chargeContract : Contract paySig where
  issue log record
    | .insertRefund booking => record.isSome → PaidPromise log booking
    | .findPaymentOf _ _ => record = none
    | .findOrder _ => ∀ entries, record = some entries → OrdersUntouched entries
    | _ => True
  call log x := x.Charges → Uncharged log ∧ CallsFor log x
  commit _ _ := True
  finish _ := True

section Charges

variable {cfg : Config} {slot : Slot paySig} {log record : List PayEntry}

/-! ## Logs without an answer -/

@[simp] theorem uncharged_nil : Uncharged [] := fun _ _ _ => List.not_mem_nil

@[simp] theorem uncharged_append {more : List PayEntry} :
    Uncharged (log ++ more) ↔ Uncharged log ∧ Uncharged more := by
  simp only [Uncharged, List.mem_append, not_or]
  exact ⟨fun none => ⟨fun x a act => (none x a act).1, fun x a act => (none x a act).2⟩,
    fun none x a act => ⟨none.1 x a act, none.2 x a act⟩⟩

@[simp] theorem uncharged_ran {st : Stmt} {res : st.Res} :
    Uncharged ((Entry.ran st res : PayEntry) :: log) ↔ Uncharged log := by
  simp [Uncharged]

@[simp] theorem uncharged_spawned {request : Request} :
    Uncharged ((Entry.spawned request : PayEntry) :: log) ↔ Uncharged log := by
  simp [Uncharged]

/-! ## Programs that keep it for nothing -/

theorem charges_minor {program : PayProg} (isMinor : program.Minor Stmt.minor) :
    Runs chargeContract slot log program := by
  refine runs_minor (fun log st minor => ?_) (fun _ _ => trivial) (fun _ => trivial) isMinor
  cases st with
  | insertRefund booking => exact fun isTxn => absurd isTxn (by simp)
  | findPaymentOf paymentNo orderNo => rfl
  | findOrder orderNo => exact nofun
  | _ => trivial

theorem charges_reports {program : PayProg} (reports : program.Reports) :
    Runs chargeContract slot log program := by
  refine verifiedAll_reports reports fun outs => ?_
  have closed : ∀ log, Verified chargeContract ⟨.closed, log, []⟩ :=
    fun _ => Verified.nil_closed.mpr fun _ => trivial
  cases slot with
  | none => exact Verified.nil_none.mpr fun _ => trivial
  | closed => exact closed _
  | active record => exact Verified.nil_active.mpr ⟨trivial, closed _⟩

theorem charges_orThrow {α : Type} {value : Option α} {next : α → PayProg}
    (continues : ∀ a, value = some a → Runs chargeContract slot log (next a)) :
    Runs chargeContract slot log (orThrow value next) := by
  cases value with
  | none => exact charges_reports trivial
  | some a => exact continues a rfl

/-- The check of the key leads on with a log that holds statements more. -/
theorem charges_checkDatabase {key requestHash : Bytes}
    {callback : IdempotencyService.CheckResult → PayProg} (uncharged : Uncharged log)
    (started : ∀ log, Uncharged log → Runs chargeContract slot log (callback .Started))
    (refused : ∀ result, result ≠ .Started → (callback result).Minor Stmt.minor) :
    Runs chargeContract slot log
      (IdempotencyService.checkDatabase cfg key requestHash callback) := by
  unfold IdempotencyService.checkDatabase
  split
  · exact started _ uncharged
  · refine runs_sql_db.mpr ⟨trivial, fun res _ => ?_, fun _ => charges_minor (refused .Error nofun)⟩
    cases res with
    | some now => exact started _ (by simp [uncharged])
    | none =>
        refine charges_minor ⟨trivial, fun res => ?_⟩
        match res with
        | none => exact refused .Error nofun
        | some none => exact refused .Error nofun
        | some (some row) =>
            show (IdempotencyService.readReservation requestHash row callback).Minor _
            unfold IdempotencyService.readReservation
            split
            · split
              · exact refused .InProgress nofun
              · refine minor_orThrow fun response => ?_
                split
                · exact refused .InProgress nofun
                · exact refused (.Replay response) nofun
            · exact refused .Conflict nofun

/-! ## Payments -/

theorem offersOrder_createPayload {request : CreatePaymentRequest} {totalFen : Nat}
    {paymentNo : Bytes} (worth : PayUtils.parseAmountToFen request.amount = some totalFen) :
    OffersOrder (createPayload cfg request totalFen)
      ⟨paymentNo, request.orderNo, request.amount⟩ := by
  have notTotal : ascii "total_amount" ≠ ascii "out_trade_no" := by decide
  have notSubject : ascii "subject" ≠ ascii "out_trade_no" := by decide
  have notDescription : ascii "description" ≠ ascii "out_trade_no" := by decide
  have descriptionNot : ascii "description" ≠ ascii "amount" := by decide
  have orderNot : ascii "out_trade_no" ≠ ascii "amount" := by decide
  by_cases isAlipay : request.channel = ascii "alipay"
  · refine .inYuan ?_ (total_amount_of_createPayload isAlipay) ?_
    · rw [createPayload, if_pos isAlipay]
      simp [Json.at?, Json.get, Json.object, Json.lookup, notTotal, notSubject]
    · rw [worth, parse_totalAmountYuan (yuan_le_of_parse worth)]
  · have has : (createPayload cfg request totalFen).at? (ascii "amount") =
        some (Json.object [("total", .int totalFen), ("currency", .str request.currency)]) := by
      rw [createPayload, if_neg isAlipay]
      simp [Json.at?, Json.get, Json.object, Json.lookup, descriptionNot, orderNot]
    refine .inFen ?_ has ?_
    · rw [createPayload, if_neg isAlipay]
      simp [Json.at?, Json.get, Json.object, Json.lookup, notDescription]
    · rw [PayUtils.fenOf_eq worth]
      simp [Json.at?, Json.get, Json.object, Json.lookup]

theorem offersOrder_qrPayload {qr : QrRequest} {currency paymentNo : Bytes} :
    OffersOrder (qrPayload qr currency) ⟨paymentNo, qr.orderNo, qr.amount⟩ := by
  have orderNot : ascii "out_trade_no" ≠ ascii "amount" := by decide
  have descriptionNot : ascii "description" ≠ ascii "amount" := by decide
  have notTotal : ascii "out_trade_no" ≠ ascii "total_amount" := by decide
  by_cases isWechat : qr.channel = ascii "wechat"
  · have has : (qrPayload qr currency).at? (ascii "amount") = some (Json.object
        [("total", .int (PayUtils.fenOf qr.amount)), ("currency", .str currency)]) := by
      rw [qrPayload, if_pos isWechat]
      simp [Json.at?, Json.get, Json.object, Json.lookup, descriptionNot, orderNot]
    refine .inFen ?_ has ?_
    · rw [qrPayload, if_pos isWechat]
      simp [Json.at?, Json.get, Json.object, Json.lookup]
    · simp [Json.at?, Json.get, Json.object, Json.lookup]
  · have total : (qrPayload qr currency).at? (ascii "total_amount") = some (.str qr.amount) := by
      rw [qrPayload, if_neg isWechat]
      simp [Json.at?, Json.get, Json.object, Json.lookup, notTotal]
    refine .inYuan ?_ total rfl
    rw [qrPayload, if_neg isWechat]
    simp [Json.at?, Json.get, Json.object, Json.lookup]

theorem charges_createPayment {body : CreatePaymentRequest} {key paymentNo : Bytes} {now : Nat}
    (uncharged : Uncharged log) :
    Runs chargeContract slot log (createPayment cfg body key paymentNo now) := by
  have answers : ∀ {slot log} reply, Runs chargeContract slot log
      (wrappedCreateCallback key (createHash cfg body) reply) :=
    fun reply => charges_minor (minor_wrappedCreateCallback reply)
  dsimp only [createPayment]
  refine charges_checkDatabase uncharged (fun log uncharged => ?_) ?_
  · dsimp only
    split
    · exact charges_minor (minor_clearReservation fun _ => minor_answer _ _)
    · rename_i totalFen worth
      split
      · exact charges_minor (minor_clearReservation fun _ => minor_answer _ _)
      · refine runs_start.mpr ⟨?_, answers _⟩
        refine runs_sql_txn.mpr ⟨trivial, fun ordered _ => ?_, fun cause => answers _⟩
        refine runs_sql_txn.mpr ⟨trivial, fun booked _ => ?_, fun cause => answers _⟩
        refine runs_commit.mpr ⟨trivial, ?_, answers _⟩
        dsimp only
        split
        · refine runs_call.mpr ⟨fun _ => ⟨by simp [uncharged], ?_⟩, fun a => ?_⟩
          · exact ⟨⟨paymentNo, body.orderNo, body.amount⟩, booked, by simp [Saw],
              offersOrder_createPayload worth⟩
          · exact charges_minor (minor_onCreateAnswer minor_wrappedCreateCallback)
        · exact charges_minor (minor_onCreateAnswer minor_wrappedCreateCallback)
  · intro result other
    cases result with
    | Started => exact absurd rfl other
    | _ => exact minor_answerUnstarted _

section Qr

variable {qr : QrRequest} {requestHash paymentNo currency : Bytes}

theorem minor_onQrAnswer {a : ChannelAnswer} :
    (if !a.error.isEmpty then
      refuseQrOffer qr requestHash paymentNo a.error
        (ascii "QR payment creation failed: " ++ a.error) .null
    else
      orThrow (channelResultError qr.channel a.result) fun resultError =>
        if resultError.isEmpty then
          orThrow (qrData qr a.result) fun data => promoteQrRows qr requestHash paymentNo data
        else
          orThrow (qrExtra qr a.result) fun extra =>
            refuseQrOffer qr requestHash paymentNo resultError resultError extra).Minor
      Stmt.minor := by
  split
  · exact minor_refuseQrOffer
  · refine minor_orThrow fun resultError => ?_
    split
    · exact minor_orThrow fun data => minor_promoteQrRows
    · exact minor_orThrow fun extra => minor_refuseQrOffer

theorem charges_bookQrPayment (uncharged : Uncharged log) :
    Runs chargeContract slot log
      (bookQrPayment qr requestHash paymentNo (qrPayload qr currency)) := by
  refine runs_sql_db.mpr ⟨trivial, fun booked _ => ?_, fun _ => charges_minor minor_failQr⟩
  refine runs_call.mpr ⟨fun _ => ⟨by simp [uncharged], ?_⟩, fun a => charges_minor minor_onQrAnswer⟩
  exact ⟨_, booked, Saw.last, offersOrder_qrPayload⟩

theorem charges_bookQr (uncharged : Uncharged log) :
    Runs chargeContract slot log
      (bookQr cfg qr requestHash paymentNo currency (qrPayload qr currency)) := by
  refine runs_sql_db.mpr ⟨nofun, fun found _ => ?_, fun _ => charges_minor minor_failQr⟩
  match found with
  | none =>
      refine runs_sql_db.mpr ⟨trivial, fun ordered _ => ?_, fun _ => charges_minor minor_failQr⟩
      exact charges_bookQrPayment (by simp [uncharged])
  | some existing =>
      dsimp only
      split
      · exact charges_minor minor_failQr
      · refine runs_sql_db.mpr ⟨trivial, fun settled _ => ?_, fun _ => charges_minor minor_failQr⟩
        cases settled with
        | cons row rest => exact charges_minor minor_failQr
        | nil => exact charges_bookQrPayment (by simp [uncharged])

theorem charges_createQRPayment {body : Json} {now : Nat} (uncharged : Uncharged log) :
    Runs chargeContract slot log (createQRPayment cfg body paymentNo now) := by
  refine charges_orThrow fun head _ => ?_
  dsimp only
  split
  · exact charges_reports trivial
  · refine charges_orThrow fun userId _ => ?_
    split
    · exact charges_reports trivial
    · refine charges_orThrow fun qr _ => charges_checkDatabase uncharged (fun log uncharged => ?_) ?_
      · dsimp only [proceedQr]
        split
        · exact charges_minor minor_refuseQr
        · split
          · exact charges_minor minor_refuseQr
          · split
            · exact charges_bookQr uncharged
            · exact charges_minor minor_refuseQr
      · intro result other
        cases result with
        | Started => exact absurd rfl other
        | _ => exact minor_answerUnstarted _

end Qr

/-! ## Refunds -/

section Refund

open RefundService

variable {c : RefundCase} {callback : Reply → PayProg}

theorem minor_updateRefundWithError {refundNo : Bytes} {next : PayProg}
    (continues : next.Minor Stmt.minor) :
    (updateRefundWithError refundNo next).Minor Stmt.minor :=
  ⟨⟨trivial, fun _ => trivial⟩, continues⟩

theorem minor_updateRefundWithSuccess {refundStatus : RefundStatus} {refundId : Bytes}
    {result : Json} (continues : ∀ reply, (callback reply).Minor Stmt.minor) :
    (updateRefundWithSuccess c refundStatus refundId result callback).Minor Stmt.minor := by
  refine ⟨trivial, fun stamped => ?_⟩
  cases stamped with
  | none => exact continues _
  | some _ =>
      dsimp only [settleOrder]
      split
      · refine ⟨trivial, fun summed => ?_⟩
        match summed with
        | none => exact continues _
        | some sumText =>
            dsimp only
            split
            · exact continues _
            · split
              · refine ⟨trivial, fun covered => ?_⟩
                cases covered <;> exact continues _
              · exact continues _
      · exact continues _

theorem minor_onAlipayRefund {a : ChannelAnswer}
    (continues : ∀ reply, (callback reply).Minor Stmt.minor) :
    (onAlipayRefund c callback a).Minor Stmt.minor := by
  unfold onAlipayRefund
  split
  · exact minor_updateRefundWithError (continues _)
  · refine minor_orThrow fun alipayCode => ?_
    split
    · exact minor_orThrow fun msg => minor_updateRefundWithError (continues _)
    · exact minor_orThrow fun refundId => minor_updateRefundWithSuccess continues

theorem minor_refuseWechatRefund {errorMessage : Bytes} {definitive : Bool}
    (continues : ∀ reply, (callback reply).Minor Stmt.minor) :
    (refuseWechatRefund c errorMessage definitive callback).Minor Stmt.minor := by
  dsimp only [refuseWechatRefund]
  split
  · exact minor_updateRefundWithError (continues _)
  · exact continues _

theorem minor_onWechatRefund {a : ChannelAnswer}
    (continues : ∀ reply, (callback reply).Minor Stmt.minor) :
    (onWechatRefund c callback a).Minor Stmt.minor := by
  unfold onWechatRefund
  split
  · exact minor_refuseWechatRefund continues
  · refine minor_orThrow fun wechatStatus => minor_orThrow fun refundId => ?_
    dsimp only
    split
    · exact minor_orThrow fun _ => minor_orThrow fun _ => minor_refuseWechatRefund continues
    · exact minor_orThrow fun _ => minor_orThrow fun _ => minor_refuseWechatRefund continues
    · exact minor_updateRefundWithSuccess continues

theorem minor_wrappedRefundCallback {key requestHash : Bytes} (reply : Reply) :
    (wrappedRefundCallback key requestHash reply).Minor Stmt.minor := by
  unfold wrappedRefundCallback
  split
  · exact minor_storeThenAnswer
  · exact minor_answer _ _

theorem minor_proceedCallback {key requestHash : Bytes} (reply : Reply) :
    (proceedCallback key requestHash reply).Minor Stmt.minor := by
  unfold proceedCallback
  split
  · exact minor_clearReservation fun _ => minor_wrappedRefundCallback _
  · exact minor_wrappedRefundCallback _

theorem charges_invokeRefundChannel {channel : Bytes}
    (returns : ∀ reply, (callback reply).Minor Stmt.minor) (uncharged : Uncharged log)
    (booked : ∃ now, Saw log (.insertRefund c.booking) now)
    (worth : PayUtils.parseAmountToFen c.amount = some c.refundFen) :
    Runs chargeContract slot log (invokeRefundChannel cfg c channel callback) := by
  obtain ⟨now, booked⟩ := booked
  unfold invokeRefundChannel
  split
  · rename_i isAlipay
    split
    · refine runs_call.mpr ⟨fun _ => ⟨uncharged, c.booking, now, c.refundFen, booked, worth, ?_⟩,
        fun a => charges_minor (minor_onAlipayRefund returns)⟩
      rw [isAlipay]
      exact asksFor_alipayRefundPayload worth
    · exact charges_minor (returns _)
  · split
    · rename_i isWechat
      split
      · refine runs_call.mpr ⟨fun _ => ⟨uncharged, c.booking, now, c.refundFen, booked, worth, ?_⟩,
          fun a => charges_minor (minor_onWechatRefund returns)⟩
        rw [isWechat]
        exact asksFor_wechatRefundPayload
      · exact charges_minor (minor_updateRefundWithError (returns _))
    · exact charges_minor (returns _)

/-- What the create path has read of the case, and that it has asked no channel. -/
structure CasePaid (log : List PayEntry) (c : RefundCase) : Prop where
  paid : PaidPromise log c.booking
  worth : PayUtils.parseAmountToFen c.amount = some c.refundFen
  uncharged : Uncharged log

theorem CasePaid.ran (known : CasePaid log c) (st : Stmt) (res : st.Res) :
    CasePaid (log ++ [.ran st res]) c := by
  obtain ⟨⟨⟨payment, found, isSuccess⟩, order, foundOrder, isPaid⟩, worth, uncharged⟩ := known
  exact ⟨⟨⟨payment, found.append _, isSuccess⟩, order, foundOrder.append _, isPaid⟩, worth,
    by simp [uncharged]⟩

theorem charges_insertRefundRow (returns : ∀ reply, (callback reply).Minor Stmt.minor)
    (known : CasePaid log c) (uncharged : Uncharged record) (untouched : OrdersUntouched record) :
    Runs chargeContract (.active record) log (insertRefundRow cfg c callback) := by
  have refuses : ∀ {slot log} reply, Runs chargeContract slot log (.rollback (callback reply)) :=
    fun reply => runs_rollback.mpr (charges_minor (returns reply))
  refine runs_sql_txn.mpr ⟨fun _ => known.paid, fun now _ => ?_, fun _ => refuses _⟩
  refine runs_sql_txn.mpr ⟨?_, fun found _ => ?_, fun _ => refuses _⟩
  · rintro _ ⟨⟩ db
    rw [Store.pending_append, Store.applyAll_append]
    exact untouched db
  match found with
  | none => exact refuses _
  | some order =>
      refine runs_commit.mpr ⟨trivial, ?_, charges_minor (returns _)⟩
      refine charges_invokeRefundChannel returns ?_ ⟨now, ?_⟩ known.worth
      · simp [known.uncharged, uncharged]
      · simp [Saw, RefundCase.booking]

theorem charges_proceedWithInsert (returns : ∀ reply, (callback reply).Minor Stmt.minor)
    (known : CasePaid log c) :
    Runs chargeContract slot log (proceedWithInsert cfg c callback) := by
  have refuses : ∀ {slot log} reply, Runs chargeContract slot log (.rollback (callback reply)) :=
    fun reply => runs_rollback.mpr (charges_minor (returns reply))
  refine runs_start.mpr ⟨?_, charges_minor (returns _)⟩
  refine runs_sql_txn.mpr ⟨trivial, fun locked _ => ?_, fun _ => refuses _⟩
  match locked with
  | none => exact refuses _
  | some payment =>
      refine runs_sql_txn.mpr ⟨trivial, fun sumText _ => ?_, fun _ => refuses _⟩
      dsimp only
      split
      · exact refuses _
      · split
        · exact refuses _
        · exact charges_insertRefundRow returns known (by simp) fun _ => rfl

theorem charges_proceedWithAmountCheck (returns : ∀ reply, (callback reply).Minor Stmt.minor)
    (known : CasePaid log c) :
    Runs chargeContract slot log (proceedWithAmountCheck cfg c callback) := by
  refine runs_sql_db.mpr ⟨trivial, fun found _ => ?_, fun _ => charges_minor (returns _)⟩
  match found with
  | some row => exact charges_minor (returns _)
  | none =>
      refine runs_sql_db.mpr ⟨trivial, fun count _ => ?_, fun _ => charges_minor (returns _)⟩
      dsimp only
      split
      · exact charges_minor (returns _)
      · exact charges_proceedWithInsert returns ((known.ran _ _).ran _ _)

theorem charges_proceedWithPayment {request : CreateRefundRequest} {uuid paymentNo : Bytes}
    (returns : ∀ reply, (callback reply).Minor Stmt.minor) (uncharged : Uncharged log) :
    Runs chargeContract slot log (proceedWithPayment cfg request uuid paymentNo callback) := by
  refine runs_sql_db.mpr ⟨rfl, fun found _ => ?_, fun _ => charges_minor (returns _)⟩
  match found with
  | none => exact charges_minor (returns _)
  | some payment =>
      dsimp only
      split
      · rename_i isSuccess
        refine runs_sql_db.mpr ⟨nofun, fun ordered _ => ?_, fun _ => charges_minor (returns _)⟩
        match ordered with
        | none => exact charges_minor (returns _)
        | some order =>
            dsimp only
            split
            · rename_i isPaid
              split
              · exact charges_minor (returns _)
              · rename_i refundFen totalFen amounts
                refine charges_proceedWithAmountCheck returns ⟨⟨⟨payment, ?_, isSuccess⟩, order,
                  Saw.last, isPaid⟩, (refundAmounts_ok_iff.mp amounts).1, by simp [uncharged]⟩
                exact Saw.last.append _
            · exact charges_minor (returns _)
      · exact charges_minor (returns _)

theorem charges_proceedRefund {request : CreateRefundRequest} {uuid : Bytes}
    (returns : ∀ reply, (callback reply).Minor Stmt.minor) (uncharged : Uncharged log) :
    Runs chargeContract slot log (proceedRefund cfg request uuid callback) := by
  unfold proceedRefund
  split
  · exact charges_minor (returns _)
  · split
    · refine runs_sql_db.mpr ⟨trivial, fun found _ => ?_, fun _ => charges_minor (returns _)⟩
      match found with
      | some payment => exact charges_proceedWithPayment returns (by simp [uncharged])
      | none =>
          refine runs_sql_db.mpr ⟨trivial, fun found _ => ?_, fun _ => charges_minor (returns _)⟩
          match found with
          | some payment => exact charges_proceedWithPayment returns (by simp [uncharged])
          | none => exact charges_minor (returns _)
    · exact charges_proceedWithPayment returns uncharged

theorem charges_createRefund {request : CreateRefundRequest} {key uuid : Bytes}
    (uncharged : Uncharged log) :
    Runs chargeContract slot log (createRefund cfg request key uuid) := by
  unfold createRefund
  dsimp only
  split
  · exact charges_proceedRefund minor_wrappedRefundCallback uncharged
  · refine charges_checkDatabase uncharged (fun log uncharged => ?_) fun result other => ?_
    · exact charges_proceedRefund minor_proceedCallback uncharged
    · cases result with
      | Started => exact absurd rfl other
      | _ => exact minor_wrappedRefundCallback _

end Refund

end Charges

/-! ## What a create asks -/

section Asks

variable {cfg : Config} {mine theirs : ChannelCall → Prop}

theorem asks_checkDatabase {key requestHash : Bytes}
    {callback : IdempotencyService.CheckResult → PayProg}
    (continues : ∀ result, (callback result).Asks mine theirs) :
    (IdempotencyService.checkDatabase cfg key requestHash callback).Asks mine theirs := by
  unfold IdempotencyService.checkDatabase
  split
  · exact continues _
  · intro reserved
    match reserved with
    | none => exact continues _
    | some (some now) => exact continues _
    | some none =>
        intro found
        match found with
        | none => exact continues _
        | some none => exact continues _
        | some (some row) =>
            show (IdempotencyService.readReservation requestHash row callback).Asks _ _
            unfold IdempotencyService.readReservation
            split
            · split
              · exact continues _
              · refine asks_orThrow fun response => ?_
                split <;> exact continues _
            · exact continues _

theorem asks_createPayment {body : CreatePaymentRequest} {key paymentNo : Bytes} {now : Nat}
    (allowed : ∀ totalFen, createProblem cfg body now = none →
      mine (.createQRPayment body.channel (createPayload cfg body totalFen))) :
    (createPayment cfg body key paymentNo now).Asks mine theirs := by
  have answers : ∀ reply, (wrappedCreateCallback key (createHash cfg body) reply).Asks mine theirs :=
    fun reply => (minor_wrappedCreateCallback reply).asks
  have answered : ∀ {result transportError}, (onCreateAnswer body paymentNo
      (wrappedCreateCallback key (createHash cfg body)) result transportError).Asks mine theirs :=
    (minor_onCreateAnswer minor_wrappedCreateCallback).asks
  dsimp only [createPayment]
  refine asks_checkDatabase fun result => ?_
  cases result with
  | Started =>
      dsimp only
      split
      · exact (minor_clearReservation fun _ => minor_answer _ _).asks
      · split
        · exact (minor_clearReservation fun _ => minor_answer _ _).asks
        · rename_i passes
          intro started
          cases started with
          | false => exact answers _
          | true =>
              intro ordered
              cases ordered with
              | none => exact answers _
              | some _ =>
                  intro booked
                  cases booked with
                  | none => exact answers _
                  | some _ =>
                      intro committed
                      cases committed with
                      | false => exact answers _
                      | true =>
                          dsimp only
                          split
                          · exact ⟨allowed _ passes, fun _ => answered⟩
                          · exact answered
  | _ => exact (minor_answerUnstarted _).asks

theorem asks_createQRPayment {body : Json} {paymentNo : Bytes} {now : Nat}
    (allowed : ∀ qr currency, qrProblem cfg qr now = none →
      mine (.createQRPayment qr.channel (qrPayload qr currency))) :
    (createQRPayment cfg body paymentNo now).Asks mine theirs := by
  have fails : ∀ {qr requestHash code text extra},
      (failQr qr requestHash code text extra).Asks mine theirs :=
    minor_failQr.asks
  have refuses : ∀ {qr requestHash code text}, (refuseQr qr requestHash code text).Asks mine theirs :=
    minor_refuseQr.asks
  have books : ∀ {qr requestHash payload}, mine (.createQRPayment qr.channel payload) →
      (bookQrPayment qr requestHash paymentNo payload).Asks mine theirs := by
    intro qr requestHash payload allowed booked
    cases booked with
    | none => exact fails
    | some _ => exact ⟨allowed, fun a => minor_onQrAnswer.asks⟩
  have offers : ∀ {qr requestHash currency payload},
      mine (.createQRPayment qr.channel payload) →
      (bookQr cfg qr requestHash paymentNo currency payload).Asks mine theirs := by
    intro qr requestHash currency payload allowed found
    match found with
    | none => exact fails
    | some none =>
        intro ordered
        cases ordered with
        | none => exact fails
        | some _ => exact books allowed
    | some (some existing) =>
        dsimp only
        split
        · exact fails
        · intro settled
          match settled with
          | none => exact fails
          | some [] => exact books allowed
          | some (_ :: _) => exact fails
  refine asks_orThrow fun head => ?_
  dsimp only
  split
  · trivial
  · refine asks_orThrow fun userId => ?_
    split
    · trivial
    · refine asks_orThrow fun qr => asks_checkDatabase fun result => ?_
      cases result with
      | Started =>
          dsimp only [proceedQr]
          split
          · exact refuses
          · split
            · exact refuses
            · rename_i passes
              split
              · exact offers (allowed _ _ passes)
              · exact refuses
      | _ => exact (minor_answerUnstarted _).asks

section Refund

open RefundService

variable {c : RefundCase} {callback : Reply → PayProg}

/-- Either channel may be asked for this refund. -/
def AllowedFor (mine : ChannelCall → Prop) (c : RefundCase) : Prop :=
  mine (.refund (ascii "alipay") (alipayRefundPayload c)) ∧
    mine (.refund (ascii "wechat") (wechatRefundPayload c))

theorem asks_invokeRefundChannel {channel : Bytes}
    (returns : ∀ reply, (callback reply).Minor Stmt.minor) (allowed : AllowedFor mine c) :
    (invokeRefundChannel cfg c channel callback).Asks mine theirs := by
  unfold invokeRefundChannel
  split
  · rename_i isAlipay
    split
    · exact ⟨isAlipay ▸ allowed.1, fun a => (minor_onAlipayRefund returns).asks⟩
    · exact (returns _).asks
  · split
    · rename_i isWechat
      split
      · exact ⟨isWechat ▸ allowed.2, fun a => (minor_onWechatRefund returns).asks⟩
      · exact (minor_updateRefundWithError (returns _)).asks
    · exact (returns _).asks

theorem asks_proceedWithInsert (returns : ∀ reply, (callback reply).Minor Stmt.minor)
    (allowed : AllowedFor mine c) : (proceedWithInsert cfg c callback).Asks mine theirs := by
  have refuses : ∀ reply, (callback reply).Asks mine theirs := fun reply => (returns reply).asks
  have inserts : (insertRefundRow cfg c callback).Asks mine theirs := by
    intro inserted
    cases inserted with
    | none => exact refuses _
    | some _ =>
        intro found
        match found with
        | none => exact refuses _
        | some none => exact refuses _
        | some (some order) =>
            intro committed
            cases committed with
            | false => exact refuses _
            | true => exact asks_invokeRefundChannel returns allowed
  have decides : ∀ total : Int, (if total > c.totalFen then
      .rollback (callback (refundError 1409 (ascii "refund amount exceeds paid")))
    else insertRefundRow cfg c callback).Asks mine theirs := by
    intro total
    split
    · exact refuses _
    · exact inserts
  intro started
  cases started with
  | false => exact refuses _
  | true =>
      intro locked
      match locked with
      | none => exact refuses _
      | some none => exact refuses _
      | some (some payment) =>
          intro summed
          cases summed with
          | none => exact refuses _
          | some sumText =>
              dsimp only
              split
              · exact refuses _
              · rename_i refundedFen parsed
                generalize PayUtils.addInt64 refundedFen c.refundFen = total
                exact decides total

theorem asks_proceedWithPayment {request : CreateRefundRequest} {uuid paymentNo : Bytes}
    (returns : ∀ reply, (callback reply).Minor Stmt.minor)
    (allowed : ∀ c : RefundCase, c.request = request → 0 < c.refundFen → c.refundFen ≤ c.totalFen →
      AllowedFor mine c) :
    (proceedWithPayment cfg request uuid paymentNo callback).Asks mine theirs := by
  have refuses : ∀ reply, (callback reply).Asks mine theirs := fun reply => (returns reply).asks
  have checks : ∀ c, AllowedFor mine c → (proceedWithAmountCheck cfg c callback).Asks mine theirs := by
    intro c allowed found
    match found with
    | none => exact refuses _
    | some (some row) => exact refuses _
    | some none =>
        intro counted
        cases counted with
        | none => exact refuses _
        | some count =>
            dsimp only
            split
            · exact refuses _
            · exact asks_proceedWithInsert returns allowed
  have orders : ∀ {refundNo},
      (proceedOrderFlow cfg request refundNo paymentNo callback).Asks mine theirs := by
    intro refundNo ordered
    match ordered with
    | none => exact refuses _
    | some none => exact refuses _
    | some (some order) =>
        dsimp only
        split
        · split
          · exact refuses _
          · rename_i amounts
            obtain ⟨_, _, some, within⟩ := refundAmounts_ok_iff.mp amounts
            exact checks _ (allowed _ rfl some within)
        · exact refuses _
  intro found
  match found with
  | none => exact refuses _
  | some none => exact refuses _
  | some (some payment) =>
      dsimp only
      split
      · exact orders
      · exact refuses _

theorem asks_createRefund {request : CreateRefundRequest} {key uuid : Bytes}
    (allowed : requestProblem cfg request = none → ∀ c : RefundCase, c.request = request →
      0 < c.refundFen → c.refundFen ≤ c.totalFen → AllowedFor mine c) :
    (createRefund cfg request key uuid).Asks mine theirs := by
  have proceeds : ∀ {callback : Reply → PayProg}, (∀ reply, (callback reply).Minor Stmt.minor) →
      (proceedRefund cfg request uuid callback).Asks mine theirs := by
    intro callback returns
    unfold proceedRefund
    split
    · exact (returns _).asks
    · rename_i passes
      split
      · intro found
        match found with
        | none => exact (returns _).asks
        | some (some payment) => exact asks_proceedWithPayment returns (allowed passes)
        | some none =>
            intro found
            match found with
            | none => exact (returns _).asks
            | some (some payment) => exact asks_proceedWithPayment returns (allowed passes)
            | some none => exact (returns _).asks
      · exact asks_proceedWithPayment returns (allowed passes)
  unfold createRefund
  dsimp only
  split
  · exact proceeds minor_wrappedRefundCallback
  · refine asks_checkDatabase fun result => ?_
    cases result with
    | Started => exact proceeds minor_proceedCallback
    | _ => exact (minor_wrappedRefundCallback _).asks

end Refund

end Asks

/-- What a request forks asks a channel for no money. -/
theorem solo_serve (cfg : Config) (request : Request) :
    (serve cfg request).Solo ChannelCall.Charges := by
  by_cases creates : request.creates
  · cases request with
    | createPayment body key paymentNo now => exact asks_createPayment fun _ _ => trivial
    | createQRPayment body paymentNo now => exact asks_createQRPayment fun _ _ _ => trivial
    | createRefund body key uuid => exact asks_createRefund fun _ _ _ _ _ => ⟨trivial, trivial⟩
    | _ => exact creates.elim
  · exact (mute_serve cfg creates).mono (fun _ _ => trivial) fun _ => id

/-- The create requests keep the contract. -/
theorem verified_charges (cfg : Config) (request : Request) (creates : request.creates) :
    Verified chargeContract (Proc.spawn request (serve cfg request)) := by
  refine Verified.of_runs ?_
  cases request with
  | createPayment body key paymentNo now => exact charges_createPayment (by simp)
  | createQRPayment body paymentNo now => exact charges_createQRPayment (by simp)
  | createRefund body key uuid => exact charges_createRefund (by simp)
  | _ => exact creates.elim

end DrogonPay
