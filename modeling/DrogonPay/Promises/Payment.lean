import DrogonPay.Promises.Contract

/-!
Contract: the create paths keep the contract of the services.

Owns: one lemma for each function of `Idempotency` and `Payment`, in the order
of those modules. A function that takes a callback is verified under the
assumption that the callback is verified wherever the process may end.

Does not own: the contract.
-/

namespace DrogonPay

open ReadCommitted

variable {cfg : Config} {slot : Slot paySig} {log : List PayEntry}

/-! ## Idempotency -/

namespace IdempotencyService

theorem runs_readReservation {requestHash : Bytes} {row : IdempotencyRow}
    {callback : CheckResult → PayProg} (idle : Idle slot) (ends : Done log)
    (next : ∀ result, Runs payContract slot log (callback result)) :
    Runs payContract slot log (readReservation requestHash row callback) := by
  unfold readReservation
  split
  · split
    · exact next _
    · refine runs_orThrow idle ends fun response _ => ?_
      split
      · exact next _
      · exact next _
  · exact next _

theorem runs_checkDatabase {idempotencyKey requestHash : Bytes}
    {callback : CheckResult → PayProg} (idle : Idle slot) (ends : Done log)
    (next : ∀ result log', log <+: log' → Done log' →
      Runs payContract slot log' (callback result)) :
    Runs payContract slot log (checkDatabase cfg idempotencyKey requestHash callback) := by
  unfold checkDatabase
  split
  · exact next _ log List.prefix_rfl ends
  · refine runs_pooled ends trivial (by simp [Stmt.table]) (fun res _ ends => ?_)
      fun cause ends => next _ _ (by simp) ends
    cases res with
    | some now => exact next _ _ (by simp) ends
    | none =>
        refine runs_pooled ends trivial (by simp [Stmt.table]) (fun res _ ends => ?_)
          fun cause ends => next _ _ (by simp) ends
        cases res with
        | none => exact next _ _ (by simp) ends
        | some row => exact runs_readReservation idle ends fun result => next _ _ (by simp) ends

theorem runs_clearReservation {idempotencyKey requestHash : Bytes} {callback : Bool → PayProg}
    (ends : Done log)
    (next : ∀ cleared log', Done log' → Runs payContract slot log' (callback cleared)) :
    Runs payContract slot log (clearReservation idempotencyKey requestHash callback) := by
  unfold clearReservation
  split
  · exact next _ log ends
  · exact runs_pooled ends trivial (by simp [Stmt.table])
      (fun res _ ends => next _ _ ends) fun cause ends => next _ _ ends

theorem runs_storeThenAnswer {idempotencyKey requestHash : Bytes} {reply : Reply}
    (idle : Idle slot) (ends : Done log) :
    Runs payContract slot log (storeThenAnswer idempotencyKey requestHash reply) := by
  have cleared : ∀ {log}, Done log → Runs payContract slot log
      (clearReservation idempotencyKey requestHash fun _ => answer reply.body reply.error) :=
    fun ends => runs_clearReservation ends fun _ _ ends => runs_answer idle ends _ _
  unfold storeThenAnswer updateResult
  refine runs_pooled ends ⟨_, rfl⟩ (by simp [Stmt.table]) (fun res _ ends => ?_)
    fun cause ends => cleared ends
  cases res with
  | true => exact runs_answer idle ends _ _
  | false => exact cleared ends

end IdempotencyService

namespace PaymentService

/-! ## createPayment -/

theorem runs_bookRefusedAttempt {paymentNo orderNo : Bytes} {finish : PayProg} (ends : Done log)
    (next : ∀ log', Done log' → Runs payContract slot log' finish) :
    Runs payContract slot log (bookRefusedAttempt paymentNo orderNo finish) := by
  unfold bookRefusedAttempt
  refine runs_pooled ends trivial (by simp [Stmt.table]) (fun res _ ends => ?_)
    fun cause ends => next _ ends
  cases res with
  | none => exact next _ ends
  | some payment =>
      refine runs_pooled ends rfl (by simp [Stmt.table]) (fun res _ ends => ?_)
        fun cause ends => next _ ends
      refine runs_pooled ends Spares.nil (by simp [Stmt.table]) (fun res _ ends => ?_)
        fun cause ends => next _ ends
      cases res with
      | none => exact next _ ends
      | some order =>
          exact runs_pooled ends ⟨rfl, Spares.nil, by rintro ⟨⟩⟩ (by simp [Stmt.table])
            (fun res _ ends => next _ ends) fun cause ends => next _ ends

theorem runs_answerCreated {request : CreatePaymentRequest} {paymentNo : Bytes} {result : Json}
    {callback : Reply → PayProg} (idle : Idle slot) (ends : Done log)
    (returns : Returns callback) :
    Runs payContract slot log (answerCreated request paymentNo result callback) :=
  runs_orThrow idle ends fun _ _ => returns _ _ _ idle ends

theorem runs_onCreateAnswer {request : CreatePaymentRequest} {paymentNo : Bytes}
    {callback : Reply → PayProg} {result : Json} {transportError : Bytes} (idle : Idle slot)
    (ends : Done log) (returns : Returns callback) :
    Runs payContract slot log
      (onCreateAnswer request paymentNo callback result transportError) := by
  refine runs_orThrow idle ends fun error _ => ?_
  split
  · refine runs_pooled ends ⟨by rintro ⟨⟩, Spares.nil, by rintro ⟨⟩⟩ (by simp [Stmt.table])
      (fun res _ ends => ?_) fun cause ends => returns _ _ _ idle ends
    cases res with
    | false => exact runs_answerCreated idle ends returns
    | true =>
        exact runs_pooled ends trivial (by simp [Stmt.table])
          (fun res _ ends => runs_answerCreated idle ends returns)
          fun cause ends => runs_answerCreated idle ends returns
  · dsimp only
    split
    · exact runs_bookRefusedAttempt ends fun log' ends => returns _ _ _ idle ends
    · exact returns _ _ _ idle ends

theorem runs_proceedCreatePayment {request : CreatePaymentRequest} {paymentNo : Bytes}
    {totalFen : Nat} {callback : Reply → PayProg} (numbered : paymentNo ≠ []) (ends : Done log)
    (returns : Returns callback) :
    Runs payContract slot log (proceedCreatePayment cfg request paymentNo totalFen callback) := by
  have failed : ∀ cause reply, Runs payContract .closed (log ++ [.failed cause]) (callback reply) :=
    fun cause reply => returns _ _ _ Idle.closed (Done.failed log cause)
  refine runs_start.mpr ⟨?_, failed _ _⟩
  refine runs_sql_txn.mpr ⟨trivial, fun ordered _ => ?_, fun cause => failed cause _⟩
  refine runs_sql_txn.mpr ⟨⟨numbered, Spares.nil.snoc (by simp [Stmt.table]), _, ordered, Saw.last,
    rfl, rfl⟩, fun booked _ => ?_, fun cause => failed cause _⟩
  refine runs_commit.mpr ⟨Plain.commit ?_, ?_, failed _ _⟩
  · simp [Plain, Saw, SettlesRefund]
  · have ends : Done (log ++ ([] ++ [.ran (.insertOrder _) ordered] ++
        [.ran (.insertPayment _) booked])) :=
      ends.append (by simp [Entry.Settles])
    dsimp only
    split
    · refine runs_call.mpr ⟨trivial, fun a => ?_⟩
      exact runs_onCreateAnswer Idle.closed (ends.answered _ a) returns
    · exact runs_onCreateAnswer Idle.closed ends returns

theorem returns_wrappedCreateCallback {idempotencyKey requestHash : Bytes} :
    Returns (wrappedCreateCallback idempotencyKey requestHash) := by
  intro reply slot log idle ends
  unfold wrappedCreateCallback
  split
  · exact IdempotencyService.runs_storeThenAnswer idle ends
  · split
    · exact IdempotencyService.runs_clearReservation ends fun _ _ ends => runs_answer idle ends _ _
    · exact runs_answer idle ends _ _

theorem runs_invalidCreate {idempotencyKey requestHash problem : Bytes} (idle : Idle slot)
    (ends : Done log) :
    Runs payContract slot log (invalidCreate idempotencyKey requestHash problem) :=
  IdempotencyService.runs_clearReservation ends fun _ _ ends => runs_answer idle ends _ _

theorem runs_answerUnstarted (result : IdempotencyService.CheckResult) (idle : Idle slot)
    (ends : Done log) : Runs payContract slot log (answerUnstarted result) := by
  cases result with
  | Started => exact runs_end idle ends
  | _ => exact runs_answer idle ends _ _

theorem runs_createPayment {request : CreatePaymentRequest} {idempotencyKey paymentNo : Bytes}
    {now : Nat} (numbered : paymentNo ≠ []) (idle : Idle slot) (ends : Done log) :
    Runs payContract slot log (createPayment cfg request idempotencyKey paymentNo now) := by
  dsimp only [createPayment]
  refine IdempotencyService.runs_checkDatabase idle ends fun result log' _ ends => ?_
  cases result with
  | Started =>
      dsimp only
      split
      · exact runs_invalidCreate idle ends
      · split
        · exact runs_invalidCreate idle ends
        · exact runs_proceedCreatePayment numbered ends returns_wrappedCreateCallback
  | _ => exact runs_answerUnstarted _ idle ends

/-! ## createQRPayment -/

variable {qr : QrRequest} {requestHash paymentNo : Bytes} {payload : Json}

theorem runs_failQr {code : Nat} {text : Bytes} {extra : Json} (idle : Idle slot)
    (ends : Done log) : Runs payContract slot log (failQr qr requestHash code text extra) :=
  IdempotencyService.runs_clearReservation ends fun _ _ ends => runs_answer idle ends _ _

theorem runs_promoteQrRows {data : Json} (idle : Idle slot) (ends : Done log) :
    Runs payContract slot log (promoteQrRows qr requestHash paymentNo data) := by
  have responds : ∀ {log}, Done log → Runs payContract slot log (respondQr qr requestHash data) :=
    fun ends => IdempotencyService.runs_storeThenAnswer idle ends
  refine runs_pooled ends ⟨by rintro ⟨⟩, Spares.nil, by rintro ⟨⟩⟩ (by simp [Stmt.table])
    (fun res _ ends => ?_)
    fun cause ends => responds ends
  cases res with
  | false => exact responds ends
  | true =>
      exact runs_pooled ends trivial (by simp [Stmt.table]) (fun res _ ends => responds ends)
        fun cause ends => responds ends

theorem runs_refuseQrOffer {failure text : Bytes} {extra : Json} (idle : Idle slot)
    (ends : Done log) :
    Runs payContract slot log (refuseQrOffer qr requestHash paymentNo failure text extra) := by
  unfold refuseQrOffer
  split
  · exact runs_pooled ends ⟨nofun, Spares.nil, nofun⟩ (by simp [Stmt.table])
      (fun res _ ends => runs_failQr idle ends) fun cause ends => runs_failQr idle ends
  · exact runs_failQr idle ends

theorem runs_offerQrChannel (idle : Idle slot) (ends : Done log) :
    Runs payContract slot log (offerQrChannel qr requestHash paymentNo payload) := by
  refine runs_call.mpr ⟨trivial, fun a => ?_⟩
  have ends := ends.answered (.createQRPayment qr.channel payload) a
  split
  · exact runs_refuseQrOffer idle ends
  · refine runs_orThrow idle ends fun resultError _ => ?_
    split
    · exact runs_orThrow idle ends fun data _ => runs_promoteQrRows idle ends
    · exact runs_orThrow idle ends fun extra _ => runs_refuseQrOffer idle ends

/-- The order of a QR attempt was inserted with the amount of the request, or is
reused and worth the same; a probe made last found no settled attempt. -/
def QrOrderKnown (qr : QrRequest) (log : List PayEntry) : Prop :=
  (∀ orderNo settled, log.getLast? = some (.ran (.settledAttempts orderNo) settled) →
    settled = []) ∧
  ((∃ order now, Saw log (.insertOrder order) now ∧ order.orderNo = qr.orderNo ∧
    order.amount = qr.amount) ∨
  ∃ row, Saw log (.findOrder qr.orderNo) (some row) ∧
    PayUtils.parseAmountToFen row.amount = PayUtils.parseAmountToFen qr.amount)

theorem runs_bookQrPayment (numbered : paymentNo ≠ []) (known : QrOrderKnown qr log)
    (idle : Idle slot) (ends : Done log) :
    Runs payContract slot log (bookQrPayment qr requestHash paymentNo payload) :=
  runs_pooled ends ⟨numbered, known⟩ (by simp [Stmt.table])
    (fun res _ ends => runs_offerQrChannel idle ends) fun cause ends => runs_failQr idle ends

theorem runs_insertQrOrder {currency : Bytes} (numbered : paymentNo ≠ []) (idle : Idle slot)
    (ends : Done log) :
    Runs payContract slot log (insertQrOrder cfg qr requestHash paymentNo currency payload) :=
  runs_pooled ends trivial (by simp [Stmt.table])
    (fun res _ ends =>
      runs_bookQrPayment numbered ⟨by simp, Or.inl ⟨_, res, Saw.last, rfl, rfl⟩⟩ idle ends)
    fun cause ends => runs_failQr idle ends

theorem runs_refuseIfAlreadySettled {existing : OrderRow} (numbered : paymentNo ≠ [])
    (found : Saw log (.findOrder qr.orderNo) (some existing))
    (same : PayUtils.parseAmountToFen existing.amount = PayUtils.parseAmountToFen qr.amount)
    (idle : Idle slot) (ends : Done log) :
    Runs payContract slot log (refuseIfAlreadySettled qr requestHash paymentNo payload) := by
  refine runs_pooled ends trivial (by simp [Stmt.table]) (fun res _ ends => ?_)
    fun cause ends => runs_failQr idle ends
  cases res with
  | nil =>
      refine runs_bookQrPayment numbered ⟨?_, Or.inr ⟨existing, found.append _, same⟩⟩ idle ends
      intro orderNo settled isLast
      have same : qr.orderNo = orderNo ∧ settled = [] := by simpa using isLast
      exact same.2
  | cons settled rest => exact runs_failQr idle ends

theorem sameAmount_parse {booked requested : Bytes} (same : sameAmount booked requested = true) :
    PayUtils.parseAmountToFen booked = PayUtils.parseAmountToFen requested := by
  unfold sameAmount at same
  split at same
  · rename_i bookedFen requestedFen isBooked isRequested
    simpa [isBooked, isRequested] using same
  · rw [of_decide_eq_true same]

theorem reuseProblem_none {currency : Bytes} {existing : OrderRow}
    (reusable : reuseProblem qr currency existing = none) :
    PayUtils.parseAmountToFen existing.amount = PayUtils.parseAmountToFen qr.amount := by
  refine sameAmount_parse ?_
  by_contra different
  simp only [reuseProblem] at reusable
  split at reusable
  · cases reusable
  · rw [if_pos (by simpa using different)] at reusable
    cases reusable

theorem runs_bookQr {currency : Bytes} (numbered : paymentNo ≠ []) (idle : Idle slot)
    (ends : Done log) :
    Runs payContract slot log (bookQr cfg qr requestHash paymentNo currency payload) := by
  refine runs_pooled ends Spares.nil (by simp [Stmt.table]) (fun res _ ends => ?_)
    fun cause ends => runs_failQr idle ends
  cases res with
  | none => exact runs_insertQrOrder numbered idle ends
  | some existing =>
      dsimp only
      split
      · exact runs_failQr idle ends
      · rename_i reusable
        exact runs_refuseIfAlreadySettled numbered Saw.last (reuseProblem_none reusable) idle ends

theorem runs_refuseQr {code : Nat} {text : Bytes} (idle : Idle slot) (ends : Done log) :
    Runs payContract slot log (refuseQr qr requestHash code text) := by
  refine runs_fork.mpr ⟨Verified.of_runs ?_, runs_answer idle ends _ _⟩
  exact IdempotencyService.runs_clearReservation (ends.replied _) fun _ _ ends =>
    runs_end Idle.none ends

theorem runs_proceedQr {now : Nat} (numbered : paymentNo ≠ []) (idle : Idle slot)
    (ends : Done log) :
    Runs payContract slot log (proceedQr cfg qr requestHash paymentNo now) := by
  unfold proceedQr
  split
  · exact runs_refuseQr idle ends
  · split
    · exact runs_refuseQr idle ends
    · split
      · exact runs_bookQr numbered idle ends
      · exact runs_refuseQr idle ends

theorem runs_createQRPayment {request : Json} {now : Nat} (numbered : paymentNo ≠ [])
    (idle : Idle slot) (ends : Done log) :
    Runs payContract slot log (createQRPayment cfg request paymentNo now) := by
  refine runs_orThrow idle ends fun head _ => ?_
  dsimp only
  split
  · exact runs_answer idle ends _ _
  · refine runs_orThrow idle ends fun userId _ => ?_
    split
    · exact runs_answer idle ends _ _
    · refine runs_orThrow idle ends fun qr _ => ?_
      refine IdempotencyService.runs_checkDatabase idle ends fun result log' _ ends => ?_
      cases result with
      | Started => exact runs_proceedQr numbered idle ends
      | _ => exact runs_answerUnstarted _ idle ends

end PaymentService

end DrogonPay
