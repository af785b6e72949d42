import DrogonPay.Promises.OrderSync

/-!
Contract: the refund service keeps the contract of the services.

Owns: the lemmas for `Refund`. The create path carries `CaseKnown`, what it has
checked, and breaks and restores `Done` around the write that settles a refund;
the sync carries `Settling`, which the refund notification shares.

Does not own: the contract.
-/

namespace DrogonPay

open ReadCommitted

variable {cfg : Config} {slot : Slot paySig} {log record : List PayEntry}

namespace RefundService

/-! ## What the create path has checked -/

/-- The request and the order of the case were seen, and the amounts fit. -/
def CaseKnown (log : List PayEntry) (c : RefundCase) : Prop :=
  RefundCaseSeen log c.orderNo c.amount c.refundFen c.totalFen

/-- What is booked for the case. -/
def RefundCase.booking (c : RefundCase) : RefundBooking :=
  ⟨c.refundNo, c.orderNo, c.paymentNo, c.amount⟩

/-- The refund of the case is booked. -/
def CaseBooked (log : List PayEntry) (c : RefundCase) : Prop :=
  CaseKnown log c ∧ ∃ now, Saw log (.insertRefund c.booking) now

section Create

variable {c : RefundCase} {callback : Reply → PayProg}

theorem CaseKnown.append (known : CaseKnown log c) (more : List PayEntry) :
    CaseKnown (log ++ more) c := by
  obtain ⟨⟨request, idempotencyKey, uuid, owner, isOrder, isAmount⟩, ⟨order, found, total⟩, rest⟩ :=
    known
  exact ⟨⟨request, idempotencyKey, uuid, owner.append more, isOrder, isAmount⟩,
    ⟨order, found.append more, total⟩, rest⟩

theorem CaseBooked.append (booked : CaseBooked log c) (more : List PayEntry) :
    CaseBooked (log ++ more) c :=
  ⟨booked.1.append more, booked.2.imp fun _ saw => saw.append more⟩

/-! ## The rows after the channel answered -/

/-- A write of another status settles no refund. -/
theorem not_settles_cas {target : Bytes} {status : RefundStatus} {refundId : Option Bytes}
    {res : Option Nat} (other : status ≠ .REFUND_SUCCESS) (refundNo : Bytes) :
    ¬ Entry.Settles refundNo (.ran (.casRefund target status refundId) res) := by
  rintro ⟨_, _, eq⟩
  cases eq
  exact other rfl

theorem runs_updateRefundWithError {refundNo : Bytes} {next : PayProg} (ends : Done log)
    (continues : Runs payContract slot log next) :
    Runs payContract slot log (updateRefundWithError refundNo next) := by
  refine runs_fork.mpr ⟨Verified.of_runs ?_, continues⟩
  obtain ⟨outs, eq⟩ := Proc.advance_log ⟨slot, log, []⟩ next
  rw [eq]
  have ends : Done (log ++ outs.map Entry.replied) := ends.append (by simp [Entry.Settles])
  refine runs_sql_db.mpr ⟨by rintro ⟨⟩, fun res _ => ?_, fun cause => ?_⟩
  · exact runs_end Idle.none (ends.snoc (not_settles_cas (by rintro ⟨⟩)))
  · exact runs_end Idle.none (Done.failed _ cause)

/-- The decision about the order after the refund was written. `log` is what the
process knew before it wrote `entry`. -/
theorem runs_settleOrder {refundStatus : RefundStatus} {entry : PayEntry} {finished : PayProg}
    (returns : Returns callback) (idle : Idle slot) (ends : Done log) (booked : CaseBooked log c)
    (settles : ∀ refundNo, Entry.Settles refundNo entry →
      refundNo = c.refundNo ∧ refundStatus = .REFUND_SUCCESS)
    (finishes : ∀ log', Done log' → Runs payContract slot log' finished) :
    Runs payContract slot (log ++ [entry]) (settleOrder c refundStatus callback finished) := by
  obtain ⟨⟨_, ⟨order, found, total⟩, _⟩, now, inserted⟩ := booked
  -- the process may end once the order is decided, whether or not the entry settled
  have decides : ∀ after : List PayEntry, (∀ later ∈ after, ∀ refundNo, ¬ Entry.Settles refundNo later) →
      CoverDecided log after c.orderNo → Done (log ++ [entry] ++ after) := by
    intro after quiet decided
    by_cases settled : Entry.Settles c.refundNo entry
    · refine ⟨by simp, fun clean request idempotencyKey uuid owner => ?_⟩
      rw [List.append_assoc] at clean owner ⊢
      have before := ends.2 clean.of_append request idempotencyKey uuid (owner.of_append ends.1)
      exact before.settle inserted settled decided quiet
    · refine (ends.snoc fun refundNo settlesOther => settled ?_).append quiet
      rwa [← (settles refundNo settlesOther).1]
  unfold settleOrder
  split
  · refine runs_sql_db.mpr ⟨nofun, fun sumText _ => ?_, fun cause =>
      returns _ _ _ idle (Done.failed _ cause)⟩
    have uncovered : PayUtils.refundsCoverOrderAmount (PayUtils.fenOf sumText) c.totalFen = false →
        Done (log ++ [entry] ++ [.ran (.sumRefunds c.orderNo [.REFUND_SUCCESS]) sumText]) := by
      intro below
      refine decides _ (by simp [Entry.Settles]) (Or.inr (Or.inl ⟨order, sumText, found.append _,
        List.mem_singleton_self _, ?_⟩))
      rw [PayUtils.fenOf_eq total]
      exact below
    dsimp only
    split
    · rename_i unreadable
      refine returns _ _ _ idle (uncovered ?_)
      rw [PayUtils.fenOf_eq_zero unreadable]
      exact PayUtils.not_covers_zero _
    · rename_i settledRefundFen parsed
      have isFen := PayUtils.fenOf_eq parsed
      split
      · rename_i covers
        have cover : CoverPromise (log ++ [entry] ++
            [.ran (.sumRefunds c.orderNo [.REFUND_SUCCESS]) sumText]) c.orderNo := by
          refine ⟨order, sumText, (found.append _).append _, Saw.last, ?_⟩
          rw [isFen, PayUtils.fenOf_eq total]
          exact covers
        refine runs_sql_db.mpr ⟨by simpa [payContract, Promise] using cover, fun res _ => ?_,
          fun cause => returns _ _ _ idle (Done.failed _ cause)⟩
        refine finishes _ ?_
        rw [List.append_assoc]
        exact decides _ (by simp [Entry.Settles]) (Or.inl ⟨res, by simp [Saw]⟩)
      · rename_i below
        exact finishes _ (uncovered (by rw [isFen]; simpa using below))
  · rename_i unsettled
    exact finishes _ (ends.snoc fun refundNo settlesEntry =>
      unsettled (settles refundNo settlesEntry).2)

theorem runs_updateRefundWithSuccess {refundStatus : RefundStatus} {refundId : Bytes}
    {result : Json} {call : ChannelCall} {a : ChannelAnswer} (returns : Returns callback)
    (idle : Idle slot) (ends : Done log) (booked : CaseBooked log c)
    (heard : .answered call a ∈ log) (asks : AsksFor call c.booking c.refundFen)
    (made : refundStatus = .REFUND_SUCCESS → RefundMade call a) :
    Runs payContract slot log
      (updateRefundWithSuccess c refundStatus refundId result callback) := by
  refine runs_sql_db.mpr ⟨fun success => ?_, fun res _ => ?_, fun cause =>
    returns _ _ _ idle (Done.failed _ cause)⟩
  · obtain ⟨known, now, inserted⟩ := booked
    exact ⟨_, now, _, _, inserted, rfl, known, call, a, heard, made success, asks⟩
  · refine runs_settleOrder returns idle ends booked ?_ fun log' ends => returns _ _ _ idle ends
    rintro refundNo ⟨_, _, eq⟩
    cases eq
    exact ⟨rfl, rfl⟩

/-! ## The channel call -/

theorem asksFor_alipayRefundPayload (worth : PayUtils.parseAmountToFen c.amount = some c.refundFen) :
    AsksFor (.refund (ascii "alipay") (alipayRefundPayload c)) c.booking c.refundFen := by
  have names : ascii "out_trade_no" ≠ ascii "refund_amount" := by decide
  refine .alipay ?_ ?_ worth
  · simp [alipayRefundPayload, RefundCase.booking, Json.at?, Json.get, Json.object, Json.lookup]
  · simp [alipayRefundPayload, RefundCase.booking, Json.at?, Json.get, Json.object, Json.lookup,
      names]

theorem asksFor_wechatRefundPayload :
    AsksFor (.refund (ascii "wechat") (wechatRefundPayload c)) c.booking c.refundFen := by
  have tradeFirst : ascii "out_trade_no" ≠ ascii "out_refund_no" := by decide
  have notTrade : ascii "out_trade_no" ≠ ascii "amount" := by decide
  have notRefund : ascii "out_refund_no" ≠ ascii "amount" := by decide
  have notReason : ascii "reason" ≠ ascii "amount" := by decide
  have notUrl : ascii "notify_url" ≠ ascii "amount" := by decide
  have notFunds : ascii "funds_account" ≠ ascii "amount" := by decide
  have named : (wechatRefundPayload c).at? (ascii "out_refund_no") = some (.str c.refundNo) := by
    simp [wechatRefundPayload, Json.at?, Json.get, Json.object, Json.lookup, tradeFirst]
  have has : (wechatRefundPayload c).at? (ascii "amount") =
      some (Json.object [("refund", .int c.refundFen), ("total", .int c.totalFen),
        ("currency", .str c.currency)]) := by
    simp only [wechatRefundPayload]
    split <;> split <;> split <;>
      simp [Json.at?, Json.get, Json.object, Json.lookup, notTrade, notRefund, notReason, notUrl,
        notFunds]
  refine .wechat named has ?_
  simp [Json.at?, Json.get, Json.object, Json.lookup]

theorem runs_onAlipayRefund {a : ChannelAnswer} (returns : Returns callback) (idle : Idle slot)
    (ends : Done log) (booked : CaseBooked log c)
    (heard : .answered (.refund (ascii "alipay") (alipayRefundPayload c)) a ∈ log) :
    Runs payContract slot log (onAlipayRefund c callback a) := by
  unfold onAlipayRefund
  split
  · exact runs_updateRefundWithError ends (returns _ _ _ idle ends)
  · rename_i through
    refine runs_orThrow idle ends fun alipayCode isCode => ?_
    split
    · exact runs_orThrow idle ends fun msg _ =>
        runs_updateRefundWithError ends (returns _ _ _ idle ends)
    · rename_i accepted
      rw [not_not] at accepted
      exact runs_orThrow idle ends fun refundId _ =>
        runs_updateRefundWithSuccess returns idle ends booked heard
          (asksFor_alipayRefundPayload booked.1.2.2.1)
          fun _ => .alipay (by simpa using through) (by rw [isCode, accepted])

theorem runs_refuseWechatRefund {errorMessage : Bytes} {definitive : Bool}
    (returns : Returns callback) (idle : Idle slot) (ends : Done log) :
    Runs payContract slot log (refuseWechatRefund c errorMessage definitive callback) := by
  dsimp only [refuseWechatRefund]
  split
  · exact runs_updateRefundWithError ends (returns _ _ _ idle ends)
  · exact returns _ _ _ idle ends

theorem runs_onWechatRefund {a : ChannelAnswer} (returns : Returns callback) (idle : Idle slot)
    (ends : Done log) (booked : CaseBooked log c)
    (heard : .answered (.refund (ascii "wechat") (wechatRefundPayload c)) a ∈ log) :
    Runs payContract slot log (onWechatRefund c callback a) := by
  unfold onWechatRefund
  split
  · exact runs_refuseWechatRefund returns idle ends
  · rename_i through
    refine runs_orThrow idle ends fun wechatStatus isStatus => ?_
    refine runs_orThrow idle ends fun refundId _ => ?_
    dsimp only
    split
    · exact runs_orThrow idle ends fun code _ => runs_orThrow idle ends fun detail _ =>
        runs_refuseWechatRefund returns idle ends
    · exact runs_orThrow idle ends fun code _ => runs_orThrow idle ends fun detail _ =>
        runs_refuseWechatRefund returns idle ends
    · rename_i mappedStatus _ mapped
      refine runs_updateRefundWithSuccess returns idle ends booked heard
        asksFor_wechatRefundPayload fun success => ?_
      exact .wechat (by simpa using through) ⟨wechatStatus, isStatus, by rw [mapped, success]⟩

theorem runs_invokeRefundChannel {channel : Bytes} (returns : Returns callback)
    (idle : Idle slot) (ends : Done log) (booked : CaseBooked log c) :
    Runs payContract slot log (invokeRefundChannel cfg c channel callback) := by
  unfold invokeRefundChannel
  split
  · rename_i isChannel
    split
    · exact runs_call.mpr ⟨trivial, fun a => runs_onAlipayRefund returns idle (ends.answered _ a)
        (booked.append _) (by simp [isChannel])⟩
    · exact returns _ _ _ idle ends
  · split
    · rename_i isChannel
      split
      · exact runs_call.mpr ⟨trivial, fun a => runs_onWechatRefund returns idle
          (ends.answered _ a) (booked.append _) (by simp [isChannel])⟩
      · exact runs_updateRefundWithError ends (returns _ _ _ idle ends)
    · exact returns _ _ _ idle ends

/-! ## The booking transaction -/

theorem runs_insertRefundRow {payment : PaymentRow} {sumText : Bytes} {refundedFen : Nat}
    (returns : Returns callback) (ends : Done log) (known : CaseKnown log c)
    (parsed : PayUtils.parseAmountToFen sumText = some refundedFen)
    (fits : PayUtils.addInt64 refundedFen c.refundFen ≤ c.totalFen) :
    Runs payContract (.active [.ran (.lockPayment c.paymentNo c.orderNo) (some payment),
      .ran (.sumRefunds c.orderNo countedStatuses) sumText]) log
      (insertRefundRow cfg c callback) := by
  have closed : ∀ cause reply,
      Runs payContract .closed (log ++ [.failed cause]) (callback reply) :=
    fun cause reply => returns _ _ _ Idle.closed (Done.failed log cause)
  refine runs_sql_txn.mpr ⟨⟨payment, sumText, refundedFen, _, _, rfl, known, parsed, fits⟩,
    fun now _ => ?_, fun cause => runs_rollback.mpr (closed cause _)⟩
  have unwritten : Spares .orders [.ran (.lockPayment c.paymentNo c.orderNo) (some payment),
      .ran (.sumRefunds c.orderNo countedStatuses) sumText, .ran (.insertRefund c.booking) now] :=
    ((Spares.nil.snoc (by simp [Stmt.table])).snoc (by simp [Stmt.table])).snoc
      (by simp [Stmt.table])
  refine runs_sql_txn.mpr ⟨unwritten, fun found _ => ?_, fun cause =>
    runs_rollback.mpr (closed cause _)⟩
  cases found with
  | none => exact runs_rollback.mpr (returns _ _ _ Idle.closed ends)
  | some order =>
      refine runs_commit.mpr ⟨Plain.commit ?_, ?_, closed _ _⟩
      · simp [Plain, Saw, SettlesRefund]
      · refine runs_invokeRefundChannel returns Idle.closed (ends.append (by simp [Entry.Settles]))
          ⟨known.append _, now, ?_⟩
        simp [Saw, RefundCase.booking]

theorem runs_proceedWithInsert (returns : Returns callback) (ends : Done log)
    (known : CaseKnown log c) :
    Runs payContract slot log (proceedWithInsert cfg c callback) := by
  have closed : ∀ cause reply,
      Runs payContract .closed (log ++ [.failed cause]) (callback reply) :=
    fun cause reply => returns _ _ _ Idle.closed (Done.failed log cause)
  have dropped : ∀ (record : List PayEntry) reply,
      Runs payContract (.active record) log (.rollback (callback reply)) :=
    fun record reply => runs_rollback.mpr (returns _ _ _ Idle.closed ends)
  refine runs_start.mpr ⟨?_, closed _ _⟩
  refine runs_sql_txn.mpr ⟨trivial, fun locked _ => ?_, fun cause =>
    runs_rollback.mpr (closed cause _)⟩
  match locked with
  | none => exact dropped _ _
  | some payment =>
      refine runs_sql_txn.mpr ⟨fun _ => ⟨⟨c.paymentNo, payment, rfl⟩, _, _, _, known⟩,
        fun sumText _ => ?_, fun cause => runs_rollback.mpr (closed cause _)⟩
      dsimp only
      split
      · exact dropped _ _
      · rename_i refundedFen parsed
        split
        · exact dropped _ _
        · rename_i fits
          exact runs_insertRefundRow returns ends known parsed (Int.not_lt.mp fits)

/-! ## The checks -/

/-- A read on a pooled connection, with what was known before. -/
theorem runs_checked {st : Stmt} {k : Option st.Res → PayProg} (ends : Done log)
    (known : CaseKnown log c) (promise : Promise log none st) (other : st.table ≠ some .refunds)
    (ran : ∀ res log', Done log' → CaseKnown log' c → Runs payContract slot log' (k (some res)))
    (failed : ∀ log', Done log' → Runs payContract slot log' (k none)) :
    Runs payContract slot log (.sql .db st k) :=
  runs_pooled ends promise other (fun res _ ends => ran res _ ends (known.append _))
    fun _ ends => failed _ ends

theorem runs_proceedWithInProgressCheck (returns : Returns callback) (idle : Idle slot)
    (ends : Done log) (known : CaseKnown log c) :
    Runs payContract slot log (proceedWithInProgressCheck cfg c callback) := by
  refine runs_checked ends known trivial (by simp [Stmt.table]) (fun count log' ends known => ?_)
    fun log' ends => returns _ _ _ idle ends
  dsimp only
  split
  · exact returns _ _ _ idle ends
  · exact runs_proceedWithInsert returns ends known

theorem runs_proceedWithAmountCheck (returns : Returns callback) (idle : Idle slot)
    (ends : Done log) (known : CaseKnown log c) :
    Runs payContract slot log (proceedWithAmountCheck cfg c callback) := by
  refine runs_checked ends known trivial (by simp [Stmt.table]) (fun found log' ends known => ?_)
    fun log' ends => returns _ _ _ idle ends
  cases found with
  | some row => exact returns _ _ _ idle ends
  | none => exact runs_proceedWithInProgressCheck returns idle ends known

theorem refundAmounts_ok {amount orderAmount : Bytes} {refundFen totalFen : Nat}
    (accepted : refundAmounts amount orderAmount = .ok (refundFen, totalFen)) :
    PayUtils.parseAmountToFen orderAmount = some totalFen ∧
      PayUtils.parseAmountToFen amount = some refundFen ∧ 0 < refundFen ∧
      refundFen ≤ totalFen := by
  unfold refundAmounts at accepted
  split at accepted
  · rename_i parsedRefund parsedTotal refundEq totalEq
    split at accepted
    · cases accepted
    · rename_i fits
      simp only [Except.ok.injEq, Prod.mk.injEq] at accepted
      obtain ⟨rfl, rfl⟩ := accepted
      exact ⟨totalEq, refundEq, by omega, by omega⟩
  · cases accepted

end Create

section Request

variable {request : CreateRefundRequest} {idempotencyKey uuid : Bytes} {token : Drawn}
  {callback : Reply → PayProg}

theorem runs_proceedOrderFlow {refundNo paymentNo : Bytes} (returns : Returns callback)
    (idle : Idle slot) (ends : Done log)
    (owner : Owner log (.createRefund request idempotencyKey token)) :
    Runs payContract slot log (proceedOrderFlow cfg request refundNo paymentNo callback) := by
  refine runs_pooled ends Spares.nil (by simp [Stmt.table]) (fun found _ ends => ?_)
    fun cause ends => returns _ _ _ idle ends
  cases found with
  | none => exact returns _ _ _ idle ends
  | some order =>
      dsimp only
      split
      · split
        · exact returns _ _ _ idle ends
        · rename_i refundFen totalFen accepted
          obtain ⟨total, worth, positive, fits⟩ := refundAmounts_ok accepted
          refine runs_proceedWithAmountCheck returns idle ends ⟨⟨request, idempotencyKey, token,
            owner.append _, rfl, rfl⟩, ⟨order, Saw.last, total⟩, worth, positive, fits⟩
      · exact returns _ _ _ idle ends

theorem runs_proceedWithPayment {paymentNo : Bytes} (returns : Returns callback)
    (idle : Idle slot) (ends : Done log)
    (owner : Owner log (.createRefund request idempotencyKey token)) :
    Runs payContract slot log (proceedWithPayment cfg request uuid paymentNo callback) := by
  refine runs_pooled ends trivial (by simp [Stmt.table]) (fun found _ ends => ?_)
    fun cause ends => returns _ _ _ idle ends
  cases found with
  | none => exact returns _ _ _ idle ends
  | some payment =>
      dsimp only
      split
      · exact runs_proceedOrderFlow returns idle ends (owner.append _)
      · exact returns _ _ _ idle ends

theorem runs_attemptsFinder {orderNo : Bytes} {statuses : List PaymentStatus}
    {thenEmpty : PayProg} {proceedWith : Bytes → PayProg} (returns : Returns callback)
    (idle : Idle slot) (ends : Done log)
    (owner : Owner log (.createRefund request idempotencyKey token))
    (empty : ∀ log', Done log' → Owner log' (.createRefund request idempotencyKey token) →
      Runs payContract slot log' thenEmpty)
    (proceeds : ∀ paymentNo log', Done log' →
      Owner log' (.createRefund request idempotencyKey token) →
      Runs payContract slot log' (proceedWith paymentNo)) :
    Runs payContract slot log
      (attemptsFinder orderNo statuses thenEmpty callback proceedWith) := by
  refine runs_pooled ends rfl (by simp [Stmt.table]) (fun found _ ends => ?_)
    fun cause ends => returns _ _ _ idle ends
  cases found with
  | none => exact empty _ ends (owner.append _)
  | some payment => exact proceeds _ _ ends (owner.append _)

theorem runs_proceedRefund (returns : Returns callback) (idle : Idle slot) (ends : Done log)
    (owner : Owner log (.createRefund request idempotencyKey token)) :
    Runs payContract slot log (proceedRefund cfg request uuid callback) := by
  unfold proceedRefund
  split
  · exact returns _ _ _ idle ends
  · dsimp only
    split
    · refine runs_attemptsFinder returns idle ends owner (fun log' ends owner => ?_)
        fun paymentNo log' ends owner => runs_proceedWithPayment returns idle ends owner
      exact runs_attemptsFinder returns idle ends owner
        (fun log' ends owner => returns _ _ _ idle ends)
        fun paymentNo log' ends owner => runs_proceedWithPayment returns idle ends owner
    · exact runs_proceedWithPayment returns idle ends owner

theorem returns_wrappedRefundCallback {requestHash : Bytes} :
    Returns (wrappedRefundCallback idempotencyKey requestHash) := by
  intro reply slot log idle ends
  unfold wrappedRefundCallback
  split
  · exact IdempotencyService.runs_storeThenAnswer idle ends
  · exact runs_answer idle ends _ _

theorem returns_proceedCallback {requestHash : Bytes} :
    Returns (proceedCallback idempotencyKey requestHash) := by
  intro reply slot log idle ends
  unfold proceedCallback
  split
  · exact IdempotencyService.runs_clearReservation ends fun _ _ ends =>
      returns_wrappedRefundCallback _ _ _ idle ends
  · exact returns_wrappedRefundCallback _ _ _ idle ends

theorem runs_createRefund (idle : Idle slot) (ends : Done log)
    (owner : Owner log (.createRefund request idempotencyKey token)) :
    Runs payContract slot log (createRefund cfg request idempotencyKey uuid) := by
  dsimp only [createRefund]
  split
  · exact runs_proceedRefund returns_wrappedRefundCallback idle ends owner
  · refine IdempotencyService.runs_checkDatabase idle ends fun result log' longer ends => ?_
    obtain ⟨more, rfl⟩ := longer
    cases result with
    | Started => exact runs_proceedRefund returns_proceedCallback idle ends (owner.append more)
    | _ => exact returns_wrappedRefundCallback _ _ _ idle ends

end Request

end RefundService

/-! ## Transactions that settle a refund -/

theorem verified_doomed {queue : List PayProg} (bystander : Bystander log)
    (doomed : ∀ program ∈ queue, program.Doomed) : Verified payContract ⟨.closed, log, queue⟩ :=
  Verified.of_doomed doomed fun outs => (bystander.append (outs.map Entry.replied)).finish

/-- A transaction that is given up while statements are still submitted. -/
theorem verifiedAll_given_up {program : PayProg} {queue : List PayProg}
    (reports : program.Reports) (bystander : Bystander log)
    (doomed : ∀ program ∈ queue, program.Doomed) (gone : slot.rolledBack = .closed) :
    VerifiedAll payContract (Proc.advance ⟨slot, log, queue⟩ (.rollback program)) := by
  refine verifiedAll_rollback.mpr ?_
  rw [gone]
  exact verifiedAll_reports reports fun outs => verified_doomed (bystander.append _) doomed

/-- What the rest of a transaction that settled a refund relies on. -/
structure Settling (log record : List PayEntry) (refund : RefundRow) (byKey : Bool) : Prop where
  bystander : Bystander log
  found : Saw log (.findRefund refund.refundNo) (some refund)
  settles : SettlesRefund record refund.refundNo byKey
  unpaid : ∀ paymentNo tradeNo, ¬ Saw record (.casPayment paymentNo .SUCCESS tradeNo) true

/-- The refund is in the ledger, or the sync found a row in its place. -/
def EntryMade (record : List PayEntry) (refund : RefundRow) (byKey : Bool) : Prop :=
  (∃ row res, Saw record (.insertLedger row) res ∧ row.entryType = .REFUND) ∨
    (byKey = true ∧
      ∃ row, Saw record (.findLedger refund.orderNo .REFUND refund.paymentNo) (some row))

section Settlement

variable {refund : RefundRow} {byKey : Bool}

theorem SettlesRefund.append {refundNo : Bytes} (settles : SettlesRefund record refundNo byKey)
    (more : List PayEntry) : SettlesRefund (record ++ more) refundNo byKey := by
  cases byKey with
  | false =>
      obtain ⟨refundId, now, rest, rfl⟩ := settles
      exact ⟨refundId, now, rest ++ more, rfl⟩
  | true =>
      obtain ⟨refundId, res, rest, rfl⟩ := settles
      exact ⟨refundId, res, rest ++ more, rfl⟩

/-- A transaction settles one refund. -/
theorem SettlesRefund.unique {refundNo refundNo' : Bytes} {byKey' : Bool}
    (settles : SettlesRefund record refundNo byKey)
    (settles' : SettlesRefund record refundNo' byKey') : refundNo' = refundNo ∧ byKey' = byKey := by
  cases byKey <;> cases byKey' <;> obtain ⟨_, _, _, rfl⟩ := settles <;>
    obtain ⟨_, _, _, eq⟩ := settles' <;> cases eq <;> exact ⟨rfl, rfl⟩

theorem Settling.snoc (settling : Settling log record refund byKey) {st : Stmt} {res : st.Res}
    (other : st.table ≠ some .payments) : Settling log (record ++ [.ran st res]) refund byKey where
  bystander := settling.bystander
  found := settling.found
  settles := settling.settles.append _
  unpaid paymentNo tradeNo saw := by
    rcases List.mem_append.mp saw with old | new
    · exact settling.unpaid paymentNo tradeNo old
    · have same := List.mem_singleton.mp new
      injection same with sameStmt _
      exact other (by rw [← sameStmt]; rfl)

theorem Settling.append (settling : Settling log record refund byKey) (more : List PayEntry) :
    Settling (log ++ more) record refund byKey where
  bystander := settling.bystander.append more
  found := settling.found.append more
  settles := settling.settles
  unpaid := settling.unpaid

theorem EntryMade.append (made : EntryMade record refund byKey) (more : List PayEntry) :
    EntryMade (record ++ more) refund byKey :=
  made.imp (fun ⟨row, res, saw, isRefund⟩ => ⟨row, res, saw.append more, isRefund⟩)
    fun ⟨isKey, row, saw⟩ => ⟨isKey, row, saw.append more⟩

theorem Settling.commit (settling : Settling log record refund byKey)
    (made : EntryMade record refund byKey) (decided : CoverDecided log record refund.orderNo) :
    CommitPromise log record := by
  refine ⟨fun paymentNo tradeNo saw => absurd saw (settling.unpaid paymentNo tradeNo),
    fun refundNo byKey' settles => ?_, fun refundNo byKey' settles => ?_,
    fun paymentNo tradeNo saw => absurd saw (settling.unpaid paymentNo tradeNo)⟩
  · obtain ⟨rfl, rfl⟩ := settling.settles.unique settles
    exact made.imp_right fun ⟨isKey, row, saw⟩ => ⟨isKey, refund, row, settling.found, saw⟩
  · obtain ⟨rfl, rfl⟩ := settling.settles.unique settles
    exact ⟨refund, settling.found, decided⟩

/-- The transaction ends when its program does. -/
theorem Settling.verified_commit (settling : Settling log record refund byKey)
    (made : EntryMade record refund byKey) (decided : CoverDecided log record refund.orderNo) :
    Verified payContract ⟨.active record, log, []⟩ :=
  Verified.nil_active.mpr ⟨settling.commit made decided,
    verified_end Idle.closed (settling.bystander.append record).done⟩

end Settlement

/-! ## The refund sync -/

theorem RefundEntryPromise.snoc {row : LedgerRow} (promise : RefundEntryPromise log record row)
    {st : Stmt} {res : st.Res} (other : st.table ≠ some .ledger) :
    RefundEntryPromise log (record ++ [.ran st res]) row := by
  obtain ⟨unbooked, refundNo, refund, byKey, found, isOrder, isPayment, isAmount, settles, listed⟩ :=
    promise
  refine ⟨fun old oldRes saw => ?_, refundNo, refund, byKey, found, isOrder, isPayment, isAmount,
    settles.append _, fun isKey => (listed isKey).append _⟩
  rcases List.mem_append.mp saw with before | now
  · exact unbooked old oldRes before
  · have same := List.mem_singleton.mp now
    injection same with sameStmt _
    exact absurd (by rw [← sameStmt]; rfl) other

theorem RefundEntryPromise.append {row : LedgerRow} (promise : RefundEntryPromise log record row)
    (more : List PayEntry) : RefundEntryPromise (log ++ more) record row := by
  obtain ⟨unbooked, refundNo, refund, byKey, found, rest⟩ := promise
  exact ⟨unbooked, refundNo, refund, byKey, found.append more, rest⟩

/-- The lookup of the ledger row may be answered either way. -/
theorem RefundEntryPromise.of_lookup {refund : RefundRow} (settling : Settling log record refund true)
    (unbooked : NoRefundEntry record) (userId : Int) :
    RefundEntryPromise log
      (record ++ [.ran (.findLedger refund.orderNo .REFUND refund.paymentNo) none])
      ⟨userId, refund.orderNo, refund.paymentNo, .REFUND, refund.amount⟩ := by
  refine ⟨fun row res saw => unbooked row res ?_, refund.refundNo, refund, true, settling.found,
    rfl, rfl, rfl, settling.settles.append _, fun _ => Saw.last⟩
  simpa [Saw] using saw

namespace RefundService

section Sync

variable {refund : RefundRow} {order : OrderRow} {callback : Option RefundStatus → PayProg}
  {queue rest : List PayProg}

/-- The ledger row the sync has submitted, unless its lookup found one. -/
def Pending (log record : List PayEntry) (refund : RefundRow) (queue : List PayProg) : Prop :=
  (queue = [] ∧ EntryMade record refund true) ∨
    ∃ row : LedgerRow, queue = [.sql .txn (.insertLedger row) fun _ => .done] ∧
      row.entryType = .REFUND ∧ RefundEntryPromise log record row

theorem Pending.snoc (pending : Pending log record refund queue) {st : Stmt} {res : st.Res}
    (other : st.table ≠ some .ledger) : Pending log (record ++ [.ran st res]) refund queue :=
  pending.imp (fun ⟨empty, made⟩ => ⟨empty, made.append _⟩)
    fun ⟨row, one, isRefund, promise⟩ => ⟨row, one, isRefund, promise.snoc other⟩

theorem Pending.append (pending : Pending log record refund queue) (more : List PayEntry) :
    Pending (log ++ more) record refund queue :=
  pending.imp_right fun ⟨row, one, isRefund, promise⟩ => ⟨row, one, isRefund, promise.append more⟩

theorem Pending.doomed (pending : Pending log record refund queue) :
    ∀ program ∈ queue, program.Doomed := by
  rcases pending with ⟨rfl, _⟩ | ⟨row, rfl, _, _⟩
  · simp
  · intro program member
    rw [List.mem_singleton.mp member]
    exact ⟨_, _, rfl, trivial⟩

/-- What was submitted for the ledger runs before the rest. -/
theorem verified_pending (settling : Settling log record refund true)
    (pending : Pending log record refund queue) (doomed : ∀ program ∈ rest, program.Doomed)
    (next : ∀ more, Settling log (record ++ more) refund true →
      EntryMade (record ++ more) refund true →
      Verified payContract ⟨.active (record ++ more), log, rest⟩) :
    Verified payContract ⟨.active record, log, queue ++ rest⟩ := by
  rcases pending with ⟨rfl, made⟩ | ⟨row, rfl, isRefund, promise⟩
  · simpa using next [] (by simpa using settling) (by simpa using made)
  · refine Verified.sql_txn.mpr ⟨⟨record, rfl, ?_⟩, fun res _ => verifiedAll_done.mpr ?_,
      fun cause => verifiedAll_done.mpr (verified_doomed (settling.bystander.append _) doomed)⟩
    · rw [isRefund]
      exact promise
    · exact next _ (settling.snoc (by simp [Stmt.table])) (Or.inl ⟨row, (), Saw.last, isRefund⟩)

/-- The sum and the covering of the order, with the ledger row submitted in
between. -/
theorem verified_sumSynced (reports : ∀ a, (callback a).Reports)
    (settling : Settling log record refund true) (pending : Pending log record refund queue)
    (ordered : Saw record (.findOrder refund.orderNo) (some order)) (paid : order.status = .PAID) :
    Verified payContract
      ⟨.active record, log, settleSyncedOrder order refund.orderNo callback :: queue⟩ := by
  rw [settleSyncedOrder, if_pos paid]
  refine Verified.sql_txn.mpr ⟨nofun, fun sumText _ => ?_, fun cause =>
    verifiedAll_given_up (reports _) (settling.bystander.append _) pending.doomed rfl⟩
  have settled : Settling log
      (record ++ [.ran (.sumRefunds refund.orderNo [.REFUND_SUCCESS]) sumText]) refund true :=
    settling.snoc (by simp [Stmt.table])
  have submitted : Pending log
      (record ++ [.ran (.sumRefunds refund.orderNo [.REFUND_SUCCESS]) sumText]) refund queue :=
    pending.snoc (by simp [Stmt.table])
  dsimp only
  split
  · rename_i covers
    refine verifiedAll_sql.mpr (verified_pending settled submitted ?_ fun more settled made => ?_)
    · intro program member
      rw [List.mem_singleton.mp member]
      exact ⟨_, _, rfl, by simpa [Prog.Fades] using Prog.Reports.fades (reports none)⟩
    · have cover : CoverPromise (log ++ (record ++
          [.ran (.sumRefunds refund.orderNo [.REFUND_SUCCESS]) sumText] ++ more)) refund.orderNo :=
        ⟨order, sumText, by simp [Saw, show _ ∈ record from ordered], by simp [Saw], covers⟩
      refine Verified.sql_txn.mpr ⟨cover, fun res _ => ?_, fun cause =>
        verifiedAll_given_up (reports _) (settled.bystander.append _) (by simp) rfl⟩
      refine verifiedAll_reports (reports _) fun outs => ?_
      exact ((settled.snoc (by simp [Stmt.table])).append _).verified_commit (made.append _)
        (Or.inl ⟨res, Saw.last⟩)
  · rename_i uncovered
    refine verifiedAll_reports (reports _) fun outs => ?_
    rw [← List.append_nil queue]
    refine verified_pending (settled.append _) (submitted.append _) (by simp)
      fun more settled made => settled.verified_commit made ?_
    exact Or.inr (Or.inl ⟨order, sumText, by simp [Saw, show _ ∈ record from ordered],
      by simp [Saw], by simpa using uncovered⟩)

theorem verifiedAll_bookSyncedRefund (reports : ∀ a, (callback a).Reports)
    (settling : Settling log record refund true) (unbooked : NoRefundEntry record)
    (ordered : Saw record (.findOrder refund.orderNo) (some order)) :
    VerifiedAll payContract (Proc.advance ⟨.active record, log, []⟩
      (.both
        (insertLedgerEntry ⟨order.userId, refund.orderNo, refund.paymentNo, .REFUND, refund.amount⟩)
        (settleSyncedOrder order refund.orderNo callback))) := by
  have looked : ∀ {log : List PayEntry} (found : Option LedgerRow),
      Settling log record refund true → Settling log
        (record ++ [.ran (.findLedger refund.orderNo .REFUND refund.paymentNo) found]) refund true :=
    fun found settling => settling.snoc (by simp [Stmt.table])
  refine verifiedAll_both_sql.mpr ?_
  by_cases paid : order.status = .PAID
  · have summed : ∀ queue, Proc.advance ⟨.active record, log, queue⟩
        (settleSyncedOrder order refund.orderNo callback) =
        (⟨.active record, log, queue ++ [settleSyncedOrder order refund.orderNo callback]⟩, []) := by
      intro queue
      rw [settleSyncedOrder, if_pos paid]
      rfl
    rw [summed]
    refine ⟨Verified.sql_txn.mpr ⟨trivial, fun found _ => ?_, fun cause => ?_⟩, by simp⟩
    · cases found with
      | some old =>
          exact verifiedAll_done.mpr (verified_sumSynced reports (looked (some old) settling)
            (Or.inl ⟨rfl, Or.inr ⟨rfl, old, Saw.last⟩⟩) (ordered.append _) paid)
      | none =>
          exact verifiedAll_sql.mpr (verified_sumSynced reports (looked none settling)
            (Or.inr ⟨_, rfl, rfl, .of_lookup settling unbooked order.userId⟩) (ordered.append _) paid)
    · refine verifiedAll_done.mpr (verified_doomed (settling.bystander.append _) ?_)
      intro program member
      rw [List.mem_singleton.mp member, settleSyncedOrder, if_pos paid]
      exact ⟨_, _, rfl, (reports none).fades⟩
  · rw [settleSyncedOrder, if_neg paid]
    refine verifiedAll_reports (reports _) fun outs => ?_
    have settling := settling.append (outs.map Entry.replied)
    have decided : ∀ {record' : List PayEntry}, record ⊆ record' →
        CoverDecided (log ++ outs.map Entry.replied) record' refund.orderNo :=
      fun grows => Or.inr (Or.inr ⟨order, ordered.mono grows, paid⟩)
    refine verified_insertLedgerEntry settling.bystander (fun old => ?_) ⟨_, rfl, ?_⟩ ?_
    · exact (looked (some old) settling).commit (Or.inr ⟨rfl, old, Saw.last⟩) (decided (by simp))
    · exact .of_lookup settling unbooked order.userId
    · exact ((looked none settling).snoc (by simp [Stmt.table])).commit
        (Or.inl ⟨_, (), Saw.last, rfl⟩) (decided (by simp))

/-- The transaction of a sync that settles the refund, from the payload write
on. -/
theorem verified_syncSettled {refundId : Bytes} {res : Option Nat}
    (reports : ∀ a, (callback a).Reports) (bystander : Bystander log)
    (found : Saw log (.findRefund refund.refundNo) (some refund)) :
    Verified payContract ⟨.active [.ran (.updateRefund refund.refundNo .REFUND_SUCCESS refundId) res],
      log, [writeSyncedPayload refund.refundNo .REFUND_SUCCESS callback,
        bookSyncedRefund refund callback]⟩ := by
  have settling : Settling log
      [.ran (.updateRefund refund.refundNo .REFUND_SUCCESS refundId) res] refund true :=
    ⟨bystander, found, ⟨refundId, res, [], rfl⟩, by simp [Saw]⟩
  have moot : ∀ program ∈ [bookSyncedRefund refund callback], program.Doomed := by
    intro program member
    rw [List.mem_singleton.mp member]
    exact ⟨_, _, rfl, (reports none).fades⟩
  refine Verified.sql_txn.mpr ⟨trivial, fun stamp _ => verifiedAll_done.mpr ?_, fun cause =>
    verifiedAll_given_up (reports _) (bystander.append _) moot rfl⟩
  refine Verified.sql_txn.mpr ⟨(Spares.nil.snoc (by simp [Stmt.table])).snoc (by simp [Stmt.table]), fun ordered possible => ?_, fun cause =>
    verifiedAll_given_up (reports _) (bystander.append _) (by simp) rfl⟩
  cases ordered with
  | none => exact verifiedAll_given_up (reports _) bystander (by simp) rfl
  | some order =>
      refine verifiedAll_bookSyncedRefund reports
        ((settling.snoc (by simp [Stmt.table])).snoc (by simp [Stmt.table])) ?_ Saw.last
      simp [NoRefundEntry, Saw]

theorem runs_syncRefundTransaction {refundStatus : RefundStatus} {refundId : Bytes}
    (reports : ∀ a, (callback a).Reports) (bystander : Bystander log)
    (found : Saw log (.findRefund refund.refundNo) (some refund))
    (message : refundStatus = .REFUND_SUCCESS → RefundMessage log refund) :
    Runs payContract slot log
      (syncRefundTransaction refund refundStatus refundId callback) := by
  refine runs_start.mpr ⟨?_, runs_end Idle.closed (bystander.append _).done⟩
  refine runs_sql_txn.mpr ⟨⟨rfl, rfl, refund, rfl, found, message⟩, fun res _ => ?_, fun cause =>
    runs_rollback_reports (reports _) (bystander.append _)⟩
  by_cases settles : refundStatus = .REFUND_SUCCESS
  · subst settles
    exact verifiedAll_both_sql.mpr
      (verifiedAll_sql.mpr (verified_syncSettled reports bystander found))
  · dsimp only
    rw [if_neg settles]
    refine verifiedAll_both_sql.mpr (verifiedAll_done.mpr (Verified.sql_txn.mpr ⟨trivial,
      fun stamp _ => ?_, fun cause =>
        verifiedAll_given_up (reports _) (bystander.append _) (by simp) rfl⟩))
    dsimp only
    rw [if_neg settles]
    refine runs_reports_active (reports _) bystander (Plain.commit ⟨by simp [Saw], ?_⟩)
    intro refundNo byKey
    cases byKey with
    | false => simp [SettlesRefund]
    | true =>
        rintro ⟨_, _, _, eq⟩
        simp only [List.nil_append, List.cons_append, List.cons.injEq] at eq
        injection eq.1 with sameStmt _
        injection sameStmt with _ isStatus _
        exact settles isStatus

theorem runs_syncRefundStatusFromWechat {refundNo : Bytes} {a : ChannelAnswer}
    (reports : ∀ a, (callback a).Reports) (bystander : Bystander log) (idle : Idle slot)
    (heard : .answered (.queryRefund (ascii "wechat") refundNo) a ∈ log) (through : a.error = []) :
    Runs payContract slot log (syncRefundStatusFromWechat refundNo a.result callback) := by
  refine runs_orThrow idle bystander.done fun wechatStatus isStatus => ?_
  split
  · exact runs_reports (reports _) idle bystander
  · refine runs_orThrow idle bystander.done fun refundId _ => ?_
    split
    · exact runs_reports (reports _) idle bystander
    · rename_i refundStatus mapped
      refine runs_pooled bystander.done trivial (by simp [Stmt.table]) (fun found possible _ => ?_)
        fun cause _ => runs_reports (reports _) idle (bystander.append _)
      cases found with
      | none => exact runs_reports (reports _) idle (bystander.append _)
      | some refund =>
          obtain rfl : refund.refundNo = refundNo := possible refund rfl
          dsimp only
          split
          · exact runs_reports (reports _) idle (bystander.append _)
          · refine runs_syncRefundTransaction reports (bystander.append _) Saw.last fun success => ?_
            exact Or.inr ⟨a, List.mem_append_left _ heard,
              .query through ⟨wechatStatus, isStatus, by rw [mapped, success]⟩⟩

/-! ## queryRefund -/

theorem runs_queryRefund {refundNo : Bytes} (bystander : Bystander log) (idle : Idle slot) :
    Runs payContract slot log (queryRefund cfg refundNo) := by
  refine runs_pooled bystander.done trivial (by simp [Stmt.table]) (fun found _ _ => ?_)
    fun cause _ => runs_answer idle (bystander.append _).done _ _
  cases found with
  | none => exact runs_answer idle (bystander.append _).done _ _
  | some refund =>
      dsimp only
      split
      · refine runs_call.mpr ⟨trivial, fun a => ?_⟩
        split
        · rename_i through
          exact runs_syncRefundStatusFromWechat (fun _ => trivial)
            ((bystander.append _).append _) idle (by simp) (by simpa using through)
        · exact runs_answer idle ((bystander.append _).append _).done _ _
      · exact runs_answer idle (bystander.append _).done _ _

end Sync

end RefundService

end DrogonPay
