import DrogonPay.Laws.Settled
import DrogonPay.Promises.Contract
import DrogonPay.ReadCommitted.Alone

/-!
Contract: what the doors that hear of a payment's or a refund's state do with a
state they do not know.

Owns: `LeavesBooks`, "no run of this program changes an order, a payment or the
ledger"; that three of the doors leave the books on every unknown state; and the
databases on which `syncOrderStatusFromWechat` does.

Does not own: the states the doors know.
-/

namespace DrogonPay

open ReadCommitted

/-- Every order, payment and ledger row is as it was. -/
structure SameBooks (db db' : Db) : Prop where
  orders : db'.orders = db.orders
  payments : db'.payments = db.payments
  ledger : db'.ledger = db.ledger

theorem SameBooks.refl (db : Db) : SameBooks db db := ⟨rfl, rfl, rfl⟩

/-- No run changes the books, however often the program is started, whatever
fails and in whatever order its statements come. -/
def LeavesBooks (program : PayProg) (db : Db) : Prop :=
  ∀ events (s : PaySys), Run (fun _ => program) (fun _ _ => True) (Sys.initial db) events s →
    SameBooks db s.db

/-! ## Doors that issue no statement -/

/-- Nothing may be issued or committed. -/
def silentContract : Contract paySig where
  issue _ _ _ := False
  call _ _ := True
  commit _ _ := False
  finish _ := True

theorem leavesBooks_of_reports {program : PayProg} (reports : program.Reports) (db : Db) :
    LeavesBooks program db := by
  have verified : ∀ request : Request,
      Verified silentContract (Proc.spawn request program) := fun request =>
    Verified.of_runs (verifiedAll_reports reports fun _ => Verified.nil_none.mpr fun _ => trivial)
  intro events s run
  induction run with
  | nil => exact SameBooks.refl db
  | snoc run _ stepped inductionHypothesis =>
      rcases run.step_publishes verified stepped with same | ⟨pid, p, entries, publishes, _⟩
      · rw [same]
        exact inductionHypothesis
      · cases publishes with
        | pooled _ issue => exact issue.elim
        | txn _ _ commit => exact commit.elim

theorem reports_orThrow {α : Type} {value : Option α} {next : α → PayProg}
    (continues : ∀ a, value = some a → (next a).Reports) : (orThrow value next).Reports := by
  cases value with
  | none => trivial
  | some a => exact continues a rfl

namespace CallbackService

theorem reports_unknown {cfg : Config} {notification : Notification} {ownerToken : Bytes}
    (unknown : ∀ state ∈ knownTradeStates, notification.plain.stringAt "trade_state" ≠ some state) :
    (handlePaymentCallback cfg notification ownerToken).Reports := by
  unfold handlePaymentCallback
  split
  · trivial
  · refine reports_orThrow fun (appId, mchId) _ => ?_
    dsimp only
    split
    · trivial
    · refine reports_orThrow fun notice read => ?_
      have isState : notification.plain.stringAt "trade_state" = some notice.tradeState := by
        simp only [Option.bind_eq_bind, Option.bind_eq_some_iff, Option.pure_def,
          Option.some.injEq] at read
        obtain ⟨_, _, _, _, state, isState, rfl⟩ := read
        exact isState
      have isUnknown : notice.tradeState ∉ knownTradeStates := fun known =>
        unknown _ known isState
      cases problem : paymentNoticeProblem notice with
      | some text => trivial
      | none =>
          refine absurd problem ?_
          unfold paymentNoticeProblem
          split
          · simp
          · rw [if_pos (by simpa using isUnknown)]
            simp

end CallbackService

namespace RefundService

/-- The refund states WeChat documents. -/
def knownRefundStates : List Bytes := ["SUCCESS", "CLOSED", "ABNORMAL", "PROCESSING"].map ascii

theorem mapRefundStatus_unknown {status : Bytes} (unknown : status ∉ knownRefundStates) :
    PayUtils.mapRefundStatus status = none := by
  simp only [knownRefundStates, List.map_cons, List.map_nil, List.mem_cons, List.not_mem_nil,
    or_false, not_or] at unknown
  obtain ⟨success, closed, abnormal, processing⟩ := unknown
  simp [PayUtils.mapRefundStatus, success, closed, abnormal, processing]

theorem reports_unknown {refundNo : Bytes} {result : Json}
    {callback : Option RefundStatus → PayProg} (reports : ∀ status, (callback status).Reports)
    (unknown : ∀ state ∈ knownRefundStates, result.stringAt "status" ≠ some state) :
    (syncRefundStatusFromWechat refundNo result callback).Reports := by
  refine reports_orThrow fun wechatStatus read => ?_
  dsimp only
  split
  · exact reports none
  · refine reports_orThrow fun refundId _ => ?_
    rw [mapRefundStatus_unknown fun known => unknown _ known read]
    exact reports none

end RefundService

namespace PaymentService

/-- The trade states Alipay documents. -/
def knownTradeStatuses : List Bytes :=
  ["TRADE_SUCCESS", "TRADE_FINISHED", "WAIT_BUYER_PAY", "TRADE_CLOSED"].map ascii

theorem mapAlipayTradeStatus_unknown {status : Bytes} (unknown : status ∉ knownTradeStatuses) :
    mapAlipayTradeStatus status = none := by
  simp only [knownTradeStatuses, List.map_cons, List.map_nil, List.mem_cons, List.not_mem_nil,
    or_false, not_or] at unknown
  obtain ⟨success, finished, waiting, closed⟩ := unknown
  simp [mapAlipayTradeStatus, success, finished, waiting, closed]

theorem reports_unknown_alipay {orderNo : Bytes} {result : Json}
    {callback : Option OrderStatus → PayProg} (reports : ∀ status, (callback status).Reports)
    (unknown : ∀ state ∈ knownTradeStatuses, result.stringAt "trade_status" ≠ some state) :
    (syncOrderStatusFromAlipay orderNo result callback).Reports := by
  refine reports_orThrow fun said read => ?_
  cases said with
  | none => exact reports none
  | some said =>
      refine absurd read ?_
      unfold readAlipayAnswer
      simp only [Option.bind_eq_bind, ne_eq, Option.bind_eq_some_iff, not_exists, not_and]
      intro code _
      split
      · simp
      · intro answered
        simp only [Option.bind_eq_some_iff] at answered
        obtain ⟨status, read, later⟩ := answered
        rw [mapAlipayTradeStatus_unknown fun known => unknown _ known read] at later
        cases later

/-! ## The WeChat sync -/

/-- The trade states WeChat documents. -/
def documentedTradeStates : List Bytes :=
  ["SUCCESS", "REFUND", "NOTPAY", "CLOSED", "REVOKED", "USERPAYING", "PAYERROR"].map ascii

theorem mapTradeState_unknown {state : Bytes} (unknown : state ∉ documentedTradeStates) :
    PayUtils.mapTradeState state = (.FAILED, .FAIL) := by
  simp only [documentedTradeStates, List.map_cons, List.map_nil, List.mem_cons, List.not_mem_nil,
    or_false, not_or] at unknown
  obtain ⟨success, refund, notPay, closed, revoked, userPaying, -⟩ := unknown
  simp [PayUtils.mapTradeState, success, refund, notPay, closed, revoked, userPaying]

/-- An answer with an unknown state is read as a failed payment. -/
theorem readWechatAnswer_unknown {result : Json} {said : SyncAnswer}
    (unknown : ∀ state ∈ documentedTradeStates, result.stringAt "trade_state" ≠ some state)
    (read : readWechatAnswer result = some (some said)) :
    said.orderStatus = .FAILED ∧ said.paymentStatus = .FAIL := by
  unfold readWechatAnswer at read
  simp only [Option.bind_eq_bind, Option.bind_eq_some_iff] at read
  obtain ⟨state, isState, read⟩ := read
  split at read
  · cases read
  · rw [mapTradeState_unknown fun known => unknown _ known isState] at read
    simp only [Option.bind_eq_some_iff, Option.pure_def, Option.some.injEq] at read
    obtain ⟨_, _, _, _, _, _, rfl⟩ := read
    exact ⟨rfl, rfl⟩

section Sync

variable {orderNo : Bytes} {said : SyncAnswer} {callback : Option OrderStatus → PayProg}
  {log record : List PayEntry}

/-- A transaction that changes something was begun on an attempt that is not
refunded, and has found the order, which is not paid if the attempt is. -/
def Reason (orderNo : Bytes) (log record : List PayEntry) : Prop :=
  ∃ payment order, Saw log (.newestAttempt orderNo openStatuses) (some payment) ∧
    Saw record (.findOrder orderNo) (some order) ∧ payment.status ≠ .REFUNDED ∧
    (payment.status = .SUCCESS → order.status ≠ .PAID)

/-- What a sync with an unknown state keeps to: outside its transaction it reads
the attempt, inside it reads the order before it writes it. -/
def syncContract (orderNo : Bytes) : Contract paySig where
  issue _ on st :=
    match on with
    | none => st = .newestAttempt orderNo openStatuses
    | some record => (∀ statuses, st ≠ .newestAttempt orderNo statuses) ∧
        (st = .findOrder orderNo → ∀ w ∈ payStore.pending record, w.table = .payments)
  call _ _ := True
  commit log record := payStore.pending record = [] ∨ Reason orderNo log record
  finish _ := True

theorem verified_closed : Verified (syncContract orderNo) ⟨.closed, log, []⟩ :=
  Verified.nil_closed.mpr fun _ => trivial

theorem runs_reports_closed {program : PayProg} (reports : program.Reports) :
    Runs (syncContract orderNo) .closed log program :=
  verifiedAll_reports reports fun _ => verified_closed

theorem runs_reports_unknown {program : PayProg} (reports : program.Reports)
    (commit : payStore.pending record = [] ∨ Reason orderNo log record) :
    Runs (syncContract orderNo) (.active record) log program := by
  refine verifiedAll_reports reports fun outs => Verified.nil_active.mpr ⟨?_, verified_closed⟩
  rcases commit with empty | ⟨payment, order, saw, rest⟩
  · exact Or.inl empty
  · exact Or.inr ⟨payment, order, List.mem_append_left _ saw, rest⟩

theorem runs_unknownOrder (reports : ∀ status, (callback status).Reports)
    (failed : said.orderStatus = .FAILED) {payment : PaymentRow}
    (saw : Saw log (.newestAttempt orderNo openStatuses) (some payment))
    (current : payment.status ≠ .REFUNDED)
    (writes : ∀ w ∈ payStore.pending record, w.table = .payments)
    (settled : payment.status = .SUCCESS → payStore.pending record = []) :
    Runs (syncContract orderNo) (.active record) log
      (syncWechatOrder orderNo payment.paymentNo said.orderStatus 0 callback) := by
  have dropped : ∀ cause status, Runs (syncContract orderNo) .closed (log ++ [.failed cause])
      (.rollback (callback status)) :=
    fun cause status => runs_rollback.mpr (runs_reports_closed (reports status))
  refine runs_sql_txn.mpr ⟨⟨by rintro _ ⟨⟩, fun _ => writes⟩, fun found _ => ?_,
    fun cause => dropped cause _⟩
  cases found with
  | none => exact runs_rollback.mpr (runs_reports_closed (reports _))
  | some order =>
      have isFailed : orderStatusAfterRefundCoverage said.orderStatus order.amount 0 = .FAILED := by
        simp [orderStatusAfterRefundCoverage, PayUtils.resolveRefundedOrderStatus, failed]
      dsimp only
      rw [isFailed]
      split
      · rename_i paid
        refine runs_reports_unknown (reports _) ?_
        by_cases success : payment.status = .SUCCESS
        · exact Or.inl (by simp [settled success, Stmt.writes])
        · exact Or.inr ⟨payment, order, saw, by simp [Saw], current, fun isSuccess =>
            absurd isSuccess success⟩
      · rename_i unpaid
        refine runs_sql_txn.mpr ⟨⟨by rintro _ ⟨⟩, by rintro ⟨⟩⟩, fun stamp _ => ?_,
          fun cause => dropped cause _⟩
        rw [if_neg (by simp)]
        exact runs_reports_unknown (reports _)
          (Or.inr ⟨payment, order, saw, by simp [Saw], current, fun _ => unpaid⟩)

theorem runs_unknownAttempt (reports : ∀ status, (callback status).Reports)
    (failed : said.orderStatus = .FAILED) :
    Runs (syncContract orderNo) .none log (syncAttempt orderNo said
      (fun payment => syncWechatTransaction orderNo said payment callback) callback) := by
  have quiet : ∀ log status, Runs (syncContract orderNo) .none log (callback status) :=
    fun log status => verifiedAll_reports (reports status) fun _ =>
      Verified.nil_none.mpr fun _ => trivial
  refine runs_sql_db.mpr ⟨rfl, fun found _ => ?_, fun cause => quiet _ _⟩
  cases found with
  | none => exact quiet _ _
  | some payment =>
      have saw : Saw (log ++ [.ran (.newestAttempt orderNo openStatuses) (some payment)])
          (.newestAttempt orderNo openStatuses) (some payment) := by simp [Saw]
      dsimp only
      rw [if_neg (by simp [failed])]
      refine runs_start.mpr ⟨?_, runs_reports_closed trivial⟩
      dsimp only
      rw [if_neg (by simp [failed])]
      unfold syncWechatPayment
      split
      · rename_i success
        exact runs_unknownOrder reports failed saw (by simp [success]) (by simp) fun _ => rfl
      · rename_i notSuccess
        split
        · exact runs_rollback.mpr (runs_reports_closed (reports _))
        · rename_i current
          refine runs_sql_txn.mpr ⟨⟨nofun, nofun⟩, fun matched _ => ?_, fun cause =>
            runs_rollback.mpr (runs_reports_closed (reports _))⟩
          cases matched with
          | false => exact runs_rollback.mpr (runs_reports_closed (reports _))
          | true =>
              refine runs_unknownOrder reports failed saw current ?_ fun isSuccess =>
                absurd isSuccess notSuccess
              simp [Stmt.writes, Stmt.matched, Write.table]

/-! ## What such a sync can find -/

/-- The attempts the sync may take for the newest give it nothing to write: they
are refunded, or the order is not there, or attempt and order are settled. -/
def NothingToFail (db : Db) (orderNo : Bytes) : Prop :=
  ∀ env payment, (db.attempts env orderNo openStatuses).head? = some payment →
    payment.status = .REFUNDED ∨ db.orders.find orderNo = none ∨
      (payment.status = .SUCCESS ∧ ∃ order, db.orders.find orderNo = some order ∧
        order.status = .PAID)

/-- What a process of the sync has read is what the database held at the start. -/
structure Told (db : Db) (orderNo : Bytes) (slot : Slot paySig) (log : List PayEntry) : Prop where
  attempt : ∀ payment, Saw log (.newestAttempt orderNo openStatuses) (some payment) →
    ∃ env, (db.attempts env orderNo openStatuses).head? = some payment
  order : ∀ order, Saw slot.record (.findOrder orderNo) (some order) →
    db.orders.find orderNo = some order
  outside : ∀ res, ¬ Saw slot.record (.newestAttempt orderNo openStatuses) res

theorem Told.calm {db : Db} {slot slot' : Slot paySig} {log log' : List PayEntry}
    (calm : Sys.Calm slot log slot' log') (told : Told db orderNo slot log) :
    Told db orderNo slot' log' := by
  obtain ⟨kept, extra, rfl, quiet⟩ := calm
  have attempt : ∀ payment, Saw (log ++ extra) (.newestAttempt orderNo openStatuses)
      (some payment) → ∃ env, (db.attempts env orderNo openStatuses).head? = some payment := by
    intro payment saw
    rcases List.mem_append.mp saw with old | new
    · exact told.attempt payment old
    · exact (quiet _ new).elim
  rcases kept with rfl | dropped
  · exact ⟨attempt, told.order, told.outside⟩
  · refine ⟨attempt, fun order saw => ?_, fun res saw => ?_⟩
    · rw [dropped] at saw
      cases saw
    · rw [dropped] at saw
      cases saw

theorem orders_applyAll {ws : List Write} (db : Db) (payments : ∀ w ∈ ws, w.table = .payments) :
    (payStore.applyAll db ws).orders = db.orders := by
  induction ws generalizing db with
  | nil => rfl
  | cons w rest inductionHypothesis =>
      have first : (db.apply w).orders = db.orders := by
        have isPayment := payments w (by simp)
        cases w with
        | insertPayment | setPayment => rfl
        | _ => cases isPayment
      exact (inductionHypothesis (db.apply w) fun w member => payments w (by simp [member])).trans
        first

/-- Along every run the books stay, and the processes have read them as they
are. -/
theorem books_stay {program : PayProg} {db : Db} {events : List PayEvent} {s : PaySys}
    (verified : ∀ request : Request, Verified (syncContract orderNo) (Proc.spawn request program))
    (nothing : NothingToFail db orderNo)
    (run : Run (fun _ => program) (fun _ _ => True) (Sys.initial db) events s) :
    SameBooks db s.db ∧ ∀ p ∈ s.procs, Told db orderNo p.slot p.log := by
  induction run with
  | nil => exact ⟨SameBooks.refl db, by simp [Sys.initial]⟩
  | @snoc _ event s _ run _ stepped inductionHypothesis =>
      obtain ⟨same, told⟩ := inductionHypothesis
      have obliged := run.obliged verified
      rcases Sys.step_cases stepped with ⟨request, _, rfl⟩ | ⟨pid, p, slot, log, m, moves, rfl⟩
      · refine ⟨same, fun q member => ?_⟩
        rcases List.mem_append.mp member with old | new
        · exact told q old
        · rw [List.mem_singleton.mp new]
          exact ⟨by simp [Proc.spawn, Saw], by simp [Proc.spawn, Saw], by simp [Proc.spawn, Saw]⟩
      · have before := told p (List.mem_of_getElem? moves.proc)
        have acted : SameBooks db (payStore.applyAll s.db m.commits) ∧ Told db orderNo slot log := by
          have acts := moves.acts
          generalize m.commits = commits at acts
          cases acts with
          | calm calm => exact ⟨same, before.calm calm⟩
          | @onDb st res runs =>
              obtain rfl : st = .newestAttempt orderNo openStatuses := runs.issue obliged
              obtain ⟨env, _, ran⟩ := runs.result
              refine ⟨same, fun payment saw => ?_, before.order, before.outside⟩
              rcases List.mem_append.mp saw with old | new
              · exact before.attempt payment old
              · cases List.mem_singleton.mp new
                refine ⟨env, ?_⟩
                rw [← Option.some.inj ran, Db.attempts, Db.attempts, same.payments]
          | @onTxn record st res runs =>
              have issued := runs.issue obliged
              obtain ⟨env, _, ran⟩ := runs.result
              rw [runs.slot] at before
              refine ⟨same, before.attempt, fun order saw => ?_, fun res' saw => ?_⟩
              · rcases List.mem_append.mp saw with old | new
                · exact before.order order old
                · cases List.mem_singleton.mp new
                  have view := orders_applyAll s.db (issued.2 rfl)
                  rw [← same.orders, ← view]
                  exact Option.some.inj ran
              · rcases List.mem_append.mp saw with old | new
                · exact before.outside res' old
                · cases List.mem_singleton.mp new
                  exact issued.1 _ rfl
          | @commit record commits =>
              rw [commits.slot] at before
              refine ⟨?_, fun payment saw => ?_, by rintro _ ⟨⟩, by rintro _ ⟨⟩⟩
              · rcases commits.commit obliged with empty | ⟨payment, order, sawPayment, sawOrder,
                  current, unpaid⟩
                · rw [empty]
                  exact same
                · obtain ⟨env, first⟩ := before.attempt payment sawPayment
                  have isOrder := before.order order sawOrder
                  rcases nothing env payment first with refunded | missing | ⟨success, found, isFound,
                    paid⟩
                  · exact absurd refunded current
                  · rw [isOrder] at missing
                    cases missing
                  · obtain rfl : order = found := Option.some.inj (isOrder.symm.trans isFound)
                    exact absurd paid (unpaid success)
              · rcases List.mem_append.mp saw with old | new
                · exact before.attempt payment old
                · exact absurd new (before.outside _)
        refine ⟨acted.1, Sys.forall_after (P := Told db orderNo) moves (fun calm => Told.calm calm)
          acted.2 fun other r _ found => told r (List.mem_of_getElem? found)⟩

/-! ## A run that fails an attempt -/

/-- An update of the order changes it, if only its stamp. -/
theorem not_sameBooks_of_order {db : Db} {order : OrderRow} {status : OrderStatus} {ws : List Write}
    (isOrder : db.orders.find orderNo = some order)
    (payments : ∀ w ∈ ws, w.table = .payments) :
    ¬ SameBooks db (payStore.applyAll (payStore.applyAll db ws)
      [.setOrder orderNo status (order.updatedAt + 1)]) := by
  intro same
  have read := orderColumn.read_applyAll (payStore.applyAll db ws)
    [.setOrder orderNo status (order.updatedAt + 1)] orderNo
  have before : orderColumn.read (payStore.applyAll db ws) orderNo = some order := by
    rw [← isOrder, ← orders_applyAll db payments]
    rfl
  have now : orderColumn.read (payStore.applyAll (payStore.applyAll db ws)
      [.setOrder orderNo status (order.updatedAt + 1)]) orderNo = some order := by
    rw [← isOrder, ← same.orders]
    rfl
  rw [now, before] at read
  have stamped : some order = some (order.advance status (order.updatedAt + 1)) := by
    simpa [Column.actAll, orderColumn, actOnOrder] using read
  have later := congrArg OrderRow.updatedAt (Option.some.inj stamped)
  simp [OrderRow.advance] at later

theorem not_sameBooks_of_payment {db : Db} {payment : PaymentRow} (tradeNo : Option Bytes)
    (isPayment : db.payments.find payment.paymentNo = some payment)
    (unfailed : payment.status ≠ .FAIL) :
    ¬ SameBooks db (payStore.applyAll db [.setPayment payment.paymentNo .FAIL tradeNo]) := by
  intro same
  have read := paymentColumn.read_applyAll db [.setPayment payment.paymentNo .FAIL tradeNo]
    payment.paymentNo
  have before : paymentColumn.read db payment.paymentNo = some payment := isPayment
  have now : paymentColumn.read (payStore.applyAll db
      [.setPayment payment.paymentNo .FAIL tradeNo]) payment.paymentNo = some payment := by
    rw [← isPayment, ← same.payments]
    rfl
  rw [now, before] at read
  have moved : some payment = some (payment.advance .FAIL tradeNo) := by
    simpa [Column.actAll, paymentColumn, actOnPayment] using read
  have failed := congrArg PaymentRow.status (Option.some.inj moved)
  exact unfailed failed

variable {entry : Request → PayProg} {db : Db}

theorem can_syncWechatOrder (reports : ∀ status, (callback status).Reports)
    (failed : said.orderStatus = .FAILED) {paymentNo : Bytes} {order : OrderRow} (env : Env)
    (isOrder : db.orders.find orderNo = some order)
    (writes : ∀ w ∈ payStore.pending record, w.table = .payments)
    (changes : order.status = .PAID → ¬ SameBooks db (payStore.applyAll db (payStore.pending record))) :
    Can (S := payStore) entry (fun db' => ¬ SameBooks db db') db (.active record) log
      (syncWechatOrder orderNo paymentNo said.orderStatus 0 callback) := by
  have view : (payStore.applyAll db (payStore.pending record)).orders = db.orders :=
    orders_applyAll db writes
  have found : Stmt.run (payStore.applyAll db (payStore.pending record)) env (.findOrder orderNo) =
      some (some order) := by
    rw [← isOrder, ← view]
    rfl
  have isFailed : orderStatusAfterRefundCoverage said.orderStatus order.amount 0 = .FAILED := by
    simp [orderStatusAfterRefundCoverage, PayUtils.resolveRefundedOrderStatus, failed]
  refine can_sql_txn env found ?_
  dsimp only
  rw [isFailed]
  split
  · rename_i paid
    refine can_reports env (reports _) ?_
    rw [Store.pending_append]
    simpa [Stmt.writes] using changes paid
  · have isNumber : order.orderNo = orderNo := Db.orderNo_of_find isOrder
    have updated : Stmt.run (payStore.applyAll db (payStore.pending
        (record ++ [.ran (.findOrder orderNo) (some order)]))) ⟨order.updatedAt + 1, env.tie⟩
        (.updateOrder order.orderNo .FAILED) = some (some (order.updatedAt + 1)) := by
      have sameView : (payStore.applyAll db (payStore.pending
          (record ++ [.ran (.findOrder orderNo) (some order)]))).orders.find order.orderNo =
          some order := by
        rw [isNumber, ← isOrder, ← view, Store.pending_append]
        simp [Stmt.writes]
      simp only [Stmt.run, sameView]
      rfl
    refine can_sql_txn ⟨order.updatedAt + 1, env.tie⟩ updated ?_
    rw [if_neg (by simp)]
    refine can_reports env (reports _) ?_
    have written : payStore.pending (record ++ [.ran (.findOrder orderNo) (some order)] ++
        [.ran (.updateOrder order.orderNo .FAILED) (some (order.updatedAt + 1))]) =
        payStore.pending record ++ [.setOrder orderNo .FAILED (order.updatedAt + 1)] := by
      simp [Stmt.writes, Stmt.stamped, isNumber]
    rw [written, Store.applyAll_append]
    exact not_sameBooks_of_order isOrder writes

theorem can_fail_attempt (reports : ∀ status, (callback status).Reports)
    (failed : said.orderStatus = .FAILED ∧ said.paymentStatus = .FAIL) {env : Env}
    {payment : PaymentRow} {order : OrderRow}
    (first : (db.attempts env orderNo openStatuses).head? = some payment)
    (current : payment.status ≠ .REFUNDED) (isOrder : db.orders.find orderNo = some order)
    (unsettled : ¬ (payment.status = .SUCCESS ∧ order.status = .PAID)) :
    Can (S := payStore) entry (fun db' => ¬ SameBooks db db') db .none log
      (syncAttempt orderNo said
        (fun payment => syncWechatTransaction orderNo said payment callback) callback) := by
  have ran : Stmt.run db env (.newestAttempt orderNo openStatuses) = some (some payment) :=
    congrArg some first
  refine can_sql_db env Idle.none ran ?_
  dsimp only
  rw [if_neg (by simp [failed.1])]
  refine can_start env ?_
  dsimp only
  rw [if_neg (by simp [failed.1])]
  unfold syncWechatPayment
  split
  · rename_i success
    exact can_syncWechatOrder reports failed.1 env isOrder (by simp) fun paid =>
      absurd ⟨success, paid⟩ unsettled
  · rename_i notSuccess
    have isPayment := Db.find_of_attempts first
    have isOpen : [PaymentStatus.INIT, .PROCESSING].contains payment.status = true := by
      have among := (Stmt.run_possible ran payment rfl).2
      revert among current notSuccess
      cases payment.status <;> decide
    have matched : Stmt.run db env (.casPayment payment.paymentNo said.paymentStatus
        (some said.transactionId)) = some true := by
      simp only [Stmt.run, isPayment, Option.any_some, isOpen]
    refine can_sql_txn env matched ?_
    refine can_syncWechatOrder reports failed.1 env isOrder ?_ fun _ => ?_
    · simp [Stmt.writes, Stmt.matched, Write.table]
    · have unfailed : payment.status ≠ .FAIL := by
        intro isFail
        rw [isFail] at isOpen
        cases isOpen
      have changed := not_sameBooks_of_payment (some said.transactionId) isPayment unfailed
      simpa [Stmt.writes, Stmt.matched, failed.2] using changed

/-- The sync of an answer that says something unknown leaves the books exactly on
the databases that give it nothing to write. -/
theorem leavesBooks_wechat_iff (reports : ∀ status, (callback status).Reports) {result : Json}
    (unknown : ∀ state ∈ documentedTradeStates, result.stringAt "trade_state" ≠ some state) :
    LeavesBooks (syncOrderStatusFromWechat orderNo result callback) db ↔
      ((∃ said, readWechatAnswer result = some (some said)) → NothingToFail db orderNo) := by
  cases read : readWechatAnswer result with
  | none =>
      have ends : (syncOrderStatusFromWechat orderNo result callback).Reports :=
        reports_orThrow fun said isRead => by
          rw [read] at isRead
          cases isRead
      exact iff_of_true (leavesBooks_of_reports ends db) (by simp)
  | some answered =>
      cases answered with
      | none =>
          have ends : (syncOrderStatusFromWechat orderNo result callback).Reports :=
            reports_orThrow fun said isRead => by
              obtain rfl : none = said := Option.some.inj (read.symm.trans isRead)
              exact reports none
          exact iff_of_true (leavesBooks_of_reports ends db) (by simp)
      | some said =>
          have failed := readWechatAnswer_unknown unknown read
          have isSync : syncOrderStatusFromWechat orderNo result callback =
              syncAttempt orderNo said
                (fun payment => syncWechatTransaction orderNo said payment callback) callback := by
            simp only [syncOrderStatusFromWechat, read, orThrow]
          rw [isSync]
          simp only [Option.some.injEq, exists_eq', true_implies]
          constructor
          · intro leaves env payment first
            by_contra unsettled
            simp only [not_or, not_and, not_exists] at unsettled
            obtain ⟨current, exists', paid⟩ := unsettled
            obtain ⟨order, isOrder⟩ := Option.ne_none_iff_exists'.mp exists'
            let sync := syncAttempt orderNo said
              (fun payment => syncWechatTransaction orderNo said payment callback) callback
            have can : Can (S := payStore) (fun _ => sync) (fun db' => ¬ SameBooks db db') db .none
                [.spawned (.queryOrder orderNo)] sync :=
              can_fail_attempt reports failed first current isOrder
                fun ⟨success, isPaid⟩ => paid success order isOrder isPaid
            obtain ⟨events, s, run, changed⟩ := can.run env
            exact changed (leaves events s run)
          · intro nothing events s run
            have verified : ∀ request : Request, Verified (syncContract orderNo)
                (Proc.spawn request (syncAttempt orderNo said
                  (fun payment => syncWechatTransaction orderNo said payment callback) callback)) :=
              fun request => Verified.of_runs (runs_unknownAttempt reports failed.1)
            exact (books_stay verified nothing run).1

end Sync
end PaymentService

/-! ## All doors -/

/-- On a state they do not know, the payment notification, the refund query and
the Alipay query leave the books. -/
structure OtherDoorsLeave (cfg : Config) (db : Db) : Prop where
  notification : ∀ notification ownerToken,
    (∀ state ∈ CallbackService.knownTradeStates,
      notification.plain.stringAt "trade_state" ≠ some state) →
    LeavesBooks (CallbackService.handlePaymentCallback cfg notification ownerToken) db
  refund : ∀ refundNo result (callback : Option RefundStatus → PayProg),
    (∀ status, (callback status).Reports) →
    (∀ state ∈ RefundService.knownRefundStates, result.stringAt "status" ≠ some state) →
    LeavesBooks (RefundService.syncRefundStatusFromWechat refundNo result callback) db
  alipay : ∀ orderNo result (callback : Option OrderStatus → PayProg),
    (∀ status, (callback status).Reports) →
    (∀ state ∈ PaymentService.knownTradeStatuses, result.stringAt "trade_status" ≠ some state) →
    LeavesBooks (PaymentService.syncOrderStatusFromAlipay orderNo result callback) db

/-- Every door but one leaves the books on a state it does not know. The WeChat
sync does so exactly if its answer cannot be read or names no state, or the
database gives it nothing to write. -/
theorem unknown_state_iff (cfg : Config) (db : Db) {orderNo : Bytes} {result : Json}
    {callback : Option OrderStatus → PayProg} (reports : ∀ status, (callback status).Reports)
    (unknown : ∀ state ∈ PaymentService.documentedTradeStates,
      result.stringAt "trade_state" ≠ some state) :
    OtherDoorsLeave cfg db ∧
      (LeavesBooks (PaymentService.syncOrderStatusFromWechat orderNo result callback) db ↔
        ((∃ said, PaymentService.readWechatAnswer result = some (some said)) →
          PaymentService.NothingToFail db orderNo)) where
  left :=
    { notification := fun _ _ unknown =>
        leavesBooks_of_reports (CallbackService.reports_unknown unknown) db
      refund := fun _ _ _ reports unknown =>
        leavesBooks_of_reports (RefundService.reports_unknown reports unknown) db
      alipay := fun _ _ _ reports unknown =>
        leavesBooks_of_reports (PaymentService.reports_unknown_alipay reports unknown) db }
  right := PaymentService.leavesBooks_wechat_iff reports unknown

/-- The callback of `queryOrder`. -/
theorem reports_answerSynced (order : OrderRow) (result : Json)
    (numberKey shownAs responseKey : String) (status : Option OrderStatus) :
    (PaymentService.answerSynced order result numberKey shownAs responseKey status).Reports :=
  reports_orThrow fun _ _ => trivial

/-- An order of ten yuan on WeChat that is being paid, with its attempt. -/
def beingPaid : OrderRow :=
  ⟨⟨ascii "o", 7, ascii "10.00", ascii "CNY", ascii "wechat", [], none⟩, .PAYING, 1, 2⟩

def beingPaidDb : Db :=
  payStore.applyAll Db.empty [.insertOrder beingPaid,
    .insertPayment ⟨⟨ascii "#p", ascii "o", ascii "10.00"⟩, .PROCESSING, [], 1⟩]

/-- An answer with a state WeChat does not document. -/
def unheardOf : Json :=
  Json.object [("out_trade_no", Json.text "o"), ("trade_state", Json.text "ACCEPT")]

theorem unheardOf_unknown : ∀ state ∈ PaymentService.documentedTradeStates,
    unheardOf.stringAt "trade_state" ≠ some state := by
  decide

theorem unknown_state_iff_queried :
    OtherDoorsLeave shop beingPaidDb ∧
      (LeavesBooks (PaymentService.syncOrderStatusFromWechat (ascii "o") unheardOf
          (PaymentService.answerSynced beingPaid unheardOf "refund_id" "channel_refund_no"
            "wechat_response")) beingPaidDb ↔
        ((∃ said, PaymentService.readWechatAnswer unheardOf = some (some said)) →
          PaymentService.NothingToFail beingPaidDb (ascii "o"))) :=
  unknown_state_iff shop beingPaidDb (reports_answerSynced _ _ _ _ _) unheardOf_unknown

/-- Evaluating the events of one program gives a run of it. -/
theorem evaluated_run (program : PayProg) (db : Db) (events : List PayEvent) (P : PaySys → Bool)
    (evaluates : ((Sys.initial db : PaySys).runAll (fun _ => program) (fun _ _ => true) events).any
      P = true) :
    ∃ s : PaySys, Run (fun _ => program) (fun _ _ => True) (Sys.initial db) events s ∧
      P s = true := by
  obtain ⟨s, run, holds⟩ := Run.exists_of_runAll evaluates
  exact ⟨s, run.mono fun _ _ _ => trivial, holds⟩

/-- The sync of such an answer fails the order and its attempt. -/
theorem unknown_state_fails_attempt :
    (∀ state ∈ PaymentService.documentedTradeStates,
      unheardOf.stringAt "trade_state" ≠ some state) ∧
    ∃ s : PaySys, Run (fun _ => PaymentService.syncOrderStatusFromWechat (ascii "o") unheardOf
        fun _ => .done) (fun _ _ => True) (Sys.initial beingPaidDb)
        (.spawn (.queryOrder (ascii "o")) :: steps 0 6 5) s ∧
      orderIs s.db "o" .FAILED ∧ paymentIs s.db "#p" .FAIL ∧ ¬ SameBooks beingPaidDb s.db := by
  refine ⟨unheardOf_unknown, ?_⟩
  obtain ⟨s, run, holds⟩ := evaluated_run (PaymentService.syncOrderStatusFromWechat (ascii "o")
      unheardOf fun _ => .done) beingPaidDb (.spawn (.queryOrder (ascii "o")) :: steps 0 6 5)
    (fun s => orderIs s.db "o" .FAILED && paymentIs s.db "#p" .FAIL) (by decide +kernel)
  simp only [Bool.and_eq_true] at holds
  refine ⟨s, run, holds.1, holds.2, fun same => ?_⟩
  have was : orderIs beingPaidDb "o" .PAYING = true := by decide +kernel
  obtain ⟨now, found, failed⟩ := orderIs_iff.mp holds.1
  obtain ⟨row, isRow, paying⟩ := orderIs_iff.mp was
  rw [same.orders] at found
  obtain rfl : row = now := Option.some.inj (isRow.symm.trans found)
  rw [failed] at paying
  cases paying

end DrogonPay
