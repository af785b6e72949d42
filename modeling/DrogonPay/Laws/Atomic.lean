import DrogonPay.Promises.Delivery
import DrogonPay.Laws.Settled

/-!
Contract: a WeChat delivery settles as a whole or not at all.

Owns:
- `Untouched` and `PaymentSettled`/`RefundSettled`, the two sides of the
  alternative, over the committed tables before and after a step;
- `settlement_atomic`: every step of a delivery, in every run, is on one of them;
- a run in which the settled refunds cover an order that is not PAID any more,
  and so is left as it is.

Does not own: the order in which the statements of a settlement run; that is
`deliveryContract`.
-/

namespace DrogonPay

open ReadCommitted

/-- The snapshot a reservation was finalized with. -/
def Db.snapshot (db : Db) (key : Bytes) : Option Json :=
  (db.idempotency.find key).bind (·.responseSnapshot)

/-! ## Statements on the reservations -/

/-- Reserving a key and dropping a reservation show no snapshot. -/
theorem ReservationAfter.keeps_snapshot {key : Bytes} {st : Stmt} {res : st.Res}
    {old new : Option IdempotencyRow} (after : ReservationAfter key st res old new)
    (kind : (∃ target requestHash ownerToken ttl, st = .reserve target requestHash ownerToken ttl) ∨
      ∃ target, st = .dropReservation target) :
    new.bind (·.responseSnapshot) = old.bind (·.responseSnapshot) := by
  cases after with
  | same _ => rfl
  | reserved => rfl
  | dropped unfinished => simp [unfinished]
  | _ => simp at kind

theorem writes_eq_nil {st : Stmt} (res : st.Res) (reads : st.table = none) : st.writes res = [] := by
  refine List.eq_nil_iff_forall_not_mem.mpr fun w member => ?_
  have written := Stmt.writes_table member
  rw [reads] at written
  cases written

/-- Statements on the reservations alone leave the other tables. -/
theorem reservations_alone (db : Db) {ws : List Write} (alone : ∀ w ∈ ws, w.table = .idempotency) :
    let after := payStore.applyAll db ws
    after.orders = db.orders ∧ after.payments = db.payments ∧ after.refunds = db.refunds ∧
      after.ledger = db.ledger ∧ after.callbacks = db.callbacks := by
  induction ws generalizing db with
  | nil => exact ⟨rfl, rfl, rfl, rfl, rfl⟩
  | cons w ws inductionHypothesis =>
      obtain ⟨orders, payments, refunds, ledger, callbacks⟩ :=
        inductionHypothesis (db.apply w) fun w' member => alone w' (by simp [member])
      have isReservation := alone w (by simp)
      cases w with
      | insertIdempotency | setSnapshot | deleteIdempotency =>
          exact ⟨orders, payments, refunds, ledger, callbacks⟩
      | _ => cases isReservation

namespace CallbackService

/-! ## All or nothing -/

/-- Nothing of a settlement, up to one audit row. -/
structure Untouched (before after : Db) : Prop where
  orders : after.orders = before.orders
  payments : after.payments = before.payments
  refunds : after.refunds = before.refunds
  ledger : after.ledger = before.ledger
  snapshots : ∀ key, after.snapshot key = before.snapshot key
  callbacks : after.callbacks = before.callbacks ∨
    ∃ paymentNo, after.callbacks = before.callbacks ++ [auditRow paymentNo]

/-- The whole settlement of a payment notification. -/
structure PaymentSettled (notice : PaymentNotice) (delivery : Delivery) (before after : Db)
    (payment : PaymentRow) (order : OrderRow) : Prop where
  attempt : after.payments.find payment.paymentNo = some payment
  ofOrder : payment.orderNo = notice.orderNo
  paid : payment.status = .SUCCESS
  ordered : after.orders.find notice.orderNo = some order
  booked : order.status = .PAID ∨ order.status = .REFUNDED
  ledger : after.ledger = before.ledger ++
    [⟨order.userId, notice.orderNo, payment.paymentNo, .PAYMENT, order.amount⟩]
  callbacks : after.callbacks = before.callbacks ++ [auditRow payment.paymentNo]
  snapshot : after.snapshot delivery.idempotencyKey = some delivery.plain

/-- What a settled refund adds: its ledger row, and what `closed` asks of the
order when the settled refunds that the transaction summed up cover its total. -/
structure RefundBooked (closed : List PayEntry → OrderRow → Prop) (record : List PayEntry)
    (before after : Db) (refund : RefundRow) (order : OrderRow) : Prop where
  ordered : after.orders.find refund.orderNo = some order
  ledger : after.ledger = before.ledger ++
    [⟨order.userId, refund.orderNo, refund.paymentNo, .REFUND, refund.amount⟩]
  covered : ∃ sumText, Saw record (.sumRefunds refund.orderNo [.REFUND_SUCCESS]) sumText ∧
    (PayUtils.refundsCoverOrderAmount (PayUtils.fenOf sumText) (PayUtils.fenOf order.amount) →
      closed record order)

/-- The whole settlement of a refund notification. -/
structure RefundSettled (closed : List PayEntry → OrderRow → Prop) (record : List PayEntry)
    (notice : RefundNotice) (delivery : Delivery) (before after : Db) (refund : RefundRow) :
    Prop where
  row : after.refunds.find notice.refundNo = some refund
  mapped : PayUtils.mapRefundStatus notice.refundStatusRaw = some refund.status
  booked : if refund.status = .REFUND_SUCCESS
    then ∃ order, RefundBooked closed record before after refund order
    else after.ledger = before.ledger ∧ after.orders = before.orders
  callbacks : after.callbacks = before.callbacks ++ [auditRow refund.paymentNo]
  snapshot : after.snapshot delivery.idempotencyKey = some delivery.plain

/-- The order is REFUNDED. -/
def Closed (_ : List PayEntry) (order : OrderRow) : Prop := order.status = .REFUNDED

/-- The order is REFUNDED, unless the update, which is guarded on PAID, found it
in another status. -/
def ClosedIfPaid (record : List PayEntry) (order : OrderRow) : Prop :=
  order.status = .REFUNDED ∨ Saw record (.coverOrder order.orderNo) none

/-- What a step of process `p` may do to the committed tables. -/
structure SettlesWhole (closed : List PayEntry → OrderRow → Prop) (p : PayProc)
    (before after : Db) : Prop where
  payment : ∀ notification ownerToken,
    Owner p.log (.paymentNotification notification ownerToken) → Pays notification →
    Untouched before after ∨ ∃ delivery notice payment order,
      Delivers (.paymentNotification notification ownerToken) delivery ∧
      PaymentNotice.of notification.plain = some notice ∧
      PaymentSettled notice delivery before after payment order
  refund : ∀ notification ownerToken,
    Owner p.log (.refundNotification notification ownerToken) →
    Untouched before after ∨ ∃ delivery notice refund,
      Delivers (.refundNotification notification ownerToken) delivery ∧
      RefundNotice.of notification.plain = some notice ∧
      RefundSettled closed p.slot.record notice delivery before after refund

/-- The step settles as a whole or not at all. -/
def Atomic (closed : List PayEntry → OrderRow → Prop) (s : PaySys) (event : PayEvent)
    (s' : PaySys) : Prop :=
  ∀ pid p, event.mover = some pid → s.procs[pid]? = some p → SettlesWhole closed p s.db s'.db

/-! ## Statements on a pooled connection -/

theorem Untouched.refl (db : Db) : Untouched db db :=
  ⟨rfl, rfl, rfl, rfl, fun _ => rfl, Or.inl rfl⟩

/-- What a delivery runs on a pooled connection settles nothing. -/
theorem untouched_pooled {db : Db} {env : Env} {st : Stmt} {res : st.Res} {log : List PayEntry}
    (ran : st.run db env = some res) (promise : DeliveryPromise log none st)
    (settling : ∀ request, Owner log request → ¬ Unpaid request) :
    Untouched db (payStore.applyAll db (st.writes res)) := by
  have reserves : st.table = some .idempotency →
      ((∃ target requestHash ownerToken ttl, st = .reserve target requestHash ownerToken ttl) ∨
        ∃ target, st = .dropReservation target) →
      Untouched db (payStore.applyAll db (st.writes res)) := by
    intro isReservation kind
    obtain ⟨orders, payments, refunds, ledger, callbacks⟩ :=
      reservations_alone db fun w (member : w ∈ st.writes res) => by
        simpa [isReservation] using (Stmt.writes_table member).symm
    exact ⟨orders, payments, refunds, ledger,
      fun key => (reservation_after ran key).keeps_snapshot kind, Or.inl callbacks⟩
  have reads : st.table = none → Untouched db (payStore.applyAll db (st.writes res)) := by
    intro isRead
    rw [writes_eq_nil res isRead]
    exact Untouched.refl db
  cases st with
  | reserve target requestHash ownerToken ttl =>
      exact reserves rfl (Or.inl ⟨target, requestHash, ownerToken, ttl, rfl⟩)
  | dropReservation target => exact reserves rfl (Or.inr ⟨target, rfl⟩)
  | finalizeReservation target ownerToken snapshot =>
      obtain ⟨request, _, owner, _, _, _, _, _, unpaid⟩ := promise
      exact absurd unpaid (settling request owner)
  | saveSnapshot | clearReservation | purgeIdempotency => exact absurd promise id
  | insertCallback row =>
      rcases promise rfl with isRead | ⟨paymentNo, issued⟩
      · cases isRead
      · cases issued
        exact ⟨rfl, rfl, rfl, rfl, fun _ => rfl, Or.inr ⟨paymentNo, rfl⟩⟩
  | lockAttempt | findRefund => exact reads rfl
  | casPayment =>
      obtain ⟨_, pooled, _⟩ := promise
      cases pooled
  | _ =>
      rcases promise rfl with isRead | ⟨paymentNo, issued⟩
      · exact reads isRead
      · cases issued

/-! ## Commits -/

section Commits

variable {cfg : Config} {ok : PaySys → PayEvent → Prop} {events : List PayEvent} {s : PaySys}
  {p : PayProc}

/-- An update of an order that the transaction has read finds its row. -/
def Stamped (before : List PayEntry) : (st : Stmt) → st.Res → Prop
  | .updateOrder orderNo _, (res : Option Nat) =>
      (∃ order, Saw before (.findOrder orderNo) (some order)) → res.isSome
  | _, _ => True

theorem stamped_of_runs {event : PayEvent} {pid : Nat} {record : List PayEntry} {st : Stmt}
    {res : st.Res} (run : PayRun cfg ok events s) (runs : s.RunsOnTxn event pid p record st res) :
    Stamped record st res := by
  cases st with
  | updateOrder orderNo status =>
      rintro ⟨order, saw⟩
      obtain ⟨env, _, result⟩ := runs.result
      have known : .ran (.findOrder orderNo) (some order) ∈ p.known := by
        rw [Proc.known, runs.slot]
        exact List.mem_append_right _ saw
      obtain ⟨row, found, _⟩ := order_read run (List.mem_of_getElem? runs.proc) known
      rw [runs.slot] at found
      have answer : stampIf ((s.view record).orders.find orderNo) (fun _ => true) env.now = res :=
        Option.some.inj result
      rw [← answer, show (s.view record).orders.find orderNo = some row from found]
      rfl
  | _ => trivial

theorem update_stamped (run : PayRun cfg ok events s) (member : p ∈ s.procs)
    {before after : List PayEntry} {orderNo : Bytes} {status : OrderStatus} {stamp : Option Nat}
    (order : OrderRow)
    (split : p.slot.record = before ++ .ran (.updateOrder orderNo status) stamp :: after)
    (read : Saw before (.findOrder orderNo) (some order)) : ∃ now, stamp = some now := by
  have each : Stamped before (.updateOrder orderNo status) stamp := by
    obtain ⟨_, _, known⟩ := Run.witnessed (W := fun _ => Stamped)
      (fun run _ _ runs => stamped_of_runs run runs) run p member
    exact known before _ _ after split
  exact Option.isSome_iff_exists.mp (each ⟨order, read⟩)

/-- The reservation a transaction has finalized stays with its holder. -/
def Finalized (record : List PayEntry) (key : Bytes) (row : Option IdempotencyRow) : Prop :=
  ∀ before ownerToken snapshot,
    record = before ++ [.ran (.finalizeReservation key ownerToken snapshot) true] →
    ∃ reservation, row = some reservation ∧ reservation.ownerToken = some ownerToken ∧
      reservation.responseSnapshot = some snapshot

theorem finalized (run : PayRun cfg ok events s) (member : p ∈ s.procs) (key : Bytes) :
    Finalized p.slot.record key ((s.view p.slot.record).idempotency.find key) := by
  let Pin (record : List PayEntry) (key : Bytes) (_ row : Option IdempotencyRow) : Prop :=
    Finalized record key row
  have pinned : ∀ p ∈ s.procs, ∀ key, Pin p.slot.record key (idempotencyColumn.read s.db key)
      (idempotencyColumn.read (s.view p.slot.record) key) := by
    refine Run.pinned ?_ ?_ run
    · rintro record key row unlocked before ownerToken snapshot rfl
      refine absurd ?_ unlocked
      simp [Store.needs, Stmt.writes, Stmt.matched, Stmt.grabs, Write.keys, idempotencyColumn]
    · intro s event pid p record st res _ runs key _ before ownerToken snapshot split
      obtain ⟨_, same⟩ := List.append_inj' split rfl
      injection same with sameEntry _
      injection sameEntry with sameStmt sameRes
      subst sameStmt
      cases sameRes
      obtain ⟨env, _, result⟩ := runs.result
      have ran : (Stmt.finalizeReservation key ownerToken snapshot).run (s.view record) env =
          some true := result
      have after := reservation_after ran key
      simp only [idempotencyColumn]
      generalize (s.view record).idempotency.find key = old at after
      generalize (payStore.applyAll (s.view record) (Stmt.writes _ _)).idempotency.find key = new
        at after ⊢
      cases after with
      | same missed => simp [Stmt.hits] at missed
      | finalized owned => exact ⟨_, rfl, owned, rfl⟩
  exact pinned p member key

/-- What a delivery that finalized its reservation commits with it. -/
theorem snapshot_committed (run : PayRun cfg ok events s) (member : p ∈ s.procs)
    {entries : List PayEntry} {delivery : Delivery}
    (record : p.slot.record = entries ++ [.ran (.finalizeReservation delivery.idempotencyKey
      delivery.ownerToken delivery.plain) true]) :
    (s.view p.slot.record).snapshot delivery.idempotencyKey = some delivery.plain := by
  obtain ⟨reservation, found, _, isSnapshot⟩ :=
    finalized run member delivery.idempotencyKey entries _ _ record
  rw [Db.snapshot, found]
  exact isSnapshot

/-- The settlement of a payment is committed as a whole. -/
theorem payment_committed (run : PayRun cfg ok events s) (member : p ∈ s.procs)
    {notification : Notification} {ownerToken : Drawn} {entries : List PayEntry}
    {delivery : Delivery}
    (settlement : Settlement p.log (.paymentNotification notification ownerToken) entries)
    (record : p.slot.record = entries ++ [.ran (.finalizeReservation delivery.idempotencyKey
      delivery.ownerToken delivery.plain) true]) :
    ∃ notice payment order, PaymentNotice.of notification.plain = some notice ∧
      PaymentSettled notice delivery s.db (s.view p.slot.record) payment order := by
  have snapshot := snapshot_committed run member record
  cases settlement with
  | @payment _ _ notice payment order sums orderStatus tradeNo stamp read isAttempt isOrder summed
      paid =>
      have locked : .ran (.lockAttempt notice.orderNo PaymentService.openStatuses)
          (some payment) ∈ p.known := by
        simp [Proc.known, record, noticeReads]
      have ordered : .ran (.findOrder payment.orderNo) (some order) ∈ p.known := by
        simp [Proc.known, record, noticeReads]
      obtain ⟨paymentRow, paymentFound, paymentBooking⟩ := lockedAttempt_read run member locked
      obtain ⟨orderRow, orderFound, orderBooking⟩ := order_read run member ordered
      have split : p.slot.record = (noticeReads notice payment order ++ sums ++
          [.ran (.insertCallback (auditRow payment.paymentNo)) (),
            .ran (.casPayment payment.paymentNo .SUCCESS tradeNo) true]) ++
          .ran (.updateOrder order.orderNo orderStatus) stamp ::
            [.ran (.insertLedger
                ⟨order.userId, payment.orderNo, payment.paymentNo, .PAYMENT, order.amount⟩) (),
              .ran (.finalizeReservation delivery.idempotencyKey delivery.ownerToken
                delivery.plain) true] := by
        rw [record]
        simp
      obtain ⟨now, rfl⟩ := update_stamped run member order split
        (by simp [Saw, noticeReads, isOrder])
      have view : s.view p.slot.record = payStore.applyAll s.db
          [.insertCallback (auditRow payment.paymentNo),
            .setPayment payment.paymentNo .SUCCESS tradeNo,
            .setOrder order.orderNo orderStatus now,
            .insertLedger ⟨order.userId, payment.orderNo, payment.paymentNo, .PAYMENT,
              order.amount⟩,
            .setSnapshot delivery.idempotencyKey delivery.plain] := by
        have unwritten : payStore.pending sums = [] := Summed.unwritten summed
        rw [Sys.view, record]
        simp [noticeReads, unwritten, Stmt.writes, Stmt.matched, Stmt.stamped]
      rw [view] at paymentFound orderFound snapshot ⊢
      have moved : (s.db.payments.find payment.paymentNo).map (.advance .SUCCESS tradeNo) =
          some paymentRow := by
        refine Eq.trans (Eq.symm ?_) paymentFound
        exact (s.db.payments.find_modify payment.paymentNo (.advance .SUCCESS tradeNo)
          (fun _ => rfl) _).trans (if_pos rfl)
      have booked : (s.db.orders.find payment.orderNo).map (.advance orderStatus now) =
          some orderRow := by
        refine Eq.trans (Eq.symm ?_) orderFound
        exact (s.db.orders.find_modify order.orderNo (.advance orderStatus now)
          (fun _ => rfl) _).trans (if_pos isOrder)
      obtain ⟨oldPayment, _, isPayment⟩ := Option.map_eq_some_iff.mp moved
      obtain ⟨oldOrder, _, isOrderRow⟩ := Option.map_eq_some_iff.mp booked
      have samePayment : paymentRow.paymentNo = payment.paymentNo :=
        congrArg PaymentBooking.paymentNo paymentBooking.symm
      refine ⟨notice, paymentRow, orderRow, read, ?_⟩
      rw [isAttempt] at orderFound
      exact {
        attempt := by rw [samePayment]; exact paymentFound
        ofOrder := (congrArg PaymentBooking.orderNo paymentBooking.symm).trans isAttempt
        paid := by rw [← isPayment]; rfl
        ordered := orderFound
        booked := by rw [← isOrderRow]; exact paid
        ledger := by
          rw [samePayment, ← isAttempt, show orderRow.userId = order.userId from
            congrArg OrderBooking.userId orderBooking.symm, show orderRow.amount = order.amount from
            congrArg OrderBooking.amount orderBooking.symm]
          rfl
        callbacks := by rw [samePayment]; rfl
        snapshot := snapshot }

/-- The first write of a refund settlement decides the status of the row. -/
theorem refund_moved {db : Db} {refundNo : Bytes} {status : RefundStatus} {refundId : Option Bytes}
    {now : Nat} {stamp : Option Nat} {ws : List Write} {row : RefundRow}
    (others : ∀ w ∈ ws, w.table ≠ .refunds)
    (found : (payStore.applyAll db (.setRefund refundNo status refundId now ::
      Stmt.stamped stamp (.touchRefund refundNo) ++ ws)).refunds.find refundNo = some row) :
    row.status = status := by
  have reads : (payStore.applyAll db (.setRefund refundNo status refundId now ::
      Stmt.stamped stamp (.touchRefund refundNo) ++ ws)).refunds.find refundNo =
      (payStore.applyAll db (.setRefund refundNo status refundId now ::
        Stmt.stamped stamp (.touchRefund refundNo))).refunds.find refundNo := by
    rw [Store.applyAll_append]
    exact refundColumn.read_applyAll_unlocked fun w member isKey =>
      others w member (refundColumn_locked w refundNo isKey)
  have acts := refundColumn.read_applyAll db (.setRefund refundNo status refundId now ::
    Stmt.stamped stamp (.touchRefund refundNo)) refundNo
  rw [reads] at found
  rw [show refundColumn.read _ refundNo = some row from found] at acts
  cases stamp with
  | none =>
      have moved : some row = (db.refunds.find refundNo).map (.advance status refundId now) := by
        simpa [Column.actAll, refundColumn, actOnRefund, Stmt.stamped] using acts
      obtain ⟨old, _, rfl⟩ := Option.map_eq_some_iff.mp moved.symm
      rfl
  | some stamp =>
      have moved : some row =
          ((db.refunds.find refundNo).map (.advance status refundId now)).map (.touch stamp) := by
        simpa [Column.actAll, refundColumn, actOnRefund, Stmt.stamped] using acts
      obtain ⟨middle, isMiddle, rfl⟩ := Option.map_eq_some_iff.mp moved.symm
      obtain ⟨old, _, rfl⟩ := Option.map_eq_some_iff.mp isMiddle
      rfl

/-- A settled refund is committed with its ledger row and the decision about its
order. -/
theorem refund_committed (run : PayRun cfg ok events s) (member : p ∈ s.procs)
    {notification : Notification} {ownerToken : Drawn} {entries : List PayEntry}
    {delivery : Delivery}
    (settlement : Settlement p.log (.refundNotification notification ownerToken) entries)
    (record : p.slot.record = entries ++ [.ran (.finalizeReservation delivery.idempotencyKey
      delivery.ownerToken delivery.plain) true]) :
    ∃ notice refund, RefundNotice.of notification.plain = some notice ∧
      RefundSettled ClosedIfPaid p.slot.record notice delivery s.db (s.view p.slot.record)
        refund := by
  have snapshot := snapshot_committed run member record
  cases settlement with
  | @refundMoved _ _ notice refund refundStatus refundId now stamp read mapped unsettled isRefund
      found =>
      obtain ⟨row, rowFound, booking⟩ := refund_read run member (List.mem_append_left _ found)
      have view : s.view p.slot.record = payStore.applyAll s.db
          (.setRefund refund.refundNo refundStatus refundId now ::
            Stmt.stamped stamp (.touchRefund refund.refundNo) ++
            [.insertCallback (auditRow refund.paymentNo),
              .setSnapshot delivery.idempotencyKey delivery.plain]) := by
        rw [Sys.view, record]
        simp [Stmt.writes, Stmt.matched, Stmt.stamped]
      have isStatus : row.status = refundStatus :=
        refund_moved (by simp [Write.table]) (view ▸ rowFound)
      have samePayment : row.paymentNo = refund.paymentNo :=
        congrArg RefundBooking.paymentNo booking.symm
      refine ⟨notice, row, read, ?_⟩
      rw [isRefund] at rowFound
      exact {
        row := rowFound
        mapped := by rw [isStatus]; exact mapped
        booked := by
          rw [if_neg (by rw [isStatus]; exact unsettled), view]
          cases stamp <;> exact ⟨rfl, rfl⟩
        callbacks := by
          rw [samePayment, view]
          cases stamp <;> rfl
        snapshot := snapshot }
  | @refund _ _ notice refund order refundId now stamp sumText settledRefundFen covers read mapped
      isRefund found ordered parsed cover =>
      obtain ⟨row, rowFound, booking⟩ := refund_read run member (List.mem_append_left _ found)
      obtain ⟨orderRow, orderFound, orderBooking⟩ :=
        order_read run member (List.mem_append_left _ ordered)
      -- the guarded update of the order, if it ran at all
      obtain ⟨coverStamp, coverWrites⟩ : ∃ coverStamp : Option Nat, payStore.pending covers =
          Stmt.stamped coverStamp (.setOrder refund.orderNo .REFUNDED) := by
        split at cover
        · obtain ⟨res, rfl⟩ := cover
          exact ⟨res, by simp [Stmt.writes]⟩
        · exact ⟨none, by simp [cover, Stmt.stamped]⟩
      have view : s.view p.slot.record = payStore.applyAll s.db
          (.setRefund refund.refundNo .REFUND_SUCCESS refundId now ::
            Stmt.stamped stamp (.touchRefund refund.refundNo) ++
            ([.insertLedger ⟨order.userId, refund.orderNo, refund.paymentNo, .REFUND,
                refund.amount⟩, .insertCallback (auditRow refund.paymentNo)] ++
              Stmt.stamped coverStamp (.setOrder refund.orderNo .REFUNDED) ++
              [.setSnapshot delivery.idempotencyKey delivery.plain])) := by
        rw [Sys.view, record, ← coverWrites]
        simp [Stmt.writes, Stmt.matched, Stmt.stamped]
      have isStatus : row.status = .REFUND_SUCCESS := by
        refine refund_moved ?_ (view ▸ rowFound)
        cases coverStamp <;> simp [Stmt.stamped, Write.table]
      have closed : PayUtils.refundsCoverOrderAmount settledRefundFen
          (PayUtils.fenOf order.amount) = true → ClosedIfPaid p.slot.record orderRow := by
        intro covered
        rw [if_pos covered] at cover
        obtain ⟨res, rfl⟩ := cover
        cases res with
        | none =>
            refine Or.inr ?_
            rw [Db.orderNo_of_find orderFound, record]
            simp [Saw]
        | some coveredAt =>
            left
            have covers : coverStamp = some coveredAt := by
              cases coverStamp with
              | none => simp [Stmt.writes, Stmt.stamped] at coverWrites
              | some other => simpa [Stmt.writes, Stmt.stamped, eq_comm] using coverWrites
            subst covers
            have moved : (s.db.orders.find refund.orderNo).map (.advance .REFUNDED coveredAt) =
                some orderRow := by
              rw [view] at orderFound
              refine Eq.trans (Eq.symm ?_) orderFound
              have reads := (s.db.orders.find_modify refund.orderNo (.advance .REFUNDED coveredAt)
                (fun _ => rfl) refund.orderNo).trans (if_pos rfl)
              cases stamp <;> exact reads
            obtain ⟨old, _, rfl⟩ := Option.map_eq_some_iff.mp moved
            rfl
      have sameOrder : row.orderNo = refund.orderNo :=
        congrArg RefundBooking.orderNo booking.symm
      have samePayment : row.paymentNo = refund.paymentNo :=
        congrArg RefundBooking.paymentNo booking.symm
      have sameAmount : row.amount = refund.amount := congrArg RefundBooking.amount booking.symm
      have sameUser : orderRow.userId = order.userId :=
        congrArg OrderBooking.userId orderBooking.symm
      have sameTotal : orderRow.amount = order.amount :=
        congrArg OrderBooking.amount orderBooking.symm
      refine ⟨notice, row, read, ?_⟩
      rw [isRefund] at rowFound
      exact {
        row := rowFound
        mapped := by rw [isStatus]; exact mapped
        booked := by
          rw [if_pos isStatus]
          refine ⟨orderRow, by rw [sameOrder]; exact orderFound, ?_, sumText, ?_, ?_⟩
          · rw [sameUser, sameOrder, samePayment, sameAmount, view]
            cases stamp <;> cases coverStamp <;> rfl
          · rw [sameOrder, record]
            simp [Saw]
          · rw [sameTotal, PayUtils.fenOf_eq parsed]
            exact closed
        callbacks := by
          rw [samePayment, view]
          cases stamp <;> cases coverStamp <;> rfl
        snapshot := snapshot }

/-- A move of a delivery settles nothing, or commits a settlement it has
finalized. -/
theorem delivery_moves {event : PayEvent} {pid : Nat} {slot : Slot paySig} {log : List PayEntry}
    {m : Move payStore} {request : Request} (moves : s.Moves event pid p slot log m)
    (verified : Verified deliveryContract p) (owner : Owner p.log request)
    (settling : ¬ Unpaid request) :
    Untouched s.db (payStore.applyAll s.db m.commits) ∨ ∃ delivery entries,
      Delivers request delivery ∧ Settlement p.log request entries ∧
      p.slot.record = entries ++ [.ran (.finalizeReservation delivery.idempotencyKey
        delivery.ownerToken delivery.plain) true] ∧
      payStore.applyAll s.db m.commits = s.view p.slot.record := by
  have same : ∀ request', Owner p.log request' → request' = request := by
    intro request' owner'
    have spawned := Option.some.inj (owner'.symm.trans owner)
    cases spawned
    rfl
  have acts := moves.acts
  generalize m.commits = commits at acts
  cases acts with
  | calm _ => exact Or.inl (Untouched.refl s.db)
  | onTxn _ => exact Or.inl (Untouched.refl s.db)
  | onDb runs =>
      obtain ⟨env, _, result⟩ := runs.result
      refine Or.inl (untouched_pooled result (runs.issued verified.obligation) ?_)
      intro request' owner'
      rw [same request' owner']
      exact settling
  | @commit record commits =>
      have isRecord : p.slot.record = record := by rw [commits.slot, Slot.record_active]
      rcases commits.committed verified.obligation with unwritten |
        ⟨request', delivery, entries, owner', delivers, settlement, _, split⟩ |
        ⟨⟨request', owner', unpaid⟩, _⟩
      · rw [unwritten]
        exact Or.inl (Untouched.refl s.db)
      · rw [same request' owner'] at delivers settlement
        exact Or.inr ⟨delivery, entries, delivers, settlement, isRecord.trans split,
          by rw [isRecord]; rfl⟩
      · rw [same request' owner'] at unpaid
        exact absurd unpaid settling

/-- Every step of a delivery settles as a whole or not at all; a covered order is
REFUNDED then, unless the guarded update did not find it PAID. -/
theorem settlement_atomic {event : PayEvent} {s' : PaySys}
    (run : PayRun cfg (fun _ _ => True) events s)
    (stepped : s.step (serve cfg) event = some s') : Atomic ClosedIfPaid s event s' := by
  intro pid p isMover proc
  have member := List.mem_of_getElem? proc
  have verified : ∀ request, Owner p.log request → IsDelivery request →
      Verified deliveryContract p :=
    fun request owner kind => run.verified_of (Q := IsDelivery) (fun _ => delivered_serve cfg) p
      member request owner kind
  obtain ⟨p', slot, log, m, moves, rfl⟩ := Sys.step_moves stepped isMover
  obtain rfl : p' = p := Option.some.inj (moves.proc.symm.trans proc)
  have sees : ∀ request, Owner p'.log request → IsDelivery request → ¬ Unpaid request →
      Untouched s.db (payStore.applyAll s.db m.commits) ∨ ∃ delivery entries,
        Delivers request delivery ∧ Settlement p'.log request entries ∧
        p'.slot.record = entries ++ [.ran (.finalizeReservation delivery.idempotencyKey
          delivery.ownerToken delivery.plain) true] ∧
        payStore.applyAll s.db m.commits = s.view p'.slot.record :=
    fun request owner kind => delivery_moves moves (verified request owner kind) owner
  refine ⟨fun notification ownerToken owner pays => ?_, fun notification ownerToken owner => ?_⟩
  · have paid : ¬ Unpaid (.paymentNotification notification ownerToken) := by
      rintro ⟨_, _, same, unpaid⟩
      cases same
      exact unpaid pays
    rcases sees _ owner (Or.inl ⟨_, _, rfl⟩) paid with untouched |
      ⟨delivery, entries, delivers, settlement, record, committed⟩
    · exact Or.inl untouched
    · obtain ⟨notice, payment, order, read, settled⟩ :=
        payment_committed run member settlement record
      rw [← committed] at settled
      exact Or.inr ⟨delivery, notice, payment, order, delivers, read, settled⟩
  · have refunds : ¬ Unpaid (.refundNotification notification ownerToken) := by
      rintro ⟨_, _, same, _⟩
      cases same
    rcases sees _ owner (Or.inr ⟨_, _, rfl⟩) refunds with untouched |
      ⟨delivery, entries, delivers, settlement, record, committed⟩
    · exact Or.inl untouched
    · obtain ⟨notice, refund, read, settled⟩ := refund_committed run member settlement record
      rw [← committed] at settled
      exact Or.inr ⟨delivery, notice, refund, delivers, read, settled⟩

end Commits

/-! ## Runs of the services -/

/-- The notification of a payment has finalized its reservation. -/
def finalizedOnWechat : List PayEvent :=
  [.spawn (.createPayment tenYuanOnWechat [] (drawn "p") 0)] ++ steps 0 4 1 ++
    [.spawn (.paymentNotification paidNotice (drawn "k1"))] ++ steps 1 10 2

theorem settlement_atomic_paid :
    ∃ s s', PayRun shop (fun _ _ => True) finalizedOnWechat s ∧
      s.step (serve shop) (.exec 1 ⟨2, fun _ => 0⟩) = some s' ∧
      paymentIs s.db "#p" .INIT ∧ paymentIs s'.db "#p" .SUCCESS ∧
      Atomic ClosedIfPaid s (.exec 1 ⟨2, fun _ => 0⟩) s' := by
  obtain ⟨s, run, holds⟩ := replay_run (fun _ _ => true) finalizedOnWechat
    (fun s => paymentIs s.db "#p" .INIT &&
      (s.step (serve shop) (.exec 1 ⟨2, fun _ => 0⟩)).any fun s' => paymentIs s'.db "#p" .SUCCESS)
    (by decide +kernel)
  simp only [Bool.and_eq_true, Option.any_eq_true] at holds
  obtain ⟨before, s', stepped, after⟩ := holds
  have anyRun : PayRun shop (fun _ _ => True) finalizedOnWechat s := run.mono fun _ _ _ => trivial
  exact ⟨s, s', anyRun, stepped, before, after, settlement_atomic anyRun stepped⟩

/-- WeChat refuses the create call of an order that was paid meanwhile. -/
def orderPaid : ChannelAnswer := ⟨.null, ascii "HTTP 400: ORDERPAID"⟩

/-- The payment is notified while its create call is out, ten yuan are accepted
for a refund, the create call is refused, and the refund is notified and
finalized. -/
def refundedAfterRefusal : List PayEvent :=
  finalizedOnWechat ++ steps 1 1 2 ++
    [.spawn (.createRefund (refundOf "r" "10.00") [] (drawn "u"))] ++ steps 2 10 3 ++
    [.answer 2 (refundAnswer "PROCESSING")] ++ steps 2 1 3 ++
    [.answer 0 orderPaid] ++ steps 0 4 4 ++
    [.spawn (.refundNotification (refundedNotice "N2" "r" 1000) (drawn "k2"))] ++ steps 3 12 5

/-- Every sum of the record covers ten yuan. -/
def coversTenYuan (record : List PayEntry) : Bool :=
  record.all fun
    | .ran (.sumRefunds _ _) (sumText : Bytes) =>
        PayUtils.refundsCoverOrderAmount (PayUtils.fenOf sumText) 1000
    | _ => true

theorem covers_of_saw {record : List PayEntry} {orderNo : Bytes} {statuses : List RefundStatus}
    {sumText : Bytes} (covers : coversTenYuan record = true)
    (saw : Saw record (.sumRefunds orderNo statuses) sumText) :
    PayUtils.refundsCoverOrderAmount (PayUtils.fenOf sumText) 1000 = true :=
  List.all_eq_true.mp covers _ saw

/-- The process serves the notification of refund `r`. -/
def noticesRefund (log : List PayEntry) : Bool :=
  match log.head? with
  | some (.spawned (.refundNotification notification _)) =>
      (RefundNotice.of notification.plain).any fun notice => notice.refundNo = ascii "r"
  | _ => false

theorem owner_of_noticesRefund {log : List PayEntry} (notices : noticesRefund log = true) :
    ∃ notification ownerToken notice,
      Owner log (.refundNotification notification ownerToken) ∧
      RefundNotice.of notification.plain = some notice ∧ notice.refundNo = ascii "r" := by
  unfold noticesRefund at notices
  split at notices
  · rename_i notification ownerToken owner
    obtain ⟨notice, read, isRefund⟩ := (Option.any_eq_true _ _).mp notices
    exact ⟨notification, ownerToken, notice, owner, read, by simpa using isRefund⟩
  · cases notices

/-- The refund is settled, and its order of ten yuan is FAILED. -/
def settledUnderFailed (db : Db) : Bool :=
  ((db.refunds.find (ascii "r")).any fun row =>
      row.status = .REFUND_SUCCESS && row.orderNo = ascii "o") &&
    (db.orders.find (ascii "o")).any fun row =>
      row.status = .FAILED && PayUtils.fenOf row.amount = 1000

theorem settlement_not_atomic :
    ¬ ∀ (cfg : Config) (events : List PayEvent) (s s' : PaySys) (event : PayEvent),
      PayRun cfg (fun _ _ => True) events s → s.step (serve cfg) event = some s' →
      Atomic Closed s event s' := by
  intro claim
  obtain ⟨s, run, holds⟩ := replay_run (fun _ _ => true) refundedAfterRefusal
    (fun s => (s.procs[3]?).any (fun p => noticesRefund p.log && coversTenYuan p.slot.record) &&
      (s.step (serve shop) (.exec 3 ⟨5, fun _ => 0⟩)).any fun s' =>
        settledUnderFailed s'.db && s'.db.ledger.length ≠ s.db.ledger.length)
    (by decide +kernel)
  simp only [Bool.and_eq_true, Option.any_eq_true, settledUnderFailed, decide_eq_true_eq] at holds
  obtain ⟨⟨p, proc, notices, covers⟩, s', stepped, ⟨⟨row, rowFound, settled, isOrder⟩,
    orderRow, orderFound, failed, worth⟩, longer⟩ := holds
  obtain ⟨notification, ownerToken, notice, owner, read, isRefund⟩ := owner_of_noticesRefund notices
  have whole := claim shop _ s s' _ (run.mono fun _ _ _ => trivial) stepped 3 p rfl proc
  rcases whole.refund notification ownerToken owner with untouched |
    ⟨delivery, notice', refund, _, read', booked⟩
  · exact longer (by rw [untouched.ledger])
  · obtain rfl : notice' = notice := Option.some.inj (read'.symm.trans read)
    have isRow := booked.row
    rw [isRefund, rowFound] at isRow
    cases isRow
    have whole := booked.booked
    rw [if_pos settled] at whole
    obtain ⟨order, ordered, _, sumText, summed, closes⟩ := whole
    rw [isOrder, orderFound] at ordered
    cases ordered
    have refunded : orderRow.status = .REFUNDED := by
      refine closes ?_
      rw [worth]
      exact covers_of_saw covers summed
    rw [failed] at refunded
    cases refunded

end CallbackService
end DrogonPay
