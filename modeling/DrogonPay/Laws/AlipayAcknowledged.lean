import DrogonPay.Laws.Atomic
import DrogonPay.Laws.OrderMoney
import DrogonPay.Promises.Replies

/-!
Contract: an Alipay success that is acknowledged is committed.

Owns:
- `PaidFor`, "an attempt of the order is SUCCESS and the order PAID or REFUNDED";
- `alipayGuarded`, the condition on the steps: nothing that is settled is taken
  back, and a notification is not the one that books its order;
- `booked_of_success`, and `PaidGrounds`, the five ways to an acknowledgement;
- `alipay_acknowledged`, and a run in which the answer is sent before the commit.

Does not own: who settles an attempt before the notification.
-/

namespace DrogonPay

open ReadCommitted

namespace PaymentService

/-- An attempt of the order is SUCCESS and the order is booked. -/
structure PaidFor (db : Db) (orderNo : Bytes) : Prop where
  attempt : ∃ paymentNo row, db.payments.find paymentNo = some row ∧ row.orderNo = orderNo ∧
    row.status = .SUCCESS
  order : ∃ row, db.orders.find orderNo = some row ∧ row.status.booked

/-- The same, to be evaluated. -/
def paidFor (db : Db) (orderNo : Bytes) : Bool :=
  (db.payments.rows.any fun row => row.orderNo = orderNo && row.status = .SUCCESS) &&
    (db.orders.find orderNo).any fun row => row.status.booked

/-- The trade statuses by which Alipay says that the money came in. -/
def saysPaid (tradeStatus : Bytes) : Bool :=
  tradeStatus = ascii "TRADE_SUCCESS" || tradeStatus = ascii "TRADE_FINISHED"

/-- A notification that says so. -/
def tellsPaid : Request → Bool
  | .alipayNotification _ _ tradeStatus _ => saysPaid tradeStatus
  | _ => false

/-- The step is taken for such a notification. -/
def byNotification (s : PaySys) (event : PayEvent) : Bool :=
  (event.mover.bind (s.procs[·]?)).any fun p => (requestOf p.log).any tellsPaid

/-- Its lookup finds an attempt, the attempt has not failed when it is moved, and an
order is written only over a booked one: whoever settles it comes first. -/
def noticeGuarded (s : PaySys) (event : PayEvent) : Bool :=
  match s.executing event with
  | some (.newestAttempt orderNo statuses, seen) =>
      seen.payments.rows.any fun row => row.orderNo = orderNo && statuses.contains row.status
  | some (.casPayment paymentNo _ _, seen) =>
      (seen.payments.find paymentNo).all fun row => row.status ≠ .FAIL
  | some (.updateOrder orderNo _, _) => isBooked (s.db.orders.find orderNo)
  | _ => true

/-- Booked orders and settled attempts are left so, and the steps of such
notifications are guarded. -/
def alipayGuarded (s : PaySys) (event : PayEvent) : Bool :=
  bookedWriteGuarded (fun _ _ said => said.booked) s event && paymentWriteGuarded s event &&
    (!byNotification s event || noticeGuarded s event)

/-- Whoever acknowledges in this step that an order is paid finds it so. -/
def AcknowledgesPaid (s s' : PaySys) : Prop :=
  ∀ (pid : Nat) (p p' : PayProc), s.procs[pid]? = some p → s'.procs[pid]? = some p' →
    ∀ tradeNo orderNo tradeStatus totalAmount,
      Owner p.log (.alipayNotification tradeNo orderNo tradeStatus totalAmount) →
      saysPaid tradeStatus = true →
      ∀ out, .replied out ∈ p'.log.drop p.log.length → out.acknowledges = true →
      PaidFor s'.db orderNo

theorem paidFor_iff {db : Db} {orderNo : Bytes} :
    paidFor db orderNo = true ↔ PaidFor db orderNo := by
  simp only [paidFor, Bool.and_eq_true, List.any_eq_true, decide_eq_true_eq, Option.any_eq_true]
  constructor
  · rintro ⟨⟨row, member, isOrder, success⟩, order⟩
    exact ⟨⟨row.paymentNo, row, Table.find_eq_some_iff.mpr ⟨member, rfl⟩, isOrder, success⟩, order⟩
  · rintro ⟨⟨paymentNo, row, found, isOrder, success⟩, order⟩
    exact ⟨⟨row, (Table.find_eq_some_iff.mp found).1, isOrder, success⟩, order⟩

/-! ## What is paid for stays so -/

theorem OrderAfter.keeps_booked {st : Stmt} {orderNo : Bytes} {old new : Option OrderRow}
    (after : OrderAfter st orderNo old new)
    (guarded : ∀ status row, st = .updateOrder orderNo status → old = some row →
      row.status.booked → status.booked) : isBooked old → isBooked new := by
  intro booked
  cases after with
  | same => exact booked
  | inserted _ _ => cases booked
  | @moved row status now move =>
      cases move with
      | update => exact guarded status row rfl rfl booked
      | promote unpaid => rcases unpaid with eq | eq <;> simp [isBooked, eq, OrderStatus.booked] at booked
      | cover _ => rfl

theorem orderColumn_keeps_booked {cfg : Config} {ok : PaySys → PayEvent → Prop} :
    orderColumn.Keeps (fun _ _ old new => isBooked old → isBooked new)
      fun s event => alipayGuarded s event = true ∧ Reached cfg ok s := by
  refine ⟨fun _ _ _ => id, fun _ _ _ _ _ first second => second ∘ first, id, ?_, ?_⟩
  · intro s event pid p st res meets runs orderNo
    obtain ⟨env, _, result⟩ := runs.result
    refine OrderAfter.keeps_booked (order_after result orderNo) fun status row issued found booked =>
      ?_
    subst issued
    have guarded := (Bool.and_eq_true_iff.mp (Bool.and_eq_true_iff.mp meets.1).1).1
    exact absurd booked (by simp [bookedWriteGuarded_pooled guarded runs found])
  · intro s event pid p record st res meets runs orderNo
    obtain ⟨env, _, result⟩ := runs.result
    obtain ⟨events, run⟩ := meets.2
    refine OrderAfter.keeps_booked (order_after result orderNo) fun status row issued found booked =>
      ?_
    subst issued
    have guarded := (Bool.and_eq_true_iff.mp (Bool.and_eq_true_iff.mp meets.1).1).1
    obtain ⟨mapped, settledRefundFen, isPaid, _, rfl⟩ :=
      bookedWriteGuarded_update run guarded runs found booked
    exact OrderStatus.booked_iff.mpr (PayUtils.resolveRefundedOrderStatus_paid.mpr
      (OrderStatus.booked_iff.mp isPaid))

/-- An attempt keeps its order, and SUCCESS unless it is written FAIL by primary
key. -/
theorem PaymentAfter.keeps_paid {st : Stmt} {paymentNo : Bytes} {old new : Option PaymentRow}
    (after : PaymentAfter st paymentNo old new)
    (guarded : ∀ row, st = .failPayment paymentNo → old = some row → row.status ≠ .SUCCESS) :
    Kept (fun before now => before.orderNo = now.orderNo ∧
      (before.status = .SUCCESS → now.status = .SUCCESS)) old new := by
  cases after with
  | same => exact Kept.refl (fun _ => ⟨rfl, id⟩) _
  | inserted _ _ => exact Kept.none _
  | @moved row status tradeNo move =>
      refine Kept.some ⟨rfl, fun success => ?_⟩
      cases move with
      | cas unsettled => rcases unsettled with eq | eq <;> simp [eq] at success
      | fail => exact absurd success (guarded row rfl rfl)

theorem paymentColumn_keeps_paid :
    paymentColumn.Keeps
      (fun _ _ => Kept fun before now => before.orderNo = now.orderNo ∧
        (before.status = .SUCCESS → now.status = .SUCCESS))
      fun s event => alipayGuarded s event = true := by
  refine .of_executing (fun _ => Kept.refl fun _ => ⟨rfl, id⟩) ?_ ?_
  · intro paymentNo a b c first second
    exact first.trans second fun keeps keeps' =>
      ⟨keeps.1.trans keeps'.1, fun success => keeps'.2 (keeps.2 success)⟩
  · intro s event st seen env res guarded executes result paymentNo
    refine PaymentAfter.keeps_paid (payment_after result paymentNo) fun row issued found success => ?_
    subst issued
    have unsettled := (Bool.and_eq_true_iff.mp (Bool.and_eq_true_iff.mp guarded).1).2
    simp [paymentWriteGuarded, executes, show seen.payments.find paymentNo = some row from found,
      success, PaymentStatus.settled] at unsettled

section Runs

variable {cfg : Config} {events : List PayEvent} {s s' : PaySys} {event : PayEvent}
  {orderNo : Bytes}

/-- An order that is booked is paid for: the attempt that was settled for it stays
so. -/
theorem paidFor_of_booked
    (run : PayRun cfg (fun s event => alipayGuarded s event = true) events s)
    (booked : isBooked (s.db.orders.find orderNo)) : PaidFor s.db orderNo := by
  obtain ⟨paymentNo, row, db, isPast, found, isOrder, success⟩ :=
    booked_was_settled run orderNo booked
  obtain ⟨order, isThere, isBooked⟩ := (Option.any_eq_true _ _).mp booked
  refine ⟨?_, order, isThere, isBooked⟩
  rcases List.mem_cons.mp isPast with rfl | earlier
  · exact ⟨paymentNo, row, found, isOrder, success⟩
  · obtain ⟨now, foundNow, sameOrder, keeps⟩ :=
      (List.pairwise_cons.mp (run.column_history paymentColumn_keeps_paid paymentNo)).1 db earlier
        row found
    exact ⟨paymentNo, now, foundNow, sameOrder.symm.trans isOrder, keeps success⟩

/-- An order that was paid for in some committed state still is. -/
theorem paidFor_stays (run : PayRun cfg (fun s event => alipayGuarded s event = true) events s)
    {db : Db} (isPast : db ∈ s.history) (paid : PaidFor db orderNo) : PaidFor s.db orderNo := by
  refine paidFor_of_booked run ?_
  obtain ⟨_, order, ordered, books⟩ := paid
  have booked : isBooked (db.orders.find orderNo) := by simp [isBooked, ordered, books]
  rcases List.mem_cons.mp isPast with rfl | earlier
  · exact booked
  · exact (List.pairwise_cons.mp ((Reached.along run).column_history orderColumn_keeps_booked
      orderNo)).1 db earlier booked

/-- A transaction that has booked an order, or found it PAID, sees it booked. -/
theorem booked_in_view (run : PayRun cfg (fun s event => alipayGuarded s event = true) events s)
    {p : PayProc} (member : p ∈ s.procs)
    (booked : (∃ status stamp, status.booked ∧
        Saw p.slot.record (.updateOrder orderNo status) stamp) ∨
      ∃ order, Saw p.slot.record (.findOrder orderNo) (some order) ∧ order.status = .PAID) :
    isBooked ((s.view p.slot.record).orders.find orderNo) := by
  have recalls := ((Reached.along run).recalls (I := fun _ => True) orderColumn_keeps_booked
    (fun _ => ⟨trivial, fun _ _ => trivial⟩) p member).2
  rcases booked with ⟨status, stamp, books, saw⟩ | ⟨order, saw, paid⟩
  · -- the order was read before, so the update found its row
    obtain ⟨before, after, split⟩ := List.append_of_mem saw
    obtain ⟨log, _, issue⟩ := run.issued (verified_serve cfg) p member before _ _ after split
    obtain ⟨_, _, _, order, _, _, ordered, _⟩ := issue.1.told
    obtain ⟨now, rfl⟩ := CallbackService.update_stamped run member order split ordered
    obtain ⟨seen, env, ran, _, _, stays⟩ := recalls _ _ saw
    obtain ⟨row, found, _⟩ := stampIf_eq_some (Option.some.inj ran)
    refine stays orderNo ?_
    rw [orderColumn.read_applyAll]
    show isBooked (actOnOrder (.setOrder orderNo status now) orderNo (seen.orders.find orderNo))
    simp [found, actOnOrder, isBooked, OrderRow.advance, books]
  · obtain ⟨seen, env, ran, _, stays, _⟩ := recalls _ _ saw
    have found : seen.orders.find orderNo = some order := Option.some.inj ran
    exact stays orderNo (by simp [orderColumn, isBooked, found, paid, OrderStatus.booked])

/-- The order of an attempt that is SUCCESS is booked: the transaction that settled
the attempt booked it, or found it PAID. -/
theorem booked_of_success
    (run : PayRun cfg (fun s event => alipayGuarded s event = true) events s) :
    ∀ paymentNo row, s.db.payments.find paymentNo = some row → row.status = .SUCCESS →
      isBooked (s.db.orders.find row.orderNo) := by
  induction run with
  | nil =>
      intro paymentNo row found
      simp [Sys.initial, Db.empty, Table.find, Table.empty] at found
  | @snoc _ event s s' run guarded stepped inductionHypothesis =>
      intro paymentNo row found success
      by_cases already : (paymentColumn.read s.db paymentNo).any fun row => row.status = .SUCCESS
      · obtain ⟨old, wasThere, wasSuccess⟩ := (Option.any_eq_true _ _).mp already
        obtain ⟨now, is, sameOrder, _⟩ :=
          run.column_step paymentColumn_keeps_paid guarded stepped paymentNo old wasThere
        obtain rfl : row = now := Option.some.inj (found.symm.trans is)
        have booked := inductionHypothesis paymentNo old wasThere (of_decide_eq_true wasSuccess)
        exact (Reached.along run).column_step orderColumn_keeps_booked ⟨guarded, _, run⟩ stepped
          row.orderNo (sameOrder ▸ booked)
      · have now : (paymentColumn.read s'.db paymentNo).any fun row => row.status = .SUCCESS := by
          simp [paymentColumn, found, success]
        rcases run.step_publishes (verified_serve cfg) stepped with
          same | ⟨pid, p, entries, publishes, isView⟩
        · rw [same] at now
          exact absurd now already
        · rw [isView] at now found ⊢
          obtain ⟨tradeNo, settled⟩ := settling_of_new now already
          cases publishes with
          | pooled runs issue =>
              injection List.mem_singleton.mp settled with isStmt
              subst isStmt
              obtain ⟨_, isTxn, _⟩ := issue.2.2 rfl
              cases isTxn
          | txn commits issued commit =>
              have member := List.mem_of_getElem? commits.proc
              have isRecord : p.slot.record = entries := by rw [commits.slot, Slot.record_active]
              obtain ⟨payment, seen, rfl, booked⟩ := commit.2.2.2 paymentNo tradeNo settled
              subst isRecord
              obtain ⟨there, foundThere, sameBooking⟩ := seen_in_view run member
                (List.subset_append_left _ _) (List.subset_append_right _ _) seen
              obtain rfl : row = there := Option.some.inj (found.symm.trans foundThere)
              rw [← congrArg PaymentBooking.orderNo sameBooking]
              exact booked_in_view run member booked

/-- No attempt is ever REFUNDED. -/
theorem unreturned_attempts {ok : PaySys → PayEvent → Prop} (run : PayRun cfg ok events s) :
    ∀ paymentNo row, s.db.payments.find paymentNo = some row → row.status ≠ .REFUNDED := by
  have keeps : paymentColumn.Keeps (fun _ _ old new => (∀ row, old = some row →
      row.status ≠ .REFUNDED) → ∀ row, new = some row → row.status ≠ .REFUNDED)
      fun s event => ok s event ∧ s.Obliged payContract := by
    have each : ∀ {st : Stmt} {paymentNo : Bytes} {old new : Option PaymentRow},
        PaymentAfter st paymentNo old new →
        (∀ status tradeNo, st = .casPayment paymentNo status tradeNo → status ≠ .REFUNDED) →
        (∀ row, old = some row → row.status ≠ .REFUNDED) →
        ∀ row, new = some row → row.status ≠ .REFUNDED := by
      intro st paymentNo old new after unreturned before row found
      cases after with
      | same => exact before row found
      | inserted _ _ =>
          cases found
          exact nofun
      | moved move =>
          cases found
          cases move with
          | cas _ => exact unreturned _ _ rfl
          | fail => exact nofun
    refine ⟨fun _ _ _ => id, fun _ _ _ _ _ first second => second ∘ first, id, ?_, ?_⟩
    · intro s event pid p st res meets runs paymentNo
      obtain ⟨env, _, result⟩ := runs.result
      refine each (payment_after result paymentNo) ?_
      rintro status tradeNo rfl
      exact (runs.issue meets.2).1
    · intro s event pid p record st res meets runs paymentNo
      obtain ⟨env, _, result⟩ := runs.result
      refine each (payment_after result paymentNo) ?_
      rintro status tradeNo rfl
      exact (runs.issue meets.2).1
  have obliged := run.with_invariant fun run => run.obliged (verified_serve cfg)
  exact fun paymentNo => (obliged.column_holds keeps
    (by simp [paymentColumn, Db.empty, Table.find, Table.empty])).1 paymentNo

end Runs

/-! ## What is seen before the answer -/

/-- What an acknowledgement goes back to: no attempt was found, or one that is
REFUNDED, or the one found was not moved, or the order was read PAID or written. -/
inductive PaidGrounds (seen : List PayEntry) (orderNo : Bytes) : Prop where
  | missing (saw : Saw seen (.newestAttempt orderNo openStatuses) none)
  | returned {payment : PaymentRow}
      (saw : Saw seen (.newestAttempt orderNo openStatuses) (some payment))
      (returned : payment.status = .REFUNDED)
  | lost {payment : PaymentRow} {tradeNo : Option Bytes}
      (saw : Saw seen (.newestAttempt orderNo openStatuses) (some payment))
      (isOrder : payment.orderNo = orderNo)
      (lost : Saw seen (.casPayment payment.paymentNo .SUCCESS tradeNo) false)
  | found {order : OrderRow} (saw : Saw seen (.findOrder orderNo) (some order))
      (paid : order.status = .PAID)
  | written {status : OrderStatus} {stamp : Option Nat}
      (saw : Saw seen (.updateOrder orderNo status) stamp)

/-- An acknowledgement that an order is paid has its grounds. -/
def Justified (request : Request) (v : Sight paySig) (out : Reply) : Prop :=
  ∀ tradeNo orderNo tradeStatus totalAmount,
    request = .alipayNotification tradeNo orderNo tradeStatus totalAmount →
    saysPaid tradeStatus = true → out.acknowledges = true → PaidGrounds v.seen orderNo

section Answers

variable {tradeNo orderNo tradeStatus totalAmount : Bytes} {v : Sight paySig}

theorem answers_refused {request : Request} :
    (answerAlipay none).Answers (Justified request) v :=
  ⟨fun _ _ _ _ _ _ acknowledged => absurd acknowledged (by decide), trivial⟩

theorem answers_grounded
    (grounds : saysPaid tradeStatus = true → PaidGrounds v.seen orderNo)
    (status : Option OrderStatus) :
    (answerAlipay status).Answers
      (Justified (.alipayNotification tradeNo orderNo tradeStatus totalAmount)) v := by
  cases status with
  | none => exact answers_refused
  | some status =>
      refine ⟨?_, trivial⟩
      rintro _ _ _ _ ⟨⟩ told _
      exact grounds told

theorem startless_insertLedgerEntry (row : LedgerRow) : (insertLedgerEntry row).Startless := by
  intro found
  match found with
  | some none => exact fun _ => trivial
  | some (some _) => trivial
  | none => trivial

theorem startless_answerAlipay (status : Option OrderStatus) : (answerAlipay status).Startless := by
  cases status <;> trivial

theorem answers_insertLedgerEntry {J : Sight paySig → Reply → Prop} (row : LedgerRow) :
    (insertLedgerEntry row).Answers J v := by
  refine ⟨fun found _ => ?_, trivial⟩
  match found with
  | none => exact ⟨fun _ _ => trivial, trivial⟩
  | some _ => trivial

theorem answers_writeSyncedOrder {order : OrderRow} {paymentNo : Bytes} {status : OrderStatus}
    (isOrder : order.orderNo = orderNo) :
    (writeSyncedOrder order paymentNo status answerAlipay).Answers
      (Justified (.alipayNotification tradeNo orderNo tradeStatus totalAmount)) v := by
  subst isOrder
  refine ⟨fun stamp _ => ?_, answers_refused⟩
  have written : saysPaid tradeStatus = true →
      PaidGrounds (v.within (.updateOrder order.orderNo status) stamp).seen order.orderNo :=
    fun _ => .written Saw.last
  dsimp only
  split
  · exact ⟨⟨startless_insertLedgerEntry _, startless_answerAlipay _⟩, answers_insertLedgerEntry _,
      answers_grounded written _⟩
  · exact answers_grounded written _

theorem answers_syncAlipayOrder {paymentNo : Bytes} {said : SyncAnswer} :
    (syncAlipayOrder orderNo paymentNo said answerAlipay).Answers
      (Justified (.alipayNotification tradeNo orderNo tradeStatus totalAmount)) v := by
  refine ⟨fun found possible => ?_, answers_refused⟩
  match found with
  | none => exact answers_refused
  | some order =>
      dsimp only
      split
      · rename_i paid
        exact answers_grounded (fun _ => .found Saw.last paid) _
      · split
        · exact answers_refused
        · exact answers_writeSyncedOrder (possible order rfl)

theorem answers_syncAlipayTransaction {said : SyncAnswer} {payment : PaymentRow}
    (looked : Saw v.seen (.newestAttempt orderNo openStatuses) (some payment))
    (isOrder : payment.orderNo = orderNo)
    (settles : saysPaid tradeStatus = true → said.paymentStatus = .SUCCESS) :
    (syncAlipayTransaction orderNo said payment answerAlipay).Answers
      (Justified (.alipayNotification tradeNo orderNo tradeStatus totalAmount)) v := by
  intro started
  match started with
  | false => trivial
  | true =>
      dsimp only
      split
      · exact answers_syncAlipayOrder
      · split
        · rename_i returned
          have grounded : saysPaid tradeStatus = true →
              PaidGrounds v.closed.rolledBack.seen orderNo := fun _ => .returned looked returned
          exact answers_grounded grounded _
        · refine ⟨fun won _ => ?_, answers_refused⟩
          match won with
          | false =>
              have grounded : saysPaid tradeStatus = true →
                  PaidGrounds (v.closed.within (.casPayment payment.paymentNo said.paymentStatus
                    (some said.transactionId)) false).rolledBack.seen orderNo := by
                intro told
                rw [settles told]
                exact .lost (looked.append _) isOrder Saw.last
              exact answers_grounded grounded _
          | true => exact answers_syncAlipayOrder

/-- A notification that says an order is paid settles. -/
theorem settles_of_saysPaid {said : SyncAnswer} (told : saysPaid tradeStatus = true)
    (reads : readAlipayAnswer (alipayResult tradeNo orderNo tradeStatus totalAmount) =
      some (some said)) : said.paymentStatus = .SUCCESS := by
  have coded : (alipayResult tradeNo orderNo tradeStatus totalAmount).stringAt "code" =
      some (ascii "10000") := rfl
  have stated : (alipayResult tradeNo orderNo tradeStatus totalAmount).stringAt "trade_status" =
      some tradeStatus := rfl
  have maps : mapAlipayTradeStatus tradeStatus = some (.PAID, .SUCCESS) :=
    if_pos (by simpa [saysPaid] using told)
  simp only [readAlipayAnswer, coded, stated, maps, Option.bind_eq_bind, Option.bind_some,
    ne_eq, not_true_eq_false, if_false, Option.bind_eq_some_iff, Option.pure_def] at reads
  obtain ⟨transactionId, _, reads⟩ := reads
  rw [if_pos trivial] at reads
  obtain ⟨totalFen, _, isSaid⟩ := Option.bind_eq_some_iff.mp reads
  obtain rfl := Option.some.inj (Option.some.inj isSaid)
  rfl

/-- An Alipay notification is acknowledged on these grounds only. -/
theorem answers_alipayNotification :
    (alipayNotification tradeNo orderNo tradeStatus totalAmount).Answers
      (Justified (.alipayNotification tradeNo orderNo tradeStatus totalAmount)) v := by
  unfold alipayNotification syncOrderStatusFromAlipay
  cases reads : readAlipayAnswer (alipayResult tradeNo orderNo tradeStatus totalAmount) with
  | none => trivial
  | some read =>
      cases read with
      | none => exact answers_refused
      | some said =>
          refine ⟨fun found possible => ?_, answers_refused⟩
          match found with
          | none => exact answers_grounded (fun _ => .missing Saw.last) _
          | some payment =>
              dsimp only
              split
              · exact answers_refused
              · exact answers_syncAlipayTransaction Saw.last (possible payment rfl).1
                  fun told => settles_of_saysPaid told reads

end Answers

/-! ## Runs -/

/-- What is true whenever a statement that could ground an acknowledgement runs for
such a notification. -/
def Found (history : List Db) : (st : Stmt) → st.Res → Prop
  | .newestAttempt _ _, (found : Option PaymentRow) =>
      ∃ payment, found = some payment ∧ payment.status ≠ .REFUNDED ∧
        ∃ db ∈ history, db.payments.find payment.paymentNo = some payment
  | .casPayment paymentNo .SUCCESS _, (won : Bool) =>
      won = false → ∃ db ∈ history, ∃ row, db.payments.find paymentNo = some row ∧
        PaidFor db row.orderNo
  | .findOrder orderNo, (found : Option OrderRow) =>
      (∃ order, found = some order ∧ order.status = .PAID) → ∃ db ∈ history, PaidFor db orderNo
  | .updateOrder orderNo _, _ => ∃ db ∈ history, PaidFor db orderNo
  | _, _ => True

theorem Found.later {history : List Db} (now : Db) {st : Stmt} {res : st.Res}
    (found : Found history st res) : Found (now :: history) st res := by
  have older : ∀ {P : Db → Prop}, (∃ db ∈ history, P db) → ∃ db ∈ now :: history, P db :=
    fun ⟨db, member, holds⟩ => ⟨db, List.mem_cons_of_mem _ member, holds⟩
  cases st with
  | newestAttempt orderNo statuses =>
      obtain ⟨payment, isFound, unreturned, there⟩ := found
      exact ⟨payment, isFound, unreturned, older there⟩
  | casPayment paymentNo status tradeNo =>
      cases status with
      | SUCCESS => exact fun lost => older (found lost)
      | _ => trivial
  | findOrder orderNo => exact fun paid => older (found paid)
  | updateOrder orderNo status => exact older found
  | _ => trivial

section Runs

variable {cfg : Config} {events : List PayEvent} {s s' : PaySys} {event : PayEvent}
  {orderNo paymentNo : Bytes} {pid : Nat} {p : PayProc} {request : Request}

theorem notice_guarded (guarded : alipayGuarded s event = true) (owner : Owner p.log request)
    (tells : tellsPaid request = true) {st : Stmt} {res : st.Res}
    (runs : s.RunsNow event pid p st res) : noticeGuarded s event = true := by
  have tellsNow : byNotification s event = true := by
    rcases runs with runs | ⟨record, runs⟩
    all_goals
      obtain ⟨env, rfl, _⟩ := runs.result
      simp [byNotification, Event.mover, runs.proc, requestOf_owner owner, tells]
  simpa [tellsNow] using (Bool.and_eq_true_iff.mp guarded).2

/-- The lookup finds an attempt, and no attempt is REFUNDED. -/
theorem found_attempt {statuses : List PaymentStatus} {found : Option PaymentRow}
    (run : PayRun cfg (fun s event => alipayGuarded s event = true) events s)
    (guarded : noticeGuarded s event = true)
    (runs : s.RunsNow event pid p (.newestAttempt orderNo statuses) found) :
    Found s.history (.newestAttempt orderNo statuses) found := by
  rcases runs with runs | ⟨record, runs⟩
  · obtain ⟨env, _, result⟩ := runs.result
    have first : (s.db.attempts env orderNo statuses).head? = found := Option.some.inj result
    obtain ⟨row, member, holds⟩ : ∃ row ∈ s.db.payments.rows, row.orderNo = orderNo ∧
        row.status ∈ statuses := by
      simpa [noticeGuarded, runs.executing] using guarded
    have listed : row ∈ s.db.attempts env orderNo statuses := by
      simp [Db.attempts, newestFirst, member, holds]
    obtain ⟨payment, rest, isList⟩ := List.exists_cons_of_ne_nil (List.ne_nil_of_mem listed)
    rw [isList, List.head?_cons] at first
    have there := Db.find_of_attempts (show (s.db.attempts env orderNo statuses).head? = some payment
      by rw [isList]; rfl)
    exact ⟨payment, first.symm, unreturned_attempts run _ _ there, s.db, List.mem_cons_self, there⟩
  · -- attempts are looked up outside of transactions
    have pooled : some record = none := runs.issue (run.obliged (verified_serve cfg))
    cases pooled

/-- An attempt that the guarded update leaves alone was settled before. -/
theorem paid_of_lost {tradeNo : Option Bytes}
    (run : PayRun cfg (fun s event => alipayGuarded s event = true) events s)
    (guarded : noticeGuarded s event = true)
    (runs : s.RunsNow event pid p (.casPayment paymentNo .SUCCESS tradeNo) false) :
    ∃ row, s.db.payments.find paymentNo = some row ∧ PaidFor s.db row.orderNo := by
  have obliged := run.obliged (verified_serve cfg)
  rcases runs with runs | ⟨record, runs⟩
  · obtain ⟨_, isTxn, _⟩ := (runs.issue obliged).2.2 rfl
    cases isTxn
  · obtain ⟨_, spares, settles⟩ := runs.issue obliged
    obtain ⟨_, ⟨⟩, payment, _, _, held, rfl, _⟩ := settles rfl
    have isRecord : p.slot.record = record := by rw [runs.slot, Slot.record_active]
    obtain ⟨row, inView, _⟩ := seen_in_view run (List.mem_of_getElem? runs.proc)
      (List.subset_append_left _ _) (isRecord ▸ List.subset_append_right _ _) held.seen
    rw [isRecord] at inView
    have same : (s.view record).payments.find payment.paymentNo =
        s.db.payments.find payment.paymentNo := spares.read paymentColumn_locked s.db payment.paymentNo
    have found : s.db.payments.find payment.paymentNo = some row := same ▸ inView
    obtain ⟨env, _, result⟩ := runs.result
    have lost : ((s.view record).payments.find payment.paymentNo).any (fun row =>
        [PaymentStatus.INIT, .PROCESSING].contains row.status) = false := Option.some.inj result
    have alive : row.status ≠ .FAIL := by
      simpa [noticeGuarded, runs.executing, inView] using guarded
    have unreturned := unreturned_attempts run _ _ found
    have ended : row.status ≠ .INIT ∧ row.status ≠ .PROCESSING := by
      simpa [inView] using lost
    have success : row.status = .SUCCESS := by
      cases isStatus : row.status with
      | SUCCESS => rfl
      | INIT => exact absurd isStatus ended.1
      | PROCESSING => exact absurd isStatus ended.2
      | FAIL => exact absurd isStatus alive
      | REFUNDED => exact absurd isStatus unreturned
    exact ⟨row, found, paidFor_of_booked run (booked_of_success run _ row found success)⟩

/-- A transaction that finds the order PAID finds it so committed. -/
theorem paid_of_found {order : OrderRow}
    (run : PayRun cfg (fun s event => alipayGuarded s event = true) events s)
    (runs : s.RunsNow event pid p (.findOrder orderNo) (some order)) (paid : order.status = .PAID) :
    PaidFor s.db orderNo := by
  have obliged := run.obliged (verified_serve cfg)
  refine paidFor_of_booked run ?_
  have committed : s.db.orders.find orderNo = some order := by
    rcases runs with runs | ⟨record, runs⟩
    · obtain ⟨env, _, result⟩ := runs.result
      exact Option.some.inj result
    · obtain ⟨env, _, result⟩ := runs.result
      have spares : Spares .orders record := runs.issue obliged
      have same : (s.view record).orders.find orderNo = s.db.orders.find orderNo :=
        spares.read orderColumn_locked s.db orderNo
      exact same ▸ Option.some.inj result
  simp [isBooked, committed, paid, OrderStatus.booked]

theorem found_runs {st : Stmt} {res : st.Res}
    (run : PayRun cfg (fun s event => alipayGuarded s event = true) events s)
    (guarded : alipayGuarded s event = true) (owner : Owner p.log request)
    (tells : tellsPaid request = true) (runs : s.RunsNow event pid p st res) :
    Found s.history st res := by
  have notice := notice_guarded guarded owner tells runs
  cases st with
  | newestAttempt orderNo statuses => exact found_attempt run notice runs
  | casPayment paymentNo status tradeNo =>
      cases status with
      | SUCCESS =>
          rintro rfl
          exact ⟨s.db, List.mem_cons_self, paid_of_lost run notice runs⟩
      | _ => trivial
  | findOrder orderNo =>
      rintro ⟨order, rfl, paid⟩
      exact ⟨s.db, List.mem_cons_self, paid_of_found run runs paid⟩
  | updateOrder orderNo status =>
      have booked : isBooked (s.db.orders.find orderNo) := by
        rcases runs with runs | ⟨record, runs⟩ <;>
          simpa [noticeGuarded, runs.executing] using notice
      exact ⟨s.db, List.mem_cons_self, paidFor_of_booked run booked⟩
  | _ => trivial

/-- Whatever an acknowledgement goes back to, the order was paid for then. -/
theorem paid_of_grounds (run : PayRun cfg (fun s event => alipayGuarded s event = true) events s)
    (member : p ∈ s.procs) {v : Sight paySig} (grounds : PaidGrounds v.seen orderNo)
    (witnessed : v.Witnessed (Found s.history)) : ∃ db ∈ s.history, PaidFor db orderNo := by
  cases grounds with
  | missing saw =>
      obtain ⟨payment, ⟨⟩, _⟩ := witnessed _ _ saw
  | returned saw returned =>
      obtain ⟨payment, ⟨⟩, unreturned, _⟩ := witnessed _ _ saw
      exact absurd returned unreturned
  | lost saw isOrder lost =>
      obtain ⟨payment, ⟨⟩, _, earlier, isEarlier, looked⟩ := witnessed _ _ saw
      obtain ⟨db, isPast, row, found, paid⟩ := witnessed _ _ lost rfl
      obtain ⟨now, isNow, booked⟩ := payment_stays run member isEarlier looked
      obtain ⟨now', isNow', booked'⟩ := payment_stays run member isPast found
      obtain rfl : now = now' := Option.some.inj (isNow.symm.trans isNow')
      have sameOrder : row.orderNo = orderNo :=
        (congrArg PaymentBooking.orderNo (booked'.trans booked.symm)).trans isOrder
      exact ⟨db, isPast, sameOrder ▸ paid⟩
  | found saw paid => exact witnessed _ _ saw ⟨_, rfl, paid⟩
  | written saw => exact witnessed _ _ saw

end Runs

/-- An Alipay success that is acknowledged is committed, in every run whose steps
are guarded. -/
theorem alipay_acknowledged {cfg : Config} {events : List PayEvent} {s s' : PaySys}
    {event : PayEvent} (run : PayRun cfg (fun s event => alipayGuarded s event = true) events s)
    (guarded : alipayGuarded s event = true) (stepped : s.step (serve cfg) event = some s') :
    AcknowledgesPaid s s' := by
  intro pid p p' proc proc' tradeNo orderNo tradeStatus totalAmount owner told out
    replied acknowledges
  have reporting : Reporting (S := payStore) (serve cfg)
      (fun s event => alipayGuarded s event = true) Db.empty
      (fun request => tellsPaid request = true) Justified fun _ => Found := by
    refine ⟨?_, Found.later, ?_⟩
    · intro request tells
      cases request with
      | alipayNotification tradeNo orderNo tradeStatus totalAmount =>
          exact answers_alipayNotification
      | _ => cases tells
    · exact fun run guarded owner tells runs => found_runs run guarded owner tells runs
  obtain ⟨extra, isLog, reports⟩ := run.reports reporting guarded stepped proc proc' owner told
  rw [isLog, List.drop_left] at replied
  obtain ⟨v, justified, _, witnessed, _⟩ := reports out replied
  have grounds := justified tradeNo orderNo tradeStatus totalAmount rfl told acknowledges
  obtain ⟨db, isPast, paid⟩ := paid_of_grounds run (List.mem_of_getElem? proc) grounds witnessed
  exact paidFor_stays (run.snoc guarded stepped) (Sys.step_history stepped isPast) paid

/-! ## A notification before and after the commit -/

/-- The order a notification says is paid. -/
def paidOrder (request : Request) : Option Bytes :=
  match request with
  | .alipayNotification _ orderNo tradeStatus _ => if saysPaid tradeStatus then some orderNo else none
  | _ => none

/-- Process `pid` acknowledges in this step that the order is paid. -/
def acknowledgesNow (pid : Nat) (orderNo : Bytes) (s s' : PaySys) : Bool :=
  (s.procs[pid]?).any fun p => (s'.procs[pid]?).any fun p' =>
    (requestOf p.log).bind paidOrder = some orderNo &&
      (p'.log.drop p.log.length).any fun
        | .replied out => out.acknowledges
        | _ => false

theorem paid_of_acknowledgesNow {pid : Nat} {s s' : PaySys} {orderNo : Bytes}
    (sound : AcknowledgesPaid s s') (acks : acknowledgesNow pid orderNo s s' = true) :
    PaidFor s'.db orderNo := by
  simp only [acknowledgesNow, Option.any_eq_true, Bool.and_eq_true, decide_eq_true_eq,
    List.any_eq_true] at acks
  obtain ⟨p, proc, p', proc', isOrder, entry, known, acknowledges⟩ := acks
  obtain ⟨request, isRequest, pays⟩ := Option.bind_eq_some_iff.mp isOrder
  have owner := owner_of_requestOf isRequest
  unfold paidOrder at pays
  split at pays
  · rename_i tradeNo named tradeStatus totalAmount
    split at pays
    · rename_i told
      cases pays
      split at acknowledges
      · exact sound pid p p' proc proc' _ _ _ _ owner told _ known acknowledges
      · cases acknowledges
    · cases pays
  · cases pays

/-- The notification of a payment of ten yuan. -/
def alipayNotice : Request :=
  .alipayNotification (ascii "T") (ascii "o") (ascii "TRADE_SUCCESS") (ascii "10.00")

def alipayPaid : ChannelAnswer :=
  ⟨Json.object [("code", Json.text "10000"), ("trade_status", Json.text "TRADE_SUCCESS"),
    ("trade_no", Json.text "T"), ("total_amount", Json.text "10.00")], []⟩

/-- A query settles the order after the notification has looked the attempt up. -/
def settledMeanwhile : List PayEvent :=
  [.spawn (.createPayment tenYuan [] (drawn "p") 0)] ++ steps 0 4 1 ++
    [.spawn (.queryOrder (ascii "o"))] ++ steps 1 1 2 ++ [.answer 1 alipayPaid] ++
    [.spawn alipayNotice] ++ steps 2 2 2 ++ steps 1 8 3

/-- The notification has moved the attempt and is about to write the order. -/
def notifiedFirst : List PayEvent :=
  [.spawn (.createPayment tenYuan [] (drawn "p") 0)] ++ steps 0 4 1 ++ [.spawn alipayNotice] ++
    steps 1 4 2

/-- Process `pid` goes on. -/
def next (pid : Nat) : PayEvent := .exec pid ⟨9, fun _ => 0⟩

theorem alipay_acknowledged_settled :
    ∃ s s', PayRun shop (fun s event => alipayGuarded s event = true) settledMeanwhile s ∧
      s.step (serve shop) (next 2) = some s' ∧ acknowledgesNow 2 (ascii "o") s s' = true ∧
      AcknowledgesPaid s s' := by
  obtain ⟨s, run, holds⟩ := replay_run alipayGuarded settledMeanwhile
    (fun s => alipayGuarded s (next 2) &&
      (s.step (serve shop) (next 2)).any fun s' => acknowledgesNow 2 (ascii "o") s s')
    (by decide +kernel)
  rw [Bool.and_eq_true, Option.any_eq_true] at holds
  obtain ⟨guarded, s', stepped, acks⟩ := holds
  exact ⟨s, s', run, stepped, acks, alipay_acknowledged run guarded stepped⟩

theorem alipay_acknowledged_uncommitted :
    ¬ ∀ (cfg : Config) (events : List PayEvent) (s : PaySys) (event : PayEvent) (s' : PaySys),
      PayRun cfg (fun _ _ => True) events s → s.step (serve cfg) event = some s' →
      AcknowledgesPaid s s' := by
  intro claim
  obtain ⟨s, run, holds⟩ := replay_run (fun _ _ => true) notifiedFirst
    (fun s => (s.step (serve shop) (next 1)).any fun s' =>
      acknowledgesNow 1 (ascii "o") s s' && !paidFor s'.db (ascii "o")) (by decide +kernel)
  simp only [Option.any_eq_true, Bool.and_eq_true, Bool.not_eq_true'] at holds
  obtain ⟨s', stepped, acks, unpaid⟩ := holds
  have sound := claim shop _ s _ s' (run.mono fun _ _ _ => trivial) stepped
  have paid := paidFor_iff.mpr (paid_of_acknowledgesNow sound acks)
  rw [unpaid] at paid
  cases paid

end PaymentService
end DrogonPay
