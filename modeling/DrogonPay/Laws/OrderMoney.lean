import DrogonPay.Laws.Income

/-!
Contract: the money of an order stays.

Owns:
- `OrderMoneyMonotone`, the law over committed states of an order that is PAID or
  REFUNDED;
- `orderWriteGuarded`, the refusal, the interleavings and the messages without
  which every run keeps it, and a run of the services that breaks it;
- `booked_was_settled` and `never_settled_of_moved`, from which a booked order that
  is written once more was booked for another attempt.

Does not own: how a channel comes to send a message that breaks the law.
-/

namespace DrogonPay

open ReadCommitted
open PaymentService (wasSuccess wasSuccess_of_seen booking_of_seen openStatuses)

/-! ## The condition -/

/-- The order was found PAID. -/
def foundPaid (record : List PayEntry) (orderNo : Bytes) : Bool :=
  record.any fun
    | .ran (.findOrder named) (found : Option OrderRow) =>
        named = orderNo && found.any fun order => order.status = .PAID
    | _ => false

/-- The transaction holds the lock of an attempt: it works a WeChat notification
off. -/
def hasLocked (record : List PayEntry) : Bool :=
  record.any fun
    | .ran (.lockAttempt _ _) (found : Option PaymentRow) => found.isSome
    | _ => false

/-- The transaction has moved this attempt. -/
def hasMoved (record : List PayEntry) (paymentNo : Bytes) : Bool :=
  record.any fun
    | .ran (.casPayment moved _ _) (won : Bool) => won && moved = paymentNo
    | _ => false

/-- A settled sum was read that covers this amount. -/
def sumCovers (record : List PayEntry) (orderNo amount : Bytes) : Bool :=
  record.any fun
    | .ran (.sumRefunds summed statuses) (sumText : Bytes) =>
        summed = orderNo && statuses = [RefundStatus.REFUND_SUCCESS] &&
          PayUtils.refundsCoverOrderAmount (PayUtils.fenOf sumText) (PayUtils.fenOf amount)
    | _ => false

/-- An attempt of the order was settled that is not the one the transaction
moves. -/
def othersSettled (history : List Db) (record : List PayEntry) (orderNo : Bytes) : Bool :=
  history.any fun db => db.payments.rows.any fun row =>
    row.orderNo = orderNo && row.status = .SUCCESS && !hasMoved record row.paymentNo

/-- Another attempt of the order was settled, and the transaction goes on: it did
not find the order PAID, or works off a WeChat notification, which does not ask. -/
def overlooks (history : List Db) (record : List PayEntry) (orderNo : Bytes) : Bool :=
  (hasLocked record || !foundPaid record orderNo) && othersSettled history record orderNo

/-- A refusal is booked over no booked order, and a transaction that overlooks the
settlement of another attempt writes over a booked order on `enough` messages. -/
def bookedWriteGuarded (enough : List PayEntry → OrderRow → OrderStatus → Bool) (s : PaySys)
    (event : PayEvent) : Bool :=
  match s.executing event, s.knowing event with
  | some (.updateOrder orderNo _, seen), some (log, record) =>
      (seen.orders.find orderNo).all fun row =>
        !row.status.booked || record.any fun entries =>
          !overlooks s.history entries orderNo ||
            log.all fun message => (saidOf orderNo message).all (enough entries row)
  | _, _ => true

/-- A message that money came in keeps a PAID order booked. A REFUNDED one is kept
by a message that it was refunded, over a sum that covers it. -/
def keepsBooking (record : List PayEntry) (row : OrderRow) (said : OrderStatus) : Bool :=
  said.booked &&
    (row.status = .PAID || (said = .REFUNDED && sumCovers record row.orderNo row.amount))

def orderWriteGuarded : PaySys → PayEvent → Bool := bookedWriteGuarded keepsBooking

section Runs

variable {cfg : Config} {ok : PaySys → PayEvent → Prop} {events : List PayEvent} {s : PaySys}
  {p : PayProc} {orderNo paymentNo : Bytes}

/-! ## Booked orders -/

/-- The order of this row is booked. -/
def isBooked (row : Option OrderRow) : Bool := row.any fun order => order.status.booked

/-- Who sees an order booked that is not committed so has booked it. -/
def BookedBy (record : List PayEntry) (orderNo : Bytes) (committed seen : Option OrderRow) : Prop :=
  isBooked seen → isBooked committed ∨
    ∃ status stamp, status.booked ∧ Saw record (.updateOrder orderNo status) stamp

theorem OrderAfter.booked_by {st : Stmt} {record : List PayEntry}
    {committed old new : Option OrderRow} (res : st.Res) (after : OrderAfter st orderNo old new)
    (before : BookedBy record orderNo committed old) :
    BookedBy (record ++ [.ran st res]) orderNo committed new := by
  have earlier : isBooked old → isBooked committed ∨ ∃ status stamp, status.booked ∧
      Saw (record ++ [.ran st res]) (.updateOrder orderNo status) stamp := fun booked =>
    (before booked).imp_right fun ⟨status, stamp, books, saw⟩ => ⟨status, stamp, books, saw.append _⟩
  intro booked
  cases after with
  | same => exact earlier booked
  | inserted _ _ => cases booked
  | @moved row status now move =>
      cases move with
      | update => exact Or.inr ⟨status, res, booked, Saw.last⟩
      | promote _ => cases booked
      | cover paid => exact earlier (by simp [isBooked, paid, OrderStatus.booked])

theorem booked_by (run : PayRun cfg ok events s) (member : p ∈ s.procs) (orderNo : Bytes) :
    BookedBy p.slot.record orderNo (s.db.orders.find orderNo)
      ((s.view p.slot.record).orders.find orderNo) := by
  have pinned : ∀ p ∈ s.procs, ∀ orderNo, BookedBy p.slot.record orderNo
      (orderColumn.read s.db orderNo) (orderColumn.read (s.view p.slot.record) orderNo) := by
    refine Run.pinned (fun _ _ _ _ => Or.inl) ?_ run
    intro s event pid p record st res _ runs orderNo before
    obtain ⟨env, _, result⟩ := runs.result
    exact (order_after result orderNo).booked_by res before
  exact pinned p member orderNo

/-- A booked order has an attempt that was SUCCESS in a committed state. -/
theorem booked_was_settled (run : PayRun cfg ok events s) :
    ∀ orderNo, isBooked (s.db.orders.find orderNo) → ∃ paymentNo row, ∃ db ∈ s.history,
      db.payments.find paymentNo = some row ∧ row.orderNo = orderNo ∧ row.status = .SUCCESS := by
  induction run with
  | nil =>
      intro orderNo booked
      simp [Sys.initial, isBooked, Db.empty, Table.find, Table.empty] at booked
  | @snoc _ event s s' run meets stepped inductionHypothesis =>
      intro orderNo booked
      by_cases already : isBooked (s.db.orders.find orderNo)
      · obtain ⟨paymentNo, row, db, isPast, rest⟩ := inductionHypothesis orderNo already
        exact ⟨paymentNo, row, db, Sys.step_history stepped isPast, rest⟩
      rcases run.step_publishes (verified_serve cfg) stepped with
        same | ⟨pid, p, entries, publishes, isView⟩
      · rw [same] at booked
        exact absurd booked already
      rw [isView] at booked
      cases publishes with
      | @pooled st res runs issue =>
          -- on a pooled connection an order is refused or covered, never paid
          obtain ⟨env, _, result⟩ := runs.result
          have after := order_after result orderNo
          have unbooked : BookedBy [] orderNo none (s.db.orders.find orderNo) :=
            fun booked => absurd booked already
          have seen : (s.view [.ran st res]) = payStore.applyAll s.db (st.writes res) := by
            simp only [Sys.view, Store.pending_ran]
          rw [seen] at booked
          rcases after.booked_by res unbooked booked with fromNone | ⟨status, stamp, books, saw⟩
          · cases fromNone
          · cases List.mem_singleton.mp saw
            have isFailed : status = .FAILED := issue.1
            rw [isFailed] at books
            cases books
      | txn commits issued commit =>
          have isRecord : p.slot.record = entries := by rw [commits.slot, Slot.record_active]
          have member := List.mem_of_getElem? commits.proc
          have known := booked_by run member orderNo
          rw [isRecord] at known
          obtain ⟨status, stamp, books, saw⟩ := (known booked).resolve_left already
          obtain ⟨before, after, split⟩ := List.append_of_mem saw
          obtain ⟨log, isPrefix, issue⟩ := issued before _ _ after split
          obtain ⟨payment, seen, isOrder, settled⟩ := issue.1.settled books
          obtain ⟨q, isProc, longer⟩ := (Sys.Publishes.txn commits issued commit).remembered stepped
          have inLog : log ⊆ q.log := fun entry known =>
            longer.subset (List.mem_append_left _ (isPrefix.subset known))
          have inRecord : before ⊆ q.log := fun entry known =>
            longer.subset (List.mem_append_right _ (split ▸ List.mem_append_left _ known))
          have now := run.snoc meets stepped
          have was := wasSuccess_of_seen now isProc inLog inRecord settled
          obtain ⟨db, isPast, success⟩ := List.any_eq_true.mp was
          obtain ⟨row, found, isSuccess⟩ := (Option.any_eq_true _ _).mp success
          have sameBooking := booking_of_seen now isProc inLog inRecord seen isPast found
          exact ⟨payment.paymentNo, row, db, isPast, found,
            (congrArg PaymentBooking.orderNo sameBooking).symm.trans isOrder,
            of_decide_eq_true isSuccess⟩

/-! ## Attempts that a transaction has moved -/

/-- The attempt of this row has come to its end. -/
def isEnded (row : Option PaymentRow) : Bool := row.any fun payment => !payment.status.unsettled

/-- An attempt comes to its end once. -/
theorem PaymentAfter.keeps_ended {st : Stmt} {old new : Option PaymentRow}
    (after : PaymentAfter st paymentNo old new) : isEnded old → isEnded new := by
  intro ended
  cases after with
  | same => exact ended
  | inserted _ _ => cases ended
  | moved move =>
      cases move with
      | cas unsettled => rcases unsettled with eq | eq <;>
          simp [isEnded, eq, PaymentStatus.unsettled] at ended
      | fail => rfl

theorem paymentColumn_keeps_ended :
    paymentColumn.Keeps (fun _ _ old new => isEnded old → isEnded new) ok := by
  refine .of_executing (fun _ _ => id) (fun _ _ _ _ first second => second ∘ first) ?_
  intro s event st seen env res _ _ result paymentNo
  exact (payment_after result paymentNo).keeps_ended

/-- An attempt that a transaction has moved was not SUCCESS in any committed
state. -/
theorem never_settled_of_moved (run : PayRun cfg ok events s) (member : p ∈ s.procs)
    {status : PaymentStatus} {tradeNo : Option Bytes}
    (saw : Saw p.slot.record (.casPayment paymentNo status tradeNo) true) {db : Db}
    (isPast : db ∈ s.history) {row : PaymentRow} (found : db.payments.find paymentNo = some row) :
    row.status ≠ .SUCCESS := by
  intro success
  have ended : isEnded (db.payments.find paymentNo) := by
    simp [isEnded, found, success, PaymentStatus.unsettled]
  have endedNow : isEnded (s.db.payments.find paymentNo) := by
    rcases List.mem_cons.mp isPast with rfl | earlier
    · exact ended
    · exact (List.pairwise_cons.mp (run.column_history paymentColumn_keeps_ended paymentNo)).1 db
        earlier ended
  obtain ⟨now, isNow, unsettled⟩ := PaymentService.moved_unsettled run member saw
  simp [isEnded, isNow, unsettled] at endedNow

/-! ## Writes over a booked order -/

theorem hasMoved_iff {record : List PayEntry} {paymentNo : Bytes} :
    hasMoved record paymentNo = true ↔
      ∃ status tradeNo, Saw record (.casPayment paymentNo status tradeNo) true := by
  simp only [hasMoved, List.any_eq_true]
  constructor
  · rintro ⟨entry, member, moves⟩
    split at moves
    · simp only [Bool.and_eq_true, decide_eq_true_eq] at moves
      obtain ⟨rfl, rfl⟩ := moves
      exact ⟨_, _, member⟩
    · cases moves
  · rintro ⟨status, tradeNo, saw⟩
    exact ⟨_, saw, by simp⟩

theorem foundPaid_iff {record : List PayEntry} {orderNo : Bytes} :
    foundPaid record orderNo = true ↔
      ∃ order, Saw record (.findOrder orderNo) (some order) ∧ order.status = .PAID := by
  simp only [foundPaid, List.any_eq_true]
  constructor
  · rintro ⟨entry, member, found⟩
    split at found
    · simp only [Bool.and_eq_true, decide_eq_true_eq, Option.any_eq_true] at found
      obtain ⟨rfl, order, rfl, paid⟩ := found
      exact ⟨order, member, paid⟩
    · cases found
  · rintro ⟨order, saw, paid⟩
    exact ⟨_, saw, by simp [paid]⟩

theorem sumCovers_saw {record : List PayEntry} {orderNo amount : Bytes}
    (covers : sumCovers record orderNo amount) :
    ∃ sumText, Saw record (.sumRefunds orderNo [.REFUND_SUCCESS]) sumText ∧
      PayUtils.refundsCoverOrderAmount (PayUtils.fenOf sumText) (PayUtils.fenOf amount) = true := by
  simp only [sumCovers, List.any_eq_true] at covers
  obtain ⟨entry, member, covers⟩ := covers
  split at covers
  · simp only [Bool.and_eq_true, decide_eq_true_eq] at covers
    obtain ⟨⟨rfl, rfl⟩, covers⟩ := covers
    exact ⟨_, member, covers⟩
  · cases covers

/-- A booked order that is written once more was booked for another attempt: what
the transaction has moved itself was settled by nobody. -/
theorem othersSettled_of_booked (run : PayRun cfg ok events s) (member : p ∈ s.procs)
    (spares : Spares .orders p.slot.record)
    (booked : isBooked ((s.view p.slot.record).orders.find orderNo)) :
    othersSettled s.history p.slot.record orderNo = true := by
  have committed : isBooked (s.db.orders.find orderNo) := by
    have same : (s.view p.slot.record).orders.find orderNo = s.db.orders.find orderNo :=
      spares.read orderColumn_locked s.db orderNo
    rwa [same] at booked
  obtain ⟨paymentNo, row, db, isPast, found, isOrder, success⟩ :=
    booked_was_settled run orderNo committed
  have isKey := Db.paymentNo_of_find found
  have unmoved : hasMoved p.slot.record paymentNo = false := by
    rw [Bool.eq_false_iff]
    intro moved
    obtain ⟨status, tradeNo, saw⟩ := hasMoved_iff.mp moved
    exact never_settled_of_moved run member saw isPast found success
  refine List.any_eq_true.mpr ⟨db, isPast, List.any_eq_true.mpr ⟨row, ?_, ?_⟩⟩
  · exact (Table.find_eq_some_iff.mp found).1
  · simp [isOrder, success, isKey, unmoved]

/-- A transaction writes a booked order to what an `enough` message about it stands
for. -/
theorem bookedWriteGuarded_update {enough : List PayEntry → OrderRow → OrderStatus → Bool}
    {event : PayEvent} {pid : Nat} {record : List PayEntry} {status : OrderStatus}
    {res : (Stmt.updateOrder orderNo status).Res} {row : OrderRow}
    (run : PayRun cfg ok events s) (guarded : bookedWriteGuarded enough s event = true)
    (runs : s.RunsOnTxn event pid p record (.updateOrder orderNo status) res)
    (found : (s.view record).orders.find orderNo = some row) (booked : row.status.booked) :
    ∃ mapped settledRefundFen, enough record row mapped = true ∧
      (∀ sumText, Saw record (.sumRefunds orderNo [.REFUND_SUCCESS]) sumText →
        settledRefundFen = PayUtils.fenOf sumText) ∧
      status = PayUtils.resolveRefundedOrderStatus mapped settledRefundFen
        (PayUtils.fenOf row.amount) := by
  have member := List.mem_of_getElem? runs.proc
  have isRecord : p.slot.record = record := by rw [runs.slot, Slot.record_active]
  have write : OrderWrite p.log record orderNo status :=
    (runs.issue (run.obliged (verified_serve cfg))).1
  obtain ⟨message, inLog, mapped, order, settledRefundFen, said, ordered, sum, becomes⟩ := write.told
  obtain ⟨there, foundThere, sameBooking⟩ := order_read run member (List.mem_append_right p.log
    (isRecord ▸ ordered))
  rw [isRecord] at foundThere
  obtain rfl : row = there := Option.some.inj (found.symm.trans foundThere)
  have goesOn : overlooks s.history record orderNo = true := by
    have others : othersSettled s.history record orderNo = true := by
      rw [← isRecord] at found ⊢
      exact othersSettled_of_booked run member (isRecord ▸ write.first)
        (by simp [isBooked, found, booked])
    -- a sync that finds the order PAID writes nothing
    have late : foundPaid record orderNo = true → hasLocked record = true := by
      intro paid
      obtain ⟨order, saw, isPaid⟩ := foundPaid_iff.mp paid
      obtain ⟨payment, locked⟩ := write.found order saw isPaid
      exact List.any_eq_true.mpr ⟨_, locked, by simp⟩
    cases reads : foundPaid record orderNo with
    | false => simp [overlooks, others, reads]
    | true => simp [overlooks, others, late reads]
  refine ⟨mapped, settledRefundFen, ?_, sum, ?_⟩
  · have told : p.log.all (fun message => (saidOf orderNo message).all (enough record row)) := by
      simpa [bookedWriteGuarded, runs.executing, runs.knowing, found, booked, goesOn] using guarded
    simpa [said] using List.all_eq_true.mp told message inLog
  · rw [becomes, show order.amount = row.amount from congrArg OrderBooking.amount sameBooking]

/-- On a pooled connection no booked order is written. -/
theorem bookedWriteGuarded_pooled {enough : List PayEntry → OrderRow → OrderStatus → Bool}
    {event : PayEvent} {pid : Nat} {status : OrderStatus}
    {res : (Stmt.updateOrder orderNo status).Res} {row : OrderRow}
    (guarded : bookedWriteGuarded enough s event = true)
    (runs : s.RunsOnDb event pid p (.updateOrder orderNo status) res)
    (found : s.db.orders.find orderNo = some row) : row.status.booked = false := by
  simpa [bookedWriteGuarded, runs.executing, runs.knowing, found] using guarded

end Runs

/-! ## The law -/

/-- The statuses a status may be replaced by: money is only given back. -/
def OrderStatus.mayBecome : OrderStatus → OrderStatus → Bool
  | .PAID, new => new = .PAID || new = .REFUNDED
  | .REFUNDED, new => new = .REFUNDED
  | _, _ => true

theorem OrderStatus.mayBecome_refl (status : OrderStatus) : status.mayBecome status := by
  cases status <;> rfl

theorem OrderStatus.mayBecome_trans {a b c : OrderStatus} (first : a.mayBecome b)
    (second : b.mayBecome c) : a.mayBecome c := by
  cases a <;> cases b <;> simp_all [OrderStatus.mayBecome]

/-- Only the money of a booked order is asked about. -/
theorem OrderStatus.mayBecome_of_booked {old new : OrderStatus}
    (keeps : old.booked → old.mayBecome new) : old.mayBecome new := by
  cases old with
  | PAID => exact keeps rfl
  | REFUNDED => exact keeps rfl
  | _ => rfl

/-- What a message that keeps the booking stands for may replace it. -/
theorem mayBecome_of_keepsBooking {record : List PayEntry} {row : OrderRow} {mapped : OrderStatus}
    {settledRefundFen : Nat} (booked : row.status.booked)
    (keeps : keepsBooking record row mapped = true)
    (sum : ∀ sumText, Saw record (.sumRefunds row.orderNo [.REFUND_SUCCESS]) sumText →
      settledRefundFen = PayUtils.fenOf sumText) :
    row.status.mayBecome
      (PayUtils.resolveRefundedOrderStatus mapped settledRefundFen (PayUtils.fenOf row.amount)) := by
  simp only [keepsBooking, Bool.and_eq_true, Bool.or_eq_true, decide_eq_true_eq] at keeps
  obtain ⟨isBooked, paid | ⟨rfl, covers⟩⟩ := keeps
  · simpa [paid, OrderStatus.mayBecome] using
      PayUtils.resolveRefundedOrderStatus_paid.mpr (OrderStatus.booked_iff.mp isBooked)
  · obtain ⟨sumText, saw, covered⟩ := sumCovers_saw covers
    rw [sum sumText saw]
    have refunded : PayUtils.resolveRefundedOrderStatus .REFUNDED (PayUtils.fenOf sumText)
        (PayUtils.fenOf row.amount) = .REFUNDED := by
      simp [PayUtils.resolveRefundedOrderStatus, covered]
    rw [refunded]
    rcases OrderStatus.booked_iff.mp booked with eq | eq <;> simp [eq, OrderStatus.mayBecome]

/-- Every statement keeps the money of an order, if a write by primary key
does. -/
theorem OrderAfter.keeps_money {st : Stmt} {orderNo : Bytes} {old new : Option OrderRow}
    (after : OrderAfter st orderNo old new)
    (guarded : ∀ status row, st = .updateOrder orderNo status → old = some row →
      row.status.booked → row.status.mayBecome status) :
    Kept (fun before now => before.status.mayBecome now.status) old new := by
  cases after with
  | same => exact Kept.refl (fun row => row.status.mayBecome_refl) _
  | inserted _ _ => exact Kept.none _
  | @moved row status now move =>
      refine Kept.some ?_
      cases move with
      | update => exact OrderStatus.mayBecome_of_booked (guarded status row rfl rfl)
      | promote unpaid => rcases unpaid with eq | eq <;> simp [eq, OrderStatus.mayBecome]
      | cover paid => simp [paid, OrderStatus.mayBecome, OrderRow.advance]

/-- A state of a run of the services. -/
def Reached (cfg : Config) (ok : PaySys → PayEvent → Prop) (s : PaySys) : Prop :=
  ∃ events, PayRun cfg ok events s

theorem Reached.along {cfg : Config} {ok : PaySys → PayEvent → Prop} {events : List PayEvent}
    {s : PaySys} (run : PayRun cfg ok events s) :
    PayRun cfg (fun s event => ok s event ∧ Reached cfg ok s) events s :=
  run.with_invariant fun run => ⟨_, run⟩

private theorem orderColumn_keeps_money {cfg : Config} {ok : PaySys → PayEvent → Prop} :
    orderColumn.Keeps (fun _ _ => Kept fun before now => before.status.mayBecome now.status)
      fun s event => orderWriteGuarded s event = true ∧ Reached cfg ok s := by
  refine ⟨fun _ _ => Kept.refl fun row => row.status.mayBecome_refl, ?_, id, ?_, ?_⟩
  · intro _ orderNo a b c first second
    exact first.trans second OrderStatus.mayBecome_trans
  · intro s event pid p st res meets runs orderNo
    obtain ⟨env, _, result⟩ := runs.result
    refine (order_after result orderNo).keeps_money fun status row issued found booked => ?_
    subst issued
    exact absurd booked (by simp [bookedWriteGuarded_pooled meets.1 runs found])
  · intro s event pid p record st res meets runs orderNo
    obtain ⟨env, _, result⟩ := runs.result
    obtain ⟨events, run⟩ := meets.2
    refine (order_after result orderNo).keeps_money fun status row issued found booked => ?_
    subst issued
    obtain ⟨mapped, settledRefundFen, keeps, sum, rfl⟩ :=
      bookedWriteGuarded_update run meets.1 runs found booked
    have isKey := Db.orderNo_of_find found
    exact mayBecome_of_keepsBooking booked keeps (isKey ▸ sum)

/-- In every two committed states, an order that was PAID is PAID or REFUNDED
later on, and one that was REFUNDED still is. -/
def OrderMoneyMonotone (s : PaySys) : Prop :=
  ∀ orderNo, s.history.Pairwise fun later earlier =>
    Kept (fun before now : OrderRow =>
        (before.status = .PAID → now.status = .PAID ∨ now.status = .REFUNDED) ∧
        (before.status = .REFUNDED → now.status = .REFUNDED))
      (earlier.orders.find orderNo) (later.orders.find orderNo)

/-- Order money states are monotone in every run whose writes over booked orders
are guarded. -/
theorem order_money_monotone {cfg : Config} {events : List PayEvent} {s : PaySys}
    (run : PayRun cfg (fun s event => orderWriteGuarded s event = true) events s) :
    OrderMoneyMonotone s := by
  intro orderNo
  refine ((Reached.along run).column_history orderColumn_keeps_money orderNo).imp
    fun kept row found => ?_
  obtain ⟨row', found', may⟩ := kept row found
  refine ⟨row', found', fun paid => ?_, fun refunded => ?_⟩
  · simpa [paid, OrderStatus.mayBecome] using may
  · simpa [refunded, OrderStatus.mayBecome] using may

theorem order_money_monotone_paid :
    ∃ s, PayRun shop (fun s event => orderWriteGuarded s event = true) paidWhileCalling s ∧
      orderIs s.db "o" .PAID ∧ OrderMoneyMonotone s := by
  obtain ⟨s, run, paid⟩ := replay_run orderWriteGuarded paidWhileCalling
    (fun s => orderIs s.db "o" .PAID) (by decide +kernel)
  exact ⟨s, run, paid, order_money_monotone run⟩

theorem order_money_not_monotone :
    ¬ ∀ (cfg : Config) (events : List PayEvent) (s : PaySys),
      PayRun cfg (fun _ _ => True) events s → OrderMoneyMonotone s := by
  intro claim
  obtain ⟨s, run, holds⟩ := replay_run (fun _ _ => true) refusedAfterPaid
    (fun s => orderIs s.db "o" .FAILED && s.past.any fun db => orderIs db "o" .PAID)
    (by decide +kernel)
  simp only [Bool.and_eq_true, List.any_eq_true, orderIs_iff] at holds
  obtain ⟨⟨row', found', failed⟩, earlier, member, row, found, paid⟩ := holds
  have monotone := claim shop _ s (run.mono fun _ _ _ => trivial) (ascii "o")
  rcases (kept_now monotone member found found').1 paid with eq | eq <;> simp [failed] at eq

end DrogonPay
