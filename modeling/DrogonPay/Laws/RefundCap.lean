import DrogonPay.Laws.RefundComparison
import DrogonPay.Laws.RefundTotals
import DrogonPay.ReadCommitted.Origins

/-!
Contract: an order is not refunded beyond its amount.

Owns:
- `NoOverRefund`, the bound on the refunds of an order that count;
- `capGuarded`, the condition on the steps under which every run keeps it, and a
  run in which a sync breaks it;
- `RefundsShrink`: apart from the booking of one refund, a commit only lowers what
  counts.

Does not own: whether the refunds that count were made.
-/

namespace DrogonPay

open ReadCommitted

namespace RefundService

/-- The refunds of an order that count are not more than its amount. -/
def NoOverRefund (db : Db) : Prop :=
  ∀ orderNo order, db.orders.find orderNo = some order →
    db.refundFen orderNo countedStatuses ≤ PayUtils.fenOf order.amount

/-! ## The condition -/

/-- The transaction has summed up the refunds of the order that count. -/
def sumsOrder (orderNo : Bytes) (record : List PayEntry) : Bool :=
  record.any fun
    | .ran (.sumRefunds summed statuses) _ => summed = orderNo && statuses = countedStatuses
    | _ => false

/-- The fen a process was asked to refund. -/
def askedOf (log : List PayEntry) : Nat :=
  match requestOf log with
  | some (.createRefund request _ _) => PayUtils.fenOf request.amount
  | _ => 0

/-- A failed refund does not count again, the refunds of an order are summed up
for one booking at a time, and the comparison of the sum does not wrap. -/
def capGuarded (s : PaySys) (event : PayEvent) : Bool :=
  match event with
  | .exec pid _ =>
      match s.executing event with
      | some (.updateRefund refundNo status _, db) =>
          !countedStatuses.contains status ||
            (db.refunds.find refundNo).all fun row => row.status ≠ .REFUND_FAIL
      | some (.sumRefunds orderNo statuses, db) =>
          statuses ≠ countedStatuses ||
            ((s.others pid).all fun r => !sumsOrder orderNo r.slot.record) &&
              (s.procs[pid]?).all fun p =>
                db.refundFen orderNo countedStatuses + askedOf p.log < 2 ^ 63
      | _ => true
  | _ => true

/-! ## What counts shrinks -/

/-- The refund keeps its booking and counts for no more, unless it is new. -/
def RefundsShrink (orderNo : Bytes) (old new : Option RefundRow) : Prop :=
  Kept (fun before now => before.toRefundBooking = now.toRefundBooking) old new ∧
    (old = none ∨ Table.weigh (refundWeight orderNo countedStatuses) new ≤
      Table.weigh (refundWeight orderNo countedStatuses) old)

theorem refundWeight_le (orderNo : Bytes) (statuses : List RefundStatus) (row : RefundRow) :
    refundWeight orderNo statuses row ≤ PayUtils.fenOf row.amount := by
  unfold refundWeight
  split
  · exact Nat.le_refl _
  · exact Nat.zero_le _

/-- A refund that counts weighs no less than in any other status. -/
theorem refundWeight_advance_le {orderNo : Bytes} {row : RefundRow} {status : RefundStatus}
    {refundId : Option Bytes} {now : Nat}
    (counts : countedStatuses.contains row.status ∨ ¬ countedStatuses.contains status) :
    refundWeight orderNo countedStatuses (row.advance status refundId now) ≤
      refundWeight orderNo countedStatuses row := by
  have same : (row.advance status refundId now).amount = row.amount := rfl
  have sameOrder : (row.advance status refundId now).orderNo = row.orderNo := rfl
  have moved : (row.advance status refundId now).status = status := rfl
  unfold refundWeight
  rw [same, sameOrder, moved]
  by_cases isOrder : row.orderNo = orderNo
  · rcases counts with counted | uncounted
    · simp only [isOrder, counted, decide_true, Bool.and_self, if_true]
      split
      · exact Nat.le_refl _
      · exact Nat.zero_le _
    · rw [if_neg fun both => uncounted (Bool.and_eq_true_iff.mp both).2]
      exact Nat.zero_le _
  · simp [isOrder]

/-- A statement lowers what counts, if an update by primary key does. -/
theorem RefundAfter.shrinks {st : Stmt} {refundNo orderNo : Bytes} {old new : Option RefundRow}
    (after : RefundAfter st refundNo old new)
    (guarded : ∀ status refundId row, st = .updateRefund refundNo status refundId →
      old = some row → countedStatuses.contains row.status ∨ ¬ countedStatuses.contains status) :
    RefundsShrink orderNo old new := by
  refine ⟨after.keeps_booking, ?_⟩
  cases after with
  | same => exact Or.inr (Nat.le_refl _)
  | inserted _ _ => exact Or.inl rfl
  | @moved row status refundId now move =>
      refine Or.inr (refundWeight_advance_le ?_)
      cases move with
      | cas unsettled => rcases unsettled with eq | eq <;> simp [eq, countedStatuses]
      | update => exact guarded _ _ row rfl rfl
  | touched => exact Or.inr (Nat.le_refl _)

theorem refundColumn_shrinks (orderNo : Bytes) :
    refundColumn.Keeps (fun _ _ => RefundsShrink orderNo)
      fun s event => capGuarded s event = true := by
  refine .of_executing (fun _ row => ⟨Kept.refl (by simp) row, Or.inr (Nat.le_refl _)⟩) ?_ ?_
  · rintro refundNo a b c ⟨kept, below⟩ ⟨kept', below'⟩
    refine ⟨kept.trans kept' fun first second => first.trans second, ?_⟩
    rcases below with isNew | below
    · exact Or.inl isNew
    · rcases below' with gone | below'
      · cases a with
        | none => exact Or.inl rfl
        | some row =>
            obtain ⟨row', found, _⟩ := kept row rfl
            rw [found] at gone
            cases gone
      · exact Or.inr (below'.trans below)
  · intro s event st seen env res guarded executes result refundNo
    refine RefundAfter.shrinks (refund_after result refundNo) ?_
    rintro status refundId row rfl found
    have isExec : ∃ pid env, event = .exec pid env := by
      cases event with
      | exec pid env => exact ⟨pid, env, rfl⟩
      | _ => cases executes
    obtain ⟨pid, env, rfl⟩ := isExec
    simp only [capGuarded, executes] at guarded
    rw [show seen.refunds.find refundNo = some row from found] at guarded
    cases isStatus : row.status with
    | REFUND_FAIL => exact Or.inr (by simpa [isStatus] using guarded)
    | _ => exact Or.inl (by simp [countedStatuses])

/-! ## One step -/

/-- The step commits a transaction that booked this refund after this sum. -/
structure BooksRefund (s : PaySys) (event : PayEvent) (pid : Nat) (p : PayProc)
    (booking : RefundBooking) (sumText : Bytes) : Prop where
  commits : ∃ record, s.Commits event pid p record ∧
    Saw record (.sumRefunds booking.orderNo countedStatuses) sumText
  compared : ∃ refundedFen refundFen totalFen,
    RefundCaseSeen p.log booking.orderNo booking.amount refundFen totalFen ∧
      PayUtils.parseAmountToFen sumText = some refundedFen ∧
      PayUtils.addInt64 refundedFen refundFen ≤ totalFen

theorem refundCaseSeen_longer {log log' : List PayEntry} {orderNo amount : Bytes}
    {refundFen totalFen : Nat} (seen : RefundCaseSeen log orderNo amount refundFen totalFen)
    (longer : log <+: log') : RefundCaseSeen log' orderNo amount refundFen totalFen := by
  obtain ⟨more, rfl⟩ := longer
  obtain ⟨⟨request, key, uuid, owner, isRequest⟩, ⟨order, found, worth⟩, rest⟩ := seen
  exact ⟨⟨request, key, uuid, owner.append more, isRequest⟩, ⟨order, found.append more, worth⟩,
    rest⟩

section Runs

variable {cfg : Config} {events : List PayEvent} {s s' : PaySys} {p : PayProc}
  {event : PayEvent} {orderNo : Bytes}

/-- A refund that only some entries make visible was inserted by one of them. -/
theorem booking_of_new {s : PaySys} {entries : List PayEntry} {refundNo : Bytes} {row : RefundRow}
    (isNew : s.db.refunds.find refundNo = none)
    (now : (s.view entries).refunds.find refundNo = some row) :
    ∃ before st res after w old, entries = before ++ .ran st res :: after ∧
      w ∈ payStore.writes st res ∧
      ¬ (old : Option RefundRow).any (fun refund =>
        refund.toRefundBooking = row.toRefundBooking) ∧
      (actOnRefund w refundNo old).any fun refund =>
        refund.toRefundBooking = row.toRefundBooking := by
  let Booked (value : Option RefundRow) : Prop := value.any fun refund =>
    refund.toRefundBooking = row.toRefundBooking
  have shows : Booked (refundColumn.read (s.view entries) refundNo) := by
    show ((s.view entries).refunds.find refundNo).any _ = true
    rw [now]
    simp
  have hides : ¬ Booked (refundColumn.read s.db refundNo) := by
    show ¬ (s.db.refunds.find refundNo).any _ = true
    rw [isNew]
    simp
  exact refundColumn.origin shows hides

/-- A refund that a step made visible for the first time is the one its
transaction booked, and there is no other. -/
theorem booked_of_new {pid : Nat} {entries : List PayEntry}
    (publishes : s.Publishes payContract event pid p entries) {refundNo : Bytes} {row : RefundRow}
    (isNew : s.db.refunds.find refundNo = none)
    (now : (s.view entries).refunds.find refundNo = some row) :
    ∃ lock sum stamp rest, entries = lock :: sum :: .ran (.insertRefund row.toRefundBooking) stamp ::
        rest ∧ ∃ sumText, sum = .ran (.sumRefunds row.orderNo countedStatuses) sumText ∧
          BooksRefund s event pid p row.toRefundBooking sumText := by
  obtain ⟨before, st, res, after, w, old, split, write, fails, becomes⟩ :=
    booking_of_new isNew now
  obtain rfl := insertRefund_of_booked write fails becomes
  cases publishes with
  | pooled runs issue =>
      obtain ⟨rfl, same⟩ : before = [] ∧ _ := by
        cases before with
        | nil => exact ⟨rfl, List.cons.inj split⟩
        | cons first rest => simp at split
      injection same.1 with isStmt
      subst isStmt
      obtain ⟨payment, sumText, refundedFen, refundFen, totalFen, isRecord, _⟩ := issue
      cases isRecord
  | txn commits issued commit =>
      obtain ⟨log', earlier, issue⟩ := issued before _ res after split
      obtain ⟨payment, sumText, refundedFen, refundFen, totalFen, isRecord, seen, isSum, fits⟩ := issue
      cases isRecord
      refine ⟨_, _, res, after, split, sumText, rfl, ⟨entries, commits, ?_⟩, refundedFen, refundFen,
        totalFen, refundCaseSeen_longer seen earlier, isSum, fits⟩
      rw [split]
      exact List.mem_cons_of_mem _ List.mem_cons_self

/-- What counts of an order grows in a step by one booking at most. -/
theorem fen_step (run : PayRun cfg (fun s event => capGuarded s event = true) events s)
    (meets : capGuarded s event = true) (stepped : s.step (serve cfg) event = some s')
    (orderNo : Bytes) :
    s'.db.refundFen orderNo countedStatuses ≤ s.db.refundFen orderNo countedStatuses ∨
      ∃ pid p booking sumText, BooksRefund s event pid p booking sumText ∧
        booking.orderNo = orderNo ∧ s'.db.refundFen orderNo countedStatuses ≤
          s.db.refundFen orderNo countedStatuses + PayUtils.fenOf booking.amount := by
  have shrinks := run.column_step (refundColumn_shrinks orderNo) meets stepped
  rcases run.step_publishes (verified_serve cfg) stepped with same | ⟨pid, p, entries, publishes, eq⟩
  · exact Or.inl (by rw [same])
  by_cases booked : ∃ refundNo row, s.db.refunds.find refundNo = none ∧
      s'.db.refunds.find refundNo = some row ∧ row.orderNo = orderNo
  · obtain ⟨refundNo, row, isNew, now, isOrder⟩ := booked
    have isKey : row.refundNo = refundNo := Db.refundNo_of_find now
    rw [eq] at now
    obtain ⟨lock, sum, stamp, rest, split, sumText, isSum, books⟩ := booked_of_new publishes isNew now
    refine Or.inr ⟨pid, p, _, sumText, books, isOrder, ?_⟩
    -- every other refund is an old one
    have below : ∀ other, other ≠ refundNo →
        Table.weigh (refundWeight orderNo countedStatuses) (s'.db.refunds.find other) ≤
          Table.weigh (refundWeight orderNo countedStatuses) (s.db.refunds.find other) := by
      intro other different
      rcases (shrinks other).2 with isNew' | below
      · have isNew' : s.db.refunds.find other = none := isNew'
        cases now' : s'.db.refunds.find other with
        | none => exact Nat.zero_le _
        | some row' =>
            rw [eq] at now'
            obtain ⟨lock', sum', stamp', rest', split', _⟩ := booked_of_new publishes isNew' now'
            have sameBooking : row'.toRefundBooking = row.toRefundBooking := by
              rw [split'] at split
              simp only [List.cons.injEq] at split
              injection split.2.2.1 with isStmt
              exact Stmt.insertRefund.inj isStmt
            have isKey' : row'.refundNo = other := Db.refundNo_of_find now'
            exact absurd ((isKey'.symm.trans (congrArg RefundBooking.refundNo sameBooking)).trans
              isKey) different
      · exact below
    have grown := Table.total_le_add below
    have weighs : Table.weigh (refundWeight orderNo countedStatuses) (s'.db.refunds.find refundNo) ≤
        PayUtils.fenOf row.amount := by
      rw [eq, now]
      exact refundWeight_le _ _ _
    exact grown.trans (Nat.add_le_add_left weighs _)
  · refine Or.inl (Table.total_le fun refundNo => ?_)
    rcases (shrinks refundNo).2 with isNew | below
    · cases now : s'.db.refunds.find refundNo with
      | none => exact Nat.zero_le _
      | some row =>
          have other : row.orderNo ≠ orderNo :=
            fun isOrder => booked ⟨refundNo, row, isNew, now, isOrder⟩
          simp [Table.weigh, refundWeight, other]
    · exact below

/-! ## The sum of an open booking -/

/-- Two transactions have not summed up the refunds of the same order. -/
def SumsApart (a b : List PayEntry) : Prop :=
  ∀ orderNo, sumsOrder orderNo a = true → sumsOrder orderNo b = false

theorem sumsOrder_of_saw {record : List PayEntry} {sumText : Bytes}
    (saw : Saw record (.sumRefunds orderNo countedStatuses) sumText) : sumsOrder orderNo record := by
  rw [sumsOrder, List.any_eq_true]
  exact ⟨_, saw, by simp⟩

/-- A statement that adds an order to those a transaction has summed up is the
sum. -/
theorem sumsOrder_snoc {record : List PayEntry} {st : Stmt} {res : st.Res}
    (sums : sumsOrder orderNo (record ++ [.ran st res])) :
    sumsOrder orderNo record ∨ st = .sumRefunds orderNo countedStatuses := by
  rw [sumsOrder, List.any_append, Bool.or_eq_true] at sums
  refine sums.imp id fun last => ?_
  cases st with
  | sumRefunds summed statuses =>
      simp only [List.any_cons, List.any_nil, Bool.or_false, Bool.and_eq_true,
        decide_eq_true_eq] at last
      rw [last.1, last.2]
  | _ => simp at last

/-- The refunds of an order are summed up for one booking at a time. -/
theorem sums_apart (run : PayRun cfg (fun s event => capGuarded s event = true) events s) :
    s.Apart SumsApart := by
  refine run.apart ?_ ?_ ?_
  · intro a b apart orderNo inB
    cases inA : sumsOrder orderNo a with
    | false => rfl
    | true => rw [apart orderNo inA] at inB; cases inB
  · intro b orderNo sums
    cases sums
  · intro s event pid p record st res guarded runs apart other r different found orderNo sums
    rcases sumsOrder_snoc sums with before | rfl
    · have earlier := apart pid other p r different.symm runs.proc found orderNo
      rw [runs.slot] at earlier
      exact earlier before
    · obtain ⟨env, rfl, _⟩ := runs.result
      have executes := runs.executing
      simp only [capGuarded, executes, Bool.or_eq_true, Bool.and_eq_true, List.all_eq_true] at guarded
      have alone := (guarded.resolve_left (by simp)).1 r (Sys.mem_others different found)
      simpa using alone

/-- The sum an open booking has read is not less than what counts now, and its
comparison does not wrap. -/
def SumHolds (db : Db) (slot : Slot paySig) (log : List PayEntry) : Prop :=
  ∀ orderNo sumText fen, Saw slot.record (.sumRefunds orderNo countedStatuses) sumText →
    PayUtils.parseAmountToFen sumText = some fen →
    db.refundFen orderNo countedStatuses ≤ fen ∧
      ∃ request key uuid, Owner log (.createRefund request key uuid) ∧
        fen + PayUtils.fenOf request.amount < 2 ^ 63

theorem SumHolds.lower {db db' : Db} {slot : Slot paySig} {log : List PayEntry}
    (holds : SumHolds db slot log)
    (lower : ∀ orderNo sumText, Saw slot.record (.sumRefunds orderNo countedStatuses) sumText →
      db'.refundFen orderNo countedStatuses ≤ db.refundFen orderNo countedStatuses) :
    SumHolds db' slot log := by
  intro orderNo sumText fen saw parsed
  obtain ⟨below, fits⟩ := holds orderNo sumText fen saw parsed
  exact ⟨(lower orderNo sumText saw).trans below, fits⟩

theorem SumHolds.calm {db : Db} {slot slot' : Slot paySig} {log log' : List PayEntry}
    (holds : SumHolds db slot log) (calm : Sys.Calm slot log slot' log') :
    SumHolds db slot' log' := by
  obtain ⟨kept | dropped, extra, rfl, _⟩ := calm
  · rw [kept]
    intro orderNo sumText fen saw parsed
    obtain ⟨below, request, key, uuid, owner, fits⟩ := holds orderNo sumText fen saw parsed
    exact ⟨below, request, key, uuid, owner.append extra, fits⟩
  · intro orderNo sumText fen saw
    rw [dropped] at saw
    exact absurd saw List.not_mem_nil

/-- The sum is exact when it is taken. -/
theorem sumHolds_sum {pid : Nat} {record : List PayEntry} {st : Stmt} {res : st.Res}
    (run : PayRun cfg (fun s event => capGuarded s event = true) events s)
    (guarded : capGuarded s event = true) (runs : s.RunsOnTxn event pid p record st res)
    (before : SumHolds s.db p.slot p.log) :
    SumHolds s.db (.active (record ++ [.ran st res])) p.log := by
  intro orderNo sumText fen saw parsed
  rcases List.mem_append.mp saw with old | new
  · rw [runs.slot] at before
    exact before orderNo sumText fen old parsed
  · have same := List.mem_singleton.mp new
    injection same with isStmt isRes
    subst isStmt
    cases isRes
    obtain ⟨env, rfl, ran⟩ := runs.result
    have promise : SumPromise p.log (some record) orderNo :=
      (runs.issue (run.obliged (verified_serve cfg)) :
        Promise p.log (some record) (.sumRefunds orderNo countedStatuses)) rfl
    obtain ⟨⟨paymentNo, payment, isRecord⟩, amount, refundFen, totalFen, seen⟩ := promise
    cases isRecord
    -- all the transaction has done is to lock the payment
    have sees : s.view [.ran (.lockPayment paymentNo orderNo) (some payment)] = s.db := rfl
    have executes := runs.executing
    rw [sees] at ran executes
    have reads := sum_reads (refunds_worth run).1 ran
    rw [parsed] at reads
    split at reads
    · have isFen : fen = s.db.refundFen orderNo countedStatuses := Option.some.inj reads
      obtain ⟨⟨request, key, uuid, owner, isOrder, isAmount⟩, _⟩ := seen
      refine ⟨isFen.ge, request, key, uuid, owner, ?_⟩
      simp only [capGuarded, executes, Bool.or_eq_true, Bool.and_eq_true] at guarded
      have fits := (guarded.resolve_left (by simp)).2
      rw [runs.proc] at fits
      have asked : askedOf p.log = PayUtils.fenOf request.amount := by
        rw [askedOf, requestOf_owner owner]
      rw [isFen, ← asked]
      simpa using fits
    · cases reads

theorem sums_hold (run : PayRun cfg (fun s event => capGuarded s event = true) events s) :
    ∀ p ∈ s.procs, SumHolds s.db p.slot p.log := by
  induction run with
  | nil => simp [Sys.initial]
  | @snoc _ event s s' run guarded stepped inductionHypothesis =>
      have grows := fen_step run guarded stepped
      cases isMover : event.mover with
      | none =>
          cases event with
          | spawn request =>
              cases stepped
              intro p member
              rcases List.mem_append.mp member with old | new
              · exact inductionHypothesis p old
              · rw [List.mem_singleton.mp new]
                exact fun orderNo sumText fen saw => absurd saw List.not_mem_nil
          | _ => cases isMover
      | some pid =>
        obtain ⟨p, slot, log, m, moves, rfl⟩ := Sys.step_moves stepped isMover
        have before := inductionHypothesis p (List.mem_of_getElem? moves.proc)
        -- a booking that commits has summed up the order, so nobody else has
        have lower : ∀ other r, s.procs[other]? = some r →
            (other = pid → ∀ record, ¬ s.Commits event pid p record) →
            ∀ orderNo sumText, Saw r.slot.record (.sumRefunds orderNo countedStatuses) sumText →
              (s.after pid m).db.refundFen orderNo countedStatuses ≤
                s.db.refundFen orderNo countedStatuses := by
          intro other r found stays orderNo sumText saw
          rcases grows orderNo with below | ⟨pid', p', booking, sumText', books, rfl, _⟩
          · exact below
          · obtain ⟨record, commits, summed⟩ := books.commits
            have sameMover : pid' = pid :=
              Option.some.inj (commits.mover.symm.trans isMover)
            subst sameMover
            by_cases isOther : other = pid'
            · have sameProc : p' = p := Option.some.inj (commits.proc.symm.trans moves.proc)
              exact absurd (sameProc ▸ commits) (stays isOther record)
            · have apart := sums_apart run other pid' r p' isOther found commits.proc
                booking.orderNo (sumsOrder_of_saw saw)
              rw [commits.slot, Slot.record_active, sumsOrder_of_saw summed] at apart
              cases apart
        refine Sys.forall_after (P := SumHolds (s.after pid m).db) moves
          (fun calm holds => holds.calm calm) ?_ ?_
        · have acts := moves.acts
          generalize isCommits : m.commits = commits at acts
          cases acts with
          | calm calm =>
              have same : (s.after pid m).db = s.db := by
                rw [Sys.after, isCommits, Store.applyAll_nil]
              rw [same]
              exact before.calm calm
          | onDb runs =>
              have apart : ∀ record, ¬ s.Commits event pid p record := by
                intro record commits
                obtain ⟨k, rest, head⟩ := runs.head
                rcases commits.head with empty | ⟨k', rest', isCommit⟩
                · rw [head] at empty; cases empty
                · rw [head] at isCommit; cases isCommit
              have kept := before.lower (lower pid p moves.proc fun _ => apart)
              intro orderNo sumText fen saw parsed
              obtain ⟨below, request, key, uuid, owner, fits⟩ := kept orderNo sumText fen saw parsed
              exact ⟨below, request, key, uuid, owner.append _, fits⟩
          | onTxn runs =>
              have same : (s.after pid m).db = s.db := by
                rw [Sys.after, isCommits, Store.applyAll_nil]
              rw [same]
              exact sumHolds_sum run guarded runs before
          | commit _ => exact fun orderNo sumText fen saw => absurd saw List.not_mem_nil
        · intro other r different found
          exact (inductionHypothesis r (List.mem_of_getElem? found)).lower
            (lower other r found fun same => absurd same different)

/-! ## The promise -/

/-- The fen an order was booked for; none while there is no order. -/
def orderFen (db : Db) (orderNo : Bytes) : Nat :=
  ((db.orders.find orderNo).map fun order => PayUtils.fenOf order.amount).getD 0

theorem fen_below (run : PayRun cfg (fun s event => capGuarded s event = true) events s)
    (orderNo : Bytes) : s.db.refundFen orderNo countedStatuses ≤ orderFen s.db orderNo := by
  induction run with
  | nil => exact Nat.zero_le _
  | @snoc _ event s s' run guarded stepped inductionHypothesis =>
      have stays : orderFen s.db orderNo ≤ orderFen s'.db orderNo := by
        have kept : Kept (fun before now : OrderRow => before.toOrderBooking = now.toOrderBooking)
            (s.db.orders.find orderNo) (s'.db.orders.find orderNo) :=
          run.column_step orderColumn_keeps_booking guarded stepped orderNo
        unfold orderFen
        cases found : s.db.orders.find orderNo with
        | none => exact Nat.zero_le _
        | some order =>
            obtain ⟨order', found', booked⟩ := kept order found
            have sameAmount : order.amount = order'.amount := congrArg OrderBooking.amount booked
            rw [found', Option.map_some, Option.map_some, sameAmount]
      rcases fen_step run guarded stepped orderNo with below |
        ⟨pid, p, booking, sumText, books, rfl, grown⟩
      · exact (below.trans inductionHypothesis).trans stays
      · obtain ⟨record, commits, summed⟩ := books.commits
        obtain ⟨refundedFen, refundFen, totalFen, seen, isSum, fits⟩ := books.compared
        obtain ⟨⟨request, key, uuid, owner, _, isAmount⟩, ⟨order, found, worth⟩, parsed, _⟩ := seen
        have member := List.mem_of_getElem? commits.proc
        have held := sums_hold run p member
        rw [commits.slot] at held
        obtain ⟨below, request', key', uuid', owner', small⟩ :=
          held booking.orderNo sumText refundedFen summed isSum
        cases owner.unique owner'
        rw [isAmount, PayUtils.fenOf_eq parsed] at small
        rw [PayUtils.fenOf_eq parsed] at grown
        rw [addInt64_exact small] at fits
        have total : orderFen s.db booking.orderNo = totalFen := by
          obtain ⟨row, isRow, booked⟩ := order_known run member found
          have sameAmount : order.amount = row.amount := congrArg OrderBooking.amount booked
          rw [orderFen, isRow, Option.map_some, Option.getD_some, ← sameAmount,
            PayUtils.fenOf_eq worth]
        omega

end Runs

/-- No order is refunded beyond its amount in a run whose steps are guarded. -/
theorem no_over_refund {cfg : Config} {events : List PayEvent} {s : PaySys}
    (run : PayRun cfg (fun s event => capGuarded s event = true) events s) : NoOverRefund s.db := by
  intro orderNo order found
  have below := fen_below run orderNo
  rw [orderFen, found, Option.map_some, Option.getD_some] at below
  exact below

/-- Four and six of ten yuan. -/
def refundedInParts : List PayEvent :=
  paidOnWechat ++ [.spawn (.createRefund (refundOf "r" "4.00") [] (drawn "u"))] ++ steps 2 10 3 ++
    [.answer 2 (refundAnswer "SUCCESS")] ++ steps 2 2 3 ++
    [.spawn (.createRefund (refundOf "q" "6.00") [] (drawn "v"))] ++ steps 3 10 4

theorem no_over_refund_in_parts :
    ∃ s, PayRun shop (fun s event => capGuarded s event = true) refundedInParts s ∧
      refundIs s.db "r" .REFUND_SUCCESS ∧ refundIs s.db "q" .REFUND_INIT ∧ NoOverRefund s.db := by
  obtain ⟨s, run, refunded⟩ := replay_run capGuarded refundedInParts
    (fun s => refundIs s.db "r" .REFUND_SUCCESS && refundIs s.db "q" .REFUND_INIT)
    (by decide +kernel)
  rw [Bool.and_eq_true] at refunded
  exact ⟨s, run, refunded.1, refunded.2, no_over_refund run⟩

/-- A refund of ten yuan is closed, another one is booked, and a query of the
first is answered that it was made. -/
def closedThenMade : List PayEvent :=
  paidOnWechat ++ [.spawn (.createRefund (refundOf "r" "10.00") [] (drawn "u"))] ++ steps 2 10 3 ++
    [.answer 2 (refundAnswer "CLOSED")] ++ steps 3 1 3 ++
    [.spawn (.createRefund (refundOf "q" "10.00") [] (drawn "v"))] ++ steps 4 10 4 ++
    [.spawn (.queryRefund (ascii "r"))] ++ steps 5 1 5 ++ [.answer 5 (refundAnswer "SUCCESS")] ++
    steps 5 10 5

theorem over_refund_by_query :
    ¬ ∀ (cfg : Config) (events : List PayEvent) (s : PaySys),
      PayRun cfg (fun _ _ => True) events s → NoOverRefund s.db := by
  intro claim
  obtain ⟨s, run, holds⟩ := replay_run (fun _ _ => true) closedThenMade
    (fun s => (s.db.orders.find (ascii "o")).any fun order =>
      PayUtils.fenOf order.amount < s.db.refundFen (ascii "o") countedStatuses)
    (by decide +kernel)
  simp only [Option.any_eq_true, decide_eq_true_eq] at holds
  obtain ⟨order, found, exceeds⟩ := holds
  have within := claim shop _ s (run.mono fun _ _ _ => trivial) _ order found
  exact absurd within (Nat.not_le.mpr exceeds)

end RefundService
end DrogonPay
