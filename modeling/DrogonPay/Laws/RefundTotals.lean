import DrogonPay.Laws.Amounts
import DrogonPay.Promises.Programs

/-!
Contract: what the sums over the refunds of an order say.

Owns:
- `Db.refundFen`, the fen of an order's refunds in some statuses, and
  `sum_reads`: the text the database answers is that number, or is not read;
- `RefundsWorth`, which every committed state and every open transaction meets:
  the amount of a refund is positive.

Does not own: which sums are compared with what.
-/

namespace DrogonPay

open ReadCommitted RefundService

/-- What a refund adds to the sum over its order, by its status. -/
def refundWeight (orderNo : Bytes) (statuses : List RefundStatus) (row : RefundRow) : Nat :=
  if row.orderNo = orderNo && statuses.contains row.status then PayUtils.fenOf row.amount else 0

/-- The fen of an order's refunds in these statuses. -/
def Db.refundFen (db : Db) (orderNo : Bytes) (statuses : List RefundStatus) : Nat :=
  db.refunds.total (refundWeight orderNo statuses)

/-- Every refund has a positive amount. -/
def RefundsWorth (db : Db) : Prop :=
  ∀ refundNo row, db.refunds.find refundNo = some row →
    ∃ fen, PayUtils.parseAmountToFen row.amount = some fen ∧ 0 < fen

theorem sum_refundsOf (db : Db) (orderNo : Bytes) (statuses : List RefundStatus) :
    (((db.refundsOf orderNo statuses).map (·.amount)).map PayUtils.fenOf).sum =
      db.refundFen orderNo statuses := by
  simp only [Db.refundsOf, Db.refundFen, Table.total]
  induction db.refunds.rows with
  | nil => rfl
  | cons row rest inductionHypothesis =>
      rw [List.map_cons, List.sum_cons, ← inductionHypothesis, List.filter_cons, refundWeight]
      split
      · rfl
      · exact (Nat.zero_add _).symm

/-- A sum that is read is the fen of the refunds. -/
theorem sum_reads {seen : payStore.Db} {env : payStore.Env} {orderNo : Bytes} {statuses : List RefundStatus}
    {sumText : Bytes} (worth : RefundsWorth seen)
    (ran : payStore.run seen env (.sumRefunds orderNo statuses) = some sumText) :
    PayUtils.parseAmountToFen sumText =
      if seen.refundFen orderNo statuses / 100 ≤ PayUtils.maxYuan then
        some (seen.refundFen orderNo statuses) else none := by
  have positive : ∀ amount ∈ (seen.refundsOf orderNo statuses).map (·.amount),
      ∃ fen, PayUtils.parseAmountToFen amount = some fen ∧ 0 < fen := by
    intro amount member
    obtain ⟨row, listed, rfl⟩ := List.mem_map.mp member
    exact worth row.refundNo row
      (Table.find_eq_some_iff.mpr ⟨(List.mem_filter.mp listed).1, rfl⟩)
  obtain ⟨text, isSum, parsed⟩ := parse_numericSum positive
  obtain rfl : text = sumText := Option.some.inj (isSum.symm.trans ran)
  rw [parsed, sum_refundsOf]

/-- What a sum is taken for never exceeds the fen of the refunds. -/
theorem fenOf_sum_le {seen : payStore.Db} {env : payStore.Env} {orderNo : Bytes} {statuses : List RefundStatus}
    {sumText : Bytes} (worth : RefundsWorth seen)
    (ran : payStore.run seen env (.sumRefunds orderNo statuses) = some sumText) :
    PayUtils.fenOf sumText ≤ seen.refundFen orderNo statuses := by
  rw [PayUtils.fenOf, sum_reads worth ran]
  split
  · rfl
  · exact Nat.zero_le _

section Runs

variable {cfg : Config} {ok : PaySys → PayEvent → Prop} {events : List PayEvent} {s : PaySys}

/-- A refund is booked with a positive amount. -/
private theorem refundColumn_keeps_worth :
    refundColumn.Keeps
      (fun _ _ old new => (∀ row, old = some row →
          ∃ fen, PayUtils.parseAmountToFen row.amount = some fen ∧ 0 < fen) →
        ∀ row, new = some row → ∃ fen, PayUtils.parseAmountToFen row.amount = some fen ∧ 0 < fen)
      fun s event => ok s event ∧ s.Obliged payContract := by
  have each : ∀ {db : Db} {env : Env} {st : Stmt} {res : st.Res}, st.run db env = some res →
      (∀ booking, st = .insertRefund booking →
        ∃ fen, PayUtils.parseAmountToFen booking.amount = some fen ∧ 0 < fen) →
      ∀ refundNo, (∀ row, db.refunds.find refundNo = some row →
          ∃ fen, PayUtils.parseAmountToFen row.amount = some fen ∧ 0 < fen) →
        ∀ row, (payStore.applyAll db (st.writes res)).refunds.find refundNo = some row →
          ∃ fen, PayUtils.parseAmountToFen row.amount = some fen ∧ 0 < fen := by
    intro db env st res ran booked refundNo worth row found
    have after := refund_after ran refundNo
    rw [found] at after
    revert worth
    generalize db.refunds.find refundNo = old at after
    intro worth
    cases after with
    | same => exact worth row rfl
    | inserted issued _ => exact booked _ issued
    | @moved before _ _ _ _ => exact worth before rfl
    | @touched before _ => exact worth before rfl
  have promised : ∀ {log : List PayEntry} {record : Option (List PayEntry)} {st : Stmt},
      Promise log record st → ∀ booking, st = .insertRefund booking →
        ∃ fen, PayUtils.parseAmountToFen booking.amount = some fen ∧ 0 < fen := by
    rintro log record st promise booking rfl
    obtain ⟨_, _, _, refundFen, _, _, seen, _⟩ := promise
    exact ⟨refundFen, seen.2.2.1, seen.2.2.2.1⟩
  refine ⟨fun _ _ _ worth => worth, fun _ _ _ _ _ first second worth => second (first worth),
    fun kept => kept, ?_, ?_⟩
  · intro s event pid p st res meets runs refundNo
    obtain ⟨env, _, ran⟩ := runs.result
    exact each ran (promised (runs.issue meets.2)) refundNo
  · intro s event pid p record st res meets runs refundNo
    obtain ⟨env, _, ran⟩ := runs.result
    exact each ran (promised (runs.issue meets.2)) refundNo

/-- The refunds of every run have positive amounts, also as an open transaction
sees them. -/
theorem refunds_worth (run : PayRun cfg ok events s) :
    RefundsWorth s.db ∧ ∀ p ∈ s.procs, RefundsWorth (s.view p.slot.record) := by
  have obliged := run.with_invariant fun run => run.obliged (verified_serve cfg)
  exact obliged.column_holds refundColumn_keeps_worth
    (by simp [refundColumn, Db.empty, Table.find, Table.empty])

end Runs

end DrogonPay
