import DrogonPay.Laws.RefundTotals
import DrogonPay.Laws.Settled
import DrogonPay.ReadCommitted.Origins

/-!
Contract: an order is REFUNDED only when its refunds cover it.

Owns:
- `Covered`, what it takes: the total of the order is positive and not more than
  its refunds that are or were REFUND_SUCCESS;
- `RefundedWhenCovered`, the law over every committed change to REFUNDED, kept by
  every run.

Does not own: that a covered order becomes REFUNDED.
-/

namespace DrogonPay

open ReadCommitted

namespace RefundService

/-- The refund was REFUND_SUCCESS in one of these states. -/
def wasSettled (states : List Db) (refundNo : Bytes) : Bool :=
  states.any fun db => (db.refunds.find refundNo).any fun row => row.status = .REFUND_SUCCESS

/-- The fen of an order's refunds that were settled in one of the states. -/
def settledFen (states : List Db) (db : Db) (orderNo : Bytes) : Nat :=
  db.refunds.total fun row =>
    if row.orderNo = orderNo && wasSettled states row.refundNo then PayUtils.fenOf row.amount else 0

/-- The order has a positive total, and the refunds settled so far cover it. -/
def Covered (states : List Db) (db : Db) (orderNo : Bytes) : Prop :=
  ∃ order fen, db.orders.find orderNo = some order ∧
    PayUtils.parseAmountToFen order.amount = some fen ∧ 0 < fen ∧ fen ≤ settledFen states db orderNo

def IsRefunded (db : Db) (orderNo : Bytes) : Prop :=
  (db.orders.find orderNo).any fun order => order.status = .REFUNDED

/-- Whenever a commit made an order REFUNDED, it was covered by then. -/
def RefundedWhenCovered (s : PaySys) : Prop :=
  ∀ db' db earlier, db' :: db :: earlier <:+ s.history → ∀ orderNo, IsRefunded db' orderNo →
    ¬ IsRefunded db orderNo → Covered (db' :: db :: earlier) db' orderNo

/-! ## Refunds that were settled -/

/-- The refund keeps its booking, and was settled by now if it was then. -/
def RemembersSettled (history : List Db) (refundNo : Bytes) (old new : Option RefundRow) : Prop :=
  Kept (fun before now => before.toRefundBooking = now.toRefundBooking) old new ∧
    (old.any (fun row => row.status = .REFUND_SUCCESS) →
      new.any (fun row => row.status = .REFUND_SUCCESS) ∨ wasSettled history refundNo)

theorem wasSettled_later {db : Db} {history : List Db} {refundNo : Bytes}
    (was : wasSettled history refundNo) : wasSettled (db :: history) refundNo := by
  rw [wasSettled, List.any_cons, Bool.or_eq_true]
  exact Or.inr was

/-- A statement keeps a refund settled, unless it is an update by primary key. -/
theorem RefundAfter.keeps_settled {st : Stmt} {refundNo : Bytes} {old new : Option RefundRow}
    (after : RefundAfter st refundNo old new)
    (guarded : ∀ status refundId, st ≠ .updateRefund refundNo status refundId)
    (settled : old.any fun row => row.status = .REFUND_SUCCESS) :
    new.any fun row => row.status = .REFUND_SUCCESS := by
  cases after with
  | same => exact settled
  | inserted _ _ => cases settled
  | moved move =>
      cases move with
      | cas unsettled =>
          rcases unsettled with isInit | isOpen
          · simp [isInit] at settled
          · simp [isOpen] at settled
      | update => exact absurd rfl (guarded _ _)
  | touched => exact settled

theorem refundColumn_remembers {ok : PaySys → PayEvent → Prop} :
    refundColumn.Keeps RemembersSettled fun s event => ok s event ∧ s.Obliged payContract := by
  refine ⟨fun _ _ row => ⟨Kept.refl (by simp) row, Or.inl⟩, ?_, ?_, ?_, ?_⟩
  · rintro history refundNo a b c ⟨kept, settled⟩ ⟨kept', settled'⟩
    refine ⟨kept.trans kept' fun first second => first.trans second, fun was => ?_⟩
    exact (settled was).elim settled' Or.inr
  · rintro history db refundNo a b ⟨kept, settled⟩
    exact ⟨kept, fun was => (settled was).imp_right wasSettled_later⟩
  · intro s event pid p st res meets runs refundNo
    obtain ⟨env, _, ran⟩ := runs.result
    -- what a pooled statement sees is committed
    refine ⟨(refund_after ran refundNo).keeps_booking, fun settled => Or.inr ?_⟩
    simp only [wasSettled, Sys.history, List.any_cons, Bool.or_eq_true]
    exact Or.inl settled
  · intro s event pid p record st res meets runs refundNo
    obtain ⟨env, _, ran⟩ := runs.result
    refine ⟨(refund_after ran refundNo).keeps_booking, fun settled => ?_⟩
    by_cases byKey : ∃ status refundId, st = .updateRefund refundNo status refundId
    · obtain ⟨status, refundId, rfl⟩ := byKey
      -- an update by primary key opens its transaction
      obtain ⟨_, rfl, _⟩ := runs.issue meets.2
      refine Or.inr ?_
      simp only [wasSettled, Sys.history, List.any_cons, Bool.or_eq_true]
      exact Or.inl settled
    · refine Or.inl (RefundAfter.keeps_settled (refund_after ran refundNo) ?_ settled)
      exact fun status refundId isUpdate => byKey ⟨status, refundId, isUpdate⟩

section Runs

variable {cfg : Config} {ok : PaySys → PayEvent → Prop} {events : List PayEvent} {s : PaySys}
  {p : PayProc} {orderNo : Bytes}

/-- What a process summed up is not more than what was settled by now. -/
theorem settled_of_sum (run : PayRun cfg ok events s) (member : p ∈ s.procs) {sumText : Bytes}
    (saw : Saw p.log (.sumRefunds orderNo [.REFUND_SUCCESS]) sumText) :
    PayUtils.fenOf sumText ≤ settledFen s.history s.db orderNo := by
  have obliged := run.with_invariant fun run => run.obliged (verified_serve cfg)
  obtain ⟨seen, env, ran, worth, remembers, _⟩ :=
    (obliged.recalls refundColumn_remembers refunds_worth p member).1 _ _ saw
  refine (fenOf_sum_le worth ran).trans (Table.total_le fun refundNo => ?_)
  obtain ⟨kept, settled⟩ := remembers refundNo
  cases found : seen.refunds.find refundNo with
  | none => exact Nat.zero_le _
  | some row =>
      simp only [refundColumn, found] at kept settled
      obtain ⟨row', found', booked⟩ := kept row rfl
      rw [found']
      simp only [Table.weigh, refundWeight]
      by_cases counted : (row.orderNo = orderNo && [RefundStatus.REFUND_SUCCESS].contains row.status)
      · simp only [Bool.and_eq_true, decide_eq_true_eq, List.contains_eq_mem, List.mem_singleton]
          at counted
        have isKey : row'.refundNo = refundNo := Db.refundNo_of_find found'
        have was : wasSettled s.history refundNo := by
          rcases settled (by simp [counted.2]) with now | was
          · rw [wasSettled, Sys.history, List.any_cons, Bool.or_eq_true]
            exact Or.inl now
          · exact was
        have sameOrder : row'.orderNo = orderNo :=
          (congrArg RefundBooking.orderNo booked).symm.trans counted.1
        have sameAmount : row.amount = row'.amount := congrArg RefundBooking.amount booked
        simp [counted, isKey, was, sameOrder, sameAmount]
      · rw [if_neg counted]
        exact Nat.zero_le _

/-- An order whose process made the decision is covered. -/
theorem covered_of_promise (run : PayRun cfg ok events s) (member : p ∈ s.procs)
    {known : List PayEntry} (logged : known ⊆ p.log) (promise : CoverPromise known orderNo) :
    Covered s.history s.db orderNo := by
  obtain ⟨order, sumText, found, summed, covers⟩ := promise
  obtain ⟨row, isThere, booked⟩ := order_known run member (logged found)
  have settled := settled_of_sum run member (logged summed)
  simp only [PayUtils.refundsCoverOrderAmount, Bool.and_eq_true, decide_eq_true_eq] at covers
  have sameAmount : order.amount = row.amount := congrArg OrderBooking.amount booked
  rw [sameAmount] at covers
  cases parsed : PayUtils.parseAmountToFen row.amount with
  | none =>
      rw [PayUtils.fenOf_eq_zero parsed] at covers
      exact absurd covers.1 (Nat.lt_irrefl 0)
  | some fen =>
      rw [PayUtils.fenOf_eq parsed] at covers
      exact ⟨row, fen, isThere, parsed, covers.1, covers.2.trans settled⟩

/-- One step makes an order REFUNDED only when it is covered. -/
theorem covered_of_step {event : PayEvent} {s' : PaySys} (run : PayRun cfg ok events s)
    (meets : ok s event) (stepped : s.step (serve cfg) event = some s')
    (now : IsRefunded s'.db orderNo) (notBefore : ¬ IsRefunded s.db orderNo) :
    Covered s'.history s'.db orderNo := by
  rcases run.step_publishes (verified_serve cfg) stepped with same | ⟨pid, p, entries, publishes, eq⟩
  · rw [same] at now
    exact absurd now notBefore
  · rw [eq] at now
    obtain ⟨st, res, made⟩ : ∃ st res, Made payContract orderColumn
        (fun row => row.any fun order => order.status = .REFUNDED) orderNo (p.log ++ entries) st res :=
      publishes.made now notBefore
    obtain ⟨q, member, longer⟩ := publishes.remembered stepped
    obtain ⟨w, old, write, fails, becomes⟩ := made.changed
    obtain ⟨before, after, known, record, split, issue, isPrefix, within⟩ := made.issued
    have promise : CoverPromise (known ++ record.getD []) orderNo := by
      rcases moves_of_refunded write fails becomes with rfl | rfl
      · exact issue.2.2 rfl
      · exact issue
    refine covered_of_promise (run.snoc meets stepped) member ?_ promise
    refine List.Subset.trans (List.append_subset.mpr ⟨isPrefix.subset, ?_⟩)
      (List.Subset.trans ?_ longer.subset)
    · cases record with
      | none => exact List.nil_subset _
      | some entries => exact within entries rfl
    · rw [split]
      exact List.subset_append_left _ _

end Runs

/-- Every run makes orders REFUNDED only when they are covered. -/
theorem refunded_when_covered {cfg : Config} {ok : PaySys → PayEvent → Prop}
    {events : List PayEvent} {s : PaySys} (run : PayRun cfg ok events s) :
    RefundedWhenCovered s := by
  induction run with
  | nil =>
      intro db' db earlier suffix
      simpa [Sys.initial, Sys.history] using suffix.length_le
  | @snoc _ event s s' run meets stepped inductionHypothesis =>
      intro db' db earlier suffix orderNo now notBefore
      by_cases older : db' :: db :: earlier <:+ s.history
      · exact inductionHypothesis db' db earlier older orderNo now notBefore
      · -- the newest change
        rcases Sys.step_cases stepped with ⟨request, _, rfl⟩ | ⟨pid, p, slot, log, m, moves, rfl⟩
        · exact absurd suffix older
        · rcases List.suffix_cons_iff.mp suffix with newest | before
          · obtain ⟨rfl, rest⟩ := List.cons.inj newest
            obtain ⟨rfl, rfl⟩ := List.cons.inj rest
            exact covered_of_step run meets stepped now notBefore
          · exact absurd before older

/-- Ten of ten yuan are refunded. -/
def refundedInFull : List PayEvent :=
  paidOnWechat ++ [.spawn (.createRefund (refundOf "r" "10.00") [] (drawn "u"))] ++ steps 2 10 3 ++
    [.answer 2 (refundAnswer "SUCCESS")] ++ steps 2 3 3

theorem refunded_when_covered_in_full :
    ∃ s, PayRun shop (fun _ _ => True) refundedInFull s ∧ orderIs s.db "o" .REFUNDED = true ∧
      RefundedWhenCovered s := by
  obtain ⟨s, run, refunded⟩ := replay_run (fun _ _ => true) refundedInFull
    (fun s => orderIs s.db "o" .REFUNDED) (by decide +kernel)
  exact ⟨s, run.mono fun _ _ _ => trivial, refunded, refunded_when_covered run⟩

end RefundService
end DrogonPay
