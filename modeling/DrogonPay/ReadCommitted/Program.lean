import Mathlib.Tactic.NormNum
import Mathlib.Tactic.Tauto

/-!
Contract: callback programs that talk to a database and to the outside world,
and the local transition relation of one process that runs such a program.

Owns:
- `Prog`, the programs, in the shape callback code has: every statement carries
  the continuation that receives its result or its failure;
- `Proc`, a program in flight: the statements it has submitted in order, its
  transaction and the record of what it has observed;
- `Proc.Next`, everything one process can do next;
- `Verified`, the predicate "at every point this process can reach, the
  obligations of the contract hold", and one unfolding rule for each shape of
  the submission queue.

Does not own: the database, locks, or how processes interleave.
-/

namespace DrogonPay.ReadCommitted

/-- The vocabulary of a family of programs: the statements with their result
types, the calls to the outside with their answers, what a program reports to
its caller, and the requests that start one. `Possible` says which results a
statement can have in any database at all. -/
structure Sig where
  Stmt : Type
  Res : Stmt → Type
  Possible : (st : Stmt) → Res st → Prop
  Ext : Type
  Ans : Type
  Out : Type
  Req : Type

/-- Where a statement is submitted: on a pooled connection, where it commits by
itself, or on the transaction of the process. -/
inductive Target where
  | db
  | txn
deriving DecidableEq, Repr

/-- Callback programs. A statement's continuation receives `none` when the
statement failed. `both` submits the statements of two continuations on one
transaction, in order; `fork` hands one continuation to a process of its own. -/
inductive Prog (σ : Sig) where
  | done
  | sql (on : Target) (st : σ.Stmt) (k : Option (σ.Res st) → Prog σ)
  | call (x : σ.Ext) (k : σ.Ans → Prog σ)
  | start (k : Bool → Prog σ)
  | commit (k : Bool → Prog σ)
  | rollback (next : Prog σ)
  | reply (out : σ.Out) (next : Prog σ)
  | both (first second : Prog σ)
  | fork (child next : Prog σ)

/-- Why a statement failed: a constraint of the database refused it, or the
connection, the server or the process was lost. -/
inductive Failure where
  | refused
  | outage
deriving DecidableEq, Repr

/-- What a process has observed, one entry for each event of its life. -/
inductive Entry (σ : Sig) where
  | spawned (request : σ.Req)
  | ran (st : σ.Stmt) (res : σ.Res st)
  | failed (cause : Failure)
  | answered (x : σ.Ext) (a : σ.Ans)
  | replied (out : σ.Out)

/-- Entries that say nothing about the database. -/
def Entry.Quiet {σ : Sig} : Entry σ → Prop
  | .ran _ _ => False
  | _ => True

/-- No statement of this log failed. -/
def Unfailed {σ : Sig} (log : List (Entry σ)) : Prop := ∀ cause, Entry.failed cause ∉ log

theorem Unfailed.of_append {σ : Sig} {log more : List (Entry σ)} (clean : Unfailed (log ++ more)) :
    Unfailed log :=
  fun cause failed => clean cause (List.mem_append_left _ failed)

/-- The transaction of a process. An active transaction is the list of the
statements it has run with their results; its uncommitted writes are read off
that list. -/
inductive Slot (σ : Sig) where
  | none
  | active (record : List (Entry σ))
  | closed

/-- The entries an active transaction has collected. -/
def Slot.record {σ : Sig} : Slot σ → List (Entry σ)
  | .active record => record
  | _ => []

/-- Rolling back closes an active transaction and changes nothing else. -/
def Slot.rolledBack {σ : Sig} : Slot σ → Slot σ
  | .active _ => .closed
  | slot => slot

@[simp] theorem Slot.record_none {σ : Sig} : (Slot.none : Slot σ).record = [] := rfl

@[simp] theorem Slot.record_closed {σ : Sig} : (Slot.closed : Slot σ).record = [] := rfl

@[simp] theorem Slot.record_active {σ : Sig} (record : List (Entry σ)) :
    (Slot.active record).record = record := rfl

@[simp] theorem Slot.record_rolledBack {σ : Sig} (slot : Slot σ) :
    slot.rolledBack.record = [] := by
  cases slot <;> rfl

/-- A program in flight. `log` holds what is committed or was never in a
transaction; the entries of the transaction join it at the commit and are
dropped by a rollback. `queue` holds the submitted statements, oldest first. -/
structure Proc (σ : Sig) where
  slot : Slot σ
  log : List (Entry σ)
  queue : List (Prog σ)

namespace Proc

variable {σ : Sig}

/-- Everything the process knows: the log followed by its transaction. -/
def known (p : Proc σ) : List (Entry σ) := p.log ++ p.slot.record

/-- Run the synchronous part of a callback: roll back, report, fork, and submit
the statements it issues at the end of the queue. The second component lists
the forked programs. -/
def advance (p : Proc σ) : Prog σ → Proc σ × List (Prog σ)
  | .done => (p, [])
  | .rollback next => advance { p with slot := p.slot.rolledBack } next
  | .reply out next => advance { p with log := p.log ++ [.replied out] } next
  | .both first second =>
      ((advance (advance p first).1 second).1,
        (advance p first).2 ++ (advance (advance p first).1 second).2)
  | .fork child next => ((advance p next).1, child :: (advance p next).2)
  | .sql on st k => ({ p with queue := p.queue ++ [.sql on st k] }, [])
  | .call x k => ({ p with queue := p.queue ++ [.call x k] }, [])
  | .start k => ({ p with queue := p.queue ++ [.start k] }, [])
  | .commit k => ({ p with queue := p.queue ++ [.commit k] }, [])

/-- A new process of a request. -/
def spawn (request : σ.Req) (program : Prog σ) : Proc σ :=
  ⟨.none, [.spawned request], [program]⟩

/-- A forked process starts with what its parent knew outside a transaction. -/
def child (log : List (Entry σ)) (program : Prog σ) : Proc σ :=
  ⟨.none, log, [program]⟩

/-- The process after a statement failed; the transaction goes with it. -/
def abort (p : Proc σ) (cause : Failure) : Proc σ :=
  { p with slot := .closed, log := p.log ++ [.failed cause] }

/-- The process after a statement failed on a pooled connection. -/
def failedOnDb (p : Proc σ) (rest : List (Prog σ)) (cause : Failure) : Proc σ :=
  { p with queue := rest, log := p.log ++ [.failed cause] }

/-- The process after its transaction is committed. -/
def committed (p : Proc σ) : Proc σ :=
  { p with slot := .closed, log := p.log ++ p.slot.record }

/-- The process died: its transaction is lost and it submits nothing more. -/
def crash (p : Proc σ) : Proc σ :=
  ⟨.closed, p.log ++ [.failed .outage], []⟩

/-- The continuation of a statement that ran on a pooled connection. -/
def ranOnDb (p : Proc σ) (rest : List (Prog σ)) (st : σ.Stmt) (res : σ.Res st) : Proc σ :=
  { p with queue := rest, log := p.log ++ [.ran st res] }

/-- The continuation of a statement that ran on the transaction. -/
def ranOnTxn (p : Proc σ) (rest : List (Prog σ)) (st : σ.Stmt) (res : σ.Res st) : Proc σ :=
  { p with queue := rest, slot := .active (p.slot.record ++ [.ran st res]) }

/-- Everything a process can do next, together with the programs it forks. A
statement on a transaction that is gone reports a failure; a process that has
submitted everything commits its open transaction when it is destroyed. -/
def Next (p : Proc σ) (q : Proc σ × List (Prog σ)) : Prop :=
  match p.queue with
  | [] =>
      match p.slot with
      | .active _ => q = (p.committed, []) ∨ q = (p.abort .outage, [])
      | _ => False
  | .sql .db st k :: rest =>
      (∃ res, σ.Possible st res ∧ q = advance (p.ranOnDb rest st res) (k (some res))) ∨
        ∃ cause, q = advance (p.failedOnDb rest cause) (k none)
  | .sql .txn st k :: rest =>
      match p.slot with
      | .active _ =>
          (∃ res, σ.Possible st res ∧ q = advance (p.ranOnTxn rest st res) (k (some res))) ∨
            ∃ cause, q = advance { p.abort cause with queue := rest } (k none)
      | _ => q = advance { p with queue := rest } (k none)
  | .start k :: rest =>
      q = advance { p with queue := rest, slot := .active [] } (k true) ∨
        q = advance { p.abort .outage with queue := rest } (k false)
  | .commit k :: rest =>
      match p.slot with
      | .active _ =>
          q = advance { p.committed with queue := rest } (k true) ∨
            q = advance { p.abort .outage with queue := rest } (k false)
      | _ => q = advance { p with queue := rest } (k false)
  | .call x k :: rest =>
      ∃ a, q = advance { p with queue := rest, log := p.log ++ [.answered x a] } (k a)
  | program :: rest => q = advance { p with queue := rest } program

/-- The process has submitted something, or has a transaction to end. -/
def live (p : Proc σ) : Bool :=
  !p.queue.isEmpty ||
    match p.slot with
    | .active _ => true
    | _ => false

theorem live_of_record {p : Proc σ} {entry : Entry σ} (member : entry ∈ p.slot.record) :
    p.live = true := by
  cases isSlot : p.slot with
  | active record => simp [live, isSlot]
  | none | closed => simp [isSlot] at member

/-- Only such a process moves. -/
theorem Next.live {p : Proc σ} {q : Proc σ × List (Prog σ)} (next : p.Next q) :
    p.live = true := by
  cases isQueue : p.queue with
  | cons program rest => simp [Proc.live, isQueue]
  | nil =>
      cases isSlot : p.slot with
      | active record => simp [Proc.live, isSlot]
      | none | closed => simp [Next, isQueue, isSlot] at next

/-! ## What the synchronous part of a callback changes -/

/-- A callback keeps the transaction or rolls it back. -/
theorem advance_slot (p : Proc σ) (program : Prog σ) :
    (advance p program).1.slot = p.slot ∨
      (advance p program).1.slot = p.slot.rolledBack := by
  induction program generalizing p with
  | rollback next inductionHypothesis =>
      rcases inductionHypothesis { p with slot := p.slot.rolledBack } with same | rolled
      · exact Or.inr same
      · refine Or.inr (rolled.trans ?_)
        cases p.slot <;> rfl
  | reply out next inductionHypothesis => exact inductionHypothesis _
  | both first second firstHypothesis secondHypothesis =>
      rcases secondHypothesis (advance p first).1 with same | rolled
      · rcases firstHypothesis p with sameFirst | rolledFirst
        · exact Or.inl (same.trans sameFirst)
        · exact Or.inr (same.trans rolledFirst)
      · rcases firstHypothesis p with sameFirst | rolledFirst
        · exact Or.inr (rolled.trans (by rw [sameFirst]))
        · refine Or.inr (rolled.trans ?_)
          rw [rolledFirst]
          cases p.slot <;> rfl
  | fork child next _ inductionHypothesis => exact inductionHypothesis p
  | _ => exact Or.inl rfl

/-- A callback adds only reports to the log. -/
theorem advance_log (p : Proc σ) (program : Prog σ) :
    ∃ outs : List σ.Out,
      (advance p program).1.log = p.log ++ outs.map Entry.replied := by
  induction program generalizing p with
  | rollback next inductionHypothesis => exact inductionHypothesis _
  | reply out next inductionHypothesis =>
      obtain ⟨outs, eq⟩ := inductionHypothesis { p with log := p.log ++ [.replied out] }
      exact ⟨out :: outs, by simpa [advance] using eq⟩
  | both first second firstHypothesis secondHypothesis =>
      obtain ⟨firstOuts, firstEq⟩ := firstHypothesis p
      obtain ⟨secondOuts, secondEq⟩ := secondHypothesis (advance p first).1
      refine ⟨firstOuts ++ secondOuts, ?_⟩
      simp only [advance, secondEq, firstEq, List.map_append, List.append_assoc]
  | fork child next _ inductionHypothesis => exact inductionHypothesis p
  | _ => exact ⟨[], by simp [advance]⟩

end Proc

/-! ## Contracts -/

/-- What is asked of a family of programs. `issue` is asked when a statement is
about to run, on a pooled connection (`none`) or on a transaction with the given
record; `call` when the outside is asked; `commit` when a transaction is about to
commit; `finish` when a process that saw no failure has nothing left to do. -/
structure Contract (σ : Sig) where
  issue : List (Entry σ) → Option (List (Entry σ)) → σ.Stmt → Prop
  call : List (Entry σ) → σ.Ext → Prop
  commit : List (Entry σ) → List (Entry σ) → Prop
  finish : List (Entry σ) → Prop

variable {σ : Sig}

/-- What the contract asks of a process at this moment. -/
def Contract.Obligation (C : Contract σ) (p : Proc σ) : Prop :=
  match p.queue with
  | [] =>
      match p.slot with
      | .active record => C.commit p.log record
      | _ => Unfailed p.log → C.finish p.log
  | .sql .db st _ :: _ => C.issue p.log none st
  | .sql .txn st _ :: _ =>
      match p.slot with
      | .active record => C.issue p.log (some record) st
      | _ => True
  | .commit _ :: _ =>
      match p.slot with
      | .active record => C.commit p.log record
      | _ => True
  | .call x _ :: _ => C.call p.log x
  | _ => True

/-- The contract is kept at every point the process can reach, and by every
process it forks. -/
inductive Verified (C : Contract σ) : Proc σ → Prop where
  | mk {p : Proc σ} (now : C.Obligation p)
      (next : ∀ q kids, p.Next (q, kids) → Verified C q)
      (forked : ∀ q kids, p.Next (q, kids) → ∀ kid ∈ kids, Verified C (Proc.child q.log kid)) :
      Verified C p

/-- The process and the programs it forked keep the contract. -/
def VerifiedAll (C : Contract σ) (q : Proc σ × List (Prog σ)) : Prop :=
  Verified C q.1 ∧ ∀ kid ∈ q.2, Verified C (Proc.child q.1.log kid)

namespace Verified

variable {C : Contract σ}

theorem obligation {p : Proc σ} (verified : Verified C p) : C.Obligation p := by
  cases verified with
  | mk now _ _ => exact now

theorem step {p : Proc σ} {q : Proc σ × List (Prog σ)} (verified : Verified C p)
    (next : p.Next q) : VerifiedAll C q := by
  cases verified with
  | mk _ nexts forks => exact ⟨nexts q.1 q.2 next, forks q.1 q.2 next⟩

/-- One unfolding of the predicate; the rules below specialise it to each shape
of the queue. -/
theorem iff_next {p : Proc σ} :
    Verified C p ↔ C.Obligation p ∧ ∀ q, p.Next q → VerifiedAll C q := by
  constructor
  · intro verified
    exact ⟨verified.obligation, fun q next => verified.step next⟩
  · rintro ⟨now, nexts⟩
    exact ⟨now, fun q kids next => (nexts (q, kids) next).1,
      fun q kids next => (nexts (q, kids) next).2⟩

/-! One rule for each shape of the queue. -/

theorem nil_active {log record : List (Entry σ)} :
    Verified C ⟨.active record, log, []⟩ ↔
      C.commit log record ∧ Verified C ⟨.closed, log ++ record, []⟩ := by
  have lost : Verified C ⟨.closed, log ++ [.failed .outage], []⟩ := by
    refine iff_next.mpr ⟨fun clean => absurd (by simp) (clean .outage), fun q next => ?_⟩
    exact absurd next (by simp [Proc.Next])
  rw [iff_next]
  simp only [Contract.Obligation, Proc.Next, forall_eq_or_imp, forall_eq, VerifiedAll,
    Proc.committed, Proc.abort, Slot.record_active, List.not_mem_nil, false_imp_iff,
    implies_true, and_true, lost]

theorem nil_closed {log : List (Entry σ)} :
    Verified C ⟨.closed, log, []⟩ ↔ (Unfailed log → C.finish log) := by
  rw [iff_next]
  simp [Contract.Obligation, Proc.Next]

theorem nil_none {log : List (Entry σ)} :
    Verified C ⟨.none, log, []⟩ ↔ (Unfailed log → C.finish log) := by
  rw [iff_next]
  simp [Contract.Obligation, Proc.Next]

theorem sql_db {slot : Slot σ} {log : List (Entry σ)} {st : σ.Stmt}
    {k : Option (σ.Res st) → Prog σ} {rest : List (Prog σ)} :
    Verified C ⟨slot, log, .sql .db st k :: rest⟩ ↔
      C.issue log none st ∧
        (∀ res, σ.Possible st res →
          VerifiedAll C (Proc.advance ⟨slot, log ++ [.ran st res], rest⟩ (k (some res)))) ∧
        ∀ cause, VerifiedAll C (Proc.advance ⟨slot, log ++ [.failed cause], rest⟩ (k none)) := by
  rw [iff_next]
  simp only [Contract.Obligation, Proc.Next, Proc.ranOnDb, Proc.failedOnDb, or_imp, forall_and,
    forall_exists_index, and_imp, forall_eq_apply_imp_iff]
  constructor
  · rintro ⟨issued, ran, failed⟩
    exact ⟨issued, fun res possible => ran _ res possible rfl, failed⟩
  · rintro ⟨issued, ran, failed⟩
    exact ⟨issued, fun q res possible eq => eq ▸ ran res possible, failed⟩

theorem sql_txn {log record : List (Entry σ)} {st : σ.Stmt}
    {k : Option (σ.Res st) → Prog σ} {rest : List (Prog σ)} :
    Verified C ⟨.active record, log, .sql .txn st k :: rest⟩ ↔
      C.issue log (some record) st ∧
        (∀ res, σ.Possible st res → VerifiedAll C
          (Proc.advance ⟨.active (record ++ [.ran st res]), log, rest⟩ (k (some res)))) ∧
        ∀ cause, VerifiedAll C
          (Proc.advance ⟨.closed, log ++ [.failed cause], rest⟩ (k none)) := by
  rw [iff_next]
  simp only [Contract.Obligation, Proc.Next, Proc.ranOnTxn, Proc.abort, Slot.record_active,
    or_imp, forall_and, forall_exists_index, and_imp, forall_eq_apply_imp_iff]
  constructor
  · rintro ⟨issued, ran, failed⟩
    exact ⟨issued, fun res possible => ran _ res possible rfl, failed⟩
  · rintro ⟨issued, ran, failed⟩
    exact ⟨issued, fun q res possible eq => eq ▸ ran res possible, failed⟩

/-- A statement on a transaction that is gone only reports its failure. -/
theorem sql_txn_closed {log : List (Entry σ)} {st : σ.Stmt}
    {k : Option (σ.Res st) → Prog σ} {rest : List (Prog σ)} :
    Verified C ⟨.closed, log, .sql .txn st k :: rest⟩ ↔
      VerifiedAll C (Proc.advance ⟨.closed, log, rest⟩ (k none)) := by
  rw [iff_next]
  simp only [Contract.Obligation, Proc.Next, forall_eq, true_and]

theorem start {slot : Slot σ} {log : List (Entry σ)} {k : Bool → Prog σ}
    {rest : List (Prog σ)} :
    Verified C ⟨slot, log, .start k :: rest⟩ ↔
      VerifiedAll C (Proc.advance ⟨.active [], log, rest⟩ (k true)) ∧
        VerifiedAll C (Proc.advance ⟨.closed, log ++ [.failed .outage], rest⟩ (k false)) := by
  rw [iff_next]
  simp only [Contract.Obligation, Proc.Next, Proc.abort, forall_eq_or_imp, forall_eq, true_and]

theorem commit {log record : List (Entry σ)} {k : Bool → Prog σ} {rest : List (Prog σ)} :
    Verified C ⟨.active record, log, .commit k :: rest⟩ ↔
      C.commit log record ∧
        VerifiedAll C (Proc.advance ⟨.closed, log ++ record, rest⟩ (k true)) ∧
        VerifiedAll C (Proc.advance ⟨.closed, log ++ [.failed .outage], rest⟩ (k false)) := by
  rw [iff_next]
  simp only [Contract.Obligation, Proc.Next, Proc.committed, Proc.abort, Slot.record_active,
    forall_eq_or_imp, forall_eq]

theorem call {slot : Slot σ} {log : List (Entry σ)} {x : σ.Ext} {k : σ.Ans → Prog σ}
    {rest : List (Prog σ)} :
    Verified C ⟨slot, log, .call x k :: rest⟩ ↔
      C.call log x ∧
        ∀ a, VerifiedAll C (Proc.advance ⟨slot, log ++ [.answered x a], rest⟩ (k a)) := by
  rw [iff_next]
  simp only [Contract.Obligation, Proc.Next, forall_exists_index, forall_eq_apply_imp_iff]

/-- A process that died owes nothing. -/
theorem crash (p : Proc σ) : Verified C p.crash :=
  nil_closed.mpr fun clean => absurd (by simp) (clean .outage)

end Verified

/-! ## Running a callback -/

section Callback

variable {C : Contract σ} {slot : Slot σ} {log : List (Entry σ)} {queue : List (Prog σ)}

theorem verifiedAll_done :
    VerifiedAll C (Proc.advance ⟨slot, log, queue⟩ .done) ↔ Verified C ⟨slot, log, queue⟩ := by
  simp [VerifiedAll, Proc.advance]

theorem verifiedAll_rollback {next : Prog σ} :
    VerifiedAll C (Proc.advance ⟨slot, log, queue⟩ (.rollback next)) ↔
      VerifiedAll C (Proc.advance ⟨slot.rolledBack, log, queue⟩ next) := Iff.rfl

theorem verifiedAll_reply {out : σ.Out} {next : Prog σ} :
    VerifiedAll C (Proc.advance ⟨slot, log, queue⟩ (.reply out next)) ↔
      VerifiedAll C (Proc.advance ⟨slot, log ++ [.replied out], queue⟩ next) := Iff.rfl

theorem verifiedAll_fork {child next : Prog σ} :
    VerifiedAll C (Proc.advance ⟨slot, log, queue⟩ (.fork child next)) ↔
      Verified C (Proc.child (Proc.advance ⟨slot, log, queue⟩ next).1.log child) ∧
        VerifiedAll C (Proc.advance ⟨slot, log, queue⟩ next) := by
  simp only [VerifiedAll, Proc.advance, List.mem_cons, forall_eq_or_imp]
  tauto

theorem verifiedAll_sql {on : Target} {st : σ.Stmt} {k : Option (σ.Res st) → Prog σ} :
    VerifiedAll C (Proc.advance ⟨slot, log, queue⟩ (.sql on st k)) ↔
      Verified C ⟨slot, log, queue ++ [.sql on st k]⟩ := by
  simp [VerifiedAll, Proc.advance]

theorem verifiedAll_call {x : σ.Ext} {k : σ.Ans → Prog σ} :
    VerifiedAll C (Proc.advance ⟨slot, log, queue⟩ (.call x k)) ↔
      Verified C ⟨slot, log, queue ++ [.call x k]⟩ := by
  simp [VerifiedAll, Proc.advance]

theorem verifiedAll_start {k : Bool → Prog σ} :
    VerifiedAll C (Proc.advance ⟨slot, log, queue⟩ (.start k)) ↔
      Verified C ⟨slot, log, queue ++ [.start k]⟩ := by
  simp [VerifiedAll, Proc.advance]

theorem verifiedAll_commit {k : Bool → Prog σ} :
    VerifiedAll C (Proc.advance ⟨slot, log, queue⟩ (.commit k)) ↔
      Verified C ⟨slot, log, queue ++ [.commit k]⟩ := by
  simp [VerifiedAll, Proc.advance]

/-- A statement submitted side by side with another continuation goes first. -/
theorem verifiedAll_both_sql {on : Target} {st : σ.Stmt} {k : Option (σ.Res st) → Prog σ}
    {second : Prog σ} :
    VerifiedAll C (Proc.advance ⟨slot, log, queue⟩ (.both (.sql on st k) second)) ↔
      VerifiedAll C (Proc.advance ⟨slot, log, queue ++ [.sql on st k]⟩ second) := by
  simp [VerifiedAll, Proc.advance]

/-- A program that does nothing but report. -/
def Prog.Reports : Prog σ → Prop
  | .done => True
  | .reply _ next => next.Reports
  | _ => False

/-- A program that starts no process of its own. -/
def Prog.Forkless : Prog σ → Prop
  | .done => True
  | .sql _ _ k => ∀ res, (k res).Forkless
  | .call _ k => ∀ a, (k a).Forkless
  | .start k | .commit k => ∀ done, (k done).Forkless
  | .rollback next | .reply _ next => next.Forkless
  | .both first second => first.Forkless ∧ second.Forkless
  | .fork _ _ => False

/-- Reporting adds to the log and changes nothing else. -/
theorem verifiedAll_reports {program : Prog σ} (reports : program.Reports)
    (continues : ∀ outs : List σ.Out,
      Verified C ⟨slot, log ++ outs.map Entry.replied, queue⟩) :
    VerifiedAll C (Proc.advance ⟨slot, log, queue⟩ program) := by
  induction program generalizing log with
  | done => exact verifiedAll_done.mpr (by simpa using continues [])
  | reply out next inductionHypothesis =>
      refine verifiedAll_reply.mpr (inductionHypothesis reports fun outs => ?_)
      simpa using continues (out :: outs)
  | _ => exact absurd reports id

/-- A program that, once its transaction is gone, only reports and submits
statements that will fail, too. -/
def Prog.Fades : Prog σ → Prop
  | .done => True
  | .reply _ next => next.Fades
  | .rollback next => next.Fades
  | .sql .txn _ k => (k none).Fades
  | _ => False

theorem Prog.Reports.fades {program : Prog σ} (reports : program.Reports) : program.Fades := by
  induction program with
  | done => trivial
  | reply out next inductionHypothesis => exact inductionHypothesis reports
  | _ => exact absurd reports id

/-- How many failures a fading program still hears of. -/
def Prog.failures : Prog σ → Nat
  | .reply _ next => next.failures
  | .rollback next => next.failures
  | .sql .txn _ k => (k none).failures + 1
  | _ => 0

/-- A submitted statement after which, should it fail, the program fades. -/
def Prog.Doomed (program : Prog σ) : Prop :=
  ∃ st k, program = .sql .txn st k ∧ (k none).Fades

/-- What a fading program submits is doomed, and hears of no more failures than
the program does. -/
theorem advance_fades {program : Prog σ} (fades : program.Fades) (log : List (Entry σ))
    (queue : List (Prog σ)) :
    ∃ outs : List σ.Out, ∃ more : List (Prog σ),
      Proc.advance ⟨.closed, log, queue⟩ program =
        (⟨.closed, log ++ outs.map Entry.replied, queue ++ more⟩, []) ∧
      (∀ next ∈ more, next.Doomed) ∧ (more.map Prog.failures).sum ≤ program.failures := by
  induction program generalizing log with
  | done => exact ⟨[], [], by simp [Proc.advance], by simp, by simp⟩
  | reply out next inductionHypothesis =>
      obtain ⟨outs, more, eq, doomed, shorter⟩ :=
        inductionHypothesis fades (log ++ [.replied out])
      exact ⟨out :: outs, more, by simpa [Proc.advance] using eq, doomed, shorter⟩
  | rollback next inductionHypothesis => exact inductionHypothesis fades log
  | sql on st k _ =>
      cases on with
      | db => exact absurd fades id
      | txn =>
          refine ⟨[], [.sql .txn st k], by simp [Proc.advance], ?_, by simp⟩
          simpa using ⟨st, k, rfl, fades⟩
  | _ => exact absurd fades id

/-- A process whose transaction is gone and whose submitted statements are all
doomed only reports before it ends. -/
theorem Verified.of_doomed (doomed : ∀ program ∈ queue, program.Doomed)
    (finish : ∀ outs : List σ.Out, C.finish (log ++ outs.map Entry.replied)) :
    Verified C ⟨.closed, log, queue⟩ := by
  -- a statement that is popped makes way for one that hears of fewer failures
  generalize bound : (queue.map Prog.failures).sum = n
  induction n using Nat.strongRecOn generalizing log queue with
  | _ n inductionHypothesis =>
      cases queue with
      | nil => exact Verified.nil_closed.mpr fun _ => by simpa using finish []
      | cons program rest =>
          obtain ⟨st, k, rfl, fades⟩ := doomed program (by simp)
          obtain ⟨outs, more, eq, doomedMore, shorter⟩ := advance_fades fades log rest
          refine Verified.sql_txn_closed.mpr ?_
          rw [eq]
          refine ⟨inductionHypothesis _ ?_ ?_ ?_ rfl, by simp⟩
          · simp only [List.map_cons, List.sum_cons, Prog.failures] at bound
            simp only [List.map_append, List.sum_append]
            omega
          · intro next member
            rcases List.mem_append.mp member with old | new
            · exact doomed next (by simp [old])
            · exact doomedMore next new
          · intro later
            simpa using finish (outs ++ later)

/-- A forkless callback forks nothing and submits forkless programs. -/
theorem advance_forkless {program : Prog σ} (forkless : program.Forkless) {p : Proc σ}
    (queued : ∀ waiting ∈ p.queue, waiting.Forkless) :
    (p.advance program).2 = [] ∧ ∀ waiting ∈ (p.advance program).1.queue, waiting.Forkless := by
  have submitted : ∀ {last : Prog σ}, last.Forkless →
      ∀ waiting ∈ p.queue ++ [last], waiting.Forkless := by
    intro last isForkless waiting member
    rcases List.mem_append.mp member with old | new
    · exact queued waiting old
    · rw [List.mem_singleton.mp new]
      exact isForkless
  induction program generalizing p with
  | done => exact ⟨rfl, queued⟩
  | rollback next inductionHypothesis => exact inductionHypothesis forkless queued submitted
  | reply out next inductionHypothesis => exact inductionHypothesis forkless queued submitted
  | both first second firstHypothesis secondHypothesis =>
      obtain ⟨noneFirst, queuedFirst⟩ := firstHypothesis forkless.1 queued submitted
      obtain ⟨noneSecond, queuedSecond⟩ := secondHypothesis forkless.2 queuedFirst (by
        intro last isForkless waiting member
        rcases List.mem_append.mp member with old | new
        · exact queuedFirst waiting old
        · rw [List.mem_singleton.mp new]
          exact isForkless)
      exact ⟨by simp only [Proc.advance, noneFirst, noneSecond, List.append_nil], queuedSecond⟩
  | fork child next _ _ => exact absurd forkless id
  | sql on st k _ => exact ⟨rfl, submitted forkless⟩
  | call x k _ => exact ⟨rfl, submitted forkless⟩
  | start k _ => exact ⟨rfl, submitted forkless⟩
  | commit k _ => exact ⟨rfl, submitted forkless⟩

/-- A process whose submitted programs fork nothing keeps it so. -/
theorem next_forkless {p : Proc σ} {q : Proc σ × List (Prog σ)} (next : p.Next q)
    (queued : ∀ waiting ∈ p.queue, waiting.Forkless) :
    q.2 = [] ∧ ∀ waiting ∈ q.1.queue, waiting.Forkless := by
  obtain ⟨slot, log, queue⟩ := p
  cases queue with
  | nil =>
      cases slot with
      | active record =>
          rcases next with rfl | rfl <;> exact ⟨rfl, queued⟩
      | _ => exact absurd next id
  | cons head rest =>
      have first : head.Forkless := queued head (by simp)
      have others : ∀ waiting ∈ rest, waiting.Forkless := fun waiting member =>
        queued waiting (by simp [member])
      cases head with
      | sql on st k =>
          cases on with
          | db =>
              rcases next with ⟨res, _, rfl⟩ | ⟨cause, rfl⟩ <;>
                exact advance_forkless (first _) others
          | txn =>
              cases slot with
              | active record =>
                  rcases next with ⟨res, _, rfl⟩ | ⟨cause, rfl⟩ <;>
                    exact advance_forkless (first _) others
              | none =>
                  obtain rfl := next
                  exact advance_forkless (first _) others
              | closed =>
                  obtain rfl := next
                  exact advance_forkless (first _) others
      | start k => rcases next with rfl | rfl <;> exact advance_forkless (first _) others
      | commit k =>
          cases slot with
          | active record => rcases next with rfl | rfl <;> exact advance_forkless (first _) others
          | none =>
              obtain rfl := next
              exact advance_forkless (first _) others
          | closed =>
              obtain rfl := next
              exact advance_forkless (first _) others
      | call x k =>
          obtain ⟨a, rfl⟩ := next
          exact advance_forkless (first a) others
      | done | rollback _ | reply _ _ | both _ _ | fork _ _ =>
          obtain rfl := next
          exact advance_forkless first others

end Callback

/-! ## Programs that run alone

The rules for a program that is started with nothing submitted. They take a
program apart statement by statement; only `both` leaves them. -/

/-- The program keeps the contract from this transaction and log on. -/
def Runs (C : Contract σ) (slot : Slot σ) (log : List (Entry σ)) (program : Prog σ) : Prop :=
  VerifiedAll C (Proc.advance ⟨slot, log, []⟩ program)

section Alone

variable {C : Contract σ} {slot : Slot σ} {log record : List (Entry σ)}

theorem runs_done : Runs C slot log .done ↔ Verified C ⟨slot, log, []⟩ := verifiedAll_done

theorem runs_rollback {next : Prog σ} :
    Runs C slot log (.rollback next) ↔ Runs C slot.rolledBack log next := Iff.rfl

theorem runs_reply {out : σ.Out} {next : Prog σ} :
    Runs C slot log (.reply out next) ↔ Runs C slot (log ++ [.replied out]) next := Iff.rfl

theorem runs_sql_db {st : σ.Stmt} {k : Option (σ.Res st) → Prog σ} :
    Runs C slot log (.sql .db st k) ↔
      C.issue log none st ∧
        (∀ res, σ.Possible st res → Runs C slot (log ++ [.ran st res]) (k (some res))) ∧
        ∀ cause, Runs C slot (log ++ [.failed cause]) (k none) :=
  verifiedAll_sql.trans Verified.sql_db

theorem runs_sql_txn {st : σ.Stmt} {k : Option (σ.Res st) → Prog σ} :
    Runs C (.active record) log (.sql .txn st k) ↔
      C.issue log (some record) st ∧
        (∀ res, σ.Possible st res →
          Runs C (.active (record ++ [.ran st res])) log (k (some res))) ∧
        ∀ cause, Runs C .closed (log ++ [.failed cause]) (k none) :=
  verifiedAll_sql.trans Verified.sql_txn

theorem runs_sql_txn_closed {st : σ.Stmt} {k : Option (σ.Res st) → Prog σ} :
    Runs C .closed log (.sql .txn st k) ↔ Runs C .closed log (k none) :=
  verifiedAll_sql.trans Verified.sql_txn_closed

theorem runs_start {k : Bool → Prog σ} :
    Runs C slot log (.start k) ↔
      Runs C (.active []) log (k true) ∧ Runs C .closed (log ++ [.failed .outage]) (k false) :=
  verifiedAll_start.trans Verified.start

theorem runs_commit {k : Bool → Prog σ} :
    Runs C (.active record) log (.commit k) ↔
      C.commit log record ∧ Runs C .closed (log ++ record) (k true) ∧
        Runs C .closed (log ++ [.failed .outage]) (k false) :=
  verifiedAll_commit.trans Verified.commit

theorem runs_call {x : σ.Ext} {k : σ.Ans → Prog σ} :
    Runs C slot log (.call x k) ↔
      C.call log x ∧ ∀ a, Runs C slot (log ++ [.answered x a]) (k a) :=
  verifiedAll_call.trans Verified.call

theorem runs_fork {child next : Prog σ} :
    Runs C slot log (.fork child next) ↔
      Verified C (Proc.child (Proc.advance ⟨slot, log, []⟩ next).1.log child) ∧
        Runs C slot log next :=
  verifiedAll_fork

/-- A process is verified if its program runs. -/
theorem Verified.of_runs {program : Prog σ} (runs : Runs C .none log program) :
    Verified C ⟨.none, log, [program]⟩ := by
  have popped : ∀ {q : Proc σ × List (Prog σ)},
      q = Proc.advance ⟨.none, log, []⟩ program → VerifiedAll C q := by
    rintro _ rfl
    exact runs
  cases program with
  | sql on st k => exact verifiedAll_sql.mp runs
  | call x k => exact verifiedAll_call.mp runs
  | start k => exact verifiedAll_start.mp runs
  | commit k => exact verifiedAll_commit.mp runs
  | _ => exact Verified.iff_next.mpr ⟨trivial, fun q next => popped next⟩

/-- A program of pooled statements of one kind, and of reports. -/
def Prog.Minor (minor : σ.Stmt → Prop) : Prog σ → Prop
  | .done => True
  | .sql .db st k => minor st ∧ ∀ res, (k res).Minor minor
  | .rollback next | .reply _ next => next.Minor minor
  | .fork child next => child.Minor minor ∧ next.Minor minor
  | .sql .txn _ _ | .call _ _ | .start _ | .commit _ | .both _ _ => False

/-- Such a program keeps every contract that asks nothing of its statements. -/
theorem runs_minor {minor : σ.Stmt → Prop} (issue : ∀ log st, minor st → C.issue log none st)
    (commit : ∀ log record, C.commit log record) (finish : ∀ log, C.finish log)
    {program : Prog σ} (isMinor : program.Minor minor) : Runs C slot log program := by
  have closed : ∀ log, Verified C ⟨.closed, log, []⟩ :=
    fun log => Verified.nil_closed.mpr fun _ => finish log
  induction program generalizing slot log with
  | done =>
      refine runs_done.mpr ?_
      cases slot with
      | none => exact Verified.nil_none.mpr fun _ => finish log
      | active record => exact Verified.nil_active.mpr ⟨commit log record, closed _⟩
      | closed => exact closed log
  | sql on st k inductionHypothesis =>
      cases on with
      | db =>
          exact runs_sql_db.mpr ⟨issue log st isMinor.1,
            fun res _ => inductionHypothesis (some res) (isMinor.2 (some res)),
            fun _ => inductionHypothesis none (isMinor.2 none)⟩
      | txn => exact isMinor.elim
  | rollback next inductionHypothesis => exact runs_rollback.mpr (inductionHypothesis isMinor)
  | reply out next inductionHypothesis => exact runs_reply.mpr (inductionHypothesis isMinor)
  | fork child next childHypothesis nextHypothesis =>
      exact runs_fork.mpr ⟨Verified.of_runs (childHypothesis isMinor.1), nextHypothesis isMinor.2⟩
  | call x k _ => exact isMinor.elim
  | start k _ => exact isMinor.elim
  | commit k _ => exact isMinor.elim
  | both first second _ _ => exact isMinor.elim

end Alone

end DrogonPay.ReadCommitted
