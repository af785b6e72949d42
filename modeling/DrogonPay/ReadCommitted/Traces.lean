import DrogonPay.ReadCommitted.Replies

/-!
Contract: the exact logs a program leads to.

Owns:
- `Prog.Traces`, "every log this program leads to satisfies P", by recursion on a
  program that submits one statement at a time;
- `Run.traces`, by which the logs of a run's processes are such logs.

Does not own: programs that submit two chains side by side.
-/

namespace DrogonPay.ReadCommitted

variable {σ : Sig}

/-- What a program reports before it waits for anything. -/
def Prog.repliesNow : Prog σ → List (Entry σ)
  | .reply out next => .replied out :: next.repliesNow
  | .rollback next | .fork _ next => next.repliesNow
  | _ => []

section Traces

variable (R : (st : σ.Stmt) → σ.Res st → Prop) (A : σ.Ext → σ.Ans → Prop)
  (P : List (Entry σ) → Prop)

/-- Every log the program leads to satisfies `P`, when statements have results in
`R` and calls are answered as in `A`. -/
def Prog.Traces : Prog σ → Slot σ → List (Entry σ) → Prop
  | .done, slot, log => P log ∧ ∀ record, slot = .active record → P (log ++ record)
  | .sql .db st k, slot, log =>
      P log ∧ (∀ res, R st res → (k (some res)).Traces slot (log ++ [.ran st res])) ∧
        ∀ cause, (k none).Traces slot (log ++ [.failed cause])
  | .sql .txn st k, .active record, log =>
      P log ∧
        (∀ res, R st res → (k (some res)).Traces (.active (record ++ [.ran st res])) log) ∧
        ∀ cause, (k none).Traces .closed (log ++ [.failed cause])
  | .sql .txn _ k, slot, log => P log ∧ (k none).Traces slot log
  | .call x k, slot, log => P log ∧ ∀ a, A x a → (k a).Traces slot (log ++ [.answered x a])
  | .start k, _, log =>
      P log ∧ (k true).Traces (.active []) log ∧
        (k false).Traces .closed (log ++ [.failed .outage])
  | .commit k, .active record, log =>
      P log ∧ (k true).Traces .closed (log ++ record) ∧
        (k false).Traces .closed (log ++ [.failed .outage])
  | .commit k, slot, log => P log ∧ (k false).Traces slot log
  | .rollback next, slot, log => P log ∧ next.Traces slot.rolledBack log
  | .reply out next, slot, log => P log ∧ next.Traces slot (log ++ [.replied out])
  | .both _ _, _, _ => False
  | .fork child next, slot, log =>
      P log ∧ child.Traces .none (log ++ next.repliesNow) ∧ next.Traces slot log

/-- The process leads to such logs only. -/
def Proc.Traced (p : Proc σ) : Prop :=
  match p.queue with
  | [] => Prog.done.Traces R A P p.slot p.log
  | [program] => program.Traces R A P p.slot p.log
  | _ => False

end Traces

section Rules

variable {R : (st : σ.Stmt) → σ.Res st → Prop} {A : σ.Ext → σ.Ans → Prop}
  {P : List (Entry σ) → Prop} {slot : Slot σ} {log record : List (Entry σ)}

theorem Prog.Traces.now {program : Prog σ} (traces : program.Traces R A P slot log) : P log := by
  cases program with
  | both first second => exact traces.elim
  | sql on st k =>
      cases on with
      | db => exact traces.1
      | txn => cases slot <;> exact traces.1
  | commit k => cases slot <;> exact traces.1
  | _ => exact traces.1

theorem Prog.Traces.mono {P' : List (Entry σ) → Prop} {program : Prog σ}
    (traces : program.Traces R A P slot log) (weakens : ∀ log, P log → P' log) :
    program.Traces R A P' slot log := by
  induction program generalizing slot log with
  | done => exact ⟨weakens _ traces.1, fun record active => weakens _ (traces.2 record active)⟩
  | sql on st k inductionHypothesis =>
      have later : ∀ res slot log, (k res).Traces R A P slot log → (k res).Traces R A P' slot log :=
        fun res slot log => inductionHypothesis res
      cases on with
      | db =>
          exact ⟨weakens _ traces.1, fun res possible => later _ _ _ (traces.2.1 res possible),
            fun cause => later _ _ _ (traces.2.2 cause)⟩
      | txn =>
          cases slot with
          | active record =>
              exact ⟨weakens _ traces.1, fun res possible => later _ _ _ (traces.2.1 res possible),
                fun cause => later _ _ _ (traces.2.2 cause)⟩
          | _ => exact ⟨weakens _ traces.1, later _ _ _ traces.2⟩
  | call x k inductionHypothesis =>
      exact ⟨weakens _ traces.1, fun a heard => inductionHypothesis a (traces.2 a heard)⟩
  | start k inductionHypothesis =>
      exact ⟨weakens _ traces.1, inductionHypothesis true traces.2.1,
        inductionHypothesis false traces.2.2⟩
  | commit k inductionHypothesis =>
      cases slot with
      | active record =>
          exact ⟨weakens _ traces.1, inductionHypothesis true traces.2.1,
            inductionHypothesis false traces.2.2⟩
      | _ => exact ⟨weakens _ traces.1, inductionHypothesis false traces.2⟩
  | rollback next inductionHypothesis =>
      exact ⟨weakens _ traces.1, inductionHypothesis traces.2⟩
  | reply out next inductionHypothesis =>
      exact ⟨weakens _ traces.1, inductionHypothesis traces.2⟩
  | both first second _ _ => exact traces.elim
  | fork child next childHypothesis nextHypothesis =>
      exact ⟨weakens _ traces.1, childHypothesis traces.2.1, nextHypothesis traces.2.2⟩

theorem Proc.Traced.now {p : Proc σ} (traced : p.Traced R A P) : P p.log := by
  unfold Proc.Traced at traced
  split at traced
  · exact traced.now
  · exact traced.now
  · exact traced.elim

theorem Proc.Traced.of_head {p : Proc σ} {program : Prog σ} {rest : List (Prog σ)}
    (traced : p.Traced R A P) (head : p.queue = program :: rest) :
    rest = [] ∧ program.Traces R A P p.slot p.log := by
  unfold Proc.Traced at traced
  rw [head] at traced
  cases rest with
  | nil => exact ⟨rfl, traced⟩
  | cons second others => exact traced.elim

/-- The synchronous part of a callback, with the programs it forks. -/
theorem advance_traced {program : Prog σ} {p : Proc σ} (alone : p.queue = [])
    (traces : program.Traces R A P p.slot p.log) :
    (p.advance program).1.Traced R A P ∧ (p.advance program).1.log = p.log ++ program.repliesNow ∧
      ∀ kid ∈ (p.advance program).2, kid.Traces R A P .none (p.advance program).1.log := by
  have submits : ∀ last : Prog σ, last.repliesNow = [] → last.Traces R A P p.slot p.log →
      Proc.Traced R A P { p with queue := p.queue ++ [last] } ∧
        p.log = p.log ++ last.repliesNow ∧ ∀ kid ∈ ([] : List (Prog σ)), kid.Traces R A P .none p.log := by
    intro last silent traces
    refine ⟨?_, by rw [silent, List.append_nil], by simp⟩
    unfold Proc.Traced
    simp only [alone, List.nil_append]
    exact traces
  induction program generalizing p with
  | done =>
      refine ⟨?_, by simp [Proc.advance, Prog.repliesNow], by simp [Proc.advance]⟩
      unfold Proc.Traced
      simp only [Proc.advance, alone]
      exact traces
  | rollback next inductionHypothesis =>
      exact inductionHypothesis (p := { p with slot := p.slot.rolledBack }) alone traces.2 fun last silent continued =>
        by simpa [Proc.Traced, alone, silent] using continued
  | reply out next inductionHypothesis =>
      obtain ⟨traced, isLog, forked⟩ := inductionHypothesis
        (p := { p with log := p.log ++ [.replied out] }) alone traces.2 fun last silent continued =>
          by simpa [Proc.Traced, alone, silent] using continued
      exact ⟨traced, by simpa [Proc.advance, Prog.repliesNow] using isLog, forked⟩
  | fork child next _ inductionHypothesis =>
      obtain ⟨traced, isLog, forked⟩ := inductionHypothesis alone traces.2.2 submits
      refine ⟨traced, isLog, fun kid member => ?_⟩
      rcases List.mem_cons.mp member with isChild | later
      · rw [isChild, show (p.advance (.fork child next)).1 = (p.advance next).1 from rfl, isLog]
        exact traces.2.1
      · exact forked kid later
  | both first second _ _ => exact traces.elim
  | sql on st k _ => exact submits _ rfl traces
  | call x k _ => exact submits _ rfl traces
  | start k _ => exact submits _ rfl traces
  | commit k _ => exact submits _ rfl traces

end Rules

/-! ## Runs -/

variable {S : Store σ}

/-- The process is about to hear this answer. -/
structure Sys.Hears (s : Sys S) (event : Event S) (pid : Nat) (p : Proc σ) (x : σ.Ext)
    (a : σ.Ans) : Prop where
  proc : s.procs[pid]? = some p
  head : ∃ k rest, p.queue = .call x k :: rest
  heard : event = .answer pid a

section Step

variable {R : (st : σ.Stmt) → σ.Res st → Prop} {A : σ.Ext → σ.Ans → Prop}
  {P : List (Entry σ) → Prop} {s : Sys S} {event : Event S} {pid : Nat} {p : Proc σ} {m : Move S}

/-- A move of a process leads to such logs only. -/
theorem Sys.Fires.traced (fires : s.Fires event pid p m) (proc : s.procs[pid]? = some p)
    (traced : p.Traced R A P) (crashes : ∀ log, P log → P (log ++ [.failed .outage]))
    (ran : ∀ st res, s.RunsNow event pid p st res → R st res)
    (heard : ∀ x a, s.Hears event pid p x a → A x a) :
    m.next.1.Traced R A P ∧ ∀ kid ∈ m.next.2, kid.Traces R A P .none m.next.1.log := by
  have continues : ∀ {q : Proc σ} {next : Prog σ}, q.queue = [] →
      next.Traces R A P q.slot q.log → (q.advance next).1.Traced R A P ∧
        ∀ kid ∈ (q.advance next).2, kid.Traces R A P .none (q.advance next).1.log :=
    fun alone traces => ⟨(advance_traced alone traces).1, (advance_traced alone traces).2.2⟩
  cases fires with
  | @onDb st res k rest runs head =>
      obtain ⟨alone, _, results, _⟩ := traced.of_head head
      exact continues alone (results res (ran st res (Or.inl runs)))
  | failedOnDb cause head =>
      obtain ⟨alone, _, _, failures⟩ := traced.of_head head
      exact continues alone (failures cause)
  | @onTxn record st res k rest runs head =>
      obtain ⟨alone, traces⟩ := traced.of_head head
      rw [runs.slot] at traces
      refine continues (q := p.ranOnTxn rest st res) alone ?_
      simp only [Proc.ranOnTxn, runs.slot, Slot.record_active]
      exact traces.2.1 res (ran st res (Or.inr ⟨record, runs⟩))
  | failedOnTxn cause slot head =>
      obtain ⟨alone, traces⟩ := traced.of_head head
      rw [slot] at traces
      exact continues alone (traces.2.2 cause)
  | gone slot head =>
      obtain ⟨alone, traces⟩ := traced.of_head head
      refine continues alone ?_
      cases isSlot : p.slot with
      | active record => exact absurd isSlot (slot record)
      | _ =>
          rw [isSlot] at traces
          exact traces.2
  | opened head =>
      obtain ⟨alone, _, started, _⟩ := traced.of_head head
      exact continues alone started
  | unopened head =>
      obtain ⟨alone, _, _, failed⟩ := traced.of_head head
      exact continues alone failed
  | @committed record k rest commits head =>
      obtain ⟨alone, traces⟩ := traced.of_head head
      rw [commits.slot] at traces
      refine continues (q := { p.committed with queue := rest }) alone ?_
      simp only [Proc.committed, commits.slot, Slot.record_active]
      exact traces.2.1
  | uncommitted slot head =>
      obtain ⟨alone, traces⟩ := traced.of_head head
      rw [slot] at traces
      exact continues alone traces.2.2
  | nothingToCommit slot head =>
      obtain ⟨alone, traces⟩ := traced.of_head head
      refine continues alone ?_
      cases isSlot : p.slot with
      | active record => exact absurd isSlot (slot record)
      | _ =>
          rw [isSlot] at traces
          exact traces.2
  | @ended record commits head =>
      unfold Proc.Traced at traced ⊢
      simp only [Proc.committed, head] at traced ⊢
      refine ⟨⟨?_, by rintro _ ⟨⟩⟩, by simp⟩
      simpa [commits.slot] using traced.2 record commits.slot
  | lost slot head =>
      have before := traced.now
      unfold Proc.Traced
      simp only [Proc.abort, head]
      exact ⟨⟨crashes _ before, by rintro _ ⟨⟩⟩, by simp⟩
  | answered isEvent head =>
      obtain ⟨alone, _, answers⟩ := traced.of_head head
      exact continues alone (answers _ (heard _ _ ⟨proc, ⟨_, _, head⟩, isEvent⟩))
  | callback head =>
      obtain ⟨alone, traces⟩ := traced.of_head head
      exact continues alone traces
  | crashed =>
      have before := traced.now
      unfold Proc.Traced
      simp only [Proc.crash]
      exact ⟨⟨crashes _ before, by rintro _ ⟨⟩⟩, by simp⟩

end Step

section Runs

variable {entry : σ.Req → Prog σ} {ok : Sys S → Event S → Prop} {db : S.Db}
  {events : List (Event S)} {s : Sys S} {Q : σ.Req → Prop}
  {R : σ.Req → (st : σ.Stmt) → σ.Res st → Prop} {A : σ.Req → σ.Ext → σ.Ans → Prop}
  {P : σ.Req → List (Entry σ) → Prop}

/-- The requests of kind `Q` lead to logs in `P`, with the results and the answers
that the steps of the run allow. -/
structure Leading (entry : σ.Req → Prog σ) (ok : Sys S → Event S → Prop) (db : S.Db)
    (Q : σ.Req → Prop) (R : σ.Req → (st : σ.Stmt) → σ.Res st → Prop)
    (A : σ.Req → σ.Ext → σ.Ans → Prop) (P : σ.Req → List (Entry σ) → Prop) : Prop where
  programs : ∀ request, Q request →
    (entry request).Traces (R request) (A request) (P request) .none [.spawned request]
  crashes : ∀ request log, P request log → P request (log ++ [.failed .outage])
  ran : ∀ {events : List (Event S)} {s : Sys S} {event : Event S} {pid : Nat} {p : Proc σ}
    {request : σ.Req} {st : σ.Stmt} {res : σ.Res st},
    Run entry ok (Sys.initial db) events s → ok s event →
    p.log.head? = some (.spawned request) → Q request → s.RunsNow event pid p st res →
    R request st res
  heard : ∀ {s : Sys S} {event : Event S} {pid : Nat} {p : Proc σ} {request : σ.Req} {x : σ.Ext}
    {a : σ.Ans}, ok s event → p.log.head? = some (.spawned request) → Q request →
    s.Hears event pid p x a → A request x a

theorem Run.traced (leading : Leading entry ok db Q R A P)
    (run : Run entry ok (Sys.initial db) events s) :
    ∀ p ∈ s.procs, ∀ request, p.log.head? = some (.spawned request) → Q request →
      p.Traced (R request) (A request) (P request) := by
  induction run with
  | nil => simp [Sys.initial]
  | @snoc _ event s s' run meets stepped inductionHypothesis =>
      rcases Sys.step_fires stepped with ⟨request, _, rfl⟩ | ⟨pid, p, m, proc, fires, rfl⟩
      · intro p member request' head kind
        rcases List.mem_append.mp member with old | new
        · exact inductionHypothesis p old request' head kind
        · rw [List.mem_singleton.mp new] at head ⊢
          cases head
          exact leading.programs request kind
      · have before := List.mem_of_getElem? proc
        obtain ⟨owner, head⟩ := run.owned p before
        have moved : Q owner → _ := fun kind =>
          fires.traced proc (inductionHypothesis p before owner head kind)
            (leading.crashes owner) (fun st res runs => leading.ran run meets head kind runs)
            fun x a hears => leading.heard meets head kind hears
        have same : ∀ {request}, m.next.1.log.head? = some (.spawned request) →
            request = owner := by
          intro request head'
          rw [head_of_longer head fires.longer] at head'
          cases head'
          rfl
        intro r member request head' kind
        rcases Sys.mem_procs_after member with rfl | ⟨kid, mem, rfl⟩ | ⟨other, _, found⟩
        · obtain rfl := same head'
          exact (moved kind).1
        · obtain rfl := same head'
          exact (moved kind).2 kid mem
        · exact inductionHypothesis r (List.mem_of_getElem? found) request head' kind

/-- The log of every process is one its program leads to. -/
theorem Run.traces (leading : Leading entry ok db Q R A P)
    (run : Run entry ok (Sys.initial db) events s) {p : Proc σ} (member : p ∈ s.procs)
    {request : σ.Req} (head : p.log.head? = some (.spawned request)) (kind : Q request) :
    P request p.log :=
  (run.traced leading p member request head kind).now

end Runs
end DrogonPay.ReadCommitted
