import DrogonPay.ReadCommitted.System

/-!
Contract: the exact move a step makes.

Owns:
- `Sys.Fires`, one constructor for each way a process can move, with the callback
  that then runs and what is committed;
- `Sys.step_fires`, which reads it off a step.

Does not own: invariants of transactions and logs alone; `Sys.step_cases` is
enough for those.
-/

namespace DrogonPay.ReadCommitted

variable {σ : Sig} {S : Store σ}

namespace Sys

/-- The moves of process `pid`. The constructors without a statement are the
failures the process hears of, the start and the end of its transaction, an
answer from outside, a callback that was waiting, and its death. -/
inductive Fires (s : Sys S) (event : Event S) (pid : Nat) (p : Proc σ) : Move S → Prop where
  | onDb {st : σ.Stmt} {res : σ.Res st} {k : Option (σ.Res st) → Prog σ} {rest : List (Prog σ)}
      (runs : s.RunsOnDb event pid p st res) (head : p.queue = .sql .db st k :: rest) :
      Fires s event pid p ⟨(p.ranOnDb rest st res).advance (k (some res)), S.writes st res⟩
  | failedOnDb {st : σ.Stmt} {k : Option (σ.Res st) → Prog σ} {rest : List (Prog σ)}
      (cause : Failure) (head : p.queue = .sql .db st k :: rest) :
      Fires s event pid p ⟨(p.failedOnDb rest cause).advance (k none), []⟩
  | onTxn {record : List (Entry σ)} {st : σ.Stmt} {res : σ.Res st}
      {k : Option (σ.Res st) → Prog σ} {rest : List (Prog σ)}
      (runs : s.RunsOnTxn event pid p record st res) (head : p.queue = .sql .txn st k :: rest) :
      Fires s event pid p ⟨(p.ranOnTxn rest st res).advance (k (some res)), []⟩
  | failedOnTxn {record : List (Entry σ)} {st : σ.Stmt} {k : Option (σ.Res st) → Prog σ}
      {rest : List (Prog σ)} (cause : Failure) (slot : p.slot = .active record)
      (head : p.queue = .sql .txn st k :: rest) :
      Fires s event pid p ⟨Proc.advance { p.abort cause with queue := rest } (k none), []⟩
  | gone {st : σ.Stmt} {k : Option (σ.Res st) → Prog σ} {rest : List (Prog σ)}
      (slot : ∀ record, p.slot ≠ .active record) (head : p.queue = .sql .txn st k :: rest) :
      Fires s event pid p ⟨Proc.advance { p with queue := rest } (k none), []⟩
  | opened {k : Bool → Prog σ} {rest : List (Prog σ)} (head : p.queue = .start k :: rest) :
      Fires s event pid p
        ⟨Proc.advance { p with queue := rest, slot := .active [] } (k true), []⟩
  | unopened {k : Bool → Prog σ} {rest : List (Prog σ)} (head : p.queue = .start k :: rest) :
      Fires s event pid p ⟨Proc.advance { p.abort .outage with queue := rest } (k false), []⟩
  | committed {record : List (Entry σ)} {k : Bool → Prog σ} {rest : List (Prog σ)}
      (commits : s.Commits event pid p record) (head : p.queue = .commit k :: rest) :
      Fires s event pid p
        ⟨Proc.advance { p.committed with queue := rest } (k true), S.pending record⟩
  | uncommitted {record : List (Entry σ)} {k : Bool → Prog σ} {rest : List (Prog σ)}
      (slot : p.slot = .active record) (head : p.queue = .commit k :: rest) :
      Fires s event pid p ⟨Proc.advance { p.abort .outage with queue := rest } (k false), []⟩
  | nothingToCommit {k : Bool → Prog σ} {rest : List (Prog σ)}
      (slot : ∀ record, p.slot ≠ .active record) (head : p.queue = .commit k :: rest) :
      Fires s event pid p ⟨Proc.advance { p with queue := rest } (k false), []⟩
  | ended {record : List (Entry σ)} (commits : s.Commits event pid p record)
      (head : p.queue = []) : Fires s event pid p ⟨(p.committed, []), S.pending record⟩
  | lost {record : List (Entry σ)} (slot : p.slot = .active record) (head : p.queue = []) :
      Fires s event pid p ⟨(p.abort .outage, []), []⟩
  | answered {x : σ.Ext} {a : σ.Ans} {k : σ.Ans → Prog σ} {rest : List (Prog σ)}
      (heard : event = .answer pid a) (head : p.queue = .call x k :: rest) :
      Fires s event pid p
        ⟨Proc.advance { p with queue := rest, log := p.log ++ [.answered x a] } (k a), []⟩
  | callback {program : Prog σ} {rest : List (Prog σ)} (head : p.queue = program :: rest) :
      Fires s event pid p ⟨Proc.advance { p with queue := rest } program, []⟩
  | crashed : Fires s event pid p ⟨(p.crash, []), []⟩

private theorem execMove_fires {s : Sys S} {pid : Nat} {p : Proc σ} {env : S.Env} {m : Move S}
    (proc : s.procs[pid]? = some p) (moved : s.execMove pid p env = some m) :
    s.Fires (.exec pid env) pid p m := by
  obtain ⟨slot, log, queue⟩ := p
  cases queue with
  | nil =>
      cases slot with
      | active record =>
          cases moved
          exact .ended ⟨proc, Or.inl rfl, rfl, env, rfl⟩ rfl
      | _ => cases moved
  | cons head rest =>
      cases head with
      | sql on st k =>
          cases on with
          | db =>
              simp only [execMove, execOnDb] at moved
              split at moved
              · cases moved
                exact .failedOnDb .refused rfl
              · rename_i res result
                split at moved
                · rename_i unlocked
                  cases moved
                  exact .onDb ⟨proc, ⟨k, rest, rfl⟩, ⟨env, rfl, result⟩, unlocked⟩ rfl
                · cases moved
          | txn =>
              cases slot with
              | active record =>
                  simp only [execMove, execOnTxn] at moved
                  split at moved
                  · cases moved
                    exact .failedOnTxn .refused rfl rfl
                  · rename_i res result
                    split at moved
                    · rename_i unlocked
                      cases moved
                      exact .onTxn ⟨proc, ⟨k, rest, rfl⟩, rfl, ⟨env, rfl, result⟩, unlocked⟩ rfl
                    · cases moved
              | _ =>
                  cases moved
                  exact .gone (fun _ active => by cases active) rfl
      | start k =>
          cases moved
          exact .opened rfl
      | commit k =>
          cases slot with
          | active record =>
              cases moved
              exact .committed ⟨proc, Or.inr ⟨k, rest, rfl⟩, rfl, env, rfl⟩ rfl
          | _ =>
              cases moved
              exact .nothingToCommit (fun _ active => by cases active) rfl
      | call x k => cases moved
      | _ =>
          cases moved
          exact .callback rfl

private theorem loseMove_fires {s : Sys S} (event : Event S) (pid : Nat) {p : Proc σ}
    {m : Move S} (moved : loseMove p = some m) : s.Fires event pid p m := by
  obtain ⟨slot, log, queue⟩ := p
  cases queue with
  | nil =>
      cases slot with
      | active record =>
          cases moved
          exact .lost rfl rfl
      | _ => cases moved
  | cons head rest =>
      cases head with
      | sql on st k =>
          cases on with
          | db =>
              cases moved
              exact .failedOnDb .outage rfl
          | txn =>
              cases slot with
              | active record =>
                  cases moved
                  exact .failedOnTxn .outage rfl rfl
              | _ => cases moved
      | start k =>
          cases moved
          exact .unopened rfl
      | commit k =>
          cases slot with
          | active record =>
              cases moved
              exact .uncommitted rfl rfl
          | _ => cases moved
      | _ => cases moved

private theorem answerMove_fires {s : Sys S} (pid : Nat) {p : Proc σ} {a : σ.Ans} {m : Move S}
    (moved : answerMove p a = some m) : s.Fires (.answer pid a) pid p m := by
  obtain ⟨slot, log, queue⟩ := p
  cases queue with
  | nil => cases moved
  | cons head rest =>
      cases head with
      | call x k =>
          cases moved
          exact .answered rfl rfl
      | _ => cases moved

/-- A step starts a process or moves one. -/
theorem step_fires {entry : σ.Req → Prog σ} {s s' : Sys S} {event : Event S}
    (stepped : s.step entry event = some s') :
    (∃ request, event = .spawn request ∧
      s' = { s with procs := s.procs ++ [Proc.spawn request (entry request)] }) ∨
    ∃ pid p m, s.procs[pid]? = some p ∧ s.Fires event pid p m ∧ s' = s.after pid m := by
  cases event with
  | spawn request =>
      cases stepped
      exact Or.inl ⟨request, rfl, rfl⟩
  | exec pid env =>
      simp only [step, Option.bind_eq_bind, Option.bind_eq_some_iff, Option.pure_def,
        Option.some.injEq] at stepped
      obtain ⟨p, proc, m, moved, rfl⟩ := stepped
      exact Or.inr ⟨pid, p, m, proc, execMove_fires proc moved, rfl⟩
  | lose pid =>
      simp only [step, Option.bind_eq_bind, Option.bind_eq_some_iff, Option.pure_def,
        Option.some.injEq] at stepped
      obtain ⟨p, proc, m, moved, rfl⟩ := stepped
      exact Or.inr ⟨pid, p, m, proc, loseMove_fires _ _ moved, rfl⟩
  | answer pid a =>
      simp only [step, Option.bind_eq_bind, Option.bind_eq_some_iff, Option.pure_def,
        Option.some.injEq] at stepped
      obtain ⟨p, proc, m, moved, rfl⟩ := stepped
      exact Or.inr ⟨pid, p, m, proc, answerMove_fires _ moved, rfl⟩
  | crash pid =>
      simp only [step, Option.bind_eq_bind, Option.bind_eq_some_iff, Option.pure_def,
        Option.some.injEq] at stepped
      obtain ⟨p, proc, rfl⟩ := stepped
      exact Or.inr ⟨pid, p, _, proc, .crashed, rfl⟩

end Sys
end DrogonPay.ReadCommitted
