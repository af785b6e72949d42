import DrogonPay.ReadCommitted.Alone

/-!
Contract: what a program of pooled statements reports when others work on the
database between its statements.

Owns:
- `Ends`, "the program can end with this report", where `others` says what
  becomes of the database between two statements and `clock` which environments
  the statements meet;
- `Run.ends`, by which a process of a run in which nothing failed ends that way.

Does not own: what the others do; transactions, calls and forks.
-/

namespace DrogonPay.ReadCommitted

variable {σ : Sig} {S : Store σ}

/-- A program that runs pooled statements and then ends, with a report or
without. -/
def Prog.Pooled : Prog σ → Prop
  | .done => True
  | .reply _ .done => True
  | .sql .db _ k => ∀ res, (k res).Pooled
  | _ => False

section Ends

variable (others : S.Db → S.Db → Prop) (clock : S.Env → Prop)

/-- The program, with nothing failing, can end with this report. -/
inductive Ends : S.Db → Prog σ → σ.Out → Prop where
  | report {db : S.Db} {out : σ.Out} : Ends db (.reply out .done) out
  | ran {db db' : S.Db} {st : σ.Stmt} {k : Option (σ.Res st) → Prog σ} {env : S.Env}
      {res : σ.Res st} {out : σ.Out} (meanwhile : others db db') (meets : clock env)
      (runs : S.run db' env st = some res)
      (later : Ends (S.applyAll db' (S.writes st res)) (k (some res)) out) :
      Ends db (.sql .db st k) out

variable {others clock}

theorem ends_reply {db : S.Db} {given out : σ.Out} :
    Ends others clock db (.reply given .done) out ↔ given = out := by
  constructor
  · rintro ⟨⟩
    rfl
  · rintro rfl
    exact .report

theorem ends_sql {db : S.Db} {st : σ.Stmt} {k : Option (σ.Res st) → Prog σ} {out : σ.Out} :
    Ends others clock db (.sql .db st k) out ↔
      ∃ db' env res, others db db' ∧ clock env ∧ S.run db' env st = some res ∧
        Ends others clock (S.applyAll db' (S.writes st res)) (k (some res)) out := by
  constructor
  · intro ends
    cases ends with
    | ran meanwhile meets runs later => exact ⟨_, _, _, meanwhile, meets, runs, later⟩
  · rintro ⟨db', env, res, meanwhile, meets, runs, later⟩
    exact .ran meanwhile meets runs later

/-- What the others do before the first statement may be counted in. -/
theorem Ends.after (transitive : ∀ a b c, others a b → others b c → others a c)
    {db db' : S.Db} {program : Prog σ} {out : σ.Out} (meanwhile : others db db')
    (ends : Ends others clock db' program out) : Ends others clock db program out := by
  cases ends with
  | report => exact .report
  | ran further meets runs later => exact .ran (transitive _ _ _ meanwhile further) meets runs later

/-! ## In a run -/

variable {entry : σ.Req → Prog σ} {ok : Sys S → Event S → Prop} {start s : Sys S}
  {events : List (Event S)} {pid : Nat} {program : Prog σ}

/-- The process that is about to run the program. -/
def Prog.begun (program : Prog σ) (log : List (Entry σ)) : Proc σ :=
  (Proc.advance ⟨.none, log, []⟩ program).1

/-- The process at its index after a move. -/
private theorem getElem?_after {p : Proc σ} {m : Move S} (proc : s.procs[pid]? = some p) :
    (s.after pid m).procs[pid]? = some m.next.1 := by
  have inside : pid < s.procs.length := (List.getElem?_eq_some_iff.mp proc).1
  simp [Sys.after, List.getElem?_append, inside]

/-- A process that another one's step leaves alone. -/
private theorem getElem?_other {s' : Sys S} {event : Event S} {p : Proc σ}
    (proc : s.procs[pid]? = some p) (other : event.mover ≠ some pid)
    (stepped : s.step entry event = some s') : s'.procs[pid]? = some p := by
  have inside : pid < s.procs.length := (List.getElem?_eq_some_iff.mp proc).1
  cases isMover : event.mover with
  | none =>
      cases event with
      | spawn request =>
          cases stepped
          rw [List.getElem?_append_left inside]
          exact proc
      | _ => cases isMover
  | some mover =>
      obtain ⟨q, slot, log, m, -, rfl⟩ := Sys.step_moves stepped isMover
      have different : mover ≠ pid := fun same => other (by rw [isMover, same])
      have kept : (s.procs.set mover m.next.1)[pid]? = some p := by
        rw [List.getElem?_set_ne different, proc]
      exact (List.getElem?_append_left (by simpa using inside)).trans kept

/-- The next statement of a program that runs nothing else. -/
private theorem execMove_begun {log : List (Entry σ)} {env : S.Env} {m : Move S}
    (pooled : program.Pooled) (moved : s.execMove pid (program.begun log) env = some m)
    (clean : Unfailed m.next.1.log) :
    ∃ st k res, program = .sql .db st k ∧ S.run s.db env st = some res ∧
      m = ⟨Proc.advance ⟨.none, log ++ [.ran st res], []⟩ (k (some res)), S.writes st res⟩ := by
  cases program with
  | done => cases moved
  | reply out next =>
      cases next with
      | done => cases moved
      | _ => exact pooled.elim
  | sql on st k =>
      cases on with
      | db =>
          obtain ⟨res, runs, rfl⟩ := ran_of_execMove moved clean
          exact ⟨st, k, res, rfl, runs, rfl⟩
      | txn => exact pooled.elim
  | _ => exact pooled.elim

/-- A step of the process itself runs its next statement. -/
private theorem moves_on {s' : Sys S} {event : Event S} {log : List (Entry σ)}
    (pooled : program.Pooled) (proc : s.procs[pid]? = some (program.begun log))
    (isMover : event.mover = some pid) (stepped : s.step entry event = some s')
    (clean : s'.Clean) :
    ∃ env st k res, event = .exec pid env ∧ program = .sql .db st k ∧
      S.run s.db env st = some res ∧ s'.db = S.applyAll s.db (S.writes st res) ∧
      s'.procs[pid]? = some ((k (some res)).begun (log ++ [.ran st res])) := by
  cases event with
  | spawn request => cases isMover
  | exec mover env =>
      cases isMover
      simp only [Sys.step, proc, Option.bind_eq_bind, Option.bind_some, Option.bind_eq_some_iff,
        Option.pure_def, Option.some.injEq] at stepped
      obtain ⟨m, moved, rfl⟩ := stepped
      obtain ⟨st, k, res, rfl, runs, rfl⟩ :=
        execMove_begun pooled moved (clean _ (Sys.mem_after proc))
      exact ⟨env, st, k, res, rfl, rfl, runs, rfl, getElem?_after proc⟩
  | lose mover =>
      cases isMover
      simp only [Sys.step, proc, Option.bind_eq_bind, Option.bind_some, Option.bind_eq_some_iff,
        Option.pure_def, Option.some.injEq] at stepped
      obtain ⟨m, moved, rfl⟩ := stepped
      exact absurd (failed_of_loseMove moved) (clean _ (Sys.mem_after proc) _)
  | answer mover a =>
      cases isMover
      simp only [Sys.step, proc, Option.bind_eq_bind, Option.bind_some, Option.bind_eq_some_iff,
        Option.pure_def, Option.some.injEq] at stepped
      obtain ⟨m, moved, rfl⟩ := stepped
      cases program with
      | done => cases moved
      | reply out next =>
          cases next with
          | done => cases moved
          | _ => exact pooled.elim
      | sql on st k => cases moved
      | _ => exact pooled.elim
  | crash mover =>
      cases isMover
      simp only [Sys.step, proc, Option.bind_eq_bind, Option.bind_some, Option.pure_def,
        Option.some.injEq] at stepped
      subst stepped
      have died : (.failed .outage : Entry σ) ∈ (program.begun log).crash.log := by
        simp [Proc.crash]
      exact absurd died (clean _ (Sys.mem_after proc) _)

/-- What a process of a run reports, it can end with. -/
theorem Run.ends (run : Run entry ok start events s) (reflexive : ∀ db, others db db)
    (transitive : ∀ a b c, others a b → others b c → others a c)
    (apart : ∀ {s s' : Sys S} {event : Event S}, ok s event → event.mover ≠ some pid →
      s.step entry event = some s' → others s.db s'.db)
    (clocks : ∀ {s : Sys S} {env : S.Env}, ok s (.exec pid env) → clock env)
    (pooled : program.Pooled) {log : List (Entry σ)} (silent : ∀ out, .replied out ∉ log)
    (begins : start.procs[pid]? = some (program.begun log)) (clean : s.Clean) {p : Proc σ}
    (proc : s.procs[pid]? = some p) {out : σ.Out} (reported : .replied out ∈ p.log) :
    Ends others clock start.db program out := by
  have onTheWay : ∃ current log', current.Pooled ∧ s.procs[pid]? = some (current.begun log') ∧
      (∀ out, .replied out ∉ log') ∧
      ∀ out, Ends others clock s.db current out → Ends others clock start.db program out := by
    clear proc reported
    induction run with
    | nil => exact ⟨program, log, pooled, begins, silent, fun out ends => ends⟩
    | @snoc _ event s s' run meets stepped inductionHypothesis =>
        obtain ⟨current, log', isPooled, proc, silent', continues⟩ :=
          inductionHypothesis (clean.before stepped)
        by_cases isMover : event.mover = some pid
        · obtain ⟨env, st, k, res, rfl, rfl, runs, isDb, moved⟩ :=
            moves_on isPooled proc isMover stepped clean
          refine ⟨k (some res), _, isPooled _, moved, by simpa using silent',
            fun out ends => continues out ?_⟩
          rw [isDb] at ends
          exact .ran (reflexive _) (clocks meets) runs ends
        · have moved : others s.db s'.db := apart meets isMover stepped
          exact ⟨current, log', isPooled, getElem?_other proc isMover stepped, silent',
            fun out ends => continues out (ends.after transitive moved)⟩
  obtain ⟨current, log', isPooled, isProc, silent', continues⟩ := onTheWay
  obtain rfl : current.begun log' = p := Option.some.inj (isProc.symm.trans proc)
  cases current with
  | done => exact absurd reported (silent' out)
  | reply given next =>
      cases next with
      | done =>
          obtain rfl : given = out := by
            simpa [Prog.begun, Proc.advance, silent', eq_comm] using reported
          exact continues given .report
      | _ => exact isPooled.elim
  | sql on st k => exact absurd reported (silent' out)
  | _ => exact isPooled.elim

end Ends
end DrogonPay.ReadCommitted
