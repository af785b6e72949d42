import DrogonPay.ReadCommitted.Program

/-!
Contract: how often a process replies, for every way its statements can end.

Owns:
- `Outcomes`, which of the statements, starts and commits of a process succeed and
  with what result, and `Proc.Finishes`, the process that is run to its end with
  them; a finished process is unique;
- `Replying`, the number of replies of a queue of submitted statements, with one
  rule for each shape of its head.

Does not own: where results come from. Any result some database could give is
allowed, for each statement on each connection.
-/

namespace DrogonPay.ReadCommitted

variable {σ : Sig}

/-- How the statements of a process end: `none` is a failure. A process that
issues no statement twice on one connection can end in every way this allows. -/
structure Outcomes (σ : Sig) where
  sql : Target → (st : σ.Stmt) → Option (σ.Res st)
  possible : ∀ on st res, sql on st = some res → σ.Possible st res
  call : σ.Ext → σ.Ans
  begins : Bool
  commits : Bool
  ends : Bool

namespace Proc

/-- The next move of a process, `none` when it has ended. -/
def act (o : Outcomes σ) (p : Proc σ) : Option (Proc σ × List (Prog σ)) :=
  match p.queue with
  | [] =>
      match p.slot with
      | .active _ => some (if o.ends then p.committed else p.abort .outage, [])
      | _ => none
  | .sql .db st k :: rest =>
      match o.sql .db st with
      | some res => some (advance (p.ranOnDb rest st res) (k (some res)))
      | none => some (advance (p.failedOnDb rest .outage) (k none))
  | .sql .txn st k :: rest =>
      match p.slot with
      | .active _ =>
          match o.sql .txn st with
          | some res => some (advance (p.ranOnTxn rest st res) (k (some res)))
          | none => some (advance { p.abort .outage with queue := rest } (k none))
      | _ => some (advance { p with queue := rest } (k none))
  | .start k :: rest =>
      if o.begins then some (advance { p with queue := rest, slot := .active [] } (k true))
      else some (advance { p.abort .outage with queue := rest } (k false))
  | .commit k :: rest =>
      match p.slot with
      | .active _ =>
          if o.commits then some (advance { p.committed with queue := rest } (k true))
          else some (advance { p.abort .outage with queue := rest } (k false))
      | _ => some (advance { p with queue := rest } (k false))
  | .call x k :: rest =>
      some (advance { p with queue := rest, log := p.log ++ [.answered x (o.call x)] }
        (k (o.call x)))
  | program :: rest => some (advance { p with queue := rest } program)

/-- Every move is one the process can make. -/
theorem act_next {o : Outcomes σ} {p : Proc σ} {q : Proc σ × List (Prog σ)}
    (acts : p.act o = some q) : p.Next q := by
  obtain ⟨slot, log, queue⟩ := p
  cases queue with
  | nil =>
      cases slot with
      | active record =>
          simp only [act, Option.some.injEq] at acts
          simp only [Next]
          cases ends : o.ends <;> simp [ends] at acts <;> simp [acts]
      | _ => cases acts
  | cons head rest =>
      cases head with
      | sql on st k =>
          cases on with
          | db =>
              simp only [act] at acts
              simp only [Next]
              split at acts
              · rename_i res ran
                cases acts
                exact Or.inl ⟨res, o.possible _ _ _ ran, rfl⟩
              · cases acts
                exact Or.inr ⟨_, rfl⟩
          | txn =>
              cases slot with
              | active record =>
                  simp only [act] at acts
                  simp only [Next]
                  split at acts
                  · rename_i res ran
                    cases acts
                    exact Or.inl ⟨res, o.possible _ _ _ ran, rfl⟩
                  · cases acts
                    exact Or.inr ⟨_, rfl⟩
              | _ =>
                  cases acts
                  exact rfl
      | start k =>
          simp only [act] at acts
          simp only [Next]
          split at acts
          · cases acts
            exact Or.inl rfl
          · cases acts
            exact Or.inr rfl
      | commit k =>
          cases slot with
          | active record =>
              simp only [act] at acts
              simp only [Next]
              split at acts
              · cases acts
                exact Or.inl rfl
              · cases acts
                exact Or.inr rfl
          | _ =>
              cases acts
              exact rfl
      | call x k =>
          cases acts
          exact ⟨_, rfl⟩
      | _ =>
          cases acts
          exact rfl

/-- The process ends as the second one. -/
inductive Finishes (o : Outcomes σ) : Proc σ → Proc σ → Prop where
  | ended {p : Proc σ} (rests : p.act o = none) : Finishes o p p
  | moved {p q r : Proc σ} {kids : List (Prog σ)} (acts : p.act o = some (q, kids))
      (finishes : Finishes o q r) : Finishes o p r

theorem Finishes.unique {o : Outcomes σ} {p r r' : Proc σ} (first : p.Finishes o r)
    (second : p.Finishes o r') : r = r' := by
  induction first with
  | ended rests =>
      cases second with
      | ended _ => rfl
      | moved acts _ => cases rests.symm.trans acts
  | moved acts _ inductionHypothesis =>
      cases second with
      | ended rests => cases acts.symm.trans rests
      | moved acts' finishes =>
          cases acts.symm.trans acts'
          exact inductionHypothesis finishes

end Proc

/-! ## Counting replies -/

/-- What an entry reports. -/
def Entry.reply? : Entry σ → Option σ.Out
  | .replied out => some out
  | _ => none

/-- What a log reports, in order. -/
def reported (log : List (Entry σ)) : List σ.Out := log.filterMap Entry.reply?

@[simp] theorem reported_nil : reported ([] : List (Entry σ)) = [] := rfl

@[simp] theorem reported_append (log more : List (Entry σ)) :
    reported (log ++ more) = reported log ++ reported more := List.filterMap_append

@[simp] theorem reported_spawned (request : σ.Req) (log : List (Entry σ)) :
    reported (.spawned request :: log) = reported log := rfl

@[simp] theorem reported_ran (st : σ.Stmt) (res : σ.Res st) (log : List (Entry σ)) :
    reported (.ran st res :: log) = reported log := rfl

@[simp] theorem reported_failed (cause : Failure) (log : List (Entry σ)) :
    reported (.failed cause :: log) = reported log := rfl

@[simp] theorem reported_replied (out : σ.Out) (log : List (Entry σ)) :
    reported (.replied out :: log) = out :: reported log := rfl

/-- From here on the process replies `n` times. -/
def Replying (o : Outcomes σ) (n : Nat) (slot : Slot σ) (queue : List (Prog σ)) : Prop :=
  ∀ log, ∃ r, Proc.Finishes o ⟨slot, log, queue⟩ r ∧
    (reported r.log).length = (reported log).length + n

/-- The process replies `n` times once this callback runs. -/
def Prog.Replying (o : Outcomes σ) (n : Nat) (slot : Slot σ) (rest : List (Prog σ))
    (program : Prog σ) : Prop :=
  ∀ log, ∃ r, Proc.Finishes o (Proc.advance ⟨slot, log, rest⟩ program).1 r ∧
    (reported r.log).length = (reported log).length + n

section Rules

variable {o : Outcomes σ} {n : Nat} {slot : Slot σ} {record : List (Entry σ)}
  {rest : List (Prog σ)} {st : σ.Stmt} {k : Option (σ.Res st) → Prog σ} {next : Bool → Prog σ}

theorem replying_nil (silent : reported slot.record = []) : Replying o 0 slot [] := by
  intro log
  cases slot with
  | active record =>
      cases ends : o.ends with
      | true =>
          have acts : Proc.act o ⟨.active record, log, []⟩ =
              some (Proc.committed ⟨.active record, log, []⟩, []) := by simp [Proc.act, ends]
          exact ⟨_, .moved acts (.ended rfl), by simpa [Proc.committed] using silent⟩
      | false =>
          have acts : Proc.act o ⟨.active record, log, []⟩ =
              some (Proc.abort ⟨.active record, log, []⟩ .outage, []) := by simp [Proc.act, ends]
          exact ⟨_, .moved acts (.ended rfl), by simp [Proc.abort]⟩
  | _ => exact ⟨_, .ended rfl, rfl⟩

/-- A move that adds entries which report nothing. -/
theorem Prog.Replying.moved {program : Prog σ} {slot' : Slot σ} {queue : List (Prog σ)}
    (replying : program.Replying o n slot' rest)
    (acts : ∀ log, ∃ more, reported more = [] ∧
      Proc.act o ⟨slot, log, queue⟩ = some (Proc.advance ⟨slot', log ++ more, rest⟩ program)) :
    ReadCommitted.Replying o n slot queue := by
  intro log
  obtain ⟨more, silent, moves⟩ := acts log
  obtain ⟨r, finishes, count⟩ := replying (log ++ more)
  refine ⟨r, .moved moves finishes, ?_⟩
  rw [count, reported_append, silent, List.append_nil]

theorem replying_db (replying : (k (o.sql .db st)).Replying o n slot rest) :
    Replying o n slot (.sql .db st k :: rest) := by
  cases ended : o.sql .db st with
  | some res =>
      rw [ended] at replying
      exact replying.moved fun log => ⟨[.ran st res], rfl, by simp [Proc.act, ended, Proc.ranOnDb]⟩
  | none =>
      rw [ended] at replying
      exact replying.moved fun log =>
        ⟨[.failed .outage], rfl, by simp [Proc.act, ended, Proc.failedOnDb]⟩

theorem replying_txn_ran {res : σ.Res st} (ran : o.sql .txn st = some res)
    (replying : (k (some res)).Replying o n (.active (record ++ [.ran st res])) rest) :
    Replying o n (.active record) (.sql .txn st k :: rest) :=
  replying.moved fun log => ⟨[], rfl, by simp [Proc.act, ran, Proc.ranOnTxn]⟩

theorem replying_txn_failed (failed : o.sql .txn st = none)
    (replying : (k none).Replying o n .closed rest) :
    Replying o n (.active record) (.sql .txn st k :: rest) :=
  replying.moved fun log => ⟨[.failed .outage], rfl, by simp [Proc.act, failed, Proc.abort]⟩

theorem replying_txn_closed (replying : (k none).Replying o n .closed rest) :
    Replying o n .closed (.sql .txn st k :: rest) :=
  replying.moved fun log => ⟨[], rfl, by simp [Proc.act]⟩

theorem replying_start (opened : o.begins = true → (next true).Replying o n (.active []) rest)
    (refused : o.begins = false → (next false).Replying o n .closed rest) :
    Replying o n slot (.start next :: rest) := by
  cases begins : o.begins with
  | true => exact (opened begins).moved fun log => ⟨[], rfl, by simp [Proc.act, begins]⟩
  | false =>
      exact (refused begins).moved fun log =>
        ⟨[.failed .outage], rfl, by simp [Proc.act, begins, Proc.abort]⟩

theorem replying_commit (silent : reported record = [])
    (replying : ∀ done, (next done).Replying o n .closed rest) :
    Replying o n (.active record) (.commit next :: rest) := by
  cases commits : o.commits with
  | true =>
      exact (replying true).moved fun log =>
        ⟨record, silent, by simp [Proc.act, commits, Proc.committed]⟩
  | false =>
      exact (replying false).moved fun log =>
        ⟨[.failed .outage], rfl, by simp [Proc.act, commits, Proc.abort]⟩

theorem replying_done (silent : reported slot.record = []) :
    Prog.done.Replying o 0 slot [] :=
  replying_nil silent

theorem replying_reply {program : Prog σ} {out : σ.Out}
    (replying : program.Replying o n slot rest) :
    (Prog.reply out program).Replying o (n + 1) slot rest := by
  intro log
  obtain ⟨r, finishes, count⟩ := replying (log ++ [.replied out])
  refine ⟨r, finishes, ?_⟩
  rw [count, reported_append, reported_replied, List.length_append, List.length_cons]
  simp only [reported_nil, List.length_nil]
  omega

/-- The replies of a process from its start. -/
theorem Prog.Replying.of_spawn (request : σ.Req) {program : Prog σ}
    (replying : program.Replying o n .none []) :
    ∃ r, (Proc.spawn request program).Finishes o r ∧ (reported r.log).length = n := by
  obtain ⟨r, finishes, count⟩ := replying [.spawned request]
  have isCount : (reported r.log).length = n := by
    simpa using count
  refine ⟨r, ?_, isCount⟩
  cases program with
  | sql on st k => exact finishes
  | call x k => exact finishes
  | start k => exact finishes
  | commit k => exact finishes
  | _ => exact .moved rfl finishes

end Rules

end DrogonPay.ReadCommitted
