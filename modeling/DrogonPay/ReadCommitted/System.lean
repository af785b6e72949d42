import DrogonPay.ReadCommitted.Program

/-!
Contract: processes over one READ COMMITTED database.

Owns:
- `Store`, what a database does with the statements of a signature: their
  results, their writes, and the rows they lock;
- `Sys` and `Sys.step`, the interleavings. A statement is atomic and sees the
  committed state plus the writes of its own transaction; a row written or
  locked by an open transaction stays locked until that transaction ends; a
  statement that needs a locked row waits;
- `Run`, whole runs under a condition on every step;
- `Sys.step_moves` and `Sys.step_cases`, which take `step` apart.

Does not own: what any particular statement means.
-/

namespace DrogonPay.ReadCommitted

/-- A database for the statements of `σ`. `run` gives a statement's result in
the state it sees, `none` when a constraint refuses it; `Env` is what the server
adds by itself, such as the clock. The writes of a statement depend on its
result only. -/
structure Store (σ : Sig) where
  Db : Type
  Env : Type
  Write : Type
  Key : Type
  [keyEq : DecidableEq Key]
  apply : Db → Write → Db
  run : Db → Env → (st : σ.Stmt) → Option (σ.Res st)
  writes : (st : σ.Stmt) → σ.Res st → List Write
  keys : Write → List Key
  grabs : (st : σ.Stmt) → σ.Res st → List Key
  run_possible : ∀ {db env st res}, run db env st = some res → σ.Possible st res

attribute [instance] Store.keyEq

section Records

variable {σ : Sig} (S : Store σ)

/-- The rows a statement locks. -/
def Store.needs (st : σ.Stmt) (res : σ.Res st) : List S.Key :=
  S.grabs st res ++ (S.writes st res).flatMap S.keys

/-- The uncommitted writes of a transaction. -/
def Store.pending (record : List (Entry σ)) : List S.Write :=
  record.flatMap fun
    | .ran st res => S.writes st res
    | _ => []

/-- The locks a transaction holds. -/
def Store.locks (record : List (Entry σ)) : List S.Key :=
  record.flatMap fun
    | .ran st res => S.needs st res
    | _ => []

/-- A list of writes, applied oldest first. -/
def Store.applyAll (db : S.Db) (ws : List S.Write) : S.Db :=
  ws.foldl S.apply db

@[simp] theorem Store.pending_nil : S.pending [] = [] := rfl

@[simp] theorem Store.locks_nil : S.locks [] = [] := rfl

@[simp] theorem Store.pending_append (left right : List (Entry σ)) :
    S.pending (left ++ right) = S.pending left ++ S.pending right :=
  List.flatMap_append

@[simp] theorem Store.locks_append (left right : List (Entry σ)) :
    S.locks (left ++ right) = S.locks left ++ S.locks right :=
  List.flatMap_append

@[simp] theorem Store.pending_ran (st : σ.Stmt) (res : σ.Res st) :
    S.pending [.ran st res] = S.writes st res := by
  simp [Store.pending]

@[simp] theorem Store.pending_cons_ran (st : σ.Stmt) (res : σ.Res st) (rest : List (Entry σ)) :
    S.pending (.ran st res :: rest) = S.writes st res ++ S.pending rest := by
  simp [Store.pending]

@[simp] theorem Store.locks_ran (st : σ.Stmt) (res : σ.Res st) :
    S.locks [.ran st res] = S.needs st res := by
  simp [Store.locks]

@[simp] theorem Store.applyAll_nil (db : S.Db) : S.applyAll db [] = db := rfl

@[simp] theorem Store.applyAll_cons (db : S.Db) (w : S.Write) (ws : List S.Write) :
    S.applyAll db (w :: ws) = S.applyAll (S.apply db w) ws := rfl

@[simp] theorem Store.applyAll_append (db : S.Db) (left right : List S.Write) :
    S.applyAll db (left ++ right) = S.applyAll (S.applyAll db left) right :=
  List.foldl_append

/-- The keys of a pending write are locked. -/
theorem Store.mem_locks_of_pending {record : List (Entry σ)} {w : S.Write} {key : S.Key}
    (written : w ∈ S.pending record) (member : key ∈ S.keys w) : key ∈ S.locks record := by
  obtain ⟨entry, mem, isWrite⟩ := List.mem_flatMap.mp written
  refine List.mem_flatMap.mpr ⟨entry, mem, ?_⟩
  cases entry with
  | ran st res =>
      exact List.mem_append_right _ (List.mem_flatMap.mpr ⟨w, isWrite, member⟩)
  | _ => exact absurd isWrite (List.not_mem_nil)

end Records

/-- The whole system. `past` lists the committed states before the current one,
newest first. -/
structure Sys {σ : Sig} (S : Store σ) where
  db : S.Db
  past : List S.Db
  procs : List (Proc σ)

inductive Event {σ : Sig} (S : Store σ) where
  | spawn (request : σ.Req)
  | exec (pid : Nat) (env : S.Env)
  | lose (pid : Nat)
  | answer (pid : Nat) (a : σ.Ans)
  | crash (pid : Nat)

/-- The process an event moves. -/
def Event.mover {σ : Sig} {S : Store σ} : Event S → Option Nat
  | .spawn _ => none
  | .exec pid _ | .lose pid | .answer pid _ | .crash pid => some pid

/-- What one process does in a step: how it goes on, and what it commits. -/
structure Move {σ : Sig} (S : Store σ) where
  next : Proc σ × List (Prog σ)
  commits : List S.Write

namespace Sys

variable {σ : Sig} {S : Store σ}

/-- Every committed state so far, newest first. -/
def history (s : Sys S) : List S.Db := s.db :: s.past

/-- The database as a transaction with this record sees it. -/
def view (s : Sys S) (record : List (Entry σ)) : S.Db :=
  S.applyAll s.db (S.pending record)

/-- No process of `procs` holds a lock on these rows. -/
def free (S : Store σ) (procs : List (Proc σ)) (keys : List S.Key) : Bool :=
  procs.all fun p => keys.all fun key => !(S.locks p.slot.record).contains key

/-- The other processes. -/
def others (s : Sys S) (pid : Nat) : List (Proc σ) := s.procs.eraseIdx pid

/-- A statement on a pooled connection waits for every open transaction. -/
def execOnDb (s : Sys S) (p : Proc σ) (env : S.Env) (st : σ.Stmt)
    (k : Option (σ.Res st) → Prog σ) (rest : List (Prog σ)) : Option (Move S) :=
  match S.run s.db env st with
  | none => some ⟨(p.failedOnDb rest .refused).advance (k none), []⟩
  | some res =>
      if free S s.procs (S.needs st res) then
        some ⟨(p.ranOnDb rest st res).advance (k (some res)), S.writes st res⟩
      else none

/-- A statement on a transaction waits for the open transactions of the other
processes; its writes stay with the transaction. -/
def execOnTxn (s : Sys S) (pid : Nat) (p : Proc σ) (record : List (Entry σ)) (env : S.Env)
    (st : σ.Stmt) (k : Option (σ.Res st) → Prog σ) (rest : List (Prog σ)) : Option (Move S) :=
  match S.run (s.view record) env st with
  | none => some ⟨Proc.advance { p.abort .refused with queue := rest } (k none), []⟩
  | some res =>
      if free S (s.others pid) (S.needs st res) then
        some ⟨(p.ranOnTxn rest st res).advance (k (some res)), []⟩
      else none

/-- The process runs the statement at the head of its queue. -/
def execMove (s : Sys S) (pid : Nat) (p : Proc σ) (env : S.Env) : Option (Move S) :=
  match p.queue with
  | [] =>
      match p.slot with
      | .active record => some ⟨(p.committed, []), S.pending record⟩
      | _ => none
  | .sql .db st k :: rest => s.execOnDb p env st k rest
  | .sql .txn st k :: rest =>
      match p.slot with
      | .active record => s.execOnTxn pid p record env st k rest
      | _ => some ⟨Proc.advance { p with queue := rest } (k none), []⟩
  | .start k :: rest =>
      some ⟨Proc.advance { p with queue := rest, slot := .active [] } (k true), []⟩
  | .commit k :: rest =>
      match p.slot with
      | .active record =>
          some ⟨Proc.advance { p.committed with queue := rest } (k true), S.pending record⟩
      | _ => some ⟨Proc.advance { p with queue := rest } (k false), []⟩
  | .call _ _ :: _ => none
  | program :: rest => some ⟨Proc.advance { p with queue := rest } program, []⟩

/-- The statement at the head of the queue is lost. -/
def loseMove (p : Proc σ) : Option (Move S) :=
  match p.queue with
  | [] =>
      match p.slot with
      | .active _ => some ⟨(p.abort .outage, []), []⟩
      | _ => none
  | .sql .db _ k :: rest => some ⟨(p.failedOnDb rest .outage).advance (k none), []⟩
  | .sql .txn _ k :: rest =>
      match p.slot with
      | .active _ =>
          some ⟨Proc.advance { p.abort .outage with queue := rest } (k none), []⟩
      | _ => none
  | .start k :: rest =>
      some ⟨Proc.advance { p.abort .outage with queue := rest } (k false), []⟩
  | .commit k :: rest =>
      match p.slot with
      | .active _ =>
          some ⟨Proc.advance { p.abort .outage with queue := rest } (k false), []⟩
      | _ => none
  | _ => none

/-- The answer to the call at the head of the queue arrives. -/
def answerMove (p : Proc σ) (a : σ.Ans) : Option (Move S) :=
  match p.queue with
  | .call x k :: rest =>
      some ⟨Proc.advance { p with queue := rest, log := p.log ++ [.answered x a] } (k a), []⟩
  | _ => none

/-- The system after a move of process `pid`. -/
def after (s : Sys S) (pid : Nat) (m : Move S) : Sys S where
  db := S.applyAll s.db m.commits
  past := s.db :: s.past
  procs := s.procs.set pid m.next.1 ++ m.next.2.map (Proc.child m.next.1.log)

/-- One step of the system; `none` when the event is not possible now. -/
def step (entry : σ.Req → Prog σ) (s : Sys S) : Event S → Option (Sys S)
  | .spawn request =>
      some { s with procs := s.procs ++ [Proc.spawn request (entry request)] }
  | .exec pid env => do
      let p ← s.procs[pid]?
      let m ← s.execMove pid p env
      return s.after pid m
  | .lose pid => do
      let p ← s.procs[pid]?
      let m ← loseMove p
      return s.after pid m
  | .answer pid a => do
      let p ← s.procs[pid]?
      let m ← answerMove p a
      return s.after pid m
  | .crash pid => do
      let p ← s.procs[pid]?
      return s.after pid ⟨(p.crash, []), []⟩

/-- A list of events in order, as long as every one passes the check. -/
def runAll (entry : σ.Req → Prog σ) (check : Sys S → Event S → Bool) (s : Sys S) :
    List (Event S) → Option (Sys S)
  | [] => some s
  | event :: events =>
      if check s event then (s.step entry event).bind fun s' => runAll entry check s' events
      else none

/-- The statement a step is about to run, with the database it sees. -/
def executing (s : Sys S) : Event S → Option (σ.Stmt × S.Db)
  | .exec pid _ => do
      let p ← s.procs[pid]?
      match p.queue, p.slot with
      | .sql .db st _ :: _, _ => some (st, s.db)
      | .sql .txn st _ :: _, .active record => some (st, s.view record)
      | _, _ => none
  | _ => none

/-- What the process of the next statement knows: its log, and the record of the
transaction the statement is about to run in. -/
def knowing (s : Sys S) : Event S → Option (List (Entry σ) × Option (List (Entry σ)))
  | .exec pid _ => do
      let p ← s.procs[pid]?
      match p.queue, p.slot with
      | .sql .db _ _ :: _, _ => some (p.log, none)
      | .sql .txn _ _ :: _, .active record => some (p.log, some record)
      | _, _ => none
  | _ => none

/-- Nothing is in flight. -/
def Quiescent (s : Sys S) : Prop :=
  ∀ p ∈ s.procs, p.queue = [] ∧ ∀ record, p.slot ≠ .active record

/-- No statement has failed. -/
def Clean (s : Sys S) : Prop := ∀ p ∈ s.procs, Unfailed p.log

/-! ## What a step can do -/

/-- The event runs statement `st` of process `pid` on a pooled connection. -/
structure RunsOnDb (s : Sys S) (event : Event S) (pid : Nat) (p : Proc σ) (st : σ.Stmt)
    (res : σ.Res st) : Prop where
  proc : s.procs[pid]? = some p
  head : ∃ k rest, p.queue = .sql .db st k :: rest
  result : ∃ env, event = .exec pid env ∧ S.run s.db env st = some res
  unlocked : free S s.procs (S.needs st res)

/-- The event runs statement `st` of process `pid` on its transaction. -/
structure RunsOnTxn (s : Sys S) (event : Event S) (pid : Nat) (p : Proc σ)
    (record : List (Entry σ)) (st : σ.Stmt) (res : σ.Res st) : Prop where
  proc : s.procs[pid]? = some p
  head : ∃ k rest, p.queue = .sql .txn st k :: rest
  slot : p.slot = .active record
  result : ∃ env, event = .exec pid env ∧ S.run (s.view record) env st = some res
  unlocked : free S (s.others pid) (S.needs st res)

/-- The event commits the transaction of process `pid`. -/
structure Commits (s : Sys S) (event : Event S) (pid : Nat) (p : Proc σ)
    (record : List (Entry σ)) : Prop where
  proc : s.procs[pid]? = some p
  head : p.queue = [] ∨ ∃ k rest, p.queue = .commit k :: rest
  slot : p.slot = .active record
  fired : ∃ env, event = .exec pid env

theorem RunsOnDb.executing {s : Sys S} {event : Event S} {pid : Nat} {p : Proc σ} {st : σ.Stmt}
    {res : σ.Res st} (runs : s.RunsOnDb event pid p st res) :
    s.executing event = some (st, s.db) := by
  obtain ⟨env, rfl, _⟩ := runs.result
  obtain ⟨k, rest, head⟩ := runs.head
  simp [Sys.executing, runs.proc, head]

theorem RunsOnTxn.executing {s : Sys S} {event : Event S} {pid : Nat} {p : Proc σ}
    {record : List (Entry σ)} {st : σ.Stmt} {res : σ.Res st}
    (runs : s.RunsOnTxn event pid p record st res) :
    s.executing event = some (st, s.view record) := by
  obtain ⟨env, rfl, _⟩ := runs.result
  obtain ⟨k, rest, head⟩ := runs.head
  simp [Sys.executing, runs.proc, head, runs.slot]

theorem RunsOnDb.knowing {s : Sys S} {event : Event S} {pid : Nat} {p : Proc σ} {st : σ.Stmt}
    {res : σ.Res st} (runs : s.RunsOnDb event pid p st res) :
    s.knowing event = some (p.log, none) := by
  obtain ⟨env, rfl, _⟩ := runs.result
  obtain ⟨k, rest, head⟩ := runs.head
  simp [Sys.knowing, runs.proc, head]

theorem RunsOnTxn.knowing {s : Sys S} {event : Event S} {pid : Nat} {p : Proc σ}
    {record : List (Entry σ)} {st : σ.Stmt} {res : σ.Res st}
    (runs : s.RunsOnTxn event pid p record st res) :
    s.knowing event = some (p.log, some record) := by
  obtain ⟨env, rfl, _⟩ := runs.result
  obtain ⟨k, rest, head⟩ := runs.head
  simp [Sys.knowing, runs.proc, head, runs.slot]

theorem Commits.mover {s : Sys S} {event : Event S} {pid : Nat} {p : Proc σ}
    {record : List (Entry σ)} (commits : s.Commits event pid p record) :
    event.mover = some pid := by
  obtain ⟨env, rfl⟩ := commits.fired
  rfl

/-- A commit makes visible what its transaction saw. -/
theorem Commits.visible {entry : σ.Req → Prog σ} {s s' : Sys S} {event : Event S} {pid : Nat}
    {p : Proc σ} {record : List (Entry σ)} (commits : s.Commits event pid p record)
    (stepped : s.step entry event = some s') : s'.db = s.view record := by
  obtain ⟨env, rfl⟩ := commits.fired
  rcases commits.head with head | ⟨k, rest, head⟩ <;>
    · simp only [step, commits.proc, execMove, head, commits.slot, Option.bind_eq_bind,
        Option.bind_some, Option.pure_def, Option.some.injEq] at stepped
      subst stepped
      rfl

/-- The transaction stays or is dropped, and the log grows by entries that say
nothing about the database. -/
def Calm (slot : Slot σ) (log : List (Entry σ)) (slot' : Slot σ) (log' : List (Entry σ)) : Prop :=
  (slot' = slot ∨ slot'.record = []) ∧
    ∃ extra : List (Entry σ), log' = log ++ extra ∧ ∀ entry ∈ extra, entry.Quiet

/-- What a move does to the transaction and the log of its process, before the
callback runs, and what it commits. -/
inductive Acts (s : Sys S) (event : Event S) (pid : Nat) (p : Proc σ) :
    Slot σ → List (Entry σ) → List S.Write → Prop where
  | calm {slot : Slot σ} {log : List (Entry σ)} (calm : Calm p.slot p.log slot log) :
      Acts s event pid p slot log []
  | onDb {st : σ.Stmt} {res : σ.Res st} (runs : s.RunsOnDb event pid p st res) :
      Acts s event pid p p.slot (p.log ++ [.ran st res]) (S.writes st res)
  | onTxn {record : List (Entry σ)} {st : σ.Stmt} {res : σ.Res st}
      (runs : s.RunsOnTxn event pid p record st res) :
      Acts s event pid p (.active (record ++ [.ran st res])) p.log []
  | commit {record : List (Entry σ)} (commits : s.Commits event pid p record) :
      Acts s event pid p .closed (p.log ++ record) (S.pending record)

theorem Calm.refl (slot : Slot σ) (log : List (Entry σ)) : Calm slot log slot log :=
  ⟨Or.inl rfl, [], by simp, by simp⟩

theorem Calm.dropped {slot : Slot σ} {log : List (Entry σ)} {slot' : Slot σ} {entry : Entry σ}
    (dropped : slot'.record = []) (quiet : entry.Quiet) :
    Calm slot log slot' (log ++ [entry]) :=
  ⟨Or.inr dropped, [entry], rfl, by simpa using quiet⟩

/-- A callback is calm. -/
theorem calm_advance (p : Proc σ) (program : Prog σ) :
    Calm p.slot p.log (p.advance program).1.slot (p.advance program).1.log := by
  refine ⟨?_, ?_⟩
  · rcases Proc.advance_slot p program with same | rolled
    · exact Or.inl same
    · exact Or.inr (by rw [rolled]; exact Slot.record_rolledBack _)
  · obtain ⟨outs, eq⟩ := Proc.advance_log p program
    refine ⟨outs.map Entry.replied, eq, ?_⟩
    simp [Entry.Quiet]

/-- The transition of process `pid` in a step, taken apart: its action on the
database, then a callback. -/
structure Moves (s : Sys S) (event : Event S) (pid : Nat) (p : Proc σ) (slot : Slot σ)
    (log : List (Entry σ)) (m : Move S) : Prop where
  proc : s.procs[pid]? = some p
  acts : s.Acts event pid p slot log m.commits
  settles : Calm slot log m.next.1.slot m.next.1.log
  next : p.Next m.next ∨ m.next = (p.crash, [])

private theorem execOnDb_moves {s : Sys S} {pid : Nat} {slot : Slot σ} {log : List (Entry σ)}
    {st : σ.Stmt} {k : Option (σ.Res st) → Prog σ} {rest : List (Prog σ)} {env : S.Env}
    {m : Move S} (proc : s.procs[pid]? = some ⟨slot, log, .sql .db st k :: rest⟩)
    (moved : s.execOnDb ⟨slot, log, .sql .db st k :: rest⟩ env st k rest = some m) :
    ∃ slot' log', s.Moves (.exec pid env) pid ⟨slot, log, .sql .db st k :: rest⟩ slot' log' m := by
  unfold execOnDb at moved
  split at moved
  · cases moved
    exact ⟨_, _, proc, .calm ⟨Or.inl rfl, [.failed .refused], rfl, by simp [Entry.Quiet]⟩,
      calm_advance _ _, Or.inl (Or.inr ⟨.refused, rfl⟩)⟩
  · rename_i res result
    split at moved
    · rename_i unlocked
      cases moved
      exact ⟨_, _, proc, .onDb ⟨proc, ⟨k, rest, rfl⟩, ⟨env, rfl, result⟩, unlocked⟩,
        calm_advance _ _, Or.inl (Or.inl ⟨res, S.run_possible result, rfl⟩)⟩
    · cases moved

private theorem execOnTxn_moves {s : Sys S} {pid : Nat} {log record : List (Entry σ)}
    {st : σ.Stmt} {k : Option (σ.Res st) → Prog σ} {rest : List (Prog σ)} {env : S.Env}
    {m : Move S} (proc : s.procs[pid]? = some ⟨.active record, log, .sql .txn st k :: rest⟩)
    (moved : s.execOnTxn pid ⟨.active record, log, .sql .txn st k :: rest⟩ record env st k rest =
      some m) :
    ∃ slot' log', s.Moves (.exec pid env) pid ⟨.active record, log, .sql .txn st k :: rest⟩
      slot' log' m := by
  have refused : Calm (.active record) log .closed (log ++ [.failed .refused]) :=
    Calm.dropped rfl trivial
  unfold execOnTxn at moved
  split at moved
  · cases moved
    exact ⟨_, _, proc, .calm refused, calm_advance _ _, Or.inl (Or.inr ⟨.refused, rfl⟩)⟩
  · rename_i res result
    split at moved
    · rename_i unlocked
      cases moved
      exact ⟨_, _, proc, .onTxn ⟨proc, ⟨k, rest, rfl⟩, rfl, ⟨env, rfl, result⟩, unlocked⟩,
        calm_advance _ _, Or.inl (Or.inl ⟨res, S.run_possible result, rfl⟩)⟩
    · cases moved

/-- A step in which the process only runs a callback. -/
private theorem moves_of_callback {s : Sys S} {event : Event S} {pid : Nat} {p q : Proc σ}
    {program : Prog σ} (proc : s.procs[pid]? = some p)
    (calm : Calm p.slot p.log q.slot q.log) (next : p.Next (q.advance program)) :
    s.Moves event pid p q.slot q.log ⟨q.advance program, []⟩ :=
  ⟨proc, .calm calm, calm_advance q program, Or.inl next⟩

private theorem execMove_moves {s : Sys S} {pid : Nat} {p : Proc σ} {env : S.Env} {m : Move S}
    (proc : s.procs[pid]? = some p) (moved : s.execMove pid p env = some m) :
    ∃ slot log, s.Moves (.exec pid env) pid p slot log m := by
  obtain ⟨slot, log, queue⟩ := p
  have opened : Calm slot log (.active []) log := ⟨Or.inr rfl, [], by simp, by simp⟩
  cases queue with
  | nil =>
      cases slot with
      | active record =>
          cases moved
          exact ⟨_, _, proc, .commit ⟨proc, Or.inl rfl, rfl, env, rfl⟩, Calm.refl _ _,
            Or.inl (Or.inl rfl)⟩
      | _ => cases moved
  | cons head rest =>
      cases head with
      | sql on st k =>
          cases on with
          | db => exact execOnDb_moves proc moved
          | txn =>
              cases slot with
              | active record => exact execOnTxn_moves proc moved
              | _ =>
                  cases moved
                  exact ⟨_, _, moves_of_callback proc (Calm.refl _ _) rfl⟩
      | start k =>
          cases moved
          exact ⟨_, _, moves_of_callback proc opened (Or.inl rfl)⟩
      | commit k =>
          cases slot with
          | active record =>
              cases moved
              exact ⟨_, _, proc, .commit ⟨proc, Or.inr ⟨k, rest, rfl⟩, rfl, env, rfl⟩,
                calm_advance _ _, Or.inl (Or.inl rfl)⟩
          | _ =>
              cases moved
              exact ⟨_, _, moves_of_callback proc (Calm.refl _ _) rfl⟩
      | call x k => cases moved
      | _ =>
          cases moved
          exact ⟨_, _, moves_of_callback proc (Calm.refl _ _) rfl⟩

private theorem loseMove_moves {s : Sys S} (event : Event S) {pid : Nat} {p : Proc σ}
    {m : Move S} (proc : s.procs[pid]? = some p) (moved : loseMove p = some m) :
    ∃ slot log, s.Moves event pid p slot log m := by
  obtain ⟨slot, log, queue⟩ := p
  have lost : Calm slot log .closed (log ++ [.failed .outage]) := Calm.dropped rfl trivial
  have failed : Calm slot log slot (log ++ [.failed .outage]) :=
    ⟨Or.inl rfl, [.failed .outage], rfl, by simp [Entry.Quiet]⟩
  cases queue with
  | nil =>
      cases slot with
      | active record =>
          cases moved
          exact ⟨_, _, proc, .calm lost, Calm.refl _ _, Or.inl (Or.inr rfl)⟩
      | _ => cases moved
  | cons head rest =>
      cases head with
      | sql on st k =>
          cases on with
          | db =>
              cases moved
              exact ⟨_, _, moves_of_callback proc failed (Or.inr ⟨.outage, rfl⟩)⟩
          | txn =>
              cases slot with
              | active record =>
                  cases moved
                  exact ⟨_, _, moves_of_callback proc lost (Or.inr ⟨.outage, rfl⟩)⟩
              | _ => cases moved
      | start k =>
          cases moved
          exact ⟨_, _, moves_of_callback proc lost (Or.inr rfl)⟩
      | commit k =>
          cases slot with
          | active record =>
              cases moved
              exact ⟨_, _, moves_of_callback proc lost (Or.inr rfl)⟩
          | _ => cases moved
      | _ => cases moved

private theorem answerMove_moves {s : Sys S} (event : Event S) {pid : Nat} {p : Proc σ}
    {a : σ.Ans} {m : Move S} (proc : s.procs[pid]? = some p)
    (moved : answerMove p a = some m) : ∃ slot log, s.Moves event pid p slot log m := by
  obtain ⟨slot, log, queue⟩ := p
  cases queue with
  | nil => cases moved
  | cons head rest =>
      cases head with
      | call x k =>
          cases moved
          have heard : Calm slot log slot (log ++ [.answered x a]) :=
            ⟨Or.inl rfl, [.answered x a], rfl, by simp [Entry.Quiet]⟩
          exact ⟨_, _, moves_of_callback proc heard ⟨a, rfl⟩⟩
      | _ => cases moved

/-- The process an event moves, and how. -/
theorem step_moves {entry : σ.Req → Prog σ} {s s' : Sys S} {event : Event S} {pid : Nat}
    (stepped : s.step entry event = some s') (isMover : event.mover = some pid) :
    ∃ p slot log m, s.Moves event pid p slot log m ∧ s' = s.after pid m := by
  cases event with
  | spawn request => cases isMover
  | exec pid env =>
      cases isMover
      simp only [step, Option.bind_eq_bind, Option.bind_eq_some_iff, Option.pure_def,
        Option.some.injEq] at stepped
      obtain ⟨p, proc, m, moved, rfl⟩ := stepped
      obtain ⟨slot, log, moves⟩ := execMove_moves proc moved
      exact ⟨p, slot, log, m, moves, rfl⟩
  | lose pid =>
      cases isMover
      simp only [step, Option.bind_eq_bind, Option.bind_eq_some_iff, Option.pure_def,
        Option.some.injEq] at stepped
      obtain ⟨p, proc, m, moved, rfl⟩ := stepped
      obtain ⟨slot, log, moves⟩ := loseMove_moves (.lose pid) proc moved
      exact ⟨p, slot, log, m, moves, rfl⟩
  | answer pid a =>
      cases isMover
      simp only [step, Option.bind_eq_bind, Option.bind_eq_some_iff, Option.pure_def,
        Option.some.injEq] at stepped
      obtain ⟨p, proc, m, moved, rfl⟩ := stepped
      obtain ⟨slot, log, moves⟩ := answerMove_moves (.answer pid a) proc moved
      exact ⟨p, slot, log, m, moves, rfl⟩
  | crash pid =>
      cases isMover
      simp only [step, Option.bind_eq_bind, Option.bind_eq_some_iff, Option.pure_def,
        Option.some.injEq] at stepped
      obtain ⟨p, proc, rfl⟩ := stepped
      have lost : Calm p.slot p.log .closed (p.log ++ [.failed .outage]) :=
        Calm.dropped rfl trivial
      exact ⟨p, _, _, _, ⟨proc, .calm lost, Calm.refl _ _, Or.inr rfl⟩, rfl⟩

/-- Everything a step can do. -/
theorem step_cases {entry : σ.Req → Prog σ} {s s' : Sys S} {event : Event S}
    (stepped : s.step entry event = some s') :
    (∃ request, event = .spawn request ∧
      s' = { s with procs := s.procs ++ [Proc.spawn request (entry request)] }) ∨
    ∃ pid p slot log m, s.Moves event pid p slot log m ∧ s' = s.after pid m := by
  cases isMover : event.mover with
  | some pid => exact Or.inr ⟨pid, step_moves stepped isMover⟩
  | none =>
      cases event with
      | spawn request =>
          cases stepped
          exact Or.inl ⟨request, rfl, rfl⟩
      | _ => cases isMover

/-! ## The processes after a move -/

/-- The transaction and the log of every process after a move: the process that
moved, a fork of it, or a process that did not move. -/
theorem mem_procs_after {s : Sys S} {pid : Nat} {m : Move S} {r : Proc σ}
    (member : r ∈ (s.after pid m).procs) :
    r = m.next.1 ∨ (∃ kid ∈ m.next.2, r = Proc.child m.next.1.log kid) ∨
      ∃ other, other ≠ pid ∧ s.procs[other]? = some r := by
  rcases List.mem_append.mp member with old | forked
  · obtain ⟨other, found⟩ := List.mem_iff_getElem?.mp old
    rw [List.getElem?_set] at found
    split at found
    · split at found
      · exact Or.inl (Option.some.inj found).symm
      · cases found
    · rename_i different
      exact Or.inr (Or.inr ⟨other, fun same => different same.symm, found⟩)
  · obtain ⟨kid, mem, rfl⟩ := List.mem_map.mp forked
    exact Or.inr (Or.inl ⟨kid, mem, rfl⟩)

/-- A property of transactions and logs that calm changes keep holds of every
process after a move, if it holds after the action and of the processes that
did not move. -/
theorem forall_after {s : Sys S} {event : Event S} {pid : Nat} {p : Proc σ} {slot : Slot σ}
    {log : List (Entry σ)} {m : Move S} {P : Slot σ → List (Entry σ) → Prop}
    (moves : s.Moves event pid p slot log m)
    (calm : ∀ {slot log slot' log'}, Calm slot log slot' log' → P slot log → P slot' log')
    (acted : P slot log)
    (others : ∀ other r, other ≠ pid → s.procs[other]? = some r → P r.slot r.log) :
    ∀ r ∈ (s.after pid m).procs, P r.slot r.log := by
  intro r member
  rcases mem_procs_after member with rfl | ⟨kid, _, rfl⟩ | ⟨other, different, found⟩
  · exact calm moves.settles acted
  · have forked : Calm m.next.1.slot m.next.1.log (.none : Slot σ) m.next.1.log :=
      ⟨Or.inr rfl, [], by simp, by simp⟩
    exact calm forked (calm moves.settles acted)
  · exact others other r different found

end Sys

/-! ## Runs -/

/-- The runs of the system from `start` in which every step meets `ok`. -/
inductive Run {σ : Sig} {S : Store σ} (entry : σ.Req → Prog σ) (ok : Sys S → Event S → Prop)
    (start : Sys S) : List (Event S) → Sys S → Prop where
  | nil : Run entry ok start [] start
  | snoc {events : List (Event S)} {event : Event S} {s s' : Sys S}
      (run : Run entry ok start events s) (meets : ok s event)
      (stepped : s.step entry event = some s') :
      Run entry ok start (events ++ [event]) s'

namespace Run

variable {σ : Sig} {S : Store σ} {entry : σ.Req → Prog σ} {ok : Sys S → Event S → Prop}
  {start : Sys S} {events : List (Event S)} {s : Sys S}

/-- A run that meets a condition meets every weaker one. -/
theorem mono {weaker : Sys S → Event S → Prop} (run : Run entry ok start events s)
    (weakens : ∀ s event, ok s event → weaker s event) : Run entry weaker start events s := by
  induction run with
  | nil => exact .nil
  | snoc _ meets stepped inductionHypothesis =>
      exact .snoc inductionHypothesis (weakens _ _ meets) stepped

/-- Evaluating a list of events gives a run. -/
theorem of_runAll {check : Sys S → Event S → Bool} {done : List (Event S)} {mid : Sys S}
    (soFar : Run entry (fun s event => check s event = true) start done mid)
    (ran : mid.runAll entry check events = some s) :
    Run entry (fun s event => check s event = true) start (done ++ events) s := by
  induction events generalizing done mid with
  | nil =>
      simp only [Sys.runAll, Option.some.injEq] at ran
      subst ran
      simpa using soFar
  | cons event rest inductionHypothesis =>
      simp only [Sys.runAll] at ran
      split at ran
      · rename_i passes
        obtain ⟨next, stepped, continued⟩ := Option.bind_eq_some_iff.mp ran
        have extended := inductionHypothesis (soFar.snoc passes stepped) continued
        simpa using extended
      · cases ran

/-- Evaluating events to a state with a property gives a run to such a state. -/
theorem exists_of_runAll {check : Sys S → Event S → Bool} {P : Sys S → Bool}
    (evaluates : (start.runAll entry check events).any P = true) :
    ∃ s, Run entry (fun s event => check s event = true) start events s ∧ P s = true := by
  obtain ⟨s, ran, holds⟩ := (Option.any_eq_true _ _).mp evaluates
  exact ⟨s, of_runAll .nil ran, holds⟩

end Run

/-- Nobody has started: an initial database and no process. -/
def Sys.initial {σ : Sig} {S : Store σ} (db : S.Db) : Sys S := ⟨db, [], []⟩

/-! ## Verified programs stay verified -/

section Contracts

variable {σ : Sig} {S : Store σ} {entry : σ.Req → Prog σ} {ok : Sys S → Event S → Prop}
  {C : Contract σ} {db : S.Db} {events : List (Event S)} {s : Sys S}

/-- If every request's program keeps the contract, every process of every run
does. -/
theorem Run.verified (run : Run entry ok (Sys.initial db) events s)
    (programs : ∀ request, Verified C (Proc.spawn request (entry request))) :
    ∀ p ∈ s.procs, Verified C p := by
  induction run with
  | nil => simp [Sys.initial]
  | snoc _ _ stepped inductionHypothesis =>
      rcases Sys.step_cases stepped with ⟨request, _, rfl⟩ | ⟨pid, p, slot, log, m, moves, rfl⟩
      · intro p member
        rcases List.mem_append.mp member with old | new
        · exact inductionHypothesis p old
        · rw [List.mem_singleton.mp new]
          exact programs request
      · have before := inductionHypothesis p (List.mem_of_getElem? moves.proc)
        have now : VerifiedAll C m.next := by
          rcases moves.next with next | crashed
          · exact before.step next
          · rw [crashed]
            exact ⟨Verified.crash p, by simp⟩
        intro r member
        rcases Sys.mem_procs_after member with rfl | ⟨kid, mem, rfl⟩ | ⟨other, _, found⟩
        · exact now.1
        · exact now.2 kid mem
        · exact inductionHypothesis r (List.mem_of_getElem? found)

/-- What was shown of every run may be assumed of every state a run steps
from. -/
theorem Run.with_invariant {Inv : Sys S → Prop} {start : Sys S}
    (invariant : ∀ {events s}, Run entry ok start events s → Inv s)
    (run : Run entry ok start events s) :
    Run entry (fun s event => ok s event ∧ Inv s) start events s := by
  induction run with
  | nil => exact .nil
  | snoc run meets stepped inductionHypothesis =>
      exact .snoc inductionHypothesis ⟨meets, invariant run⟩ stepped

/-- The obligation of the contract, met by every process. -/
def Sys.Obliged (C : Contract σ) (s : Sys S) : Prop := ∀ p ∈ s.procs, C.Obligation p

theorem Run.obliged (run : Run entry ok (Sys.initial db) events s)
    (programs : ∀ request, Verified C (Proc.spawn request (entry request))) : s.Obliged C :=
  fun p member => (run.verified programs p member).obligation

section Obligations

variable {event : Event S} {pid : Nat} {p : Proc σ}

/-! What the process that moves owes, whoever else keeps the contract. -/

theorem Sys.RunsOnDb.issued {st : σ.Stmt} {res : σ.Res st} (runs : s.RunsOnDb event pid p st res)
    (obligation : C.Obligation p) : C.issue p.log none st := by
  obtain ⟨k, rest, head⟩ := runs.head
  simpa [Contract.Obligation, head] using obligation

theorem Sys.RunsOnTxn.issued {record : List (Entry σ)} {st : σ.Stmt} {res : σ.Res st}
    (runs : s.RunsOnTxn event pid p record st res) (obligation : C.Obligation p) :
    C.issue p.log (some record) st := by
  obtain ⟨k, rest, head⟩ := runs.head
  simpa [Contract.Obligation, head, runs.slot] using obligation

theorem Sys.Commits.committed {record : List (Entry σ)} (commits : s.Commits event pid p record)
    (obligation : C.Obligation p) : C.commit p.log record := by
  rcases commits.head with head | ⟨k, rest, head⟩ <;>
    simpa [Contract.Obligation, head, commits.slot] using obligation

theorem Sys.RunsOnDb.issue {st : σ.Stmt} {res : σ.Res st} (runs : s.RunsOnDb event pid p st res)
    (obliged : s.Obliged C) : C.issue p.log none st :=
  runs.issued (obliged p (List.mem_of_getElem? runs.proc))

theorem Sys.RunsOnTxn.issue {record : List (Entry σ)} {st : σ.Stmt} {res : σ.Res st}
    (runs : s.RunsOnTxn event pid p record st res) (obliged : s.Obliged C) :
    C.issue p.log (some record) st :=
  runs.issued (obliged p (List.mem_of_getElem? runs.proc))

theorem Sys.Commits.commit {record : List (Entry σ)} (commits : s.Commits event pid p record)
    (obliged : s.Obliged C) : C.commit p.log record :=
  commits.committed (obliged p (List.mem_of_getElem? commits.proc))

/-- A statement that is about to run was issued, on a pooled connection or on the
transaction it sees. -/
theorem Sys.issued_of_executing {pid : Nat} {env : S.Env} {st : σ.Stmt} {seen : S.Db}
    (executes : s.executing (.exec pid env) = some (st, seen)) :
    ∃ p record, s.procs[pid]? = some p ∧ seen = s.view (record.getD []) ∧
      (∀ entries, record = some entries → p.slot = .active entries) ∧
      ∀ {C : Contract σ}, C.Obligation p → C.issue p.log record st := by
  simp only [Sys.executing, Option.bind_eq_bind, Option.bind_eq_some_iff] at executes
  obtain ⟨p, proc, executes⟩ := executes
  split at executes
  · next st' k rest _ queue =>
    cases executes
    exact ⟨p, none, proc, rfl, by rintro _ ⟨⟩, fun obligation => by
      simpa [Contract.Obligation, queue] using obligation⟩
  · next st' k rest record queue slot =>
    cases executes
    refine ⟨p, some record, proc, rfl, fun entries same => ?_, fun obligation => by
      simpa [Contract.Obligation, queue, slot] using obligation⟩
    rw [slot, Option.some.inj same]
  · cases executes

end Obligations

/-- Every entry of this transaction was issued under the contract, with what the
process knew then. -/
def Issued (C : Contract σ) (log record : List (Entry σ)) : Prop :=
  ∀ before st res after, record = before ++ .ran st res :: after →
    ∃ log', log' <+: log ∧ C.issue log' (some before) st

theorem Issued.nil {log : List (Entry σ)} : Issued C log [] :=
  fun before st res after split => absurd split (by simp)

theorem Issued.snoc {log record : List (Entry σ)} {st : σ.Stmt} {res : σ.Res st}
    (issued : Issued C log record) (issue : C.issue log (some record) st) :
    Issued C log (record ++ [.ran st res]) := by
  intro before st' res' after split
  rcases List.eq_nil_or_concat after with rfl | ⟨init, last, rfl⟩
  · obtain ⟨rfl, same⟩ := List.append_inj' split rfl
    injection same with sameEntry _
    injection sameEntry with sameStmt _
    subst sameStmt
    exact ⟨log, List.prefix_rfl, issue⟩
  · rw [List.concat_eq_append] at split
    have joined : record ++ [.ran st res] = (before ++ .ran st' res' :: init) ++ [last] := by
      rw [split, List.append_assoc, List.cons_append]
    exact issued before st' res' init (List.append_inj' joined rfl).1

theorem Issued.longer {log log' record : List (Entry σ)} (issued : Issued C log record)
    (longer : log <+: log') : Issued C log' record := by
  intro before st res after split
  obtain ⟨log'', earlier, issue⟩ := issued before st res after split
  exact ⟨log'', earlier.trans longer, issue⟩

/-- The open transactions of a run were issued under the contract. -/
theorem Run.issued (run : Run entry ok (Sys.initial db) events s)
    (programs : ∀ request, Verified C (Proc.spawn request (entry request))) :
    ∀ p ∈ s.procs, Issued C p.log p.slot.record := by
  induction run with
  | nil => simp [Sys.initial]
  | @snoc _ event s s' run _ stepped inductionHypothesis =>
      rcases Sys.step_cases stepped with ⟨request, _, rfl⟩ | ⟨pid, p, slot, log, m, moves, rfl⟩
      · intro p member
        rcases List.mem_append.mp member with old | new
        · exact inductionHypothesis p old
        · rw [List.mem_singleton.mp new]
          exact Issued.nil
      · have before := inductionHypothesis p (List.mem_of_getElem? moves.proc)
        refine Sys.forall_after (P := fun slot log => Issued C log slot.record) moves ?_ ?_
          fun other r _ found => inductionHypothesis r (List.mem_of_getElem? found)
        · rintro slot log slot' log' ⟨kept | dropped, extra, rfl, _⟩ issued
          · rw [kept]
            exact issued.longer (List.prefix_append _ _)
          · rw [dropped]
            exact Issued.nil
        · have acts := moves.acts
          generalize m.commits = commits at acts
          cases acts with
          | calm calm =>
              obtain ⟨kept | dropped, extra, rfl, _⟩ := calm
              · rw [kept]
                exact before.longer (List.prefix_append _ _)
              · rw [dropped]
                exact Issued.nil
          | onDb runs => exact before.longer (List.prefix_append _ _)
          | onTxn runs =>
              rw [runs.slot] at before
              exact before.snoc (runs.issue (run.obliged programs))
          | commit _ => exact Issued.nil

/-- The entries process `pid` makes visible: a statement on a pooled connection,
or its transaction. -/
inductive Sys.Publishes (C : Contract σ) (s : Sys S) (event : Event S) (pid : Nat) (p : Proc σ) :
    List (Entry σ) → Prop where
  | pooled {st : σ.Stmt} {res : σ.Res st} (runs : s.RunsOnDb event pid p st res)
      (issue : C.issue p.log none st) : Publishes C s event pid p [.ran st res]
  | txn {record : List (Entry σ)} (commits : s.Commits event pid p record)
      (issued : Issued C p.log record) (commit : C.commit p.log record) :
      Publishes C s event pid p record

theorem Sys.Publishes.proc {event : Event S} {pid : Nat} {p : Proc σ} {entries : List (Entry σ)}
    (publishes : s.Publishes C event pid p entries) : s.procs[pid]? = some p := by
  cases publishes with
  | pooled runs _ => exact runs.proc
  | txn commits _ _ => exact commits.proc

/-- A step of a run leaves the committed state, or publishes entries. -/
theorem Run.step_publishes {event : Event S} {s' : Sys S}
    (run : Run entry ok (Sys.initial db) events s)
    (programs : ∀ request, Verified C (Proc.spawn request (entry request)))
    (stepped : s.step entry event = some s') :
    s'.db = s.db ∨ ∃ pid p entries, s.Publishes C event pid p entries ∧ s'.db = s.view entries := by
  rcases Sys.step_cases stepped with ⟨request, _, rfl⟩ | ⟨pid, p, slot, log, m, moves, rfl⟩
  · exact Or.inl rfl
  · have acts := moves.acts
    simp only [Sys.after, Sys.view]
    generalize m.commits = commits at acts
    cases acts with
    | calm _ => exact Or.inl rfl
    | onTxn _ => exact Or.inl rfl
    | onDb runs =>
        exact Or.inr ⟨pid, p, _, .pooled runs (runs.issue (run.obliged programs)), by simp⟩
    | commit commits =>
        have issued := run.issued programs p (List.mem_of_getElem? commits.proc)
        rw [commits.slot] at issued
        exact Or.inr ⟨pid, p, _, .txn commits issued (commits.commit (run.obliged programs)), rfl⟩

end Contracts

/-! ## Pairs of transactions -/

section Pairs

variable {σ : Sig} {S : Store σ} {entry : σ.Req → Prog σ} {ok : Sys S → Event S → Prop}
  {db : S.Db} {events : List (Event S)} {s : Sys S}

/-- Any two processes have transactions related by `Q`. -/
def Sys.Apart (Q : List (Entry σ) → List (Entry σ) → Prop) (s : Sys S) : Prop :=
  ∀ (i j : Nat) (p q : Proc σ), i ≠ j → s.procs[i]? = some p → s.procs[j]? = some q →
    Q p.slot.record q.slot.record

/-- The record of the process at an index after a move: that of the action, none
at all, or that of a process that did not move. -/
private theorem record_after {s : Sys S} {event : Event S} {pid : Nat} {p : Proc σ}
    {slot : Slot σ} {log : List (Entry σ)} {m : Move S} {i : Nat} {r : Proc σ}
    (moves : s.Moves event pid p slot log m) (found : (s.after pid m).procs[i]? = some r) :
    r.slot.record = [] ∨ (i = pid ∧ r.slot.record = slot.record) ∨
      (i ≠ pid ∧ s.procs[i]? = some r) := by
  simp only [Sys.after] at found
  rw [List.getElem?_append] at found
  split at found
  · rw [List.getElem?_set] at found
    split at found
    · rename_i same
      split at found
      · cases found
        rcases moves.settles.1 with kept | dropped
        · exact Or.inr (Or.inl ⟨same.symm, by rw [kept]⟩)
        · exact Or.inl dropped
      · cases found
    · rename_i different
      exact Or.inr (Or.inr ⟨fun same => different same.symm, found⟩)
  · obtain ⟨kid, _, rfl⟩ := List.mem_map.mp (List.mem_of_getElem? found)
    exact Or.inl rfl

/-- A symmetric relation between transactions that an empty one cannot break
holds along every run if every statement on a transaction keeps it. -/
theorem Run.apart {Q : List (Entry σ) → List (Entry σ) → Prop}
    (symmetric : ∀ {a b}, Q a b → Q b a) (empty : ∀ b, Q [] b)
    (extend : ∀ {s : Sys S} {event pid p record st res}, ok s event →
      s.RunsOnTxn event pid p record st res → s.Apart Q →
      ∀ other r, other ≠ pid → s.procs[other]? = some r →
        Q (record ++ [.ran st res]) r.slot.record)
    (run : Run entry ok (Sys.initial db) events s) : s.Apart Q := by
  induction run with
  | nil =>
      intro i j p q _ found
      simp [Sys.initial] at found
  | @snoc _ event s s' _ meets stepped inductionHypothesis =>
      rcases Sys.step_cases stepped with ⟨request, _, rfl⟩ | ⟨pid, p, slot, log, m, moves, rfl⟩
      · have old : ∀ {i : Nat} {r : Proc σ},
            (s.procs ++ [Proc.spawn request (entry request)])[i]? = some r →
            r.slot.record = [] ∨ s.procs[i]? = some r := by
          intro i r found
          rw [List.getElem?_append] at found
          split at found
          · exact Or.inr found
          · have new := List.mem_singleton.mp (List.mem_of_getElem? found)
            exact Or.inl (by rw [new]; rfl)
        intro i j q r different foundQ foundR
        rcases old foundQ with none | oldQ
        · rw [none]
          exact empty _
        · rcases old foundR with none | oldR
          · rw [none]
            exact symmetric (empty _)
          · exact inductionHypothesis i j q r different oldQ oldR
      · -- the record of the process that moved, against any process that did not
        have moved : ∀ other r, other ≠ pid → s.procs[other]? = some r →
            Q slot.record r.slot.record := by
          intro other r different found
          have before := inductionHypothesis pid other p r different.symm moves.proc found
          have acts := moves.acts
          generalize m.commits = commits at acts
          cases acts with
          | calm calm =>
              rcases calm.1 with kept | dropped
              · rw [kept]
                exact before
              · rw [dropped]
                exact empty _
          | onDb runs => exact before
          | onTxn runs => exact extend meets runs inductionHypothesis other r different found
          | commit commits => exact empty _
        intro i j q r different foundQ foundR
        rcases record_after moves foundQ with none | ⟨rfl, eqQ⟩ | ⟨otherQ, oldQ⟩
        · rw [none]
          exact empty _
        · rcases record_after moves foundR with none | ⟨same, _⟩ | ⟨otherR, oldR⟩
          · rw [none]
            exact symmetric (empty _)
          · exact absurd same.symm different
          · rw [eqQ]
            exact moved j r otherR oldR
        · rcases record_after moves foundR with none | ⟨rfl, eqR⟩ | ⟨otherR, oldR⟩
          · rw [none]
            exact symmetric (empty _)
          · rw [eqR]
            exact symmetric (moved i q otherQ oldQ)
          · exact inductionHypothesis i j q r different oldQ oldR

/-- Two transactions that hold no lock on the same row. -/
def Store.LocksApart (S : Store σ) (a b : List (Entry σ)) : Prop :=
  ∀ key ∈ S.locks a, key ∉ S.locks b

theorem Sys.free_iff {procs : List (Proc σ)} {keys : List S.Key} :
    Sys.free S procs keys = true ↔
      ∀ p ∈ procs, ∀ key ∈ keys, key ∉ S.locks p.slot.record := by
  simp [Sys.free]

theorem Sys.mem_others {s : Sys S} {pid other : Nat} {r : Proc σ} (different : other ≠ pid)
    (found : s.procs[other]? = some r) : r ∈ s.others pid :=
  List.mem_eraseIdx_iff_getElem?.mpr ⟨other, different, found⟩

/-- No row is ever locked by two processes. -/
theorem Run.locksApart (run : Run entry ok (Sys.initial db) events s) :
    s.Apart S.LocksApart := by
  refine run.apart (fun apart key mem mem' => apart key mem' mem) (fun _ key mem => ?_) ?_
  · simp at mem
  · intro s event pid p record st res _ runs apart other r different found key mem
    have before := apart pid other p r different.symm runs.proc found
    rw [runs.slot] at before
    simp only [Store.locks_append, Store.locks_ran, List.mem_append] at mem
    rcases mem with old | new
    · exact before key old
    · exact Sys.free_iff.mp runs.unlocked r (Sys.mem_others different found) key new

end Pairs
end DrogonPay.ReadCommitted
