import DrogonPay.ReadCommitted.Records
import Mathlib.Logic.Relation

/-!
Contract: what one process has done when it has run to its end, with nobody else
in the way and nothing failing.

Owns:
- `Sys.Quietly`, the moves in which nothing fails, and `AtRest`, "every way to
  make such moves until nothing is in flight ends in `Q`";
- `After`, the same for a program that is about to run among processes that have
  ended, with one rule for each shape of program;
- `Prog.Delivers`, the ending that runs statements of one kind and then reports,
  also beside a forked statement;
- `Run.quietly`, by which a run that serves one request is made of such moves;
- `Can`, "some run of the program alone reaches `P`", with the rules that build
  one.

Does not own: any statement; several programs that write side by side.
-/

namespace DrogonPay.ReadCommitted

open Relation

variable {σ : Sig} {S : Store σ}

/-- The process has nothing left to do. -/
def Proc.Ended (p : Proc σ) : Prop := p.queue = [] ∧ ∀ record, p.slot ≠ .active record

namespace Sys

/-- A move of the system in which nothing fails. -/
inductive Quietly (s : Sys S) : Sys S → Prop where
  | exec {pid : Nat} {p : Proc σ} {env : S.Env} {m : Move S} (proc : s.procs[pid]? = some p)
      (moved : s.execMove pid p env = some m) (clean : Unfailed m.next.1.log) :
      Quietly s (s.after pid m)
  | answer {pid : Nat} {p : Proc σ} {a : σ.Ans} {m : Move S} (proc : s.procs[pid]? = some p)
      (moved : answerMove p a = some m) : Quietly s (s.after pid m)

end Sys

/-- The log of a callback keeps what was there. -/
theorem Proc.mem_advance_log {p : Proc σ} {program : Prog σ} {entry : Entry σ}
    (member : entry ∈ p.log) : entry ∈ (p.advance program).1.log := by
  obtain ⟨outs, eq⟩ := Proc.advance_log p program
  rw [eq]
  exact List.mem_append_left _ member

/-- A lost statement is a failure. -/
theorem failed_of_loseMove {p : Proc σ} {m : Move S} (moved : Sys.loseMove p = some m) :
    .failed .outage ∈ m.next.1.log := by
  obtain ⟨slot, log, queue⟩ := p
  have last : (.failed .outage : Entry σ) ∈ log ++ [.failed .outage] := by simp
  cases queue with
  | nil =>
      cases slot with
      | active record =>
          cases moved
          exact last
      | _ => cases moved
  | cons head rest =>
      cases head with
      | sql on st k =>
          cases on with
          | db =>
              cases moved
              exact Proc.mem_advance_log last
          | txn =>
              cases slot with
              | active record =>
                  cases moved
                  exact Proc.mem_advance_log last
              | _ => cases moved
      | start k =>
          cases moved
          exact Proc.mem_advance_log last
      | commit k =>
          cases slot with
          | active record =>
              cases moved
              exact Proc.mem_advance_log last
          | _ => cases moved
      | _ => cases moved

theorem Sys.mem_after {s : Sys S} {pid : Nat} {p : Proc σ} {m : Move S}
    (proc : s.procs[pid]? = some p) : m.next.1 ∈ (s.after pid m).procs := by
  have inside : pid < s.procs.length := (List.getElem?_eq_some_iff.mp proc).1
  exact List.mem_append_left _ (List.mem_iff_getElem?.mpr ⟨pid, by simp [inside]⟩)

/-- A step that moves a process and leaves no failure is quiet. -/
theorem Sys.Quietly.of_step {entry : σ.Req → Prog σ} {s t : Sys S} {event : Event S}
    (stepped : s.step entry event = some t) (moves : event.mover ≠ none) (clean : t.Clean) :
    s.Quietly t := by
  cases event with
  | spawn request => exact absurd rfl moves
  | exec pid env =>
      simp only [step, Option.bind_eq_bind, Option.bind_eq_some_iff, Option.pure_def,
        Option.some.injEq] at stepped
      obtain ⟨p, proc, m, moved, rfl⟩ := stepped
      exact .exec proc moved (clean _ (mem_after proc))
  | lose pid =>
      simp only [step, Option.bind_eq_bind, Option.bind_eq_some_iff, Option.pure_def,
        Option.some.injEq] at stepped
      obtain ⟨p, proc, m, moved, rfl⟩ := stepped
      exact absurd (failed_of_loseMove moved) (clean _ (mem_after proc) _)
  | answer pid a =>
      simp only [step, Option.bind_eq_bind, Option.bind_eq_some_iff, Option.pure_def,
        Option.some.injEq] at stepped
      obtain ⟨p, proc, m, moved, rfl⟩ := stepped
      exact .answer proc moved
  | crash pid =>
      simp only [step, Option.bind_eq_bind, Option.bind_eq_some_iff, Option.pure_def,
        Option.some.injEq] at stepped
      obtain ⟨p, proc, rfl⟩ := stepped
      have died : (.failed .outage : Entry σ) ∈ p.crash.log := by simp [Proc.crash]
      have member : p.crash ∈ (s.after pid ⟨(p.crash, []), []⟩).procs := mem_after proc
      exact absurd died (clean _ member _)

/-- The run serves one request, and that once. -/
def Serves (request : σ.Req) (s : Sys S) (event : Event S) : Prop :=
  ∀ other, event = .spawn other → other = request ∧ s.procs = []

/-- What was clean after a step was clean before it. -/
theorem Sys.Clean.before {entry : σ.Req → Prog σ} {s t : Sys S} {event : Event S}
    (stepped : s.step entry event = some t) (clean : t.Clean) : s.Clean := by
  intro p member cause failed
  rcases Sys.step_cases stepped with ⟨request, _, rfl⟩ | ⟨pid, mover, slot, log, m, moves, rfl⟩
  · exact clean p (List.mem_append_left _ member) cause failed
  · obtain ⟨index, found⟩ := List.mem_iff_getElem?.mp member
    by_cases same : index = pid
    · subst same
      obtain rfl : mover = p := Option.some.inj (moves.proc.symm.trans found)
      exact clean _ (Sys.mem_after moves.proc) cause (moves.longer.subset failed)
    · have stays : p ∈ (s.after pid m).procs := by
        refine List.mem_append_left _ (List.mem_iff_getElem?.mpr ⟨index, ?_⟩)
        rw [List.getElem?_set_ne (Ne.symm same), found]
      exact clean p stays cause failed

/-- A clean run that serves one request is made of quiet moves. -/
theorem Run.quietly {entry : σ.Req → Prog σ} {request : σ.Req} {db : S.Db}
    {events : List (Event S)} {s : Sys S}
    (run : Run entry (Serves request) (Sys.initial db) events s) (clean : s.Clean) :
    s = Sys.initial db ∨
      ReflTransGen Sys.Quietly ⟨db, [], [Proc.spawn request (entry request)]⟩ s := by
  induction run with
  | nil => exact Or.inl rfl
  | @snoc _ event s t _ serves stepped inductionHypothesis =>
      have before := inductionHypothesis (clean.before stepped)
      by_cases spawns : event.mover = none
      · cases event with
        | spawn other =>
            obtain ⟨rfl, empty⟩ := serves other rfl
            cases stepped
            rcases before with rfl | reached
            · exact Or.inr .refl
            · -- the process of the request never leaves
              have stays : ∀ t, ReflTransGen Sys.Quietly
                  ⟨db, [], [Proc.spawn other (entry other)]⟩ t → t.procs ≠ [] := by
                intro t reached
                induction reached with
                | refl => simp
                | tail _ quietly _ =>
                    cases quietly with
                    | exec proc _ _ => exact List.ne_nil_of_mem (Sys.mem_after proc)
                    | answer proc _ => exact List.ne_nil_of_mem (Sys.mem_after proc)
              exact absurd empty (stays s reached)
        | _ => cases spawns
      · have quietly := Sys.Quietly.of_step stepped spawns clean
        rcases before with rfl | reached
        · cases quietly with
          | exec proc _ _ => simp [Sys.initial] at proc
          | answer proc _ => simp [Sys.initial] at proc
        · exact Or.inr (reached.tail quietly)

/-! ## Runs of one request, evaluated -/

/-- A run after a first step. -/
theorem Run.cons {entry : σ.Req → Prog σ} {ok : Sys S → Event S → Prop} {start mid s : Sys S}
    {event : Event S} {events : List (Event S)} (meets : ok start event)
    (stepped : start.step entry event = some mid) (run : Run entry ok mid events s) :
    Run entry ok start (event :: events) s := by
  induction run with
  | nil => exact .snoc .nil meets stepped
  | snoc _ meets' stepped' inductionHypothesis => exact .snoc inductionHypothesis meets' stepped'

/-- Nothing is in flight, and nothing has failed. -/
def Sys.restsCleanly (s : Sys S) : Bool :=
  s.procs.all fun p =>
    p.queue.isEmpty && (match p.slot with | .active _ => false | _ => true) &&
      p.log.all fun | .failed _ => false | _ => true

theorem Sys.quiescent_of_restsCleanly {s : Sys S} (rests : s.restsCleanly = true) :
    s.Quiescent ∧ s.Clean := by
  have each : ∀ p ∈ s.procs, (p.queue = [] ∧ ∀ record, p.slot ≠ .active record) ∧
      Unfailed p.log := by
    intro p member
    have holds := List.all_eq_true.mp rests p member
    simp only [Bool.and_eq_true, List.isEmpty_iff, List.all_eq_true] at holds
    obtain ⟨⟨empty, idle⟩, clean⟩ := holds
    refine ⟨⟨empty, fun record active => ?_⟩, fun cause failed => ?_⟩
    · rw [active] at idle
      cases idle
    · cases clean _ failed
  exact ⟨fun p member => (each p member).1, fun p member => (each p member).2⟩

/-- The events move processes and start none. -/
def moving (_ : Sys S) (event : Event S) : Bool := event.mover.isSome

/-- Evaluating the moves after a request was taken up gives a run that serves it. -/
theorem Run.serves {entry : σ.Req → Prog σ} {request : σ.Req} {db : S.Db}
    {events : List (Event S)} {P : Sys S → Bool}
    (evaluates : ((⟨db, [], [Proc.spawn request (entry request)]⟩ : Sys S).runAll entry moving
      events).any P = true) :
    ∃ s, Run entry (Serves request) (Sys.initial db) (.spawn request :: events) s ∧ P s = true := by
  obtain ⟨s, run, holds⟩ := Run.exists_of_runAll evaluates
  refine ⟨s, Run.cons ?_ rfl (run.mono ?_), holds⟩
  · rintro other ⟨⟩
    exact ⟨rfl, rfl⟩
  · rintro s event moves other rfl
    cases moves

/-! ## Running to the end -/

section AtRest

variable (Q : S.Db → List (Proc σ) → Prop)

/-- Every way to move quietly until nothing is in flight ends in `Q`. -/
def AtRest (db : S.Db) (procs : List (Proc σ)) : Prop :=
  ∀ past t, ReflTransGen Sys.Quietly ⟨db, past, procs⟩ t → t.Quiescent → Q t.db t.procs

/-- Processes that have ended, around one that has not. -/
structure Company (σ : Sig) where
  before : List (Proc σ)
  behind : List (Proc σ)
  ended : ∀ p ∈ before ++ behind, p.Ended

/-- Nobody else. -/
def Company.none : Company σ := ⟨[], [], by simp⟩

/-- A process in its company. -/
def Company.around (c : Company σ) (p : Proc σ) : List (Proc σ) := c.before ++ p :: c.behind

/-- A process and what it forks in its company. -/
def Company.joined (c : Company σ) (q : Proc σ × List (Prog σ)) : List (Proc σ) :=
  c.around q.1 ++ q.2.map (Proc.child q.1.log)

/-- The program, run to its end from this transaction and log, ends in `Q`. -/
def After (c : Company σ) (db : S.Db) (slot : Slot σ) (log : List (Entry σ))
    (program : Prog σ) : Prop :=
  AtRest Q db (c.joined (Proc.advance ⟨slot, log, []⟩ program))

variable {Q} {c : Company σ} {db : S.Db} {slot : Slot σ} {log record : List (Entry σ)}

theorem atRest_of_moves {procs : List (Proc σ)}
    (rest : (∀ p ∈ procs, p.Ended) → Q db procs)
    (moves : ∀ past t, (⟨db, past, procs⟩ : Sys S).Quietly t → AtRest Q t.db t.procs) :
    AtRest Q db procs := by
  intro past t reached quiescent
  rcases reached.cases_head with rfl | ⟨next, quietly, later⟩
  · exact rest quiescent
  · exact moves past next quietly next.past t later quiescent

/-- The process an index of a company finds. -/
theorem Company.getElem?_around {p q : Proc σ} {index : Nat}
    (found : (c.around p)[index]? = some q) : (index = c.before.length ∧ q = p) ∨ q.Ended := by
  rw [Company.around, List.getElem?_append] at found
  split at found
  · exact Or.inr (c.ended q (List.mem_append_left _ (List.mem_of_getElem? found)))
  · rename_i outside
    cases offset : index - c.before.length with
    | zero =>
        rw [offset] at found
        exact Or.inl ⟨by omega, (Option.some.inj found).symm⟩
    | succ further =>
        rw [offset, List.getElem?_cons_succ] at found
        exact Or.inr (c.ended q (List.mem_append_right _ (List.mem_of_getElem? found)))

theorem Company.set_around (p q : Proc σ) :
    (c.around p).set c.before.length q = c.around q := by
  simp [Company.around]

/-- An ended process does not move. -/
theorem Proc.Ended.execMove {p : Proc σ} (ended : p.Ended) (s : Sys S) (pid : Nat) (env : S.Env) :
    s.execMove pid p env = none := by
  obtain ⟨slot, log, queue⟩ := p
  obtain ⟨rfl, idle⟩ := ended
  cases slot with
  | active record => exact absurd rfl (idle record)
  | _ => rfl

theorem Proc.Ended.answerMove {p : Proc σ} (ended : p.Ended) (a : σ.Ans) :
    (Sys.answerMove p a : Option (Move S)) = none := by
  obtain ⟨slot, log, queue⟩ := p
  obtain ⟨rfl, _⟩ := ended
  rfl

/-- In a company only the process that has not ended moves. -/
theorem atRest_around {p : Proc σ} (rest : p.Ended → Q db (c.around p))
    (exec : ∀ past env m, (⟨db, past, c.around p⟩ : Sys S).execMove c.before.length p env = some m →
      Unfailed m.next.1.log → AtRest Q (S.applyAll db m.commits) (c.joined m.next))
    (answer : ∀ a (m : Move S), Sys.answerMove p a = some m →
      AtRest Q (S.applyAll db m.commits) (c.joined m.next)) :
    AtRest Q db (c.around p) := by
  refine atRest_of_moves (fun ended => rest (ended p (by simp [Company.around]))) ?_
  intro past t quietly
  have placed : ∀ m : Move S,
      ((⟨db, past, c.around p⟩ : Sys S).after c.before.length m).procs = c.joined m.next := by
    intro m
    simp only [Sys.after, Company.set_around, Company.joined]
  cases quietly with
  | @exec pid q env m proc moved clean =>
      rcases Company.getElem?_around proc with ⟨rfl, rfl⟩ | ended
      · rw [placed]
        exact exec past env m moved clean
      · rw [ended.execMove] at moved
        cases moved
  | @answer pid q a m proc moved =>
      rcases Company.getElem?_around proc with ⟨rfl, rfl⟩ | ended
      · rw [placed]
        exact answer a m moved
      · rw [ended.answerMove] at moved
        cases moved

/-! ## One rule for each shape of program -/

theorem Company.joined_single (p : Proc σ) : c.joined (p, []) = c.around p :=
  List.append_nil _

theorem after_done (idle : ∀ record, slot ≠ .active record) (holds : Q db (c.around ⟨slot, log, []⟩)) :
    After Q c db slot log .done := by
  have ended : (⟨slot, log, []⟩ : Proc σ).Ended := ⟨rfl, idle⟩
  rw [After, Proc.advance, Company.joined_single]
  refine atRest_around (fun _ => holds) (fun past env m moved => ?_) fun a m moved => ?_
  · rw [ended.execMove] at moved
    cases moved
  · cases moved

theorem after_rollback {next : Prog σ} (continues : After Q c db slot.rolledBack log next) :
    After Q c db slot log (.rollback next) := continues

theorem after_reply {out : σ.Out} {next : Prog σ}
    (continues : After Q c db slot (log ++ [.replied out]) next) :
    After Q c db slot log (.reply out next) := continues

/-- A pooled statement that does not fail. -/
theorem ran_of_execMove {s : Sys S} {pid : Nat} {st : σ.Stmt} {k : Option (σ.Res st) → Prog σ}
    {env : S.Env} {m : Move S} (moved : s.execMove pid ⟨slot, log, [.sql .db st k]⟩ env = some m)
    (clean : Unfailed m.next.1.log) :
    ∃ res, S.run s.db env st = some res ∧
      m = ⟨Proc.advance ⟨slot, log ++ [.ran st res], []⟩ (k (some res)), S.writes st res⟩ := by
  simp only [Sys.execMove, Sys.execOnDb] at moved
  split at moved
  · cases moved
    refine absurd (Proc.mem_advance_log ?_) (clean .refused)
    simp [Proc.failedOnDb]
  · rename_i res ran
    split at moved
    · cases moved
      exact ⟨res, ran, rfl⟩
    · cases moved

theorem after_sql_db {st : σ.Stmt} {k : Option (σ.Res st) → Prog σ}
    (continues : ∀ env res, S.run db env st = some res →
      After Q c (S.applyAll db (S.writes st res)) slot (log ++ [.ran st res]) (k (some res))) :
    After Q c db slot log (.sql .db st k) := by
  rw [After, Proc.advance, Company.joined_single]
  refine atRest_around (fun ended => absurd ended.1 (by simp)) (fun past env m moved clean => ?_)
    fun a m moved => ?_
  · obtain ⟨res, ran, rfl⟩ := ran_of_execMove moved clean
    exact continues env res ran
  · cases moved

theorem after_sql_txn {st : σ.Stmt} {k : Option (σ.Res st) → Prog σ}
    (continues : ∀ env res, S.run (S.applyAll db (S.pending record)) env st = some res →
      After Q c db (.active (record ++ [.ran st res])) log (k (some res))) :
    After Q c db (.active record) log (.sql .txn st k) := by
  rw [After, Proc.advance, Company.joined_single]
  refine atRest_around (fun ended => absurd ended.1 (by simp)) (fun past env m moved clean => ?_)
    fun a m moved => ?_
  · simp only [Sys.execMove, Sys.execOnTxn, List.nil_append] at moved
    split at moved
    · cases moved
      refine absurd (Proc.mem_advance_log ?_) (clean .refused)
      simp [Proc.abort]
    · rename_i res ran
      split at moved
      · cases moved
        exact continues env res ran
      · cases moved
  · cases moved

theorem after_start {k : Bool → Prog σ} (continues : After Q c db (.active []) log (k true)) :
    After Q c db slot log (.start k) := by
  rw [After, Proc.advance, Company.joined_single]
  refine atRest_around (fun ended => absurd ended.1 (by simp)) (fun past env m moved _ => ?_)
    fun a m moved => ?_
  · cases moved
    exact continues
  · cases moved

theorem after_commit {k : Bool → Prog σ}
    (continues : After Q c (S.applyAll db (S.pending record)) .closed (log ++ record) (k true)) :
    After Q c db (.active record) log (.commit k) := by
  rw [After, Proc.advance, Company.joined_single]
  refine atRest_around (fun ended => absurd ended.1 (by simp)) (fun past env m moved _ => ?_)
    fun a m moved => ?_
  · cases moved
    exact continues
  · cases moved

theorem after_call {x : σ.Ext} {k : σ.Ans → Prog σ}
    (continues : ∀ a, After Q c db slot (log ++ [.answered x a]) (k a)) :
    After Q c db slot log (.call x k) := by
  rw [After, Proc.advance, Company.joined_single]
  refine atRest_around (fun ended => absurd ended.1 (by simp)) (fun past env m moved _ => ?_)
    fun a m moved => ?_
  · cases moved
  · cases moved
    exact continues a

/-- A request is served by running its program. -/
theorem atRest_spawn {request : σ.Req} {program : Prog σ}
    (continues : After Q c db .none [.spawned request] program) :
    AtRest Q db (c.around (Proc.spawn request program)) := by
  cases program with
  | sql on st k => rwa [After, Proc.advance, Company.joined_single] at continues
  | call x k => rwa [After, Proc.advance, Company.joined_single] at continues
  | start k => rwa [After, Proc.advance, Company.joined_single] at continues
  | commit k => rwa [After, Proc.advance, Company.joined_single] at continues
  | _ =>
      refine atRest_around (fun ended => absurd ended.1 (by simp [Proc.spawn]))
        (fun past env m moved _ => ?_) fun a m moved => ?_
      · cases moved
        exact continues
      · cases moved

end AtRest

/-! ## Endings -/

/-- Statements of one kind on pooled connections, and then this one report. -/
def Prog.Delivers (minor : σ.Stmt → Prop) (out : σ.Out) : Prog σ → Prop
  | .sql .db st k => minor st ∧ ∀ res, (k res).Delivers minor out
  | .reply given .done => given = out
  | _ => False

/-- Entries of statements of one kind. -/
def Minor (minor : σ.Stmt → Prop) (entries : List (Entry σ)) : Prop :=
  ∀ entry ∈ entries, ∃ st res, minor st ∧ entry = .ran st res

section Endings

variable {Q : S.Db → List (Proc σ) → Prop} {c : Company σ} {db : S.Db} {slot : Slot σ}
  {log : List (Entry σ)} {minor : σ.Stmt → Prop} {out : σ.Out} {program : Prog σ} {α : Type}

theorem Minor.cons {st : σ.Stmt} {res : σ.Res st} {extra : List (Entry σ)} (isMinor : minor st)
    (rest : Minor minor extra) : Minor minor (.ran st res :: extra) := by
  intro entry member
  rcases List.mem_cons.mp member with rfl | later
  · exact ⟨st, res, isMinor, rfl⟩
  · exact rest entry later

theorem Prog.Delivers.forks (delivers : program.Delivers minor out) {p : Proc σ} :
    (p.advance program).2 = [] := by
  cases program with
  | sql on st k => rfl
  | reply given next =>
      cases next with
      | done => rfl
      | _ => exact delivers.elim
  | _ => exact delivers.elim

/-- An ending changes nothing that its statements do not touch. -/
theorem after_delivers (seen : S.Db → α) (delivers : program.Delivers minor out)
    (idle : ∀ record, slot ≠ .active record)
    (keeps : ∀ db st res, minor st → seen (S.applyAll db (S.writes st res)) = seen db)
    (holds : ∀ db' extra, seen db' = seen db → Minor minor extra →
      Q db' (c.around ⟨slot, log ++ extra ++ [.replied out], []⟩)) :
    After Q c db slot log program := by
  induction program generalizing db log with
  | sql on st k inductionHypothesis =>
      cases on with
      | txn => exact delivers.elim
      | db =>
          refine after_sql_db fun env res ran =>
            inductionHypothesis (some res) (delivers.2 _) fun db' extra same isMinor => ?_
          have further := holds db' (.ran st res :: extra)
            (same.trans (keeps db st res delivers.1)) (Minor.cons delivers.1 isMinor)
          simpa using further
  | reply given next =>
      cases next with
      | done =>
          obtain rfl : given = out := delivers
          refine after_reply (after_done idle ?_)
          simpa using holds db [] rfl (by simp [Minor])
      | _ => exact delivers.elim
  | _ => exact delivers.elim

/-- The company of a process that was forked when the others had ended. -/
def Company.beside (c : Company σ) (p : Proc σ) (ended : p.Ended) : Company σ where
  before := c.around p
  behind := []
  ended q member := by
    simp only [Company.around, List.append_nil, List.mem_append, List.mem_cons] at member
    rcases member with early | rfl | late
    · exact c.ended q (List.mem_append_left _ early)
    · exact ended
    · exact c.ended q (List.mem_append_right _ late)

/-- The company of a process whose fork has ended. -/
def Company.followed (c : Company σ) (p : Proc σ) (ended : p.Ended) : Company σ where
  before := c.before
  behind := c.behind ++ [p]
  ended q member := by
    rw [← List.append_assoc] at member
    rcases List.mem_append.mp member with old | new
    · exact c.ended q old
    · rw [List.mem_singleton.mp new]
      exact ended

/-- One statement on its own. -/
private def single (log : List (Entry σ)) (st : σ.Stmt) : Proc σ :=
  Proc.child log (.sql .db st fun _ => .done)

private theorem ended_single (log : List (Entry σ)) {st : σ.Stmt} (res : σ.Res st) :
    (⟨.none, log ++ [.ran st res], []⟩ : Proc σ).Ended := ⟨rfl, fun _ => nofun⟩

variable {st : σ.Stmt} {kidLog : List (Entry σ)}

/-- A waiting process beside another one: either moves first. -/
private theorem atRest_pair {p q : Proc σ} (busy : ¬ p.Ended)
    (first : ∀ past env m, (⟨db, past, c.around p ++ [q]⟩ : Sys S).execMove c.before.length p env =
      some m → Unfailed m.next.1.log →
      AtRest Q (S.applyAll db m.commits)
        (c.around m.next.1 ++ [q] ++ m.next.2.map (Proc.child m.next.1.log)))
    (second : ∀ past env m, (⟨db, past, c.around p ++ [q]⟩ : Sys S).execMove
      (c.around p).length q env = some m → Unfailed m.next.1.log →
      AtRest Q (S.applyAll db m.commits)
        (c.around p ++ [m.next.1] ++ m.next.2.map (Proc.child m.next.1.log)))
    (unheard : ∀ a, (Sys.answerMove p a : Option (Move S)) = none ∧
      (Sys.answerMove q a : Option (Move S)) = none) :
    AtRest Q db (c.around p ++ [q]) := by
  have waits : p ∈ c.around p ++ [q] := by simp [Company.around]
  have inside : c.before.length < (c.around p).length := by simp [Company.around]
  have which : ∀ {index r}, (c.around p ++ [q])[index]? = some r →
      (index = c.before.length ∧ r = p) ∨ (index = (c.around p).length ∧ r = q) ∨ r.Ended := by
    intro index r found
    rw [List.getElem?_append] at found
    split at found
    · rcases Company.getElem?_around found with isFirst | ended
      · exact Or.inl isFirst
      · exact Or.inr (Or.inr ended)
    · cases offset : index - (c.around p).length with
      | zero =>
          rw [offset] at found
          exact Or.inr (Or.inl ⟨by omega, (Option.some.inj found).symm⟩)
      | succ further =>
          rw [offset] at found
          cases found
  refine atRest_of_moves (fun ended => absurd (ended p waits) busy) fun past t quietly => ?_
  cases quietly with
  | exec proc moved clean =>
      rcases which proc with ⟨rfl, rfl⟩ | ⟨rfl, rfl⟩ | ended
      · have later := first past _ _ moved clean
        simpa only [Sys.after, List.set_append_left _ _ inside, Company.set_around] using later
      · have later := second past _ _ moved clean
        simpa [Sys.after] using later
      · rw [ended.execMove] at moved
        cases moved
  | answer proc moved =>
      rcases which proc with ⟨rfl, rfl⟩ | ⟨rfl, rfl⟩ | ended
      · rw [(unheard _).1] at moved
        cases moved
      · rw [(unheard _).2] at moved
        cases moved
      · rw [ended.answerMove] at moved
        cases moved

/-- An ending beside a statement that nobody waits for: whichever comes first,
the statement runs on what the ending does not touch. -/
private theorem atRest_beside (seen : S.Db → α) (delivers : program.Delivers minor out)
    (idle : ∀ record, slot ≠ .active record)
    (keeps : ∀ db st res, minor st → seen (S.applyAll db (S.writes st res)) = seen db)
    (holds : ∀ db₁ db₂ env res extra, seen db₁ = seen db → S.run db₁ env st = some res →
      seen db₂ = seen (S.applyAll db₁ (S.writes st res)) → Minor minor extra →
      Q db₂ (c.around ⟨slot, log ++ extra ++ [.replied out], []⟩ ++
        [⟨.none, kidLog ++ [.ran st res], []⟩])) :
    AtRest Q db (c.around (Proc.advance ⟨slot, log, []⟩ program).1 ++ [single kidLog st]) := by
  induction program generalizing db log with
  | reply given next =>
      cases next with
      | done =>
          obtain rfl : given = out := delivers
          have ended : (⟨slot, log ++ [.replied given], []⟩ : Proc σ).Ended := ⟨rfl, idle⟩
          have alone : After Q (c.beside _ ended) db .none kidLog (.sql .db st fun _ => .done) := by
            refine after_sql_db fun env res ran => after_done (fun _ => nofun) ?_
            have ending := holds db _ env res [] rfl ran rfl (by simp [Minor])
            rwa [List.append_nil] at ending
          rwa [After, Proc.advance, Company.joined_single] at alone
      | _ => exact delivers.elim
  | sql on waiting k inductionHypothesis =>
      cases on with
      | txn => exact delivers.elim
      | db =>
          refine atRest_pair (fun ended => absurd ended.1 (by simp [Proc.advance])) ?_ ?_
            fun a => ⟨rfl, rfl⟩
          · intro past env m moved clean
            obtain ⟨res, ran, rfl⟩ := ran_of_execMove moved clean
            rw [(delivers.2 (some res)).forks, List.map_nil, List.append_nil]
            refine inductionHypothesis (some res) (delivers.2 _)
              fun db₁ db₂ env' res' extra same ran' same' isMinor => ?_
            have further := holds db₁ db₂ env' res' (.ran waiting res :: extra)
              (same.trans (keeps db waiting res delivers.1)) ran' same'
              (Minor.cons delivers.1 isMinor)
            simpa using further
          · intro past env m moved clean
            obtain ⟨res, ran, rfl⟩ := ran_of_execMove moved clean
            have later : After Q (c.followed _ (ended_single kidLog res))
                (S.applyAll db (S.writes st res)) slot log (.sql .db waiting k) := by
              refine after_delivers seen delivers idle keeps fun db' extra same isMinor => ?_
              have ending := holds db db' env res extra rfl ran same isMinor
              simpa [Company.around, Company.followed] using ending
            rw [After, Proc.advance, Company.joined_single] at later
            simpa [Company.around, Company.followed, Proc.advance] using later
  | _ => exact delivers.elim

/-- An ending that leaves a statement to a process of its own. -/
theorem after_fork_statement (seen : S.Db → α) (delivers : program.Delivers minor out)
    (idle : ∀ record, slot ≠ .active record)
    (keeps : ∀ db st res, minor st → seen (S.applyAll db (S.writes st res)) = seen db)
    (holds : ∀ db₁ db₂ env res extra kidLog, seen db₁ = seen db → S.run db₁ env st = some res →
      seen db₂ = seen (S.applyAll db₁ (S.writes st res)) → Minor minor extra →
      (∃ outs : List σ.Out, kidLog = log ++ outs.map Entry.replied ∧ ∀ given ∈ outs, given = out) →
      Q db₂ (c.around ⟨slot, log ++ extra ++ [.replied out], []⟩ ++
        [⟨.none, kidLog ++ [.ran st res], []⟩])) :
    After Q c db slot log (.fork (.sql .db st fun _ => .done) program) := by
  have kid : ∃ outs : List σ.Out,
      (Proc.advance ⟨slot, log, []⟩ program).1.log = log ++ outs.map Entry.replied ∧
        ∀ given ∈ outs, given = out := by
    cases program with
    | sql on st k => exact ⟨[], by simp [Proc.advance], by simp⟩
    | reply given next =>
        cases next with
        | done =>
            obtain rfl : given = out := delivers
            exact ⟨[given], by simp [Proc.advance], by simp⟩
        | _ => exact delivers.elim
    | _ => exact delivers.elim
  have beside : AtRest Q db (c.around (Proc.advance ⟨slot, log, []⟩ program).1 ++
      [single (Proc.advance ⟨slot, log, []⟩ program).1.log st]) :=
    atRest_beside seen delivers idle keeps fun db₁ db₂ env res extra same ran same' isMinor =>
      holds db₁ db₂ env res extra _ same ran same' isMinor kid
  simpa [After, Company.joined, Proc.advance, delivers.forks, single] using beside

end Endings

/-! ## Runs that reach a database -/

section Reaching

variable (entry : σ.Req → Prog σ) (P : S.Db → Prop)

/-- Some run of the program, alone and from this transaction and log, reaches a
database with `P`. -/
def Can (db : S.Db) (slot : Slot σ) (log : List (Entry σ)) (program : Prog σ) : Prop :=
  ∀ past, ∃ events s, Run entry (fun _ _ => True)
    (⟨db, past, Company.none.joined (Proc.advance ⟨slot, log, []⟩ program)⟩ : Sys S) events s ∧ P s.db

variable {entry P} {db : S.Db} {slot : Slot σ} {log record : List (Entry σ)}

/-- The only process makes this move. -/
private theorem reaches_of_move {past : List S.Db} {p : Proc σ} (env : S.Env) (m : Move S)
    (moved : (⟨db, past, [p]⟩ : Sys S).execMove 0 p env = some m)
    (later : ∃ events s, Run entry (fun _ _ => True)
      (⟨S.applyAll db m.commits, db :: past, Company.none.joined m.next⟩ : Sys S) events s ∧ P s.db) :
    ∃ events s, Run entry (fun _ _ => True) (⟨db, past, [p]⟩ : Sys S) events s ∧ P s.db := by
  obtain ⟨events, s, run, holds⟩ := later
  refine ⟨.exec 0 env :: events, s, Run.cons trivial ?_ run, holds⟩
  simp [Sys.step, moved, Sys.after, Company.joined, Company.around, Company.none]

theorem can_sql_db {st : σ.Stmt} {k : Option (σ.Res st) → Prog σ} (env : S.Env) {res : σ.Res st}
    (idle : ∀ record, slot ≠ .active record) (ran : S.run db env st = some res)
    (later : Can entry P (S.applyAll db (S.writes st res)) slot (log ++ [.ran st res])
      (k (some res))) : Can entry P db slot log (.sql .db st k) := by
  intro past
  refine reaches_of_move env ⟨Proc.advance ⟨slot, log ++ [.ran st res], []⟩ (k (some res)),
    S.writes st res⟩ ?_ (later (db :: past))
  have unlocked : slot.record = [] := by
    cases slot with
    | active record => exact absurd rfl (idle record)
    | _ => rfl
  have submitted : (Proc.advance ⟨slot, log, []⟩ (.sql .db st k)).1 =
      ⟨slot, log, [.sql .db st k]⟩ := rfl
  simp only [submitted, Sys.execMove, Sys.execOnDb, ran]
  simp [Sys.free, unlocked, Proc.ranOnDb]

theorem can_sql_txn {st : σ.Stmt} {k : Option (σ.Res st) → Prog σ} (env : S.Env) {res : σ.Res st}
    (ran : S.run (S.applyAll db (S.pending record)) env st = some res)
    (later : Can entry P db (.active (record ++ [.ran st res])) log (k (some res))) :
    Can entry P db (.active record) log (.sql .txn st k) := by
  intro past
  let m : Move S := ⟨Proc.advance ⟨.active (record ++ [.ran st res]), log, []⟩ (k (some res)), []⟩
  refine reaches_of_move env m ?_ (later (db :: past))
  have submitted : (Proc.advance ⟨.active record, log, []⟩ (.sql .txn st k)).1 =
      ⟨.active record, log, [.sql .txn st k]⟩ := rfl
  simp only [submitted, Sys.execMove, Sys.execOnTxn, Sys.view, ran]
  simp [m, Sys.free, Sys.others, Proc.ranOnTxn]

theorem can_start {k : Bool → Prog σ} (env : S.Env)
    (later : Can entry P db (.active []) log (k true)) : Can entry P db slot log (.start k) :=
  fun past => reaches_of_move env ⟨Proc.advance ⟨.active [], log, []⟩ (k true), []⟩ rfl
    (later (db :: past))

/-- A transaction that is open when the program has nothing left to do but
report is committed. -/
theorem can_reports {program : Prog σ} (env : S.Env) (reports : program.Reports)
    (holds : P (S.applyAll db (S.pending record))) :
    Can entry P db (.active record) log program := by
  induction program generalizing log with
  | done =>
      intro past
      exact reaches_of_move env ⟨(Proc.committed ⟨.active record, log, []⟩, []), S.pending record⟩ rfl
        ⟨[], _, .nil, holds⟩
  | reply out next inductionHypothesis => exact inductionHypothesis reports
  | _ => exact reports.elim

/-- A request whose program reaches such a database. -/
theorem Can.run {request : σ.Req} (env : S.Env)
    (can : Can entry P db .none [.spawned request] (entry request)) :
    ∃ events s, Run entry (fun _ _ => True) (Sys.initial db) events s ∧ P s.db := by
  have reached : ∃ events s, Run entry (fun _ _ => True)
      (⟨db, [], [Proc.spawn request (entry request)]⟩ : Sys S) events s ∧ P s.db := by
    have waiting := can []
    have popped := can [db]
    generalize entry request = program at waiting popped ⊢
    cases program with
    | sql on st k => exact waiting
    | call x k => exact waiting
    | start k => exact waiting
    | commit k => exact waiting
    | _ => exact reaches_of_move env ⟨Proc.advance ⟨.none, [.spawned request], []⟩ _, []⟩ rfl popped
  obtain ⟨events, s, run, holds⟩ := reached
  exact ⟨.spawn request :: events, s, Run.cons trivial rfl run, holds⟩

end Reaching
end DrogonPay.ReadCommitted
