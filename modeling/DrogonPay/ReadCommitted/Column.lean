import DrogonPay.ReadCommitted.System

/-!
Contract: reasoning about one column of a table at a time.

Owns:
- `Column`, a value per row that every write changes row by row, and that only
  a write holding the row's lock can change;
- `Column.view_apart`, how a commit of one process and the open transaction of
  another look to each other;
- `Run.column_view`, `Run.column_step` and `Run.column_history`, the rules by
  which a relation that every executed statement keeps is kept by every open
  transaction and every committed state;
- `Run.recalls`, by which what a process has read stays related to what is.

Does not own: any table.
-/

namespace DrogonPay.ReadCommitted

/-- A value for each row. A write acts on the row's old value, and leaves the
rows it does not lock alone. -/
structure Column {σ : Sig} (S : Store σ) (K α : Type) where
  read : S.Db → K → α
  act : S.Write → K → α → α
  lock : K → S.Key
  read_apply : ∀ db w k, read (S.apply db w) k = act w k (read db k)
  act_unlocked : ∀ w k a, lock k ∉ S.keys w → act w k a = a

namespace Column

variable {σ : Sig} {S : Store σ} {K α : Type} (col : Column S K α)

/-- The action of a list of writes on one row. -/
def actAll (ws : List S.Write) (k : K) (a : α) : α :=
  ws.foldl (fun a w => col.act w k a) a

theorem read_applyAll (db : S.Db) (ws : List S.Write) (k : K) :
    col.read (S.applyAll db ws) k = col.actAll ws k (col.read db k) := by
  induction ws generalizing db with
  | nil => rfl
  | cons w ws inductionHypothesis =>
      rw [Store.applyAll_cons, inductionHypothesis, col.read_apply]
      rfl

theorem actAll_unlocked {ws : List S.Write} {k : K}
    (unlocked : ∀ w ∈ ws, col.lock k ∉ S.keys w) (a : α) : col.actAll ws k a = a := by
  induction ws generalizing a with
  | nil => rfl
  | cons w ws inductionHypothesis =>
      have headSame : col.act w k a = a := col.act_unlocked w k a (unlocked w (by simp))
      have tailSame := inductionHypothesis (fun w member => unlocked w (by simp [member])) a
      simpa only [actAll, List.foldl_cons, headSame] using tailSame

/-- Writes that do not lock the row leave its value. -/
theorem read_applyAll_unlocked {db : S.Db} {ws : List S.Write} {k : K}
    (unlocked : ∀ w ∈ ws, col.lock k ∉ S.keys w) :
    col.read (S.applyAll db ws) k = col.read db k := by
  rw [col.read_applyAll, col.actAll_unlocked unlocked]

/-- A transaction without the row's lock sees its committed value. -/
theorem read_pending_unlocked {db : S.Db} {record : List (Entry σ)} {k : K}
    (unlocked : col.lock k ∉ S.locks record) :
    col.read (S.applyAll db (S.pending record)) k = col.read db k :=
  col.read_applyAll_unlocked fun _ written locked =>
    unlocked (S.mem_locks_of_pending written locked)

/-- Writes committed by one process and the open transaction of another act on
different rows: at each row one of the two does nothing. -/
theorem view_apart (db : S.Db) {ws : List S.Write} {record : List (Entry σ)}
    (apart : ∀ w ∈ ws, ∀ key ∈ S.keys w, key ∉ S.locks record) (k : K) :
    (col.read (S.applyAll db ws) k = col.read db k ∧
      col.read (S.applyAll (S.applyAll db ws) (S.pending record)) k =
        col.read (S.applyAll db (S.pending record)) k) ∨
    (col.read (S.applyAll db (S.pending record)) k = col.read db k ∧
      col.read (S.applyAll (S.applyAll db ws) (S.pending record)) k =
        col.read (S.applyAll db ws) k) := by
  by_cases locked : col.lock k ∈ S.locks record
  · have same : col.read (S.applyAll db ws) k = col.read db k :=
      col.read_applyAll_unlocked fun w member isKey => apart w member _ isKey locked
    refine Or.inl ⟨same, ?_⟩
    rw [col.read_applyAll _ (S.pending record), same, ← col.read_applyAll]
  · exact Or.inr ⟨col.read_pending_unlocked locked, col.read_pending_unlocked locked⟩

/-- A value that entries made true was made true by a write of one of them. -/
theorem origin {P : α → Prop} {k : K} {entries : List (Entry σ)} {db : S.Db}
    (now : P (col.read (S.applyAll db (S.pending entries)) k)) (notBefore : ¬ P (col.read db k)) :
    ∃ before st res after w a, entries = before ++ .ran st res :: after ∧ w ∈ S.writes st res ∧
      ¬ P a ∧ P (col.act w k a) := by
  have ofWrites : ∀ (ws : List S.Write) (a : α), P (col.actAll ws k a) → ¬ P a →
      ∃ w ∈ ws, ∃ a, ¬ P a ∧ P (col.act w k a) := by
    intro ws
    induction ws with
    | nil => exact fun a holds fails => absurd holds fails
    | cons w ws inductionHypothesis =>
        intro a holds fails
        by_cases first : P (col.act w k a)
        · exact ⟨w, by simp, a, fails, first⟩
        · obtain ⟨w', member, later⟩ := inductionHypothesis (col.act w k a) holds first
          exact ⟨w', by simp [member], later⟩
  induction entries generalizing db with
  | nil => exact absurd now notBefore
  | cons entry rest inductionHypothesis =>
      have split : S.pending (entry :: rest) = S.pending [entry] ++ S.pending rest := by
        rw [← Store.pending_append]
        rfl
      rw [split, Store.applyAll_append] at now
      by_cases first : P (col.read (S.applyAll db (S.pending [entry])) k)
      · rw [col.read_applyAll] at first
        obtain ⟨w, member, a, fails, holds⟩ := ofWrites _ _ first notBefore
        cases entry with
        | ran st res =>
            rw [Store.pending_ran] at member
            exact ⟨[], st, res, rest, w, a, rfl, member, fails, holds⟩
        | _ => cases member
      · obtain ⟨before, st, res, after, w, a, rfl, found⟩ := inductionHypothesis now first
        exact ⟨entry :: before, st, res, after, w, a, rfl, found⟩

end Column

section Commits

variable {σ : Sig} {S : Store σ}

/-- What a step commits is apart from the open transactions of the processes
that do not move. -/
theorem Sys.Moves.commits_apart {s : Sys S} {event : Event S} {pid : Nat} {p : Proc σ}
    {slot : Slot σ} {log : List (Entry σ)} {m : Move S} (moves : s.Moves event pid p slot log m)
    (locks : s.Apart S.LocksApart) {other : Nat} {r : Proc σ} (different : other ≠ pid)
    (found : s.procs[other]? = some r) :
    ∀ w ∈ m.commits, ∀ key ∈ S.keys w, key ∉ S.locks r.slot.record := by
  intro w member key isKey
  have acts := moves.acts
  generalize m.commits = commits at acts member
  cases acts with
  | calm _ => exact absurd member List.not_mem_nil
  | onTxn _ => exact absurd member List.not_mem_nil
  | onDb runs =>
      refine Sys.free_iff.mp runs.unlocked r (List.mem_of_getElem? found) key ?_
      exact List.mem_append_right _ (List.mem_flatMap.mpr ⟨w, member, isKey⟩)
  | commit commits =>
      have apart := locks pid other p r different.symm moves.proc found
      rw [commits.slot] at apart
      exact apart key (S.mem_locks_of_pending member isKey)

/-- A statement on a pooled connection commits apart from its own transaction,
too. -/
theorem Sys.RunsOnDb.commits_apart {s : Sys S} {event : Event S} {pid : Nat} {p : Proc σ}
    {st : σ.Stmt} {res : σ.Res st} (runs : s.RunsOnDb event pid p st res) :
    ∀ w ∈ S.writes st res, ∀ key ∈ S.keys w, key ∉ S.locks p.slot.record := by
  intro w member key isKey
  refine Sys.free_iff.mp runs.unlocked p (List.mem_of_getElem? runs.proc) key ?_
  exact List.mem_append_right _ (List.mem_flatMap.mpr ⟨w, member, isKey⟩)

end Commits

/-! ## The rule for a column -/

section Rule

variable {σ : Sig} {S : Store σ} {K α : Type} {entry : σ.Req → Prog σ}
  {ok : Sys S → Event S → Prop} {db : S.Db} {events : List (Event S)} {s s' : Sys S}

/-- Every statement a step executes relates the old and the new value of every
row, as the statement sees it. The relation may look at the committed states so
far, and holds on once it held. -/
structure Column.Keeps (col : Column S K α) (R : List S.Db → K → α → α → Prop)
    (ok : Sys S → Event S → Prop) : Prop where
  refl : ∀ history k a, R history k a a
  trans : ∀ history k {a b c}, R history k a b → R history k b c → R history k a c
  later : ∀ {history db k a b}, R history k a b → R (db :: history) k a b
  onDb : ∀ {s : Sys S} {event pid p st res}, ok s event → s.RunsOnDb event pid p st res →
    ∀ k, R s.history k (col.read s.db k) (col.read (S.applyAll s.db (S.writes st res)) k)
  onTxn : ∀ {s : Sys S} {event pid p record st res}, ok s event →
    s.RunsOnTxn event pid p record st res →
    ∀ k, R s.history k (col.read (s.view record) k)
      (col.read (S.applyAll (s.view record) (S.writes st res)) k)

variable {col : Column S K α}

/-- For a relation that does not look at the past it is enough to look at the
statement a step executes and the database that statement sees. -/
theorem Column.Keeps.of_executing {R : K → α → α → Prop} (refl : ∀ k a, R k a a)
    (trans : ∀ k {a b c}, R k a b → R k b c → R k a c)
    (each : ∀ {s : Sys S} {event st seen env res}, ok s event →
      s.executing event = some (st, seen) → S.run seen env st = some res →
      ∀ k, R k (col.read seen k) (col.read (S.applyAll seen (S.writes st res)) k)) :
    col.Keeps (fun _ => R) ok where
  refl _ := refl
  trans _ := trans
  later := id
  onDb meets runs := by
    obtain ⟨env, _, result⟩ := runs.result
    exact each meets runs.executing result
  onTxn meets runs := by
    obtain ⟨env, _, result⟩ := runs.result
    exact each meets runs.executing result

variable {R : List S.Db → K → α → α → Prop}

/-- A commit acts on a row or the open transaction of another process does,
never both. -/
theorem Column.Keeps.across (keeps : col.Keeps R ok) {history : List S.Db} {ws : List S.Write}
    {record : List (Entry σ)} {before : K → α}
    (apart : ∀ w ∈ ws, ∀ key ∈ S.keys w, key ∉ S.locks record)
    (commits : ∀ k, R history k (col.read s.db k) (col.read (S.applyAll s.db ws) k))
    (related : ∀ k, R history k (before k) (col.read (s.view record) k)) (k : K) :
    R history k (before k)
      (col.read (S.applyAll (S.applyAll s.db ws) (S.pending record)) k) := by
  rcases col.view_apart s.db apart k with ⟨_, view⟩ | ⟨same, view⟩
  · rw [view]
    exact related k
  · rw [view]
    refine keeps.trans history k (related k) ?_
    rw [show col.read (s.view record) k = col.read s.db k from same]
    exact commits k

/-- Every open transaction sees values related to the committed ones. -/
theorem Run.column_view (keeps : col.Keeps R ok)
    (run : Run entry ok (Sys.initial db) events s) :
    ∀ p ∈ s.procs, ∀ k, R s.history k (col.read s.db k) (col.read (s.view p.slot.record) k) := by
  induction run with
  | nil => simp [Sys.initial]
  | @snoc _ event s s' run meets stepped inductionHypothesis =>
      rcases Sys.step_cases stepped with ⟨request, _, rfl⟩ | ⟨pid, p, slot, log, m, moves, rfl⟩
      · intro p member k
        rcases List.mem_append.mp member with old | new
        · exact inductionHypothesis p old k
        · rw [List.mem_singleton.mp new]
          exact keeps.refl _ k _
      · have seen := inductionHypothesis p (List.mem_of_getElem? moves.proc)
        have across : ∀ (ws : List S.Write) (record : List (Entry σ)),
            (∀ w ∈ ws, ∀ key ∈ S.keys w, key ∉ S.locks record) →
            (∀ k, R s.history k (col.read s.db k) (col.read (s.view record) k)) →
            ∀ k, R s.history k (col.read (S.applyAll s.db ws) k)
              (col.read (S.applyAll (S.applyAll s.db ws) (S.pending record)) k) := by
          intro ws record apart before k
          rcases col.view_apart s.db apart k with ⟨same, view⟩ | ⟨_, view⟩
          · rw [same, view]
            exact before k
          · rw [view]
            exact keeps.refl _ k _
        refine Sys.forall_after (P := fun slot _ => ∀ k, R (s.after pid m).history k
          (col.read (s.after pid m).db k)
          (col.read ((s.after pid m).view slot.record) k)) moves ?_ ?_ ?_
        · rintro slot log slot' log' ⟨kept | dropped, _⟩ before k
          · rw [kept]
            exact before k
          · rw [dropped]
            exact keeps.refl _ k _
        · intro k
          refine keeps.later ?_
          have acts := moves.acts
          simp only [Sys.after, Sys.view]
          generalize m.commits = commits at acts
          cases acts with
          | calm calm =>
              rcases calm.1 with kept | dropped
              · rw [kept]
                exact seen k
              · rw [dropped]
                exact keeps.refl _ k _
          | onDb runs => exact across _ _ runs.commits_apart seen k
          | onTxn runs =>
              rw [runs.slot] at seen
              simp only [Slot.record_active, Store.pending_append, Store.pending_ran,
                Store.applyAll_append, Store.applyAll_nil]
              exact keeps.trans _ k (seen k) (keeps.onTxn meets runs k)
          | commit _ => exact keeps.refl _ k _
        · intro other r different found k
          exact keeps.later (across _ _ (moves.commits_apart run.locksApart different found)
            (inductionHypothesis r (List.mem_of_getElem? found)) k)

/-- What a move commits relates the committed values before and after it. -/
theorem Run.column_commits (keeps : col.Keeps R ok) {event : Event S} {pid : Nat} {p : Proc σ}
    {slot : Slot σ} {log : List (Entry σ)} {m : Move S}
    (run : Run entry ok (Sys.initial db) events s) (meets : ok s event)
    (moves : s.Moves event pid p slot log m) (k : K) :
    R s.history k (col.read s.db k) (col.read (S.applyAll s.db m.commits) k) := by
  have acts := moves.acts
  generalize m.commits = commits at acts
  cases acts with
  | calm _ => exact keeps.refl _ k _
  | onTxn _ => exact keeps.refl _ k _
  | onDb runs => exact keeps.onDb meets runs k
  | commit commits =>
      have seen := run.column_view keeps p (List.mem_of_getElem? moves.proc) k
      rw [commits.slot] at seen
      exact seen

/-- Every step relates the committed values before and after it. -/
theorem Run.column_step (keeps : col.Keeps R ok) {event : Event S}
    (run : Run entry ok (Sys.initial db) events s) (meets : ok s event)
    (stepped : s.step entry event = some s') (k : K) :
    R s'.history k (col.read s.db k) (col.read s'.db k) := by
  rcases Sys.step_cases stepped with ⟨request, _, rfl⟩ | ⟨pid, p, slot, log, m, moves, rfl⟩
  · exact keeps.refl _ k _
  · exact keeps.later (run.column_commits keeps meets moves k)

/-- Every later committed value is related to every earlier one. -/
theorem Run.column_history (keeps : col.Keeps R ok)
    (run : Run entry ok (Sys.initial db) events s) (k : K) :
    s.history.Pairwise fun later earlier =>
      R s.history k (col.read earlier k) (col.read later k) := by
  induction run with
  | nil => simp [Sys.initial, Sys.history]
  | @snoc _ event s s' run meets stepped inductionHypothesis =>
      have stepKeeps := run.column_step keeps meets stepped k
      rcases Sys.step_cases stepped with ⟨request, _, rfl⟩ | ⟨pid, p, slot, log, m, moves, rfl⟩
      · exact inductionHypothesis
      · have before : s.history.Pairwise fun later earlier =>
            R (s.after pid m).history k (col.read earlier k) (col.read later k) :=
          inductionHypothesis.imp fun related => keeps.later related
        refine List.pairwise_cons.mpr ⟨?_, before⟩
        intro earlier member
        rcases List.mem_cons.mp member with rfl | older
        · exact stepKeeps
        · exact keeps.trans _ k ((List.pairwise_cons.mp before).1 earlier older) stepKeeps

/-! ## What a process has read -/

/-- Every answer among these entries was given by a database that met `I`. Its
values before and after the statement are related to those of `now`. -/
def Column.Recalls (col : Column S K α) (R : List S.Db → K → α → α → Prop) (I : S.Db → Prop)
    (history : List S.Db) (now : S.Db) (entries : List (Entry σ)) : Prop :=
  ∀ st res, .ran st res ∈ entries → ∃ seen env, S.run seen env st = some res ∧ I seen ∧
    (∀ k, R history k (col.read seen k) (col.read now k)) ∧
    ∀ k, R history k (col.read (S.applyAll seen (S.writes st res)) k) (col.read now k)

theorem Column.Recalls.nil {I : S.Db → Prop} {history : List S.Db} {now : S.Db} :
    col.Recalls R I history now [] :=
  fun _ _ member => absurd member List.not_mem_nil

/-- What is remembered of one database is remembered of every later one. -/
theorem Column.Recalls.forward {I : S.Db → Prop} {history : List S.Db} {now now' : S.Db}
    {entries : List (Entry σ)} (recalls : col.Recalls R I history now entries)
    (moved : ∀ {before : K → α}, (∀ k, R history k (before k) (col.read now k)) →
      ∀ k, R history k (before k) (col.read now' k)) :
    col.Recalls R I history now' entries := by
  intro st res member
  obtain ⟨seen, env, result, holds, before, after⟩ := recalls st res member
  exact ⟨seen, env, result, holds, moved before, moved after⟩

theorem Column.Recalls.later (keeps : col.Keeps R ok) {I : S.Db → Prop} {history : List S.Db}
    {now next : S.Db} {entries : List (Entry σ)} (recalls : col.Recalls R I history now entries) :
    col.Recalls R I (next :: history) now entries := by
  intro st res member
  obtain ⟨seen, env, result, holds, before, after⟩ := recalls st res member
  exact ⟨seen, env, result, holds, fun k => keeps.later (before k), fun k => keeps.later (after k)⟩

theorem Column.Recalls.append {I : S.Db → Prop} {history : List S.Db} {now : S.Db}
    {left right : List (Entry σ)} (inLeft : col.Recalls R I history now left)
    (inRight : col.Recalls R I history now right) :
    col.Recalls R I history now (left ++ right) := by
  intro st res member
  rcases List.mem_append.mp member with first | second
  · exact inLeft st res first
  · exact inRight st res second

/-- Entries that say nothing about the database are recalled. -/
theorem Column.Recalls.quiet {I : S.Db → Prop} {history : List S.Db} {now : S.Db}
    {entries : List (Entry σ)} (quiet : ∀ entry ∈ entries, entry.Quiet) :
    col.Recalls R I history now entries :=
  fun _ _ member => absurd (quiet _ member) id

theorem Column.Recalls.ran {I : S.Db → Prop} {history : List S.Db} {now seen : S.Db} {env : S.Env}
    {st : σ.Stmt} {res : σ.Res st} (result : S.run seen env st = some res) (holds : I seen)
    (before : ∀ k, R history k (col.read seen k) (col.read now k))
    (after : ∀ k, R history k (col.read (S.applyAll seen (S.writes st res)) k) (col.read now k)) :
    col.Recalls R I history now [.ran st res] := by
  intro st' res' member
  have same := List.mem_singleton.mp member
  injection same with sameStmt sameRes
  subst sameStmt
  cases sameRes
  exact ⟨seen, env, result, holds, before, after⟩

/-- What the process knows outside its transaction is related to the committed
state, what it knows inside to what the transaction sees. -/
theorem Run.recalls {I : S.Db → Prop} (keeps : col.Keeps R ok)
    (invariant : ∀ {events s}, Run entry ok (Sys.initial db) events s →
      I s.db ∧ ∀ p ∈ s.procs, I (s.view p.slot.record))
    (run : Run entry ok (Sys.initial db) events s) :
    ∀ p ∈ s.procs, col.Recalls R I s.history s.db p.log ∧
      col.Recalls R I s.history (s.view p.slot.record) p.slot.record := by
  induction run with
  | nil => simp [Sys.initial]
  | @snoc _ event s s' run meets stepped inductionHypothesis =>
      rcases Sys.step_cases stepped with ⟨request, _, rfl⟩ | ⟨pid, p, slot, log, m, moves, rfl⟩
      · intro p member
        rcases List.mem_append.mp member with old | new
        · exact inductionHypothesis p old
        · rw [List.mem_singleton.mp new]
          exact ⟨Column.Recalls.quiet (by simp [Proc.spawn, Entry.Quiet]), Column.Recalls.nil⟩
      · have member := List.mem_of_getElem? moves.proc
        obtain ⟨inLog, inTxn⟩ := inductionHypothesis p member
        have commits := run.column_commits keeps meets moves
        have forward : ∀ {entries : List (Entry σ)}, col.Recalls R I s.history s.db entries →
            col.Recalls R I (s.after pid m).history (s.after pid m).db entries :=
          fun recalls => (recalls.forward fun related k =>
            keeps.trans _ k (related k) (commits k)).later keeps
        have across : ∀ {record entries : List (Entry σ)},
            (∀ w ∈ m.commits, ∀ key ∈ S.keys w, key ∉ S.locks record) →
            col.Recalls R I s.history (s.view record) entries →
            col.Recalls R I (s.after pid m).history ((s.after pid m).view record) entries :=
          fun apart recalls =>
            (recalls.forward fun related k => keeps.across apart commits related k).later keeps
        refine Sys.forall_after (P := fun slot log =>
          col.Recalls R I (s.after pid m).history (s.after pid m).db log ∧
          col.Recalls R I (s.after pid m).history ((s.after pid m).view slot.record) slot.record)
          moves ?_ ?_ ?_
        · rintro slot log slot' log' ⟨kept | dropped, extra, rfl, quiet⟩ ⟨inLog, inTxn⟩
          · rw [kept]
            exact ⟨inLog.append (.quiet quiet), inTxn⟩
          · rw [dropped]
            exact ⟨inLog.append (.quiet quiet), .nil⟩
        · have acts := moves.acts
          generalize isCommits : m.commits = commits at acts
          cases acts with
          | calm calm =>
              obtain ⟨kept | dropped, extra, rfl, quiet⟩ := calm
              · rw [kept]
                exact ⟨(forward inLog).append (.quiet quiet),
                  across (by simp [isCommits]) inTxn⟩
              · rw [dropped]
                exact ⟨(forward inLog).append (.quiet quiet), .nil⟩
          | onDb runs =>
              obtain ⟨env, _, result⟩ := runs.result
              refine ⟨(forward inLog).append (.ran result (invariant run).1 (fun k => ?_)
                fun k => ?_), ?_⟩
              · exact keeps.later (commits k)
              · simp only [Sys.after, isCommits]
                exact keeps.refl _ k _
              · exact across (by rw [isCommits]; exact runs.commits_apart) inTxn
          | @onTxn record st res runs =>
              obtain ⟨env, _, result⟩ := runs.result
              have view : I (s.view p.slot.record) := (invariant run).2 p member
              rw [runs.slot] at view inTxn
              have next : (s.after pid m).view (record ++ [.ran st res]) =
                  S.applyAll (s.view record) (S.writes st res) := by
                simp only [Sys.after, Sys.view, isCommits, Store.applyAll_nil,
                  Store.pending_append, Store.pending_ran, Store.applyAll_append]
              have now : ∀ k, R s.history k (col.read (s.view record) k)
                  (col.read ((s.after pid m).view (record ++ [.ran st res])) k) := by
                intro k
                rw [next]
                exact keeps.onTxn meets runs k
              refine ⟨forward inLog, Column.Recalls.append ?_ ?_⟩
              · exact (inTxn.forward fun related k =>
                  keeps.trans _ k (related k) (now k)).later keeps
              · refine .ran result view (fun k => keeps.later (now k)) fun k => ?_
                simp only [Slot.record]
                rw [next]
                exact keeps.refl _ k _
          | @commit record commits =>
              rw [commits.slot] at inTxn
              refine ⟨(forward inLog).append ?_, .nil⟩
              have committed : (s.after pid m).db = s.view record := by
                simp only [Sys.after, Sys.view, isCommits]
              rw [committed]
              exact inTxn.later keeps
        · intro other r different found
          obtain ⟨inLog, inTxn⟩ := inductionHypothesis r (List.mem_of_getElem? found)
          exact ⟨forward inLog,
            across (moves.commits_apart run.locksApart different found) inTxn⟩

/-- What a process knows at all is related to what its transaction sees. -/
theorem Run.recalls_known {I : S.Db → Prop} (keeps : col.Keeps R ok)
    (invariant : ∀ {events s}, Run entry ok (Sys.initial db) events s →
      I s.db ∧ ∀ p ∈ s.procs, I (s.view p.slot.record))
    (run : Run entry ok (Sys.initial db) events s) {p : Proc σ} (member : p ∈ s.procs) :
    col.Recalls R I s.history (s.view p.slot.record) p.known := by
  obtain ⟨inLog, inTxn⟩ := run.recalls keeps invariant p member
  refine Column.Recalls.append (inLog.forward fun related k => ?_) inTxn
  exact keeps.trans _ k (related k) (run.column_view keeps p member k)

/-! ## Properties of row values -/

section Invariants

variable {P : K → α → Prop}

/-- A property of row values that every statement keeps holds in every committed
state and in what every open transaction sees. -/
theorem Run.column_holds (keeps : col.Keeps (fun _ k old new => P k old → P k new) ok)
    (initially : ∀ k, P k (col.read db k)) (run : Run entry ok (Sys.initial db) events s) :
    (∀ k, P k (col.read s.db k)) ∧
      ∀ p ∈ s.procs, ∀ k, P k (col.read (s.view p.slot.record) k) := by
  have committed : ∀ k, P k (col.read s.db k) := by
    induction run with
    | nil => exact initially
    | snoc run meets stepped inductionHypothesis =>
        exact fun k => run.column_step keeps meets stepped k (inductionHypothesis k)
  exact ⟨committed, fun p member k => run.column_view keeps p member k (committed k)⟩

/-- Every answer a process holds was given by a database whose rows have the
property. -/
theorem Run.column_saw (keeps : col.Keeps (fun _ k old new => P k old → P k new) ok)
    (initially : ∀ k, P k (col.read db k)) (run : Run entry ok (Sys.initial db) events s)
    {p : Proc σ} (member : p ∈ s.procs) {st : σ.Stmt} {res : σ.Res st}
    (saw : .ran st res ∈ p.log) :
    ∃ seen env, S.run seen env st = some res ∧ ∀ k, P k (col.read seen k) := by
  obtain ⟨seen, env, result, holds, _⟩ :=
    (run.recalls (I := fun seen => ∀ k, P k (col.read seen k)) keeps
      (fun run => run.column_holds keeps initially) p member).1 st res saw
  exact ⟨seen, env, result, holds⟩

end Invariants

end Rule
end DrogonPay.ReadCommitted
