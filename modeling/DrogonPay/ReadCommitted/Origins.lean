import DrogonPay.ReadCommitted.Traces

/-!
Contract: where the committed values and the answers of a run come from.

Owns:
- `Run.noted`, by which what holds of every entry when it is made is known of
  everything a process has noted, and its cases: `Run.heard` for the answers,
  `Run.called_of` and `Run.issued_of` for what a contract promises;
- `Run.made`, by which a value that was not there at the start was written by a
  statement, issued under the contract by a process that remembers it.

Does not own: any statement, or what an answer means.
-/

namespace DrogonPay.ReadCommitted

variable {σ : Sig} {S : Store σ} {entry : σ.Req → Prog σ} {ok : Sys S → Event S → Prop}
  {C : Contract σ} {db : S.Db} {events : List (Event S)} {s s' : Sys S} {event : Event S}

/-! ## Entries -/

theorem Proc.mem_known_of_log {p : Proc σ} {known : Entry σ} (member : known ∈ p.log) :
    known ∈ p.known :=
  List.mem_append_left _ member

/-- Every entry satisfies `H` together with those before it. -/
def Notes (H : List (Entry σ) → Entry σ → Prop) (before : List (Entry σ)) :
    List (Entry σ) → Prop
  | [] => True
  | known :: rest => H before known ∧ Notes H (before ++ [known]) rest

section Notes

variable {H H' : List (Entry σ) → Entry σ → Prop} {before before' left right : List (Entry σ)}

theorem Notes.append_iff :
    Notes H before (left ++ right) ↔ Notes H before left ∧ Notes H (before ++ left) right := by
  induction left generalizing before with
  | nil => simp [Notes]
  | cons known rest inductionHypothesis =>
      simp only [List.cons_append, Notes, inductionHypothesis, List.append_assoc,
        List.nil_append, and_assoc]

theorem Notes.singleton {known : Entry σ} (holds : H before known) : Notes H before [known] :=
  ⟨holds, trivial⟩

theorem Notes.mono (notes : Notes H before left)
    (longer : ∀ {b b' : List (Entry σ)} {known}, b.Sublist b' → H b known → H' b' known)
    (sublist : before.Sublist before') : Notes H' before' left := by
  induction left generalizing before before' with
  | nil => trivial
  | cons known rest inductionHypothesis =>
      exact ⟨longer sublist notes.1,
        inductionHypothesis notes.2 (sublist.append (List.Sublist.refl _))⟩

theorem Notes.mem (notes : Notes H before left) {known : Entry σ} (member : known ∈ left) :
    ∃ b, b.Sublist (before ++ left) ∧ H b known := by
  induction left generalizing before with
  | nil => cases member
  | cons first rest inductionHypothesis =>
      rcases List.mem_cons.mp member with rfl | later
      · exact ⟨before, List.sublist_append_left _ _, notes.1⟩
      · obtain ⟨b, sublist, holds⟩ := inductionHypothesis notes.2 later
        exact ⟨b, by simpa using sublist, holds⟩

/-- An entry holds together with all that stands before it. -/
theorem Notes.at_split {known : Entry σ} (notes : Notes H before (left ++ known :: right)) :
    H (before ++ left) known :=
  (Notes.append_iff.mp notes).2.1

end Notes

/-- Everything the process has noted satisfies `H`: in the log, and after the log
in the transaction. -/
def Proc.Noted (H : List (Entry σ) → Entry σ → Prop) (p : Proc σ) : Prop :=
  Notes H [] p.log ∧ Notes H p.log p.slot.record

/-- What is asked of the entries of a run's processes: what holds of an entry when
it is made, by the request its process serves, and stays true as the history and
what came before it grow. -/
structure Noting (entry : σ.Req → Prog σ) (ok : Sys S → Event S → Prop) (db : S.Db)
    (H : σ.Req → List S.Db → List (Entry σ) → Entry σ → Prop) : Prop where
  longer : ∀ {request : σ.Req} {history history' : List S.Db} {before before' : List (Entry σ)}
    {known : Entry σ}, history.Sublist history' → before.Sublist before' →
    H request history before known → H request history' before' known
  quiet : ∀ {request : σ.Req} {history : List S.Db} {before : List (Entry σ)} {known : Entry σ},
    (∀ st res, known ≠ .ran st res) → (∀ x a, known ≠ .answered x a) →
    H request history before known
  pooled : ∀ {events : List (Event S)} {s : Sys S} {event : Event S} {pid : Nat} {p : Proc σ}
    {request : σ.Req} {st : σ.Stmt} {res : σ.Res st}, Run entry ok (Sys.initial db) events s →
    ok s event → p.log.head? = some (.spawned request) → s.RunsOnDb event pid p st res →
    H request s.history p.log (.ran st res)
  within : ∀ {events : List (Event S)} {s : Sys S} {event : Event S} {pid : Nat} {p : Proc σ}
    {request : σ.Req} {record : List (Entry σ)} {st : σ.Stmt} {res : σ.Res st},
    Run entry ok (Sys.initial db) events s → ok s event →
    p.log.head? = some (.spawned request) → s.RunsOnTxn event pid p record st res →
    H request s.history (p.log ++ record) (.ran st res)
  heard : ∀ {events : List (Event S)} {s : Sys S} {event : Event S} {pid : Nat} {p : Proc σ}
    {request : σ.Req} {x : σ.Ext} {a : σ.Ans}, Run entry ok (Sys.initial db) events s →
    ok s event → p.log.head? = some (.spawned request) → s.Hears event pid p x a →
    H request s.history p.log (.answered x a)

section Noting

variable {H : σ.Req → List S.Db → List (Entry σ) → Entry σ → Prop} {request : σ.Req}
  {history : List S.Db}

theorem Noting.step (noting : Noting entry ok db H) {pid : Nat} {p : Proc σ} {m : Move S}
    (run : Run entry ok (Sys.initial db) events s) (meets : ok s event)
    (proc : s.procs[pid]? = some p) (owner : p.log.head? = some (.spawned request))
    (fires : s.Fires event pid p m) (noted : p.Noted (H request s.history)) :
    m.next.1.Noted (H request s.history) := by
  have onward : ∀ {b b' : List (Entry σ)} {known}, b.Sublist b' →
      H request s.history b known → H request s.history b' known :=
    fun sublist => noting.longer (List.Sublist.refl _) sublist
  -- the log grows by one entry, and the transaction stays behind it
  have logged : ∀ {q : Proc σ} {last : Entry σ}, q.log = p.log ++ [last] →
      H request s.history p.log last → q.slot.record = p.slot.record ∨ q.slot.record = [] →
      q.Noted (H request s.history) := by
    intro q last isLog holds kept
    refine ⟨?_, ?_⟩
    · rw [isLog]
      exact Notes.append_iff.mpr ⟨noted.1, Notes.singleton holds⟩
    · rw [isLog]
      rcases kept with same | dropped
      · rw [same]
        exact noted.2.mono onward (List.sublist_append_left _ _)
      · rw [dropped]
        trivial
  have failed : ∀ (cause : Failure), H request s.history p.log (.failed cause) :=
    fun cause => noting.quiet nofun nofun
  have both : Notes (H request s.history) [] (p.log ++ p.slot.record) :=
    Notes.append_iff.mpr ⟨noted.1, by simpa using noted.2⟩
  -- a callback adds replies
  have callback : ∀ (q : Proc σ) (program : Prog σ), q.Noted (H request s.history) →
      (q.advance program).1.Noted (H request s.history) := by
    intro q program noted
    obtain ⟨outs, isLog⟩ := Proc.advance_log q program
    have replies : ∀ (before : List (Entry σ)) (outs : List σ.Out),
        Notes (H request s.history) before (outs.map Entry.replied) := by
      intro before outs
      induction outs generalizing before with
      | nil => trivial
      | cons out rest inductionHypothesis =>
          exact ⟨noting.quiet nofun nofun, inductionHypothesis _⟩
    refine ⟨?_, ?_⟩
    · rw [isLog]
      exact Notes.append_iff.mpr ⟨noted.1, replies _ _⟩
    · rw [isLog]
      rcases Proc.advance_slot q program with same | rolled
      · rw [same]
        exact noted.2.mono onward (List.sublist_append_left _ _)
      · rw [rolled, Slot.record_rolledBack]
        trivial
  cases fires with
  | onDb runs _ => exact callback _ _ (logged rfl (noting.pooled run meets owner runs) (Or.inl rfl))
  | failedOnDb cause _ => exact callback _ _ (logged rfl (failed cause) (Or.inl rfl))
  | @onTxn record st res k rest runs _ =>
      refine callback _ _ ⟨noted.1, ?_⟩
      have isRecord : p.slot.record = record := by rw [runs.slot, Slot.record_active]
      have held := noting.within run meets owner runs
      rw [← isRecord] at held
      exact Notes.append_iff.mpr ⟨noted.2, Notes.singleton held⟩
  | failedOnTxn cause _ _ => exact callback _ _ (logged rfl (failed cause) (Or.inr rfl))
  | unopened _ | uncommitted _ _ =>
      exact callback _ _ (logged rfl (failed .outage) (Or.inr rfl))
  | gone _ _ | nothingToCommit _ _ | callback _ => exact callback _ _ noted
  | opened _ => exact callback _ _ ⟨noted.1, trivial⟩
  | committed _ _ => exact callback _ _ ⟨both, trivial⟩
  | answered isEvent head =>
      exact callback _ _ (logged rfl
        (noting.heard run meets owner ⟨proc, ⟨_, _, head⟩, isEvent⟩) (Or.inl rfl))
  | ended _ _ => exact ⟨both, trivial⟩
  | lost _ _ => exact logged rfl (failed .outage) (Or.inr rfl)
  | crashed => exact logged rfl (failed .outage) (Or.inr rfl)

/-- The processes of a run have noted what holds of every entry when it is
made. -/
theorem Run.noted (noting : Noting entry ok db H)
    (run : Run entry ok (Sys.initial db) events s) :
    ∀ p ∈ s.procs, ∀ request, p.log.head? = some (.spawned request) →
      p.Noted (H request s.history) := by
  induction run with
  | nil => simp [Sys.initial]
  | @snoc _ event s s' run meets stepped inductionHypothesis =>
      rcases Sys.step_fires stepped with ⟨started, _, rfl⟩ | ⟨pid, p, m, proc, fires, rfl⟩
      · intro p member request owner
        rcases List.mem_append.mp member with old | new
        · exact inductionHypothesis p old request owner
        · rw [List.mem_singleton.mp new]
          exact ⟨Notes.singleton (noting.quiet (by rintro _ _ ⟨⟩) (by rintro _ _ ⟨⟩)), trivial⟩
      · have later : ∀ {q : Proc σ} {request : σ.Req}, q.Noted (H request s.history) →
            q.Noted (H request (s.after pid m).history) := by
          intro q request noted
          have onward : ∀ {b b' : List (Entry σ)} {known}, b.Sublist b' →
              H request s.history b known → H request (s.after pid m).history b' known :=
            fun sublist => noting.longer (List.sublist_cons_self _ _) sublist
          exact ⟨noted.1.mono onward (List.Sublist.refl _),
            noted.2.mono onward (List.Sublist.refl _)⟩
        have before := List.mem_of_getElem? proc
        obtain ⟨started, owner⟩ := run.owned p before
        have moved := later (noting.step run meets proc owner fires
          (inductionHypothesis p before started owner))
        have same : ∀ {request}, m.next.1.log.head? = some (.spawned request) →
            request = started := by
          intro request head
          rw [head_of_longer owner fires.longer] at head
          cases head
          rfl
        intro r member request head
        rcases Sys.mem_procs_after member with rfl | ⟨kid, _, rfl⟩ | ⟨other, _, found⟩
        · rw [same head]
          exact moved
        · rw [same head]
          exact ⟨moved.1, trivial⟩
        · exact later (inductionHypothesis r (List.mem_of_getElem? found) request head)

end Noting

/-- What holds of every answer when it arrives, and stays true as the history
grows, is known of every answer a process holds. -/
theorem Run.heard {H : List S.Db → σ.Ext → σ.Ans → Prop}
    (later : ∀ {history history' : List S.Db} {x : σ.Ext} {a : σ.Ans},
      history.Sublist history' → H history x a → H history' x a)
    (arrives : ∀ {s : Sys S} {event : Event S} {pid : Nat} {p : Proc σ} {x : σ.Ext} {a : σ.Ans},
      ok s event → s.Hears event pid p x a → H s.history x a)
    (run : Run entry ok (Sys.initial db) events s) {p : Proc σ} (member : p ∈ s.procs)
    {x : σ.Ext} {a : σ.Ans} (logged : .answered x a ∈ p.log) : H s.history x a := by
  have noting : Noting entry ok db
      (fun _ history _ known => ∀ x a, known = .answered x a → H history x a) := by
    refine ⟨?_, ?_, ?_, ?_, ?_⟩
    · exact fun grows _ holds x a isAnswer => later grows (holds x a isAnswer)
    · exact fun _ unanswered x a isAnswer => absurd isAnswer (unanswered x a)
    · exact fun _ _ _ _ => nofun
    · exact fun _ _ _ _ => nofun
    · rintro events s event pid p request x a run meets owner hears _ _ ⟨⟩
      exact arrives meets hears
  obtain ⟨request, owner⟩ := run.owned p member
  obtain ⟨_, _, holds⟩ := (run.noted noting p member request owner).1.mem logged
  exact holds x a rfl

section Requests

variable {Q : σ.Req → Prop} {p : Proc σ} {request : σ.Req}

/-- Every call of a kind of requests met their contract when it was made. -/
theorem Run.called_of (run : Run entry ok (Sys.initial db) events s)
    (programs : ∀ request, Q request → Verified C (Proc.spawn request (entry request)))
    (member : p ∈ s.procs) (owner : p.log.head? = some (.spawned request)) (kind : Q request)
    {x : σ.Ext} {a : σ.Ans} (logged : .answered x a ∈ p.log) :
    ∃ log, log.Sublist p.log ∧ log.head? = some (.spawned request) ∧ C.call log x := by
  have noting : Noting entry ok db (fun request _ before known => ∀ x a,
      known = .answered x a → Q request → ∃ log : List (Entry σ), log.Sublist before ∧
        log.head? = some (.spawned request) ∧ C.call log x) := by
    refine ⟨?_, ?_, ?_, ?_, ?_⟩
    · intro request history history' before before' known _ grows holds x a isAnswer kind
      obtain ⟨log, sublist, head, promise⟩ := holds x a isAnswer kind
      exact ⟨log, sublist.trans grows, head, promise⟩
    · exact fun _ unanswered x a isAnswer => absurd isAnswer (unanswered x a)
    · exact fun _ _ _ _ => nofun
    · exact fun _ _ _ _ => nofun
    · rintro events s event pid p request x a run meets owner hears _ _ ⟨⟩ kind
      obtain ⟨k, rest, head⟩ := hears.head
      have obligation := (run.verified_of programs p (List.mem_of_getElem? hears.proc) request
        owner kind).obligation
      exact ⟨p.log, List.Sublist.refl _, owner,
        by simpa [Contract.Obligation, head] using obligation⟩
  obtain ⟨before, grows, holds⟩ := (run.noted noting p member request owner).1.mem logged
  obtain ⟨log, sublist, head, promise⟩ := holds x a rfl kind
  exact ⟨log, sublist.trans grows, head, promise⟩

/-- Every statement of a kind of requests met their contract when it was
issued. -/
theorem Run.issued_of (run : Run entry ok (Sys.initial db) events s)
    (programs : ∀ request, Q request → Verified C (Proc.spawn request (entry request)))
    (member : p ∈ s.procs) (owner : p.log.head? = some (.spawned request)) (kind : Q request)
    {st : σ.Stmt} {res : σ.Res st} (logged : .ran st res ∈ p.log) :
    ∃ log record, (log ++ record.getD []).Sublist p.log ∧
      log.head? = some (.spawned request) ∧ C.issue log record st := by
  have noting : Noting entry ok db (fun request _ before known => ∀ st res,
      known = .ran st res → Q request → ∃ log record, (log ++ record.getD []).Sublist before ∧
        log.head? = some (.spawned request) ∧ C.issue log record st) := by
    refine ⟨?_, ?_, ?_, ?_, ?_⟩
    · intro request history history' before before' known _ grows holds st res isRan kind
      obtain ⟨log, record, sublist, head, promise⟩ := holds st res isRan kind
      exact ⟨log, record, sublist.trans grows, head, promise⟩
    · exact fun unran _ st res isRan => absurd isRan (unran st res)
    · rintro events s event pid p request st res run meets owner runs st' res' isRan kind
      injection isRan with isStmt
      subst isStmt
      exact ⟨p.log, none, by simp, owner, runs.issued (run.verified_of programs p
        (List.mem_of_getElem? runs.proc) request owner kind).obligation⟩
    · rintro events s event pid p request record st res run meets owner runs st' res' isRan kind
      injection isRan with isStmt
      subst isStmt
      exact ⟨p.log, some record, List.Sublist.refl _, owner, runs.issued (run.verified_of programs p
        (List.mem_of_getElem? runs.proc) request owner kind).obligation⟩
    · exact fun _ _ _ _ => nofun
  obtain ⟨before, grows, holds⟩ := (run.noted noting p member request owner).1.mem logged
  obtain ⟨log, record, sublist, head, promise⟩ := holds st res rfl kind
  exact ⟨log, record, sublist.trans grows, head, promise⟩

end Requests

/-! ## Values -/

/-- What every run leaves in the database held of every committed state. -/
theorem Run.forall_history {P : S.Db → Prop}
    (each : ∀ {events s}, Run entry ok (Sys.initial db) events s → P s.db)
    (run : Run entry ok (Sys.initial db) events s) : ∀ earlier ∈ s.history, P earlier := by
  induction run with
  | nil =>
      intro earlier member
      rw [List.mem_singleton.mp member]
      exact each .nil
  | @snoc _ event s s' run meets stepped inductionHypothesis =>
      have now := each (run.snoc meets stepped)
      rcases Sys.step_cases stepped with ⟨request, _, rfl⟩ | ⟨pid, p, slot, log, m, moves, rfl⟩
      · exact inductionHypothesis
      · intro earlier member
        rcases List.mem_cons.mp member with rfl | older
        · exact now
        · exact inductionHypothesis earlier older

/-- What was committed stays part of the history. -/
theorem Sys.step_history (stepped : s.step entry event = some s') : s.history ⊆ s'.history := by
  rcases Sys.step_cases stepped with ⟨request, _, rfl⟩ | ⟨pid, p, slot, log, m, moves, rfl⟩
  · exact fun _ member => member
  · exact List.subset_cons_self _ _

/-- A process that moved, or did not, is still there with what it logged. -/
theorem Sys.step_remembers (stepped : s.step entry event = some s') {p : Proc σ}
    (member : p ∈ s.procs) : ∃ q ∈ s'.procs, p.log <+: q.log := by
  rcases Sys.step_cases stepped with ⟨request, _, rfl⟩ | ⟨pid, mover, slot, log, m, moves, rfl⟩
  · exact ⟨p, List.mem_append_left _ member, List.prefix_rfl⟩
  · obtain ⟨i, found⟩ := List.mem_iff_getElem?.mp member
    by_cases isPid : pid = i
    · subst isPid
      obtain rfl : mover = p := Option.some.inj (moves.proc.symm.trans found)
      refine ⟨m.next.1, List.mem_append_left _ ?_, moves.longer⟩
      exact List.mem_set (List.getElem?_eq_some_iff.mp found).1 _
    · refine ⟨p, List.mem_append_left _ (List.mem_iff_getElem?.mpr ⟨i, ?_⟩), List.prefix_rfl⟩
      rw [List.getElem?_set_ne isPid, found]

/-- What a step publishes is in the log of the process afterwards. -/
theorem Sys.Publishes.remembered {pid : Nat} {p : Proc σ} {entries : List (Entry σ)}
    (publishes : s.Publishes C event pid p entries) (stepped : s.step entry event = some s') :
    ∃ q ∈ s'.procs, p.log ++ entries <+: q.log := by
  have placed : ∀ {m : Move S}, s' = s.after pid m → p.log ++ entries <+: m.next.1.log →
      ∃ q ∈ s'.procs, p.log ++ entries <+: q.log := by
    intro m isAfter longer
    subst isAfter
    refine ⟨m.next.1, List.mem_append_left _ ?_, longer⟩
    exact List.mem_set (List.getElem?_eq_some_iff.mp publishes.proc).1 _
  have reports : ∀ {q : Proc σ} {program : Prog σ}, q.log = p.log ++ entries →
      p.log ++ entries <+: (q.advance program).1.log := by
    intro q program isLog
    obtain ⟨outs, eq⟩ := Proc.advance_log q program
    rw [eq, isLog]
    exact List.prefix_append _ _
  cases publishes with
  | @pooled st res runs issue =>
      obtain ⟨env, rfl, result⟩ := runs.result
      obtain ⟨k, rest, head⟩ := runs.head
      have unlocked := runs.unlocked
      simp only [Sys.step, runs.proc, Sys.execMove, head, Sys.execOnDb, result, unlocked,
        if_true, Option.bind_eq_bind, Option.bind_some, Option.pure_def, Option.some.injEq]
        at stepped
      exact placed stepped.symm (reports rfl)
  | txn commits issued commit =>
      obtain ⟨env, rfl⟩ := commits.fired
      rcases commits.head with head | ⟨k, rest, head⟩
      · simp only [Sys.step, commits.proc, Sys.execMove, head, commits.slot, Option.bind_eq_bind,
          Option.bind_some, Option.pure_def, Option.some.injEq] at stepped
        refine placed stepped.symm ?_
        simp [Proc.committed, commits.slot]
      · simp only [Sys.step, commits.proc, Sys.execMove, head, commits.slot, Option.bind_eq_bind,
          Option.bind_some, Option.pure_def, Option.some.injEq] at stepped
        exact placed stepped.symm (reports (by simp [Proc.committed, commits.slot]))

/-- A statement in the log of a process that made `P` true of row `k`, with what
the process knew when it issued it. -/
structure Made {K α : Type} (C : Contract σ) (col : Column S K α) (P : α → Prop) (k : K)
    (log : List (Entry σ)) (st : σ.Stmt) (res : σ.Res st) : Prop where
  changed : ∃ w a, w ∈ S.writes st res ∧ ¬ P a ∧ P (col.act w k a)
  issued : ∃ before after known record, log = before ++ .ran st res :: after ∧
    C.issue known record st ∧ known <+: before ∧ ∀ entries, record = some entries → entries ⊆ before

theorem Made.longer {K α : Type} {col : Column S K α} {P : α → Prop} {k : K}
    {log log' : List (Entry σ)} {st : σ.Stmt} {res : σ.Res st} (made : Made C col P k log st res)
    (longer : log <+: log') : Made C col P k log' st res := by
  obtain ⟨before, after, known, record, rfl, issue, isPrefix, within⟩ := made.issued
  obtain ⟨more, rfl⟩ := longer
  exact ⟨made.changed, before, after ++ more, known, record, by simp, issue, isPrefix, within⟩

/-- What publishes the change of a row made it. -/
theorem Sys.Publishes.made {K α : Type} {col : Column S K α} {P : α → Prop} {k : K} {pid : Nat}
    {p : Proc σ} {entries : List (Entry σ)} (publishes : s.Publishes C event pid p entries)
    (now : P (col.read (s.view entries) k)) (notBefore : ¬ P (col.read s.db k)) :
    ∃ st res, Made C col P k (p.log ++ entries) st res := by
  obtain ⟨before, st, res, after, w, a, split, write, fails, holds⟩ := col.origin now notBefore
  refine ⟨st, res, ⟨w, a, write, fails, holds⟩, ?_⟩
  cases publishes with
  | pooled runs issue =>
      obtain ⟨rfl, same⟩ : before = [] ∧ _ := by
        cases before with
        | nil => exact ⟨rfl, List.cons.inj split⟩
        | cons first rest => simp at split
      injection same.1 with isStmt
      subst isStmt
      refine ⟨p.log, after, p.log, none, by rw [split, List.nil_append], issue, List.prefix_rfl,
        nofun⟩
  | txn commits issued commit =>
      obtain ⟨known, isPrefix, issue⟩ := issued before st res after split
      refine ⟨p.log ++ before, after, known, some before, by rw [split, List.append_assoc], issue,
        isPrefix.trans (List.prefix_append _ _), ?_⟩
      rintro _ ⟨⟩
      exact List.subset_append_right _ _

/-- A value that was not there at the start was made by a process of the run. -/
theorem Run.made {K α : Type} {col : Column S K α} {P : α → Prop} {k : K}
    (initially : ¬ P (col.read db k)) (run : Run entry ok (Sys.initial db) events s)
    (programs : ∀ request, Verified C (Proc.spawn request (entry request))) :
    ∀ earlier ∈ s.history, P (col.read earlier k) →
      ∃ p ∈ s.procs, ∃ st res, Made C col P k p.log st res := by
  induction run with
  | nil =>
      intro earlier member holds
      rw [List.mem_singleton.mp member] at holds
      exact absurd holds initially
  | @snoc _ event s s' run meets stepped inductionHypothesis =>
      have remembered : ∀ earlier ∈ s.history, P (col.read earlier k) →
          ∃ p ∈ s'.procs, ∃ st res, Made C col P k p.log st res := by
        intro earlier member holds
        obtain ⟨p, isProc, st, res, made⟩ := inductionHypothesis earlier member holds
        obtain ⟨q, member, longer⟩ := Sys.step_remembers stepped isProc
        exact ⟨q, member, st, res, made.longer longer⟩
      have now : P (col.read s'.db k) → ∃ p ∈ s'.procs, ∃ st res, Made C col P k p.log st res := by
        intro holds
        by_cases before : P (col.read s.db k)
        · exact remembered s.db List.mem_cons_self before
        · rcases run.step_publishes programs stepped with same | ⟨pid, p, entries, publishes, isView⟩
          · rw [same] at holds
            exact absurd holds before
          · rw [isView] at holds
            obtain ⟨st, res, made⟩ := publishes.made holds before
            obtain ⟨q, member, longer⟩ := publishes.remembered stepped
            exact ⟨q, member, st, res, made.longer longer⟩
      intro earlier member holds
      rcases List.mem_cons.mp member with rfl | older
      · exact now holds
      · rcases Sys.step_cases stepped with ⟨request, _, rfl⟩ | ⟨pid, p, slot, log, m, moves, rfl⟩
        · exact remembered earlier (List.mem_cons_of_mem _ older) holds
        · exact remembered earlier older holds

end DrogonPay.ReadCommitted
