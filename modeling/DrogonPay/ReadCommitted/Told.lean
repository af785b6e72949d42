import DrogonPay.ReadCommitted.Lineage
import DrogonPay.ReadCommitted.Origins

/-!
Contract: what a program has been told when it issues a statement.

Owns:
- `Prog.Told`, which statements a program may issue after the pooled results and the
  answers it went on with;
- `Run.told`, by which every statement in a log was issued on entries that precede
  it;
- `Run.spawned_of` and `Run.unheard`: a log holds the request of its own process, and
  no answer to a call that its program never makes.

Does not own: what a transaction knows, or which statements are guarded.
-/

namespace DrogonPay.ReadCommitted

variable {σ : Sig} {S : Store σ}

/-! ## Programs -/

/-- The program, which knows these entries, issues only statements that `P` allows
for what it knows then. -/
def Prog.Told (P : List (Entry σ) → σ.Stmt → Prop) : Prog σ → List (Entry σ) → Prop
  | .done, _ => True
  | .sql .db st k, known =>
      P known st ∧ (∀ res, σ.Possible st res → (k (some res)).Told P (known ++ [.ran st res])) ∧
        (k none).Told P known
  | .sql .txn st k, known =>
      P known st ∧ (∀ res, σ.Possible st res → (k (some res)).Told P known) ∧
        (k none).Told P known
  | .call x k, known => ∀ a, (k a).Told P (known ++ [.answered x a])
  | .start k, known | .commit k, known => ∀ done, (k done).Told P known
  | .rollback next, known | .reply _ next, known => next.Told P known
  | .both first second, known => first.Told P known ∧ second.Told P known
  | .fork child next, known => child.Told P known ∧ next.Told P known

theorem Prog.Reports.told {P : List (Entry σ) → σ.Stmt → Prop} {program : Prog σ}
    (reports : program.Reports) (known : List (Entry σ)) : program.Told P known := by
  induction program with
  | done => trivial
  | reply out next inductionHypothesis => exact inductionHypothesis reports
  | _ => exact absurd reports id

section Processes

variable {P : List (Entry σ) → σ.Stmt → Prop} {log : List (Entry σ)} {p : Proc σ}

/-- The program is told what the log holds. -/
def Prog.ToldBy (P : List (Entry σ) → σ.Stmt → Prop) (log : List (Entry σ)) (program : Prog σ) :
    Prop :=
  ∃ known, known ⊆ log ∧ program.Told P known

theorem Prog.ToldBy.longer {program : Prog σ} (told : program.ToldBy P log)
    {log' : List (Entry σ)} (longer : log ⊆ log') : program.ToldBy P log' := by
  obtain ⟨known, within, told⟩ := told
  exact ⟨known, List.Subset.trans within longer, told⟩

/-- A process whose waiting programs are told what its log holds, and so is what it
forked. -/
def ToldAll (P : List (Entry σ) → σ.Stmt → Prop) (q : Proc σ × List (Prog σ)) : Prop :=
  (∀ waiting ∈ q.1.queue, waiting.ToldBy P q.1.log) ∧ ∀ kid ∈ q.2, kid.ToldBy P q.1.log

theorem subset_advance (p : Proc σ) (program : Prog σ) : p.log ⊆ (p.advance program).1.log := by
  obtain ⟨outs, isLog⟩ := Proc.advance_log p program
  rw [isLog]
  exact List.subset_append_left _ _

theorem toldAll_advance {program : Prog σ} (told : program.ToldBy P p.log)
    (queued : ∀ waiting ∈ p.queue, waiting.ToldBy P p.log) : ToldAll P (p.advance program) := by
  have submitted : ∀ {p : Proc σ} {last : Prog σ}, (∀ waiting ∈ p.queue, waiting.ToldBy P p.log) →
      last.ToldBy P p.log → ToldAll P ({ p with queue := p.queue ++ [last] }, []) := by
    intro p last queued told
    refine ⟨fun waiting member => ?_, by simp⟩
    rcases List.mem_append.mp member with old | new
    · exact queued waiting old
    · rw [List.mem_singleton.mp new]
      exact told
  induction program generalizing p with
  | done => exact ⟨queued, by simp [Proc.advance]⟩
  | rollback next inductionHypothesis => exact inductionHypothesis told queued
  | reply out next inductionHypothesis =>
      have longer : p.log ⊆ p.log ++ [.replied out] := List.subset_append_left _ _
      obtain ⟨known, within, told⟩ := told
      exact inductionHypothesis (p := { p with log := p.log ++ [.replied out] })
        ⟨known, List.Subset.trans within longer, told⟩
        fun waiting member => (queued waiting member).longer longer
  | both first second firstHypothesis secondHypothesis =>
      obtain ⟨known, within, toldFirst, toldSecond⟩ := told
      obtain ⟨queuedFirst, kidsFirst⟩ := firstHypothesis ⟨known, within, toldFirst⟩ queued
      have longer := subset_advance p first
      obtain ⟨queuedSecond, kidsSecond⟩ := secondHypothesis
        ⟨known, List.Subset.trans within longer, toldSecond⟩ queuedFirst
      refine ⟨queuedSecond, fun kid member => ?_⟩
      rcases List.mem_append.mp member with ofFirst | ofSecond
      · exact (kidsFirst kid ofFirst).longer (subset_advance _ second)
      · exact kidsSecond kid ofSecond
  | fork child next _ inductionHypothesis =>
      obtain ⟨known, within, toldChild, toldNext⟩ := told
      obtain ⟨queuedNext, kids⟩ := inductionHypothesis ⟨known, within, toldNext⟩ queued
      refine ⟨queuedNext, fun kid member => ?_⟩
      rcases List.mem_cons.mp member with rfl | other
      · exact ⟨known, List.Subset.trans within (subset_advance p next), toldChild⟩
      · exact kids kid other
  | sql on st k _ => exact submitted queued told
  | call x k _ => exact submitted queued told
  | start k _ => exact submitted queued told
  | commit k _ => exact submitted queued told

end Processes

/-! ## Moves -/

theorem subset_snoc {known log : List (Entry σ)} (within : known ⊆ log) (entry : Entry σ) :
    known ++ [entry] ⊆ log ++ [entry] :=
  List.append_subset.mpr ⟨List.subset_append_of_subset_left _ within, List.subset_append_right _ _⟩

section Moves

variable {P : List (Entry σ) → σ.Stmt → Prop} {s : Sys S} {event : Event S} {pid : Nat}
  {p : Proc σ} {m : Move S}

theorem Sys.Fires.told (fires : s.Fires event pid p m)
    (queued : ∀ waiting ∈ p.queue, waiting.ToldBy P p.log) : ToldAll P m.next := by
  -- the head goes on behind a log that has grown
  have continued : ∀ {q : Proc σ} {head program : Prog σ} {rest : List (Prog σ)},
      p.queue = head :: rest → q.queue = rest → p.log ⊆ q.log →
      (head.ToldBy P p.log → program.ToldBy P q.log) → ToldAll P (q.advance program) := by
    intro q head program rest isQueue isRest longer goes
    rw [isQueue] at queued
    obtain ⟨first, others⟩ := List.forall_mem_cons.mp queued
    refine toldAll_advance (goes first) ?_
    rw [isRest]
    exact fun waiting member => (others waiting member).longer longer
  have same : p.log ⊆ p.log := List.Subset.refl _
  have longer : ∀ more : List (Entry σ), p.log ⊆ p.log ++ more :=
    fun more => List.subset_append_left _ _
  have stopped : ∀ {q : Proc σ}, q.queue = [] → ToldAll P (q, []) := by
    intro q empty
    refine ⟨?_, by simp⟩
    rw [empty]
    exact fun waiting member => absurd member List.not_mem_nil
  cases fires with
  | onDb runs head =>
      refine continued head rfl (longer _) ?_
      rintro ⟨known, within, _, ran, _⟩
      obtain ⟨env, _, result⟩ := runs.result
      exact ⟨_, subset_snoc within _,
        ran _ (S.run_possible result)⟩
  | failedOnDb _ head =>
      refine continued head rfl (longer _) ?_
      rintro ⟨known, within, _, _, failed⟩
      exact ⟨known, List.Subset.trans within (longer _), failed⟩
  | onTxn runs head =>
      refine continued head rfl same ?_
      rintro ⟨known, within, _, ran, _⟩
      obtain ⟨env, _, result⟩ := runs.result
      exact ⟨known, within, ran _ (S.run_possible result)⟩
  | failedOnTxn _ _ head =>
      refine continued head rfl (longer _) ?_
      rintro ⟨known, within, _, _, failed⟩
      exact ⟨known, List.Subset.trans within (longer _), failed⟩
  | gone _ head =>
      refine continued head rfl same ?_
      rintro ⟨known, within, _, _, failed⟩
      exact ⟨known, within, failed⟩
  | opened head | nothingToCommit _ head =>
      exact continued head rfl same fun ⟨known, within, told⟩ => ⟨known, within, told _⟩
  | unopened head | uncommitted _ head =>
      exact continued head rfl (longer _) fun ⟨known, within, told⟩ =>
        ⟨known, List.Subset.trans within (longer _), told _⟩
  | committed _ head =>
      exact continued head rfl (longer _) fun ⟨known, within, told⟩ =>
        ⟨known, List.Subset.trans within (longer _), told _⟩
  | answered _ head =>
      exact continued head rfl (longer _) fun ⟨known, within, told⟩ =>
        ⟨_, subset_snoc within _, told _⟩
  | callback head => exact continued head rfl same id
  | ended _ head => exact stopped head
  | lost _ head => exact stopped head
  | crashed => exact stopped rfl

end Moves

/-! ## Runs -/

section Runs

variable {entry : σ.Req → Prog σ} {ok : Sys S → Event S → Prop} {db : S.Db}
  {events : List (Event S)} {s : Sys S} {p : Proc σ} {request : σ.Req}

/-- The programs of the requests of one kind are told what the logs hold. -/
theorem Run.told_of {P : σ.Req → List (Entry σ) → σ.Stmt → Prop} {Q : σ.Req → Prop}
    (programs : ∀ request, Q request → (entry request).Told (P request) [.spawned request])
    (run : Run entry ok (Sys.initial db) events s) :
    ∀ p ∈ s.procs, ∀ request, p.log.head? = some (.spawned request) → Q request →
      ∀ waiting ∈ p.queue, waiting.ToldBy (P request) p.log := by
  induction run with
  | nil => simp [Sys.initial]
  | snoc run _ stepped inductionHypothesis =>
      rcases Sys.step_fires stepped with ⟨request, _, rfl⟩ | ⟨pid, p, m, proc, fires, rfl⟩
      · intro p member request' head kind
        rcases List.mem_append.mp member with old | new
        · exact inductionHypothesis p old request' head kind
        · rw [List.mem_singleton.mp new] at head ⊢
          cases head
          intro waiting isFirst
          rw [List.mem_singleton.mp isFirst]
          exact ⟨_, List.Subset.refl _, programs request kind⟩
      · have before := List.mem_of_getElem? proc
        obtain ⟨owner, head⟩ := run.owned p before
        have now : Q owner → ToldAll (P owner) m.next :=
          fun kind => fires.told (inductionHypothesis p before owner head kind)
        have same : ∀ {request}, m.next.1.log.head? = some (.spawned request) →
            request = owner := by
          intro request head'
          rw [head_of_longer head fires.longer] at head'
          cases head'
          rfl
        intro r member request' head' kind
        rcases Sys.mem_procs_after member with rfl | ⟨kid, isKid, rfl⟩ | ⟨other, _, found⟩
        · obtain rfl := same head'
          exact (now kind).1
        · obtain rfl := same head'
          exact fun waiting isFirst => List.mem_singleton.mp isFirst ▸ (now kind).2 kid isKid
        · exact inductionHypothesis r (List.mem_of_getElem? found) request' head' kind

/-- Whatever a statement was issued on precedes it in the log. -/
theorem Run.told {P : σ.Req → List (Entry σ) → σ.Stmt → Prop} {Q : σ.Req → Prop}
    (programs : ∀ request, Q request → (entry request).Told (P request) [.spawned request])
    (run : Run entry ok (Sys.initial db) events s) (member : p ∈ s.procs)
    (owner : p.log.head? = some (.spawned request)) (kind : Q request)
    {before after : List (Entry σ)} {st : σ.Stmt} {res : σ.Res st}
    (split : p.log = before ++ .ran st res :: after) :
    ∃ known, known ⊆ before ∧ P request known st := by
  have noting : Noting entry ok db fun request _ before known => Q request →
      ∀ st res, known = .ran st res → ∃ told, told ⊆ before ∧ P request told st := by
    refine ⟨?_, ?_, ?_, ?_, ?_⟩
    · intro request history history' before before' known _ grows holds kind st res isRan
      obtain ⟨told, within, allowed⟩ := holds kind st res isRan
      exact ⟨told, List.Subset.trans within grows.subset, allowed⟩
    · exact fun unran _ _ st res isRan => absurd isRan (unran st res)
    · rintro events s event pid p request st res run _ owner runs kind _ _ ⟨⟩
      obtain ⟨k, rest, head⟩ := runs.head
      obtain ⟨told, within, allowed⟩ := run.told_of programs p
        (List.mem_of_getElem? runs.proc) request owner kind _ (head ▸ List.mem_cons_self)
      exact ⟨told, within, allowed.1⟩
    · rintro events s event pid p request record st res run _ owner runs kind _ _ ⟨⟩
      obtain ⟨k, rest, head⟩ := runs.head
      obtain ⟨told, within, allowed⟩ := run.told_of programs p
        (List.mem_of_getElem? runs.proc) request owner kind _ (head ▸ List.mem_cons_self)
      exact ⟨told, List.Subset.trans within (List.subset_append_left _ _), allowed.1⟩
    · exact fun _ _ _ _ _ _ _ => nofun
  have noted := (run.noted noting p member request owner).1
  rw [split] at noted
  exact (Notes.append_iff.mp noted).2.1 kind st res rfl

/-- A log holds no request but the one its process serves. -/
theorem Run.spawned_of (run : Run entry ok (Sys.initial db) events s) (member : p ∈ s.procs)
    (owner : p.log.head? = some (.spawned request)) {other : σ.Req}
    (logged : .spawned other ∈ p.known) : other = request := by
  induction run generalizing p request with
  | nil => simp [Sys.initial] at member
  | snoc run _ stepped inductionHypothesis =>
      rcases Sys.step_fires stepped with ⟨started, _, rfl⟩ | ⟨pid, q, m, proc, fires, rfl⟩
      · rcases List.mem_append.mp member with old | new
        · exact inductionHypothesis old owner logged
        · rw [List.mem_singleton.mp new] at owner logged
          simp only [Proc.known, Proc.spawn, Slot.record, List.append_nil,
            List.mem_singleton] at logged
          cases owner
          cases logged
          rfl
      · have before := List.mem_of_getElem? proc
        obtain ⟨started, head⟩ := run.owned q before
        have fresh : .spawned other ∈ m.next.1.known → other = started := by
          intro known
          rcases fires.learns known with old | ⟨_, new⟩ | ⟨_, new⟩ | ⟨_, _, new, _⟩ |
            ⟨_, _, _, _, new, _⟩
          · exact inductionHypothesis before head old
          all_goals cases new
        have same : m.next.1.log.head? = some (.spawned request) → request = started := by
          intro head'
          rw [head_of_longer head fires.longer] at head'
          cases head'
          rfl
        rcases Sys.mem_procs_after member with rfl | ⟨kid, isKid, rfl⟩ | ⟨index, _, found⟩
        · rw [same owner]
          exact fresh logged
        · rw [same owner]
          exact fresh (List.mem_append_left _ (by simpa [Proc.known, Proc.child] using logged))
        · exact inductionHypothesis (List.mem_of_getElem? found) owner logged

/-- What holds of every request when it starts a process holds of every request in a
log. -/
theorem Run.started {Q : σ.Req → Prop} (starts : ∀ s request, ok s (.spawn request) → Q request)
    (run : Run entry ok (Sys.initial db) events s) (member : p ∈ s.procs)
    (owner : p.log.head? = some (.spawned request)) : Q request := by
  induction run generalizing p request with
  | nil => simp [Sys.initial] at member
  | snoc run meets stepped inductionHypothesis =>
      rcases Sys.step_fires stepped with ⟨started, isEvent, rfl⟩ | ⟨pid, q, m, proc, fires, rfl⟩
      · rcases List.mem_append.mp member with old | new
        · exact inductionHypothesis old owner
        · rw [List.mem_singleton.mp new] at owner
          cases owner
          exact starts _ _ (isEvent ▸ meets)
      · have before := List.mem_of_getElem? proc
        obtain ⟨started, head⟩ := run.owned q before
        have same : m.next.1.log.head? = some (.spawned request) → request = started := by
          intro head'
          rw [head_of_longer head fires.longer] at head'
          cases head'
          rfl
        rcases Sys.mem_procs_after member with rfl | ⟨kid, isKid, rfl⟩ | ⟨index, _, found⟩
        · rw [same owner]
          exact inductionHypothesis before head
        · rw [same owner]
          exact inductionHypothesis before head
        · exact inductionHypothesis (List.mem_of_getElem? found) owner

/-- A request whose program never makes such a call hears no answer to one. -/
theorem Run.unheard {acts : σ.Ext → Prop} (mute : (entry request).Mute acts)
    (run : Run entry ok (Sys.initial db) events s) (member : p ∈ s.procs)
    (owner : p.log.head? = some (.spawned request)) {x : σ.Ext} {a : σ.Ans}
    (heard : .answered x a ∈ p.log) : ¬ acts x := by
  have noting : Noting entry ok db fun other _ _ known => other = request →
      ∀ x a, known = .answered x a → ¬ acts x := by
    refine ⟨fun _ _ holds => holds, fun _ unheard _ x a isHeard => absurd isHeard (unheard x a),
      fun _ _ _ _ => nofun, fun _ _ _ _ => nofun, ?_⟩
    rintro events s event pid q other x a run _ head hears same _ _ ⟨⟩
    obtain ⟨k, rest, isQueue⟩ := hears.head
    have waits := run.keeps_of (Q := fun other => other = request)
      Prog.asks_closed (fun _ => id) (fun _ same => same ▸ mute) q
      (List.mem_of_getElem? hears.proc) other head same
    exact (waits (.call x k) (isQueue ▸ List.mem_cons_self)).1
  obtain ⟨_, _, holds⟩ := (run.noted noting p member request owner).1.mem heard
  exact holds rfl x a rfl

end Runs

end DrogonPay.ReadCommitted
