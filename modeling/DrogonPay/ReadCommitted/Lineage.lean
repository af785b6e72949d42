import DrogonPay.ReadCommitted.Replies

/-!
Contract: which process acts for a row that several processes know of.

Owns:
- `Prog.Closed` and `Sys.Fires.closed`, by which a kind of programs that passes to
  continuations and forks passes to everything a process submits and forks;
- `Prog.Asks`, which calls a program and its forks may make, with `Prog.Mute`, the
  programs that never make a call of a kind, and `Prog.Solo`, those that fork mute
  ones only;
- `Kin`, what two processes that claim one row have in common, and `Run.kin`, that
  every run keeps it;
- `Run.sole`, by which the process about to make such a call for a row is the only
  one that will, and has seen every answer to one.

Does not own: which statement claims a row, or why nobody else claims it.
-/

namespace DrogonPay.ReadCommitted

variable {σ : Sig} {S : Store σ}

/-! ## Kinds of programs -/

/-- Programs of kind `P` go on as such programs, and fork programs of kind
`K`. -/
structure Prog.Closed (P K : Prog σ → Prop) : Prop where
  sql : ∀ {on : Target} {st : σ.Stmt} {k : Option (σ.Res st) → Prog σ}, P (.sql on st k) →
    ∀ res, P (k res)
  call : ∀ {x : σ.Ext} {k : σ.Ans → Prog σ}, P (.call x k) → ∀ a, P (k a)
  start : ∀ {k : Bool → Prog σ}, P (.start k) → ∀ done, P (k done)
  commit : ∀ {k : Bool → Prog σ}, P (.commit k) → ∀ done, P (k done)
  rollback : ∀ {next : Prog σ}, P (.rollback next) → P next
  reply : ∀ {out : σ.Out} {next : Prog σ}, P (.reply out next) → P next
  both : ∀ {first second : Prog σ}, P (.both first second) → P first ∧ P second
  fork : ∀ {child next : Prog σ}, P (.fork child next) → K child ∧ P next

/-- A process and what it forked keep to their kinds. -/
def Keeps (P K : Prog σ → Prop) (q : Proc σ × List (Prog σ)) : Prop :=
  (∀ waiting ∈ q.1.queue, P waiting) ∧ ∀ kid ∈ q.2, K kid

theorem Prog.Closed.advance {P K : Prog σ → Prop} (closed : Prog.Closed P K) {program : Prog σ}
    (isKind : P program) {p : Proc σ} (queued : ∀ waiting ∈ p.queue, P waiting) :
    Keeps P K (p.advance program) := by
  have submitted : ∀ {p : Proc σ} {last : Prog σ}, (∀ waiting ∈ p.queue, P waiting) → P last →
      Keeps P K ({ p with queue := p.queue ++ [last] }, []) := by
    intro p last queued isKind
    refine ⟨fun waiting member => ?_, by simp⟩
    rcases List.mem_append.mp member with old | new
    · exact queued waiting old
    · rw [List.mem_singleton.mp new]
      exact isKind
  induction program generalizing p with
  | done => exact ⟨queued, by simp [Proc.advance]⟩
  | rollback next inductionHypothesis =>
      exact inductionHypothesis (closed.rollback isKind) queued
  | reply out next inductionHypothesis => exact inductionHypothesis (closed.reply isKind) queued
  | both first second firstHypothesis secondHypothesis =>
      obtain ⟨isFirst, isSecond⟩ := closed.both isKind
      obtain ⟨queuedFirst, kidsFirst⟩ := firstHypothesis isFirst queued
      obtain ⟨queuedSecond, kidsSecond⟩ := secondHypothesis isSecond queuedFirst
      refine ⟨queuedSecond, fun kid member => ?_⟩
      rcases List.mem_append.mp member with ofFirst | ofSecond
      · exact kidsFirst kid ofFirst
      · exact kidsSecond kid ofSecond
  | fork child next _ inductionHypothesis =>
      obtain ⟨isChild, isNext⟩ := closed.fork isKind
      obtain ⟨queuedNext, kids⟩ := inductionHypothesis isNext queued
      refine ⟨queuedNext, fun kid member => ?_⟩
      rcases List.mem_cons.mp member with rfl | other
      · exact isChild
      · exact kids kid other
  | sql on st k _ => exact submitted queued isKind
  | call x k _ => exact submitted queued isKind
  | start k _ => exact submitted queued isKind
  | commit k _ => exact submitted queued isKind

section Moves

variable {s : Sys S} {event : Event S} {pid : Nat} {p : Proc σ} {m : Move S}

/-- A process that moves keeps to its kind. -/
theorem Sys.Fires.closed {P K : Prog σ → Prop} (fires : s.Fires event pid p m)
    (closed : Prog.Closed P K) (queued : ∀ waiting ∈ p.queue, P waiting) :
    Keeps P K m.next := by
  have popped : ∀ {head : Prog σ} {rest : List (Prog σ)}, p.queue = head :: rest →
      P head ∧ ∀ waiting ∈ rest, P waiting := by
    intro head rest isQueue
    rw [isQueue] at queued
    exact List.forall_mem_cons.mp queued
  have ended : ∀ {q : Proc σ}, q.queue = [] → Keeps P K (q, []) := by
    intro q empty
    refine ⟨?_, by simp⟩
    rw [empty]
    exact fun waiting member => absurd member List.not_mem_nil
  cases fires with
  | onDb _ head => exact closed.advance (closed.sql (popped head).1 _) (popped head).2
  | failedOnDb _ head => exact closed.advance (closed.sql (popped head).1 _) (popped head).2
  | onTxn _ head => exact closed.advance (closed.sql (popped head).1 _) (popped head).2
  | failedOnTxn _ _ head => exact closed.advance (closed.sql (popped head).1 _) (popped head).2
  | gone _ head => exact closed.advance (closed.sql (popped head).1 _) (popped head).2
  | opened head => exact closed.advance (closed.start (popped head).1 _) (popped head).2
  | unopened head => exact closed.advance (closed.start (popped head).1 _) (popped head).2
  | committed _ head => exact closed.advance (closed.commit (popped head).1 _) (popped head).2
  | uncommitted _ head => exact closed.advance (closed.commit (popped head).1 _) (popped head).2
  | nothingToCommit _ head =>
      exact closed.advance (closed.commit (popped head).1 _) (popped head).2
  | answered _ head => exact closed.advance (closed.call (popped head).1 _) (popped head).2
  | callback head => exact closed.advance (popped head).1 (popped head).2
  | ended _ head => exact ended head
  | lost _ head => exact ended head
  | crashed => exact ended rfl

/-- What a process knows after a move, it knew, or it is a report or a failure, the
statement that ran, or the answer that came. -/
theorem Sys.Fires.learns (fires : s.Fires event pid p m) {known : Entry σ}
    (member : known ∈ m.next.1.known) :
    known ∈ p.known ∨ (∃ out, known = .replied out) ∨ (∃ cause, known = .failed cause) ∨
      (∃ st res, known = .ran st res ∧ s.RunsNow event pid p st res) ∨
      ∃ x a k rest, known = .answered x a ∧ p.queue = .call x k :: rest := by
  -- a callback adds replies
  have advanced : ∀ (q : Proc σ) (program : Prog σ), known ∈ (q.advance program).1.known →
      (∀ out, known ≠ .replied out) → known ∈ q.known := by
    intro q program member unreported
    obtain ⟨outs, isLog⟩ := Proc.advance_log q program
    rw [Proc.known, isLog] at member
    rcases List.mem_append.mp member with inLog | inSlot
    · rcases List.mem_append.mp inLog with old | reported
      · exact List.mem_append_left _ old
      · obtain ⟨out, _, isReply⟩ := List.mem_map.mp reported
        exact absurd isReply.symm (unreported out)
    · refine List.mem_append_right _ ?_
      rcases Proc.advance_slot q program with same | rolled
      · rwa [same] at inSlot
      · rw [rolled, Slot.record_rolledBack] at inSlot
        cases inSlot
  -- the log grows by one entry, and the transaction stays or is gone
  have logged : ∀ {q : Proc σ} {last : Entry σ}, known ∈ q.known → q.log = p.log ++ [last] →
      (q.slot.record = p.slot.record ∨ q.slot.record = []) → known ∈ p.known ∨ known = last := by
    intro q last member isLog kept
    rw [Proc.known, isLog] at member
    rcases List.mem_append.mp member with inLog | inSlot
    · rcases List.mem_append.mp inLog with old | new
      · exact Or.inl (List.mem_append_left _ old)
      · exact Or.inr (List.mem_singleton.mp new)
    · rcases kept with same | dropped
      · rw [same] at inSlot
        exact Or.inl (List.mem_append_right _ inSlot)
      · rw [dropped] at inSlot
        cases inSlot
  have failed : ∀ {q : Proc σ} {cause : Failure}, known ∈ q.known →
      q.log = p.log ++ [.failed cause] → (q.slot.record = p.slot.record ∨ q.slot.record = []) →
      known ∈ p.known ∨ ∃ cause, known = .failed cause :=
    fun member isLog kept => (logged member isLog kept).imp_right fun same => ⟨_, same⟩
  by_cases reported : ∃ out, known = .replied out
  · exact Or.inr (Or.inl reported)
  · have unreported : ∀ out, known ≠ .replied out := fun out same => reported ⟨out, same⟩
    suffices rest : known ∈ p.known ∨ (∃ cause, known = .failed cause) ∨
        (∃ st res, known = .ran st res ∧ s.RunsNow event pid p st res) ∨
        ∃ x a k rest, known = .answered x a ∧ p.queue = .call x k :: rest by
      exact rest.imp_right Or.inr
    cases fires with
    | onDb runs _ =>
        rcases logged (advanced _ _ member unreported) rfl (Or.inl rfl) with old | rfl
        · exact Or.inl old
        · exact Or.inr (Or.inr (Or.inl ⟨_, _, rfl, Or.inl runs⟩))
    | @onTxn record st res k rest runs _ =>
        have inNext := advanced _ _ member unreported
        simp only [Proc.known, Proc.ranOnTxn, Slot.record_active, ← List.append_assoc,
          List.mem_append, List.mem_singleton] at inNext
        rcases inNext with old | rfl
        · exact Or.inl (List.mem_append.mpr old)
        · exact Or.inr (Or.inr (Or.inl ⟨st, res, rfl, Or.inr ⟨record, runs⟩⟩))
    | answered _ head =>
        rcases logged (advanced _ _ member unreported) rfl (Or.inl rfl) with old | rfl
        · exact Or.inl old
        · exact Or.inr (Or.inr (Or.inr ⟨_, _, _, _, rfl, head⟩))
    | failedOnDb _ _ =>
        exact (failed (advanced _ _ member unreported) rfl (Or.inl rfl)).imp_right Or.inl
    | failedOnTxn _ _ _ =>
        exact (failed (advanced _ _ member unreported) rfl (Or.inr rfl)).imp_right Or.inl
    | unopened _ =>
        exact (failed (advanced _ _ member unreported) rfl (Or.inr rfl)).imp_right Or.inl
    | uncommitted _ _ =>
        exact (failed (advanced _ _ member unreported) rfl (Or.inr rfl)).imp_right Or.inl
    | lost _ _ => exact (failed member rfl (Or.inr rfl)).imp_right Or.inl
    | crashed => exact (failed member rfl (Or.inr rfl)).imp_right Or.inl
    | @gone st k rest _ _ =>
        exact Or.inl (advanced { p with queue := rest } (k none) member unreported)
    | @nothingToCommit k rest _ _ =>
        exact Or.inl (advanced { p with queue := rest } (k false) member unreported)
    | @callback program rest _ =>
        exact Or.inl (advanced { p with queue := rest } program member unreported)
    | opened _ =>
        have inNext := advanced _ _ member unreported
        simp only [Proc.known, Slot.record_active, List.append_nil] at inNext
        exact Or.inl (List.mem_append_left _ inNext)
    | committed _ _ =>
        have inNext := advanced _ _ member unreported
        simp only [Proc.known, Proc.committed, Slot.record_closed, List.append_nil] at inNext
        exact Or.inl inNext
    | ended _ _ =>
        simp only [Proc.known, Proc.committed, Slot.record_closed, List.append_nil] at member
        exact Or.inl member

end Moves

/-! ## Kin -/

/-- The program asks `mine` only, and what it forks asks `theirs` only. -/
def Prog.Asks (mine theirs : σ.Ext → Prop) : Prog σ → Prop
  | .done => True
  | .sql _ _ k => ∀ res, (k res).Asks mine theirs
  | .call x k => mine x ∧ ∀ a, (k a).Asks mine theirs
  | .start k | .commit k => ∀ done, (k done).Asks mine theirs
  | .rollback next | .reply _ next => next.Asks mine theirs
  | .both first second => first.Asks mine theirs ∧ second.Asks mine theirs
  | .fork child next => child.Asks theirs theirs ∧ next.Asks mine theirs

/-- A program that never makes a call of a kind. -/
abbrev Prog.Mute (acts : σ.Ext → Prop) : Prog σ → Prop :=
  Prog.Asks (fun x => ¬ acts x) fun x => ¬ acts x

/-- A program whose forks never make a call of a kind. -/
abbrev Prog.Solo (acts : σ.Ext → Prop) : Prog σ → Prop :=
  Prog.Asks (fun _ => True) fun x => ¬ acts x

section Asks

variable {mine theirs : σ.Ext → Prop}

theorem Prog.asks_closed :
    Prog.Closed (Prog.Asks (σ := σ) mine theirs) (Prog.Asks theirs theirs) :=
  ⟨id, And.right, id, id, id, id, id, id⟩

theorem Prog.Asks.mono {mine' theirs' : σ.Ext → Prop} {program : Prog σ}
    (asks : program.Asks mine theirs) (weaker : ∀ x, mine x → mine' x)
    (weakerTheirs : ∀ x, theirs x → theirs' x) : program.Asks mine' theirs' := by
  induction program generalizing mine mine' with
  | done => trivial
  | sql on st k inductionHypothesis =>
      exact fun res => inductionHypothesis res (asks res) weaker
  | call x k inductionHypothesis =>
      exact ⟨weaker x asks.1, fun a => inductionHypothesis a (asks.2 a) weaker⟩
  | start k inductionHypothesis => exact fun done => inductionHypothesis done (asks done) weaker
  | commit k inductionHypothesis => exact fun done => inductionHypothesis done (asks done) weaker
  | rollback next inductionHypothesis => exact inductionHypothesis asks weaker
  | reply out next inductionHypothesis => exact inductionHypothesis asks weaker
  | both first second firstHypothesis secondHypothesis =>
      exact ⟨firstHypothesis asks.1 weaker, secondHypothesis asks.2 weaker⟩
  | fork child next childHypothesis nextHypothesis =>
      exact ⟨childHypothesis asks.1 weakerTheirs, nextHypothesis asks.2 weaker⟩

/-- A program of pooled statements and reports makes no call at all. -/
theorem Prog.Minor.asks {minor : σ.Stmt → Prop} {program : Prog σ}
    (isMinor : program.Minor minor) : program.Asks mine theirs := by
  induction program generalizing mine with
  | done => trivial
  | sql on st k inductionHypothesis =>
      cases on with
      | db => exact fun res => inductionHypothesis res (isMinor.2 res)
      | txn => exact isMinor.elim
  | rollback next inductionHypothesis => exact inductionHypothesis isMinor
  | reply out next inductionHypothesis => exact inductionHypothesis isMinor
  | fork child next childHypothesis nextHypothesis =>
      exact ⟨childHypothesis isMinor.1, nextHypothesis isMinor.2⟩
  | call x k _ => exact isMinor.elim
  | start k _ => exact isMinor.elim
  | commit k _ => exact isMinor.elim
  | both first second _ _ => exact isMinor.elim

end Asks

section Kin

variable {acts : σ.Ext → Prop} {K : Type} {claims : σ.Stmt → K → Prop} {k : K}

/-- The process will not make a call of a kind. -/
def Proc.Mute (acts : σ.Ext → Prop) (p : Proc σ) : Prop :=
  ∀ waiting ∈ p.queue, waiting.Mute acts

/-- One of these statements claimed row `k`. -/
def Claimed (claims : σ.Stmt → K → Prop) (known : List (Entry σ)) (k : K) : Prop :=
  ∃ st res, claims st k ∧ .ran st res ∈ known

/-- Of two processes one is mute. What the second heard on such a call the first
heard, unless it is the mute one. -/
structure Kin (acts : σ.Ext → Prop) (p q : Proc σ) : Prop where
  oneMute : p.Mute acts ∨ q.Mute acts
  heard : ∀ x a, acts x → .answered x a ∈ q.log → p.Mute acts ∨ .answered x a ∈ p.log

theorem Proc.Mute.uncalled {p : Proc σ} (mute : p.Mute acts) {x : σ.Ext} {next : σ.Ans → Prog σ}
    {rest : List (Prog σ)} (head : p.queue = .call x next :: rest) : ¬ acts x :=
  (mute (.call x next) (by rw [head]; exact List.mem_cons_self)).1

theorem Kin.of_mute {p q : Proc σ} (mute : p.Mute acts) : Kin acts p q :=
  ⟨Or.inl mute, fun _ _ _ _ => Or.inl mute⟩

section Runs

variable {entry : σ.Req → Prog σ} {ok : Sys S → Event S → Prop} {db : S.Db}
  {events : List (Event S)} {s s' : Sys S} {event : Event S} {p q : Proc σ}

/-- A transaction has collected statements only. -/
theorem Run.record_ran (run : Run entry ok (Sys.initial db) events s) :
    ∀ p ∈ s.procs, ∀ known ∈ p.slot.record, ∃ st res, known = .ran st res := by
  induction run with
  | nil => simp [Sys.initial]
  | snoc _ _ stepped inductionHypothesis =>
      rcases Sys.step_cases stepped with ⟨request, _, rfl⟩ | ⟨pid, p, slot, log, m, moves, rfl⟩
      · intro p member
        rcases List.mem_append.mp member with old | new
        · exact inductionHypothesis p old
        · rw [List.mem_singleton.mp new]
          exact fun known inRecord => absurd inRecord List.not_mem_nil
      · have before := inductionHypothesis p (List.mem_of_getElem? moves.proc)
        have nothing : ∀ known ∈ ([] : List (Entry σ)), ∃ st res, known = .ran st res :=
          fun known inRecord => absurd inRecord List.not_mem_nil
        refine Sys.forall_after (P := fun slot _ =>
          ∀ known ∈ slot.record, ∃ st res, known = .ran st res) moves ?_ ?_
          fun other r _ found => inductionHypothesis r (List.mem_of_getElem? found)
        · rintro slot log slot' log' ⟨kept | dropped, _⟩ collected
          · rw [kept]
            exact collected
          · rw [dropped]
            exact nothing
        · have acted := moves.acts
          generalize m.commits = commits at acted
          cases acted with
          | calm calm =>
              rcases calm.1 with kept | dropped
              · rw [kept]
                exact before
              · rw [dropped]
                exact nothing
          | onDb _ => exact before
          | @onTxn record st res runs =>
              rw [runs.slot] at before
              intro known inRecord
              rcases List.mem_append.mp inRecord with old | new
              · exact before known old
              · exact ⟨st, res, List.mem_singleton.mp new⟩
          | commit _ => exact nothing

/-- What the requests of one kind submit keeps to the kind of their programs. -/
theorem Run.keeps_of {P K : Prog σ → Prop} {Q : σ.Req → Prop} (closed : Prog.Closed P K)
    (weaker : ∀ kid, K kid → P kid) (programs : ∀ request, Q request → P (entry request))
    (run : Run entry ok (Sys.initial db) events s) :
    ∀ p ∈ s.procs, ∀ request, p.log.head? = some (.spawned request) → Q request →
      ∀ waiting ∈ p.queue, P waiting := by
  induction run with
  | nil => simp [Sys.initial]
  | snoc run _ stepped inductionHypothesis =>
      rcases Sys.step_fires stepped with ⟨request, _, rfl⟩ | ⟨pid, p, m, proc, fires, rfl⟩
      · intro p member request' head kind
        rcases List.mem_append.mp member with old | new
        · exact inductionHypothesis p old request' head kind
        · rw [List.mem_singleton.mp new] at head ⊢
          cases head
          exact fun waiting isFirst => List.mem_singleton.mp isFirst ▸ programs request kind
      · have before := List.mem_of_getElem? proc
        obtain ⟨owner, head⟩ := run.owned p before
        have now : Q owner → Keeps P K m.next :=
          fun kind => fires.closed closed (inductionHypothesis p before owner head kind)
        have same : ∀ {request}, m.next.1.log.head? = some (.spawned request) →
            Q request → Q owner := by
          intro request head' kind
          rw [head_of_longer head fires.longer] at head'
          cases head'
          exact kind
        intro r member request head' kind
        rcases Sys.mem_procs_after member with rfl | ⟨kid, isKid, rfl⟩ | ⟨other, _, found⟩
        · exact (now (same head' kind)).1
        · exact fun waiting isFirst =>
            List.mem_singleton.mp isFirst ▸ weaker kid ((now (same head' kind)).2 kid isKid)
        · exact inductionHypothesis r (List.mem_of_getElem? found) request head' kind

/-- The process at an index after a move. -/
private theorem place_after {pid i : Nat} {m : Move S} {r : Proc σ}
    (found : (s.after pid m).procs[i]? = some r) :
    (i = pid ∧ r = m.next.1) ∨ (∃ kid ∈ m.next.2, r = Proc.child m.next.1.log kid) ∨
      (i ≠ pid ∧ s.procs[i]? = some r) := by
  simp only [Sys.after] at found
  rw [List.getElem?_append] at found
  split at found
  · rw [List.getElem?_set] at found
    split at found
    · rename_i same
      split at found
      · exact Or.inl ⟨same.symm, (Option.some.inj found).symm⟩
      · cases found
    · rename_i different
      exact Or.inr (Or.inr ⟨fun same => different same.symm, found⟩)
  · obtain ⟨kid, isKid, rfl⟩ := List.mem_map.mp (List.mem_of_getElem? found)
    exact Or.inr (Or.inl ⟨kid, isKid, rfl⟩)

/-- Any two processes that claimed the same row are kin. -/
def Sys.AllKin (acts : σ.Ext → Prop) (claims : σ.Stmt → K → Prop) (s : Sys S) : Prop :=
  ∀ (i j : Nat) (p q : Proc σ) (k : K), i ≠ j → s.procs[i]? = some p → s.procs[j]? = some q →
    Claimed claims p.known k → Claimed claims q.known k → Kin acts p q

/-- Nobody claims a row that another process has claimed. -/
def Exclusive (entry : σ.Req → Prog σ) (ok : Sys S → Event S → Prop) (db : S.Db)
    (claims : σ.Stmt → K → Prop) : Prop :=
  ∀ {events : List (Event S)} {s : Sys S} {event : Event S} {pid : Nat} {p : Proc σ} {st : σ.Stmt}
    {res : σ.Res st} {k : K}, Run entry ok (Sys.initial db) events s → ok s event →
    s.RunsNow event pid p st res → claims st k →
    ∀ other q, other ≠ pid → s.procs[other]? = some q → ¬ Claimed claims q.known k

/-- Processes that claim the same row stay kin. -/
theorem Run.kin (programs : ∀ request, (entry request).Solo acts)
    (exclusive : Exclusive entry ok db claims) (run : Run entry ok (Sys.initial db) events s) :
    s.AllKin acts claims := by
  induction run with
  | nil =>
      intro i j p q k _ found
      simp [Sys.initial] at found
  | @snoc _ event s s' run meets stepped inductionHypothesis =>
      rcases Sys.step_fires stepped with ⟨request, _, rfl⟩ | ⟨pid, p, m, proc, fires, rfl⟩
      · -- a new process has claimed nothing
        have old : ∀ {i : Nat} {r : Proc σ} {k : K},
            (s.procs ++ [Proc.spawn request (entry request)])[i]? = some r →
            Claimed claims r.known k → s.procs[i]? = some r := by
          intro i r k found claimed
          rw [List.getElem?_append] at found
          split at found
          · exact found
          · obtain ⟨st, res, _, known⟩ := claimed
            rw [List.mem_singleton.mp (List.mem_of_getElem? found)] at known
            simp [Proc.known, Proc.spawn] at known
        intro i j q r k different foundQ foundR claimedQ claimedR
        exact inductionHypothesis i j q r k different (old foundQ claimedQ) (old foundR claimedR)
          claimedQ claimedR
      · have member := List.mem_of_getElem? proc
        obtain ⟨owner, isOwner⟩ := run.owned p member
        obtain ⟨_, kids⟩ := fires.closed Prog.asks_closed
          (run.keeps_of (Q := fun _ => True) Prog.asks_closed
            (fun _ mute => mute.mono (fun _ _ => trivial) fun _ => id)
            (fun request _ => programs request) p member owner isOwner trivial)
        have staysMute : p.Mute acts → m.next.1.Mute acts :=
          fun mute => (fires.closed Prog.asks_closed mute).1
        -- what the process that moved has claimed, and what it has heard
        have claimedBefore : ∀ {k : K} {other : Nat} {q : Proc σ}, other ≠ pid →
            s.procs[other]? = some q → Claimed claims q.known k →
            Claimed claims m.next.1.known k → Claimed claims p.known k := by
          rintro k other q different found claimedQ ⟨st, res, claim, known⟩
          rcases fires.learns known with old | ⟨_, isReply⟩ | ⟨_, isFailure⟩ |
            ⟨_, _, same, runs⟩ | ⟨_, _, _, _, isAnswer, _⟩
          · exact ⟨st, res, claim, old⟩
          · cases isReply
          · cases isFailure
          · injection same with isStmt isRes
            subst isStmt
            cases isRes
            exact absurd claimedQ (exclusive run meets runs claim other q different found)
          · cases isAnswer
        have heardBefore : ∀ {x : σ.Ext} {a : σ.Ans}, acts x → .answered x a ∈ m.next.1.log →
            p.Mute acts → .answered x a ∈ p.log := by
          intro x a act heard mute
          rcases fires.learns (List.mem_append_left _ heard) with old | ⟨_, isReply⟩ |
            ⟨_, isFailure⟩ | ⟨_, _, isRan, _⟩ | ⟨_, _, _, _, isAnswer, head⟩
          · rcases List.mem_append.mp old with inLog | inRecord
            · exact inLog
            · obtain ⟨_, _, isRan⟩ := run.record_ran p member _ inRecord
              cases isRan
          · cases isReply
          · cases isFailure
          · cases isRan
          · injection isAnswer with isCall _
            subst isCall
            exact absurd act (mute.uncalled head)
        have moved : ∀ {k : K} {other : Nat} {q : Proc σ}, other ≠ pid →
            s.procs[other]? = some q → Claimed claims q.known k →
            Claimed claims m.next.1.known k → Kin acts m.next.1 q ∧ Kin acts q m.next.1 := by
          intro k other q different found claimedQ claimed
          have before := claimedBefore different found claimedQ claimed
          have kin := inductionHypothesis pid other p q k different.symm proc found before claimedQ
          have kin' := inductionHypothesis other pid q p k different found proc claimedQ before
          refine ⟨⟨kin.oneMute.imp_left staysMute, fun x a act heard => ?_⟩,
            ⟨kin'.oneMute.imp_right staysMute, fun x a act heard => ?_⟩⟩
          · exact (kin.heard x a act heard).imp staysMute fun old =>
              List.IsPrefix.subset fires.longer old
          · rcases kin'.oneMute with mute | mute
            · exact Or.inl mute
            · exact kin'.heard x a act (heardBefore act heard mute)
        have childMute : ∀ kid ∈ m.next.2, (Proc.child m.next.1.log kid).Mute acts :=
          fun kid isKid waiting isFirst => List.mem_singleton.mp isFirst ▸ kids kid isKid
        have parentClaimed : ∀ {k : K} {kid : Prog σ},
            Claimed claims (Proc.child m.next.1.log kid).known k →
            Claimed claims m.next.1.known k := by
          rintro k kid ⟨st, res, claim, known⟩
          simp only [Proc.known, Proc.child, Slot.record_none, List.append_nil] at known
          exact ⟨st, res, claim, List.mem_append_left _ known⟩
        intro i j q r k different foundQ foundR claimedQ claimedR
        rcases place_after foundQ with ⟨rfl, rfl⟩ | ⟨kid, isKid, rfl⟩ | ⟨otherQ, oldQ⟩
        · rcases place_after foundR with ⟨same, _⟩ | ⟨kid, isKid, rfl⟩ | ⟨otherR, oldR⟩
          · exact absurd same.symm different
          · exact ⟨Or.inr (childMute kid isKid), fun _ _ _ heard => Or.inr heard⟩
          · exact (moved otherR oldR claimedR claimedQ).1
        · exact Kin.of_mute (childMute kid isKid)
        · rcases place_after foundR with ⟨rfl, rfl⟩ | ⟨kid, isKid, rfl⟩ | ⟨otherR, oldR⟩
          · exact (moved otherQ oldQ claimedQ claimedR).2
          · have kin := (moved otherQ oldQ claimedQ (parentClaimed claimedR)).2
            exact ⟨Or.inr (childMute kid isKid), kin.heard⟩
          · exact inductionHypothesis i j q r k different oldQ oldR claimedQ claimedR

/-- A process that is about to make such a call for a row it claimed is the only one
that will, and has itself heard every answer that was given to one. -/
theorem Run.sole (programs : ∀ request, (entry request).Solo acts)
    (exclusive : Exclusive entry ok db claims) (run : Run entry ok (Sys.initial db) events s)
    {i j : Nat} (different : i ≠ j) (found : s.procs[i]? = some p) (foundQ : s.procs[j]? = some q)
    {x : σ.Ext} {next : σ.Ans → Prog σ} {rest : List (Prog σ)}
    (head : p.queue = .call x next :: rest) (act : acts x) (claimed : Claimed claims p.known k)
    (claimedQ : Claimed claims q.known k) :
    q.Mute acts ∧ ∀ y a, acts y → .answered y a ∈ q.log → .answered y a ∈ p.log := by
  have kin := run.kin programs exclusive i j p q k different found foundQ claimed claimedQ
  have speaks : ¬ p.Mute acts := fun mute => mute.uncalled head act
  exact ⟨kin.oneMute.resolve_left speaks,
    fun y a actY heard => (kin.heard y a actY heard).resolve_left speaks⟩

end Runs
end Kin
end DrogonPay.ReadCommitted
