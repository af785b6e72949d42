import DrogonPay.ReadCommitted.Fires
import DrogonPay.ReadCommitted.Records

/-!
Contract: what a program has seen when it reports.

Owns:
- `Sight`, what a program has seen so far, with what it saw on a transaction
  that was rolled back since;
- `Prog.Answers`, "every report is justified by what was seen before it", by
  recursion on the program;
- `Run.reports`, the justification of a report at the step that makes it, and
  `Run.replies`, of every report a log holds.

Does not own: what justifies a report.
-/

namespace DrogonPay.ReadCommitted

variable {σ : Sig}

/-- What a program has seen. `log` and `record` are known to be in the log and in
the open transaction of the process; `seen` is everything, and `now` what ran in
the step that goes on. -/
structure Sight (σ : Sig) where
  log : List (Entry σ)
  record : List (Entry σ)
  seen : List (Entry σ)
  now : List (Entry σ)

namespace Sight

def blank : Sight σ := ⟨[], [], [], []⟩

def pooled (v : Sight σ) (st : σ.Stmt) (res : σ.Res st) : Sight σ :=
  ⟨v.log ++ [.ran st res], v.record, v.seen ++ [.ran st res], [.ran st res]⟩

def within (v : Sight σ) (st : σ.Stmt) (res : σ.Res st) : Sight σ :=
  ⟨v.log, v.record ++ [.ran st res], v.seen ++ [.ran st res], [.ran st res]⟩

/-- Nothing ran in this step. -/
def quiet (v : Sight σ) : Sight σ := { v with now := [] }

/-- The transaction is gone. -/
def closed (v : Sight σ) : Sight σ := ⟨v.log, [], v.seen, []⟩

/-- The transaction is given up in a step that may have run a statement. -/
def rolledBack (v : Sight σ) : Sight σ := { v with record := [] }

def committed (v : Sight σ) : Sight σ := ⟨v.log ++ v.record, [], v.seen, []⟩

end Sight

/-- A program that opens no transaction, forked programs aside. -/
def Prog.Startless : Prog σ → Prop
  | .done => True
  | .sql _ _ k => ∀ res, (k res).Startless
  | .call _ k => ∀ a, (k a).Startless
  | .start _ => False
  | .commit k => ∀ done, (k done).Startless
  | .rollback next | .reply _ next | .fork _ next => next.Startless
  | .both first second => first.Startless ∧ second.Startless

/-- Every report of the program is justified by what was seen before it. Chains
that are submitted side by side share a transaction, so neither opens one. -/
def Prog.Answers (J : Sight σ → σ.Out → Prop) : Prog σ → Sight σ → Prop
  | .done, _ => True
  | .sql .db st k, v =>
      (∀ res, σ.Possible st res → (k (some res)).Answers J (v.pooled st res)) ∧
        (k none).Answers J v.quiet
  | .sql .txn st k, v =>
      (∀ res, σ.Possible st res → (k (some res)).Answers J (v.within st res)) ∧
        (k none).Answers J v.closed
  | .call _ k, v => ∀ a, (k a).Answers J v.quiet
  | .start k, v => ∀ done, (k done).Answers J v.closed
  | .commit k, v => (k true).Answers J v.committed ∧ (k false).Answers J v.closed
  | .rollback next, v => next.Answers J v.rolledBack
  | .reply out next, v => J v out ∧ next.Answers J v
  | .both first second, v =>
      (first.Startless ∧ second.Startless) ∧ first.Answers J v ∧ second.Answers J v
  | .fork child next, v => child.Answers J v.closed ∧ next.Answers J v

/-! ## A sight and the process it belongs to -/

/-- The process has what the sight says. -/
structure Sight.Fits (v : Sight σ) (slot : Slot σ) (log : List (Entry σ)) : Prop where
  log : ∀ entry ∈ v.log, entry ∈ log
  record : ∀ record, slot = .active record → ∀ entry ∈ v.record, entry ∈ record

/-- An open transaction was open before and has only grown. -/
def Slot.Extends (slot' slot : Slot σ) : Prop :=
  ∀ record', slot' = .active record' →
    ∃ record, slot = .active record ∧ ∀ entry ∈ record, entry ∈ record'

theorem Slot.Extends.refl (slot : Slot σ) : slot.Extends slot :=
  fun record active => ⟨record, active, fun _ member => member⟩

theorem Slot.Extends.of_closed {slot' slot : Slot σ} (idle : ∀ record, slot' ≠ .active record) :
    slot'.Extends slot :=
  fun record active => absurd active (idle record)

theorem Slot.rolledBack_ne_active {slot : Slot σ} (record : List (Entry σ)) :
    slot.rolledBack ≠ .active record := by
  cases slot <;> exact nofun

theorem Sight.Fits.mono {v : Sight σ} {slot slot' : Slot σ} {log log' : List (Entry σ)}
    (fits : v.Fits slot log) (grows : ∀ entry ∈ log, entry ∈ log')
    (extension : slot'.Extends slot) : v.Fits slot' log' := by
  refine ⟨fun entry member => grows entry (fits.log entry member), ?_⟩
  intro record' active entry member
  obtain ⟨record, wasActive, kept⟩ := extension record' active
  exact kept entry (fits.record record wasActive entry member)

/-- A sight of no transaction fits whatever transaction is open. -/
theorem Sight.Fits.recordless {v : Sight σ} {slot : Slot σ} {log : List (Entry σ)}
    (known : ∀ entry ∈ v.log, entry ∈ log) (unopened : v.record = []) : v.Fits slot log := by
  refine ⟨known, fun record _ entry member => ?_⟩
  rw [unopened] at member
  cases member

section Reports

variable {J : Sight σ → σ.Out → Prop} {W : (st : σ.Stmt) → σ.Res st → Prop}

/-- What was seen is witnessed. -/
def Sight.Witnessed (W : (st : σ.Stmt) → σ.Res st → Prop) (v : Sight σ) : Prop :=
  ∀ st res, Entry.ran st res ∈ v.seen → W st res

/-- A submitted program, with what it has seen. -/
structure Waits (J : Sight σ → σ.Out → Prop) (W : (st : σ.Stmt) → σ.Res st → Prop)
    (slot : Slot σ) (log : List (Entry σ)) (program : Prog σ) (v : Sight σ) : Prop where
  answers : program.Answers J v
  fits : v.Fits slot log
  witnessed : v.Witnessed W
  quiet : v.now = []

/-- A report that is justified by something seen, of which `now` ran in this
step. -/
def Justified (J : Sight σ → σ.Out → Prop) (W : (st : σ.Stmt) → σ.Res st → Prop)
    (log now : List (Entry σ)) (out : σ.Out) : Prop :=
  ∃ v : Sight σ, J v out ∧ (∀ entry ∈ v.log, entry ∈ log) ∧ v.Witnessed W ∧ v.now = now

/-- The programs submitted side by side share the transaction they run on. -/
def Orderly (queue : List (Prog σ)) : Prop :=
  (∀ program ∈ queue, program.Startless) ∨ queue.length ≤ 1

/-- Everything the process has submitted reports what it can justify. -/
structure Attests (J : Sight σ → σ.Out → Prop) (W : (st : σ.Stmt) → σ.Res st → Prop)
    (p : Proc σ) : Prop where
  waiting : ∀ program ∈ p.queue, ∃ v, Waits J W p.slot p.log program v
  orderly : Orderly p.queue
  silent : ∀ out, Entry.replied out ∉ p.slot.record

theorem Waits.mono {slot slot' : Slot σ} {log log' : List (Entry σ)} {program : Prog σ}
    {v : Sight σ} (waits : Waits J W slot log program v)
    (grows : ∀ entry ∈ log, entry ∈ log') (extension : slot'.Extends slot) :
    Waits J W slot' log' program v :=
  ⟨waits.answers, waits.fits.mono grows extension, waits.witnessed, waits.quiet⟩

/-! ## The synchronous part of a callback -/

theorem advance_startless {program : Prog σ} (startless : program.Startless) {p : Proc σ}
    (queued : ∀ waiting ∈ p.queue, waiting.Startless) :
    ∀ waiting ∈ (p.advance program).1.queue, waiting.Startless := by
  have submitted : ∀ {last : Prog σ}, last.Startless →
      ∀ waiting ∈ p.queue ++ [last], waiting.Startless := by
    intro last isStartless waiting member
    rcases List.mem_append.mp member with old | new
    · exact queued waiting old
    · rw [List.mem_singleton.mp new]
      exact isStartless
  induction program generalizing p with
  | done => exact queued
  | rollback next inductionHypothesis => exact inductionHypothesis startless queued submitted
  | reply out next inductionHypothesis => exact inductionHypothesis startless queued submitted
  | fork child next _ inductionHypothesis => exact inductionHypothesis startless queued submitted
  | both first second firstHypothesis secondHypothesis =>
      have queuedFirst := firstHypothesis startless.1 queued submitted
      refine secondHypothesis startless.2 queuedFirst ?_
      intro last isStartless waiting member
      rcases List.mem_append.mp member with old | new
      · exact queuedFirst waiting old
      · rw [List.mem_singleton.mp new]
        exact isStartless
  | sql on st k _ => exact submitted startless
  | call x k _ => exact submitted startless
  | start k _ => exact submitted startless
  | commit k _ => exact submitted startless

/-- A callback of a process that has nothing else to do leaves the queue in
order. -/
theorem advance_orderly {program : Prog σ} {p : Proc σ} {v : Sight σ}
    (answers : program.Answers J v) (alone : p.queue = []) :
    Orderly (p.advance program).1.queue := by
  induction program generalizing p v with
  | done => exact Or.inr (by simp [Proc.advance, alone])
  | rollback next inductionHypothesis => exact inductionHypothesis answers alone
  | reply out next inductionHypothesis => exact inductionHypothesis answers.2 alone
  | fork child next _ inductionHypothesis => exact inductionHypothesis answers.2 alone
  | both first second _ _ =>
      refine Or.inl (advance_startless (show (Prog.both first second).Startless from answers.1) ?_)
      simp [alone]
  | _ => exact Or.inr (by simp [Proc.advance, alone])

/-- A program that is submitted waits with what was seen. -/
theorem waits_submitted {slot : Slot σ} {log : List (Entry σ)} {queue : List (Prog σ)}
    {last : Prog σ} {v : Sight σ} (answers : last.Answers J v.quiet) (fits : v.Fits slot log)
    (witnessed : v.Witnessed W) (waiting : ∀ other ∈ queue, ∃ v, Waits J W slot log other v) :
    ∀ other ∈ queue ++ [last], ∃ v, Waits J W slot log other v := by
  intro other member
  rcases List.mem_append.mp member with old | new
  · exact waiting other old
  · rw [List.mem_singleton.mp new]
    exact ⟨v.quiet, answers, ⟨fits.log, fits.record⟩, witnessed, rfl⟩

/-- What a callback submits, forks and reports, it can justify. -/
theorem advance_attests {program : Prog σ} {p : Proc σ} {v : Sight σ}
    (answers : program.Answers J v) (fits : v.Fits p.slot p.log) (witnessed : v.Witnessed W)
    (waiting : ∀ other ∈ p.queue, ∃ v, Waits J W p.slot p.log other v) :
    (∀ other ∈ (p.advance program).1.queue,
      ∃ v, Waits J W (p.advance program).1.slot (p.advance program).1.log other v) ∧
    (∀ kid ∈ (p.advance program).2, ∃ v, Waits J W .none (p.advance program).1.log kid v) ∧
    ∃ outs : List σ.Out, (p.advance program).1.log = p.log ++ outs.map Entry.replied ∧
      ∀ out ∈ outs, Justified J W (p.advance program).1.log v.now out := by
  have submitted : ∀ {last : Prog σ} {p : Proc σ} {v : Sight σ}, last.Answers J v.quiet →
      v.Fits p.slot p.log → v.Witnessed W →
      (∀ other ∈ p.queue, ∃ v, Waits J W p.slot p.log other v) →
      (∀ other ∈ p.queue ++ [last], ∃ v, Waits J W p.slot p.log other v) ∧
      (∀ kid ∈ ([] : List (Prog σ)), ∃ v, Waits J W .none p.log kid v) ∧
      ∃ outs : List σ.Out, p.log = p.log ++ outs.map Entry.replied ∧
        ∀ out ∈ outs, Justified J W p.log v.now out :=
    fun answers fits witnessed waiting =>
      ⟨waits_submitted answers fits witnessed waiting, by simp, [], by simp, by simp⟩
  induction program generalizing p v with
  | done => exact ⟨waiting, by simp [Proc.advance], [], by simp [Proc.advance], by simp⟩
  | rollback next inductionHypothesis =>
      refine inductionHypothesis (p := { p with slot := p.slot.rolledBack }) (v := v.rolledBack)
        answers ⟨fits.log, fun record active => ?_⟩ witnessed fun other member => ?_
      · exact absurd active (Slot.rolledBack_ne_active record)
      · obtain ⟨seen, waits⟩ := waiting other member
        exact ⟨seen, waits.mono (fun _ member => member)
          (Slot.Extends.of_closed Slot.rolledBack_ne_active)⟩
  | reply out next inductionHypothesis =>
      have grows : ∀ entry ∈ p.log, entry ∈ p.log ++ [.replied out] :=
        fun entry member => List.mem_append_left _ member
      obtain ⟨queued, forked, outs, isLog, justified⟩ := inductionHypothesis
        (p := { p with log := p.log ++ [.replied out] }) answers.2
        (fits.mono grows (Slot.Extends.refl _)) witnessed fun other member => by
          obtain ⟨seen, waits⟩ := waiting other member
          exact ⟨seen, waits.mono grows (Slot.Extends.refl _)⟩
      refine ⟨queued, forked, out :: outs, ?_, ?_⟩
      · simpa [Proc.advance] using isLog
      · intro reported member
        rcases List.mem_cons.mp member with rfl | later
        · refine ⟨v, answers.1, fun entry member => ?_, witnessed, rfl⟩
          simp only [Proc.advance, isLog]
          exact List.mem_append_left _ (grows entry (fits.log entry member))
        · exact justified reported later
  | both first second firstHypothesis secondHypothesis =>
      obtain ⟨_, firstAnswers, secondAnswers⟩ := answers
      obtain ⟨queued, forked, outs, isLog, justified⟩ :=
        firstHypothesis firstAnswers fits witnessed waiting
      have grows : ∀ entry ∈ p.log, entry ∈ (p.advance first).1.log := by
        rw [isLog]
        exact fun entry member => List.mem_append_left _ member
      have extension : (p.advance first).1.slot.Extends p.slot := by
        rcases Proc.advance_slot p first with kept | dropped
        · rw [kept]
          exact Slot.Extends.refl _
        · rw [dropped]
          exact Slot.Extends.of_closed Slot.rolledBack_ne_active
      obtain ⟨queued', forked', outs', isLog', justified'⟩ :=
        secondHypothesis secondAnswers (fits.mono grows extension) witnessed queued
      have growsOn : ∀ entry ∈ (p.advance first).1.log,
          entry ∈ ((p.advance first).1.advance second).1.log := by
        rw [isLog']
        exact fun entry member => List.mem_append_left _ member
      refine ⟨queued', ?_, outs ++ outs', ?_, ?_⟩
      · intro kid member
        rcases List.mem_append.mp member with early | late
        · obtain ⟨seen, waits⟩ := forked kid early
          exact ⟨seen, waits.mono growsOn (Slot.Extends.refl _)⟩
        · exact forked' kid late
      · simp only [Proc.advance, isLog', isLog, List.map_append, List.append_assoc]
      · intro out member
        rcases List.mem_append.mp member with early | late
        · obtain ⟨seen, holds, known, isWitnessed, isNow⟩ := justified out early
          exact ⟨seen, holds, fun entry member => growsOn entry (known entry member),
            isWitnessed, isNow⟩
        · exact justified' out late
  | fork child next _ inductionHypothesis =>
      obtain ⟨queued, forked, outs, isLog, justified⟩ :=
        inductionHypothesis answers.2 fits witnessed waiting
      refine ⟨queued, fun kid member => ?_, outs, isLog, justified⟩
      rcases List.mem_cons.mp member with rfl | later
      · refine ⟨v.closed, answers.1, ⟨fun entry member => ?_, by rintro _ ⟨⟩⟩, witnessed, rfl⟩
        simp only [Proc.advance, isLog]
        exact List.mem_append_left _ (fits.log entry member)
      · exact forked kid later
  | sql on st k _ =>
      cases on with
      | db => exact submitted answers fits witnessed waiting
      | txn => exact submitted answers fits witnessed waiting
  | call x k _ => exact submitted answers fits witnessed waiting
  | start k _ => exact submitted answers fits witnessed waiting
  | commit k _ => exact submitted answers fits witnessed waiting

/-! ## One process at a time -/

/-- The process, its forks and what it has reported since `log`, where `now` ran
in this step. -/
structure AttestsAll (J : Sight σ → σ.Out → Prop) (W : (st : σ.Stmt) → σ.Res st → Prop)
    (log now : List (Entry σ)) (q : Proc σ × List (Prog σ)) : Prop where
  here : Attests J W q.1
  forked : ∀ kid ∈ q.2, Attests J W (Proc.child q.1.log kid)
  reports : ∃ extra, q.1.log = log ++ extra ∧
    ∀ out, Entry.replied out ∈ extra → Justified J W q.1.log now out

theorem Attests.of_waits {log : List (Entry σ)} {program : Prog σ} {v : Sight σ}
    (waits : Waits J W .none log program v) : Attests J W (Proc.child log program) := by
  refine ⟨fun other member => ?_, Or.inr (by simp [Proc.child]), by simp [Proc.child]⟩
  rw [List.mem_singleton.mp member]
  exact ⟨v, waits⟩

/-- A process goes on with the continuation of the program it has popped. The
log has grown by `base`, in which nothing is reported. -/
theorem Attests.continues {p q : Proc σ} {program next : Prog σ} {v : Sight σ}
    {b : List (Entry σ)} (attests : Attests J W p) (head : p.queue = program :: q.queue)
    (startless : program.Startless → next.Startless) (answers : next.Answers J v)
    (fits : v.Fits q.slot q.log) (witnessed : v.Witnessed W) (isLog : q.log = p.log ++ b)
    (quiet : ∀ out, Entry.replied out ∉ b) (silent : ∀ out, Entry.replied out ∉ q.slot.record)
    (extension : q.slot.Extends p.slot ∨ ¬ program.Startless) :
    AttestsAll J W p.log v.now (q.advance next) := by
  have alone : ¬ program.Startless → q.queue = [] := by
    intro starts
    rcases attests.orderly with every | short
    · exact absurd (every program (by simp [head])) starts
    · rw [head, List.length_cons] at short
      exact List.length_eq_zero_iff.mp (by omega)
  have waiting : ∀ other ∈ q.queue, ∃ v, Waits J W q.slot q.log other v := by
    intro other member
    rcases extension with extension | starts
    · obtain ⟨seen, waits⟩ := attests.waiting other (by simp [head, member])
      refine ⟨seen, waits.mono (fun entry known => ?_) extension⟩
      rw [isLog]
      exact List.mem_append_left _ known
    · rw [alone starts] at member
      cases member
  obtain ⟨queued, forked, outs, logAfter, justified⟩ :=
    advance_attests answers fits witnessed waiting
  refine ⟨⟨queued, ?_, ?_⟩, fun kid member => ?_, b ++ outs.map Entry.replied, ?_, ?_⟩
  · rcases attests.orderly with every | short
    · refine Or.inl (advance_startless (startless (every program (by simp [head]))) ?_)
      exact fun other member => every other (by simp [head, member])
    · rw [head, List.length_cons] at short
      exact advance_orderly answers (List.length_eq_zero_iff.mp (by omega))
  · intro out
    rcases Proc.advance_slot q next with kept | dropped
    · rw [kept]
      exact silent out
    · simp [dropped]
  · obtain ⟨seen, waits⟩ := forked kid member
    exact Attests.of_waits waits
  · rw [logAfter, isLog, List.append_assoc]
  · intro out member
    rcases List.mem_append.mp member with early | late
    · exact absurd early (quiet out)
    · obtain ⟨reported, isOut, same⟩ := List.mem_map.mp late
      cases same
      exact justified out isOut

/-- A callback goes on that has lost its transaction in this step. -/
theorem Attests.aborted {p : Proc σ} {program next : Prog σ} {rest : List (Prog σ)} {v : Sight σ}
    (attests : Attests J W p) (head : p.queue = program :: rest) (cause : Failure)
    (waits : Waits J W p.slot p.log program v) (startless : program.Startless → next.Startless)
    (answers : next.Answers J v.closed) :
    AttestsAll J W p.log [] (Proc.advance { p.abort cause with queue := rest } next) := by
  have known : ∀ entry ∈ v.closed.log, entry ∈ (p.abort cause).log :=
    fun entry member => List.mem_append_left _ (waits.fits.log entry member)
  have silent : ∀ out, Entry.replied out ∉ (p.abort cause).slot.record := by simp [Proc.abort]
  exact attests.continues (v := v.closed) (q := { p.abort cause with queue := rest }) head startless
    answers (Sight.Fits.recordless known rfl) waits.witnessed rfl (by simp) silent
    (Or.inl (Slot.Extends.of_closed (by rintro _ ⟨⟩)))

/-- A callback goes on that found no transaction. -/
theorem Attests.untouched {p : Proc σ} {program next : Prog σ} {rest : List (Prog σ)} {v : Sight σ}
    (attests : Attests J W p) (head : p.queue = program :: rest)
    (waits : Waits J W p.slot p.log program v) (startless : program.Startless → next.Startless)
    (answers : next.Answers J v.closed) :
    AttestsAll J W p.log [] (Proc.advance { p with queue := rest } next) :=
  attests.continues (v := v.closed) (q := { p with queue := rest }) (b := []) head startless answers
    (Sight.Fits.recordless waits.fits.log rfl) waits.witnessed (by simp) (by simp) attests.silent
    (Or.inl (Slot.Extends.refl _))

end Reports

variable {S : Store σ}

/-- The entry is a statement that ran in this step. -/
def Sys.RunsNow (s : Sys S) (event : Event S) (pid : Nat) (p : Proc σ) (st : σ.Stmt)
    (res : σ.Res st) : Prop :=
  s.RunsOnDb event pid p st res ∨ ∃ record, s.RunsOnTxn event pid p record st res

/-- A move only adds to the log of its process. -/
theorem Sys.Fires.longer {s : Sys S} {event : Event S} {pid : Nat} {p : Proc σ} {m : Move S}
    (fires : s.Fires event pid p m) : p.log <+: m.next.1.log := by
  have advanced : ∀ (q : Proc σ) (program : Prog σ), p.log <+: q.log →
      p.log <+: (q.advance program).1.log := by
    intro q program longer
    obtain ⟨outs, isLog⟩ := Proc.advance_log q program
    rw [isLog]
    exact longer.trans (List.prefix_append _ _)
  cases fires with
  | ended _ _ => exact List.prefix_append _ _
  | lost _ _ => exact List.prefix_append _ _
  | crashed => exact List.prefix_append _ _
  | gone _ _ => exact advanced _ _ (List.prefix_refl _)
  | opened _ => exact advanced _ _ (List.prefix_refl _)
  | nothingToCommit _ _ => exact advanced _ _ (List.prefix_refl _)
  | callback _ => exact advanced _ _ (List.prefix_refl _)
  | onTxn _ _ => exact advanced _ _ (List.prefix_refl _)
  | _ => exact advanced _ _ (List.prefix_append _ _)

/-- A move of a process keeps its reports justified. -/
theorem Sys.Fires.attests {J : Sight σ → σ.Out → Prop} {W : (st : σ.Stmt) → σ.Res st → Prop}
    {s : Sys S} {event : Event S} {pid : Nat} {p : Proc σ} {m : Move S}
    (fires : s.Fires event pid p m) (attests : Attests J W p)
    (witness : ∀ st res, s.RunsNow event pid p st res → W st res) :
    ∃ now, AttestsAll J W p.log now m.next ∧
      ∀ st res, Entry.ran st res ∈ now → s.RunsNow event pid p st res := by
  have popped : ∀ {program : Prog σ} {rest : List (Prog σ)}, p.queue = program :: rest →
      ∃ v, Waits J W p.slot p.log program v :=
    fun head => attests.waiting _ (by simp [head])
  have extended : ∀ {v : Sight σ} {st : σ.Stmt} {res : σ.Res st}, v.Witnessed W →
      s.RunsNow event pid p st res → ∀ st' res',
      Entry.ran st' res' ∈ v.seen ++ [.ran st res] → W st' res' := by
    intro v st res witnessed runs st' res' member
    rcases List.mem_append.mp member with old | new
    · exact witnessed st' res' old
    · cases List.mem_singleton.mp new
      exact witness _ _ runs
  have grown : ∀ {known base : List (Entry σ)}, (∀ entry ∈ known, entry ∈ p.log) →
      ∀ entry ∈ known, entry ∈ p.log ++ base :=
    fun known entry member => List.mem_append_left _ (known entry member)
  cases fires with
  | @onDb st res k rest runs head =>
      obtain ⟨v, waits⟩ := popped head
      obtain ⟨env, _, result⟩ := runs.result
      refine ⟨[.ran st res], attests.continues (v := v.pooled st res) (q := p.ranOnDb rest st res)
        head (fun startless => startless _) (waits.answers.1 res (S.run_possible result))
        ⟨?_, waits.fits.record⟩
        (extended waits.witnessed (Or.inl runs)) rfl (by simp) attests.silent
        (Or.inl (Slot.Extends.refl _)), ?_⟩
      · intro entry member
        rcases List.mem_append.mp member with old | new
        · exact grown waits.fits.log entry old
        · exact List.mem_append_right _ new
      · intro st' res' member
        cases List.mem_singleton.mp member
        exact Or.inl runs
  | @failedOnDb st k rest cause head =>
      obtain ⟨v, waits⟩ := popped head
      exact ⟨[], attests.continues (v := v.quiet) (q := p.failedOnDb rest cause) head
        (fun startless => startless _) waits.answers.2 ⟨grown waits.fits.log, waits.fits.record⟩
        waits.witnessed rfl (by simp) attests.silent (Or.inl (Slot.Extends.refl _)), by simp⟩
  | @onTxn record st res k rest runs head =>
      obtain ⟨v, waits⟩ := popped head
      obtain ⟨env, _, result⟩ := runs.result
      have silent := attests.silent
      rw [runs.slot] at silent
      refine ⟨[.ran st res], attests.continues (v := v.within st res)
        (q := p.ranOnTxn rest st res) (b := []) head (fun startless => startless _)
        (waits.answers.1 res (S.run_possible result)) ⟨waits.fits.log, ?_⟩
        (extended waits.witnessed (Or.inr ⟨record, runs⟩)) (by simp [Proc.ranOnTxn]) (by simp) ?_
        (Or.inl ?_), ?_⟩
      · intro record' active entry member
        cases active
        rw [runs.slot]
        rcases List.mem_append.mp member with old | new
        · exact List.mem_append_left _ (waits.fits.record record runs.slot entry old)
        · exact List.mem_append_right _ new
      · intro out
        simpa [Proc.ranOnTxn, runs.slot] using silent out
      · intro record' active
        cases active
        refine ⟨record, runs.slot, fun entry member => ?_⟩
        rw [runs.slot]
        exact List.mem_append_left _ member
      · intro st' res' member
        cases List.mem_singleton.mp member
        exact Or.inr ⟨record, runs⟩
  | @failedOnTxn record st k rest cause slot head =>
      obtain ⟨v, waits⟩ := popped head
      exact ⟨[], attests.aborted head cause waits (fun startless => startless _) waits.answers.2,
        by simp⟩
  | @gone st k rest slot head =>
      obtain ⟨v, waits⟩ := popped head
      exact ⟨[], attests.untouched head waits (fun startless => startless _) waits.answers.2, by simp⟩
  | @opened k rest head =>
      obtain ⟨v, waits⟩ := popped head
      exact ⟨[], attests.continues (v := v.closed)
        (q := { p with queue := rest, slot := .active [] }) (b := []) head
        (fun startless => absurd startless id) (waits.answers true)
        (Sight.Fits.recordless waits.fits.log rfl) waits.witnessed (by simp) (by simp) (by simp)
        (Or.inr id), by simp⟩
  | @unopened k rest head =>
      obtain ⟨v, waits⟩ := popped head
      exact ⟨[], attests.aborted head .outage waits (fun startless => absurd startless id)
        (waits.answers false), by simp⟩
  | @committed record k rest commits head =>
      obtain ⟨v, waits⟩ := popped head
      have silent := attests.silent
      refine ⟨[], attests.continues (v := v.committed)
        (q := { p.committed with queue := rest }) head
        (fun startless => startless _) waits.answers.1 (Sight.Fits.recordless ?_ rfl)
        waits.witnessed rfl silent (by simp [Proc.committed])
        (Or.inl (Slot.Extends.of_closed (by rintro _ ⟨⟩))), by simp⟩
      intro entry member
      rcases List.mem_append.mp member with old | new
      · exact grown waits.fits.log entry old
      · refine List.mem_append_right _ ?_
        rw [commits.slot]
        exact waits.fits.record record commits.slot entry new
  | @uncommitted record k rest slot head =>
      obtain ⟨v, waits⟩ := popped head
      exact ⟨[], attests.aborted head .outage waits (fun startless => startless _) waits.answers.2,
        by simp⟩
  | @nothingToCommit k rest slot head =>
      obtain ⟨v, waits⟩ := popped head
      exact ⟨[], attests.untouched head waits (fun startless => startless _) waits.answers.2, by simp⟩
  | @ended record commits head =>
      refine ⟨[], ⟨⟨?_, ?_, by simp [Proc.committed]⟩, by simp, p.slot.record, rfl, ?_⟩, by simp⟩
      · simp [Proc.committed, head]
      · exact Or.inr (by simp [Proc.committed, head])
      · exact fun out member => absurd member (attests.silent out)
  | @lost record slot head =>
      refine ⟨[], ⟨⟨?_, ?_, by simp [Proc.abort]⟩, by simp, [.failed .outage], rfl, by simp⟩, by simp⟩
      · simp [Proc.abort, head]
      · exact Or.inr (by simp [Proc.abort, head])
  | @answered x a k rest _ head =>
      obtain ⟨v, waits⟩ := popped head
      exact ⟨[], attests.continues (v := v.quiet)
        (q := { p with queue := rest, log := p.log ++ [.answered x a] }) head
        (fun startless => startless _) (waits.answers a) ⟨grown waits.fits.log, waits.fits.record⟩
        waits.witnessed rfl (by simp) attests.silent (Or.inl (Slot.Extends.refl _)), by simp⟩
  | @callback program rest head =>
      obtain ⟨v, waits⟩ := popped head
      refine ⟨v.now, attests.continues (q := { p with queue := rest }) (b := []) head id
        waits.answers waits.fits waits.witnessed (by simp) (by simp) attests.silent
        (Or.inl (Slot.Extends.refl _)), ?_⟩
      rw [waits.quiet]
      simp
  | crashed =>
      exact ⟨[], ⟨⟨by simp [Proc.crash], Or.inr (by simp [Proc.crash]), by simp [Proc.crash]⟩,
        by simp, [.failed .outage], rfl, by simp⟩, by simp⟩

/-! ## Runs -/

theorem Sight.Witnessed.mono {W W' : (st : σ.Stmt) → σ.Res st → Prop} {v : Sight σ}
    (witnessed : v.Witnessed W) (weakens : ∀ st res, W st res → W' st res) : v.Witnessed W' :=
  fun st res member => weakens st res (witnessed st res member)

theorem Attests.mono {J : Sight σ → σ.Out → Prop} {W W' : (st : σ.Stmt) → σ.Res st → Prop}
    {p : Proc σ} (attests : Attests J W p) (weakens : ∀ st res, W st res → W' st res) :
    Attests J W' p := by
  refine ⟨fun program member => ?_, attests.orderly, attests.silent⟩
  obtain ⟨v, waits⟩ := attests.waiting program member
  exact ⟨v, waits.answers, waits.fits, waits.witnessed.mono weakens, waits.quiet⟩

/-- The requests of kind `Q` report only what they can justify: their programs
do, if whatever runs for them is witnessed by the states committed so far. -/
structure Reporting (entry : σ.Req → Prog σ) (ok : Sys S → Event S → Prop) (db : S.Db)
    (Q : σ.Req → Prop) (J : σ.Req → Sight σ → σ.Out → Prop)
    (W : σ.Req → List S.Db → (st : σ.Stmt) → σ.Res st → Prop) : Prop where
  programs : ∀ request, Q request → (entry request).Answers (J request) Sight.blank
  stays : ∀ {request : σ.Req} {history : List S.Db} (now : S.Db) {st : σ.Stmt} {res : σ.Res st},
    W request history st res → W request (now :: history) st res
  witness : ∀ {events : List (Event S)} {s : Sys S} {event : Event S} {pid : Nat} {p : Proc σ}
    {request : σ.Req} {st : σ.Stmt} {res : σ.Res st},
    Run entry ok (Sys.initial db) events s → ok s event →
    p.log.head? = some (.spawned request) → Q request → s.RunsNow event pid p st res →
    W request s.history st res

section Runs

variable {entry : σ.Req → Prog σ} {ok : Sys S → Event S → Prop} {db : S.Db}
  {events : List (Event S)} {s : Sys S} {Q : σ.Req → Prop} {J : σ.Req → Sight σ → σ.Out → Prop}
  {W : σ.Req → List S.Db → (st : σ.Stmt) → σ.Res st → Prop}

theorem Run.attests (reporting : Reporting entry ok db Q J W)
    (run : Run entry ok (Sys.initial db) events s) :
    ∀ p ∈ s.procs, ∀ request, p.log.head? = some (.spawned request) → Q request →
      Attests (J request) (W request s.history) p := by
  induction run with
  | nil => simp [Sys.initial]
  | @snoc _ event s s' run meets stepped inductionHypothesis =>
      rcases Sys.step_fires stepped with ⟨request, _, rfl⟩ | ⟨pid, p, m, proc, fires, rfl⟩
      · intro p member request' head kind
        rcases List.mem_append.mp member with old | new
        · exact inductionHypothesis p old request' head kind
        · rw [List.mem_singleton.mp new] at head ⊢
          cases head
          have waits : Waits (J request) (W request s.history) .none [.spawned request]
              (entry request) Sight.blank :=
            ⟨reporting.programs request kind, ⟨by rintro _ ⟨⟩, by rintro _ ⟨⟩⟩, by rintro _ _ ⟨⟩, rfl⟩
          exact Attests.of_waits waits
      · have before := List.mem_of_getElem? proc
        obtain ⟨owner, head⟩ := run.owned p before
        have now : Q owner → ∃ now, AttestsAll (J owner) (W owner s.history) p.log now m.next ∧
            ∀ st res, Entry.ran st res ∈ now → s.RunsNow event pid p st res :=
          fun kind => fires.attests (inductionHypothesis p before owner head kind)
            fun st res runs => reporting.witness run meets head kind runs
        have same : ∀ {request}, m.next.1.log.head? = some (.spawned request) →
            request = owner := by
          intro request head'
          rw [head_of_longer head fires.longer] at head'
          cases head'
          rfl
        intro r member request head' kind
        rcases Sys.mem_procs_after member with rfl | ⟨kid, mem, rfl⟩ | ⟨other, _, found⟩
        · obtain rfl := same head'
          obtain ⟨_, all, _⟩ := now kind
          exact all.here.mono fun _ _ => reporting.stays _
        · obtain rfl := same head'
          obtain ⟨_, all, _⟩ := now kind
          exact (all.forked kid mem).mono fun _ _ => reporting.stays _
        · exact (inductionHypothesis r (List.mem_of_getElem? found) request head' kind).mono
            fun _ _ => reporting.stays _

/-- What a process reports in a step, with what ran in that step. -/
theorem Run.reports (reporting : Reporting entry ok db Q J W)
    (run : Run entry ok (Sys.initial db) events s) {event : Event S} {s' : Sys S}
    (meets : ok s event) (stepped : s.step entry event = some s') {pid : Nat} {p p' : Proc σ}
    (proc : s.procs[pid]? = some p) (proc' : s'.procs[pid]? = some p') {request : σ.Req}
    (head : p.log.head? = some (.spawned request)) (kind : Q request) :
    ∃ extra, p'.log = p.log ++ extra ∧ ∀ out, Entry.replied out ∈ extra →
      ∃ v : Sight σ, J request v out ∧ (∀ entry ∈ v.log, entry ∈ p'.log) ∧
        v.Witnessed (W request s.history) ∧
        ∀ st res, Entry.ran st res ∈ v.now → s.RunsNow event pid p st res := by
  have unmoved : p' = p → ∃ extra, p'.log = p.log ++ extra ∧ ∀ out, Entry.replied out ∈ extra →
      ∃ v : Sight σ, J request v out ∧ (∀ entry ∈ v.log, entry ∈ p'.log) ∧
        v.Witnessed (W request s.history) ∧
        ∀ st res, Entry.ran st res ∈ v.now → s.RunsNow event pid p st res := by
    rintro rfl
    exact ⟨[], by simp, by simp⟩
  have inside : pid < s.procs.length := (List.getElem?_eq_some_iff.mp proc).1
  rcases Sys.step_fires stepped with ⟨_, _, rfl⟩ | ⟨moved, q, m, movedProc, fires, rfl⟩
  · rw [List.getElem?_append_left inside, proc] at proc'
    exact unmoved (Option.some.inj proc').symm
  · simp only [Sys.after] at proc'
    rw [List.getElem?_append_left (by simpa using inside), List.getElem?_set] at proc'
    split at proc'
    · rename_i isPid
      subst isPid
      obtain rfl : q = p := Option.some.inj (movedProc.symm.trans proc)
      rw [if_pos inside] at proc'
      cases proc'
      obtain ⟨now, all, ran⟩ := fires.attests
        (run.attests reporting q (List.mem_of_getElem? proc) request head kind)
        fun st res runs => reporting.witness run meets head kind runs
      obtain ⟨extra, isLog, justified⟩ := all.reports
      refine ⟨extra, isLog, fun out member => ?_⟩
      obtain ⟨v, holds, known, witnessed, isNow⟩ := justified out member
      exact ⟨v, holds, known, witnessed, isNow ▸ ran⟩
    · rw [proc] at proc'
      exact unmoved (Option.some.inj proc').symm

/-- Every report in a log is justified by something its program has seen. -/
theorem Run.replies (reporting : Reporting entry ok db Q J W)
    (run : Run entry ok (Sys.initial db) events s) :
    ∀ p ∈ s.procs, ∀ request, p.log.head? = some (.spawned request) → Q request →
      ∀ out, Entry.replied out ∈ p.log → ∃ v : Sight σ, J request v out ∧
        (∀ entry ∈ v.log, entry ∈ p.log) ∧ v.Witnessed (W request s.history) := by
  induction run with
  | nil => simp [Sys.initial]
  | @snoc _ event s s' run meets stepped inductionHypothesis =>
      rcases Sys.step_fires stepped with ⟨request, _, rfl⟩ | ⟨pid, p, m, proc, fires, rfl⟩
      · intro p member request' head kind out replied
        rcases List.mem_append.mp member with old | new
        · exact inductionHypothesis p old request' head kind out replied
        · rw [List.mem_singleton.mp new] at replied
          simp [Proc.spawn] at replied
      · have before := List.mem_of_getElem? proc
        obtain ⟨owner, head⟩ := run.owned p before
        have moved : Q owner → ∀ out, Entry.replied out ∈ m.next.1.log →
            ∃ v : Sight σ, J owner v out ∧ (∀ entry ∈ v.log, entry ∈ m.next.1.log) ∧
              v.Witnessed (W owner (s.after pid m).history) := by
          intro kind out replied
          obtain ⟨_, all, _⟩ := fires.attests (run.attests reporting p before owner head kind)
            fun st res runs => reporting.witness run meets head kind runs
          obtain ⟨extra, isLog, justified⟩ := all.reports
          rw [isLog] at replied
          rcases List.mem_append.mp replied with old | new
          · obtain ⟨v, holds, known, witnessed⟩ :=
              inductionHypothesis p before owner head kind out old
            refine ⟨v, holds, fun entry member => ?_, witnessed.mono fun _ _ => reporting.stays _⟩
            rw [isLog]
            exact List.mem_append_left _ (known entry member)
          · obtain ⟨v, holds, known, witnessed, _⟩ := justified out new
            exact ⟨v, holds, known, witnessed.mono fun _ _ => reporting.stays _⟩
        have same : ∀ {request}, m.next.1.log.head? = some (.spawned request) →
            request = owner := by
          intro request head'
          rw [head_of_longer head fires.longer] at head'
          cases head'
          rfl
        intro r member request head' kind out replied
        rcases Sys.mem_procs_after member with rfl | ⟨kid, mem, rfl⟩ | ⟨other, _, found⟩
        · obtain rfl := same head'
          exact moved kind out replied
        · obtain rfl := same head'
          exact moved kind out replied
        · obtain ⟨v, holds, known, witnessed⟩ :=
            inductionHypothesis r (List.mem_of_getElem? found) request head' kind out replied
          exact ⟨v, holds, known, witnessed.mono fun _ _ => reporting.stays _⟩

end Runs

end DrogonPay.ReadCommitted
