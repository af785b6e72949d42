import DrogonPay.ReadCommitted.Column

/-!
Contract: what the records and logs of a run say about the processes that hold
them.

Owns:
- `Run.owned` and `Run.verified_of`, by which the requests of one kind may keep a
  contract of their own;
- `Run.forkless_of` and `Run.alone`, by which a request with a tag of its own is
  served by one process;
- `Run.witnessed`, by which what was true when a statement ran on a transaction
  is known of every record that holds it;
- `Run.pinned` and `Run.since_locked`, by which a row that a transaction has locked
  stays as the transaction left it.

Does not own: any statement.
-/

namespace DrogonPay.ReadCommitted

variable {σ : Sig} {S : Store σ} {entry : σ.Req → Prog σ} {ok : Sys S → Event S → Prop}
  {C : Contract σ} {db : S.Db} {events : List (Event S)} {s : Sys S}

/-! ## Owners -/

/-- An action only adds to the log of its process. -/
theorem Sys.Acts.longer {event : Event S} {pid : Nat} {p : Proc σ} {slot : Slot σ}
    {log : List (Entry σ)} {commits : List S.Write} (acts : s.Acts event pid p slot log commits) :
    p.log <+: log := by
  cases acts with
  | calm calm =>
      obtain ⟨_, extra, rfl, _⟩ := calm
      exact List.prefix_append _ _
  | onDb _ => exact List.prefix_append _ _
  | onTxn _ => exact List.prefix_rfl
  | commit _ => exact List.prefix_append _ _

/-- A move only adds to the log of its process. -/
theorem Sys.Moves.longer {event : Event S} {pid : Nat} {p : Proc σ} {slot : Slot σ}
    {log : List (Entry σ)} {m : Move S} (moves : s.Moves event pid p slot log m) :
    p.log <+: m.next.1.log := by
  obtain ⟨_, extra, isLog, _⟩ := moves.settles
  rw [isLog]
  exact moves.acts.longer.trans (List.prefix_append _ _)

theorem head_of_longer {log log' : List (Entry σ)} {first : Entry σ}
    (head : log.head? = some first) (longer : log <+: log') : log'.head? = some first := by
  obtain ⟨rest, rfl⟩ := longer
  rw [List.head?_append, head]
  rfl

/-- Every process serves a request. -/
theorem Run.owned (run : Run entry ok (Sys.initial db) events s) :
    ∀ p ∈ s.procs, ∃ request, p.log.head? = some (.spawned request) := by
  induction run with
  | nil => simp [Sys.initial]
  | snoc _ _ stepped inductionHypothesis =>
      rcases Sys.step_cases stepped with ⟨request, _, rfl⟩ | ⟨pid, p, slot, log, m, moves, rfl⟩
      · intro p member
        rcases List.mem_append.mp member with old | new
        · exact inductionHypothesis p old
        · rw [List.mem_singleton.mp new]
          exact ⟨request, rfl⟩
      · obtain ⟨request, head⟩ := inductionHypothesis p (List.mem_of_getElem? moves.proc)
        intro r member
        rcases Sys.mem_procs_after member with rfl | ⟨kid, _, rfl⟩ | ⟨other, _, found⟩
        · exact ⟨request, head_of_longer head moves.longer⟩
        · exact ⟨request, head_of_longer head moves.longer⟩
        · exact inductionHypothesis r (List.mem_of_getElem? found)

/-- A log begins with a request, and is never empty. -/
theorem Run.log_ne_nil (run : Run entry ok (Sys.initial db) events s) {p : Proc σ}
    (member : p ∈ s.procs) {log : List (Entry σ)} (longer : p.log <+: log) : log ≠ [] := by
  obtain ⟨request, head⟩ := run.owned p member
  have first := head_of_longer head longer
  intro empty
  rw [empty] at first
  cases first

/-- If the programs of the requests of one kind keep a contract, every process
that serves such a request does. -/
theorem Run.verified_of {Q : σ.Req → Prop} (run : Run entry ok (Sys.initial db) events s)
    (programs : ∀ request, Q request → Verified C (Proc.spawn request (entry request))) :
    ∀ p ∈ s.procs, ∀ request, p.log.head? = some (.spawned request) → Q request →
      Verified C p := by
  induction run with
  | nil => simp [Sys.initial]
  | snoc run _ stepped inductionHypothesis =>
      rcases Sys.step_cases stepped with ⟨request, _, rfl⟩ | ⟨pid, p, slot, log, m, moves, rfl⟩
      · intro p member request' head kind
        rcases List.mem_append.mp member with old | new
        · exact inductionHypothesis p old request' head kind
        · rw [List.mem_singleton.mp new] at head ⊢
          cases head
          exact programs request kind
      · have before := List.mem_of_getElem? moves.proc
        obtain ⟨owner, head⟩ := run.owned p before
        have now : Q owner → VerifiedAll C m.next := by
          intro kind
          rcases moves.next with next | crashed
          · exact (inductionHypothesis p before owner head kind).step next
          · rw [crashed]
            exact ⟨Verified.crash p, by simp⟩
        have same : ∀ {request}, m.next.1.log.head? = some (.spawned request) →
            Q request → Q owner := by
          intro request head' kind
          rw [head_of_longer head moves.longer] at head'
          cases head'
          exact kind
        intro r member request head' kind
        rcases Sys.mem_procs_after member with rfl | ⟨kid, mem, rfl⟩ | ⟨other, _, found⟩
        · exact (now (same head' kind)).1
        · exact (now (same head' kind)).2 kid mem
        · exact inductionHypothesis r (List.mem_of_getElem? found) request head' kind

/-! ## Requests that are served by one process -/

/-- If the programs of the requests of one kind fork nothing, the processes that
serve them never do. -/
theorem Run.forkless_of {Q : σ.Req → Prop} (run : Run entry ok (Sys.initial db) events s)
    (programs : ∀ request, Q request → (entry request).Forkless) :
    ∀ p ∈ s.procs, ∀ request, p.log.head? = some (.spawned request) → Q request →
      ∀ waiting ∈ p.queue, waiting.Forkless := by
  induction run with
  | nil => simp [Sys.initial]
  | snoc run _ stepped inductionHypothesis =>
      rcases Sys.step_cases stepped with ⟨request, _, rfl⟩ | ⟨pid, p, slot, log, m, moves, rfl⟩
      · intro p member request' head kind
        rcases List.mem_append.mp member with old | new
        · exact inductionHypothesis p old request' head kind
        · rw [List.mem_singleton.mp new] at head ⊢
          cases head
          simpa [Proc.spawn] using programs request kind
      · have before := List.mem_of_getElem? moves.proc
        obtain ⟨owner, head⟩ := run.owned p before
        have now : Q owner → m.next.2 = [] ∧ ∀ waiting ∈ m.next.1.queue, waiting.Forkless := by
          intro kind
          rcases moves.next with next | crashed
          · exact next_forkless next (inductionHypothesis p before owner head kind)
          · rw [crashed]
            exact ⟨rfl, by simp [Proc.crash]⟩
        have same : ∀ {request}, m.next.1.log.head? = some (.spawned request) →
            Q request → Q owner := by
          intro request head' kind
          rw [head_of_longer head moves.longer] at head'
          cases head'
          exact kind
        intro r member request head' kind
        rcases Sys.mem_procs_after member with rfl | ⟨kid, mem, rfl⟩ | ⟨other, _, found⟩
        · exact (now (same head' kind)).2
        · rw [(now (same head' kind)).1] at mem
          cases mem
        · exact inductionHypothesis r (List.mem_of_getElem? found) request head' kind

/-- The request a process serves bears this tag. -/
def Tagged {T : Type} (tag : σ.Req → Option T) (p : Proc σ) (t : T) : Prop :=
  ∃ request, p.log.head? = some (.spawned request) ∧ tag request = some t

/-- If tags are not given twice and a tagged request's program forks nothing, one
process bears a tag. -/
theorem Run.alone {T : Type} {tag : σ.Req → Option T}
    (run : Run entry ok (Sys.initial db) events s)
    (fresh : ∀ {s : Sys S} {request t}, ok s (.spawn request) → tag request = some t →
      ∀ p ∈ s.procs, ¬ Tagged tag p t)
    (programs : ∀ request, (tag request).isSome → (entry request).Forkless) :
    ∀ (i j : Nat) (p q : Proc σ) (t : T), s.procs[i]? = some p → s.procs[j]? = some q →
      Tagged tag p t → Tagged tag q t → i = j := by
  induction run with
  | nil => simp [Sys.initial]
  | @snoc _ event s s' run meets stepped inductionHypothesis =>
      rcases Sys.step_cases stepped with ⟨request, rfl, rfl⟩ | ⟨pid, p, slot, log, m, moves, rfl⟩
      · -- the new process against the old ones
        have place : ∀ {i : Nat} {p : Proc σ},
            (s.procs ++ [Proc.spawn request (entry request)])[i]? = some p →
            s.procs[i]? = some p ∨
              (i = s.procs.length ∧ p = Proc.spawn request (entry request)) := by
          intro i p found
          rw [List.getElem?_append] at found
          split at found
          · exact Or.inl found
          · obtain ⟨isLast, rfl⟩ := by
              simpa [List.getElem?_singleton] using found
            exact Or.inr ⟨by omega, rfl⟩
        have clash : ∀ {i : Nat} {p : Proc σ} {t : T}, s.procs[i]? = some p → Tagged tag p t →
            ¬ Tagged tag (Proc.spawn request (entry request)) t := by
          rintro i p t found tagged ⟨request', head, isTag⟩
          cases head
          exact fresh meets isTag p (List.mem_of_getElem? found) tagged
        intro i j p q t foundP foundQ taggedP taggedQ
        rcases place foundP with oldP | ⟨isLastP, rfl⟩ <;>
          rcases place foundQ with oldQ | ⟨isLastQ, rfl⟩
        · exact inductionHypothesis i j p q t oldP oldQ taggedP taggedQ
        · exact absurd taggedQ (clash oldP taggedP)
        · exact absurd taggedP (clash oldQ taggedQ)
        · rw [isLastP, isLastQ]
      · have before := List.mem_of_getElem? moves.proc
        obtain ⟨owner, head⟩ := run.owned p before
        have headNow := head_of_longer head moves.longer
        have carried : ∀ {t : T} {r : Proc σ}, r.log = m.next.1.log → Tagged tag r t →
            Tagged tag p t := by
          rintro t r isLog ⟨request, head', isTag⟩
          rw [isLog, headNow] at head'
          cases head'
          exact ⟨owner, head, isTag⟩
        -- where a tagged process stood before the move
        have place : ∀ {i : Nat} {r : Proc σ} {t : T}, (s.after pid m).procs[i]? = some r →
            Tagged tag r t → ∃ r', s.procs[i]? = some r' ∧ Tagged tag r' t := by
          intro i r t found tagged
          simp only [Sys.after] at found
          rw [List.getElem?_append] at found
          split at found
          · rw [List.getElem?_set] at found
            split at found
            · rename_i isPid
              split at found
              · cases found
                exact ⟨p, isPid ▸ moves.proc, carried rfl tagged⟩
              · cases found
            · exact ⟨r, found, tagged⟩
          · obtain ⟨kid, mem, rfl⟩ := List.mem_map.mp (List.mem_of_getElem? found)
            obtain ⟨request, head', isTag⟩ := carried rfl tagged
            have forkless := run.forkless_of (Q := fun request => (tag request).isSome) programs p
              before request head' (by simp [isTag])
            have none : m.next.2 = [] := by
              rcases moves.next with next | crashed
              · exact (next_forkless next forkless).1
              · rw [crashed]
            rw [none] at mem
            cases mem
        intro i j p' q' t foundP foundQ taggedP taggedQ
        obtain ⟨oldP, atP, wasP⟩ := place foundP taggedP
        obtain ⟨oldQ, atQ, wasQ⟩ := place foundQ taggedQ
        exact inductionHypothesis i j oldP oldQ t atP atQ wasP wasQ

/-! ## Records -/

/-- What holds whenever a statement runs on a transaction is known of every
entry of every open transaction, by the request its process serves. -/
theorem Run.witnessed {W : σ.Req → List (Entry σ) → (st : σ.Stmt) → σ.Res st → Prop}
    (each : ∀ {events : List (Event S)} {s : Sys S} {event : Event S} {pid : Nat} {p : Proc σ}
      {request : σ.Req} {record : List (Entry σ)} {st : σ.Stmt} {res : σ.Res st},
      Run entry ok (Sys.initial db) events s → ok s event →
      p.log.head? = some (.spawned request) → s.RunsOnTxn event pid p record st res →
      W request record st res)
    (run : Run entry ok (Sys.initial db) events s) :
    ∀ p ∈ s.procs, ∃ request, p.log.head? = some (.spawned request) ∧
      ∀ before st res after, p.slot.record = before ++ .ran st res :: after →
        W request before st res := by
  have nothing : ∀ {request : σ.Req} (earlier : List (Entry σ)) (st : σ.Stmt)
      (res : σ.Res st) (after : List (Entry σ)), [] = earlier ++ .ran st res :: after →
      W request earlier st res :=
    fun earlier st res after split => absurd split (by simp)
  induction run with
  | nil => simp [Sys.initial]
  | @snoc _ event s s' run meets stepped inductionHypothesis =>
      rcases Sys.step_cases stepped with ⟨request, _, rfl⟩ | ⟨pid, p, slot, log, m, moves, rfl⟩
      · intro p member
        rcases List.mem_append.mp member with old | new
        · exact inductionHypothesis p old
        · rw [List.mem_singleton.mp new]
          exact ⟨request, rfl, nothing⟩
      · obtain ⟨owner, head, before⟩ := inductionHypothesis p (List.mem_of_getElem? moves.proc)
        refine Sys.forall_after (P := fun slot log => ∃ request,
          log.head? = some (.spawned request) ∧ ∀ before st res after,
          slot.record = before ++ .ran st res :: after → W request before st res) moves ?_ ?_
          fun other r _ found => inductionHypothesis r (List.mem_of_getElem? found)
        · rintro slot log slot' log' ⟨kept | dropped, extra, rfl, _⟩ ⟨request, head, known⟩
          · rw [kept]
            exact ⟨request, head_of_longer head (List.prefix_append _ _), known⟩
          · rw [dropped]
            exact ⟨request, head_of_longer head (List.prefix_append _ _), nothing⟩
        · have acts := moves.acts
          generalize m.commits = commits at acts
          cases acts with
          | calm calm =>
              obtain ⟨kept | dropped, extra, rfl, _⟩ := calm
              · rw [kept]
                exact ⟨owner, head_of_longer head (List.prefix_append _ _), before⟩
              · rw [dropped]
                exact ⟨owner, head_of_longer head (List.prefix_append _ _), nothing⟩
          | onDb _ => exact ⟨owner, head_of_longer head (List.prefix_append _ _), before⟩
          | @onTxn record st res runs =>
              rw [runs.slot] at before
              refine ⟨owner, head, ?_⟩
              intro earlier st' res' after split
              rcases List.eq_nil_or_concat after with rfl | ⟨init, last, rfl⟩
              · obtain ⟨rfl, same⟩ := List.append_inj' split rfl
                injection same with sameEntry _
                injection sameEntry with sameStmt sameRes
                subst sameStmt
                cases sameRes
                exact each run meets head runs
              · rw [List.concat_eq_append] at split
                have joined : record ++ [.ran st res] =
                    (earlier ++ .ran st' res' :: init) ++ [last] := by
                  rw [Slot.record_active] at split
                  rw [split, List.append_assoc, List.cons_append]
                exact before earlier st' res' init (List.append_inj' joined rfl).1
          | commit _ => exact ⟨owner, head_of_longer head (List.prefix_append _ _), nothing⟩

/-! ## Rows under a lock -/

/-- What a transaction knows of the rows it has locked stays true, of the
committed values and of those it sees: whoever else commits, those rows are left
alone. -/
theorem Run.pinned {K α : Type} {col : Column S K α} {Pin : List (Entry σ) → K → α → α → Prop}
    (unlocked : ∀ record k a, col.lock k ∉ S.locks record → Pin record k a a)
    (extend : ∀ {s : Sys S} {event : Event S} {pid : Nat} {p : Proc σ} {record : List (Entry σ)}
      {st : σ.Stmt} {res : σ.Res st}, ok s event → s.RunsOnTxn event pid p record st res →
      ∀ k, Pin record k (col.read s.db k) (col.read (s.view record) k) →
        Pin (record ++ [.ran st res]) k (col.read s.db k)
          (col.read (S.applyAll (s.view record) (S.writes st res)) k))
    (run : Run entry ok (Sys.initial db) events s) :
    ∀ p ∈ s.procs, ∀ k,
      Pin p.slot.record k (col.read s.db k) (col.read (s.view p.slot.record) k) := by
  induction run with
  | nil => simp [Sys.initial]
  | @snoc _ event s s' run meets stepped inductionHypothesis =>
      rcases Sys.step_cases stepped with ⟨request, _, rfl⟩ | ⟨pid, p, slot, log, m, moves, rfl⟩
      · intro p member
        rcases List.mem_append.mp member with old | new
        · exact inductionHypothesis p old
        · rw [List.mem_singleton.mp new]
          exact fun k => unlocked _ k _ (by simp [Proc.spawn])
      · -- a commit apart from a transaction leaves what it pins
        have across : ∀ (ws : List S.Write) (record : List (Entry σ)),
            (∀ w ∈ ws, ∀ key ∈ S.keys w, key ∉ S.locks record) →
            (∀ k, Pin record k (col.read s.db k) (col.read (s.view record) k)) →
            ∀ k, Pin record k (col.read (S.applyAll s.db ws) k)
              (col.read (S.applyAll (S.applyAll s.db ws) (S.pending record)) k) := by
          intro ws record apart before k
          by_cases locked : col.lock k ∈ S.locks record
          · have same : col.read (S.applyAll s.db ws) k = col.read s.db k :=
              col.read_applyAll_unlocked fun w member isKey => apart w member _ isKey locked
            rw [col.read_applyAll _ (S.pending record), same, ← col.read_applyAll]
            exact before k
          · rw [col.read_pending_unlocked locked]
            exact unlocked record k _ locked
        have now := inductionHypothesis p (List.mem_of_getElem? moves.proc)
        have empty : ∀ k a, Pin [] k a a := fun k a => unlocked [] k a (by simp)
        refine Sys.forall_after (P := fun slot _ => ∀ k, Pin slot.record k
          (col.read (s.after pid m).db k) (col.read ((s.after pid m).view slot.record) k))
          moves ?_ ?_ ?_
        · rintro slot log slot' log' ⟨kept | dropped, _⟩ before k
          · rw [kept]
            exact before k
          · rw [dropped]
            exact empty k _
        · intro k
          have acts := moves.acts
          simp only [Sys.after, Sys.view]
          generalize m.commits = commits at acts
          cases acts with
          | calm calm =>
              rcases calm.1 with kept | dropped
              · rw [kept]
                exact now k
              · rw [dropped]
                exact empty k _
          | onDb runs => exact across _ _ runs.commits_apart now k
          | onTxn runs =>
              rw [runs.slot] at now
              simp only [Slot.record_active, Store.pending_append, Store.pending_ran,
                Store.applyAll_append, Store.applyAll_nil]
              exact extend meets runs k (now k)
          | commit _ => exact empty k _
        · intro other r different found
          exact across _ _ (moves.commits_apart run.locksApart different found)
            (inductionHypothesis r (List.mem_of_getElem? found))

/-- What was true of a row when a transaction came to lock it stays true of the
committed row. -/
theorem Run.since_locked {K α : Type} (col : Column S K α) (P : α → Prop) {k : K} {st : σ.Stmt}
    {res : σ.Res st} (locks : col.lock k ∈ S.needs st res)
    (ran : ∀ {s : Sys S} {event : Event S} {pid : Nat} {p : Proc σ} {record : List (Entry σ)},
      ok s event → s.RunsOnTxn event pid p record st res → P (col.read s.db k))
    (run : Run entry ok (Sys.initial db) events s) {p : Proc σ} (member : p ∈ s.procs)
    (saw : .ran st res ∈ p.slot.record) : P (col.read s.db k) := by
  let Pin (record : List (Entry σ)) (key : K) (committed _ : α) : Prop :=
    key = k → .ran st res ∈ record → P committed
  have pinned : ∀ p ∈ s.procs, ∀ key, Pin p.slot.record key (col.read s.db key)
      (col.read (s.view p.slot.record) key) := by
    refine run.pinned ?_ ?_
    · rintro record _ a unlocked rfl saw
      exact absurd (List.mem_flatMap.mpr ⟨_, saw, locks⟩) unlocked
    · rintro s event pid p record st' res' meets runs _ before rfl saw
      rcases List.mem_append.mp saw with old | new
      · exact before rfl old
      · cases List.mem_singleton.mp new
        exact ran meets runs
  exact pinned p member k rfl saw

end DrogonPay.ReadCommitted
