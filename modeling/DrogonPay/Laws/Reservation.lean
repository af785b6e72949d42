import DrogonPay.Laws.Settled
import DrogonPay.ReadCommitted.Fires

/-!
Contract: the idempotency service, for every way of using it.

Owns:
- `Use`, the requests that use the service: any other work, a check, and then
  `updateResult` and `clearReservation` as the check's answer allows;
- `standing`, where a request stands with the service, read off the results its
  statements had;
- `Promised`, what the service promises of every run of such requests, with the
  two readings of "a request that received Started".

Does not own: the reservations of the notification handlers, and rows that
expire.
-/

namespace DrogonPay.IdempotencyService

open ReadCommitted

/-! ## Requests that use the service -/

/-- Where a request stands with the service. -/
inductive Standing where
  | free
  /-- The key was taken; its row is about to be read. -/
  | asking (key requestHash : Bytes)
  | started (key requestHash : Bytes)
  /-- It has stored this response, or was given it. -/
  | stored (key requestHash : Bytes) (response : Json)

/-- A request whose reservation is given back. It still counts as one that
received Started where such a request may call `again`. -/
def Standing.cleared (again : Bool) (key requestHash : Bytes) : Standing :=
  if again then .started key requestHash else .free

/-- A request whose response is stored. -/
def Standing.saved (again : Bool) (key requestHash : Bytes) (response : Json) : Standing :=
  if again then .started key requestHash else .stored key requestHash response

/-- The requests. Besides its other work a request checks a key; when it is
answered Started it may store responses until one is stored, or give the key
back; when it is given a response it may store that one again, and clear. With
`again` a request that received Started goes on calling both functions however
often it likes. -/
inductive Use (cfg : Config) (again : Bool) : Standing → PayProg → Prop where
  | done {standing : Standing} : Use cfg again standing .done
  | work {standing : Standing} {on : Target} {st : Stmt} {k : Option st.Res → PayProg}
      (foreign : st.table ≠ some .idempotency) (next : ∀ res, Use cfg again standing (k res)) :
      Use cfg again standing (.sql on st k)
  | call {standing : Standing} {x : ChannelCall} {k : ChannelAnswer → PayProg}
      (next : ∀ a, Use cfg again standing (k a)) : Use cfg again standing (.call x k)
  | start {standing : Standing} {k : Bool → PayProg} (next : ∀ b, Use cfg again standing (k b)) :
      Use cfg again standing (.start k)
  | commit {standing : Standing} {k : Bool → PayProg} (next : ∀ b, Use cfg again standing (k b)) :
      Use cfg again standing (.commit k)
  | rollback {standing : Standing} {next : PayProg} (use : Use cfg again standing next) :
      Use cfg again standing (.rollback next)
  | reply {standing : Standing} {out : Reply} {next : PayProg}
      (use : Use cfg again standing next) : Use cfg again standing (.reply out next)
  | check {key requestHash : Bytes} {callback : CheckResult → PayProg} (keyed : key ≠ [])
      (onStarted : Use cfg again (.started key requestHash) (callback .Started))
      (onReplay : ∀ response, response.isNull = false →
        Use cfg again (.stored key requestHash response) (callback (.Replay response)))
      (onInProgress : Use cfg again .free (callback .InProgress))
      (onConflict : Use cfg again .free (callback .Conflict))
      (onError : Use cfg again .free (callback .Error)) :
      Use cfg again .free (checkAndSetStatus cfg key requestHash callback)
  | store {key requestHash : Bytes} {response : Json} {callback : Bool → PayProg}
      (onTrue : Use cfg again (.saved again key requestHash response) (callback true))
      (onFalse : Use cfg again (.started key requestHash) (callback false)) :
      Use cfg again (.started key requestHash) (updateResult key requestHash response callback)
  | storeAgain {key requestHash : Bytes} {response : Json} {callback : Bool → PayProg}
      (next : ∀ b, Use cfg again (.stored key requestHash response) (callback b)) :
      Use cfg again (.stored key requestHash response)
        (updateResult key requestHash response callback)
  | clear {key requestHash : Bytes} {callback : Bool → PayProg} (keyed : key ≠ [])
      (onTrue : Use cfg again (.cleared again key requestHash) (callback true))
      (onFalse : Use cfg again (.started key requestHash) (callback false)) :
      Use cfg again (.started key requestHash) (clearReservation key requestHash callback)
  | clearAgain {key requestHash : Bytes} {response : Json} {callback : Bool → PayProg}
      (keyed : key ≠ [])
      (next : ∀ b, Use cfg again (.stored key requestHash response) (callback b)) :
      Use cfg again (.stored key requestHash response)
        (clearReservation key requestHash callback)

/-- Requests that use the older form of the check. -/
theorem Use.checkAndSet {cfg : Config} {again : Bool} {key requestHash : Bytes}
    {callback : Bool → Json → PayProg} (keyed : key ≠ [])
    (onStarted : Use cfg again (.started key requestHash) (callback true .null))
    (onReplay : ∀ response, response.isNull = false →
      Use cfg again (.stored key requestHash response) (callback true response))
    (onRefused : Use cfg again .free (callback false .null)) :
    Use cfg again .free (checkAndSet cfg key requestHash callback) :=
  .check keyed onStarted onReplay onRefused onRefused onRefused

/-! ## Answers -/

/-- What the row of a taken key tells a request with this hash; `none` when
reading its snapshot throws. -/
def verdict (requestHash : Bytes) (row : IdempotencyRow) : Option CheckResult :=
  if row.requestHash = requestHash then
    match row.responseSnapshot with
    | none => some .InProgress
    | some snapshot =>
        (snapshot.at? (ascii "response")).map fun response =>
          if response.isNull then .InProgress else .Replay response
  else some .Conflict

theorem readReservation_eq (requestHash : Bytes) (row : IdempotencyRow)
    (callback : CheckResult → PayProg) :
    readReservation requestHash row callback = orThrow (verdict requestHash row) callback := by
  unfold readReservation verdict
  split
  · cases row.responseSnapshot with
    | none => rfl
    | some snapshot =>
        cases found : snapshot.at? (ascii "response") with
        | none => simp only [found, orThrow, Option.map_none]
        | some response =>
            simp only [found, orThrow, Option.map_some]
            split <;> rfl
  · rfl

/-- A request whose check is answered so. -/
def Standing.told (key requestHash : Bytes) : Option CheckResult → Standing
  | some .Started => .started key requestHash
  | some (.Replay response) => .stored key requestHash response
  | _ => .free

/-- What the check of a request is answered when its SELECT returns this row. -/
def heard (requestHash : Bytes) (row : Option IdempotencyRow) : Option CheckResult :=
  match row with
  | some row => verdict requestHash row
  | none => some .Error

/-- The standing after one more observation. -/
def Standing.after (standing : Standing) : PayEntry → Standing
  | .ran (.reserve key requestHash _ _) res =>
      match res with
      | some _ => .started key requestHash
      | none => .asking key requestHash
  | .ran (.findLiveIdempotency _) row =>
      match standing with
      | .asking key requestHash => .told key requestHash (heard requestHash row)
      | _ => standing
  | .ran (.saveSnapshot _ _ snapshot) saved =>
      match standing, saved, snapshot.at? (ascii "response") with
      | .started key requestHash, true, some response => .stored key requestHash response
      | _, _, _ => standing
  | .ran (.clearReservation _ _) _ =>
      match standing with
      | .started _ _ => .free
      | _ => standing
  | .failed _ =>
      match standing with
      | .asking _ _ => .free
      | _ => standing
  | _ => standing

/-- Where a request with this log stands. -/
def standing (log : List PayEntry) : Standing := log.foldl Standing.after .free

theorem standing_append (log : List PayEntry) (entry : PayEntry) :
    standing (log ++ [entry]) = (standing log).after entry := by
  simp [standing]

/-- The request was answered Started for the key, and since then no response of
it was stored and its reservation was not given back. -/
def Holds (key : Bytes) (p : PayProc) : Prop :=
  ∃ requestHash, standing p.log = .started key requestHash

/-- The event answers a check of this key with this hash. -/
inductive Answers (s : PaySys) (event : PayEvent) (key requestHash : Bytes) :
    Option CheckResult → Prop where
  | reserved {pid : Nat} {p : PayProc} {ownerToken : Option Bytes} {ttl now : Nat}
      (runs : s.RunsOnDb event pid p (.reserve key requestHash ownerToken ttl) (some now)) :
      Answers s event key requestHash (some .Started)
  | read {pid : Nat} {p : PayProc} {row : Option IdempotencyRow}
      (runs : s.RunsOnDb event pid p (.findLiveIdempotency key) row)
      (asking : standing p.log = .asking key requestHash) :
      Answers s event key requestHash (heard requestHash row)

/-- The database holds this response for the key and the hash. -/
def Stored (db : Db) (key requestHash : Bytes) (response : Json) : Prop :=
  ∃ row snapshot, db.idempotency.find key = some row ∧ row.requestHash = requestHash ∧
    row.responseSnapshot = some snapshot ∧ snapshot.at? (ascii "response") = some response

/-- A request with this hash stored the response by `updateResult`. -/
def Saved (s : PaySys) (key requestHash : Bytes) (response : Json) : Prop :=
  ∃ p ∈ s.procs, .ran (.saveSnapshot key requestHash (snapshotOf requestHash response)) true ∈ p.log

/-- No row of the key is read when it has expired. -/
def Unexpired (key : Bytes) (s : PaySys) (event : PayEvent) : Prop :=
  ∀ pid env row, event = .exec pid env → s.db.idempotency.find key = some row →
    row.expireAt.all (env.now < ·)

/-- What the service promises about a key in a state of a run. -/
structure Promised (key : Bytes) (s : PaySys) : Prop where
  one_holder : ∀ (i j : Nat) (p q : PayProc), s.procs[i]? = some p → s.procs[j]? = some q → Holds key p →
    Holds key q → i = j
  replays_saved : ∀ event requestHash response,
    Answers s event key requestHash (some (.Replay response)) →
    Stored s.db key requestHash response ∧ Saved s key requestHash response
  replays_ever : ∀ db ∈ s.history, ∀ storedHash response, Stored db key storedHash response →
    response.isNull = false → ∀ event requestHash result, Unexpired key s event →
    Answers s event key requestHash result →
    result = some (if requestHash = storedHash then .Replay response else .Conflict)
  clear_keeps : ∀ event pid p requestHash res row,
    s.RunsOnDb event pid p (.clearReservation key requestHash) res →
    s.db.idempotency.find key = some row → row.responseSnapshot.isSome →
    (payStore.applyAll s.db (Stmt.writes (.clearReservation key requestHash) res)).idempotency.find
      key = some row

/-! ## What a request waits for -/

/-- A standing in which no row is about to be read. -/
private def Standing.Settled : Standing → Prop
  | .asking _ _ => False
  | _ => True

/-- A request in flight, its calls of the service taken apart into statements. -/
private inductive Awaits : Standing → PayProg → Prop where
  | done {standing : Standing} (settled : standing.Settled) : Awaits standing .done
  | work {standing : Standing} {on : Target} {st : Stmt} {k : Option st.Res → PayProg}
      (settled : standing.Settled) (foreign : st.table ≠ some .idempotency)
      (next : ∀ res, Awaits standing (k res)) : Awaits standing (.sql on st k)
  | call {standing : Standing} {x : ChannelCall} {k : ChannelAnswer → PayProg}
      (next : ∀ a, Awaits standing (k a)) : Awaits standing (.call x k)
  | start {standing : Standing} {k : Bool → PayProg} (settled : standing.Settled)
      (next : ∀ b, Awaits standing (k b)) : Awaits standing (.start k)
  | commit {standing : Standing} {k : Bool → PayProg} (settled : standing.Settled)
      (next : ∀ b, Awaits standing (k b)) : Awaits standing (.commit k)
  | rollback {standing : Standing} {next : PayProg} (waits : Awaits standing next) :
      Awaits standing (.rollback next)
  | reply {standing : Standing} {out : Reply} {next : PayProg} (waits : Awaits standing next) :
      Awaits standing (.reply out next)
  | reserve {key requestHash : Bytes} {ttl : Nat} {k : Option (Option Nat) → PayProg}
      (onStarted : ∀ now, Awaits (.started key requestHash) (k (some (some now))))
      (onTaken : Awaits (.asking key requestHash) (k (some none)))
      (onFailure : Awaits .free (k none)) :
      Awaits .free (.sql .db (.reserve key requestHash none ttl) k)
  | read {key requestHash : Bytes} {k : Option (Option IdempotencyRow) → PayProg}
      (onRow : ∀ row, Awaits (.told key requestHash (heard requestHash row)) (k (some row)))
      (onFailure : Awaits .free (k none)) :
      Awaits (.asking key requestHash) (.sql .db (.findLiveIdempotency key) k)
  | store {key requestHash : Bytes} {response : Json} {k : Option Bool → PayProg}
      (onSaved : Awaits (.stored key requestHash response) (k (some true)))
      (onUnsaved : ∀ res, res ≠ some true → Awaits (.started key requestHash) (k res)) :
      Awaits (.started key requestHash)
        (.sql .db (.saveSnapshot key requestHash (snapshotOf requestHash response)) k)
  | storeAgain {key requestHash : Bytes} {response : Json} {k : Option Bool → PayProg}
      (next : ∀ res, Awaits (.stored key requestHash response) (k res)) :
      Awaits (.stored key requestHash response)
        (.sql .db (.saveSnapshot key requestHash (snapshotOf requestHash response)) k)
  | clear {key requestHash : Bytes} {k : Option Bool → PayProg}
      (onRun : ∀ b, Awaits .free (k (some b)))
      (onFailure : Awaits (.started key requestHash) (k none)) :
      Awaits (.started key requestHash) (.sql .db (.clearReservation key requestHash) k)
  | clearAgain {key requestHash : Bytes} {response : Json} {k : Option Bool → PayProg}
      (next : ∀ res, Awaits (.stored key requestHash response) (k res)) :
      Awaits (.stored key requestHash response) (.sql .db (.clearReservation key requestHash) k)

private theorem verdict_cases {requestHash : Bytes} {row : IdempotencyRow} {result : CheckResult}
    (told : verdict requestHash row = some result) :
    result = .InProgress ∨ result = .Conflict ∨
      ∃ response, result = .Replay response ∧ response.isNull = false := by
  unfold verdict at told
  split at told
  · split at told
    · exact Or.inl (Option.some.inj told).symm
    · obtain ⟨response, _, rfl⟩ := Option.map_eq_some_iff.mp told
      cases isNull : response.isNull with
      | true => exact Or.inl rfl
      | false => exact Or.inr (Or.inr ⟨response, by simp, isNull⟩)
  · exact Or.inr (Or.inl (Option.some.inj told).symm)

private theorem Use.waits {cfg : Config} {standing : Standing} {program : PayProg}
    (use : Use cfg false standing program) (settled : standing.Settled) :
    Awaits standing program := by
  induction use with
  | done => exact .done settled
  | work foreign _ inductionHypothesis =>
      exact .work settled foreign fun res => inductionHypothesis res settled
  | call _ inductionHypothesis => exact .call fun a => inductionHypothesis a settled
  | start _ inductionHypothesis => exact .start settled fun b => inductionHypothesis b settled
  | commit _ inductionHypothesis => exact .commit settled fun b => inductionHypothesis b settled
  | rollback _ inductionHypothesis => exact .rollback (inductionHypothesis settled)
  | reply _ inductionHypothesis => exact .reply (inductionHypothesis settled)
  | check keyed _ _ _ _ _ started replay inProgress conflict error =>
      rw [checkAndSetStatus, checkDatabase, if_neg (by simpa using keyed)]
      refine .reserve (fun now => started trivial) (.read (fun row => ?_) (error trivial))
        (error trivial)
      cases row with
      | none => exact error trivial
      | some row =>
          simp only [readReservation_eq, heard]
          cases told : verdict _ row with
          | none => exact .done trivial
          | some result =>
              rcases verdict_cases told with rfl | rfl | ⟨response, rfl, isNull⟩
              · exact inProgress trivial
              · exact conflict trivial
              · exact replay response isNull trivial
  | store _ _ saved unsaved =>
      refine .store (saved trivial) fun res different => ?_
      match res, different with
      | some false, _ => exact unsaved trivial
      | none, _ => exact unsaved trivial
  | storeAgain _ inductionHypothesis =>
      refine .storeAgain fun res => ?_
      match res with
      | some true => exact inductionHypothesis true trivial
      | some false => exact inductionHypothesis false trivial
      | none => exact inductionHypothesis false trivial
  | clear keyed _ _ ran failed =>
      rw [clearReservation, if_neg (by simpa using keyed)]
      exact .clear (fun _ => ran trivial) (failed trivial)
  | clearAgain keyed _ inductionHypothesis =>
      rw [clearReservation, if_neg (by simpa using keyed)]
      refine .clearAgain fun res => ?_
      match res with
      | some _ => exact inductionHypothesis true trivial
      | none => exact inductionHypothesis false trivial

/-! ## What a request does in a step -/

/-- A process of a request: nothing of the service on its transaction, and at
most one statement in flight. -/
private structure Attends (p : PayProc) : Prop where
  foreign : ∀ st res, .ran st res ∈ p.slot.record → st.table ≠ some .idempotency
  waits : (p.queue = [] ∧ (standing p.log).Settled) ∨
    ∃ program, p.queue = [program] ∧ Awaits (standing p.log) program

/-- What a step of a request does: its log and its standing afterwards and the
writes it commits. -/
private inductive Act (s : PaySys) (event : PayEvent) (pid : Nat) (p : PayProc)
    (log : List PayEntry) : Standing → List Write → Prop where
  | calm {ws : List Write} (untouched : ∀ w ∈ ws, w.table ≠ .idempotency) :
      Act s event pid p log (standing p.log) ws
  | gaveUp : Act s event pid p log .free []
  | reserve {key requestHash : Bytes} {ttl : Nat} {res : Option Nat}
      (runs : s.RunsOnDb event pid p (.reserve key requestHash none ttl) res) :
      Act s event pid p log ((standing p.log).after (.ran (.reserve key requestHash none ttl) res))
        (Stmt.writes (.reserve key requestHash none ttl) res)
  | read {key requestHash : Bytes} {row : Option IdempotencyRow}
      (runs : s.RunsOnDb event pid p (.findLiveIdempotency key) row) :
      Act s event pid p log (.told key requestHash (heard requestHash row)) []
  | store {key requestHash : Bytes} {response : Json} {res : Bool}
      (runs : s.RunsOnDb event pid p
        (.saveSnapshot key requestHash (snapshotOf requestHash response)) res)
      (entitled : standing p.log = .started key requestHash ∨
        standing p.log = .stored key requestHash response)
      (noted : .ran (.saveSnapshot key requestHash (snapshotOf requestHash response)) res ∈ log) :
      Act s event pid p log ((standing p.log).after
          (.ran (.saveSnapshot key requestHash (snapshotOf requestHash response)) res))
        (Stmt.writes (.saveSnapshot key requestHash (snapshotOf requestHash response)) res)
  | clear {key requestHash : Bytes} {res : Bool}
      (runs : s.RunsOnDb event pid p (.clearReservation key requestHash) res)
      (entitled : standing p.log = .started key requestHash ∨
        ∃ response, standing p.log = .stored key requestHash response) :
      Act s event pid p log ((standing p.log).after (.ran (.clearReservation key requestHash) res))
        (Stmt.writes (.clearReservation key requestHash) res)

/-- What a callback of a request leaves behind: no fork, the same standing, and
at most one statement. -/
private def Settles (log : List PayEntry) (next : PayProc × List PayProg) : Prop :=
  next.2 = [] ∧ Attends next.1 ∧ standing next.1.log = standing log ∧ log <+: next.1.log

private theorem settles_submitted {slot : Slot paySig} {log : List PayEntry} {now : Standing}
    {program : PayProg} (reached : standing log = now) (waits : Awaits now program)
    (foreign : ∀ st res, .ran st res ∈ slot.record → st.table ≠ some .idempotency) :
    Settles log (⟨slot, log, [program]⟩, []) :=
  ⟨rfl, ⟨foreign, Or.inr ⟨program, rfl, reached ▸ waits⟩⟩, rfl, List.prefix_rfl⟩

private theorem settles_advance {slot : Slot paySig} {log : List PayEntry} {now : Standing}
    {program : PayProg} (waits : Awaits now program) (reached : standing log = now)
    (foreign : ∀ st res, .ran st res ∈ slot.record → st.table ≠ some .idempotency) :
    Settles log (Proc.advance ⟨slot, log, []⟩ program) := by
  induction waits generalizing slot log with
  | done settled =>
      exact ⟨rfl, ⟨foreign, Or.inl ⟨rfl, reached ▸ settled⟩⟩, rfl, List.prefix_rfl⟩
  | rollback _ inductionHypothesis =>
      refine inductionHypothesis reached fun st res member => ?_
      simp at member
  | @reply _ out _ _ inductionHypothesis =>
      have same : standing (log ++ [.replied out]) = standing log := standing_append log _
      obtain ⟨alone, attends, kept, longer⟩ := inductionHypothesis (same.trans reached) foreign
      exact ⟨alone, attends, kept.trans same, (List.prefix_append _ _).trans longer⟩
  | work settled other next => exact settles_submitted reached (.work settled other next) foreign
  | call next => exact settles_submitted reached (.call next) foreign
  | start settled next => exact settles_submitted reached (.start settled next) foreign
  | commit settled next => exact settles_submitted reached (.commit settled next) foreign
  | reserve started taken failure =>
      exact settles_submitted reached (.reserve started taken failure) foreign
  | read row failure => exact settles_submitted reached (.read row failure) foreign
  | store saved unsaved => exact settles_submitted reached (.store saved unsaved) foreign
  | storeAgain next => exact settles_submitted reached (.storeAgain next) foreign
  | clear ran failure => exact settles_submitted reached (.clear ran failure) foreign
  | clearAgain next => exact settles_submitted reached (.clearAgain next) foreign

/-- A failure the request hears of leaves a settled standing. -/
private theorem Standing.Settled.failed {now : Standing} (settled : now.Settled)
    (cause : Failure) : now.after (.failed cause) = now := by
  cases now with
  | asking _ _ => exact absurd settled id
  | _ => rfl

/-- What a move of a request's process comes to. -/
private structure Behaves (s : PaySys) (event : PayEvent) (pid : Nat) (p : PayProc)
    (m : Move payStore) : Prop where
  alone : m.next.2 = []
  attends : Attends m.next.1
  longer : p.log <+: m.next.1.log
  acts : Act s event pid p m.next.1.log (standing m.next.1.log) m.commits

/-- A callback of a request that runs after `entry` was observed. -/
private theorem Behaves.observed {s : PaySys} {event : PayEvent} {pid : Nat} {p : PayProc}
    {slot : Slot paySig} {entry : PayEntry} {program : PayProg} {ws : List Write}
    (waits : Awaits ((standing p.log).after entry) program)
    (foreign : ∀ st res, .ran st res ∈ slot.record → st.table ≠ some .idempotency)
    (acts : ∀ log, entry ∈ log → Act s event pid p log ((standing p.log).after entry) ws) :
    Behaves s event pid p ⟨Proc.advance ⟨slot, p.log ++ [entry], []⟩ program, ws⟩ := by
  obtain ⟨alone, attends, kept, longer⟩ :=
    settles_advance waits (standing_append p.log entry) foreign
  refine ⟨alone, attends, (List.prefix_append _ _).trans longer, ?_⟩
  rw [kept, standing_append]
  exact acts _ (longer.subset (by simp))

/-- A callback of a request that runs with nothing observed. -/
private theorem Behaves.resumed {s : PaySys} {event : PayEvent} {pid : Nat} {p : PayProc}
    {slot : Slot paySig} {program : PayProg} (waits : Awaits (standing p.log) program)
    (foreign : ∀ st res, .ran st res ∈ slot.record → st.table ≠ some .idempotency) :
    Behaves s event pid p ⟨Proc.advance ⟨slot, p.log, []⟩ program, []⟩ := by
  obtain ⟨alone, attends, kept, longer⟩ := settles_advance waits rfl foreign
  refine ⟨alone, attends, longer, ?_⟩
  rw [kept]
  exact .calm (by simp)

/-- A callback of a request that runs after a failure, where no row was about to
be read. -/
private theorem Behaves.failed {s : PaySys} {event : PayEvent} {pid : Nat} {p : PayProc}
    {slot : Slot paySig} {now : Standing} {cause : Failure} {program : PayProg}
    (reached : standing p.log = now) (settled : now.Settled) (waits : Awaits now program)
    (foreign : ∀ st res, .ran st res ∈ slot.record → st.table ≠ some .idempotency) :
    Behaves s event pid p ⟨Proc.advance ⟨slot, p.log ++ [.failed cause], []⟩ program, []⟩ := by
  subst reached
  refine .observed ?_ foreign ?_
  · rw [settled.failed]
    exact waits
  · rw [settled.failed]
    exact fun _ _ => .calm (by simp)

/-- Work outside the service changes no settled standing. -/
private theorem Standing.Settled.foreign {now : Standing} (settled : now.Settled) {st : Stmt}
    (foreign : st.table ≠ some .idempotency) (res : st.Res) :
    now.after (.ran st res) = now := by
  cases st with
  | findLiveIdempotency key =>
      cases now with
      | asking _ _ => exact absurd settled id
      | _ => rfl
  | reserve | saveSnapshot | clearReservation => exact absurd rfl foreign
  | _ => rfl

private theorem Standing.Settled.record {log record : List PayEntry}
    (settled : (standing log).Settled)
    (foreign : ∀ st res, .ran st res ∈ record → st.table ≠ some .idempotency) :
    standing (log ++ record) = standing log := by
  induction record generalizing log with
  | nil => rw [List.append_nil]
  | cons entry rest inductionHypothesis =>
      have same : standing (log ++ [entry]) = standing log := by
        rw [standing_append]
        cases entry with
        | ran st res => exact settled.foreign (foreign st res (by simp)) res
        | failed cause => exact settled.failed cause
        | _ => rfl
      have settledLater : (standing (log ++ [entry])).Settled := by rwa [same]
      have later := inductionHypothesis settledLater
        fun st res member => foreign st res (by simp [member])
      rw [List.append_cons, later, same]

private theorem pending_foreign {record : List PayEntry}
    (foreign : ∀ st res, .ran st res ∈ record → st.table ≠ some .idempotency) :
    ∀ w ∈ payStore.pending record, w.table ≠ .idempotency := by
  intro w member isService
  obtain ⟨entry, inRecord, written⟩ := List.mem_flatMap.mp member
  cases entry with
  | ran st res => exact foreign st res inRecord (by rw [Stmt.writes_table written, isService])
  | _ => exact absurd written List.not_mem_nil

/-- The statement a request waits for on a pooled connection ran. -/
private theorem behaves_onDb {s : PaySys} {event : PayEvent} {pid : Nat} {p : PayProc} {st : Stmt}
    {res : st.Res} {k : Option st.Res → PayProg} (runs : s.RunsOnDb event pid p st res)
    (foreign : ∀ st res, .ran st res ∈ p.slot.record → st.table ≠ some .idempotency)
    (waits : Awaits (standing p.log) (.sql .db st k)) :
    Behaves s event pid p
      ⟨Proc.advance ⟨p.slot, p.log ++ [.ran st res], []⟩ (k (some res)), st.writes res⟩ := by
  generalize reached : standing p.log = now at waits
  cases waits with
  | work settled other next =>
      have same := settled.foreign other res
      refine .observed ?_ foreign ?_
      · rw [reached, same]
        exact next _
      · rw [reached, same, ← reached]
        exact fun _ _ => .calm fun w member isService =>
          other (by rw [Stmt.writes_table member, isService])
  | reserve started taken failure =>
      refine .observed ?_ foreign fun _ _ => .reserve runs
      cases (res : Option Nat) with
      | some now => exact started now
      | none => exact taken
  | @read key requestHash _ row failure =>
      have told : (standing p.log).after (.ran (.findLiveIdempotency key) res) =
          .told key requestHash (heard requestHash res) := by
        rw [reached]
        rfl
      refine .observed ?_ foreign ?_
      · rw [told]
        exact row res
      · rw [told]
        exact fun _ _ => .read runs
  | store saved unsaved =>
      refine .observed ?_ foreign fun _ noted => .store runs (Or.inl reached) noted
      rw [reached]
      cases (res : Bool) with
      | true => exact saved
      | false => exact unsaved _ (by simp)
  | storeAgain next =>
      refine .observed ?_ foreign fun _ noted => .store runs (Or.inr reached) noted
      rw [reached]
      exact next _
  | clear ran failure =>
      refine .observed ?_ foreign fun _ _ => .clear runs (Or.inl reached)
      rw [reached]
      exact ran _
  | clearAgain next =>
      refine .observed ?_ foreign fun _ _ => .clear runs (Or.inr ⟨_, reached⟩)
      rw [reached]
      exact next _

/-- A statement the request waits for failed. -/
private theorem behaves_failed {s : PaySys} {event : PayEvent} {pid : Nat} {p : PayProc}
    {slot : Slot paySig} {on : Target} {st : Stmt} {k : Option st.Res → PayProg} (cause : Failure)
    (foreign : ∀ st res, .ran st res ∈ slot.record → st.table ≠ some .idempotency)
    (waits : Awaits (standing p.log) (.sql on st k)) :
    Behaves s event pid p ⟨Proc.advance ⟨slot, p.log ++ [.failed cause], []⟩ (k none), []⟩ := by
  generalize reached : standing p.log = now at waits
  cases waits with
  | work settled _ next => exact .failed reached settled (next none) foreign
  | reserve _ _ failure => exact .failed reached trivial failure foreign
  | read _ failure =>
      have free : (standing p.log).after (.failed cause) = .free := by
        rw [reached]
        rfl
      refine .observed ?_ foreign ?_
      · rw [free]
        exact failure
      · rw [free]
        exact fun _ _ => .gaveUp
  | store _ unsaved => exact .failed reached trivial (unsaved none (by simp)) foreign
  | storeAgain next => exact .failed reached trivial (next none) foreign
  | clear _ failure => exact .failed reached trivial failure foreign
  | clearAgain next => exact .failed reached trivial (next none) foreign

private theorem Awaits.onTxn {now : Standing} {st : Stmt} {k : Option st.Res → PayProg}
    (waits : Awaits now (.sql .txn st k)) :
    st.table ≠ some .idempotency ∧ ∀ res, Awaits now (k res) := by
  cases waits with
  | work _ other next => exact ⟨other, next⟩

private theorem Awaits.onStart {now : Standing} {k : Bool → PayProg} (waits : Awaits now (.start k)) :
    now.Settled ∧ ∀ b, Awaits now (k b) := by
  cases waits with
  | start settled next => exact ⟨settled, next⟩

private theorem Awaits.onCommit {now : Standing} {k : Bool → PayProg}
    (waits : Awaits now (.commit k)) : now.Settled ∧ ∀ b, Awaits now (k b) := by
  cases waits with
  | commit settled next => exact ⟨settled, next⟩

private theorem Awaits.onCall {now : Standing} {x : ChannelCall} {k : ChannelAnswer → PayProg}
    (waits : Awaits now (.call x k)) : ∀ a, Awaits now (k a) := by
  cases waits with
  | call next => exact next

/-- The transaction of a request is committed. -/
private theorem behaves_committed {s : PaySys} {event : PayEvent} {pid : Nat} {p : PayProc}
    {record : List PayEntry} {program : PayProg} (active : p.slot = .active record)
    (settled : (standing p.log).Settled) (waits : Awaits (standing p.log) program)
    (foreign : ∀ st res, .ran st res ∈ p.slot.record → st.table ≠ some .idempotency) :
    Behaves s event pid p ⟨Proc.advance ⟨.closed, p.log ++ p.slot.record, []⟩ program,
      payStore.pending record⟩ := by
  have same := settled.record foreign
  have noRecord : ∀ st res, Entry.ran st res ∈ (Slot.closed : Slot paySig).record →
      Stmt.table st ≠ some .idempotency := fun st res member => by cases member
  obtain ⟨alone, attends, kept, longer⟩ := settles_advance waits same noRecord
  refine ⟨alone, attends, (List.prefix_append _ _).trans longer, ?_⟩
  rw [active] at foreign
  rw [kept, same]
  exact .calm (pending_foreign foreign)

/-- A request's process goes on as its use of the service says. -/
private theorem behaves_fires {s : PaySys} {event : PayEvent} {pid : Nat} {p : PayProc}
    {m : Move payStore} (attends : Attends p) (fires : s.Fires event pid p m) :
    Behaves s event pid p m := by
  obtain ⟨foreign, waits⟩ := attends
  have head : ∀ {program : PayProg} {rest : List PayProg}, p.queue = program :: rest →
      rest = [] ∧ Awaits (standing p.log) program := by
    intro program rest queued
    rcases waits with ⟨empty, _⟩ | ⟨only, single, waits⟩
    · rw [empty] at queued
      cases queued
    · rw [single] at queued
      cases queued
      exact ⟨rfl, waits⟩
  have idle : p.queue = [] → (standing p.log).Settled := by
    intro empty
    rcases waits with ⟨_, settled⟩ | ⟨only, single, _⟩
    · exact settled
    · rw [single] at empty
      cases empty
  have emptySlot : ∀ st res, Entry.ran st res ∈ (Slot.closed : Slot paySig).record →
      Stmt.table st ≠ some .idempotency := fun st res member => by cases member
  cases fires with
  | onDb runs queued =>
      obtain ⟨rfl, waits⟩ := head queued
      exact behaves_onDb runs foreign waits
  | failedOnDb cause queued =>
      obtain ⟨rfl, waits⟩ := head queued
      exact behaves_failed cause foreign waits
  | onTxn runs queued =>
      obtain ⟨rfl, waits⟩ := head queued
      refine .resumed (waits.onTxn.2 _) fun st' res' member => ?_
      rcases List.mem_append.mp member with old | new
      · exact foreign st' res' old
      · cases List.mem_singleton.mp new
        exact waits.onTxn.1
  | failedOnTxn cause active queued =>
      obtain ⟨rfl, waits⟩ := head queued
      exact behaves_failed cause emptySlot waits
  | gone inactive queued =>
      obtain ⟨rfl, waits⟩ := head queued
      exact .resumed (waits.onTxn.2 _) foreign
  | opened queued =>
      obtain ⟨rfl, waits⟩ := head queued
      exact .resumed (waits.onStart.2 _) fun st res member => by cases member
  | unopened queued =>
      obtain ⟨rfl, waits⟩ := head queued
      exact .failed rfl waits.onStart.1 (waits.onStart.2 _) emptySlot
  | committed commits queued =>
      obtain ⟨rfl, waits⟩ := head queued
      exact behaves_committed commits.slot waits.onCommit.1 (waits.onCommit.2 _) foreign
  | uncommitted active queued =>
      obtain ⟨rfl, waits⟩ := head queued
      exact .failed rfl waits.onCommit.1 (waits.onCommit.2 _) emptySlot
  | nothingToCommit inactive queued =>
      obtain ⟨rfl, waits⟩ := head queued
      exact .resumed (waits.onCommit.2 _) foreign
  | ended commits empty =>
      have done : p.committed = ⟨.closed, p.log ++ p.slot.record, []⟩ := by
        rw [← empty]
        rfl
      rw [done]
      exact behaves_committed commits.slot (idle empty) (.done (idle empty)) foreign
  | lost active empty =>
      have done : p.abort .outage = ⟨.closed, p.log ++ [.failed .outage], []⟩ := by
        rw [← empty]
        rfl
      rw [done]
      exact .failed rfl (idle empty) (.done (idle empty)) emptySlot
  | answered _ queued =>
      obtain ⟨rfl, waits⟩ := head queued
      exact .observed (waits.onCall _) foreign fun _ _ => .calm (by simp)
  | callback queued =>
      obtain ⟨rfl, waits⟩ := head queued
      exact .resumed waits foreign
  | crashed =>
      cases reached : standing p.log with
      | asking key requestHash =>
          have free : (standing p.log).after (.failed .outage) = .free := by
            rw [reached]
            rfl
          have waits : Awaits ((standing p.log).after (.failed .outage)) .done := by
            rw [free]
            exact .done trivial
          have acts : ∀ log, Act s event pid p log ((standing p.log).after (.failed .outage)) [] := by
            rw [free]
            exact fun _ => .gaveUp
          exact .observed waits emptySlot fun log _ => acts log
      | _ => exact .failed reached trivial (.done trivial) emptySlot

/-! ## One step, seen from one key -/

/-- The row holds this response for the hash. -/
private def Carries (row : Option IdempotencyRow) (requestHash : Bytes) (response : Json) : Prop :=
  ∃ value snapshot, row = some value ∧ value.requestHash = requestHash ∧
    value.responseSnapshot = some snapshot ∧ snapshot.at? (ascii "response") = some response

/-- The row is a reservation for the hash, without a response. -/
private def Reserves (row : Option IdempotencyRow) (requestHash : Bytes) : Prop :=
  ∃ value, row = some value ∧ value.requestHash = requestHash ∧ value.responseSnapshot = none

/-- The standing of a request and the row of a key, before and after a step of
that request, and its log after the step. -/
private inductive Change (key : Bytes) (log : List PayEntry) : Standing → Standing →
    Option IdempotencyRow → Option IdempotencyRow → Prop where
  | apart {old now : Standing} {row : Option IdempotencyRow}
      (held : ∀ requestHash, now = .started key requestHash → old = now)
      (stored : ∀ requestHash response, now = .stored key requestHash response → old = now) :
      Change key log old now row row
  | reserved {old : Standing} {requestHash : Bytes} {row : IdempotencyRow}
      (isHash : row.requestHash = requestHash) (unfinished : row.responseSnapshot = none) :
      Change key log old (.started key requestHash) none (some row)
  | told {old : Standing} {requestHash : Bytes} {response : Json} {row : Option IdempotencyRow}
      (carries : Carries row requestHash response) :
      Change key log old (.stored key requestHash response) row row
  | saved {requestHash : Bytes} {response : Json} {row : IdempotencyRow}
      (isHash : row.requestHash = requestHash)
      (noted : .ran (.saveSnapshot key requestHash (snapshotOf requestHash response)) true ∈ log) :
      Change key log (.started key requestHash) (.stored key requestHash response) (some row)
        (some (row.finalize (snapshotOf requestHash response)))
  | resaved {requestHash : Bytes} {response : Json} {row : IdempotencyRow}
      (isHash : row.requestHash = requestHash) :
      Change key log (.stored key requestHash response) (.stored key requestHash response) (some row)
        (some (row.finalize (snapshotOf requestHash response)))
  | cleared {requestHash : Bytes} {row : IdempotencyRow} :
      Change key log (.started key requestHash) .free (some row) none

private theorem response_snapshotOf (requestHash : Bytes) (response : Json) :
    (snapshotOf requestHash response).at? (ascii "response") = some response := by
  have names : ascii "request_hash" ≠ ascii "response" := by decide
  simp [snapshotOf, Json.at?, Json.get, Json.object, Json.lookup, names]

private theorem carries_of_heard {requestHash : Bytes} {row : Option IdempotencyRow}
    {response : Json} (replay : heard requestHash row = some (.Replay response)) :
    Carries row requestHash response := by
  cases row with
  | none => simp [heard] at replay
  | some row =>
      simp only [heard, verdict] at replay
      split at replay
      · rename_i isHash
        cases snapshot : row.responseSnapshot with
        | none => simp [snapshot] at replay
        | some value =>
            simp only [snapshot, Option.map_eq_some_iff] at replay
            obtain ⟨stored, found, isReplay⟩ := replay
            split at isReplay
            · cases isReplay
            · cases isReplay
              exact ⟨row, value, rfl, isHash, snapshot, found⟩
      · cases replay

/-- A check that reads a row is told a response, or leaves with nothing. -/
private theorem heard_cases (requestHash : Bytes) (row : Option IdempotencyRow) :
    (∃ response, heard requestHash row = some (.Replay response)) ∨
      ∀ key, Standing.told key requestHash (heard requestHash row) = .free := by
  cases row with
  | none => exact Or.inr fun _ => rfl
  | some row =>
      cases told : verdict requestHash row with
      | none => exact Or.inr fun _ => by rw [heard, told]; rfl
      | some result =>
          rcases verdict_cases told with rfl | rfl | ⟨response, rfl, _⟩
          · exact Or.inr fun _ => by rw [heard, told]; rfl
          · exact Or.inr fun _ => by rw [heard, told]; rfl
          · exact Or.inl ⟨response, told⟩

private theorem find_untouched {db : Db} {ws : List Write} {key : Bytes}
    (untouched : ∀ w ∈ ws, w.table ≠ .idempotency) :
    (payStore.applyAll db ws).idempotency.find key = db.idempotency.find key :=
  idempotencyColumn.read_applyAll_unlocked fun w member isKey =>
    untouched w member (idempotencyColumn_locked w key isKey)

/-- The live row is the row. -/
private theorem find_of_live {s : PaySys} {event : PayEvent} {pid : Nat} {p : PayProc}
    {key : Bytes} {row : IdempotencyRow}
    (runs : s.RunsOnDb event pid p (.findLiveIdempotency key) (some row)) :
    s.db.idempotency.find key = some row := by
  obtain ⟨env, _, result⟩ := runs.result
  exact (Option.filter_eq_some_iff.mp (Option.some.inj result)).1

private theorem reservation_of_runs {s : PaySys} {event : PayEvent} {pid : Nat} {p : PayProc}
    {st : Stmt} {res : st.Res} (runs : s.RunsOnDb event pid p st res) (key : Bytes) :
    ReservationAfter key st res (s.db.idempotency.find key)
      ((payStore.applyAll s.db (st.writes res)).idempotency.find key) := by
  obtain ⟨env, _, result⟩ := runs.result
  have ran : st.run s.db env = some res := result
  exact reservation_after ran key

private theorem Act.change {s : PaySys} {event : PayEvent} {pid : Nat} {p : PayProc}
    {log : List PayEntry} {now : Standing} {ws : List Write}
    (act : Act s event pid p log now ws) {key : Bytes}
    (carried : ∀ requestHash response, standing p.log = .stored key requestHash response →
      Carries (s.db.idempotency.find key) requestHash response) :
    Change key log (standing p.log) now (s.db.idempotency.find key)
      ((payStore.applyAll s.db ws).idempotency.find key) := by
  cases act with
  | calm untouched =>
      rw [find_untouched untouched]
      exact .apart (fun _ _ => rfl) fun _ _ _ => rfl
  | gaveUp => exact .apart (fun _ isStarted => by cases isStarted) fun _ _ isStored => by cases isStored
  | @reserve target requestHash ttl res runs =>
      have effect := reservation_of_runs runs key
      generalize (payStore.applyAll s.db _).idempotency.find key = row' at effect ⊢
      generalize s.db.idempotency.find key = row at effect ⊢
      cases effect with
      | same missed =>
          cases res with
          | none =>
              exact .apart (fun _ isStarted => by cases isStarted)
                fun _ _ isStored => by cases isStored
          | some now =>
              refine .apart (fun _ isStarted => ?_) fun _ _ isStored => by cases isStored
              cases isStarted
              simp [Stmt.hits] at missed
      | reserved => exact .reserved rfl rfl
  | @read target requestHash row runs =>
      rcases heard_cases requestHash row with ⟨response, replay⟩ | free
      · rw [replay]
        by_cases isKey : target = key
        · subst isKey
          have carries := carries_of_heard replay
          cases row with
          | none => cases replay
          | some value =>
              rw [← find_of_live runs] at carries
              exact .told carries
        · refine .apart (fun _ isStarted => by cases isStarted) fun _ _ isStored => ?_
          cases isStored
          exact absurd rfl isKey
      · rw [free target]
        exact .apart (fun _ isStarted => by cases isStarted) fun _ _ isStored => by cases isStored
  | @store target requestHash response res runs entitled noted =>
      have effect := reservation_of_runs runs key
      generalize (payStore.applyAll s.db _).idempotency.find key = row' at effect ⊢
      generalize s.db.idempotency.find key = row at effect ⊢
      rcases entitled with started | stored
      · cases effect with
        | same missed =>
            rw [started]
            cases res with
            | false => exact .apart (fun _ _ => rfl) fun _ _ _ => rfl
            | true =>
                have now : (Standing.started target requestHash).after (.ran
                    (.saveSnapshot target requestHash (snapshotOf requestHash response)) true) =
                    .stored target requestHash response := by
                  simp only [Standing.after, response_snapshotOf]
                rw [now]
                refine .apart (fun _ isStarted => by cases isStarted) fun _ _ isStored => ?_
                cases isStored
                simp [Stmt.hits] at missed
        | saved isHash =>
            have now : (Standing.started key requestHash).after (.ran
                (.saveSnapshot key requestHash (snapshotOf requestHash response)) true) =
                .stored key requestHash response := by
              simp only [Standing.after, response_snapshotOf]
            rw [started, now]
            exact .saved isHash noted
      · have now : (Standing.stored target requestHash response).after (.ran
            (.saveSnapshot target requestHash (snapshotOf requestHash response)) res) =
            .stored target requestHash response := rfl
        rw [stored, now]
        cases effect with
        | same missed => exact .apart (fun _ _ => rfl) fun _ _ _ => rfl
        | saved isHash => exact .resaved isHash
  | @clear target requestHash res runs entitled =>
      have effect := reservation_of_runs runs key
      generalize (payStore.applyAll s.db _).idempotency.find key = row' at effect ⊢
      generalize s.db.idempotency.find key = row at effect carried ⊢
      rcases entitled with started | ⟨response, stored⟩
      · rw [started]
        cases effect with
        | same missed =>
            exact .apart (fun _ isStarted => by cases isStarted) fun _ _ isStored => by cases isStored
        | cleared isHash unfinished => exact .cleared
      · rw [stored]
        cases effect with
        | same missed => exact .apart (fun _ _ => rfl) fun _ _ _ => rfl
        | cleared isHash unfinished =>
            obtain ⟨value, snapshot, same, _, finished, _⟩ := carried requestHash response stored
            cases same
            rw [unfinished] at finished
            cases finished

/-! ## Every run -/

/-- What holds of a key in every state of a run. -/
private structure Inv (key : Bytes) (s : PaySys) : Prop where
  attends : ∀ p ∈ s.procs, Attends p
  held : ∀ p ∈ s.procs, ∀ requestHash, standing p.log = .started key requestHash →
    Reserves (s.db.idempotency.find key) requestHash
  alone : ∀ (i j : Nat) (p q : PayProc), s.procs[i]? = some p → s.procs[j]? = some q →
    Holds key p → Holds key q → i = j
  carried : ∀ p ∈ s.procs, ∀ requestHash response,
    standing p.log = .stored key requestHash response →
    Carries (s.db.idempotency.find key) requestHash response
  saved : ∀ row snapshot, s.db.idempotency.find key = some row →
    row.responseSnapshot = some snapshot →
    ∃ response, snapshot = snapshotOf row.requestHash response ∧ Saved s key row.requestHash response
  kept : ∀ db ∈ s.history, ∀ requestHash response,
    Carries (db.idempotency.find key) requestHash response →
    Carries (s.db.idempotency.find key) requestHash response

private theorem Reserves.not_carries {row : Option IdempotencyRow} {hash hash' : Bytes}
    {response : Json} (reserves : Reserves row hash) (carries : Carries row hash' response) :
    False := by
  obtain ⟨value, rfl, _, unfinished⟩ := reserves
  obtain ⟨_, snapshot, same, _, finished, _⟩ := carries
  cases same
  rw [unfinished] at finished
  cases finished

/-- A row that carries a response keeps carrying it when another request, or the
same one, stores what it is entitled to. -/
private theorem Change.keeps {key : Bytes} {log : List PayEntry} {old now : Standing}
    {row row' : Option IdempotencyRow} (change : Change key log old now row row')
    (held : ∀ requestHash, old = .started key requestHash → Reserves row requestHash)
    (carried : ∀ requestHash response, old = .stored key requestHash response →
      Carries row requestHash response) {requestHash : Bytes} {response : Json}
    (carries : Carries row requestHash response) : Carries row' requestHash response := by
  cases change with
  | apart _ _ => exact carries
  | reserved _ _ =>
      obtain ⟨_, _, found, _⟩ := carries
      cases found
  | told _ => exact carries
  | saved _ _ => exact ((held _ rfl).not_carries carries).elim
  | cleared => exact ((held _ rfl).not_carries carries).elim
  | resaved isHash =>
      -- the response it stores is the one the row carries
      obtain ⟨value, snapshot, found, isHash', finished, response'⟩ := carries
      obtain ⟨_, _, found', _, finished', response''⟩ := carried _ _ rfl
      cases found
      cases found'
      rw [finished] at finished'
      cases finished'
      rw [response'] at response''
      cases response''
      refine ⟨_, _, rfl, isHash', rfl, ?_⟩
      rw [← isHash, isHash']
      exact response_snapshotOf _ _

/-- A request that holds the key after its step held it before, or has just
reserved it. -/
private theorem Change.held {key : Bytes} {log : List PayEntry} {old : Standing}
    {row row' : Option IdempotencyRow} {requestHash : Bytes}
    (change : Change key log old (.started key requestHash) row row') :
    (old = .started key requestHash ∧ row' = row) ∨ (row = none ∧ Reserves row' requestHash) := by
  cases change with
  | apart held _ => exact Or.inl ⟨held requestHash rfl, rfl⟩
  | reserved isHash unfinished => exact Or.inr ⟨rfl, _, rfl, isHash, unfinished⟩

/-- The response a request has stored or was given is the one the row carries. -/
private theorem Change.carried {key : Bytes} {log : List PayEntry} {old : Standing}
    {row row' : Option IdempotencyRow} {requestHash : Bytes} {response : Json}
    (change : Change key log old (.stored key requestHash response) row row')
    (before : old = .stored key requestHash response → Carries row requestHash response) :
    Carries row' requestHash response := by
  cases change with
  | apart _ stored => exact before (stored requestHash response rfl)
  | told carries => exact carries
  | saved isHash _ => exact ⟨_, _, rfl, isHash, rfl, response_snapshotOf _ _⟩
  | resaved isHash => exact ⟨_, _, rfl, isHash, rfl, response_snapshotOf _ _⟩

/-- The reservation of another request stays. -/
private theorem Change.reserves {key : Bytes} {log : List PayEntry} {old now : Standing}
    {row row' : Option IdempotencyRow} {requestHash : Bytes}
    (change : Change key log old now row row')
    (other : ∀ requestHash, old ≠ .started key requestHash)
    (carried : ∀ requestHash response, old = .stored key requestHash response →
      Carries row requestHash response)
    (reserves : Reserves row requestHash) : Reserves row' requestHash := by
  cases change with
  | apart _ _ => exact reserves
  | told _ => exact reserves
  | reserved _ _ =>
      obtain ⟨_, found, _⟩ := reserves
      cases found
  | saved _ _ => exact absurd rfl (other _)
  | cleared => exact absurd rfl (other _)
  | resaved _ => exact (reserves.not_carries (carried _ _ rfl)).elim

private theorem Saved.mono {s s' : PaySys} {key requestHash : Bytes} {response : Json}
    (saved : Saved s key requestHash response)
    (longer : ∀ p ∈ s.procs, ∃ q ∈ s'.procs, p.log <+: q.log) :
    Saved s' key requestHash response := by
  obtain ⟨p, member, noted⟩ := saved
  obtain ⟨q, member', extends'⟩ := longer p member
  exact ⟨q, member', extends'.subset noted⟩

/-- Every snapshot of the row was stored by a request with its hash. -/
private theorem Change.saved_of {key : Bytes} {s s' : PaySys} {log : List PayEntry}
    {old now : Standing} {row' : Option IdempotencyRow}
    (change : Change key log old now (s.db.idempotency.find key) row')
    (inv : ∀ row snapshot, s.db.idempotency.find key = some row →
      row.responseSnapshot = some snapshot → ∃ response,
        snapshot = snapshotOf row.requestHash response ∧ Saved s' key row.requestHash response)
    (carried : ∀ requestHash response, old = .stored key requestHash response →
      Carries (s.db.idempotency.find key) requestHash response)
    (logged : ∃ q ∈ s'.procs, q.log = log) {row : IdempotencyRow} {snapshot : Json}
    (found : row' = some row) (finished : row.responseSnapshot = some snapshot) :
    ∃ response, snapshot = snapshotOf row.requestHash response ∧
      Saved s' key row.requestHash response := by
  generalize before : s.db.idempotency.find key = old' at change inv carried
  cases change with
  | apart _ _ => exact inv row snapshot found finished
  | told _ => exact inv row snapshot found finished
  | reserved _ unfinished =>
      cases found
      rw [unfinished] at finished
      cases finished
  | @saved requestHash response value isHash noted =>
      subst isHash
      cases found
      cases finished
      obtain ⟨q, member, rfl⟩ := logged
      exact ⟨response, rfl, q, member, noted⟩
  | cleared => cases found
  | @resaved requestHash response value isHash =>
      subst isHash
      cases found
      cases finished
      obtain ⟨_, earlier, same, _, finished', stored⟩ := carried _ _ rfl
      cases same
      obtain ⟨response', rfl, saved⟩ := inv _ _ rfl finished'
      rw [response_snapshotOf] at stored
      cases stored
      exact ⟨response, rfl, saved⟩

private theorem inv_initial (key : Bytes) : Inv key (Sys.initial Db.empty) where
  attends p member := by cases member
  held p member := by cases member
  alone i j p q found := by simp [Sys.initial] at found
  carried p member := by cases member
  saved row snapshot found := by cases found
  kept db member requestHash response carries := by
    rwa [List.mem_singleton.mp member] at carries

private theorem inv_spawn {key : Bytes} {s : PaySys} (inv : Inv key s) {request : Request}
    {program : PayProg} (waits : Awaits .free program) :
    Inv key { s with procs := s.procs ++ [Proc.spawn request program] } := by
  have isNew : ∀ {q : PayProc}, q ∈ s.procs ++ [Proc.spawn request program] →
      q ∈ s.procs ∨ q = Proc.spawn request program := fun member => by simpa using member
  have free : standing (Proc.spawn request program).log = .free := rfl
  refine ⟨fun p member => ?_, fun p member requestHash started => ?_, fun i j p q foundP foundQ
    holdsP holdsQ => ?_, fun p member requestHash response stored => ?_,
    fun row snapshot found finished => ?_, inv.kept⟩
  · rcases isNew member with old | rfl
    · exact inv.attends p old
    · exact ⟨fun st res member => (by cases member), Or.inr ⟨program, rfl, waits⟩⟩
  · rcases isNew member with old | rfl
    · exact inv.held p old requestHash started
    · rw [free] at started
      cases started
  · have old : ∀ {i : Nat} {p : PayProc},
        (s.procs ++ [Proc.spawn request program])[i]? = some p → Holds key p →
        s.procs[i]? = some p := by
      intro i p found holds
      rw [List.getElem?_append] at found
      split at found
      · exact found
      · rw [List.mem_singleton.mp (List.mem_of_getElem? found)] at holds
        obtain ⟨_, started⟩ := holds
        rw [free] at started
        cases started
    exact inv.alone i j p q (old foundP holdsP) (old foundQ holdsQ) holdsP holdsQ
  · rcases isNew member with old | rfl
    · exact inv.carried p old requestHash response stored
    · rw [free] at stored
      cases stored
  · obtain ⟨response, isSnapshot, saved⟩ := inv.saved row snapshot found finished
    exact ⟨response, isSnapshot, saved.mono fun p member =>
      ⟨p, List.mem_append_left _ member, List.prefix_rfl⟩⟩

private theorem inv_after {key : Bytes} {s : PaySys} {event : PayEvent} {pid : Nat} {p : PayProc}
    {m : Move payStore} (inv : Inv key s) (proc : s.procs[pid]? = some p)
    (behaves : Behaves s event pid p m) : Inv key (s.after pid m) := by
  have member := List.mem_of_getElem? proc
  have heldNow := inv.held p member
  have carriedNow := inv.carried p member
  have change := behaves.acts.change carriedNow
  have after : ∀ {i : Nat} {q : PayProc}, (s.after pid m).procs[i]? = some q →
      (i = pid ∧ q = m.next.1) ∨ (i ≠ pid ∧ s.procs[i]? = some q) := by
    intro i q found
    simp only [Sys.after, behaves.alone, List.map_nil, List.append_nil, List.getElem?_set] at found
    split at found
    · rename_i same
      split at found
      · exact Or.inl ⟨same.symm, (Option.some.inj found).symm⟩
      · cases found
    · rename_i different
      exact Or.inr ⟨fun same => different same.symm, found⟩
  have moved : (s.after pid m).procs[pid]? = some m.next.1 := by
    obtain ⟨inRange, _⟩ := List.getElem?_eq_some_iff.mp proc
    simp [Sys.after, List.getElem?_append, inRange]
  have longer : ∀ q ∈ s.procs, ∃ r ∈ (s.after pid m).procs, q.log <+: r.log := by
    intro q old
    obtain ⟨i, found⟩ := List.mem_iff_getElem?.mp old
    by_cases same : i = pid
    · rw [same, proc] at found
      cases found
      exact ⟨m.next.1, List.mem_of_getElem? moved, behaves.longer⟩
    · refine ⟨q, List.mem_append_left _ (List.mem_iff_getElem?.mpr ⟨i, ?_⟩), List.prefix_rfl⟩
      rw [List.getElem?_set_ne (Ne.symm same)]
      exact found
  refine ⟨fun q member => ?_, fun q member requestHash started => ?_,
    fun i j q r foundQ foundR holdsQ holdsR => ?_,
    fun q member requestHash response stored => ?_, fun row snapshot found finished => ?_,
    fun db member requestHash response carries => ?_⟩
  · obtain ⟨i, found⟩ := List.mem_iff_getElem?.mp member
    rcases after found with ⟨_, rfl⟩ | ⟨_, old⟩
    · exact behaves.attends
    · exact inv.attends q (List.mem_of_getElem? old)
  · obtain ⟨i, found⟩ := List.mem_iff_getElem?.mp member
    rcases after found with ⟨_, rfl⟩ | ⟨different, old⟩
    · rw [started] at change
      rcases change.held with ⟨before, same⟩ | ⟨_, reserves⟩
      · rw [Sys.after, same]
        exact heldNow requestHash before
      · exact reserves
    · have reserves := inv.held q (List.mem_of_getElem? old) requestHash started
      refine change.reserves (fun hash isHolder => different ?_) carriedNow reserves
      exact inv.alone i pid q p old proc ⟨_, started⟩ ⟨hash, isHolder⟩
  · -- a request that has just reserved the key found no other holder
    have apart : ∀ {i : Nat} {q : PayProc}, i ≠ pid → s.procs[i]? = some q → Holds key q →
        Holds key m.next.1 → False := by
      intro i q different old holds isHolder
      obtain ⟨hash, started⟩ := isHolder
      obtain ⟨hash', started'⟩ := holds
      rw [started] at change
      rcases change.held with ⟨before, _⟩ | ⟨empty, _⟩
      · exact different (inv.alone i pid q p old proc ⟨_, started'⟩ ⟨hash, before⟩)
      · obtain ⟨_, found, _⟩ := inv.held q (List.mem_of_getElem? old) hash' started'
        rw [empty] at found
        cases found
    rcases after foundQ with ⟨isQ, rfl⟩ | ⟨differentQ, oldQ⟩
    · rcases after foundR with ⟨isR, rfl⟩ | ⟨differentR, oldR⟩
      · exact isQ.trans isR.symm
      · exact (apart differentR oldR holdsR holdsQ).elim
    · rcases after foundR with ⟨isR, rfl⟩ | ⟨differentR, oldR⟩
      · exact (apart differentQ oldQ holdsQ holdsR).elim
      · exact inv.alone i j q r oldQ oldR holdsQ holdsR
  · obtain ⟨i, found⟩ := List.mem_iff_getElem?.mp member
    rcases after found with ⟨_, rfl⟩ | ⟨_, old⟩
    · rw [stored] at change
      exact change.carried (carriedNow requestHash response)
    · exact change.keeps heldNow carriedNow
        (inv.carried q (List.mem_of_getElem? old) requestHash response stored)
  · refine change.saved_of (fun row snapshot found finished => ?_) carriedNow
      ⟨m.next.1, List.mem_of_getElem? moved, rfl⟩ found finished
    obtain ⟨response, isSnapshot, saved⟩ := inv.saved row snapshot found finished
    exact ⟨response, isSnapshot, saved.mono longer⟩
  · rcases List.mem_cons.mp member with rfl | old
    · exact carries
    · exact change.keeps heldNow carriedNow (inv.kept db old requestHash response carries)

private theorem inv_run {cfg : Config} {entry : Request → PayProg}
    (uses : ∀ request, Use cfg false .free (entry request)) {events : List PayEvent} {s : PaySys}
    (run : Run entry (fun _ _ => True) (Sys.initial Db.empty) events s) (key : Bytes) :
    Inv key s := by
  induction run with
  | nil => exact inv_initial key
  | snoc _ _ stepped inductionHypothesis =>
      rcases Sys.step_fires stepped with ⟨request, _, rfl⟩ | ⟨pid, p, m, proc, fires, rfl⟩
      · exact inv_spawn inductionHypothesis ((uses request).waits trivial)
      · have attends := inductionHypothesis.attends p (List.mem_of_getElem? proc)
        exact inv_after inductionHypothesis proc (behaves_fires attends fires)

/-- The service keeps its promises in every run of requests that call
`updateResult` and `clearReservation` while they hold Started, or with the
response that is already stored. -/
theorem service_promised {cfg : Config} {entry : Request → PayProg}
    (uses : ∀ request, Use cfg false .free (entry request)) {events : List PayEvent} {s : PaySys}
    (run : Run entry (fun _ _ => True) (Sys.initial Db.empty) events s) (key : Bytes) :
    Promised key s := by
  have inv := inv_run uses run key
  refine ⟨inv.alone, fun event requestHash response answers => ?_,
    fun db member storedHash response stored notNull event requestHash result unexpired answers => ?_,
    fun event pid p requestHash res row runs found finished => ?_⟩
  · generalize replay : some (CheckResult.Replay response) = result at answers
    cases answers with
    | reserved _ => cases replay
    | @read pid p row runs asking =>
        have carries := carries_of_heard replay.symm
        cases row with
        | none => cases replay
        | some row =>
            have found := find_of_live runs
            obtain ⟨_, snapshot, same, isHash, finished, responseOf⟩ := carries
            cases same
            obtain ⟨response', rfl, saved⟩ := inv.saved row snapshot found finished
            rw [response_snapshotOf] at responseOf
            cases responseOf
            rw [isHash] at saved
            exact ⟨⟨row, _, found, isHash, finished, response_snapshotOf _ _⟩, saved⟩
  · obtain ⟨row, snapshot, found, isHash, finished, responseOf⟩ :=
      inv.kept db member storedHash response stored
    cases answers with
    | reserved runs =>
        obtain ⟨env, _, result⟩ := runs.result
        have taken := Option.some.inj result
        simp only [found, Option.isNone_some, Bool.false_eq_true, if_false] at taken
        cases taken
    | @read pid p live runs asking =>
        obtain ⟨env, isEvent, result⟩ := runs.result
        have isLive := Option.some.inj result
        have fresh := unexpired pid env row isEvent found
        simp only [found, Option.filter_some, fresh, if_true] at isLive
        subst isLive
        simp only [heard, verdict, finished, responseOf, Option.map_some, notNull, isHash,
          Bool.false_eq_true, if_false]
        by_cases same : requestHash = storedHash
        · simp [same]
        · simp [same, Ne.symm same]
  · have effect := reservation_of_runs runs key
    rw [found] at effect
    generalize (payStore.applyAll s.db _).idempotency.find key = row' at effect ⊢
    cases effect with
    | same _ => rfl
    | cleared _ unfinished =>
        rw [unfinished] at finished
        cases finished

/-! The services store a response before they answer it, and clear when that
fails. -/

section Served

variable {cfg : Config} {again : Bool} {standing : Standing} {key requestHash : Bytes}
  {callback : Reply → PayProg}

theorem Use.answer {body : Json} {error : Option ErrorCode} :
    Use cfg again standing (answer body error) :=
  .reply .done

theorem Use.orThrow {α : Type} {value : Option α} {next : α → PayProg}
    (use : ∀ a, Use cfg again standing (next a)) : Use cfg again standing (orThrow value next) := by
  cases value with
  | none => exact .done
  | some a => exact use a

theorem Use.storeThenAnswer {reply : Reply} (keyed : key ≠ []) :
    Use cfg false (.started key requestHash) (storeThenAnswer key requestHash reply) :=
  .store .answer (.clear keyed .answer .answer)

theorem Use.bookRefusedAttempt {paymentNo orderNo : Bytes} {finish : PayProg}
    (use : Use cfg again standing finish) :
    Use cfg again standing (PaymentService.bookRefusedAttempt paymentNo orderNo finish) := by
  refine .work (by simp [Stmt.table]) fun found => ?_
  rcases found with _ | _ | payment
  · exact use
  · exact use
  · refine .work (by simp [Stmt.table]) fun failed => ?_
    rcases failed with _ | failed
    · exact use
    · refine .work (by simp [Stmt.table]) fun order => ?_
      rcases order with _ | _ | order
      · exact use
      · exact use
      · exact .work (by simp [Stmt.table]) fun _ => use

theorem Use.onCreateAnswer {request : CreatePaymentRequest} {paymentNo error : Bytes} {result : Json}
    (use : ∀ reply, Use cfg again standing (callback reply)) :
    Use cfg again standing
      (PaymentService.onCreateAnswer request paymentNo callback result error) := by
  refine .orThrow fun refusal => ?_
  have created : Use cfg again standing
      (PaymentService.answerCreated request paymentNo result callback) := .orThrow fun data => use _
  split
  · refine .work (by simp [Stmt.table]) fun moved => ?_
    rcases moved with _ | _ | _
    · exact use _
    · exact created
    · exact .work (by simp [Stmt.table]) fun _ => created
  · simp only
    split
    · exact .bookRefusedAttempt (use _)
    · exact use _

theorem Use.proceedCreatePayment {request : CreatePaymentRequest} {paymentNo : Bytes}
    {totalFen : Nat} (use : ∀ reply, Use cfg again standing (callback reply)) :
    Use cfg again standing
      (PaymentService.proceedCreatePayment cfg request paymentNo totalFen callback) := by
  refine .start fun opened => ?_
  cases opened with
  | false => exact use _
  | true =>
      refine .work (by simp [Stmt.table]) fun order => ?_
      cases order with
      | none => exact .rollback (use _)
      | some order =>
          refine .work (by simp [Stmt.table]) fun payment => ?_
          cases payment with
          | none => exact .rollback (use _)
          | some payment =>
              refine .commit fun committed => ?_
              cases committed with
              | false => exact use _
              | true =>
                  simp only
                  split
                  · exact .call fun a => .onCreateAnswer use
                  · exact .onCreateAnswer use

theorem Use.wrappedCreateCallback {reply : Reply} (keyed : key ≠ []) :
    Use cfg false (.started key requestHash)
      (PaymentService.wrappedCreateCallback key requestHash reply) := by
  unfold PaymentService.wrappedCreateCallback
  split
  · exact .storeThenAnswer keyed
  · split
    · exact .clear keyed .answer .answer
    · exact .answer

theorem Use.createPayment {request : CreatePaymentRequest} {paymentNo : Bytes} {now : Nat}
    (keyed : key ≠ []) :
    Use cfg false .free (PaymentService.createPayment cfg request key paymentNo now) := by
  have invalid : ∀ problem, Use cfg false (.started key (PaymentService.createHash cfg request))
      (PaymentService.invalidCreate key (PaymentService.createHash cfg request) problem) :=
    fun problem => .clear keyed .answer .answer
  refine .check keyed ?_ (fun response _ => .answer) .answer .answer .answer
  simp only
  split
  · exact invalid _
  · split
    · exact invalid _
    · exact .proceedCreatePayment fun reply => .wrappedCreateCallback keyed

end Served

/-- The services, for payments that are created under a key. -/
def serveKeyed : Request → PayProg
  | .createPayment request idempotencyKey paymentNo now =>
      if idempotencyKey.isEmpty then .done
      else serve shop (.createPayment request idempotencyKey paymentNo now)
  | _ => .done

theorem serveKeyed_use (request : Request) : Use shop false .free (serveKeyed request) := by
  cases request with
  | createPayment request idempotencyKey paymentNo now =>
      simp only [serveKeyed]
      split
      · exact .done
      · rename_i keyed
        exact .createPayment (by simpa using keyed)
  | _ => exact .done

/-- A payment is created twice under one key: the second request is told that the
first one is in progress, and a third one what it stored. -/
def storedOnce : List PayEvent :=
  [.spawn (.createPayment tenYuanOnWechat (ascii "k") (drawn "p") 0)] ++
    steps 0 2 1 ++
    [.spawn (.createPayment tenYuanOnWechat (ascii "k") (drawn "q") 0)] ++
    steps 1 2 2 ++ steps 0 3 3 ++ [.answer 0 codeUrl] ++ steps 0 3 4 ++
    [.spawn (.createPayment tenYuanOnWechat (ascii "k") (drawn "r") 0)] ++
    steps 2 2 5

theorem service_promised_once :
    ∃ s, Run serveKeyed (fun _ _ => True) (Sys.initial Db.empty) storedOnce s ∧
      (s.db.idempotency.find (ascii "k")).any (fun row => row.responseSnapshot.isSome) ∧
      Promised (ascii "k") s := by
  have evaluates : (Sys.runAll serveKeyed (fun _ _ => true) (Sys.initial Db.empty) storedOnce).any
      (fun s : PaySys => (s.db.idempotency.find (ascii "k")).any fun row =>
        row.responseSnapshot.isSome) = true := by
    decide +kernel
  obtain ⟨s, run, stored⟩ := Run.exists_of_runAll evaluates
  have whole := run.mono fun _ _ _ => trivial
  exact ⟨s, whole, stored, service_promised serveKeyed_use whole (ascii "k")⟩

/-- The key is reserved in this standing. -/
def Standing.reserves (key : Bytes) : Standing → Bool
  | .started target _ => target = key
  | _ => false

theorem holds_of_reserves {key : Bytes} {p : PayProc}
    (reserves : (standing p.log).reserves key = true) : Holds key p := by
  cases reached : standing p.log with
  | started target requestHash =>
      rw [reached] at reserves
      obtain rfl : target = key := by simpa [Standing.reserves] using reserves
      exact ⟨requestHash, reached⟩
  | _ =>
      rw [reached] at reserves
      cases reserves

/-- A request that gives its reservation back twice. -/
def impatient (_ : Request) : PayProg :=
  checkAndSetStatus shop (ascii "k") (ascii "h") fun
    | .Started =>
        clearReservation (ascii "k") (ascii "h") fun _ =>
          clearReservation (ascii "k") (ascii "h") fun _ => .done
    | _ => .done

/-- The second clear of the first request deletes the reservation of the second
one, and a third request starts beside it. -/
def clearedTwice : List PayEvent :=
  [.spawn (.reconcile 0)] ++ steps 0 2 1 ++ [.spawn (.reconcile 0)] ++ steps 1 1 2 ++
    steps 0 1 3 ++ [.spawn (.reconcile 0)] ++ steps 2 1 4

theorem service_not_promised_again :
    ¬ ∀ (cfg : Config) (entry : Request → PayProg),
      (∀ request, Use cfg true .free (entry request)) → ∀ (events : List PayEvent) (s : PaySys),
      Run entry (fun _ _ => True) (Sys.initial Db.empty) events s → ∀ key ≠ [], Promised key s := by
  intro claim
  have uses : ∀ request, Use shop true .free (impatient request) := fun request =>
    .check (by decide)
      (.clear (by decide) (.clear (by decide) .done .done) (.clear (by decide) .done .done))
      (fun _ _ => .done) .done .done .done
  have evaluates : (Sys.runAll impatient (fun _ _ => true) (Sys.initial Db.empty)
      clearedTwice).any (fun s : PaySys =>
        s.procs[1]?.any (fun p => (standing p.log).reserves (ascii "k")) &&
          s.procs[2]?.any fun p => (standing p.log).reserves (ascii "k")) = true := by
    decide +kernel
  obtain ⟨s, run, both⟩ := Run.exists_of_runAll evaluates
  simp only [Bool.and_eq_true, Option.any_eq_true] at both
  obtain ⟨⟨p, foundP, reservesP⟩, q, foundQ, reservesQ⟩ := both
  have promised := claim shop impatient uses _ s (run.mono fun _ _ _ => trivial) (ascii "k")
    (by decide)
  exact absurd (promised.one_holder 1 2 p q foundP foundQ (holds_of_reserves reservesP)
    (holds_of_reserves reservesQ)) (by decide)

end DrogonPay.IdempotencyService
