import DrogonPay.Laws.SettledAmounts

/-!
Contract: an order is paid by one attempt.

Owns:
- `OneSettled`, at most one attempt of an order is SUCCESS or REFUNDED;
- `attemptsGuarded`, the condition on the inserts of attempts under which every
  run keeps it: none gets in between a probe, or a lookup, and a settlement; and a
  run in which one does;
- `Lined`, the invariant: a settled attempt is newer than every other one that a
  settlement could look up, and so is one that may be settled next.

Does not own: how the clock comes to give two attempts one time; the condition
leaves it out.
-/

namespace DrogonPay

open ReadCommitted

namespace PaymentService

/-- The statuses of an attempt that carries money. -/
def settledStatuses : List PaymentStatus := [.SUCCESS, .REFUNDED]

/-- The answer of the probe for settled attempts, if the process has done nothing
since. -/
def probed (log : List PayEntry) : List PaymentRow :=
  match log.getLast? with
  | some (.ran (.settledAttempts _) (settled : List PaymentRow)) => settled
  | _ => []

/-- The message says that money came in for the order. -/
def saysBooked (orderNo : Bytes) (message : PayEntry) : Bool :=
  (saidOf orderNo message).any OrderStatus.booked

/-- The process has just looked the attempt up, on a message that money came in. -/
def hasLookedUp (log : List PayEntry) (paymentNo : Bytes) : Bool :=
  match log.getLast? with
  | some (.ran (.newestAttempt _ _) (found : Option PaymentRow)) =>
      found.any fun payment =>
        payment.paymentNo = paymentNo && log.any (saysBooked payment.orderNo)
  | _ => false

/-- The transaction has locked the attempt for a notification that money came in,
or has moved it. -/
def hasTaken (log record : List PayEntry) (paymentNo : Bytes) : Bool :=
  record.any fun
    | .ran (.lockAttempt _ _) (found : Option PaymentRow) =>
        found.any fun payment =>
          payment.paymentNo = paymentNo && log.head?.any (saysBooked payment.orderNo)
    | .ran (.casPayment moved .SUCCESS _) (won : Bool) => won && moved = paymentNo
    | _ => false

/-- The process may settle the attempt next. -/
def maySettle (p : PayProc) (paymentNo : Bytes) : Bool :=
  p.live && (hasLookedUp p.log paymentNo || hasTaken p.log p.slot.record paymentNo)

/-- An attempt that carries money was in the answer of the probe, and one that does
not is not about to. -/
def uncontested (s : PaySys) (log : List PayEntry) (row : PaymentRow) : Bool :=
  if settledStatuses.contains row.status then (probed log).contains row
  else s.procs.all fun p => !maySettle p row.paymentNo

/-- An attempt that is added to an order outside of transactions is added at another
time than the open ones of the order, and the older ones are uncontested. -/
def attemptsGuarded (s : PaySys) (event : PayEvent) : Bool :=
  match event, s.executing event, s.knowing event with
  | .exec _ (env : Env), some (.insertPayment booking, seen), some (log, none) =>
      seen.payments.rows.all fun row =>
        row.orderNo ≠ booking.orderNo || !openStatuses.contains row.status ||
          env.now < row.createdAt || (row.createdAt < env.now && uncontested s log row)
  | _, _, _ => true

/-! ## The invariant -/

/-- The attempt is newer than every other one of its order that a settlement could
look up. -/
def Newest (db : Db) (payment : PaymentRow) : Prop :=
  ∀ paymentNo rival, db.payments.find paymentNo = some rival →
    rival.orderNo = payment.orderNo → rival.status ∈ openStatuses →
    paymentNo ≠ payment.paymentNo → rival.createdAt < payment.createdAt

/-- A process with this transaction and log may settle the attempt. -/
def MaySettle (slot : Slot paySig) (log : List PayEntry) (paymentNo : Bytes) : Prop :=
  (∃ tradeNo, Saw slot.record (.casPayment paymentNo .SUCCESS tradeNo) true) ∨
    ∃ payment message, Holds log slot.record payment message ∧ payment.paymentNo = paymentNo ∧
      SaysBooked payment.orderNo message

/-- What such a process may settle next is the newest. -/
def Foremost (db : Db) (slot : Slot paySig) (log : List PayEntry) : Prop :=
  ∀ paymentNo row, MaySettle slot log paymentNo → db.payments.find paymentNo = some row →
    row.status.unsettled → Newest db row

/-- The attempts of an order stand in line. -/
structure Lined (s : PaySys) : Prop where
  distinct : ∀ paymentNo paymentNo' row row', s.db.payments.find paymentNo = some row →
    s.db.payments.find paymentNo' = some row' → row.orderNo = row'.orderNo →
    row.status ∈ openStatuses → row'.status ∈ openStatuses → row.createdAt = row'.createdAt →
    paymentNo = paymentNo'
  settled : ∀ paymentNo row, s.db.payments.find paymentNo = some row →
    row.status ∈ settledStatuses → Newest s.db row
  held : ∀ p ∈ s.procs, p.live → Foremost s.db p.slot p.log

theorem open_cases {status : PaymentStatus} :
    status ∈ openStatuses ↔ status ∈ settledStatuses ∨ status.unsettled := by
  cases status <;> simp [openStatuses, settledStatuses, PaymentStatus.unsettled]

theorem not_settled_of_unsettled {status : PaymentStatus} (unsettled : status.unsettled) :
    status ∉ settledStatuses := by
  cases status <;> simp_all [settledStatuses, PaymentStatus.unsettled]

theorem saysBooked_iff {orderNo : Bytes} {message : PayEntry} :
    saysBooked orderNo message = true ↔ SaysBooked orderNo message := by
  simp [saysBooked, SaysBooked, Option.any_eq_true]

/-- A probe found nothing, if the process goes on to add an attempt. -/
theorem probed_nil {log : List PayEntry}
    (empty : ∀ orderNo settled, log.getLast? = some (.ran (.settledAttempts orderNo) settled) →
      settled = []) : probed log = [] := by
  unfold probed
  split
  · rename_i orderNo settled last
    exact empty orderNo settled last
  · rfl

/-- The check knows every process that may settle the attempt. -/
theorem maySettle_of {p : PayProc} {paymentNo : Bytes} (live : p.live = true)
    (may : MaySettle p.slot p.log paymentNo) : maySettle p paymentNo = true := by
  rw [maySettle, live, Bool.true_and, Bool.or_eq_true]
  rcases may with ⟨tradeNo, saw⟩ | ⟨payment, message, held, isKey, books⟩
  · exact Or.inr (List.any_eq_true.mpr ⟨_, saw, by simp⟩)
  · have isBooked := saysBooked_iff.mpr books
    rcases held with ⟨last, heard⟩ | ⟨locked, started⟩
    · refine Or.inl ?_
      have told : p.log.any (saysBooked payment.orderNo) = true :=
        List.any_eq_true.mpr ⟨message, heard, isBooked⟩
      simp [hasLookedUp, last, isKey, told]
    · refine Or.inr (List.any_eq_true.mpr ⟨_, locked, ?_⟩)
      simp [isKey, started, isBooked]

/-! ## What a transaction knows -/

section Runs

variable {cfg : Config} {ok : PaySys → PayEvent → Prop} {events : List PayEvent} {s s' : PaySys}
  {event : PayEvent} {p : PayProc} {paymentNo : Bytes}

/-- A statement that writes the attempts is the first of its transaction to do so. -/
theorem spares_of_issue {log : List PayEntry} {record : Option (List PayEntry)} {st : Stmt}
    (issue : payContract.issue log record st) (writes : st.table = some .payments) :
    Spares .payments (record.getD []) := by
  cases st with
  | insertPayment booking =>
      cases record with
      | none => exact .nil
      | some entries => exact issue.2.1
  | casPayment => exact issue.2.1
  | failPayment =>
      have pooled : record = none := issue
      rw [pooled]
      exact .nil
  | _ => cases writes

/-- An attempt that a transaction has moved is committed as unsettled. -/
theorem moved_unsettled (run : PayRun cfg ok events s) (member : p ∈ s.procs)
    {status : PaymentStatus} {tradeNo : Option Bytes}
    (saw : Saw p.slot.record (.casPayment paymentNo status tradeNo) true) :
    ∃ row, s.db.payments.find paymentNo = some row ∧ row.status.unsettled := by
  have obliged := run.with_invariant fun run => run.obliged (verified_serve cfg)
  refine obliged.since_locked paymentColumn (fun row => ∃ payment, row = some payment ∧
    payment.status.unsettled) ?_ (fun {s event pid p record} meets runs => ?_) member saw
  · simp [Store.needs, Stmt.writes, Stmt.matched, Write.keys, paymentColumn]
  · -- the transaction saw the committed row, and its guard passed
    obtain ⟨env, _, result⟩ := runs.result
    have spares : Spares .payments record := spares_of_issue (runs.issue meets.2) rfl
    have same : (s.view record).payments.find paymentNo = s.db.payments.find paymentNo :=
      spares.read paymentColumn_locked s.db paymentNo
    have moved : ((s.view record).payments.find paymentNo).any (fun row =>
        [PaymentStatus.INIT, .PROCESSING].contains row.status) = true := Option.some.inj result
    obtain ⟨row, found, isOpen⟩ := (Option.any_eq_true _ _).mp moved
    exact ⟨row, same.symm.trans found, by simpa [PaymentStatus.unsettled] using isOpen⟩

/-- An attempt that a transaction has locked is committed. -/
theorem locked_committed (run : PayRun cfg ok events s) (member : p ∈ s.procs) {orderNo : Bytes}
    {statuses : List PaymentStatus} {payment : PaymentRow}
    (locked : Saw p.slot.record (.lockAttempt orderNo statuses) (some payment)) :
    s.db.payments.find payment.paymentNo ≠ none := by
  have obliged := run.with_invariant fun run => run.obliged (verified_serve cfg)
  refine obliged.since_locked paymentColumn (fun row => row ≠ none) ?_ (fun meets runs => ?_) member
    locked
  · simp [Store.needs, Stmt.grabs, paymentColumn]
  · -- the lock is the first statement, so it saw the committed rows
    have first : some _ = some [] := runs.issue meets.2
    cases first
    obtain ⟨env, _, result⟩ := runs.result
    exact Option.ne_none_iff_exists'.mpr ⟨_, Db.find_of_attempts (Option.some.inj result)⟩

/-- The order a transaction has inserted is not committed yet. -/
theorem inserted_uncommitted (run : PayRun cfg ok events s) (member : p ∈ s.procs)
    {booking : OrderBooking} {now : Nat} (saw : Saw p.slot.record (.insertOrder booking) now) :
    s.db.orders.find booking.orderNo = none := by
  have followed := run.with_invariant fun run => run.column_view orderColumn_keeps_booking
  refine followed.since_locked orderColumn (fun row => row = none) ?_
    (fun {s event pid p record} meets runs => ?_) member saw
  · simp [Store.needs, Stmt.writes, Write.keys, orderColumn]
  · obtain ⟨env, _, result⟩ := runs.result
    have fresh : (s.view record).orders.find booking.orderNo = none :=
      Option.isNone_iff_eq_none.mp (admitted_eq_some result).1
    -- a committed order would be in the view
    have kept := meets.2 p (List.mem_of_getElem? runs.proc) booking.orderNo
    rw [runs.slot, Slot.record_active] at kept
    by_contra there
    obtain ⟨row, found⟩ := Option.ne_none_iff_exists'.mp there
    obtain ⟨row', inView, _⟩ := kept row found
    rw [show orderColumn.read (s.view record) booking.orderNo = none from fresh] at inView
    cases inView

/-! ## What a step does to the attempts -/

/-- The attempt was there before the step, and moved forward if it moved at all. -/
structure There (s : PaySys) (paymentNo : Bytes) (row : PaymentRow) (old : PaymentRow) :
    Prop where
  found : s.db.payments.find paymentNo = some old
  isOpen : old.status ∈ openStatuses
  sameOrder : old.orderNo = row.orderNo
  sameAge : old.createdAt = row.createdAt
  settles : row.status ∈ settledStatuses → old.status.unsettled →
    ∃ p ∈ s.procs, ∃ tradeNo, Saw p.slot.record (.casPayment paymentNo .SUCCESS tradeNo) true
  unsettled : row.status.unsettled → old.status.unsettled

/-- The attempt is added in this step: outside of transactions, or by the commit of
one. -/
inductive Added (s : PaySys) (event : PayEvent) (row : PaymentRow) : Prop where
  | pooled {pid : Nat} {p : PayProc}
      (runs : s.RunsOnDb event pid p (.insertPayment row.toPaymentBooking) row.createdAt)
  | txn {p : PayProc} (member : p ∈ s.procs)
      (saw : Saw p.slot.record (.insertPayment row.toPaymentBooking) row.createdAt)

/-- What a step does to the attempts that a settlement could look up. -/
def Advances (s s' : PaySys) (event : PayEvent) : Prop :=
  ∃ added : Option PaymentRow, (∀ row ∈ added, Added s event row ∧ row.status = .INIT) ∧
    ∀ paymentNo row, s'.db.payments.find paymentNo = some row → row.status ∈ openStatuses →
      (∃ old, There s paymentNo row old) ∨ (row ∈ added ∧ s.db.payments.find paymentNo = none)

theorem There.refl {row : PaymentRow} (found : s.db.payments.find paymentNo = some row)
    (isOpen : row.status ∈ openStatuses) : There s paymentNo row row :=
  ⟨found, isOpen, rfl, rfl, fun settled unsettled =>
    absurd settled (not_settled_of_unsettled unsettled), id⟩

/-- A step that leaves the attempts alone. -/
theorem Advances.of_same
    (same : ∀ paymentNo, s'.db.payments.find paymentNo = s.db.payments.find paymentNo) :
    Advances s s' event := by
  refine ⟨none, by simp, fun paymentNo row found isOpen => Or.inl ⟨row, There.refl ?_ isOpen⟩⟩
  rw [← same, found]

/-- A step that makes one insert visible. -/
theorem Advances.of_insert {row : PaymentRow} (added : Added s event row)
    (isNew : row.status = .INIT)
    (read : ∀ paymentNo, s'.db.payments.find paymentNo =
      if row.paymentNo = paymentNo then (s.db.payments.find paymentNo).or (some row)
      else s.db.payments.find paymentNo) :
    Advances s s' event := by
  refine ⟨some row, fun row' isRow => ?_, fun paymentNo row' found isOpen => ?_⟩
  · cases Option.mem_some_iff.mp isRow
    exact ⟨added, isNew⟩
  · rw [read] at found
    split at found
    · cases there : s.db.payments.find paymentNo with
      | none =>
          rw [there, Option.none_or] at found
          exact Or.inr ⟨found, rfl⟩
      | some old =>
          rw [there, Option.some_or] at found
          cases found
          exact Or.inl ⟨row', There.refl there isOpen⟩
    · exact Or.inl ⟨row', There.refl found isOpen⟩

/-- A step that makes one move of an unsettled attempt visible. -/
theorem Advances.of_move {target : Bytes} {status : PaymentStatus} {tradeNo : Option Bytes}
    {old : PaymentRow} (found : s.db.payments.find target = some old)
    (unsettled : old.status.unsettled)
    (settles : status ∈ settledStatuses →
      ∃ p ∈ s.procs, ∃ tradeNo, Saw p.slot.record (.casPayment target .SUCCESS tradeNo) true)
    (read : ∀ paymentNo, s'.db.payments.find paymentNo =
      if target = paymentNo then (s.db.payments.find paymentNo).map (.advance status tradeNo)
      else s.db.payments.find paymentNo) :
    Advances s s' event := by
  refine ⟨none, by simp, fun paymentNo row found' isOpen => ?_⟩
  rw [read] at found'
  split at found'
  · rename_i same
    subst same
    rw [found] at found'
    cases found'
    exact Or.inl ⟨old, found, open_cases.mpr (Or.inr unsettled), rfl, rfl,
      fun settled _ => settles settled, fun _ => unsettled⟩
  · exact Or.inl ⟨row, There.refl found' isOpen⟩

/-- A step that makes one failure by primary key visible. -/
theorem Advances.of_fail {target : Bytes}
    (read : ∀ paymentNo, s'.db.payments.find paymentNo =
      if target = paymentNo then (s.db.payments.find paymentNo).map (.advance .FAIL none)
      else s.db.payments.find paymentNo) :
    Advances s s' event := by
  refine ⟨none, by simp, fun paymentNo row found isOpen => ?_⟩
  rw [read] at found
  split at found
  · obtain ⟨old, _, rfl⟩ := Option.map_eq_some_iff.mp found
    simp [PaymentRow.advance, openStatuses] at isOpen
  · exact Or.inl ⟨row, There.refl found isOpen⟩

/-- A statement on a pooled connection settles no attempt. -/
theorem advances_pooled (run : PayRun cfg ok events s) {pid : Nat} {st : Stmt} {res : st.Res}
    (runs : s.RunsOnDb event pid p st res)
    (becomes : s'.db = payStore.applyAll s.db (st.writes res)) : Advances s s' event := by
  obtain ⟨env, _, result⟩ := runs.result
  have issue := runs.issue (run.obliged (verified_serve cfg))
  have read : ∀ paymentNo, s'.db.payments.find paymentNo =
      paymentColumn.actAll (st.writes res) paymentNo (s.db.payments.find paymentNo) := by
    intro paymentNo
    rw [becomes]
    exact paymentColumn.read_applyAll s.db (st.writes res) paymentNo
  by_cases writes : st.table = some .payments
  · cases st with
    | insertPayment booking => exact .of_insert (.pooled runs) rfl read
    | casPayment target status tradeNo =>
        obtain ⟨unreturned, _, settles⟩ := issue
        cases res with
        | false => exact .of_same read
        | true =>
            have moved : (s.db.payments.find target).any (fun row =>
                [PaymentStatus.INIT, .PROCESSING].contains row.status) = true :=
              Option.some.inj result
            obtain ⟨old, found, isOpen⟩ := (Option.any_eq_true _ _).mp moved
            refine .of_move found (by simpa [PaymentStatus.unsettled] using isOpen) ?_ read
            intro settled
            have success : status = .SUCCESS := by
              simpa [settledStatuses, unreturned] using settled
            obtain ⟨entries, pooled, _⟩ := settles success
            cases pooled
    | failPayment target =>
        cases res with
        | false => exact .of_same read
        | true => exact .of_fail read
    | _ => cases writes
  · refine .of_same fun paymentNo => ?_
    rw [becomes]
    exact read_other_table paymentColumn_locked s.db res writes paymentNo

/-- A transaction writes the attempts in one statement at most. -/
theorem sole_write {log record : List PayEntry} (issued : Issued payContract log record) :
    Spares .payments record ∨ ∃ before st res after, record = before ++ .ran st res :: after ∧
      st.table = some .payments ∧ Spares .payments before ∧ Spares .payments after ∧
      ∃ log', payContract.issue log' (some before) st := by
  by_cases spares : Spares .payments record
  · exact Or.inl spares
  · obtain ⟨st, res, saw, writes⟩ : ∃ (st : Stmt) (res : st.Res), Saw record st res ∧
        st.table = some .payments := by
      simpa [Spares] using spares
    obtain ⟨before, after, split⟩ := List.append_of_mem saw
    obtain ⟨log', _, issue⟩ := issued before st res after split
    refine Or.inr ⟨before, st, res, after, split, writes, spares_of_issue issue writes, ?_, log',
      issue⟩
    -- a second one would have been issued after the first
    intro st' res' saw' writes'
    obtain ⟨mid, rest, rfl⟩ := List.append_of_mem saw'
    have later : record = (before ++ .ran st res :: mid) ++ .ran st' res' :: rest := by
      rw [split, List.append_assoc, List.cons_append]
    obtain ⟨_, _, issue'⟩ := issued _ st' res' rest later
    exact spares_of_issue issue' writes' st res (by simp [Saw]) writes

/-- A commit makes the one write of its transaction visible. -/
theorem advances_commit (run : PayRun cfg ok events s) {record : List PayEntry}
    (member : p ∈ s.procs) (isRecord : p.slot.record = record)
    (issued : Issued payContract p.log record) (becomes : s'.db = s.view record) :
    Advances s s' event := by
  rcases sole_write issued with spares | ⟨before, st, res, after, split, writes, first, last, _,
    issue⟩
  · refine .of_same fun paymentNo => ?_
    rw [becomes]
    exact spares.read paymentColumn_locked s.db paymentNo
  · have read : ∀ paymentNo, s'.db.payments.find paymentNo =
        paymentColumn.actAll (st.writes res) paymentNo (s.db.payments.find paymentNo) := by
      intro paymentNo
      have ofLast := last.read paymentColumn_locked
        (payStore.applyAll (s.view before) (st.writes res)) paymentNo
      have ofFirst := first.read paymentColumn_locked s.db paymentNo
      have view : s'.db = payStore.applyAll (payStore.applyAll (s.view before) (st.writes res))
          (payStore.pending after) := by
        rw [becomes, split]
        simp only [Sys.view, Store.pending_append, Store.pending_cons_ran]
        exact (payStore.applyAll_append s.db (payStore.pending before) _).trans
          (payStore.applyAll_append _ (st.writes res) _)
      rw [view]
      refine ofLast.trans ?_
      rw [paymentColumn.read_applyAll]
      exact congrArg (paymentColumn.actAll (st.writes res) paymentNo) ofFirst
    have saw : Saw p.slot.record st res := by
      rw [isRecord, split]
      simp [Saw]
    cases st with
    | insertPayment booking => exact .of_insert (.txn member saw) rfl read
    | casPayment target status tradeNo =>
        obtain ⟨unreturned, _, _⟩ := issue
        cases res with
        | false => exact .of_same read
        | true =>
            obtain ⟨old, found, unsettled⟩ := moved_unsettled run member saw
            refine .of_move found unsettled (fun settled => ?_) read
            have success : status = .SUCCESS := by
              simpa [settledStatuses, unreturned] using settled
            rw [success] at saw
            exact ⟨p, member, tradeNo, saw⟩
    | failPayment target =>
        have pooled : some before = none := issue
        cases pooled
    | _ => cases writes

theorem attempts_step (run : PayRun cfg ok events s)
    (stepped : s.step (serve cfg) event = some s') : Advances s s' event := by
  rcases run.step_publishes (verified_serve cfg) stepped with same | ⟨pid, p, entries, publishes,
    becomes⟩
  · exact .of_same fun paymentNo => by rw [same]
  · cases publishes with
    | pooled runs issue => exact advances_pooled run runs (by simpa [Sys.view] using becomes)
    | txn commits issued _ =>
        refine advances_commit run (List.mem_of_getElem? commits.proc) ?_ issued becomes
        rw [commits.slot, Slot.record_active]

/-! ## Where an added attempt stands -/

/-- The attempt is settled, or some process may settle it next. -/
def Contested (s : PaySys) (paymentNo : Bytes) (row : PaymentRow) : Prop :=
  row.status ∈ settledStatuses ∨ ∃ p ∈ s.procs, p.live = true ∧ MaySettle p.slot p.log paymentNo

/-- An attempt that a process may settle is committed. -/
theorem maySettle_committed (run : PayRun cfg ok events s) (member : p ∈ s.procs)
    (may : MaySettle p.slot p.log paymentNo) : s.db.payments.find paymentNo ≠ none := by
  rcases may with ⟨tradeNo, saw⟩ | ⟨payment, message, ⟨last, _⟩ | ⟨locked, _⟩, rfl, _⟩
  · obtain ⟨row, found, _⟩ := moved_unsettled run member saw
    simp [found]
  · obtain ⟨row, found, _⟩ := attempt_known run member (List.mem_of_getLast? last)
    simp [found]
  · exact locked_committed run member locked

/-- An attempt that is added to an order beside an open one is newer than it, if
that one is contested. -/
theorem added_apart (run : PayRun cfg ok events s) (guarded : attemptsGuarded s event = true)
    {added row : PaymentRow} (isAdded : Added s event added)
    (found : s.db.payments.find paymentNo = some row) (isOpen : row.status ∈ openStatuses)
    (sameOrder : row.orderNo = added.orderNo) :
    added.createdAt < row.createdAt ∨
      (row.createdAt < added.createdAt ∧ ¬ Contested s paymentNo row) := by
  cases isAdded with
  | @pooled pid p runs =>
      obtain ⟨env, rfl, result⟩ := runs.result
      obtain ⟨_, isNow⟩ := admitted_eq_some result
      obtain ⟨_, probe, _⟩ : BookingPromise p.log none added.toPaymentBooking :=
        runs.issue (run.obliged (verified_serve cfg))
      obtain ⟨inRows, rfl⟩ := Table.find_eq_some_iff.mp found
      simp only [attemptsGuarded, runs.executing, runs.knowing, List.all_eq_true] at guarded
      have isListed : openStatuses.contains row.status = true := List.contains_iff_mem.mpr isOpen
      have apart : added.createdAt < row.createdAt ∨
          (row.createdAt < added.createdAt ∧ uncontested s p.log row = true) := by
        simpa [sameOrder, isListed, isNow, -List.contains_eq_mem] using guarded row inRows
      refine apart.imp_right fun ⟨older, calm⟩ => ⟨older, ?_⟩
      -- the answer of the probe was empty, or the attempt would not be added
      have unsettled : row.status ∉ settledStatuses := by
        intro settled
        rw [uncontested, if_pos (List.contains_iff_mem.mpr settled), probed_nil probe] at calm
        cases calm
      rw [uncontested, if_neg (by simpa using unsettled), List.all_eq_true] at calm
      rintro (settled | ⟨q, member, live, may⟩)
      · exact unsettled settled
      · have quiet := calm q member
        rw [maySettle_of live may] at quiet
        cases quiet
  | @txn p member saw =>
      obtain ⟨before, after, split⟩ := List.append_of_mem saw
      obtain ⟨log', _, _, _, order, now, inserted, isOrder, _⟩ :=
        run.issued (verified_serve cfg) p member before _ _ after split
      have fresh : s.db.orders.find order.orderNo = none :=
        inserted_uncommitted run member (by rw [split]; exact List.mem_append_left _ inserted)
      obtain ⟨there, isThere, _⟩ := worth_orders run paymentNo row found
      rw [isOrder, ← sameOrder, isThere] at fresh
      cases fresh

/-! ## What a lookup finds -/

/-- A lookup finds the newest attempt, where no two are of one age. -/
theorem Lined.looked (lined : Lined s) {env : Env} {orderNo : Bytes} {payment : PaymentRow}
    (first : (s.db.attempts env orderNo openStatuses).head? = some payment) :
    Newest s.db payment := by
  have ran : (Stmt.newestAttempt orderNo openStatuses).run s.db env = some (some payment) :=
    congrArg some first
  obtain ⟨isOrder, isOpen⟩ : payment.orderNo = orderNo ∧ payment.status ∈ openStatuses :=
    Stmt.run_possible ran payment rfl
  have found := Db.find_of_attempts first
  intro rivalNo rival isRival sameOrder rivalOpen different
  have listed : rival ∈ s.db.payments.rows.filter fun row =>
      row.orderNo = orderNo && openStatuses.contains row.status := by
    simp [(Table.find_eq_some_iff.mp isRival).1, sameOrder, isOrder, rivalOpen]
  refine Nat.lt_of_le_of_ne (newestFirst_head first listed) fun sameAge => different ?_
  exact lined.distinct rivalNo payment.paymentNo rival payment isRival found sameOrder rivalOpen
    isOpen sameAge

/-- A callback settles nothing. -/
theorem MaySettle.of_calm {slot slot' : Slot paySig} {log log' : List PayEntry}
    (calm : Sys.Calm slot log slot' log') (started : log ≠ [])
    (may : MaySettle slot' log' paymentNo) : MaySettle slot log paymentNo := by
  obtain ⟨kept, extra, rfl, quiet⟩ := calm
  have inSlot : ∀ {entry : PayEntry}, entry ∈ slot'.record → entry ∈ slot.record := by
    intro entry member
    rcases kept with same | dropped
    · rwa [same] at member
    · rw [dropped] at member
      cases member
  rcases may with ⟨tradeNo, saw⟩ | ⟨payment, message, held, isKey, books⟩
  · exact Or.inl ⟨tradeNo, inSlot saw⟩
  · refine Or.inr ⟨payment, message, ?_, isKey, books⟩
    rcases held with ⟨last, heard⟩ | ⟨locked, head⟩
    · rcases List.eq_nil_or_concat extra with rfl | ⟨init, final, rfl⟩
      · rw [List.append_nil] at last heard
        exact Or.inl ⟨last, heard⟩
      · simp only [List.concat_eq_append, ← List.append_assoc, List.getLast?_append,
          List.getLast?_singleton, Option.some_or, Option.some.injEq] at last
        have noise := quiet final (by simp)
        rw [last] at noise
        exact noise.elim
    · refine Or.inr ⟨inSlot locked, ?_⟩
      obtain ⟨first, rest, rfl⟩ := List.exists_cons_of_ne_nil started
      exact head

/-- Who may settle an attempt after the action of a process could before, or has just
been shown the attempt as the newest. -/
theorem maySettle_acted (run : PayRun cfg ok events s) (lined : Lined s) {pid : Nat}
    {slot : Slot paySig} {log : List PayEntry} {commits : List payStore.Write}
    (proc : s.procs[pid]? = some p) (acts : s.Acts event pid p slot log commits)
    (may : MaySettle slot log paymentNo) :
    MaySettle p.slot p.log paymentNo ∨
      (commits = [] ∧ ∃ row, s.db.payments.find paymentNo = some row ∧ Newest s.db row) := by
  have obliged := run.obliged (verified_serve cfg)
  have member := List.mem_of_getElem? proc
  cases acts with
  | calm calm => exact Or.inl (may.of_calm calm (run.log_ne_nil member List.prefix_rfl))
  | @onDb st res runs =>
      rcases may with moved | ⟨payment, message, ⟨last, heard⟩ | ⟨locked, head⟩, isKey, books⟩
      · exact Or.inl (Or.inl moved)
      · rw [List.getLast?_concat] at last
        cases Option.some.inj last
        obtain ⟨env, _, result⟩ := runs.result
        have first := Option.some.inj result
        exact Or.inr ⟨rfl, payment, isKey ▸ Db.find_of_attempts first, lined.looked first⟩
      · refine Or.inl (Or.inr ⟨payment, message, Or.inr ⟨locked, ?_⟩, isKey, books⟩)
        obtain ⟨request, isFirst⟩ := run.owned p member
        rw [head_of_longer isFirst (List.prefix_append _ _)] at head
        exact isFirst.trans head
  | @onTxn record st res runs =>
      have issue := runs.issue obliged
      rw [runs.slot]
      rcases may with ⟨tradeNo, saw⟩ | ⟨payment, message, ⟨last, heard⟩ | ⟨locked, head⟩, isKey,
        books⟩
      · rcases List.mem_append.mp saw with old | new
        · exact Or.inl (Or.inl ⟨tradeNo, old⟩)
        · cases List.mem_singleton.mp new
          obtain ⟨entries, isRecord, payment, message, _, held, isKey, _, books, _⟩ :=
            issue.2.2 rfl
          cases isRecord
          exact Or.inl (Or.inr ⟨payment, message, held, isKey, books⟩)
      · exact Or.inl (Or.inr ⟨payment, message, Or.inl ⟨last, heard⟩, isKey, books⟩)
      · rcases List.mem_append.mp locked with old | new
        · exact Or.inl (Or.inr ⟨payment, message, Or.inr ⟨old, head⟩, isKey, books⟩)
        · cases List.mem_singleton.mp new
          -- the lock is the first statement, so it saw the committed rows
          have first : some record = some [] := issue
          cases first
          obtain ⟨env, _, result⟩ := runs.result
          have first : (s.db.attempts env payment.orderNo openStatuses).head? = some payment :=
            Option.some.inj result
          exact Or.inr ⟨rfl, payment, isKey ▸ Db.find_of_attempts first, lined.looked first⟩
  | @commit record commits =>
      rcases may with ⟨_, saw⟩ | ⟨payment, message, ⟨last, heard⟩ | ⟨locked, _⟩, isKey, books⟩
      · cases saw
      · rcases List.eq_nil_or_concat record with rfl | ⟨init, final, rfl⟩
        · rw [List.append_nil] at last heard
          exact Or.inl (Or.inr ⟨payment, message, Or.inl ⟨last, heard⟩, isKey, books⟩)
        · -- no transaction looks an attempt up without its lock
          rw [List.concat_eq_append, ← List.append_assoc, List.getLast?_concat] at last
          cases Option.some.inj last
          have issued := run.issued (verified_serve cfg) p member
          rw [commits.slot] at issued
          obtain ⟨_, _, pooled⟩ := issued init _ _ [] (List.concat_eq_append ..)
          have outside : some init = none := pooled
          cases outside
      · cases locked

/-- Who may settle an attempt after a step could before, or has just been shown the
attempt as the newest. -/
theorem maySettle_step (run : PayRun cfg ok events s) (lined : Lined s)
    (stepped : s.step (serve cfg) event = some s') {r : PayProc} (member : r ∈ s'.procs)
    (live : r.live = true) (may : MaySettle r.slot r.log paymentNo) :
    (∃ p ∈ s.procs, p.live = true ∧ MaySettle p.slot p.log paymentNo) ∨
      (s'.db = s.db ∧ ∃ row, s.db.payments.find paymentNo = some row ∧ Newest s.db row) := by
  rcases Sys.step_cases stepped with ⟨request, _, rfl⟩ | ⟨pid, p, slot, log, m, moves, rfl⟩
  · rcases List.mem_append.mp member with old | new
    · exact Or.inl ⟨r, old, live, may⟩
    · cases List.mem_singleton.mp new
      rcases may with ⟨_, saw⟩ | ⟨_, _, ⟨last, _⟩ | ⟨locked, _⟩, _⟩
      · cases saw
      · cases last
      · cases locked
  · have isProc := List.mem_of_getElem? moves.proc
    have acted : p.live = true → MaySettle m.next.1.slot m.next.1.log paymentNo →
        (∃ p ∈ s.procs, p.live = true ∧ MaySettle p.slot p.log paymentNo) ∨
          ((s.after pid m).db = s.db ∧
            ∃ row, s.db.payments.find paymentNo = some row ∧ Newest s.db row) := by
      intro alive may
      have started := run.log_ne_nil isProc moves.acts.longer
      rcases maySettle_acted run lined moves.proc moves.acts (may.of_calm moves.settles started)
        with before | ⟨nothing, shown⟩
      · exact Or.inl ⟨p, isProc, alive, before⟩
      · refine Or.inr ⟨?_, shown⟩
        simp only [Sys.after, nothing]
        rfl
    rcases Sys.mem_procs_after member with rfl | ⟨kid, isKid, rfl⟩ | ⟨other, _, found⟩
    · rcases moves.next with next | crashed
      · exact acted next.live may
      · rw [crashed] at live
        cases live
    · rcases moves.next with next | crashed
      · have started := run.log_ne_nil isProc moves.longer
        exact acted next.live
          (may.of_calm ⟨Or.inr rfl, [], (List.append_nil _).symm, by simp⟩ started)
      · rw [crashed] at isKid
        cases isKid
    · exact Or.inl ⟨r, List.mem_of_getElem? found, live, may⟩

/-! ## Every step keeps the line -/

/-- A contested attempt is the newest. -/
theorem Lined.contested (lined : Lined s) {row : PaymentRow}
    (found : s.db.payments.find paymentNo = some row) (isOpen : row.status ∈ openStatuses)
    (contested : Contested s paymentNo row) : Newest s.db row := by
  rcases open_cases.mp isOpen with settled | unsettled
  · exact lined.settled paymentNo row found settled
  · rcases contested with settled | ⟨p, member, live, may⟩
    · exact absurd settled (not_settled_of_unsettled unsettled)
    · exact lined.held p member live paymentNo row may found unsettled

/-- A contested attempt stays the newest: none is added to its order. -/
theorem Lined.ahead (lined : Lined s) (run : PayRun cfg ok events s)
    (guarded : attemptsGuarded s event = true) (advances : Advances s s' event)
    {row old : PaymentRow} (there : There s paymentNo row old)
    (contested : Contested s paymentNo old) (found : s'.db.payments.find paymentNo = some row) :
    Newest s'.db row := by
  obtain ⟨added, isAdded, origin⟩ := advances
  have newest := lined.contested there.found there.isOpen contested
  have sameKey : old.paymentNo = row.paymentNo :=
    (Db.paymentNo_of_find there.found).trans (Db.paymentNo_of_find found).symm
  intro rivalNo rival isRival sameOrder rivalOpen different
  rcases origin rivalNo rival isRival rivalOpen with ⟨before, wasThere⟩ | ⟨isNew, _⟩
  · have older : before.createdAt < old.createdAt :=
      newest rivalNo before wasThere.found
        (by rw [wasThere.sameOrder, sameOrder, there.sameOrder]) wasThere.isOpen
        (by rwa [sameKey])
    rwa [wasThere.sameAge, there.sameAge] at older
  · rcases added_apart run guarded (isAdded rival isNew).1 there.found there.isOpen
      (by rw [there.sameOrder, sameOrder]) with older | ⟨_, free⟩
    · rwa [there.sameAge] at older
    · exact absurd contested free

/-- No two attempts come to be of one age. -/
theorem Lined.apart (lined : Lined s) (run : PayRun cfg ok events s)
    (guarded : attemptsGuarded s event = true) (advances : Advances s s' event)
    {paymentNo' : Bytes} {row row' : PaymentRow} (found : s'.db.payments.find paymentNo = some row)
    (found' : s'.db.payments.find paymentNo' = some row') (sameOrder : row.orderNo = row'.orderNo)
    (isOpen : row.status ∈ openStatuses) (isOpen' : row'.status ∈ openStatuses)
    (sameAge : row.createdAt = row'.createdAt) : paymentNo = paymentNo' := by
  obtain ⟨added, isAdded, origin⟩ := advances
  have beside : ∀ {no : Bytes} {new old there : PaymentRow}, new ∈ added → There s no there old →
      there.orderNo = new.orderNo → new.createdAt ≠ there.createdAt := by
    intro no new old there isNew wasThere sameOrder
    rw [← wasThere.sameAge]
    rcases added_apart run guarded (isAdded new isNew).1 wasThere.found wasThere.isOpen
      (by rw [wasThere.sameOrder, sameOrder]) with older | ⟨newer, _⟩
    · exact Nat.ne_of_lt older
    · exact Nat.ne_of_gt newer
  rcases origin paymentNo row found isOpen with ⟨old, there⟩ | ⟨isNew, _⟩
  · rcases origin paymentNo' row' found' isOpen' with ⟨old', there'⟩ | ⟨isNew', _⟩
    · exact lined.distinct paymentNo paymentNo' old old' there.found there'.found
        (by rw [there.sameOrder, there'.sameOrder, sameOrder]) there.isOpen there'.isOpen
        (by rw [there.sameAge, there'.sameAge, sameAge])
    · exact absurd sameAge.symm (beside isNew' there sameOrder)
  · rcases origin paymentNo' row' found' isOpen' with ⟨old', there'⟩ | ⟨isNew', _⟩
    · exact absurd sameAge (beside isNew there' sameOrder.symm)
    · cases Option.mem_unique isNew isNew'
      rw [← Db.paymentNo_of_find found, Db.paymentNo_of_find found']

theorem Lined.step (lined : Lined s) (run : PayRun cfg ok events s)
    (guarded : attemptsGuarded s event = true) (stepped : s.step (serve cfg) event = some s') :
    Lined s' := by
  have advances := attempts_step run stepped
  refine ⟨fun paymentNo paymentNo' row row' => lined.apart run guarded advances, ?_, ?_⟩
  · intro paymentNo row found settled
    obtain ⟨added, isAdded, origin⟩ := id advances
    rcases origin paymentNo row found (open_cases.mpr (Or.inl settled)) with ⟨old, there⟩ |
      ⟨isNew, _⟩
    · refine lined.ahead run guarded advances there ?_ found
      rcases open_cases.mp there.isOpen with wasSettled | unsettled
      · exact Or.inl wasSettled
      · obtain ⟨p, member, tradeNo, saw⟩ := there.settles settled unsettled
        exact Or.inr ⟨p, member, Proc.live_of_record saw, Or.inl ⟨tradeNo, saw⟩⟩
    · rw [(isAdded row isNew).2] at settled
      simp [settledStatuses] at settled
  · intro r member live paymentNo row may found unsettled
    rcases maySettle_step run lined stepped member live may with ⟨p, isProc, alive, before⟩ |
      ⟨same, shown, isShown, newest⟩
    · obtain ⟨added, isAdded, origin⟩ := id advances
      rcases origin paymentNo row found (open_cases.mpr (Or.inr unsettled)) with ⟨old, there⟩ |
        ⟨_, absent⟩
      · exact lined.ahead run guarded advances there (Or.inr ⟨p, isProc, alive, before⟩) found
      · exact absurd absent (maySettle_committed run isProc before)
    · rw [same] at found ⊢
      cases isShown.symm.trans found
      exact newest

end Runs

/-- In every run whose steps meet the condition, the attempts stand in line. -/
theorem lined {cfg : Config} {events : List PayEvent} {s : PaySys}
    (run : PayRun cfg (fun s event => attemptsGuarded s event = true) events s) : Lined s := by
  induction run with
  | nil =>
      refine ⟨?_, ?_, by simp [Sys.initial]⟩
      · intro paymentNo paymentNo' row row' found
        simp [Sys.initial, Db.empty, Table.find, Table.empty] at found
      · intro paymentNo row found
        simp [Sys.initial, Db.empty, Table.find, Table.empty] at found
  | snoc run meets stepped inductionHypothesis => exact inductionHypothesis.step run meets stepped

def qrOnWechat (idempotencyKey : String) : Json :=
  Json.object [("order_no", Json.text "o"), ("amount", Json.text "10.00"),
    ("channel", Json.text "wechat"), ("user_id", .int 1),
    ("idempotency_key", Json.text idempotencyKey)]

/-- An order is offered, and a retry of it has made its checks. -/
def retried : List PayEvent :=
  [.spawn (.createQRPayment (qrOnWechat "k1") (drawn "p") 0)] ++ steps 0 4 1 ++
    [.answer 0 codeUrl] ++ steps 0 2 1 ++
    [.spawn (.createQRPayment (qrOnWechat "k2") (drawn "q") 0)] ++ steps 1 3 2

/-- The retry books its attempt, and then the order is paid. -/
def retriedThenPaid : List PayEvent :=
  retried ++ steps 1 1 3 ++ [.spawn (.paymentNotification paidNotice (drawn "k1"))] ++ steps 2 11 4

end PaymentService
end DrogonPay
