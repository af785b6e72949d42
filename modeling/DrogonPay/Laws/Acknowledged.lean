import DrogonPay.Laws.Ownership
import DrogonPay.Promises.Replies

/-!
Contract: a WeChat success that is acknowledged is booked.

Owns:
- `Settled`, "the payment of the order, or the refund, was committed as settled";
- `trustsKey`, by which no reservation is taken for a settlement that it is not,
  and `refundAlive`, by which a refund that succeeds was not given up before;
- `payment_acknowledged` and `refund_acknowledged`: in every run that meets them,
  what is acknowledged is settled;
- a client request that reserved the key of a notification, and a refund that
  was reported ABNORMAL before it succeeded.

Does not own: the grounds of an acknowledgement; those are `Grounds`.
-/

namespace DrogonPay

open ReadCommitted

/-- Some committed state shows the subject settled. -/
def Settled (history : List Db) : Subject → Prop
  | .order orderNo => ∃ db ∈ history, ∃ paymentNo row,
      db.payments.find paymentNo = some row ∧ row.orderNo = orderNo ∧
        (row.status = .SUCCESS ∨ row.status = .REFUNDED)
  | .refund refundNo => ∃ db ∈ history, ∃ row,
      db.refunds.find refundNo = some row ∧ row.status = .REFUND_SUCCESS

open CallbackService in
/-- The order or the refund a WeChat notification settles. -/
def Request.settles : Request → Option Subject
  | .paymentNotification notification _ => do
      let notice ← PaymentNotice.of notification.plain
      if (PayUtils.mapTradeState notice.tradeState).2 = .SUCCESS then some (.order notice.orderNo)
      else none
  | .refundNotification notification _ => do
      let notice ← RefundNotice.of notification.plain
      if PayUtils.mapRefundStatus notice.refundStatusRaw = some .REFUND_SUCCESS then
        some (.refund notice.refundNo)
      else none
  | _ => none

namespace CallbackService

def finalizesKey (key : Bytes) : PayEntry → Bool
  | .ran (.finalizeReservation target _ _) (matched : Bool) => matched && target = key
  | _ => false

/-- A notification that settles the subject has finalized the key. -/
def settledUnder (subject : Subject) (key : Bytes) (log : List PayEntry) : Bool :=
  (requestOf log).bind Request.settles = some subject && log.any (finalizesKey key)

/-- The subject whose success process `pid` was notified of. -/
def notified (s : PaySys) (pid : Nat) : Option Subject :=
  (s.procs[pid]?).bind fun p => (requestOf p.log).bind Request.notifies

/-- When a notification of the subject finds its key finalized, another
notification that settles the same subject has finalized it. -/
def trustsKey (subject : Subject) (s : PaySys) (event : PayEvent) : Bool :=
  match s.executing event, event.mover with
  | some (.findIdempotency key, seen), some pid =>
      notified s pid ≠ some subject || (seen.snapshot key).isNone ||
        s.procs.any fun p => settledUnder subject key p.log
  | _, _ => true

/-- When a notification is about to settle the refund, its row has not failed. -/
def refundAlive (refundNo : Bytes) (s : PaySys) (event : PayEvent) : Bool :=
  match s.executing event, event.mover with
  | some (.casRefund target _ _, seen), some pid =>
      notified s pid ≠ some (.refund refundNo) ||
        !(seen.refunds.find target).any fun row => row.status = .REFUND_FAIL
  | _, _ => true

/-- Whatever success of the subject was acknowledged is settled. -/
def AcknowledgedSettled (subject : Subject) (s : PaySys) : Prop :=
  ∀ p ∈ s.procs, ∀ request, Owner p.log request → request.notifies = some subject →
    ∀ out, .replied out ∈ p.log → out.acknowledges = true → Settled s.history subject

/-! ## A settlement that was finalized -/

theorem Settled.later {history : List Db} {subject : Subject} (settled : Settled history subject)
    (now : Db) : Settled (now :: history) subject := by
  cases subject with
  | order orderNo =>
      obtain ⟨db, member, found⟩ := settled
      exact ⟨db, List.mem_cons_of_mem _ member, found⟩
  | refund refundNo =>
      obtain ⟨db, member, found⟩ := settled
      exact ⟨db, List.mem_cons_of_mem _ member, found⟩

theorem settles_of_notifies {request : Request} {subject : Subject}
    (notifies : request.notifies = some subject) : request.settles = some subject := by
  cases request with
  | paymentNotification notification ownerToken =>
      obtain ⟨notice, read, isSubject⟩ := Option.bind_eq_some_iff.mp notifies
      refine Option.bind_eq_some_iff.mpr ⟨notice, read, ?_⟩
      split at isSubject
      · rename_i isSuccess
        rw [isSuccess]
        exact isSubject
      · cases isSubject
  | refundNotification notification ownerToken =>
      obtain ⟨notice, read, isSubject⟩ := Option.bind_eq_some_iff.mp notifies
      refine Option.bind_eq_some_iff.mpr ⟨notice, read, ?_⟩
      split at isSubject
      · rename_i isSuccess
        rw [isSuccess]
        exact isSubject
      · cases isSubject
  | _ => cases notifies

theorem isDelivery_of_settles {request : Request} {subject : Subject}
    (settles : request.settles = some subject) : IsDelivery request := by
  cases request with
  | paymentNotification notification ownerToken => exact Or.inl ⟨_, _, rfl⟩
  | refundNotification notification ownerToken => exact Or.inr ⟨_, _, rfl⟩
  | _ => cases settles

theorem not_unpaid_of_settles {request : Request} {subject : Subject}
    (settles : request.settles = some subject) : ¬ Unpaid request := by
  rintro ⟨notification, ownerToken, rfl, unpaid⟩
  obtain ⟨notice, read, isSubject⟩ := Option.bind_eq_some_iff.mp settles
  split at isSubject
  · rename_i success
    exact unpaid ⟨notice, read, success⟩
  · cases isSubject

section Runs

variable {cfg : Config} {ok : PaySys → PayEvent → Prop} {events : List PayEvent} {s : PaySys}
  {p : PayProc}

/-- The commit of a finalized settlement shows its subject settled. -/
theorem settled_committed (run : PayRun cfg ok events s) (member : p ∈ s.procs)
    {request : Request} {subject : Subject} {entries : List PayEntry} {delivery : Delivery}
    (settles : request.settles = some subject) (settlement : Settlement p.log request entries)
    (record : p.slot.record = entries ++ [.ran (.finalizeReservation delivery.idempotencyKey
      delivery.ownerToken delivery.plain) true]) :
    Settled (s.view p.slot.record :: s.history) subject := by
  cases request with
  | paymentNotification notification ownerToken =>
      obtain ⟨notice, read, isSubject⟩ := Option.bind_eq_some_iff.mp settles
      split at isSubject
      · cases isSubject
        obtain ⟨notice', payment, order, read', settled⟩ :=
          payment_committed run member settlement record
        obtain rfl : notice' = notice := Option.some.inj (read'.symm.trans read)
        exact ⟨_, List.mem_cons_self, payment.paymentNo, payment, settled.attempt, settled.ofOrder,
          Or.inl settled.paid⟩
      · cases isSubject
  | refundNotification notification ownerToken =>
      obtain ⟨notice, read, isSubject⟩ := Option.bind_eq_some_iff.mp settles
      split at isSubject
      · rename_i isSuccess
        cases isSubject
        obtain ⟨notice', refund, read', settled⟩ := refund_committed run member settlement record
        obtain rfl : notice' = notice := Option.some.inj (read'.symm.trans read)
        refine ⟨_, List.mem_cons_self, refund, settled.row, ?_⟩
        exact Option.some.inj (settled.mapped.symm.trans isSuccess)
      · cases isSubject
  | _ => cases settles

/-- The log holds a finalized reservation. -/
def HasFinalized (log : List PayEntry) : Prop :=
  ∃ key ownerToken snapshot, Saw log (.finalizeReservation key ownerToken snapshot) true

/-- What a commit with a finalized reservation settles. -/
theorem settled_of_commit (run : PayRun cfg ok events s) (member : p ∈ s.procs)
    {request : Request} {subject : Subject} {record : List PayEntry}
    (owner : Owner p.log request) (settles : request.settles = some subject)
    (isRecord : p.slot.record = record) (commit : DeliveryCommit p.log record)
    (finalized : HasFinalized record) : Settled (s.view record :: s.history) subject := by
  obtain ⟨key, ownerToken, snapshot, saw⟩ := finalized
  have writes : Write.setSnapshot key snapshot ∈ payStore.pending record :=
    List.mem_flatMap.mpr ⟨_, saw, by simp [Stmt.writes, Stmt.matched]⟩
  rcases commit with unwritten | ⟨request', delivery, entries, owner', _, settlement, _, split⟩ |
    ⟨⟨request', owner', unpaid⟩, _⟩
  · rw [unwritten] at writes
    cases writes
  · obtain rfl := Owner.unique owner owner'
    rw [← isRecord] at split ⊢
    exact settled_committed run member settles settlement split
  · obtain rfl := Owner.unique owner owner'
    exact absurd unpaid (not_unpaid_of_settles settles)

/-- A notification that settles its subject and has finalized a reservation has
settled the subject. -/
theorem settled_of_finalized (run : PayRun cfg ok events s) :
    ∀ p ∈ s.procs, ∃ request, Owner p.log request ∧ ∀ subject, request.settles = some subject →
      HasFinalized p.log → Settled s.history subject := by
  have grows : ∀ {history : List Db} {log more : List PayEntry} {request : Request},
      (Owner log request ∧ ∀ subject, request.settles = some subject → HasFinalized log →
        Settled history subject) →
      (∀ subject, request.settles = some subject → HasFinalized more →
        Settled history subject) →
      ∃ request, Owner (log ++ more) request ∧ ∀ subject, request.settles = some subject →
        HasFinalized (log ++ more) → Settled history subject := by
    rintro history log more request ⟨owner, known⟩ new
    refine ⟨request, owner.append more, fun subject settles => ?_⟩
    rintro ⟨key, ownerToken, snapshot, saw⟩
    rcases List.mem_append.mp saw with old | added
    · exact known subject settles ⟨key, ownerToken, snapshot, old⟩
    · exact new subject settles ⟨key, ownerToken, snapshot, added⟩
  have calmly : ∀ {more : List PayEntry}, (∀ entry ∈ more, entry.Quiet) → ¬ HasFinalized more := by
    rintro more quiet ⟨key, ownerToken, snapshot, saw⟩
    exact quiet _ saw
  induction run with
  | nil => simp [Sys.initial]
  | @snoc _ event s s' run meets stepped inductionHypothesis =>
      rcases Sys.step_cases stepped with ⟨request, _, rfl⟩ | ⟨pid, p, slot, log, m, moves, rfl⟩
      · intro p member
        rcases List.mem_append.mp member with old | new
        · exact inductionHypothesis p old
        · rw [List.mem_singleton.mp new]
          exact ⟨request, rfl, fun subject _ finalized =>
            absurd finalized (calmly (by simp [Proc.spawn, Entry.Quiet]))⟩
      · have later : ∀ {r : PayProc}, r ∈ s.procs → ∃ request, Owner r.log request ∧
            ∀ subject, request.settles = some subject → HasFinalized r.log →
              Settled (s.after pid m).history subject := by
          intro r member
          obtain ⟨request, owner, known⟩ := inductionHypothesis r member
          exact ⟨request, owner, fun subject settles finalized =>
            Settled.later (known subject settles finalized) _⟩
        have member := List.mem_of_getElem? moves.proc
        obtain ⟨request, owner, known⟩ := later member
        have obligation : ∀ {subject}, request.settles = some subject →
            deliveryContract.Obligation p := fun settles =>
          (verified_delivery run member owner (isDelivery_of_settles settles)).obligation
        refine Sys.forall_after (P := fun _ log => ∃ request, Owner log request ∧
          ∀ subject, request.settles = some subject → HasFinalized log →
            Settled (s.after pid m).history subject) moves ?_ ?_
          fun other r _ found => later (List.mem_of_getElem? found)
        · rintro slot log slot' log' ⟨_, extra, rfl, quiet⟩ ⟨request, known⟩
          exact grows known fun _ _ finalized => absurd finalized (calmly quiet)
        · have acts := moves.acts
          simp only [Sys.after, Sys.history] at known ⊢
          generalize m.commits = commits at acts known
          cases acts with
          | calm calm =>
              obtain ⟨_, extra, rfl, quiet⟩ := calm
              exact grows ⟨owner, known⟩ fun _ _ finalized => absurd finalized (calmly quiet)
          | onTxn _ => exact ⟨request, owner, known⟩
          | @onDb st res runs =>
              refine grows ⟨owner, known⟩ ?_
              rintro subject settles ⟨key, ownerToken, snapshot, saw⟩
              cases List.mem_singleton.mp saw
              obtain ⟨request', _, owner', _, _, _, _, _, unpaid⟩ :=
                runs.issued (obligation settles)
              obtain rfl := Owner.unique owner owner'
              exact absurd unpaid (not_unpaid_of_settles settles)
          | @commit record commits =>
              refine grows ⟨owner, known⟩ fun subject settles finalized => ?_
              exact settled_of_commit run member owner settles
                (by rw [commits.slot, Slot.record_active])
                (commits.committed (obligation settles)) finalized

/-! ## Attempts under a lock -/

/-- An attempt that the transaction has locked, and not written, is as it was. -/
def LockedAsSeen (record : List PayEntry) (paymentNo : Bytes) (row : Option PaymentRow) : Prop :=
  ∀ orderNo payment,
    Saw record (.lockAttempt orderNo PaymentService.openStatuses) (some payment) →
    payment.paymentNo = paymentNo →
    (∀ (st : Stmt) (res : st.Res), Saw record st res → st.table ≠ some .payments) →
    row = some payment

theorem locked_as_seen (run : PayRun cfg ok events s) (member : p ∈ s.procs) (paymentNo : Bytes) :
    LockedAsSeen p.slot.record paymentNo
      ((s.view p.slot.record).payments.find paymentNo) := by
  let Pin (record : List PayEntry) (paymentNo : Bytes) (_ row : Option PaymentRow) : Prop :=
    LockedAsSeen record paymentNo row
  have pinned : ∀ p ∈ s.procs, ∀ paymentNo, Pin p.slot.record paymentNo
      (paymentColumn.read s.db paymentNo) (paymentColumn.read (s.view p.slot.record) paymentNo) := by
    refine Run.pinned ?_ ?_ run
    · intro record paymentNo row unlocked orderNo payment saw isPayment _
      refine absurd ?_ unlocked
      refine List.mem_flatMap.mpr ⟨_, saw, ?_⟩
      simp [Store.needs, Stmt.grabs, paymentColumn, isPayment]
    · intro s event pid p record st res _ runs paymentNo before orderNo payment saw isPayment
        unwritten
      have other : st.table ≠ some .payments := unwritten st res Saw.last
      rw [read_other_table paymentColumn_locked _ res other]
      rcases List.mem_append.mp saw with old | new
      · exact before orderNo payment old isPayment fun st' res' earlier =>
          unwritten st' res' (earlier.append _)
      · obtain ⟨env, _, result⟩ := runs.result
        cases List.mem_singleton.mp new
        rw [← isPayment]
        exact Db.find_of_attempts (Option.some.inj result)
  exact pinned p member paymentNo

/-! ## What an answer to a statement is worth -/

/-- What is true whenever a statement of a notification of `subject` runs. -/
def Witness (subject : Subject) (history : List Db) : (st : Stmt) → st.Res → Prop
  | .findIdempotency _, (res : Option IdempotencyRow) =>
      ∀ existing ∈ res, existing.responseSnapshot.isSome → Settled history subject
  | .lockAttempt orderNo _, (res : Option PaymentRow) =>
      ∀ payment ∈ res, payment.status = .SUCCESS ∨ payment.status = .REFUNDED →
        Settled history (.order orderNo)
  | .casPayment _ _ _, (res : Bool) => res = true
  | .findRefund refundNo, (res : Option RefundRow) =>
      ∀ refund ∈ res, refund.status = .REFUND_SUCCESS → Settled history (.refund refundNo)
  | .casRefund refundNo status _, (res : Option Nat) =>
      subject = .refund refundNo → status = .REFUND_SUCCESS → res = none →
        Settled history subject
  | _, _ => True

theorem Witness.later {subject : Subject} {history : List Db} (now : Db) {st : Stmt} {res : st.Res}
    (witness : Witness subject history st res) : Witness subject (now :: history) st res := by
  cases st with
  | findIdempotency key =>
      exact fun existing member finished => Settled.later (witness existing member finished) now
  | lockAttempt orderNo statuses =>
      exact fun payment member settled => Settled.later (witness payment member settled) now
  | casPayment paymentNo status tradeNo => exact witness
  | findRefund refundNo =>
      exact fun refund member settled => Settled.later (witness refund member settled) now
  | casRefund refundNo status refundId =>
      exact fun isSubject isSuccess lost => Settled.later (witness isSubject isSuccess lost) now
  | _ => trivial

variable {event : PayEvent} {pid : Nat} {request : Request} {subject : Subject}

theorem notified_eq (proc : s.procs[pid]? = some p) (owner : Owner p.log request) :
    notified s pid = request.notifies := by
  simp [notified, proc, requestOf_owner owner]

/-- A key that is found finalized is that of a settlement of the subject. -/
theorem witness_findIdempotency (run : PayRun cfg ok events s)
    (trusts : trustsKey subject s event = true) (isMover : event.mover = some pid)
    (proc : s.procs[pid]? = some p) (owner : Owner p.log request)
    (notifies : request.notifies = some subject) {key : Bytes} {seen : Db}
    (executes : s.executing event = some (.findIdempotency key, seen)) :
    Witness subject s.history (.findIdempotency key) (seen.idempotency.find key) := by
  intro existing found finished
  rw [Option.mem_def] at found
  have snapshot : (seen.snapshot key).isNone = false := by
    rw [Db.snapshot, found, Option.bind_some]
    exact Option.isNone_eq_false_iff.mpr finished
  simp only [trustsKey, executes, isMover, notified_eq proc owner, notifies, snapshot, ne_eq,
    not_true_eq_false, decide_false, Bool.false_or, List.any_eq_true, settledUnder,
    Bool.and_eq_true, decide_eq_true_eq] at trusts
  obtain ⟨q, member, isSubject, entry, known, finalizes⟩ := trusts
  obtain ⟨owner', isOwner, settled⟩ := settled_of_finalized run q member
  rw [requestOf_owner isOwner, Option.bind_some] at isSubject
  refine settled subject isSubject ?_
  unfold finalizesKey at finalizes
  split at finalizes
  · rename_i target ownerToken snapshot matched
    simp only [Bool.and_eq_true, decide_eq_true_eq] at finalizes
    rw [finalizes.1] at known
    exact ⟨target, ownerToken, snapshot, known⟩
  · cases finalizes

theorem witness_lockAttempt {orderNo : Bytes} {statuses : List PaymentStatus}
    {res : Option PaymentRow} {env : Env}
    (ran : (Stmt.lockAttempt orderNo statuses).run s.db env = some res) :
    Witness subject s.history (.lockAttempt orderNo statuses) res := by
  intro payment found settled
  rw [Option.mem_def] at found
  have first : (s.db.attempts env orderNo statuses).head? = some payment :=
    (Option.some.inj ran).trans found
  exact ⟨s.db, List.mem_cons_self, payment.paymentNo, payment, Db.find_of_attempts first,
    (Stmt.run_possible ran payment found).1, settled⟩

/-- The guarded update of a locked attempt finds it as it was locked. -/
theorem witness_casPayment (run : PayRun cfg ok events s) (member : p ∈ s.procs)
    {record : List PayEntry} (isRecord : p.slot.record = record) {paymentNo : Bytes}
    {status : PaymentStatus} {tradeNo : Option Bytes} {res : Bool} {env : Env}
    (locked : LockedPromise record paymentNo)
    (ran : payStore.run (s.view record) env (.casPayment paymentNo status tradeNo) = some res) :
    res = true := by
  obtain ⟨orderNo, payment, saw, isPayment, isOpen, unwritten⟩ := locked
  have asSeen := locked_as_seen run member paymentNo
  rw [isRecord] at asSeen
  have row := asSeen orderNo payment saw isPayment unwritten
  have answer := Option.some.inj ran
  rw [row, Option.any_some] at answer
  rw [← answer]
  simpa using isOpen

/-- A refund that a notification finds moved has succeeded. -/
theorem witness_casRefund (run : PayRun cfg ok events s) (member : p ∈ s.procs)
    {refundNo : Bytes} {refundId : Option Bytes} {res : Option Nat} {env : Env}
    (alive : ¬ (s.db.refunds.find refundNo).any fun row => row.status = .REFUND_FAIL)
    (isRecord : p.slot.record = []) {refund : RefundRow}
    (read : Saw p.log (.findRefund refundNo) (some refund))
    (ran : (Stmt.casRefund refundNo .REFUND_SUCCESS refundId).run s.db env = some res)
    (lost : res = none) : Settled s.history (.refund refundNo) := by
  obtain ⟨row, found, _⟩ := refund_read run member (List.mem_append_left _ read)
  rw [isRecord] at found
  have here : s.db.refunds.find refundNo = some row := found
  have answer := Option.some.inj ran
  rw [lost, here] at answer
  rw [here] at alive
  have notFailed : row.status ≠ .REFUND_FAIL := by simpa using alive
  have moved : row.status ≠ .REFUND_INIT ∧ row.status ≠ .REFUNDING := by
    simpa [stampIf] using answer
  refine ⟨s.db, List.mem_cons_self, row, here, ?_⟩
  cases isStatus : row.status with
  | REFUND_SUCCESS => rfl
  | REFUND_FAIL => exact absurd isStatus notFailed
  | REFUND_INIT => exact absurd isStatus moved.1
  | REFUNDING => exact absurd isStatus moved.2

/-- Whatever runs for a notification is witnessed. -/
theorem witness_runs (run : PayRun cfg ok events s) (trusts : trustsKey subject s event = true)
    (alive : ∀ refundNo, subject = .refund refundNo → refundAlive refundNo s event = true)
    (owner : Owner p.log request) (notifies : request.notifies = some subject)
    {st : Stmt} {res : st.Res} (runs : s.RunsNow event pid p st res) :
    Witness subject s.history st res := by
  have isDelivery := isDelivery_of_settles (settles_of_notifies notifies)
  rcases runs with runs | ⟨record, runs⟩
  · have member := List.mem_of_getElem? runs.proc
    have promise := runs.issued (verified_delivery run member owner isDelivery).obligation
    obtain ⟨env, isExec, result⟩ := runs.result
    have isMover : event.mover = some pid := by rw [isExec]; rfl
    cases st with
    | findIdempotency key =>
        cases result
        exact witness_findIdempotency run trusts isMover runs.proc owner notifies runs.executing
    | lockAttempt orderNo statuses => cases promise
    | casPayment paymentNo status tradeNo =>
        obtain ⟨_, pooled, _⟩ := promise
        cases pooled
    | findRefund refundNo =>
        cases result
        exact fun refund found settled => ⟨s.db, List.mem_cons_self, refund, found, settled⟩
    | casRefund refundNo status refundId =>
        rcases promise rfl with reads | ⟨paymentNo, issued⟩
        · cases reads
        · cases issued
    | _ => trivial
  · have member := List.mem_of_getElem? runs.proc
    have promise := runs.issued (verified_delivery run member owner isDelivery).obligation
    have isRecord : p.slot.record = record := by rw [runs.slot, Slot.record_active]
    obtain ⟨env, isExec, result⟩ := runs.result
    have isMover : event.mover = some pid := by rw [isExec]; rfl
    cases st with
    | findIdempotency key =>
        cases result
        exact witness_findIdempotency run trusts isMover runs.proc owner notifies runs.executing
    | lockAttempt orderNo statuses =>
        cases promise
        exact witness_lockAttempt result
    | casPayment paymentNo status tradeNo =>
        obtain ⟨entries, inTxn, locked⟩ := promise
        cases inTxn
        exact witness_casPayment run member isRecord locked result
    | findRefund refundNo => cases promise
    | casRefund refundNo status refundId =>
        intro isSubject isSuccess lost
        subst isSuccess
        obtain ⟨isFirst, refund, _, read, _⟩ := runs.issue (run.obliged (verified_serve cfg))
        subst isFirst
        rw [isSubject]
        have isAlive := alive refundNo isSubject
        simp only [refundAlive, runs.executing, isMover, notified_eq runs.proc owner, notifies,
          isSubject, ne_eq, not_true_eq_false, decide_false, Bool.false_or, Bool.not_eq_true']
          at isAlive
        have notFailed : ¬ (s.db.refunds.find refundNo).any fun row => row.status = .REFUND_FAIL :=
          Bool.eq_false_iff.mp isAlive
        exact witness_casRefund run member notFailed isRecord read result lost
    | _ => trivial

/-- An acknowledgement has grounds, and the grounds hold. -/
theorem acknowledged (trusts : ∀ s event, ok s event → trustsKey subject s event = true)
    (alive : ∀ refundNo s event, subject = .refund refundNo → ok s event →
      refundAlive refundNo s event = true) (run : PayRun cfg ok events s) :
    AcknowledgedSettled subject s := by
  have reporting : Reporting (S := payStore) (serve cfg) ok Db.empty
      (fun request => request.notifies = some subject) (fun _ => Grounded subject)
      (fun _ => Witness subject) := by
    refine ⟨fun request => answers_serve cfg, Witness.later, ?_⟩
    intro events s event pid p request st res run meets owner notifies runs
    exact witness_runs run (trusts s event meets)
      (fun refundNo isRefund => alive refundNo s event isRefund meets) owner notifies runs
  intro p member request owner notifies out replied acknowledges
  obtain ⟨v, grounded, known, witnessed⟩ :=
    run.replies reporting p member request owner notifies out replied
  cases grounded acknowledges with
  | repeated found finished => exact witnessed _ _ found _ rfl finished
  | locked isOrder found settled =>
      rw [isOrder]
      exact witnessed _ _ found _ rfl settled
  | outrun lost => exact absurd (witnessed _ _ lost) nofun
  | read isRefund found settled =>
      rw [isRefund]
      exact witnessed _ _ found _ rfl settled
  | outrunRefund isRefund lost => exact witnessed _ _ lost isRefund rfl rfl
  | finalized committed =>
      obtain ⟨owner', isOwner, settled⟩ := settled_of_finalized run p member
      obtain rfl := Owner.unique owner isOwner
      exact settled subject (settles_of_notifies notifies) ⟨_, _, _, known _ committed⟩

end Runs

/-! ## Payments -/

/-- A payment that is acknowledged has come in, in every run in which no
notification of it takes a foreign reservation for its own. -/
theorem payment_acknowledged {cfg : Config} {orderNo : Bytes} {events : List PayEvent}
    {s : PaySys}
    (run : PayRun cfg (fun s event => trustsKey (.order orderNo) s event = true) events s) :
    AcknowledgedSettled (.order orderNo) s :=
  acknowledged (fun _ _ => id) (fun _ _ _ isRefund => nomatch isRefund) run

/-- A notification of the subject was acknowledged. -/
def acknowledgedTo (subject : Subject) (s : PaySys) : Bool :=
  s.procs.any fun p => (requestOf p.log).bind Request.notifies = some subject &&
    p.log.any fun
      | .replied out => out.acknowledges
      | _ => false

theorem settled_of_acknowledgedTo {subject : Subject} {s : PaySys}
    (sound : AcknowledgedSettled subject s) (acked : acknowledgedTo subject s = true) :
    Settled s.history subject := by
  simp only [acknowledgedTo, List.any_eq_true, Bool.and_eq_true, decide_eq_true_eq] at acked
  obtain ⟨p, member, notifies, entry, known, acknowledges⟩ := acked
  obtain ⟨request, isRequest, notifies⟩ := Option.bind_eq_some_iff.mp notifies
  have owner := owner_of_requestOf isRequest
  split at acknowledges
  · exact sound p member request owner notifies _ known acknowledges
  · cases acknowledges

/-- The payment is notified twice. -/
def paidTwiceNotified : List PayEvent :=
  paidOnWechat ++ [.spawn (.paymentNotification paidNotice (drawn "k2"))] ++ steps 2 3 3

theorem payment_acknowledged_twice :
    ∃ s, PayRun shop (fun s event => trustsKey (.order (ascii "o")) s event = true)
        paidTwiceNotified s ∧ acknowledgedTo (.order (ascii "o")) s = true ∧
      AcknowledgedSettled (.order (ascii "o")) s := by
  obtain ⟨s, run, acked⟩ := replay_run (trustsKey (.order (ascii "o"))) paidTwiceNotified
    (acknowledgedTo (.order (ascii "o"))) (by decide +kernel)
  exact ⟨s, run, acked, payment_acknowledged run⟩

/-- The client creates the payment under a key that is the id of the notification
to come. -/
def paidUnderClientKey : List PayEvent :=
  [.spawn (.createPayment tenYuanOnWechat (ascii "N1") (drawn "p") 0)] ++ steps 0 5 1 ++
    [.answer 0 codeUrl] ++ steps 0 3 1 ++
    [.spawn (.paymentNotification paidNotice (drawn "k1"))] ++ steps 1 3 2

/-- No committed state shows a settled attempt. -/
def nothingPaid (s : PaySys) : Bool :=
  s.history.all fun db => db.payments.rows.all fun row => !row.status.settled

theorem not_settled_of_nothingPaid {s : PaySys} (unpaid : nothingPaid s = true) (orderNo : Bytes) :
    ¬ Settled s.history (.order orderNo) := by
  rintro ⟨db, member, paymentNo, row, found, _, settled⟩
  simp only [nothingPaid, List.all_eq_true] at unpaid
  have open' := unpaid db member row (Table.find_eq_some_iff.mp found).1
  rcases settled with isSettled | isSettled <;> simp [isSettled, PaymentStatus.settled] at open'

theorem payment_acknowledged_unpaid :
    ¬ ∀ (cfg : Config) (events : List PayEvent) (s : PaySys) (orderNo : Bytes),
      PayRun cfg (fun _ _ => True) events s → AcknowledgedSettled (.order orderNo) s := by
  intro claim
  obtain ⟨s, run, holds⟩ := replay_run (fun _ _ => true) paidUnderClientKey
    (fun s => acknowledgedTo (.order (ascii "o")) s && nothingPaid s) (by decide +kernel)
  obtain ⟨acked, unpaid⟩ := Bool.and_eq_true_iff.mp holds
  exact not_settled_of_nothingPaid unpaid (ascii "o")
    (settled_of_acknowledgedTo (claim shop _ s (ascii "o") (run.mono fun _ _ _ => trivial)) acked)

/-! ## Refunds -/

/-- The conditions of a refund. -/
def refundTrusted (refundNo : Bytes) (s : PaySys) (event : PayEvent) : Bool :=
  trustsKey (.refund refundNo) s event && refundAlive refundNo s event

/-- A refund that is acknowledged has succeeded, in every run in which no
notification of it takes a foreign reservation for its own or meets a row that
was given up. -/
theorem refund_acknowledged {cfg : Config} {refundNo : Bytes} {events : List PayEvent}
    {s : PaySys} (run : PayRun cfg (fun s event => refundTrusted refundNo s event = true) events s) :
    AcknowledgedSettled (.refund refundNo) s := by
  refine acknowledged (fun _ _ meets => (Bool.and_eq_true_iff.mp meets).1) ?_ run
  intro refundNo' s event isRefund meets
  cases isRefund
  exact (Bool.and_eq_true_iff.mp meets).2

/-- Four of ten yuan are accepted for a refund. -/
def acceptedRefund : List PayEvent :=
  paidOnWechat ++ [.spawn (.createRefund (refundOf "r" "4.00") [] (drawn "u"))] ++ steps 2 10 3 ++
    [.answer 2 (refundAnswer "PROCESSING")] ++ steps 2 1 3

def refundNotified : List PayEvent :=
  acceptedRefund ++ [.spawn (.refundNotification (refundedNotice "N2" "r" 400) (drawn "k2"))] ++
    steps 3 12 5

theorem refund_acknowledged_settled :
    ∃ s, PayRun shop (fun s event => refundTrusted (ascii "r") s event = true) refundNotified s ∧
      acknowledgedTo (.refund (ascii "r")) s = true ∧
      AcknowledgedSettled (.refund (ascii "r")) s := by
  obtain ⟨s, run, acked⟩ := replay_run (refundTrusted (ascii "r")) refundNotified
    (acknowledgedTo (.refund (ascii "r"))) (by decide +kernel)
  exact ⟨s, run, acked, refund_acknowledged run⟩

def abnormalNotice (id refundNo : String) (fen : Int) : Notification where
  id := ascii id
  plain := Json.object [("out_refund_no", Json.text refundNo),
    ("refund_status", Json.text "ABNORMAL"), ("refund_id", Json.text "R"),
    ("amount", Json.object [("refund", .int fen)])]
  bodyHash := []

/-- WeChat reports the refund ABNORMAL first and SUCCESS later. -/
def abnormalThenSuccess : List PayEvent :=
  acceptedRefund ++ [.spawn (.refundNotification (abnormalNotice "N2" "r" 400) (drawn "k2"))] ++
    steps 3 10 5 ++
    [.spawn (.refundNotification (refundedNotice "N3" "r" 400) (drawn "k3"))] ++ steps 4 7 6

/-- No committed state shows a refund that succeeded. -/
def nothingRefunded (s : PaySys) : Bool :=
  s.history.all fun db => db.refunds.rows.all fun row => row.status ≠ .REFUND_SUCCESS

theorem not_settled_of_nothingRefunded {s : PaySys} (unsettled : nothingRefunded s = true)
    (refundNo : Bytes) : ¬ Settled s.history (.refund refundNo) := by
  rintro ⟨db, member, row, found, settled⟩
  simp only [nothingRefunded, List.all_eq_true, decide_eq_true_eq] at unsettled
  exact unsettled db member row (Table.find_eq_some_iff.mp found).1 settled

theorem refund_acknowledged_failed :
    ¬ ∀ (cfg : Config) (events : List PayEvent) (s : PaySys) (refundNo : Bytes),
      PayRun cfg (fun _ _ => True) events s → AcknowledgedSettled (.refund refundNo) s := by
  intro claim
  obtain ⟨s, run, holds⟩ := replay_run (fun _ _ => true) abnormalThenSuccess
    (fun s => acknowledgedTo (.refund (ascii "r")) s && nothingRefunded s) (by decide +kernel)
  obtain ⟨acked, unsettled⟩ := Bool.and_eq_true_iff.mp holds
  exact not_settled_of_nothingRefunded unsettled (ascii "r")
    (settled_of_acknowledgedTo (claim shop _ s (ascii "r") (run.mono fun _ _ _ => trivial)) acked)

end CallbackService
end DrogonPay
