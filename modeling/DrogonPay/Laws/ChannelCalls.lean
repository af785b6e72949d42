import DrogonPay.Laws.Acknowledged
import DrogonPay.Laws.Charges

/-!
Contract: what the channels are asked to do with money.

Owns:
- `exclusive_books`, that no two processes book one row;
- `calls_backed`: a call for money is made for a committed attempt or refund, at its
  amount, and it is the only such call that is ever made for that row;
- `refunds_of_paid`: every refund is booked for a settled attempt of a paid order.

Does not own: what the channel does with a call it has heard.
-/

namespace DrogonPay

open ReadCommitted PaymentService

/-! ## Booked rows -/

/-- The row a statement books. -/
def Stmt.Books : Stmt → Key → Prop
  | .insertPayment booking, key => key = .payment booking.paymentNo
  | .insertRefund booking, key => key = .refund booking.refundNo
  | _, _ => False

/-- The log books the attempt or the refund. -/
abbrev Booked (log : List PayEntry) (key : Key) : Prop := Claimed Stmt.Books log key

/-- The attempt or the refund is there. -/
def Db.Holds (db : Db) : Key → Prop
  | .payment paymentNo => ∃ row, db.payments.find paymentNo = some row
  | .refund refundNo => ∃ row, db.refunds.find refundNo = some row
  | _ => False

section Runs

variable {cfg : Config} {ok : PaySys → PayEvent → Prop} {events : List PayEvent} {s : PaySys}
  {p q : PayProc} {key : Key}

/-- A row is booked where there is none, under its lock. -/
theorem books_new {db : Db} {env : Env} {st : Stmt} {res : st.Res}
    (ran : st.run db env = some res) (books : st.Books key) :
    ¬ db.Holds key ∧ key ∈ payStore.needs st res := by
  cases st with
  | insertPayment booking =>
      obtain rfl := books
      have admits := (admitted_eq_some ran).1
      simp only [Bool.and_eq_true] at admits
      have fresh := Option.isNone_iff_eq_none.mp admits.1
      exact ⟨by rintro ⟨row, found⟩; simp [fresh] at found, by
        simp [Store.needs, payStore, Stmt.writes, Write.keys]⟩
  | insertRefund booking =>
      obtain rfl := books
      have admits := (admitted_eq_some ran).1
      simp only [Db.admitsRefund, Bool.and_eq_true] at admits
      have fresh := Option.isNone_iff_eq_none.mp admits.1.1
      exact ⟨by rintro ⟨row, found⟩; simp [fresh] at found, by
        simp [Store.needs, payStore, Stmt.writes, Write.keys]⟩
  | _ => exact books.elim

/-- A refund that the log books is committed. -/
theorem refund_committed (run : PayRun cfg ok events s) (member : p ∈ s.procs)
    {booking : RefundBooking} {now : Nat} (saw : Saw p.log (.insertRefund booking) now) :
    ∃ row, s.db.refunds.find booking.refundNo = some row ∧ row.toRefundBooking = booking := by
  obtain ⟨seen, env, ran, _, _, kept⟩ := (run.recalls (I := fun _ => True)
    refundColumn_keeps_booking (fun _ => ⟨trivial, fun _ _ => trivial⟩) p member).1 _ _ saw
  have read : ∀ row : RefundRow,
      (payStore.applyAll seen [Write.insertRefund row]).refunds.find booking.refundNo =
        if row.refundNo = booking.refundNo then
          (seen.refunds.find booking.refundNo).or (some row)
        else seen.refunds.find booking.refundNo :=
    fun row => refundColumn.read_applyAll seen [Write.insertRefund row] booking.refundNo
  have admits := (admitted_eq_some ran).1
  simp only [Db.admitsRefund, Bool.and_eq_true] at admits
  have fresh := Option.isNone_iff_eq_none.mp admits.1.1
  obtain ⟨row, found, same⟩ := kept booking.refundNo
    { booking with status := .REFUND_INIT, channelRefundNo := [], updatedAt := now }
    ((read _).trans (by rw [if_pos rfl, fresh, Option.none_or]))
  exact ⟨row, found, same.symm⟩

theorem holds_of_booked (run : PayRun cfg ok events s) (member : p ∈ s.procs)
    (booked : Booked p.log key) : s.db.Holds key := by
  obtain ⟨st, res, books, saw⟩ := booked
  cases st with
  | insertPayment booking =>
      obtain rfl := books
      obtain ⟨row, found, _⟩ := payment_booked run member saw
      exact ⟨row, found⟩
  | insertRefund booking =>
      obtain rfl := books
      obtain ⟨row, found, _⟩ := refund_committed run member saw
      exact ⟨row, found⟩
  | _ => exact books.elim

theorem holds_in_view (run : PayRun cfg ok events s) (member : p ∈ s.procs)
    (holds : s.db.Holds key) : (s.view p.slot.record).Holds key := by
  cases key with
  | payment paymentNo =>
      obtain ⟨row, found⟩ := holds
      obtain ⟨row', found', _⟩ := payment_stays run member List.mem_cons_self found
      exact ⟨row', found'⟩
  | refund refundNo =>
      obtain ⟨row, found⟩ := holds
      obtain ⟨row', found', _⟩ := refund_stays run member List.mem_cons_self found
      exact ⟨row', found'⟩
  | _ => exact holds.elim

/-- No two processes book the same row: the second finds it there, or locked. -/
theorem exclusive_books : Exclusive (serve cfg) ok Db.empty Stmt.Books := by
  rintro events s event pid p st res key run meets runs books other q different found
    ⟨st', res', books', known⟩
  have memberQ := List.mem_of_getElem? found
  have booked : Booked q.log key ∨ key ∈ payStore.locks q.slot.record := by
    rcases List.mem_append.mp known with inLog | inRecord
    · exact Or.inl ⟨st', res', books', inLog⟩
    · refine Or.inr (List.mem_flatMap.mpr ⟨_, inRecord, ?_⟩)
      cases st' with
      | insertPayment booking =>
          obtain rfl := books'
          simp [Store.needs, payStore, Stmt.writes, Write.keys]
      | insertRefund booking =>
          obtain rfl := books'
          simp [Store.needs, payStore, Stmt.writes, Write.keys]
      | _ => exact books'.elim
  rcases runs with runs | ⟨record, runs⟩
  · obtain ⟨env, _, ran⟩ := runs.result
    obtain ⟨absent, needed⟩ := books_new ran books
    rcases booked with inLog | locked
    · exact absent (holds_of_booked run memberQ inLog)
    · exact Sys.free_iff.mp runs.unlocked q memberQ key needed locked
  · obtain ⟨env, _, ran⟩ := runs.result
    obtain ⟨absent, needed⟩ := books_new ran books
    rcases booked with inLog | locked
    · have viewed := holds_in_view run (List.mem_of_getElem? runs.proc)
        (holds_of_booked run memberQ inLog)
      rw [runs.slot] at viewed
      exact absent viewed
    · exact Sys.free_iff.mp runs.unlocked q (Sys.mem_others different found) key needed locked

/-! ## Calls for money -/

/-- The row a call is made for: an attempt whose order it offers, or a refund it asks
for. -/
inductive MadeFor (db : Db) : ChannelCall → Key → Prop where
  | offer {channel : Bytes} {payload : Json} {row : PaymentRow}
      (found : db.payments.find row.paymentNo = some row)
      (offers : OffersOrder payload row.toPaymentBooking) :
      MadeFor db (.createQRPayment channel payload) (.payment row.paymentNo)
  | refund {channel : Bytes} {payload : Json} {row : RefundRow} {fen : Nat}
      (found : db.refunds.find row.refundNo = some row)
      (worth : PayUtils.parseAmountToFen row.amount = some fen)
      (asks : AsksFor (.refund channel payload) row.toRefundBooking fen) :
      MadeFor db (.refund channel payload) (.refund row.refundNo)

/-- Who asks a channel for money serves a create request. -/
theorem creates_of_charges (run : PayRun cfg ok events s) (member : p ∈ s.procs)
    {request : Request} (owner : Owner p.log request) {x : ChannelCall}
    {next : ChannelAnswer → PayProg} {rest : List PayProg} (head : p.queue = .call x next :: rest)
    (charges : x.Charges) : request.creates := by
  by_contra other
  have mute : p.Mute ChannelCall.Charges :=
    run.keeps_of (Q := fun request : Request => ¬ request.creates) Prog.asks_closed
      (fun _ => id) (fun request => mute_serve cfg) p member request owner other
  exact mute.uncalled head charges

/-- A call for money is made for a row that is committed, at its amount, and the
process that makes it is the only one that ever does. -/
theorem calls_backed (run : PayRun cfg ok events s) {i : Nat} (proc : s.procs[i]? = some p)
    {x : ChannelCall} {next : ChannelAnswer → PayProg} {rest : List PayProg}
    (head : p.queue = .call x next :: rest) (charges : x.Charges) :
    ∃ key, MadeFor s.db x key ∧ Booked p.log key ∧ Uncharged p.log ∧
      ∀ j q, j ≠ i → s.procs[j]? = some q → Booked q.log key →
        Uncharged q.log ∧ q.Mute ChannelCall.Charges := by
  have member := List.mem_of_getElem? proc
  obtain ⟨request, owner⟩ := run.owned p member
  have creates := creates_of_charges run member owner head charges
  have obligation := (run.verified_of (verified_charges cfg) p member request owner
    creates).obligation
  have promise : chargeContract.call p.log x := by
    simpa [Contract.Obligation, head] using obligation
  obtain ⟨uncharged, callsFor⟩ := promise charges
  have sole : ∀ key, Booked p.log key → ∀ j q, j ≠ i → s.procs[j]? = some q → Booked q.log key →
      Uncharged q.log ∧ q.Mute ChannelCall.Charges := by
    rintro key ⟨st, res, books, saw⟩ j q different found ⟨st', res', books', saw'⟩
    obtain ⟨mute, heard⟩ := run.sole (solo_serve cfg) exclusive_books different.symm proc found head
      charges ⟨st, res, books, Proc.mem_known_of_log saw⟩
      ⟨st', res', books', Proc.mem_known_of_log saw'⟩
    exact ⟨fun y a act answered => uncharged y a act (heard y a act answered), mute⟩
  cases x with
  | createQRPayment channel payload =>
      obtain ⟨booking, now, saw, offers⟩ := callsFor
      obtain ⟨row, found, rfl⟩ := payment_booked run member saw
      have booked : Booked p.log (.payment row.paymentNo) :=
        ⟨.insertPayment row.toPaymentBooking, now, rfl, saw⟩
      exact ⟨_, .offer found offers, booked, uncharged, sole _ booked⟩
  | refund channel payload =>
      obtain ⟨booking, now, fen, saw, worth, asks⟩ := callsFor
      obtain ⟨row, found, rfl⟩ := refund_committed run member saw
      have booked : Booked p.log (.refund row.refundNo) :=
        ⟨.insertRefund row.toRefundBooking, now, rfl, saw⟩
      exact ⟨_, .refund found worth asks, booked, uncharged, sole _ booked⟩
  | _ => exact charges.elim

/-! ## What is refunded -/

/-- The attempt was read settled, and its order paid, each in a committed state. -/
structure ReadPaid (history : List Db) (before : List PayEntry) (booking : RefundBooking) :
    Prop where
  settled : ∃ payment,
    Saw before (.findPaymentOf booking.paymentNo booking.orderNo) (some payment) ∧
      payment.status = .SUCCESS ∧ ∃ db ∈ history,
        db.payments.find booking.paymentNo = some payment ∧ payment.orderNo = booking.orderNo
  paid : ∃ order, Saw before (.findOrder booking.orderNo) (some order) ∧ order.status = .PAID ∧
    ∃ db ∈ history, db.orders.find booking.orderNo = some order

/-- A refund request read both, and then booked the refund. -/
def BookedPaid (s : PaySys) (booking : RefundBooking) : Prop :=
  ∃ p ∈ s.procs, ∃ body key uuid, Owner p.log (.createRefund body key uuid) ∧
    ∃ before now after, p.log = before ++ .ran (.insertRefund booking) now :: after ∧
      ReadPaid s.history before booking

/-- The row a read shows was committed when it was read. -/
def ReadCommittedly (history : List Db) (known : PayEntry) : Prop :=
  (∀ paymentNo orderNo payment,
    known = .ran (.findPaymentOf paymentNo orderNo) (some payment) →
      ∃ db ∈ history, db.payments.find paymentNo = some payment ∧ payment.orderNo = orderNo) ∧
  ∀ orderNo order, known = .ran (.findOrder orderNo) (some order) →
    ∃ db ∈ history, db.orders.find orderNo = some order

theorem ReadCommittedly.of_ran {history : List Db} {seen : Db} {env : Env} {st : Stmt}
    {res : st.Res} (ran : st.run seen env = some res)
    (payments : ∀ paymentNo orderNo, st = .findPaymentOf paymentNo orderNo →
      ∃ db ∈ history, db.payments.find = seen.payments.find)
    (orders : ∀ orderNo, st = .findOrder orderNo →
      ∃ db ∈ history, db.orders.find = seen.orders.find) :
    ReadCommittedly history (.ran st res) := by
  constructor
  · intro paymentNo orderNo payment isRead
    injection isRead with isStmt isRes
    subst isStmt
    cases isRes
    obtain ⟨db, committed, same⟩ := payments paymentNo orderNo rfl
    have found := Option.filter_eq_some_iff.mp (Option.some.inj ran)
    exact ⟨db, committed, by rw [same]; exact found.1, by simpa using found.2⟩
  · intro orderNo order isRead
    injection isRead with isStmt isRes
    subst isStmt
    cases isRes
    obtain ⟨db, committed, same⟩ := orders orderNo rfl
    exact ⟨db, committed, by rw [same]; exact Option.some.inj ran⟩

/-- A create request reads attempts and orders that are committed. -/
theorem reads_committed (run : PayRun cfg ok events s) (member : p ∈ s.procs) {request : Request}
    (owner : Owner p.log request) (creates : request.creates) {known : PayEntry}
    (logged : known ∈ p.log) : ReadCommittedly s.history known := by
  have noting : Noting (serve cfg) ok Db.empty (fun (request : Request) history _ known =>
      request.creates → ReadCommittedly history known) := by
    have promised : ∀ {events s} {p : PayProc} {request : Request}, PayRun cfg ok events s →
        p ∈ s.procs → Owner p.log request → request.creates → chargeContract.Obligation p :=
      fun run member owner creates => (run.verified_of (verified_charges cfg) _ member _ owner
        creates).obligation
    refine ⟨?_, ?_, ?_, ?_, ?_⟩
    · intro request history history' before before' known longer _ reads creates
      exact ⟨fun paymentNo orderNo payment isRead => (reads creates).1 paymentNo orderNo payment
          isRead |>.imp fun _ => And.imp_left fun member => longer.subset member,
        fun orderNo order isRead => (reads creates).2 orderNo order isRead |>.imp
          fun _ => And.imp_left fun member => longer.subset member⟩
    · exact fun unran _ _ => ⟨fun _ _ _ isRead => absurd isRead (unran _ _),
        fun _ _ isRead => absurd isRead (unran _ _)⟩
    · intro events s event pid p request st res run meets owner runs creates
      obtain ⟨env, _, ran⟩ := runs.result
      exact .of_ran ran (fun _ _ _ => ⟨_, List.mem_cons_self, rfl⟩)
        fun _ _ => ⟨_, List.mem_cons_self, rfl⟩
    · intro events s event pid p request record st res run meets owner runs creates
      obtain ⟨env, _, ran⟩ := runs.result
      have issued := runs.issued (promised run (List.mem_of_getElem? runs.proc) owner creates)
      refine .of_ran ran (fun paymentNo orderNo isRead => ?_) fun orderNo isRead => ?_
      · subst isRead
        cases (issued : some record = none)
      · subst isRead
        have untouched : OrdersUntouched record :=
          (issued : ∀ entries, some record = some entries → OrdersUntouched entries) record rfl
        exact ⟨_, List.mem_cons_self, by rw [Sys.view, untouched s.db]⟩
    · exact fun _ _ _ _ _ => ⟨by rintro _ _ _ ⟨⟩, by rintro _ _ ⟨⟩⟩
  obtain ⟨_, _, reads⟩ := (run.noted noting p member request owner).1.mem logged
  exact reads creates

/-- Who books a refund serves a refund request, and had read the attempt settled and
its order paid before. -/
theorem paid_of_booked (run : PayRun cfg ok events s) (member : p ∈ s.procs)
    {request : Request} (owner : Owner p.log request) {booking : RefundBooking} {now : Nat}
    {before after : List PayEntry}
    (split : p.log = before ++ .ran (.insertRefund booking) now :: after) :
    (∃ body key uuid, request = .createRefund body key uuid) ∧ PaidPromise before booking := by
  have noting : Noting (serve cfg) ok Db.empty (fun (request : Request) _ before known =>
      ∀ booking now, known = .ran (.insertRefund booking) now →
        (∃ body key uuid, request = .createRefund body key uuid) ∧
          PaidPromise before booking) := by
    refine ⟨?_, ?_, ?_, ?_, ?_⟩
    · intro request history history' before before' known _ longer holds booking now isInsert
      obtain ⟨creates, ⟨payment, found, isSuccess⟩, order, foundOrder, isPaid⟩ :=
        holds booking now isInsert
      exact ⟨creates, ⟨payment, longer.subset found, isSuccess⟩, order, longer.subset foundOrder,
        isPaid⟩
    · exact fun unran _ booking now isInsert => absurd isInsert (unran _ _)
    · rintro events s event pid p request st res run meets owner runs booking now isInsert
      injection isInsert with isStmt
      subst isStmt
      obtain ⟨_, _, _, _, _, isRecord, _⟩ : RefundPromise p.log none booking :=
        runs.issue (run.obliged (verified_serve cfg))
      cases isRecord
    · rintro events s event pid p request record st res run meets owner runs booking now isInsert
      injection isInsert with isStmt
      subst isStmt
      obtain ⟨_, _, _, _, _, _, ⟨⟨body, key, uuid, owner', _⟩, _⟩, _⟩ :
          RefundPromise p.log (some record) booking := runs.issue (run.obliged (verified_serve cfg))
      obtain rfl : request = .createRefund body key uuid := Owner.unique owner owner'
      have issued : (some record).isSome → PaidPromise p.log booking :=
        runs.issued (run.verified_of (verified_charges cfg) p (List.mem_of_getElem? runs.proc) _
          owner trivial).obligation
      obtain ⟨⟨payment, found, isSuccess⟩, order, foundOrder, isPaid⟩ := issued rfl
      exact ⟨⟨body, key, uuid, rfl⟩, ⟨payment, found.append _, isSuccess⟩, order,
        foundOrder.append _, isPaid⟩
    · exact fun _ _ _ _ => nofun
  have notes := (run.noted noting p member request owner).1
  rw [split] at notes
  exact notes.at_split booking now rfl

/-- Every refund was booked by a refund request, after it had read, in committed states,
the attempt settled and its order paid. -/
theorem refunds_of_paid (run : PayRun cfg ok events s) (refundNo : Bytes) (refund : RefundRow)
    (found : s.db.refunds.find refundNo = some refund) :
    BookedPaid s refund.toRefundBooking := by
  have holds : (refundColumn.read s.db refundNo).any fun row =>
      row.toRefundBooking = refund.toRefundBooking := by
    simp [refundColumn, found]
  obtain ⟨p, member, st, res, made⟩ : ∃ p ∈ s.procs, ∃ st res, Made payContract refundColumn
      (fun row => row.any fun row => row.toRefundBooking = refund.toRefundBooking) refundNo p.log
      st res :=
    run.made (by simp [refundColumn, Db.empty, Table.find, Table.empty]) (verified_serve cfg) s.db
      List.mem_cons_self holds
  obtain ⟨w, old, write, fails, becomes⟩ := made.changed
  obtain rfl := insertRefund_of_booked write fails becomes
  obtain ⟨before, after, known, record, split, issue, isPrefix, _⟩ := made.issued
  obtain ⟨request, owner⟩ := run.owned p member
  obtain ⟨⟨body, key, uuid, rfl⟩, ⟨payment, seen, isSuccess⟩, order, seenOrder, isPaid⟩ :=
    paid_of_booked run member owner split
  have logged : ∀ {known}, known ∈ before → known ∈ p.log := by
    intro known earlier
    rw [split]
    exact List.mem_append_left _ earlier
  have payments := (reads_committed run member owner trivial (logged seen)).1 _ _ payment rfl
  have orders := (reads_committed run member owner trivial (logged seenOrder)).2 _ order rfl
  exact ⟨p, member, body, key, uuid, owner, before, res, after, split,
    ⟨payment, seen, isSuccess, payments⟩, order, seenOrder, isPaid, orders⟩

end Runs

/-- A refund of a paid order, up to the request to the channel. -/
def refundAsked : List PayEvent :=
  paidOnWechat ++ [.spawn (.createRefund (refundOf "r" "4.00") [] (drawn "u"))] ++ steps 2 10 3

/-- The call a process waits for. -/
def nextCall (p : PayProc) : Option ChannelCall :=
  match p.queue with
  | .call x _ :: _ => some x
  | _ => none

theorem head_of_nextCall {p : PayProc} {x : ChannelCall} (isNext : nextCall p = some x) :
    ∃ next rest, p.queue = .call x next :: rest := by
  unfold nextCall at isNext
  split at isNext
  · rename_i y next rest isQueue
    cases isNext
    exact ⟨next, rest, isQueue⟩
  · cases isNext

/-- Process 2 is about to ask for a refund, and refund `r` is there. -/
def asksNext (s : PaySys) : Bool :=
  (s.db.refunds.find (ascii "r")).isSome &&
    match (s.procs[2]?).bind nextCall with
    | some (.refund _ _) => true
    | _ => false

theorem calls_backed_asked :
    ∃ s p x next rest key, PayRun shop (fun _ _ => true = true) refundAsked s ∧
      s.procs[2]? = some p ∧ p.queue = .call x next :: rest ∧ MadeFor s.db x key ∧
      Booked p.log key := by
  obtain ⟨s, run, asks⟩ := replay_run (fun _ _ => true) refundAsked asksNext (by decide +kernel)
  simp only [asksNext, Bool.and_eq_true] at asks
  have waits := asks.2
  split at waits
  · rename_i channel payload isNext
    obtain ⟨p, proc, isNext⟩ := Option.bind_eq_some_iff.mp isNext
    obtain ⟨next, rest, head⟩ := head_of_nextCall isNext
    obtain ⟨key, made, booked, _⟩ := calls_backed run proc head trivial
    exact ⟨s, p, _, next, rest, key, run, proc, head, made, booked⟩
  · cases waits

theorem refunds_of_paid_asked :
    ∃ s refund, PayRun shop (fun _ _ => true = true) refundAsked s ∧
      s.db.refunds.find (ascii "r") = some refund ∧ BookedPaid s refund.toRefundBooking := by
  obtain ⟨s, run, asks⟩ := replay_run (fun _ _ => true) refundAsked asksNext (by decide +kernel)
  simp only [asksNext, Bool.and_eq_true] at asks
  obtain ⟨refund, found⟩ := Option.isSome_iff_exists.mp asks.1
  exact ⟨s, refund, run, found, refunds_of_paid run _ refund found⟩

end DrogonPay
