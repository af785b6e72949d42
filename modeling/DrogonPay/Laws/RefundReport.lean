import DrogonPay.Laws.Settled
import DrogonPay.Promises.Contract
import DrogonPay.ReadCommitted.Alone

/-!
Contract: the refund status a caller of `createRefund` hears, against the row it
left behind.

Owns: `ReportsRow`, the agreement of an answer with the row; that a request which
inserted a refund and ran to its end alone agrees exactly when the channel of the
order is one whose refusals are written; and the refund of a channel without a
client, which is reported failed and stays reserved.

Does not own: other writers of the row, and requests that lost a statement.
-/

namespace DrogonPay

open ReadCommitted

/-- `data.status` of an answer. -/
def reportedStatus (reply : Reply) : Option Json :=
  (reply.body.at? (ascii "data")).bind fun data => data.at? (ascii "status")

/-- The refund is there, in one of these statuses. -/
def RefundIn (db : Db) (refundNo : Bytes) (statuses : List RefundStatus) : Prop :=
  ∃ row, db.refunds.find refundNo = some row ∧ row.status ∈ statuses

/-- A final status that an answer reports is the row's, a refund reported under
way is open, and one reported as failed no longer counts against its order. -/
structure ReportsRow (db : Db) (refundNo : Bytes) (reply : Reply) : Prop where
  failed : reportedStatus reply = some (Json.text "REFUND_FAIL") →
    RefundIn db refundNo [.REFUND_FAIL]
  succeeded : reportedStatus reply = some (Json.text "REFUND_SUCCESS") →
    RefundIn db refundNo [.REFUND_SUCCESS]
  underWay : reportedStatus reply = some (Json.text "REFUNDING") →
    RefundIn db refundNo [.REFUND_INIT, .REFUNDING]
  released : reportedStatus reply = some (Json.text "REFUND_FAIL") →
    ∀ orderNo, ∀ row ∈ db.refundsOf orderNo RefundService.countedStatuses, row.refundNo ≠ refundNo

/-- The channel of the order has a branch that writes the refund it refuses. -/
def RefusalsWritten (cfg : Config) (db : Db) (orderNo : Bytes) : Prop :=
  ∃ order, db.orders.find orderNo = some order ∧
    (order.channel = ascii "wechat" ∨
      (order.channel = ascii "alipay" ∧ cfg.channels order.channel = true))

/-! ## Answers and rows -/

section Rows

variable {db db' : Db} {refundNo : Bytes} {reply : Reply}

theorem ReportsRow.of_same (same : db'.refunds = db.refunds) (reports : ReportsRow db refundNo reply) :
    ReportsRow db' refundNo reply := by
  obtain ⟨failed, succeeded, underWay, released⟩ := reports
  simp only [RefundIn, Db.refundsOf] at *
  rw [← same] at failed succeeded underWay released
  exact ⟨failed, succeeded, underWay, released⟩

/-- The status of the row is an answer that agrees with it. -/
theorem ReportsRow.of_status {status : RefundStatus} (row : RefundIn db refundNo [status])
    (reported : reportedStatus reply = some (.str status.text)) : ReportsRow db refundNo reply := by
  have named : ∀ {text : String} {other : RefundStatus}, other.text = ascii text →
      reportedStatus reply = some (Json.text text) → status = other := by
    intro text other isText said
    rw [reported, Json.text, ← isText] at said
    injection said with said
    injection said with said
    revert said
    cases status <;> cases other <;> decide
  have isRow : ∀ {other : RefundStatus}, status = other → RefundIn db refundNo [other] := by
    rintro _ rfl
    exact row
  refine ⟨fun said => isRow (named rfl said), fun said => isRow (named rfl said),
    fun said => ?_, fun said orderNo counted member same => ?_⟩
  · obtain rfl : status = .REFUNDING := named rfl said
    obtain ⟨found, isFound, isStatus⟩ := row
    exact ⟨found, isFound, by simpa using Or.inr isStatus⟩
  · obtain rfl : status = .REFUND_FAIL := named rfl said
    obtain ⟨found, isFound, isStatus⟩ := row
    obtain ⟨inRows, passes⟩ := List.mem_filter.mp member
    have isCounted : db.refunds.find refundNo = some counted :=
      Table.find_eq_some_iff.mpr ⟨inRows, same⟩
    obtain rfl : found = counted := Option.some.inj (isFound.symm.trans isCounted)
    rw [List.mem_singleton.mp isStatus] at passes
    simp [RefundService.countedStatuses] at passes

/-- An open refund may be reported under way. -/
theorem ReportsRow.of_underWay (row : RefundIn db refundNo [.REFUND_INIT, .REFUNDING])
    (reported : reportedStatus reply = some (Json.text "REFUNDING")) :
    ReportsRow db refundNo reply := by
  have other : ∀ {text : String}, ascii "REFUNDING" ≠ ascii text →
      reportedStatus reply ≠ some (Json.text text) := by
    intro text different said
    rw [reported] at said
    injection said with said
    injection said with said
    exact different said
  exact ⟨fun said => absurd said (other (by decide)), fun said => absurd said (other (by decide)),
    fun _ => row, fun said => absurd said (other (by decide))⟩

/-- An answer without data reports no status. -/
theorem ReportsRow.of_silent (silent : reportedStatus reply = some .null) :
    ReportsRow db refundNo reply := by
  have other : ∀ {text : String}, reportedStatus reply ≠ some (Json.text text) := by
    intro text said
    rw [silent] at said
    cases said
  exact ⟨fun said => absurd said other, fun said => absurd said other,
    fun said => absurd said other, fun said => absurd said other⟩

/-- Statements on other tables leave a refund. -/
theorem RefundIn.other {statuses : List RefundStatus} (row : RefundIn db refundNo statuses)
    (st : Stmt) (res : st.Res) (other : st.table ≠ some .refunds) :
    RefundIn (payStore.applyAll db (st.writes res)) refundNo statuses := by
  obtain ⟨found, isFound, isStatus⟩ := row
  have untouched := read_other_table refundColumn_locked db res other refundNo
  exact ⟨found, untouched.trans isFound, isStatus⟩

/-- A guarded update of an open refund moves it. -/
theorem refundIn_of_cas {env : Env} {status : RefundStatus} {refundId : Option Bytes}
    {res : Option Nat} (row : RefundIn db refundNo [.REFUND_INIT, .REFUNDING])
    (ran : Stmt.run db env (.casRefund refundNo status refundId) = some res) :
    RefundIn (payStore.applyAll db (Stmt.writes (.casRefund refundNo status refundId) res)) refundNo
      [status] := by
  obtain ⟨found, isFound, isOpen⟩ := row
  have passes : [RefundStatus.REFUND_INIT, .REFUNDING].contains found.status = true := by
    simpa using isOpen
  have stamped : res = some env.now := by
    have answered := Option.some.inj ran
    rw [← answered, isFound]
    simp only [stampIf, Option.any_some, passes, if_true]
  subst stamped
  have read := refundColumn.read_applyAll db
    [Write.setRefund refundNo status refundId env.now] refundNo
  refine ⟨found.advance status refundId env.now, ?_, by simp [RefundRow.advance]⟩
  refine read.trans ?_
  simp [Column.actAll, refundColumn, actOnRefund, isFound]

end Rows

/-! ## Statements on the keys -/

/-- The statements of the idempotency service. -/
def OnKeys (st : Stmt) : Prop := st.table = some .idempotency

theorem applyAll_onKeys {ws : List Write} (db : Db) (onKeys : ∀ w ∈ ws, w.table = .idempotency) :
    (payStore.applyAll db ws).refunds = db.refunds ∧
      (payStore.applyAll db ws).orders = db.orders := by
  induction ws generalizing db with
  | nil => exact ⟨rfl, rfl⟩
  | cons w rest inductionHypothesis =>
      have first : (db.apply w).refunds = db.refunds ∧ (db.apply w).orders = db.orders := by
        have isKey := onKeys w (by simp)
        cases w with
        | insertIdempotency | setSnapshot | deleteIdempotency => exact ⟨rfl, rfl⟩
        | _ => cases isKey
      obtain ⟨refunds, orders⟩ := inductionHypothesis (db.apply w) fun w member =>
        onKeys w (by simp [member])
      exact ⟨refunds.trans first.1, orders.trans first.2⟩

theorem kept_onKeys (db : Db) (st : Stmt) (res : st.Res) (onKeys : OnKeys st) :
    (payStore.applyAll db (st.writes res)).refunds = db.refunds ∧
      (payStore.applyAll db (st.writes res)).orders = db.orders :=
  applyAll_onKeys db fun _ member => Option.some.inj ((Stmt.writes_table member).symm.trans onKeys)

theorem delivers_storeThenAnswer (key hash : Bytes) (reply : Reply) :
    (IdempotencyService.storeThenAnswer key hash reply).Delivers OnKeys reply := by
  have cleared : (IdempotencyService.clearReservation key hash fun _ =>
      answer reply.body reply.error).Delivers OnKeys reply := by
    unfold IdempotencyService.clearReservation
    split
    · exact rfl
    · refine ⟨rfl, fun res => ?_⟩
      cases res <;> exact rfl
  refine ⟨rfl, fun res => ?_⟩
  cases res with
  | none => exact cleared
  | some matched =>
      cases matched with
      | true => exact rfl
      | false => exact cleared

namespace RefundService

theorem delivers_wrapped (key hash : Bytes) (reply : Reply) :
    (wrappedRefundCallback key hash reply).Delivers OnKeys reply := by
  unfold wrappedRefundCallback
  split
  · exact delivers_storeThenAnswer key hash reply
  · exact rfl

theorem delivers_proceed (key hash : Bytes) (reply : Reply) :
    (proceedCallback key hash reply).Delivers OnKeys reply := by
  unfold proceedCallback
  split
  · unfold IdempotencyService.clearReservation
    split
    · exact delivers_wrapped key hash reply
    · refine ⟨rfl, fun res => ?_⟩
      cases res <;> exact delivers_wrapped key hash reply
  · exact delivers_wrapped key hash reply

/-! ## What is left when the request has ended -/

section Report

variable (cfg : Config) (start : Db)

/-- A refund this request inserted is reported as the row is exactly if the
refusals of its order's channel are written. -/
def Reported (db : Db) (procs : List PayProc) : Prop :=
  ∀ booking stamp, (∃ p ∈ procs, Saw p.log (.insertRefund booking) stamp) →
    ((∀ p ∈ procs, ∀ reply, .replied reply ∈ p.log → ReportsRow db booking.refundNo reply) ↔
      RefusalsWritten cfg start booking.orderNo)

/-- The program, run to its end alone, leaves the refund as it is reported. -/
abbrev Leaves (db : Db) (slot : Slot paySig) (log : List PayEntry) (program : PayProg) : Prop :=
  After (S := payStore) (Reported cfg start) .none db slot log program

variable {cfg start} {c : RefundCase} {db : Db} {slot : Slot paySig} {log : List PayEntry}
  {callback : Reply → PayProg}

/-- An entry that neither inserts a refund nor answers. -/
def Passing : PayEntry → Prop
  | .ran (.insertRefund _) _ => False
  | .replied _ => False
  | _ => True

/-- What the idempotency service adds to a log. -/
theorem passing_of_minor {extra : List PayEntry} (isMinor : Minor OnKeys extra) :
    ∀ entry ∈ extra, Passing entry := by
  intro entry member
  obtain ⟨st, res, onKeys, rfl⟩ := isMinor entry member
  cases st with
  | insertRefund booking => cases onKeys
  | _ => trivial

/-- The request has inserted nothing yet. -/
def NothingBooked (log : List PayEntry) : Prop :=
  ∀ booking stamp, ¬ Saw log (.insertRefund booking) stamp

theorem NothingBooked.append {more : List PayEntry} (nothing : NothingBooked log)
    (passing : ∀ entry ∈ more, Passing entry) : NothingBooked (log ++ more) := by
  intro booking stamp saw
  rcases List.mem_append.mp saw with old | new
  · exact nothing booking stamp old
  · exact passing _ new

/-- The refunds this log inserted are those of the case. -/
def Books (c : RefundCase) (log : List PayEntry) : Prop :=
  ∀ booking stamp, Saw log (.insertRefund booking) stamp →
    booking.refundNo = c.refundNo ∧ booking.orderNo = c.orderNo

/-- The refund of the case is inserted, and nobody has been answered yet. -/
structure Unanswered (c : RefundCase) (log : List PayEntry) : Prop where
  books : Books c log
  silent : ∀ reply, .replied reply ∉ log

/-- The refund of the case is inserted, and nobody heard anything else. -/
structure Answered (c : RefundCase) (reply : Reply) (log : List PayEntry) : Prop where
  books : Books c log
  only : ∀ given, .replied given ∈ log → given = reply

theorem Unanswered.append {more : List PayEntry} (unanswered : Unanswered c log)
    (passing : ∀ entry ∈ more, Passing entry) : Unanswered c (log ++ more) where
  books booking stamp saw := by
    rcases List.mem_append.mp saw with old | new
    · exact unanswered.books booking stamp old
    · exact (passing _ new).elim
  silent reply replied := by
    rcases List.mem_append.mp replied with old | new
    · exact unanswered.silent reply old
    · exact passing _ new

theorem Unanswered.answered {more : List PayEntry} {reply : Reply} (unanswered : Unanswered c log)
    (passing : ∀ entry ∈ more, Passing entry ∨ entry = .replied reply) :
    Answered c reply (log ++ more) where
  books booking stamp saw := by
    rcases List.mem_append.mp saw with old | new
    · exact unanswered.books booking stamp old
    · rcases passing _ new with isPassing | same
      · exact isPassing.elim
      · cases same
  only given replied := by
    rcases List.mem_append.mp replied with old | new
    · exact absurd old (unanswered.silent given)
    · rcases passing _ new with isPassing | same
      · exact isPassing.elim
      · cases same
        rfl

/-- A request that is turned away before it inserts anything. -/
theorem after_early (delivers : ∀ reply, (callback reply).Delivers OnKeys reply)
    (idle : Idle slot) (nothing : NothingBooked log) (reply : Reply) :
    Leaves cfg start db slot log (callback reply) := by
  refine after_delivers (fun _ => ()) (delivers reply) idle
    (fun _ _ _ _ => rfl) fun db' extra _ isMinor => ?_
  rintro booking stamp ⟨p, member, saw⟩
  obtain rfl := List.mem_singleton.mp member
  have before := nothing.append (passing_of_minor isMinor)
  rcases List.mem_append.mp saw with old | new
  · exact absurd old (before booking stamp)
  · cases List.mem_singleton.mp new

/-! ## Answers after the booking -/

/-- One answer, by a request that booked its refund. -/
theorem reported_of_answered {procs : List PayProc} (reply : Reply)
    (answered : ∀ p ∈ procs, Answered c reply p.log) (given : ∃ p ∈ procs, .replied reply ∈ p.log)
    (agrees : ReportsRow db c.refundNo reply ↔ RefusalsWritten cfg start c.orderNo) :
    Reported cfg start db procs := by
  rintro booking stamp ⟨p, member, saw⟩
  obtain ⟨isRefund, isOrder⟩ := (answered p member).books booking stamp saw
  rw [isRefund, isOrder, ← agrees]
  constructor
  · intro all
    obtain ⟨q, memberQ, replied⟩ := given
    exact all q memberQ reply replied
  · intro reports q memberQ other replied
    rw [(answered q memberQ).only other replied]
    exact reports

/-- No answer at all: reading what the channel said threw. -/
theorem after_silent (idle : Idle slot) (unanswered : Unanswered c log)
    (written : RefusalsWritten cfg start c.orderNo) : Leaves cfg start db slot log .done := by
  refine after_done idle ?_
  rintro booking stamp ⟨p, member, saw⟩
  obtain rfl := List.mem_singleton.mp member
  obtain ⟨_, isOrder⟩ := unanswered.books booking stamp saw
  rw [isOrder]
  refine iff_of_true (fun q memberQ reply replied => ?_) written
  obtain rfl := List.mem_singleton.mp memberQ
  exact absurd replied (unanswered.silent reply)

theorem passing_or_replied {extra : List PayEntry} (reply : Reply) (isMinor : Minor OnKeys extra) :
    ∀ entry ∈ extra ++ [.replied reply], Passing entry ∨ entry = .replied reply := by
  intro entry member
  rcases List.mem_append.mp member with old | new
  · exact Or.inl (passing_of_minor isMinor entry old)
  · exact Or.inr (List.mem_singleton.mp new)

/-- The answer, when the row stays as it is. -/
theorem after_answer (delivers : ∀ reply, (callback reply).Delivers OnKeys reply) (idle : Idle slot)
    (unanswered : Unanswered c log) {reply : Reply}
    (agrees : ReportsRow db c.refundNo reply ↔ RefusalsWritten cfg start c.orderNo) :
    Leaves cfg start db slot log (callback reply) := by
  refine after_delivers (fun db : Db => db.refunds) (delivers reply) idle
    (fun db st res onKeys => (kept_onKeys db st res onKeys).1) fun db' extra same isMinor => ?_
  have answered := unanswered.answered (passing_or_replied reply isMinor)
  rw [← List.append_assoc] at answered
  refine reported_of_answered (c := c) reply (fun p member => ?_) ?_ ?_
  · obtain rfl := List.mem_singleton.mp member
    exact answered
  · exact ⟨_, List.mem_singleton_self _, by simp⟩
  · rw [← agrees]
    exact ⟨.of_same same.symm, .of_same same⟩

/-- The answer that a refund failed, beside the update that closes the row. -/
theorem after_failure (delivers : ∀ reply, (callback reply).Delivers OnKeys reply)
    (idle : Idle slot) (unanswered : Unanswered c log)
    (row : RefundIn db c.refundNo [.REFUND_INIT, .REFUNDING])
    (written : RefusalsWritten cfg start c.orderNo) {reply : Reply}
    (reported : reportedStatus reply = some (Json.text "REFUND_FAIL")) :
    Leaves cfg start db slot log (updateRefundWithError c.refundNo (callback reply)) := by
  refine after_fork_statement (fun db : Db => db.refunds) (delivers reply) idle
    (fun db st res onKeys => (kept_onKeys db st res onKeys).1)
    fun db₁ db₂ env res extra kidLog same ran same' isMinor kid => ?_
  have answered := unanswered.answered (passing_or_replied reply isMinor)
  rw [← List.append_assoc] at answered
  obtain ⟨outs, rfl, allSame⟩ := kid
  have kidAnswered : Answered c reply (log ++ outs.map Entry.replied ++
      [.ran (.casRefund c.refundNo .REFUND_FAIL none) res]) := by
    rw [List.append_assoc]
    refine unanswered.answered fun entry member => ?_
    rcases List.mem_append.mp member with early | late
    · obtain ⟨given, isGiven, rfl⟩ := List.mem_map.mp early
      exact Or.inr (by rw [allSame given isGiven])
    · rw [List.mem_singleton.mp late]
      exact Or.inl trivial
  refine reported_of_answered (c := c) reply (fun p member => ?_) ?_ (iff_of_true ?_ written)
  · rcases List.mem_append.mp member with main | forked
    · obtain rfl := List.mem_singleton.mp main
      exact answered
    · obtain rfl := List.mem_singleton.mp forked
      exact kidAnswered
  · exact ⟨_, List.mem_append_left _ (List.mem_singleton_self _), by simp⟩
  · have rowNow : RefundIn db₁ c.refundNo [.REFUND_INIT, .REFUNDING] := by
      simpa only [RefundIn, same] using row
    exact .of_same same' (.of_status (refundIn_of_cas rowNow ran) reported)

/-! ## What the channel said -/

/-- The request of the case has booked its refund, and its channel is asked. -/
structure Asking (cfg : Config) (start : Db) (c : RefundCase) (db : Db) (slot : Slot paySig)
    (log : List PayEntry) : Prop where
  idle : Idle slot
  unanswered : Unanswered c log
  row : RefundIn db c.refundNo [.REFUND_INIT, .REFUNDING]
  written : RefusalsWritten cfg start c.orderNo

theorem after_orThrow {α : Type} {value : Option α} {next : α → PayProg} (idle : Idle slot)
    (unanswered : Unanswered c log) (written : RefusalsWritten cfg start c.orderNo)
    (continues : ∀ a, value = some a → Leaves cfg start db slot log (next a)) :
    Leaves cfg start db slot log (orThrow value next) := by
  cases value with
  | none => exact after_silent idle unanswered written
  | some a => exact continues a rfl

/-- An error without data says nothing of the refund. -/
theorem reportedStatus_refundError (code : Nat) (text : Bytes) :
    reportedStatus (refundError code text) = some .null := rfl

theorem after_settleOrder (delivers : ∀ reply, (callback reply).Delivers OnKeys reply)
    (idle : Idle slot) (unanswered : Unanswered c log)
    (written : RefusalsWritten cfg start c.orderNo) {status : RefundStatus} {refundId : Bytes}
    {result : Json} (row : RefundIn db c.refundNo [status]) :
    Leaves cfg start db slot log (settleOrder c status callback
      (callback (respond c status refundId result))) := by
  have finished : ∀ {db : Db} {log : List PayEntry}, Unanswered c log →
      RefundIn db c.refundNo [status] →
      Leaves cfg start db slot log (callback (respond c status refundId result)) :=
    fun unanswered row => after_answer delivers idle unanswered
      (iff_of_true (.of_status row rfl) written)
  unfold settleOrder
  split
  · refine after_sql_db fun env sumText _ => ?_
    have summed : Unanswered c (log ++ [.ran (.sumRefunds c.orderNo [.REFUND_SUCCESS]) sumText]) :=
      unanswered.append (by simp [Passing])
    dsimp only
    split
    · exact after_answer delivers idle summed
        (iff_of_true (.of_silent (reportedStatus_refundError _ _)) written)
    · split
      · refine after_sql_db fun env' covered _ => ?_
        refine finished (summed.append (by simp [Passing])) ?_
        exact row.other (.coverOrder c.orderNo) covered (by simp [Stmt.table])
      · exact finished summed row
  · exact finished unanswered row

theorem after_accepted (delivers : ∀ reply, (callback reply).Delivers OnKeys reply)
    (asking : Asking cfg start c db slot log) {status : RefundStatus} {refundId : Bytes}
    {result : Json} :
    Leaves cfg start db slot log (updateRefundWithSuccess c status refundId result callback) := by
  refine after_sql_db fun env moved ran => ?_
  refine after_settleOrder delivers asking.idle (asking.unanswered.append (by simp [Passing]))
    asking.written ?_
  exact refundIn_of_cas asking.row ran

theorem after_refused (delivers : ∀ reply, (callback reply).Delivers OnKeys reply)
    (asking : Asking cfg start c db slot log) {errorMessage : Bytes} {definitive : Bool} :
    Leaves cfg start db slot log (refuseWechatRefund c errorMessage definitive callback) := by
  cases definitive with
  | true => exact after_failure delivers asking.idle asking.unanswered asking.row asking.written rfl
  | false =>
      exact after_answer delivers asking.idle asking.unanswered
        (iff_of_true (.of_underWay asking.row rfl) asking.written)

theorem after_onWechatRefund (delivers : ∀ reply, (callback reply).Delivers OnKeys reply)
    (asking : Asking cfg start c db slot log) (a : ChannelAnswer) :
    Leaves cfg start db slot log (onWechatRefund c callback a) := by
  have refused : ∀ {wechatStatus : Bytes} {mapped : Bool}, Leaves cfg start db slot log
      (orThrow (a.result.stringAt "code") fun code =>
        orThrow (if code.isEmpty then some [] else a.result.stringAt "message") fun detail =>
          refuseWechatRefund c (wechatRefundProblem mapped wechatStatus code detail)
            (mapped || !code.isEmpty) callback) :=
    after_orThrow asking.idle asking.unanswered asking.written fun _ _ =>
      after_orThrow asking.idle asking.unanswered asking.written fun _ _ =>
        after_refused delivers asking
  unfold onWechatRefund
  split
  · exact after_refused delivers asking
  · refine after_orThrow asking.idle asking.unanswered asking.written fun wechatStatus _ => ?_
    refine after_orThrow asking.idle asking.unanswered asking.written fun refundId _ => ?_
    dsimp only
    split
    · exact refused
    · exact refused
    · exact after_accepted delivers asking

theorem after_onAlipayRefund (delivers : ∀ reply, (callback reply).Delivers OnKeys reply)
    (asking : Asking cfg start c db slot log) (a : ChannelAnswer) :
    Leaves cfg start db slot log (onAlipayRefund c callback a) := by
  unfold onAlipayRefund
  split
  · exact after_failure delivers asking.idle asking.unanswered asking.row asking.written rfl
  · refine after_orThrow asking.idle asking.unanswered asking.written fun alipayCode _ => ?_
    split
    · exact after_orThrow asking.idle asking.unanswered asking.written fun msg _ =>
        after_failure delivers asking.idle asking.unanswered asking.row asking.written rfl
    · exact after_orThrow asking.idle asking.unanswered asking.written fun refundId _ =>
        after_accepted delivers asking

/-- A refund that is reported as failed while its row is open. -/
theorem not_reportsRow {reply : Reply} (row : RefundIn db c.refundNo [.REFUND_INIT, .REFUNDING])
    (reported : reportedStatus reply = some (Json.text "REFUND_FAIL")) :
    ¬ ReportsRow db c.refundNo reply := by
  intro reports
  obtain ⟨closed, foundClosed, isClosed⟩ := reports.failed reported
  obtain ⟨found, isFound, isOpen⟩ := row
  obtain rfl : closed = found := Option.some.inj (foundClosed.symm.trans isFound)
  rw [List.mem_singleton.mp isClosed] at isOpen
  simp at isOpen

theorem after_invokeRefundChannel (delivers : ∀ reply, (callback reply).Delivers OnKeys reply)
    (idle : Idle slot) (unanswered : Unanswered c log)
    (row : RefundIn db c.refundNo [.REFUND_INIT, .REFUNDING]) {order : OrderRow}
    (isOrder : start.orders.find c.orderNo = some order) :
    Leaves cfg start db slot log (invokeRefundChannel cfg c order.channel callback) := by
  have written : (order.channel = ascii "wechat" ∨
      (order.channel = ascii "alipay" ∧ cfg.channels order.channel = true)) →
      RefusalsWritten cfg start c.orderNo := fun served => ⟨order, isOrder, served⟩
  have unwritten : ¬ (order.channel = ascii "wechat" ∨
      (order.channel = ascii "alipay" ∧ cfg.channels order.channel = true)) →
      ¬ RefusalsWritten cfg start c.orderNo := by
    rintro unserved ⟨other, found, served⟩
    obtain rfl : order = other := Option.some.inj (isOrder.symm.trans found)
    exact unserved served
  have asked : ∀ {x : ChannelCall} {a : ChannelAnswer},
      Unanswered c (log ++ [.answered x a]) := unanswered.append (by simp [Passing])
  unfold invokeRefundChannel
  split
  · rename_i alipay
    split
    · rename_i ready
      exact after_call fun a => after_onAlipayRefund delivers
        ⟨idle, asked, row, written (Or.inr ⟨alipay, ready⟩)⟩ a
    · rename_i missing
      refine after_answer delivers idle unanswered (iff_of_false (not_reportsRow row rfl) ?_)
      refine unwritten ?_
      rintro (wechat | ⟨_, ready⟩)
      · exact absurd (alipay.symm.trans wechat) (by decide)
      · exact missing ready
  · rename_i notAlipay
    split
    · rename_i wechat
      split
      · exact after_call fun a => after_onWechatRefund delivers
          ⟨idle, asked, row, written (Or.inl wechat)⟩ a
      · exact after_failure delivers idle unanswered row (written (Or.inl wechat)) rfl
    · rename_i notWechat
      refine after_answer delivers idle unanswered (iff_of_false (not_reportsRow row rfl) ?_)
      refine unwritten ?_
      rintro (wechat | ⟨alipay, _⟩)
      · exact notWechat wechat
      · exact notAlipay alipay

/-! ## The booking -/

/-- The row a request inserts is open. -/
theorem refundIn_of_insert {env : Env} {booking : RefundBooking} {stamp : Nat}
    (ran : Stmt.run db env (.insertRefund booking) = some stamp) :
    RefundIn (payStore.applyAll db (Stmt.writes (.insertRefund booking) stamp)) booking.refundNo
      [.REFUND_INIT, .REFUNDING] := by
  have fresh := (admitted_eq_some ran).1
  simp only [Db.admitsRefund, Bool.and_eq_true] at fresh
  let row : RefundRow :=
    { booking with status := .REFUND_INIT, channelRefundNo := [], updatedAt := stamp }
  have read := refundColumn.read_applyAll db [Write.insertRefund row] booking.refundNo
  refine ⟨row, read.trans ?_, by simp [row]⟩
  simp only [row, Column.actAll, List.foldl_cons, List.foldl_nil, refundColumn, actOnRefund, if_true,
    Option.isNone_iff_eq_none.mp fresh.1.1, Option.none_or]

variable {record : List PayEntry}

/-- The request has neither booked nor answered anything, and the orders are those
it found. -/
structure Untouched (start db : Db) (log : List PayEntry) : Prop where
  orders : db.orders = start.orders
  nothing : NothingBooked log
  silent : ∀ reply, .replied reply ∉ log

/-- A transaction of this request that has only read so far. -/
structure Reading (start db : Db) (record log : List PayEntry) : Prop extends
    Untouched start db log where
  unwritten : payStore.pending record = []
  passing : ∀ entry ∈ record, Passing entry

theorem Reading.turnedAway (reading : Reading start db record log)
    (delivers : ∀ reply, (callback reply).Delivers OnKeys reply) (reply : Reply) :
    Leaves cfg start db (.active record) log (.rollback (callback reply)) :=
  after_rollback (after_early delivers Idle.closed reading.nothing reply)

/-- The log after a commit that inserted the refund of the case. -/
theorem Reading.booked (reading : Reading start db record log) {stamp : Nat}
    {found : Option OrderRow} :
    Unanswered c (log ++ (record ++
      [.ran (.insertRefund ⟨c.refundNo, c.orderNo, c.paymentNo, c.amount⟩) stamp] ++
      [.ran (.findOrder c.orderNo) found])) where
  books booking other saw := by
    simp only [Saw, List.mem_append, List.mem_singleton] at saw
    rcases saw with old | (read | isThis) | isFind
    · exact absurd old (reading.nothing booking other)
    · exact (reading.passing _ read).elim
    · cases isThis
      exact ⟨rfl, rfl⟩
    · cases isFind
  silent reply replied := by
    simp only [List.mem_append, List.mem_singleton, reduceCtorEq, or_false] at replied
    rcases replied with old | read
    · exact reading.silent reply old
    · exact reading.passing _ read

theorem after_insertRefundRow (delivers : ∀ reply, (callback reply).Delivers OnKeys reply)
    (reading : Reading start db record log) :
    Leaves cfg start db (.active record) log (insertRefundRow cfg c callback) := by
  refine after_sql_txn fun env stamp ran => after_sql_txn fun env' found read => ?_
  rw [reading.unwritten, Store.applyAll_nil] at ran
  have isOrder : start.orders.find c.orderNo = found := by
    rw [← reading.orders, ← Option.some.inj read, Store.pending_append, reading.unwritten]
    rfl
  cases found with
  | none => exact after_rollback (after_early delivers Idle.closed reading.nothing _)
  | some order =>
      refine after_commit (after_invokeRefundChannel delivers Idle.closed ?_ ?_ isOrder)
      · exact reading.booked
      · rw [Store.pending_append, Store.pending_append, reading.unwritten]
        exact refundIn_of_insert ran

theorem after_proceedWithInsert (delivers : ∀ reply, (callback reply).Delivers OnKeys reply)
    (untouched : Untouched start db log) :
    Leaves cfg start db slot log (proceedWithInsert cfg c callback) := by
  have reads : ∀ record, payStore.pending record = [] → (∀ entry ∈ record, Passing entry) →
      Reading start db record log := fun record unwritten passing => ⟨untouched, unwritten, passing⟩
  refine after_start (after_sql_txn fun env locked _ => ?_)
  have locking : Reading start db [.ran (.lockPayment c.paymentNo c.orderNo) locked] log :=
    reads _ rfl (by simp [Passing])
  cases locked with
  | none => exact locking.turnedAway delivers _
  | some payment =>
      refine after_sql_txn fun env' sumText _ => ?_
      have summed : Reading start db [.ran (.lockPayment c.paymentNo c.orderNo) (some payment),
          .ran (.sumRefunds c.orderNo countedStatuses) sumText] log :=
        reads _ rfl (by simp [Passing])
      dsimp only
      split
      · exact summed.turnedAway delivers _
      · split
        · exact summed.turnedAway delivers _
        · exact after_insertRefundRow delivers summed

/-! ## The checks -/

/-- A statement that writes at most keys. -/
theorem Untouched.ran (untouched : Untouched start db log) (st : Stmt) (res : st.Res)
    (away : st.table = none ∨ OnKeys st) :
    Untouched start (payStore.applyAll db (st.writes res)) (log ++ [.ran st res]) := by
  have passing : ∀ entry ∈ ([.ran st res] : List PayEntry), Passing entry := by
    intro entry member
    rw [List.mem_singleton.mp member]
    rcases away with reads | onKeys <;> cases st <;> first | trivial | cases reads | cases onKeys
  have onKeys : ∀ w ∈ st.writes res, w.table = .idempotency := by
    intro w member
    have isTable := Stmt.writes_table member
    rcases away with reads | onKeys
    · rw [reads] at isTable
      cases isTable
    · exact Option.some.inj (isTable.symm.trans onKeys)
  refine ⟨(applyAll_onKeys db onKeys).2.trans untouched.orders,
    untouched.nothing.append passing, fun reply replied => ?_⟩
  rcases List.mem_append.mp replied with old | new
  · exact untouched.silent reply old
  · cases List.mem_singleton.mp new

theorem after_proceedWithAmountCheck (delivers : ∀ reply, (callback reply).Delivers OnKeys reply)
    (idle : Idle slot) (untouched : Untouched start db log) :
    Leaves cfg start db slot log (proceedWithAmountCheck cfg c callback) := by
  refine after_sql_db fun env found _ => ?_
  have looked := untouched.ran (.successRefund c.orderNo c.paymentNo c.amount) found (Or.inl rfl)
  cases found with
  | some row => exact after_early delivers idle looked.nothing _
  | none =>
      refine after_sql_db fun env' count _ => ?_
      have counted :=
        looked.ran (.countOpenRefunds c.orderNo c.paymentNo c.amount) count (Or.inl rfl)
      dsimp only
      split
      · exact after_early delivers idle counted.nothing _
      · exact after_proceedWithInsert delivers counted

theorem after_proceedWithPayment (delivers : ∀ reply, (callback reply).Delivers OnKeys reply)
    (idle : Idle slot) (untouched : Untouched start db log) {request : CreateRefundRequest}
    {uuid paymentNo : Bytes} :
    Leaves cfg start db slot log (proceedWithPayment cfg request uuid paymentNo callback) := by
  refine after_sql_db fun env found _ => ?_
  have looked := untouched.ran (.findPaymentOf paymentNo request.orderNo) found (Or.inl rfl)
  cases found with
  | none => exact after_early delivers idle looked.nothing _
  | some payment =>
      dsimp only
      split
      · refine after_sql_db fun env' foundOrder _ => ?_
        have read := looked.ran (.findOrder request.orderNo) foundOrder (Or.inl rfl)
        cases foundOrder with
        | none => exact after_early delivers idle read.nothing _
        | some order =>
            dsimp only
            split
            · split
              · exact after_early delivers idle read.nothing _
              · exact after_proceedWithAmountCheck delivers idle read
            · exact after_early delivers idle read.nothing _
      · exact after_early delivers idle looked.nothing _

theorem after_attemptsFinder (untouched : Untouched start db log) {orderNo : Bytes}
    {statuses : List PaymentStatus} {thenEmpty : PayProg} {proceedWith : Bytes → PayProg}
    (empty : ∀ db log, Untouched start db log → Leaves cfg start db slot log thenEmpty)
    (found : ∀ paymentNo db log, Untouched start db log →
      Leaves cfg start db slot log (proceedWith paymentNo)) :
    Leaves cfg start db slot log
      (attemptsFinder orderNo statuses thenEmpty callback proceedWith) := by
  refine after_sql_db fun env newest _ => ?_
  have looked := untouched.ran (.newestAttempt orderNo statuses) newest (Or.inl rfl)
  cases newest with
  | none => exact empty _ _ looked
  | some payment => exact found _ _ _ looked

theorem after_proceedRefund (delivers : ∀ reply, (callback reply).Delivers OnKeys reply)
    (idle : Idle slot) (untouched : Untouched start db log) {request : CreateRefundRequest}
    {uuid : Bytes} : Leaves cfg start db slot log (proceedRefund cfg request uuid callback) := by
  unfold proceedRefund
  split
  · exact after_early delivers idle untouched.nothing _
  · split
    · refine after_attemptsFinder untouched (fun db log untouched => ?_)
        fun paymentNo db log untouched => after_proceedWithPayment delivers idle untouched
      exact after_attemptsFinder untouched
        (fun db log untouched => after_early delivers idle untouched.nothing _)
        fun paymentNo db log untouched => after_proceedWithPayment delivers idle untouched
    · exact after_proceedWithPayment delivers idle untouched

theorem after_checkDatabase (idle : Idle slot) (untouched : Untouched start db log)
    {key hash : Bytes} {checked : IdempotencyService.CheckResult → PayProg}
    (decided : ∀ result db log, Untouched start db log → Leaves cfg start db slot log (checked result)) :
    Leaves cfg start db slot log (IdempotencyService.checkDatabase cfg key hash checked) := by
  unfold IdempotencyService.checkDatabase
  split
  · exact decided _ _ _ untouched
  · refine after_sql_db fun env reserved _ => ?_
    have asked := untouched.ran (.reserve key hash none cfg.ttlSeconds) reserved (Or.inr rfl)
    cases reserved with
    | some stamp => exact decided _ _ _ asked
    | none =>
        refine after_sql_db fun env' found _ => ?_
        have read := asked.ran (.findLiveIdempotency key) found (Or.inl rfl)
        cases found with
        | none => exact decided _ _ _ read
        | some row =>
            dsimp only
            unfold IdempotencyService.readReservation
            split
            · split
              · exact decided _ _ _ read
              · unfold orThrow
                split
                · dsimp only
                  split
                  · exact decided _ _ _ read
                  · exact decided _ _ _ read
                · refine after_done idle ?_
                  rintro booking stamp ⟨p, member, saw⟩
                  obtain rfl := List.mem_singleton.mp member
                  exact absurd saw (read.nothing booking stamp)
            · exact decided _ _ _ read

theorem after_createRefund (idle : Idle slot) (untouched : Untouched start db log)
    {request : CreateRefundRequest} {key uuid : Bytes} :
    Leaves cfg start db slot log (createRefund cfg request key uuid) := by
  unfold createRefund
  dsimp only
  split
  · exact after_proceedRefund (delivers_wrapped _ _) idle untouched
  · refine after_checkDatabase idle untouched fun result db log untouched => ?_
    cases result with
    | Started => exact after_proceedRefund (delivers_proceed _ _) idle untouched
    | _ => exact after_early (delivers_wrapped _ _) idle untouched.nothing _

end Report
end RefundService

/-- A request to refund that inserted its row and ran to its end, with no other
writer and no failure, reports the status of the row exactly if the channel of
the order is WeChat, or Alipay with a client. -/
theorem refund_reported_iff {cfg : Config} {db : Db} {request : CreateRefundRequest}
    {idempotencyKey : Bytes} {uuid : Drawn} {events : List PayEvent} {s : PaySys}
    (run : Run (serve cfg) (Serves (Request.createRefund request idempotencyKey uuid)) (Sys.initial db)
      events s) (clean : s.Clean) (rest : s.Quiescent) {booking : RefundBooking} {stamp : Nat}
    (inserted : ∃ p ∈ s.procs, Saw p.log (.insertRefund booking) stamp) :
    (∀ p ∈ s.procs, ∀ reply, .replied reply ∈ p.log → ReportsRow s.db booking.refundNo reply) ↔
      RefusalsWritten cfg db booking.orderNo := by
  rcases run.quietly clean with rfl | quietly
  · obtain ⟨p, member, _⟩ := inserted
    cases member
  · have untouched : RefundService.Untouched db db [.spawned (.createRefund request idempotencyKey uuid)] :=
      ⟨rfl, by simp [RefundService.NothingBooked, Saw], by simp⟩
    have leaves : AtRest (S := payStore) (RefundService.Reported cfg db) db
        (Company.none.around (Proc.spawn (.createRefund request idempotencyKey uuid)
          (serve cfg (.createRefund request idempotencyKey uuid)))) :=
      atRest_spawn (RefundService.after_createRefund Idle.none untouched)
    exact leaves [] s quietly rest booking stamp inserted

/-! ## A channel without a client -/

/-- A paid order of ten yuan with its settled attempt. -/
def paidBy (channel : String) : Db :=
  payStore.applyAll Db.empty
    [.insertOrder ⟨⟨ascii "o", 7, ascii "10.00", ascii "CNY", ascii channel, [], none⟩, .PAID, 1, 2⟩,
      .insertPayment ⟨⟨ascii "#p", ascii "o", ascii "10.00"⟩, .SUCCESS, ascii "T", 1⟩]

/-- The configuration after the channels were taken out. -/
def withoutClients : Config := { shop with channels := fun _ => false }

/-- The request has inserted this refund, to be evaluated. -/
def insertedRefund (log : List PayEntry) (refundNo : Bytes) : Bool :=
  log.any fun
    | .ran (.insertRefund booking) _ => booking.refundNo = refundNo
    | _ => false

/-- The answer reports this status, to be evaluated. -/
def answeredStatus (log : List PayEntry) (status : String) : Bool :=
  log.any fun
    | .replied reply => (reportedStatus reply).any fun said => said.same (Json.text status)
    | _ => false

theorem inserted_of_eval {log : List PayEntry} {refundNo : Bytes}
    (holds : insertedRefund log refundNo = true) :
    ∃ booking stamp, Saw log (.insertRefund booking) stamp ∧ booking.refundNo = refundNo := by
  obtain ⟨entry, member, isInsert⟩ := List.any_eq_true.mp holds
  split at isInsert
  · rename_i booking stamp
    exact ⟨booking, stamp, member, by simpa using isInsert⟩
  · cases isInsert

theorem answered_of_eval {log : List PayEntry} {status : String}
    (holds : answeredStatus log status = true) :
    ∃ reply, .replied reply ∈ log ∧ reportedStatus reply = some (Json.text status) := by
  obtain ⟨entry, member, isAnswer⟩ := List.any_eq_true.mp holds
  split at isAnswer
  · rename_i reply
    obtain ⟨said, reported, same⟩ := (Option.any_eq_true _ _).mp isAnswer
    exact ⟨reply, member, reported.trans (congrArg some (Json.eq_of_same _ _ same))⟩
  · cases isAnswer

/-- Four of the ten yuan of the order are to be refunded. -/
def refundFour : Request := .createRefund (refundOf "r" "4.00") [] (drawn "u")

/-- The moves of one request from a given database. -/
theorem served_run (cfg : Config) (db : Db) (request : Request) (events : List PayEvent)
    (P : PaySys → Bool)
    (evaluates : ((⟨db, [], [Proc.spawn request (serve cfg request)]⟩ : PaySys).runAll (serve cfg)
      moving events).any P = true) :
    ∃ s, Run (serve cfg) (Serves request) (Sys.initial db) (.spawn request :: events) s ∧
      P s = true :=
  Run.serves evaluates

/-- The refund is booked, WeChat takes it up, and the row is moved on. -/
def takenUp : List PayEvent :=
  steps 0 10 3 ++ [.answer 0 (refundAnswer "PROCESSING")] ++ steps 0 1 4

theorem refund_reported_iff_wechat :
    ∃ (s : PaySys) (booking : RefundBooking),
      Run (serve shop) (Serves refundFour) (Sys.initial (paidBy "wechat"))
        (.spawn refundFour :: takenUp) s ∧ booking.refundNo = ascii "r" ∧
      ((∀ p ∈ s.procs, ∀ reply, .replied reply ∈ p.log →
        ReportsRow s.db booking.refundNo reply) ↔
        RefusalsWritten shop (paidBy "wechat") booking.orderNo) := by
  obtain ⟨s, run, holds⟩ := served_run shop (paidBy "wechat") refundFour takenUp
    (fun s => s.restsCleanly && s.procs.any fun p => insertedRefund p.log (ascii "r"))
    (by decide +kernel)
  simp only [Bool.and_eq_true, List.any_eq_true] at holds
  obtain ⟨rests, p, member, isInsert⟩ := holds
  obtain ⟨rest, clean⟩ := Sys.quiescent_of_restsCleanly rests
  obtain ⟨booking, stamp, saw, isRefund⟩ := inserted_of_eval isInsert
  exact ⟨s, booking, run, isRefund, refund_reported_iff run clean rest ⟨p, member, saw⟩⟩

/-- The client of Alipay is gone: the refund is booked, reported as failed, and
its row stays open. -/
theorem refund_reported_failed_unwritten :
    ∃ (s : PaySys) (booking : RefundBooking) (stamp : Nat) (reply : Reply),
      Run (serve withoutClients) (Serves refundFour) (Sys.initial (paidBy "alipay"))
        (.spawn refundFour :: steps 0 10 3) s ∧ s.Clean ∧ s.Quiescent ∧
      (∃ p ∈ s.procs, Saw p.log (.insertRefund booking) stamp ∧ .replied reply ∈ p.log) ∧
      reportedStatus reply = some (Json.text "REFUND_FAIL") ∧
      RefundIn s.db booking.refundNo [.REFUND_INIT] ∧
      ¬ ReportsRow s.db booking.refundNo reply := by
  obtain ⟨s, run, holds⟩ := served_run withoutClients (paidBy "alipay") refundFour (steps 0 10 3)
    (fun s => s.restsCleanly && refundIs s.db "r" .REFUND_INIT && s.procs.any fun p =>
      insertedRefund p.log (ascii "r") && answeredStatus p.log "REFUND_FAIL")
    (by decide +kernel)
  simp only [Bool.and_eq_true, List.any_eq_true, refundIs_iff] at holds
  obtain ⟨⟨rests, row, found, isInit⟩, p, member, isInsert, isAnswer⟩ := holds
  obtain ⟨rest, clean⟩ := Sys.quiescent_of_restsCleanly rests
  obtain ⟨booking, stamp, saw, isRefund⟩ := inserted_of_eval isInsert
  obtain ⟨reply, replied, reported⟩ := answered_of_eval isAnswer
  have isOpen : RefundIn s.db booking.refundNo [.REFUND_INIT] := by
    rw [isRefund]
    exact ⟨row, found, by simp [isInit]⟩
  refine ⟨s, booking, stamp, reply, run, clean, rest, ⟨p, member, saw, replied⟩, reported, isOpen,
    fun reports => ?_⟩
  obtain ⟨closed, foundClosed, isClosed⟩ := reports.failed reported
  rw [isRefund] at foundClosed
  obtain rfl : closed = row := Option.some.inj (foundClosed.symm.trans found)
  rw [List.mem_singleton.mp isClosed] at isInit
  cases isInit

end DrogonPay
