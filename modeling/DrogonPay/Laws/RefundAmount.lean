import DrogonPay.Laws.Settled
import DrogonPay.Promises.Programs
import DrogonPay.ReadCommitted.Origins

/-!
Contract: a refund succeeds by a message with its amount.

Owns:
- `TellsRefund`, what it is for a message to name a refund and an amount, and
  `RefundsAsTold`, the law over every refund that is or was REFUND_SUCCESS;
- `amountAnswered`, the condition on the answers of the channels under which
  every run keeps it, and a run in which a query breaks it.

Does not own: how the amount of a notification is compared; the contract of the
services says that it was.
-/

namespace DrogonPay

open ReadCommitted

namespace RefundService

/-! ## Messages -/

/-- The refunded fen an Alipay answer names. -/
def alipayRefundedFen (body : Json) : Option Int := do
  return (← PayUtils.parseAmountToFen (← body.stringAt "refund_fee") : Nat)

/-- A message of a channel about this refund, with the refunded amount it
names. -/
inductive TellsRefund : PayEntry → RefundBooking → Nat → Prop where
  | notification {notification : Notification} {ownerToken : Drawn} {booking : RefundBooking}
      {fen : Nat} (named : notification.plain.stringAt "out_refund_no" = some booking.refundNo)
      (refunded : refundedFen notification.plain = some (fen : Int)) :
      TellsRefund (.spawned (.refundNotification notification ownerToken)) booking fen
  | queried {a : ChannelAnswer} {booking : RefundBooking} {fen : Nat}
      (refunded : refundedFen a.result = some (fen : Int)) :
      TellsRefund (.answered (.queryRefund (ascii "wechat") booking.refundNo) a) booking fen
  | wechat {payload : Json} {a : ChannelAnswer} {booking : RefundBooking} {fen : Nat}
      (named : payload.at? (ascii "out_refund_no") = some (.str booking.refundNo))
      (refunded : refundedFen a.result = some (fen : Int)) :
      TellsRefund (.answered (.refund (ascii "wechat") payload) a) booking fen
  | alipay {payload : Json} {a : ChannelAnswer} {booking : RefundBooking} {fen : Nat}
      (named : payload.at? (ascii "out_trade_no") = some (.str booking.orderNo))
      (asked : payload.at? (ascii "refund_amount") = some (.str booking.amount))
      (refunded : alipayRefundedFen a.result = some (fen : Int)) :
      TellsRefund (.answered (.refund (ascii "alipay") payload) a) booking fen

/-- A statement that moved the refund to REFUND_SUCCESS. -/
def MovesRefund (refundNo : Bytes) (entry : PayEntry) : Prop :=
  (∃ refundId now, entry = .ran (.casRefund refundNo .REFUND_SUCCESS refundId) (some now)) ∨
    ∃ refundId now, entry = .ran (.updateRefund refundNo .REFUND_SUCCESS refundId) (some now)

/-- Every refund that is or was REFUND_SUCCESS was moved there by a process that
held a message about it with its amount. -/
def RefundsAsTold (s : PaySys) : Prop :=
  ∀ db ∈ s.history, ∀ refundNo row, db.refunds.find refundNo = some row →
    row.status = .REFUND_SUCCESS →
    ∃ p ∈ s.procs, ∃ before move after, p.log = before ++ move :: after ∧
      MovesRefund refundNo move ∧ ∃ message ∈ before, ∃ fen,
        TellsRefund message row.toRefundBooking fen ∧
          PayUtils.parseAmountToFen row.amount = some fen

/-! ## The condition -/

/-- The answer makes the refund succeed. -/
def refundMade : ChannelCall → ChannelAnswer → Bool
  | .refund channel _, a =>
      a.error.isEmpty &&
        if channel = ascii "alipay" then a.result.stringAt "code" = some (ascii "10000")
        else (a.result.stringAt "status").bind PayUtils.mapRefundStatus = some .REFUND_SUCCESS
  | .queryRefund _ _, a =>
      a.error.isEmpty &&
        (a.result.stringAt "status").bind PayUtils.mapRefundStatus = some .REFUND_SUCCESS
  | _, _ => false

/-- The fen a call asks to refund, or asks after. -/
def askedFen (db : Db) : ChannelCall → Option Int
  | .refund channel payload =>
      if channel = ascii "alipay" then
        match payload.at? (ascii "refund_amount") with
        | some (.str text) => (PayUtils.parseAmountToFen text).map Int.ofNat
        | _ => none
      else
        match (payload.at? (ascii "amount")).bind (·.at? (ascii "refund")) with
        | some (.int fen) => some fen
        | _ => none
  | .queryRefund _ refundNo =>
      (db.refunds.find refundNo).bind fun row =>
        (PayUtils.parseAmountToFen row.amount).map Int.ofNat
  | _ => none

/-- The refunded fen the answer to a call names. -/
def answeredFen (call : ChannelCall) (a : ChannelAnswer) : Option Int :=
  match call with
  | .refund channel _ =>
      if channel = ascii "alipay" then alipayRefundedFen a.result else refundedFen a.result
  | _ => refundedFen a.result

/-- An answer that makes a refund succeed names the amount that was asked for. -/
def namesAmount (db : Db) (call : ChannelCall) (a : ChannelAnswer) : Bool :=
  !refundMade call a || ((answeredFen call a).isSome && answeredFen call a = askedFen db call)

/-- Whenever an answer makes a refund succeed, it names its amount. -/
def amountAnswered (s : PaySys) (event : PayEvent) : Bool :=
  match event with
  | .answer pid a =>
      match (s.procs[pid]?).bind fun p => p.queue.head? with
      | some (.call call _) => namesAmount s.db call a
      | _ => true
  | _ => true

theorem refundMade_of_made {call : ChannelCall} {a : ChannelAnswer} (made : RefundMade call a) :
    refundMade call a = true := by
  have notAlipay : ascii "wechat" ≠ ascii "alipay" := by decide
  cases made with
  | wechat through said =>
      obtain ⟨raw, isRaw, mapped⟩ := said
      simp [refundMade, through, notAlipay, isRaw, mapped]
  | alipay through said => simp [refundMade, through, said]
  | query through said =>
      obtain ⟨raw, isRaw, mapped⟩ := said
      simp [refundMade, through, isRaw, mapped]

/-! ## Runs -/

section Runs

variable {cfg : Config} {ok : PaySys → PayEvent → Prop} {events : List PayEvent} {s : PaySys}
  {p : PayProc}

/-- Every answer in a log named its amount when it came. -/
theorem answer_names_amount (run : PayRun cfg ok events s)
    (condition : ∀ s event, ok s event → amountAnswered s event = true) (member : p ∈ s.procs)
    {call : ChannelCall} {a : ChannelAnswer} (heard : .answered call a ∈ p.log)
    (made : RefundMade call a) :
    ∃ db ∈ s.history, ∃ fen, answeredFen call a = some fen ∧ askedFen db call = some fen := by
  have named : ∃ db ∈ s.history, namesAmount db call a = true := by
    refine run.heard (H := fun history call a => ∃ db ∈ history, namesAmount db call a = true)
      ?_ ?_ member heard
    · rintro history history' call a grows ⟨db, isPast, names⟩
      exact ⟨db, grows.subset isPast, names⟩
    · intro s event pid p call a meets hears
      obtain ⟨k, rest, head⟩ := hears.head
      have names := condition s event meets
      simp only [hears.heard, amountAnswered, hears.proc, head, Option.bind_some,
        List.head?_cons] at names
      exact ⟨s.db, List.mem_cons_self, names⟩
  obtain ⟨db, isPast, names⟩ := named
  simp only [namesAmount, refundMade_of_made made, Bool.not_true, Bool.false_or, Bool.and_eq_true,
    decide_eq_true_eq] at names
  obtain ⟨fen, isFen⟩ := Option.isSome_iff_exists.mp names.1
  exact ⟨db, isPast, fen, isFen, names.2 ▸ isFen⟩

/-- The answer to the call of the process that booked a refund tells its
amount. -/
theorem tells_of_asked {db : Db} {call : ChannelCall} {a : ChannelAnswer}
    {booking : RefundBooking} {asked : Nat} {fen : Int} (asks : AsksFor call booking asked)
    (answered : answeredFen call a = some fen) (isAsked : askedFen db call = some fen) :
    TellsRefund (.answered call a) booking asked := by
  have notAlipay : ascii "wechat" ≠ ascii "alipay" := by decide
  cases asks with
  | wechat named has refund =>
      simp only [askedFen, if_neg notAlipay, has, Option.bind_some, refund,
        Option.some.injEq] at isAsked
      simp only [answeredFen, if_neg notAlipay] at answered
      exact .wechat named (by rw [answered, isAsked])
  | alipay named refund worth =>
      simp only [askedFen, if_true, refund, worth, Option.map_some, Option.some.injEq] at isAsked
      simp only [answeredFen, if_true] at answered
      refine .alipay named refund ?_
      rw [answered, ← isAsked]
      rfl

/-- A query of the refund tells its amount. -/
theorem tells_of_queried (run : PayRun cfg ok events s) (member : p ∈ s.procs) {db : Db}
    (isPast : db ∈ s.history) {refund : RefundRow} {a : ChannelAnswer} {fen : Int}
    (read : Saw p.log (.findRefund refund.refundNo) (some refund))
    (answered : answeredFen (.queryRefund (ascii "wechat") refund.refundNo) a = some fen)
    (isAsked : askedFen db (.queryRefund (ascii "wechat") refund.refundNo) = some fen) :
    ∃ asked, TellsRefund (.answered (.queryRefund (ascii "wechat") refund.refundNo) a)
        refund.toRefundBooking asked ∧ PayUtils.parseAmountToFen refund.amount = some asked := by
  simp only [askedFen, Option.bind_eq_some_iff, Option.map_eq_some_iff] at isAsked
  obtain ⟨row, found, asked, worth, isFen⟩ := isAsked
  obtain ⟨seen, foundSeen, booked⟩ := refund_stays run member isPast found
  obtain ⟨seen', foundSeen', booked'⟩ := refund_read run member (Proc.mem_known_of_log read)
  obtain rfl : seen = seen' := Option.some.inj (foundSeen.symm.trans foundSeen')
  have sameAmount : row.amount = refund.amount :=
    congrArg RefundBooking.amount (booked.trans booked'.symm)
  refine ⟨asked, .queried ?_, by rw [← sameAmount, worth]⟩
  rw [← isFen] at answered
  exact answered

/-- What moves a refund to REFUND_SUCCESS holds a message about it with its
amount. -/
theorem told_of_promise (run : PayRun cfg ok events s)
    (condition : ∀ s event, ok s event → amountAnswered s event = true) (member : p ∈ s.procs)
    {known : List PayEntry} {record : Option (List PayEntry)} {refundNo : Bytes}
    (logged : known ⊆ p.log) (promise : RefundMovePromise known record refundNo .REFUND_SUCCESS) :
    ∃ row, (s.view p.slot.record).refunds.find refundNo = some row ∧ ∃ message ∈ known, ∃ fen,
      TellsRefund message row.toRefundBooking fen ∧
        PayUtils.parseAmountToFen row.amount = some fen := by
  cases record with
  | none =>
      obtain ⟨booking, now, asked, totalFen, booked, rfl, ⟨_, _, worth, _⟩, call, a, heard, made,
        asks⟩ := promise rfl
      obtain ⟨db, isPast, fen, answered, isAsked⟩ :=
        answer_names_amount run condition member (logged heard) made
      obtain ⟨row, found, isBooking⟩ :=
        refund_booked run member (Proc.mem_known_of_log (logged booked))
      refine ⟨row, found, _, heard, asked, ?_, ?_⟩
      · rw [isBooking]
        exact tells_of_asked asks answered isAsked
      · rw [← worth, ← isBooking]
  | some record =>
      obtain ⟨_, refund, rfl, read, message⟩ := promise
      obtain ⟨row, found, isBooking⟩ :=
        refund_read run member (Proc.mem_known_of_log (logged read))
      refine ⟨row, found, ?_⟩
      rw [← isBooking]
      rcases message rfl with ⟨entry, heard, notification, ownerToken, fen, rfl, named, refunded,
        worth⟩ | ⟨a, heard, made⟩
      · exact ⟨_, heard, fen, .notification named refunded, worth⟩
      · obtain ⟨db, isPast, fen, answered, isAsked⟩ :=
          answer_names_amount run condition member (logged heard) made
        obtain ⟨asked, tells, worth⟩ :=
          tells_of_queried run member isPast (logged read) answered isAsked
        exact ⟨_, heard, asked, tells, worth⟩

end Runs

/-- Refunds succeed as told in every run in which an answer that makes a refund
succeed names the amount that was asked for. -/
theorem refunds_as_told {cfg : Config} {events : List PayEvent} {s : PaySys}
    (run : PayRun cfg (fun s event => amountAnswered s event = true) events s) :
    RefundsAsTold s := by
  intro db isPast refundNo row found success
  have holds : (refundColumn.read db refundNo).any fun refund =>
      refund.status = .REFUND_SUCCESS := by
    simp [refundColumn, found, success]
  obtain ⟨p, member, st, res, made⟩ : ∃ p ∈ s.procs, ∃ st res, Made payContract refundColumn
      (fun row => row.any fun refund => refund.status = .REFUND_SUCCESS) refundNo p.log st res :=
    run.made (by simp [refundColumn, Db.empty, Table.find, Table.empty]) (verified_serve cfg) db
      isPast holds
  obtain ⟨w, old, write, fails, becomes⟩ := made.changed
  obtain ⟨before, after, known, record, split, issue, isPrefix, _⟩ := made.issued
  have moves : MovesRefund refundNo (.ran st res) ∧
      RefundMovePromise known record refundNo .REFUND_SUCCESS := by
    rcases moves_of_refundSuccess write fails becomes with ⟨refundId, rfl⟩ | ⟨refundId, rfl⟩
    · cases res with
      | none => cases write
      | some now => exact ⟨Or.inl ⟨refundId, now, rfl⟩, issue⟩
    · cases res with
      | none => cases write
      | some now => exact ⟨Or.inr ⟨refundId, now, rfl⟩, issue.2⟩
  have logged : known ⊆ p.log := by
    rw [split]
    exact List.Subset.trans isPrefix.subset (List.subset_append_left _ _)
  obtain ⟨seen, foundSeen, message, heard, fen, tells, worth⟩ :=
    told_of_promise run (fun _ _ => id) member logged moves.2
  obtain ⟨seen', foundSeen', booked⟩ := refund_stays run member isPast found
  obtain rfl : seen = seen' := Option.some.inj (foundSeen.symm.trans foundSeen')
  refine ⟨p, member, before, _, after, split, moves.1, message, isPrefix.subset heard, fen, ?_, ?_⟩
  · rw [booked]
    exact tells
  · rw [← worth]
    exact congrArg (fun booking => PayUtils.parseAmountToFen booking.amount) booked

/-- A refund WeChat reports in this status, with an amount. -/
def refundAnswerOf (status : String) (fen : Int) : ChannelAnswer :=
  ⟨Json.object [("status", Json.text status), ("refund_id", Json.text "R"),
    ("amount", Json.object [("refund", .int fen)])], []⟩

/-- Four of ten yuan are accepted for a refund, and a query is answered with this
amount. -/
def queriedRefund (fen : Int) : List PayEvent :=
  paidOnWechat ++ [.spawn (.createRefund (refundOf "r" "4.00") [] (drawn "u"))] ++ steps 2 10 3 ++
    [.answer 2 (refundAnswer "PROCESSING")] ++ steps 2 1 3 ++
    [.spawn (.queryRefund (ascii "r"))] ++ steps 3 1 4 ++
    [.answer 3 (refundAnswerOf "SUCCESS" fen)] ++ steps 3 9 4

theorem refund_told_by_query :
    ∃ s, PayRun shop (fun s event => amountAnswered s event = true) (queriedRefund 400) s ∧
      refundIs s.db "r" .REFUND_SUCCESS ∧ RefundsAsTold s := by
  obtain ⟨s, run, settled⟩ := replay_run amountAnswered (queriedRefund 400)
    (fun s => refundIs s.db "r" .REFUND_SUCCESS) (by decide +kernel)
  exact ⟨s, run, settled, refunds_as_told run⟩

/-- The refunded fen a message names, whatever it is about. -/
def toldFen : PayEntry → Option Int
  | .spawned (.refundNotification notification _) => refundedFen notification.plain
  | .answered call a => answeredFen call a
  | _ => none

theorem TellsRefund.toldFen_eq {message : PayEntry} {booking : RefundBooking} {fen : Nat}
    (tells : TellsRefund message booking fen) : toldFen message = some (fen : Int) := by
  have notAlipay : ascii "wechat" ≠ ascii "alipay" := by decide
  cases tells with
  | notification _ refunded => exact refunded
  | queried refunded => exact refunded
  | wechat _ refunded => simpa [toldFen, answeredFen, notAlipay] using refunded
  | alipay _ _ refunded => simpa [toldFen, answeredFen] using refunded

/-- No process was told this amount. -/
def untold (s : PaySys) (fen : Int) : Bool :=
  s.procs.all fun p => p.log.all fun entry => toldFen entry ≠ some fen

theorem refund_told_another_amount :
    ¬ ∀ (cfg : Config) (events : List PayEvent) (s : PaySys),
      PayRun cfg (fun _ _ => True) events s → RefundsAsTold s := by
  intro claim
  obtain ⟨s, run, holds⟩ := replay_run (fun _ _ => true) (queriedRefund 900)
    (fun s => ((s.db.refunds.find (ascii "r")).any fun row =>
      row.status = .REFUND_SUCCESS && PayUtils.parseAmountToFen row.amount = some 400) &&
      untold s 400) (by decide +kernel)
  simp only [Bool.and_eq_true, Option.any_eq_true, decide_eq_true_eq] at holds
  obtain ⟨⟨row, found, success, worth⟩, silent⟩ := holds
  obtain ⟨p, member, before, move, after, split, _, message, heard, fen, tells, isFen⟩ :=
    claim shop _ s (run.mono fun _ _ _ => trivial) s.db List.mem_cons_self (ascii "r") row found
      success
  obtain rfl : 400 = fen := Option.some.inj (worth.symm.trans isFen)
  simp only [untold, List.all_eq_true, decide_eq_true_eq] at silent
  exact silent p member message (by simp [split, heard]) tells.toldFen_eq

end RefundService
end DrogonPay
