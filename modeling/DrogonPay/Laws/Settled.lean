import DrogonPay.Model.Effects
import DrogonPay.Services.Reconciliation

/-!
Contract: what is settled stays settled.

Owns:
- the laws over committed states of a payment that is SUCCESS and of a refund that
  is REFUND_SUCCESS;
- for each, the condition on the writes by primary key under which every run
  keeps it, and a run of the services that breaks it;
- `shop` and `replay`, by which runs on fixed inputs are evaluated.

Does not own: the law of the orders, or how often the conditions fail. Every other
statement on the two status columns is guarded, and the proofs rest on these guards
alone: nothing is assumed about which programs run.
-/

namespace DrogonPay

open ReadCommitted

/-! ## Runs on fixed inputs -/

/-- A configuration with both channels ready and validators that accept. -/
def shop : Config where
  channels _ := true
  configured _ := true
  wechatReady := true
  appId := []
  mchId := []
  sandboxBuyerId := []
  ttlSeconds := 86400
  batchSize := 50
  digest _ := []
  validateNotifyUrl _ := none
  validateTimeExpire _ _ _ := none
  validateWechatOrderFields _ _ _ := none
  parseRfc3339 _ := none
  toRfc3339Utc _ := []

/-- The services on a list of events, from an empty database. -/
def replay (check : PaySys → PayEvent → Bool) (events : List PayEvent) : Option PaySys :=
  Sys.runAll (serve shop) check (Sys.initial Db.empty) events

theorem replay_run (check : PaySys → PayEvent → Bool) (events : List PayEvent)
    (P : PaySys → Bool) (evaluates : (replay check events).any P = true) :
    ∃ s, PayRun shop (fun s event => check s event = true) events s ∧ P s = true :=
  Run.exists_of_runAll evaluates

/-- A number drawn for a fixed run. -/
def drawn (text : String) : Drawn where
  text := ascii "#" ++ ascii text
  nonempty := by simp [ascii]

/-- Process `pid` runs its next `count` statements at time `now`. -/
def steps (pid count now : Nat) : List PayEvent :=
  List.replicate count (.exec pid ⟨now, fun _ => 0⟩)

/-- A row that was there in an earlier state of a history that keeps `Q` of it. -/
theorem kept_now {ρ : Type} {Q : ρ → ρ → Prop} {read : Db → Option ρ} {s : PaySys}
    (stays : s.history.Pairwise fun later earlier => Kept Q (read earlier) (read later))
    {earlier : Db} (isPast : earlier ∈ s.past) {row row' : ρ} (found : read earlier = some row)
    (found' : read s.db = some row') : Q row row' := by
  obtain ⟨now, foundNow, keeps⟩ := (List.pairwise_cons.mp stays).1 earlier isPast row found
  obtain rfl : row' = now := Option.some.inj (found'.symm.trans foundNow)
  exact keeps

/-! ## A refusal after the payment -/

/-! A create call is answered "the trade has succeeded" after a notification
settled the order it booked. -/

/-- A create request for ten yuan on Alipay. -/
def tenYuan : CreatePaymentRequest :=
  ⟨ascii "o", ascii "10.00", ascii "CNY", ascii "tea", [], 1, .null, ascii "alipay", [], []⟩

/-- The order is booked, the call is out, and the notification of the payment is
worked off. -/
def paidWhileCalling : List PayEvent :=
  [.spawn (.createPayment tenYuan [] (drawn "p") 0)] ++ steps 0 4 1 ++
    [.spawn (.alipayNotification (ascii "T") (ascii "o") (ascii "TRADE_SUCCESS")
      (ascii "10.00"))] ++ steps 1 8 2

/-- Alipay refuses the call because the trade was paid. -/
def hasSuccess : ChannelAnswer :=
  ⟨Json.object [("code", Json.text "40004"), ("sub_msg", Json.text "ACQ.TRADE_HAS_SUCCESS")], []⟩

def refusedAfterPaid : List PayEvent :=
  paidWhileCalling ++ [.answer 0 hasSuccess] ++ steps 0 4 3

/-- The order has this status. -/
def orderIs (db : Db) (orderNo : String) (status : OrderStatus) : Bool :=
  (db.orders.find (ascii orderNo)).any fun row => row.status = status

theorem orderIs_iff {db : Db} {orderNo : String} {status : OrderStatus} :
    orderIs db orderNo status = true ↔
      ∃ row, db.orders.find (ascii orderNo) = some row ∧ row.status = status := by
  simp [orderIs, Option.any_eq_true]

/-! ## Payments -/

def PaymentStatus.settled (status : PaymentStatus) : Bool :=
  status = .SUCCESS || status = .REFUNDED

/-- No attempt that is settled is written FAIL by primary key. -/
def paymentWriteGuarded (s : PaySys) (event : PayEvent) : Bool :=
  match s.executing event with
  | some (.failPayment paymentNo, db) =>
      (db.payments.find paymentNo).all fun row => !row.status.settled
  | _ => true

theorem PaymentAfter.keeps_settled {st : Stmt} {paymentNo : Bytes} {old new : Option PaymentRow}
    (after : PaymentAfter st paymentNo old new)
    (guarded : ∀ row, st = .failPayment paymentNo → old = some row → row.status.settled = false) :
    Kept (fun before now => before.status.settled → now.status.settled) old new := by
  cases after with
  | same => exact Kept.refl (fun _ => id) _
  | inserted _ _ => exact Kept.none _
  | @moved row status tradeNo move =>
      refine Kept.some fun settled => ?_
      cases move with
      | cas unsettled => rcases unsettled with eq | eq <;> simp [eq, PaymentStatus.settled] at settled
      | fail =>
          rw [guarded row rfl rfl] at settled
          cases settled

private theorem paymentColumn_keeps_settled :
    paymentColumn.Keeps (fun _ _ => Kept fun before now => before.status.settled → now.status.settled)
      fun s event => paymentWriteGuarded s event = true := by
  refine .of_executing (fun _ => Kept.refl fun _ => id) ?_ ?_
  · intro paymentNo a b c first second
    exact first.trans second fun keeps keeps' settled => keeps' (keeps settled)
  · intro s event st seen env res guarded executes result paymentNo
    refine (payment_after result paymentNo).keeps_settled fun row issued found => ?_
    subst issued
    simpa [paymentWriteGuarded, executes, show seen.payments.find paymentNo = some row from found]
      using guarded

/-- In every two committed states, an attempt that was SUCCESS is SUCCESS or
REFUNDED later on. -/
def SettledPaymentsStay (s : PaySys) : Prop :=
  ∀ paymentNo, s.history.Pairwise fun later earlier =>
    Kept (fun before now : PaymentRow =>
        before.status = .SUCCESS → now.status = .SUCCESS ∨ now.status = .REFUNDED)
      (earlier.payments.find paymentNo) (later.payments.find paymentNo)

/-- A settled attempt stays settled in every run that writes none of them FAIL
by primary key. -/
theorem settled_payments_stay {cfg : Config} {events : List PayEvent} {s : PaySys}
    (run : PayRun cfg (fun s event => paymentWriteGuarded s event = true) events s) :
    SettledPaymentsStay s := by
  intro paymentNo
  refine (run.column_history paymentColumn_keeps_settled paymentNo).imp fun kept row found => ?_
  obtain ⟨row', found', keeps⟩ := kept row found
  refine ⟨row', found', fun success => ?_⟩
  simpa [PaymentStatus.settled] using keeps (by simp [success, PaymentStatus.settled])

/-- The payment has this status. -/
def paymentIs (db : Db) (paymentNo : String) (status : PaymentStatus) : Bool :=
  (db.payments.find (ascii paymentNo)).any fun row => row.status = status

theorem paymentIs_iff {db : Db} {paymentNo : String} {status : PaymentStatus} :
    paymentIs db paymentNo status = true ↔
      ∃ row, db.payments.find (ascii paymentNo) = some row ∧ row.status = status := by
  simp [paymentIs, Option.any_eq_true]

theorem settled_payments_stay_paid :
    ∃ s, PayRun shop (fun s event => paymentWriteGuarded s event = true) paidWhileCalling s ∧
      paymentIs s.db "#p" .SUCCESS ∧ SettledPaymentsStay s := by
  obtain ⟨s, run, paid⟩ := replay_run paymentWriteGuarded paidWhileCalling
    (fun s => paymentIs s.db "#p" .SUCCESS) (by decide +kernel)
  exact ⟨s, run, paid, settled_payments_stay run⟩

theorem settled_payments_do_not_stay :
    ¬ ∀ (cfg : Config) (events : List PayEvent) (s : PaySys),
      PayRun cfg (fun _ _ => True) events s → SettledPaymentsStay s := by
  intro claim
  obtain ⟨s, run, holds⟩ := replay_run (fun _ _ => true) refusedAfterPaid
    (fun s => paymentIs s.db "#p" .FAIL && s.past.any fun db => paymentIs db "#p" .SUCCESS)
    (by decide +kernel)
  simp only [Bool.and_eq_true, List.any_eq_true, paymentIs_iff] at holds
  obtain ⟨⟨row', found', failed⟩, earlier, member, row, found, paid⟩ := holds
  have stays := claim shop _ s (run.mono fun _ _ _ => trivial) (ascii "#p")
  rcases kept_now stays member found found' paid with eq | eq <;> simp [failed] at eq

/-! ## Refunds -/

/-- No refund that has settled is written to another status by primary key. -/
def refundWriteGuarded (s : PaySys) (event : PayEvent) : Bool :=
  match s.executing event with
  | some (.updateRefund refundNo status _, db) =>
      status = .REFUND_SUCCESS ||
        (db.refunds.find refundNo).all fun row => row.status ≠ .REFUND_SUCCESS
  | _ => true

theorem RefundAfter.keeps_success {st : Stmt} {refundNo : Bytes} {old new : Option RefundRow}
    (after : RefundAfter st refundNo old new)
    (guarded : ∀ status refundId row, st = .updateRefund refundNo status refundId →
      old = some row → status = .REFUND_SUCCESS ∨ row.status ≠ .REFUND_SUCCESS) :
    Kept (fun before now => before.status = .REFUND_SUCCESS → now.status = .REFUND_SUCCESS)
      old new := by
  cases after with
  | same => exact Kept.refl (fun _ => id) _
  | inserted _ _ => exact Kept.none _
  | touched => exact Kept.some id
  | @moved row status refundId now move =>
      refine Kept.some fun success => ?_
      cases move with
      | cas unsettled => rcases unsettled with eq | eq <;> simp [eq] at success
      | @update _ _ _ issuedId =>
          rcases guarded status issuedId row rfl rfl with eq | different
          · exact eq
          · exact absurd success different

private theorem refundColumn_keeps_success :
    refundColumn.Keeps
      (fun _ _ => Kept fun before now =>
        before.status = .REFUND_SUCCESS → now.status = .REFUND_SUCCESS)
      fun s event => refundWriteGuarded s event = true := by
  refine .of_executing (fun _ => Kept.refl fun _ => id) ?_ ?_
  · intro refundNo a b c first second
    exact first.trans second fun keeps keeps' success => keeps' (keeps success)
  · intro s event st seen env res guarded executes result refundNo
    refine (refund_after result refundNo).keeps_success fun status refundId row issued found => ?_
    subst issued
    simpa [refundWriteGuarded, executes, show seen.refunds.find refundNo = some row from found]
      using guarded

/-- In every two committed states, a refund that was REFUND_SUCCESS still is. -/
def RefundSuccessAbsorbing (s : PaySys) : Prop :=
  ∀ refundNo, s.history.Pairwise fun later earlier =>
    Kept (fun before now : RefundRow =>
        before.status = .REFUND_SUCCESS → now.status = .REFUND_SUCCESS)
      (earlier.refunds.find refundNo) (later.refunds.find refundNo)

/-- REFUND_SUCCESS is absorbing in every run whose syncs find no settled refund
to overwrite. -/
theorem refund_success_absorbing {cfg : Config} {events : List PayEvent} {s : PaySys}
    (run : PayRun cfg (fun s event => refundWriteGuarded s event = true) events s) :
    RefundSuccessAbsorbing s :=
  fun refundNo => run.column_history refundColumn_keeps_success refundNo

/-! A sync holds a PROCESSING answer while the notification settles the
refund. -/

/-- A create request for ten yuan on WeChat. -/
def tenYuanOnWechat : CreatePaymentRequest := { tenYuan with channel := ascii "wechat" }

def codeUrl : ChannelAnswer := ⟨Json.object [("code_url", Json.text "weixin://pay")], []⟩

def paidNotice : Notification where
  id := ascii "N1"
  plain := Json.object [("out_trade_no", Json.text "o"), ("transaction_id", Json.text "T"),
    ("trade_state", Json.text "SUCCESS"), ("amount", Json.object [("total", .int 1000)])]
  bodyHash := []

/-- The order is booked and offered, and the notification of its payment is
worked off. -/
def paidOnWechat : List PayEvent :=
  [.spawn (.createPayment tenYuanOnWechat [] (drawn "p") 0)] ++ steps 0 4 1 ++
    [.answer 0 codeUrl] ++ steps 0 2 1 ++
    [.spawn (.paymentNotification paidNotice (drawn "k1"))] ++ steps 1 11 2

def refundOf (refundNo amount : String) : CreateRefundRequest :=
  ⟨ascii "o", ascii "#p", ascii refundNo, ascii amount, [], [], []⟩

/-- A refund in the status WeChat reports. -/
def refundAnswer (status : String) : ChannelAnswer :=
  ⟨Json.object [("status", Json.text status), ("refund_id", Json.text "R")], []⟩

def refundedNotice (id refundNo : String) (fen : Int) : Notification where
  id := ascii id
  plain := Json.object [("out_refund_no", Json.text refundNo),
    ("refund_status", Json.text "SUCCESS"), ("refund_id", Json.text "R"),
    ("amount", Json.object [("refund", .int fen)])]
  bodyHash := []

/-- Four of the ten yuan are accepted for a refund, a query reads the row, and
the notification settles it. -/
def settledWhileQuerying : List PayEvent :=
  paidOnWechat ++ [.spawn (.createRefund (refundOf "r" "4.00") [] (drawn "u"))] ++ steps 2 10 3 ++
    [.answer 2 (refundAnswer "PROCESSING")] ++ steps 2 1 3 ++
    [.spawn (.queryRefund (ascii "r"))] ++ steps 3 1 4 ++
    [.answer 3 (refundAnswer "PROCESSING")] ++ steps 3 2 4 ++
    [.spawn (.refundNotification (refundedNotice "N2" "r" 400) (drawn "k2"))] ++ steps 4 12 5

/-- The query writes what it was told. -/
def staleSync : List PayEvent := settledWhileQuerying ++ steps 3 3 6

/-- The refund has this status. -/
def refundIs (db : Db) (refundNo : String) (status : RefundStatus) : Bool :=
  (db.refunds.find (ascii refundNo)).any fun row => row.status = status

theorem refundIs_iff {db : Db} {refundNo : String} {status : RefundStatus} :
    refundIs db refundNo status = true ↔
      ∃ row, db.refunds.find (ascii refundNo) = some row ∧ row.status = status := by
  simp [refundIs, Option.any_eq_true]

theorem refund_success_absorbing_settled :
    ∃ s, PayRun shop (fun s event => refundWriteGuarded s event = true) settledWhileQuerying s ∧
      refundIs s.db "r" .REFUND_SUCCESS ∧ RefundSuccessAbsorbing s := by
  obtain ⟨s, run, settled⟩ := replay_run refundWriteGuarded
    settledWhileQuerying (fun s => refundIs s.db "r" .REFUND_SUCCESS)
    (by decide +kernel)
  exact ⟨s, run, settled, refund_success_absorbing run⟩

theorem refund_success_not_absorbing :
    ¬ ∀ (cfg : Config) (events : List PayEvent) (s : PaySys),
      PayRun cfg (fun _ _ => True) events s → RefundSuccessAbsorbing s := by
  intro claim
  obtain ⟨s, run, holds⟩ := replay_run (fun _ _ => true) staleSync
    (fun s => refundIs s.db "r" .REFUNDING &&
      s.past.any fun db => refundIs db "r" .REFUND_SUCCESS) (by decide +kernel)
  simp only [Bool.and_eq_true, List.any_eq_true, refundIs_iff] at holds
  obtain ⟨⟨row', found', reopened⟩, earlier, member, row, found, settled⟩ := holds
  have absorbing := claim shop _ s (run.mono fun _ _ _ => trivial) (ascii "r")
  have keeps := kept_now absorbing member found found'
  simp [reopened] at keeps
  exact keeps settled

end DrogonPay
