import DrogonPay.Laws.Settled
import DrogonPay.Model.Rfc3339
import DrogonPay.Promises.Offers
import DrogonPay.Promises.Programs
import DrogonPay.ReadCommitted.Origins

/-!
Contract: the deadline of an order is the one its payer was offered.

Owns:
- `Offers`, the attempts that go out with a `time_expire`, and `DeadlinesAgree`,
  the law over the orders they belong to and over the sweep that closes them;
- `deadlineKept`, the condition on a QR request that reuses an order under which
  every run keeps it, and a retry that breaks it.

Does not own: what the create paths promise.
-/

namespace DrogonPay

open ReadCommitted

namespace PaymentService

/-! ## The law -/

/-- A call that is out, or was answered. -/
def Calls (p : PayProc) (x : ChannelCall) : Prop :=
  (∃ a, .answered x a ∈ p.log) ∨ ∃ k rest, p.queue = .call x k :: rest

/-- The attempt goes to WeChat with this `time_expire`: the request that booked it
asks for that, or is seen to send it. -/
def Offers (cfg : Config) (p : PayProc) (booking : PaymentBooking) (timeExpire : Bytes) : Prop :=
  ∃ request payload now, Owner p.log request ∧ request.books ∧
    Saw p.log (.insertPayment booking) now ∧
    (request.offer cfg = some (ascii "wechat", payload) ∨
      Calls p (.createQRPayment (ascii "wechat") payload)) ∧
    payload.at? (ascii "time_expire") = some (.str timeExpire)

/-- The deadline of a WeChat order is the one its newest open attempt was offered
with, and no trade is closed before the deadline of an offer. -/
structure DeadlinesAgree (cfg : Config) (s : PaySys) : Prop where
  agrees : ∀ orderNo order env payment, s.db.orders.find orderNo = some order →
    order.channel = ascii "wechat" →
    (s.db.attempts env orderNo [.INIT, .PROCESSING]).head? = some payment →
    ∀ p ∈ s.procs, ∀ timeExpire, Offers cfg p payment.toPaymentBooking timeExpire →
      order.expireAt = cfg.parseRfc3339 timeExpire
  closes : ∀ closer ∈ s.procs, ∀ channel now orderNo, Owner closer.log (.reconcile now) →
    Calls closer (.closeOrder channel orderNo) →
    ∀ p ∈ s.procs, ∀ booking timeExpire, booking.orderNo = orderNo →
      Offers cfg p booking timeExpire →
      ∃ deadline, cfg.parseRfc3339 timeExpire = some deadline ∧ deadline < (now : Int)

/-! ## The condition -/

/-- A QR request with a `time_expire` may reuse the order only with its
deadline. -/
def reuseKeepsDeadline (cfg : Config) (request : Request) (existing : OrderRow) : Bool :=
  match request with
  | .createQRPayment body _ _ =>
      match readQrRequest body with
      | some qr =>
          qr.channel ≠ ascii "wechat" || qr.timeExpire.isEmpty ||
            existing.expireAt = cfg.parseRfc3339 qr.timeExpire ||
            (normalizeQrCurrency qr.requestedCurrency).all fun currency =>
              (reuseProblem qr currency existing).isSome
      | none => true
  | _ => true

/-- Whenever a QR request finds its order, it keeps the order's deadline. -/
def deadlineKept (cfg : Config) (s : PaySys) (event : PayEvent) : Bool :=
  match s.executing event,
      (event.mover.bind fun pid => s.procs[pid]?).bind fun p => requestOf p.log with
  | some (.findOrder orderNo, db), some request =>
      (db.orders.find orderNo).all (reuseKeepsDeadline cfg request)
  | _, _ => true

/-! ## What is sent -/

theorem time_expire_of_createPayload {cfg : Config} {request : CreatePaymentRequest}
    {totalFen : Nat} {timeExpire : Bytes} (isWechat : request.channel = ascii "wechat")
    (sent : (createPayload cfg request totalFen).at? (ascii "time_expire") =
      some (.str timeExpire)) :
    request.timeExpire = timeExpire ∧ timeExpire ≠ [] := by
  have notAlipay : request.channel ≠ ascii "alipay" := by rw [isWechat]; decide
  have notDescription : ascii "description" ≠ ascii "time_expire" := by decide
  have notTrade : ascii "out_trade_no" ≠ ascii "time_expire" := by decide
  have notAmount : ascii "amount" ≠ ascii "time_expire" := by decide
  have notUrl : ascii "notify_url" ≠ ascii "time_expire" := by decide
  have notScene : ascii "scene_info" ≠ ascii "time_expire" := by decide
  have notAttach : ascii "attach" ≠ ascii "time_expire" := by decide
  have found : (createPayload cfg request totalFen).at? (ascii "time_expire") =
      some (if request.timeExpire.isEmpty then .null else .str request.timeExpire) := by
    simp only [createPayload, if_neg notAlipay, PaymentService.optional]
    split <;> split <;> split <;> split <;>
      simp [Json.at?, Json.get, Json.object, Json.lookup, notDescription, notTrade, notAmount,
        notUrl, notScene, notAttach]
  rw [found] at sent
  split at sent
  · cases sent
  · rename_i nonempty
    cases sent
    exact ⟨rfl, by simpa using nonempty⟩

theorem time_expire_of_qrPayload {qr : QrRequest} {currency timeExpire : Bytes}
    (isWechat : qr.channel = ascii "wechat")
    (sent : (qrPayload qr currency).at? (ascii "time_expire") = some (.str timeExpire)) :
    qr.timeExpire = timeExpire ∧ timeExpire ≠ [] := by
  have notTrade : ascii "out_trade_no" ≠ ascii "time_expire" := by decide
  have notDescription : ascii "description" ≠ ascii "time_expire" := by decide
  have notAmount : ascii "amount" ≠ ascii "time_expire" := by decide
  have notUrl : ascii "notify_url" ≠ ascii "time_expire" := by decide
  have found : (qrPayload qr currency).at? (ascii "time_expire") =
      some (if qr.timeExpire.isEmpty then .null else .str qr.timeExpire) := by
    simp only [qrPayload, if_pos isWechat, PaymentService.optional]
    split <;> split <;>
      simp [Json.at?, Json.get, Json.object, Json.lookup, notTrade, notDescription, notAmount,
        notUrl]
  rw [found] at sent
  split at sent
  · cases sent
  · rename_i nonempty
    cases sent
    exact ⟨rfl, by simpa using nonempty⟩

/-- What is sent is the deadline of the request. -/
theorem deadline_of_offer {cfg : Config} {request : Request} {payload : Json} {timeExpire : Bytes}
    (offer : request.offer cfg = some (ascii "wechat", payload))
    (sent : payload.at? (ascii "time_expire") = some (.str timeExpire)) :
    request.deadline cfg = cfg.parseRfc3339 timeExpire := by
  cases request with
  | createPayment body key paymentNo now =>
      simp only [Request.offer, Option.map_eq_some_iff, Prod.mk.injEq] at offer
      obtain ⟨totalFen, _, isWechat, rfl⟩ := offer
      obtain ⟨rfl, nonempty⟩ := time_expire_of_createPayload isWechat sent
      simp [Request.deadline, expireAtOf, nonempty]
  | createQRPayment body paymentNo now =>
      simp only [Request.offer, Option.bind_eq_bind, Option.bind_eq_some_iff, Option.pure_def,
        Option.some.injEq, Prod.mk.injEq] at offer
      obtain ⟨qr, isQr, currency, _, isWechat, rfl⟩ := offer
      obtain ⟨rfl, nonempty⟩ := time_expire_of_qrPayload isWechat sent
      simp [Request.deadline, isQr, expireAtOf, nonempty]
  | _ => cases offer

/-! ## Runs -/

section Runs

variable {cfg : Config} {events : List PayEvent} {s : PaySys} {p : PayProc}

/-- A request is only offered under an order with its deadline. -/
theorem existing_deadline {request : Request} {existing : OrderRow} {payload : Json}
    {timeExpire : Bytes} (keeps : reuseKeepsDeadline cfg request existing = true)
    (reuses : request.reuses existing)
    (offer : request.offer cfg = some (ascii "wechat", payload))
    (sent : payload.at? (ascii "time_expire") = some (.str timeExpire)) :
    existing.expireAt = cfg.parseRfc3339 timeExpire := by
  obtain ⟨body, paymentNo, now, qr, currency, rfl, isQr, isCurrency, reusable⟩ := reuses
  simp only [Request.offer, isQr, isCurrency, Option.bind_eq_bind, Option.bind_some,
    Option.pure_def, Option.some.injEq, Prod.mk.injEq] at offer
  obtain ⟨isWechat, rfl⟩ := offer
  obtain ⟨rfl, nonempty⟩ := time_expire_of_qrPayload isWechat sent
  simpa [reuseKeepsDeadline, isQr, isWechat, nonempty, isCurrency, reusable] using keeps

/-- What a process found of its order met the condition. -/
theorem found_deadline (run : PayRun cfg (fun s event => deadlineKept cfg s event = true) events s)
    (member : p ∈ s.procs) {request : Request} (owner : Owner p.log request) {orderNo : Bytes}
    {existing : OrderRow} (saw : Saw p.log (.findOrder orderNo) (some existing)) :
    reuseKeepsDeadline cfg request existing = true := by
  have condition : ∀ {s : PaySys} {event : PayEvent} {pid : Nat} {p : PayProc} {request : Request}
      {db : Db} {orderNo : Bytes} {existing : OrderRow}, deadlineKept cfg s event = true →
      event.mover = some pid → s.procs[pid]? = some p → Owner p.log request →
      s.executing event = some (.findOrder orderNo, db) →
      db.orders.find orderNo = some existing → reuseKeepsDeadline cfg request existing = true := by
    intro s event pid p request db orderNo existing keeps isMover proc owner executing found
    simpa [deadlineKept, executing, isMover, proc, requestOf_owner owner, found] using keeps
  have noting : Noting (S := payStore) (serve cfg) (fun s event => deadlineKept cfg s event = true)
      Db.empty (fun request _ _ known => ∀ orderNo existing,
        known = .ran (.findOrder orderNo) (some existing) →
        reuseKeepsDeadline cfg request existing = true) := by
    refine ⟨fun _ _ holds => holds, ?_, ?_, ?_, fun _ _ _ _ => nofun⟩
    · exact fun unran _ orderNo existing isRan => absurd isRan (unran _ _)
    · intro events s event pid p request st res run meets owner runs orderNo existing isRan
      injection isRan with isStmt isRes
      subst isStmt
      obtain ⟨env, isEvent, result⟩ := runs.result
      have isMover : event.mover = some pid := by rw [isEvent]; rfl
      rw [eq_of_heq isRes] at result
      exact condition meets isMover runs.proc owner runs.executing (Option.some.inj result)
    · intro events s event pid p request record st res run meets owner runs orderNo existing isRan
      injection isRan with isStmt isRes
      subst isStmt
      obtain ⟨env, isEvent, result⟩ := runs.result
      have isMover : event.mover = some pid := by rw [isEvent]; rfl
      rw [eq_of_heq isRes] at result
      exact condition meets isMover runs.proc owner runs.executing (Option.some.inj result)
  obtain ⟨_, _, holds⟩ := (run.noted noting p member request owner).1.mem saw
  exact holds orderNo existing rfl

/-- What a process sends is the offer of its request. -/
theorem offer_of_calls {ok : PaySys → PayEvent → Prop} (run : PayRun cfg ok events s)
    (member : p ∈ s.procs) {request : Request} (owner : Owner p.log request)
    (books : request.books) {channel : Bytes} {payload : Json}
    (calls : Calls p (.createQRPayment channel payload)) :
    request.offer cfg = some (channel, payload) := by
  have same : ∀ {log : List PayEntry}, Owner log request →
      (offerContract cfg).call log (.createQRPayment channel payload) →
      request.offer cfg = some (channel, payload) := by
    rintro log owner ⟨request', owner', offer⟩
    rw [Owner.unique owner owner']
    exact offer
  rcases calls with ⟨a, logged⟩ | ⟨k, rest, head⟩
  · obtain ⟨log, _, owner', promise⟩ :=
      run.called_of (verified_offers cfg) member owner books logged
    exact same owner' promise
  · have obligation :=
      (run.verified_of (verified_offers cfg) p member request owner books).obligation
    refine same owner ?_
    simpa only [Contract.Obligation, head] using obligation

/-- The order of an attempt that is offered has the deadline of the offer. -/
theorem order_deadline
    (run : PayRun cfg (fun s event => deadlineKept cfg s event = true) events s)
    (member : p ∈ s.procs) {booking : PaymentBooking} {timeExpire : Bytes}
    (offers : Offers cfg p booking timeExpire) :
    ∃ row, (s.view p.slot.record).orders.find booking.orderNo = some row ∧
      row.expireAt = cfg.parseRfc3339 timeExpire := by
  obtain ⟨request, payload, now, owner, books, booked, goes, sent⟩ := offers
  have offer : request.offer cfg = some (ascii "wechat", payload) := by
    rcases goes with asked | calls
    · exact asked
    · exact offer_of_calls run member owner books calls
  obtain ⟨log, record, within, owner', request', owner'', known⟩ :=
    run.issued_of (verified_offers cfg) member owner books booked
  obtain rfl : request = request' := Owner.unique owner' owner''
  rcases known with ⟨order, at', saw, isOrder, expires⟩ | ⟨existing, saw, reuses⟩
  · obtain ⟨row, found, isBooking⟩ :=
      order_booked run member (Proc.mem_known_of_log (within.subset saw))
    rw [isOrder] at found
    refine ⟨row, found, ?_⟩
    rw [isBooking, expires, deadline_of_offer offer sent]
  · have logged : Saw p.log (.findOrder booking.orderNo) (some existing) :=
      within.subset (List.mem_append_left _ saw)
    have expires := existing_deadline (found_deadline run member owner logged) reuses offer sent
    obtain ⟨row, found, isBooking⟩ := order_read run member (Proc.mem_known_of_log logged)
    refine ⟨row, found, ?_⟩
    rw [← isBooking, expires]

/-- A sweep that closes a trade read its order with a deadline that has
passed. -/
theorem closer_promise {ok : PaySys → PayEvent → Prop} (run : PayRun cfg ok events s)
    {closer : PayProc} (member : closer ∈ s.procs) {channel orderNo : Bytes}
    (calls : Calls closer (.closeOrder channel orderNo)) :
    ∃ log, log.Sublist closer.log ∧ log.head? = closer.log.head? ∧ ClosePromise log orderNo := by
  rcases calls with ⟨a, logged⟩ | ⟨k, rest, head⟩
  · obtain ⟨request, owner⟩ := run.owned closer member
    obtain ⟨log, within, owner', promise⟩ := run.called_of (Q := fun _ => True)
      (fun request _ => verified_serve cfg request) member owner trivial logged
    exact ⟨log, within, owner'.trans owner.symm, promise⟩
  · have obligation := (run.verified (verified_serve cfg) closer member).obligation
    simp only [Contract.Obligation, head] at obligation
    exact ⟨closer.log, List.Sublist.refl _, rfl, obligation⟩

end Runs

/-- Deadlines agree in every run in which a QR request that reuses an order keeps
its deadline. -/
theorem deadlines_agree {cfg : Config} {events : List PayEvent} {s : PaySys}
    (run : PayRun cfg (fun s event => deadlineKept cfg s event = true) events s) :
    DeadlinesAgree cfg s := by
  refine ⟨?_, ?_⟩
  · intro orderNo order env payment found _ newest p member timeExpire offers
    obtain ⟨row, foundSeen, expires⟩ := order_deadline run member offers
    have isOrder : payment.orderNo = orderNo := by
      have listed := List.mem_of_mem_head? (Option.mem_def.mpr newest)
      simp only [Db.attempts, newestFirst, List.mem_insertionSort, List.mem_filter,
        Bool.and_eq_true, decide_eq_true_eq] at listed
      exact listed.2.1
    obtain ⟨seen, foundOrder, isBooking⟩ := order_stays run member List.mem_cons_self found
    rw [isOrder] at foundSeen
    obtain rfl : row = seen := Option.some.inj (foundSeen.symm.trans foundOrder)
    rw [isBooking, expires]
  · intro closer isCloser channel now orderNo owner calls p member booking timeExpire isOrder offers
    obtain ⟨row, foundSeen, expires⟩ := order_deadline run member offers
    obtain ⟨log, within, sameHead, now', channel', limit, rows, order, owner', saw, swept, named,
      passed⟩ := closer_promise run isCloser calls
    obtain rfl : now = now' := by
      have started : closer.log.head? = some (.spawned (.reconcile now)) := owner
      rw [← sameHead] at started
      cases Owner.unique started owner'
      rfl
    -- the row the sweep read and the row of the attempt are one committed row
    obtain ⟨committed, found, isSwept⟩ := swept_read run isCloser (within.subset saw) swept
    rw [named] at found
    obtain ⟨seen, foundOrder, isBooking⟩ := order_stays run member List.mem_cons_self found
    rw [isOrder] at foundSeen
    obtain rfl : row = seen := Option.some.inj (foundSeen.symm.trans foundOrder)
    have sameDeadline : order.expireAt = cfg.parseRfc3339 timeExpire := by
      rw [isSwept, isBooking, expires]
    rw [sameDeadline] at passed
    obtain ⟨deadline, isDeadline, early⟩ := (Option.any_eq_true _ _).mp passed
    exact ⟨deadline, isDeadline, of_decide_eq_true early⟩

/-! ## A retry -/

/-- The shop with the deadlines of `utils/PayUtils.cc`. -/
def punctualShop : Config :=
  { shop with
    validateTimeExpire := PayUtils.validateTimeExpire
    parseRfc3339 := fun text => (PayUtils.parseRfc3339 text).toOption }

def qrUntil (idempotencyKey timeExpire : String) : Json :=
  Json.object [("order_no", Json.text "o"), ("amount", Json.text "10.00"),
    ("channel", Json.text "wechat"), ("user_id", .int 1),
    ("time_expire", Json.text timeExpire), ("idempotency_key", Json.text idempotencyKey)]

/-- An order is offered until midnight, and once more until this moment. -/
def offeredAgain (timeExpire : String) : List PayEvent :=
  [.spawn (.createQRPayment (qrUntil "k1" "2030-01-01T00:00:00+08:00") (drawn "p") 1893420000)] ++
    steps 0 4 1893420000 ++ [.answer 0 codeUrl] ++ steps 0 2 1893420001 ++
    [.spawn (.createQRPayment (qrUntil "k2" timeExpire) (drawn "q") 1893420010)] ++
    steps 1 4 1893420010

/-- The newest open attempt of the order `o`. -/
def newestOpen (db : Db) : Option PaymentRow :=
  (db.attempts ⟨0, fun _ => 0⟩ (ascii "o") [.INIT, .PROCESSING]).head?

def expiresAt (db : Db) (deadline : Int) : Bool :=
  (db.orders.find (ascii "o")).any fun order =>
    order.channel = ascii "wechat" && order.expireAt = some deadline

theorem deadline_agrees_on_retry :
    ∃ s, PayRun punctualShop (fun s event => deadlineKept punctualShop s event = true)
      (offeredAgain "2029-12-31T16:00:00Z") s ∧ (newestOpen s.db).isSome ∧
      DeadlinesAgree punctualShop s := by
  have evaluates : (Sys.runAll (S := payStore) (serve punctualShop) (deadlineKept punctualShop)
      (Sys.initial Db.empty) (offeredAgain "2029-12-31T16:00:00Z")).any
      (fun s => (newestOpen s.db).isSome) = true := by decide +kernel
  obtain ⟨s, run, open'⟩ := Run.exists_of_runAll evaluates
  exact ⟨s, run, open', deadlines_agree run⟩

/-- The process booked the attempt for a request that asks for this
`time_expire`. -/
def asksFor (cfg : Config) (p : PayProc) (booking : PaymentBooking) (timeExpire : Bytes) : Bool :=
  match p.log with
  | .spawned (.createQRPayment body paymentNo now) :: rest =>
      (rest.any fun
        | .ran (.insertPayment booked) _ => booked = booking
        | _ => false) &&
      (Request.offer cfg (.createQRPayment body paymentNo now)).any fun offer =>
        offer.1 = ascii "wechat" &&
          match offer.2.at? (ascii "time_expire") with
          | some (.str sent) => sent = timeExpire
          | _ => false
  | _ => false

theorem Offers.of_asksFor {cfg : Config} {p : PayProc} {booking : PaymentBooking}
    {timeExpire : Bytes} (asks : asksFor cfg p booking timeExpire = true) :
    Offers cfg p booking timeExpire := by
  unfold asksFor at asks
  split at asks
  · rename_i body paymentNo now rest log
    simp only [Bool.and_eq_true, List.any_eq_true, Option.any_eq_true, decide_eq_true_eq] at asks
    obtain ⟨⟨entry, logged, inserts⟩, ⟨channel, payload⟩, offer, isWechat, sent⟩ := asks
    split at inserts
    · rename_i booked at'
      obtain rfl : booked = booking := of_decide_eq_true inserts
      split at sent
      · rename_i text isSent
        obtain rfl : text = timeExpire := of_decide_eq_true sent
        refine ⟨.createQRPayment body paymentNo now, payload, at', ?_, trivial, ?_, Or.inl ?_,
          isSent⟩
        · simp [Owner, log]
        · simp [Saw, log, logged]
        · rw [← isWechat]
          exact offer
      · cases sent
    · cases inserts
  · cases asks

theorem deadline_broken_by_retry :
    ¬ ∀ (cfg : Config) (events : List PayEvent) (s : PaySys),
      PayRun cfg (fun _ _ => True) events s → DeadlinesAgree cfg s := by
  intro claim
  have evaluates : (Sys.runAll (S := payStore) (serve punctualShop) (fun _ _ => true)
      (Sys.initial Db.empty) (offeredAgain "2030-01-01T01:00:00+08:00")).any
      (fun s => expiresAt s.db 1893427200 && (newestOpen s.db).any fun payment =>
        s.procs.any fun p => asksFor punctualShop p payment.toPaymentBooking
          (ascii "2030-01-01T01:00:00+08:00")) = true := by decide +kernel
  obtain ⟨s, run, holds⟩ := Run.exists_of_runAll evaluates
  simp only [expiresAt, Bool.and_eq_true, Option.any_eq_true, List.any_eq_true,
    decide_eq_true_eq] at holds
  obtain ⟨⟨order, found, isWechat, expires⟩, payment, newest, p, member, asks⟩ := holds
  have agrees := (claim punctualShop _ s (run.mono fun _ _ _ => trivial)).agrees (ascii "o") order
    _ payment found isWechat newest p member _ (.of_asksFor asks)
  rw [expires] at agrees
  exact absurd agrees (by decide +kernel)

end PaymentService
end DrogonPay
