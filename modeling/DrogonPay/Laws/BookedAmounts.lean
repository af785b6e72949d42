import DrogonPay.Handlers.PayController
import DrogonPay.Model.Columns
import DrogonPay.Laws.Settled
import DrogonPay.Promises.Reservations

/-!
Contract: the amounts of the rows the two create paths book.

Owns:
- `Accepted`, a body that a booking handler handed to its service, with the
  program the service runs for it;
- `booksUsable_iff`: for which accepted bodies every row the program can insert
  has an amount that can be charged, matched and refunded.

Does not own: what becomes of the row afterwards.
-/

namespace DrogonPay

open ReadCommitted PayController

/-- The amount is money. -/
def UsableAmount (amount : Bytes) : Prop :=
  ∃ fen, PayUtils.parseAmountToFen amount = some fen ∧ 0 < fen

/-- The statement inserts a row that the columns take, with an amount that is not
usable. -/
def insertsUnusable : Stmt → Prop
  | .insertOrder booking => booking.Fits ∧ ¬ UsableAmount booking.amount
  | .insertPayment booking => booking.Fits ∧ ¬ UsableAmount booking.amount
  | _ => False

/-- What the database may answer: the rows that were asked for, in columns that take
them. -/
def mayAnswer (st : Stmt) (res : st.Res) : Prop := st.Possible res ∧ st.FitsColumns res

/-- Some run of the program inserts a row with an unusable amount. -/
def InsertsUnusable (p : PayProg) : Prop :=
  p.May (fun _ _ => True) mayAnswer insertsUnusable fun _ => False

namespace PaymentService

/-- The order a create books. -/
def createBooking (cfg : Config) (request : CreatePaymentRequest) : OrderBooking :=
  ⟨request.orderNo, request.userId, request.amount, request.currency, request.channel,
    request.description, expireAtOf cfg request.timeExpire⟩

/-- The order a QR request books. -/
def qrBooking (cfg : Config) (qr : QrRequest) (currency : Bytes) : OrderBooking :=
  ⟨qr.orderNo, qr.userId, qr.amount, currency, qr.channel, qr.subject,
    expireAtOf cfg qr.timeExpire⟩

/-- The attempt it books. -/
def QrRequest.attempt (qr : QrRequest) (paymentNo : Bytes) : PaymentBooking :=
  ⟨paymentNo, qr.orderNo, qr.amount⟩

end PaymentService

/-- A body a handler accepted, as it reaches the service. -/
inductive Accepted (getSha256 : Bytes → Bytes) where
  | create (serviceReady : Bool) (req : HttpRequest) (request : CreatePaymentRequest) (key : Bytes)
      (handed : createPayment getSha256 serviceReady req = .handed (request, key))
  | qr (serviceReady : Bool) (req : HttpRequest) (request : Json)
      (handed : createQRPayment serviceReady req = .handed request)

namespace Accepted

variable {getSha256 : Bytes → Bytes}

/-- What the service runs. -/
def program (cfg : Config) (paymentNo : Bytes) (now : Nat) : Accepted getSha256 → PayProg
  | create _ _ request key _ => PaymentService.createPayment cfg request key paymentNo now
  | qr _ _ request _ => PaymentService.createQRPayment cfg request paymentNo now

/-- Whatever the database and the channel answer, no row with an unusable amount
is inserted. -/
def BooksUsable (cfg : Config) (paymentNo : Bytes) (now : Nat) (accepted : Accepted getSha256) :
    Prop :=
  ¬ InsertsUnusable (accepted.program cfg paymentNo now)

/-- Neither a zero amount on the create path nor, on another channel than WeChat,
a zero or unreadable one on the QR path, unless the request is refused for
another reason or its texts do not fit their columns. An attempt of the QR path can
join an order that was booked before, whatever title this request has. -/
def Sound (cfg : Config) (paymentNo : Bytes) (now : Nat) : Accepted getSha256 → Prop
  | create _ _ request key _ =>
      (key = [] ∨ FitsColumn keyWidth key) → (PaymentService.createBooking cfg request).Fits →
        PayUtils.parseAmountToFen request.amount = some 0 →
        PaymentService.createProblem cfg request now ≠ none
  | qr _ _ request _ =>
      ∀ qr, PaymentService.readQrRequest request = some qr → qr.orderNo ≠ [] →
        (qr.idempotencyKey = [] ∨ FitsColumn keyWidth qr.idempotencyKey) →
        ((PaymentService.qrBooking cfg qr (ascii "CNY")).Fits ∨
          ((qr.attempt paymentNo).Fits ∧ FitsColumn 32 qr.channel)) →
        qr.channel ≠ ascii "wechat" → cfg.channels qr.channel = true →
        PaymentService.qrProblem cfg qr now = none → UsableAmount qr.amount

end Accepted

/-! ## What inserts nothing -/

section Quiet

/-- The program inserts no order or payment with an unusable amount. -/
def Quiet (p : PayProg) : Prop := ¬ InsertsUnusable p

theorem sparesKeys_insertsUnusable : SparesKeys insertsUnusable := by
  intro st onKeys
  cases st <;> first | exact id | cases onKeys

/-- A key that its column takes can be reserved. -/
theorem reservable_iff {key hash : Bytes} {ttlSeconds : Nat} :
    (key = [] ∨ ∃ now, mayAnswer (.reserve key hash none ttlSeconds) (some now)) ↔
      key = [] ∨ FitsColumn keyWidth key :=
  or_congr_right ⟨fun may => by obtain ⟨now, -, fits⟩ := may; exact fits,
    fun fits => ⟨0, trivial, fits⟩⟩

theorem quiet_answer (body : Json) (error : Option ErrorCode) : Quiet (answer body error) :=
  fun may => may_answer.mp may

theorem quiet_orThrow {α : Type} {value : Option α} {next : α → PayProg}
    (quiet : ∀ a, value = some a → Quiet (next a)) : Quiet (orThrow value next) := by
  rw [Quiet, InsertsUnusable, may_orThrow]
  rintro ⟨a, isSome, may⟩
  exact quiet a isSome may

theorem quiet_clear {key hash : Bytes} {callback : Bool → PayProg}
    (quiet : ∀ cleared, Quiet (callback cleared)) :
    Quiet (IdempotencyService.clearReservation key hash callback) := by
  intro may
  exact (may_clearReservation sparesKeys_insertsUnusable
    fun cleared => iff_of_false (quiet cleared) id).mp may

theorem quiet_store (key hash : Bytes) (reply : Reply) :
    Quiet (IdempotencyService.storeThenAnswer key hash reply) :=
  fun may => (may_storeThenAnswer sparesKeys_insertsUnusable).mp may

end Quiet

namespace PaymentService

theorem quiet_wrapped (key hash : Bytes) (reply : Reply) :
    Quiet (wrappedCreateCallback key hash reply) := by
  unfold wrappedCreateCallback
  split
  · exact quiet_store key hash reply
  · split
    · exact quiet_clear fun _ => quiet_answer _ _
    · exact quiet_answer _ _

theorem quiet_bookRefused {paymentNo orderNo : Bytes} {finish : PayProg} (quiet : Quiet finish) :
    Quiet (bookRefusedAttempt paymentNo orderNo finish) := by
  refine not_may_sql id fun found => ?_
  split
  · refine not_may_sql id fun failed => ?_
    split
    · refine not_may_sql id fun order => ?_
      split
      · exact not_may_sql id fun _ => quiet
      · exact quiet
    · exact quiet
  · exact quiet

theorem quiet_onCreateAnswer {request : CreatePaymentRequest} {paymentNo : Bytes}
    {callback : Reply → PayProg} {result : Json} {transportError : Bytes}
    (quiet : ∀ reply, Quiet (callback reply)) :
    Quiet (onCreateAnswer request paymentNo callback result transportError) := by
  have created : Quiet (answerCreated request paymentNo result callback) :=
    quiet_orThrow fun data _ => quiet _
  refine quiet_orThrow fun error _ => ?_
  split
  · refine not_may_sql id fun matched => ?_
    split
    · exact quiet _
    · exact created
    · exact not_may_sql id fun _ => created
  · dsimp only
    split
    · exact quiet_bookRefused (quiet _)
    · exact quiet _

/-- A create inserts an unusable amount if its own is, and the order fits. -/
theorem may_proceedCreatePayment {cfg : Config} {request : CreatePaymentRequest}
    {paymentNo : Bytes} {totalFen : Nat} {callback : Reply → PayProg}
    (quiet : ∀ reply, Quiet (callback reply)) :
    InsertsUnusable (proceedCreatePayment cfg request paymentNo totalFen callback) ↔
      (createBooking cfg request).Fits ∧ ¬ UsableAmount request.amount := by
  constructor
  · rintro ⟨began, later⟩
    cases began with
    | false => exact absurd later (quiet _)
    | true =>
        rcases later with issued | failed | ⟨stamp, ⟨-, fits⟩, later⟩
        · exact issued
        · exact absurd failed (quiet _)
        · rcases later with ⟨-, unusable⟩ | failed | ⟨stamp', -, later⟩
          · exact ⟨fits, unusable⟩
          · exact absurd failed (quiet _)
          · obtain ⟨committed, later⟩ := later
            cases committed with
            | false => exact absurd later (quiet _)
            | true =>
                simp only at later
                split at later
                · obtain ⟨a, -, later⟩ := later
                  exact absurd later (quiet_onCreateAnswer quiet)
                · exact absurd later (quiet_onCreateAnswer quiet)
  · exact fun unusable => ⟨true, Or.inl unusable⟩

theorem may_createPayment {cfg : Config} {request : CreatePaymentRequest} {key paymentNo : Bytes}
    {now : Nat} :
    InsertsUnusable (createPayment cfg request key paymentNo now) ↔
      (key = [] ∨ FitsColumn keyWidth key) ∧ (createBooking cfg request).Fits ∧
        PayUtils.parseAmountToFen request.amount = some 0 ∧
        createProblem cfg request now = none := by
  unfold InsertsUnusable createPayment
  rw [may_checkDatabase sparesKeys_insertsUnusable id, reservable_iff]
  · refine and_congr_right fun _ => ?_
    simp only
    cases parsed : PayUtils.parseAmountToFen request.amount with
    | none =>
        refine iff_of_false (quiet_clear fun _ => quiet_answer _ _) ?_
        rintro ⟨-, isZero, -⟩
        simp at isZero
    | some totalFen =>
        simp only
        cases problem : createProblem cfg request now with
        | some text =>
            refine iff_of_false (quiet_clear fun _ => quiet_answer _ _) ?_
            rintro ⟨-, -, isNone⟩
            simp at isNone
        | none =>
            simp only
            have own : InsertsUnusable (proceedCreatePayment cfg request paymentNo totalFen
                (wrappedCreateCallback key (createHash cfg request))) ↔ _ :=
              may_proceedCreatePayment (quiet_wrapped key (createHash cfg request))
            rw [InsertsUnusable, UsableAmount, parsed] at own
            rw [own]
            simp [Nat.pos_iff_ne_zero]
  · intro result notStarted
    cases result with
    | Started => exact absurd rfl notStarted
    | _ => exact quiet_answer _ _

/-! ## The QR path -/

theorem quiet_failQr (qr : QrRequest) (requestHash : Bytes) (code : Nat) (text : Bytes)
    (extra : Json) : Quiet (failQr qr requestHash code text extra) :=
  quiet_clear fun _ => quiet_answer _ _

theorem quiet_refuseQr (qr : QrRequest) (requestHash : Bytes) (code : Nat) (text : Bytes) :
    Quiet (refuseQr qr requestHash code text) := by
  rintro (cleared | answered)
  · exact quiet_clear (fun _ => show Quiet .done from id) cleared
  · exact quiet_answer _ _ answered

theorem quiet_refuseQrOffer (qr : QrRequest) (requestHash paymentNo failure text : Bytes)
    (extra : Json) : Quiet (refuseQrOffer qr requestHash paymentNo failure text extra) := by
  unfold refuseQrOffer
  split
  · exact not_may_sql id fun _ => quiet_failQr _ _ _ _ _
  · exact quiet_failQr _ _ _ _ _

theorem quiet_offerQrChannel (qr : QrRequest) (requestHash paymentNo : Bytes) (payload : Json) :
    Quiet (offerQrChannel qr requestHash paymentNo payload) := by
  refine not_may_call fun a => ?_
  split
  · exact quiet_refuseQrOffer _ _ _ _ _ _
  · refine quiet_orThrow fun resultError _ => ?_
    split
    · refine quiet_orThrow fun data _ => not_may_sql id fun matched => ?_
      split
      · exact not_may_sql id fun _ => quiet_store _ _ _
      · exact quiet_store _ _ _
    · exact quiet_orThrow fun extra _ => quiet_refuseQrOffer _ _ _ _ _ _

section Booking

variable {cfg : Config} {qr : QrRequest} {requestHash paymentNo currency : Bytes} {payload : Json}

theorem may_bookQrPayment :
    InsertsUnusable (bookQrPayment qr requestHash paymentNo payload) ↔
      (qr.attempt paymentNo).Fits ∧ ¬ UsableAmount qr.amount := by
  constructor
  · rintro (issued | failed | ⟨stamp, -, later⟩)
    · exact issued
    · exact absurd failed (quiet_failQr _ _ _ _ _)
    · exact absurd later (quiet_offerQrChannel _ _ _ _)
  · exact Or.inl

/-- The order an earlier request of another title left behind. -/
def reusableOrder (qr : QrRequest) (currency : Bytes) : OrderRow :=
  ⟨⟨qr.orderNo, qr.userId, qr.amount, currency, qr.channel, [], none⟩, .CREATED, 0, 0⟩

/-- An order that is reused has the request's currency and channel. -/
theorem same_of_reusable {existing : OrderRow}
    (reusable : reuseProblem qr currency existing = none) :
    existing.currency = currency ∧ existing.channel = qr.channel := by
  simp only [reuseProblem] at reusable
  split at reusable
  · simp at reusable
  · split at reusable
    · simp at reusable
    · split at reusable
      · simp at reusable
      · next sameCurrency =>
        split at reusable
        · simp at reusable
        · next sameChannel => exact ⟨not_not.mp sameCurrency, not_not.mp sameChannel⟩

theorem reuseProblem_reusableOrder :
    reuseProblem qr currency (reusableOrder qr currency) = none := by
  have same : sameAmount qr.amount qr.amount = true := by
    unfold sameAmount
    split <;> simp_all
  simp [reuseProblem, reusableOrder, same]

/-- An order is booked or reused, and then an attempt with the request's amount. -/
theorem may_bookQr :
    InsertsUnusable (bookQr cfg qr requestHash paymentNo currency payload) ↔
      ((qrBooking cfg qr currency).Fits ∨ (qr.attempt paymentNo).Fits ∧
        FitsColumn 8 currency ∧ FitsColumn 32 qr.channel) ∧ ¬ UsableAmount qr.amount := by
  constructor
  · rintro (issued | failed | ⟨found, ⟨isOrder, read⟩, later⟩)
    · exact absurd issued id
    · exact absurd failed (quiet_failQr _ _ _ _ _)
    · cases found with
      | none =>
          rcases later with ⟨fits, unusable⟩ | failed | ⟨stamp, ⟨-, fits⟩, later⟩
          · exact ⟨Or.inl fits, unusable⟩
          · exact absurd failed (quiet_failQr _ _ _ _ _)
          · exact ⟨Or.inl fits, (may_bookQrPayment.mp later).2⟩
      | some existing =>
          have columns : existing.toOrderBooking.Fits := read existing rfl
          simp only at later
          split at later
          · exact absurd later (quiet_failQr _ _ _ _ _)
          · next reusable =>
            obtain ⟨isCurrency, isChannel⟩ := same_of_reusable reusable
            rcases later with issued | failed | ⟨settled, -, later⟩
            · exact absurd issued id
            · exact absurd failed (quiet_failQr _ _ _ _ _)
            · cases settled with
              | nil =>
                  obtain ⟨fits, unusable⟩ := may_bookQrPayment.mp later
                  exact ⟨Or.inr ⟨fits, isCurrency ▸ columns.currency,
                    isChannel ▸ columns.channel⟩, unusable⟩
              | cons row rows => exact absurd later (quiet_failQr _ _ _ _ _)
  · rintro ⟨fits | ⟨fits, currencyFits, channelFits⟩, unusable⟩
    · exact Or.inr (Or.inr ⟨none, ⟨by rintro _ ⟨⟩, by rintro _ ⟨⟩⟩, Or.inl ⟨fits, unusable⟩⟩)
    · have columns : (reusableOrder qr currency).toOrderBooking.Fits :=
        ⟨fits.orderNo, fits.amount, currencyFits, channelFits,
          fitsColumn_of_ascii (Nat.zero_le _) (List.forall_mem_nil _)⟩
      refine Or.inr (Or.inr ⟨some (reusableOrder qr currency), ⟨?_, ?_⟩, ?_⟩)
      · rintro row ⟨rfl⟩
        rfl
      · rintro row ⟨rfl⟩
        exact columns
      · simp only [reuseProblem_reusableOrder]
        exact Or.inr (Or.inr ⟨[], ⟨trivial, trivial⟩, may_bookQrPayment.mpr ⟨fits, unusable⟩⟩)

theorem may_proceedQr {now : Nat} :
    InsertsUnusable (proceedQr cfg qr requestHash paymentNo now) ↔
      ∃ currency, normalizeQrCurrency qr.requestedCurrency = some currency ∧
        qrProblem cfg qr now = none ∧ cfg.channels qr.channel = true ∧
        ((qrBooking cfg qr currency).Fits ∨ (qr.attempt paymentNo).Fits ∧
          FitsColumn 8 currency ∧ FitsColumn 32 qr.channel) ∧ ¬ UsableAmount qr.amount := by
  unfold proceedQr
  cases normalizeQrCurrency qr.requestedCurrency with
  | none => exact iff_of_false (quiet_refuseQr _ _ _ _) (by simp)
  | some currency =>
      cases qrProblem cfg qr now with
      | some problem => exact iff_of_false (quiet_refuseQr _ _ _ _) (by simp)
      | none =>
          simp only
          split
          · next available => simpa [available] using may_bookQr
          · next missing => exact iff_of_false (quiet_refuseQr _ _ _ _) (by simp [missing])

end Booking

/-- A charge on WeChat has an amount. -/
theorem usable_of_wechat {cfg : Config} {qr : QrRequest} {now : Nat}
    (isWechat : qr.channel = ascii "wechat") (noProblem : qrProblem cfg qr now = none) :
    UsableAmount qr.amount := by
  simp only [qrProblem, Option.or_eq_none_iff, if_pos isWechat] at noProblem
  obtain ⟨-, second⟩ := noProblem
  split at second
  · simp at second
  · next positive =>
    cases parsed : PayUtils.parseAmountToFen qr.amount with
    | none => simp [parsed] at positive
    | some fen =>
        simp only [parsed, Option.all_some, decide_eq_true_eq] at positive
        exact ⟨fen, parsed, Nat.pos_of_ne_zero positive⟩

theorem may_createQRPayment {cfg : Config} {request : Json} {paymentNo : Bytes} {now : Nat} :
    InsertsUnusable (createQRPayment cfg request paymentNo now) ↔
      ∃ qr, readQrRequest request = some qr ∧ qr.orderNo ≠ [] ∧ qr.amount ≠ [] ∧ 0 < qr.userId ∧
        (qr.idempotencyKey = [] ∨ FitsColumn keyWidth qr.idempotencyKey) ∧
        InsertsUnusable (proceedQr cfg qr (qrHash cfg qr) paymentNo now) := by
  have checked : ∀ (qr : QrRequest) (callback : IdempotencyService.CheckResult → PayProg),
      (∀ result, result ≠ .Started → callback result = answerUnstarted result) →
      (InsertsUnusable (IdempotencyService.checkDatabase cfg qr.idempotencyKey (qrHash cfg qr)
        callback) ↔ (qr.idempotencyKey = [] ∨ FitsColumn keyWidth qr.idempotencyKey) ∧
          InsertsUnusable (callback .Started)) := by
    intro qr callback refuses
    rw [InsertsUnusable, may_checkDatabase sparesKeys_insertsUnusable id, reservable_iff]
    · exact Iff.rfl
    · intro result notStarted
      rw [refuses result notStarted]
      cases result with
      | Started => exact absurd rfl notStarted
      | _ => exact quiet_answer _ _
  unfold InsertsUnusable createQRPayment
  rw [may_orThrow]
  constructor
  · rintro ⟨⟨orderNo, amount⟩, isHead, may⟩
    simp only at may
    split at may
    · exact absurd may (quiet_answer _ _)
    · next present =>
      rw [may_orThrow] at may
      obtain ⟨userId, isOwner, may⟩ := may
      split at may
      · exact absurd may (quiet_answer _ _)
      · next owned =>
        rw [may_orThrow] at may
        obtain ⟨qr, read, may⟩ := may
        obtain ⟨-, -, -, -, isOwner', isHead', -⟩ := PayController.readQrRequest_reads read
        obtain ⟨rfl, rfl⟩ := Prod.mk.inj (Option.some.inj (isHead.symm.trans isHead'))
        obtain rfl := Option.some.inj (isOwner.symm.trans isOwner')
        simp only [Bool.or_eq_true, List.isEmpty_iff, not_or] at present
        refine ⟨qr, read, present.1, present.2, by omega, (checked qr _ ?_).mp may⟩
        intro result notStarted
        cases result <;> first | rfl | exact absurd rfl notStarted
  · rintro ⟨qr, read, hasOrder, hasAmount, owned, may⟩
    obtain ⟨-, -, -, -, isOwner, isHead, -⟩ := PayController.readQrRequest_reads read
    refine ⟨(qr.orderNo, qr.amount), isHead, ?_⟩
    simp only
    rw [if_neg (by simp [hasOrder, hasAmount]), may_orThrow]
    refine ⟨qr.userId, isOwner, ?_⟩
    rw [if_neg (by omega), may_orThrow]
    refine ⟨qr, read, (checked qr _ ?_).mpr may⟩
    intro result notStarted
    cases result <;> first | rfl | exact absurd rfl notStarted

end PaymentService

/-! ## The promise -/

theorem cnyFits : FitsColumn 8 (ascii "CNY") :=
  fitsColumn_of_ascii (by decide +kernel) (by decide +kernel)

theorem validateAmount_ne_nil {amount : Bytes} (valid : validateAmount amount = true) :
    amount ≠ [] := by
  rintro rfl
  simp [validateAmount] at valid

/-- Every row an accepted body can book has a usable amount exactly when the
amount is not zero on the create path and, on another channel than WeChat, is
money at all on the QR path. -/
theorem booksUsable_iff {getSha256 : Bytes → Bytes} (cfg : Config) (paymentNo : Bytes) (now : Nat)
    (accepted : Accepted getSha256) :
    accepted.BooksUsable cfg paymentNo now ↔ accepted.Sound cfg paymentNo now := by
  cases accepted with
  | create serviceReady req request key handed =>
      simp only [Accepted.BooksUsable, Accepted.program, PaymentService.may_createPayment,
        Accepted.Sound]
      tauto
  | qr serviceReady req request handed =>
      obtain ⟨json, orderNo, amount, channel, userId, description, subject, -, valid, owned,
        inRange, keyed⟩ := createQRPayment_handed handed
      simp only [Accepted.BooksUsable, Accepted.program, PaymentService.may_createQRPayment,
        PaymentService.may_proceedQr, Accepted.Sound]
      constructor
      · intro quiet qr read hasOrder keyFits fits other available noProblem
        obtain ⟨rfl, rfl⟩ := readQrRequest_handed inRange keyed read
        obtain ⟨-, -, -, -, -, -, currency⟩ := readQrRequest_reads read
        by_contra unusable
        refine quiet ⟨qr, read, hasOrder, validateAmount_ne_nil valid, owned, keyFits,
          ascii "CNY", ?_, noProblem, available, ?_, unusable⟩
        · rw [currency other]
          decide
        · exact fits.imp_right fun attempt => ⟨attempt.1, cnyFits, attempt.2⟩
      · rintro sound ⟨qr, read, hasOrder, -, -, keyFits, currency, isCurrency, noProblem, available,
          fits, unusable⟩
        by_cases isWechat : qr.channel = ascii "wechat"
        · exact unusable (PaymentService.usable_of_wechat isWechat noProblem)
        · obtain ⟨-, -, -, -, -, -, requested⟩ := readQrRequest_reads read
          rw [requested isWechat] at isCurrency
          obtain rfl : currency = ascii "CNY" := (Option.some.inj isCurrency).symm
          refine unusable (sound qr read hasOrder keyFits ?_ isWechat available noProblem)
          exact fits.imp_right fun attempt => ⟨attempt.1, attempt.2.2⟩

/-! An order of nothing, under a key of the caller. -/

def zeroBody : HttpRequest :=
  ⟨false, some (Json.object [("order_no", Json.text "A1"), ("amount", Json.text "0.00"),
    ("user_id", .int 7)]), ascii "K", [], none⟩

def zeroRequest : CreatePaymentRequest :=
  ⟨ascii "A1", ascii "0.00", ascii "CNY", [], [], 7, .null, ascii "alipay", [], []⟩

theorem zeroBooking_fits : (PaymentService.createBooking shop zeroRequest).Fits where
  orderNo := fitsColumn_of_ascii (by decide +kernel) (by decide +kernel)
  amount := fitsColumn_of_ascii (by decide +kernel) (by decide +kernel)
  currency := fitsColumn_of_ascii (by decide +kernel) (by decide +kernel)
  channel := fitsColumn_of_ascii (by decide +kernel) (by decide +kernel)
  title := fitsColumn_of_ascii (by decide +kernel) (by decide +kernel)

theorem zeroBody_handed (getSha256 : Bytes → Bytes) :
    createPayment getSha256 true zeroBody = .handed (zeroRequest, ascii "K") := rfl

/-- The handler accepts the body, and a run of the services books it. -/
theorem zero_amount_booked :
    (¬ ∀ (getSha256 : Bytes → Bytes) (cfg : Config) (paymentNo : Bytes) (now : Nat)
      (accepted : Accepted getSha256), accepted.BooksUsable cfg paymentNo now) ∧
    ∃ s, PayRun shop (fun _ _ => True)
      (.spawn (.createPayment zeroRequest (ascii "K") (drawn "p") 0) :: steps 0 5 1) s ∧
      ∃ row, s.db.orders.find (ascii "A1") = some row ∧ ¬ UsableAmount row.amount := by
  constructor
  · intro claim
    have isZero : PayUtils.parseAmountToFen zeroRequest.amount = some 0 := by decide +kernel
    have keyFits : FitsColumn keyWidth (ascii "K") :=
      fitsColumn_of_ascii (by decide +kernel) (by decide +kernel)
    have may : InsertsUnusable (PaymentService.createPayment shop zeroRequest (ascii "K") [] 0) :=
      PaymentService.may_createPayment.mpr ⟨Or.inr keyFits, zeroBooking_fits, isZero, rfl⟩
    exact claim (fun _ => []) shop [] 0 (.create true zeroBody zeroRequest (ascii "K")
      (zeroBody_handed _)) may
  · obtain ⟨s, run, holds⟩ := replay_run (fun _ _ => true)
      (.spawn (.createPayment zeroRequest (ascii "K") (drawn "p") 0) :: steps 0 5 1)
      (fun s => (s.db.orders.find (ascii "A1")).any fun row =>
        PayUtils.parseAmountToFen row.amount = some 0) (by decide +kernel)
    simp only [Option.any_eq_true, decide_eq_true_eq] at holds
    obtain ⟨row, found, isZero⟩ := holds
    refine ⟨s, run.mono fun _ _ _ => trivial, row, found, ?_⟩
    rintro ⟨fen, parsed, positive⟩
    rw [isZero] at parsed
    exact absurd (Option.some.inj parsed) (by omega)

end DrogonPay
