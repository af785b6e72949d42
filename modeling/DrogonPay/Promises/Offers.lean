import DrogonPay.Promises.Contract

/-!
Contract: what a create request offers the channel, and with which deadline.

Owns:
- `Request.offer` and `Request.deadline`, the payload a create request sends and
  the instant it stands for;
- `offerContract`: an attempt is booked for an order whose deadline the process
  has set or has seen, and what is sent is the offer of the request;
- the proof that both create paths keep it.

Does not own: whether a deadline that was seen is the right one.
-/

namespace DrogonPay

open ReadCommitted PaymentService

/-! ## Offers -/

/-- The channel and the payload a create request offers. -/
def Request.offer (cfg : Config) : Request → Option (Bytes × Json)
  | .createPayment request _ _ _ =>
      (PayUtils.parseAmountToFen request.amount).map fun totalFen =>
        (request.channel, createPayload cfg request totalFen)
  | .createQRPayment request _ _ => do
      let qr ← readQrRequest request
      let currency ← normalizeQrCurrency qr.requestedCurrency
      return (qr.channel, qrPayload qr currency)
  | _ => none

/-- The deadline of a create request. -/
def Request.deadline (cfg : Config) : Request → Option Int
  | .createPayment request _ _ _ => expireAtOf cfg request.timeExpire
  | .createQRPayment request _ _ =>
      (readQrRequest request).bind fun qr => expireAtOf cfg qr.timeExpire
  | _ => none

/-- The QR request may be offered under this order again. -/
def Request.reuses (request : Request) (existing : OrderRow) : Prop :=
  ∃ body paymentNo now qr currency, request = .createQRPayment body paymentNo now ∧
    readQrRequest body = some qr ∧ normalizeQrCurrency qr.requestedCurrency = some currency ∧
    reuseProblem qr currency existing = none

/-- An attempt is booked for an order the process booked with the deadline of the
request, or may reuse. -/
def OfferPromise (cfg : Config) (log : List PayEntry) (record : Option (List PayEntry))
    (booking : PaymentBooking) : Prop :=
  ∃ request, Owner log request ∧
    ((∃ order now, Saw (log ++ record.getD []) (.insertOrder order) now ∧
        order.orderNo = booking.orderNo ∧ order.expireAt = request.deadline cfg) ∨
      ∃ existing, Saw log (.findOrder booking.orderNo) (some existing) ∧ request.reuses existing)

def offerContract (cfg : Config) : Contract paySig where
  issue log record
    | .insertPayment booking => OfferPromise cfg log record booking
    | _ => True
  call log
    | .createQRPayment channel payload =>
        ∃ request, Owner log request ∧ request.offer cfg = some (channel, payload)
    | _ => True
  commit _ _ := True
  finish _ := True

/-! ## Statements that book nothing -/

/-- A statement that books neither an order nor an attempt. -/
def Stmt.minor : Stmt → Prop
  | .insertOrder _ | .insertPayment _ => False
  | _ => True

section Minor

variable {cfg : Config} {slot : Slot paySig} {log : List PayEntry}

theorem offers_minor {program : PayProg} (isMinor : program.Minor Stmt.minor) :
    Runs (offerContract cfg) slot log program := by
  refine runs_minor (fun log st minor => ?_) (fun _ _ => trivial) (fun _ => trivial) isMinor
  cases st with
  | insertPayment booking => exact minor.elim
  | _ => trivial

theorem minor_answer (body : Json) (error : Option ErrorCode) :
    (answer body error).Minor Stmt.minor := trivial

theorem minor_orThrow {α : Type} {value : Option α} {next : α → PayProg}
    (continues : ∀ a, (next a).Minor Stmt.minor) : (orThrow value next).Minor Stmt.minor := by
  cases value with
  | none => trivial
  | some a => exact continues a

theorem minor_clearReservation {key requestHash : Bytes} {callback : Bool → PayProg}
    (continues : ∀ done, (callback done).Minor Stmt.minor) :
    (IdempotencyService.clearReservation key requestHash callback).Minor Stmt.minor := by
  unfold IdempotencyService.clearReservation
  split
  · exact continues false
  · refine ⟨trivial, fun res => ?_⟩
    cases res with
    | none => exact continues false
    | some done => exact continues true

theorem minor_storeThenAnswer {key requestHash : Bytes} {reply : Reply} :
    (IdempotencyService.storeThenAnswer key requestHash reply).Minor Stmt.minor := by
  have clears : (IdempotencyService.clearReservation key requestHash fun _ =>
      answer reply.body reply.error).Minor Stmt.minor :=
    minor_clearReservation fun _ => minor_answer _ _
  refine ⟨trivial, fun res => ?_⟩
  match res with
  | none => exact clears
  | some false => exact clears
  | some true => exact minor_answer _ _

theorem minor_wrappedCreateCallback {key requestHash : Bytes} (reply : Reply) :
    (wrappedCreateCallback key requestHash reply).Minor Stmt.minor := by
  unfold wrappedCreateCallback
  split
  · exact minor_storeThenAnswer
  · split
    · exact minor_clearReservation fun _ => minor_answer _ _
    · exact minor_answer _ _

theorem minor_bookRefusedAttempt {paymentNo orderNo : Bytes} {finish : PayProg}
    (finishes : finish.Minor Stmt.minor) :
    (bookRefusedAttempt paymentNo orderNo finish).Minor Stmt.minor := by
  refine ⟨trivial, fun res => ?_⟩
  match res with
  | none => exact finishes
  | some none => exact finishes
  | some (some payment) =>
      refine ⟨trivial, fun res => ?_⟩
      cases res with
      | none => exact finishes
      | some done =>
          refine ⟨trivial, fun res => ?_⟩
          match res with
          | none => exact finishes
          | some none => exact finishes
          | some (some order) => exact ⟨trivial, fun _ => finishes⟩

theorem minor_onCreateAnswer {request : CreatePaymentRequest} {paymentNo transportError : Bytes}
    {callback : Reply → PayProg} {result : Json}
    (continues : ∀ reply, (callback reply).Minor Stmt.minor) :
    (onCreateAnswer request paymentNo callback result transportError).Minor Stmt.minor := by
  have created : (answerCreated request paymentNo result callback).Minor Stmt.minor :=
    minor_orThrow fun _ => continues _
  refine minor_orThrow fun error => ?_
  split
  · refine ⟨trivial, fun res => ?_⟩
    match res with
    | none => exact continues _
    | some false => exact created
    | some true => exact ⟨trivial, fun _ => created⟩
  · dsimp only
    split
    · exact minor_bookRefusedAttempt (continues _)
    · exact continues _

theorem minor_failQr {qr : QrRequest} {requestHash text : Bytes} {code : Nat} {extra : Json} :
    (failQr qr requestHash code text extra).Minor Stmt.minor :=
  minor_clearReservation fun _ => minor_answer _ _

theorem minor_promoteQrRows {qr : QrRequest} {requestHash paymentNo : Bytes} {data : Json} :
    (promoteQrRows qr requestHash paymentNo data).Minor Stmt.minor := by
  refine ⟨trivial, fun res => ?_⟩
  match res with
  | none => exact minor_storeThenAnswer
  | some false => exact minor_storeThenAnswer
  | some true => exact ⟨trivial, fun _ => minor_storeThenAnswer⟩

theorem minor_refuseQrOffer {qr : QrRequest} {requestHash paymentNo failure text : Bytes}
    {extra : Json} :
    (refuseQrOffer qr requestHash paymentNo failure text extra).Minor Stmt.minor := by
  unfold refuseQrOffer
  split
  · exact ⟨trivial, fun _ => minor_failQr⟩
  · exact minor_failQr

theorem minor_refuseQr {qr : QrRequest} {requestHash text : Bytes} {code : Nat} :
    (refuseQr qr requestHash code text).Minor Stmt.minor :=
  ⟨minor_clearReservation fun _ => trivial, minor_answer _ _⟩

theorem minor_answerUnstarted (result : IdempotencyService.CheckResult) :
    (answerUnstarted result).Minor Stmt.minor := by
  cases result <;> trivial

end Minor

/-! ## The create paths -/

section Paths

variable {cfg : Config} {slot : Slot paySig} {log : List PayEntry} {request : Request}

/-- The check of the key, under a contract that asks nothing of statements that
book nothing. -/
theorem runs_checkDatabase {C : Contract paySig} {key requestHash : Bytes}
    {callback : IdempotencyService.CheckResult → PayProg}
    (ignores : ∀ {slot log} {program : PayProg}, program.Minor Stmt.minor → Runs C slot log program)
    (reserves : ∀ log, C.issue log none (.reserve key requestHash none cfg.ttlSeconds))
    (started : ∀ extra, Runs C slot (log ++ extra) (callback .Started))
    (refused : ∀ result, result ≠ .Started → (callback result).Minor Stmt.minor) :
    Runs C slot log (IdempotencyService.checkDatabase cfg key requestHash callback) := by
  unfold IdempotencyService.checkDatabase
  split
  · simpa using started []
  · refine runs_sql_db.mpr ⟨reserves log, fun res _ => ?_, fun _ => ignores (refused .Error nofun)⟩
    cases res with
    | some now => exact started _
    | none =>
        refine ignores ⟨trivial, fun res => ?_⟩
        match res with
        | none => exact refused .Error nofun
        | some none => exact refused .Error nofun
        | some (some row) =>
            show (IdempotencyService.readReservation requestHash row callback).Minor _
            unfold IdempotencyService.readReservation
            split
            · split
              · exact refused .InProgress nofun
              · refine minor_orThrow fun response => ?_
                split
                · exact refused .InProgress nofun
                · exact refused (.Replay response) nofun
            · exact refused .Conflict nofun

/-- The check of the key leaves the request as it is. -/
theorem offers_checkDatabase {key requestHash : Bytes}
    {callback : IdempotencyService.CheckResult → PayProg} (owner : Owner log request)
    (started : ∀ log', Owner log' request → Runs (offerContract cfg) slot log' (callback .Started))
    (refused : ∀ result, result ≠ .Started → (callback result).Minor Stmt.minor) :
    Runs (offerContract cfg) slot log
      (IdempotencyService.checkDatabase cfg key requestHash callback) :=
  runs_checkDatabase offers_minor (fun _ => trivial) (fun extra => started _ (owner.append extra))
    refused

theorem offers_createPayment {body : CreatePaymentRequest} {key : Bytes} {paymentNo : Drawn}
    {now : Nat} (owner : Owner log (.createPayment body key paymentNo now)) :
    Runs (offerContract cfg) slot log (createPayment cfg body key paymentNo.text now) := by
  dsimp only [createPayment]
  refine offers_checkDatabase owner (fun log owner => ?_) ?_
  · dsimp only
    split
    · exact offers_minor (minor_clearReservation fun _ => minor_answer _ _)
    · rename_i totalFen worth
      split
      · exact offers_minor (minor_clearReservation fun _ => minor_answer _ _)
      · have answers : ∀ {slot log} reply, Runs (offerContract cfg) slot log
            (wrappedCreateCallback key (createHash cfg body) reply) :=
          fun reply => offers_minor (minor_wrappedCreateCallback reply)
        refine runs_start.mpr ⟨?_, answers _⟩
        refine runs_sql_txn.mpr ⟨trivial, fun ordered _ => ?_, fun cause => answers _⟩
        refine runs_sql_txn.mpr ⟨?_, fun booked _ => ?_, fun cause => answers _⟩
        · exact ⟨_, owner, Or.inl ⟨_, ordered, Saw.last, rfl, rfl⟩⟩
        · refine runs_commit.mpr ⟨trivial, ?_, answers _⟩
          dsimp only
          split
          · refine runs_call.mpr ⟨⟨_, owner.append _, ?_⟩, fun a => ?_⟩
            · simp [Request.offer, worth]
            · exact offers_minor (minor_onCreateAnswer minor_wrappedCreateCallback)
          · exact offers_minor (minor_onCreateAnswer minor_wrappedCreateCallback)
  · intro result other
    cases result with
    | Started => exact absurd rfl other
    | _ => exact minor_answerUnstarted _

section Qr

variable {body : Json} {paymentNo : Drawn} {now : Nat} {qr : QrRequest}
  {requestHash currency : Bytes}

theorem offers_bookQrPayment (owner : Owner log (.createQRPayment body paymentNo now))
    (isQr : readQrRequest body = some qr)
    (isCurrency : normalizeQrCurrency qr.requestedCurrency = some currency)
    (known : OfferPromise cfg log none ⟨paymentNo.text, qr.orderNo, qr.amount⟩) :
    Runs (offerContract cfg) slot log
      (bookQrPayment qr requestHash paymentNo.text (qrPayload qr currency)) := by
  refine runs_sql_db.mpr ⟨known, fun res _ => ?_, fun _ => offers_minor minor_failQr⟩
  refine runs_call.mpr ⟨⟨_, owner.append _, ?_⟩, fun a => ?_⟩
  · simp [Request.offer, isQr, isCurrency]
  · split
    · exact offers_minor minor_refuseQrOffer
    · refine offers_minor (minor_orThrow fun resultError => ?_)
      split
      · exact minor_orThrow fun data => minor_promoteQrRows
      · exact minor_orThrow fun extra => minor_refuseQrOffer

theorem offers_bookQr (owner : Owner log (.createQRPayment body paymentNo now))
    (isQr : readQrRequest body = some qr)
    (isCurrency : normalizeQrCurrency qr.requestedCurrency = some currency) :
    Runs (offerContract cfg) slot log
      (bookQr cfg qr requestHash paymentNo.text currency (qrPayload qr currency)) := by
  refine runs_sql_db.mpr ⟨trivial, fun res _ => ?_, fun _ => offers_minor minor_failQr⟩
  match res with
  | none =>
      refine runs_sql_db.mpr ⟨trivial, fun ordered _ => ?_, fun _ => offers_minor minor_failQr⟩
      refine offers_bookQrPayment ((owner.append _).append _) isQr isCurrency ?_
      refine ⟨_, (owner.append _).append _, Or.inl ⟨_, ordered, Saw.last.append _, rfl, ?_⟩⟩
      simp [Request.deadline, isQr]
  | some existing =>
      dsimp only
      split
      · exact offers_minor minor_failQr
      · rename_i reusable
        refine runs_sql_db.mpr ⟨trivial, fun settled _ => ?_, fun _ => offers_minor minor_failQr⟩
        cases settled with
        | cons row rest => exact offers_minor minor_failQr
        | nil =>
            refine offers_bookQrPayment ((owner.append _).append _) isQr isCurrency ?_
            refine ⟨_, (owner.append _).append _, Or.inr ⟨existing, ?_, ?_⟩⟩
            · simp [Saw]
            · exact ⟨body, paymentNo, now, qr, currency, rfl, isQr, isCurrency, reusable⟩

theorem offers_proceedQr (owner : Owner log (.createQRPayment body paymentNo now))
    (isQr : readQrRequest body = some qr) :
    Runs (offerContract cfg) slot log (proceedQr cfg qr requestHash paymentNo.text now) := by
  unfold proceedQr
  split
  · exact offers_minor minor_refuseQr
  · rename_i currency isCurrency
    split
    · exact offers_minor minor_refuseQr
    · split
      · exact offers_bookQr owner isQr isCurrency
      · exact offers_minor minor_refuseQr

theorem offers_createQRPayment (owner : Owner log (.createQRPayment body paymentNo now)) :
    Runs (offerContract cfg) slot log (createQRPayment cfg body paymentNo.text now) := by
  unfold createQRPayment
  cases readQrHead body with
  | none => exact offers_minor trivial
  | some head =>
      simp only [orThrow]
      split
      · exact offers_minor (minor_answer _ _)
      · cases qrUserId body with
        | none => exact offers_minor trivial
        | some userId =>
            dsimp only
            split
            · exact offers_minor (minor_answer _ _)
            · cases isQr : readQrRequest body with
              | none => exact offers_minor trivial
              | some qr =>
                  refine offers_checkDatabase owner (fun log owner => ?_) ?_
                  · exact offers_proceedQr owner isQr
                  · intro result other
                    cases result with
                    | Started => exact absurd rfl other
                    | _ => exact minor_answerUnstarted _

end Qr
end Paths

/-- A request that books an attempt. -/
def Request.books : Request → Prop
  | .createPayment _ _ _ _ | .createQRPayment _ _ _ => True
  | _ => False

theorem verified_offers (cfg : Config) (request : Request) (books : request.books) :
    Verified (offerContract cfg) (Proc.spawn request (serve cfg request)) := by
  refine Verified.of_runs ?_
  cases request with
  | createPayment body key paymentNo now => exact offers_createPayment rfl
  | createQRPayment body paymentNo now => exact offers_createQRPayment rfl
  | _ => exact books.elim

end DrogonPay
