import DrogonPay.Laws.Amounts
import DrogonPay.Laws.Deadline

/-!
Contract: the amount that `createPayment` offers to Alipay, the amount it books
and the amount a notification is compared with.

Owns:
- `totalAmountYuan_eq`: the yuan text of a number of fen is the decimal with two
  places;
- `OneAmount`, the promise: the text is read back as the fen it was made of, one
  text for each amount, and it is what is offered for the rows that are booked;
- `one_amount`, the promise kept by every amount the parser admits.

Does not own: what Alipay does with the text.
-/

namespace DrogonPay

open ReadCommitted PaymentService

/-! ## The text -/

/-- Cents written with a zero before a single digit are two digits. -/
theorem cents_eq (cents : Nat) (small : cents < 100) :
    (if cents < 10 then ascii "0" else []) ++ Decimal.natText cents =
      Decimal.fixedText 2 cents := by
  by_cases single : cents < 10
  · have tens : Decimal.digit (cents / 10) = 48 := by simp [Nat.div_eq_of_lt single, Decimal.digit]
    rw [if_pos single, Decimal.natText_small single]
    simp [Decimal.fixedText, tens, ascii]
  · rw [if_neg single, Decimal.natText_step (by omega), Decimal.natText_small (by omega)]
    rfl

theorem totalAmountYuan_eq (fen : Nat) : totalAmountYuan fen = Decimal.text ⟨fen, 2⟩ := by
  have cents : Decimal.fixedText 2 (fen % 100) = Decimal.fixedText 2 fen := by
    have tens : Decimal.digit (fen % 100 / 10) = Decimal.digit (fen / 10) := by
      simp only [Decimal.digit]
      congr 2
      omega
    have units : Decimal.digit (fen % 100) = Decimal.digit fen := by
      simp only [Decimal.digit]
      congr 2
      omega
    simp [Decimal.fixedText, tens, units]
  rw [totalAmountYuan, List.append_assoc, List.append_assoc,
    cents_eq _ (Nat.mod_lt _ (by decide)), cents]
  rfl

/-- The yuan part of an amount the parser admits. -/
theorem yuan_le_of_parse {amount : Bytes} {fen : Nat}
    (parsed : PayUtils.parseAmountToFen amount = some fen) : fen / 100 ≤ PayUtils.maxYuan := by
  obtain ⟨-, digits, centDigits, short, small, eq⟩ :=
    PayUtils.parseAmountToFen_eq_some_iff.mp parsed
  obtain ⟨cents, spells⟩ := PayUtils.amountText_of_parts digits centDigits short
  have hundredths := PayUtils.hundredths_of_cents spells
  have few := PayUtils.value_padCents_le spells
  omega

/-- What is rendered is read back. -/
theorem parse_totalAmountYuan {fen : Nat} (small : fen / 100 ≤ PayUtils.maxYuan) :
    PayUtils.parseAmountToFen (totalAmountYuan fen) = some fen := by
  rw [totalAmountYuan_eq, PayUtils.parseAmountToFen_text (Nat.le_refl 2)]
  simp [Decimal.units, small]

/-- The text has a yuan part and exactly two digits behind the point. -/
theorem totalAmountYuan_parts (fen : Nat) :
    ∃ yuan cents, totalAmountYuan fen = yuan ++ Decimal.point :: cents ∧ yuan ≠ [] ∧
      (∀ b ∈ yuan, Decimal.isDigit b = true) ∧ cents.length = 2 ∧
      ∀ b ∈ cents, Decimal.isDigit b = true :=
  ⟨Decimal.natText (fen / 100), Decimal.fixedText 2 fen, totalAmountYuan_eq fen,
    Decimal.natText_ne_nil _, fun _ => Decimal.isDigit_of_mem_natText,
    Decimal.length_fixedText 2 fen, fun _ => Decimal.isDigit_of_mem_fixedText⟩

/-! ## The comparison -/

theorem notifiedFen_eq_iff {echoed : Bytes} {fen : Nat} :
    notifiedFen echoed = fen ↔ PayUtils.parseAmountToFen echoed = some fen := by
  unfold notifiedFen
  cases PayUtils.parseAmountToFen echoed with
  | none => exact iff_of_false (by simp only; omega) nofun
  | some other => simp

theorem amountEqualsFen_iff {amount echoed : Bytes} {fen : Nat}
    (parsed : PayUtils.parseAmountToFen amount = some fen) :
    PayUtils.amountEqualsFen amount (notifiedFen echoed) = true ↔
      PayUtils.parseAmountToFen echoed = some fen := by
  rw [← notifiedFen_eq_iff, PayUtils.amountEqualsFen, parsed, beq_iff_eq]
  exact eq_comm

theorem reconcileAmountProblem_iff {amount echoed : Bytes} {fen : Nat}
    (parsed : PayUtils.parseAmountToFen amount = some fen) :
    reconcileAmountProblem (notifiedFen echoed) amount = false ↔
      PayUtils.parseAmountToFen echoed = some fen ∧ 0 < fen := by
  rw [← notifiedFen_eq_iff, reconcileAmountProblem, parsed]
  simp only [Bool.or_eq_false_iff, decide_eq_false_iff_not, Decidable.not_not]
  omega

/-! ## What is booked -/

/-- An order or an attempt is booked with this text as its amount. -/
def amountContract (amount : Bytes) : Contract paySig where
  issue _ _
    | .insertOrder booking => booking.amount = amount
    | .insertPayment booking => booking.amount = amount
    | _ => True
  call _ _ := True
  commit _ _ := True
  finish _ := True

section Booking

variable {cfg : Config} {request : CreatePaymentRequest} {key : Bytes} {paymentNo : Bytes}
  {now : Nat} {slot : Slot paySig} {log : List PayEntry}

theorem books_minor {amount : Bytes} {program : PayProg} (isMinor : program.Minor Stmt.minor) :
    Runs (amountContract amount) slot log program := by
  refine runs_minor (fun log st minor => ?_) (fun _ _ => trivial) (fun _ => trivial) isMinor
  cases st with
  | insertOrder booking => exact minor.elim
  | insertPayment booking => exact minor.elim
  | _ => trivial

/-- A create books the text of its request. -/
theorem books_createPayment :
    Runs (amountContract request.amount) slot log
      (createPayment cfg request key paymentNo now) := by
  have answers : ∀ {slot log} reply, Runs (amountContract request.amount) slot log
      (wrappedCreateCallback key (createHash cfg request) reply) :=
    fun reply => books_minor (minor_wrappedCreateCallback reply)
  dsimp only [createPayment]
  refine runs_checkDatabase books_minor (fun _ => trivial) (fun extra => ?_) ?_
  · dsimp only
    split
    · exact books_minor (minor_clearReservation fun _ => minor_answer _ _)
    · split
      · exact books_minor (minor_clearReservation fun _ => minor_answer _ _)
      · refine runs_start.mpr ⟨?_, answers _⟩
        refine runs_sql_txn.mpr ⟨rfl, fun ordered _ => ?_, fun cause => answers _⟩
        refine runs_sql_txn.mpr ⟨rfl, fun booked _ => ?_, fun cause => answers _⟩
        refine runs_commit.mpr ⟨trivial, ?_, answers _⟩
        dsimp only
        split
        · refine runs_call.mpr ⟨trivial, fun a => ?_⟩
          exact books_minor (minor_onCreateAnswer minor_wrappedCreateCallback)
        · exact books_minor (minor_onCreateAnswer minor_wrappedCreateCallback)
  · intro result other
    cases result with
    | Started => exact absurd rfl other
    | _ => exact minor_answerUnstarted _

end Booking

section Runs

variable {cfg : Config} {events : List PayEvent} {s : PaySys} {p : PayProc}
  {ok : PaySys → PayEvent → Prop} {request : CreatePaymentRequest} {key : Bytes}
  {paymentNo : Drawn} {now : Nat}

/-- The request is a create of this amount. -/
def CreatesFor (amount : Bytes) : Request → Prop
  | .createPayment request _ _ _ => request.amount = amount
  | _ => False

theorem verified_amounts (cfg : Config) (amount : Bytes) (request : Request)
    (creates : CreatesFor amount request) :
    Verified (amountContract amount) (Proc.spawn request (serve cfg request)) := by
  refine Verified.of_runs ?_
  cases request with
  | createPayment body key paymentNo now =>
      obtain rfl : body.amount = amount := creates
      exact books_createPayment
  | _ => exact creates.elim

/-- The statements of a create that are committed. -/
theorem amount_of_issued (run : PayRun cfg ok events s) (member : p ∈ s.procs)
    (owner : Owner p.log (.createPayment request key paymentNo now)) {st : Stmt} {res : st.Res}
    (saw : Saw p.log st res) : (amountContract request.amount).issue [] none st := by
  obtain ⟨log, record, -, -, promise⟩ :=
    run.issued_of (verified_amounts cfg request.amount) member owner rfl saw
  exact promise

/-- An attempt that was booked is there. -/
theorem payment_booked (run : PayRun cfg ok events s) (member : p ∈ s.procs)
    {booking : PaymentBooking} {at' : Nat} (saw : Saw p.log (.insertPayment booking) at') :
    ∃ row, s.db.payments.find booking.paymentNo = some row ∧ row.toPaymentBooking = booking := by
  obtain ⟨seen, env, ran, _, _, kept⟩ := (run.recalls (I := fun _ => True)
    paymentColumn_keeps_booking (fun _ => ⟨trivial, fun _ _ => trivial⟩) p member).1 _ _ saw
  have read : ∀ row : PaymentRow,
      (payStore.applyAll seen [Write.insertPayment row]).payments.find booking.paymentNo =
        if row.paymentNo = booking.paymentNo then
          (seen.payments.find booking.paymentNo).or (some row)
        else seen.payments.find booking.paymentNo :=
    fun row => paymentColumn.read_applyAll seen [Write.insertPayment row] booking.paymentNo
  have admits := (admitted_eq_some ran).1
  simp only [Bool.and_eq_true] at admits
  have fresh := Option.isNone_iff_eq_none.mp admits.1
  obtain ⟨row, found, same⟩ := kept booking.paymentNo
    { booking with status := .INIT, channelTradeNo := [], createdAt := at' }
    ((read _).trans (by rw [if_pos rfl, fresh, Option.none_or]))
  exact ⟨row, found, same.symm⟩

/-- What a create sends to Alipay. -/
theorem total_amount_of_createPayload {totalFen : Nat}
    (isAlipay : request.channel = ascii "alipay") :
    (createPayload cfg request totalFen).at? (ascii "total_amount") =
      some (.str (totalAmountYuan totalFen)) := by
  rw [createPayload, if_pos isAlipay]
  simp [Json.at?, Json.get, Json.object, Json.lookup]

end Runs

/-! ## The promise -/

/-- One value is rendered, offered, booked and compared. -/
structure OneAmount (cfg : Config) (amount : Bytes) (fen : Nat) : Prop where
  readBack : PayUtils.parseAmountToFen (totalAmountYuan fen) = some fen
  oneText : ∀ other otherFen, PayUtils.parseAmountToFen other = some otherFen →
    (totalAmountYuan otherFen = totalAmountYuan fen ↔ otherFen = fen)
  twoDigits : ∃ yuan cents, totalAmountYuan fen = yuan ++ Decimal.point :: cents ∧ yuan ≠ [] ∧
    (∀ b ∈ yuan, Decimal.isDigit b = true) ∧ cents.length = 2 ∧
    ∀ b ∈ cents, Decimal.isDigit b = true
  offered : ∀ events s, PayRun cfg (fun _ _ => True) events s → ∀ p ∈ s.procs,
    ∀ request key paymentNo now, Owner p.log (.createPayment request key paymentNo now) →
      request.amount = amount → request.channel = ascii "alipay" →
      ∀ channel payload, Calls p (.createQRPayment channel payload) →
        channel = ascii "alipay" ∧
          payload.at? (ascii "total_amount") = some (.str (totalAmountYuan fen))
  booked : ∀ events s, PayRun cfg (fun _ _ => True) events s → ∀ p ∈ s.procs,
    ∀ request key paymentNo now, Owner p.log (.createPayment request key paymentNo now) →
      request.amount = amount →
      (∀ booking at' row, Saw p.log (.insertOrder booking) at' →
        s.db.orders.find booking.orderNo = some row → row.amount = amount) ∧
      ∀ booking at' row, Saw p.log (.insertPayment booking) at' →
        s.db.payments.find booking.paymentNo = some row → row.amount = amount
  compared : ∀ echoed,
    (PayUtils.amountEqualsFen amount (notifiedFen echoed) = true ↔
      PayUtils.parseAmountToFen echoed = some fen) ∧
    (reconcileAmountProblem (notifiedFen echoed) amount = false ↔
      PayUtils.parseAmountToFen echoed = some fen ∧ 0 < fen)

/-- Every amount the parser admits is one value from the offer to the
notification. -/
theorem one_amount (cfg : Config) {amount : Bytes} {fen : Nat}
    (parsed : PayUtils.parseAmountToFen amount = some fen) : OneAmount cfg amount fen := by
  have readBack := parse_totalAmountYuan (yuan_le_of_parse parsed)
  refine ⟨readBack, ?_, totalAmountYuan_parts fen, ?_, ?_,
    fun echoed => ⟨amountEqualsFen_iff parsed, reconcileAmountProblem_iff parsed⟩⟩
  · intro other otherFen parsedOther
    refine ⟨fun same => ?_, congrArg totalAmountYuan⟩
    have readOther := parse_totalAmountYuan (yuan_le_of_parse parsedOther)
    rw [same, readBack] at readOther
    exact (Option.some.inj readOther).symm
  · intro events s run p member request key paymentNo now owner isAmount isAlipay channel payload
      calls
    have offer := offer_of_calls run member owner trivial calls
    simp only [Request.offer, isAmount, parsed, Option.map_some, Option.some.injEq,
      Prod.mk.injEq] at offer
    obtain ⟨rfl, rfl⟩ := offer
    exact ⟨isAlipay, total_amount_of_createPayload isAlipay⟩
  · rintro events s run p member request key paymentNo now owner rfl
    refine ⟨fun booking at' row saw found => ?_, fun booking at' row saw found => ?_⟩
    · have isAmount : booking.amount = request.amount := amount_of_issued run member owner saw
      obtain ⟨seen, foundSeen, isBooking⟩ :=
        order_booked run member (Proc.mem_known_of_log saw)
      obtain ⟨kept, foundKept, same⟩ := order_stays run member List.mem_cons_self found
      obtain rfl : seen = kept := Option.some.inj (foundSeen.symm.trans foundKept)
      rw [← isAmount, ← isBooking, ← same]
    · have isAmount : booking.amount = request.amount := amount_of_issued run member owner saw
      obtain ⟨seen, foundSeen, isBooking⟩ := payment_booked run member saw
      obtain rfl : seen = row := Option.some.inj (foundSeen.symm.trans found)
      rw [← isAmount, ← isBooking]

theorem one_amount_largest :
    OneAmount shop (ascii "092233720368547757.9") 9223372036854775790 :=
  one_amount shop (by decide +kernel)

end DrogonPay
