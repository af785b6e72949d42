import DrogonPay.Decimal.Text
import Mathlib.Tactic.NormNum

/-!
Contract: the amount and status helpers of `utils/PayUtils.cc`.

Owns:
- `parseAmountToFen` and the comparisons built on it;
- the status columns, as enumerations, and the maps from channel states to them;
- `parseAmountToFen_text`: the text of a decimal with two places is read back as
  its hundredths.

Does not own: which code path uses which helper.
-/

namespace DrogonPay

inductive OrderStatus where
  | CREATED | PAYING | PAID | FAILED | CLOSED | REFUNDED
deriving DecidableEq, Repr

inductive PaymentStatus where
  | INIT | PROCESSING | SUCCESS | FAIL | REFUNDED
deriving DecidableEq, Repr

inductive RefundStatus where
  | REFUND_INIT | REFUNDING | REFUND_SUCCESS | REFUND_FAIL
deriving DecidableEq, Repr

def OrderStatus.text : OrderStatus → Bytes
  | .CREATED => ascii "CREATED"
  | .PAYING => ascii "PAYING"
  | .PAID => ascii "PAID"
  | .FAILED => ascii "FAILED"
  | .CLOSED => ascii "CLOSED"
  | .REFUNDED => ascii "REFUNDED"

def PaymentStatus.text : PaymentStatus → Bytes
  | .INIT => ascii "INIT"
  | .PROCESSING => ascii "PROCESSING"
  | .SUCCESS => ascii "SUCCESS"
  | .FAIL => ascii "FAIL"
  | .REFUNDED => ascii "REFUNDED"

def RefundStatus.text : RefundStatus → Bytes
  | .REFUND_INIT => ascii "REFUND_INIT"
  | .REFUNDING => ascii "REFUNDING"
  | .REFUND_SUCCESS => ascii "REFUND_SUCCESS"
  | .REFUND_FAIL => ascii "REFUND_FAIL"

namespace PayUtils

def int64Max : Nat := 2 ^ 63 - 1

/-- `std::stoll` on a text of digits; `none` when it throws `out_of_range`. -/
def stoll (digits : Bytes) : Option Nat :=
  if Decimal.value digits ≤ int64Max then some (Decimal.value digits) else none

/-- The largest yuan part that scales to fen without overflow. -/
def maxYuan : Nat := (int64Max - 99) / 100

def yuanPart (amount : Bytes) : Bytes :=
  if (Decimal.whole amount).isEmpty then ascii "0" else Decimal.whole amount

def centPart (amount : Bytes) : Bytes :=
  (Decimal.fraction? amount).getD (ascii "00")

/-- The cents brought to two digits. -/
def padCents (centText : Bytes) : Bytes :=
  if centText.length = 1 then centText ++ ascii "0"
  else if centText.isEmpty then ascii "00"
  else centText

def parseAmountToFen (amount : Bytes) : Option Nat :=
  if amount.isEmpty then none
  else if !(yuanPart amount).all Decimal.isDigit then none
  else if !(centPart amount).all Decimal.isDigit then none
  else if (centPart amount).length > 2 then none
  else
    match stoll (yuanPart amount), stoll (padCents (centPart amount)) with
    | some yuan, some cents => if yuan > maxYuan then none else some (yuan * 100 + cents)
    | _, _ => none

/-- Signed 64-bit addition as the machine does it. -/
def addInt64 (a b : Int) : Int := (a + b).bmod (2 ^ 64)

def mulInt64 (a b : Int) : Int := (a * b).bmod (2 ^ 64)

/-- `bool parseAmountToFen(amount, fen)` with its out-parameter and its 64-bit
arithmetic. -/
def parseAmountToFenInto (amount : Bytes) (fen : Int) : Bool × Int :=
  if amount.isEmpty then (false, fen)
  else if !(yuanPart amount).all Decimal.isDigit then (false, fen)
  else if !(centPart amount).all Decimal.isDigit then (false, fen)
  else if (centPart amount).length > 2 then (false, fen)
  else
    match stoll (yuanPart amount), stoll (padCents (centPart amount)) with
    | some yuan, some cents =>
        if yuan > maxYuan then (false, fen) else (true, addInt64 (mulInt64 yuan 100) cents)
    | _, _ => (false, fen)

def amountEqualsFen (amount : Bytes) (expectedFen : Int) : Bool :=
  match parseAmountToFen amount with
  | some fen => (fen : Int) == expectedFen
  | none => false

def refundsCoverOrderAmount (settledRefundFen orderTotalFen : Nat) : Bool :=
  orderTotalFen > 0 && settledRefundFen ≥ orderTotalFen

def resolveRefundedOrderStatus (mappedOrderStatus : OrderStatus)
    (settledRefundFen orderTotalFen : Nat) : OrderStatus :=
  if mappedOrderStatus = .REFUNDED && !refundsCoverOrderAmount settledRefundFen orderTotalFen then
    .PAID
  else mappedOrderStatus

def mapTradeState (tradeState : Bytes) : OrderStatus × PaymentStatus :=
  if tradeState = ascii "SUCCESS" then (.PAID, .SUCCESS)
  else if tradeState = ascii "USERPAYING" ∨ tradeState = ascii "NOTPAY" then (.PAYING, .PROCESSING)
  else if tradeState = ascii "REFUND" then (.REFUNDED, .SUCCESS)
  else if tradeState = ascii "CLOSED" ∨ tradeState = ascii "REVOKED" then (.CLOSED, .FAIL)
  else (.FAILED, .FAIL)

/-- `none` stands for the empty string of an unrecognised state. -/
def mapRefundStatus (wechatStatus : Bytes) : Option RefundStatus :=
  if wechatStatus = ascii "SUCCESS" then some .REFUND_SUCCESS
  else if wechatStatus = ascii "CLOSED" then some .REFUND_FAIL
  else if wechatStatus = ascii "ABNORMAL" then some .REFUND_FAIL
  else if wechatStatus = ascii "PROCESSING" then some .REFUNDING
  else none

theorem mapRefundStatus_fail {wechatStatus : Bytes}
    (mapped : mapRefundStatus wechatStatus = some .REFUND_FAIL) :
    wechatStatus = ascii "CLOSED" ∨ wechatStatus = ascii "ABNORMAL" := by
  unfold mapRefundStatus at mapped
  by_cases closed : wechatStatus = ascii "CLOSED"
  · exact Or.inl closed
  · by_cases abnormal : wechatStatus = ascii "ABNORMAL"
    · exact Or.inr abnormal
    · rw [if_neg closed, if_neg abnormal] at mapped
      split at mapped
      · cases mapped
      · split at mapped <;> cases mapped

/-! ## Amounts and their NUMERIC values -/

/-- The fen of an amount that parses, and zero of one that does not. -/
def fenOf (amount : Bytes) : Nat := (parseAmountToFen amount).getD 0

theorem fenOf_eq {amount : Bytes} {fen : Nat} (parsed : parseAmountToFen amount = some fen) :
    fenOf amount = fen := by
  rw [fenOf, parsed, Option.getD_some]

theorem fenOf_eq_zero {amount : Bytes} (unreadable : parseAmountToFen amount = none) :
    fenOf amount = 0 := by
  rw [fenOf, unreadable, Option.getD_none]

/-- No refund covers nothing. -/
theorem not_covers_zero (orderTotalFen : Nat) :
    refundsCoverOrderAmount 0 orderTotalFen = false := by
  by_cases positive : 0 < orderTotalFen
  · simp [refundsCoverOrderAmount, Nat.not_le.mpr positive]
  · simp [refundsCoverOrderAmount, positive]

/-- A refund claim stands only over a covering sum. -/
theorem resolveRefundedOrderStatus_refunded {mapped : OrderStatus} {settledRefundFen total : Nat}
    (refunded : resolveRefundedOrderStatus mapped settledRefundFen total = .REFUNDED) :
    refundsCoverOrderAmount settledRefundFen total = true := by
  unfold resolveRefundedOrderStatus at refunded
  split at refunded
  · cases refunded
  · rename_i keeps
    rw [refunded] at keeps
    simpa using keeps

/-- Coverage turns a refund claim into PAID at worst. -/
theorem resolveRefundedOrderStatus_paid {mapped : OrderStatus} {settledRefundFen total : Nat} :
    (resolveRefundedOrderStatus mapped settledRefundFen total = .PAID ∨
      resolveRefundedOrderStatus mapped settledRefundFen total = .REFUNDED) ↔
      (mapped = .PAID ∨ mapped = .REFUNDED) := by
  unfold resolveRefundedOrderStatus
  split
  · rename_i claimed
    simp only [Bool.and_eq_true, decide_eq_true_eq] at claimed
    simp [claimed.1]
  · rfl

/-- The settled sum counts under a refund claim only. -/
theorem resolveRefundedOrderStatus_of_ne {mapped : OrderStatus} {settledRefundFen total : Nat}
    (unrefunded : mapped ≠ .REFUNDED) :
    resolveRefundedOrderStatus mapped settledRefundFen total = mapped := by
  simp [resolveRefundedOrderStatus, unrefunded]

/-- Money came in exactly for the states that say so of the order. -/
theorem mapTradeState_success {tradeState : Bytes} :
    (mapTradeState tradeState).2 = .SUCCESS ↔
      ((mapTradeState tradeState).1 = .PAID ∨ (mapTradeState tradeState).1 = .REFUNDED) := by
  unfold mapTradeState
  repeat' split
  all_goals simp

theorem mapTradeState_unreturned {tradeState : Bytes} : (mapTradeState tradeState).2 ≠ .REFUNDED := by
  unfold mapTradeState
  repeat' split
  all_goals simp

theorem digit_le {b : UInt8} (isDig : Decimal.isDigit b = true) : b.toNat - 48 ≤ 9 := by
  simp only [Decimal.isDigit, Bool.and_eq_true, decide_eq_true_eq, UInt8.le_iff_toNat_le] at isDig
  have upper : b.toNat ≤ 57 := isDig.2
  omega

private theorem stoll_of_le {text : Bytes} (small : Decimal.value text ≤ 99) :
    stoll text = some (Decimal.value text) := by
  have bound : 99 ≤ int64Max := by decide
  rw [stoll, if_pos (by omega)]

private theorem stoll_padCents {text : Bytes} (short : text.length ≤ 2)
    (digits : text.all Decimal.isDigit = true) :
    stoll (padCents text) = some (Decimal.value text * 10 ^ (2 - text.length)) := by
  match text, short with
  | [], _ => decide
  | [b], _ =>
      have small : b.toNat - 48 ≤ 9 := digit_le (by simpa using digits)
      have spelled : Decimal.value [b] = b.toNat - 48 := by simp [Decimal.value]
      have padded : Decimal.value ([b] ++ ascii "0") = Decimal.value [b] * 10 := by
        rw [Decimal.value_append]
        rfl
      have pads : padCents [b] = [b] ++ ascii "0" := rfl
      rw [pads, stoll_of_le (by omega), padded]
      rfl
  | [b, c], _ =>
      have both : Decimal.isDigit b = true ∧ Decimal.isDigit c = true := by simpa using digits
      have smallB := digit_le both.1
      have smallC := digit_le both.2
      have spelled : Decimal.value [b, c] = 10 * (b.toNat - 48) + (c.toNat - 48) := by
        simp [Decimal.value]
      have pads : padCents [b, c] = [b, c] := rfl
      rw [pads, stoll_of_le (by omega)]
      simp
  | _ :: _ :: _ :: _, tooLong => simp at tooLong

private theorem value_yuanPart (amount : Bytes) :
    Decimal.value (yuanPart amount) = Decimal.value (Decimal.whole amount) := by
  unfold yuanPart
  split
  · rename_i empty
    rw [List.isEmpty_iff.mp empty]
    decide
  · rfl

private theorem all_yuanPart {amount : Bytes} :
    (yuanPart amount).all Decimal.isDigit = (Decimal.whole amount).all Decimal.isDigit := by
  unfold yuanPart
  split
  · rename_i empty
    rw [List.isEmpty_iff.mp empty]
    decide
  · rfl

/-- `parseAmountToFen` accepts digits with at most two cents digits and a bounded
yuan part, and reads them exactly. -/
theorem parseAmountToFen_eq_some_iff {amount : Bytes} {fen : Nat} :
    parseAmountToFen amount = some fen ↔
      amount ≠ [] ∧ (Decimal.whole amount).all Decimal.isDigit = true ∧
        (centPart amount).all Decimal.isDigit = true ∧ (centPart amount).length ≤ 2 ∧
        Decimal.value (Decimal.whole amount) ≤ maxYuan ∧
        fen = Decimal.value (Decimal.whole amount) * 100 +
          Decimal.value (centPart amount) * 10 ^ (2 - (centPart amount).length) := by
  have bound : maxYuan ≤ int64Max := by decide
  unfold parseAmountToFen
  rw [all_yuanPart]
  by_cases empty : amount = []
  · simp [empty]
  by_cases yuanDigits : (Decimal.whole amount).all Decimal.isDigit = true
  swap
  · simp [empty, yuanDigits]
  by_cases centDigits : (centPart amount).all Decimal.isDigit = true
  swap
  · simp [empty, centDigits]
  by_cases short : (centPart amount).length ≤ 2
  swap
  · have long : (centPart amount).length > 2 := by omega
    simp [short, long]
  have notLong : ¬ (centPart amount).length > 2 := by omega
  have notEmpty : amount.isEmpty = false := by simpa using empty
  simp only [notEmpty, yuanDigits, centDigits, notLong, stoll_padCents short centDigits,
    Bool.not_true, Bool.false_eq_true, ↓reduceIte]
  simp only [stoll, value_yuanPart]
  by_cases fits : Decimal.value (Decimal.whole amount) ≤ maxYuan
  · have inRange : Decimal.value (Decimal.whole amount) ≤ int64Max := by omega
    have notAbove : ¬ Decimal.value (Decimal.whole amount) > maxYuan := by omega
    simp only [inRange, notAbove, fits, short, ↓reduceIte, Option.some.injEq, true_and, ne_eq,
      empty, not_false_eq_true]
    exact eq_comm
  · by_cases inRange : Decimal.value (Decimal.whole amount) ≤ int64Max
    · have above : Decimal.value (Decimal.whole amount) > maxYuan := by omega
      simp [inRange, above, fits]
    · simp [inRange, fits]

/-- A decimal with at most two places parses to its hundredths, unless its whole
part is too large. -/
theorem parseAmountToFen_text {d : Decimal} (fits : d.scale ≤ 2) :
    parseAmountToFen d.text =
      if d.coefficient / 10 ^ d.scale ≤ maxYuan then some (d.units 2) else none := by
  have nonempty : d.text ≠ [] := by
    unfold Decimal.text
    exact fun empty => Decimal.natText_ne_nil _ (List.append_eq_nil_iff.mp empty).1
  have yuanDigits : (Decimal.whole d.text).all Decimal.isDigit = true := by
    rw [Decimal.whole_text, List.all_eq_true]
    exact fun b member => Decimal.isDigit_of_mem_natText member
  have centsEq : centPart d.text =
      if d.scale = 0 then ascii "00" else Decimal.fixedText d.scale d.coefficient := by
    rw [centPart, Decimal.fraction?_text]
    split <;> rfl
  have centDigits : (centPart d.text).all Decimal.isDigit = true := by
    rw [centsEq]
    split
    · decide
    · exact List.all_eq_true.mpr fun b member => Decimal.isDigit_of_mem_fixedText member
  have short : (centPart d.text).length ≤ 2 := by
    rw [centsEq]
    split
    · decide
    · rw [Decimal.length_fixedText]
      exact fits
  have hundredths : d.coefficient / 10 ^ d.scale * 100 +
      Decimal.value (centPart d.text) * 10 ^ (2 - (centPart d.text).length) = d.units 2 := by
    rw [centsEq, Decimal.units]
    obtain ⟨coefficient, scale⟩ := d
    have places : scale ≤ 2 := fits
    obtain rfl | rfl | rfl : scale = 0 ∨ scale = 1 ∨ scale = 2 := by omega
    · have zero : Decimal.value (ascii "00") = 0 := by decide
      simp [zero]
    · rw [if_neg (by simp), Decimal.length_fixedText, Decimal.value_fixedText]
      norm_num
      omega
    · rw [if_neg (by simp), Decimal.length_fixedText, Decimal.value_fixedText]
      norm_num
      omega
  have spelled : Decimal.value (Decimal.whole d.text) = d.coefficient / 10 ^ d.scale := by
    rw [Decimal.whole_text, Decimal.value_natText]
  split
  · rename_i small
    refine parseAmountToFen_eq_some_iff.mpr
      ⟨nonempty, yuanDigits, centDigits, short, by rw [spelled]; exact small, ?_⟩
    rw [spelled, hundredths]
  · rename_i large
    refine Option.eq_none_iff_forall_ne_some.mpr fun fen parsed => large ?_
    rw [← spelled]
    exact (parseAmountToFen_eq_some_iff.mp parsed).2.2.2.2.1

/-- An amount that parses to a positive fen is a decimal literal of that
value. -/
theorem cast_of_parse {amount : Bytes} {fen : Nat} (parsed : parseAmountToFen amount = some fen)
    (positive : 0 < fen) :
    ∃ d, Decimal.cast amount = some d ∧ d.scale ≤ 2 ∧ d.units 2 = fen := by
  obtain ⟨_, yuanDigits, centDigits, short, _, eq⟩ := parseAmountToFen_eq_some_iff.mp parsed
  cases split : Decimal.fraction? amount with
  | none =>
      have noCents : centPart amount = ascii "00" := by simp [centPart, split]
      have zero : Decimal.value (ascii "00") = 0 := by decide
      have digits : Decimal.whole amount ≠ [] := by
        intro empty
        rw [empty, noCents, zero] at eq
        simp [Decimal.value] at eq
        omega
      refine ⟨⟨Decimal.value (Decimal.whole amount), 0⟩, ?_, Nat.zero_le 2, ?_⟩
      · simp only [Decimal.cast, split, Option.getD_none, List.append_nil, yuanDigits]
        simp [digits]
      · rw [eq, noCents, zero]
        simp [Decimal.units]
  | some back =>
      have isCents : centPart amount = back := by simp [centPart, split]
      rw [isCents] at centDigits short eq
      have digits : Decimal.whole amount ++ back ≠ [] := by
        intro empty
        obtain ⟨noYuan, noCents⟩ := List.append_eq_nil_iff.mp empty
        rw [noYuan, noCents] at eq
        simp [Decimal.value] at eq
        omega
      refine ⟨⟨Decimal.value (Decimal.whole amount ++ back), back.length⟩, ?_, short, ?_⟩
      · simp only [Decimal.cast, split, Option.getD_some, List.all_append, yuanDigits, centDigits]
        simp [digits]
      · have whole : 10 ^ back.length * 10 ^ (2 - back.length) = 100 := by
          rw [← Nat.pow_add, Nat.add_sub_cancel' short]
        rw [eq, Decimal.units, Decimal.value_append, Nat.add_mul, Nat.mul_assoc, whole]

end PayUtils
end DrogonPay
