import DrogonPay.Laws.Amounts
import DrogonPay.Laws.Settled

/-!
Contract: the comparison of a new refund with the total of its order.

Owns:
- `ComparesExactly`, the promise: the 64-bit comparison says what the numbers
  say, without an overflow on the way, and the refund is refused accordingly;
- `compares_exactly_iff`: the promise holds exactly while what is refunded
  already and the new refund stay below 2 ^ 63 fen together.

Does not own: how the refunds of an order are summed.
-/

namespace DrogonPay

open ReadCommitted RefundService

/-- What the check goes on with once the sum is read. -/
def resumeWithSum (sumText : Bytes) : PayProg → PayProg
  | .sql _ (.sumRefunds _ _) k => k (some sumText)
  | other => other

/-- The comparison for a refund of this case, over this sum. -/
structure ComparesExactly (cfg : Config) (c : RefundCase) (sumText : Bytes) (refundedFen : Nat) :
    Prop where
  truth : PayUtils.addInt64 refundedFen c.refundFen > c.totalFen ↔
    (refundedFen : Int) + c.refundFen > c.totalFen
  noOverflow : PayUtils.FitsInt64 (refundedFen + c.refundFen)
  decides : ∀ callback, resumeWithSum sumText (checkRefundSum cfg c callback) =
    if refundedFen + c.refundFen > c.totalFen then
      .rollback (callback (refundError 1409 (ascii "refund amount exceeds paid")))
    else insertRefundRow cfg c callback

/-- The amounts a refund is admitted with. -/
theorem refundAmounts_ok_iff {amount orderAmount : Bytes} {refundFen totalFen : Nat} :
    refundAmounts amount orderAmount = .ok (refundFen, totalFen) ↔
      PayUtils.parseAmountToFen amount = some refundFen ∧
        PayUtils.parseAmountToFen orderAmount = some totalFen ∧
        0 < refundFen ∧ refundFen ≤ totalFen := by
  unfold refundAmounts
  cases PayUtils.parseAmountToFen amount with
  | none => simp
  | some fen =>
      cases PayUtils.parseAmountToFen orderAmount with
      | none => simp
      | some total =>
          simp only [Option.some.injEq]
          split
          · next outside => exact iff_of_false nofun (by omega)
          · next inside =>
            rw [Except.ok.injEq, Prod.mk.injEq]
            constructor
            · rintro ⟨rfl, rfl⟩
              exact ⟨rfl, rfl, by omega, by omega⟩
            · exact fun ⟨same, sameTotal, _⟩ => ⟨same, sameTotal⟩

/-- A number of fen that was read fits 64 bits. -/
theorem fen_le_of_parse {amount : Bytes} {fen : Nat}
    (parsed : PayUtils.parseAmountToFen amount = some fen) : fen ≤ 2 ^ 63 - 1 := by
  obtain ⟨-, digits, centDigits, short, small, eq⟩ :=
    PayUtils.parseAmountToFen_eq_some_iff.mp parsed
  obtain ⟨cents, spells⟩ := PayUtils.amountText_of_parts digits centDigits short
  have hundredths := PayUtils.hundredths_of_cents spells
  have few := PayUtils.value_padCents_le spells
  have limit : PayUtils.maxYuan * 100 + 99 ≤ 2 ^ 63 - 1 := by decide
  omega

/-- A sum of two fen values in the range comes out as it is. -/
theorem addInt64_exact {left right : Nat} (small : left + right < 2 ^ 63) :
    PayUtils.addInt64 left right = left + right :=
  Int.bmod_eq_of_le (by omega) (by omega)

/-- One that leaves the range comes out negative. -/
theorem addInt64_wraps {left right : Nat} (leftFits : left ≤ 2 ^ 63 - 1)
    (rightFits : right ≤ 2 ^ 63 - 1) (large : 2 ^ 63 ≤ left + right) :
    PayUtils.addInt64 left right < 0 := by
  have wrapped : PayUtils.addInt64 left right = left + right - (2 ^ 64 : Nat) := by
    rw [PayUtils.addInt64, ← Int.sub_bmod_right]
    exact Int.bmod_eq_of_le (by omega) (by omega)
  omega

/-- The comparison is exact for an admitted refund exactly while its fen and
those of the sum stay below 2 ^ 63 together. -/
theorem compares_exactly_iff (cfg : Config) {c : RefundCase} {orderAmount sumText : Bytes}
    {refundedFen : Nat}
    (admitted : refundAmounts c.amount orderAmount = .ok (c.refundFen, c.totalFen))
    (summed : PayUtils.parseAmountToFen sumText = some refundedFen) :
    ComparesExactly cfg c sumText refundedFen ↔ refundedFen + c.refundFen < 2 ^ 63 := by
  obtain ⟨parsed, parsedOrder, positive, within⟩ := refundAmounts_ok_iff.mp admitted
  constructor
  · intro exactly
    by_contra large
    -- what was wrapped is negative, and no total is
    have wraps := addInt64_wraps (fen_le_of_parse summed) (fen_le_of_parse parsed) (by omega)
    have total := fen_le_of_parse parsedOrder
    have exceeds := exactly.truth.mpr (by omega)
    omega
  · intro small
    have sum := addInt64_exact small
    refine ⟨by rw [sum], ⟨by omega, by omega⟩, fun callback => ?_⟩
    simp only [checkRefundSum, resumeWithSum, summed, sum]
    by_cases exceeds : refundedFen + c.refundFen > c.totalFen
    · rw [if_pos exceeds, if_pos (by omega)]
    · rw [if_neg exceeds, if_neg (by omega)]

theorem compares_exactly_ten_yuan :
    ComparesExactly shop ⟨refundOf "r" "4.00", ascii "r", ascii "#p", 400, 1000, ascii "CNY"⟩
      (ascii "3.50") 350 ↔ 350 + 400 < 2 ^ 63 := by
  have admitted : refundAmounts (ascii "4.00") (ascii "10.00") = .ok (400, 1000) :=
    refundAmounts_ok_iff.mpr ⟨by decide +kernel, by decide +kernel, by decide, by decide⟩
  exact compares_exactly_iff shop admitted (by decide +kernel)

/-! ## The largest order, refunded twice -/

/-- An order over the largest amount the parser admits in whole yuan. -/
def largestOrder : CreatePaymentRequest :=
  { tenYuanOnWechat with amount := ascii "92233720368547757.00" }

def largestNotice : Notification where
  id := ascii "N1"
  plain := Json.object [("out_trade_no", Json.text "o"), ("transaction_id", Json.text "T"),
    ("trade_state", Json.text "SUCCESS"),
    ("amount", Json.object [("total", .int 9223372036854775700)])]
  bodyHash := []

/-- The order is paid, and two refunds of all of it are booked, each in a spelling
of its own. -/
def refundedTwice : List PayEvent :=
  [.spawn (.createPayment largestOrder [] (drawn "p") 0)] ++ steps 0 4 1 ++
    [.answer 0 codeUrl] ++ steps 0 2 1 ++
    [.spawn (.paymentNotification largestNotice (drawn "k1"))] ++ steps 1 11 2 ++
    [.spawn (.createRefund (refundOf "r" "92233720368547757") [] (drawn "u"))] ++ steps 2 10 3 ++
    [.spawn (.createRefund (refundOf "q" "92233720368547757.0") [] (drawn "v"))] ++ steps 3 10 4

theorem refund_comparison_wraps :
    (¬ ∀ (cfg : Config) (c : RefundCase) (orderAmount sumText : Bytes) (refundedFen : Nat),
      refundAmounts c.amount orderAmount = .ok (c.refundFen, c.totalFen) →
        PayUtils.parseAmountToFen sumText = some refundedFen →
          ComparesExactly cfg c sumText refundedFen) ∧
    ∃ s, PayRun shop (fun _ _ => True) refundedTwice s ∧ orderIs s.db "o" .PAID = true ∧
      refundIs s.db "r" .REFUND_INIT = true ∧ refundIs s.db "q" .REFUND_INIT = true := by
  constructor
  · intro claim
    have whole : PayUtils.parseAmountToFen (ascii "92233720368547757.0") =
        some 9223372036854775700 := by decide +kernel
    have exactly := claim shop
      ⟨refundOf "q" "92233720368547757.0", ascii "q", ascii "#p", 9223372036854775700,
        9223372036854775700, ascii "CNY"⟩ _ _ _
      (refundAmounts_ok_iff.mpr ⟨whole, whole, by decide, by decide⟩) whole
    exact absurd exactly.truth (by decide +kernel)
  · obtain ⟨s, run, holds⟩ := replay_run (fun _ _ => true) refundedTwice
      (fun s => orderIs s.db "o" .PAID && (refundIs s.db "r" .REFUND_INIT &&
        refundIs s.db "q" .REFUND_INIT)) (by decide +kernel)
    simp only [Bool.and_eq_true] at holds
    exact ⟨s, run.mono fun _ _ _ => trivial, holds⟩

end DrogonPay
