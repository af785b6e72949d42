import DrogonPay.Services.Refund
import Mathlib.Tactic.FieldSimp
import Mathlib.Tactic.Ring

/-!
Contract: amounts are read exactly.

Owns:
- `AmountText`, the spellings of an amount, and `ParsesExactly`, what
  `parseAmountToFen` makes of every byte string;
- `refund_sum_read_back`: the text of a NUMERIC sum of refunds is read back as the
  sum of their fen, or not at all.

Does not own: which amounts are compared.
-/

namespace DrogonPay.PayUtils

/-! ## One amount -/

/-- The text spells an amount with this yuan part and these cents. -/
inductive AmountText : Bytes → Bytes → Bytes → Prop where
  | plain {yuan : Bytes} (digits : ∀ b ∈ yuan, Decimal.isDigit b = true) :
      AmountText yuan yuan []
  | pointed {yuan cents : Bytes} (digits : ∀ b ∈ yuan, Decimal.isDigit b = true)
      (centDigits : ∀ b ∈ cents, Decimal.isDigit b = true) (short : cents.length ≤ 2) :
      AmountText (yuan ++ Decimal.point :: cents) yuan cents

/-- The number a yuan part and cents spell. -/
def spelledYuan (yuan cents : Bytes) : ℚ :=
  Decimal.value yuan + Decimal.value cents / 10 ^ cents.length

def FitsInt64 (n : Int) : Prop := -2 ^ 63 ≤ n ∧ n ≤ 2 ^ 63 - 1

/-- What a call of `parseAmountToFen` does, with `fen` in the out-parameter. -/
structure ParsesExactly (amount : Bytes) (fen : Int) : Prop where
  accepts : (parseAmountToFenInto amount fen).1 = true ↔
    amount ≠ [] ∧ ∃ yuan cents, AmountText amount yuan cents ∧
      Decimal.value yuan ≤ (2 ^ 63 - 1 - 99) / 100
  exact : ∀ yuan cents, AmountText amount yuan cents →
    (parseAmountToFenInto amount fen).1 = true →
      ((parseAmountToFenInto amount fen).2 : ℚ) = 100 * spelledYuan yuan cents
  range : (parseAmountToFenInto amount fen).1 = true →
    0 ≤ (parseAmountToFenInto amount fen).2 ∧ (parseAmountToFenInto amount fen).2 ≤ 2 ^ 63 - 1
  noOverflow : ∀ yuan cents, AmountText amount yuan cents →
    (parseAmountToFenInto amount fen).1 = true →
      FitsInt64 (Decimal.value yuan) ∧ FitsInt64 (Decimal.value yuan * 100) ∧
        FitsInt64 (Decimal.value yuan * 100 + Decimal.value (padCents cents))
  keeps : (parseAmountToFenInto amount fen).1 = false → (parseAmountToFenInto amount fen).2 = fen

theorem AmountText.digits {amount yuan cents : Bytes} (spells : AmountText amount yuan cents) :
    ∀ b ∈ yuan, Decimal.isDigit b = true := by
  cases spells with
  | plain digits => exact digits
  | pointed digits _ _ => exact digits

theorem AmountText.centDigits {amount yuan cents : Bytes} (spells : AmountText amount yuan cents) :
    ∀ b ∈ cents, Decimal.isDigit b = true := by
  cases spells with
  | plain _ => simp
  | pointed _ centDigits _ => exact centDigits

theorem AmountText.short {amount yuan cents : Bytes} (spells : AmountText amount yuan cents) :
    cents.length ≤ 2 := by
  cases spells with
  | plain _ => simp
  | pointed _ _ short => exact short

theorem AmountText.whole {amount yuan cents : Bytes} (spells : AmountText amount yuan cents) :
    Decimal.whole amount = yuan := by
  cases spells with
  | plain digits => exact Decimal.whole_digits digits
  | pointed digits _ _ => exact Decimal.whole_point digits

/-- The cents of a text without a point are read as `00`. -/
theorem AmountText.centPart {amount yuan cents : Bytes} (spells : AmountText amount yuan cents) :
    PayUtils.centPart amount = cents ∨ PayUtils.centPart amount = ascii "00" ∧ cents = [] := by
  cases spells with
  | plain digits =>
      exact Or.inr ⟨by rw [PayUtils.centPart, Decimal.fraction?_digits digits]; rfl, rfl⟩
  | pointed digits _ _ =>
      exact Or.inl (by rw [PayUtils.centPart, Decimal.fraction?_point digits]; rfl)

/-- A text splits at its first point. -/
theorem whole_append_fraction (amount : Bytes) :
    amount = Decimal.whole amount ∨
      ∃ cents, Decimal.fraction? amount = some cents ∧
        amount = Decimal.whole amount ++ Decimal.point :: cents := by
  have split := List.takeWhile_append_dropWhile (p := (· != Decimal.point)) (l := amount)
  unfold Decimal.whole Decimal.fraction?
  cases rest : amount.dropWhile (· != Decimal.point) with
  | nil =>
      rw [rest, List.append_nil] at split
      exact Or.inl split.symm
  | cons first cents =>
      have stops := List.head?_dropWhile_not (· != Decimal.point) amount
      rw [rest] at stops
      have isPoint : first = Decimal.point := by simpa using stops
      rw [rest, isPoint] at split
      exact Or.inr ⟨cents, rfl, split.symm⟩

/-- An amount that parses is spelled by its own parts. -/
theorem amountText_of_parts {amount : Bytes}
    (digits : (Decimal.whole amount).all Decimal.isDigit = true)
    (centDigits : (centPart amount).all Decimal.isDigit = true)
    (short : (centPart amount).length ≤ 2) :
    ∃ cents, AmountText amount (Decimal.whole amount) cents := by
  rw [List.all_eq_true] at digits
  rcases whole_append_fraction amount with plain | ⟨cents, isFraction, pointed⟩
  · refine ⟨[], ?_⟩
    have spelled := AmountText.plain digits
    rwa [← plain] at spelled ⊢
  · have isCents : centPart amount = cents := by rw [centPart, isFraction]; rfl
    rw [isCents] at centDigits short
    refine ⟨cents, ?_⟩
    have spelled := AmountText.pointed digits (List.all_eq_true.mp centDigits) short
    rwa [← pointed] at spelled

/-- The cents count hundredths, with one digit or two. -/
theorem hundredths_of_cents {amount yuan cents : Bytes} (spells : AmountText amount yuan cents) :
    Decimal.value (centPart amount) * 10 ^ (2 - (centPart amount).length) =
      Decimal.value (padCents cents) := by
  have zero : Decimal.value (ascii "00") = 0 := by decide
  rcases spells.centPart with same | ⟨none, empty⟩
  · rw [same]
    match cents, spells.short with
    | [], _ => decide
    | [b], _ =>
        have pads : padCents [b] = [b] ++ ascii "0" := rfl
        rw [pads, Decimal.value_append]
        rfl
    | [b, c], _ =>
        have pads : padCents [b, c] = [b, c] := rfl
        rw [pads]
        simp
    | _ :: _ :: _ :: _, tooLong => simp at tooLong
  · rw [none, empty, zero]
    decide

theorem parseAmountToFen_spelled {amount yuan cents : Bytes}
    (spells : AmountText amount yuan cents) {fen : Nat} :
    parseAmountToFen amount = some fen ↔ amount ≠ [] ∧ Decimal.value yuan ≤ maxYuan ∧
      fen = Decimal.value yuan * 100 + Decimal.value (padCents cents) := by
  have centDigits : (centPart amount).all Decimal.isDigit = true := by
    rcases spells.centPart with same | ⟨none, _⟩
    · rw [same, List.all_eq_true]
      exact spells.centDigits
    · rw [none]
      decide
  have short : (centPart amount).length ≤ 2 := by
    rcases spells.centPart with same | ⟨none, _⟩
    · rw [same]
      exact spells.short
    · rw [none]
      decide
  rw [parseAmountToFen_eq_some_iff, hundredths_of_cents spells, spells.whole]
  have digits : yuan.all Decimal.isDigit = true := List.all_eq_true.mpr spells.digits
  simp only [digits, centDigits, short, true_and]

/-- The cents of a spelled amount are at most 99. -/
theorem value_padCents_le {amount yuan cents : Bytes} (spells : AmountText amount yuan cents) :
    Decimal.value (padCents cents) ≤ 99 := by
  have digit : ∀ b ∈ cents, b.toNat - 48 ≤ 9 := fun b member =>
    digit_le (spells.centDigits b member)
  match cents, spells.short with
  | [], _ => decide
  | [b], _ =>
      have small := digit b (by simp)
      have spelled : Decimal.value (padCents [b]) = 10 * (b.toNat - 48) := by
        simp [padCents, ascii, Decimal.value]
      omega
  | [b, c], _ =>
      have smallB := digit b (by simp)
      have smallC := digit c (by simp)
      have spelled : Decimal.value (padCents [b, c]) = 10 * (b.toNat - 48) + (c.toNat - 48) := by
        simp [padCents, Decimal.value]
      omega
  | _ :: _ :: _ :: _, tooLong => simp at tooLong

theorem spelledYuan_eq {amount yuan cents : Bytes} (spells : AmountText amount yuan cents) :
    ((Decimal.value yuan * 100 + Decimal.value (padCents cents) : Nat) : ℚ) =
      100 * spelledYuan yuan cents := by
  match cents, spells.short with
  | [], _ =>
      have zero : Decimal.value (padCents []) = 0 := by decide
      have none : Decimal.value [] = 0 := rfl
      simp [spelledYuan, zero, none, mul_comm]
  | [b], _ =>
      have pads : Decimal.value (padCents [b]) = Decimal.value [b] * 10 := by
        have appended : padCents [b] = [b] ++ ascii "0" := rfl
        rw [appended, Decimal.value_append]
        rfl
      rw [pads, spelledYuan]
      push_cast
      simp only [List.length_singleton, pow_one]
      ring
  | [b, c], _ =>
      have pads : padCents [b, c] = [b, c] := rfl
      rw [pads, spelledYuan]
      push_cast
      simp only [List.length_cons, List.length_nil]
      ring
  | _ :: _ :: _ :: _, tooLong => simp at tooLong

/-- Two digits of cents count at most 99. -/
theorem stoll_cents_le {centText : Bytes} {cents : Nat}
    (digits : centText.all Decimal.isDigit = true) (short : centText.length ≤ 2)
    (read : stoll (padCents centText) = some cents) : cents ≤ 99 := by
  have spells : AmountText (Decimal.point :: centText) [] centText :=
    @AmountText.pointed [] centText nofun (List.all_eq_true.mp digits) short
  have isValue : cents = Decimal.value (padCents centText) := by
    unfold stoll at read
    split at read
    · exact (Option.some.inj read).symm
    · cases read
  rw [isValue]
  exact value_padCents_le spells

/-- A product and a sum below `2 ^ 63` are those of the integers. -/
theorem addInt64_mulInt64 {yuan cents : Nat} (small : yuan ≤ maxYuan) (short : cents ≤ 99) :
    addInt64 (mulInt64 yuan 100) cents = ((yuan * 100 + cents : Nat) : Int) := by
  have bound : maxYuan = 92233720368547757 := by decide
  have exact64 : ∀ n : Int, 0 ≤ n → n < 2 ^ 63 → n.bmod (2 ^ 64) = n := by
    intro n nonneg below
    exact Int.bmod_eq_of_le (by omega) (by omega)
  rw [mulInt64, exact64 _ (by omega) (by omega), addInt64, exact64 _ (by omega) (by omega)]
  push_cast
  rfl

/-- The function with its out-parameter is the one that the rest of the model
uses. -/
theorem parseAmountToFenInto_eq (amount : Bytes) (fen : Int) :
    parseAmountToFenInto amount fen =
      match parseAmountToFen amount with
      | some parsed => (true, (parsed : Int))
      | none => (false, fen) := by
  unfold parseAmountToFenInto parseAmountToFen
  by_cases empty : amount.isEmpty = true
  · simp only [empty, ↓reduceIte]
  by_cases digits : (yuanPart amount).all Decimal.isDigit = true
  swap
  · simp only [empty, digits, Bool.not_false, Bool.false_eq_true, ↓reduceIte]
  by_cases centDigits : (centPart amount).all Decimal.isDigit = true
  swap
  · simp only [empty, digits, centDigits, Bool.not_false, Bool.not_true, Bool.false_eq_true,
      ↓reduceIte]
  by_cases long : (centPart amount).length > 2
  · simp only [empty, digits, centDigits, long, Bool.not_true, Bool.false_eq_true, ↓reduceIte]
  simp only [empty, digits, centDigits, long, Bool.not_true, Bool.false_eq_true, ↓reduceIte]
  cases isYuan : stoll (yuanPart amount) with
  | none => rfl
  | some yuan =>
      cases isCents : stoll (padCents (centPart amount)) with
      | none => rfl
      | some cents =>
          by_cases large : yuan > maxYuan
          · simp only [large, ↓reduceIte]
          · simp only [large, ↓reduceIte]
            rw [addInt64_mulInt64 (Nat.le_of_not_lt large) (stoll_cents_le centDigits ?_ isCents)]
            exact Nat.le_of_not_lt long

theorem parseAmountToFen_exact (amount : Bytes) (fen : Int) : ParsesExactly amount fen := by
  have bound : maxYuan = (2 ^ 63 - 1 - 99) / 100 := by decide
  have isBound : maxYuan = 92233720368547757 := by decide
  have accepted : ∀ yuan cents, AmountText amount yuan cents →
      (parseAmountToFenInto amount fen).1 = true →
        Decimal.value yuan ≤ maxYuan ∧ (parseAmountToFenInto amount fen).2 =
          ((Decimal.value yuan * 100 + Decimal.value (padCents cents) : Nat) : Int) := by
    intro yuan cents spells
    rw [parseAmountToFenInto_eq]
    cases parsed : parseAmountToFen amount with
    | none => exact nofun
    | some total =>
        intro _
        obtain ⟨_, small, rfl⟩ := (parseAmountToFen_spelled spells).mp parsed
        exact ⟨small, rfl⟩
  have spelled : (parseAmountToFenInto amount fen).1 = true →
      amount ≠ [] ∧ ∃ yuan cents, AmountText amount yuan cents := by
    rw [parseAmountToFenInto_eq]
    cases parsed : parseAmountToFen amount with
    | none => exact nofun
    | some total =>
        intro _
        obtain ⟨nonempty, digits, centDigits, short, _, _⟩ :=
          parseAmountToFen_eq_some_iff.mp parsed
        exact ⟨nonempty, _, amountText_of_parts digits centDigits short⟩
  refine ⟨⟨fun success => ?_, ?_⟩, fun yuan cents spells success => ?_, fun success => ?_,
    fun yuan cents spells success => ?_, ?_⟩
  · obtain ⟨nonempty, yuan, cents, spells⟩ := spelled success
    exact ⟨nonempty, yuan, cents, spells, bound ▸ (accepted yuan cents spells success).1⟩
  · rintro ⟨nonempty, yuan, cents, spells, small⟩
    have parsed := (parseAmountToFen_spelled spells).mpr ⟨nonempty, bound ▸ small, rfl⟩
    rw [parseAmountToFenInto_eq, parsed]
  · rw [(accepted yuan cents spells success).2, Int.cast_natCast, spelledYuan_eq spells]
  · obtain ⟨_, yuan, cents, spells⟩ := spelled success
    obtain ⟨small, isFen⟩ := accepted yuan cents spells success
    have short := value_padCents_le spells
    rw [isFen]
    omega
  · obtain ⟨small, _⟩ := accepted yuan cents spells success
    have short := value_padCents_le spells
    simp only [FitsInt64]
    omega
  · rw [parseAmountToFenInto_eq]
    cases parseAmountToFen amount with
    | none => exact fun _ => rfl
    | some total => exact nofun

end DrogonPay.PayUtils

/-! ## Sums of refunds -/

namespace DrogonPay.RefundService

/-- The amounts `createRefund` admits, for some order. -/
def AdmitsAmount (amount : Bytes) : Prop :=
  ∃ orderAmount fens, refundAmounts amount orderAmount = .ok fens

theorem AdmitsAmount.positive {amount : Bytes} (admits : AdmitsAmount amount) :
    ∃ fen, PayUtils.parseAmountToFen amount = some fen ∧ 0 < fen := by
  obtain ⟨orderAmount, fens, accepted⟩ := admits
  unfold refundAmounts at accepted
  split at accepted
  · rename_i refundFen totalFen isRefund _
    split at accepted
    · cases accepted
    · rename_i valid
      exact ⟨refundFen, isRefund, by omega⟩
  · cases accepted

/-- Every positive amount is a NUMERIC literal of its fen. -/
theorem cast_positive {amounts : List Bytes}
    (positive : ∀ amount ∈ amounts, ∃ fen, PayUtils.parseAmountToFen amount = some fen ∧ 0 < fen) :
    ∃ terms : List Decimal, amounts.mapM Decimal.cast = some terms ∧ (∀ d ∈ terms, d.scale ≤ 2) ∧
      terms.map (Decimal.units 2) = amounts.map PayUtils.fenOf := by
  induction amounts with
  | nil => exact ⟨[], rfl, by simp, rfl⟩
  | cons amount rest inductionHypothesis =>
      obtain ⟨fen, parsed, some⟩ := positive amount (by simp)
      obtain ⟨d, isCast, scale, units⟩ := PayUtils.cast_of_parse parsed some
      obtain ⟨terms, casts, scales, total⟩ :=
        inductionHypothesis fun other member => positive other (by simp [member])
      refine ⟨d :: terms, ?_, ?_, ?_⟩
      · simp [List.mapM_cons, isCast, casts]
      · intro term member
        rcases List.mem_cons.mp member with rfl | later
        · exact scale
        · exact scales term later
      · rw [List.map_cons, List.map_cons, units, total, PayUtils.fenOf_eq parsed]

/-- A sum of positive amounts is text of their fen. -/
theorem parse_numericSum {amounts : List Bytes}
    (positive : ∀ amount ∈ amounts, ∃ fen, PayUtils.parseAmountToFen amount = some fen ∧ 0 < fen) :
    ∃ text, numericSum amounts = some text ∧
      PayUtils.parseAmountToFen text =
        if (amounts.map PayUtils.fenOf).sum / 100 ≤ PayUtils.maxYuan then
          some (amounts.map PayUtils.fenOf).sum
        else none := by
  obtain ⟨terms, casts, scales, units⟩ := cast_positive positive
  obtain ⟨scale, total⟩ := Decimal.sum_exact scales
  rw [units] at total
  refine ⟨(Decimal.sum terms).text, by rw [numericSum, casts, Option.map_some], ?_⟩
  rw [PayUtils.parseAmountToFen_text scale, total]
  -- the yuan part of the text is the whole hundreds of the sum
  have yuan : (Decimal.sum terms).coefficient / 10 ^ (Decimal.sum terms).scale =
      (amounts.map PayUtils.fenOf).sum / 100 := by
    rw [← total, Decimal.units]
    have hundred : 100 = 10 ^ (Decimal.sum terms).scale * 10 ^ (2 - (Decimal.sum terms).scale) := by
      rw [← Nat.pow_add, Nat.add_sub_cancel' scale]
    rw [hundred, Nat.mul_div_mul_right _ _ (Nat.pow_pos (by decide))]
  rw [yuan]

/-- The text of a sum of admitted amounts is read back as the sum of their fen,
and not at all when its yuan part is too large. -/
theorem refund_sum_read_back {amounts : List Bytes}
    (admitted : ∀ amount ∈ amounts, AdmitsAmount amount) :
    ∃ text, numericSum amounts = some text ∧
      PayUtils.parseAmountToFen text =
        if (amounts.map PayUtils.fenOf).sum / 100 ≤ (2 ^ 63 - 1 - 99) / 100 then
          some (amounts.map PayUtils.fenOf).sum
        else none :=
  parse_numericSum fun amount member => (admitted amount member).positive

/-- One yuan, one and a half, and a half. -/
def mixedSpellings : List Bytes := [ascii "1", ascii "1.5", ascii ".50"]

theorem refund_sum_of_mixed_spellings :
    ∃ text, numericSum mixedSpellings = some text ∧
      PayUtils.parseAmountToFen text = some 300 := by
  have admitted : ∀ amount ∈ mixedSpellings, AdmitsAmount amount := by
    simp only [mixedSpellings, List.forall_mem_cons, List.not_mem_nil, false_imp_iff, implies_true,
      and_true]
    exact ⟨⟨ascii "9", (100, 900), rfl⟩, ⟨ascii "9", (150, 900), rfl⟩, ⟨ascii "9", (50, 900), rfl⟩⟩
  obtain ⟨text, isSum, parsed⟩ := refund_sum_read_back admitted
  refine ⟨text, isSum, parsed.trans ?_⟩
  decide +kernel

end DrogonPay.RefundService
