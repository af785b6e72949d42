import DrogonPay.Decimal.Text
import Mathlib.Data.Nat.Digits.Defs

/-!
Contract: hexadecimal numbers as byte texts.

Owns:
- `Hex.value` and `Hex.Spells`, the number a text spells in either letter case
  and with any leading zeros;
- `Hex.canonical`, the upper-case spelling without leading zeros;
- `Hex.canonical_eq_iff`: two spellings have one canonical form exactly when
  they spell one number;
- `Hex.spells_decimal_large`: from ten on, the decimal spelling of a number is
  the hexadecimal spelling of another one.

Does not own: what the numbers stand for.
-/

namespace DrogonPay
namespace Hex

/-- `std::toupper` of the C locale. -/
def upper (b : UInt8) : UInt8 := if 97 ≤ b && b ≤ 122 then b - 32 else b

/-- The value of a digit; bytes that are no digit count as zero. -/
def digitValue (b : UInt8) : Nat :=
  if 48 ≤ b && b ≤ 57 then b.toNat - 48
  else if 65 ≤ b && b ≤ 70 then b.toNat - 55
  else if 97 ≤ b && b ≤ 102 then b.toNat - 87
  else 0

def isDigit (b : UInt8) : Bool :=
  48 ≤ b && b ≤ 57 || 65 ≤ b && b ≤ 70 || 97 ≤ b && b ≤ 102

/-- The upper-case digit of a value below sixteen. -/
def digit (n : Nat) : UInt8 := if n < 10 then UInt8.ofNat (48 + n) else UInt8.ofNat (55 + n)

def value (text : Bytes) : Nat := Nat.ofDigits 16 (text.reverse.map digitValue)

/-- The text is a hexadecimal spelling of `n`. -/
def Spells (text : Bytes) (n : Nat) : Prop :=
  text ≠ [] ∧ (∀ b ∈ text, isDigit b = true) ∧ value text = n

/-- The text without its leading zeros. -/
def strip (text : Bytes) : Bytes :=
  match text.dropWhile (· = 48) with
  | [] => [48]
  | rest => rest

def canonical (text : Bytes) : Bytes := strip (text.map upper)

/-- The canonical spelling of a number. -/
def natText (n : Nat) : Bytes := strip ((Nat.digits 16 n).reverse.map digit)

/-! ## Digits -/

/-- A fact about bytes is a fact about the numbers below 256. -/
theorem forall_bytes {P : UInt8 → Prop} (each : ∀ n < 256, P (UInt8.ofNat n))
    (b : UInt8) : P b := by
  have here := each b.toNat (UInt8.toNat_lt b)
  rwa [UInt8.ofNat_toNat] at here

theorem isDigit_upper (b : UInt8) : isDigit b = true → isDigit (upper b) = true :=
  forall_bytes (P := fun b => isDigit b = true → isDigit (upper b) = true) (by decide +kernel) b

theorem digitValue_upper (b : UInt8) : isDigit b = true → digitValue (upper b) = digitValue b :=
  forall_bytes (P := fun b => isDigit b = true → digitValue (upper b) = digitValue b)
    (by decide +kernel) b

theorem digitValue_lt (b : UInt8) : digitValue b < 16 :=
  forall_bytes (P := fun b => digitValue b < 16) (by decide +kernel) b

/-- An upper-case digit is determined by its value. -/
theorem digit_digitValue (b : UInt8) : isDigit b = true → digit (digitValue b) = upper b :=
  forall_bytes (P := fun b => isDigit b = true → digit (digitValue b) = upper b)
    (by decide +kernel) b

theorem upper_upper (b : UInt8) : upper (upper b) = upper b :=
  forall_bytes (P := fun b => upper (upper b) = upper b) (by decide +kernel) b

theorem digitValue_eq_zero (b : UInt8) : isDigit b = true → (digitValue b = 0 ↔ b = 48) :=
  forall_bytes (P := fun b => isDigit b = true → (digitValue b = 0 ↔ b = 48))
    (by decide +kernel) b

theorem isDigit_digit : ∀ n < 16, isDigit (digit n) = true := by decide

theorem digitValue_digit : ∀ n < 16, digitValue (digit n) = n := by decide

/-- A decimal digit is a hexadecimal one of the same value. -/
theorem digitValue_decimal (n : Nat) : digitValue (Decimal.digit n) = n % 10 := by
  have small := Decimal.isDigit_digit n
  simp only [Decimal.isDigit, Bool.and_eq_true, decide_eq_true_eq] at small
  simp [digitValue, small.1, small.2, Decimal.digit_toNat]

/-! ## Values -/

@[simp] theorem value_nil : value [] = 0 := rfl

theorem value_snoc (text : Bytes) (b : UInt8) :
    value (text ++ [b]) = digitValue b + 16 * value text := by
  simp [value, Nat.ofDigits_cons]

theorem value_cons (b : UInt8) (text : Bytes) :
    value (b :: text) = value text + 16 ^ text.length * digitValue b := by
  simp [value, Nat.ofDigits_append]

theorem value_strip (text : Bytes) : value (strip text) = value text := by
  have dropped : value (text.dropWhile (· = 48)) = value text := by
    induction text with
    | nil => rfl
    | cons head tail inductionHypothesis =>
        by_cases zero : head = 48
        · rw [List.dropWhile_cons_of_pos (by simpa using zero), inductionHypothesis, value_cons,
            zero]
          simp [digitValue]
        · rw [List.dropWhile_cons_of_neg (by simpa using zero)]
  rw [← dropped, strip]
  split
  · rename_i isNil
    rw [isNil]
    rfl
  · rfl

theorem value_upper {text : Bytes} (digits : ∀ b ∈ text, isDigit b = true) :
    value (text.map upper) = value text := by
  have same : (text.map upper).reverse.map digitValue = text.reverse.map digitValue := by
    rw [← List.map_reverse, List.map_map]
    refine List.map_congr_left fun b member => digitValue_upper b (digits b ?_)
    exact List.mem_reverse.mp member
  rw [value, value, same]

theorem value_canonical {text : Bytes} (digits : ∀ b ∈ text, isDigit b = true) :
    value (canonical text) = value text := by
  rw [canonical, value_strip, value_upper digits]

/-! ## Canonical spellings -/

/-- A canonical text: upper-case digits, the first of which is zero only alone. -/
private def IsCanonical (text : Bytes) : Prop :=
  (∀ b ∈ text, isDigit b = true ∧ upper b = b) ∧
    (text = [48] ∨ ∃ head tail, text = head :: tail ∧ head ≠ 48)

private theorem isCanonical_strip {text : Bytes}
    (digits : ∀ b ∈ text, isDigit b = true ∧ upper b = b) : IsCanonical (strip text) := by
  have subset := (List.dropWhile_sublist (fun b : UInt8 => decide (b = 48)) (l := text)).subset
  have first := List.head?_dropWhile_not (fun b : UInt8 => decide (b = 48)) text
  rw [strip]
  cases rest : text.dropWhile (· = 48) with
  | nil =>
      refine ⟨fun b member => ?_, Or.inl rfl⟩
      obtain rfl := List.mem_singleton.mp member
      exact ⟨rfl, rfl⟩
  | cons head tail =>
      rw [rest] at first subset
      refine ⟨fun b member => digits b (subset member), Or.inr ⟨head, tail, rfl, ?_⟩⟩
      simpa using first

private theorem isCanonical_canonical {text : Bytes} (digits : ∀ b ∈ text, isDigit b = true) :
    IsCanonical (canonical text) := by
  refine isCanonical_strip fun b member => ?_
  obtain ⟨raw, isRaw, rfl⟩ := List.mem_map.mp member
  exact ⟨isDigit_upper raw (digits raw isRaw), upper_upper raw⟩

/-- The digits of a canonical text that is not the single zero. -/
private theorem digits_of_isCanonical {text : Bytes} (isCanonical : IsCanonical text)
    (notZero : text ≠ [48]) : Nat.digits 16 (value text) = text.reverse.map digitValue := by
  obtain ⟨digits, zero | ⟨head, tail, rfl, headNotZero⟩⟩ := isCanonical
  · exact absurd zero notZero
  · refine Nat.digits_ofDigits 16 (by decide) _ ?_ ?_
    · intro d member
      obtain ⟨b, _, rfl⟩ := List.mem_map.mp member
      exact digitValue_lt b
    · intro _
      have headDigit := (digits head (by simp)).1
      simpa using fun isZero => headNotZero ((digitValue_eq_zero head headDigit).mp isZero)

/-- A canonical text is read off its value. -/
private theorem text_of_isCanonical {text : Bytes} (isCanonical : IsCanonical text)
    (notZero : text ≠ [48]) : text = ((Nat.digits 16 (value text)).map digit).reverse := by
  rw [digits_of_isCanonical isCanonical notZero, List.map_map, ← List.map_reverse,
    List.reverse_reverse]
  conv_lhs => rw [← List.map_id text]
  refine List.map_congr_left fun b member => ?_
  obtain ⟨isDigit, isUpper⟩ := isCanonical.1 b member
  simp [digit_digitValue b isDigit, isUpper]

/-- Only the single zero is a canonical spelling of zero. -/
private theorem value_ne_zero_of_isCanonical {text : Bytes} (isCanonical : IsCanonical text)
    (notZero : text ≠ [48]) : value text ≠ 0 := by
  intro isZero
  have isText := text_of_isCanonical isCanonical notZero
  rw [isZero] at isText
  rcases isCanonical.2 with zero | ⟨head, tail, rfl, _⟩
  · exact notZero zero
  · simp at isText

private theorem isCanonical_injective {left right : Bytes} (isLeft : IsCanonical left)
    (isRight : IsCanonical right) (same : value left = value right) : left = right := by
  by_cases leftZero : left = [48]
  · by_cases rightZero : right = [48]
    · rw [leftZero, rightZero]
    · have notZero := value_ne_zero_of_isCanonical isRight rightZero
      rw [← same, leftZero] at notZero
      exact absurd rfl notZero
  · have rightNotZero : right ≠ [48] := by
      rintro rfl
      exact value_ne_zero_of_isCanonical isLeft leftZero same
    rw [text_of_isCanonical isLeft leftZero, text_of_isCanonical isRight rightNotZero, same]

/-- Two spellings have one canonical form exactly when they spell one number. -/
theorem canonical_eq_iff {left right : Bytes} {m n : Nat} (spellsLeft : Spells left m)
    (spellsRight : Spells right n) : canonical left = canonical right ↔ m = n := by
  obtain ⟨_, leftDigits, rfl⟩ := spellsLeft
  obtain ⟨_, rightDigits, rfl⟩ := spellsRight
  constructor
  · intro same
    rw [← value_canonical leftDigits, same, value_canonical rightDigits]
  · intro same
    refine isCanonical_injective (isCanonical_canonical leftDigits)
      (isCanonical_canonical rightDigits) ?_
    rw [value_canonical leftDigits, value_canonical rightDigits, same]

/-- A canonical form of a spelling consists of digits. -/
theorem isDigit_of_mem_canonical {text : Bytes} {n : Nat} {b : UInt8} (spells : Spells text n)
    (member : b ∈ canonical text) : isDigit b = true :=
  ((isCanonical_canonical spells.2.1).1 b member).1

/-- Every number has a spelling. -/
theorem spells_natText (n : Nat) : Spells (natText n) n := by
  have digits : ∀ b ∈ (Nat.digits 16 n).reverse.map digit, isDigit b = true ∧ upper b = b := by
    intro b member
    obtain ⟨d, isDigit, rfl⟩ := List.mem_map.mp member
    have small := Nat.digits_lt_base (by decide) (List.mem_reverse.mp isDigit)
    refine ⟨isDigit_digit d small, ?_⟩
    rw [← digit_digitValue _ (isDigit_digit d small), digitValue_digit d small]
  have isCanonical := isCanonical_strip digits
  refine ⟨?_, fun b member => (isCanonical.1 b member).1, ?_⟩
  · rcases isCanonical.2 with zero | ⟨head, tail, isText, _⟩
    · rw [natText, zero]
      simp
    · rw [natText, isText]
      simp
  · have same : ((Nat.digits 16 n).map digit).map digitValue = Nat.digits 16 n := by
      rw [List.map_map]
      conv_rhs => rw [← List.map_id (Nat.digits 16 n)]
      refine List.map_congr_left fun d member => ?_
      exact digitValue_digit d (Nat.digits_lt_base (by decide) member)
    rw [natText, value_strip, value, ← List.map_reverse, List.reverse_reverse, same,
      Nat.ofDigits_digits]

/-! ## Decimal spellings read as hexadecimal ones -/

theorem isDigit_of_mem_decimal {n : Nat} {b : UInt8} (member : b ∈ Decimal.natText n) :
    isDigit b = true := by
  have small := Decimal.isDigit_of_mem_natText member
  simp only [Decimal.isDigit, Bool.and_eq_true, decide_eq_true_eq] at small
  simp [isDigit, small.1, small.2]

/-- Read as a hexadecimal text, a decimal one is worth no less. -/
theorem le_value_decimal (n : Nat) : n ≤ value (Decimal.natText n) := by
  induction n using Nat.strongRecOn with
  | _ n inductionHypothesis =>
      by_cases small : n < 10
      · rw [Decimal.natText_small small]
        simp [value, digitValue_decimal, Nat.mod_eq_of_lt small]
      · have front := inductionHypothesis (n / 10) (by omega)
        rw [Decimal.natText_step (by omega), value_snoc, digitValue_decimal]
        omega

/-- A single digit spells one number either way. -/
theorem spells_decimal_small {n : Nat} (small : n < 10) : Spells (Decimal.natText n) n := by
  refine ⟨Decimal.natText_ne_nil n, fun b member => isDigit_of_mem_decimal member, ?_⟩
  rw [Decimal.natText_small small]
  simp [value, digitValue_decimal, Nat.mod_eq_of_lt small]

/-- From ten on, the decimal spelling of a number is the hexadecimal spelling of
another one. -/
theorem spells_decimal_large {n : Nat} (large : 10 ≤ n) :
    ∃ m, m ≠ n ∧ Spells (Decimal.natText n) m := by
  refine ⟨value (Decimal.natText n), ?_, Decimal.natText_ne_nil n,
    fun b member => isDigit_of_mem_decimal member, rfl⟩
  have front := le_value_decimal (n / 10)
  rw [Decimal.natText_step large, value_snoc, digitValue_decimal]
  omega

end Hex
end DrogonPay
