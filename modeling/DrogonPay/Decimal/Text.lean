import Mathlib.Data.List.Induction
import Mathlib.Data.List.TakeWhile
import Mathlib.Tactic.NormNum

/-!
Contract: decimal numbers as byte texts.

Owns:
- `Bytes` and the digits of a text, with the number they spell;
- `natText` and `fixedText`, the canonical spellings;
- `Decimal`, exact decimals with a display scale, as SQL's NUMERIC keeps them:
  `cast` reads a literal, `sum` adds without rounding at the largest scale, and
  `text` renders.

Does not own: currencies or their units.
-/

namespace DrogonPay

/-- Byte strings. -/
abbrev Bytes := List UInt8

/-- The bytes of an ASCII literal. -/
def ascii (literal : String) : Bytes :=
  literal.toList.map fun c => c.toNat.toUInt8

namespace Decimal

def isDigit (b : UInt8) : Bool := 48 ≤ b && b ≤ 57

/-- The ASCII byte of the last decimal digit of `n`. -/
def digit (n : Nat) : UInt8 := UInt8.ofNat (48 + n % 10)

/-- The number a text of digits spells. -/
def value (text : Bytes) : Nat :=
  text.foldl (fun acc b => 10 * acc + (b.toNat - 48)) 0

/-- Exactly `width` digits, the last ones of `n`. -/
def fixedText : Nat → Nat → Bytes
  | 0, _ => []
  | width + 1, n => fixedText width (n / 10) ++ [digit n]

private def natTextCore : Nat → Nat → Bytes
  | 0, _ => []
  | fuel + 1, n => if n < 10 then [digit n] else natTextCore fuel (n / 10) ++ [digit n]

/-- The spelling of a natural number without leading zeros. -/
def natText (n : Nat) : Bytes := natTextCore (n + 1) n

/-! ## Digits and values -/

theorem digit_toNat (n : Nat) : (digit n).toNat = 48 + n % 10 := by
  have small : 48 + n % 10 < 2 ^ 8 := by omega
  rw [digit, UInt8.toNat_ofNat']
  exact Nat.mod_eq_of_lt small

theorem isDigit_digit (n : Nat) : isDigit (digit n) = true := by
  have small : n % 10 < 10 := Nat.mod_lt n (by decide)
  simp only [isDigit, Bool.and_eq_true, decide_eq_true_eq, UInt8.le_iff_toNat_le, digit_toNat]
  exact ⟨by simp, by simp; omega⟩

private theorem foldl_value (text : Bytes) (initial : Nat) :
    text.foldl (fun acc b => 10 * acc + (b.toNat - 48)) initial =
      initial * 10 ^ text.length + value text := by
  induction text generalizing initial with
  | nil => simp [value]
  | cons head tail inductionHypothesis =>
      simp only [value, List.foldl_cons, List.length_cons]
      rw [inductionHypothesis, inductionHypothesis (10 * 0 + (head.toNat - 48)), Nat.pow_succ]
      simp only [Nat.mul_zero, Nat.zero_add, Nat.add_mul]
      have scaled : 10 * initial * 10 ^ tail.length = initial * (10 ^ tail.length * 10) := by
        rw [Nat.mul_comm 10 initial, Nat.mul_assoc, Nat.mul_comm 10]
      omega

theorem value_append (left right : Bytes) :
    value (left ++ right) = value left * 10 ^ right.length + value right := by
  rw [value, List.foldl_append, foldl_value]
  rfl

theorem value_digit (n : Nat) : value [digit n] = n % 10 := by
  simp [value, digit_toNat]

theorem length_fixedText (width n : Nat) : (fixedText width n).length = width := by
  induction width generalizing n with
  | zero => rfl
  | succ width inductionHypothesis => simp [fixedText, inductionHypothesis]

theorem value_fixedText (width n : Nat) : value (fixedText width n) = n % 10 ^ width := by
  induction width generalizing n with
  | zero => simp [fixedText, value, Nat.mod_one]
  | succ width inductionHypothesis =>
      rw [fixedText, value_append, inductionHypothesis, value_digit, Nat.pow_succ',
        Nat.mod_mul]
      simp only [List.length_singleton, Nat.pow_one]
      omega

theorem isDigit_of_mem_fixedText {width n : Nat} {b : UInt8} (member : b ∈ fixedText width n) :
    isDigit b = true := by
  induction width generalizing n with
  | zero => exact absurd member List.not_mem_nil
  | succ width inductionHypothesis =>
      rcases List.mem_append.mp member with front | last
      · exact inductionHypothesis front
      · rw [List.mem_singleton.mp last]
        exact isDigit_digit n

theorem digit_of_isDigit {b : UInt8} (isDig : isDigit b = true) : digit (b.toNat - 48) = b := by
  simp only [isDigit, Bool.and_eq_true, decide_eq_true_eq, UInt8.le_iff_toNat_le] at isDig
  have lower : 48 ≤ b.toNat := isDig.1
  have upper : b.toNat ≤ 57 := isDig.2
  rw [← UInt8.toNat_inj, digit_toNat]
  omega

/-- Digits are the fixed spelling of their value. -/
theorem fixedText_value {text : Bytes} (digits : ∀ b ∈ text, isDigit b = true) :
    fixedText text.length (value text) = text := by
  induction text using List.reverseRecOn with
  | nil => rfl
  | append_singleton front b inductionHypothesis =>
      have isDig := digits b (by simp)
      have last : b.toNat - 48 < 10 := by
        simp only [isDigit, Bool.and_eq_true, decide_eq_true_eq, UInt8.le_iff_toNat_le] at isDig
        have upper : b.toNat ≤ 57 := isDig.2
        omega
      have spelled : value (front ++ [b]) = value front * 10 + (b.toNat - 48) := by
        rw [value_append]
        simp [value]
      have front' := inductionHypothesis fun c member => digits c (by simp [member])
      have tens : (value front * 10 + (b.toNat - 48)) / 10 = value front := by omega
      have ones : digit (value front * 10 + (b.toNat - 48)) = digit (b.toNat - 48) := by
        rw [digit, digit]
        congr 2
        omega
      rw [List.length_append, List.length_singleton, fixedText, spelled, tens, front', ones,
        digit_of_isDigit isDig]

theorem value_lt {text : Bytes} (digits : ∀ b ∈ text, isDigit b = true) :
    value text < 10 ^ text.length := by
  rw [← fixedText_value digits, value_fixedText, length_fixedText]
  exact Nat.mod_lt _ (Nat.pow_pos (by decide))

private theorem value_natTextCore {fuel n : Nat} (enough : n < fuel) :
    value (natTextCore fuel n) = n := by
  induction fuel generalizing n with
  | zero => omega
  | succ fuel inductionHypothesis =>
      by_cases small : n < 10
      · rw [natTextCore, if_pos small, value_digit, Nat.mod_eq_of_lt small]
      · rw [natTextCore, if_neg small, value_append, inductionHypothesis (by omega), value_digit]
        simp only [List.length_singleton, Nat.pow_one]
        omega

/-- A spelled number reads back. -/
theorem value_natText (n : Nat) : value (natText n) = n :=
  value_natTextCore (Nat.lt_succ_self n)

private theorem isDigit_of_mem_natTextCore {fuel n : Nat} {b : UInt8}
    (member : b ∈ natTextCore fuel n) : isDigit b = true := by
  induction fuel generalizing n with
  | zero => exact absurd member List.not_mem_nil
  | succ fuel inductionHypothesis =>
      by_cases small : n < 10
      · rw [natTextCore, if_pos small] at member
        rw [List.mem_singleton.mp member]
        exact isDigit_digit n
      · rw [natTextCore, if_neg small] at member
        rcases List.mem_append.mp member with front | last
        · exact inductionHypothesis front
        · rw [List.mem_singleton.mp last]
          exact isDigit_digit n

theorem isDigit_of_mem_natText {n : Nat} {b : UInt8} (member : b ∈ natText n) :
    isDigit b = true :=
  isDigit_of_mem_natTextCore member

private theorem natTextCore_fuel (fuel fuel' : Nat) {n : Nat} (enough : n < fuel)
    (enough' : n < fuel') : natTextCore fuel n = natTextCore fuel' n := by
  induction fuel generalizing fuel' n with
  | zero => omega
  | succ fuel inductionHypothesis =>
      cases fuel' with
      | zero => omega
      | succ fuel' =>
          by_cases small : n < 10
          · rw [natTextCore, natTextCore, if_pos small, if_pos small]
          · rw [natTextCore, natTextCore, if_neg small, if_neg small,
              inductionHypothesis fuel' (by omega) (by omega)]

theorem natText_small {n : Nat} (small : n < 10) : natText n = [digit n] := by
  rw [natText, natTextCore, if_pos small]

/-- The last digit of a longer spelling. -/
theorem natText_step {n : Nat} (large : 10 ≤ n) : natText n = natText (n / 10) ++ [digit n] := by
  rw [natText, natTextCore, if_neg (by omega), natText]
  rw [natTextCore_fuel n (n / 10 + 1) (by omega) (by omega)]

theorem natText_ne_nil (n : Nat) : natText n ≠ [] := by
  by_cases small : n < 10 <;> simp [natText, natTextCore, small]

/-! ## Splitting at the point -/

/-- The decimal point. -/
def point : UInt8 := 46

/-- The part before the first point. -/
def whole (text : Bytes) : Bytes := text.takeWhile (· != point)

/-- The part after the first point, if there is one. -/
def fraction? (text : Bytes) : Option Bytes :=
  match text.dropWhile (· != point) with
  | [] => none
  | _ :: rest => some rest

theorem ne_point_of_isDigit {b : UInt8} (isDig : isDigit b = true) : (b != point) = true := by
  rw [bne_iff_ne]
  rintro rfl
  exact absurd isDig (by decide)

theorem whole_digits {text : Bytes} (digits : ∀ b ∈ text, isDigit b = true) :
    whole text = text := by
  rw [whole, List.takeWhile_eq_self_iff]
  exact fun b member => ne_point_of_isDigit (digits b member)

theorem fraction?_digits {text : Bytes} (digits : ∀ b ∈ text, isDigit b = true) :
    fraction? text = none := by
  have dropped : text.dropWhile (· != point) = [] :=
    List.dropWhile_eq_nil_iff.mpr fun b member => ne_point_of_isDigit (digits b member)
  simp [fraction?, dropped]

theorem whole_point {front back : Bytes} (digits : ∀ b ∈ front, isDigit b = true) :
    whole (front ++ point :: back) = front := by
  rw [whole, List.takeWhile_append_of_pos fun b member => ne_point_of_isDigit (digits b member)]
  simp

theorem fraction?_point {front back : Bytes} (digits : ∀ b ∈ front, isDigit b = true) :
    fraction? (front ++ point :: back) = some back := by
  rw [fraction?, List.dropWhile_append_of_pos fun b member => ne_point_of_isDigit (digits b member)]
  simp

end Decimal

/-! ## Exact decimals -/

/-- The number `coefficient / 10 ^ scale`, displayed with `scale` fractional
digits. -/
structure Decimal where
  coefficient : Nat
  scale : Nat
deriving DecidableEq, Repr

namespace Decimal

/-- Read an unsigned decimal literal: digits with at most one point, and at
least one digit. -/
def cast (text : Bytes) : Option Decimal :=
  let front := whole text
  let back := (fraction? text).getD []
  if (front ++ back).all isDigit && !(front ++ back).isEmpty then
    some ⟨value (front ++ back), back.length⟩
  else none

/-- Exact addition, displayed at the larger scale. -/
def add (left right : Decimal) : Decimal :=
  let scale := max left.scale right.scale
  ⟨left.coefficient * 10 ^ (scale - left.scale) +
    right.coefficient * 10 ^ (scale - right.scale), scale⟩

/-- The exact sum of a list; zero when it is empty. -/
def sum (terms : List Decimal) : Decimal :=
  terms.foldl add ⟨0, 0⟩

/-- The decimal rendered with all its fractional digits. -/
def text (d : Decimal) : Bytes :=
  natText (d.coefficient / 10 ^ d.scale) ++
    if d.scale = 0 then [] else point :: fixedText d.scale d.coefficient

/-- The value counted in units of `10 ^ -places`. -/
def units (places : Nat) (d : Decimal) : Nat := d.coefficient * 10 ^ (places - d.scale)

theorem units_add {places : Nat} {left right : Decimal} (leftFits : left.scale ≤ places)
    (rightFits : right.scale ≤ places) :
    units places (add left right) = units places left + units places right := by
  have rescale : ∀ d : Decimal, d.scale ≤ max left.scale right.scale →
      d.coefficient * 10 ^ (max left.scale right.scale - d.scale) *
        10 ^ (places - max left.scale right.scale) = units places d := by
    intro d below
    rw [units, Nat.mul_assoc, ← Nat.pow_add]
    congr 2
    omega
  rw [units, add, Nat.add_mul, rescale left (Nat.le_max_left _ _),
    rescale right (Nat.le_max_right _ _)]

theorem scale_add {places : Nat} {left right : Decimal} (leftFits : left.scale ≤ places)
    (rightFits : right.scale ≤ places) : (add left right).scale ≤ places :=
  Nat.max_le.mpr ⟨leftFits, rightFits⟩

private theorem foldl_add {places : Nat} (terms : List Decimal) (initial : Decimal)
    (initialFits : initial.scale ≤ places) (fits : ∀ d ∈ terms, d.scale ≤ places) :
    (terms.foldl add initial).scale ≤ places ∧
      units places (terms.foldl add initial) =
        units places initial + (terms.map (units places)).sum := by
  induction terms generalizing initial with
  | nil => simpa using initialFits
  | cons head tail inductionHypothesis =>
      have headFits := fits head (by simp)
      have tailFits : ∀ d ∈ tail, d.scale ≤ places := fun d member => fits d (by simp [member])
      obtain ⟨scale, total⟩ :=
        inductionHypothesis (add initial head) (scale_add initialFits headFits) tailFits
      refine ⟨scale, ?_⟩
      rw [List.foldl_cons, total, units_add initialFits headFits, List.map_cons, List.sum_cons,
        Nat.add_assoc]

/-- A sum of decimals with at most `places` fractional digits has no more, and
its value is the sum of the values. -/
theorem sum_exact {places : Nat} {terms : List Decimal} (fits : ∀ d ∈ terms, d.scale ≤ places) :
    (sum terms).scale ≤ places ∧ units places (sum terms) = (terms.map (units places)).sum := by
  have folded := foldl_add terms ⟨0, 0⟩ (Nat.zero_le places) fits
  simpa [sum, units] using folded

/-- The parts of a rendered decimal. -/
theorem whole_text (d : Decimal) : whole d.text = natText (d.coefficient / 10 ^ d.scale) := by
  unfold text
  split
  · rw [List.append_nil, whole_digits fun b member => isDigit_of_mem_natText member]
  · exact whole_point fun b member => isDigit_of_mem_natText member

theorem fraction?_text (d : Decimal) :
    fraction? d.text =
      if d.scale = 0 then none else some (fixedText d.scale d.coefficient) := by
  unfold text
  split
  · rw [List.append_nil, fraction?_digits fun b member => isDigit_of_mem_natText member]
  · exact fraction?_point fun b member => isDigit_of_mem_natText member

end Decimal
end DrogonPay
