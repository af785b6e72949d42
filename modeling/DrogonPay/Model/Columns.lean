import DrogonPay.Model.Statements

/-!
Contract: what the VARCHAR columns of `sql/001_init_pay_tables.sql` take.

Owns: `FitsColumn`, the columns of a booked order and of a booked attempt, and
`Stmt.FitsColumns`, what the widths leave of the answers to a statement.

Does not own: the unique and foreign keys.
-/

namespace DrogonPay

/-- libpq hands a text on up to its first NUL. -/
def cString (text : Bytes) : Bytes := text.takeWhile fun b => b ≠ 0

/-- A `VARCHAR(width)` column takes the text: it is UTF-8, and what exceeds the width
is spaces. -/
def FitsColumn (width : Nat) (text : Bytes) : Prop :=
  ∃ (kept : List Char) (spaces : Nat), kept.length ≤ width ∧
    cString text = (kept ++ List.replicate spaces ' ').flatMap String.utf8EncodeChar

/-- A short text of ASCII characters fits. -/
theorem fitsColumn_of_ascii {width : Nat} {text : Bytes} (short : text.length ≤ width)
    (plain : ∀ b ∈ text, 1 ≤ b ∧ b ≤ 127) : FitsColumn width text := by
  refine ⟨text.map fun b => Char.ofNat b.toNat, 0, by simpa using short, ?_⟩
  have whole : cString text = text := by
    refine List.takeWhile_eq_self_iff.mpr fun b member => ?_
    obtain ⟨positive, -⟩ := plain b member
    rw [UInt8.le_iff_toNat_le] at positive
    simp only [ne_eq, decide_not, Bool.not_eq_eq_eq_not, Bool.not_true, decide_eq_false_iff_not]
    rintro rfl
    exact absurd positive (by decide)
  have encoded : ∀ b ∈ text, String.utf8EncodeChar (Char.ofNat b.toNat) = [b] := by
    intro b member
    obtain ⟨-, small⟩ := plain b member
    rw [UInt8.le_iff_toNat_le] at small
    have isValid : b.toNat.isValidChar := Or.inl (by simp at small; omega)
    have isVal : (Char.ofNat b.toNat).val.toNat = b.toNat := by
      rw [show Char.ofNat b.toNat = Char.ofNatAux b.toNat isValid from dif_pos isValid]
      rfl
    have one : (Char.ofNat b.toNat).utf8Size = 1 := by
      rw [Char.utf8Size_eq_one_iff, UInt32.le_iff_toNat_le, isVal]
      simpa using small
    rw [String.utf8EncodeChar_eq_singleton one]
    congr 1
    rw [← UInt8.toNat_inj, UInt32.toNat_toUInt8, isVal]
    exact Nat.mod_eq_of_lt b.toNat_lt
  rw [whole, List.replicate_zero, List.append_nil, List.flatMap_map]
  have same : text.flatMap (fun b => String.utf8EncodeChar (Char.ofNat b.toNat)) =
      text.flatMap fun b => [b] := List.flatMap_congr encoded
  rw [same, List.flatMap_singleton']

/-! ## Rows -/

/-- The width of `pay_idempotency.idempotency_key`. -/
def keyWidth : Nat := 128

/-- The width of the `amount` columns. -/
def amountWidth : Nat := 32

/-- Every column of `pay_order` takes the order. -/
structure OrderBooking.Fits (booking : OrderBooking) : Prop where
  orderNo : FitsColumn 64 booking.orderNo
  amount : FitsColumn amountWidth booking.amount
  currency : FitsColumn 8 booking.currency
  channel : FitsColumn 32 booking.channel
  title : FitsColumn 512 booking.title

/-- Every column of `pay_payment` takes the attempt. -/
structure PaymentBooking.Fits (booking : PaymentBooking) : Prop where
  paymentNo : FitsColumn 64 booking.paymentNo
  orderNo : FitsColumn 64 booking.orderNo
  amount : FitsColumn amountWidth booking.amount

/-- The values that are written, and the rows that are read, fit their columns. -/
def Stmt.FitsColumns : (st : Stmt) → st.Res → Prop
  | .insertOrder booking, _ => booking.Fits
  | .insertPayment booking, _ => booking.Fits
  | .findOrder _, (res : Option OrderRow) => ∀ row ∈ res, row.toOrderBooking.Fits
  | .reserve idempotencyKey _ _ _, _ => FitsColumn keyWidth idempotencyKey
  | _, _ => True

end DrogonPay
