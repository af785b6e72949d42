import DrogonPay.Hex.Text

/-!
Contract: percent-encoding by RFC 3986, and the parts of a request target.

Owns:
- `Percent.encode`, which leaves the unreserved characters and writes every other
  byte as a triplet with upper-case digits, and `Percent.Encoded`, the texts of
  that shape;
- `Percent.decode`, which reads triplets in either letter case;
- `Percent.decode_encode`, the round trip;
- `UrlTarget.split`, the segments, the query and the fragment of a target, and what
  it reads back of one that was put together.

Does not own: what an identifier in a target names.
-/

namespace DrogonPay
namespace Percent

/-- RFC 3986, section 2.3. -/
def isUnreserved (b : UInt8) : Bool :=
  65 ≤ b && b ≤ 90 || 97 ≤ b && b ≤ 122 || 48 ≤ b && b ≤ 57 ||
    b = 45 || b = 95 || b = 46 || b = 126

def isUpperDigit (b : UInt8) : Bool := 48 ≤ b && b ≤ 57 || 65 ≤ b && b ≤ 70

def percent : UInt8 := 37

/-- The triplet of a byte. -/
def triplet (b : UInt8) : Bytes :=
  [percent, Hex.digit (b.toNat / 16), Hex.digit (b.toNat % 16)]

def encodeByte (b : UInt8) : Bytes := if isUnreserved b then [b] else triplet b

def encode (text : Bytes) : Bytes := text.flatMap encodeByte

/-- Unreserved characters and triplets with upper-case digits. -/
inductive Encoded : Bytes → Prop where
  | nil : Encoded []
  | plain {b : UInt8} {rest : Bytes} (unreserved : isUnreserved b = true)
      (later : Encoded rest) : Encoded (b :: rest)
  | triplet {high low : UInt8} {rest : Bytes} (isHigh : isUpperDigit high = true)
      (isLow : isUpperDigit low = true) (later : Encoded rest) :
      Encoded (percent :: high :: low :: rest)

/-- The text with its triplets replaced; `none` where a percent sign does not
begin one. -/
def decode : Bytes → Option Bytes
  | [] => some []
  | [b] => if b = percent then none else some [b]
  | [b, c] => if b = percent || c = percent then none else some [b, c]
  | b :: high :: low :: rest =>
      if b = percent then
        if Hex.isDigit high && Hex.isDigit low then
          (decode rest).map (UInt8.ofNat (Hex.digitValue high * 16 + Hex.digitValue low) :: ·)
        else none
      else (decode (high :: low :: rest)).map (b :: ·)

/-! ## Bytes -/

theorem ne_percent_of_isUnreserved (b : UInt8) : isUnreserved b = true → b ≠ percent :=
  Hex.forall_bytes (P := fun b => isUnreserved b = true → b ≠ percent) (by decide +kernel) b

theorem isUnreserved_of_isUpperDigit (b : UInt8) : isUpperDigit b = true → isUnreserved b = true :=
  Hex.forall_bytes (P := fun b => isUpperDigit b = true → isUnreserved b = true)
    (by decide +kernel) b

theorem isUpperDigit_digit : ∀ n < 16, isUpperDigit (Hex.digit n) = true := by decide

theorem digits_of_byte (b : UInt8) : b.toNat / 16 < 16 ∧ b.toNat % 16 < 16 := by
  have small := UInt8.toNat_lt b
  omega

/-! ## Reading what was written -/

theorem decode_cons {b : UInt8} (plain : b ≠ percent) (rest : Bytes) :
    decode (b :: rest) = (decode rest).map (b :: ·) := by
  match rest with
  | [] => simp [decode, plain]
  | [c] =>
      by_cases isPercent : c = percent
      · simp [decode, isPercent]
      · simp [decode, plain, isPercent]
  | _ :: _ :: _ => rw [decode, if_neg plain]

theorem decode_triplet (b : UInt8) (rest : Bytes) :
    decode (triplet b ++ rest) = (decode rest).map (b :: ·) := by
  obtain ⟨high, low⟩ := digits_of_byte b
  have whole : b.toNat / 16 * 16 + b.toNat % 16 = b.toNat := by omega
  simp [triplet, decode, Hex.isDigit_digit _ high, Hex.isDigit_digit _ low,
    Hex.digitValue_digit _ high, Hex.digitValue_digit _ low, whole]

theorem decode_encodeByte (b : UInt8) (rest : Bytes) :
    decode (encodeByte b ++ rest) = (decode rest).map (b :: ·) := by
  unfold encodeByte
  split
  · rename_i unreserved
    exact decode_cons (ne_percent_of_isUnreserved b unreserved) rest
  · exact decode_triplet b rest

/-- Decoding undoes encoding. -/
theorem decode_encode (text : Bytes) : decode (encode text) = some text := by
  induction text with
  | nil => rfl
  | cons b rest inductionHypothesis =>
      rw [encode] at inductionHypothesis ⊢
      rw [List.flatMap_cons, decode_encodeByte, inductionHypothesis, Option.map_some]

theorem encode_injective {left right : Bytes} (same : encode left = encode right) :
    left = right := by
  have both := congrArg decode same
  rw [decode_encode, decode_encode] at both
  exact Option.some.inj both

/-! ## The shape of what was written -/

theorem encoded_encode (text : Bytes) : Encoded (encode text) := by
  induction text with
  | nil => exact .nil
  | cons b rest inductionHypothesis =>
      rw [encode, List.flatMap_cons, encodeByte]
      split
      · rename_i unreserved
        exact .plain unreserved inductionHypothesis
      · obtain ⟨high, low⟩ := digits_of_byte b
        exact .triplet (isUpperDigit_digit _ high) (isUpperDigit_digit _ low) inductionHypothesis

/-- An encoded text has no bytes but unreserved ones and percent signs. -/
theorem Encoded.bytes {text : Bytes} (encoded : Encoded text) :
    ∀ b ∈ text, isUnreserved b = true ∨ b = percent := by
  induction encoded with
  | nil => simp
  | plain unreserved _ inductionHypothesis =>
      intro b member
      rcases List.mem_cons.mp member with rfl | later
      · exact Or.inl unreserved
      · exact inductionHypothesis b later
  | triplet isHigh isLow _ inductionHypothesis =>
      intro b member
      simp only [List.mem_cons] at member
      rcases member with rfl | rfl | rfl | later
      · exact Or.inr rfl
      · exact Or.inl (isUnreserved_of_isUpperDigit _ isHigh)
      · exact Or.inl (isUnreserved_of_isUpperDigit _ isLow)
      · exact inductionHypothesis b later

/-- A byte that has to be encoded does not occur in an encoded text. -/
theorem Encoded.not_mem {text : Bytes} (encoded : Encoded text) {b : UInt8}
    (reserved : isUnreserved b = false) (other : b ≠ percent) : b ∉ text := by
  intro member
  rcases encoded.bytes b member with unreserved | isPercent
  · rw [reserved] at unreserved
    cases unreserved
  · exact other isPercent

end Percent

/-! ## Request targets -/

/-- The text before the first `separator`, and the text behind it when there is
one. -/
def cutAt (separator : UInt8) (text : Bytes) : Bytes × Option Bytes :=
  match text.dropWhile (· ≠ separator) with
  | [] => (text, none)
  | _ :: behind => (text.takeWhile (· ≠ separator), some behind)

/-- A target taken apart at its separators: a path, then a query of named
values, then a fragment. -/
structure UrlTarget where
  segments : List Bytes
  query : Option (List (List Bytes))
  fragment : Option Bytes
deriving DecidableEq

def UrlTarget.split (text : Bytes) : UrlTarget :=
  let (target, fragment) := cutAt 35 text
  let (path, query) := cutAt 63 target
  ⟨path.splitOn 47, query.map fun named => (named.splitOn 38).map (·.splitOn 61), fragment⟩

theorem cutAt_none {separator : UInt8} {text : Bytes} (absent : separator ∉ text) :
    cutAt separator text = (text, none) := by
  have whole : text.dropWhile (· ≠ separator) = [] := by
    refine List.dropWhile_eq_nil_iff.mpr fun b member => ?_
    exact decide_eq_true fun same => absent (same ▸ member)
  simp only [cutAt, whole]

theorem cutAt_some {separator : UInt8} {front behind : Bytes} (absent : separator ∉ front) :
    cutAt separator (front ++ separator :: behind) = (front, some behind) := by
  have passes : ∀ b ∈ front, decide (b ≠ separator) = true := fun b member =>
    decide_eq_true fun same => absent (same ▸ member)
  have rest : (front ++ separator :: behind).dropWhile (· ≠ separator) = separator :: behind := by
    rw [List.dropWhile_append_of_pos passes, List.dropWhile_cons_of_neg (by simp)]
  have first : (front ++ separator :: behind).takeWhile (· ≠ separator) = front := by
    rw [List.takeWhile_append_of_pos passes, List.takeWhile_cons_of_neg (by simp), List.append_nil]
  simp only [cutAt, rest, first]

/-- The path with these segments. -/
def joinPath (segments : List Bytes) : Bytes := [47].intercalate segments

theorem not_mem_joinPath {b : UInt8} {segments : List Bytes} (other : b ≠ 47)
    (absent : ∀ segment ∈ segments, b ∉ segment) : b ∉ joinPath segments := by
  induction segments with
  | nil => simp [joinPath]
  | cons segment rest inductionHypothesis =>
      have later := inductionHypothesis fun segment member =>
        absent segment (List.mem_cons_of_mem _ member)
      have here := absent segment (List.mem_cons_self ..)
      by_cases last : rest = []
      · simpa [joinPath, last] using here
      · rw [joinPath, List.intercalate_cons_of_ne_nil last]
        rw [joinPath] at later
        simp [here, other, later]

namespace UrlTarget

variable {segments : List Bytes}

/-- Segments that hold no separator. -/
def Plain (segments : List Bytes) : Prop :=
  segments ≠ [] ∧ ∀ segment ∈ segments, 47 ∉ segment ∧ 63 ∉ segment ∧ 35 ∉ segment

theorem Plain.splitOn (plain : Plain segments) : (joinPath segments).splitOn 47 = segments :=
  List.splitOn_intercalate 47 (fun segment member => (plain.2 segment member).1) plain.1

theorem Plain.not_mem (plain : Plain segments) :
    63 ∉ joinPath segments ∧ 35 ∉ joinPath segments :=
  ⟨not_mem_joinPath (by decide) fun segment member => (plain.2 segment member).2.1,
    not_mem_joinPath (by decide) fun segment member => (plain.2 segment member).2.2⟩

/-- A path is read back as its segments. -/
theorem split_path (plain : Plain segments) :
    split (joinPath segments) = ⟨segments, none, none⟩ := by
  obtain ⟨noQuery, noFragment⟩ := plain.not_mem
  simp only [split, cutAt_none noFragment, cutAt_none noQuery, plain.splitOn, Option.map_none]

/-- A path with one named value behind it is read back as both. -/
theorem split_query {name value : Bytes} (plain : Plain segments)
    (plainName : 35 ∉ name ∧ 38 ∉ name ∧ 61 ∉ name)
    (plainValue : 35 ∉ value ∧ 38 ∉ value ∧ 61 ∉ value) :
    split (joinPath segments ++ 63 :: (name ++ 61 :: value)) =
      ⟨segments, some [[name, value]], none⟩ := by
  obtain ⟨noQuery, noFragment⟩ := plain.not_mem
  have noFragment' : 35 ∉ joinPath segments ++ 63 :: (name ++ 61 :: value) := by
    simp [noFragment, plainName.1, plainValue.1]
  have single : (name ++ 61 :: value).splitOn 38 = [name ++ 61 :: value] :=
    List.splitOn_eq_singleton (by simp [plainName.2.1, plainValue.2.1])
  have named : (name ++ 61 :: value).splitOn 61 = [name, value] := by
    rw [List.splitOn_append_cons_self_of_not_mem plainName.2.2,
      List.splitOn_eq_singleton plainValue.2.2]
  simp only [split, cutAt_none noFragment', cutAt_some noQuery, plain.splitOn, Option.map_some,
    single, List.map_cons, List.map_nil, named]

end UrlTarget

end DrogonPay
