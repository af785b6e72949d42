import DrogonPay.Hex.Text

/-!
Contract: network hosts as byte texts.

Owns:
- `Inet.host`, the host of an URL by RFC 3986;
- `Inet.aton`, the IPv4 address of every spelling `inet_aton` accepts;
- `Inet.ipv6`, the eight groups of an IPv6 literal by RFC 4291;
- the address ranges that are not public.

Does not own: any check a program makes on them.
-/

namespace DrogonPay
namespace Inet

def dot : UInt8 := 46
def colon : UInt8 := 58

/-! ## The host of an URL -/

/-- The host of an authority, without its brackets. -/
structure Host where
  text : Bytes
  bracketed : Bool
deriving DecidableEq, Repr

def endsAuthority (b : UInt8) : Bool := b = 47 || b = 63 || b = 35

/-- The text behind the last `b`, all of it when there is none. -/
def afterLast (b : UInt8) (text : Bytes) : Bytes :=
  (text.reverse.takeWhile fun c => c ≠ b).reverse

/-- What follows the scheme, its colon and the two slashes. -/
def afterScheme (url : Bytes) : Bytes := (url.dropWhile fun b => b ≠ colon).drop 3

def authority (url : Bytes) : Bytes := (afterScheme url).takeWhile fun b => !endsAuthority b

/-- The authority behind its userinfo. -/
def hostAndPort (url : Bytes) : Bytes := afterLast 64 (authority url)

def host (url : Bytes) : Host :=
  match hostAndPort url with
  | 91 :: literal =>
      if 93 ∈ literal then ⟨literal.takeWhile fun b => b ≠ 93, true⟩
      else ⟨(91 :: literal).takeWhile fun b => b ≠ colon, false⟩
  | text => ⟨text.takeWhile fun b => b ≠ colon, false⟩

/-- A name without the dot of the root, if it has one. -/
def withoutRootDot (name : Bytes) : Bytes :=
  if name.getLast? = some dot then name.dropLast else name

/-! ## IPv4 -/

def isOctal (b : UInt8) : Bool := 48 ≤ b && b ≤ 55

def octalValue (digits : Bytes) : Nat :=
  Nat.ofDigits 8 (digits.reverse.map fun b => b.toNat - 48)

/-- At least one digit, and digits only. -/
def spelled (isDigit : UInt8 → Bool) (value : Bytes → Nat) (digits : Bytes) : Option Nat :=
  if !digits.isEmpty && digits.all isDigit then some (value digits) else none

/-- A part in decimal, in octal behind a zero, or in hexadecimal behind `0x`. -/
def part : Bytes → Option Nat
  | [48] => some 0
  | 48 :: mark :: digits =>
      if mark = 120 || mark = 88 then spelled Hex.isDigit Hex.value digits
      else spelled isOctal octalValue (mark :: digits)
  | text => spelled Decimal.isDigit Decimal.value text

/-- The last part fills the bytes that the parts before it leave. -/
def address : List Nat → Option Nat
  | [a] => if a < 2 ^ 32 then some a else none
  | [a, b] => if a < 256 ∧ b < 2 ^ 24 then some (a * 2 ^ 24 + b) else none
  | [a, b, c] =>
      if a < 256 ∧ b < 256 ∧ c < 2 ^ 16 then some (a * 2 ^ 24 + b * 2 ^ 16 + c) else none
  | [a, b, c, d] =>
      if a < 256 ∧ b < 256 ∧ c < 256 ∧ d < 256 then
        some (a * 2 ^ 24 + b * 2 ^ 16 + c * 2 ^ 8 + d)
      else none
  | _ => none

def aton (text : Bytes) : Option Nat := ((text.splitOn dot).mapM part).bind address

/-- 0/8, 10/8, 127/8, 100.64/10, 169.254/16, 172.16/12 and 192.168/16. -/
def isInternal (address : Nat) : Bool :=
  address / 2 ^ 24 = 0 || address / 2 ^ 24 = 10 || address / 2 ^ 24 = 127 ||
    address / 2 ^ 22 = 100 * 4 + 1 || address / 2 ^ 16 = 169 * 256 + 254 ||
    address / 2 ^ 20 = 172 * 16 + 1 || address / 2 ^ 16 = 192 * 256 + 168

/-! ## IPv6 -/

def group (text : Bytes) : Option Nat :=
  if text.length ≤ 4 then spelled Hex.isDigit Hex.value text else none

/-- A byte of a dotted quad. -/
def octet (text : Bytes) : Option Nat :=
  (spelled Decimal.isDigit Decimal.value text).filter fun n => n < 256 ∧ text.length ≤ 3

/-- The two groups that a dotted quad stands for. -/
def quadGroups (text : Bytes) : Option (List Nat) :=
  match (text.splitOn dot).mapM octet with
  | some [a, b, c, d] => some [a * 256 + b, c * 256 + d]
  | _ => none

/-- Fields that stand for a group each, but the last may be a dotted quad. -/
def groups : List Bytes → Option (List Nat)
  | [] => some []
  | [last] => ((group last).map fun g => [g]).or (quadGroups last)
  | field :: fields => do return (← group field) :: (← groups fields)

/-- The texts before and behind the first double colon. -/
def splitDouble : Bytes → Option (Bytes × Bytes)
  | [] => none
  | b :: rest =>
      if b = colon ∧ rest.head? = some colon then some ([], rest.tail)
      else (splitDouble rest).map fun halves => (b :: halves.1, halves.2)

def fieldsOf (text : Bytes) : List Bytes := if text.isEmpty then [] else text.splitOn colon

/-- The eight groups; a double colon stands for the zero groups that are
missing. -/
def ipv6 (text : Bytes) : Option (List Nat) :=
  match splitDouble text with
  | none => (groups (fieldsOf text)).filter fun all => all.length = 8
  | some (front, back) => do
      let high ← (fieldsOf front).mapM group
      let low ← groups (fieldsOf back)
      if high.length + low.length < 8 then
        some (high ++ List.replicate (8 - high.length - low.length) 0 ++ low)
      else none

/-- 2000::/3. -/
def isGlobalUnicast (groups : List Nat) : Bool := (groups.head?.getD 0) / 2 ^ 13 = 1

/-! ## Split texts -/

section Split

variable {sep : UInt8} {text : Bytes}

theorem mem_splitOn {b : UInt8} (member : b ∈ text) (other : b ≠ sep) :
    ∃ field ∈ text.splitOn sep, b ∈ field := by
  induction text with
  | nil => cases member
  | cons head tail inductionHypothesis =>
      rw [List.splitOn_cons_eq_if_modifyHead]
      by_cases isSep : head = sep
      · rw [if_pos (beq_iff_eq.mpr isSep)]
        have later : b ∈ tail := (List.mem_cons.mp member).resolve_left (isSep ▸ other)
        obtain ⟨field, isField, found⟩ := inductionHypothesis later
        exact ⟨field, List.mem_cons_of_mem _ isField, found⟩
      · rw [if_neg (by simpa using isSep)]
        cases fields : tail.splitOn sep with
        | nil => exact absurd fields (List.splitOn_ne_nil _ _)
        | cons first rest =>
            rw [fields] at inductionHypothesis
            rcases List.mem_cons.mp member with here | later
            · exact ⟨head :: first, by simp, by simp [here]⟩
            · obtain ⟨field, isField, found⟩ := inductionHypothesis later
              rcases List.mem_cons.mp isField with isFirst | isLater
              · exact ⟨head :: first, by simp, List.mem_cons_of_mem _ (isFirst ▸ found)⟩
              · exact ⟨field, List.mem_cons_of_mem _ isLater, found⟩

theorem splitOn_map {f : UInt8 → UInt8} (keeps : ∀ b, f b = sep ↔ b = sep) :
    (text.map f).splitOn sep = (text.splitOn sep).map (List.map f) := by
  induction text with
  | nil => rfl
  | cons head tail inductionHypothesis =>
      rw [List.map_cons, List.splitOn_cons_eq_if_modifyHead, List.splitOn_cons_eq_if_modifyHead,
        inductionHypothesis]
      by_cases isSep : head = sep
      · simp [isSep, (keeps sep).mpr rfl]
      · have other : f head ≠ sep := mt (keeps head).mp isSep
        rw [if_neg (by simpa using other), if_neg (by simpa using isSep)]
        cases tail.splitOn sep <;> rfl

/-- A text of several fields begins with the first one and its separator. -/
theorem append_of_splitOn {first second : Bytes} {rest : List Bytes}
    (fields : text.splitOn sep = first :: second :: rest) :
    ∃ behind, text = first ++ sep :: behind := by
  refine ⟨[sep].intercalate (second :: rest), ?_⟩
  have joined : [sep].intercalate (text.splitOn sep) = text := List.intercalate_splitOn sep
  rw [← joined, fields, List.intercalate_cons_of_ne_nil (by simp)]
  simp

theorem eq_of_splitOn {only : Bytes} (fields : text.splitOn sep = [only]) : text = only := by
  have joined : [sep].intercalate (text.splitOn sep) = text := List.intercalate_splitOn sep
  rw [← joined, fields]
  simp

end Split

theorem exists_of_mapM {α β : Type} {f : α → Option β} {items : List α} {values : List β}
    (read : items.mapM f = some values) : ∀ item ∈ items, ∃ value, f item = some value := by
  induction items generalizing values with
  | nil => simp
  | cons head tail inductionHypothesis =>
      rw [List.mapM_cons] at read
      obtain ⟨value, here, rest⟩ := Option.bind_eq_some_iff.mp read
      obtain ⟨others, there, _⟩ := Option.bind_eq_some_iff.mp rest
      intro item member
      rcases List.mem_cons.mp member with isHead | later
      · exact ⟨value, isHead ▸ here⟩
      · exact inductionHypothesis there item later

/-! ## What a spelling consists of -/

theorem spelled_eq_some {isDigit : UInt8 → Bool} {value : Bytes → Nat} {digits : Bytes} {n : Nat} :
    spelled isDigit value digits = some n ↔
      digits ≠ [] ∧ (∀ b ∈ digits, isDigit b = true) ∧ value digits = n := by
  unfold spelled
  split
  · rename_i both
    simp only [Bool.and_eq_true, Bool.not_eq_true', List.isEmpty_eq_false_iff, List.all_eq_true]
      at both
    simp only [Option.some.injEq]
    exact ⟨fun value => ⟨both.1, both.2, value⟩, fun spells => spells.2.2⟩
  · rename_i notBoth
    simp only [Bool.and_eq_true, Bool.not_eq_true', List.isEmpty_eq_false_iff, List.all_eq_true]
      at notBoth
    simp only [reduceCtorEq, false_iff]
    exact fun spells => notBoth ⟨spells.1, spells.2.1⟩

/-- The three shapes of a part. -/
theorem part_cases {text : Bytes} {n : Nat} (read : part text = some n) :
    (text ≠ [] ∧ ∀ b ∈ text, Decimal.isDigit b = true) ∨
      ∃ mark digits, text = 48 :: mark :: digits ∧ (mark = 120 ∨ mark = 88) ∧ digits ≠ [] ∧
        ∀ b ∈ digits, Hex.isDigit b = true := by
  unfold part at read
  split at read
  · refine .inl ⟨List.cons_ne_nil _ _, fun b member => ?_⟩
    rw [List.mem_singleton.mp member]
    rfl
  · rename_i mark digits
    split at read
    · rename_i isMark
      obtain ⟨some, all, _⟩ := spelled_eq_some.mp read
      exact .inr ⟨mark, digits, rfl, by simpa using isMark, some, all⟩
    · obtain ⟨_, all, _⟩ := spelled_eq_some.mp read
      refine .inl ⟨by simp, fun b member => ?_⟩
      rcases List.mem_cons.mp member with isZero | later
      · exact isZero ▸ by decide
      · have octal := all b later
        simp only [isOctal, Bool.and_eq_true, decide_eq_true_eq] at octal
        simp only [Decimal.isDigit, Bool.and_eq_true, decide_eq_true_eq]
        have wider : (55 : UInt8) ≤ 57 := by decide
        exact ⟨octal.1, UInt8.le_trans octal.2 wider⟩
  · obtain ⟨some, all, _⟩ := spelled_eq_some.mp read
    exact .inl ⟨some, all⟩

/-- A digit, or the mark of a hexadecimal part. -/
def isPartByte (b : UInt8) : Bool := Hex.isDigit b || b = 120 || b = 88

theorem isPartByte_of_mem_part {text : Bytes} {n : Nat} {b : UInt8} (read : part text = some n)
    (member : b ∈ text) : isPartByte b = true := by
  have ofDecimal := Hex.forall_bytes (P := fun b => Decimal.isDigit b = true → isPartByte b = true)
    (by decide +kernel) b
  have ofHex : Hex.isDigit b = true → isPartByte b = true := by
    intro isDigit
    simp [isPartByte, isDigit]
  rcases part_cases read with ⟨_, decimal⟩ | ⟨mark, digits, rfl, isMark, _, hex⟩
  · exact ofDecimal (decimal b member)
  · rcases List.mem_cons.mp member with rfl | later
    · decide
    · rcases List.mem_cons.mp later with rfl | inDigits
      · rcases isMark with rfl | rfl <;> decide
      · exact ofHex (hex b inDigits)

/-- An address is spelled in parts. -/
theorem parts_of_aton {text : Bytes} {n : Nat} (read : aton text = some n) :
    ∀ label ∈ text.splitOn dot, ∃ value, part label = some value := by
  obtain ⟨values, parts, _⟩ := Option.bind_eq_some_iff.mp read
  exact exists_of_mapM parts

theorem isPartByte_of_mem_aton {text : Bytes} {n : Nat} {b : UInt8} (read : aton text = some n)
    (member : b ∈ text) (other : b ≠ dot) : isPartByte b = true := by
  obtain ⟨label, isLabel, found⟩ := mem_splitOn member other
  obtain ⟨value, isPart⟩ := parts_of_aton read label isLabel
  exact isPartByte_of_mem_part isPart found

theorem colon_not_mem_aton {text : Bytes} {n : Nat} (read : aton text = some n) :
    colon ∉ text :=
  fun member => absurd (isPartByte_of_mem_aton read member (by decide)) (by decide)

/-! ## The first group of an IPv6 literal -/

theorem splitDouble_eq {text front back : Bytes} (split : splitDouble text = some (front, back)) :
    text = front ++ colon :: colon :: back := by
  induction text generalizing front with
  | nil => cases split
  | cons b rest inductionHypothesis =>
      rw [splitDouble] at split
      split_ifs at split with isDouble
      · obtain ⟨isColon, next⟩ := isDouble
        cases rest with
        | nil => cases next
        | cons c behind =>
            cases split
            rw [isColon, Option.some.inj next]
            rfl
      · obtain ⟨⟨front', back'⟩, found, halves⟩ := Option.map_eq_some_iff.mp split
        cases halves
        rw [inductionHypothesis found]
        rfl

/-- An IPv6 literal begins with a colon, or with the group of its first sixteen
bits. -/
theorem ipv6_head {text : Bytes} {all : List Nat} (read : ipv6 text = some all) :
    text.head? = some colon ∨
      ∃ field behind g, text = field ++ colon :: behind ∧ group field = some g ∧
        all.head? = some g := by
  unfold ipv6 at read
  split at read
  · obtain ⟨grouped, eight⟩ := Option.filter_eq_some_iff.mp read
    by_cases empty : text = []
    · subst empty
      cases grouped
      cases eight
    · rw [fieldsOf, if_neg (by simpa using empty)] at grouped
      cases fields : text.splitOn colon with
      | nil => exact absurd fields (List.splitOn_ne_nil _ _)
      | cons first rest =>
          rw [fields] at grouped
          cases rest with
          | nil =>
              -- a single field stands for two groups at most
              rw [groups, Option.or_eq_some_iff] at grouped
              rcases grouped with single | ⟨_, quad⟩
              · obtain ⟨g, _, rfl⟩ := Option.map_eq_some_iff.mp single
                cases eight
              · unfold quadGroups at quad
                split at quad
                · cases quad
                  cases eight
                · cases quad
          | cons second others =>
              obtain ⟨g, isGroup, more⟩ := Option.bind_eq_some_iff.mp grouped
              obtain ⟨lower, _, isAll⟩ := Option.bind_eq_some_iff.mp more
              cases isAll
              obtain ⟨behind, joined⟩ := append_of_splitOn fields
              exact .inr ⟨first, behind, g, joined, isGroup, rfl⟩
  · rename_i front back halves
    have joined := splitDouble_eq halves
    obtain ⟨high, isHigh, more⟩ := Option.bind_eq_some_iff.mp read
    obtain ⟨low, _, filled⟩ := Option.bind_eq_some_iff.mp more
    split_ifs at filled
    cases filled
    by_cases empty : front = []
    · left
      rw [joined, empty]
      rfl
    · right
      rw [fieldsOf, if_neg (by simpa using empty)] at isHigh
      cases fields : front.splitOn colon with
      | nil => exact absurd fields (List.splitOn_ne_nil _ _)
      | cons first rest =>
          rw [fields, List.mapM_cons] at isHigh
          obtain ⟨g, isGroup, others⟩ := Option.bind_eq_some_iff.mp isHigh
          obtain ⟨lower, _, isAll⟩ := Option.bind_eq_some_iff.mp others
          cases isAll
          cases rest with
          | nil =>
              rw [eq_of_splitOn fields] at joined
              exact ⟨first, _, g, joined, isGroup, rfl⟩
          | cons second more =>
              obtain ⟨behind, begins⟩ := append_of_splitOn fields
              rw [begins, List.append_assoc] at joined
              exact ⟨first, _, g, joined, isGroup, rfl⟩

/-- A group has sixteen bits. -/
theorem group_spec {text : Bytes} {g : Nat} (read : group text = some g) :
    text ≠ [] ∧ text.length ≤ 4 ∧ (∀ b ∈ text, Hex.isDigit b = true) ∧ Hex.value text = g ∧
      g < 2 ^ 16 := by
  unfold group at read
  split_ifs at read with short
  obtain ⟨some, digits, value⟩ := spelled_eq_some.mp read
  refine ⟨some, short, digits, value, ?_⟩
  have below : Hex.value text < 16 ^ (text.reverse.map Hex.digitValue).length := by
    apply Nat.ofDigits_lt_base_pow_length (by decide)
    intro d isDigit
    obtain ⟨b, _, rfl⟩ := List.mem_map.mp isDigit
    exact Hex.digitValue_lt b
  rw [List.length_map, List.length_reverse] at below
  calc g = Hex.value text := value.symm
    _ < 16 ^ text.length := below
    _ ≤ 16 ^ 4 := Nat.pow_le_pow_right (by decide) short
    _ = 2 ^ 16 := by decide

end Inet
end DrogonPay
