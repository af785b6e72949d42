import DrogonPay.Decimal.Text

/-!
Contract: JSON values as the code reads them through jsoncpp.

Owns: the values, member access, and the conversions `asString` and `asInt64`
with the inputs on which they throw (`none`).

Does not own: the text of a JSON value. A real number is kept by what the code
can observe of it: its integer part, whether that is all of it, and its text.
-/

namespace DrogonPay

inductive Json where
  | null
  | bool (b : Bool)
  | int (n : Int)
  | real (integerPart : Int) (integral : Bool) (text : Bytes)
  | str (s : Bytes)
  | arr (items : List Json)
  | obj (members : List (Bytes × Json))

namespace Json

/-- The member of a name, `none` when it is absent. -/
def lookup (members : List (Bytes × Json)) (key : Bytes) : Option Json :=
  (members.find? fun entry => entry.1 = key).map Prod.snd

/-- `value.get(key, fallback)`; throws on a value that is neither null nor an
object. -/
def get (value : Json) (key : Bytes) (fallback : Json) : Option Json :=
  match value with
  | .null => some fallback
  | .obj members => some ((lookup members key).getD fallback)
  | _ => none

/-- `value[key]` of a constant value. -/
def at? (value : Json) (key : Bytes) : Option Json := value.get key .null

def isMember (value : Json) (key : Bytes) : Bool :=
  match value with
  | .obj members => (lookup members key).isSome
  | _ => false

def isNull : Json → Bool
  | .null => true
  | _ => false

def isString : Json → Bool
  | .str _ => true
  | _ => false

private def intText (n : Int) : Bytes :=
  if n < 0 then ascii "-" ++ Decimal.natText n.natAbs else Decimal.natText n.natAbs

/-- `value.asString()`; arrays and objects throw. -/
def asString : Json → Option Bytes
  | .null => some []
  | .bool b => some (if b then ascii "true" else ascii "false")
  | .int n => some (intText n)
  | .real _ _ text => some text
  | .str s => some s
  | .arr _ => none
  | .obj _ => none

private def inInt64 (n : Int) : Bool := -(2 ^ 63) ≤ n && n < 2 ^ 63

/-- `value.isInt64()`; a real number counts when it is whole. -/
def isInt64 : Json → Bool
  | .int n => inInt64 n
  | .real integerPart integral _ => integral && inInt64 integerPart
  | _ => false

/-- `value.asInt64()`; texts, arrays, objects and numbers out of range throw. -/
def asInt64 : Json → Option Int
  | .null => some 0
  | .bool b => some (if b then 1 else 0)
  | .int n => if inInt64 n then some n else none
  | .real integerPart _ _ => if inInt64 integerPart then some integerPart else none
  | .str _ => none
  | .arr _ => none
  | .obj _ => none

/-- `value.get(key, "").asString()`. -/
def stringAt (value : Json) (key : String) : Option Bytes := do
  (← value.get (ascii key) (.str [])).asString

/-- `value.get(key, 0).asInt64()`. -/
def intAt (value : Json) (key : String) : Option Int := do
  (← value.get (ascii key) (.int 0)).asInt64

/-- An object with the given members, in the order of its names. -/
def object (members : List (String × Json)) : Json :=
  .obj (members.map fun (key, value) => (ascii key, value))

def text (literal : String) : Json := .str (ascii literal)

/-- The object with one more member. -/
def withMember (value : Json) (key : String) (member : Json) : Json :=
  match value with
  | .obj members =>
      .obj ((members.filter fun entry => entry.1 ≠ ascii key) ++ [(ascii key, member)])
  | _ => .obj [(ascii key, member)]

/-! ## Comparing values -/

mutual

/-- The two values are the same. -/
def same : Json → Json → Bool
  | .null, .null => true
  | .bool a, .bool b => a == b
  | .int a, .int b => a == b
  | .real a whole text, .real b whole' text' => a == b && whole == whole' && text == text'
  | .str a, .str b => a == b
  | .arr items, .arr items' => sameItems items items'
  | .obj members, .obj members' => sameMembers members members'
  | _, _ => false

def sameItems : List Json → List Json → Bool
  | [], [] => true
  | a :: items, b :: items' => same a b && sameItems items items'
  | _, _ => false

def sameMembers : List (Bytes × Json) → List (Bytes × Json) → Bool
  | [], [] => true
  | a :: members, b :: members' => sameMember a b && sameMembers members members'
  | _, _ => false

def sameMember : Bytes × Json → Bytes × Json → Bool
  | (key, a), (key', b) => key == key' && same a b

end

mutual

theorem eq_of_same : ∀ a b : Json, same a b = true → a = b
  | .null, b => by cases b <;> simp [same]
  | .bool _, b => by cases b <;> simp [same]
  | .int _, b => by cases b <;> simp [same]
  | .real _ _ _, b => by cases b <;> simp +contextual [same]
  | .str _, b => by cases b <;> simp [same]
  | .arr items, b => by
      cases b with
      | arr items' => simpa [same] using eq_of_sameItems items items'
      | _ => simp [same]
  | .obj members, b => by
      cases b with
      | obj members' => simpa [same] using eq_of_sameMembers members members'
      | _ => simp [same]

theorem eq_of_sameItems : ∀ items items' : List Json, sameItems items items' = true → items = items'
  | [], items' => by cases items' <;> simp [sameItems]
  | a :: items, [] => by simp [sameItems]
  | a :: items, b :: items' => by
      simp only [sameItems, Bool.and_eq_true, List.cons.injEq, and_imp]
      exact fun first rest => ⟨eq_of_same a b first, eq_of_sameItems items items' rest⟩

theorem eq_of_sameMembers : ∀ members members' : List (Bytes × Json),
    sameMembers members members' = true → members = members'
  | [], members' => by cases members' <;> simp [sameMembers]
  | a :: members, [] => by simp [sameMembers]
  | a :: members, b :: members' => by
      simp only [sameMembers, Bool.and_eq_true, List.cons.injEq, and_imp]
      exact fun first rest => ⟨eq_of_sameMember a b first, eq_of_sameMembers members members' rest⟩

theorem eq_of_sameMember : ∀ a b : Bytes × Json, sameMember a b = true → a = b
  | (key, a), (key', b) => by
      simp only [sameMember, Bool.and_eq_true, beq_iff_eq, Prod.mk.injEq, and_imp]
      exact fun isKey isValue => ⟨isKey, eq_of_same a b isValue⟩

end

end Json
end DrogonPay
