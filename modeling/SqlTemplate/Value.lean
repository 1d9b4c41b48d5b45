import SqlTemplate.Keyed
import SqlTemplate.Numeric.Binary64

/-!
# Data values

The data a statement is rendered against, and the parameters bound by it, are
JSON values. Integers and binary64 numbers are different values even where they
denote the same number. An object lists its fields in key order.
-/

namespace SqlTemplate

/-- Whether an integer fits 64 bits, signed when negative. -/
abbrev Fits64 (n : Int) : Prop := -0x8000000000000000 ≤ n ∧ n < 0x10000000000000000

/-- A number: an integer that fits 64 bits, signed when negative, or a binary64 number. -/
inductive Number where
  | integer (n : Int) (range : Fits64 n)
  | float (x : Finite64)
deriving DecidableEq

/-- A JSON value. -/
inductive Value where
  | null
  | bool (b : Bool)
  | number (n : Number)
  | string (s : String)
  | array (items : List Value)
  | object (fields : List (String × Value))
deriving Inhabited

namespace Number

/-- The integer `n`, where it fits. -/
def ofInt? (n : Int) : Option Number :=
  if h : Fits64 n then some (.integer n h) else none

/-- The nearest binary64 number. -/
def toBinary64 : Number → Binary64
  | .integer n _ => .ofInt n
  | .float x => .finite x

/-- Equality as data: an integer never equals a float, and the two zeros are one float. -/
def same : Number → Number → Bool
  | .integer a _, .integer b _ => a == b
  | .float x, .float y => x.order == y.order
  | _, _ => false

@[simp] theorem same_self (n : Number) : n.same n = true := by
  cases n <;> simp [same]

theorem same_comm (a b : Number) : a.same b = b.same a := by
  cases a <;> cases b <;> simp only [same] <;> exact Bool.beq_comm

end Number

namespace Value

/-- The integer `n` as a value; numbers of elements and characters always fit. -/
def ofCount (n : Nat) : Value :=
  match Number.ofInt? n with
  | some count => .number count
  | none => .null

mutual

/-- Equality as data. -/
def same : Value → Value → Bool
  | .null, .null => true
  | .bool a, .bool b => a == b
  | .number a, .number b => a.same b
  | .string a, .string b => a == b
  | .array xs, .array ys => sameItems xs ys
  | .object xs, .object ys => sameFields xs ys
  | _, _ => false

/-- Equality of two lists of values, element by element. -/
def sameItems : List Value → List Value → Bool
  | [], [] => true
  | x :: xs, y :: ys => same x y && sameItems xs ys
  | _, _ => false

/-- Equality of two lists of fields, entry by entry. -/
def sameFields : List (String × Value) → List (String × Value) → Bool
  | [], [] => true
  | (k, x) :: xs, (l, y) :: ys => k == l && same x y && sameFields xs ys
  | _, _ => false

end

mutual

@[simp] theorem same_self : ∀ v : Value, same v v = true
  | .null => by simp [same]
  | .bool b => by simp [same]
  | .number n => by simp [same]
  | .string s => by simp [same]
  | .array xs => by simp [same, sameItems_self xs]
  | .object xs => by simp [same, sameFields_self xs]

theorem sameItems_self : ∀ xs : List Value, sameItems xs xs = true
  | [] => by simp [sameItems]
  | x :: xs => by simp [sameItems, same_self x, sameItems_self xs]

theorem sameFields_self : ∀ xs : List (String × Value), sameFields xs xs = true
  | [] => by simp [sameFields]
  | (k, x) :: xs => by simp [sameFields, same_self x, sameFields_self xs]

end

end Value

end SqlTemplate
