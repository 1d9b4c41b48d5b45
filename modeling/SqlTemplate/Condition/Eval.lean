import SqlTemplate.Condition.Lexer
import SqlTemplate.Condition.Term

/-!
# Evaluating a condition

A condition is evaluated against a data context and its result read as true or
false. A bound name that the context lacks is `null`; a bare one is a fault,
unless the same name is bound somewhere in the condition, or it is a path whose
root is known. Conditions are closed on failure: whatever fault occurs, the
condition does not pass.
-/

namespace SqlTemplate

namespace Value

open SqlTemplate.Condition (Kind)

/-- The kind of a value. -/
def kind : Value → Kind
  | .null => .null
  | .bool _ => .boolean
  | .number _ => .number
  | .string _ => .string
  | .array _ => .array
  | .object _ => .object

/-- The number that a value denotes in a comparison: truth values are 0 and 1, a
blank string is 0 and any other is read as a numeral. -/
def numeric? : Value → Option Binary64
  | .number n => some n.toBinary64
  | .bool b => some (.ofInt (if b then 1 else 0))
  | .string s =>
    let body := Text.trimmed s.toList
    some (if body.isEmpty then .ofInt 0 else (Binary64.read? body).getD .nan)
  | _ => none

/-- Equality across kinds: `null` equals only itself, arrays and objects compare
as data, and otherwise different kinds compare as numbers. -/
def looselyEqual (l r : Value) : Bool :=
  match l, r with
  | .null, .null => true
  | .null, _ => false
  | _, .null => false
  | .string a, .string b => a == b
  | .bool a, .bool b => a == b
  | .array xs, r => same (.array xs) r
  | .object xs, r => same (.object xs) r
  | l, .array ys => same l (.array ys)
  | l, .object ys => same l (.object ys)
  | l, r =>
    match l.numeric?, r.numeric? with
    | some a, some b => a.equals b
    | _, _ => false

/-- Equality within a kind: numbers compare as numbers, all else as data. -/
def strictlyEqual (l r : Value) : Bool :=
  match l, r with
  | .number a, .number b => a.toBinary64.equals b.toBinary64
  | l, r => same l r

/-- The order of two texts by code point. -/
def compareText (a b : String) : Ordering :=
  if a < b then .lt else if a = b then .eq else .gt

end Value

namespace Condition

/-- How two values compare: texts by code point, a number with a number or a text
as numbers, where what is not a number compares with nothing. -/
def order (l r : Value) : Except Fault (Option Ordering) :=
  match l, r with
  | .string a, .string b => .ok (some (Value.compareText a b))
  | .number a, .number b => .ok (a.toBinary64.compare? b.toBinary64)
  | .number a, .string b =>
    .ok (((Value.string b).numeric?).bind a.toBinary64.compare?)
  | .string a, .number b =>
    .ok (((Value.string a).numeric?).bind (·.compare? b.toBinary64))
  | l, r => .error (.incomparable l.kind r.kind)

/-- The answer of a comparison. -/
def compare (op : Comparison) (l r : Value) : Except Fault Bool :=
  match op with
  | .equal => .ok (l.looselyEqual r)
  | .notEqual => .ok !(l.looselyEqual r)
  | .strictlyEqual => .ok (l.strictlyEqual r)
  | .strictlyNotEqual => .ok !(l.strictlyEqual r)
  | .less => (order l r).map (· == some .lt)
  | .lessOrEqual => (order l r).map fun o => o == some .lt || o == some .eq
  | .greater => (order l r).map (· == some .gt)
  | .greaterOrEqual => (order l r).map fun o => o == some .gt || o == some .eq

/-- The part of a name before its first dot, if it has one. -/
def root? (name : String) : Option String :=
  if '.' ∈ name.toList then some (String.ofList (name.toList.takeWhile (· != '.'))) else none

/-- The value of a name, where the names in `defaults` are `null` when absent. -/
def resolveName (defaults : List String) (context : Value) (name : String) (bound : Bool) :
    Except Fault Value :=
  match context.lookup name with
  | some v => .ok v
  | none =>
    if bound || defaults.contains name then .ok .null
    else match root? name with
      | some root =>
        if (context.lookup root).isSome || defaults.contains root then .ok .null
        else .error (.undefinedName name)
      | none => .error (.undefinedName name)

/-- The value of a condition. The second operand of `&&` and `||` is evaluated only
if the first does not decide. -/
def Term.eval (defaults : List String) (context : Value) : Term → Except Fault Value
  | .literal v => .ok v
  | .reference name bound => resolveName defaults context name bound
  | .negation t => do
    let v ← t.eval defaults context
    return .bool !v.isTruthy
  | .conjunction left right => do
    let l ← left.eval defaults context
    if l.isTruthy then
      let r ← right.eval defaults context
      return .bool r.isTruthy
    else return .bool false
  | .disjunction left right => do
    let l ← left.eval defaults context
    if l.isTruthy then return .bool true
    else
      let r ← right.eval defaults context
      return .bool r.isTruthy
  | .comparison left op right => do
    let l ← left.eval defaults context
    let r ← right.eval defaults context
    return .bool (← compare op l r)

/-- The names that stand after a colon among some tokens. -/
def boundNames (ts : List Token) : List String :=
  ts.filterMap fun
    | .bound name => some name
    | _ => none

end Condition

/-- A condition that has been read: its structure, and the names that it binds. -/
structure Condition where
  term : Condition.Term
  defaults : List String

namespace Condition

/-- Reads a condition. -/
def parse (source : String) : Except Fault Condition := do
  let ts ← tokens source
  let term ← Term.ofTokens ts
  return ⟨term, boundNames ts⟩

/-- Whether a condition holds of a context. -/
def eval (condition : Condition) (context : Value) : Except Fault Bool := do
  let v ← condition.term.eval condition.defaults context
  return v.isTruthy

/-- Reads and evaluates a condition. -/
def evaluate (source : String) (context : Value) : Except Fault Bool := do
  let condition ← parse source
  condition.eval context

/-- Whether a condition holds; with any fault it does not. -/
def passes (source : String) (context : Value) : Bool :=
  match evaluate source context with
  | .ok answer => answer
  | .error _ => false

end Condition

end SqlTemplate
