import SqlTemplate.Condition.Token

/-!
# The structure of a condition

`!` binds tightest, then the comparisons that ask for an order, then the other
comparisons, then `&&`, then `||`; all of them group to the left. The reader
follows the grammar level by level: each level is a chain of operands of the
next one, joined by the operators of its own.
-/

namespace SqlTemplate.Condition

/-- A condition as a tree. -/
inductive Term where
  | literal (v : Value)
  /-- What a name denotes; `bound` tells whether a colon stood before it. -/
  | reference (name : String) (bound : Bool)
  | negation (t : Term)
  | comparison (left : Term) (op : Comparison) (right : Term)
  | conjunction (left right : Term)
  | disjunction (left right : Term)

/-- Reads something at the head of a list of tokens and returns the rest. -/
abbrev Reader (α : Type) := List Token → Except Fault (α × List Token)

/-- The operators of one level, each with the way it joins two operands. -/
abbrev Joins := Token → Option (Term → Term → Term)

/-- The comparisons that ask for an order. -/
def relationalJoins : Joins
  | .comparison op => if op.isRelational then some (Term.comparison · op ·) else none
  | _ => none

/-- The comparisons that ask for equality. -/
def equalityJoins : Joins
  | .comparison op => if op.isRelational then none else some (Term.comparison · op ·)
  | _ => none

/-- `&&`. -/
def conjunctionJoins : Joins
  | .conjunction => some .conjunction
  | _ => none

/-- `||`. -/
def disjunctionJoins : Joins
  | .disjunction => some .disjunction
  | _ => none

/-- Goes on with a chain after its first part. Each further part takes a token at
least, so as many steps as there are tokens suffice. -/
def readJoined (operand : Reader Term) (joins : Joins) : Nat → Term → Reader Term
  | 0, left, ts => .ok (left, ts)
  | _ + 1, left, [] => .ok (left, [])
  | steps + 1, left, t :: ts =>
    match joins t with
    | none => .ok (left, t :: ts)
    | some join =>
      match operand ts with
      | .error fault => .error fault
      | .ok (right, rest) => readJoined operand joins steps (join left right) rest

/-- Reads operands with operators of one level between them, grouped to the left. -/
def readChain (joins : Joins) (operand : Reader Term) : Reader Term := fun ts =>
  match operand ts with
  | .error fault => .error fault
  | .ok (first, rest) => readJoined operand joins rest.length first rest

/-- Reads a whole condition, given how its operands are read. -/
def readLevels (operand : Reader Term) : Reader Term :=
  readChain disjunctionJoins <| readChain conjunctionJoins <|
    readChain equalityJoins <| readChain relationalJoins operand

/-- The value that a number in a condition denotes; one too large for the format
counts as `null`. -/
def numberValue : Binary64 → Value
  | .finite x => .number (.float x)
  | _ => .null

/-- Reads an operand, given how those inside it are read: a value, or `!` and an
operand, or a condition in parentheses. -/
def operandWith (inside : Reader Term) : Reader Term
  | [] => .error .unexpectedEnd
  | t :: rest =>
    match t with
    | .number x => .ok (.literal (numberValue x), rest)
    | .string s => .ok (.literal (.string s), rest)
    | .bool b => .ok (.literal (.bool b), rest)
    | .null => .ok (.literal .null, rest)
    | .name s => .ok (.reference s false, rest)
    | .bound s => .ok (.reference s true, rest)
    | .negation =>
      match inside rest with
      | .error fault => .error fault
      | .ok (inner, rest) => .ok (.negation inner, rest)
    | .opening =>
      match readLevels inside rest with
      | .error fault => .error fault
      | .ok (inner, .closing :: rest) => .ok (inner, rest)
      | .ok (_, found :: _) => .error (.unexpected found .closing)
      | .ok (_, []) => .error .unexpectedEnd
    | found => .error (.unexpected found .value)

/-- Reads an operand. Operands stand inside one another at most as deep as there are
tokens. -/
def readOperand : (depth : Nat) → Reader Term
  | 0, _ => .error .unexpectedEnd
  | depth + 1, ts => operandWith (readOperand depth) ts

/-- The condition that a list of tokens makes up. -/
def Term.ofTokens (ts : List Token) : Except Fault Term :=
  if ts.isEmpty then .error .empty
  else match readLevels (readOperand ts.length) ts with
    | .error fault => .error fault
    | .ok (term, []) => .ok term
    | .ok (_, found :: _) => .error (.unexpected found .nothing)

end SqlTemplate.Condition
