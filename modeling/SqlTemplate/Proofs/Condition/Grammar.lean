import SqlTemplate.Condition.Term

/-!
# The grammar of conditions

What a list of tokens means is said here without a reader. Six levels, from the loosest to
the tightest:

> disjunction := conjunction (`||` conjunction)*
> conjunction := equality (`&&` equality)*
> equality := relational ((`==` | `!=` | `===` | `!==`) relational)*
> relational := unary ((`<` | `<=` | `>` | `>=`) unary)*
> unary := `!` unary | primary
> primary := literal | name | bound name | `(` disjunction `)`

Each repetition is folded to the left: what `Derives.joined` has on its left is at the same
level, and what it has on its right at the next.

A term is written with parentheses only where they are needed (`Term.toTokens`), and what is
written is derived at the level of the term (`Derives.toTokens`).
-/

namespace SqlTemplate.Condition

/-! ## Levels -/

/-- The levels of the grammar. -/
inductive Level where
  | disjunction
  | conjunction
  | equality
  | relational
  | unary
  | primary
deriving DecidableEq

namespace Level

/-- The level of the operands. -/
def operand? : Level → Option Level
  | .disjunction => some .conjunction
  | .conjunction => some .equality
  | .equality => some .relational
  | .relational => some .unary
  | .unary => some .primary
  | .primary => none

/-- How tight a level binds. -/
def rank : Level → Nat
  | .disjunction => 0
  | .conjunction => 1
  | .equality => 2
  | .relational => 3
  | .unary => 4
  | .primary => 5

/-- An operand binds one rank tighter. -/
theorem rank_of_operand? {ℓ m : Level} (h : ℓ.operand? = some m) : m.rank = ℓ.rank + 1 := by
  cases ℓ <;> cases h <;> rfl

/-- A rank belongs to one level. -/
theorem rank_injective {ℓ m : Level} (h : ℓ.rank = m.rank) : ℓ = m := by
  cases ℓ <;> cases m <;> first | rfl | cases h

/-- No level binds tighter than `primary`. -/
theorem rank_le_primary (ℓ : Level) : ℓ.rank ≤ primary.rank := by
  cases ℓ <;> decide

/-- Each level but the tightest has operands. -/
theorem exists_operand {ℓ : Level} (h : ℓ.rank < primary.rank) : ∃ m, ℓ.operand? = some m := by
  cases ℓ with
  | primary => exact absurd h (Nat.lt_irrefl _)
  | _ => exact ⟨_, rfl⟩

end Level

/-! ## Derivations -/

/-- The operators of a level, each with what it makes of its operands. -/
inductive Operator : Level → Token → (Term → Term → Term) → Prop where
  | disjunction : Operator .disjunction .disjunction .disjunction
  | conjunction : Operator .conjunction .conjunction .conjunction
  | equality {op : Comparison} :
      op ∈ [.equal, .notEqual, .strictlyEqual, .strictlyNotEqual] →
      Operator .equality (.comparison op) (Term.comparison · op ·)
  | relational {op : Comparison} :
      op ∈ [.less, .lessOrEqual, .greater, .greaterOrEqual] →
      Operator .relational (.comparison op) (Term.comparison · op ·)

/-- An operator belongs to one level. -/
theorem Operator.level_eq {ℓ m : Level} {t : Token} {join join' : Term → Term → Term}
    (h : Operator ℓ t join) (h' : Operator m t join') : ℓ = m := by
  have hdisjoint : ∀ op : Comparison, op ∈ [.equal, .notEqual, .strictlyEqual, .strictlyNotEqual] →
      op ∉ [.less, .lessOrEqual, .greater, .greaterOrEqual] := by
    intro op hop
    cases op <;> first | decide | exact absurd hop (by decide)
  cases h with
  | disjunction =>
    cases h'
    rfl
  | conjunction =>
    cases h'
    rfl
  | @equality op hop =>
    cases h' with
    | equality _ => rfl
    | relational hop' => exact absurd hop' (hdisjoint op hop)
  | @relational op hop =>
    cases h' with
    | equality hop' => exact absurd hop (hdisjoint op hop')
    | relational _ => rfl

/-- The tokens that are a term by themselves. -/
inductive Atom : Token → Term → Prop where
  | number (x : Binary64) : Atom (.number x) (.literal (numberValue x))
  | string (s : String) : Atom (.string s) (.literal (.string s))
  | bool (b : Bool) : Atom (.bool b) (.literal (.bool b))
  | null : Atom .null (.literal .null)
  | name (s : String) : Atom (.name s) (.reference s false)
  | bound (s : String) : Atom (.bound s) (.reference s true)

/-- At a level, the tokens derive the term. -/
inductive Derives : Level → List Token → Term → Prop where
  /-- An operand is a chain by itself. -/
  | operand {ℓ m : Level} {ts : List Token} {e : Term} :
      ℓ.operand? = some m → Derives m ts e → Derives ℓ ts e
  /-- A chain goes on with an operator of its level and one more operand. -/
  | joined {ℓ m : Level} {t : Token} {join : Term → Term → Term} {ts us : List Token}
      {left right : Term} :
      ℓ.operand? = some m → Operator ℓ t join → Derives ℓ ts left → Derives m us right →
      Derives ℓ (ts ++ t :: us) (join left right)
  | negation {ts : List Token} {e : Term} :
      Derives .unary ts e → Derives .unary (.negation :: ts) (.negation e)
  | atom {t : Token} {e : Term} : Atom t e → Derives .primary [t] e
  /-- Parentheses leave no trace. -/
  | group {ts : List Token} {e : Term} :
      Derives .disjunction ts e → Derives .primary (.opening :: (ts ++ [.closing])) e

theorem Derives.ne_nil {ℓ : Level} {ts : List Token} {e : Term} (h : Derives ℓ ts e) :
    ts ≠ [] := by
  induction h with
  | operand _ _ ih => exact ih
  | joined _ _ _ _ ih _ => exact List.append_ne_nil_of_left_ne_nil ih _
  | negation _ _ => exact List.cons_ne_nil _ _
  | atom _ => exact List.cons_ne_nil _ _
  | group _ _ => exact List.cons_ne_nil _ _

/-- What is derived at a level is derived at every looser one. -/
theorem Derives.loosen {ℓ m : Level} {ts : List Token} {e : Term} (hrank : ℓ.rank ≤ m.rank)
    (h : Derives m ts e) : Derives ℓ ts e := by
  -- on the number of levels between the two
  induction hgap : m.rank - ℓ.rank generalizing ℓ with
  | zero =>
    have heq : ℓ = m := Level.rank_injective (by omega)
    exact heq ▸ h
  | succ gap ih =>
    have hbelow : ℓ.rank < Level.primary.rank := by
      have htightest := m.rank_le_primary
      omega
    obtain ⟨k, hk⟩ := Level.exists_operand hbelow
    have hnext := Level.rank_of_operand? hk
    exact .operand hk (ih (by omega) (by omega))

/-! ## Writing terms -/

/-- The values that literals denote: numbers of the format, strings, truth values and
`null`. -/
def IsLiteral : Value → Prop
  | .number (.float _) => True
  | .string _ => True
  | .bool _ => True
  | .null => True
  | _ => False

namespace Term

/-- All literals are written as tokens. -/
def Writable : Term → Prop
  | .literal v => IsLiteral v
  | .reference _ _ => True
  | .negation e => e.Writable
  | .comparison left _ right => left.Writable ∧ right.Writable
  | .conjunction left right => left.Writable ∧ right.Writable
  | .disjunction left right => left.Writable ∧ right.Writable

/-- The level of a comparison. -/
def comparisonLevel : Comparison → Level
  | .less | .lessOrEqual | .greater | .greaterOrEqual => .relational
  | .equal | .notEqual | .strictlyEqual | .strictlyNotEqual => .equality

/-- A comparison is an operator of its level. -/
theorem comparison_operator (op : Comparison) : ∃ m, (comparisonLevel op).operand? = some m ∧
    Operator (comparisonLevel op) (.comparison op) (Term.comparison · op ·) := by
  cases op with
  | equal | notEqual | strictlyEqual | strictlyNotEqual =>
    exact ⟨.relational, rfl, .equality (by decide)⟩
  | less | lessOrEqual | greater | greaterOrEqual =>
    exact ⟨.unary, rfl, .relational (by decide)⟩

/-- The tightest level at which a term can stand without parentheses. -/
def level : Term → Level
  | .literal _ => .primary
  | .reference _ _ => .primary
  | .negation _ => .unary
  | .comparison _ op _ => comparisonLevel op
  | .conjunction _ _ => .conjunction
  | .disjunction _ _ => .disjunction

/-- The tokens `ts` of a term at a place that asks for a rank: in parentheses if the term
is looser. -/
def placed (e : Term) (rank : Nat) (ts : List Token) : List Token :=
  if rank ≤ e.level.rank then ts else .opening :: (ts ++ [.closing])

/-- The tokens of two operands with an operator of the level between them. The one on the
right has to be tighter. -/
def joinedTokens (ℓ : Level) (t : Token) (left right : Term) (us vs : List Token) : List Token :=
  left.placed ℓ.rank us ++ t :: right.placed (ℓ.rank + 1) vs

/-- The token of a literal. Values that no literal denotes are written as `null`. -/
def literalToken : Value → Token
  | .number (.float x) => .number (.finite x)
  | .string s => .string s
  | .bool b => .bool b
  | _ => .null

/-- Writes a term with parentheses only where precedence requires them. -/
def toTokens : Term → List Token
  | .literal v => [literalToken v]
  | .reference name bound => [if bound then .bound name else .name name]
  | .negation e => .negation :: e.placed Level.unary.rank e.toTokens
  | .comparison left op right =>
    joinedTokens (comparisonLevel op) (.comparison op) left right left.toTokens right.toTokens
  | .conjunction left right =>
    joinedTokens .conjunction .conjunction left right left.toTokens right.toTokens
  | .disjunction left right =>
    joinedTokens .disjunction .disjunction left right left.toTokens right.toTokens

end Term

namespace Derives

open Term

/-- A term can be put at any level, with the parentheses that it needs there. -/
theorem placed {ℓ : Level} {e : Term} {ts : List Token} (h : Derives e.level ts e) :
    Derives ℓ (e.placed ℓ.rank ts) e := by
  unfold Term.placed
  split
  next hrank => exact h.loosen hrank
  -- inside parentheses any level will do
  next => exact (group (h.loosen (Nat.zero_le _))).loosen ℓ.rank_le_primary

/-- Two terms that are derived can be joined by an operator. -/
theorem joinedTokens {ℓ m : Level} {t : Token} {join : Term → Term → Term} {left right : Term}
    {us vs : List Token} (hm : ℓ.operand? = some m) (ht : Operator ℓ t join)
    (hleft : Derives left.level us left) (hright : Derives right.level vs right) :
    Derives ℓ (Term.joinedTokens ℓ t left right us vs) (join left right) := by
  have hplaced : Derives m (right.placed (ℓ.rank + 1) vs) right := by
    rw [← Level.rank_of_operand? hm]
    exact hright.placed
  exact joined hm ht hleft.placed hplaced

/-- A literal is derived from its token. -/
theorem literalToken {v : Value} (hv : IsLiteral v) :
    Derives .primary [Term.literalToken v] (.literal v) := by
  cases v with
  | null => exact atom .null
  | bool b => exact atom (.bool b)
  | number n =>
    cases n with
    | integer _ _ => exact hv.elim
    | float x => exact atom (.number (.finite x))
  | string s => exact atom (.string s)
  | array _ => exact hv.elim
  | object _ => exact hv.elim

/-- What is written for a term is derived at its level. -/
theorem toTokens {e : Term} (h : e.Writable) : Derives e.level e.toTokens e := by
  induction e with
  | literal v => exact literalToken h
  | reference name bound =>
    cases bound with
    | false => exact atom (.name name)
    | true => exact atom (.bound name)
  | negation e ih => exact negation (ih h).placed
  | comparison left op right ihleft ihright =>
    obtain ⟨m, hm, hop⟩ := comparison_operator op
    exact joinedTokens hm hop (ihleft h.1) (ihright h.2)
  | conjunction left right ihleft ihright =>
    exact joinedTokens rfl .conjunction (ihleft h.1) (ihright h.2)
  | disjunction left right ihleft ihright =>
    exact joinedTokens rfl .disjunction (ihleft h.1) (ihright h.2)

end Derives

/-- What is compared on the left needs no parentheses, on the right it does. -/
example :
    let a : Term := .reference "a" false
    let b : Term := .reference "b" true
    Term.toTokens (.comparison (.comparison a .equal b) .equal (.comparison a .equal b)) =
      [.name "a", .comparison .equal, .bound "b", .comparison .equal, .opening, .name "a",
        .comparison .equal, .bound "b", .closing] := by
  rfl

end SqlTemplate.Condition
