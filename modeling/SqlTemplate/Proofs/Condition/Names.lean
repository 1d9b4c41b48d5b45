import SqlTemplate.Condition.Eval
import SqlTemplate.Proofs.Condition.Parsing

/-!
# The names of a condition

A condition sees its context through its names only. `Term.value` is the value of a
condition, given what every name denotes with a colon before it and without one. Evaluating
against a context is the case in which names are looked up there (`eval_eq_value`), so what
is proved about a condition in two contexts is proved about its names:

> `value_congr`: the value is the same wherever bare names denote the same and so do the
> names that the condition binds.

Which names those are can be read off the tokens. Structure neither adds nor drops any:

> `boundNames_of_derives`: the names bound by a term are those behind a colon among the
> tokens that derive it.
-/

namespace SqlTemplate.Condition

/-! ## What names denote -/

/-- What the names of a condition denote; the flag tells whether a colon stands before it. -/
abbrev Denotation := String → Bool → Except Fault Value

/-- The value of a condition, given what its names denote. -/
def Term.value (denotes : Denotation) : Term → Except Fault Value
  | .literal v => .ok v
  | .reference name bound => denotes name bound
  | .negation t => do
    let v ← t.value denotes
    return .bool !v.isTruthy
  | .conjunction left right => do
    let l ← left.value denotes
    if l.isTruthy then
      let r ← right.value denotes
      return .bool r.isTruthy
    else return .bool false
  | .disjunction left right => do
    let l ← left.value denotes
    if l.isTruthy then return .bool true
    else
      let r ← right.value denotes
      return .bool r.isTruthy
  | .comparison left op right => do
    let l ← left.value denotes
    let r ← right.value denotes
    return .bool (← compare op l r)

namespace Term

/-- Evaluating looks names up. -/
theorem eval_eq_value (defaults : List String) (context : Value) (t : Term) :
    t.eval defaults context = t.value (resolveName defaults context) := by
  induction t with
  | literal v => rfl
  | reference name bound => rfl
  | negation t ih => rw [eval, value, ih]
  | comparison left op right ihleft ihright => rw [eval, value, ihleft, ihright]
  | conjunction left right ihleft ihright => rw [eval, value, ihleft, ihright]
  | disjunction left right ihleft ihright => rw [eval, value, ihleft, ihright]

/-- The names that stand behind a colon in a condition, from left to right. -/
def boundNames : Term → List String
  | .literal _ => []
  | .reference name bound => if bound then [name] else []
  | .negation t => t.boundNames
  | .comparison left _ right => left.boundNames ++ right.boundNames
  | .conjunction left right => left.boundNames ++ right.boundNames
  | .disjunction left right => left.boundNames ++ right.boundNames

/-- The value depends on what bare names denote, and the bound names of the condition. -/
theorem value_congr {denotes denotes' : Denotation} {t : Term}
    (hbare : ∀ name, denotes name false = denotes' name false)
    (hbound : ∀ name ∈ t.boundNames, denotes name true = denotes' name true) :
    t.value denotes = t.value denotes' := by
  induction t with
  | literal v => rfl
  | reference name bound =>
    cases bound with
    | false => exact hbare name
    | true => exact hbound name (List.mem_singleton_self name)
  | negation t ih => rw [value, value, ih hbound]
  | comparison left op right ihleft ihright =>
    obtain ⟨hleft, hright⟩ := List.forall_mem_append.mp hbound
    rw [value, value, ihleft hleft, ihright hright]
  | conjunction left right ihleft ihright =>
    obtain ⟨hleft, hright⟩ := List.forall_mem_append.mp hbound
    rw [value, value, ihleft hleft, ihright hright]
  | disjunction left right ihleft ihright =>
    obtain ⟨hleft, hright⟩ := List.forall_mem_append.mp hbound
    rw [value, value, ihleft hleft, ihright hright]

end Term

/-! ## Bound names among tokens -/

theorem boundNames_append (ts us : List Token) :
    boundNames (ts ++ us) = boundNames ts ++ boundNames us := List.filterMap_append

/-- An operator between two stretches of tokens binds nothing. -/
theorem boundNames_operator {ℓ : Level} {t : Token} {join : Term → Term → Term}
    (h : Operator ℓ t join) (ts us : List Token) :
    boundNames (ts ++ t :: us) = boundNames ts ++ boundNames us := by
  rw [boundNames_append]
  cases h <;> rfl

theorem Operator.boundNames_join {ℓ : Level} {t : Token} {join : Term → Term → Term}
    (h : Operator ℓ t join) (left right : Term) :
    (join left right).boundNames = left.boundNames ++ right.boundNames := by
  cases h <;> rfl

/-- An atom binds its own name if it stands behind a colon. -/
theorem Atom.boundNames {t : Token} {e : Term} (h : Atom t e) :
    e.boundNames = Condition.boundNames [t] := by
  cases h <;> rfl

/-- A term binds the names that stand behind a colon among its tokens. -/
theorem boundNames_of_derives {ℓ : Level} {ts : List Token} {e : Term} (h : Derives ℓ ts e) :
    e.boundNames = boundNames ts := by
  induction h with
  | operand _ _ ih => exact ih
  | joined _ ht _ _ ihleft ihright =>
    rw [ht.boundNames_join, boundNames_operator ht, ihleft, ihright]
  | negation _ ih => exact ih
  | atom ht => exact ht.boundNames
  -- parentheses are no names
  | @group ts e _ ih =>
    have hclosing : boundNames (ts ++ [.closing]) = boundNames ts := by
      rw [boundNames_append]
      exact List.append_nil _
    exact ih.trans hclosing.symm

end SqlTemplate.Condition
