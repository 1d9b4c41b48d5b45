import SqlTemplate.Condition.Eval
import SqlTemplate.Proofs.Numeric.Binary64

/-!
# The comparisons agree with each other

Equality and order are told apart by the kinds of the two values, each in its own way. Both come
to the same questions: two strings are compared as texts, two values that denote numbers as
numbers, and all else as data or not at all.

> `looselyEqual_eq`: equality across kinds is equality of numbers or of data.
> `order_eq`: an order is one of texts or of numbers, and refused where a value has none.
> `comparisons_cohere`: the operators answer as one order would, in which only what is not a
> number stands beside every number.
-/

namespace SqlTemplate

namespace Value

open SqlTemplate.Condition (Kind)

/-! ## Equality as data -/

/-- Values of different kinds are different data. -/
theorem same_of_kind_ne {v w : Value} (h : v.kind ≠ w.kind) : same v w = false := by
  cases v <;> cases w <;> first | rfl | exact absurd rfl h

mutual

/-- Being the same data does not depend on the side. -/
theorem same_comm : ∀ v w : Value, same v w = same w v
  -- on the left value; beside a value of another kind both sides are false
  | .null, w => by cases w <;> rfl
  | .bool a, w => by
    cases w with
    | bool b => exact Bool.beq_comm
    | _ => rfl
  | .number a, w => by
    cases w with
    | number b => exact Number.same_comm a b
    | _ => rfl
  | .string a, w => by
    cases w with
    | string b => exact Bool.beq_comm
    | _ => rfl
  | .array xs, w => by
    cases w with
    | array ys => exact sameItems_comm xs ys
    | _ => rfl
  | .object xs, w => by
    cases w with
    | object ys => exact sameFields_comm xs ys
    | _ => rfl

theorem sameItems_comm : ∀ xs ys : List Value, sameItems xs ys = sameItems ys xs
  | [], ys => by cases ys <;> rfl
  | x :: xs, ys => by
    cases ys with
    | nil => rfl
    | cons y ys => rw [sameItems, sameItems, same_comm x y, sameItems_comm xs ys]

theorem sameFields_comm : ∀ xs ys : List (String × Value), sameFields xs ys = sameFields ys xs
  | [], ys => by cases ys <;> rfl
  | (k, x) :: xs, ys => by
    cases ys with
    | nil => rfl
    | cons entry ys =>
      rw [sameFields, sameFields, same_comm x entry.2, sameFields_comm xs ys, Bool.beq_comm]

end

/-! ## The numbers that values denote -/

/-- How the numbers compare that two values denote. -/
def compareNumbers (l r : Value) : Option Ordering :=
  match l.numeric?, r.numeric? with
  | some x, some y => x.compare? y
  | _, _ => none

/-- From the other side the numbers compare the other way round. -/
theorem compareNumbers_swap (l r : Value) :
    r.compareNumbers l = (l.compareNumbers r).map Ordering.swap := by
  unfold compareNumbers
  cases l.numeric? with
  | none => cases r.numeric? <;> rfl
  | some x =>
    cases r.numeric? with
    | none => rfl
    | some y => exact Binary64.compare?_swap x y

/-- Equality of the numbers that two values denote. -/
def sameNumber (l r : Value) : Bool := l.compareNumbers r == some .eq

theorem sameNumber_comm (l r : Value) : l.sameNumber r = r.sameNumber l := by
  rw [sameNumber, sameNumber, compareNumbers_swap l r]
  cases l.compareNumbers r with
  | none => rfl
  | some o => cases o <;> rfl

/-- A number is never what is not a number, so it equals itself. -/
theorem sameNumber_self {v : Value} (h : v.kind = .number) : v.sameNumber v = true := by
  cases v with
  | number n => exact beq_iff_eq.mpr (Binary64.compare?_self n.toBinary64_ne_nan)
  | _ => cases h

/-! ## Equality across kinds -/

/-- Whether equality of two values is equality of the numbers they denote: of two numbers, and
of values of two kinds out of truth values, numbers and strings. -/
def areEqualAsNumbers (l r : Value) : Bool :=
  match l.kind, r.kind with
  | .number, .number => true
  | .boolean, .number | .boolean, .string | .number, .boolean => true
  | .number, .string | .string, .boolean | .string, .number => true
  | _, _ => false

/-- Equality across kinds is equality of numbers, where that makes sense, or of data. -/
theorem looselyEqual_eq (l r : Value) :
    l.looselyEqual r = if l.areEqualAsNumbers r then l.sameNumber r else l.same r := by
  cases l <;> cases r <;> rfl

/-- Equality within a kind is equality of numbers between numbers, and of data elsewhere. -/
theorem strictlyEqual_eq (l r : Value) :
    l.strictlyEqual r =
      if l.kind == .number && r.kind == .number then l.sameNumber r else l.same r := by
  cases l <;> cases r <;> rfl

theorem areEqualAsNumbers_comm (l r : Value) :
    l.areEqualAsNumbers r = r.areEqualAsNumbers l := by
  unfold areEqualAsNumbers
  cases l.kind <;> cases r.kind <;> rfl

theorem looselyEqual_comm (l r : Value) : l.looselyEqual r = r.looselyEqual l := by
  rw [looselyEqual_eq, looselyEqual_eq, areEqualAsNumbers_comm, sameNumber_comm, same_comm]

theorem strictlyEqual_comm (l r : Value) : l.strictlyEqual r = r.strictlyEqual l := by
  rw [strictlyEqual_eq, strictlyEqual_eq, Bool.and_comm, sameNumber_comm, same_comm]

theorem strictlyEqual_self (v : Value) : v.strictlyEqual v = true := by
  rw [strictlyEqual_eq, Bool.and_self]
  split
  -- a number, and then all other data
  next h => exact sameNumber_self (beq_iff_eq.mp h)
  next => exact same_self v

/-- Within a kind both equalities are one. -/
theorem looselyEqual_of_kind_eq {l r : Value} (h : l.kind = r.kind) :
    l.looselyEqual r = l.strictlyEqual r := by
  have hnumbers : l.areEqualAsNumbers r = (l.kind == .number && r.kind == .number) := by
    unfold areEqualAsNumbers
    rw [← h]
    cases l.kind <;> rfl
  rw [looselyEqual_eq, strictlyEqual_eq, hnumbers]

theorem looselyEqual_self (v : Value) : v.looselyEqual v = true := by
  rw [looselyEqual_of_kind_eq rfl, strictlyEqual_self]

/-- What is equal within a kind is of that kind. -/
theorem kind_eq_of_strictlyEqual {l r : Value} (h : l.strictlyEqual r = true) :
    l.kind = r.kind := by
  by_contra hkind
  have hnumbers : ¬ (l.kind == .number && r.kind == .number) = true := by
    intro hboth
    rw [Bool.and_eq_true, beq_iff_eq, beq_iff_eq] at hboth
    exact hkind (hboth.1.trans hboth.2.symm)
  rw [strictlyEqual_eq, if_neg hnumbers, same_of_kind_ne hkind] at h
  cases h

/-- What is equal within a kind is equal. -/
theorem looselyEqual_of_strictlyEqual {l r : Value} (h : l.strictlyEqual r = true) :
    l.looselyEqual r = true := by
  rw [looselyEqual_of_kind_eq (kind_eq_of_strictlyEqual h), h]

/-! ## Order -/

/-- How two texts compare; other values are no texts. -/
def compareTexts : Value → Value → Option Ordering
  | .string a, .string b => some (compareText a b)
  | _, _ => none

/-- How two values with an order compare: two strings as texts, all others as numbers. -/
def ordering (l r : Value) : Option Ordering :=
  if l.kind == .string && r.kind == .string then l.compareTexts r else l.compareNumbers r

/-- Whether a value has an order: numbers and strings do. -/
def isOrdered (v : Value) : Bool := v.kind == .number || v.kind == .string

/-- The kinds without an order. -/
theorem isOrdered_eq_false_iff {v : Value} :
    v.isOrdered = false ↔ v.kind ∈ [.null, .boolean, .array, .object] := by
  unfold isOrdered
  cases v.kind <;> decide

/-- Texts have one order, by code point. -/
theorem compareText_eq_compare (a b : String) : compareText a b = compare a b := rfl

theorem compareTexts_swap (l r : Value) :
    r.compareTexts l = (l.compareTexts r).map Ordering.swap := by
  cases l with
  | string a =>
    cases r with
    | string b =>
      have hswap : compare b a = (compare a b).swap := Std.OrientedCmp.eq_swap
      exact congrArg some hswap
    | _ => rfl
  | _ => cases r <;> rfl

theorem ordering_swap (l r : Value) : r.ordering l = (l.ordering r).map Ordering.swap := by
  rw [ordering, ordering, Bool.and_comm]
  split
  next => exact compareTexts_swap l r
  next => exact compareNumbers_swap l r

/-- Where values have an order, they are equal as far as it goes. -/
theorem looselyEqual_eq_ordering {l r : Value} (hl : l.isOrdered = true)
    (hr : r.isOrdered = true) : l.looselyEqual r = (l.ordering r == some .eq) := by
  cases l with
  | string a =>
    cases r with
    | string b =>
      -- two strings: they are equal as data exactly if they are equal as texts
      have heq : compare a b = .eq ↔ a = b := Std.LawfulEqCmp.compare_eq_iff_eq
      change (a == b) = (some (compareText a b) == some .eq)
      rw [Bool.eq_iff_iff, beq_iff_eq, beq_iff_eq, Option.some_inj, compareText_eq_compare, heq]
    | number n => rfl
    | _ => cases hr
  | number m =>
    cases r with
    | string b => rfl
    | number n => rfl
    | _ => cases hr
  | _ => cases hl

/-- A string that reads as what is not a number, beside a number. -/
def NotANumberBeside (l r : Value) : Prop :=
  (l.kind = .string ∧ l.numeric? = some .nan ∧ r.kind = .number) ∨
    (l.kind = .number ∧ r.kind = .string ∧ r.numeric? = some .nan)

/-- Only what is not a number has no place in the order. -/
theorem ordering_eq_none_iff {l r : Value} (hl : l.isOrdered = true) (hr : r.isOrdered = true) :
    l.ordering r = none ↔ l.NotANumberBeside r := by
  cases l with
  | string a =>
    cases r with
    | string b => simp [ordering, compareTexts, kind, NotANumberBeside]
    | number n =>
      refine Binary64.compare?_eq_none_iff.trans ?_
      simp [NotANumberBeside, kind, numeric?, n.toBinary64_ne_nan]
    | _ => cases hr
  | number m =>
    cases r with
    | string b =>
      refine Binary64.compare?_eq_none_iff.trans ?_
      simp [NotANumberBeside, kind, numeric?, m.toBinary64_ne_nan]
    | number n =>
      refine Binary64.compare?_eq_none_iff.trans ?_
      simp [NotANumberBeside, kind, m.toBinary64_ne_nan, n.toBinary64_ne_nan]
    | _ => cases hr
  | _ => cases hl

end Value

namespace Condition

/-- An order is refused where a side has none. -/
theorem order_eq (l r : Value) :
    order l r =
      if l.isOrdered && r.isOrdered then .ok (l.ordering r)
      else .error (.incomparable l.kind r.kind) := by
  cases l <;> cases r <;> rfl

/-- The orderings with which a relational comparison holds. -/
def Comparison.accepts : Comparison → Option Ordering → Bool
  | .less, o => o == some .lt
  | .lessOrEqual, o => o == some .lt || o == some .eq
  | .greater, o => o == some .gt
  | .greaterOrEqual, o => o == some .gt || o == some .eq
  | _, _ => false

/-- A relational comparison asks for the order and accepts some of its answers. -/
theorem compare_relational {op : Comparison} (hop : op.isRelational = true) (l r : Value) :
    compare op l r =
      if l.isOrdered && r.isOrdered then .ok (op.accepts (l.ordering r))
      else .error (.incomparable l.kind r.kind) := by
  have hmap : compare op l r = (order l r).map op.accepts := by
    cases op <;> first | rfl | cases hop
  rw [hmap, order_eq]
  split <;> rfl

/-- A comparison holds. -/
def Holds (op : Comparison) (l r : Value) : Prop := compare op l r = .ok true

/-- A comparison has no answer. -/
def Faults (op : Comparison) (l r : Value) : Prop := ∃ fault, compare op l r = .error fault

/-- All relational comparisons fault at the same values. -/
theorem faults_iff {op : Comparison} (hop : op.isRelational = true) (l r : Value) :
    Faults op l r ↔
      l.kind ∈ [.null, .boolean, .array, .object] ∨ r.kind ∈ [.null, .boolean, .array, .object] := by
  rw [← Value.isOrdered_eq_false_iff, ← Value.isOrdered_eq_false_iff, ← Bool.and_eq_false_iff,
    Faults, compare_relational hop]
  cases l.isOrdered && r.isOrdered <;> simp

/-- Between values with an order a relational comparison asks how they stand in it. -/
theorem holds_iff_accepts {op : Comparison} (hop : op.isRelational = true) {l r : Value}
    (hl : l.isOrdered = true) (hr : r.isOrdered = true) :
    Holds op l r ↔ op.accepts (l.ordering r) = true := by
  rw [Holds, compare_relational hop, hl, hr, Bool.and_self, if_pos rfl, Except.ok.injEq]

theorem holds_equal_iff {l r : Value} : Holds .equal l r ↔ l.looselyEqual r = true := by
  rw [Holds, compare, Except.ok.injEq]

theorem holds_strictlyEqual_iff {l r : Value} :
    Holds .strictlyEqual l r ↔ l.strictlyEqual r = true := by
  rw [Holds, compare, Except.ok.injEq]

theorem isOrdered_of_not_faults {l r : Value} (h : ¬ Faults .less l r) :
    l.isOrdered = true ∧ r.isOrdered = true := by
  rw [faults_iff rfl, not_or, ← Value.isOrdered_eq_false_iff, ← Value.isOrdered_eq_false_iff] at h
  simpa using h

/-- **The comparisons cohere.** Both equalities are reflexive and symmetric, and the strict one
implies the loose one. An order is refused exactly where a side is `null`, a truth value, an
array or an object. Elsewhere the operators answer as one order does, in which two values are
equal, or one of them is smaller, unless a number is compared with a string that reads as what
is not a number. -/
theorem comparisons_cohere (l r : Value) :
    (Holds .equal l l ∧ Holds .strictlyEqual l l) ∧
    ((Holds .equal l r ↔ Holds .equal r l) ∧
      (Holds .strictlyEqual l r ↔ Holds .strictlyEqual r l)) ∧
    (Holds .strictlyEqual l r → Holds .equal l r) ∧
    (Faults .less l r ↔ Faults .greater r l) ∧
    (∀ op : Comparison, op.isRelational = true → (Faults op l r ↔
      l.kind ∈ [.null, .boolean, .array, .object] ∨ r.kind ∈ [.null, .boolean, .array, .object])) ∧
    (¬ Faults .less l r →
      (Holds .less l r ↔ Holds .greater r l) ∧
      (Holds .lessOrEqual l r ↔ Holds .less l r ∨ Holds .equal l r) ∧
      (Holds .greaterOrEqual l r ↔ Holds .lessOrEqual r l) ∧
      (¬ (Holds .less l r ∧ Holds .equal l r) ∧ ¬ (Holds .less l r ∧ Holds .greater l r) ∧
        ¬ (Holds .equal l r ∧ Holds .greater l r)) ∧
      (Holds .less l r ∨ Holds .equal l r ∨ Holds .greater l r ↔ ¬ l.NotANumberBeside r)) := by
  refine ⟨⟨?_, ?_⟩, ⟨?_, ?_⟩, ?_, ?_, fun op hop => faults_iff hop l r, fun h => ?_⟩
  · exact holds_equal_iff.mpr (Value.looselyEqual_self l)
  · exact holds_strictlyEqual_iff.mpr (Value.strictlyEqual_self l)
  · rw [holds_equal_iff, holds_equal_iff, Value.looselyEqual_comm]
  · rw [holds_strictlyEqual_iff, holds_strictlyEqual_iff, Value.strictlyEqual_comm]
  · exact fun h =>
      holds_equal_iff.mpr (Value.looselyEqual_of_strictlyEqual (holds_strictlyEqual_iff.mp h))
  · rw [faults_iff rfl, faults_iff rfl, or_comm]
  · obtain ⟨hl, hr⟩ := isOrdered_of_not_faults h
    have hequal : Holds .equal l r ↔ l.ordering r = some .eq := by
      rw [holds_equal_iff, Value.looselyEqual_eq_ordering hl hr, beq_iff_eq]
    -- every comparison asks the one ordering, or the same one from the other side
    rw [hequal, ← Value.ordering_eq_none_iff hl hr, holds_iff_accepts rfl hl hr,
      holds_iff_accepts rfl hl hr, holds_iff_accepts rfl hl hr, holds_iff_accepts rfl hl hr,
      holds_iff_accepts rfl hr hl, holds_iff_accepts rfl hr hl, Value.ordering_swap l r]
    generalize l.ordering r = o
    cases o with
    | none => decide
    | some o => cases o <;> decide

/-- A numeral and a word beside a number: the numeral has a place in its order, the word none. -/
theorem comparisons_cohere_numerals :
    let eleven := Value.number (.integer 11 (by decide))
    let numeral := Value.string " 9.5 "
    let word := Value.string "NaN"
    (¬ Faults .less numeral eleven ∧ Holds .less numeral eleven ∧ Holds .greater eleven numeral) ∧
      ¬ Faults .less word eleven ∧ word.NotANumberBeside eleven ∧
      ¬ (Holds .less word eleven ∨ Holds .equal word eleven ∨ Holds .greater word eleven) := by
  intro eleven numeral word
  have hnumeral : ¬ Faults .less numeral eleven := by
    rw [faults_iff rfl]
    decide
  have hword : ¬ Faults .less word eleven := by
    rw [faults_iff rfl]
    decide
  have hless : Holds .less numeral eleven :=
    (holds_iff_accepts rfl rfl rfl).mpr (by decide +kernel)
  have hnan : word.NotANumberBeside eleven := Or.inl ⟨rfl, by rfl, rfl⟩
  obtain ⟨-, -, -, -, -, hordered⟩ := comparisons_cohere numeral eleven
  obtain ⟨-, -, -, -, -, hunordered⟩ := comparisons_cohere word eleven
  refine ⟨⟨hnumeral, hless, (hordered hnumeral).1.mp hless⟩, hword, hnan, fun h => ?_⟩
  exact (hunordered hword).2.2.2.2.mp h hnan

end Condition

end SqlTemplate
