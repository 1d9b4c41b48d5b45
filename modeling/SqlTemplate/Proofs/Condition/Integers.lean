import SqlTemplate.Proofs.Condition.Comparisons
import SqlTemplate.Proofs.Numeric.Integers

/-!
# Comparing the integers of a context

A comparison takes the two integers for binary64 numbers first. So it answers for their rounded
values: two integers that are rounded to one value count as equal, however they differ.

> `integers_compare_rounded`: the answers are exact for equal integers and for those that
> rounding tells apart, one of which is enough to have at most 53 binary digits.
> `integers_compare_rounded_adjacent`: the first integer with more digits and its neighbour.
-/

namespace SqlTemplate.Condition

/-! ## A comparison of two bound names -/

/-- Two bound names are compared by their values. -/
theorem evaluate_comparison {source x y : String} {op : Comparison}
    (hsource : tokens source = .ok [.bound x, .comparison op, .bound y]) {context l r : Value}
    (hx : context.lookup x = some l) (hy : context.lookup y = some r) :
    evaluate source context = compare op l r := by
  have hterm : Term.ofTokens [.bound x, .comparison op, .bound y] =
      .ok (.comparison (.reference x true) op (.reference y true)) := by
    cases op <;> rfl
  have hl : resolveName [x, y] context x true = .ok l := by rw [resolveName, hx]
  have hr : resolveName [x, y] context y true = .ok r := by rw [resolveName, hy]
  have hparse : parse source =
      .ok ⟨.comparison (.reference x true) op (.reference y true), [x, y]⟩ := by
    simp only [parse, hsource, hterm, bind, Except.bind]
    rfl
  simp only [evaluate, hparse, bind, Except.bind, Condition.eval, Term.eval, hl, hr]
  cases compare op l r <;> rfl

/-! ## Integers -/

/-- The answers to `:x === :y`, `:x == :y` and `:x < :y` are the right ones for `a` and `b`. -/
structure AnswersFor (context : Value) (a b : Int) : Prop where
  strictlyEqual : evaluate ":x === :y" context = .ok (decide (a = b))
  equal : evaluate ":x == :y" context = .ok (decide (a = b))
  less : evaluate ":x < :y" context = .ok (decide (a < b))

/-- The two integers become the binary64 numbers of their rounded values, which have the order of
these. -/
theorem answersFor_rounded {context : Value} {a b : Int} {ha : Fits64 a} {hb : Fits64 b}
    (hx : context.lookup "x" = some (.number (.integer a ha)))
    (hy : context.lookup "y" = some (.number (.integer b hb))) :
    AnswersFor context (rounded a) (rounded b) := by
  have horder := Binary64.compare?_ofInt ha hb
  have hequals : (Binary64.ofInt a).equals (Binary64.ofInt b) =
      decide (rounded a = rounded b) := by
    rw [Binary64.equals, horder, Bool.eq_iff_iff, beq_iff_eq, Option.some_inj,
      Int.compare_eq_eq, decide_eq_true_iff]
  have hless : (some (Ord.compare (rounded a) (rounded b)) == some .lt) =
      decide (rounded a < rounded b) := by
    rw [Bool.eq_iff_iff, beq_iff_eq, Option.some_inj, Int.compare_eq_lt, decide_eq_true_iff]
  have hstrict : tokens ":x === :y" =
      .ok [.bound "x", .comparison .strictlyEqual, .bound "y"] := rfl
  have hloose : tokens ":x == :y" = .ok [.bound "x", .comparison .equal, .bound "y"] := rfl
  have hrelational : tokens ":x < :y" = .ok [.bound "x", .comparison .less, .bound "y"] := rfl
  refine ⟨?_, ?_, ?_⟩
  · rw [evaluate_comparison hstrict hx hy]
    exact congrArg Except.ok hequals
  · rw [evaluate_comparison hloose hx hy]
    exact congrArg Except.ok hequals
  · rw [evaluate_comparison hrelational hx hy, ← hless, ← horder]
    rfl

/-- The answers are right for other integers just where these are equal and ordered alike. -/
theorem AnswersFor.iff {context : Value} {a b : Int} (h : AnswersFor context a b) {c d : Int} :
    AnswersFor context c d ↔ (a = b ↔ c = d) ∧ (a < b ↔ c < d) := by
  have hok : ∀ {p q : Prop} [Decidable p] [Decidable q],
      (Except.ok (decide p) : Except Fault Bool) = .ok (decide q) ↔ (p ↔ q) := by
    intro p q _ _
    rw [Except.ok.injEq, decide_eq_decide]
  constructor
  · intro h'
    exact ⟨hok.mp (h.equal.symm.trans h'.equal), hok.mp (h.less.symm.trans h'.less)⟩
  · rintro ⟨heq, hlt⟩
    exact ⟨h.strictlyEqual.trans (hok.mpr heq), h.equal.trans (hok.mpr heq),
      h.less.trans (hok.mpr hlt)⟩

/-- **Integers compare as their rounded values.** The answers are those for the integers
themselves where these are equal or rounded to two values, so always when one of them has at
most 53 binary digits. -/
theorem integers_compare_rounded {context : Value} {a b : Int} {ha : Fits64 a} {hb : Fits64 b}
    (hx : context.lookup "x" = some (.number (.integer a ha)))
    (hy : context.lookup "y" = some (.number (.integer b hb))) :
    AnswersFor context (rounded a) (rounded b) ∧
      (AnswersFor context a b ↔ a = b ∨ rounded a ≠ rounded b) ∧
      (a.natAbs < 2 ^ 53 ∨ b.natAbs < 2 ^ 53 → AnswersFor context a b) := by
  have hrounded := answersFor_rounded hx hy
  have hexact : AnswersFor context a b ↔ a = b ∨ rounded a ≠ rounded b := by
    -- rounding is monotone, so it can only make integers equal that are not
    have hle := rounded_mono (a := a) (b := b)
    have hge := rounded_mono (a := b) (b := a)
    have hcongr : a = b → rounded a = rounded b := congrArg rounded
    rw [hrounded.iff]
    omega
  refine ⟨hrounded, hexact, fun hsmall => hexact.mpr ?_⟩
  by_cases hne : a = b
  · exact Or.inl hne
  · rcases hsmall with h | h
    · exact Or.inr (rounded_ne_of_lt h hne)
    · exact Or.inr fun heq => rounded_ne_of_lt h (Ne.symm hne) heq.symm

/-- The context of two integers named `x` and `y`. -/
def integerContext (a b : Int) (ha : Fits64 a) (hb : Fits64 b) : Value :=
  .object [("x", .number (.integer a ha)), ("y", .number (.integer b hb))]

/-- The last integer of 53 binary digits and the next one. -/
theorem integers_compare_rounded_small :
    let context := integerContext 9007199254740991 9007199254740992 (by decide) (by decide)
    AnswersFor context 9007199254740991 9007199254740992 :=
  (integers_compare_rounded (a := 9007199254740991) (b := 9007199254740992) rfl rfl).2.2
    (Or.inl (by decide))

/-- The first integer of more digits and the next one differ, yet they are equal, strictly as
well, and neither is smaller. -/
theorem integers_compare_rounded_adjacent :
    let context := integerContext 9007199254740992 9007199254740993 (by decide) (by decide)
    evaluate ":x === :y" context = .ok true ∧ evaluate ":x == :y" context = .ok true ∧
      evaluate ":x < :y" context = .ok false ∧
      ¬ AnswersFor context 9007199254740992 9007199254740993 := by
  intro context
  have hrounded : AnswersFor context (rounded 9007199254740992) (rounded 9007199254740993) :=
    answersFor_rounded rfl rfl
  have hsame : rounded 9007199254740992 = rounded 9007199254740993 := by decide +kernel
  have hnotLess : ¬ rounded 9007199254740992 < rounded 9007199254740993 := hsame.not_lt
  refine ⟨?_, ?_, ?_, fun h => ?_⟩
  · rw [hrounded.strictlyEqual, decide_eq_true hsame]
  · rw [hrounded.equal, decide_eq_true hsame]
  · rw [hrounded.less, decide_eq_false hnotLess]
  · exact absurd ((hrounded.iff.mp h).1.mp hsame) (by decide)

end SqlTemplate.Condition
