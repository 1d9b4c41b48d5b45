import SqlTemplate.Proofs.Condition.Chains
import SqlTemplate.Proofs.Condition.Grammar
import Mathlib.Logic.Function.Iterate

/-!
# The reader follows the grammar

A condition is accepted as a term exactly if its tokens derive the term. From left to right
(`reads_operand`, `reads_levels`) every reader takes off a stretch of tokens that derives what
it returns. From right to left (`Derives.read`) a reader of some level goes over tokens that
derive a term at that level and then goes on from there, if what follows is no operator of a
tighter level: that would have belonged to the last operand. Since a reader returns one thing
only, the grammar is not ambiguous (`Derives.unique`).

The reader counts how deep operands stand inside one another, and the steps of a chain.
Neither count is ever used up (`agree_operand`, `readJoined_of_le`), so what is below the
deepest operand is never asked.

> `reader_follows_grammar`: the reader accepts the grammar, reads back what is written, and
> comes to an end on every list of tokens.
-/

namespace SqlTemplate.Condition

/-! ## The readers of the levels -/

namespace Level

/-- The operators of a level, as the reader has them. -/
def joins : Level → Joins
  | .disjunction => disjunctionJoins
  | .conjunction => conjunctionJoins
  | .equality => equalityJoins
  | .relational => relationalJoins
  | .unary => fun _ => none
  | .primary => fun _ => none

/-- The reader and the grammar have the same operators at each level. -/
theorem joins_eq_some_iff {ℓ : Level} {t : Token} {join : Term → Term → Term} :
    ℓ.joins t = some join ↔ Operator ℓ t join := by
  constructor
  · -- from the reader: of the tokens of a level only its operators have a function
    intro h
    cases ℓ with
    | disjunction =>
      cases t with
      | disjunction =>
        cases h
        exact .disjunction
      | _ => cases h
    | conjunction =>
      cases t with
      | conjunction =>
        cases h
        exact .conjunction
      | _ => cases h
    | equality =>
      cases t with
      | comparison op => cases op <;> cases h <;> exact .equality (by decide)
      | _ => cases h
    | relational =>
      cases t with
      | comparison op => cases op <;> cases h <;> exact .relational (by decide)
      | _ => cases h
    | unary => cases h
    | primary => cases h
  · intro h
    cases h with
    | disjunction => rfl
    | conjunction => rfl
    | @equality op hop => cases op <;> first | rfl | exact absurd hop (by decide)
    | @relational op hop => cases op <;> first | rfl | exact absurd hop (by decide)

theorem joins_eq_none {ℓ m : Level} {t : Token} {join : Term → Term → Term}
    (h : Operator ℓ t join) (hne : ℓ ≠ m) : m.joins t = none := by
  cases hjoins : m.joins t with
  | none => rfl
  | some join' => exact absurd (h.level_eq (joins_eq_some_iff.mp hjoins)) hne

variable (operand : Reader Term)

/-- How the operands of a level are read. -/
def parts : Level → Reader Term
  | .disjunction =>
    readChain conjunctionJoins <| readChain equalityJoins <| readChain relationalJoins operand
  | .conjunction => readChain equalityJoins <| readChain relationalJoins operand
  | .equality => readChain relationalJoins operand
  | .relational => operand
  | .unary => operand
  | .primary => operand

/-- How a level is read. -/
def reader (ℓ : Level) : Reader Term := readChain ℓ.joins (ℓ.parts operand)

/-- The loosest level is what the reader of conditions reads. -/
theorem reader_disjunction : disjunction.reader operand = readLevels operand := rfl

/-- At the level of operands no operator follows, so the chain is the operand. -/
theorem reader_unary : unary.reader operand = operand :=
  funext readChain_of_no_joins

/-- The parts of a level are read by the reader of the level below. -/
theorem parts_of_operand? {ℓ m : Level} (h : ℓ.operand? = some m) :
    ℓ.parts operand = m.reader operand := by
  cases ℓ with
  | disjunction | conjunction | equality =>
    cases h
    rfl
  | relational | unary =>
    cases h
    exact (funext readChain_of_no_joins).symm
  | primary => cases h

end Level

/-! ## What is read is derived -/

/-- One level up: if operands are read as the grammar says, so is the chain of them. -/
theorem reads_level {operand : Reader Term} {ℓ m : Level} (hm : ℓ.operand? = some m)
    (hoperand : Reads (m.reader operand) (Derives m)) : Reads (ℓ.reader operand) (Derives ℓ) := by
  rw [← Level.parts_of_operand? operand hm] at hoperand
  exact hoperand.chain (Derives.operand hm) fun hleft hjoins hright =>
    .joined hm (Level.joins_eq_some_iff.mp hjoins) hleft hright

/-- From operands up through all the levels of operators. -/
theorem reads_levels {operand : Reader Term} (h : Reads operand (Derives .unary)) :
    Reads (readLevels operand) (Derives .disjunction) := by
  rw [← Level.reader_unary operand] at h
  have hrelational : Reads (Level.relational.reader operand) _ := reads_level rfl h
  have hequality : Reads (Level.equality.reader operand) _ := reads_level rfl hrelational
  have hconjunction : Reads (Level.conjunction.reader operand) _ := reads_level rfl hequality
  have hdisjunction : Reads (Level.disjunction.reader operand) _ := reads_level rfl hconjunction
  exact hdisjunction

/-- Whatever operands read, all levels take stretches off. -/
theorem exists_reads_parts {operand : Reader Term} {P : List Token → Term → Prop}
    (h : Reads operand P) (ℓ : Level) : ∃ Q, Reads (ℓ.parts operand) Q := by
  cases ℓ with
  | disjunction => exact ⟨_, h.chain_any.chain_any.chain_any⟩
  | conjunction => exact ⟨_, h.chain_any.chain_any⟩
  | equality => exact ⟨_, h.chain_any⟩
  | relational | unary | primary => exact ⟨_, h⟩

/-- An operand is an atom, a negation or a group, and in the latter two `inside` reads the rest. -/
theorem reads_operandWith {inside : Reader Term} (h : Reads inside (Derives .unary)) :
    Reads (operandWith inside) (Derives .unary) := by
  have hatom : ∀ {t e rest}, Atom t e → ∃ us, t :: rest = us ++ rest ∧ Derives .unary us e :=
    fun ht => ⟨[_], rfl, .operand rfl (.atom ht)⟩
  intro ts e rest hread
  cases ts with
  | nil => cases hread
  | cons t ts =>
    cases t with
    | number _ | string _ | bool _ | null | name _ | bound _ =>
      cases hread
      exact hatom (by constructor)
    | negation =>
      simp only [operandWith] at hread
      split at hread
      next => cases hread
      next inner behind hinner =>
        cases hread
        obtain ⟨us, rfl, hus⟩ := h hinner
        exact ⟨_ :: us, rfl, .negation hus⟩
    | opening =>
      simp only [operandWith] at hread
      split at hread
      next => cases hread
      next inner behind hinner =>
        cases hread
        obtain ⟨us, rfl, hus⟩ := reads_levels h hinner
        exact ⟨_ :: (us ++ [.closing]), by simp, .operand rfl (.group hus)⟩
      next => cases hread
      next => cases hread
    -- no operand begins with one of these
    | closing | comparison _ | conjunction | disjunction => cases hread

/-- What an operand reads derives it. -/
theorem reads_operand (depth : Nat) : Reads (readOperand depth) (Derives .unary) := by
  induction depth with
  | zero =>
    intro ts e rest hread
    cases hread
  | succ depth ih => exact reads_operandWith ih

/-! ## What is derived is read -/

/-- At these tokens a term of the level ends: they do not begin with an operator of a
tighter one. -/
def Level.Stops (ℓ : Level) (ts : List Token) : Prop :=
  ∀ t ∈ ts.head?, ∀ m : Level, ℓ.rank < m.rank → m.joins t = none

/-- Where a term ends, so does its last operand. -/
theorem Level.Stops.operand {ℓ m : Level} {ts : List Token} (h : ℓ.Stops ts)
    (hm : ℓ.operand? = some m) : m.Stops ts := by
  intro t ht k hk
  have hrank := rank_of_operand? hm
  exact h t ht k (by omega)

/-- A chain of operands ends where the chain that it is an operand of does. -/
theorem Level.Stops.readRest_operand {ℓ m : Level} {ts : List Token} (h : ℓ.Stops ts)
    (hm : ℓ.operand? = some m) (operand : Reader Term) (e : Term) :
    readRest (m.parts operand) m.joins e ts = .ok (e, ts) := by
  have hrank := rank_of_operand? hm
  exact readRest_of_none e fun t ht => h t ht m (by omega)

/-- In front of an operator of its own level an operand ends. -/
theorem Level.stops_operator {ℓ : Level} {t : Token} {join : Term → Term → Term}
    (h : Operator ℓ t join) (ts : List Token) : ℓ.Stops (t :: ts) := by
  intro u hu m hm
  cases hu
  refine joins_eq_none h ?_
  rintro rfl
  exact Nat.lt_irrefl _ hm

/-- Every term ends in front of a closing parenthesis. -/
theorem Level.stops_closing (ℓ : Level) (ts : List Token) : ℓ.Stops (.closing :: ts) := by
  intro t ht m _
  cases ht
  cases m <;> rfl

/-- An atom is read whatever reads operands inside of others. -/
theorem Atom.read {t : Token} {e : Term} (h : Atom t e) (inside : Reader Term)
    (rest : List Token) : operandWith inside (t :: rest) = .ok (e, rest) := by
  cases h <;> rfl

/-- A reader goes over what is derived at its level, and on from there. -/
theorem Derives.read {ℓ : Level} {ts : List Token} {e : Term} (h : Derives ℓ ts e) :
    ∀ {depth : Nat} {rest : List Token}, ts.length ≤ depth → ℓ.Stops rest →
      ℓ.reader (readOperand depth) (ts ++ rest) =
        readRest (ℓ.parts (readOperand depth)) ℓ.joins e rest := by
  -- on the derivation; the term may be the head of a longer chain, so what is said is where
  -- the reader stands behind it, not what it returns
  induction h with
  | @operand ℓ m ts e hm _ ih =>
    intro depth rest hdepth hstops
    have hread := ih hdepth (hstops.operand hm)
    rw [hstops.readRest_operand hm, ← Level.parts_of_operand? _ hm] at hread
    exact readChain_of_ok hread
  | @joined ℓ m t join ts us left right hm ht _ _ ihleft ihright =>
    intro depth rest hdepth hstops
    simp only [List.length_append, List.length_cons] at hdepth
    have hts : ts.length ≤ depth := by omega
    have hus : us.length ≤ depth := by omega
    have hright := ihright hus (hstops.operand hm)
    rw [hstops.readRest_operand hm, ← Level.parts_of_operand? _ hm] at hright
    obtain ⟨_, hreads⟩ := exists_reads_parts (reads_operand depth) ℓ
    rw [List.append_assoc, List.cons_append, ihleft hts (Level.stops_operator ht _)]
    exact readRest_of_join hreads (Level.joins_eq_some_iff.mpr ht) left hright
  | @negation ts e _ ih =>
    intro depth rest hdepth hstops
    cases depth with
    | zero => exact absurd hdepth (by simp)
    | succ depth =>
      have hnone : ∀ t ∈ rest.head?, Level.unary.joins t = none := fun _ _ => rfl
      have hinner := ih (Nat.le_of_succ_le_succ hdepth) hstops
      rw [readRest_of_none e hnone, Level.reader_unary] at hinner
      refine readChain_of_ok ?_
      change operandWith (readOperand depth) (.negation :: (ts ++ rest)) = _
      simp only [operandWith, hinner]
  | atom ht =>
    intro depth rest hdepth _
    cases depth with
    | zero => exact absurd hdepth (by simp)
    | succ depth => exact readChain_of_ok (ht.read (readOperand depth) rest)
  | @group ts e _ ih =>
    intro depth rest hdepth _
    cases depth with
    | zero => exact absurd hdepth (by simp)
    | succ depth =>
      simp only [List.length_cons, List.length_append, List.length_nil] at hdepth
      have hts : ts.length ≤ depth := by omega
      have hnone : ∀ t ∈ (Token.closing :: rest).head?, Level.disjunction.joins t = none := by
        intro t ht
        cases ht
        rfl
      have hinner := ih hts (Level.stops_closing _ rest)
      rw [readRest_of_none e hnone, Level.reader_disjunction] at hinner
      refine readChain_of_ok ?_
      change operandWith (readOperand depth) (.opening :: (ts ++ [.closing] ++ rest)) = _
      rw [List.append_assoc]
      simp only [operandWith, List.singleton_append, hinner]

/-! ## Neither count is used up -/

theorem AgreeUpTo.levels {n : Nat} {operand operand' : Reader Term} {P : List Token → Term → Prop}
    (hoperand : Reads operand P) (h : AgreeUpTo n operand operand') :
    AgreeUpTo n (readLevels operand) (readLevels operand') :=
  (((h.chain hoperand).chain hoperand.chain_any).chain hoperand.chain_any.chain_any).chain
    hoperand.chain_any.chain_any.chain_any

/-- One token is off before an operand inside another is read. -/
theorem AgreeUpTo.operandWith {n : Nat} {inside inside' : Reader Term}
    {P : List Token → Term → Prop} (hinside : Reads inside P) (h : AgreeUpTo n inside inside') :
    AgreeUpTo (n + 1) (operandWith inside) (operandWith inside') := by
  intro ts hlen
  cases ts with
  | nil => rfl
  | cons t ts =>
    have hrest : ts.length ≤ n := Nat.le_of_succ_le_succ hlen
    cases t with
    | negation => simp only [Condition.operandWith, h hrest]
    | opening => simp only [Condition.operandWith, h.levels hinside hrest]
    | _ => rfl

/-- Whatever stands in for operands that are deeper than there are tokens, it is not asked. -/
theorem agree_operand (stop : Reader Term) {depth n : Nat} (h : depth < n) :
    AgreeUpTo depth (readOperand depth) (operandWith^[n] stop) := by
  induction depth generalizing n with
  -- no tokens: an operand that is asked at all faults at once
  | zero =>
    cases n with
    | zero => exact absurd h (Nat.lt_irrefl 0)
    | succ n =>
      intro ts hlen
      rw [Function.iterate_succ_apply', List.length_eq_zero_iff.mp (Nat.le_zero.mp hlen)]
      rfl
  | succ depth ih =>
    cases n with
    | zero => exact absurd h (Nat.not_lt_zero _)
    | succ n =>
      rw [Function.iterate_succ_apply']
      exact (ih (Nat.lt_of_succ_lt_succ h)).operandWith (reads_operand depth)

/-! ## Conditions -/

/-- What is accepted is derived by all of the tokens. -/
theorem derives_of_ofTokens {ts : List Token} {e : Term} (h : Term.ofTokens ts = .ok e) :
    Derives .disjunction ts e := by
  rw [Term.ofTokens] at h
  split at h
  next => cases h
  next =>
    split at h
    next => cases h
    next term hread =>
      cases h
      obtain ⟨us, rfl, hus⟩ := reads_levels (reads_operand ts.length) hread
      rwa [List.append_nil]
    next => cases h

/-- What is derived is accepted: behind the last token every level stops. -/
theorem ofTokens_of_derives {ts : List Token} {e : Term} (h : Derives .disjunction ts e) :
    Term.ofTokens ts = .ok e := by
  have hstops : Level.disjunction.Stops [] := by
    intro t ht
    cases ht
  have hnone : ∀ t ∈ [].head?, Level.disjunction.joins t = none := by
    intro t ht
    cases ht
  have hread := h.read (Nat.le_refl _) hstops
  rw [readRest_of_none e hnone, Level.reader_disjunction, List.append_nil] at hread
  rw [Term.ofTokens, if_neg (by simpa using h.ne_nil), hread]

/-- The grammar is not ambiguous. -/
theorem Derives.unique {ts : List Token} {e e' : Term} (h : Derives .disjunction ts e)
    (h' : Derives .disjunction ts e') : e = e' := by
  have hread := ofTokens_of_derives h
  rw [ofTokens_of_derives h'] at hread
  exact (Except.ok.inj hread).symm

/-- **The reader follows the grammar.** Tokens are accepted as a term exactly if they derive
it. So a term that is written, with parentheses where precedence requires them, is read back.
And the reader comes to an end on every list of tokens: whatever is put below its innermost
operands is not asked, and no chain takes more steps than there are tokens. -/
theorem reader_follows_grammar :
    (∀ ts e, Term.ofTokens ts = .ok e ↔ Derives .disjunction ts e) ∧
    (∀ e : Term, e.Writable → Term.ofTokens e.toTokens = .ok e) ∧
    (∀ (stop : Reader Term) (ts : List Token) (n : Nat), ts.length < n →
      readLevels (operandWith^[n] stop) ts = readLevels (readOperand ts.length) ts) ∧
    ∀ (ℓ : Level) (depth steps : Nat) (left : Term) (ts : List Token), ts.length ≤ steps →
      readJoined (ℓ.parts (readOperand depth)) ℓ.joins steps left ts =
        readJoined (ℓ.parts (readOperand depth)) ℓ.joins ts.length left ts := by
  have hiff : ∀ ts e, Term.ofTokens ts = .ok e ↔ Derives .disjunction ts e :=
    fun _ _ => ⟨derives_of_ofTokens, ofTokens_of_derives⟩
  refine ⟨hiff, fun e he => ?_, fun stop ts n hn => ?_, fun ℓ depth steps left ts hsteps => ?_⟩
  · exact (hiff _ e).mpr ((Derives.toTokens he).loosen (Nat.zero_le _))
  · exact ((agree_operand stop hn).levels (reads_operand ts.length) (Nat.le_refl _)).symm
  · obtain ⟨_, hreads⟩ := exists_reads_parts (reads_operand depth) ℓ
    exact readJoined_of_le hreads left hsteps

/-- A mix of operators of all levels, and a term that is written with parentheses twice. -/
theorem reader_follows_grammar_mixed :
    let ts : List Token := [.negation, .name "a", .comparison .equal, .name "b",
      .comparison .less, .name "c", .conjunction, .name "d", .disjunction, .name "e"]
    let mixed : Term := .disjunction (.conjunction (.comparison (.negation (.reference "a" false))
      .equal (.comparison (.reference "b" false) .less (.reference "c" false)))
      (.reference "d" false)) (.reference "e" false)
    let grouped : Term := .conjunction (.disjunction (.reference "a" true) (.literal (.bool true)))
      (.negation (.comparison (.reference "b" false) .notEqual (.literal .null)))
    let stop : Reader Term := fun _ => .error .empty
    Term.ofTokens ts = .ok mixed ∧ Derives .disjunction ts mixed ∧
      grouped.Writable ∧ Term.ofTokens grouped.toTokens = .ok grouped ∧
      ts.length < 11 ∧
      readLevels (operandWith^[11] stop) ts = readLevels (readOperand ts.length) ts ∧
      ts.length ≤ 20 ∧
      readJoined (Level.disjunction.parts (readOperand 1)) Level.disjunction.joins 20 mixed ts =
        readJoined (Level.disjunction.parts (readOperand 1)) Level.disjunction.joins ts.length
          mixed ts := by
  intro ts mixed grouped stop
  obtain ⟨hiff, hwritten, hdepth, hsteps⟩ := reader_follows_grammar
  have hmixed : Term.ofTokens ts = .ok mixed := by rfl
  have hgrouped : grouped.Writable := ⟨⟨trivial, trivial⟩, trivial, trivial⟩
  have hlength : ts.length < 11 := by decide
  have hle : ts.length ≤ 20 := by decide
  exact ⟨hmixed, (hiff ts mixed).mp hmixed, hgrouped, hwritten grouped hgrouped, hlength,
    hdepth stop ts 11 hlength, hle, hsteps .disjunction 1 20 mixed ts hle⟩

end SqlTemplate.Condition
