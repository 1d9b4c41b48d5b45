import SqlTemplate.Condition.Term

/-!
# Chains of operands

One level of the reader is a chain: an operand, and then operators of the level with an
operand behind each. Three things about chains do not depend on what the operands are.

- `Reads.chain`: if operands are read as their grammar says, so is the chain.
- `readJoined_of_le`: steps never run out, because every step takes an operator off. So the
  chain goes on as if it were not counted (`readRest`).
- `AgreeUpTo.chain`: two chains agree on inputs on which their operands do.
-/

namespace SqlTemplate.Condition

variable {operand : Reader Term} {joins : Joins} {P Q : List Token → Term → Prop}

/-! ## Readers -/

/-- What is read is a stretch at the head of the tokens, and `P` holds of it. -/
def Reads (read : Reader Term) (P : List Token → Term → Prop) : Prop :=
  ∀ ⦃ts : List Token⦄ ⦃e : Term⦄ ⦃rest : List Token⦄, read ts = .ok (e, rest) →
    ∃ us, ts = us ++ rest ∧ P us e

theorem Reads.length_le {read : Reader Term} (h : Reads read P)
    {ts rest : List Token} {e : Term} (hread : read ts = .ok (e, rest)) :
    rest.length ≤ ts.length := by
  obtain ⟨us, rfl, -⟩ := h hread
  rw [List.length_append]
  exact Nat.le_add_left _ _

/-- The readers give the same on all inputs of at most so many tokens. -/
def AgreeUpTo (n : Nat) (read read' : Reader Term) : Prop :=
  ∀ ⦃ts : List Token⦄, ts.length ≤ n → read ts = read' ts

/-! ## What a chain reads -/

/-- Each step of a chain joins one more operand to what has been read, so that `Q` holds of longer
and longer stretches. -/
theorem reads_readJoined (hoperand : Reads operand P)
    (hjoin : ∀ {us vs t join left right}, Q us left → joins t = some join → P vs right →
      Q (us ++ t :: vs) (join left right)) :
    ∀ steps {us ts rest : List Token} {left e : Term}, Q us left →
      readJoined operand joins steps left ts = .ok (e, rest) →
      ∃ vs, ts = vs ++ rest ∧ Q (us ++ vs) e := by
  intro steps
  induction steps with
  | zero =>
    intro us ts rest left e hleft h
    cases h
    exact ⟨[], rfl, by rwa [List.append_nil]⟩
  | succ steps ih =>
    intro us ts rest left e hleft h
    cases ts with
    | nil =>
      cases h
      exact ⟨[], rfl, by rwa [List.append_nil]⟩
    | cons t ts =>
      rw [readJoined] at h
      split at h
      next =>
        cases h
        exact ⟨[], rfl, by rwa [List.append_nil]⟩
      next join hjoins =>
        split at h
        next => cases h
        next right behind hright =>
          obtain ⟨vs, rfl, hvs⟩ := hoperand hright
          obtain ⟨ws, rfl, hws⟩ := ih (hjoin hleft hjoins hvs) h
          refine ⟨t :: vs ++ ws, by simp, ?_⟩
          rwa [List.append_assoc] at hws

/-- A chain is read as its grammar says if its operands are. -/
theorem Reads.chain (hoperand : Reads operand P)
    (hfirst : ∀ {us e}, P us e → Q us e)
    (hjoin : ∀ {us vs t join left right}, Q us left → joins t = some join → P vs right →
      Q (us ++ t :: vs) (join left right)) : Reads (readChain joins operand) Q := by
  intro ts e rest h
  rw [readChain] at h
  split at h
  next => cases h
  next first behind hread =>
    obtain ⟨us, rfl, hus⟩ := hoperand hread
    obtain ⟨vs, rfl, hvs⟩ := reads_readJoined hoperand hjoin _ (hfirst hus) h
    exact ⟨us ++ vs, (List.append_assoc us vs rest).symm, hvs⟩

/-- A chain takes off a stretch if its operands do. -/
theorem Reads.chain_any (hoperand : Reads operand P) :
    Reads (readChain joins operand) fun _ _ => True :=
  hoperand.chain (fun _ => trivial) fun _ _ _ => trivial

/-! ## Steps -/

/-- One step more than there are tokens is never taken. -/
theorem readJoined_succ (hoperand : Reads operand P) (steps : Nat) :
    ∀ {ts : List Token} (left : Term), ts.length ≤ steps →
      readJoined operand joins (steps + 1) left ts = readJoined operand joins steps left ts := by
  -- an operator is off before the next step, so the tokens run out first
  induction steps with
  | zero =>
    intro ts left hlen
    rw [List.length_eq_zero_iff.mp (Nat.le_zero.mp hlen)]
    rfl
  | succ steps ih =>
    intro ts left hlen
    cases ts with
    | nil => rfl
    | cons t ts =>
      rw [readJoined, readJoined]
      split
      next => rfl
      next join _ =>
        split
        next => rfl
        next right rest hright =>
          have hrest := hoperand.length_le hright
          rw [List.length_cons] at hlen
          exact ih _ (by omega)

/-- More steps than there are tokens make no difference. -/
theorem readJoined_of_le (hoperand : Reads operand P) {steps : Nat} {ts : List Token}
    (left : Term) (hsteps : ts.length ≤ steps) :
    readJoined operand joins steps left ts = readJoined operand joins ts.length left ts := by
  induction hsteps with
  | refl => rfl
  | step hle ih => rw [readJoined_succ hoperand _ left hle, ih]

/-- How a chain goes on after its first part, with no count of steps. -/
def readRest (operand : Reader Term) (joins : Joins) (left : Term) : Reader Term := fun ts =>
  readJoined operand joins ts.length left ts

/-- A chain ends where no operator of its level stands. -/
theorem readRest_of_none (left : Term) {ts : List Token} (h : ∀ t ∈ ts.head?, joins t = none) :
    readRest operand joins left ts = .ok (left, ts) := by
  cases ts with
  | nil => rfl
  | cons t ts =>
    rw [readRest, List.length_cons, readJoined, h t rfl]

/-- At an operator a chain goes on with one more operand. -/
theorem readRest_of_join (hoperand : Reads operand P) {t : Token} {join : Term → Term → Term}
    (hjoins : joins t = some join) (left : Term) {ts rest : List Token} {right : Term}
    (hright : operand ts = .ok (right, rest)) :
    readRest operand joins left (t :: ts) = readRest operand joins (join left right) rest := by
  rw [readRest, List.length_cons, readJoined, hjoins, hright]
  exact readJoined_of_le hoperand _ (hoperand.length_le hright)

/-- Behind its first operand a chain goes on as the rest of one. -/
theorem readChain_of_ok {ts rest : List Token} {first : Term}
    (h : operand ts = .ok (first, rest)) :
    readChain joins operand ts = readRest operand joins first rest := by
  rw [readChain, h]
  rfl

/-- With no operators, a chain is its first operand. -/
theorem readChain_of_no_joins (ts : List Token) :
    readChain (fun _ => none) operand ts = operand ts := by
  cases h : operand ts with
  | error fault => rw [readChain, h]
  | ok found => exact (readChain_of_ok h).trans (readRest_of_none _ fun _ _ => rfl)

/-! ## Agreement -/

variable {operand' : Reader Term} {n : Nat}

/-- What a chain reads behind its first operand depends on nothing but the operands. -/
theorem readJoined_agree (hoperand : Reads operand P) (h : AgreeUpTo n operand operand')
    (steps : Nat) : ∀ {ts : List Token} (left : Term), ts.length ≤ n →
      readJoined operand joins steps left ts = readJoined operand' joins steps left ts := by
  induction steps with
  | zero => exact fun _ _ => rfl
  | succ steps ih =>
    intro ts left hlen
    cases ts with
    | nil => rfl
    | cons t ts =>
      rw [List.length_cons] at hlen
      rw [readJoined, readJoined, ← h (by omega)]
      split
      next => rfl
      next join _ =>
        split
        next => rfl
        next right rest hright =>
          have hrest := hoperand.length_le hright
          exact ih _ (by omega)

/-- Chains agree as far as their operands do. -/
theorem AgreeUpTo.chain (hoperand : Reads operand P) (h : AgreeUpTo n operand operand') :
    AgreeUpTo n (readChain joins operand) (readChain joins operand') := by
  intro ts hlen
  rw [readChain, readChain, ← h hlen]
  split
  next => rfl
  next first rest hfirst =>
    have hrest := hoperand.length_le hfirst
    exact readJoined_agree hoperand h _ _ (by omega)

end SqlTemplate.Condition
