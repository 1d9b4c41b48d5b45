import SqlTemplate.Proofs.Condition.Cutting

/-!
# Where the faults of a condition point

A fault that names an offset names the place where reading breaks off. What stands before the
place is read, and no text that is cut off behind it fares better: the answer is the same wherever
that is done. So the character at the offset is the first that cannot be read.

> `exists_stopsAt`: a reading that fails stops at some character, by induction on the text.
> `faults_point_at_first_offender`: the offset of a fault is the offset of that character.
-/

namespace SqlTemplate.Condition

open SqlTemplate.Text

/-! ## Where reading stops -/

/-- A token cannot be read for three reasons: no token begins with its first character, that is a
quote and the string has no end, or the fault is one that names no offset. -/
theorem tokenAt_error_cases {offset : Nat} {c : Char} {s : List Char} {fault : Fault}
    (h : tokenAt offset c s = .error fault) :
    fault = .unexpectedChar c offset ∨
      (fault = .unterminatedString offset ∧ (c = '\'' ∨ c = '"') ∧ stringBody c s = none) ∨
      fault.offset? = none := by
  revert h
  fun_cases tokenAt offset c s <;> intro h
  case case1 =>
    cases h
    exact Or.inr (Or.inr rfl)
  case case2 | case18 | case23 => exact Or.inl (Except.error.inj h).symm
  case case17 => exact Or.inr (Or.inr (offset?_of_numberToken h))
  case case20 =>
    cases h
    exact Or.inr (Or.inl ⟨rfl, ‹_›, ‹_›⟩)
  case case21 =>
    cases hread : numberToken false (c :: s) with
    | error fault' =>
      rw [hread] at h
      cases h
      exact Or.inr (Or.inr (offset?_of_numberToken hread))
    | ok found =>
      rw [hread] at h
      cases h
  all_goals cases h

/-- Reading a text stops `n` characters into it, at the character `c` with `rest` behind it. All
before it is read; and if the fault names its place, the text meets the same fault wherever it is
cut off behind the character. -/
structure StopsAt (skip offset : Nat) (s : List Char) (fault : Fault) (n : Nat) (c : Char)
    (rest : List Char) : Prop where
  place : s.drop n = c :: rest
  stops : tokenAt (offset + n) c rest = .error fault
  skip_le : skip ≤ n
  before : ∃ ts, tokensFrom skip offset (s.take n) = .ok ts
  behind : fault.offset?.isSome = true → ∀ k, n < k →
    tokensFrom skip offset (s.take k) = .error fault

section

variable {skip offset n : Nat} {s rest : List Char} {fault : Fault} {c d : Char}

theorem tokensFrom_token (hd : isBlank d = false) {t : Token} {m : Nat}
    (h : tokenAt offset d s = .ok (t, m)) :
    tokensFrom 0 offset (d :: s) = (tokensFrom m (offset + 1) s).map (t :: ·) := by
  rw [tokensFrom, if_neg (by simp [hd]), h]
  cases hrest : tokensFrom m (offset + 1) s <;> simp [hrest, Except.map]

/-- Reading stops at a character where no token can be read. -/
theorem stopsAt_here (hc : isBlank c = false) (h : tokenAt offset c s = .error fault) :
    StopsAt 0 offset (c :: s) fault 0 c s where
  place := rfl
  stops := h
  skip_le := Nat.le_refl 0
  before := ⟨[], rfl⟩
  behind := by
    intro hsome k hk
    obtain ⟨k, rfl⟩ := Nat.exists_eq_add_of_le' (Nat.succ_le_of_lt hk)
    have hrests : RestsOn k (tokenAt offset c s) := h ▸ hsome
    rw [List.take_succ_cons, tokensFrom, if_neg (by simp [hc]), tokenAt_take hrests, h]

/-- With one more character in front, reading stops at the same place, if that character adds the
same tokens however much of the text is left behind what it makes skip. -/
theorem StopsAt.cons {skip' : Nat} (h : StopsAt skip (offset + 1) s fault n c rest)
    (hskip : skip' ≤ skip + 1) (add : List Token → List Token)
    (hstep : ∀ k, skip ≤ k → tokensFrom skip' offset (d :: s.take k) =
      (tokensFrom skip (offset + 1) (s.take k)).map add) :
    StopsAt skip' offset (d :: s) fault (n + 1) c rest where
  place := h.place
  stops := by
    rw [Nat.add_comm n 1, ← Nat.add_assoc]
    exact h.stops
  skip_le := Nat.le_trans hskip (Nat.succ_le_succ h.skip_le)
  before := by
    obtain ⟨ts, hts⟩ := h.before
    refine ⟨add ts, ?_⟩
    rw [List.take_succ_cons, hstep n h.skip_le, hts]
    rfl
  behind := by
    intro hsome k hk
    obtain ⟨k, rfl⟩ := Nat.exists_eq_add_of_le' (show 1 ≤ k by omega)
    have hle : skip ≤ k := Nat.le_trans h.skip_le (by omega)
    rw [List.take_succ_cons, hstep k hle, h.behind hsome k (by omega)]
    rfl

/-- Reading that fails stops at some character. -/
theorem exists_stopsAt (h : tokensFrom skip offset s = .error fault) :
    ∃ n c rest, StopsAt skip offset s fault n c rest := by
  -- on the text; a token reads the same, and passes over as much, in every cut behind it
  fun_induction tokensFrom skip offset s with
  | case1 => cases h
  | case2 offset skip d s ih =>
    obtain ⟨n, c, rest, hstops⟩ := ih h
    refine ⟨n + 1, c, rest, hstops.cons (Nat.le_refl _) id fun k _ => ?_⟩
    rw [tokensFrom, Except.map_id]
    rfl
  | case3 offset d s hblank ih =>
    obtain ⟨n, c, rest, hstops⟩ := ih h
    refine ⟨n + 1, c, rest, hstops.cons (Nat.zero_le _) id fun k _ => ?_⟩
    rw [tokensFrom, if_pos hblank, Except.map_id]
    rfl
  | case4 offset d s hblank found htoken =>
    cases h
    exact ⟨0, d, s, stopsAt_here (by simpa using hblank) htoken⟩
  -- a token, and behind it a character where reading stops
  | case5 offset d s hblank t m htoken found hrest ih =>
    cases h
    obtain ⟨n, c, rest, hstops⟩ := ih hrest
    refine ⟨n + 1, c, rest, hstops.cons (Nat.zero_le _) (t :: ·) fun k hk => ?_⟩
    have hcut : tokenAt offset d (s.take k) = .ok (t, m) := by
      have hrests : RestsOn k (tokenAt offset d s) := htoken ▸ hk
      rw [tokenAt_take hrests, htoken]
    exact tokensFrom_token (by simpa using hblank) hcut
  | case6 => cases h

end

/-! ## Where faults point -/

/-- A text cut off before an offset. -/
def cutOff (source : String) (offset : Nat) : String := String.ofList (source.toList.take offset)

/-- Reading a text breaks off at an offset: what stands before it is read, and wherever behind it
the text is cut off, it fares as the whole text does. -/
structure BreaksOffAt (source : String) (offset : Nat) : Prop where
  before : ∃ ts, tokens (cutOff source offset) = .ok ts
  behind : ∀ n, offset < n → tokens (cutOff source n) = tokens source

theorem tokens_cutOff (source : String) (n : Nat) :
    tokens (cutOff source n) = tokensFrom 0 0 (source.toList.take n) := by
  rw [tokens, cutOff, String.toList_ofList]

/-- The character at which reading stops stands at that offset. -/
theorem StopsAt.getElem? {source : String} {fault : Fault} {n : Nat} {c : Char} {rest : List Char}
    (h : StopsAt 0 0 source.toList fault n c rest) : source.toList[n]? = some c := by
  rw [← List.head?_drop, h.place]
  rfl

/-- Where reading stops with a fault that names its place, it breaks off. -/
theorem StopsAt.breaksOffAt {source : String} {fault : Fault} {n : Nat} {c : Char}
    {rest : List Char} (h : StopsAt 0 0 source.toList fault n c rest)
    (hfault : tokens source = .error fault) (hoffset : fault.offset?.isSome = true) :
    BreaksOffAt source n where
  before := by
    obtain ⟨ts, hts⟩ := h.before
    exact ⟨ts, (tokens_cutOff source n).trans hts⟩
  behind k hk := by
    rw [tokens_cutOff, hfault]
    exact h.behind hoffset k hk

/-- Behind a quote that begins a string without an end all quotes are escaped. -/
theorem escapedAt_of_stringBody_eq_none {quote : Char} (hquote : quote ≠ '\\')
    {s rest : List Char} {n later : Nat} (hplace : s.drop n = quote :: rest)
    (hbody : stringBody quote rest = none) (hlater : n < later)
    (hmore : s[later]? = some quote) : EscapedAt s later := by
  obtain ⟨m, rfl⟩ := Nat.exists_eq_add_of_lt hlater
  have hsplit : s.take n ++ quote :: rest = s := by rw [← hplace, List.take_append_drop]
  have hlength : (s.take n).length = n := by
    have hdrop := congrArg List.length hplace
    rw [List.length_drop, List.length_cons] at hdrop
    rw [List.length_take]
    omega
  have hrest : rest[m]? = some quote := by
    rw [Nat.add_assoc, ← List.getElem?_drop, hplace] at hmore
    exact hmore
  have hbehind := escapedAt_behind hquote (s.take n) rest m
  rw [hsplit, hlength, Nat.add_right_comm] at hbehind
  exact hbehind.mpr ((stringBody_eq_none_iff hquote).mp hbody m hrest)

/-- **Faults point at the first offender.** A stray character stands at the offset of its fault, and
a quote at that of a string without an end, with no quote of its kind behind it that is not
escaped. Either way reading breaks off there. -/
theorem faults_point_at_first_offender (source : String) :
    (∀ char offset, tokens source = .error (.unexpectedChar char offset) →
      source.toList[offset]? = some char ∧ BreaksOffAt source offset) ∧
    (∀ offset, tokens source = .error (.unterminatedString offset) →
      ∃ quote, (quote = '\'' ∨ quote = '"') ∧ source.toList[offset]? = some quote ∧
        BreaksOffAt source offset ∧
        ∀ later, offset < later → source.toList[later]? = some quote →
          EscapedAt source.toList later) := by
  constructor
  · intro char offset hfault
    obtain ⟨n, c, rest, hstops⟩ := exists_stopsAt hfault
    have hbreaks := hstops.breaksOffAt hfault rfl
    rcases tokenAt_error_cases hstops.stops with hstray | ⟨hopen, -⟩ | hnone
    · rw [Nat.zero_add, Fault.unexpectedChar.injEq] at hstray
      obtain ⟨rfl, rfl⟩ := hstray
      exact ⟨hstops.getElem?, hbreaks⟩
    · cases hopen
    · cases hnone
  · intro offset hfault
    obtain ⟨n, quote, rest, hstops⟩ := exists_stopsAt hfault
    have hbreaks := hstops.breaksOffAt hfault rfl
    rcases tokenAt_error_cases hstops.stops with hstray | ⟨hopen, hquote, hbody⟩ | hnone
    · cases hstray
    · rw [Nat.zero_add, Fault.unterminatedString.injEq] at hopen
      subst hopen
      refine ⟨quote, hquote, hstops.getElem?, hbreaks, fun later hlater hmore => ?_⟩
      have hplain : quote ≠ '\\' := by rcases hquote with rfl | rfl <;> decide
      exact escapedAt_of_stringBody_eq_none hplain hstops.place hbody hlater hmore
    · cases hnone

/-- A mark that is not doubled, and a string whose only further quote is escaped. -/
theorem faults_point_at_first_offender_lone_and_open :
    (tokens "n >= 1 & !m" = .error (.unexpectedChar '&' 7) ∧
      "n >= 1 & !m".toList[7]? = some '&' ∧ BreaksOffAt "n >= 1 & !m" 7) ∧
    (tokens "a == 'it\\'s" = .error (.unterminatedString 5) ∧
      BreaksOffAt "a == 'it\\'s" 5 ∧ "a == 'it\\'s".toList[9]? = some '\'' ∧
      EscapedAt "a == 'it\\'s".toList 9) := by
  have hstray : tokens "n >= 1 & !m" = .error (.unexpectedChar '&' 7) := by decide +kernel
  have hopen : tokens "a == 'it\\'s" = .error (.unterminatedString 5) := by decide +kernel
  have hquote : "a == 'it\\'s".toList[9]? = some '\'' := by decide +kernel
  refine ⟨⟨hstray, (faults_point_at_first_offender _).1 _ _ hstray⟩, hopen, ?_⟩
  obtain ⟨quote, -, hfirst, hbreaks, hescaped⟩ := (faults_point_at_first_offender _).2 _ hopen
  have hsame : quote = '\'' := by
    have hat : "a == 'it\\'s".toList[5]? = some '\'' := by decide +kernel
    exact Option.some.inj (hfirst.symm.trans hat)
  subst hsame
  exact ⟨hbreaks, hquote, hescaped 9 (by decide) hquote⟩

end SqlTemplate.Condition
