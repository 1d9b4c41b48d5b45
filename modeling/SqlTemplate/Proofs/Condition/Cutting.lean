import SqlTemplate.Proofs.Condition.Spelling
import Mathlib.Algebra.Ring.Parity
import Mathlib.Data.List.DropRight

/-!
# Cutting a condition off behind a token

A token is told by the characters that it takes and by what does *not* go on with it. The end of
a text goes on with nothing, so a text that is cut off behind a token still begins with that token.
The same holds of a character with which no token begins, however little of the text behind it is
left.

Strings without an end take more, since a quote anywhere behind would be the end. So every quote
there is escaped. As two backslashes in a row stand for one, it is not enough that a backslash
stands before the quote: the backslashes before it have to be odd in number.

> `stringBody_eq_none_iff`: a string has no end if and only if all quotes behind it are escaped.
> `LongestMark`: marks such as `!`, `!=` and `!==`, of which the longest is read.
> `tokenAt_take`: what is read at a character is read there in every text that is cut off behind
> what it rests on.
-/

namespace SqlTemplate.Condition

open SqlTemplate.Placeholder (nameOf)

/-! ## Escaped characters -/

/-- The number of backslashes at the end of a text. -/
def trailingBackslashes (s : List Char) : Nat := (s.rtakeWhile (· == '\\')).length

/-- Whether the character at an offset is escaped: the backslashes right before it are odd in
number, since two in a row stand for one. -/
def EscapedAt (s : List Char) (offset : Nat) : Prop := Odd (trailingBackslashes (s.take offset))

theorem trailingBackslashes_concat (s : List Char) {c : Char} (hc : c ≠ '\\') :
    trailingBackslashes (s ++ [c]) = 0 := by
  rw [trailingBackslashes, List.rtakeWhile_concat_neg _ _ _ (by simpa using hc), List.length_nil]

/-- The backslashes of a text in front count only if nothing but backslashes is between. -/
theorem trailingBackslashes_append (front s : List Char) :
    trailingBackslashes (front ++ s) = trailingBackslashes s ∨
      trailingBackslashes (front ++ s) = trailingBackslashes s + trailingBackslashes front := by
  unfold trailingBackslashes List.rtakeWhile
  rw [List.reverse_append, List.takeWhile_append]
  split
  next hall =>
    -- the second text is nothing but backslashes
    right
    simp only [List.length_reverse, List.length_append] at hall ⊢
    rw [hall]
  next => exact Or.inl rfl

/-- Text in front makes no difference if the backslashes at its end are even in number. -/
theorem escapedAt_append {front : List Char} (hfront : Even (trailingBackslashes front))
    (s : List Char) (offset : Nat) :
    EscapedAt (front ++ s) (front.length + offset) ↔ EscapedAt s offset := by
  unfold EscapedAt
  rw [List.take_length_add_append]
  rcases trailingBackslashes_append front (s.take offset) with hsame | hsum
  · rw [hsame]
  · rw [hsum, Nat.odd_add]
    exact ⟨fun h => h.mpr hfront, fun h => ⟨fun _ => hfront, fun _ => h⟩⟩

/-- Nor does it if a character stands between that is no backslash. -/
theorem escapedAt_behind {c : Char} (hc : c ≠ '\\') (front s : List Char) (offset : Nat) :
    EscapedAt (front ++ c :: s) (front.length + 1 + offset) ↔ EscapedAt s offset := by
  have heven : Even (trailingBackslashes (front ++ [c])) := by
    rw [trailingBackslashes_concat front hc]
    exact Even.zero
  have happend := escapedAt_append heven s offset
  rwa [List.append_assoc, List.length_append] at happend

theorem escapedAt_cons {c : Char} (hc : c ≠ '\\') (s : List Char) (offset : Nat) :
    EscapedAt (c :: s) (offset + 1) ↔ EscapedAt s offset := by
  have hbehind := escapedAt_behind hc [] s offset
  rwa [List.length_nil, Nat.zero_add, Nat.add_comm] at hbehind

/-- A backslash and the character behind it count for nothing. -/
theorem escapedAt_pair (c : Char) (s : List Char) (offset : Nat) :
    EscapedAt ('\\' :: c :: s) (offset + 2) ↔ EscapedAt s offset := by
  by_cases hc : c = '\\'
  · have heven : Even (trailingBackslashes ['\\', c]) := by
      rw [hc]
      decide
    have happend := escapedAt_append heven s offset
    rwa [Nat.add_comm] at happend
  · have hbehind := escapedAt_behind hc ['\\'] s offset
    rwa [Nat.add_comm] at hbehind

theorem not_escapedAt_zero (s : List Char) : ¬ EscapedAt s 0 := by
  rw [EscapedAt, List.take_zero]
  decide

/-! ## Strings without an end -/

theorem ne_backslash {c : Char} {rest : List Char} (hlast : c = '\\' → rest = [] → False)
    (hpair : ∀ d tail, c = '\\' → rest = d :: tail → False) : c ≠ '\\' := by
  intro hc
  cases rest with
  | nil => exact hlast hc rfl
  | cons d tail => exact hpair d tail hc rfl

theorem stringBody_cons {quote c : Char} (hc : c ≠ '\\') (s : List Char) :
    stringBody quote (c :: s) =
      if c = quote then some ([], 1)
      else (stringBody quote s).map fun (body, n) => (c :: body, n + 1) := by
  cases s <;> simp [stringBody, hc]

/-- A string has no end if and only if every quote in the rest of the text is escaped. -/
theorem stringBody_eq_none_iff {quote : Char} (hquote : quote ≠ '\\') {s : List Char} :
    stringBody quote s = none ↔ ∀ offset, s[offset]? = some quote → EscapedAt s offset := by
  fun_induction stringBody quote s with
  | case1 => simp
  | case2 =>
    refine ⟨fun _ offset hoffset => ?_, fun _ => rfl⟩
    cases offset with
    | zero => exact absurd (Option.some.inj hoffset).symm hquote
    | succ offset => cases hoffset
  -- a backslash takes the next character with it, even a quote
  | case3 c rest ih =>
    rw [Option.map_eq_none_iff, ih]
    constructor
    · intro h offset hoffset
      match offset with
      | 0 => exact absurd (Option.some.inj hoffset).symm hquote
      | 1 => exact odd_one
      | offset + 2 => exact (escapedAt_pair c rest offset).mpr (h offset hoffset)
    · intro h offset hoffset
      exact (escapedAt_pair c rest offset).mp (h (offset + 2) hoffset)
  | case4 rest hlast hpair =>
    refine ⟨nofun, fun h => ?_⟩
    exact absurd (h 0 rfl) (not_escapedAt_zero _)
  | case5 c rest hlast hpair hc ih =>
    have hplain : c ≠ '\\' := ne_backslash hlast hpair
    rw [Option.map_eq_none_iff, ih]
    constructor
    · intro h offset hoffset
      cases offset with
      | zero => exact absurd (Option.some.inj hoffset) hc
      | succ offset => exact (escapedAt_cons hplain rest offset).mpr (h offset hoffset)
    · intro h offset hoffset
      exact (escapedAt_cons hplain rest offset).mp (h (offset + 1) hoffset)

/-! ## What a token rests on -/

/-- The offset that a fault points at, if it points at any. -/
def Fault.offset? : Fault → Option Nat
  | .unexpectedChar _ offset => some offset
  | .unterminatedString offset => some offset
  | _ => none

/-- Whether what is read at a character rests on no more than the `k` characters behind it: it is
a token that they reach the end of, or a fault that points at the character itself. -/
def RestsOn (k : Nat) : Except Fault (Token × Nat) → Prop
  | .ok (_, n) => n ≤ k
  | .error fault => fault.offset?.isSome = true

section

variable {k offset : Nat} {c : Char} {s : List Char}

/-- What a text does not begin with, it does not begin with when it is cut off. -/
theorem take_ne_cons {a : Char} (h : ∀ tail, s = a :: tail → False) (tail : List Char) :
    s.take k = a :: tail → False := by
  intro htake
  have hs := List.take_append_drop k s
  rw [htake, List.cons_append] at hs
  exact h _ hs.symm

/-- A run of characters of one kind is whole as long as the cut is not inside it. -/
theorem takeWhile_take {p : Char → Bool} (h : (s.takeWhile p).length ≤ k) :
    (s.take k).takeWhile p = s.takeWhile p := by
  rw [← List.take_takeWhile, List.take_of_length_le h]

theorem dropWhile_take {p : Char → Bool} (h : (s.takeWhile p).length ≤ k) :
    (s.take k).dropWhile p = (s.dropWhile p).take (k - (s.takeWhile p).length) := by
  have hdrop : ∀ t : List Char, t.dropWhile p = t.drop (t.takeWhile p).length := by
    intro t
    have hleft : (t.takeWhile p ++ t.dropWhile p).drop (t.takeWhile p).length = t.dropWhile p :=
      List.drop_left
    rw [List.takeWhile_append_dropWhile] at hleft
    exact hleft.symm
  rw [hdrop, hdrop, takeWhile_take h, List.drop_take]

/-! ### Strings -/

/-- A string ends where it did if its last quote is left. -/
theorem stringBody_take_of_some {quote : Char} {body : List Char} {n : Nat}
    (h : stringBody quote s = some (body, n)) (hk : n ≤ k) :
    stringBody quote (s.take k) = some (body, n) := by
  fun_induction stringBody quote s generalizing k body n with
  | case1 => cases h
  | case2 => cases h
  | case3 c rest ih =>
    obtain ⟨⟨inner, m⟩, hinner, heq⟩ := Option.map_eq_some_iff.mp h
    cases heq
    obtain ⟨k, rfl⟩ := Nat.exists_eq_add_of_le' (Nat.le_of_add_left_le hk)
    rw [List.take_succ_cons, List.take_succ_cons, stringBody, ih hinner (by omega)]
    rfl
  | case4 rest hlast hpair =>
    cases h
    obtain ⟨k, rfl⟩ := Nat.exists_eq_add_of_le' hk
    rw [List.take_succ_cons, stringBody_cons (ne_backslash hlast hpair), if_pos rfl]
  | case5 c rest hlast hpair hc ih =>
    obtain ⟨⟨inner, m⟩, hinner, heq⟩ := Option.map_eq_some_iff.mp h
    cases heq
    obtain ⟨k, rfl⟩ := Nat.exists_eq_add_of_le' (Nat.le_of_add_left_le hk)
    rw [List.take_succ_cons, stringBody_cons (ne_backslash hlast hpair), if_neg hc,
      ih hinner (by omega)]
    rfl

/-- A string without an end gets none by being cut off. -/
theorem stringBody_take_of_none {quote : Char} (hquote : quote ≠ '\\')
    (h : stringBody quote s = none) : stringBody quote (s.take k) = none := by
  rw [stringBody_eq_none_iff hquote] at h ⊢
  intro offset hoffset
  -- a quote that is left stands before the cut, with all that escapes it
  have hlt : offset < k := by
    by_contra hge
    rw [List.getElem?_take_eq_none (Nat.le_of_not_lt hge)] at hoffset
    cases hoffset
  rw [List.getElem?_take_of_lt hlt] at hoffset
  rw [EscapedAt, List.take_take, Nat.min_eq_left hlt.le]
  exact h offset hoffset

/-! ### Numbers -/

/-- The digits before the point and those behind it are the same if all of them are left. -/
theorem numeralParts_take {whole : List Char} {fraction : Option (List Char)}
    (h : numeralParts s = (whole, fraction)) (hk : (numeralText whole fraction).length ≤ k) :
    numeralParts (s.take k) = (whole, fraction) := by
  rw [numeralParts, Prod.mk.injEq] at h
  obtain ⟨rfl, hfraction⟩ := h
  unfold numeralText at hk
  rw [List.length_append] at hk
  have hwhole : (s.takeWhile Char.isDigit).length ≤ k := Nat.le_of_add_right_le hk
  rw [numeralParts, takeWhile_take hwhole, dropWhile_take hwhole]
  split at hfraction
  next rest hpoint =>
    subst hfraction
    rw [List.length_cons] at hk
    obtain ⟨m, hm⟩ := Nat.exists_eq_add_of_le'
      (show 1 ≤ k - (s.takeWhile Char.isDigit).length by omega)
    rw [hpoint, hm, List.take_succ_cons]
    show (_, some _) = _
    rw [takeWhile_take (by omega)]
  next hpoint =>
    subst hfraction
    split
    next tail htake => exact absurd htake (take_ne_cons hpoint tail)
    next => rfl

/-- A number is as long as its digits and its point, and without digits it is at fault. -/
theorem numberToken_cases (negative : Bool) {whole : List Char} {fraction : Option (List Char)}
    (hparts : numeralParts s = (whole, fraction)) :
    (∃ text, numberToken negative s = .error (.invalidNumber text)) ∨
      ∃ x, numberToken negative s = .ok (.number x, (numeralText whole fraction).length) := by
  rw [numberToken, hparts]
  cases fraction with
  | none => exact Or.inr ⟨_, by rw [numeralText, List.append_nil]⟩
  | some digits =>
    have hlength : (numeralText whole (some digits)).length = whole.length + 1 + digits.length := by
      rw [numeralText, List.length_append, List.length_cons]
      omega
    rw [hlength]
    by_cases hnone : (whole.isEmpty && digits.isEmpty) = true
    · exact Or.inl ⟨_, if_pos hnone⟩
    · exact Or.inr ⟨_, if_neg hnone⟩

theorem numberToken_take {negative : Bool} (h : RestsOn k (numberToken negative s)) :
    numberToken negative (s.take k) = numberToken negative s := by
  obtain ⟨whole, fraction, hparts⟩ : ∃ whole fraction, numeralParts s = (whole, fraction) :=
    ⟨_, _, rfl⟩
  rcases numberToken_cases negative hparts with ⟨text, herror⟩ | ⟨x, hok⟩
  · rw [herror] at h
    cases h
  · rw [hok] at h
    rw [numberToken, numberToken, numeralParts_take hparts h, hparts]

theorem offset?_of_numberToken {negative : Bool} {fault : Fault}
    (h : numberToken negative s = .error fault) : fault.offset? = none := by
  rcases numberToken_cases negative (s := s) rfl with ⟨text, herror⟩ | ⟨x, hok⟩
  · rw [herror] at h
    cases h
    rfl
  · rw [hok] at h
    cases h

/-- What begins with a digit or a point is no empty number. -/
theorem not_restsOn_zero (negative : Bool) (hstarts : startsNumeral s = true) :
    ¬ RestsOn 0 (numberToken negative s) := by
  intro h
  cases s with
  | nil => cases hstarts
  | cons d s =>
    rcases numberToken_cases negative (s := d :: s) rfl with ⟨text, herror⟩ | ⟨x, hok⟩
    · rw [herror] at h
      cases h
    · rw [hok] at h
      by_cases hd : d.isDigit = true
      · simp [numeralText, hd, RestsOn] at h
      · have hpoint : d = '.' := by simpa [startsNumeral, hd] using hstarts
        simp [numeralText, hpoint, RestsOn] at h

/-! ### Marks -/

/-- What is read where a mark has been read up to `m` characters behind its first one. Either it is
whole, whatever follows, or one more character goes on with it. Then the end of the text and all
other characters leave it at `r`, which takes the characters read so far or is a fault. -/
inductive LongestMark : Nat → (List Char → Except Fault (Token × Nat)) → Prop where
  | whole {m : Nat} {f : List Char → Except Fault (Token × Nat)} (t : Token)
      (hwhole : ∀ s, f s = .ok (t, m)) : LongestMark m f
  | goesOn {m : Nat} {f : List Char → Except Fault (Token × Nat)} {r : Except Fault (Token × Nat)}
      (a : Char) (hend : f [] = r) (hgap : ∀ d tail, d ≠ a → f (d :: tail) = r)
      (hr : ∀ n, RestsOn n r → m ≤ n) (hlonger : LongestMark (m + 1) fun tail => f (a :: tail)) :
      LongestMark m f

/-- What is read behind a mark rests at least on the characters of the mark. -/
theorem LongestMark.le {m n : Nat} {f : List Char → Except Fault (Token × Nat)}
    (hf : LongestMark m f) (h : RestsOn n (f s)) : m ≤ n := by
  induction hf generalizing s with
  | whole t hwhole =>
    rw [hwhole] at h
    exact h
  | goesOn a hend hgap hr hlonger ih =>
    cases s with
    | nil => exact hr n (hend ▸ h)
    | cons d tail =>
      by_cases hd : d = a
      · subst hd
        exact Nat.le_of_succ_le (ih h)
      · exact hr n (hgap d tail hd ▸ h)

/-- A mark is read as before if all that it rests on is left. -/
theorem LongestMark.take {m : Nat} {f : List Char → Except Fault (Token × Nat)}
    (hf : LongestMark m f) (h : RestsOn (k + m) (f s)) : f (s.take k) = f s := by
  induction hf generalizing k s with
  | whole t hwhole => rw [hwhole, hwhole]
  | @goesOn m f r a hend hgap hr hlonger ih =>
    cases s with
    | nil => rw [List.take_nil]
    | cons d tail =>
      cases k with
      | zero =>
        -- with no room for it, the mark does not go on
        by_cases hd : d = a
        · subst hd
          have hle : m + 1 ≤ 0 + m := hlonger.le h
          omega
        · exact hend.trans (hgap d tail hd).symm
      | succ k =>
        by_cases hd : d = a
        · subst hd
          rw [Nat.add_right_comm] at h
          exact ih h
        · exact (hgap d _ hd).trans (hgap d tail hd).symm

/-- The marks that are read without a name or a number behind them. -/
def bareMarks : List Char := ['(', ')', '!', '=', '<', '>', '&', '|']

/-- Every bare mark is the longest of those that begin alike. -/
theorem longestMark (hc : c ∈ bareMarks) (offset : Nat) : LongestMark 0 (tokenAt offset c) := by
  have hzero : ∀ {r : Except Fault (Token × Nat)} n, RestsOn n r → 0 ≤ n := fun n _ => n.zero_le
  simp only [bareMarks, List.mem_cons, List.not_mem_nil, or_false] at hc
  rcases hc with rfl | rfl | rfl | rfl | rfl | rfl | rfl | rfl
  · exact .whole .opening fun _ => rfl
  · exact .whole .closing fun _ => rfl
  · refine .goesOn '=' rfl (fun d tail hd => by simp [tokenAt, hd]) hzero ?_
    refine .goesOn '=' rfl (fun d tail hd => by simp [tokenAt, hd]) (fun n h => h) ?_
    exact .whole (.comparison .strictlyNotEqual) fun _ => rfl
  · refine .goesOn '=' rfl (fun d tail hd => by simp [tokenAt, hd, isBareStart]) hzero ?_
    refine .goesOn '=' rfl (fun d tail hd => by simp [tokenAt, hd]) (fun n h => h) ?_
    exact .whole (.comparison .strictlyEqual) fun _ => rfl
  · refine .goesOn '=' rfl (fun d tail hd => by simp [tokenAt, hd]) hzero ?_
    exact .whole (.comparison .lessOrEqual) fun _ => rfl
  · refine .goesOn '=' rfl (fun d tail hd => by simp [tokenAt, hd]) hzero ?_
    exact .whole (.comparison .greaterOrEqual) fun _ => rfl
  · refine .goesOn '&' rfl (fun d tail hd => by simp [tokenAt, hd, isBareStart]) hzero ?_
    exact .whole .conjunction fun _ => rfl
  · refine .goesOn '|' rfl (fun d tail hd => by simp [tokenAt, hd, isBareStart]) hzero ?_
    exact .whole .disjunction fun _ => rfl

/-- A colon that no second one goes on with begins a bound name. -/
theorem tokenAt_colon (hs : ∀ tail, s = ':' :: tail → False) :
    tokenAt offset ':' s =
      if (nameOf s).isEmpty then .error (.unexpectedChar ':' offset)
      else .ok (.bound (String.ofList (nameOf s)), (nameOf s).length) := by
  rw [tokenAt]
  exact hs

/-- A bound name is as long as its run of characters. -/
theorem tokenAt_take_of_colon (h : RestsOn k (tokenAt offset ':' s)) :
    tokenAt offset ':' (s.take k) = tokenAt offset ':' s := by
  by_cases hs : ∀ tail, s = ':' :: tail → False
  · rw [tokenAt_colon hs] at h
    rw [tokenAt_colon hs, tokenAt_colon (take_ne_cons hs)]
    have hname : (nameOf s).length ≤ k := by
      split at h
      next hempty => simp [List.isEmpty_iff.mp hempty]
      next => exact h
    rw [nameOf, takeWhile_take hname, ← nameOf]
  · -- the name behind two colons is at fault, and no offset is named
    push Not at hs
    obtain ⟨tail, rfl, -⟩ := hs
    cases h

/-- A minus sign asks for one more character, to see whether a number follows. -/
theorem tokenAt_take_of_minus (h : RestsOn k (tokenAt offset '-' s)) :
    tokenAt offset '-' (s.take k) = tokenAt offset '-' s := by
  have hminus : ∀ t, tokenAt offset '-' t =
      if startsNumeral t then numberToken true t else .error (.unexpectedChar '-' offset) :=
    fun t => by rw [tokenAt]
  rw [hminus] at h ⊢
  rw [hminus]
  cases k with
  | zero =>
    by_cases hstarts : startsNumeral s = true
    · rw [if_pos hstarts] at h
      exact absurd h (not_restsOn_zero true hstarts)
    · rw [if_neg hstarts]
      rfl
  | succ k =>
    have hstarts : startsNumeral (s.take (k + 1)) = startsNumeral s := by
      cases s <;> rfl
    rw [hstarts]
    split
    next hs =>
      rw [if_pos hs] at h
      exact numberToken_take h
    next => rfl

/-! ### All tokens -/

/-- Strings, numbers without a sign and bare words. -/
theorem tokenAt_take_of_not_mark (hc : c ∉ markChars) (h : RestsOn k (tokenAt offset c s)) :
    tokenAt offset c (s.take k) = tokenAt offset c s := by
  rw [tokenAt_of_not_mark hc] at h ⊢
  rw [tokenAt_of_not_mark hc]
  split at h
  next hquote =>
    have hplain : c ≠ '\\' := by rcases hquote with rfl | rfl <;> decide
    rw [if_pos hquote, if_pos hquote]
    cases hbody : stringBody c s with
    | none => rw [stringBody_take_of_none hplain hbody]
    | some found =>
      rw [hbody] at h
      rw [stringBody_take_of_some hbody h]
  next hquote =>
    rw [if_neg hquote, if_neg hquote]
    split at h
    next hdigit =>
      have hnumber : RestsOn (k + 1) (numberToken false (c :: s)) := by
        cases hread : numberToken false (c :: s) with
        | error fault =>
          rw [hread] at h
          exact h
        | ok found =>
          rw [hread] at h
          exact Nat.le_add_of_sub_le h
      rw [if_pos hdigit, if_pos hdigit, ← List.take_succ_cons, numberToken_take hnumber]
    next hdigit =>
      rw [if_neg hdigit, if_neg hdigit]
      split at h
      next hbare =>
        have hword : (s.takeWhile isBareChar).length ≤ k := h
        rw [if_pos hbare, if_pos hbare, takeWhile_take hword]
      next hbare => rw [if_neg hbare, if_neg hbare]

/-- Cutting a text off behind a token, or behind the character that a fault points at, changes
nothing there. -/
theorem tokenAt_take (h : RestsOn k (tokenAt offset c s)) :
    tokenAt offset c (s.take k) = tokenAt offset c s := by
  by_cases hcolon : c = ':'
  · subst hcolon
    exact tokenAt_take_of_colon h
  by_cases hminus : c = '-'
  · subst hminus
    exact tokenAt_take_of_minus h
  by_cases hmark : c ∈ markChars
  · have hbare : c ∈ bareMarks := by
      simpa [markChars, bareMarks, hcolon, hminus] using hmark
    exact (longestMark hbare offset).take h
  · exact tokenAt_take_of_not_mark hmark h

end

end SqlTemplate.Condition
