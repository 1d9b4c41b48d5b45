import SqlTemplate.Condition.Lexer
import SqlTemplate.Proofs.Numeric.Numerals
import Mathlib.Tactic.Tauto

/-!
# Reading what is written

Every token has its spellings: a string stands between either kind of quote, a number may have a
sign and a point, and the rest are words and marks. Whatever tokens are written down with gaps
between them, those tokens are read, since no character of a token is a blank unless it stands
between quotes, and no blank goes on with a token.

> `Spelled.exists_readAs`: a spelling is read as its token, if a blank or the end follows.
> `Written.read`: so are spellings one after another, by induction on how they are written.
> `tokens_of_written`: a text is read as the tokens that are written in it.
-/

namespace SqlTemplate.Condition

open SqlTemplate.Text
open SqlTemplate.Placeholder

/-! ## Spellings -/

/-- A character of a string: the quote and the backslash stand behind a backslash. -/
def escapedChar (quote c : Char) : List Char :=
  if c = '\\' ∨ c = quote then ['\\', c] else [c]

/-- The content of a string between two quotes. -/
def escaped (quote : Char) (s : List Char) : List Char := s.flatMap (escapedChar quote)

/-- The bare words that are no names. -/
def reserved : List String := ["true", "false", "null", "undefined"]

/-- The ways to write a token. -/
inductive Spelled : Token → List Char → Prop where
  | number {whole : List Char} {fraction : Option (List Char)} {x : Binary64} (negative : Bool)
      (hnumeral : PlainNumeral whole fraction)
      (hvalue : Binary64.read? ((if negative then ['-'] else []) ++ numeralText whole fraction) =
        some x) :
      Spelled (.number x) ((if negative then ['-'] else []) ++ numeralText whole fraction)
  | string {quote : Char} (hquote : quote = '\'' ∨ quote = '"') (s : String) :
      Spelled (.string s) (quote :: (escaped quote s.toList ++ [quote]))
  | true : Spelled (.bool true) "true".toList
  | false : Spelled (.bool false) "false".toList
  | null : Spelled .null "null".toList
  | undefined : Spelled .null "undefined".toList
  | name {c : Char} {word : List Char} (hfirst : isBareStart c = true)
      (hword : ∀ d ∈ word, isBareChar d = true)
      (hreserved : String.ofList (c :: word) ∉ reserved) :
      Spelled (.name (String.ofList (c :: word))) (c :: word)
  | bound {name : List Char} (hne : name ≠ []) (hname : ∀ c ∈ name, isNameChar c = true) :
      Spelled (.bound (String.ofList name)) (':' :: name)
  | opening : Spelled .opening ['(']
  | closing : Spelled .closing [')']
  | negation : Spelled .negation ['!']
  | comparison (op : Comparison) : Spelled (.comparison op) op.spelling.toList
  | conjunction : Spelled .conjunction ['&', '&']
  | disjunction : Spelled .disjunction ['|', '|']

/-- Tokens written one after another, with a gap of blanks between each two. -/
inductive Written : List Token → List Char → Prop where
  | nil : Written [] []
  | one {t : Token} {s : List Char} (hspelled : Spelled t s) : Written [t] s
  | cons {t : Token} {s gap rest : List Char} {ts : List Token} (hspelled : Spelled t s)
      (hne : gap ≠ []) (hgap : ∀ c ∈ gap, isBlank c = true) (hrest : Written ts rest) :
      Written (t :: ts) (s ++ gap ++ rest)

/-! ## The characters of spellings -/

/-- Whether a blank follows, or the end. -/
def StartsBlank (s : List Char) : Prop := ∀ c ∈ s.head?, isBlank c = true

theorem not_bareChar_of_blank {c : Char} (h : isBlank c = true) : isBareChar c = false :=
  forall_blank (p := fun c => isBareChar c = false) (by decide +kernel) h

/-- No bare word begins with a digit, so that numbers are not taken for words. -/
theorem not_bareStart_of_digit {c : Char} (h : c.isDigit = true) : isBareStart c = false :=
  forall_digit (p := fun c => isBareStart c = false) (by decide) h

/-- A run of characters of a kind that no blank has ends at a gap. -/
theorem run_gap {p : Char → Bool} (hp : ∀ {c}, isBlank c = true → p c = false)
    {xs rest : List Char} (hxs : ∀ c ∈ xs, p c = true) (hrest : StartsBlank rest) :
    (xs ++ rest).takeWhile p = xs ∧ (xs ++ rest).dropWhile p = rest :=
  run_append hxs fun c hc => hp (hrest c hc)

/-! ## One token -/

/-- What begins with a character and goes on with others is read as a token, if a blank or the
end follows. -/
structure ReadAs (t : Token) (c : Char) (word : List Char) : Prop where
  plain : isBlank c = false
  read : ∀ offset rest, StartsBlank rest → tokenAt offset c (word ++ rest) = .ok (t, word.length)

/-- A mark is read whole if no `=` goes on with it. -/
theorem readAs_mark {t : Token} {c : Char} {word : List Char} (hc : isBlank c = false)
    (hend : ∀ offset, tokenAt offset c word = .ok (t, word.length))
    (hgap : ∀ offset d rest, d ≠ '=' → tokenAt offset c (word ++ d :: rest) = .ok (t, word.length)) :
    ReadAs t c word := by
  refine ⟨hc, fun offset rest hrest => ?_⟩
  cases rest with
  | nil => rw [List.append_nil, hend]
  | cons d rest =>
    refine hgap offset d rest ?_
    rintro rfl
    exact absurd (hrest '=' rfl) (by decide)

/-- A negation is no inequality if no `=` follows. -/
theorem readAs_negation : ReadAs .negation '!' [] :=
  readAs_mark (by decide) (fun _ => rfl) fun _ _ _ h => by simp [tokenAt, h]

/-- Each comparison is read by its spelling. -/
theorem readAs_comparison (op : Comparison) :
    ∃ c word, op.spelling.toList = c :: word ∧ ReadAs (.comparison op) c word := by
  cases op <;>
    exact ⟨_, _, String.toList_ofList,
      readAs_mark (by decide) (fun _ => rfl) fun _ _ _ h => by simp [tokenAt, h]⟩

theorem readAs_bound {name : List Char} (hne : name ≠ [])
    (hname : ∀ c ∈ name, isNameChar c = true) :
    ReadAs (.bound (String.ofList name)) ':' name := by
  refine ⟨by decide, fun offset rest hrest => ?_⟩
  have hrun : nameOf (name ++ rest) = name := (run_gap not_nameChar_of_blank hname hrest).1
  obtain ⟨c, tail, rfl⟩ := List.exists_cons_of_ne_nil hne
  -- a second colon would be something else, but it is no character of a name
  have hcolon : c ≠ ':' := by
    rintro rfl
    exact absurd (hname _ (List.mem_cons_self ..)) (by decide)
  rw [List.cons_append] at hrun ⊢
  simp [tokenAt, hcolon, hrun]

/-- The characters with which marks, bound names and negative numbers begin. -/
def markChars : List Char := [':', '(', ')', '!', '=', '<', '>', '&', '|', '-']

/-- No mark is of a kind that none of them is of. -/
theorem not_mark_of {p : Char → Bool} (hp : markChars.any p = false) {c : Char}
    (h : p c = true) : c ∉ markChars :=
  fun hmem => List.any_eq_false.mp hp c hmem h

/-- Any other character begins a string, a number or a bare word. -/
theorem tokenAt_of_not_mark {c : Char} (hc : c ∉ markChars) (offset : Nat) (rest : List Char) :
    tokenAt offset c rest =
      if c = '\'' ∨ c = '"' then
        match stringBody c rest with
        | some (s, n) => .ok (.string (String.ofList s), n)
        | none => .error (.unterminatedString offset)
      else if c.isDigit then
        (numberToken false (c :: rest)).map fun (token, n) => (token, n - 1)
      else if isBareStart c then
        .ok (wordToken (c :: rest.takeWhile isBareChar), (c :: rest.takeWhile isBareChar).length - 1)
      else .error (.unexpectedChar c offset) := by
  unfold tokenAt
  split <;> first | rfl | exact absurd (by decide) hc

/-! ### Bare words -/

theorem isBareChar_of_isBareStart {c : Char} (h : isBareStart c = true) : isBareChar c = true := by
  simp only [isBareStart, isBareChar, isNameChar, Char.isAlphanum, Bool.or_eq_true] at h ⊢
  tauto

/-- A bare word is read whole, as whatever the word means. -/
theorem readAs_word {c : Char} {word : List Char} {t : Token} (ht : wordToken (c :: word) = t)
    (hfirst : isBareStart c = true) (hword : word.all isBareChar = true) : ReadAs t c word := by
  have hplain := not_blank_of not_bareChar_of_blank (isBareChar_of_isBareStart hfirst)
  have hmark : c ∉ markChars := not_mark_of rfl hfirst
  have hquote : ¬ (c = '\'' ∨ c = '"') := by
    rintro (rfl | rfl) <;> cases hfirst
  have hdigit : ¬ c.isDigit = true := by
    intro hdigit
    rw [not_bareStart_of_digit hdigit] at hfirst
    cases hfirst
  refine ⟨hplain, fun offset rest hrest => ?_⟩
  have hrun := (run_gap not_bareChar_of_blank (List.all_eq_true.mp hword) hrest).1
  rw [tokenAt_of_not_mark hmark, if_neg hquote, if_neg hdigit, if_pos hfirst, hrun, ht]
  rfl

/-- Any word that is not reserved is a name. -/
theorem wordToken_of_not_reserved {word : List Char} (h : String.ofList word ∉ reserved) :
    wordToken word = .name (String.ofList word) := by
  have hne : ∀ {w : List Char}, String.ofList w ∈ reserved → word ≠ w := by
    rintro w hw rfl
    exact h hw
  rw [wordToken, if_neg (hne (by decide)), if_neg (hne (by decide)), if_neg (hne (by decide)),
    if_neg (hne (by decide))]

/-! ### Strings -/

theorem unescape_quote {quote c : Char} (hquote : quote = '\'' ∨ quote = '"')
    (hc : c = '\\' ∨ c = quote) : unescape c = c := by
  rcases hc with rfl | rfl
  · rfl
  · rcases hquote with rfl | rfl <;> rfl

/-- What is escaped is read back: no quote but the last one ends the string. -/
theorem stringBody_escaped {quote : Char} (hquote : quote = '\'' ∨ quote = '"')
    (s rest : List Char) :
    stringBody quote (escaped quote s ++ quote :: rest) =
      some (s, (escaped quote s).length + 1) := by
  have hbackslash : quote ≠ '\\' := by rcases hquote with rfl | rfl <;> decide
  induction s with
  | nil => simp [escaped, stringBody, hbackslash]
  | cons c s ih =>
    rw [escaped, List.flatMap_cons, ← escaped, List.append_assoc]
    by_cases hc : c = '\\' ∨ c = quote
    · rw [escapedChar, if_pos hc]
      simp [stringBody, ih, unescape_quote hquote hc]
    · rw [escapedChar, if_neg hc]
      obtain ⟨hslash, hother⟩ := not_or.mp hc
      simp [stringBody, ih, hslash, hother]

/-- A string between quotes is read as what it was before escaping. -/
theorem readAs_string {quote : Char} (hquote : quote = '\'' ∨ quote = '"') (s : List Char) :
    ReadAs (.string (String.ofList s)) quote (escaped quote s ++ [quote]) := by
  have hplain : isBlank quote = false := by rcases hquote with rfl | rfl <;> decide
  have hmark : quote ∉ markChars := by rcases hquote with rfl | rfl <;> decide
  refine ⟨hplain, fun offset rest _ => ?_⟩
  have hbody := stringBody_escaped hquote s rest
  rw [tokenAt_of_not_mark hmark, if_pos hquote, List.append_assoc, List.singleton_append, hbody,
    List.length_append]
  rfl

/-! ### Numbers -/

section

variable {whole : List Char} {fraction : Option (List Char)} {rest : List Char}

/-- A gap behind a numeral leaves its parts as they are. -/
theorem numeralParts_append (h : PlainNumeral whole fraction) (hrest : StartsBlank rest) :
    numeralParts (numeralText whole fraction ++ rest) = (whole, fraction) := by
  cases fraction with
  | none =>
    have hrun := run_gap not_digit_of_blank h.whole hrest
    have htext : numeralText whole none ++ rest = whole ++ rest := by simp [numeralText]
    rw [htext, numeralParts, hrun.1, hrun.2]
    split
    next rest => exact absurd (hrest '.' rfl) (by decide)
    next => rfl
  | some digits =>
    have hfraction : ∀ c ∈ digits, c.isDigit = true := h.fraction
    have hpoint : ∀ c ∈ ('.' :: (digits ++ rest)).head?, c.isDigit = false := by simp
    have hrun := run_append h.whole hpoint
    have htext : numeralText whole (some digits) ++ rest = whole ++ '.' :: (digits ++ rest) := by
      simp [numeralText]
    rw [htext, numeralParts, hrun.1, hrun.2]
    exact congrArg (fun run => (whole, some run)) (run_gap not_digit_of_blank hfraction hrest).1

theorem numberToken_append (negative : Bool) (h : PlainNumeral whole fraction)
    (hrest : StartsBlank rest) :
    numberToken negative (numeralText whole fraction ++ rest) =
      .ok (.number (plainValue negative whole fraction), (numeralText whole fraction).length) := by
  have hwhole : whole.isEmpty = false := List.isEmpty_eq_false_iff.mpr h.ne_nil
  rw [numberToken, numeralParts_append h hrest]
  cases fraction with
  | none => simp [numeralText, plainValue]
  | some digits =>
    simp [numeralText, plainValue, hwhole]
    omega

end

/-- A numeral is read whole, with or without a minus sign. -/
theorem exists_readAs_number {whole : List Char} {fraction : Option (List Char)}
    (negative : Bool) (h : PlainNumeral whole fraction) :
    ∃ c word, (if negative then ['-'] else []) ++ numeralText whole fraction = c :: word ∧
      ReadAs (.number (plainValue negative whole fraction)) c word := by
  obtain ⟨c, word, htext, hc⟩ := h.exists_cons
  have hread : ∀ rest, StartsBlank rest → numberToken negative (c :: (word ++ rest)) =
      .ok (.number (plainValue negative whole fraction), word.length + 1) := by
    intro rest hrest
    have happend := numberToken_append negative h hrest
    rwa [htext] at happend
  rw [htext]
  -- the sign is a mark, and without it the number begins with a digit
  cases negative with
  | true =>
    refine ⟨'-', c :: word, rfl, by decide, fun offset rest hrest => ?_⟩
    have hstarts : startsNumeral (c :: (word ++ rest)) = true := by simp [startsNumeral, hc]
    simp [tokenAt, hstarts, hread rest hrest]
  | false =>
    refine ⟨c, word, rfl, ?_, fun offset rest hrest => ?_⟩
    · exact not_blank_of not_digit_of_blank hc
    · have hmark : c ∉ markChars := not_mark_of rfl hc
      have hquote : ¬ (c = '\'' ∨ c = '"') := by
        rintro (rfl | rfl) <;> cases hc
      rw [tokenAt_of_not_mark hmark, if_neg hquote, if_pos hc, hread rest hrest]
      rfl

/-! ### All tokens -/

/-- Every spelling is read whole. -/
theorem Spelled.exists_readAs {t : Token} {s : List Char} (h : Spelled t s) :
    ∃ c word, s = c :: word ∧ ReadAs t c word := by
  cases h with
  | number negative hnumeral hvalue =>
    rw [Binary64.read?_signed negative hnumeral] at hvalue
    cases hvalue
    exact exists_readAs_number negative hnumeral
  | string hquote s =>
    have hread := readAs_string hquote s.toList
    rw [String.ofList_toList] at hread
    exact ⟨_, _, rfl, hread⟩
  | true => exact ⟨'t', ['r', 'u', 'e'], rfl, readAs_word rfl rfl rfl⟩
  | false => exact ⟨'f', ['a', 'l', 's', 'e'], rfl, readAs_word rfl rfl rfl⟩
  | null => exact ⟨'n', ['u', 'l', 'l'], rfl, readAs_word rfl rfl rfl⟩
  | undefined =>
    exact ⟨'u', ['n', 'd', 'e', 'f', 'i', 'n', 'e', 'd'], rfl, readAs_word rfl rfl rfl⟩
  | name hfirst hword hreserved =>
    exact ⟨_, _, rfl, readAs_word (wordToken_of_not_reserved hreserved) hfirst
      (List.all_eq_true.mpr hword)⟩
  | bound hne hname => exact ⟨':', _, rfl, readAs_bound hne hname⟩
  | opening => exact ⟨'(', [], rfl, by decide, fun _ _ _ => rfl⟩
  | closing => exact ⟨')', [], rfl, by decide, fun _ _ _ => rfl⟩
  | negation => exact ⟨'!', [], rfl, readAs_negation⟩
  | comparison op => exact readAs_comparison op
  | conjunction => exact ⟨'&', ['&'], rfl, by decide, fun _ _ _ => rfl⟩
  | disjunction => exact ⟨'|', ['|'], rfl, by decide, fun _ _ _ => rfl⟩

/-! ## All tokens of a text -/

/-- The characters of a token that is read are passed over. -/
theorem tokensFrom_append (offset : Nat) (word rest : List Char) :
    tokensFrom word.length offset (word ++ rest) = tokensFrom 0 (offset + word.length) rest := by
  induction word generalizing offset with
  | nil => rfl
  | cons c word ih =>
    rw [List.length_cons, List.cons_append, tokensFrom, ih, Nat.add_right_comm, Nat.add_assoc]

/-- So are blanks. -/
theorem tokensFrom_gap (offset : Nat) {gap : List Char} (hgap : ∀ c ∈ gap, isBlank c = true)
    (rest : List Char) :
    tokensFrom 0 offset (gap ++ rest) = tokensFrom 0 (offset + gap.length) rest := by
  induction gap generalizing offset with
  | nil => rfl
  | cons c gap ih =>
    obtain ⟨hc, hgap⟩ := List.forall_mem_cons.mp hgap
    rw [List.length_cons, List.cons_append, tokensFrom, if_pos hc, ih _ hgap, Nat.add_right_comm,
      Nat.add_assoc]

theorem tokensFrom_of_blanks (offset : Nat) {gap : List Char}
    (hgap : ∀ c ∈ gap, isBlank c = true) : tokensFrom 0 offset gap = .ok [] := by
  have hread := tokensFrom_gap offset hgap []
  rwa [List.append_nil, tokensFrom] at hread

/-- A spelling is read as its token, and reading goes on behind it. -/
theorem Spelled.read {t : Token} {s rest : List Char} (h : Spelled t s)
    (hrest : StartsBlank rest) {offset : Nat} {ts : List Token}
    (hts : tokensFrom 0 (offset + s.length) rest = .ok ts) :
    tokensFrom 0 offset (s ++ rest) = .ok (t :: ts) := by
  obtain ⟨c, word, rfl, hread⟩ := h.exists_readAs
  have hbehind : tokensFrom word.length (offset + 1) (word ++ rest) = .ok ts := by
    rw [tokensFrom_append, ← hts, List.length_cons, Nat.add_right_comm, Nat.add_assoc]
  rw [List.cons_append, tokensFrom, if_neg (by simp [hread.plain]),
    hread.read offset rest hrest]
  simp only [hbehind]

/-- What is written and then followed by blanks is read. -/
theorem Written.read {ts : List Token} {s : List Char} (h : Written ts s)
    {after : List Char} (hafter : ∀ c ∈ after, isBlank c = true) (offset : Nat) :
    tokensFrom 0 offset (s ++ after) = .ok ts := by
  have hstarts : StartsBlank after := fun c hc => hafter c (List.mem_of_mem_head? hc)
  -- a token ends where its gap begins, or the blanks behind the last one
  induction h generalizing offset with
  | nil => exact tokensFrom_of_blanks offset hafter
  | one hspelled => exact hspelled.read hstarts (tokensFrom_of_blanks _ hafter)
  | @cons t s gap rest ts hspelled hne hgap hrest ih =>
    have hgapStarts : StartsBlank (gap ++ (rest ++ after)) := by
      obtain ⟨c, tail, rfl⟩ := List.exists_cons_of_ne_nil hne
      rintro _ ⟨⟩
      exact hgap c (List.mem_cons_self ..)
    rw [List.append_assoc, List.append_assoc]
    refine hspelled.read hgapStarts ?_
    rw [tokensFrom_gap _ hgap, ih]

/-- **What is written is read.** Tokens one after another, in any spelling, with any gaps
between them and any blanks before and after, are read as those tokens. -/
theorem tokens_of_written {ts : List Token} {before s after : List Char} (h : Written ts s)
    (hbefore : ∀ c ∈ before, isBlank c = true) (hafter : ∀ c ∈ after, isBlank c = true) :
    tokens (String.ofList (before ++ s ++ after)) = .ok ts := by
  rw [tokens, String.toList_ofList, List.append_assoc, tokensFrom_gap 0 hbefore]
  exact h.read hafter _

/-- A string with a quote, a backslash and a line break in it, a negative number with a point,
and marks that begin alike. -/
theorem tokens_of_written_mixed :
    tokens " :a.b ===\t'it\\'s \\\\\n\"' && !  true\u00a0!= -1.50 \n" =
      .ok [.bound "a.b", .comparison .strictlyEqual, .string "it's \\\n\"", .conjunction,
        .negation, .bool true, .comparison .notEqual, .number (.ofDecimal true 150 (-2))] := by
  have hall : ∀ {p : Char → Bool} (s : List Char), s.all p = true → ∀ c ∈ s, p c = true :=
    fun _ h => List.all_eq_true.mp h
  have hname : Spelled (.bound "a.b") [':', 'a', '.', 'b'] := .bound (by decide) (hall _ rfl)
  have hstring : Spelled (.string "it's \\\n\"") _ := .string (Or.inl rfl) _
  have hnumeral : PlainNumeral ['1'] (some ['5', '0']) := ⟨by decide, hall _ rfl, hall _ rfl⟩
  have hvalue : Binary64.read? ['-', '1', '.', '5', '0'] = some (.ofDecimal true 150 (-2)) := by
    decide +kernel
  have hnumber : Spelled (.number (.ofDecimal true 150 (-2))) ['-', '1', '.', '5', '0'] :=
    .number true hnumeral hvalue
  have hwritten : Written _ _ :=
    .cons hname (by decide) (hall [' '] rfl) <|
    .cons (.comparison .strictlyEqual) (by decide) (hall ['\t'] rfl) <|
    .cons hstring (by decide) (hall [' '] rfl) <|
    .cons .conjunction (by decide) (hall [' '] rfl) <|
    .cons .negation (by decide) (hall [' ', ' '] rfl) <|
    .cons .true (by decide) (hall ['\u00a0'] rfl) <|
    .cons (.comparison .notEqual) (by decide) (hall [' '] rfl) <|
    .one hnumber
  have hread := tokens_of_written hwritten (hall [' '] rfl) (hall [' ', '\n'] rfl)
  exact Eq.trans (congrArg tokens (by decide +kernel)) hread

end SqlTemplate.Condition
