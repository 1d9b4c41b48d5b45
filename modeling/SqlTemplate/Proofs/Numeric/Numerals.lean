import SqlTemplate.Numeric.Numeral
import SqlTemplate.Proofs.Placeholder

/-!
# Plain numerals

A plain numeral is a run of digits, and possibly a point and further digits. It is no word and
has no exponent, so it denotes its digits scaled by the places behind the point.

> `Binary64.read?_signed`: what a plain numeral denotes, with or without a minus sign.
-/

namespace SqlTemplate

open SqlTemplate.Placeholder (run_append)

/-- What holds of each of the ten digits holds of every digit. -/
theorem forall_digit {p : Char → Prop} (h : ∀ n ∈ List.range' 48 10, p (Char.ofNat n)) {c : Char}
    (hc : c.isDigit = true) : p c := by
  have hrange := Char.isDigit_iff_toNat.mp hc
  rw [← Char.ofNat_toNat c]
  exact h c.toNat (List.mem_range'_1.mpr ⟨hrange.1, Nat.lt_succ_of_le hrange.2⟩)

theorem toLower_of_isDigit {c : Char} (h : c.isDigit = true) : c.toLower = c :=
  forall_digit (p := fun c => c.toLower = c) (by decide) h

/-- A run of digits ends where another character follows. -/
theorem spanDigits_append {xs ys : List Char} (hxs : ∀ c ∈ xs, c.isDigit = true)
    (hys : ∀ c ∈ ys.head?, c.isDigit = false) : spanDigits (xs ++ ys) = (xs, ys) :=
  Prod.ext (run_append hxs hys).1 (run_append hxs hys).2

theorem spanDigits_of_digits {xs : List Char} (h : ∀ c ∈ xs, c.isDigit = true) :
    spanDigits xs = (xs, []) := by
  have hnil : spanDigits (xs ++ []) = (xs, []) := spanDigits_append h nofun
  rwa [List.append_nil] at hnil

/-- A run of digits, and possibly a point and further digits. -/
def numeralText (whole : List Char) (fraction : Option (List Char)) : List Char :=
  whole ++ match fraction with
    | none => []
    | some digits => '.' :: digits

/-- The parts of a plain numeral: runs of digits, of which the first is not empty. -/
structure PlainNumeral (whole : List Char) (fraction : Option (List Char)) : Prop where
  ne_nil : whole ≠ []
  whole : ∀ c ∈ whole, c.isDigit = true
  fraction : ∀ c ∈ fraction.getD [], c.isDigit = true

/-- The number that a plain numeral denotes. -/
def plainValue (negative : Bool) (whole : List Char) (fraction : Option (List Char)) : Binary64 :=
  .ofDecimal negative (digitsValue (whole ++ fraction.getD [])) (-((fraction.getD []).length : Int))

section

variable {whole : List Char} {fraction : Option (List Char)}

theorem PlainNumeral.exists_cons (h : PlainNumeral whole fraction) :
    ∃ c rest, numeralText whole fraction = c :: rest ∧ c.isDigit = true := by
  obtain ⟨c, tail, rfl⟩ := List.exists_cons_of_ne_nil h.ne_nil
  exact ⟨c, _, rfl, h.whole c (List.mem_cons_self ..)⟩

/-- A plain numeral is read as its digits and the places behind its point. -/
theorem numeral?_numeralText (h : PlainNumeral whole fraction) :
    numeral? (numeralText whole fraction) =
      some (digitsValue (whole ++ fraction.getD []), -((fraction.getD []).length : Int)) := by
  have hwhole : whole.isEmpty = false := List.isEmpty_eq_false_iff.mpr h.ne_nil
  cases fraction with
  | none => simp [numeral?, numeralText, spanDigits_of_digits h.whole, hwhole, exponentPart?]
  | some digits =>
    have hpoint : spanDigits (whole ++ '.' :: digits) = (whole, '.' :: digits) :=
      spanDigits_append h.whole (by simp)
    have hdigits : spanDigits digits = (digits, []) := spanDigits_of_digits h.fraction
    simp [numeral?, numeralText, hpoint, hdigits, hwhole, exponentPart?]

namespace Binary64

/-- A plain numeral is read whole, with or without a minus sign. -/
theorem read?_signed (negative : Bool) (h : PlainNumeral whole fraction) :
    read? ((if negative then ['-'] else []) ++ numeralText whole fraction) =
      some (plainValue negative whole fraction) := by
  obtain ⟨c, rest, htext, hc⟩ := h.exists_cons
  have hnumeral := numeral?_numeralText h
  rw [htext] at hnumeral ⊢
  -- no word begins with a digit
  have hword : ∀ d word, d.isDigit = false → (c :: rest).map Char.toLower ≠ d :: word := by
    intro d word hd heq
    rw [List.map_cons, toLower_of_isDigit hc] at heq
    rw [← (List.cons.inj heq).1, hc] at hd
    cases hd
  have hinf : ¬ ((c :: rest).map Char.toLower = "inf".toList ∨
      (c :: rest).map Char.toLower = "infinity".toList) :=
    not_or.mpr ⟨hword 'i' _ rfl, hword 'i' _ rfl⟩
  have hnan : (c :: rest).map Char.toLower ≠ "nan".toList := hword 'n' _ rfl
  cases negative with
  | true =>
    change read? ('-' :: c :: rest) = _
    rw [read?, if_neg hinf, if_neg hnan, hnumeral]
    rfl
  | false =>
    -- nor does a sign
    have hsign : ∀ {sign t}, sign.isDigit = false → c :: rest = sign :: t → False := by
      rintro sign t hsign ⟨⟩
      rw [hc] at hsign
      cases hsign
    change read? (c :: rest) = _
    rw [read?, if_neg hinf, if_neg hnan, hnumeral]
    · rfl
    · exact fun t => hsign rfl
    · exact fun t => hsign rfl

end Binary64

end

end SqlTemplate
