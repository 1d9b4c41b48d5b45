import SqlTemplate.Text.Cut
import Mathlib.Data.List.TakeWhile

/-!
# What cutting comes to

`CutAt` says what it is to cut a text at the occurrences of something, without a pattern: from
left to right, an occurrence is taken whole where one begins, and a character is given up where
none does. A pattern that finds just these occurrences (`Finds`) cuts the text in the only way
there is:

> `cutAt_iff`: the parts are those that cutting at the pattern gives, and no others.

Cutting passes over no occurrence where none begins inside another (`mem_cutFrom_of_suffix`).
A text may be cut in two where no occurrence that begins before goes on behind
(`cut_append_of_local`), and patterns that find the same at each place cut alike (`cut_map`).
-/

namespace SqlTemplate.Text

variable {α β : Type}

/-! ## Cutting, without a pattern -/

/-- What occurs in texts: something that denotes `a` stands at the head of a text, in front of
the rest. -/
abbrev Occurrence (α : Type) := (s : List Char) → (a : α) → (rest : List Char) → Prop

/-- A text as its occurrences, taken from left to right, and the characters between them. -/
inductive CutAt (Occurs : Occurrence α) : List Char → List (Char ⊕ α) → Prop where
  | nil : CutAt Occurs [] []
  /-- An occurrence is taken whole. -/
  | found {s t : List Char} {a : α} {parts : List (Char ⊕ α)} :
      Occurs s a t → CutAt Occurs t parts → CutAt Occurs s (.inr a :: parts)
  /-- Where none begins, one character is given up. -/
  | char {c : Char} {s : List Char} {parts : List (Char ⊕ α)} :
      (∀ a t, ¬ Occurs (c :: s) a t) → CutAt Occurs s parts →
      CutAt Occurs (c :: s) (.inl c :: parts)

/-- A pattern finds what occurs, and nothing else. None of it is empty. -/
structure Finds (pattern : Pattern α) (Occurs : Occurrence α) : Prop where
  found : ∀ {s a t}, Occurs s a t →
    ∃ w, w ≠ [] ∧ s = w ++ t ∧ pattern s = some (a, w.length)
  occurs : ∀ {s a length}, pattern s = some (a, length) → ∃ t, Occurs s a t

section

variable {pattern : Pattern α} {Occurs : Occurrence α} (h : Finds pattern Occurs)

include h

/-- What occurs at the head of a text is cut off first. -/
theorem Finds.cut_of_occurs {s t : List Char} {a : α} (hoccurs : Occurs s a t) :
    cut pattern s = .inr a :: cut pattern t := by
  obtain ⟨w, hne, rfl, hfound⟩ := h.found hoccurs
  obtain ⟨c, w, rfl⟩ := List.exists_cons_of_ne_nil hne
  rw [List.cons_append] at hfound ⊢
  rw [cut_of_some hfound]
  simp

/-- A pattern finds nothing exactly where nothing occurs. -/
theorem Finds.eq_none_iff {s : List Char} : pattern s = none ↔ ∀ a t, ¬ Occurs s a t := by
  constructor
  · intro hnone a t hoccurs
    obtain ⟨w, -, -, hfound⟩ := h.found hoccurs
    rw [hnone] at hfound
    cases hfound
  · intro hnever
    cases hfound : pattern s with
    | none => rfl
    | some found =>
      obtain ⟨t, hoccurs⟩ := h.occurs hfound
      exact absurd hoccurs (hnever _ t)

/-- Cutting at the pattern is a way to cut the text. -/
theorem Finds.cutAt_cut (s : List Char) : CutAt Occurs s (cut pattern s) := by
  -- what is left behind an occurrence is shorter, since no occurrence is empty
  induction hlen : s.length using Nat.strong_induction_on generalizing s with
  | _ length ih =>
    cases s with
    | nil => exact cut_nil ▸ .nil
    | cons c rest =>
      cases hhead : pattern (c :: rest) with
      | none =>
        rw [cut_of_none hhead]
        exact .char (h.eq_none_iff.mp hhead) (ih rest.length (by simp [← hlen]) rest rfl)
      | some found =>
        obtain ⟨t, hoccurs⟩ := h.occurs hhead
        obtain ⟨w, hne, htext, -⟩ := h.found hoccurs
        have hshorter : t.length < length := by
          rw [← hlen, htext, List.length_append]
          exact Nat.lt_add_of_pos_left (List.length_pos_iff.mpr hne)
        rw [h.cut_of_occurs hoccurs]
        exact .found hoccurs (ih t.length hshorter t rfl)

/-- **There is one way to cut a text**, and cutting at the pattern is it. -/
theorem Finds.cutAt_iff {s : List Char} {parts : List (Char ⊕ α)} :
    CutAt Occurs s parts ↔ parts = cut pattern s := by
  constructor
  · intro hcut
    induction hcut with
    | nil => exact cut_nil.symm
    | found hoccurs _ ih => rw [h.cut_of_occurs hoccurs, ih]
    | char hnever _ ih => rw [cut_of_none (h.eq_none_iff.mpr hnever), ih]
  · rintro rfl
    exact h.cutAt_cut s

end

/-! ## What cutting finds -/

section

variable {pattern : Pattern α}

/-- What cutting finds stands at the head of the rest of the text. -/
theorem exists_suffix_of_mem_cutFrom {skip : Nat} {s : List Char} {a : α}
    (h : .inr a ∈ cutFrom pattern skip s) :
    ∃ u length, u <:+ s ∧ pattern u = some (a, length) := by
  fun_induction cutFrom pattern skip s with
  | case1 => cases h
  | case2 skip c rest ih =>
    obtain ⟨u, length, hu, hfound⟩ := ih h
    exact ⟨u, length, List.suffix_cons_iff.mpr (Or.inr hu), hfound⟩
  | case3 c rest found length hfound ih =>
    rcases List.mem_cons.mp h with ha | hrest
    · cases ha
      exact ⟨c :: rest, length, List.suffix_rfl, hfound⟩
    · obtain ⟨u, length', hu, hfound'⟩ := ih hrest
      exact ⟨u, length', List.suffix_cons_iff.mpr (Or.inr hu), hfound'⟩
  | case4 c rest hnone ih =>
    rcases List.mem_cons.mp h with ha | hrest
    · cases ha
    · obtain ⟨u, length, hu, hfound⟩ := ih hrest
      exact ⟨u, length, List.suffix_cons_iff.mpr (Or.inr hu), hfound⟩

/-- Cutting passes over no occurrence, provided that none begins inside another. -/
theorem mem_cutFrom_of_suffix
    (hapart : ∀ {s u : List Char} {a : α} {length : Nat}, pattern s = some (a, length) →
      u <:+ s → u ≠ s → s.length < u.length + length → pattern u = none)
    {skip : Nat} {s u : List Char} {a : α} {length : Nat} (hne : u ≠ []) (hu : u <:+ s)
    (hskip : u.length + skip ≤ s.length) (hfound : pattern u = some (a, length)) :
    .inr a ∈ cutFrom pattern skip s := by
  fun_induction cutFrom pattern skip s with
  | case1 => exact absurd (List.suffix_nil.mp hu) hne
  | case2 skip c rest ih =>
    rcases List.suffix_cons_iff.mp hu with rfl | hu
    · omega
    · rw [List.length_cons] at hskip
      exact ih hu (by omega)
  | case3 c rest found length' hhead ih =>
    by_cases heq : u = c :: rest
    · rw [heq, hhead] at hfound
      cases hfound
      exact List.mem_cons_self ..
    · -- behind the occurrence at the head, since none begins inside it
      have hafter : u.length + length' ≤ (c :: rest).length := by
        by_contra hinside
        rw [hapart hhead hu heq (by omega)] at hfound
        cases hfound
      have hurest := (List.suffix_cons_iff.mp hu).resolve_left heq
      have hle := hurest.length_le
      rw [List.length_cons] at hafter
      exact List.mem_cons_of_mem _ (ih hurest (by omega))
  | case4 c rest hnone ih =>
    rcases List.suffix_cons_iff.mp hu with rfl | hu
    · rw [hnone] at hfound
      cases hfound
    · exact List.mem_cons_of_mem _ (ih hu (by simpa using hu.length_le))

/-! ## Comparing ways of cutting -/

/-- Where the pattern begins nowhere in the first of two texts, cutting gives its
characters. -/
theorem cut_append_of_never {s : List Char} (t : List Char)
    (h : ∀ u, u <:+ s → u ≠ [] → pattern (u ++ t) = none) :
    cut pattern (s ++ t) = s.map .inl ++ cut pattern t := by
  induction s with
  | nil => rfl
  | cons c s ih =>
    have hhead : pattern (c :: (s ++ t)) = none :=
      h (c :: s) List.suffix_rfl (List.cons_ne_nil c s)
    have hrest := ih fun u hu hne => h u (List.suffix_cons_iff.mpr (Or.inr hu)) hne
    rw [List.cons_append, cut_of_none hhead, hrest, List.map_cons, List.cons_append]

/-- Where the pattern never occurs, cutting gives the characters. -/
theorem cut_of_never {s : List Char} (h : ∀ t, t <:+ s → pattern t = none) :
    cut pattern s = s.map .inl := by
  have hcut := cut_append_of_never [] fun u hu _ => (List.append_nil u).symm ▸ h u hu
  simpa using hcut

/-- Where what begins in the first of two texts ends there too and does not depend on the second,
both can be cut on their own. -/
theorem cut_append_of_local {s t : List Char}
    (hsame : ∀ u, u <:+ s → u ≠ [] → pattern (u ++ t) = pattern u)
    (hends : ∀ {u a length}, u <:+ s → pattern u = some (a, length) → length ≤ u.length) :
    cut pattern (s ++ t) = cut pattern s ++ cut pattern t := by
  suffices ∀ skip, skip ≤ s.length →
      cutFrom pattern skip (s ++ t) = cutFrom pattern skip s ++ cut pattern t from
    this 0 (Nat.zero_le _)
  -- on the first text; of an occurrence that has been taken, no more is left than of the text
  induction s with
  | nil =>
    intro skip hskip
    rw [Nat.le_zero.mp hskip]
    rfl
  | cons c s ih =>
    have htail := ih (fun u hu => hsame u (List.suffix_cons_iff.mpr (Or.inr hu)))
      fun hu => hends (List.suffix_cons_iff.mpr (Or.inr hu))
    intro skip hskip
    cases skip with
    | succ skip => exact htail skip (Nat.le_of_succ_le_succ hskip)
    | zero =>
      have hhead := hsame (c :: s) List.suffix_rfl (List.cons_ne_nil c s)
      rw [List.cons_append] at hhead ⊢
      rw [cutFrom, cutFrom, hhead]
      cases hfound : pattern (c :: s) with
      | none => exact congrArg (Sum.inl c :: ·) (htail 0 (Nat.zero_le _))
      | some found =>
        have hle := hends List.suffix_rfl hfound
        rw [List.length_cons] at hle
        exact congrArg (Sum.inr found.1 :: ·) (htail (found.2 - 1) (by omega))

/-- Patterns that find the same at each place, up to what it denotes, cut alike. -/
theorem cut_map {other : Pattern β} (g : β → α) {s : List Char}
    (h : ∀ u, u <:+ s → pattern u = (other u).map fun found => (g found.1, found.2)) :
    cut pattern s = (cut other s).map (Sum.map id g) := by
  suffices ∀ skip, cutFrom pattern skip s = (cutFrom other skip s).map (Sum.map id g) from this 0
  induction s with
  | nil =>
    intro skip
    cases skip <;> rfl
  | cons c s ih =>
    have htail := ih fun u hu => h u (List.suffix_cons_iff.mpr (Or.inr hu))
    intro skip
    cases skip with
    | succ skip => exact htail skip
    | zero =>
      rw [cutFrom, cutFrom, h (c :: s) List.suffix_rfl]
      cases other (c :: s) with
      | none => exact congrArg (Sum.inl c :: ·) (htail 0)
      | some found => exact congrArg (Sum.inr (g found.1) :: ·) (htail (found.2 - 1))

end

end SqlTemplate.Text
