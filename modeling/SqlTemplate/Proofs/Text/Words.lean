import SqlTemplate.Text.Words
import Mathlib.Data.List.Infix

/-!
# Gluing words

The words of two texts written one after the other are the words of each, with
the last word of the first glued to the first word of the second: `split_append`.
The only exception is a gap on both sides of the seam, which becomes one gap.

What stands in a text without crossing a blank stands inside one of its words
(`infix_text`), and each word of a text stands in the text (`infix_of_mem_split`).
Words put together split into the same words again (`Proper.split_text`), as long as
only the first and the last of them are empty.
-/

namespace SqlTemplate.Text

/-- Whether a text does not begin with a blank. -/
def StartsPlain (s : List Char) : Prop := ∀ c ∈ s.head?, isBlank c = false

/-- Whether a text does not end in a blank. -/
def EndsPlain (s : List Char) : Prop := ∀ c ∈ s.getLast?, isBlank c = false

/-- Whether a text holds no blank. -/
def Unbroken (s : List Char) : Prop := ∀ c ∈ s, isBlank c = false

/-- The code points of the blanks. -/
def blankCodes : List Nat :=
  [9, 10, 11, 12, 13, 0x20, 0x85, 0xA0, 0x1680, 0x2000, 0x2001, 0x2002, 0x2003, 0x2004, 0x2005,
    0x2006, 0x2007, 0x2008, 0x2009, 0x200A, 0x2028, 0x2029, 0x202F, 0x205F, 0x3000]

/-- What holds of each code point in the list holds of every blank. -/
theorem forall_blank {p : Char → Prop} (h : ∀ n ∈ blankCodes, p (Char.ofNat n)) {c : Char}
    (hc : isBlank c = true) : p c := by
  have hmem : c.toNat ∈ blankCodes := by
    simp only [isBlank, Bool.or_eq_true, Bool.and_eq_true, decide_eq_true_eq, beq_iff_eq] at hc
    simp only [blankCodes, List.mem_cons, List.not_mem_nil, or_false]
    omega
  rw [← Char.ofNat_toNat c]
  exact h c.toNat hmem

/-- What holds of no blank tells a character from the blanks. -/
theorem not_blank_of {p : Char → Bool} (hp : ∀ {c}, isBlank c = true → p c = false) {c : Char}
    (h : p c = true) : isBlank c = false := by
  cases hb : isBlank c with
  | false => rfl
  | true =>
    rw [hp hb] at h
    cases h

theorem not_digit_of_blank {c : Char} (h : isBlank c = true) : c.isDigit = false :=
  forall_blank (p := fun c => c.isDigit = false) (by decide +kernel) h

theorem startsPlain_cons {c : Char} {s : List Char} (h : isBlank c = false) :
    StartsPlain (c :: s) := by
  simpa [StartsPlain] using h

/-- The form in which a literal word is shown to hold no blank, by evaluating. -/
theorem unbroken_of_all {s : List Char} (h : s.all (!isBlank ·) = true) : Unbroken s := by
  simpa [Unbroken] using h

/-! ## What stands in a text -/

/-- A character that does not occur in `w` keeps the occurrences of `w` on its two
sides apart. -/
theorem infix_append_cons {w xs ys : List Char} {a : Char} (h : w <:+: xs ++ a :: ys)
    (ha : a ∉ w) : w <:+: xs ∨ w <:+: ys := by
  rcases List.infix_append_iff.mp h with hx | hy | ⟨l₁, l₂, rfl, h₁, h₂⟩
  · exact Or.inl hx
  · rcases List.infix_cons_iff.mp hy with hp | hy
    · cases w with
      | nil => exact Or.inl List.nil_infix
      | cons b w =>
        have hb : b = a := (List.cons_prefix_cons.mp hp).1
        exact absurd (hb ▸ List.mem_cons_self ..) ha
    · exact Or.inr hy
  · cases l₂ with
    | nil => exact Or.inl (by simpa using h₁.isInfix)
    | cons b l₂ =>
      have hb : b = a := (List.cons_prefix_cons.mp h₂).1
      exact absurd (by simp [hb]) ha

/-- What does not begin in the first of two texts stands in the second. -/
theorem infix_of_not_mem {a : Char} {w xs ys : List Char} (ha : a ∉ xs)
    (h : a :: w <:+: xs ++ ys) : a :: w <:+: ys := by
  induction xs with
  | nil => exact h
  | cons x xs ih =>
    rcases List.infix_cons_iff.mp h with hpre | hrest
    · have hax : a = x := (List.cons_prefix_cons.mp hpre).1
      exact absurd (hax ▸ List.mem_cons_self ..) ha
    · exact ih (fun hmem => ha (List.mem_cons_of_mem _ hmem)) hrest

/-- An unbroken stretch does not begin in a gap. -/
theorem infix_of_gap {w gap rest : List Char} (hw : Unbroken w)
    (hgap : ∀ c ∈ gap, isBlank c = true) (h : w <:+: gap ++ rest) : w <:+: rest := by
  cases w with
  | nil => exact List.nil_infix
  | cons a w =>
    have ha : a ∉ gap := by
      intro hmem
      have hblank := hgap a hmem
      rw [hw a (List.mem_cons_self ..)] at hblank
      cases hblank
    exact infix_of_not_mem ha h

namespace Words

/-- Gaps are runs of blanks, and words hold none. -/
structure Proper (ws : Words) : Prop where
  first : Unbroken ws.first
  gap_ne_nil : ∀ s ∈ ws.spaced, s.gap ≠ []
  gap : ∀ s ∈ ws.spaced, ∀ c ∈ s.gap, isBlank c = true
  word : ∀ s ∈ ws.spaced, Unbroken s.word

/-- What is behind the first gap is proper by itself, with its first word in front. -/
theorem Proper.tail {first : List Char} {s : Spaced} {more : List Spaced}
    (h : Proper ⟨first, s :: more⟩) : Proper ⟨s.word, more⟩ where
  first := h.word s (List.mem_cons_self ..)
  gap_ne_nil t ht := h.gap_ne_nil t (List.mem_cons_of_mem _ ht)
  gap t ht := h.gap t (List.mem_cons_of_mem _ ht)
  word t ht := h.word t (List.mem_cons_of_mem _ ht)

/-- An unbroken stretch of a text stands in one of its words. -/
theorem infix_text {w : List Char} (hw : Unbroken w) {ws : Words} (hp : ws.Proper)
    (h : w <:+: ws.text) : w <:+: ws.first ∨ ∃ s ∈ ws.spaced, w <:+: s.word := by
  obtain ⟨first, spaced⟩ := ws
  induction spaced generalizing first with
  | nil => exact Or.inl (by simpa [text] using h)
  | cons s more ih =>
    have hgap := hp.gap s (List.mem_cons_self ..)
    cases hg : s.gap with
    | nil => exact absurd hg (hp.gap_ne_nil s (List.mem_cons_self ..))
    | cons g gap =>
      rw [text, spacedText_cons, hg, List.cons_append] at h
      rw [hg] at hgap
      -- a blank of the gap keeps the stretch on one of its two sides
      have hgw : g ∉ w := fun hm => by
        have hb := hw g hm
        rw [hgap g (List.mem_cons_self ..)] at hb
        cases hb
      rcases infix_append_cons h hgw with hf | hr
      · exact Or.inl hf
      · have hr' := infix_of_gap hw (fun c hc => hgap c (List.mem_cons_of_mem _ hc)) hr
        rcases ih s.word hp.tail hr' with hs | ⟨t, ht, hwt⟩
        · exact Or.inr ⟨s, List.mem_cons_self .., hs⟩
        · exact Or.inr ⟨t, List.mem_cons_of_mem _ ht, hwt⟩

theorem word_infix_spacedText {s : Spaced} {spaced : List Spaced} (h : s ∈ spaced) :
    s.word <:+: spacedText spaced := by
  induction spaced with
  | nil => cases h
  | cons t more ih =>
    rw [spacedText_cons]
    rcases List.mem_cons.mp h with rfl | hm
    · exact List.infix_append' s.gap s.word _
    · exact List.infix_append_of_infix_right (List.infix_append_of_infix_right (ih hm))

/-! ## Splitting -/

/-- Splitting puts one character after another in front; all that follows is said about `cons`. -/
theorem split_cons (c : Char) (s : List Char) : split (c :: s) = cons c (split s) := by
  unfold split
  rw [List.foldr_cons]

/-- A blank before a gap joins it. -/
theorem cons_of_blank_of_spaced {c : Char} (h : isBlank c = true) (s : Spaced)
    (more : List Spaced) :
    cons c ⟨[], s :: more⟩ = ⟨[], { s with gap := c :: s.gap } :: more⟩ := by
  unfold cons
  rw [if_pos h]

/-- A blank before nothing is a gap with an empty word behind it. -/
theorem cons_of_blank_of_nil {c : Char} (h : isBlank c = true) :
    cons c ⟨[], []⟩ = ⟨[], [⟨[c], []⟩]⟩ := by
  unfold cons
  rw [if_pos h]

/-- A blank before a word begins a new gap, and the word is no longer the first. -/
theorem cons_of_blank_of_first {c : Char} (h : isBlank c = true) (d : Char) (first : List Char)
    (spaced : List Spaced) :
    cons c ⟨d :: first, spaced⟩ = ⟨[], ⟨[c], d :: first⟩ :: spaced⟩ := by
  unfold cons
  rw [if_pos h]

/-- A plain character extends the first word. -/
theorem cons_of_plain {c : Char} (h : isBlank c = false) (ws : Words) :
    cons c ws = { ws with first := c :: ws.first } := by
  unfold cons
  rw [if_neg (by simp [h])]

/-- Proper words stay proper with one more character in front. -/
theorem Proper.cons {ws : Words} (hp : ws.Proper) (c : Char) : (Words.cons c ws).Proper := by
  obtain ⟨first, spaced⟩ := ws
  cases hc : isBlank c with
  | false =>
    rw [cons_of_plain hc]
    refine ⟨?_, hp.gap_ne_nil, hp.gap, hp.word⟩
    intro d hd
    rcases List.mem_cons.mp hd with rfl | hd
    · exact hc
    · exact hp.first d hd
  | true =>
    -- in two of the three cases the blank begins a gap of its own
    have hnew : Proper ⟨[], ⟨[c], first⟩ :: spaced⟩ := by
      refine ⟨by simp [Unbroken], ?_, ?_, ?_⟩
      · exact List.forall_mem_cons.mpr ⟨by simp, hp.gap_ne_nil⟩
      · exact List.forall_mem_cons.mpr ⟨by simp [hc], hp.gap⟩
      · exact List.forall_mem_cons.mpr ⟨hp.first, hp.word⟩
    cases first with
    | cons d first => rw [cons_of_blank_of_first hc]; exact hnew
    | nil =>
      cases spaced with
      | nil => rw [cons_of_blank_of_nil hc]; exact hnew
      | cons s more =>
        rw [cons_of_blank_of_spaced hc]
        have ht := hp.tail
        refine ⟨by simp [Unbroken], ?_, ?_, ?_⟩
        · exact List.forall_mem_cons.mpr ⟨by simp, ht.gap_ne_nil⟩
        · refine List.forall_mem_cons.mpr ⟨?_, ht.gap⟩
          exact List.forall_mem_cons.mpr ⟨hc, hp.gap s (List.mem_cons_self ..)⟩
        · exact List.forall_mem_cons.mpr ⟨ht.first, ht.word⟩

/-- Splitting makes gaps of blanks and words without any. -/
theorem proper_split (s : List Char) : (split s).Proper := by
  induction s with
  | nil => exact ⟨by simp [split, Unbroken], by simp [split], by simp [split], by simp [split]⟩
  | cons c s ih => exact ih.cons c

/-- The first word goes up to the first blank. -/
theorem first_split (s : List Char) : (split s).first = s.takeWhile (!isBlank ·) := by
  induction s with
  | nil => rfl
  | cons c s ih =>
    rw [split_cons]
    cases hc : isBlank c with
    | false => rw [cons_of_plain hc, List.takeWhile_cons_of_pos (by simp [hc]), ih]
    | true =>
      rw [List.takeWhile_cons_of_neg (by simp [hc])]
      unfold cons
      rw [if_pos hc]
      split <;> rfl

/-- Every word of a text stands in the text. -/
theorem infix_of_mem_split {s : List Char} {x : Spaced} (h : x ∈ (split s).spaced) :
    x.word <:+: s := by
  have ht := word_infix_spacedText h
  rw [← text_split s]
  exact List.infix_append_of_infix_right ht

/-- Unbroken text in front of a text extends its first word. -/
theorem split_unbroken_append {m : List Char} (hm : Unbroken m) (t : List Char) :
    split (m ++ t) = ⟨m ++ (split t).first, (split t).spaced⟩ := by
  induction m with
  | nil => rfl
  | cons c m ih =>
    have hc : isBlank c = false := hm c (List.mem_cons_self ..)
    rw [List.cons_append, split_cons, ih fun d hd => hm d (List.mem_cons_of_mem _ hd),
      cons_of_plain hc]
    rfl

/-! ## Gluing -/

/-- Words with the last of them extended. -/
def extendLast (tail : List Char) : List Spaced → List Spaced
  | [] => []
  | [s] => [{ s with word := s.word ++ tail }]
  | s :: t :: more => s :: extendLast tail (t :: more)

@[simp] theorem extendLast_eq_nil {tail : List Char} {spaced : List Spaced} :
    extendLast tail spaced = [] ↔ spaced = [] := by
  cases spaced with
  | nil => simp [extendLast]
  | cons s more => cases more <;> simp [extendLast]

@[simp] theorem extendLast_nil (spaced : List Spaced) : extendLast [] spaced = spaced := by
  induction spaced with
  | nil => rfl
  | cons s more ih =>
    cases more with
    | nil => simp [extendLast]
    | cons t more => rw [extendLast, ih]

/-- An extended last word is its text with the extension behind it. -/
theorem spacedText_extendLast_append (tail : List Char) {spaced : List Spaced}
    (h : spaced ≠ []) (more : List Spaced) :
    spacedText (extendLast tail spaced ++ more) =
      spacedText spaced ++ (tail ++ spacedText more) := by
  induction spaced with
  | nil => exact absurd rfl h
  | cons s rest ih =>
    cases rest with
    | nil => simp [extendLast]
    | cons t rest =>
      rw [extendLast, List.cons_append, spacedText_cons, ih (List.cons_ne_nil t rest)]
      simp

/-- Two texts' words with the last of the first glued to the first of the second. -/
def glue (ws vs : Words) : Words :=
  match ws.spaced with
  | [] => ⟨ws.first ++ vs.first, vs.spaced⟩
  | s :: more => ⟨ws.first, extendLast vs.first (s :: more) ++ vs.spaced⟩

theorem glue_of_first_nil (ws : Words) (spaced : List Spaced) :
    glue ws ⟨[], spaced⟩ = ⟨ws.first, ws.spaced ++ spaced⟩ := by
  obtain ⟨first, mine⟩ := ws
  cases mine <;> simp [glue]

/-- A character in front of glued words stands in front of the first of the two,
unless it would merge with a gap behind it. -/
theorem cons_glue {c : Char} {ws vs : Words}
    (h : isBlank c = true → ws = ⟨[], []⟩ → vs.first = [] → vs.spaced = []) :
    cons c (glue ws vs) = glue (cons c ws) vs := by
  obtain ⟨first, spaced⟩ := ws
  obtain ⟨vfirst, vspaced⟩ := vs
  cases hc : isBlank c with
  | false =>
    rw [cons_of_plain hc, cons_of_plain hc]
    cases spaced <;> rfl
  | true =>
    cases first with
    | cons d first =>
      rw [cons_of_blank_of_first hc]
      cases spaced with
      | nil => exact cons_of_blank_of_first hc d (first ++ vfirst) vspaced
      | cons s more => exact cons_of_blank_of_first hc d first _
    | nil =>
      cases spaced with
      | nil =>
        rw [cons_of_blank_of_nil hc]
        cases vfirst with
        | nil =>
          have hv : vspaced = [] := h hc rfl rfl
          rw [hv]
          exact cons_of_blank_of_nil hc
        | cons d vfirst => exact cons_of_blank_of_first hc d vfirst vspaced
      | cons s more =>
        rw [cons_of_blank_of_spaced hc]
        cases more with
        | nil => exact cons_of_blank_of_spaced hc _ vspaced
        | cons t more => exact cons_of_blank_of_spaced hc s _

/-- The words of two texts one after the other. -/
theorem split_append {s t : List Char} (h : EndsPlain s ∨ StartsPlain t) :
    split (s ++ t) = glue (split s) (split t) := by
  induction s with
  | nil => rfl
  | cons c s ih =>
    have hs : EndsPlain s ∨ StartsPlain t := by
      rcases h with hs | ht
      · cases s with
        | nil => exact Or.inl (by simp [EndsPlain])
        | cons d s => exact Or.inl (by simpa [EndsPlain, List.getLast?_cons_cons] using hs)
      · exact Or.inr ht
    rw [List.cons_append, split_cons, ih hs, split_cons, cons_glue]
    intro hc hnil hfirst
    -- a gap on both sides of the seam is what the hypothesis excludes
    have hs0 : s = [] := by rw [← text_split s, hnil]; rfl
    rcases h with hend | hstart
    · have hplain := hend c (by simp [hs0])
      rw [hc] at hplain
      cases hplain
    · cases t with
      | nil => rfl
      | cons d t =>
        have hd : isBlank d = false := hstart d (by simp)
        rw [split_cons, cons_of_plain hd] at hfirst
        cases hfirst

/-- The words of two texts with a space between them. -/
theorem split_space {s t : List Char} (hs : EndsPlain s) (ht : StartsPlain t) :
    split (s ++ ' ' :: t) =
      ⟨(split s).first, (split s).spaced ++ ⟨[' '], (split t).first⟩ :: (split t).spaced⟩ := by
  have hspace : split (' ' :: t) = ⟨[], ⟨[' '], (split t).first⟩ :: (split t).spaced⟩ := by
    have hblank : isBlank ' ' = true := by decide
    rw [split_cons]
    cases t with
    | nil => exact cons_of_blank_of_nil hblank
    | cons d t =>
      have hd : isBlank d = false := ht d (by simp)
      rw [split_cons, cons_of_plain hd]
      exact cons_of_blank_of_first hblank d _ _
  rw [split_append (Or.inl hs), hspace, glue_of_first_nil]

/-- A word, a space and a text. -/
theorem split_word_space {m t : List Char} (hm : Unbroken m) (ht : StartsPlain t) :
    split (m ++ ' ' :: t) = ⟨m, ⟨[' '], (split t).first⟩ :: (split t).spaced⟩ := by
  have hend : EndsPlain m := fun c hc => hm c (List.mem_of_getLast? hc)
  have hword : split m = ⟨m, []⟩ := by
    have hnil : split [] = ⟨[], []⟩ := rfl
    have h := split_unbroken_append hm []
    simpa [hnil] using h
  rw [split_space hend ht, hword, List.nil_append]

/-! ## Words that a text splits into -/

/-- Whether no word is empty but, perhaps, the first and the last. -/
def Full (ws : Words) : Prop := (ws.spaced.map Spaced.word).Pairwise fun word _ => word ≠ []

theorem Full.tail {first : List Char} {s : Spaced} {more : List Spaced}
    (h : Full ⟨first, s :: more⟩) : Full ⟨s.word, more⟩ := (List.pairwise_cons.mp h).2

/-- A word with more behind it is not the last one, so it is not empty. -/
theorem Full.word_ne_nil {first : List Char} {s : Spaced} {more : List Spaced}
    (h : Full ⟨first, s :: more⟩) (hmore : more ≠ []) : s.word ≠ [] := by
  obtain ⟨t, ht⟩ := List.exists_mem_of_ne_nil more hmore
  exact (List.pairwise_cons.mp h).1 t.word (List.mem_map_of_mem ht)

/-- A new gap is begun only before a word that is not empty. -/
theorem Full.cons {ws : Words} (h : ws.Full) (c : Char) : (Words.cons c ws).Full := by
  obtain ⟨first, spaced⟩ := ws
  cases hc : isBlank c with
  | false =>
    rw [cons_of_plain hc]
    exact h
  | true =>
    cases first with
    | cons d first =>
      rw [cons_of_blank_of_first hc]
      exact List.pairwise_cons.mpr ⟨fun _ _ => List.cons_ne_nil d first, h⟩
    | nil =>
      cases spaced with
      | nil =>
        rw [cons_of_blank_of_nil hc]
        exact List.pairwise_singleton _ _
      | cons s more =>
        rw [cons_of_blank_of_spaced hc]
        exact h

/-- Splitting makes no empty words but, perhaps, the first and the last. -/
theorem full_split (s : List Char) : (split s).Full := by
  induction s with
  | nil => exact List.Pairwise.nil
  | cons c s ih => exact ih.cons c

/-- A gap in front of a text that begins with a word. -/
theorem split_gap_append {gap t : List Char} (hne : gap ≠ []) (hgap : ∀ c ∈ gap, isBlank c = true)
    (ht : (split t).first = [] → (split t).spaced = []) :
    split (gap ++ t) = ⟨[], ⟨gap, (split t).first⟩ :: (split t).spaced⟩ := by
  induction gap with
  | nil => exact absurd rfl hne
  | cons g gap ih =>
    have hg : isBlank g = true := hgap g (List.mem_cons_self ..)
    rw [List.cons_append, split_cons]
    cases gap with
    | nil =>
      rw [List.nil_append]
      generalize split t = ws at ht
      obtain ⟨first, spaced⟩ := ws
      cases first with
      | nil =>
        have hnil : spaced = [] := ht rfl
        rw [hnil]
        exact cons_of_blank_of_nil hg
      | cons d first => exact cons_of_blank_of_first hg d first spaced
    | cons g' gap =>
      rw [ih (List.cons_ne_nil g' gap) fun c hc => hgap c (List.mem_cons_of_mem _ hc)]
      exact cons_of_blank_of_spaced hg _ _

/-- Words that are put together split into the same words again. -/
theorem Proper.split_text {ws : Words} (hp : ws.Proper) (hf : ws.Full) : split ws.text = ws := by
  obtain ⟨first, spaced⟩ := ws
  induction spaced generalizing first with
  | nil =>
    have hnil : split [] = ⟨[], []⟩ := rfl
    have h := split_unbroken_append hp.first []
    simpa [text, hnil] using h
  | cons s more ih =>
    have hrest : split (s.word ++ spacedText more) = ⟨s.word, more⟩ := ih s.word hp.tail hf.tail
    have hs := List.mem_cons_self (a := s) (l := more)
    have hgap : split (s.gap ++ (s.word ++ spacedText more)) = ⟨[], s :: more⟩ := by
      rw [split_gap_append (hp.gap_ne_nil s hs) (hp.gap s hs), hrest]
      rw [hrest]
      intro hnil
      -- an empty word with more behind it would merge two gaps
      by_contra hmore
      exact hf.word_ne_nil hmore hnil
    rw [text, spacedText_cons, split_unbroken_append hp.first, hgap, List.append_nil]

end Words

end SqlTemplate.Text
