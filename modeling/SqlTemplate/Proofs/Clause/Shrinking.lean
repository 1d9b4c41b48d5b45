import SqlTemplate.Proofs.Clause.Settled
import Mathlib.Logic.Function.Iterate

/-!
# Repairing until nothing is left to repair

The rules look for three patterns in a text: a gap and a `WHERE` at its end (`TrailingWhere`), a
`WHERE` with an `AND` and a gap behind it (`WhereThenAnd`), and a `WHERE` with a follower behind
it (`WhereThenFollower`). Here they are said of the characters of a text; each stands in a text
exactly where a `WHERE` dangles in that way among its words (`trailingWhere_iff`,
`whereThenAnd_iff`, `whereThenFollower_iff`).

A rule takes away the gap of a word that it drops, and leaves no gap longer than it was. So no
rule makes a text longer, and a text that stays as long has lost no word:

> `repair_shrinks`: repair never makes a statement longer, leaves it as it is exactly if none of
> the patterns stands in it, and as often as the statement has characters is often enough to
> repair it until none does.
-/

namespace SqlTemplate.Clause

open SqlTemplate.Text SqlTemplate.Text.Words

/-! ## What the rules look for -/

/-- A gap: blanks, and at least one. -/
structure IsGap (gap : List Char) : Prop where
  ne_nil : gap ≠ []
  blank : ∀ c ∈ gap, isBlank c = true

theorem isGap_space : IsGap [' '] :=
  ⟨List.cons_ne_nil _ _, List.forall_mem_singleton.mpr (by decide)⟩

/-- A gap and a `WHERE`, and then nothing but blanks to the end. -/
def TrailingWhere (s : List Char) : Prop :=
  ∃ before gap word blanks, s = before ++ (gap ++ (word ++ blanks)) ∧
    IsGap gap ∧ isWhere word = true ∧ ∀ c ∈ blanks, isBlank c = true

/-- A gap and a `WHERE`, one `AND` or more, each behind a gap, and a gap behind the last. -/
def WhereThenAnd (s : List Char) : Prop :=
  ∃ before gap word ands gap' after,
    s = before ++ (gap ++ (word ++ (spacedText ands ++ (gap' ++ after)))) ∧
    IsGap gap ∧ isWhere word = true ∧
    ands ≠ [] ∧ (∀ a ∈ ands, IsGap a.gap ∧ isAnd a.word = true) ∧ IsGap gap'

/-- A gap and a `WHERE`, a gap, and the keyword of a clause that follows the conditions. -/
def WhereThenFollower (s : List Char) : Prop :=
  ∃ before gap word gap' keyword after,
    s = before ++ (gap ++ (word ++ (gap' ++ (keyword ++ after)))) ∧
    IsGap gap ∧ isWhere word = true ∧ IsGap gap' ∧
    keyword.map Char.toLower ∈ followers ∧ endsWord after = true

/-- Whether one of the patterns stands in a text. -/
def Matched (s : List Char) : Prop := TrailingWhere s ∨ WhereThenAnd s ∨ WhereThenFollower s

/-! ## From texts to words -/

/-- A keyword holds no blank, so where it stands between gaps it is a whole word. -/
theorem unbroken_of_isKeyword {keyword : List Char} (hk : keyword.all isWordChar = true)
    {word : List Char} (h : isKeyword keyword word = true) : Unbroken word := by
  intro c hc
  by_contra hblank
  obtain ⟨before, after, rfl⟩ := List.append_of_mem hc
  have hplain : isWordChar c = false := not_wordChar_of_blank (by simpa using hblank)
  rw [isKeyword_append_cons hk hplain] at h
  cases h

theorem unbroken_of_isWhere {word : List Char} (h : isWhere word = true) : Unbroken word :=
  unbroken_of_isKeyword (by decide) h

theorem unbroken_of_isAnd {word : List Char} (h : isAnd word = true) : Unbroken word :=
  unbroken_of_isKeyword (by decide) h

/-- A keyword is not empty, so the gaps on its two sides do not meet. -/
theorem ne_nil_of_isKeyword {keyword word : List Char} (hk : keyword ≠ [])
    (h : isKeyword keyword word = true) : word ≠ [] := by
  rintro rfl
  exact hk (List.length_eq_zero_iff.mp (length_of_isKeyword h).symm)

theorem first_split_of_atGap {rest : List Char} (h : atGap rest = true) :
    (split rest).first = [] := by
  rw [first_split]
  cases rest with
  | nil => rfl
  | cons c rest =>
    have hc : isBlank c = true := by simpa [atGap] using h
    rw [List.takeWhile_cons_of_neg (by simp [hc])]

/-- A gap is what a word in front of it ends at. -/
theorem IsGap.atGap_append {gap : List Char} (h : IsGap gap) (rest : List Char) :
    atGap (gap ++ rest) = true := by
  obtain ⟨c, gap, rfl⟩ := List.exists_cons_of_ne_nil h.ne_nil
  have hc := h.blank c (List.mem_cons_self ..)
  simpa [atGap] using hc

theorem split_gap_word {gap word rest : List Char} (hgap : IsGap gap) (hword : Unbroken word)
    (hne : word ≠ []) (hrest : atGap rest = true) :
    split (gap ++ (word ++ rest)) = ⟨[], ⟨gap, word⟩ :: (split rest).spaced⟩ := by
  have hsplit : split (word ++ rest) = ⟨word, (split rest).spaced⟩ := by
    rw [split_unbroken_append hword, first_split_of_atGap hrest, List.append_nil]
  rw [split_gap_append hgap.ne_nil hgap.blank, hsplit]
  rw [hsplit]
  exact fun hnil => absurd hnil hne

/-- A character in front of a text leaves its words where they are; at most the gap of the first
grows. -/
theorem exists_suffix_cons {ws : Words} {gap word : List Char} {more : List Spaced}
    (h : ⟨gap, word⟩ :: more <:+ ws.spaced) (c : Char) :
    ∃ gap', ⟨gap', word⟩ :: more <:+ (Words.cons c ws).spaced := by
  obtain ⟨first, spaced⟩ := ws
  cases hc : isBlank c with
  | false => exact ⟨gap, by rwa [cons_of_plain hc]⟩
  | true =>
    cases first with
    | cons d first =>
      rw [cons_of_blank_of_first hc]
      exact ⟨gap, h.trans (List.suffix_cons _ _)⟩
    | nil =>
      cases spaced with
      | nil => cases List.suffix_nil.mp h
      | cons s others =>
        rw [cons_of_blank_of_spaced hc]
        rcases List.suffix_cons_iff.mp h with heq | htail
        · -- the character joins the gap in front of the word itself
          cases heq
          exact ⟨c :: gap, List.suffix_rfl⟩
        · exact ⟨gap, htail.trans (List.suffix_cons _ _)⟩

/-- A word that stands between gaps in a text is one of its words, in front of those behind it. -/
theorem exists_suffix_split {gap word rest : List Char} (hgap : IsGap gap) (hword : Unbroken word)
    (hne : word ≠ []) (hrest : atGap rest = true) (before : List Char) :
    ∃ gap', ⟨gap', word⟩ :: (split rest).spaced <:+
      (split (before ++ (gap ++ (word ++ rest)))).spaced := by
  induction before with
  | nil =>
    rw [List.nil_append, split_gap_word hgap hword hne hrest]
    exact ⟨gap, List.suffix_rfl⟩
  | cons c before ih =>
    obtain ⟨gap', h⟩ := ih
    rw [List.cons_append, split_cons]
    exact exists_suffix_cons h c

/-- A `WHERE` between gaps is one among the words, with the words of the rest behind it. Each
pattern brings such a `WHERE`, and what the pattern says of the rest is `p`. -/
theorem whereBefore_split {p : List Spaced → Prop} {gap word rest : List Char} (hgap : IsGap gap)
    (hword : isWhere word = true) (hrest : atGap rest = true) (hp : p (split rest).spaced)
    (before : List Char) : WhereBefore p (split (before ++ (gap ++ (word ++ rest)))).spaced := by
  obtain ⟨gap', hsuf⟩ := exists_suffix_split hgap (unbroken_of_isWhere hword)
    (ne_nil_of_isKeyword (List.cons_ne_nil _ _) hword) hrest before
  exact ⟨_, _, hsuf, hword, hp⟩

/-! ## From words to texts -/

/-- The gaps before these words are gaps. -/
def GapsBefore (spaced : List Spaced) : Prop := ∀ s ∈ spaced, IsGap s.gap

/-- The words of a text stand behind gaps. -/
theorem gapsBefore_split (s : List Char) : GapsBefore (split s).spaced := fun x hx =>
  ⟨(proper_split s).gap_ne_nil x hx, (proper_split s).gap x hx⟩

theorem GapsBefore.head {s : Spaced} {more : List Spaced} (h : GapsBefore (s :: more)) :
    IsGap s.gap := h s (List.mem_cons_self ..)

theorem GapsBefore.tail {s : Spaced} {more : List Spaced} (h : GapsBefore (s :: more)) :
    GapsBefore more := fun x hx => h x (List.mem_cons_of_mem _ hx)

theorem GapsBefore.atGap {spaced : List Spaced} (h : GapsBefore spaced) :
    atGap (spacedText spaced) = true := by
  cases spaced with
  | nil => rfl
  | cons s more =>
    rw [spacedText_cons]
    exact h.head.atGap_append _

/-- A `WHERE` among the words of a text, as it stands in the text. -/
theorem exists_of_whereBefore_split {p : List Spaced → Prop} {s : List Char}
    (h : WhereBefore p (split s).spaced) :
    ∃ before gap word rest, s = before ++ (gap ++ (word ++ spacedText rest)) ∧ IsGap gap ∧
      isWhere word = true ∧ GapsBefore rest ∧ p rest := by
  obtain ⟨w, rest, ⟨front, hfront⟩, hw, hp⟩ := h
  have hgaps := gapsBefore_split s
  rw [← hfront] at hgaps
  refine ⟨(split s).first ++ spacedText front, w.gap, w.word, rest, ?_,
    hgaps w (by simp), hw, fun x hx => hgaps x (by simp [hx]), hp⟩
  conv_lhs => rw [← text_split s, text, ← hfront]
  simp [spacedText]

/-! ## Where the patterns stand -/

/-- An `AND` ahead, as the two words that it is about. -/
theorem exists_of_andAhead {rest : List Spaced} (h : AndAhead rest) :
    ∃ a t more, rest = a :: t :: more ∧ isAnd a.word = true := by
  cases rest with
  | nil => exact h.elim
  | cons a rest =>
    cases rest with
    | nil => exact h.elim
    | cons t more => exact ⟨a, t, more, rfl, h⟩

/-- A follower ahead, as the word that it is about. -/
theorem exists_of_followerAhead {rest : List Spaced} (h : FollowerAhead rest) :
    ∃ f more, rest = f :: more ∧ opensFollower f.word = true := by
  cases rest with
  | nil => exact h.elim
  | cons f more => exact ⟨f, more, rfl, h⟩

/-- The pattern of rule 1 stands in a text exactly where a `WHERE` is last among its words, a word
of no characters behind the blanks at the end not counted. -/
theorem trailingWhere_iff {s : List Char} :
    TrailingWhere s ↔ WhereBefore EndsHere (split s).spaced := by
  constructor
  · rintro ⟨before, gap, word, blanks, rfl, hgap, hword, hblanks⟩
    cases blanks with
    | nil => exact whereBefore_split hgap hword rfl trivial before
    | cons c blanks =>
      -- blanks at the end split into a gap with an empty word behind it
      have hgap' : IsGap (c :: blanks) := ⟨List.cons_ne_nil c blanks, hblanks⟩
      have hrest : (split (c :: blanks)).spaced = [⟨c :: blanks, []⟩] := by
        have h := split_gap_append (t := []) hgap'.ne_nil hgap'.blank fun _ => rfl
        rw [List.append_nil] at h
        rw [h]
        rfl
      have hat : atGap (c :: blanks) = true := by simpa using hgap'.atGap_append []
      exact whereBefore_split hgap hword hat (hrest ▸ rfl) before
  · intro h
    obtain ⟨before, gap, word, rest, rfl, hgap, hword, hgaps, hend⟩ := exists_of_whereBefore_split h
    refine ⟨before, gap, word, spacedText rest, rfl, hgap, hword, ?_⟩
    match rest, hend with
    | [], _ => exact fun c hc => absurd hc List.not_mem_nil
    | [s], hnil =>
      have hs : s.word = [] := hnil
      rw [spacedText_cons, hs, spacedText_nil, List.append_nil, List.append_nil]
      exact hgaps.head.blank

/-- The pattern of rule 2 stands in a text exactly where a `WHERE` is before an `AND` among its
words. How many `AND`s the pattern takes does not matter: it could as well take one. -/
theorem whereThenAnd_iff {s : List Char} :
    WhereThenAnd s ↔ WhereBefore AndAhead (split s).spaced := by
  constructor
  · rintro ⟨before, gap, word, ands, gap', after, rfl, hgap, hword, hne, hands, hgap'⟩
    obtain ⟨a, ands, rfl⟩ := List.exists_cons_of_ne_nil hne
    obtain ⟨hagap, ha⟩ := hands a (List.mem_cons_self ..)
    -- behind the first `AND` stands a gap, that of the next or the last one
    have hat : atGap (spacedText ands ++ (gap' ++ after)) = true ∧
        spacedText ands ++ (gap' ++ after) ≠ [] := by
      cases ands with
      | nil => exact ⟨hgap'.atGap_append after, by simp [hgap'.ne_nil]⟩
      | cons b ands =>
        have hb := (hands b (by simp)).1
        rw [spacedText_cons, List.append_assoc]
        exact ⟨hb.atGap_append _, by simp [hb.ne_nil]⟩
    have hsplit := split_gap_word hagap (unbroken_of_isAnd ha)
      (ne_nil_of_isKeyword (List.cons_ne_nil _ _) ha) hat.1
    have hmore : (split (spacedText ands ++ (gap' ++ after))).spaced ≠ [] := by
      intro hnil
      have htext := text_split (spacedText ands ++ (gap' ++ after))
      rw [text, hnil, first_split_of_atGap hat.1] at htext
      exact hat.2 htext.symm
    rw [spacedText_cons, List.append_assoc, List.append_assoc]
    refine whereBefore_split hgap hword (hagap.atGap_append _) ?_ before
    obtain ⟨t, more, hcons⟩ := List.exists_cons_of_ne_nil hmore
    rw [hsplit, hcons]
    exact ha
  · intro h
    obtain ⟨before, gap, word, rest, rfl, hgap, hword, hgaps, hand⟩ := exists_of_whereBefore_split h
    obtain ⟨a, t, more, rfl, ha⟩ := exists_of_andAhead hand
    have hands : ∀ b ∈ [a], IsGap b.gap ∧ isAnd b.word = true := fun b hb =>
      (List.mem_singleton.mp hb) ▸ ⟨hgaps.head, ha⟩
    refine ⟨before, gap, word, [a], t.gap, t.word ++ spacedText more, ?_, hgap, hword,
      List.cons_ne_nil a [], hands, hgaps.tail.head⟩
    simp

/-- The pattern of rule 3 stands in a text exactly where a `WHERE` is before a follower. -/
theorem whereThenFollower_iff {s : List Char} :
    WhereThenFollower s ↔ WhereBefore FollowerAhead (split s).spaced := by
  constructor
  · rintro ⟨before, gap, word, gap', keyword, after, rfl, hgap, hword, hgap', hkeyword, hafter⟩
    have hopens : opensFollower (keyword ++ after) = true :=
      opensFollower_iff.mpr ⟨_, hkeyword, keyword, after, rfl, by simp [isKeyword], hafter⟩
    rw [← opensFollower_first] at hopens
    have hfirst : (split (keyword ++ after)).first ≠ [] := by
      intro hnil
      rw [hnil] at hopens
      cases hopens
    have hsplit := split_gap_append (t := keyword ++ after) hgap'.ne_nil hgap'.blank
      fun hnil => absurd hnil hfirst
    refine whereBefore_split hgap hword (hgap'.atGap_append _) ?_ before
    rw [hsplit]
    exact hopens
  · intro h
    obtain ⟨before, gap, word, rest, rfl, hgap, hword, hgaps, hfollower⟩ :=
      exists_of_whereBefore_split h
    obtain ⟨f, more, rfl, hf⟩ := exists_of_followerAhead hfollower
    obtain ⟨_, hmem, keyword, tail, hword', hkeyword, htail⟩ := opensFollower_iff.mp hf
    have hlower : keyword.map Char.toLower ∈ followers := by
      rw [show keyword.map Char.toLower = _ by simpa [isKeyword] using hkeyword]
      exact hmem
    -- the keyword ends where its word goes on, or with its word, and then a gap follows
    have hends : endsWord (tail ++ spacedText more) = true := by
      cases tail with
      | nil => exact endsWord_of_atGap hgaps.tail.atGap
      | cons c tail => exact htail
    refine ⟨before, gap, word, f.gap, keyword, tail ++ spacedText more, ?_, hgap, hword,
      hgaps.head, hlower, hends⟩
    simp [hword']

/-- The patterns and what dangles among the words say the same of a text. -/
theorem settled_iff_not_matched {s : List Char} : Settled (split s).spaced ↔ ¬ Matched s := by
  rw [Matched, trailingWhere_iff, whereThenAnd_iff, whereThenFollower_iff, not_or, not_or]
  exact ⟨fun h => ⟨h.not_last, h.no_and, h.no_follower⟩, fun h => ⟨h.1, h.2.1, h.2.2⟩⟩

/-! ## Lengths -/

/-- Some words are left of others: they make up a text that is shorter at least by the words that
have gone. -/
def Shrinks (xs ys : List Spaced) : Prop :=
  (spacedText ys).length + xs.length ≤ (spacedText xs).length + ys.length

/-- What two rules take away, one after the other, adds up. -/
theorem Shrinks.trans {xs ys zs : List Spaced} (h : Shrinks xs ys) (h' : Shrinks ys zs) :
    Shrinks xs zs := by
  unfold Shrinks at h h' ⊢
  omega

theorem length_spacedText_cons (s : Spaced) (more : List Spaced) :
    (spacedText (s :: more)).length =
      s.gap.length + s.word.length + (spacedText more).length := by
  rw [spacedText_cons, List.length_append, List.length_append, Nat.add_assoc]

/-- A word that stays, behind a gap that is no longer than it was. -/
theorem Shrinks.keeps {s t : Spaced} {xs ys : List Spaced} (h : Shrinks xs ys)
    (hword : t.word = s.word) (hgap : t.gap.length ≤ s.gap.length) :
    Shrinks (s :: xs) (t :: ys) := by
  unfold Shrinks at h ⊢
  rw [length_spacedText_cons, length_spacedText_cons, hword, List.length_cons, List.length_cons]
  omega

/-- A word that goes takes its gap with it. -/
theorem Shrinks.drops {s : Spaced} {xs ys : List Spaced} (h : Shrinks xs ys) (hs : IsGap s.gap) :
    Shrinks (s :: xs) ys := by
  have hgap := List.length_pos_iff.mpr hs.ne_nil
  unfold Shrinks at h ⊢
  rw [length_spacedText_cons, List.length_cons]
  omega

theorem Shrinks.refl (xs : List Spaced) : Shrinks xs xs := Nat.le_refl _

/-- Rule 1 takes away a word with its gap, or two words with theirs. -/
theorem shrinks_dropLastWhere {xs : List Spaced} (h : GapsBefore xs) :
    Shrinks xs (dropLastWhere xs) := by
  fun_induction dropLastWhere xs with
  | case1 => exact .refl []
  | case2 s _ => exact (Shrinks.refl []).drops h.head
  | case3 s _ => exact .refl [s]
  | case4 s last _ => exact ((Shrinks.refl []).drops h.tail.head).drops h.head
  | case5 s last _ ih => exact (ih h.tail).keeps rfl (Nat.le_refl _)
  | case6 s more _ _ ih => exact (ih h.tail).keeps rfl (Nat.le_refl _)

/-- Rule 2 takes away each `AND` with its gap, and lengthens no gap. -/
theorem shrinks_dropAnds {xs : List Spaced} (state : AfterWhere) (h : GapsBefore xs) :
    Shrinks xs (dropAnds state xs) := by
  fun_induction dropAnds state xs with
  | case1 => exact .refl []
  | case2 s more ih => exact (ih h.tail).keeps rfl (Nat.le_refl _)
  | case3 s more _ ih => exact (ih h.tail).drops h.head
  | case4 s more _ ih => exact (ih h.tail).keeps rfl (Nat.le_refl _)
  | case5 s more _ ih => exact (ih h.tail).drops h.head
  | case6 s more _ ih =>
    -- a single space is no longer than the gap that was there
    exact (ih h.tail).keeps rfl (List.length_pos_iff.mpr h.head.ne_nil)

/-- Rule 3 takes away each `WHERE` with its gap, and lengthens no gap. -/
theorem shrinks_dropWhereBeforeFollower {xs : List Spaced} (h : GapsBefore xs) :
    Shrinks xs (dropWhereBeforeFollower xs) := by
  fun_induction dropWhereBeforeFollower xs with
  | case1 => exact .refl []
  | case2 s => exact .refl [s]
  | case3 s next more _ ih =>
    have hfollower : Shrinks (next :: more) (⟨[' '], next.word⟩ :: dropWhereBeforeFollower more) :=
      (ih h.tail.tail).keeps rfl (List.length_pos_iff.mpr h.tail.head.ne_nil)
    exact hfollower.drops h.head
  | case4 s next more _ ih => exact (ih h.tail).keeps rfl (Nat.le_refl _)

/-- What is left of words stands behind gaps. -/
theorem GapsBefore.of_kept {xs ys : List Spaced} (h : GapsBefore xs) (hkept : ∀ y ∈ ys, Kept xs y) :
    GapsBefore ys := by
  intro y hy
  obtain ⟨x, hx, rfl | rfl⟩ := hkept y hy
  · exact h _ hx
  · exact isGap_space

/-- The three rules together, each on the words that the one before it has left behind gaps. -/
theorem shrinks_repairSpaced {xs : List Spaced} (h : GapsBefore xs) :
    Shrinks xs (repairSpaced true xs) := by
  have hlast := h.of_kept fun _ => kept_dropLastWhere
  have hands : GapsBefore (dropAnds .no (dropLastWhere xs)) := hlast.of_kept fun _ => kept_dropAnds
  exact (shrinks_dropLastWhere h).trans
    ((shrinks_dropAnds .no hlast).trans (shrinks_dropWhereBeforeFollower hands))

/-- Repair never makes a text longer. -/
theorem length_repair_le (s : List Char) : (repair true s).length ≤ s.length := by
  have hshrinks := shrinks_repairSpaced (gapsBefore_split s)
  have hwords := (words_repairSpaced true (split s).spaced).length_le
  rw [List.length_map, List.length_map] at hwords
  have htext := congrArg List.length (text_split s)
  rw [text, List.length_append] at htext
  rw [repair_eq, List.length_append]
  unfold Shrinks at hshrinks
  omega

theorem repair_of_length {s : List Char} (h : (repair true s).length = s.length) :
    repair true s = s := by
  have hshrinks := shrinks_repairSpaced (gapsBefore_split s)
  have hwords := (words_repairSpaced true (split s).spaced).length_le
  rw [List.length_map, List.length_map] at hwords
  have htext := congrArg List.length (text_split s)
  rw [text, List.length_append, ← h, repair_eq, List.length_append] at htext
  unfold Shrinks at hshrinks
  exact repair_eq_self_iff.mpr (settled_of_length (by omega))

/-! ## Repairing again and again -/

/-- A statement stays as it is exactly if no pattern stands in it. -/
theorem repairStatement_eq_self_iff_not_matched {sql : String} :
    repairStatement sql = sql ↔ ¬ Matched sql.toList := by
  rw [← settled_iff_not_matched, ← repair_eq_self_iff, repairStatement, ← String.toList_inj,
    String.toList_ofList]

theorem length_repairStatement (sql : String) :
    (repairStatement sql).length = (repair true sql.toList).length := by
  rw [repairStatement, String.length_ofList]

/-- A statement that repair changes has become shorter, which bounds how often it can. -/
theorem length_repairStatement_lt {sql : String} (h : repairStatement sql ≠ sql) :
    (repairStatement sql).length < sql.length := by
  rw [length_repairStatement, ← String.length_toList]
  refine Nat.lt_of_le_of_ne (length_repair_le sql.toList) fun hlen => h ?_
  rw [repairStatement, repair_of_length hlen, String.ofList_toList]

/-- A step that makes everything smaller that it changes is at rest after as many steps as what it
starts with is large. -/
theorem exists_iterate_at_rest {α : Type} {f : α → α} {size : α → Nat}
    (hstep : ∀ a, f a ≠ a → size (f a) < size a) (a : α) :
    ∃ n ≤ size a, f (f^[n] a) = f^[n] a := by
  -- on the size: a step that is not at rest leaves less of it for the steps to come
  induction hsize : size a using Nat.strong_induction_on generalizing a with
  | _ size' ih =>
    by_cases hrest : f a = a
    · exact ⟨0, Nat.zero_le _, hrest⟩
    · have hlt : size (f a) < size' := hsize ▸ hstep a hrest
      obtain ⟨n, hn, hiter⟩ := ih _ hlt (f a) rfl
      refine ⟨n + 1, Nat.lt_of_le_of_lt hn hlt, ?_⟩
      rwa [Function.iterate_succ_apply]

/-- **Repair shrinks a statement until nothing is left to repair.** It never makes a statement
longer. It leaves a statement as it is exactly if none of the three patterns stands in it. And a
statement repaired again and again comes, after no more steps than it has characters, to one in
which none of the patterns stands. -/
theorem repair_shrinks (sql : String) :
    (repairStatement sql).length ≤ sql.length ∧
    (repairStatement sql = sql ↔
      ¬ TrailingWhere sql.toList ∧ ¬ WhereThenAnd sql.toList ∧ ¬ WhereThenFollower sql.toList) ∧
    ∃ n ≤ sql.length, ¬ TrailingWhere (repairStatement^[n] sql).toList ∧
      ¬ WhereThenAnd (repairStatement^[n] sql).toList ∧
      ¬ WhereThenFollower (repairStatement^[n] sql).toList := by
  have hmatched : ∀ t : String, repairStatement t = t ↔
      ¬ TrailingWhere t.toList ∧ ¬ WhereThenAnd t.toList ∧ ¬ WhereThenFollower t.toList := by
    intro t
    rw [repairStatement_eq_self_iff_not_matched, Matched, not_or, not_or]
  refine ⟨?_, hmatched sql, ?_⟩
  · rw [length_repairStatement, ← String.length_toList]
    exact length_repair_le sql.toList
  · obtain ⟨n, hn, hrest⟩ := exists_iterate_at_rest (fun _ => length_repairStatement_lt) sql
    exact ⟨n, hn, (hmatched _).mp hrest⟩

end SqlTemplate.Clause
