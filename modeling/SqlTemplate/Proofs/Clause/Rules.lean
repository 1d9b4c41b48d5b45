import SqlTemplate.Clause
import SqlTemplate.Proofs.Text.Words

/-!
# The three rules of clause repair, word by word

What each rule does to words written one after the other. Two situations matter:
words among which there is no `WHERE` are passed over (`dropAnds_append` and its
siblings), and a word that is glued to something that no keyword contains cuts
the text in two, each part of which is repaired on its own (`dropAnds_extendLast`
and its siblings).
-/

namespace SqlTemplate.Clause

open SqlTemplate.Text SqlTemplate.Text.Words

/-! ## Characters of keywords -/

/-- A character that is no word character has no lower-case form of its own. -/
theorem toLower_of_not_wordChar {c : Char} (h : isWordChar c = false) : c.toLower = c := by
  unfold Char.toLower
  split
  next hupper =>
    -- only ASCII letters change, and those are word characters
    have hup : c.isUpper = true := decide_eq_true hupper
    have hle : c.toNat ≤ 90 := by simpa [UInt32.le_iff_toNat_le] using hupper.2
    have hlt : c.toNat < 0x80 := by omega
    have halnum : c.isAlphanum = true := by
      show (c.isUpper || c.isLower || c.isDigit) = true
      rw [hup, Bool.true_or, Bool.true_or]
    rw [isWordChar, if_pos hlt, halnum] at h
    cases h
  next => rfl

/-- A blank ends a word. -/
theorem not_wordChar_of_blank {c : Char} (h : isBlank c = true) : isWordChar c = false :=
  forall_blank (p := fun c => isWordChar c = false) (by decide +kernel) h

/-- A word with a foreign character in it is no keyword. -/
theorem isKeyword_append_cons {keyword : List Char} (hk : keyword.all isWordChar = true)
    {c : Char} (hc : isWordChar c = false) (word tail : List Char) :
    isKeyword keyword (word ++ c :: tail) = false := by
  unfold isKeyword
  rw [beq_eq_false_iff_ne]
  intro heq
  have hmem : c ∈ keyword := by
    rw [← heq, List.map_append, List.map_cons, toLower_of_not_wordChar hc]
    simp
  rw [List.all_eq_true.mp hk c hmem] at hc
  cases hc

/-- The keyword of rules 1 to 3, glued to something foreign, is none any more. -/
theorem isWhere_append_cons {c : Char} (hc : isWordChar c = false) (word tail : List Char) :
    isWhere (word ++ c :: tail) = false :=
  isKeyword_append_cons (by decide) hc word tail

theorem isAnd_append_cons {c : Char} (hc : isWordChar c = false) (word tail : List Char) :
    isAnd (word ++ c :: tail) = false :=
  isKeyword_append_cons (by decide) hc word tail

/-- A mix of cases is as long as the keyword, so keywords are told apart by their lengths. -/
theorem length_of_isKeyword {keyword word : List Char} (h : isKeyword keyword word = true) :
    word.length = keyword.length := by
  have hmap : word.map Char.toLower = keyword := by simpa [isKeyword] using h
  rw [← hmap, List.length_map]

theorem not_isAnd_of_isWhere {word : List Char} (h : isWhere word = true) :
    isAnd word = false := by
  by_contra hand
  have hkeyword : isAnd word = true := by simpa using hand
  have hlen := length_of_isKeyword h
  rw [length_of_isKeyword hkeyword] at hlen
  cases hlen

/-- All followers have five letters, so five characters of a word decide. -/
theorem length_follower : ∀ keyword ∈ followers, keyword.length = 5 := by decide

/-- Followers are made of word characters, so nothing that ends a word is in one. -/
theorem letters_follower : ∀ keyword ∈ followers, keyword.all isWordChar = true := by decide

/-- The first five characters of a word that opens a follower are its keyword. -/
theorem keyword_of_opensFollower {word : List Char} (h : opensFollower word = true) :
    (word.take 5).map Char.toLower ∈ followers := by
  rw [opensFollower, Bool.and_eq_true] at h
  simpa using h.1

/-- A follower is no `AND`. -/
theorem not_isAnd_of_opensFollower {word : List Char} (h : opensFollower word = true) :
    isAnd word = false := by
  by_contra hand
  have hkeyword : isAnd word = true := by simpa using hand
  have hthree : word.length = 3 := length_of_isKeyword hkeyword
  have hfive := length_follower _ (keyword_of_opensFollower h)
  rw [List.length_map, List.length_take] at hfive
  omega

/-- A follower is no `WHERE`. -/
theorem not_isWhere_of_opensFollower {word : List Char} (h : opensFollower word = true) :
    isWhere word = false := by
  by_contra hwhere
  have hkeyword : isWhere word = true := by simpa using hwhere
  have hfive : word.length = 5 := length_of_isKeyword hkeyword
  have hmap : word.map Char.toLower = ['w', 'h', 'e', 'r', 'e'] := by
    simpa [isWhere, isKeyword] using hkeyword
  have hmem := keyword_of_opensFollower h
  rw [List.take_of_length_le hfive.le, hmap] at hmem
  exact absurd hmem (by decide)

/-- Whether a word opens a follower is decided before the first character that
ends a word. -/
theorem opensFollower_append (word : List Char) {rest : List Char}
    (h : endsWord rest = true) : opensFollower (word ++ rest) = opensFollower word := by
  cases rest with
  | nil => rw [List.append_nil]
  | cons c rest =>
    have hc : isWordChar c = false := by simpa [endsWord] using h
    unfold opensFollower
    by_cases hlen : 5 ≤ word.length
    · have htake : (word ++ c :: rest).take 5 = word.take 5 := List.take_append_of_le_length hlen
      have hdrop : (word ++ c :: rest).drop 5 = word.drop 5 ++ c :: rest :=
        List.drop_append_of_le_length hlen
      rw [htake, hdrop]
      cases word.drop 5 with
      | nil => simp [endsWord, hc]
      | cons d more => rfl
    · -- a word too short for a keyword would need the foreign character to complete one
      have hshort : followers.contains ((word.take 5).map Char.toLower) = false := by
        rw [List.contains_eq_mem, decide_eq_false_iff_not]
        intro hmem
        have hl := length_follower _ hmem
        rw [List.length_map, List.length_take] at hl
        omega
      have hforeign : followers.contains (((word ++ c :: rest).take 5).map Char.toLower) = false := by
        rw [List.contains_eq_mem, decide_eq_false_iff_not]
        intro hmem
        have hin : c ∈ ((word ++ c :: rest).take 5).map Char.toLower := by
          obtain ⟨n, hn⟩ : ∃ n, 5 - word.length = n + 1 := ⟨4 - word.length, by omega⟩
          rw [List.take_append, hn, List.take_succ_cons, List.map_append, List.map_cons,
            toLower_of_not_wordChar hc]
          simp
        have hletter := List.all_eq_true.mp (letters_follower _ hmem) c hin
        rw [hc] at hletter
        cases hletter
      rw [hshort, hforeign, Bool.false_and, Bool.false_and]

/-! ## Rule 1 -/

/-- Rule 1 passes over a word that is no `WHERE`. -/
theorem dropLastWhere_cons_of_not_where {s : Spaced} (h : isWhere s.word = false)
    (more : List Spaced) : dropLastWhere (s :: more) = s :: dropLastWhere more := by
  cases more with
  | nil => simp [dropLastWhere, h]
  | cons t more =>
    cases more with
    | nil => simp [dropLastWhere, h]
    | cons u more => rfl

/-- A `WHERE` before something that is not the end of the text is not the last. -/
theorem dropLastWhere_cons_cons (s : Spaced) {t : Spaced} {more : List Spaced}
    (h : t.word ≠ [] ∨ more ≠ []) :
    dropLastWhere (s :: t :: more) = s :: dropLastWhere (t :: more) := by
  cases more with
  | nil =>
    have ht : t.word ≠ [] := by simpa using h
    simp [dropLastWhere, ht]
  | cons u more => rfl

/-- Rule 1 passes over words that are no `WHERE`. -/
theorem dropLastWhere_append {xs : List Spaced} (h : ∀ s ∈ xs, isWhere s.word = false)
    (ys : List Spaced) : dropLastWhere (xs ++ ys) = xs ++ dropLastWhere ys := by
  induction xs with
  | nil => rfl
  | cons s xs ih =>
    rw [List.cons_append, dropLastWhere_cons_of_not_where (h s (List.mem_cons_self ..)),
      ih fun t ht => h t (List.mem_cons_of_mem _ ht)]
    rfl

/-! ## Rule 2 -/

/-- Rule 2 passes over words that are no `WHERE`, and remembers nothing of them. -/
theorem dropAnds_append {xs : List Spaced} (h : ∀ s ∈ xs, isWhere s.word = false)
    (ys : List Spaced) : dropAnds .no (xs ++ ys) = xs ++ dropAnds .no ys := by
  induction xs with
  | nil => rfl
  | cons s xs ih =>
    rw [List.cons_append, dropAnds, h s (List.mem_cons_self ..),
      if_neg Bool.false_ne_true, ih fun t ht => h t (List.mem_cons_of_mem _ ht)]
    rfl

/-- An `AND` goes only where something follows it, so some word is always left. -/
@[simp] theorem dropAnds_eq_nil {state : AfterWhere} {xs : List Spaced} :
    dropAnds state xs = [] ↔ xs = [] := by
  induction xs generalizing state with
  | nil => simp [dropAnds]
  | cons s xs ih =>
    cases state with
    | no => simp [dropAnds]
    | directly =>
      rw [dropAnds]
      split
      next h => simp_all
      next => simp
    | dropped =>
      rw [dropAnds]
      split
      next h => simp_all
      next => simp

/-! ## Rule 3 -/

theorem dropWhereBeforeFollower_cons_of_not_where {s : Spaced} (h : isWhere s.word = false)
    (more : List Spaced) :
    dropWhereBeforeFollower (s :: more) = s :: dropWhereBeforeFollower more := by
  cases more with
  | nil => rfl
  | cons t more => simp [dropWhereBeforeFollower, h]

/-- Rule 3 passes over words that are no `WHERE`. -/
theorem dropWhereBeforeFollower_append {xs : List Spaced}
    (h : ∀ s ∈ xs, isWhere s.word = false) (ys : List Spaced) :
    dropWhereBeforeFollower (xs ++ ys) = xs ++ dropWhereBeforeFollower ys := by
  induction xs with
  | nil => rfl
  | cons s xs ih =>
    rw [List.cons_append, dropWhereBeforeFollower_cons_of_not_where (h s (List.mem_cons_self ..)),
      ih fun t ht => h t (List.mem_cons_of_mem _ ht)]
    rfl

/-- A `WHERE` goes only before its follower, which is left. -/
@[simp] theorem dropWhereBeforeFollower_eq_nil {xs : List Spaced} :
    dropWhereBeforeFollower xs = [] ↔ xs = [] := by
  cases xs with
  | nil => simp [dropWhereBeforeFollower]
  | cons s xs =>
    cases xs with
    | nil => simp [dropWhereBeforeFollower]
    | cons t xs =>
      rw [dropWhereBeforeFollower]
      split <;> simp

/-! ## The rules together -/

/-- The three rules, one after the other. -/
def repairSpaced (atEnd : Bool) (spaced : List Spaced) : List Spaced :=
  dropWhereBeforeFollower (dropAnds .no (if atEnd then dropLastWhere spaced else spaced))

/-- Repair in terms of the words behind the first, which no rule looks at. -/
theorem repair_eq (atEnd : Bool) (s : List Char) :
    repair atEnd s = (split s).first ++ spacedText (repairSpaced atEnd (split s).spaced) := rfl

@[simp] theorem repair_nil (atEnd : Bool) : repair atEnd [] = [] := by
  cases atEnd <;> rfl

/-! ## What the rules keep -/

/-- What can be left of some words: any of them, behind its gap or a single space. -/
def Kept (xs : List Spaced) (y : Spaced) : Prop := ∃ x ∈ xs, y = x ∨ y = ⟨[' '], x.word⟩

theorem kept_of_mem {xs : List Spaced} {y : Spaced} (h : y ∈ xs) : Kept xs y :=
  ⟨y, h, Or.inl rfl⟩

theorem Kept.cons {xs : List Spaced} {y : Spaced} (h : Kept xs y) (x : Spaced) :
    Kept (x :: xs) y := by
  obtain ⟨z, hz, hy⟩ := h
  exact ⟨z, List.mem_cons_of_mem _ hz, hy⟩

/-- A rule that lets the first word stand and goes on behind it. -/
theorem kept_cons {xs ys : List Spaced} {s y : Spaced} (h : y ∈ s :: ys)
    (ih : y ∈ ys → Kept xs y) : Kept (s :: xs) y := by
  rcases List.mem_cons.mp h with rfl | h
  · exact kept_of_mem (List.mem_cons_self ..)
  · exact (ih h).cons s

/-- What a second rule leaves of what a first one left is left of all the words. -/
theorem Kept.trans {xs ys : List Spaced} {z : Spaced} (h : ∀ y ∈ ys, Kept xs y)
    (hz : Kept ys z) : Kept xs z := by
  obtain ⟨y, hy, hzy⟩ := hz
  obtain ⟨x, hx, hyx⟩ := h y hy
  refine ⟨x, hx, ?_⟩
  rcases hzy with rfl | rfl
  · exact hyx
  · rcases hyx with rfl | rfl
    · exact Or.inr rfl
    · exact Or.inr rfl

/-- Rule 1 keeps words with their gaps. -/
theorem kept_dropLastWhere {xs : List Spaced} {y : Spaced} (h : y ∈ dropLastWhere xs) :
    Kept xs y := by
  fun_induction dropLastWhere xs with
  | case1 => cases h
  | case2 => cases h
  | case3 => exact kept_of_mem h
  | case4 => cases h
  | case5 s last _ ih => exact kept_cons h ih
  | case6 s more _ _ ih => exact kept_cons h ih

/-- Rule 2 keeps words, with their gaps or with a single space. -/
theorem kept_dropAnds {state : AfterWhere} {xs : List Spaced} {y : Spaced}
    (h : y ∈ dropAnds state xs) : Kept xs y := by
  fun_induction dropAnds state xs with
  | case1 => cases h
  | case2 s more ih => exact kept_cons h ih
  | case3 s more _ ih => exact (ih h).cons s
  | case4 s more _ ih => exact kept_cons h ih
  | case5 s more _ ih => exact (ih h).cons s
  | case6 s more _ ih =>
    -- the word behind the dropped `AND`s gets a single space
    rcases List.mem_cons.mp h with rfl | h
    · exact ⟨s, List.mem_cons_self .., Or.inr rfl⟩
    · exact (ih h).cons s

/-- Rule 3 keeps words, with their gaps or with a single space. -/
theorem kept_dropWhereBeforeFollower {xs : List Spaced} {y : Spaced}
    (h : y ∈ dropWhereBeforeFollower xs) : Kept xs y := by
  fun_induction dropWhereBeforeFollower xs with
  | case1 => cases h
  | case2 => exact kept_of_mem h
  | case3 s next more _ ih =>
    -- the `WHERE` is gone and the follower stands behind a single space
    rcases List.mem_cons.mp h with rfl | h
    · exact ⟨next, by simp, Or.inr rfl⟩
    · exact ((ih h).cons next).cons s
  | case4 s next more _ ih => exact kept_cons h ih

/-- Whatever the three rules leave was there before. Where only the words matter, this is all that
later proofs need to know of repair. -/
theorem kept_repairSpaced {atEnd : Bool} {xs : List Spaced} {y : Spaced}
    (h : y ∈ repairSpaced atEnd xs) : Kept xs y := by
  have hands := (kept_dropWhereBeforeFollower h).trans fun _ => kept_dropAnds
  refine hands.trans fun z hz => ?_
  cases atEnd with
  | true => exact kept_dropLastWhere hz
  | false => exact kept_of_mem hz

/-- The rules leave words and gaps proper. -/
theorem proper_repairSpaced {ws : Words} (h : ws.Proper) (atEnd : Bool) :
    Proper ⟨ws.first, repairSpaced atEnd ws.spaced⟩ where
  first := h.first
  gap_ne_nil y hy := by
    obtain ⟨x, hx, rfl | rfl⟩ := kept_repairSpaced hy
    · exact h.gap_ne_nil y hx
    · exact List.cons_ne_nil _ _
  gap y hy := by
    obtain ⟨x, hx, rfl | rfl⟩ := kept_repairSpaced hy
    · exact h.gap y hx
    · intro c hc
      rw [List.mem_singleton.mp hc]
      decide
  word y hy := by
    obtain ⟨x, hx, rfl | rfl⟩ := kept_repairSpaced hy
    · exact h.word y hx
    · exact h.word x hx

end SqlTemplate.Clause
