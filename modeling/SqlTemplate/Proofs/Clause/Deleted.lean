import SqlTemplate.Proofs.Clause.Settled

/-!
# The words that repair deletes

The words of a text are the stretches between its blanks (`wordsOf`). Repair leaves them as they
are and in their order, except that some are deleted. `Deletes` says which: any `WHERE`, and an
`AND` that stands directly behind a `WHERE` or behind another `AND` that is deleted. Each rule
deletes in this way, and so do the rules one after the other: between a word and one that was not
its neighbour before, only such words have gone (`Deletes.trans`).

> `only_where_and_and_go`: repair deletes words in this way and no others, and it deletes one
> exactly if some `WHERE` dangles.
-/

namespace SqlTemplate.Clause

open SqlTemplate.Text SqlTemplate.Text.Words

/-! ## Words between blanks -/

/-- The words of a text: the stretches between its blanks. -/
def wordsOf (s : List Char) : List (List Char) := (s.splitOnP isBlank).filter (!·.isEmpty)

/-- The words behind gaps, without the last one where it is empty. -/
def fullWords (spaced : List Spaced) : List (List Char) :=
  (spaced.map Spaced.word).filter (!·.isEmpty)

/-- The words one by one; the empty one that a text can end with does not count. -/
theorem fullWords_cons (s : Spaced) (more : List Spaced) :
    fullWords (s :: more) =
      if s.word = [] then fullWords more else s.word :: fullWords more := by
  unfold fullWords
  rw [List.map_cons, List.filter_cons]
  by_cases h : s.word = [] <;> simp [h]

/-- What stands between the blanks of a text is its first word and the words behind its gaps. -/
theorem exists_splitOnP (s : List Char) :
    ∃ rest, s.splitOnP isBlank = (split s).first :: rest ∧
      rest.filter (!·.isEmpty) = fullWords (split s).spaced := by
  induction s with
  | nil => exact ⟨[], rfl, rfl⟩
  | cons c s ih =>
    obtain ⟨rest, hsplit, hrest⟩ := ih
    rw [List.splitOnP_cons_eq_if_modifyHead, hsplit, split_cons]
    generalize split s = ws at hrest
    obtain ⟨first, spaced⟩ := ws
    cases hc : isBlank c with
    | false =>
      rw [cons_of_plain hc]
      exact ⟨rest, rfl, hrest⟩
    | true =>
      -- the blank ends the first word; an empty one leaves no word between two blanks
      cases first with
      | cons d first =>
        rw [cons_of_blank_of_first hc]
        refine ⟨(d :: first) :: rest, rfl, ?_⟩
        rw [fullWords_cons, if_neg (List.cons_ne_nil d first)]
        exact congrArg ((d :: first) :: ·) hrest
      | nil =>
        cases spaced with
        | nil =>
          rw [cons_of_blank_of_nil hc]
          exact ⟨[] :: rest, rfl, hrest⟩
        | cons s more =>
          rw [cons_of_blank_of_spaced hc]
          exact ⟨[] :: rest, rfl, hrest⟩

/-- The words of a text in the form that the rules work on. The first word is among them, and no
rule looks at it. -/
theorem wordsOf_eq (s : List Char) :
    wordsOf s = fullWords (⟨[], (split s).first⟩ :: (split s).spaced) := by
  obtain ⟨rest, hsplit, hrest⟩ := exists_splitOnP s
  rw [wordsOf, hsplit, List.filter_cons, hrest, fullWords_cons]
  by_cases h : (split s).first = [] <;> simp [h]

/-! ## Deleting words -/

/-- The second list of words is the first with some words deleted: any `WHERE`, and an `AND`
directly behind a `WHERE` or behind another `AND` that is deleted. The flag tells whether such a
word stands before the first. -/
inductive Deletes : (behind : Bool) → List (List Char) → List (List Char) → Prop where
  | done {b : Bool} : Deletes b [] []
  | keeps {b : Bool} {w : List Char} {ws vs : List (List Char)} :
      Deletes (isWhere w) ws vs → Deletes b (w :: ws) (w :: vs)
  | deletesWhere {b : Bool} {w : List Char} {ws vs : List (List Char)} :
      isWhere w = true → Deletes true ws vs → Deletes b (w :: ws) vs
  | deletesAnd {w : List Char} {ws vs : List (List Char)} :
      isAnd w = true → Deletes true ws vs → Deletes true (w :: ws) vs

theorem Deletes.refl (b : Bool) (ws : List (List Char)) : Deletes b ws ws := by
  induction ws generalizing b with
  | nil => exact .done
  | cons w ws ih => exact .keeps (ih _)

/-- Deleting words of what is left is deleting words: an `AND` that comes behind a `WHERE` now
stood behind it before, or behind one of the words that have gone in between. -/
theorem Deletes.append {b b' : Bool} {ws vs us : List (List Char)} (h : Deletes b ws vs)
    (h' : Deletes b' vs us) : Deletes (b || b') ws us := by
  -- on the first deletion, which says word by word where the second one can go on
  induction h generalizing b' us with
  | done =>
    cases h'
    exact .done
  | @keeps b w ws vs _ ih =>
    cases h' with
    | keeps hrest =>
      have hkeeps := ih hrest
      rw [Bool.or_self] at hkeeps
      exact .keeps hkeeps
    | deletesWhere hw hrest =>
      have hdeletes := ih hrest
      rw [Bool.or_true] at hdeletes
      exact .deletesWhere hw hdeletes
    | deletesAnd hw hrest =>
      have hdeletes := ih hrest
      rw [Bool.or_true] at hdeletes ⊢
      exact .deletesAnd hw hdeletes
  | deletesWhere hw _ ih => exact .deletesWhere hw (ih h')
  | deletesAnd hw _ ih => exact .deletesAnd hw (ih h')

/-- The rules one after the other delete in the same way as each of them does. -/
theorem Deletes.trans {b : Bool} {ws vs us : List (List Char)} (h : Deletes b ws vs)
    (h' : Deletes b vs us) : Deletes b ws us := Bool.or_self b ▸ h.append h'

/-- What may be deleted behind any word may be deleted behind a `WHERE`. -/
theorem Deletes.mono {ws vs : List (List Char)} (h : Deletes false ws vs) (b : Bool) :
    Deletes b ws vs := h.append (.refl b vs)

/-- A word that a rule keeps, empty or not. -/
theorem Deletes.keepsSpaced {b : Bool} {s t : Spaced} {xs ys : List Spaced}
    (hword : t.word = s.word) (h : Deletes (isWhere s.word) (fullWords xs) (fullWords ys)) :
    Deletes b (fullWords (s :: xs)) (fullWords (t :: ys)) := by
  rw [fullWords_cons, fullWords_cons, hword]
  by_cases hempty : s.word = []
  · rw [if_pos hempty, if_pos hempty]
    rw [hempty] at h
    exact h.mono b
  · rw [if_neg hempty, if_neg hempty]
    exact .keeps h

theorem word_ne_nil_of_isWhere {w : List Char} (h : isWhere w = true) : w ≠ [] :=
  List.ne_nil_of_length_pos (length_of_isKeyword h ▸ Nat.succ_pos 4)

theorem word_ne_nil_of_isAnd {w : List Char} (h : isAnd w = true) : w ≠ [] :=
  List.ne_nil_of_length_pos (length_of_isKeyword h ▸ Nat.succ_pos 2)

/-- A `WHERE` that a rule drops. -/
theorem Deletes.dropsWhere {b : Bool} {s : Spaced} {xs ys : List Spaced}
    (hs : isWhere s.word = true) (h : Deletes true (fullWords xs) (fullWords ys)) :
    Deletes b (fullWords (s :: xs)) (fullWords ys) := by
  rw [fullWords_cons, if_neg (word_ne_nil_of_isWhere hs)]
  exact .deletesWhere hs h

/-- An `AND` that a rule drops. -/
theorem Deletes.dropsAnd {s : Spaced} {xs ys : List Spaced} (hs : isAnd s.word = true)
    (h : Deletes true (fullWords xs) (fullWords ys)) :
    Deletes true (fullWords (s :: xs)) (fullWords ys) := by
  rw [fullWords_cons, if_neg (word_ne_nil_of_isAnd hs)]
  exact .deletesAnd hs h

/-! ## What each rule deletes -/

/-- Rule 1 deletes a `WHERE`. -/
theorem deletes_dropLastWhere (xs : List Spaced) :
    Deletes false (fullWords xs) (fullWords (dropLastWhere xs)) := by
  fun_induction dropLastWhere xs with
  | case1 => exact .done
  | case2 s hs => exact .dropsWhere hs .done
  | case3 s _ => exact .refl _ _
  | case4 s last hs =>
    rw [Bool.and_eq_true, List.isEmpty_iff] at hs
    refine .dropsWhere hs.1 ?_
    rw [fullWords_cons, if_pos hs.2]
    exact .done
  | case5 s last _ ih => exact .keepsSpaced rfl (ih.mono _)
  | case6 s more _ _ ih => exact .keepsSpaced rfl (ih.mono _)

/-- Whether rule 2 would drop an `AND` here. -/
def AfterWhere.drops : AfterWhere → Bool
  | .no => false
  | .directly => true
  | .dropped => true

/-- Rule 2 remembers a word exactly if that word is a `WHERE`. -/
theorem drops_afterWord (w : List Char) :
    (if isWhere w = true then AfterWhere.directly else .no).drops = isWhere w := by
  cases isWhere w <;> rfl

/-- Rule 2 deletes `AND`s. What it remembers of the words before is the flag of `Deletes`. -/
theorem deletes_dropAnds (state : AfterWhere) (xs : List Spaced) :
    Deletes state.drops (fullWords xs) (fullWords (dropAnds state xs)) := by
  fun_induction dropAnds state xs with
  | case1 => exact .done
  | case2 s more ih =>
    rw [drops_afterWord] at ih
    exact .keepsSpaced rfl ih
  | case3 s more hs ih => exact .dropsAnd (Bool.and_eq_true_iff.mp hs).1 ih
  | case4 s more _ ih =>
    rw [drops_afterWord] at ih
    exact .keepsSpaced rfl ih
  | case5 s more hs ih => exact .dropsAnd (Bool.and_eq_true_iff.mp hs).1 ih
  | case6 s more _ ih => exact .keepsSpaced rfl (ih.mono _)

/-- Rule 3 deletes a `WHERE`. -/
theorem deletes_dropWhereBeforeFollower (xs : List Spaced) :
    Deletes false (fullWords xs) (fullWords (dropWhereBeforeFollower xs)) := by
  fun_induction dropWhereBeforeFollower xs with
  | case1 => exact .done
  | case2 s => exact .refl _ _
  | case3 s next more hs ih =>
    exact .dropsWhere (Bool.and_eq_true_iff.mp hs).1 (.keepsSpaced rfl (ih.mono _))
  | case4 s next more _ ih => exact .keepsSpaced rfl (ih.mono _)

/-- The three rules together, by `Deletes.trans`. -/
theorem deletes_repairSpaced (atEnd : Bool) (xs : List Spaced) :
    Deletes false (fullWords xs) (fullWords (repairSpaced atEnd xs)) := by
  have hlast : Deletes false (fullWords xs)
      (fullWords (if atEnd then dropLastWhere xs else xs)) := by
    cases atEnd with
    | false => exact .refl _ _
    | true => exact deletes_dropLastWhere xs
  exact hlast.trans ((deletes_dropAnds .no _).trans (deletes_dropWhereBeforeFollower _))

/-- Repair of a text deletes words of it. -/
theorem deletes_repair (atEnd : Bool) (s : List Char) :
    Deletes false (wordsOf s) (wordsOf (repair atEnd s)) := by
  rw [wordsOf_eq, wordsOf_eq, split_repair]
  exact .keepsSpaced rfl ((deletes_repairSpaced atEnd _).mono _)

/-! ## Whether a word is deleted -/

theorem length_fullWords_cons (s : Spaced) (more : List Spaced) :
    (fullWords (s :: more)).length = (fullWords more).length + if s.word = [] then 0 else 1 := by
  rw [fullWords_cons]
  split <;> rfl

/-- Rule 1 drops a word that is not empty or changes nothing. -/
theorem dropLastWhere_of_length {xs : List Spaced}
    (h : (fullWords (dropLastWhere xs)).length = (fullWords xs).length) :
    dropLastWhere xs = xs := by
  fun_induction dropLastWhere xs with
  | case1 => rfl
  | case2 s hs =>
    rw [length_fullWords_cons, if_neg (word_ne_nil_of_isWhere hs)] at h
    cases h
  | case3 s _ => rfl
  | case4 s last hs =>
    rw [Bool.and_eq_true] at hs
    rw [length_fullWords_cons, if_neg (word_ne_nil_of_isWhere hs.1)] at h
    cases h
  | case5 s last _ ih =>
    rw [length_fullWords_cons, length_fullWords_cons] at h
    rw [ih (by omega)]
  | case6 s more _ _ ih =>
    rw [length_fullWords_cons, length_fullWords_cons] at h
    rw [ih (by omega)]

/-- Rule 2 drops no empty word. -/
theorem length_dropAnds (state : AfterWhere) (xs : List Spaced) :
    (dropAnds state xs).length + (fullWords xs).length =
      xs.length + (fullWords (dropAnds state xs)).length := by
  fun_induction dropAnds state xs with
  | case1 => rfl
  | case2 s more ih => simp only [length_fullWords_cons, List.length_cons]; omega
  | case3 s more hs ih =>
    have hne := word_ne_nil_of_isAnd (Bool.and_eq_true_iff.mp hs).1
    rw [length_fullWords_cons, if_neg hne, List.length_cons]
    omega
  | case4 s more _ ih => simp only [length_fullWords_cons, List.length_cons]; omega
  | case5 s more hs ih =>
    have hne := word_ne_nil_of_isAnd (Bool.and_eq_true_iff.mp hs).1
    rw [length_fullWords_cons, if_neg hne, List.length_cons]
    omega
  | case6 s more _ ih => simp only [length_fullWords_cons, List.length_cons]; omega

/-- Rule 3 drops no empty word. -/
theorem length_dropWhereBeforeFollower (xs : List Spaced) :
    (dropWhereBeforeFollower xs).length + (fullWords xs).length =
      xs.length + (fullWords (dropWhereBeforeFollower xs)).length := by
  fun_induction dropWhereBeforeFollower xs with
  | case1 => rfl
  | case2 s => rfl
  | case3 s next more hs ih =>
    have hne := word_ne_nil_of_isWhere (Bool.and_eq_true_iff.mp hs).1
    rw [length_fullWords_cons, if_neg hne]
    simp only [length_fullWords_cons, List.length_cons]
    omega
  | case4 s next more _ ih =>
    simp only [length_fullWords_cons, List.length_cons] at ih ⊢
    omega

theorem Deletes.length_le {b : Bool} {ws vs : List (List Char)} (h : Deletes b ws vs) :
    vs.length ≤ ws.length := by
  induction h with
  | done => exact Nat.le_refl 0
  | keeps _ ih => exact Nat.succ_le_succ ih
  | deletesWhere _ _ ih => exact Nat.le_succ_of_le ih
  | deletesAnd _ _ ih => exact Nat.le_succ_of_le ih

/-- Rules that delete no word change nothing. -/
theorem repairSpaced_of_length {xs : List Spaced}
    (h : (fullWords (repairSpaced true xs)).length = (fullWords xs).length) :
    repairSpaced true xs = xs := by
  have hone := (deletes_dropLastWhere xs).length_le
  have htwo := (deletes_dropAnds .no (dropLastWhere xs)).length_le
  have hthree := (deletes_dropWhereBeforeFollower (dropAnds .no (dropLastWhere xs))).length_le
  change (fullWords (dropWhereBeforeFollower (dropAnds .no (dropLastWhere xs)))).length = _ at h
  -- no rule adds a word, so each of the three has kept them all
  have hlast : dropLastWhere xs = xs := dropLastWhere_of_length (by omega)
  have hands : dropAnds .no xs = xs := by
    have hlen := length_dropAnds .no xs
    rw [hlast] at hone htwo hthree h
    exact dropAnds_eq_self_iff.mpr (no_and_of_length (by omega) (Or.inl rfl)).1
  have hfollower := length_dropWhereBeforeFollower xs
  rw [hlast, hands] at h
  rw [repairSpaced_of_end hlast, hands, dropWhereBeforeFollower_of_length (by omega)]

/-- No word of a text is deleted exactly if no `WHERE` dangles. -/
theorem wordsOf_repair_eq_iff {s : List Char} :
    wordsOf (repair true s) = wordsOf s ↔ Settled (split s).spaced := by
  rw [← repairSpaced_eq_self_iff]
  constructor
  · intro h
    rw [wordsOf_eq, wordsOf_eq, split_repair] at h
    have hlen := congrArg List.length h
    rw [length_fullWords_cons, length_fullWords_cons] at hlen
    exact repairSpaced_of_length (Nat.add_right_cancel hlen)
  · intro h
    rw [wordsOf_eq, wordsOf_eq, split_repair, h]

/-! ## The places of the deleted words -/

/-- The words that are left where those marked as gone have been deleted. -/
def leftOf (ws : List (List Char)) (gone : List Bool) : List (List Char) :=
  (ws.zip gone).filterMap fun (w, g) => if g then none else some w

/-- With as many marks as words, all words are left exactly if none is marked. -/
theorem leftOf_eq_self_iff {ws : List (List Char)} {gone : List Bool}
    (h : gone.length = ws.length) : leftOf ws gone = ws ↔ true ∉ gone := by
  induction ws generalizing gone with
  | nil => simp [List.length_eq_zero_iff.mp h, leftOf]
  | cons w ws ih =>
    obtain ⟨g, gone, rfl⟩ := List.exists_cons_of_length_pos (l := gone) (by simp [h])
    have hlen : gone.length = ws.length := by simpa using h
    have hrest := ih hlen
    cases g with
    | false => simpa [leftOf] using hrest
    | true =>
      have hle : (leftOf ws gone).length ≤ ws.length := by
        refine (List.length_filterMap_le _ _).trans ?_
        simp [hlen]
      -- with `w` gone there is one word less
      have hne : leftOf ws gone ≠ w :: ws := by
        intro heq
        rw [heq, List.length_cons] at hle
        omega
      simpa [leftOf] using hne

/-- Whether each word that is marked as gone is a `WHERE`, or else an `AND` directly behind a
`WHERE` or an `AND` that is gone too. The flag tells whether such a word stands before the first. -/
def MayGo (behind : Bool) (ws : List (List Char)) (gone : List Bool) : Prop :=
  ∀ i w, ws[i]? = some w → gone[i]? = some true →
    isWhere w = true ∨ isAnd w = true ∧
      (i = 0 ∧ behind = true ∨ ∃ j v, i = j + 1 ∧ ws[j]? = some v ∧
        (isWhere v = true ∨ gone[j]? = some true ∧ isAnd v = true))

/-- Marks may be put on one word more: `hw` is what the word itself needs, and `hnext` what it gives
to the word behind it. -/
theorem MayGo.cons {b b' g : Bool} {w : List Char} {ws : List (List Char)} {gone : List Bool}
    (hw : g = true → isWhere w = true ∨ isAnd w = true ∧ b = true)
    (hnext : b' = true → isWhere w = true ∨ g = true ∧ isAnd w = true) (h : MayGo b' ws gone) :
    MayGo b (w :: ws) (g :: gone) := by
  intro i v hv hgone
  -- the mark on the word itself, or one behind it
  cases i with
  | zero =>
    cases hv
    rcases hw (Option.some.inj hgone) with hwhere | ⟨hand, hb⟩
    · exact Or.inl hwhere
    · exact Or.inr ⟨hand, Or.inl ⟨rfl, hb⟩⟩
  | succ i =>
    rcases h i v hv hgone with hwhere | ⟨hand, ⟨rfl, hb⟩ | ⟨j, u, rfl, hu, hbefore⟩⟩
    · exact Or.inl hwhere
    · refine Or.inr ⟨hand, Or.inr ⟨0, w, rfl, rfl, ?_⟩⟩
      exact (hnext hb).imp id fun ⟨hg, hand⟩ => ⟨congrArg some hg, hand⟩
    · exact Or.inr ⟨hand, Or.inr ⟨j + 1, u, rfl, hu, hbefore⟩⟩

/-- Deleted words are told by their places: one mark for each word. -/
theorem Deletes.exists_gone {b : Bool} {ws vs : List (List Char)} (h : Deletes b ws vs) :
    ∃ gone, gone.length = ws.length ∧ vs = leftOf ws gone ∧ MayGo b ws gone := by
  induction h with
  | done => exact ⟨[], rfl, rfl, fun i w hw => by cases hw⟩
  | keeps _ ih =>
    obtain ⟨gone, hlen, rfl, hmay⟩ := ih
    exact ⟨false :: gone, congrArg (· + 1) hlen, rfl, hmay.cons (fun hg => by cases hg) Or.inl⟩
  | deletesWhere hw _ ih =>
    obtain ⟨gone, hlen, rfl, hmay⟩ := ih
    exact ⟨true :: gone, congrArg (· + 1) hlen, rfl,
      hmay.cons (fun _ => Or.inl hw) fun _ => Or.inl hw⟩
  | deletesAnd hw _ ih =>
    obtain ⟨gone, hlen, rfl, hmay⟩ := ih
    exact ⟨true :: gone, congrArg (· + 1) hlen, rfl,
      hmay.cons (fun _ => Or.inr ⟨hw, rfl⟩) fun _ => Or.inr ⟨rfl, hw⟩⟩

/-- **Repair only ever deletes `WHERE` and `AND`.** The words of the repaired statement are those
of the statement, unchanged and in their order, with some of them gone: each of these is a
`WHERE`, or an `AND` directly behind a `WHERE` or behind another `AND` that is gone. Some word
goes exactly if a `WHERE` dangles. -/
theorem only_where_and_and_go (sql : String) :
    ∃ gone : List Bool, gone.length = (wordsOf sql.toList).length ∧
      wordsOf (repairStatement sql).toList = leftOf (wordsOf sql.toList) gone ∧
      (∀ i w, (wordsOf sql.toList)[i]? = some w → gone[i]? = some true →
        isWhere w = true ∨ isAnd w = true ∧
          ∃ j v, i = j + 1 ∧ (wordsOf sql.toList)[j]? = some v ∧
            (isWhere v = true ∨ gone[j]? = some true ∧ isAnd v = true)) ∧
      (true ∈ gone ↔ ¬ Settled (split sql.toList).spaced) := by
  obtain ⟨gone, hlen, hleft, hmay⟩ := (deletes_repair true sql.toList).exists_gone
  rw [repairStatement, String.toList_ofList]
  refine ⟨gone, hlen, hleft, fun i w hw hgone => ?_, ?_⟩
  · exact (hmay i w hw hgone).imp id fun ⟨hand, hbefore⟩ =>
      ⟨hand, hbefore.resolve_left fun hfirst => by simp at hfirst⟩
  · rw [← wordsOf_repair_eq_iff, hleft, leftOf_eq_self_iff hlen, not_not]

end SqlTemplate.Clause
