import SqlTemplate.Proofs.Clause.Filters

/-!
# Settled statements

A `WHERE` dangles when it is the end of the text, when an `AND` and more stand
behind it, or when a clause that follows the conditions does. Each rule of repair
removes one of the three, and finds nothing to do exactly where there is none:
`dropLastWhere_eq_self_iff`, `dropAnds_eq_self_iff` and
`dropWhereBeforeFollower_eq_self_iff`.

> `repair_eq_self_iff`: repair leaves a text as it is exactly where no `WHERE` dangles.

The rules only ever drop words (`words_repairSpaced`), so a rule that has dropped one
shows in the number of words, whatever the rules behind it do.
-/

namespace SqlTemplate.Clause

open SqlTemplate.Text SqlTemplate.Text.Words

/-! ## What stands behind a WHERE -/

/-- Whether there is nothing but blanks up to the end. -/
def EndsHere : List Spaced → Prop
  | [] => True
  | [s] => s.word = []
  | _ :: _ :: _ => False

/-- Whether an `AND` comes first and something behind it. -/
def AndAhead : List Spaced → Prop
  | s :: _ :: _ => isAnd s.word = true
  | _ => False

/-- Whether a clause that follows the conditions comes first. -/
def FollowerAhead : List Spaced → Prop
  | s :: _ => opensFollower s.word = true
  | [] => False

/-- Whether some `WHERE` has such words behind it. -/
def WhereBefore (p : List Spaced → Prop) (spaced : List Spaced) : Prop :=
  ∃ w rest, w :: rest <:+ spaced ∧ isWhere w.word = true ∧ p rest

/-- No `WHERE` dangles, in any of the three ways. -/
structure Settled (spaced : List Spaced) : Prop where
  not_last : ¬ WhereBefore EndsHere spaced
  no_and : ¬ WhereBefore AndAhead spaced
  no_follower : ¬ WhereBefore FollowerAhead spaced

section

variable {p : List Spaced → Prop} {s : Spaced} {more xs : List Spaced}

theorem not_whereBefore_nil : ¬ WhereBefore p [] := by
  rintro ⟨w, rest, hsuf, -⟩
  cases List.suffix_nil.mp hsuf

/-- The first word is such a `WHERE`, or there is one further on. The rules recurse on the words,
and this is the form in which they meet it. -/
theorem whereBefore_cons :
    WhereBefore p (s :: more) ↔ isWhere s.word = true ∧ p more ∨ WhereBefore p more := by
  constructor
  · rintro ⟨w, rest, hsuf, hw, hp⟩
    rcases List.suffix_cons_iff.mp hsuf with heq | hsuf
    · cases heq
      exact Or.inl ⟨hw, hp⟩
    · exact Or.inr ⟨w, rest, hsuf, hw, hp⟩
  · rintro (⟨hw, hp⟩ | ⟨w, rest, hsuf, hw, hp⟩)
    · exact ⟨s, more, List.suffix_rfl, hw, hp⟩
    · exact ⟨w, rest, hsuf.trans (List.suffix_cons s more), hw, hp⟩

theorem not_whereBefore_cons :
    ¬ WhereBefore p (s :: more) ↔
      (isWhere s.word = true → ¬ p more) ∧ ¬ WhereBefore p more := by
  rw [whereBefore_cons, not_or, not_and]

end

/-! ## Words are only dropped -/

/-- Rule 1 takes words off the end only. -/
theorem prefix_dropLastWhere (xs : List Spaced) : dropLastWhere xs <+: xs := by
  fun_induction dropLastWhere xs with
  | case1 => exact List.prefix_rfl
  | case2 => exact List.nil_prefix
  | case3 => exact List.prefix_rfl
  | case4 => exact List.nil_prefix
  | case5 s last _ ih => exact (List.prefix_cons_inj s).mpr ih
  | case6 s more _ _ ih => exact (List.prefix_cons_inj s).mpr ih

/-- Rule 2 drops words and leaves the others in order, in whatever state it begins. -/
theorem words_dropAnds (state : AfterWhere) (xs : List Spaced) :
    ((dropAnds state xs).map Spaced.word).Sublist (xs.map Spaced.word) := by
  fun_induction dropAnds state xs with
  | case1 => exact List.Sublist.refl _
  | case2 s more ih => exact ih.cons_cons s.word
  | case3 s more _ ih => exact ih.cons s.word
  | case4 s more _ ih => exact ih.cons_cons s.word
  | case5 s more _ ih => exact ih.cons s.word
  | case6 s more _ ih => exact ih.cons_cons s.word

/-- Rule 3 drops words and leaves the others in order. The gap before the follower may change, which
is why this is said of words. -/
theorem words_dropWhereBeforeFollower (xs : List Spaced) :
    ((dropWhereBeforeFollower xs).map Spaced.word).Sublist (xs.map Spaced.word) := by
  fun_induction dropWhereBeforeFollower xs with
  | case1 => exact List.Sublist.refl _
  | case2 => exact List.Sublist.refl _
  | case3 s next more _ ih => exact (ih.cons_cons next.word).cons s.word
  | case4 s next more _ ih => exact ih.cons_cons s.word

/-- Repair drops words and leaves the others in order. -/
theorem words_repairSpaced (atEnd : Bool) (xs : List Spaced) :
    ((repairSpaced atEnd xs).map Spaced.word).Sublist (xs.map Spaced.word) := by
  refine (words_dropWhereBeforeFollower _).trans ((words_dropAnds _ _).trans ?_)
  cases atEnd with
  | false => exact List.Sublist.refl _
  | true => exact (prefix_dropLastWhere xs).sublist.map _

/-- A word that is kept is as it was, so the only empty words are still the first and the last. -/
theorem full_repairSpaced {ws : Words} (h : ws.Full) (atEnd : Bool) :
    Full ⟨ws.first, repairSpaced atEnd ws.spaced⟩ :=
  List.Pairwise.sublist (words_repairSpaced atEnd ws.spaced) h

/-- The words of a repaired text are what the rules leave of its words. -/
theorem split_repair (atEnd : Bool) (s : List Char) :
    split (repair atEnd s) = ⟨(split s).first, repairSpaced atEnd (split s).spaced⟩ :=
  (proper_repairSpaced (proper_split s) atEnd).split_text (full_repairSpaced (full_split s) atEnd)

/-! ## What each rule finds -/

/-- Rule 1 finds nothing to do exactly where no `WHERE` is last. -/
theorem dropLastWhere_eq_self_iff {xs : List Spaced} :
    dropLastWhere xs = xs ↔ ¬ WhereBefore EndsHere xs := by
  fun_induction dropLastWhere xs with
  | case1 => simp [not_whereBefore_nil]
  | case2 s hs => simp [whereBefore_cons, hs, EndsHere]
  | case3 s hs => simp [not_whereBefore_cons, hs, not_whereBefore_nil]
  | case4 s last hs =>
    rw [Bool.and_eq_true, List.isEmpty_iff] at hs
    simp [whereBefore_cons, hs.1, hs.2, EndsHere]
  | case5 s last hs ih =>
    rw [Bool.and_eq_true, List.isEmpty_iff, not_and] at hs
    rw [not_whereBefore_cons, ← ih, List.cons.injEq]
    simpa [EndsHere] using fun _ => hs
  | case6 s more hnil hone ih =>
    -- two words or more behind `s`, so it is not the last whatever it is
    have hmore : ¬ EndsHere more := by
      cases more with
      | nil => exact absurd rfl hnil
      | cons t more =>
        cases more with
        | nil => exact absurd rfl (hone t)
        | cons u more => exact id
    rw [not_whereBefore_cons, ← ih, List.cons.injEq]
    simp [hmore]

theorem length_dropAnds_le (state : AfterWhere) (xs : List Spaced) :
    (dropAnds state xs).length ≤ xs.length := by
  simpa using (words_dropAnds state xs).length_le

theorem length_dropWhereBeforeFollower_le (xs : List Spaced) :
    (dropWhereBeforeFollower xs).length ≤ xs.length := by
  simpa using (words_dropWhereBeforeFollower xs).length_le

/-- Where rule 3 drops no word it changes no gap either: it rewrites a gap only where it drops. -/
theorem dropWhereBeforeFollower_of_length {xs : List Spaced}
    (h : (dropWhereBeforeFollower xs).length = xs.length) : dropWhereBeforeFollower xs = xs := by
  fun_induction dropWhereBeforeFollower xs with
  | case1 => rfl
  | case2 s => rfl
  | case3 s next more _ _ =>
    have hle := length_dropWhereBeforeFollower_le more
    simp only [List.length_cons] at h
    omega
  | case4 s next more _ ih => rw [ih (by simpa using h)]

/-- Where no `WHERE` is before an `AND`, rule 2 changes nothing. -/
theorem dropAnds_of_no_and {state : AfterWhere} {xs : List Spaced}
    (h : ¬ WhereBefore AndAhead xs) (hstate : state = .no ∨ state = .directly ∧ ¬ AndAhead xs) :
    dropAnds state xs = xs := by
  fun_induction dropAnds state xs with
  | case1 => rfl
  | case2 s more ih =>
    obtain ⟨hs, hmore⟩ := not_whereBefore_cons.mp h
    rw [ih hmore]
    split
    next hw => exact Or.inr ⟨rfl, hs hw⟩
    next => exact Or.inl rfl
  | case3 s more hs ih =>
    rw [Bool.and_eq_true] at hs
    -- an `AND` that the rule would drop is an `AND` ahead, which the state excludes
    cases more with
    | nil => exact absurd hs.2 (by simp)
    | cons t more => exact absurd hs.1 (by simpa [AndAhead] using hstate)
  | case4 s more _ ih =>
    obtain ⟨hs, hmore⟩ := not_whereBefore_cons.mp h
    rw [ih hmore]
    split
    next hw => exact Or.inr ⟨rfl, hs hw⟩
    next => exact Or.inl rfl
  | case5 => simp at hstate
  | case6 => simp at hstate

/-- Where rule 2 drops no word, no `WHERE` is before an `AND`. -/
theorem no_and_of_length {state : AfterWhere} {xs : List Spaced}
    (h : (dropAnds state xs).length = xs.length) (hstate : state = .no ∨ state = .directly) :
    ¬ WhereBefore AndAhead xs ∧ (state = .directly → ¬ AndAhead xs) := by
  fun_induction dropAnds state xs with
  | case1 => exact ⟨not_whereBefore_nil, fun _ => id⟩
  | case2 s more ih =>
    obtain ⟨hmore, hhead⟩ := ih (by simpa using h) (by split <;> simp)
    exact ⟨not_whereBefore_cons.mpr ⟨fun hw => hhead (if_pos hw), hmore⟩, fun hd => by cases hd⟩
  | case3 s more _ ih =>
    -- a word is dropped here, and no later step can make up for it
    have hle := length_dropAnds_le .dropped more
    rw [h, List.length_cons] at hle
    omega
  | case4 s more hs ih =>
    obtain ⟨hmore, hhead⟩ := ih (by simpa using h) (by split <;> simp)
    refine ⟨not_whereBefore_cons.mpr ⟨fun hw => hhead (if_pos hw), hmore⟩, fun _ => ?_⟩
    cases more with
    | nil => exact id
    | cons t more => simpa [AndAhead] using hs
  | case5 => simp at hstate
  | case6 => simp at hstate

/-- Rule 2 finds nothing to do exactly where no `WHERE` is before an `AND`. -/
theorem dropAnds_eq_self_iff {xs : List Spaced} :
    dropAnds .no xs = xs ↔ ¬ WhereBefore AndAhead xs :=
  ⟨fun h => (no_and_of_length (congrArg List.length h) (Or.inl rfl)).1,
    fun h => dropAnds_of_no_and h (Or.inl rfl)⟩

/-- Rule 3 finds nothing to do exactly where no `WHERE` is before a follower. -/
theorem dropWhereBeforeFollower_eq_self_iff {xs : List Spaced} :
    dropWhereBeforeFollower xs = xs ↔ ¬ WhereBefore FollowerAhead xs := by
  fun_induction dropWhereBeforeFollower xs with
  | case1 => simp [not_whereBefore_nil]
  | case2 s => simp [not_whereBefore_cons, not_whereBefore_nil, FollowerAhead]
  | case3 s next more hs ih =>
    rw [Bool.and_eq_true] at hs
    have hle := length_dropWhereBeforeFollower_le more
    -- the rule drops `s`, so the result is shorter
    have hne : ⟨[' '], next.word⟩ :: dropWhereBeforeFollower more ≠ s :: next :: more := by
      intro h
      have hlen := congrArg List.length h
      simp only [List.length_cons] at hlen
      omega
    simp [whereBefore_cons, FollowerAhead, hs.1, hs.2, hne]
  | case4 s next more hs ih =>
    rw [not_whereBefore_cons, ← ih, List.cons.injEq]
    simpa [FollowerAhead] using fun _ => hs

/-! ## Repair as a whole -/

/-- Where no `WHERE` dangles, none of the three rules has anything to do. -/
theorem repairSpaced_of_settled {xs : List Spaced} (h : Settled xs) : repairSpaced true xs = xs := by
  rw [repairSpaced_of_end (dropLastWhere_eq_self_iff.mpr h.not_last),
    dropAnds_eq_self_iff.mpr h.no_and, dropWhereBeforeFollower_eq_self_iff.mpr h.no_follower]

/-- Rules that drop no word find nothing to do. -/
theorem settled_of_length {xs : List Spaced} (h : (repairSpaced true xs).length = xs.length) :
    Settled xs := by
  -- no rule adds a word, so with as many words in the end none has dropped one
  have hone : (dropLastWhere xs).length ≤ xs.length := (prefix_dropLastWhere xs).length_le
  have htwo := length_dropAnds_le .no (dropLastWhere xs)
  have hthree := length_dropWhereBeforeFollower_le (dropAnds .no (dropLastWhere xs))
  have heq : (dropWhereBeforeFollower (dropAnds .no (dropLastWhere xs))).length = xs.length := h
  have hlast : dropLastWhere xs = xs := (prefix_dropLastWhere xs).eq_of_length (by omega)
  rw [hlast] at htwo hthree heq
  have hkept : (dropAnds .no xs).length = xs.length := by omega
  have hands := (no_and_of_length hkept (Or.inl rfl)).1
  rw [dropAnds_eq_self_iff.mpr hands] at heq
  exact ⟨dropLastWhere_eq_self_iff.mp hlast, hands,
    dropWhereBeforeFollower_eq_self_iff.mp (dropWhereBeforeFollower_of_length heq)⟩

/-- The words of a text stay as they are exactly where no `WHERE` dangles among them. -/
theorem repairSpaced_eq_self_iff {xs : List Spaced} : repairSpaced true xs = xs ↔ Settled xs :=
  ⟨fun h => settled_of_length (congrArg List.length h), repairSpaced_of_settled⟩

/-- **Repair leaves a text as it is exactly where no `WHERE` dangles.** -/
theorem repair_eq_self_iff {s : List Char} : repair true s = s ↔ Settled (split s).spaced := by
  rw [← repairSpaced_eq_self_iff]
  constructor
  · intro h
    have hwords := split_repair true s
    rw [h] at hwords
    exact (congrArg Words.spaced hwords).symm
  · intro h
    rw [repair_eq, h]
    exact text_split s

end SqlTemplate.Clause
