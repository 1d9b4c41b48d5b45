import SqlTemplate.Proofs.Clause.Settled

/-!
# Repairing twice

The rules run once each, in order, so one repair can leave a `WHERE` dangling: dropping
the words behind it may bring it to the end, next to a follower or next to an `AND`,
when the rule for that has already run or has passed the place.

`LeavesDangling` lists the words behind a `WHERE` with which this happens, as they
stand once a last `WHERE` has gone.

> `repair_twice_iff`: repairing twice is repairing once exactly where no `WHERE` has
> such words behind it, and that is where no `WHERE` dangles in the repaired text.

The proof looks at the two remaining rules from the back. Rule 3 leaves a `WHERE`
dangling with words of three kinds behind it (`settled_dropWhereBeforeFollower`), and
rule 2 makes such words from those of `LeavesDangling` (`whereBefore_dropAnds_iff`).
-/

namespace SqlTemplate.Clause

open SqlTemplate.Text SqlTemplate.Text.Words

/-- Whether the words are `AND`s, all of them. -/
def AllAnd (xs : List Spaced) : Prop := ∀ x ∈ xs, isAnd x.word = true

/-- The words behind a `WHERE` with which one repair leaves a `WHERE` dangling. -/
inductive LeavesDangling : List Spaced → Prop where
  /-- Nothing: a `WHERE` behind it was the last and is gone. -/
  | atEnd : LeavesDangling []
  /-- Blanks at the end, and `AND`s before them that go. -/
  | blanksAtEnd {ands : List Spaced} {s : Spaced} :
      AllAnd ands → s.word = [] → LeavesDangling (ands ++ [s])
  /-- A second `WHERE` that goes itself, because of a follower behind it. -/
  | secondGoes {w f : Spaced} {ands rest : List Spaced} :
      isWhere w.word = true → AllAnd ands → opensFollower f.word = true →
        LeavesDangling (w :: (ands ++ f :: rest))
  /-- `AND`s that go, and a second `WHERE` with a follower: that `WHERE` goes as well. -/
  | andsBeforeSecond {ands rest : List Spaced} {w f : Spaced} :
      AllAnd ands → isWhere w.word = true → opensFollower f.word = true →
        LeavesDangling (ands ++ w :: f :: rest)
  /-- `AND`s that go, and a second `WHERE` with an `AND` and more behind it: rule 2 has
  passed the second `WHERE` with the `AND`s before it. -/
  | secondPassed {ands rest : List Spaced} {w a : Spaced} :
      ands ≠ [] → AllAnd ands → isWhere w.word = true → isAnd a.word = true → rest ≠ [] →
        LeavesDangling (ands ++ w :: a :: rest)

/-! ## What rule 3 leaves dangling -/

/-- Whether a `WHERE` comes first and a follower behind it. -/
def SecondWhereAhead : List Spaced → Prop
  | w :: f :: _ => isWhere w.word = true ∧ opensFollower f.word = true
  | _ => False

/-- The words behind a `WHERE` with which it dangles after rule 3. -/
def DanglesAfterRule3 (rest : List Spaced) : Prop :=
  EndsHere rest ∨ AndAhead rest ∨ SecondWhereAhead rest

theorem settled_nil : Settled [] := ⟨not_whereBefore_nil, not_whereBefore_nil, not_whereBefore_nil⟩

/-- What dangles, word by word: all three ways at the first word, and the rest. -/
theorem settled_cons {s : Spaced} {more : List Spaced} :
    Settled (s :: more) ↔
      (isWhere s.word = true → ¬ EndsHere more ∧ ¬ AndAhead more ∧ ¬ FollowerAhead more) ∧
        Settled more := by
  constructor
  · rintro ⟨hlast, hand, hfollower⟩
    rw [not_whereBefore_cons] at hlast hand hfollower
    exact ⟨fun hw => ⟨hlast.1 hw, hand.1 hw, hfollower.1 hw⟩, hlast.2, hand.2, hfollower.2⟩
  · rintro ⟨hs, hlast, hand, hfollower⟩
    exact ⟨not_whereBefore_cons.mpr ⟨fun hw => (hs hw).1, hlast⟩,
      not_whereBefore_cons.mpr ⟨fun hw => (hs hw).2.1, hand⟩,
      not_whereBefore_cons.mpr ⟨fun hw => (hs hw).2.2, hfollower⟩⟩

/-- What dangles behind rule 3, at a place that rule 3 does not change. -/
theorem dangles_dropWhereBeforeFollower {s : Spaced} {more : List Spaced}
    (hs : opensFollower s.word = false) :
    (EndsHere (dropWhereBeforeFollower (s :: more)) ∨
        AndAhead (dropWhereBeforeFollower (s :: more)) ∨
        FollowerAhead (dropWhereBeforeFollower (s :: more))) ↔
      DanglesAfterRule3 (s :: more) := by
  cases more with
  | nil => simp [dropWhereBeforeFollower, DanglesAfterRule3, EndsHere, AndAhead, FollowerAhead,
      SecondWhereAhead, hs]
  | cons t more =>
    rw [dropWhereBeforeFollower]
    split
    next hrule =>
      rw [Bool.and_eq_true] at hrule
      simp [DanglesAfterRule3, FollowerAhead, SecondWhereAhead, hrule.1, hrule.2]
    next hrule =>
      rw [Bool.and_eq_true] at hrule
      have hne : dropWhereBeforeFollower (t :: more) ≠ [] := by simp
      obtain ⟨u, us, hu⟩ := List.exists_cons_of_ne_nil hne
      simp [hu, DanglesAfterRule3, EndsHere, AndAhead, FollowerAhead, SecondWhereAhead, hs, hrule]

/-- What rule 3 leaves is settled exactly where no `WHERE` has words of the three kinds behind it
before the rule. A follower is not among them, because the rule drops that `WHERE`. -/
theorem settled_dropWhereBeforeFollower (xs : List Spaced) :
    Settled (dropWhereBeforeFollower xs) ↔ ¬ WhereBefore DanglesAfterRule3 xs := by
  fun_induction dropWhereBeforeFollower xs with
  | case1 => simp [settled_nil, not_whereBefore_nil]
  | case2 s =>
    simp [settled_cons, settled_nil, not_whereBefore_cons, not_whereBefore_nil, EndsHere,
      DanglesAfterRule3]
  | case3 s next more hs ih =>
    rw [Bool.and_eq_true] at hs
    -- the follower begins no `WHERE` and is no `AND`, so nothing dangles before it
    have hwhere := not_isWhere_of_opensFollower hs.2
    have hand := not_isAnd_of_opensFollower hs.2
    have hword : next.word ≠ [] := by
      intro hnil
      rw [hnil] at hs
      cases hs.2
    have hnext : ¬ DanglesAfterRule3 (next :: more) := by
      cases more <;> simp [DanglesAfterRule3, EndsHere, AndAhead, SecondWhereAhead, hwhere, hand,
        hword]
    rw [settled_cons, not_whereBefore_cons, not_whereBefore_cons, ih]
    simp [hwhere, hnext]
  | case4 s next more hs ih =>
    rw [Bool.and_eq_true, not_and] at hs
    rw [settled_cons, not_whereBefore_cons, ih]
    refine and_congr_left fun _ => forall_congr' fun hw => ?_
    rw [← not_or, ← not_or, not_iff_not]
    exact dangles_dropWhereBeforeFollower (by simpa using hs hw)

/-! ## What rule 2 makes of the words behind a WHERE -/

theorem allAnd_nil : AllAnd [] := fun _ h => absurd h List.not_mem_nil

theorem allAnd_cons {a : Spaced} {ands : List Spaced} (ha : isAnd a.word = true)
    (h : AllAnd ands) : AllAnd (a :: ands) := by
  intro x hx
  rcases List.mem_cons.mp hx with rfl | hx
  · exact ha
  · exact h x hx

/-- `AND`s, and behind them the first word that stays. -/
theorem exists_ands {xs : List Spaced} (h : xs ≠ []) :
    ∃ ands s rest, xs = ands ++ s :: rest ∧ AllAnd ands ∧ (isAnd s.word = true → rest = []) := by
  induction xs with
  | nil => exact absurd rfl h
  | cons x xs ih =>
    -- an `AND` at the very end stays: the rule wants something behind it
    by_cases hx : isAnd x.word = true ∧ xs ≠ []
    · obtain ⟨ands, s, rest, rfl, hands, hs⟩ := ih hx.2
      exact ⟨x :: ands, s, rest, rfl, allAnd_cons hx.1 hands, hs⟩
    · exact ⟨[], x, xs, rfl, allAnd_nil, fun hand => not_not.mp fun hne => hx ⟨hand, hne⟩⟩

/-- How the rule goes on behind a word that it lets stand. -/
def afterWord (s : Spaced) : AfterWhere := if isWhere s.word then .directly else .no

/-- A word that stays is never remembered as one behind which an `AND` has gone. -/
theorem afterWord_cases (s : Spaced) : afterWord s = .no ∨ afterWord s = .directly := by
  unfold afterWord
  split
  · exact Or.inr rfl
  · exact Or.inl rfl

/-- A word that is no `AND` before more stands, and the rule starts afresh with it. -/
theorem dropAnds_cons_of_stays {state : AfterWhere} (hstate : state = .no ∨ state = .directly)
    {s : Spaced} {rest : List Spaced} (hs : isAnd s.word = true → rest = []) :
    dropAnds state (s :: rest) = s :: dropAnds (afterWord s) rest := by
  rcases hstate with rfl | rfl
  · rfl
  · have hrule : ¬ (isAnd s.word && !rest.isEmpty) = true := by simpa using hs
    rw [dropAnds, if_neg hrule]
    rfl

/-- Once an `AND` has gone, so do those behind it, up to the first word that stays; that word starts
nothing anew. -/
theorem dropAnds_dropped_ands {ands : List Spaced} (hands : AllAnd ands) {s : Spaced}
    {rest : List Spaced} (hs : isAnd s.word = true → rest = []) :
    dropAnds .dropped (ands ++ s :: rest) = ⟨[' '], s.word⟩ :: dropAnds .no rest := by
  induction ands with
  | nil =>
    have hrule : ¬ (isAnd s.word && !rest.isEmpty) = true := by simpa using hs
    rw [List.nil_append, dropAnds, if_neg hrule]
  | cons a ands ih =>
    have hrule : (isAnd a.word && !(ands ++ s :: rest).isEmpty) = true := by
      simp [hands a (List.mem_cons_self ..)]
    rw [List.cons_append, dropAnds, if_pos hrule]
    exact ih fun x hx => hands x (List.mem_cons_of_mem a hx)

/-- Directly behind a `WHERE`, `AND`s go, and the word behind them does not start the
rule again. -/
theorem dropAnds_directly_ands {ands : List Spaced} (hne : ands ≠ []) (hands : AllAnd ands)
    {s : Spaced} {rest : List Spaced} (hs : isAnd s.word = true → rest = []) :
    dropAnds .directly (ands ++ s :: rest) = ⟨[' '], s.word⟩ :: dropAnds .no rest := by
  obtain ⟨a, ands, rfl⟩ := List.exists_cons_of_ne_nil hne
  have hrule : (isAnd a.word && !(ands ++ s :: rest).isEmpty) = true := by
    simp [hands a (List.mem_cons_self ..)]
  rw [List.cons_append, dropAnds, if_pos hrule]
  exact dropAnds_dropped_ands (fun x hx => hands x (List.mem_cons_of_mem a hx)) hs

/-- Elsewhere an `AND` stays, and dangles if there is more. -/
theorem andAhead_dropAnds_no {ands : List Spaced} (hne : ands ≠ []) (hands : AllAnd ands)
    {s : Spaced} {rest : List Spaced} : AndAhead (dropAnds .no (ands ++ s :: rest)) := by
  obtain ⟨a, ands, rfl⟩ := List.exists_cons_of_ne_nil hne
  obtain ⟨t, more, hmore⟩ : ∃ t more, ands ++ s :: rest = t :: more :=
    List.exists_cons_of_ne_nil (by simp)
  have ha := hands a (List.mem_cons_self ..)
  have hrest : ∀ state, dropAnds state (t :: more) ≠ [] := fun state => by simp
  rw [List.cons_append, hmore, dropAnds]
  obtain ⟨u, us, hu⟩ := List.exists_cons_of_ne_nil (hrest (if isWhere a.word then .directly else .no))
  rw [hu]
  exact ha

/-- The first word that stays behind a `WHERE`. -/
theorem dropAnds_directly_cases {xs : List Spaced} (h : xs ≠ []) :
    ∃ ands s rest gap state, xs = ands ++ s :: rest ∧ AllAnd ands ∧
      (isAnd s.word = true → rest = []) ∧ state = (if ands = [] then afterWord s else .no) ∧
      dropAnds .directly xs = ⟨gap, s.word⟩ :: dropAnds state rest := by
  obtain ⟨ands, s, rest, rfl, hands, hs⟩ := exists_ands h
  by_cases hne : ands = []
  · subst hne
    exact ⟨[], s, rest, s.gap, afterWord s, rfl, hands, hs, (if_pos rfl).symm,
      dropAnds_cons_of_stays (Or.inr rfl) hs⟩
  · exact ⟨ands, s, rest, [' '], .no, rfl, hands, hs, (if_neg hne).symm,
      dropAnds_directly_ands hne hands hs⟩

/-! ## From the words before rule 2 to those behind it -/

/-- The `WHERE` stands among the words that rule 2 gives, and rule 2 has gone on behind it
afresh or directly. -/
def StaysBefore (w : Spaced) (rest out : List Spaced) : Prop :=
  ∃ gap state, (state = .no ∨ state = .directly) ∧ ⟨gap, w.word⟩ :: dropAnds state rest <:+ out

/-- What rule 2 gives before the `WHERE` does not matter. -/
theorem StaysBefore.cons {w : Spaced} {rest out : List Spaced} (h : StaysBefore w rest out)
    (s : Spaced) : StaysBefore w rest (s :: out) := by
  obtain ⟨gap, state, hstate, hout⟩ := h
  exact ⟨gap, state, hstate, hout.trans (List.suffix_cons _ _)⟩

/-- Rule 2 keeps every `WHERE`, and goes on behind it in one of two ways. -/
theorem staysBefore_dropAnds {w : Spaced} (hw : isWhere w.word = true) {rest xs : List Spaced}
    (hsuf : w :: rest <:+ xs) (state : AfterWhere) : StaysBefore w rest (dropAnds state xs) := by
  have hnot := not_isAnd_of_isWhere hw
  -- along rule 2: it drops no `WHERE`, and what it gives before this one does not matter
  fun_induction dropAnds state xs with
  | case1 => cases List.suffix_nil.mp hsuf
  | case2 s more ih =>
    rcases List.suffix_cons_iff.mp hsuf with heq | hsuf
    · cases heq
      exact ⟨w.gap, afterWord w, afterWord_cases w, List.suffix_rfl⟩
    · exact (ih hsuf).cons s
  | case3 s more hs ih =>
    rcases List.suffix_cons_iff.mp hsuf with heq | hsuf
    · cases heq
      simp [hnot] at hs
    · exact ih hsuf
  | case4 s more _ ih =>
    rcases List.suffix_cons_iff.mp hsuf with heq | hsuf
    · cases heq
      exact ⟨w.gap, afterWord w, afterWord_cases w, List.suffix_rfl⟩
    · exact (ih hsuf).cons s
  | case5 s more hs ih =>
    rcases List.suffix_cons_iff.mp hsuf with heq | hsuf
    · cases heq
      simp [hnot] at hs
    · exact ih hsuf
  | case6 s more _ ih =>
    rcases List.suffix_cons_iff.mp hsuf with heq | hsuf
    · cases heq
      exact ⟨[' '], .no, Or.inl rfl, List.suffix_rfl⟩
    · exact (ih hsuf).cons _

/-- The first word that stays behind a `WHERE`, when it is a follower. -/
theorem followerAhead_dropAnds_directly {ands : List Spaced} (hands : AllAnd ands) {f : Spaced}
    (hf : opensFollower f.word = true) (rest : List Spaced) :
    FollowerAhead (dropAnds .directly (ands ++ f :: rest)) := by
  have hstays : isAnd f.word = true → rest = [] := by
    rw [not_isAnd_of_opensFollower hf]
    exact nofun
  by_cases hne : ands = []
  · subst hne
    rw [List.nil_append, dropAnds_cons_of_stays (Or.inr rfl) hstays]
    exact hf
  · rw [dropAnds_directly_ands hne hands hstays]
    exact hf

/-- The form in which a second `WHERE` is found before its follower. -/
theorem SecondWhereAhead.of_follower {w : Spaced} (hw : isWhere w.word = true)
    {more : List Spaced} (h : FollowerAhead more) : SecondWhereAhead (w :: more) := by
  cases more with
  | nil => exact h.elim
  | cons f more => exact ⟨hw, h⟩

/-- What leaves a `WHERE` dangling does so after rule 2, at this `WHERE` or, where rule 2
has passed the second one, at that. -/
theorem LeavesDangling.after_dropAnds {rest : List Spaced} (h : LeavesDangling rest)
    {state : AfterWhere} (hstate : state = .no ∨ state = .directly) :
    DanglesAfterRule3 (dropAnds state rest) ∨
      WhereBefore DanglesAfterRule3 (dropAnds state rest) := by
  -- where `AND`s come first and nothing drops them, they dangle
  have hno : ∀ {ands s more}, ands ≠ [] → AllAnd ands →
      DanglesAfterRule3 (dropAnds .no (ands ++ s :: more)) := fun hne hands =>
    Or.inr (Or.inl (andAhead_dropAnds_no hne hands))
  have hstays : ∀ {w : Spaced} {more : List Spaced}, isWhere w.word = true →
      isAnd w.word = true → more = [] := by
    intro w more hw hand
    rw [not_isAnd_of_isWhere hw] at hand
    cases hand
  cases h with
  | atEnd => exact Or.inl (Or.inl (by rcases hstate with rfl | rfl <;> exact trivial))
  | @blanksAtEnd ands s hands hs =>
    by_cases hne : ands = []
    · subst hne
      rw [List.nil_append, dropAnds_cons_of_stays hstate fun _ => rfl]
      exact Or.inl (Or.inl (by simpa [dropAnds, EndsHere] using hs))
    · rcases hstate with rfl | rfl
      · exact Or.inl (hno hne hands)
      · rw [dropAnds_directly_ands hne hands fun _ => rfl]
        exact Or.inl (Or.inl (by simpa [dropAnds, EndsHere] using hs))
  | @secondGoes w f ands more hw hands hf =>
    rw [dropAnds_cons_of_stays hstate (hstays hw), afterWord, if_pos hw]
    exact Or.inl (Or.inr (Or.inr (.of_follower hw (followerAhead_dropAnds_directly hands hf more))))
  | @andsBeforeSecond ands more w f hands hw hf =>
    by_cases hne : ands = []
    · subst hne
      rw [List.nil_append, dropAnds_cons_of_stays hstate (hstays hw), afterWord, if_pos hw]
      exact Or.inl (Or.inr (Or.inr
        (.of_follower hw (followerAhead_dropAnds_directly allAnd_nil hf more))))
    · rcases hstate with rfl | rfl
      · exact Or.inl (hno hne hands)
      · rw [dropAnds_directly_ands hne hands (hstays hw)]
        exact Or.inl (Or.inr (Or.inr ⟨hw, hf⟩))
  | @secondPassed ands more w a hne hands hw ha hmore =>
    rcases hstate with rfl | rfl
    · exact Or.inl (hno hne hands)
    · rw [dropAnds_directly_ands hne hands (hstays hw)]
      -- the second `WHERE` dangles: the `AND` behind it is not dropped
      obtain ⟨t, more, rfl⟩ := List.exists_cons_of_ne_nil hmore
      have hahead : AndAhead (dropAnds .no ([a] ++ t :: more)) :=
        andAhead_dropAnds_no (List.cons_ne_nil a []) (allAnd_cons ha allAnd_nil)
      exact Or.inr (whereBefore_cons.mpr (Or.inl ⟨hw, Or.inr (Or.inl hahead)⟩))

/-! ## From the words behind rule 2 to those before it -/

/-- A second `WHERE` whose `AND`s go and bring it before a follower will go itself. -/
theorem leavesDangling_of_followerAhead {w : Spaced} (hw : isWhere w.word = true)
    {rest : List Spaced} (h : FollowerAhead (dropAnds .directly rest)) :
    LeavesDangling (w :: rest) := by
  cases rest with
  | nil => exact h.elim
  | cons x xs =>
    obtain ⟨ands, s, rest, gap, state, hxs, hands, -, -, hdrop⟩ :=
      dropAnds_directly_cases (List.cons_ne_nil x xs)
    rw [hdrop] at h
    rw [hxs]
    exact .secondGoes hw hands h

/-- Behind a `WHERE` whose `AND`s go. -/
theorem leavesDangling_of_directly {rest : List Spaced}
    (h : DanglesAfterRule3 (dropAnds .directly rest)) : LeavesDangling rest := by
  cases rest with
  | nil => exact .atEnd
  | cons x xs =>
    obtain ⟨ands, s, rest, gap, state, hxs, hands, hs, hstate, hdrop⟩ :=
      dropAnds_directly_cases (List.cons_ne_nil x xs)
    rw [hdrop] at h
    rw [hxs]
    cases rest with
    | nil =>
      have hblank : s.word = [] := by simpa [DanglesAfterRule3, dropAnds, EndsHere, AndAhead,
        SecondWhereAhead] using h
      exact .blanksAtEnd hands hblank
    | cons t rest =>
      have hnot : isAnd s.word = false := by simpa using hs
      obtain ⟨u, us, hu⟩ := List.exists_cons_of_ne_nil
        (show dropAnds state (t :: rest) ≠ [] by simp)
      -- the first word that stays is no `AND`, so only a second `WHERE` can dangle
      have hsecond : isWhere s.word = true ∧ FollowerAhead (dropAnds state (t :: rest)) := by
        simpa [hu, DanglesAfterRule3, EndsHere, AndAhead, SecondWhereAhead, FollowerAhead,
          hnot] using h
      obtain ⟨hw, hf⟩ := hsecond
      by_cases hne : ands = []
      · subst hne
        rw [hstate, if_pos rfl, afterWord, if_pos hw] at hf
        exact leavesDangling_of_followerAhead hw hf
      · rw [hstate, if_neg hne] at hf
        exact .andsBeforeSecond hands hw hf

/-- Behind a `WHERE` that rule 2 has passed together with `AND`s before it. -/
theorem leavesDangling_of_passed {w : Spaced} (hw : isWhere w.word = true) {ands : List Spaced}
    (hne : ands ≠ []) (hands : AllAnd ands) {rest : List Spaced}
    (h : DanglesAfterRule3 (dropAnds .no rest)) :
    LeavesDangling (ands ++ w :: rest) ∨ LeavesDangling rest := by
  cases rest with
  | nil => exact Or.inr .atEnd
  | cons s rest =>
    cases rest with
    | nil =>
      have hblank : s.word = [] := by simpa [DanglesAfterRule3, dropAnds, EndsHere, AndAhead,
        SecondWhereAhead] using h
      exact Or.inr (.blanksAtEnd allAnd_nil hblank)
    | cons t rest =>
      have hdrop : dropAnds .no (s :: t :: rest) = s :: dropAnds (afterWord s) (t :: rest) := rfl
      obtain ⟨u, us, hu⟩ := List.exists_cons_of_ne_nil
        (show dropAnds (afterWord s) (t :: rest) ≠ [] by simp)
      have hcases : isAnd s.word = true ∨
          isWhere s.word = true ∧ FollowerAhead (dropAnds (afterWord s) (t :: rest)) := by
        simpa [hdrop, hu, DanglesAfterRule3, EndsHere, AndAhead, SecondWhereAhead,
          FollowerAhead] using h
      -- the rule has passed `s`, so an `AND` there stays
      rcases hcases with hand | ⟨hsecond, hf⟩
      · exact Or.inl (.secondPassed hne hands hw hand (List.cons_ne_nil t rest))
      · rw [afterWord, if_pos hsecond] at hf
        exact Or.inr (leavesDangling_of_followerAhead hsecond hf)

/-- What the words before the current place are, as far as rule 2 remembers them. -/
def Remembered : AfterWhere → List Spaced → Prop
  | .no, _ => True
  | .directly, before => ∃ front w, before = front ++ [w] ∧ isWhere w.word = true
  | .dropped, before => ∃ front w ands, before = front ++ w :: ands ∧ isWhere w.word = true ∧
      ands ≠ [] ∧ AllAnd ands

/-- What the rule remembers of a word that it lets stand is true of the words gone over. -/
theorem remembered_afterWord (before : List Spaced) (s : Spaced) :
    Remembered (afterWord s) (before ++ [s]) := by
  unfold afterWord
  split
  next hw => exact ⟨before, s, rfl, hw⟩
  next => trivial

/-- A `WHERE` that dangles once rules 2 and 3 are through was already before words of
`LeavesDangling`: the run of rule 2 with the words it has gone over, of which `Remembered` tells
what it remembers. -/
theorem whereBefore_of_dropAnds {state : AfterWhere} {xs : List Spaced} {before : List Spaced}
    (hbefore : Remembered state before)
    (h : WhereBefore DanglesAfterRule3 (dropAnds state xs)) :
    WhereBefore LeavesDangling (before ++ xs) := by
  -- along rule 2: the words it has gone over move to the end of `before`
  have hhere : ∀ {before more : List Spaced} {s : Spaced}, isWhere s.word = true →
      LeavesDangling more → WhereBefore LeavesDangling (before ++ s :: more) := fun hw hl =>
    ⟨_, _, List.suffix_append _ _, hw, hl⟩
  have hmove : ∀ {before more : List Spaced} {s : Spaced},
      before ++ [s] ++ more = before ++ s :: more := by simp
  fun_induction dropAnds state xs generalizing before with
  | case1 => exact absurd h not_whereBefore_nil
  | case2 s more ih =>
    rcases whereBefore_cons.mp h with ⟨hw, hd⟩ | h
    · rw [if_pos hw] at hd
      exact hhere hw (leavesDangling_of_directly hd)
    · exact hmove ▸ ih (remembered_afterWord before s) h
  | case3 s more hs ih =>
    obtain ⟨front, w, rfl, hw⟩ := hbefore
    have hand : isAnd s.word = true := (Bool.and_eq_true _ _ |>.mp hs).1
    refine hmove ▸ ih ⟨front, w, [s], by simp, hw, List.cons_ne_nil s [], ?_⟩ h
    exact allAnd_cons hand allAnd_nil
  | case4 s more _ ih =>
    rcases whereBefore_cons.mp h with ⟨hw, hd⟩ | h
    · rw [if_pos hw] at hd
      exact hhere hw (leavesDangling_of_directly hd)
    · exact hmove ▸ ih (remembered_afterWord before s) h
  | case5 s more hs ih =>
    obtain ⟨front, w, ands, rfl, hw, hne, hands⟩ := hbefore
    have hand : isAnd s.word = true := (Bool.and_eq_true _ _ |>.mp hs).1
    refine hmove ▸ ih ⟨front, w, ands ++ [s], by simp, hw, by simp, ?_⟩ h
    intro x hx
    rcases List.mem_append.mp hx with hx | hx
    · exact hands x hx
    · exact (List.mem_singleton.mp hx) ▸ hand
  | case6 s more _ ih =>
    rcases whereBefore_cons.mp h with ⟨hsecond, hd⟩ | h
    · obtain ⟨front, w, ands, rfl, hw, hne, hands⟩ := hbefore
      rcases leavesDangling_of_passed (w := s) hsecond hne hands hd with hl | hl
      · have hassoc : front ++ w :: ands ++ s :: more = front ++ w :: (ands ++ s :: more) := by
          simp
        exact hassoc ▸ hhere hw hl
      · exact hhere hsecond hl
    · have hnext : Remembered .no (before ++ [s]) := trivial
      exact hmove ▸ ih hnext h

/-- Rule 2 makes the words that rule 3 leaves dangling from those of `LeavesDangling`, and no
others. -/
theorem whereBefore_dropAnds_iff {xs : List Spaced} :
    WhereBefore DanglesAfterRule3 (dropAnds .no xs) ↔ WhereBefore LeavesDangling xs := by
  constructor
  · intro h
    have hstart : Remembered .no [] := trivial
    exact whereBefore_of_dropAnds hstart h
  · rintro ⟨w, rest, hsuf, hw, hl⟩
    obtain ⟨gap, state, hstate, hout⟩ := staysBefore_dropAnds hw hsuf .no
    rcases hl.after_dropAnds hstate with hd | ⟨v, more, hmore, hv, hd⟩
    · exact ⟨_, _, hout, hw, hd⟩
    · exact ⟨v, more, (hmore.trans (List.suffix_cons _ _)).trans hout, hv, hd⟩

/-! ## Repairing twice -/

/-- Rules 2 and 3 looked at from the back, with a last `WHERE` gone. -/
theorem settled_repairSpaced_iff {xs : List Spaced} :
    Settled (repairSpaced true xs) ↔ ¬ WhereBefore LeavesDangling (dropLastWhere xs) := by
  show Settled (dropWhereBeforeFollower (dropAnds .no (dropLastWhere xs))) ↔ _
  rw [settled_dropWhereBeforeFollower, whereBefore_dropAnds_iff]

/-- The words of a statement behind its first. -/
def words (sql : String) : List Spaced := (split sql.toList).spaced

theorem words_repairStatement (sql : String) :
    words (repairStatement sql) = repairSpaced true (words sql) := by
  have hsplit := split_repair true sql.toList
  unfold words repairStatement
  rw [String.toList_ofList, hsplit]

/-- Repair leaves a statement as it is exactly where no `WHERE` dangles. -/
theorem repairStatement_eq_self_iff {sql : String} :
    repairStatement sql = sql ↔ Settled (words sql) := by
  rw [words, ← repair_eq_self_iff]
  constructor
  · intro h
    have hchars := congrArg String.toList h
    rwa [repairStatement, String.toList_ofList] at hchars
  · intro h
    rw [repairStatement, h, String.ofList_toList]

/-- **When repairing twice is repairing once.** A second repair changes nothing exactly
where no `WHERE` dangles in the repaired statement. That depends on the words of the
statement, once a last `WHERE` has gone: no `WHERE` may have words behind it that
leave one dangling. -/
theorem repair_twice_iff (sql : String) :
    (repairStatement (repairStatement sql) = repairStatement sql ↔
      Settled (words (repairStatement sql))) ∧
    (repairStatement (repairStatement sql) = repairStatement sql ↔
      ¬ WhereBefore LeavesDangling (dropLastWhere (words sql))) := by
  refine ⟨repairStatement_eq_self_iff, ?_⟩
  rw [repairStatement_eq_self_iff, words_repairStatement, settled_repairSpaced_iff]

/-- The `AND` goes and leaves a last `WHERE`, when the rule for that has already run. -/
theorem repair_twice_where_and_blank :
    repairStatement "SELECT * FROM t WHERE AND " = "SELECT * FROM t WHERE " ∧
    repairStatement "SELECT * FROM t WHERE " = "SELECT * FROM t" ∧
    ¬ ∀ sql, repairStatement (repairStatement sql) = repairStatement sql := by
  have honce : repairStatement "SELECT * FROM t WHERE AND " = "SELECT * FROM t WHERE " := by decide
  have htwice : repairStatement "SELECT * FROM t WHERE " = "SELECT * FROM t" := by decide
  refine ⟨honce, htwice, fun h => ?_⟩
  have hsame := h "SELECT * FROM t WHERE AND "
  rw [honce, htwice] at hsame
  exact absurd hsame (by decide)

end SqlTemplate.Clause
