import SqlTemplate.Proofs.Clause.Rules

/-!
# A WHERE before its filters

A statement with optional filters is written as a text, a `WHERE`, and the filters
that take part, each behind an `AND`. If the rest of it mentions no `WHERE`, repair
does one of three things to it:

> `repair_where_end`: without filters and without anything behind, the `WHERE` goes.
> `repair_where_follower`: so it does before a clause that can follow.
> `repair_where_and`: before the first filter, the `AND` goes.

Nothing else changes, however many filters there are.
-/

namespace SqlTemplate.Clause

open SqlTemplate.Text SqlTemplate.Text.Words

/-- `WHERE` as it is written before the filters. -/
def whereWord : List Char := ['W', 'H', 'E', 'R', 'E']

/-- `AND` as it is written before a filter. -/
def andWord : List Char := ['A', 'N', 'D']

/-! ## Beginning with a keyword -/

/-- Whether a text begins with a keyword, in some mix of cases, that ends there. -/
def BeginsWith (keyword : List Char) (ends : List Char → Bool) (s : List Char) : Prop :=
  ∃ word rest, s = word ++ rest ∧ isKeyword keyword word = true ∧ ends rest = true

/-- Whether the end or a blank stands at the head. -/
def atGap (rest : List Char) : Bool := rest.head?.all isBlank

/-- A keyword at the head is looked for in as many characters as it has, which makes it decidable.
-/
theorem beginsWith_iff {keyword : List Char} {ends : List Char → Bool} {s : List Char} :
    BeginsWith keyword ends s ↔
      isKeyword keyword (s.take keyword.length) = true ∧ ends (s.drop keyword.length) = true := by
  constructor
  · rintro ⟨word, rest, rfl, hword, hrest⟩
    rw [← length_of_isKeyword hword, List.take_left, List.drop_left]
    exact ⟨hword, hrest⟩
  · rintro ⟨hword, hrest⟩
    exact ⟨_, _, (List.take_append_drop keyword.length s).symm, hword, hrest⟩

instance (keyword : List Char) (ends : List Char → Bool) (s : List Char) :
    Decidable (BeginsWith keyword ends s) := decidable_of_iff' _ beginsWith_iff

/-- Opening a follower is beginning with one of the four keywords. -/
theorem opensFollower_iff {s : List Char} :
    opensFollower s = true ↔ ∃ keyword ∈ followers, BeginsWith keyword endsWord s := by
  unfold opensFollower
  rw [Bool.and_eq_true, List.contains_iff_mem]
  constructor
  · rintro ⟨hmem, hrest⟩
    have hlen := length_follower _ hmem
    refine ⟨_, hmem, beginsWith_iff.mpr ?_⟩
    rw [hlen]
    exact ⟨by simp [isKeyword], hrest⟩
  · rintro ⟨keyword, hmem, hbegins⟩
    obtain ⟨hword, hrest⟩ := beginsWith_iff.mp hbegins
    rw [length_follower keyword hmem] at hword hrest
    have heq : (s.take 5).map Char.toLower = keyword := by simpa [isKeyword] using hword
    exact ⟨heq ▸ hmem, hrest⟩

/-- The first word of a text and what stands behind it. -/
theorem first_split_append (s : List Char) :
    (split s).first ++ s.dropWhile (!isBlank ·) = s := by
  rw [first_split, List.takeWhile_append_dropWhile]

/-- Behind the first word stands a gap. -/
theorem atGap_dropWhile (s : List Char) : atGap (s.dropWhile (!isBlank ·)) = true := by
  have hfirst := List.head?_dropWhile_not (!isBlank ·) s
  unfold atGap
  cases hhead : (s.dropWhile (!isBlank ·)).head? with
  | none => rfl
  | some c =>
    rw [hhead] at hfirst
    simpa using hfirst

/-- Where a gap stands, a word ends. -/
theorem endsWord_of_atGap {rest : List Char} (h : atGap rest = true) : endsWord rest = true := by
  cases rest with
  | nil => rfl
  | cons c rest =>
    have hc : isWordChar c = false := not_wordChar_of_blank (by simpa [atGap] using h)
    simp [endsWord, hc]

/-- The first word is `AND` where the text begins with `AND` before a gap. -/
theorem beginsWith_and_of_first {s : List Char} (h : isAnd (split s).first = true) :
    BeginsWith ['a', 'n', 'd'] atGap s :=
  ⟨_, _, (first_split_append s).symm, h, atGap_dropWhile s⟩

/-- Whether a follower opens is up to the first word. -/
theorem opensFollower_first (s : List Char) : opensFollower (split s).first = opensFollower s := by
  have hends := endsWord_of_atGap (atGap_dropWhile s)
  conv_rhs => rw [← first_split_append s]
  exact (opensFollower_append (split s).first hends).symm

/-! ## Texts without a WHERE -/

/-- Whether `WHERE` stands nowhere in a text, not even inside a word. -/
def NoWhere (s : List Char) : Prop := ∀ w, w <:+: s → isWhere w = false

/-- It is enough to look at five characters at a time. -/
theorem noWhere_iff {s : List Char} : NoWhere s ↔ ∀ t ∈ s.tails, isWhere (t.take 5) = false := by
  constructor
  · intro h t ht
    exact h _ ((List.take_prefix 5 t).isInfix.trans ((List.mem_tails t s).mp ht).isInfix)
  · intro h w hw
    -- an occurrence is the head of a suffix
    obtain ⟨t, hpre, hsuf⟩ := List.infix_iff_prefix_suffix.mp hw
    by_contra hwhere
    have hword : isWhere w = true := by simpa using hwhere
    have hlen : w.length = 5 := length_of_isKeyword hword
    have hfive := h t ((List.mem_tails t s).mpr hsuf)
    rw [← hlen, ← List.prefix_iff_eq_take.mp hpre] at hfive
    exact hwhere hfive

instance (s : List Char) : Decidable (NoWhere s) := decidable_of_iff' _ noWhere_iff

/-- A space keeps two texts without `WHERE` apart. -/
theorem NoWhere.space {s t : List Char} (hs : NoWhere s) (ht : NoWhere t) :
    NoWhere (s ++ ' ' :: t) := by
  intro w hw
  -- an occurrence across the space would have the space in it
  by_cases hmem : ' ' ∈ w
  · obtain ⟨l, r, rfl⟩ := List.append_of_mem hmem
    exact isWhere_append_cons (by decide) l r
  · rcases infix_append_cons hw hmem with hl | hr
    · exact hs w hl
    · exact ht w hr

/-- In a text without `WHERE` no word is one. -/
theorem NoWhere.words {s : List Char} (hs : NoWhere s) :
    ∀ x ∈ (split s).spaced, isWhere x.word = false :=
  fun _ hx => hs _ (infix_of_mem_split hx)

theorem NoWhere.first {s : List Char} (hs : NoWhere s) : isWhere (split s).first = false := by
  have hpre : (split s).first <+: s := first_split s ▸ List.takeWhile_prefix _
  exact hs _ hpre.isInfix

/-! ## The three repairs, on words -/

/-- Where the end is in order, rules 2 and 3 remain. -/
theorem repairSpaced_of_end {xs : List Spaced} (h : dropLastWhere xs = xs) (atEnd : Bool) :
    repairSpaced atEnd xs = dropWhereBeforeFollower (dropAnds .no xs) := by
  unfold repairSpaced
  rw [h, ite_self]

section

variable {xs ys : List Spaced} (hxs : ∀ x ∈ xs, isWhere x.word = false)
  (hys : ∀ y ∈ ys, isWhere y.word = false) {s t : Spaced} (hs : isWhere s.word = true)

include hxs

/-- Without a `WHERE`, rule 1 changes nothing. -/
theorem dropLastWhere_eq_self : dropLastWhere xs = xs := by
  have h := dropLastWhere_append hxs []
  rwa [List.append_nil, dropLastWhere, List.append_nil] at h

/-- Without a `WHERE`, rule 2 changes nothing, whatever `AND`s there are. -/
theorem dropAnds_eq_self : dropAnds .no xs = xs := by
  have h := dropAnds_append hxs []
  rwa [List.append_nil, dropAnds, List.append_nil] at h

/-- Without a `WHERE`, rule 3 changes nothing, whatever followers there are. -/
theorem dropWhereBeforeFollower_eq_self : dropWhereBeforeFollower xs = xs := by
  have h := dropWhereBeforeFollower_append hxs []
  rwa [List.append_nil, dropWhereBeforeFollower, List.append_nil] at h

include hs

/-- The only `WHERE` is the last word: rule 1 takes it, and the others find nothing. -/
theorem repairSpaced_where_end : repairSpaced true (xs ++ [s]) = xs := by
  have hlast : dropLastWhere (xs ++ [s]) = xs := by
    rw [dropLastWhere_append hxs, dropLastWhere, if_pos hs, List.append_nil]
  unfold repairSpaced
  rw [if_pos rfl, hlast, dropAnds_eq_self hxs, dropWhereBeforeFollower_eq_self hxs]

include hys

/-- The only `WHERE` is before a follower: rules 1 and 2 leave it, since a follower is no end and no
`AND`, and rule 3 takes it. -/
theorem repairSpaced_where_follower (ht : opensFollower t.word = true)
    (htw : isWhere t.word = false) (atEnd : Bool) :
    repairSpaced atEnd (xs ++ s :: t :: ys) = xs ++ ⟨[' '], t.word⟩ :: ys := by
  have hne : t.word ≠ [] := by
    intro hnil
    rw [hnil] at ht
    cases ht
  have hlast : dropLastWhere (xs ++ s :: t :: ys) = xs ++ s :: t :: ys := by
    rw [dropLastWhere_append hxs, dropLastWhere_cons_cons s (Or.inl hne),
      dropLastWhere_cons_of_not_where htw, dropLastWhere_eq_self hys]
  have hands : dropAnds .no (xs ++ s :: t :: ys) = xs ++ s :: t :: ys := by
    rw [dropAnds_append hxs, dropAnds, if_pos hs, dropAnds, not_isAnd_of_opensFollower ht, htw]
    simp [dropAnds_eq_self hys]
  rw [repairSpaced_of_end hlast, hands, dropWhereBeforeFollower_append hxs, dropWhereBeforeFollower,
    if_pos (by rw [hs, ht]; rfl), dropWhereBeforeFollower_eq_self hys]

/-- Behind the only `WHERE` is one `AND` and a word that is neither `AND` nor a follower: rule 2
takes the `AND`, and rule 3 finds its `WHERE` before no follower. -/
theorem repairSpaced_where_and {a : Spaced} (ha : isAnd a.word = true)
    (hta : isAnd t.word = false) (htw : isWhere t.word = false)
    (htf : opensFollower t.word = false) (atEnd : Bool) :
    repairSpaced atEnd (xs ++ s :: a :: t :: ys) = xs ++ s :: ⟨[' '], t.word⟩ :: ys := by
  have haw : isWhere a.word = false := by
    by_contra hw
    rw [not_isAnd_of_isWhere (by simpa using hw)] at ha
    cases ha
  have hlast : dropLastWhere (xs ++ s :: a :: t :: ys) = xs ++ s :: a :: t :: ys := by
    rw [dropLastWhere_append hxs, dropLastWhere_cons_cons s (Or.inr (List.cons_ne_nil t ys)),
      dropLastWhere_cons_of_not_where haw, dropLastWhere_cons_of_not_where htw,
      dropLastWhere_eq_self hys]
  have hands : dropAnds .no (xs ++ s :: a :: t :: ys) = xs ++ s :: ⟨[' '], t.word⟩ :: ys := by
    rw [dropAnds_append hxs, dropAnds, if_pos hs, dropAnds, if_pos (by rw [ha]; rfl), dropAnds,
      if_neg (by simp [hta]), dropAnds_eq_self hys]
  rw [repairSpaced_of_end hlast, hands, dropWhereBeforeFollower_append hxs, dropWhereBeforeFollower,
    if_neg (by simp [htf]), dropWhereBeforeFollower_cons_of_not_where (s := ⟨[' '], t.word⟩) htw,
    dropWhereBeforeFollower_eq_self hys]

end

/-! ## The three repairs, on texts -/

theorem unbroken_whereWord : Unbroken whereWord := unbroken_of_all (by decide)

theorem unbroken_andWord : Unbroken andWord := unbroken_of_all (by decide)

theorem isWhere_whereWord : isWhere whereWord = true := by decide

theorem isAnd_andWord : isAnd andWord = true := by decide

theorem startsPlain_whereWord_append (t : List Char) : StartsPlain (whereWord ++ t) :=
  startsPlain_cons (by decide)

theorem startsPlain_andWord_append (t : List Char) : StartsPlain (andWord ++ t) :=
  startsPlain_cons (by decide)

section

variable {s : List Char} (hs : NoWhere s) (hend : EndsPlain s)

include hs hend

/-- A last `WHERE` goes. -/
theorem repair_where_end : repair true (s ++ ' ' :: whereWord) = s := by
  have hstart : StartsPlain whereWord := startsPlain_whereWord_append []
  have hwords : split (s ++ ' ' :: whereWord) =
      ⟨(split s).first, (split s).spaced ++ [⟨[' '], whereWord⟩]⟩ := by
    have hwhere : split whereWord = ⟨whereWord, []⟩ := by decide
    rw [split_space hend hstart, hwhere]
  rw [repair_eq, hwords, repairSpaced_where_end hs.words isWhere_whereWord]
  exact text_split s

variable {t : List Char} (ht : NoWhere t) (hstart : StartsPlain t)

include ht hstart

/-- A `WHERE` before a clause that can follow goes. -/
theorem repair_where_follower (hfollow : opensFollower t = true) (atEnd : Bool) :
    repair atEnd (s ++ ' ' :: (whereWord ++ ' ' :: t)) = s ++ ' ' :: t := by
  have hwords : split (s ++ ' ' :: (whereWord ++ ' ' :: t)) =
      ⟨(split s).first, (split s).spaced ++
        ⟨[' '], whereWord⟩ :: ⟨[' '], (split t).first⟩ :: (split t).spaced⟩ := by
    rw [split_space hend (startsPlain_whereWord_append _),
      split_word_space unbroken_whereWord hstart]
  have hfirst : opensFollower (split t).first = true := by rw [opensFollower_first, hfollow]
  rw [repair_eq, hwords,
    repairSpaced_where_follower hs.words ht.words isWhere_whereWord hfirst ht.first]
  conv_rhs => rw [← text_split s, ← text_split t]
  simp [text, spacedText]

/-- The `AND` between a `WHERE` and the first filter goes. -/
theorem repair_where_and (hand : isAnd (split t).first = false)
    (hfollow : opensFollower (split t).first = false) (atEnd : Bool) :
    repair atEnd (s ++ ' ' :: (whereWord ++ ' ' :: (andWord ++ ' ' :: t))) =
      s ++ ' ' :: (whereWord ++ ' ' :: t) := by
  have hwords : split (s ++ ' ' :: (whereWord ++ ' ' :: (andWord ++ ' ' :: t))) =
      ⟨(split s).first, (split s).spaced ++ ⟨[' '], whereWord⟩ ::
        ⟨[' '], andWord⟩ :: ⟨[' '], (split t).first⟩ :: (split t).spaced⟩ := by
    rw [split_space hend (startsPlain_whereWord_append _),
      split_word_space unbroken_whereWord (startsPlain_andWord_append _),
      split_word_space unbroken_andWord hstart]
  rw [repair_eq, hwords,
    repairSpaced_where_and hs.words ht.words isWhere_whereWord isAnd_andWord hand ht.first hfollow]
  conv_rhs => rw [← text_split s, ← text_split t]
  simp [text, spacedText]

end

end SqlTemplate.Clause
