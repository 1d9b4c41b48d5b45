import SqlTemplate.Proofs.Clause.Rules

/-!
# No rule reaches across a foreign character

Repairing a text that holds an unbroken stretch beginning with a character that
ends words (a parameter marker, or a name with its colon) is repairing the two
sides of the stretch on their own, where only the second side can be the end of
the statement: `repair_append`.

In words: the last word before the seam is glued to the stretch. The glued word
is no keyword of rules 1 and 2, and whether it opens a follower was decided
before the seam, so every rule treats it as it treats the last word of the first
side, and starts afresh behind it.
-/

namespace SqlTemplate.Clause

open SqlTemplate.Text SqlTemplate.Text.Words

theorem extendLast_cons {tail : List Char} (s : Spaced) {more : List Spaced} (h : more ≠ []) :
    extendLast tail (s :: more) = s :: extendLast tail more := by
  cases more with
  | nil => exact absurd rfl h
  | cons t more => rfl

section

variable {c : Char} (hc : isWordChar c = false) (tail : List Char) {xs : List Spaced}

include hc

/-- Rule 1 does its work behind the seam: the word at the seam is no `WHERE`, and it is not empty.
-/
theorem dropLastWhere_extendLast (h : xs ≠ []) (ys : List Spaced) :
    dropLastWhere (extendLast (c :: tail) xs ++ ys) =
      extendLast (c :: tail) xs ++ dropLastWhere ys := by
  induction xs with
  | nil => exact absurd rfl h
  | cons s more ih =>
    cases more with
    | nil => exact dropLastWhere_cons_of_not_where (isWhere_append_cons hc s.word tail) ys
    | cons t more =>
      have ht : t :: more ≠ [] := List.cons_ne_nil t more
      rw [extendLast_cons s ht, List.cons_append, List.cons_append, ← ih ht]
      -- what follows `s` is not an empty last word: the foreign character is in it
      cases more with
      | nil => exact dropLastWhere_cons_cons s (Or.inl (by simp))
      | cons u more =>
        rw [extendLast_cons t (List.cons_ne_nil u more), List.cons_append]
        exact dropLastWhere_cons_cons s (Or.inr (by simp))

/-- Rule 2 works on the two sides apart. It comes out of the first side remembering nothing, since
the word at the seam is neither of its keywords. -/
theorem dropAnds_extendLast (state : AfterWhere) (h : xs ≠ []) (ys : List Spaced) :
    dropAnds state (extendLast (c :: tail) xs ++ ys) =
      extendLast (c :: tail) (dropAnds state xs) ++ dropAnds .no ys := by
  induction xs generalizing state with
  | nil => exact absurd rfl h
  | cons s more ih =>
    cases more with
    | nil =>
      have hw := isWhere_append_cons hc s.word tail
      have ha := isAnd_append_cons hc s.word tail
      cases state <;> simp [extendLast, dropAnds, hw, ha]
    | cons t more =>
      -- `s` is not the last word, so the rule treats it alike with and without the seam
      have ht : t :: more ≠ [] := List.cons_ne_nil t more
      have hne : extendLast (c :: tail) (t :: more) ++ ys ≠ [] := by simp
      rw [extendLast_cons s ht, List.cons_append]
      cases state with
      | no =>
        rw [dropAnds, dropAnds, ih _ ht, extendLast_cons s (by simp), List.cons_append]
      | directly =>
        rw [dropAnds, dropAnds]
        cases hand : isAnd s.word with
        | true => simpa [hne, ht] using ih .dropped ht
        | false =>
          simp only [Bool.false_and, Bool.false_eq_true, if_false]
          rw [ih _ ht, extendLast_cons s (by simp), List.cons_append]
      | dropped =>
        rw [dropAnds, dropAnds]
        cases hand : isAnd s.word with
        | true => simpa [hne, ht] using ih .dropped ht
        | false =>
          simp only [Bool.false_and, Bool.false_eq_true, if_false]
          rw [ih _ ht, extendLast_cons _ (by simp), List.cons_append]

/-- Rule 3 works on the two sides apart. A `WHERE` just before the seam has its follower before it.
-/
theorem dropWhereBeforeFollower_extendLast (h : xs ≠ []) (ys : List Spaced) :
    dropWhereBeforeFollower (extendLast (c :: tail) xs ++ ys) =
      extendLast (c :: tail) (dropWhereBeforeFollower xs) ++ dropWhereBeforeFollower ys := by
  have hend : endsWord (c :: tail) = true := by simp [endsWord, hc]
  fun_induction dropWhereBeforeFollower xs with
  | case1 => exact absurd rfl h
  | case2 s =>
    exact dropWhereBeforeFollower_cons_of_not_where (isWhere_append_cons hc s.word tail) ys
  | case3 s next more hrule ih =>
    cases more with
    | nil =>
      -- the follower is the word at the seam: whether it opens one was decided before the seam
      have hnext := opensFollower_append next.word hend
      simp_all [extendLast, dropWhereBeforeFollower]
    | cons u more =>
      have hu : u :: more ≠ [] := List.cons_ne_nil u more
      rw [extendLast_cons s (List.cons_ne_nil next _), extendLast_cons next hu,
        List.cons_append, List.cons_append, dropWhereBeforeFollower, if_pos hrule, ih hu,
        extendLast_cons _ (by simp), List.cons_append]
  | case4 s next more hrule ih =>
    have hnext : next :: more ≠ [] := List.cons_ne_nil next more
    rw [extendLast_cons s hnext, List.cons_append, extendLast_cons s (by simp),
      List.cons_append, ← ih hnext]
    cases more with
    | nil =>
      have hsame := opensFollower_append next.word hend
      simp_all [extendLast, dropWhereBeforeFollower]
    | cons u more =>
      rw [extendLast_cons next (List.cons_ne_nil u more), List.cons_append,
        dropWhereBeforeFollower, if_neg hrule]

end

/-! ## The rules together -/

/-- The three rules one after another, each on the two sides apart; only the second side can end the
statement. -/
theorem repairSpaced_extendLast {c : Char} (hc : isWordChar c = false) (tail : List Char)
    {xs : List Spaced} (h : xs ≠ []) (atEnd : Bool) (ys : List Spaced) :
    repairSpaced atEnd (extendLast (c :: tail) xs ++ ys) =
      extendLast (c :: tail) (repairSpaced false xs) ++ repairSpaced atEnd ys := by
  have hands : dropAnds .no xs ≠ [] := by simpa using h
  unfold repairSpaced
  cases atEnd with
  | false =>
    simp only [Bool.false_eq_true, if_false]
    rw [dropAnds_extendLast hc tail _ h, dropWhereBeforeFollower_extendLast hc tail hands]
  | true =>
    simp only [Bool.false_eq_true, if_false, if_true]
    rw [dropLastWhere_extendLast hc tail h, dropAnds_extendLast hc tail _ h,
      dropWhereBeforeFollower_extendLast hc tail hands]

/-- Repair on the two sides of a stretch that no rule reaches across. -/
theorem repair_append {c : Char} {m : List Char} (hc : isWordChar c = false)
    (hm : Unbroken (c :: m)) (atEnd : Bool) (s t : List Char) :
    repair atEnd (s ++ (c :: m ++ t)) = repair false s ++ (c :: m ++ repair atEnd t) := by
  have hstart : StartsPlain (c :: m ++ t) := startsPlain_cons (hm c (List.mem_cons_self ..))
  rw [repair_eq, repair_eq, repair_eq, split_append (Or.inr hstart), split_unbroken_append hm]
  cases hs : (split s).spaced with
  | nil => simp [glue, hs, repairSpaced, dropAnds, dropWhereBeforeFollower]
  | cons x xs =>
    have hne : x :: xs ≠ [] := List.cons_ne_nil x xs
    have hrep : repairSpaced false (x :: xs) ≠ [] := by simp [repairSpaced]
    simp only [glue, hs]
    rw [List.cons_append, repairSpaced_extendLast hc _ hne, spacedText_extendLast_append _ hrep]
    simp

end SqlTemplate.Clause
