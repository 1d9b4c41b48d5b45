import SqlTemplate.Placeholder
import SqlTemplate.Proofs.Fragment.Canonical
import SqlTemplate.Proofs.Text.Cut
import SqlTemplate.Proofs.Text.Words
import Mathlib.Data.List.TakeWhile

/-!
# Cutting texts at placeholders

Where no placeholder of a kind begins, cutting at that kind gives the characters
back, and resolving it changes nothing.

Every text is stretches that bind nothing and bound names in turn (`BoundText`).
What is proved about binding is proved by induction along these.

> `bindParams_append`: a text can be cut before any character that no name goes on
> with; binding the whole is binding the parts.
-/

namespace SqlTemplate.Placeholder

open SqlTemplate.Text

/-! ## Texts without a kind of placeholder -/

/-- Whether a text begins with an inlined value: two colons and a character of a name. -/
def beginsInlined : List Char → Bool
  | ':' :: ':' :: c :: _ => isNameChar c
  | _ => false

/-- Whether a text inlines a value anywhere. -/
def inlinesValue : List Char → Bool
  | [] => false
  | c :: rest => beginsInlined (c :: rest) || inlinesValue rest

theorem literalAt_eq_none {s : List Char} (h : beginsInlined s = false) : literalAt s = none := by
  unfold literalAt
  split
  next rest =>
    cases rest with
    | nil => rfl
    | cons c rest =>
      have hc : isNameChar c = false := by simpa [beginsInlined] using h
      simp [nameOf, hc]
  next => rfl

/-- A text that inlines nothing begins with no inlined value from any place on. -/
theorem beginsInlined_suffix {s t : List Char} (h : inlinesValue s = false) (ht : t <:+ s) :
    beginsInlined t = false := by
  induction s with
  | nil =>
    rw [List.suffix_nil.mp ht]
    rfl
  | cons c s ih =>
    rw [inlinesValue, Bool.or_eq_false_iff] at h
    rcases List.suffix_cons_iff.mp ht with rfl | ht
    · exact h.1
    · exact ih h.2 ht

/-- A text that inlines nothing is left as it is. -/
theorem inlineLiterals_of_not_inlinesValue (context : Value) {s : List Char}
    (h : inlinesValue s = false) : inlineLiterals context s = s := by
  have hcut : cut literalAt s = s.map .inl :=
    cut_of_never fun t ht => literalAt_eq_none (beginsInlined_suffix h ht)
  rw [inlineLiterals, hcut, List.flatMap_map]
  simp

/-- Without two colons in a row nothing is inlined. -/
theorem not_inlinesValue_of_colons {s : List Char} (h : ¬ [':', ':'] <:+: s) :
    inlinesValue s = false := by
  induction s with
  | nil => rfl
  | cons c s ih =>
    have hhead : beginsInlined (c :: s) = false := by
      unfold beginsInlined
      split
      next rest heq => exact absurd (heq ▸ List.infix_append' [] [':', ':'] _) h
      next => rfl
    rw [inlinesValue, hhead, ih fun hs => h (List.infix_cons_iff.mpr (Or.inr hs)),
      Bool.or_false]

/-- No reference is found where there are no two braces. -/
theorem referenceAt_eq_none {s : List Char} (h : ¬ ['\x7b', '\x7b'] <+: s) :
    referenceAt s = none := by
  unfold referenceAt
  split
  next rest => exact absurd (List.prefix_append ['\x7b', '\x7b'] rest) h
  next => rfl

/-- Where no reference begins, text stays as it is. -/
theorem expandReferences_of_never {m : Type → Type} [Monad m] [LawfulMonad m]
    (fetch : String → m Fragment) {s : List Char} (h : ∀ t, t <:+ s → referenceAt t = none) :
    expandReferences fetch s = pure (Fragment.ofText s) := by
  have hcut : cut referenceAt s = s.map .inl := cut_of_never h
  have hconcat : Fragment.concat (s.map fun c => Fragment.ofText [c]) = Fragment.ofText s :=
    (Fragment.canonical_concat _).eq_of_symbols (Fragment.canonical_ofText s) (by
      rw [Fragment.symbols_concat, Fragment.symbols_ofText, List.flatMap_map]
      simp [List.map_eq_flatMap])
  unfold expandReferences
  rw [hcut, List.mapM_map]
  simp [List.mapM_pure, Function.comp_def, hconcat]

/-! ## Bound parameters -/

/-- Whether no name goes on with this text. -/
def StartsOutsideName (s : List Char) : Prop := ∀ c ∈ s.head?, isNameChar c = false

/-- Whether no bound parameter stands in a text. -/
def BindsNothing (s : List Char) : Prop := ∀ c, isNameChar c = true → ¬ [':', c] <:+: s

theorem not_nameChar_of_blank {c : Char} (h : isBlank c = true) : isNameChar c = false :=
  forall_blank (p := fun c => isNameChar c = false) (by decide +kernel) h

theorem not_blank_of_nameChar {c : Char} (h : isNameChar c = true) : isBlank c = false :=
  not_blank_of not_nameChar_of_blank h

/-- A run of characters of one kind ends where a character of another kind follows. -/
theorem run_append {p : Char → Bool} {xs ys : List Char} (hxs : ∀ c ∈ xs, p c = true)
    (hys : ∀ c ∈ ys.head?, p c = false) :
    (xs ++ ys).takeWhile p = xs ∧ (xs ++ ys).dropWhile p = ys := by
  have hstop : ys.takeWhile p = [] ∧ ys.dropWhile p = ys := by
    cases ys with
    | nil => exact ⟨rfl, rfl⟩
    | cons y ys =>
      have hy : ¬ p y = true := by simp [hys y (by simp)]
      exact ⟨List.takeWhile_cons_of_neg hy, List.dropWhile_cons_of_neg hy⟩
  rw [List.takeWhile_append_of_pos hxs, List.dropWhile_append_of_pos hxs, hstop.1, hstop.2,
    List.append_nil]
  exact ⟨rfl, rfl⟩

/-- A name goes up to the first character that is none of its own. -/
theorem nameOf_append {n t : List Char} (hn : ∀ c ∈ n, isNameChar c = true)
    (ht : StartsOutsideName t) : nameOf (n ++ t) = n :=
  (run_append hn ht).1

/-- A name, and behind it a text with which it does not go on. -/
structure LongestName (name rest : List Char) : Prop where
  ne_nil : name ≠ []
  chars : ∀ c ∈ name, isNameChar c = true
  ends : StartsOutsideName rest

theorem LongestName.nameOf_eq {name rest : List Char} (h : LongestName name rest) :
    nameOf (name ++ rest) = name := nameOf_append h.chars h.ends

/-- The name at the head of a text is as long as possible. -/
theorem exists_longestName {s : List Char} (h : nameOf s ≠ []) :
    ∃ rest, s = nameOf s ++ rest ∧ LongestName (nameOf s) rest := by
  refine ⟨s.dropWhile isNameChar, List.takeWhile_append_dropWhile.symm, h,
    fun c hc => List.mem_takeWhile_imp hc, fun c hc => ?_⟩
  have hfirst := List.head?_dropWhile_not isNameChar s
  rw [Option.mem_def.mp hc] at hfirst
  simpa using hfirst

theorem boundAt_eq_none {s : List Char} (h : ∀ c, isNameChar c = true → ¬ [':', c] <+: s) :
    boundAt s = none := by
  unfold boundAt
  split
  next rest =>
    cases rest with
    | nil => rfl
    | cons c rest =>
      have hc : isNameChar c = false := by
        by_contra hname
        exact h c (by simpa using hname) (by simp)
      simp [nameOf, hc]
  next => rfl

/-- In a text that binds nothing, in front of a text with which no name begins, no name
begins anywhere. -/
theorem boundAt_eq_none_of_suffix {s u : List Char} (hs : BindsNothing s) (hu : u <:+ s)
    (hne : u ≠ []) {t : List Char} (ht : StartsOutsideName t ∨ s.getLast? ≠ some ':') :
    boundAt (u ++ t) = none := by
  refine boundAt_eq_none fun c hc hpre => ?_
  cases u with
  | nil => exact hne rfl
  | cons a u =>
    obtain ⟨ha, hrest⟩ := List.cons_prefix_cons.mp hpre
    subst ha
    cases u with
    | nil =>
      -- the colon is the last character of `s`, so the name would begin `t`
      have hlast : s.getLast? = some ':' := by
        obtain ⟨v, rfl⟩ := hu
        simp
      have hhead : t.head? = some c := by
        cases t with
        | nil => simp at hrest
        | cons d t => simpa using (List.cons_prefix_cons.mp hrest).1.symm
      rcases ht with ht | ht
      · rw [ht c (by simp [hhead])] at hc
        cases hc
      · exact ht hlast
    | cons d u =>
      have hd : c = d := (List.cons_prefix_cons.mp hrest).1
      have hin : [':', c] <:+: ':' :: d :: u := by
        rw [hd]
        exact List.infix_append' [] [':', d] u
      exact hs c hc (hin.trans hu.isInfix)

/-- A text that binds nothing, in front of a text with which no name begins, adds
its characters. -/
theorem cut_boundAt_append {s : List Char} (hs : BindsNothing s) {t : List Char}
    (ht : StartsOutsideName t ∨ s.getLast? ≠ some ':') :
    cut boundAt (s ++ t) = s.map .inl ++ cut boundAt t :=
  cut_append_of_never t fun _ hu hne => boundAt_eq_none_of_suffix hs hu hne ht

/-- A name behind its colon is found, up to where it ends. -/
theorem cut_boundAt_name {n t : List Char} (hne : n ≠ []) (hn : ∀ c ∈ n, isNameChar c = true)
    (ht : StartsOutsideName t) : cut boundAt (':' :: n ++ t) = .inr n :: cut boundAt t := by
  have hfound : boundAt (':' :: (n ++ t)) = some (n, n.length + 1) := by
    have hempty : n.isEmpty = false := by simpa using hne
    simp [boundAt, nameOf_append hn ht, hempty]
  rw [List.cons_append, cut_of_some hfound]
  simp

/-! ## Stretches and names in turn -/

/-- What begins outside of a name still does with more behind it. -/
theorem StartsOutsideName.append {s t : List Char} (hs : StartsOutsideName s)
    (ht : StartsOutsideName t) : StartsOutsideName (s ++ t) := by
  cases s with
  | nil => exact ht
  | cons c s => simpa [StartsOutsideName] using hs

theorem startsOutsideName_cons {c : Char} (h : isNameChar c = false) (s : List Char) :
    StartsOutsideName (c :: s) := by
  simpa [StartsOutsideName] using h

/-- A text as stretches that bind nothing and bound names in turn. -/
inductive BoundText : List Char → Prop where
  | nothing {s : List Char} : BindsNothing s → BoundText s
  | name {s n t : List Char} : BindsNothing s → n ≠ [] → (∀ c ∈ n, isNameChar c = true) →
      StartsOutsideName t → BoundText t → BoundText (s ++ (':' :: n ++ t))

/-- Without a colon nothing is bound. -/
theorem bindsNothing_of_not_mem {s : List Char} (h : ':' ∉ s) : BindsNothing s :=
  fun _ _ hin => h (hin.subset (List.mem_cons_self ..))

theorem bindsNothing_nil : BindsNothing [] := bindsNothing_of_not_mem List.not_mem_nil

/-- A character in front of a text binds nothing unless it is the colon of a name. -/
theorem BindsNothing.cons {s : List Char} (hs : BindsNothing s) {c : Char}
    (h : ∀ d, isNameChar d = true → ¬ [':', d] <+: c :: s) : BindsNothing (c :: s) := by
  intro d hd hin
  rcases List.infix_cons_iff.mp hin with hpre | hin
  · exact h d hd hpre
  · exact hs d hd hin

/-- A character in front goes to the first stretch, whether that is all of the text or ends at a
name. -/
theorem BoundText.cons {s : List Char} (hs : BoundText s) {c : Char}
    (h : ∀ d, isNameChar d = true → ¬ [':', d] <+: c :: s) : BoundText (c :: s) := by
  cases hs with
  | nothing hs => exact .nothing (hs.cons h)
  | @name s n t hs hne hn ht htext =>
    have hcs : BindsNothing (c :: s) :=
      hs.cons fun d hd hpre => h d hd (hpre.trans (List.prefix_append (c :: s) _))
    exact .name hcs hne hn ht htext

/-- Every text is of this form. -/
theorem boundText (s : List Char) : BoundText s := by
  induction hlen : s.length using Nat.strong_induction_on generalizing s with
  | _ length ih =>
    cases s with
    | nil => exact .nothing bindsNothing_nil
    | cons c s =>
      by_cases hcolon : ∃ d, isNameChar d = true ∧ [':', d] <+: c :: s
      · -- a name begins here, and the text behind it is shorter
        obtain ⟨d, hd, hpre⟩ := hcolon
        obtain ⟨rfl, hrest⟩ := List.cons_prefix_cons.mp hpre
        obtain ⟨t, rfl⟩ := hrest
        obtain ⟨rest, hsplit, hname⟩ := exists_longestName (s := [d] ++ t) (by simp [nameOf, hd])
        have hshorter : rest.length < length := by
          have hpos := List.length_pos_iff.mpr hname.ne_nil
          have htext := congrArg List.length hsplit
          rw [← hlen]
          simp only [List.length_append, List.length_cons, List.length_nil] at htext ⊢
          omega
        rw [hsplit]
        exact .name (s := []) bindsNothing_nil hname.ne_nil hname.chars hname.ends
          (ih _ hshorter _ rfl)
      · -- the first character extends the first stretch of what follows it
        have hs : BoundText s := ih s.length (by simp [← hlen]) s rfl
        exact hs.cons fun d hd hpre => hcolon ⟨d, hd, hpre⟩

/-! ## Binding -/

section

variable (context : Value)

/-- What one part of a cut text becomes. -/
def boundSymbol : Char ⊕ List Char → Char ⊕ Value
  | .inl c => .inl c
  | .inr name => .inr (context.lookupOrNull (String.ofList name))

/-- A bound text has the value of a name in the place of the name. -/
theorem symbols_bindParams (s : List Char) :
    (bindParams context s).symbols = (cut boundAt s).map (boundSymbol context) := by
  rw [bindParams, Fragment.symbols_ofPieces, List.flatMap_map, List.map_eq_flatMap]
  refine List.flatMap_congr fun part _ => ?_
  cases part <;> rfl

theorem canonical_bindParams (s : List Char) : (bindParams context s).Canonical :=
  Fragment.canonical_ofPieces _

theorem map_boundSymbol_chars (s : List Char) :
    (s.map .inl).map (boundSymbol context) = s.map .inl := by
  rw [List.map_map]
  rfl

/-- A text that binds nothing, in front of a text with which no name begins, stays
text. -/
theorem bindParams_nothing_append {s : List Char} (hs : BindsNothing s) {t : List Char}
    (ht : StartsOutsideName t ∨ s.getLast? ≠ some ':') :
    bindParams context (s ++ t) = Fragment.ofText s ++ bindParams context t := by
  refine (canonical_bindParams context _).eq_of_symbols
    (Fragment.Canonical.append _ (canonical_bindParams context t)) ?_
  rw [Fragment.symbols_append, Fragment.symbols_ofText, symbols_bindParams, symbols_bindParams,
    cut_boundAt_append hs ht, List.map_append, map_boundSymbol_chars]

/-- A text that binds nothing stays text. -/
theorem bindParams_of_nothing {s : List Char} (hs : BindsNothing s) :
    bindParams context s = Fragment.ofText s := by
  refine (canonical_bindParams context s).eq_of_symbols (Fragment.canonical_ofText s) ?_
  have hcut := cut_boundAt_append hs (t := []) (Or.inl (by simp [StartsOutsideName]))
  rw [List.append_nil, cut_nil, List.append_nil] at hcut
  rw [symbols_bindParams, hcut, map_boundSymbol_chars, Fragment.symbols_ofText]

/-- A bound name becomes a parameter. -/
theorem bindParams_name {s n t : List Char} (hs : BindsNothing s) (hne : n ≠ [])
    (hn : ∀ c ∈ n, isNameChar c = true) (ht : StartsOutsideName t) :
    bindParams context (s ++ (':' :: n ++ t)) = Fragment.ofText s ++
      (Fragment.ofParam (context.lookupOrNull (String.ofList n)) ++ bindParams context t) := by
  have hcolon : StartsOutsideName (':' :: n ++ t) := startsOutsideName_cons (by decide) _
  rw [bindParams_nothing_append context hs (Or.inl hcolon)]
  congr 1
  refine (canonical_bindParams context _).eq_of_symbols
    (Fragment.Canonical.append _ (canonical_bindParams context t)) ?_
  rw [symbols_bindParams, cut_boundAt_name hne hn ht, Fragment.symbols_append,
    symbols_bindParams]
  rfl

/-- Binding the whole is binding the parts. -/
theorem bindParams_append (s : List Char) {t : List Char} (ht : StartsOutsideName t) :
    bindParams context (s ++ t) = bindParams context s ++ bindParams context t := by
  induction boundText s with
  | nothing hs => rw [bindParams_nothing_append context hs (Or.inl ht), bindParams_of_nothing _ hs]
  | @name s n u hs hne hn hu _ ih =>
    -- the second text goes behind the last stretch, past every name of the first
    have hassoc : s ++ (':' :: n ++ u) ++ t = s ++ (':' :: n ++ (u ++ t)) := by simp
    rw [hassoc, bindParams_name context hs hne hn (hu.append ht), ih,
      bindParams_name context hs hne hn hu, Fragment.append_assoc, Fragment.append_assoc]

/-- The texts of a bound text stand in it. -/
theorem infix_of_text_mem_bindParams {s u : List Char}
    (h : .text u ∈ (bindParams context s).pieces) : u <:+: s := by
  induction boundText s with
  | @nothing s hs =>
    rw [bindParams_of_nothing context hs] at h
    cases s with
    | nil => cases h
    | cons a s =>
      cases List.mem_singleton.mp h
      exact List.infix_rfl
  | @name s n t hs hne hn ht _ ih =>
    rw [bindParams_name context hs hne hn ht, Fragment.pieces_ofText_append,
      Fragment.pieces_ofParam_append] at h
    -- the text is the stretch in front of the name, or one behind the name
    have hcases : u = s ∨ .text u ∈ (bindParams context t).pieces := by
      cases s with
      | nil => exact Or.inr (List.mem_of_ne_of_mem (by simp) h)
      | cons a s =>
        rcases List.mem_cons.mp h with hu | hrest
        · cases hu
          exact Or.inl rfl
        · exact Or.inr (List.mem_of_ne_of_mem (by simp) hrest)
    rcases hcases with rfl | hu
    · exact (List.prefix_append ..).isInfix
    · exact List.infix_append_of_infix_right (List.infix_append_of_infix_right (ih hu))

end

/-! ## Texts that only bind -/

/-- Whether bound names are the only placeholders of a text. -/
structure BindsOnly (s : List Char) : Prop where
  colons : ¬ [':', ':'] <:+: s
  braces : ¬ ['\x7b', '\x7b'] <:+: s

/-- Two texts that only bind, with a space between them, only bind. -/
theorem BindsOnly.space {s t : List Char} (hs : BindsOnly s) (ht : BindsOnly t) :
    BindsOnly (s ++ ' ' :: t) where
  colons h := (infix_append_cons h (by decide)).elim hs.colons ht.colons
  braces h := (infix_append_cons h (by decide)).elim hs.braces ht.braces

section

variable {m : Type → Type} [Monad m] [LawfulMonad m]

/-- Running through a list in which every step succeeds without effect. -/
theorem mapM_eq_pure {α β : Type} {f : α → m β} {g : α → β} {xs : List α}
    (h : ∀ x ∈ xs, f x = pure (g x)) : xs.mapM f = pure (xs.map g) := by
  induction xs with
  | nil => rfl
  | cons x xs ih =>
    rw [List.mapM_cons, h x (List.mem_cons_self ..),
      ih fun y hy => h y (List.mem_cons_of_mem _ hy)]
    simp

/-- Where nothing is inlined and no reference begins in the stretches between the bound names,
resolving a text is binding it. -/
theorem resolve_of_never (fetch : String → m Fragment) (context : Value) {s : List Char}
    (hinline : inlinesValue s = false)
    (hnever : ∀ u, .text u ∈ (bindParams context s).pieces → ∀ t, t <:+ u → referenceAt t = none) :
    resolve fetch context s = pure (bindParams context s) := by
  have hconcat : Fragment.concat
      ((bindParams context s).pieces.map fun p => Fragment.ofPieces [p]) = bindParams context s := by
    refine (Fragment.canonical_concat _).eq_of_symbols (canonical_bindParams context s) ?_
    rw [Fragment.symbols_concat, List.flatMap_map]
    refine List.flatMap_congr fun p _ => ?_
    rw [Fragment.symbols_ofPieces, List.flatMap_singleton]
  unfold resolve
  rw [inlineLiterals_of_not_inlinesValue context hinline,
    mapM_eq_pure (g := fun p => Fragment.ofPieces [p])]
  · rw [pure_bind, hconcat]
  · intro p hp
    cases p with
    | text u => exact expandReferences_of_never fetch (hnever u hp)
    | param v => rfl

/-- A text that inlines nothing and refers to nothing is bound, and that is all. -/
theorem resolve_of_bindsOnly (fetch : String → m Fragment) (context : Value) {s : List Char}
    (h : BindsOnly s) : resolve fetch context s = pure (bindParams context s) := by
  refine resolve_of_never fetch context (not_inlinesValue_of_colons h.colons) fun u hu t ht => ?_
  have hts : t <:+: s := ht.isInfix.trans (infix_of_text_mem_bindParams context hu)
  exact referenceAt_eq_none fun hpre => h.braces (hpre.isInfix.trans hts)

end

end SqlTemplate.Placeholder
