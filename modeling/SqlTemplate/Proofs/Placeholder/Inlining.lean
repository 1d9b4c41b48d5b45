import SqlTemplate.Proofs.Placeholder.OneScan
import Mathlib.Data.List.Forall2

/-!
# Inlined values and bound names

Values are inlined first, and the text that comes out is searched for names to bind. The names
bound in the end need not be the ones bound in the text as it was written (`ownNames`), even if no
value holds a colon: in `:a::b` the value of `b` carries on the name `a`, and in `:::b` it becomes
a name behind the bare colon.

Names hold no colon. So the names of a text can be read off colon by colon (`boundNames_colon`),
and a value without a colon adds none of its own (`boundNames_append`). What it can do is carry on
the name, or the bare colon, that ends directly before it:

> `inlining_keeps_names_iff`: the names bound are those of the text as it was written exactly if no
> value is inlined directly behind a name or a bare colon that begins with a character of a name.
-/

namespace SqlTemplate

namespace Placeholder

open SqlTemplate.Text

/-! ## Names behind colons -/

/-- The names that are bound in a text, from left to right. -/
def boundNames (s : List Char) : List (List Char) := (cut boundAt s).filterMap Sum.getRight?

/-- The parameters of a bound text are the values of its names. -/
theorem params_bindParams (context : Value) (s : List Char) :
    (bindParams context s).params =
      (boundNames s).map fun name => context.lookupOrNull (String.ofList name) := by
  rw [Fragment.params_eq_symbols, symbols_bindParams, boundNames, List.filterMap_map,
    List.map_filterMap]
  refine List.filterMap_congr fun part _ => ?_
  cases part <;> rfl

theorem boundNames_nil : boundNames [] = [] := by
  rw [boundNames, cut_nil, List.filterMap_nil]

/-- Text without a colon binds nothing, whatever follows. -/
theorem boundNames_append {v : List Char} (hv : ':' ∉ v) (t : List Char) :
    boundNames (v ++ t) = boundNames t := by
  have hlast : v.getLast? ≠ some ':' := fun h => hv (List.mem_of_getLast? h)
  rw [boundNames, cut_boundAt_append (bindsNothing_of_not_mem hv) (Or.inr hlast),
    List.filterMap_append, List.filterMap_map]
  simp [boundNames, Function.comp_def]

theorem boundNames_cons {c : Char} (hc : c ≠ ':') (t : List Char) :
    boundNames (c :: t) = boundNames t :=
  boundNames_append (v := [c]) (by simpa using Ne.symm hc) t

theorem colon_not_mem_name {name : List Char} (h : ∀ c ∈ name, isNameChar c = true) :
    ':' ∉ name := by
  intro hmem
  have hname := h ':' hmem
  revert hname
  decide

/-- A text begins with no name exactly if it begins outside of one. -/
theorem nameOf_eq_nil_iff {s : List Char} : nameOf s = [] ↔ StartsOutsideName s := by
  cases s with
  | nil => simp [nameOf, StartsOutsideName]
  | cons c s => simp [nameOf, StartsOutsideName, List.takeWhile_cons]

/-- A colon binds the name behind it, if there is one. -/
theorem boundNames_colon (s : List Char) :
    boundNames (':' :: s) =
      if nameOf s = [] then boundNames s else nameOf s :: boundNames s := by
  split
  next hempty =>
    have hnone : boundAt (':' :: s) = none := by simp [boundAt, hempty]
    rw [boundNames, cut_of_none hnone]
    rfl
  next hne =>
    obtain ⟨rest, hrest, hname⟩ := exists_longestName hne
    have hcolons := colon_not_mem_name hname.chars
    generalize nameOf s = name at hrest hname hcolons
    rw [hrest, boundNames_append hcolons, boundNames, ← List.cons_append,
      cut_boundAt_name hname.ne_nil hname.chars hname.ends]
    rfl

/-! ## Texts as they are written -/

/-- What a written text asks for: a value to be inlined, or a name to be bound. -/
inductive Mark where
  | inlined (name : List Char)
  | bound (name : List Char)
deriving DecidableEq

/-- `::name` or `:name` at the head of a text. -/
inductive MarkOccurs : List Char → Mark → List Char → Prop where
  | inlined {s name rest : List Char} :
      LiteralOccurs s name rest → MarkOccurs s (.inlined name) rest
  | bound {name rest : List Char} :
      LongestName name rest → MarkOccurs (':' :: (name ++ rest)) (.bound name) rest

/-- `::name` or `:name`. -/
def markAt : Pattern Mark := fun s =>
  match literalAt s with
  | some (name, length) => some (.inlined name, length)
  | none => (boundAt s).map fun found => (.bound found.1, found.2)

/-- A name behind a colon is not inlined. -/
theorem LongestName.literalAt_eq_none {name rest : List Char} (h : LongestName name rest) :
    literalAt (':' :: (name ++ rest)) = none := by
  obtain ⟨c, name, rfl⟩ := List.exists_cons_of_ne_nil h.ne_nil
  have hcolon : c ≠ ':' := fun hc => colon_not_mem_name h.chars (hc ▸ List.mem_cons_self ..)
  rw [literalAt_cons, List.cons_append]
  unfold boundAt
  split
  next heq => exact absurd (List.cons.inj heq).1 hcolon
  next => rfl

/-- Cutting a text at its marks finds what occurs in it. -/
theorem finds_markAt : Finds markAt MarkOccurs where
  found := by
    intro s mark rest hoccurs
    cases hoccurs with
    | inlined hliteral =>
      obtain ⟨w, hne, htext, hfound⟩ := finds_literalAt.found hliteral
      exact ⟨w, hne, htext, by simp [markAt, hfound]⟩
    | @bound name _ hname =>
      refine ⟨':' :: name, by simp, rfl, ?_⟩
      simp [markAt, hname.literalAt_eq_none, hname.boundAt_eq]
  occurs := by
    intro s mark length h
    unfold markAt at h
    split at h
    next name length' hliteral =>
      cases h
      obtain ⟨rest, hoccurs⟩ := finds_literalAt.occurs hliteral
      exact ⟨rest, .inlined hoccurs⟩
    next =>
      obtain ⟨⟨name, _⟩, hbound, heq⟩ := Option.map_eq_some_iff.mp h
      obtain ⟨rfl, -⟩ := Prod.mk.inj heq
      obtain ⟨rest, rfl, hname⟩ := exists_of_boundAt hbound
      exact ⟨rest, .bound hname⟩

/-- The values to be inlined and the characters between them. -/
def literalParts : Char ⊕ Mark → List (Char ⊕ List Char)
  | .inl c => [.inl c]
  | .inr (.inlined name) => [.inr name]
  | .inr (.bound name) => (':' :: name).map .inl

/-- Characters at which no value is inlined, in front of a text. -/
theorem cutAt_chars_append {w t : List Char} {parts : List (Char ⊕ List Char)} (hw : ':' ∉ w)
    (h : CutAt LiteralOccurs t parts) : CutAt LiteralOccurs (w ++ t) (w.map .inl ++ parts) := by
  induction w with
  | nil => exact h
  | cons c w ih =>
    refine .char (fun name rest hoccurs => ?_) (ih fun hmem => hw (List.mem_cons_of_mem _ hmem))
    have hc : c = ':' := by
      generalize htext : c :: (w ++ t) = text at hoccurs
      cases hoccurs
      exact (List.cons.inj htext).1
    exact hw (hc ▸ List.mem_cons_self ..)

/-- Cut at its marks, a text is cut at the values to be inlined. -/
theorem cutAt_literalParts {s : List Char} {parts : List (Char ⊕ Mark)}
    (h : CutAt MarkOccurs s parts) : CutAt LiteralOccurs s (parts.flatMap literalParts) := by
  induction h with
  | nil => exact .nil
  | @found s t mark parts hoccurs _ ih =>
    cases hoccurs with
    | inlined hliteral => exact .found hliteral ih
    | @bound name _ hname =>
      refine .char (fun other rest hoccurs => ?_)
        (cutAt_chars_append (colon_not_mem_name hname.chars) ih)
      obtain ⟨w, -, -, hfound⟩ := finds_literalAt.found hoccurs
      rw [hname.literalAt_eq_none] at hfound
      cases hfound
  | char hnever _ ih => exact .char (fun name rest hoccurs => hnever _ _ (.inlined hoccurs)) ih

/-- What a part of a written text becomes when values are inlined. -/
def spelled (context : Value) : Char ⊕ Mark → List Char
  | .inl c => [c]
  | .inr (.inlined name) => (context.lookupOrNull (String.ofList name)).display.toList
  | .inr (.bound name) => ':' :: name

/-- Inlining replaces the values to be inlined, and keeps all else. -/
theorem inlineLiterals_eq_spelled (context : Value) {s : List Char} {parts : List (Char ⊕ Mark)}
    (h : CutAt MarkOccurs s parts) :
    inlineLiterals context s = parts.flatMap (spelled context) := by
  have hcut := finds_literalAt.cutAt_iff.mp (cutAt_literalParts h)
  rw [inlineLiterals, ← hcut, List.flatMap_assoc]
  refine List.flatMap_congr fun part _ => ?_
  rcases part with c | ⟨name⟩ | ⟨name⟩
  · rfl
  · exact List.append_nil _
  · rw [literalParts, List.flatMap_map]
    exact List.flatMap_singleton' _

/-! ## The names bound in the end -/

/-- The names to be bound in a text as it is written, from left to right. -/
def ownNames (parts : List (Char ⊕ Mark)) : List (List Char) :=
  parts.filterMap fun
    | .inr (.bound name) => some name
    | _ => none

/-- Whether a name may begin or go on directly behind a part: a bare colon, or a bound name. -/
def Opens : Char ⊕ Mark → Prop
  | .inl c => c = ':'
  | .inr (.inlined _) => False
  | .inr (.bound _) => True

/-- The values that are inlined before anything else of the text follows. -/
def valuesAhead (context : Value) : List (Char ⊕ Mark) → List Char
  | .inr (.inlined name) :: rest =>
    spelled context (.inr (.inlined name)) ++ valuesAhead context rest
  | _ => []

/-- Whether no value that is inlined directly behind a name or a bare colon begins with a
character of a name; empty values in between do not count. -/
def NoValueTouches (context : Value) (parts : List (Char ⊕ Mark)) : Prop :=
  ∀ opening rest, opening :: rest <:+ parts → Opens opening →
    StartsOutsideName (valuesAhead context rest)

theorem noValueTouches_nil (context : Value) : NoValueTouches context [] :=
  fun _ _ hsuf => by simp at hsuf

/-- The condition is one on every part with what is inlined behind it. -/
theorem noValueTouches_cons {context : Value} {part : Char ⊕ Mark} {parts : List (Char ⊕ Mark)} :
    NoValueTouches context (part :: parts) ↔
      (Opens part → StartsOutsideName (valuesAhead context parts)) ∧
        NoValueTouches context parts := by
  constructor
  · intro h
    refine ⟨h part parts List.suffix_rfl, fun opening rest hsuf => ?_⟩
    exact h opening rest (hsuf.trans (List.suffix_cons part parts))
  · rintro ⟨hhead, htail⟩ opening rest hsuf hopens
    rcases List.suffix_cons_iff.mp hsuf with heq | hsuf
    · cases heq
      exact hhead hopens
    · exact htail opening rest hsuf hopens

section

variable {context : Value} {s : List Char} {parts : List (Char ⊕ Mark)}

/-- Where no name goes on in a text, it is for the values to carry one on. -/
theorem startsOutsideName_spelled_iff (context : Value) (h : CutAt MarkOccurs s parts)
    (hs : StartsOutsideName s) :
    StartsOutsideName (parts.flatMap (spelled context)) ↔
      StartsOutsideName (valuesAhead context parts) := by
  have hnil : StartsOutsideName [] := fun c hc => by cases hc
  induction h with
  | nil => exact Iff.rfl
  | @char c s parts _ _ _ =>
    have hc : isNameChar c = false := hs c rfl
    exact iff_of_true (startsOutsideName_cons hc _) hnil
  | @found s t mark parts hoccurs _ ih =>
    cases hoccurs with
    | bound _ => exact iff_of_true (startsOutsideName_cons (by decide) _) hnil
    | @inlined _ name _ hliteral =>
      have ht : StartsOutsideName t := by
        cases hliteral with
        | intro hname => exact hname.ends
      rw [List.flatMap_cons, valuesAhead]
      -- an empty value leaves it to the next one
      cases spelled context (.inr (.inlined name)) with
      | nil => exact ih ht
      | cons c v => simp [StartsOutsideName]

/-- What a name, or nothing, behind a colon becomes in front of a text. -/
theorem boundNames_opening {name : List Char} (hname : ∀ c ∈ name, isNameChar c = true)
    (u : List Char) :
    boundNames (':' :: (name ++ u)) =
      if name ++ nameOf u = [] then boundNames u else (name ++ nameOf u) :: boundNames u := by
  have hlonger : nameOf (name ++ u) = name ++ nameOf u := List.takeWhile_append_of_pos hname
  rw [boundNames_colon, hlonger, boundNames_append (colon_not_mem_name hname)]

/-- **Inlining removes no name.** Each name of the text as it was written is bound, in order,
under a name that begins with it. -/
theorem ownNames_kept (h : CutAt MarkOccurs s parts)
    (hvalues : ∀ name, .inr (.inlined name) ∈ parts →
      ':' ∉ spelled context (.inr (.inlined name))) :
    List.SublistForall₂ (· <+: ·) (ownNames parts)
      (boundNames (parts.flatMap (spelled context))) := by
  induction h with
  | nil => exact .nil
  | @char c s parts _ _ ih =>
    have hrest := ih fun name hname => hvalues name (List.mem_cons_of_mem _ hname)
    rw [List.flatMap_cons, spelled, List.singleton_append]
    -- a bare colon may become that of a name more, which is passed over
    by_cases hc : c = ':'
    · rw [hc, boundNames_colon]
      split
      · exact hrest
      · exact .cons_right hrest
    · rw [boundNames_cons hc]
      exact hrest
  | @found s t mark parts hoccurs _ ih =>
    have hrest := ih fun name hname => hvalues name (List.mem_cons_of_mem _ hname)
    rw [List.flatMap_cons]
    cases hoccurs with
    | @inlined _ name _ hliteral =>
      rw [boundNames_append (hvalues name (List.mem_cons_self ..))]
      exact hrest
    | @bound name _ hname =>
      rw [spelled, List.cons_append, boundNames_opening hname.chars,
        if_neg (by simp [hname.ne_nil])]
      exact .cons (List.prefix_append ..) hrest

theorem length_ownNames_le (h : CutAt MarkOccurs s parts)
    (hvalues : ∀ name, .inr (.inlined name) ∈ parts →
      ':' ∉ spelled context (.inr (.inlined name))) :
    (ownNames parts).length ≤ (boundNames (parts.flatMap (spelled context))).length := by
  obtain ⟨kept, hkept, hsublist⟩ := List.sublistForall₂_iff.mp (ownNames_kept h hvalues)
  exact hkept.length_eq ▸ hsublist.length_le

/-- The names bound in the end are those of the text as it was written exactly if no value goes
on behind a name or a bare colon. -/
theorem boundNames_eq_ownNames_iff (h : CutAt MarkOccurs s parts)
    (hvalues : ∀ name, .inr (.inlined name) ∈ parts →
      ':' ∉ spelled context (.inr (.inlined name))) :
    boundNames (parts.flatMap (spelled context)) = ownNames parts ↔
      NoValueTouches context parts := by
  induction h with
  | nil => exact iff_of_true boundNames_nil (noValueTouches_nil context)
  | @char c s parts hnever hcut ih =>
    have htail : ∀ name, .inr (.inlined name) ∈ parts →
        ':' ∉ spelled context (.inr (.inlined name)) :=
      fun name hname => hvalues name (List.mem_cons_of_mem _ hname)
    have hrest := ih htail
    have hown : ownNames (.inl c :: parts) = ownNames parts := rfl
    rw [noValueTouches_cons, hown, List.flatMap_cons, spelled,
      List.singleton_append]
    by_cases hc : c = ':'
    · subst hc
      -- the colon is bare, so the text goes on with no name
      have hbare : StartsOutsideName s := by
        refine nameOf_eq_nil_iff.mp (by_contra fun hne => ?_)
        obtain ⟨rest, hrest, hname⟩ := exists_longestName hne
        exact hnever _ _ (by rw [hrest]; exact .bound hname)
      have hahead := startsOutsideName_spelled_iff context hcut hbare
      rw [← hahead, ← nameOf_eq_nil_iff, boundNames_colon]
      split
      next hempty => simpa [Opens, hempty] using hrest
      next hne =>
        refine iff_of_false (fun heq => ?_) (fun hquiet => hne (hquiet.1 rfl))
        have hlonger := congrArg List.length heq
        have hle := length_ownNames_le hcut htail
        rw [List.length_cons] at hlonger
        omega
    · rw [boundNames_cons hc, hrest]
      exact (and_iff_right fun hopens => absurd hopens hc).symm
  | @found s t mark parts hoccurs hcut ih =>
    have hrest := ih fun name hname => hvalues name (List.mem_cons_of_mem _ hname)
    rw [noValueTouches_cons, List.flatMap_cons]
    cases hoccurs with
    | @inlined _ name _ hliteral =>
      have hown : ownNames (.inr (.inlined name) :: parts) = ownNames parts := rfl
      rw [boundNames_append (hvalues name (List.mem_cons_self ..)), hown, hrest]
      exact (and_iff_right fun hopens => hopens.elim).symm
    | @bound name _ hname =>
      have hown : ownNames (.inr (.bound name) :: parts) = name :: ownNames parts := rfl
      have hahead := startsOutsideName_spelled_iff context hcut hname.ends
      rw [spelled, List.cons_append, boundNames_opening hname.chars,
        if_neg (by simp [hname.ne_nil]), hown, List.cons.injEq, hrest, ← hahead,
        ← nameOf_eq_nil_iff, List.append_right_eq_self]
      exact and_congr_left fun _ => (imp_iff_right trivial).symm

end

/-- The names whose values are inlined in a text, from left to right. -/
def inlinedNames (s : List Char) : List (List Char) :=
  (cut literalAt s).filterMap Sum.getRight?

/-- **Inlining keeps the bound names where no value touches them.** A text is cut at its marks in
one way, and where the values to be inlined hold no colon, inlining removes none of its own names.
They are the names that are bound in the end exactly if no value that begins with a character of a
name is inlined directly behind a name or a bare colon, and then the parameters are just what they
denote. -/
theorem inlining_keeps_names_iff (context : Value) (s : List Char)
    (hvalues : ∀ name ∈ inlinedNames s,
      ':' ∉ (context.lookupOrNull (String.ofList name)).display.toList) :
    ∃ parts, (∀ parts', CutAt MarkOccurs s parts' ↔ parts' = parts) ∧
      cut literalAt s = parts.flatMap literalParts ∧
      List.SublistForall₂ (· <+: ·) (ownNames parts) (boundNames (inlineLiterals context s)) ∧
      (boundNames (inlineLiterals context s) = ownNames parts ↔ NoValueTouches context parts) ∧
      (NoValueTouches context parts →
        (bindParams context (inlineLiterals context s)).params =
          (ownNames parts).map fun name => context.lookupOrNull (String.ofList name)) := by
  have hcut : CutAt MarkOccurs s (cut markAt s) := finds_markAt.cutAt_cut s
  have hliteral : cut literalAt s = (cut markAt s).flatMap literalParts :=
    (finds_literalAt.cutAt_iff.mp (cutAt_literalParts hcut)).symm
  have hspelled : ∀ name, .inr (.inlined name) ∈ cut markAt s →
      ':' ∉ spelled context (.inr (.inlined name)) := by
    intro name hmem
    refine hvalues name (List.mem_filterMap.mpr ⟨.inr name, ?_, rfl⟩)
    rw [hliteral]
    exact List.mem_flatMap.mpr ⟨_, hmem, List.mem_singleton_self _⟩
  have hnames := boundNames_eq_ownNames_iff hcut hspelled
  have hkept := ownNames_kept hcut hspelled
  rw [← inlineLiterals_eq_spelled context hcut] at hnames hkept
  refine ⟨cut markAt s, fun _ => finds_markAt.cutAt_iff, hliteral, hkept, hnames, fun hquiet => ?_⟩
  rw [params_bindParams, hnames.mpr hquiet]

/-- The value behind `:a` begins with a bracket, and so does the first value behind the bare colon
that is not empty. -/
theorem inlining_keeps_names_brackets :
    let context : Value := .object [("a", .bool true), ("b", .object [("c", .bool false)]),
      ("e", .string ""), ("f", .string "(z)"), ("v", .array [.string "x", .string "y"])]
    let s := "::v = :a::f OR :::e::f:b.c".toList
    (∀ name ∈ inlinedNames s,
      ':' ∉ (context.lookupOrNull (String.ofList name)).display.toList) ∧
    ∃ parts, CutAt MarkOccurs s parts ∧ NoValueTouches context parts ∧
      ownNames parts = ["a".toList, "b.c".toList] ∧
      inlineLiterals context s = "x,y = :a(z) OR :(z):b.c".toList ∧
      (bindParams context (inlineLiterals context s)).params = [.bool true, .bool false] := by
  intro context s
  have hvalues : ∀ name ∈ inlinedNames s,
      ':' ∉ (context.lookupOrNull (String.ofList name)).display.toList := by decide +kernel
  obtain ⟨parts, hcut, -, -, hnames, hparams⟩ := inlining_keeps_names_iff context s hvalues
  have hparts : cut markAt s = parts := (hcut _).mp (finds_markAt.cutAt_cut s)
  have hown : ownNames parts = ["a".toList, "b.c".toList] := by
    rw [← hparts]
    decide +kernel
  have hquiet : NoValueTouches context parts := by
    refine hnames.mp ?_
    rw [hown]
    decide +kernel
  refine ⟨hvalues, parts, (hcut parts).mpr rfl, hquiet, hown, by decide +kernel, ?_⟩
  rw [hparams hquiet, hown]
  rfl

/-- The value of `b` carries on the name before it, so that `a` is not bound. -/
theorem inlined_value_carries_on_name :
    let context : Value := .object [("a", .string "x"), ("b", .string "c")]
    let s := ":a::b".toList
    let parts : List (Char ⊕ Mark) := [.inr (.bound "a".toList), .inr (.inlined "b".toList)]
    (∀ name ∈ inlinedNames s,
      ':' ∉ (context.lookupOrNull (String.ofList name)).display.toList) ∧
    CutAt MarkOccurs s parts ∧
    (ownNames parts).map (fun name => context.lookupOrNull (String.ofList name)) =
      [.string "x"] ∧
    (bindParams context (inlineLiterals context s)).params = [.null] := by
  intro context s parts
  have hparts : parts = cut markAt s := by decide +kernel
  have hbound : boundNames (inlineLiterals context s) = ["ac".toList] := by decide +kernel
  refine ⟨by decide +kernel, finds_markAt.cutAt_iff.mpr hparts, rfl, ?_⟩
  rw [params_bindParams, hbound]
  rfl

end Placeholder

end SqlTemplate
