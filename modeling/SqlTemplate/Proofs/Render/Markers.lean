import SqlTemplate.Proofs.Fragment.Repaired
import SqlTemplate.Proofs.Render.TwoRuns

/-!
# Markers stay in step with parameters

A fragment is stretches of text with its parameters between them
(`exists_interleaved`), and writing it out puts a numbered marker in the place of
each parameter (`symbolsText_interleaved`). So the marker with a number stands
where the parameter of that number was bound, whatever the pieces went through
before.

The spelling of markers enters a run only where an included statement is written
out to become text. With nested parameters inlined that never happens, and both
styles write the same fragment:

> `style_only_spells_markers`: the same error or the same parameters under both
> styles, and, when nested parameters are inlined, the same texts between markers.
-/

namespace SqlTemplate

namespace Fragment

/-! ## Texts and parameters in turn -/

/-- Texts with parameters between them. -/
def interleaved : List (List Char) → List Value → List (Char ⊕ Value)
  | [], _ => []
  | r :: _, [] => r.map .inl
  | r :: rest, v :: vs => r.map .inl ++ .inr v :: interleaved rest vs

/-- Texts with numbered marks between them. -/
def woven (mark : Nat → List Char) : (number : Nat) → List (List Char) → List Char
  | _, [] => []
  | _, [r] => r
  | number, r :: s :: rest => r ++ mark number ++ woven mark (number + 1) (s :: rest)

/-- Any symbols are texts with their parameters between them, one text more than
there are parameters. -/
theorem exists_interleaved (xs : List (Char ⊕ Value)) :
    ∃ raws, raws.length = (xs.filterMap Sum.getRight?).length + 1 ∧
      xs = interleaved raws (xs.filterMap Sum.getRight?) := by
  induction xs with
  | nil => exact ⟨[[]], rfl, rfl⟩
  | cons x xs ih =>
    obtain ⟨raws, hlen, hxs⟩ := ih
    cases x with
    | inl c =>
      cases raws with
      | nil => simp at hlen
      | cons r rest =>
        refine ⟨(c :: r) :: rest, hlen, ?_⟩
        rw [List.filterMap_cons_none rfl]
        generalize xs.filterMap Sum.getRight? = vs at hxs
        rw [hxs]
        cases vs <;> rfl
    | inr v =>
      have hparam : Sum.getRight? (Sum.inr v : Char ⊕ Value) = some v := rfl
      refine ⟨[] :: raws, ?_, ?_⟩
      · rw [List.filterMap_cons_some hparam, List.length_cons, List.length_cons, hlen]
      · rw [List.filterMap_cons_some hparam]
        exact congrArg (Sum.inr v :: ·) hxs

/-- Writing out puts a numbered marker for every parameter. -/
theorem symbolsText_interleaved (style : MarkerStyle) (number : Nat) {raws : List (List Char)}
    {vs : List Value} (h : raws.length = vs.length + 1) :
    symbolsText style number (interleaved raws vs) = woven (marker style) number raws := by
  induction vs generalizing raws number with
  | nil =>
    obtain ⟨r, rfl⟩ := List.length_eq_one_iff.mp h
    simpa [interleaved, woven, symbolsText] using symbolsText_chars style number r []
  | cons v vs ih =>
    -- there is one stretch more than there are parameters, so at least two here
    cases raws with
    | nil => cases h
    | cons r raws =>
      have hrest : raws.length = vs.length + 1 := Nat.succ.inj h
      cases raws with
      | nil => cases hrest
      | cons s rest =>
        rw [interleaved, symbolsText_chars, symbolsText, ih (number + 1) hrest, woven,
          List.append_assoc]

/-- The question mark has no number; the dollar is followed by it in decimal. -/
theorem marker_question : marker .question = fun _ => ['?'] := rfl

theorem marker_dollar : marker .dollar = fun n => '$' :: (toString n).toList := by
  funext n
  rw [marker, ← Nat.toList_repr]
  rfl

/-! ## Fragments of runs that differ in style -/

/-- The same parameters, and the same fragment altogether where nested parameters
are inlined. -/
structure StyleBlind (policy : NestedParams) (f g : Fragment) : Prop where
  params : f.params = g.params
  eq : policy = .inline → f = g

/-- The operations on fragments know nothing of styles. -/
theorem respected_styleBlind (policy : NestedParams) : Respected (StyleBlind policy) where
  text _ := ⟨rfl, fun _ => rfl⟩
  append hf hg := by
    refine ⟨?_, fun hp => ?_⟩
    · rw [params_append, params_append, hf.params, hg.params]
    · rw [hf.eq hp, hg.eq hp]
  repaired h := by
    refine ⟨?_, fun hp => ?_⟩
    · rw [params_repaired, params_repaired, h.params]
    · rw [h.eq hp]

end Fragment

namespace Engine

open Fragment (StyleBlind woven)

/-- The engine with another spelling of parameter markers. -/
def withMarkers (e : Engine) (style : MarkerStyle) : Engine :=
  { e with settings := { e.settings with markers := style } }

/-- How the statements written with question marks and with numbered dollars stand
to each other: the texts between the markers are the same, and there is one
marker for each parameter. -/
structure SameButMarkers (policy : NestedParams) (question dollar : Statement) : Prop where
  params : question.params = dollar.params
  texts : policy = .inline → ∃ raws : List (List Char),
    raws.length = question.params.length + 1 ∧
    question.sql.toList = woven (fun _ => ['?']) 1 raws ∧
    dollar.sql.toList = woven (fun n => '$' :: (toString n).toList) 1 raws

/-- Only discarding nested parameters writes a marker on the way. -/
theorem comparable_question_dollar (e : Engine) :
    Comparable Eq (StyleBlind e.settings.nestedParams) (e.withMarkers .question)
      (e.withMarkers .dollar) where
  registry := rfl
  depth := rfl
  nest := by
    intro f f' h
    unfold nest withMarkers
    dsimp only
    revert h
    generalize e.settings.nestedParams = policy
    cases policy with
    | inline => exact id
    | discard => exact fun _ => ⟨by rw [Fragment.params_ofText, Fragment.params_ofText], nofun⟩
  registered _ := looksAlike_eq (fun _ => ⟨rfl, fun _ => rfl⟩) _

/-- What is written from such fragments differs in its markers. -/
theorem sameButMarkers_of_written {e : Engine} {s s' : Statement}
    (h : Written (StyleBlind e.settings.nestedParams) (e.withMarkers .question)
      (e.withMarkers .dollar) s s') : SameButMarkers e.settings.nestedParams s s' := by
  obtain ⟨f, f', hff, rfl, rfl⟩ := h
  refine ⟨hff.params, fun hp => ?_⟩
  obtain ⟨raws, hlen, hraws⟩ := Fragment.exists_interleaved f.symbols
  rw [← Fragment.params_eq_symbols] at hlen hraws
  have htext : ∀ style, f.text style = woven (Fragment.marker style) 1 raws := by
    intro style
    rw [Fragment.text_eq_symbolsText, hraws]
    exact Fragment.symbolsText_interleaved style 1 hlen
  refine ⟨raws, hlen, ?_, ?_⟩
  · rw [← Fragment.marker_question, ← htext .question]
    exact String.toList_ofList
  · rw [← hff.eq hp, ← Fragment.marker_dollar, ← htext .dollar]
    exact String.toList_ofList

/-- **The style of markers is a matter of spelling.** For any templates, settings and
data, the runs under both styles fail with the same error or succeed with the same
parameters. With nested parameters inlined, the statements are the same texts with
`?` or with `$1`, `$2`, … between them, one marker for each parameter. -/
theorem style_only_spells_markers (e : Engine) (context : Value) :
    (∀ template, Agree (SameButMarkers e.settings.nestedParams)
      ((e.withMarkers .question).renderTemplate template context)
      ((e.withMarkers .dollar).renderTemplate template context)) ∧
    ∀ qualified, Agree (SameButMarkers e.settings.nestedParams)
      ((e.withMarkers .question).render qualified context)
      ((e.withMarkers .dollar).render qualified context) := by
  have hR := Fragment.respected_styleBlind e.settings.nestedParams
  have hcomparable := comparable_question_dollar e
  constructor
  · intro template
    have hlike : LooksAlike Eq (StyleBlind e.settings.nestedParams) template :=
      looksAlike_eq (fun _ => ⟨rfl, fun _ => rfl⟩) template
    exact (renderTemplate_agree hR hcomparable rfl hlike).imp fun _ _ => sameButMarkers_of_written
  · intro qualified
    exact (render_agree hR hcomparable rfl qualified).imp fun _ _ => sameButMarkers_of_written

end Engine

end SqlTemplate
