import SqlTemplate.Proofs.Fragment.Repaired
import SqlTemplate.Proofs.Render.TwoRuns

/-!
# Discarding nested parameters discards nothing else

Under `NestedParams.discard` an included statement is written out and becomes
plain text of the statement around it, to be repaired with it at every outer
level; under `NestedParams.inline` its markers stay markers and cut the text into
stretches that are repaired one by one.

`Thinned` is what holds between the fragments of the two runs at every depth. It
survives repair because repairing commutes with writing out
(`Canonical.text_repaired`), and it survives inclusion because a statement
without parameters is the text it is written as.

> `discard_agrees_inline`: the same error or the same text, and fewer parameters
> only where an included statement binds some.
-/

namespace SqlTemplate

namespace Fragment

/-- The first fragment is the second with some parameters made plain text. Only
question marks are certain to be spelled alike; where no parameter is missing
there is no difference at all. -/
structure Thinned (style : MarkerStyle) (f g : Fragment) : Prop where
  left : f.Canonical
  right : g.Canonical
  text : style = .question → f.text style = g.text style
  params : f.params.Sublist g.params
  eq : f.params.length = g.params.length → f = g

theorem Thinned.refl (style : MarkerStyle) {f : Fragment} (hf : f.Canonical) :
    Thinned style f f where
  left := hf
  right := hf
  text _ := rfl
  params := List.Sublist.refl _
  eq _ := rfl

/-- Appending keeps what is missing apart: neither part makes up for the other. -/
theorem Thinned.append {style : MarkerStyle} {f f' g g' : Fragment} (hf : Thinned style f f')
    (hg : Thinned style g g') : Thinned style (f ++ g) (f' ++ g') where
  left := hg.left.append f
  right := hg.right.append f'
  text hq := by
    have htf := hf.text hq
    have htg := hg.text hq
    subst hq
    rw [text_question_append, text_question_append, htf, htg]
  params := by
    rw [params_append, params_append]
    exact hf.params.append hg.params
  eq hlen := by
    rw [params_append, params_append, List.length_append, List.length_append] at hlen
    -- neither side has more parameters, so no side lacks one
    have hfle := hf.params.length_le
    have hgle := hg.params.length_le
    rw [hf.eq (by omega), hg.eq (by omega)]

/-- Repair of the text is repair of the stretches, with markers or with their text between. -/
theorem Thinned.repaired {style : MarkerStyle} {f f' : Fragment} (h : Thinned style f f') :
    Thinned style f.repaired f'.repaired where
  left := canonical_repaired f
  right := canonical_repaired f'
  text hq := by rw [h.left.text_repaired, h.right.text_repaired, h.text hq]
  params := by simpa using h.params
  eq hlen := by rw [h.eq (by simpa using hlen)]

/-- So all operations on fragments respect it. -/
theorem respected_thinned (style : MarkerStyle) : Respected (Thinned style) where
  text s := .refl style (canonical_ofText s)
  append := .append
  repaired := .repaired

/-- Writing out the left fragment loses its parameters, and nothing where it has none. -/
theorem Thinned.written {style : MarkerStyle} {f f' : Fragment} (h : Thinned style f f') :
    Thinned style (ofText (f.text style)) f' where
  left := canonical_ofText _
  right := h.right
  text hq := by rw [text_ofText, h.text hq]
  params := by
    rw [params_ofText]
    exact List.nil_sublist _
  eq hlen := by
    -- no parameter is missing although none is left: there was none to begin with
    rw [params_ofText, List.length_nil] at hlen
    have hf' : f'.params = [] := List.length_eq_zero_iff.mp hlen.symm
    have hf : f.params = [] := List.sublist_nil.mp (hf' ▸ h.params)
    rw [h.left.eq_ofText hf style]
    exact h.eq (by rw [hf, hf'])

end Fragment

namespace Engine

open Fragment (Thinned)

/-- The engine with another policy for the parameters of included statements. -/
def withNested (e : Engine) (policy : NestedParams) : Engine :=
  { e with settings := { e.settings with nestedParams := policy } }

/-- How the statement of a run that discards nested parameters stands to that of
the run that keeps them. -/
structure DiscardOf (style : MarkerStyle) (discarded inlined : Statement) : Prop where
  sql : style = .question → discarded.sql = inlined.sql
  params : discarded.params.Sublist inlined.params
  eq : discarded.params.length = inlined.params.length → discarded = inlined

/-- The two policies differ where an included statement enters, and there one of them writes it out.
-/
theorem comparable_discard_inline (e : Engine) :
    Comparable Eq (Thinned e.settings.markers) (e.withNested .discard) (e.withNested .inline) where
  registry := rfl
  depth := rfl
  nest h := h.written
  registered _ := looksAlike_eq (fun v => .refl _ (Fragment.canonical_ofParam v)) _

/-- What is written from such fragments is alike to the extent that they are. -/
theorem discardOf_of_written {e : Engine} {s s' : Statement}
    (h : Written (Thinned e.settings.markers) (e.withNested .discard) (e.withNested .inline) s s') :
    DiscardOf e.settings.markers s s' := by
  obtain ⟨f, f', hff, rfl, rfl⟩ := h
  refine ⟨fun hq => ?_, hff.params, fun hlen => ?_⟩
  · exact congrArg String.ofList (hff.text hq)
  · rw [hff.eq hlen]
    rfl

/-- **Discarding and inlining nested parameters agree on everything else.** For any
templates, settings and data, both runs fail with the same error or both succeed;
then the text is the same under question marks, the discarding run's parameters
are among the inlining run's in the same order, and if none is missing the two
statements are the same under either style. -/
theorem discard_agrees_inline (e : Engine) (context : Value) :
    (∀ template, Agree (DiscardOf e.settings.markers)
      ((e.withNested .discard).renderTemplate template context)
      ((e.withNested .inline).renderTemplate template context)) ∧
    ∀ qualified, Agree (DiscardOf e.settings.markers)
      ((e.withNested .discard).render qualified context)
      ((e.withNested .inline).render qualified context) := by
  have hR := Fragment.respected_thinned e.settings.markers
  have hcomparable := comparable_discard_inline e
  constructor
  · intro template
    have hlike : LooksAlike Eq (Thinned e.settings.markers) template :=
      looksAlike_eq (fun v => .refl _ (Fragment.canonical_ofParam v)) template
    exact (renderTemplate_agree hR hcomparable rfl hlike).imp fun _ _ => discardOf_of_written
  · intro qualified
    exact (render_agree hR hcomparable rfl qualified).imp fun _ _ => discardOf_of_written

end Engine

end SqlTemplate
