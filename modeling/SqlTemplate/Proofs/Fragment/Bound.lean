import SqlTemplate.Proofs.Fragment.Repaired
import SqlTemplate.Proofs.Placeholder

/-!
# Repair before or after binding

A statement is repaired after its parameters are bound, stretch by stretch between
the markers. Repairing the text with the names still in it comes to the same.

> `repaired_bindParams`: binding and repairing commute.

A name with its colon is an unbroken stretch that begins with a character of no
word, so no rule reaches across it, just as none reaches across a marker. What
remains is that repair makes no new name: the words it keeps are words of the
text, and what it puts between them are blanks.
-/

namespace SqlTemplate.Placeholder

open SqlTemplate.Text SqlTemplate.Text.Words SqlTemplate.Clause

/-- Repair makes no name where there was none. -/
theorem BindsNothing.repair {s : List Char} (h : BindsNothing s) (atEnd : Bool) :
    BindsNothing (repair atEnd s) := by
  intro c hc hin
  have hunbroken : Unbroken [':', c] := by
    intro d hd
    rcases List.mem_cons.mp hd with rfl | hd
    · decide
    · rw [List.mem_singleton.mp hd]
      exact not_blank_of_nameChar hc
  have hproper := proper_repairSpaced (proper_split s) atEnd
  rcases infix_text hunbroken hproper hin with hfirst | ⟨y, hy, hword⟩
  · have hpre : (split s).first <+: s := first_split s ▸ List.takeWhile_prefix _
    exact h c hc (List.IsInfix.trans hfirst hpre.isInfix)
  · obtain ⟨x, hx, hkept⟩ := kept_repairSpaced hy
    have hsame : y.word = x.word := by rcases hkept with rfl | rfl <;> rfl
    exact h c hc ((hsame ▸ hword).trans (infix_of_mem_split hx))

/-- Repair does not make a text begin with a name. -/
theorem StartsOutsideName.repair {s : List Char} (h : StartsOutsideName s) (atEnd : Bool) :
    StartsOutsideName (repair atEnd s) := by
  rw [repair_eq]
  cases hfirst : (split s).first with
  | cons c first =>
    -- the first word stays, and with it the first character
    have hs : s = c :: (first ++ spacedText (split s).spaced) := by
      rw [← List.cons_append, ← hfirst]
      exact (text_split s).symm
    have hc : isNameChar c = false := h c (by rw [hs]; rfl)
    exact startsOutsideName_cons hc _
  | nil =>
    rw [List.nil_append]
    have hproper := proper_repairSpaced (proper_split s) atEnd
    cases hwords : repairSpaced atEnd (split s).spaced with
    | nil => simp [StartsOutsideName]
    | cons y more =>
      have hy : y ∈ repairSpaced atEnd (split s).spaced := hwords ▸ List.mem_cons_self ..
      cases hgap : y.gap with
      | nil => exact absurd hgap (hproper.gap_ne_nil y hy)
      | cons g gap =>
        have hblank : isBlank g = true := hproper.gap y hy g (hgap ▸ List.mem_cons_self ..)
        rw [spacedText_cons, hgap]
        exact startsOutsideName_cons (not_nameChar_of_blank hblank) _

end SqlTemplate.Placeholder

namespace SqlTemplate.Fragment

open SqlTemplate.Clause SqlTemplate.Placeholder SqlTemplate.Text

/-- Text that is all of a fragment is the end of it. -/
theorem repaired_ofText (s : List Char) : (ofText s).repaired = ofText (repair true s) := by
  cases s with
  | nil => rw [repair_nil]; rfl
  | cons c s => rfl

/-- Text before a parameter is repaired on its own. -/
theorem repaired_ofText_append_ofParam (s : List Char) (v : Value) (f : Fragment) :
    (ofText s ++ (ofParam v ++ f)).repaired =
      ofText (repair false s) ++ (ofParam v ++ f.repaired) := by
  have hright : (ofText (repair false s) ++ (ofParam v ++ f.repaired)).Canonical :=
    Canonical.append _ (Canonical.append _ (canonical_repaired f))
  refine (canonical_repaired _).eq_of_symbols hright ?_
  rw [repaired, pieces_ofText_append, pieces_ofParam_append, symbols_ofPieces, symbols_append,
    symbols_append, symbols_ofText, symbols_ofParam, repaired, symbols_ofPieces]
  cases s with
  | nil => rw [repair_nil]; rfl
  | cons c s => rfl

/-- **Binding and repairing commute.** -/
theorem repaired_bindParams (context : Value) (s : List Char) :
    (bindParams context s).repaired = bindParams context (repair true s) := by
  induction boundText s with
  | @nothing s hs =>
    rw [bindParams_of_nothing context hs, repaired_ofText,
      bindParams_of_nothing context (hs.repair true)]
  | @name s n t hs hne hn ht _ ih =>
    have hunbroken : Unbroken (':' :: n) := by
      intro c hc
      rcases List.mem_cons.mp hc with rfl | hc
      · decide
      · exact not_blank_of_nameChar (hn c hc)
    -- no rule reaches across the name, so the two sides are repaired apart
    have hseam : repair true (s ++ (':' :: n ++ t)) =
        repair false s ++ (':' :: n ++ repair true t) :=
      repair_append (by decide) hunbroken true s t
    rw [bindParams_name context hs hne hn ht, repaired_ofText_append_ofParam, ih, hseam,
      bindParams_name context (hs.repair false) hne hn (ht.repair true)]

end SqlTemplate.Fragment
