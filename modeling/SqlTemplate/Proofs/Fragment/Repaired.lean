import SqlTemplate.Proofs.Clause.Seam
import SqlTemplate.Proofs.Fragment.Canonical

/-!
# Repairing fragments

A fragment is repaired stretch by stretch, a text as a whole. Because no rule
reaches across a marker, both come to the same (`Canonical.text_repaired`): the
text of a repaired fragment is its text, repaired. Parameters stay as they are.
-/

namespace SqlTemplate.Fragment

open SqlTemplate.Clause SqlTemplate.Text

/-- A marker is an unbroken stretch that begins with a character of no word. -/
theorem marker_eq_cons (style : MarkerStyle) (number : Nat) :
    ∃ c m, marker style number = c :: m ∧ isWordChar c = false ∧ Unbroken (c :: m) := by
  cases style with
  | question => exact ⟨'?', [], rfl, by decide, by simp [Unbroken]; decide⟩
  | dollar =>
    refine ⟨'$', Nat.toDigits 10 number, rfl, by decide, ?_⟩
    intro c hc
    rcases List.mem_cons.mp hc with rfl | hc
    · decide
    · exact not_blank_of not_digit_of_blank
        (Nat.isDigit_of_mem_toDigits (by decide) (by decide) hc)

/-- Repair on the two sides of a marker. -/
theorem repair_marker (style : MarkerStyle) (number : Nat) (s t : List Char) :
    repair true (s ++ (marker style number ++ t)) =
      repair false s ++ (marker style number ++ repair true t) := by
  obtain ⟨c, m, hm, hc, hunbroken⟩ := marker_eq_cons style number
  rw [hm]
  exact repair_append hc hunbroken true s t

/-- Repairing stretch by stretch is repairing the text as a whole, by induction on stretches and
markers. -/
theorem piecesText_repairPieces (style : MarkerStyle) {ps : List Piece} (h : CanonicalPieces ps)
    (number : Nat) :
    piecesText style number (repairPieces ps) = repair true (piecesText style number ps) := by
  induction h generalizing number with
  | nil => exact (repair_nil true).symm
  | @param v rest _ ih =>
    have hm := repair_marker style number [] (piecesText style (number + 1) rest)
    rw [repair_nil, List.nil_append, List.nil_append] at hm
    rw [repairPieces, piecesText, piecesText, ih, hm]
  | @text s _ => simp [repairPieces, piecesText]
  | @textParam s v rest _ _ ih =>
    rw [repairPieces, repairPieces, piecesText, piecesText, piecesText, piecesText, ih,
      repair_marker]
    simp

/-- Writing a fragment out and writing the repaired fragment out differ by the
repair of the text. -/
theorem Canonical.text_repaired {f : Fragment} (hf : f.Canonical) (style : MarkerStyle) :
    f.repaired.text style = repair true (f.text style) := by
  have h := piecesText_repairPieces style hf 1
  rw [text_eq_symbolsText, repaired, symbols_ofPieces, ← piecesText_eq_symbolsText, h]
  rfl

theorem Canonical.sql_repaired {f : Fragment} (hf : f.Canonical) (style : MarkerStyle) :
    f.repaired.sql style = repairStatement (f.sql style) := by
  rw [sql, sql, repairStatement, String.toList_ofList, hf.text_repaired]

/-- Repair touches no parameter. -/
@[simp] theorem params_repaired (f : Fragment) : f.repaired.params = f.params := by
  have hsame : f.repaired.params = (Fragment.mk (repairPieces f.pieces)).params := by
    rw [params_eq_symbols, params_eq_symbols, repaired, symbols_ofPieces]
    rfl
  rw [hsame]
  unfold params
  fun_induction repairPieces f.pieces with
  | case1 => rfl
  | case2 s => rfl
  | case3 s rest _ ih => simpa using ih
  | case4 v rest ih => simpa using ih

end SqlTemplate.Fragment
