import SqlTemplate.Proofs.Fragment.Repaired
import SqlTemplate.Proofs.Placeholder

/-!
# Fragments that operations build

`Built` are the fragments that can be made: text, parameters, one fragment after
another, fragments joined, and every stretch of text replaced by a fragment
(`mapTexts`, of which resolving references and repair are cases). Each of them is
canonical (`Built.canonical`).

> `repaired_built`: writing a built fragment out and repairing the text gives what
> writing the repaired fragment out does, in both styles, and repair leaves the
> parameters and the number of markers as they are.
-/

namespace SqlTemplate

/-- Whether a piece is a parameter marker. -/
def Piece.isParam : Piece → Bool
  | .text _ => false
  | .param _ => true

namespace Fragment

open Placeholder

/-! ## Replacing stretches of text -/

section

variable {m : Type → Type} [Monad m]

/-- The fragments that pieces turn into, from left to right: what `f` gives for a
stretch of text, told whether it is the last piece, and parameters as they are. -/
def mapPieces (f : (last : Bool) → List Char → m Fragment) : List Piece → m (List Fragment)
  | [] => pure []
  | .text s :: rest => do
    let g ← f rest.isEmpty s
    let gs ← mapPieces f rest
    return g :: gs
  | .param v :: rest => do
    let gs ← mapPieces f rest
    return ofParam v :: gs

/-- A fragment with every stretch of text replaced by a fragment. -/
def mapTexts (f : (last : Bool) → List Char → m Fragment) (g : Fragment) : m Fragment := do
  let parts ← mapPieces f g.pieces
  return concat parts

end

/-- References are resolved by replacing the stretches of text between parameters. -/
theorem resolve_eq_mapTexts {m : Type → Type} [Monad m] [LawfulMonad m]
    (fetch : String → m Fragment) (context : Value) (s : List Char) :
    resolve fetch context s =
      (bindParams context (inlineLiterals context s)).mapTexts fun _ => expandReferences fetch := by
  have hpieces : ∀ ps : List Piece,
      (ps.mapM fun
        | .text chars => expandReferences fetch chars
        | .param v => pure (ofParam v)) = mapPieces (fun _ => expandReferences fetch) ps := by
    intro ps
    induction ps with
    | nil => rfl
    | cons p ps ih => cases p <;> simp [mapPieces, ih]
  unfold resolve mapTexts
  exact congrArg (· >>= fun parts => pure (concat parts)) (hpieces _)

/-- Repair replaces every stretch of text by its repaired text. -/
theorem repaired_eq_mapTexts (f : Fragment) :
    f.repaired = Id.run (f.mapTexts fun last s => pure (ofText (Clause.repair last s))) := by
  have hsymbols : ∀ ps : List Piece, (repairPieces ps).flatMap Piece.symbols =
      (Id.run (mapPieces (fun last s => pure (ofText (Clause.repair last s))) ps)).flatMap
        symbols := by
    intro ps
    -- on the pieces, with the last text told apart as repair tells it
    fun_induction repairPieces ps with
    | case1 => rfl
    | case2 s => simp [mapPieces, Piece.symbols]
    | case3 s rest hrest ih =>
      have hlast : rest.isEmpty = false := by
        cases rest with
        | nil => exact absurd rfl hrest
        | cons p rest => rfl
      simp [mapPieces, Piece.symbols, ih, hlast]
    | case4 v rest ih => simp [mapPieces, Piece.symbols, ih]
  refine (canonical_repaired f).eq_of_symbols (canonical_concat _) ?_
  rw [repaired, symbols_ofPieces, hsymbols]
  exact (symbols_concat _).symm

/-! ## Built fragments -/

/-- The fragments that the operations build. What a replacement of texts does may depend
on what it did before, and it may fail; it is to give built fragments. -/
inductive Built : Fragment → Prop where
  | empty : Built empty
  | text (s : List Char) : Built (ofText s)
  | param (v : Value) : Built (ofParam v)
  | append {f g : Fragment} : Built f → Built g → Built (f ++ g)
  | join (separator : List Char) {fs : List Fragment} :
      (∀ f ∈ fs, Built f) → Built (join separator fs)
  | mapTexts {σ ε : Type} {f g : Fragment} {s s' : σ}
      (replace : Bool → List Char → StateT σ (Except ε) Fragment) :
      Built f → (∀ last chars s g s', (replace last chars).run s = .ok (g, s') → Built g) →
      (f.mapTexts replace).run s = .ok (g, s') → Built g

/-- What is built is canonical, since all operations end in appending. -/
theorem Built.canonical {f : Fragment} (h : Built f) : f.Canonical := by
  induction h with
  | empty => exact canonical_empty
  | text s => exact canonical_ofText s
  | param v => exact canonical_ofParam v
  | @append f g _ _ _ hg => exact hg.append f
  | join separator _ ih => exact canonical_join separator ih
  | @mapTexts σ ε f g s s' replace _ _ hrun _ _ =>
    -- whatever the parts are, they are put together by appending
    have hparts : ∃ parts, g = concat parts := by
      unfold Fragment.mapTexts at hrun
      rw [StateT.run_bind] at hrun
      cases hmap : (mapPieces replace f.pieces).run s with
      | error err => rw [hmap] at hrun; cases hrun
      | ok out => rw [hmap] at hrun; cases hrun; exact ⟨out.1, rfl⟩
    obtain ⟨parts, rfl⟩ := hparts
    exact canonical_concat parts

/-- Canonical pieces can be put together one by one. -/
theorem built_of_canonicalPieces {ps : List Piece} (h : CanonicalPieces ps) : Built ⟨ps⟩ := by
  induction h with
  | nil => exact .empty
  | @param v rest _ ih =>
    have hpieces : ofParam v ++ ⟨rest⟩ = ⟨.param v :: rest⟩ := rfl
    exact hpieces ▸ .append (.param v) ih
  | @text s hs =>
    obtain ⟨c, s, rfl⟩ := List.exists_cons_of_ne_nil hs
    exact .text (c :: s)
  | @textParam s v rest hs _ ih =>
    obtain ⟨c, s, rfl⟩ := List.exists_cons_of_ne_nil hs
    have hpieces : ofText (c :: s) ++ (ofParam v ++ ⟨rest⟩) =
        ⟨.text (c :: s) :: .param v :: rest⟩ := rfl
    exact hpieces ▸ .append (.text (c :: s)) (.append (.param v) ih)

/-- The built fragments are the canonical ones. -/
theorem built_iff_canonical {f : Fragment} : Built f ↔ f.Canonical :=
  ⟨Built.canonical, built_of_canonicalPieces⟩

/-! ## Repair -/

/-- The number of parameter markers. -/
def markerCount (f : Fragment) : Nat := f.pieces.countP Piece.isParam

/-- There is a marker for each parameter. -/
theorem markerCount_eq_length_params (f : Fragment) : f.markerCount = f.params.length := by
  obtain ⟨ps⟩ := f
  show ps.countP Piece.isParam = (Fragment.mk ps).params.length
  unfold params
  induction ps with
  | nil => rfl
  | cons p ps ih =>
    cases p with
    | text s => simpa [Piece.isParam] using ih
    | param v => simpa [Piece.isParam, List.countP_cons] using ih

/-- **Repairing a fragment is repairing its text.** For a fragment that the operations
build, either way of writing markers gives the repaired text, and repair leaves the
parameters and the number of markers as they are. -/
theorem repaired_built {f : Fragment} (h : Built f) :
    (∀ style, f.repaired.sql style = Clause.repairStatement (f.sql style)) ∧
    f.repaired.params = f.params ∧ f.repaired.markerCount = f.markerCount := by
  refine ⟨h.canonical.sql_repaired, params_repaired f, ?_⟩
  rw [markerCount_eq_length_params, markerCount_eq_length_params, params_repaired]

/-- A parameter between an `AND` that goes and a last `WHERE` that goes. -/
theorem repaired_built_around_marker :
    let f := ofText "SELECT * FROM t WHERE AND id = ".toList ++ ofParam (.string "x") ++
      ofText " WHERE".toList
    Built f ∧ f.repaired.sql .dollar = "SELECT * FROM t WHERE id = $1" ∧
      f.repaired.params = [.string "x"] ∧ f.repaired.markerCount = 1 := by
  intro f
  have hbuilt : Built f := .append (.append (.text _) (.param _)) (.text _)
  obtain ⟨hsql, hparams, hcount⟩ := repaired_built hbuilt
  refine ⟨hbuilt, ?_, ?_, ?_⟩
  · rw [hsql]
    decide
  · rw [hparams]
    rfl
  · rw [hcount]
    rfl

end Fragment

end SqlTemplate
