import SqlTemplate.Proofs.Fragment.Repaired
import SqlTemplate.Proofs.Keyed
import SqlTemplate.Proofs.Placeholder
import SqlTemplate.Proofs.Render.TwoRuns

/-!
# Bound values never change the text

Where no template inlines a value with `::name`, the text of a statement depends
on the data only through its shape: which conditions hold, and how many elements
the repetitions run over. `ShapeEqual` compares two contexts in just that respect,
element by element for the repetitions.

The two runs keep fragments that differ in the values of parameters only. Such
fragments become the same when their values are forgotten (`erased`), and every
operation on fragments commutes with forgetting.

> `values_never_change_text`: the same error, or the same text and equally many
> parameters.
-/

namespace SqlTemplate

/-! ## Forgetting the values of parameters -/

/-- The piece with `null` for its value. -/
def Piece.erased : Piece → Piece
  | .text s => .text s
  | .param _ => .param .null

namespace Fragment

/-- The fragment with `null` for all its values. -/
def erased (f : Fragment) : Fragment := ⟨f.pieces.map Piece.erased⟩

/-- Texts join whatever the values are. -/
theorem consPiece_erased (p : Piece) (ps : List Piece) :
    consPiece p.erased (ps.map Piece.erased) = (consPiece p ps).map Piece.erased := by
  cases p with
  | param v => rfl
  | text s =>
    cases s with
    | nil => rfl
    | cons c s =>
      cases ps with
      | nil => rfl
      | cons q ps => cases q <;> rfl

theorem foldr_consPiece_erased (ps rest : List Piece) :
    (ps.map Piece.erased).foldr consPiece (rest.map Piece.erased) =
      (ps.foldr consPiece rest).map Piece.erased := by
  induction ps with
  | nil => rfl
  | cons p ps ih => rw [List.map_cons, List.foldr_cons, ih, consPiece_erased, List.foldr_cons]

/-- Values can be forgotten before or after appending. -/
theorem erased_append (f g : Fragment) : (f ++ g).erased = f.erased ++ g.erased :=
  congrArg Fragment.mk (foldr_consPiece_erased f.pieces g.pieces).symm

theorem erased_ofPieces (ps : List Piece) :
    (ofPieces ps).erased = ofPieces (ps.map Piece.erased) :=
  congrArg Fragment.mk (foldr_consPiece_erased ps []).symm

/-- Repair looks at no value. -/
theorem repairPieces_erased (ps : List Piece) :
    repairPieces (ps.map Piece.erased) = (repairPieces ps).map Piece.erased := by
  fun_induction repairPieces ps with
  | case1 => rfl
  | case2 s => rfl
  | case3 s rest hrest ih =>
    cases rest with
    | nil => exact absurd rfl hrest
    | cons p rest => exact congrArg (Piece.text (Clause.repair false s) :: ·) ih
  | case4 v rest ih => exact congrArg (Piece.param .null :: ·) ih

theorem erased_repaired (f : Fragment) : f.repaired.erased = f.erased.repaired := by
  rw [repaired, erased_ofPieces, ← repairPieces_erased]
  rfl

theorem piecesText_erased (style : MarkerStyle) (number : Nat) (ps : List Piece) :
    piecesText style number (ps.map Piece.erased) = piecesText style number ps := by
  induction ps generalizing number with
  | nil => rfl
  | cons p ps ih => cases p <;> simp [Piece.erased, piecesText, ih]

/-- Writing out looks at no value. -/
@[simp] theorem text_erased (style : MarkerStyle) (f : Fragment) :
    f.erased.text style = f.text style := piecesText_erased style 1 f.pieces

theorem length_params_erased (f : Fragment) : f.erased.params.length = f.params.length := by
  obtain ⟨ps⟩ := f
  unfold erased params
  dsimp only
  induction ps with
  | nil => rfl
  | cons p ps ih => cases p <;> simpa [Piece.erased] using ih

/-- The same fragment, up to the values of its parameters. -/
def SameShape (f g : Fragment) : Prop := f.erased = g.erased

/-- Fragments of one shape are written out the same. -/
theorem SameShape.text {f g : Fragment} (h : SameShape f g) (style : MarkerStyle) :
    f.text style = g.text style := by
  rw [← text_erased style f, h, text_erased]

theorem SameShape.length_params {f g : Fragment} (h : SameShape f g) :
    f.params.length = g.params.length := by
  rw [← length_params_erased f, h, length_params_erased]

/-- The operations on fragments look at no value. -/
theorem respected_sameShape : Respected SameShape where
  text _ := rfl
  append hf hg := by
    unfold SameShape at *
    rw [erased_append, erased_append, hf, hg]
  repaired h := by
    unfold SameShape at *
    rw [erased_repaired, erased_repaired, h]

/-- Pieces that agree up to values are the same texts and some parameters. -/
theorem forall₂_of_erased {ps qs : List Piece}
    (h : ps.map Piece.erased = qs.map Piece.erased) :
    List.Forall₂ (PieceRelated SameShape) ps qs := by
  induction ps generalizing qs with
  | nil =>
    rw [List.map_eq_nil_iff.mp h.symm]
    exact .nil
  | cons p ps ih =>
    cases qs with
    | nil => cases h
    | cons q qs =>
      obtain ⟨hpq, hrest⟩ := List.cons.inj h
      refine .cons ?_ (ih hrest)
      cases p with
      | text s =>
        cases q with
        | text t =>
          cases hpq
          exact .text s
        | param w => cases hpq
      | param v =>
        cases q with
        | text t => cases hpq
        | param w => exact .param rfl

/-- Binding the same text gives the same fragment up to values. -/
theorem sameShape_bindParams (c d : Value) (s : List Char) :
    SameShape (Placeholder.bindParams c s) (Placeholder.bindParams d s) := by
  unfold SameShape Placeholder.bindParams
  rw [erased_ofPieces, erased_ofPieces, List.map_map, List.map_map]
  congr 1
  refine List.map_congr_left fun part _ => ?_
  cases part <;> rfl

end Fragment

/-! ## Contexts of the same shape -/

/-- All templates of a registry. -/
def Registry.templates (r : Registry) : List Template :=
  r.namespaces.flatMap fun entry => entry.2.map (·.2)

theorem Registry.mem_templates {r : Registry} {ns key : String} {t : Template}
    (h : r.find? ns key = some t) : t ∈ r.templates := by
  obtain ⟨entries, hns, hkey⟩ := Option.bind_eq_some_iff.mp h
  refine List.mem_flatMap.mpr ⟨(ns, entries), Entries.mem_of_find? hns, ?_⟩
  exact List.mem_map.mpr ⟨(key, t), Entries.mem_of_find? hkey, rfl⟩

namespace Engine

open Fragment (SameShape)

/-- Two contexts that no test of the given templates tells apart and that have, for
each of their repetitions, equally many elements, pairwise alike in the same way. -/
inductive ShapeEqual (templates : List Template) : Value → Value → Prop where
  | intro {c d : Value} :
      (∀ t ∈ templates, ∀ test body, .conditional test body ∈ t →
        Condition.passes test c = Condition.passes test d) →
      (∀ t ∈ templates, ∀ arrayKey separator body, .repetition arrayKey separator body ∈ t →
        List.Forall₂ (ShapeEqual templates) (elements c arrayKey) (elements d arrayKey)) →
      ShapeEqual templates c d

/-- Shape-equal contexts look alike to a template that inlines no value. -/
theorem looksAlike_shapeEqual {templates : List Template} {t : Template} (ht : t ∈ templates)
    (hplain : ∀ node ∈ t, Placeholder.inlinesValue node.body.toList = false) :
    LooksAlike (ShapeEqual templates) SameShape t where
  passes := by
    rintro c d ⟨htests, -⟩ test body hnode
    exact htests t ht test body hnode
  elements := by
    rintro c d ⟨-, harrays⟩ arrayKey separator body hnode
    exact harrays t ht arrayKey separator body hnode
  bound := by
    intro c d _ node hnode
    have h := hplain node hnode
    rw [Placeholder.inlineLiterals_of_not_inlinesValue c h,
      Placeholder.inlineLiterals_of_not_inlinesValue d h]
    exact Fragment.forall₂_of_erased
      (congrArg Fragment.pieces (Fragment.sameShape_bindParams c d node.body.toList))

/-- The same text, and as many parameters. -/
structure SameText (s s' : Statement) : Prop where
  sql : s.sql = s'.sql
  params : s.params.length = s'.params.length

/-- What is written from fragments of one shape has the same text. -/
theorem sameText_of_written {e : Engine} {s s' : Statement} (h : Written SameShape e e s s') :
    SameText s s' := by
  obtain ⟨f, f', hff, rfl, rfl⟩ := h
  exact ⟨congrArg String.ofList (hff.text e.settings.markers), hff.length_params⟩

/-- **Bound values never change the text.** Let no registered template and not the one
rendered inline a value. Then any two contexts of the same shape give the same
error, or statements with the same text and equally many parameters, under any
settings. -/
theorem values_never_change_text (e : Engine) (template : Template)
    (hplain : ∀ t ∈ template :: e.registry.templates, ∀ node ∈ t,
      Placeholder.inlinesValue node.body.toList = false)
    {c d : Value} (hshape : ShapeEqual (template :: e.registry.templates) c d) :
    Agree SameText (e.renderTemplate template c) (e.renderTemplate template d) ∧
    ∀ qualified, Agree SameText (e.render qualified c) (e.render qualified d) := by
  have hR := Fragment.respected_sameShape
  have hcomparable : Comparable (ShapeEqual (template :: e.registry.templates)) SameShape e e := by
    refine ⟨rfl, rfl, ?_, ?_⟩
    · intro f f' h
      unfold nest
      -- a discarded statement becomes its text, which is the same on both sides
      cases e.settings.nestedParams with
      | inline => exact h
      | discard => exact congrArg (fun s => (Fragment.ofText s).erased) (h.text _)
    · intro ns k t hfind
      have ht := List.mem_cons_of_mem template (Registry.mem_templates hfind)
      exact looksAlike_shapeEqual ht (hplain t ht)
  have htop : template ∈ template :: e.registry.templates := List.mem_cons_self ..
  refine ⟨?_, fun qualified => ?_⟩
  · have hlike := looksAlike_shapeEqual htop (hplain template htop)
    exact (renderTemplate_agree hR hcomparable hshape hlike).imp fun _ _ => sameText_of_written
  · exact (render_agree hR hcomparable hshape qualified).imp fun _ _ => sameText_of_written

/-- Two searches of the same shape: a filter, a list of two elements, and an included
page. The values differ in type and content, and `n` is missing from one. -/
theorem values_never_change_text_search :
    let page : Template := [.literal "LIMIT :n"]
    let search : Template := [.literal "SELECT * FROM t WHERE",
      .conditional ":name != null" "AND name = :name", .literal "AND id IN (",
      .repetition "ids" ", " ":id", .literal ") {{ page.first }}"]
    let e : Engine := ⟨⟨[("page", [("first", page)])]⟩, { nestedParams := .inline }⟩
    let c : Value := .object [("ids", .array [.string "a", .string "b"]),
      ("name", .string "x OR 1 = 1")]
    let d : Value := .object [("ids", .array [.string ":n {{ page.first }}", .bool false]),
      ("n", .string "7"), ("name", .bool true)]
    (∀ t ∈ search :: e.registry.templates, ∀ node ∈ t,
      Placeholder.inlinesValue node.body.toList = false) ∧
    ShapeEqual (search :: e.registry.templates) c d ∧
    Agree SameText (e.renderTemplate search c) (e.renderTemplate search d) := by
  intro page search e c d
  have hplain : ∀ t ∈ search :: e.registry.templates, ∀ node ∈ t,
      Placeholder.inlinesValue node.body.toList = false := by decide
  -- there is one test and one repetition, so these decide whether two values are alike
  have halike : ∀ x y : Value,
      Condition.passes ":name != null" x = Condition.passes ":name != null" y →
      List.Forall₂ (ShapeEqual (search :: e.registry.templates)) (elements x "ids")
        (elements y "ids") → ShapeEqual (search :: e.registry.templates) x y := by
    intro x y htest hitems
    refine .intro (fun t ht test body hnode => ?_) (fun t ht arrayKey separator body hnode => ?_)
    · simp [search, page, e, Registry.templates] at ht
      rcases ht with rfl | rfl
      · simp at hnode
        rw [hnode.1, htest]
      · simp at hnode
    · simp [search, page, e, Registry.templates] at ht
      rcases ht with rfl | rfl
      · simp at hnode
        rw [hnode.1]
        exact hitems
      · simp at hnode
  have hshape : ShapeEqual (search :: e.registry.templates) c d :=
    halike c d (by decide)
      (.cons (halike _ _ (by decide) .nil) (.cons (halike _ _ (by decide) .nil) .nil))
  exact ⟨hplain, hshape, (values_never_change_text e search hplain hshape).1⟩

end Engine

end SqlTemplate
