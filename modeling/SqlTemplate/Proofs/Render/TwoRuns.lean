import SqlTemplate.Render
import Mathlib.Data.List.Forall2
import Mathlib.Data.Option.Basic

/-!
# Comparing two runs

Many properties of rendering speak of two runs: under two settings, against two
contexts, from two registries. They all follow one path through the program, and
this file walks it once.

What is compared is left open in three places:

- `Comparison`: how the outcomes of two runs are held against each other. Any way
  will do that allows success with related results and can be chained.
- `Respected`: a relation on fragments that every operation on fragments respects.
- `LooksAlike`: contexts that a template cannot tell apart, up to the values of
  parameters.

> `assemble_related`: if inclusions are related, so are the rendered templates.
> `inclusion_related`: inclusions are related, at every depth.

Both are inductions along the program: over the parts of a text, the nodes of a
template, the elements of a repetition, and the levels of inclusion that are left.
-/

namespace SqlTemplate

/-- Both runs fail with the same error, or both succeed with related results. -/
def Agree {α β : Type} (R : α → β → Prop) :
    Except RenderError α → Except RenderError β → Prop
  | .ok a, .ok b => R a b
  | .error e, .error e' => e = e'
  | _, _ => False

theorem Agree.imp {α β : Type} {R S : α → β → Prop} (h : ∀ a b, R a b → S a b)
    {x : Except RenderError α} {y : Except RenderError β} (hxy : Agree R x y) : Agree S x y := by
  cases x with
  | ok a =>
    cases y with
    | ok b => exact h a b hxy
    | error e => exact hxy
  | error e =>
    cases y with
    | ok b => exact hxy
    | error e' => exact hxy

/-- Runs that agree and go on so agree in the end. -/
theorem Agree.bind {α β γ δ : Type} {R : α → β → Prop} {S : γ → δ → Prop}
    {x : Except RenderError α} {y : Except RenderError β} {f : α → Except RenderError γ}
    {g : β → Except RenderError δ} (hxy : Agree R x y) (hfg : ∀ a b, R a b → Agree S (f a) (g b)) :
    Agree S (x >>= f) (y >>= g) := by
  cases x with
  | ok a =>
    cases y with
    | ok b => exact hfg a b hxy
    | error e => exact hxy.elim
  | error e =>
    cases y with
    | ok b => exact hxy.elim
    | error e' => exact hxy

/-- Where results are to be equal, two runs agree if they are the same. -/
theorem agree_eq_iff {α : Type} {x y : Except RenderError α} : Agree Eq x y ↔ x = y := by
  cases x with
  | ok a =>
    cases y with
    | ok b => exact ⟨congrArg Except.ok, Except.ok.inj⟩
    | error e => exact ⟨False.elim, fun h => by cases h⟩
  | error e =>
    cases y with
    | ok b => exact ⟨False.elim, fun h => by cases h⟩
    | error e' => exact ⟨congrArg Except.error, Except.error.inj⟩

/-- A way to hold the outcomes of two runs against each other. -/
structure Comparison where
  /-- The outcomes compare well, where successful results are to be related. -/
  Holds : {α β : Type} → (α → β → Prop) → Except RenderError α → Except RenderError β → Prop
  ok : ∀ {α β : Type} {R : α → β → Prop} {a : α} {b : β}, R a b → Holds R (.ok a) (.ok b)
  bind : ∀ {α β γ δ : Type} {R : α → β → Prop} {S : γ → δ → Prop}
    {x : Except RenderError α} {y : Except RenderError β} {f : α → Except RenderError γ}
    {g : β → Except RenderError δ},
    Holds R x y → (∀ a b, R a b → Holds S (f a) (g b)) → Holds S (x >>= f) (y >>= g)

namespace Comparison

/-- The runs do the same, up to the relation on results. -/
def agree : Comparison where
  Holds := Agree
  ok h := h
  bind := Agree.bind

variable (T : Comparison) {α β γ δ : Type} {R : α → β → Prop} {S : γ → δ → Prop}

/-- Changing the results keeps a comparison if it keeps them related. -/
theorem map {x : Except RenderError α} {y : Except RenderError β} {f : α → γ} {g : β → δ}
    (h : T.Holds R x y) (hfg : ∀ a b, R a b → S (f a) (g b)) :
    T.Holds S (x.map f) (y.map g) := by
  have hx : x.map f = x >>= fun a => .ok (f a) := by cases x <;> rfl
  have hy : y.map g = y >>= fun b => .ok (g b) := by cases y <;> rfl
  rw [hx, hy]
  exact T.bind h fun a b hab => T.ok (hfg a b hab)

/-- Running through two lists of related elements. -/
theorem mapM {f : α → Except RenderError γ} {g : β → Except RenderError δ} {xs : List α}
    {ys : List β} (h : List.Forall₂ (fun a b => T.Holds S (f a) (g b)) xs ys) :
    T.Holds (List.Forall₂ S) (xs.mapM f) (ys.mapM g) := by
  induction h with
  | nil => exact T.ok .nil
  | cons hab _ ih =>
    rw [List.mapM_cons, List.mapM_cons]
    exact T.bind hab fun c d hcd => T.bind ih fun cs ds hcs => T.ok (.cons hcd hcs)

end Comparison

/-! ## Related fragments -/

namespace Fragment

/-- A relation that the operations on fragments respect. -/
structure Respected (R : Fragment → Fragment → Prop) : Prop where
  text : ∀ s, R (ofText s) (ofText s)
  append : ∀ {f f' g g'}, R f f' → R g g' → R (f ++ g) (f' ++ g')
  repaired : ∀ {f f'}, R f f' → R f.repaired f'.repaired

variable {R : Fragment → Fragment → Prop} {fs gs : List Fragment}

/-- Putting fragments together respects what appending does. -/
theorem Respected.concat (hR : Respected R) (h : List.Forall₂ R fs gs) :
    R (Fragment.concat fs) (Fragment.concat gs) := by
  induction h with
  | nil => exact hR.text []
  | cons hfg _ ih => exact hR.append hfg ih

theorem Respected.join (hR : Respected R) (separator : List Char) (h : List.Forall₂ R fs gs) :
    R (Fragment.join separator fs) (Fragment.join separator gs) := by
  induction h with
  | nil => exact hR.text []
  | cons hfg hrest ih =>
    cases hrest with
    | nil => exact hfg
    | cons hnext _ => exact hR.append (hR.append hfg (hR.text separator)) ih

/-- Equality is respected by everything. -/
theorem respected_eq : Respected Eq where
  text _ := rfl
  append hf hg := by rw [hf, hg]
  repaired h := by rw [h]

/-- The same text, or parameters that are related as fragments. -/
inductive PieceRelated (R : Fragment → Fragment → Prop) : Piece → Piece → Prop where
  | text (s : List Char) : PieceRelated R (.text s) (.text s)
  | param {v w : Value} : R (ofParam v) (ofParam w) → PieceRelated R (.param v) (.param w)

theorem forall₂_pieceRelated_refl (h : ∀ v, R (ofParam v) (ofParam v)) (ps : List Piece) :
    List.Forall₂ (PieceRelated R) ps ps := by
  refine List.forall₂_same.mpr fun p _ => ?_
  cases p with
  | text s => exact .text s
  | param v => exact .param (h v)

end Fragment

namespace Placeholder

open Fragment (Respected PieceRelated)

variable (T : Comparison) {R : Fragment → Fragment → Prop} (hR : Respected R)
  {fetch fetch' : String → Except RenderError Fragment}
  (hfetch : ∀ key, T.Holds R (fetch key) (fetch' key))

include hR hfetch

/-- Texts are expanded alike where keys are answered alike. -/
theorem expandReferences_related (s : List Char) :
    T.Holds R (expandReferences fetch s) (expandReferences fetch' s) := by
  refine T.bind (T.mapM (S := R) (List.forall₂_same.mpr fun part _ => ?_))
    fun _ _ h => T.ok (hR.concat h)
  cases part with
  | inl c => exact T.ok (hR.text [c])
  | inr key => exact hfetch (String.ofList key)

theorem resolve_related {context context' : Value} {s : List Char}
    (hbound : List.Forall₂ (PieceRelated R) (bindParams context (inlineLiterals context s)).pieces
      (bindParams context' (inlineLiterals context' s)).pieces) :
    T.Holds R (resolve fetch context s) (resolve fetch' context' s) := by
  refine T.bind (T.mapM (S := R) (hbound.imp fun p q hpq => ?_)) fun _ _ h => T.ok (hR.concat h)
  cases hpq with
  | text chars => exact expandReferences_related T hR hfetch chars
  | param h => exact T.ok h

end Placeholder

/-! ## Related runs of the engine -/

/-- The text of a node in which placeholders are resolved. -/
def Node.body : Node → String
  | .literal text => text
  | .conditional _ body => body
  | .repetition _ _ body => body

namespace Engine

open Fragment (Respected PieceRelated)

/-- Contexts that a template does not tell apart: its tests have the same results,
its repetitions run over elements that again look alike, and its texts differ in
parameters only. -/
structure LooksAlike (C : Value → Value → Prop) (R : Fragment → Fragment → Prop)
    (template : Template) : Prop where
  passes : ∀ {c d}, C c d → ∀ {test body}, .conditional test body ∈ template →
    Condition.passes test c = Condition.passes test d
  elements : ∀ {c d}, C c d → ∀ {arrayKey separator body},
    .repetition arrayKey separator body ∈ template →
      List.Forall₂ C (elements c arrayKey) (elements d arrayKey)
  bound : ∀ {c d}, C c d → ∀ node ∈ template,
    List.Forall₂ (PieceRelated R)
      (Placeholder.bindParams c (Placeholder.inlineLiterals c node.body.toList)).pieces
      (Placeholder.bindParams d (Placeholder.inlineLiterals d node.body.toList)).pieces

/-- One context looks like itself. -/
theorem looksAlike_eq {R : Fragment → Fragment → Prop}
    (h : ∀ v, R (Fragment.ofParam v) (Fragment.ofParam v)) (template : Template) :
    LooksAlike Eq R template where
  passes hcd := by subst hcd; intros; rfl
  elements hcd := by subst hcd; intros; exact List.forall₂_same.mpr fun _ _ => rfl
  bound hcd _ _ := by subst hcd; exact Fragment.forall₂_pieceRelated_refl h _

/-- Inclusions that give related fragments in contexts that look alike. -/
def InclusionRelated (T : Comparison) (C : Value → Value → Prop)
    (R : Fragment → Fragment → Prop) (i j : Inclusion) : Prop :=
  ∀ key {c d}, C c d → T.Holds R (i key c) (j key d)

variable (T : Comparison) {C : Value → Value → Prop} {R : Fragment → Fragment → Prop}
  (hR : Respected R) {i j : Inclusion} {template : Template}

include hR in
/-- A repetition needs no more than elements whose texts are related. -/
theorem renderRepetition_related {c d : Value} {arrayKey body : String} (separator : String)
    (hitems : List.Forall₂ (fun x y => T.Holds R (resolveText i x body) (resolveText j y body))
      (elements c arrayKey) (elements d arrayKey)) :
    T.Holds (Option.Rel R) (renderNode i c (.repetition arrayKey separator body))
      (renderNode j d (.repetition arrayKey separator body)) := by
  rw [renderNode, renderNode]
  generalize elements c arrayKey = items at hitems
  generalize elements d arrayKey = items' at hitems
  cases hitems with
  | nil => exact T.ok .none
  | cons hitem hmore =>
    exact T.bind (T.mapM (S := R) (.cons hitem hmore)) fun _ _ h =>
      T.ok (.some (hR.join separator.toList h))

section

variable (hij : InclusionRelated T C R i j) (hlike : LooksAlike C R template)
  {c d : Value} (hcd : C c d)

include hR hij hlike hcd

/-- The body of a node resolves alike in contexts that look alike. -/
theorem resolveText_related {node : Node} (hnode : node ∈ template) :
    T.Holds R (resolveText i c node.body) (resolveText j d node.body) :=
  Placeholder.resolve_related T hR (fun key => hij key hcd) (hlike.bound hcd node hnode)

/-- A node takes part in both runs or in neither, with related fragments. -/
theorem renderNode_related {node : Node} (hnode : node ∈ template) :
    T.Holds (Option.Rel R) (renderNode i c node) (renderNode j d node) := by
  have htext := resolveText_related T hR hij hlike hcd hnode
  cases node with
  | literal text =>
    rw [renderNode, renderNode]
    exact T.map htext fun _ _ h => .some h
  | conditional test body =>
    rw [renderNode, renderNode, hlike.passes hcd hnode]
    split
    · exact T.map htext fun _ _ h => .some h
    · exact T.ok .none
  | repetition arrayKey separator body =>
    exact renderRepetition_related T hR separator ((hlike.elements hcd hnode).imp fun _ _ h =>
      resolveText_related T hR hij hlike h hnode)

omit hR hij hlike hcd in
theorem forall₂_filterMap_id {fs gs : List (Option Fragment)}
    (h : List.Forall₂ (Option.Rel R) fs gs) :
    List.Forall₂ R (fs.filterMap id) (gs.filterMap id) := by
  induction h with
  | nil => exact .nil
  | cons hfg _ ih =>
    cases hfg with
    | some hfg => exact .cons hfg ih
    | none => exact ih

/-- Rendering a template in contexts that look alike. -/
theorem assemble_related : T.Holds R (assemble i c template) (assemble j d template) := by
  refine T.bind (T.mapM (S := Option.Rel R) (List.forall₂_same.mpr fun node hnode => ?_))
    fun _ _ h => T.ok (hR.repaired (hR.join [' '] (forall₂_filterMap_id h)))
  exact renderNode_related T hR hij hlike hcd hnode

end

include hR

/-- Inclusion at the same number of levels left, for two engines that find related
templates, give up alike and take nested statements over alike. -/
theorem inclusion_related {e e' : Engine}
    (hstop : ∀ key, T.Holds R (.error (.recursionLimitExceeded key e.settings.depthLimit))
      (.error (.recursionLimitExceeded key e'.settings.depthLimit)))
    (htemplate : ∀ key, T.Holds (fun t t' => t = t' ∧ LooksAlike C R t) (e.template key)
      (e'.template key))
    (hnest : ∀ {f f'}, R f f' → R (e.nest f) (e'.nest f')) (levels : Nat) :
    InclusionRelated T C R (e.inclusion levels) (e'.inclusion levels) := by
  -- on the levels left: what a template includes is rendered one level deeper
  induction levels with
  | zero => exact fun key _ _ _ => hstop key
  | succ levels ih =>
    intro key c d hcd
    rw [inclusion, inclusion]
    refine T.bind (htemplate key) fun t t' ht => ?_
    obtain ⟨rfl, hlike⟩ := ht
    exact T.bind (assemble_related T hR ih hlike hcd) fun _ _ h => T.ok (hnest h)

omit hR in
/-- A template is found where its address leads. -/
theorem template_eq_ok_iff {e : Engine} {key : String} {t : Template} :
    e.template key = .ok t ↔
      ∃ k, QualifiedKey.parse? key = some k ∧ e.registry.find? k.namespaceName k.key = some t := by
  unfold Engine.template
  cases QualifiedKey.parse? key with
  | none => simp
  | some k =>
    dsimp only
    cases hfind : e.registry.find? k.namespaceName k.key with
    | some t' => simp [hfind]
    | none => cases e.registry.hasNamespace k.namespaceName <;> simp [hfind]

omit hR in
/-- A template that is found is registered. -/
theorem registered_of_template {e : Engine} {key : String} {t : Template}
    (h : e.template key = .ok t) : ∃ ns k, e.registry.find? ns k = some t := by
  obtain ⟨k, -, hfind⟩ := template_eq_ok_iff.mp h
  exact ⟨k.namespaceName, k.key, hfind⟩

omit hR in
/-- Finding a template depends on the registry only. -/
theorem template_eq {e e' : Engine} (h : e'.registry = e.registry) (key : String) :
    e'.template key = e.template key := by
  unfold Engine.template
  rw [h]

/-- Two engines with the same templates and the same depth, whose runs can be
compared step by step. -/
structure Comparable (C : Value → Value → Prop) (R : Fragment → Fragment → Prop)
    (e e' : Engine) : Prop where
  registry : e'.registry = e.registry
  depth : e'.settings.depthLimit = e.settings.depthLimit
  nest : ∀ {f f'}, R f f' → R (e.nest f) (e'.nest f')
  registered : ∀ {ns k t}, e.registry.find? ns k = some t → LooksAlike C R t

/-- Statements written from related fragments. -/
def Written (R : Fragment → Fragment → Prop) (e e' : Engine) (s s' : Statement) : Prop :=
  ∃ f f', R f f' ∧ s = ⟨f.sql e.settings.markers, f.params⟩ ∧
    s' = ⟨f'.sql e'.settings.markers, f'.params⟩

section

variable {e e' : Engine} (h : Comparable C R e e')

include h

/-- Inclusions do the same at every level. -/
theorem inclusion_agree (levels : Nat) :
    InclusionRelated Comparison.agree C R (e.inclusion levels) (e'.inclusion levels) := by
  refine inclusion_related Comparison.agree hR (fun key => ?_) (fun key => ?_) h.nest levels
  · rw [h.depth]
    exact rfl
  · rw [template_eq h.registry]
    cases ht : e.template key with
    | error err => exact rfl
    | ok t =>
      obtain ⟨ns, k, hfind⟩ := registered_of_template ht
      exact ⟨rfl, h.registered hfind⟩

variable {c d : Value} (hcd : C c d)

include hcd

/-- Two comparable engines render a template to statements that are written from related fragments.
-/
theorem renderTemplate_agree (hlike : LooksAlike C R template) :
    Agree (Written R e e') (e.renderTemplate template c) (e'.renderTemplate template d) := by
  have hij := inclusion_agree hR h e.settings.depthLimit
  unfold renderTemplate fragment
  rw [h.depth]
  exact Agree.bind (assemble_related Comparison.agree hR hij hlike hcd)
    fun f f' hff => ⟨f, f', hff, rfl, rfl⟩

/-- And a registered one, by its address. -/
theorem render_agree (qualified : String) :
    Agree (Written R e e') (e.render qualified c) (e'.render qualified d) := by
  unfold render
  rw [template_eq h.registry]
  cases ht : e.template qualified with
  | error err => exact rfl
  | ok t =>
    obtain ⟨ns, k, hfind⟩ := registered_of_template ht
    exact renderTemplate_agree hR h hcd (h.registered hfind)

end

end Engine

end SqlTemplate
