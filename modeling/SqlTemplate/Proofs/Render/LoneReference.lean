import SqlTemplate.Proofs.Fragment.Bound
import SqlTemplate.Proofs.Render.References

/-!
# A reference on its own

A template that is nothing but a reference renders the template referred to one level
deeper than that would render by its address. One level deeper, every template meets the
same inclusions with the same number of levels left; only the limit that an error names is
another (`inclusion_other_limit`). What comes out is taken over as an included statement and
repaired once more.

> `reference_renders_one_deeper`: the statement repaired again, with its parameters or
> without them; or the same error, at the same key, under the limit that is one higher.
-/

namespace SqlTemplate

/-! ## Outcomes with another error -/

theorem mapError_bind {α β : Type} (reword : RenderError → RenderError)
    (x : Except RenderError α) (f : α → Except RenderError β) :
    (x >>= f).mapError reword = x.mapError reword >>= fun a => (f a).mapError reword := by
  cases x <;> rfl

/-- The second run does what the first does, with its error reworded. -/
def Comparison.rewording (reword : RenderError → RenderError) : Comparison where
  Holds R x y := Agree R (x.mapError reword) y
  ok h := h
  bind hxy hfg := by
    rw [mapError_bind]
    exact hxy.bind hfg

/-- The error as it is under another limit on how deep inclusions nest. -/
def RenderError.underLimit (limit : Nat) : RenderError → RenderError
  | .recursionLimitExceeded key _ => .recursionLimitExceeded key limit
  | err => err

/-! ## A text that is one reference -/

namespace Fragment

theorem Canonical.concat_singleton {f : Fragment} (hf : f.Canonical) : concat [f] = f :=
  (canonical_concat _).eq_of_symbols hf (by simp)

/-- Putting together what comes of one element gives that back. -/
theorem concat_mapM_singleton {α ε : Type} {f : α → Except ε Fragment} {a : α}
    (h : ∀ g, f a = .ok g → g.Canonical) :
    ([a].mapM f >>= fun parts => pure (concat parts)) = f a := by
  rw [List.mapM_cons, List.mapM_nil]
  cases hf : f a with
  | error err => rfl
  | ok g => exact congrArg Except.ok (h g hf).concat_singleton

end Fragment

namespace Placeholder

open SqlTemplate.Text

variable (r : Reference) {ε : Type} {fetch : String → Except ε Fragment}
  (hcanonical : ∀ f, fetch (String.ofList r.key) = .ok f → f.Canonical)

include hcanonical

/-- A stretch that is one reference stands for what the key stands for. -/
theorem expandReferences_reference :
    expandReferences fetch r.text = fetch (String.ofList r.key) := by
  have hcut : cut referenceAt r.text = [.inr r.key] := by
    simpa using r.cut_text_append []
  unfold expandReferences
  rw [hcut]
  exact Fragment.concat_mapM_singleton hcanonical

/-- A text that is one reference stands for what the key stands for. -/
theorem resolve_reference (context : Value) :
    resolve fetch context r.text = fetch (String.ofList r.key) := by
  have hcolon : ':' ∉ r.text := r.colon_not_mem_text
  have hinline : inlineLiterals context r.text = r.text :=
    inlineLiterals_of_not_inlinesValue context <|
      not_inlinesValue_of_colons fun hin => hcolon (hin.subset (List.mem_cons_self ..))
  have hbound : (bindParams context r.text).pieces = [.text r.text] := by
    rw [bindParams_of_nothing context (bindsNothing_of_not_mem hcolon)]
    rfl
  have hexpand := expandReferences_reference r hcanonical
  unfold resolve
  rw [hinline, hbound, ← hexpand]
  exact Fragment.concat_mapM_singleton fun g hg => hcanonical g (hexpand ▸ hg)

end Placeholder

namespace Engine

open Placeholder (Reference)

/-! ## Included statements are canonical -/

/-- What is assembled has been repaired, so it is canonical. -/
theorem canonical_assemble {i : Inclusion} {context : Value} {t : Template} {f : Fragment}
    (h : assemble i context t = .ok f) : f.Canonical := by
  obtain ⟨parts, -, hf⟩ := bind_eq_ok.mp h
  cases hf
  exact Fragment.canonical_repaired _

/-- It stays so when it enters the text around it. -/
theorem canonical_nest (e : Engine) {f : Fragment} (hf : f.Canonical) : (e.nest f).Canonical := by
  unfold nest
  cases e.settings.nestedParams with
  | inline => exact hf
  | discard => exact Fragment.canonical_ofText _

/-- So whatever is included is canonical. -/
theorem canonical_inclusion {e : Engine} {levels : Nat} {key : String} {context : Value}
    {f : Fragment} (h : e.inclusion levels key context = .ok f) : f.Canonical := by
  cases levels with
  | zero => cases h
  | succ levels =>
    obtain ⟨t, -, hnested⟩ := bind_eq_ok.mp h
    obtain ⟨g, hg, hf⟩ := bind_eq_ok.mp hnested
    cases hf
    exact canonical_nest e (canonical_assemble hg)

/-! ## One level deeper -/

/-- The error of a template that is not found names no limit. -/
theorem underLimit_template {e : Engine} {key : String} {err : RenderError} (limit : Nat)
    (h : e.template key = .error err) : err.underLimit limit = err := by
  cases err with
  | recursionLimitExceeded key' limit' => exact absurd ⟨key', limit', h⟩ (not_gaveUp_template key)
  | keyFormat key' => rfl
  | namespaceNotFound ns => rfl
  | templateNotFound ns key' => rfl

/-- With as many levels left, inclusion under another limit does the same, except that the
limit it names is the other one. -/
theorem inclusion_other_limit (e : Engine) (d d' levels : Nat) :
    InclusionRelated (.rewording (.underLimit (e.withMaxDepth d').settings.depthLimit)) Eq Eq
      ((e.withMaxDepth d).inclusion levels) ((e.withMaxDepth d').inclusion levels) := by
  refine inclusion_related _ Fragment.respected_eq (fun key => rfl) (fun key => ?_) ?_ levels
  · have htemplate : (e.withMaxDepth d').template key = (e.withMaxDepth d).template key :=
      template_eq rfl key
    rw [htemplate]
    cases ht : (e.withMaxDepth d).template key with
    | ok t => exact And.intro rfl (looksAlike_eq (fun _ => rfl) t)
    | error err => exact underLimit_template _ ht
  · rintro f f' rfl
    rfl

/-- So a template renders the same with as many levels left, but for the limit that it names. -/
theorem assemble_other_limit (e : Engine) (d d' levels : Nat) (context : Value) (t : Template) :
    assemble ((e.withMaxDepth d').inclusion levels) context t =
      (assemble ((e.withMaxDepth d).inclusion levels) context t).mapError
        (.underLimit (e.withMaxDepth d').settings.depthLimit) := by
  have hlike : LooksAlike Eq Eq t := looksAlike_eq (fun _ => rfl) t
  exact (agree_eq_iff.mp (assemble_related (.rewording _) Fragment.respected_eq
    (inclusion_other_limit e d d' levels) hlike (Eq.refl context))).symm

/-- A template that is one reference is what is included there, repaired. -/
theorem renderTemplate_reference (e : Engine) (r : Reference) (context : Value) :
    e.renderTemplate [.literal (String.ofList r.text)] context =
      (e.inclusion e.settings.depthLimit (String.ofList r.key) context).map fun f =>
        ⟨f.repaired.sql e.settings.markers, f.repaired.params⟩ := by
  have hnode : renderNode (e.inclusion e.settings.depthLimit) context
      (.literal (String.ofList r.text)) =
        (e.inclusion e.settings.depthLimit (String.ofList r.key) context).map some := by
    rw [renderNode, resolveText, String.toList_ofList,
      Placeholder.resolve_reference r fun _ => canonical_inclusion]
  unfold renderTemplate fragment assemble
  rw [List.mapM_cons, List.mapM_nil, hnode]
  cases e.inclusion e.settings.depthLimit (String.ofList r.key) context with
  | error err => rfl
  | ok f => rfl

/-- The statement taken over as the whole of another one. -/
def wrapped (e : Engine) (s : Statement) : Statement where
  sql := Clause.repairStatement s.sql
  params := match e.settings.nestedParams with
    | .inline => s.params
    | .discard => []

/-- Taking a statement over as it is written is taking over its fragment. -/
theorem wrapped_written (e : Engine) {f : Fragment} (hf : f.Canonical) :
    e.wrapped ⟨f.sql e.settings.markers, f.params⟩ =
      ⟨(e.nest f).repaired.sql e.settings.markers, (e.nest f).repaired.params⟩ := by
  have hsql : (e.nest f).repaired.sql e.settings.markers =
      Clause.repairStatement (f.sql e.settings.markers) := by
    rw [Fragment.sql, Fragment.sql, (canonical_nest e hf).text_repaired, Clause.repairStatement,
      String.toList_ofList]
    unfold nest
    cases e.settings.nestedParams with
    | inline => rfl
    | discard => rw [Fragment.text_ofText]
  rw [hsql, Fragment.params_repaired]
  unfold wrapped nest
  cases e.settings.nestedParams with
  | inline => rfl
  | discard => rw [Fragment.params_ofText]

/-- **A reference renders one level deeper.** A template that is one reference, under a limit
that is one higher, gives what its key gives by address: the statement taken over and repaired
once more, or the same error, which names the higher limit if it is that of nesting too deep. -/
theorem reference_renders_one_deeper (e : Engine) (r : Reference) (context : Value) {limit : Nat}
    (h : limit < Settings.depthCeiling) :
    (e.withMaxDepth (limit + 1)).renderTemplate [.literal (String.ofList r.text)] context =
      match (e.withMaxDepth limit).render (String.ofList r.key) context with
      | .ok s => .ok (e.wrapped s)
      | .error err => .error (err.underLimit (limit + 1)) := by
  have hlimit : (e.withMaxDepth limit).settings.depthLimit = limit := Nat.min_eq_left h.le
  have hnext : (e.withMaxDepth (limit + 1)).settings.depthLimit = limit + 1 := Nat.min_eq_left h
  have htemplate : (e.withMaxDepth (limit + 1)).template (String.ofList r.key) =
      (e.withMaxDepth limit).template (String.ofList r.key) := template_eq rfl _
  rw [renderTemplate_reference, hnext]
  -- a key that leads to no template is the same error in both
  cases ht : (e.withMaxDepth limit).template (String.ofList r.key) with
  | error err =>
    rw [inclusion, htemplate, render, ht]
    exact congrArg Except.error (underLimit_template _ ht).symm
  | ok t =>
    have hnested := assemble_other_limit e limit (limit + 1) limit context t
    rw [hnext] at hnested
    rw [inclusion_of_template (htemplate.trans ht), hnested, render_of_template ht, renderTemplate,
      fragment, hlimit]
    cases hf : assemble ((e.withMaxDepth limit).inclusion limit) context t with
    | error err => rfl
    | ok f => exact congrArg Except.ok (wrapped_written e (canonical_assemble hf)).symm

/-- A page whose repair leaves a last `WHERE` to the next one, and a part that includes
itself, both by address with one level and by reference with two. -/
theorem reference_renders_one_deeper_page :
    let e : Engine := ⟨⟨[("part", [("loop", [.literal "({{ part.loop }})"]),
      ("page", [.literal "SELECT :id FROM t WHERE AND "])])]⟩, { nestedParams := .inline }⟩
    let context : Value := .object [("id", .string "7")]
    (1 < Settings.depthCeiling) ∧
      (e.withMaxDepth 1).render "part.page" context =
        .ok ⟨"SELECT ? FROM t WHERE ", [.string "7"]⟩ ∧
      (e.withMaxDepth 2).renderTemplate [.literal "{{ part.page}}"] context =
        .ok ⟨"SELECT ? FROM t", [.string "7"]⟩ ∧
      (e.withMaxDepth 2).renderTemplate [.literal "{{part.loop}}"] context =
        .error (.recursionLimitExceeded "part.loop" 2) := by
  intro e context
  let page : Reference := ⟨[' '], "part.page".toList, [], List.all_eq_true.mp (by decide),
    by decide, List.all_eq_true.mp (by decide), List.all_eq_true.mp (by decide)⟩
  let loop : Reference := ⟨[], "part.loop".toList, [], List.all_eq_true.mp (by decide),
    by decide, List.all_eq_true.mp (by decide), List.all_eq_true.mp (by decide)⟩
  have hle : 1 < Settings.depthCeiling := by decide
  have hpage : (e.withMaxDepth 1).render "part.page" context =
      .ok ⟨"SELECT ? FROM t WHERE ", [.string "7"]⟩ := by rfl
  have hloop : (e.withMaxDepth 1).render "part.loop" context =
      .error (.recursionLimitExceeded "part.loop" 1) := by rfl
  refine ⟨hle, hpage, ?_, ?_⟩
  · have hdeeper := reference_renders_one_deeper e page context hle
    have hkey : String.ofList page.key = "part.page" := by rfl
    rw [hkey, hpage] at hdeeper
    exact hdeeper
  · have hdeeper := reference_renders_one_deeper e loop context hle
    have hkey : String.ofList loop.key = "part.loop" := by rfl
    rw [hkey, hloop] at hdeeper
    exact hdeeper

end Engine

end SqlTemplate
