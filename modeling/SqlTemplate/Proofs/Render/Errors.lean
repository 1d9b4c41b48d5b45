import SqlTemplate.Proofs.Placeholder.InOrder
import SqlTemplate.Proofs.Render.References
import SqlTemplate.Proofs.Render.Texts

/-!
# Errors tell the truth

Rendering a template asks for its inclusions one after the other, in an order that the
template and the data settle (`Template.inclusions`), and ends with the error of the first
that fails (`error?_assemble`). So an inclusion is reached if all before it were included
(`Reaches`), and the templates entered one inside another on the way to it are those of
`Entered`.

An error that is followed down to where it arose says what was found there:

> `errors_tell_the_truth`: an address without a dot, a namespace or a template that is not
> registered, or a key for which no level was left below the templates entered.
-/

namespace SqlTemplate

/-! ## Inclusions in order -/

/-- The keys that a text refers to, in order, each with the context of the text. -/
def Placeholder.inclusions (context : Value) (text : String) : List (String × Value) :=
  (keys (inlineLiterals context text.toList)).map fun key => (key, context)

/-- What a template includes unless something before it fails, in order: keys, each with the
context that the template there is rendered against. -/
def Template.inclusions (context : Value) (t : Template) : List (String × Value) :=
  (t.texts context).flatMap fun p => Placeholder.inclusions p.1 p.2

/-- All texts of a node are its body, against different contexts. -/
theorem Node.body_of_mem_texts {context : Value} {node : Node} {p : Value × String}
    (h : p ∈ node.texts context) : p.2 = node.body := by
  cases node with
  | literal text =>
    rw [List.mem_singleton.mp h]
    rfl
  | conditional test body =>
    rw [texts] at h
    split at h
    · rw [List.mem_singleton.mp h]
      rfl
    · cases h
  | repetition arrayKey separator body =>
    obtain ⟨item, -, rfl⟩ := List.mem_map.mp h
    rfl

/-- What is included is referred to by a node. -/
theorem Template.refers_of_mem_inclusions {context : Value} {t : Template} {key : String}
    {c : Value} (h : (key, c) ∈ t.inclusions context) :
    ∃ node ∈ t, Placeholder.Refers (Placeholder.inlineLiterals c node.body.toList) key.toList := by
  obtain ⟨p, hp, hkey⟩ := List.mem_flatMap.mp h
  obtain ⟨node, hnode, htext⟩ := List.mem_flatMap.mp hp
  obtain ⟨found, hfound, heq⟩ := List.mem_map.mp hkey
  cases heq
  refine ⟨node, hnode, ?_⟩
  rw [← Node.body_of_mem_texts htext]
  exact Placeholder.mem_keys.mp hfound

/-- An address that cannot be split has no dot. -/
theorem QualifiedKey.parse?_eq_none {qualified : String} (h : parse? qualified = none) :
    '.' ∉ qualified.toList := by
  intro hdot
  have hne : qualified.toList.dropWhile (· != '.') ≠ [] := by
    intro hnil
    have hother := List.dropWhile_eq_nil_iff.mp hnil '.' hdot
    simp at hother
  have hhead := List.head_dropWhile_not (· != '.') hne
  obtain ⟨c, key, heq⟩ := List.exists_cons_of_ne_nil hne
  simp only [heq, List.head_cons, bne_eq_false_iff_eq] at hhead
  rw [parse?, heq, hhead] at h
  cases h

namespace Engine

open Placeholder (error?_resolve)

variable {i : Inclusion} {context : Value} {t : Template}

/-- A text has the error of the first inclusion in it that has one. -/
theorem error?_resolveText (i : Inclusion) (context : Value) (text : String) :
    error? (resolveText i context text) =
      (Placeholder.inclusions context text).findSome? fun p => error? (i p.1 p.2) := by
  rw [resolveText, error?_resolve, Placeholder.inclusions, List.findSome?_map]
  rfl

/-- A template has the error of the first inclusion that has one. -/
theorem error?_assemble (i : Inclusion) (context : Value) (t : Template) :
    error? (assemble i context t) =
      (t.inclusions context).findSome? fun p => error? (i p.1 p.2) := by
  have hnode : ∀ node, error? (renderNode i context node) =
      (node.texts context).findSome? fun p => error? (resolveText i p.1 p.2) := by
    intro node
    rw [renderNode_eq_mapM, error?_map, error?_mapM]
  unfold assemble
  rw [error?_bind_pure, error?_mapM, Template.inclusions, Template.texts, findSome?_flatMap,
    findSome?_flatMap]
  simp only [hnode, error?_resolveText]

/-- Rendering the template gets to include the key: whatever it includes before has been
included. -/
def Reaches (i : Inclusion) (t : Template) (context : Value) (key : String) (c : Value) : Prop :=
  ∃ before after, t.inclusions context = before ++ (key, c) :: after ∧
    ∀ p ∈ before, ∃ f, i p.1 p.2 = .ok f

/-- An error is that of an inclusion that was reached. -/
theorem exists_reached_of_error {err : RenderError} (h : assemble i context t = .error err) :
    ∃ key c, Reaches i t context key c ∧ i key c = .error err := by
  have hfirst := error?_assemble i context t
  rw [h, error?] at hfirst
  obtain ⟨before, ⟨key, c⟩, after, hsplit, herr, hbefore⟩ :=
    List.findSome?_eq_some_iff.mp hfirst.symm
  exact ⟨key, c, ⟨before, after, hsplit, fun p hp => error?_eq_none.mp (hbefore p hp)⟩,
    error?_eq_some.mp herr⟩

/-- What is reached is referred to by a node. -/
theorem refers_of_reaches {key : String} {c : Value} (h : Reaches i t context key c) :
    ∃ node ∈ t, Placeholder.Refers (Placeholder.inlineLiterals c node.body.toList) key.toList := by
  obtain ⟨before, after, hsplit, -⟩ := h
  have hmem : (key, c) ∈ t.inclusions context := by
    rw [hsplit]
    exact List.mem_append_right before (List.mem_cons_self ..)
  exact Template.refers_of_mem_inclusions hmem

/-! ## Templates entered -/

/-- The templates that are entered while a template is rendered, each with its depth below
that and its context. To be entered, an inclusion has to be reached, at a depth that is
allowed, and to name a registered template. -/
inductive Entered (e : Engine) (t : Template) (context : Value) :
    (depth : Nat) → Template → Value → Prop where
  | top : Entered e t context 0 t context
  | inclusion {depth levels : Nat} {u v : Template} {c d : Value} {key : String} :
      Entered e t context depth u c → depth + (levels + 1) = e.settings.depthLimit →
      Reaches (e.inclusion (levels + 1)) u c key d → e.template key = .ok v →
      Entered e t context (depth + 1) v d

/-! ## What an error says -/

/-- What an error that occurs when rendering says, where `top` is what was found of the
template to be rendered. -/
def Truthful (e : Engine) (top : Except RenderError Template) (context : Value) :
    RenderError → Prop
  | .keyFormat key => '.' ∉ key.toList
  | .namespaceNotFound ns => e.registry.hasNamespace ns = false
  | .templateNotFound ns key =>
    e.registry.hasNamespace ns = true ∧ e.registry.find? ns key = none
  | .recursionLimitExceeded key limit =>
    limit = min e.settings.maxIncludeDepth 128 ∧
      ∃ t u c d, top = .ok t ∧ e.Entered t context limit u c ∧
        Reaches (e.inclusion 0) u c key d ∧
        ∃ node ∈ u, Placeholder.Refers (Placeholder.inlineLiterals d node.body.toList) key.toList

/-- What is said when a template is not found. -/
theorem truthful_template {e : Engine} {key : String} {err : RenderError}
    (h : e.template key = .error err) (top : Except RenderError Template) (context : Value) :
    e.Truthful top context err := by
  unfold Engine.template at h
  split at h
  next hparse =>
    cases h
    exact QualifiedKey.parse?_eq_none hparse
  next k _ =>
    split at h
    next => cases h
    next hfind =>
      split at h
      next hns =>
        cases h
        exact ⟨hns, hfind⟩
      next hns =>
        cases h
        exact Bool.eq_false_iff.mpr hns

/-- The error of a template that was entered is truthful. -/
theorem truthful_of_entered {e : Engine} {t u : Template} {context c : Value}
    {depth levels : Nat} (hentered : e.Entered t context depth u c)
    (hlevels : depth + levels = e.settings.depthLimit) {err : RenderError}
    (h : assemble (e.inclusion levels) c u = .error err) : e.Truthful (.ok t) context err := by
  -- on the levels left: with none the error is that of the inclusion reached, else it comes
  -- from there or from the template that is entered there
  induction levels generalizing depth u c with
  | zero =>
    obtain ⟨key, d, hreached, herr⟩ := exists_reached_of_error h
    cases herr
    rw [Nat.add_zero] at hlevels
    exact ⟨rfl, t, u, c, d, rfl, hlevels ▸ hentered, hreached, refers_of_reaches hreached⟩
  | succ levels ih =>
    obtain ⟨key, d, hreached, herr⟩ := exists_reached_of_error h
    cases htemplate : e.template key with
    | error err' =>
      rw [inclusion, htemplate] at herr
      cases herr
      exact truthful_template htemplate (.ok t) context
    | ok v =>
      rw [inclusion_of_template htemplate] at herr
      have hinside := Entered.inclusion hentered hlevels hreached htemplate
      exact ih hinside (by omega) (error_of_bind_pure herr)

/-- **Errors tell the truth.** An error of rendering a template, registered or not, says
that an address has no dot, or that a namespace is not registered, or that a namespace is
but a template in it is not, or that as many inclusions as the limit allows were entered one
inside another, the last of which went on to include the key. -/
theorem errors_tell_the_truth (e : Engine) (context : Value) :
    (∀ template err, e.renderTemplate template context = .error err →
      e.Truthful (.ok template) context err) ∧
    ∀ qualified err, e.render qualified context = .error err →
      e.Truthful (e.template qualified) context err := by
  have htop : ∀ template err, e.renderTemplate template context = .error err →
      e.Truthful (.ok template) context err := by
    intro template err h
    exact truthful_of_entered .top (Nat.zero_add _) (error_of_bind_pure h)
  refine ⟨htop, fun qualified err h => ?_⟩
  cases ht : e.template qualified with
  | error err' =>
    rw [render, ht] at h
    cases h
    exact truthful_template ht _ context
  | ok t =>
    rw [render_of_template ht] at h
    exact htop t err h

/-- A list whose elements each include a filter, and the filter includes a template that is
not there. With two levels it is missed, and with one it is not even looked for. -/
theorem errors_tell_the_truth_list :
    let list : Template := [.repetition "ids" "," "{{p.a}}"]
    let registry : Registry := ⟨[("p", [("a", [.conditional ":id != null" "{{p.b}}"]),
      ("list", list)])]⟩
    let e : Engine := ⟨registry, { maxIncludeDepth := 2 }⟩
    let shallow : Engine := ⟨registry, { maxIncludeDepth := 1 }⟩
    let context : Value := .object [("ids", .array [.object [("id", .string "7")]])]
    e.render "p.list" context = .error (.templateNotFound "p" "b") ∧
      e.Truthful (e.template "p.list") context (.templateNotFound "p" "b") ∧
      shallow.renderTemplate list context = .error (.recursionLimitExceeded "p.b" 1) ∧
      shallow.Truthful (.ok list) context (.recursionLimitExceeded "p.b" 1) := by
  intro list registry e shallow context
  have hmissed : e.render "p.list" context = .error (.templateNotFound "p" "b") := by
    dsimp only [list, registry, e, context]
    rfl
  have hlimit : shallow.renderTemplate list context =
      .error (.recursionLimitExceeded "p.b" 1) := by
    dsimp only [list, registry, shallow, context]
    rfl
  exact ⟨hmissed, (errors_tell_the_truth e context).2 _ _ hmissed,
    hlimit, (errors_tell_the_truth shallow context).1 _ _ hlimit⟩

end Engine

end SqlTemplate
