import SqlTemplate.Proofs.Placeholder.References
import SqlTemplate.Proofs.Render.DepthLimit
import SqlTemplate.Proofs.Render.Shape
import Mathlib.Logic.Relation

/-!
# References and the depth limit

Where no template inlines a value, the references of the templates are all there is to
include, whatever the data. An error that comes out of a template comes out of a key
that it refers to (`exists_error_of_assemble`); and a template whose literals refer to a
key is rendered only if that key is included (`included_of_assemble`). Conditionals and
repetitions decide which other references take part, so nothing is said of those.

Followed through the registered templates, level by level, this gives the two halves of

> `nesting_follows_references`: a template gives up only if its references go deeper
> than the limit, and one whose literals lead into a cycle is never rendered.
-/

namespace SqlTemplate

/-! ## References of templates -/

/-- The keys that a node refers to, in order. -/
def Node.references (node : Node) : List String :=
  ((Text.cut Placeholder.referenceAt node.body.toList).filterMap Sum.getRight?).map String.ofList

theorem Node.mem_references {node : Node} {key : String} :
    key ∈ node.references ↔ Placeholder.Refers node.body.toList key.toList :=
  Placeholder.mem_keys

namespace Template

/-- Whether no node of the template inlines a value. -/
def InlinesNothing (t : Template) : Prop :=
  ∀ node ∈ t, Placeholder.inlinesValue node.body.toList = false

/-- Whether a node of the template refers to the key. -/
def RefersTo (t : Template) (key : String) : Prop :=
  ∃ node ∈ t, Placeholder.Refers node.body.toList key.toList

/-- Whether a literal of the template refers to the key. -/
def RefersLiterally (t : Template) (key : String) : Prop :=
  ∃ text, .literal text ∈ t ∧ Placeholder.Refers text.toList key.toList

/-- The keys that a template refers to, in order. -/
def references (t : Template) : List String := t.flatMap Node.references

theorem mem_references {t : Template} {key : String} : key ∈ t.references ↔ t.RefersTo key := by
  unfold references RefersTo
  rw [List.mem_flatMap]
  exact exists_congr fun node => and_congr_right fun _ => Node.mem_references

end Template

namespace Engine

open Placeholder (Refers inlineLiterals resolve_error resolve_ok)

/-! ## What a template includes -/

section

variable {i : Inclusion} {context : Value}

/-- The error of a node is that of a key to which it refers, in its own context or that of an
element. -/
theorem exists_error_of_renderNode {node : Node} {err : RenderError}
    (h : renderNode i context node = .error err) :
    ∃ c key, Refers (inlineLiterals c node.body.toList) key ∧
      i (String.ofList key) c = .error err := by
  cases node with
  | literal text => exact ⟨context, resolve_error (error_of_map h)⟩
  | conditional test body =>
    rw [renderNode] at h
    split at h
    · exact ⟨context, resolve_error (error_of_map h)⟩
    · cases h
  | repetition arrayKey separator body =>
    rw [renderNode] at h
    split at h
    · cases h
    · obtain ⟨item, -, herr⟩ := exists_error_of_mapM (error_of_bind_pure h)
      exact ⟨item, resolve_error herr⟩

/-- The error of a template is that of a key to which one of its nodes refers. -/
theorem exists_error_of_assemble {t : Template} {err : RenderError}
    (h : assemble i context t = .error err) :
    ∃ node ∈ t, ∃ c key, Refers (inlineLiterals c node.body.toList) key ∧
      i (String.ofList key) c = .error err := by
  obtain ⟨node, hnode, herr⟩ := exists_error_of_mapM (error_of_bind_pure h)
  exact ⟨node, hnode, exists_error_of_renderNode herr⟩

/-- A template is rendered only if all that its literals refer to is included. -/
theorem included_of_assemble {t : Template} {f : Fragment} (h : assemble i context t = .ok f)
    {text : String} (htext : .literal text ∈ t) {key : List Char}
    (hkey : Refers (inlineLiterals context text.toList) key) :
    ∃ g, i (String.ofList key) context = .ok g := by
  obtain ⟨parts, hparts⟩ := ok_of_bind_pure h
  obtain ⟨part, hpart⟩ := forall_ok_of_mapM hparts (.literal text) htext
  rw [renderNode] at hpart
  obtain ⟨g, hresolve⟩ := ok_of_map hpart
  exact resolve_ok hresolve hkey

variable {t : Template} (ht : t.InlinesNothing)

include ht

/-- Where nothing is inlined, a template gives up at a key that it refers to. -/
theorem refersTo_of_gaveUp (h : GaveUp (assemble i context t)) :
    ∃ key c, t.RefersTo key ∧ GaveUp (i key c) := by
  obtain ⟨key, limit, herr⟩ := h
  obtain ⟨node, hnode, c, chars, hrefers, hi⟩ := exists_error_of_assemble herr
  rw [Placeholder.inlineLiterals_of_not_inlinesValue c (ht node hnode)] at hrefers
  refine ⟨String.ofList chars, c, ⟨node, hnode, ?_⟩, key, limit, hi⟩
  rwa [String.toList_ofList]

/-- Where nothing is inlined, a template is rendered only if the keys to which its
literals refer are included. -/
theorem included_of_refersLiterally {f : Fragment} (h : assemble i context t = .ok f)
    {key : String} (hkey : t.RefersLiterally key) : ∃ g, i key context = .ok g := by
  obtain ⟨text, htext, hrefers⟩ := hkey
  have hinline : inlineLiterals context text.toList = text.toList :=
    Placeholder.inlineLiterals_of_not_inlinesValue context (ht _ htext)
  obtain ⟨g, hg⟩ := included_of_assemble h htext (hinline.symm ▸ hrefers)
  rw [String.ofList_toList] at hg
  exact ⟨g, hg⟩

end

/-! ## Chains and cycles -/

/-- A chain of so many references, one after the other, starts at the template. Every
key but the last names a registered template. -/
inductive ReferenceChain (e : Engine) : Nat → Template → Prop where
  | last {t : Template} {key : String} : t.RefersTo key → ReferenceChain e 1 t
  | step {t u : Template} {key : String} {n : Nat} : t.RefersTo key → e.template key = .ok u →
      ReferenceChain e n u → ReferenceChain e (n + 1) t

/-- Whether a chain of more than `n` references starts at the template, by following all
of them. -/
def goesDeeperThan (e : Engine) : (n : Nat) → Template → Bool
  | 0, t => !t.references.isEmpty
  | n + 1, t => t.references.any fun key =>
    match e.template key with
    | .ok u => e.goesDeeperThan n u
    | .error _ => false

theorem not_referenceChain_zero {e : Engine} {t : Template} : ¬ ReferenceChain e 0 t := by
  intro h
  cases h

/-- A chain is found by following the references as deep as it is long. -/
theorem referenceChain_iff {e : Engine} {n : Nat} {t : Template} :
    ReferenceChain e (n + 1) t ↔ e.goesDeeperThan n t = true := by
  induction n generalizing t with
  | zero =>
    have hany : e.goesDeeperThan 0 t = true ↔ ∃ key, key ∈ t.references := by
      simp [goesDeeperThan, List.eq_nil_iff_forall_not_mem]
    rw [hany]
    constructor
    · rintro (⟨hkey⟩ | ⟨hkey, _, hchain⟩)
      · exact ⟨_, Template.mem_references.mpr hkey⟩
      · exact absurd hchain not_referenceChain_zero
    · rintro ⟨key, hkey⟩
      exact .last (Template.mem_references.mp hkey)
  | succ n ih =>
    rw [goesDeeperThan, List.any_eq_true]
    constructor
    · rintro (_ | ⟨hkey, htemplate, hchain⟩)
      refine ⟨_, Template.mem_references.mpr hkey, ?_⟩
      rw [htemplate]
      exact ih.mp hchain
    · rintro ⟨key, hkey, hdeeper⟩
      cases htemplate : e.template key with
      | error err => simp [htemplate] at hdeeper
      | ok u =>
        rw [htemplate] at hdeeper
        exact .step (Template.mem_references.mp hkey) htemplate (ih.mpr hdeeper)

/-- The second template is included by a literal of the first. -/
def LiteralStep (e : Engine) (t u : Template) : Prop :=
  ∃ key, t.RefersLiterally key ∧ e.template key = .ok u

/-- Following the references of literals leads from the template into a cycle. -/
def LeadsIntoCycle (e : Engine) (t : Template) : Prop :=
  ∃ u, Relation.ReflTransGen e.LiteralStep t u ∧ Relation.TransGen e.LiteralStep u u

/-- What leads into a cycle has a step that leads into it, too. -/
theorem LeadsIntoCycle.step {e : Engine} {t : Template} (h : e.LeadsIntoCycle t) :
    ∃ u, e.LiteralStep t u ∧ e.LeadsIntoCycle u := by
  obtain ⟨v, hpath, hcycle⟩ := h
  rcases hpath.cases_head with rfl | ⟨u, hstep, hrest⟩
  · obtain ⟨u, hstep, hback⟩ := Relation.TransGen.head'_iff.mp hcycle
    exact ⟨u, hstep, t, hback, hcycle⟩
  · exact ⟨u, hstep, v, hrest, hcycle⟩

/-! ## Level by level -/

section

variable {e : Engine}

theorem not_gaveUp_template (key : String) : ¬ GaveUp (e.template key) := by
  rintro ⟨key', limit, h⟩
  unfold Engine.template at h
  split at h
  · cases h
  · split at h
    · cases h
    · split at h <;> cases h

/-- Including a template that is found is rendering it one level deeper. -/
theorem inclusion_of_template {levels : Nat} {key : String} {context : Value} {u : Template}
    (hu : e.template key = .ok u) :
    e.inclusion (levels + 1) key context =
      (assemble (e.inclusion levels) context u >>= fun f => pure (e.nest f)) := by
  rw [inclusion, hu]
  rfl

/-- An inclusion that gives up although a level is left gives up inside the template
that it names. -/
theorem gaveUp_inside {levels : Nat} {key : String} {context : Value}
    (h : GaveUp (e.inclusion (levels + 1) key context)) :
    ∃ u, e.template key = .ok u ∧ GaveUp (assemble (e.inclusion levels) context u) := by
  obtain ⟨key', limit, herr⟩ := h
  cases htemplate : e.template key with
  | error err =>
    -- a key that names nothing is another error
    rw [inclusion, htemplate] at herr
    cases herr
    exact absurd ⟨key', limit, htemplate⟩ (not_gaveUp_template key)
  | ok u =>
    rw [inclusion_of_template htemplate] at herr
    exact ⟨u, rfl, key', limit, error_of_bind_pure herr⟩

variable (hplain : ∀ {key u}, e.template key = .ok u → u.InlinesNothing)

include hplain

/-- Whoever gives up with so many levels left has a chain of one more reference. -/
theorem referenceChain_of_gaveUp {levels : Nat} {context : Value} {t : Template}
    (ht : t.InlinesNothing) (h : GaveUp (assemble (e.inclusion levels) context t)) :
    ReferenceChain e (levels + 1) t := by
  -- on the levels left: the last of them is used up by the last reference
  induction levels generalizing context t with
  | zero =>
    obtain ⟨key, c, hkey, -⟩ := refersTo_of_gaveUp ht h
    exact .last hkey
  | succ levels ih =>
    obtain ⟨key, c, hkey, hgave⟩ := refersTo_of_gaveUp ht h
    obtain ⟨u, htemplate, hnested⟩ := gaveUp_inside hgave
    exact .step hkey htemplate (ih (hplain htemplate) hnested)

/-- What leads into a cycle is not rendered, however many levels are left. -/
theorem not_ok_of_leadsIntoCycle {levels : Nat} {context : Value} {t : Template}
    (ht : t.InlinesNothing) (h : e.LeadsIntoCycle t) (f : Fragment) :
    assemble (e.inclusion levels) context t ≠ .ok f := by
  -- on the levels left: each of them is spent on one more step towards the cycle
  induction levels generalizing t f with
  | zero =>
    intro hok
    obtain ⟨u, ⟨key, hkey, -⟩, -⟩ := h.step
    obtain ⟨g, hg⟩ := included_of_refersLiterally ht hok hkey
    cases hg
  | succ levels ih =>
    intro hok
    obtain ⟨u, ⟨key, hkey, htemplate⟩, hu⟩ := h.step
    obtain ⟨g, hg⟩ := included_of_refersLiterally ht hok hkey
    rw [inclusion_of_template htemplate] at hg
    obtain ⟨nested, hnested⟩ := ok_of_bind_pure hg
    exact ih (hplain htemplate) hu nested hnested

end

/-- Rendering by address is rendering the template found there. -/
theorem render_of_template {e : Engine} {qualified : String} {t : Template}
    (h : e.template qualified = .ok t) (context : Value) :
    e.render qualified context = e.renderTemplate t context := by
  rw [render, h]
  rfl

/-- **Nesting follows the references.** Let no registered template and not the one
rendered inline a value. Whatever the data, it is rendered without giving up unless a
chain of more references than the limit starts at it; and it is never rendered if its
literals lead into a cycle. The same holds if it is rendered by its address. -/
theorem nesting_follows_references (e : Engine) (template : Template)
    (hplain : ∀ t ∈ template :: e.registry.templates, ∀ node ∈ t,
      Placeholder.inlinesValue node.body.toList = false) (context : Value) :
    (¬ ReferenceChain e (e.settings.depthLimit + 1) template →
      ¬ GaveUp (e.renderTemplate template context) ∧
      ∀ qualified, e.template qualified = .ok template → ¬ GaveUp (e.render qualified context)) ∧
    (e.LeadsIntoCycle template → ∀ s,
      e.renderTemplate template context ≠ .ok s ∧
      ∀ qualified, e.template qualified = .ok template → e.render qualified context ≠ .ok s) := by
  have htop : template.InlinesNothing := hplain template (List.mem_cons_self ..)
  have hregistered : ∀ {key u}, e.template key = .ok u → Template.InlinesNothing u := by
    intro key u hu
    obtain ⟨ns, k, hfind⟩ := registered_of_template hu
    exact hplain u (List.mem_cons_of_mem template (Registry.mem_templates hfind))
  constructor
  · intro hchain
    have hnot : ¬ GaveUp (e.renderTemplate template context) := by
      rintro ⟨key, limit, h⟩
      exact hchain (referenceChain_of_gaveUp hregistered htop
        ⟨key, limit, error_of_bind_pure h⟩)
    exact ⟨hnot, fun qualified hq => render_of_template hq context ▸ hnot⟩
  · intro hcycle s
    have hnot : e.renderTemplate template context ≠ .ok s := by
      intro h
      obtain ⟨f, hf⟩ := ok_of_bind_pure h
      exact not_ok_of_leadsIntoCycle hregistered htop hcycle f hf
    exact ⟨hnot, fun qualified hq => render_of_template hq context ▸ hnot⟩

/-- Two levels of inclusion, the inner one inside a repetition, under a limit of two;
and two parts whose literals include each other. -/
theorem nesting_follows_references_search :
    let search : Template := [.literal "SELECT * FROM t WHERE",
      .conditional ":ids != null" "{{ part.any }}"]
    let ping : Template := [.literal "SELECT 1", .literal "({{ part.pong }})"]
    let e : Engine := ⟨⟨[("part", [("any", [.repetition "ids" " OR " "{{part.one}}"]),
      ("one", [.literal "id = :id"]), ("ping", ping), ("pong", [.literal "{{ part.ping }}"])])]⟩,
      { maxIncludeDepth := 2 }⟩
    let context : Value := .object [("ids", .array [.string "a", .string "b"])]
    (∀ t ∈ search :: e.registry.templates, ∀ node ∈ t,
      Placeholder.inlinesValue node.body.toList = false) ∧
    ¬ ReferenceChain e (e.settings.depthLimit + 1) search ∧
    ¬ GaveUp (e.renderTemplate search context) ∧
    e.LeadsIntoCycle ping ∧ ∀ s, e.render "part.ping" context ≠ .ok s := by
  intro search ping e context
  have hsearch : ∀ t ∈ search :: e.registry.templates, ∀ node ∈ t,
      Placeholder.inlinesValue node.body.toList = false := by decide
  have hping : ∀ t ∈ ping :: e.registry.templates, ∀ node ∈ t,
      Placeholder.inlinesValue node.body.toList = false := by decide
  have hchain : ¬ ReferenceChain e (e.settings.depthLimit + 1) search := by
    rw [referenceChain_iff]
    decide
  have hpong : Refers "({{ part.pong }})".toList "part.pong".toList :=
    (@Node.mem_references (.literal "({{ part.pong }})") "part.pong").mp (by decide)
  have hagain : Refers "{{ part.ping }}".toList "part.ping".toList :=
    (@Node.mem_references (.literal "{{ part.ping }}") "part.ping").mp (by decide)
  have hthere : e.LiteralStep ping [.literal "{{ part.ping }}"] :=
    ⟨"part.pong", ⟨"({{ part.pong }})", by decide, hpong⟩, rfl⟩
  have hback : e.LiteralStep [.literal "{{ part.ping }}"] ping :=
    ⟨"part.ping", ⟨"{{ part.ping }}", by decide, hagain⟩, rfl⟩
  have hcycle : e.LeadsIntoCycle ping := ⟨ping, .refl, .tail (.single hthere) hback⟩
  refine ⟨hsearch, hchain, ?_, hcycle, fun s => ?_⟩
  · exact ((nesting_follows_references e search hsearch context).1 hchain).1
  · exact ((nesting_follows_references e ping hping context).2 hcycle s).2 "part.ping" rfl

end Engine

end SqlTemplate
