import SqlTemplate.Proofs.Fragment.Prepared
import SqlTemplate.Proofs.Render.LoneReference
import SqlTemplate.Proofs.Render.Texts

/-!
# Rendering with markers apart from parameters

The run of an engine that holds every fragment as text with bare markers and its parameters
beside it (`Prepared`). Nothing in it looks at a parameter together with its marker: binding adds
one to each list, an included statement is put in place with its parameters behind those that are
there, and repair goes by the markers alone.

Step by step it does what an engine on fragments does, set out in this form: binding and
expanding (`prepared_resolve`), one node (`prepared_renderNode`), one template
(`prepared_assemble`), and by induction on the levels that are left every inclusion
(`prepared_inclusion`).

> `renders_as_fragments`: both engines give the same statements and the same errors, and what
> is rendered here has a parameter for each marker.

So what is proved of the statements that fragments are written out as, of their markers, their
repair and their parameters, holds of the lists kept apart.
-/

namespace SqlTemplate

namespace Prepared

open Placeholder Text

/-! ## Resolving a text -/

/-- Puts in place what a part of a text is bound to. -/
def addBound (context : Value) (out : Prepared) : Char ⊕ List Char → Prepared
  | .inl c => out.addText [c]
  | .inr name => out.addParam (context.lookupOrNull (String.ofList name))

/-- Every `:name` replaced by a marker, its value added to the parameters. -/
def bindParams (context : Value) (s : List Char) : Prepared :=
  (cut boundAt s).foldl (addBound context) empty

section

variable {m : Type → Type} [Monad m]

/-- Puts in place a character, or what `fetch` gives for a key. -/
def addExpanded (fetch : String → m Prepared) (out : Prepared) : Char ⊕ List Char → m Prepared
  | .inl c => pure (out.addText [c])
  | .inr key => do
    let a ← fetch (String.ofList key)
    return out ++ a

/-- Every key in double braces replaced by what `fetch` gives for it, from left to right. -/
def expandReferences (fetch : String → m Prepared) (s : List Char) : m Prepared :=
  (cut referenceAt s).foldlM (addExpanded fetch) empty

/-- Resolves all placeholders of a text. -/
def resolve (fetch : String → m Prepared) (context : Value) (s : List Char) : m Prepared :=
  (bindParams context (inlineLiterals context s)).mapTexts .null fun _ => expandReferences fetch

end

/-! ## Rendering a template -/

/-- What keys in double braces stand for, depending on the context. -/
abbrev Inclusion := String → Value → Except RenderError Prepared

/-- Resolves a text against a context. -/
def resolveText (inclusion : Inclusion) (context : Value) (text : String) :
    Except RenderError Prepared :=
  resolve (fun key => inclusion key context) context text.toList

/-- What a node contributes to the statement; `none` if it takes no part. -/
def renderNode (inclusion : Inclusion) (context : Value) :
    Node → Except RenderError (Option Prepared)
  | .literal text => (resolveText inclusion context text).map some
  | .conditional test body =>
    if Condition.passes test context then (resolveText inclusion context body).map some
    else .ok none
  | .repetition arrayKey separator body =>
    match Engine.elements context arrayKey with
    | [] => .ok none
    | items => do
      let parts ← items.mapM fun item => resolveText inclusion item body
      return some (join separator.toList parts)

/-- The nodes that take part, joined by single spaces and repaired. -/
def assemble (inclusion : Inclusion) (context : Value) (template : Template) :
    Except RenderError Prepared := do
  let parts ← template.mapM (renderNode inclusion context)
  return (join [' '] (parts.filterMap id)).repaired

variable (e : Engine)

/-- How an included statement enters the text around it. Where its parameters are discarded, its
markers are written out. -/
def nest (a : Prepared) : Prepared :=
  match e.settings.nestedParams with
  | .inline => a
  | .discard => ofText (a.text e.settings.markers)

/-- Includes the template at an address, with so many levels left. -/
def inclusion : (levels : Nat) → Inclusion
  | 0, key, _ => .error (.recursionLimitExceeded key e.settings.depthLimit)
  | levels + 1, key, context => do
    let t ← e.template key
    let nested ← assemble (inclusion levels) context t
    return nest e nested

/-- A template that need not be registered, before it is written out. -/
def ofTemplate (template : Template) (context : Value) : Except RenderError Prepared :=
  assemble (inclusion e e.settings.depthLimit) context template

/-- Renders a template that need not be registered. -/
def renderTemplate (template : Template) (context : Value) : Except RenderError Statement := do
  let a ← ofTemplate e template context
  return ⟨a.sql e.settings.markers, a.params⟩

/-- Renders the template at an address. -/
def render (qualified : String) (context : Value) : Except RenderError Statement := do
  let t ← e.template qualified
  renderTemplate e t context

end Prepared

/-! ## Traversals -/

/-- What every result of a traversal is changed to, its list is changed to. -/
theorem mapM_map_result {α β γ ε : Type} (f : α → Except ε β) (g : β → γ) (xs : List α) :
    (xs.mapM fun x => g <$> f x) = List.map g <$> xs.mapM f := by
  induction xs with
  | nil => rfl
  | cons x xs ih =>
    rw [List.mapM_cons, List.mapM_cons, ih]
    cases f x with
    | error err => rfl
    | ok y => cases xs.mapM f <;> rfl

namespace Fragment

open Placeholder Text

/-! ## Resolving in both forms -/

/-- Part by part, binding adds to what is there. -/
theorem prepared_foldl_addBound (context : Value) (parts : List (Char ⊕ List Char)) {h : Fragment}
    (hh : h.Canonical) :
    parts.foldl (Prepared.addBound context) h.prepared =
      (h ++ ofPieces (parts.map fun
        | .inl c => .text [c]
        | .inr name => .param (context.lookupOrNull (String.ofList name)))).prepared := by
  induction parts generalizing h with
  | nil => exact congrArg prepared hh.append_empty.symm
  | cons part parts ih =>
    rw [List.map_cons, ← ofPieces_append, ← append_assoc, List.foldl_cons]
    cases part with
    | inl c =>
      rw [← ih (Canonical.append h (canonical_ofPieces _))]
      exact congrArg (parts.foldl _) (prepared_addText hh [c])
    | inr name =>
      rw [← ih (Canonical.append h (canonical_ofPieces _))]
      exact congrArg (parts.foldl _) (prepared_addParam hh _)

/-- Binding is the same in both forms. -/
theorem prepared_bindParams (context : Value) (s : List Char) :
    Prepared.bindParams context s = (bindParams context s).prepared :=
  prepared_foldl_addBound context (cut boundAt s) canonical_empty

section

variable {m : Type → Type} [Monad m] [LawfulMonad m] (fetch : String → m Fragment)

/-- Expanding adds to what is there, whatever the answers are: `h` stands for all that has been
put in place so far. -/
theorem prepared_foldlM_addExpanded (parts : List (Char ⊕ List Char)) {h : Fragment}
    (hh : h.Canonical) :
    parts.foldlM (Prepared.addExpanded fun key => prepared <$> fetch key) h.prepared =
      (fun gs => (h ++ concat gs).prepared) <$> parts.mapM fun
        | .inl c => pure (ofText [c])
        | .inr key => fetch (String.ofList key) := by
  induction parts generalizing h with
  | nil =>
    have hend : h ++ concat [] = h := hh.append_empty
    simp only [List.foldlM_nil, List.mapM_nil, map_pure, hend]
  | cons part parts ih =>
    rw [List.foldlM_cons, List.mapM_cons]
    cases part with
    | inl c =>
      have hnext := ih (Canonical.append h (canonical_ofText [c]))
      simp only [append_assoc] at hnext
      simp only [Prepared.addExpanded, pure_bind, prepared_addText hh, hnext, ← map_eq_pure_bind,
        Functor.map_map]
      rfl
    | inr key =>
      simp only [Prepared.addExpanded, map_bind, bind_map_left, ← map_eq_pure_bind,
        Functor.map_map]
      refine bind_congr fun g => ?_
      rw [prepared_append_any hh, ih (Canonical.append h (canonical_ofPieces g.pieces))]
      simp only [append_assoc, ofPieces_append_concat]

/-- Expanding is the same in both forms. -/
theorem prepared_expandReferences (s : List Char) :
    Prepared.expandReferences (fun key => prepared <$> fetch key) s =
      prepared <$> expandReferences fetch s := by
  refine (prepared_foldlM_addExpanded fetch (cut referenceAt s) canonical_empty).trans ?_
  simp only [expandReferences, ← map_eq_pure_bind, Functor.map_map]
  rfl

/-- Resolving a text is the same in both forms, in any monad and whatever the answers are. -/
theorem prepared_resolve (context : Value) (s : List Char) :
    Prepared.resolve (fun key => prepared <$> fetch key) context s =
      prepared <$> resolve fetch context s := by
  have hexpand : Prepared.expandReferences (fun key => prepared <$> fetch key) =
      fun s => prepared <$> expandReferences fetch s := funext (prepared_expandReferences fetch)
  rw [Prepared.resolve, prepared_bindParams, hexpand, resolve_eq_mapTexts]
  exact prepared_mapTexts .null (fun _ => expandReferences fetch) _

end

end Fragment

namespace Engine

open Fragment Placeholder

/-! ## Rendering in both forms -/

/-- A resolved text is put together of fragments, so it is canonical. -/
theorem canonical_resolveText {i : Inclusion} {context : Value} {text : String} {f : Fragment}
    (h : resolveText i context text = .ok f) : f.Canonical := by
  obtain ⟨parts, -, hf⟩ := bind_eq_ok.mp h
  cases hf
  exact canonical_concat parts

/-- So is what a node contributes, whether that is one text or several. -/
theorem canonical_renderNode {i : Inclusion} {context : Value} {node : Node} {f : Fragment}
    (h : renderNode i context node = .ok (some f)) : f.Canonical := by
  rw [renderNode_eq_mapM] at h
  obtain ⟨parts, hparts⟩ := ok_of_map h
  rw [hparts] at h
  cases parts with
  | nil => cases h
  | cons g gs =>
    cases h
    exact canonical_join _ (forall_of_mapM (fun _ _ => canonical_resolveText) hparts)

section

variable {i : Inclusion} {i' : Prepared.Inclusion}
  (hi : ∀ key context, i' key context = prepared <$> i key context)

include hi

/-- A text resolves the same in both forms. -/
theorem prepared_resolveText (context : Value) (text : String) :
    Prepared.resolveText i' context text = prepared <$> resolveText i context text := by
  have hfetch : (fun key => i' key context) = fun key => prepared <$> i key context :=
    funext fun key => hi key context
  rw [Prepared.resolveText, hfetch]
  exact prepared_resolve (fun key => i key context) context text.toList

/-- A node takes part in both forms or in neither, and with the same. -/
theorem prepared_renderNode (context : Value) (node : Node) :
    Prepared.renderNode i' context node = Option.map prepared <$> renderNode i context node := by
  have hone : ∀ text, (Prepared.resolveText i' context text).map some =
      Option.map prepared <$> (resolveText i context text).map some := by
    intro text
    rw [prepared_resolveText hi]
    cases resolveText i context text <;> rfl
  cases node with
  | literal text => exact hone text
  | conditional test body =>
    rw [Prepared.renderNode, renderNode]
    split
    · exact hone body
    · rfl
  | repetition arrayKey separator body =>
    rw [Prepared.renderNode, renderNode]
    cases elements context arrayKey with
    | nil => rfl
    | cons item items =>
      simp only [prepared_resolveText hi, mapM_map_result]
      cases hparts : (item :: items).mapM fun item => resolveText i item body with
      | error err => rfl
      | ok parts =>
        -- only canonical parts can be joined from the left as from the right
        have hcanonical := forall_of_mapM (fun _ _ => canonical_resolveText) hparts
        exact congrArg (fun a => Except.ok (some a)) (prepared_join _ hcanonical)

/-- A template comes to the same in both forms, if its inclusions do. -/
theorem prepared_assemble (context : Value) (t : Template) :
    Prepared.assemble i' context t = prepared <$> assemble i context t := by
  have hnodes : Prepared.renderNode i' context =
      fun node => Option.map prepared <$> renderNode i context node :=
    funext (prepared_renderNode hi context)
  rw [Prepared.assemble, assemble, hnodes, mapM_map_result]
  cases hparts : t.mapM (renderNode i context) with
  | error err => rfl
  | ok parts =>
    have hcanonical : ∀ f ∈ parts.filterMap id, f.Canonical := by
      have hnode : ∀ node out, renderNode i context node = .ok out → ∀ f ∈ out, f.Canonical := by
        rintro node _ hout f rfl
        exact canonical_renderNode hout
      intro f hf
      obtain ⟨out, hout, hsome⟩ := List.mem_filterMap.mp hf
      exact forall_of_mapM hnode hparts out hout f hsome
    have hkept : (parts.map (Option.map prepared)).filterMap id =
        (parts.filterMap id).map prepared := by
      rw [List.filterMap_map, List.map_filterMap]
      rfl
    refine congrArg Except.ok ?_
    rw [hkept, prepared_join _ hcanonical, repaired_prepared]

end

/-- An included statement enters the text around it in the same way. -/
theorem prepared_nest (e : Engine) (f : Fragment) :
    Prepared.nest e f.prepared = (e.nest f).prepared := by
  unfold Prepared.nest nest
  cases e.settings.nestedParams with
  | inline => rfl
  | discard => rw [text_prepared, prepared_ofText]

/-- Every inclusion is the same in both forms. -/
theorem prepared_inclusion (e : Engine) (levels : Nat) (key : String) (context : Value) :
    Prepared.inclusion e levels key context = prepared <$> e.inclusion levels key context := by
  induction levels generalizing key context with
  | zero => rfl
  | succ levels ih =>
    rw [Prepared.inclusion, inclusion]
    cases e.template key with
    | error err => rfl
    | ok t =>
      show (do let nested ← Prepared.assemble (Prepared.inclusion e levels) context t
               return Prepared.nest e nested) =
        prepared <$> (do let nested ← assemble (e.inclusion levels) context t
                         return e.nest nested)
      rw [prepared_assemble ih]
      cases assemble (e.inclusion levels) context t with
      | error err => rfl
      | ok f => exact congrArg Except.ok (prepared_nest e f)

/-- So a template is the same in both forms. -/
theorem prepared_ofTemplate (e : Engine) (t : Template) (context : Value) :
    Prepared.ofTemplate e t context = prepared <$> e.fragment t context :=
  prepared_assemble (prepared_inclusion e e.settings.depthLimit) context t

end Engine

namespace Prepared

open Engine Fragment

/-! ## Main result -/

/-- **Both engines render the same**, by template and by address, errors included. What is
written out here is built by the operations of this form and canonical, so there is a parameter
for each marker. -/
theorem renders_as_fragments (e : Engine) :
    (∀ t context, renderTemplate e t context = e.renderTemplate t context) ∧
    (∀ key context, render e key context = e.render key context) ∧
    ∀ t context a, ofTemplate e t context = .ok a →
      a.Built ∧ a.Canonical := by
  have htemplate : ∀ t context, renderTemplate e t context = e.renderTemplate t context := by
    intro t context
    rw [renderTemplate, Engine.renderTemplate, prepared_ofTemplate]
    cases e.fragment t context with
    | error err => rfl
    | ok f =>
      have hsql := sql_prepared f e.settings.markers
      exact congrArg (fun sql => Except.ok (Statement.mk sql f.params)) hsql
  refine ⟨htemplate, fun key context => ?_, fun t context a ha => ?_⟩
  · rw [render, Engine.render]
    cases e.template key with
    | error err => rfl
    | ok t => exact htemplate t context
  · rw [prepared_ofTemplate] at ha
    cases hf : e.fragment t context with
    | error err =>
      rw [hf] at ha
      cases ha
    | ok f =>
      rw [hf] at ha
      cases ha
      have hcanonical := canonical_assemble hf
      exact ⟨built_prepared (built_iff_canonical.mpr hcanonical), canonical_prepared hcanonical⟩

end Prepared

end SqlTemplate
