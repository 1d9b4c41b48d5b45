import SqlTemplate.Proofs.Render.Texts
import Mathlib.Data.List.Basic

/-!
# Deciding conditions before rendering

Whether a node takes part depends on the data only, not on what its text resolves to. So a
template can be decided first: a conditional that holds becomes a literal, one that does not
hold goes, and so does a repetition over anything but an array with elements. In what is left
every node contributes (`contribution`), and the statement is made of these contributions.

> `conditions_decided_first`: the decided template renders to the same outcome. Nodes that take
> no part can stand anywhere and hold anything.
-/

namespace SqlTemplate

/-- A node as its data decide it: nothing if it takes no part. A condition that has a fault does
not hold. -/
def Node.decided (context : Value) : Node → List Node
  | .literal text => [.literal text]
  | .conditional test body =>
    match Condition.evaluate test context with
    | .ok true => [.literal body]
    | _ => []
  | .repetition arrayKey separator body =>
    match context.lookup arrayKey with
    | some (.array (_ :: _)) => [.repetition arrayKey separator body]
    | _ => []

/-- The nodes of a template that take part, with their conditions decided. -/
def Template.decided (context : Value) (t : Template) : Template := t.flatMap (Node.decided context)

theorem Template.decided_cons (context : Value) (node : Node) (t : Template) :
    Template.decided context (node :: t) = node.decided context ++ t.decided context :=
  rfl

theorem Template.decided_append (context : Value) (t u : Template) :
    Template.decided context (t ++ u) = t.decided context ++ u.decided context :=
  List.flatMap_append

/-- A decided node has the texts of the node that it stands for, and deciding it again changes
nothing. A node that goes has no texts to resolve. -/
theorem Node.decided_cases (context : Value) (node : Node) :
    (node.decided context = [] ∧ node.texts context = []) ∨
    ∃ node' : Node, node.decided context = [node'] ∧ node'.decided context = [node'] ∧
      node'.texts context = node.texts context ∧ node'.separator = node.separator ∧
      node.texts context ≠ [] := by
  cases node with
  | literal text => exact Or.inr ⟨.literal text, rfl, rfl, rfl, rfl, List.cons_ne_nil _ _⟩
  | conditional test body =>
    unfold decided texts Condition.passes
    dsimp only
    cases Condition.evaluate test context with
    | error fault => exact Or.inl ⟨rfl, rfl⟩
    | ok holds =>
      cases holds with
      | false => exact Or.inl ⟨rfl, rfl⟩
      | true => exact Or.inr ⟨.literal body, rfl, rfl, rfl, rfl, List.cons_ne_nil _ _⟩
  | repetition arrayKey separator body =>
    unfold decided texts Engine.elements
    dsimp only
    split
    next item items hlookup =>
      refine Or.inr ⟨.repetition arrayKey separator body, rfl, ?_, ?_, rfl, ?_⟩
      · dsimp only
        rw [hlookup]
      · dsimp only
      · rw [hlookup]
        exact List.cons_ne_nil _ _
    next hnone =>
      refine Or.inl ⟨rfl, ?_⟩
      split
      next items hlookup =>
        cases items with
        | nil => rfl
        | cons item items => exact absurd hlookup (hnone item items)
      next => rfl

theorem Template.decided_decided (context : Value) (t : Template) :
    (t.decided context).decided context = t.decided context := by
  induction t with
  | nil => rfl
  | cons node t ih =>
    rw [decided_cons, decided_append, ih]
    congr 1
    obtain ⟨hgone, -⟩ | ⟨node', hnode, hagain, -⟩ := node.decided_cases context
    · rw [hgone]
      rfl
    · rw [hnode]
      simpa [decided] using hagain

namespace Engine

/-- What a node that takes part contributes: its texts, resolved and joined. -/
def contribution (i : Inclusion) (context : Value) (node : Node) : Except RenderError Fragment :=
  ((node.texts context).mapM fun p => resolveText i p.1 p.2).map
    (Fragment.join node.separator.toList)

/-- A node without texts takes no part. -/
theorem renderNode_of_texts_eq_nil (i : Inclusion) {context : Value} {node : Node}
    (h : node.texts context = []) : renderNode i context node = .ok none := by
  rw [renderNode_eq_mapM, h]
  rfl

/-- A node with texts contributes. -/
theorem renderNode_of_texts_ne_nil (i : Inclusion) {context : Value} {node : Node}
    (h : node.texts context ≠ []) :
    renderNode i context node = (contribution i context node).map some := by
  rw [renderNode_eq_mapM, contribution]
  obtain ⟨p, ps, hps⟩ := List.exists_cons_of_ne_nil h
  -- with one text at least there is one part at least
  rw [hps, List.mapM_cons]
  cases resolveText i p.1 p.2 with
  | error err => rfl
  | ok f => cases ps.mapM fun p => resolveText i p.1 p.2 <;> rfl

/-- Rendering the nodes and leaving out those that take no part is deciding them first. -/
theorem mapM_renderNode (i : Inclusion) (context : Value) (t : Template) :
    (t.mapM (renderNode i context)).map (List.filterMap id) =
      (t.decided context).mapM (contribution i context) := by
  induction t with
  | nil => rfl
  | cons node t ih =>
    rw [List.mapM_cons, Template.decided_cons]
    obtain ⟨hgone, htexts⟩ | ⟨node', hnode, -, htexts, hseparator, hne⟩ :=
      node.decided_cases context
    · rw [hgone, List.nil_append, ← ih, renderNode_of_texts_eq_nil i htexts]
      cases t.mapM (renderNode i context) <;> rfl
    · have hsame : contribution i context node' = contribution i context node := by
        rw [contribution, contribution, htexts, hseparator]
      rw [hnode, List.singleton_append, List.mapM_cons, hsame, ← ih,
        renderNode_of_texts_ne_nil i hne]
      cases contribution i context node with
      | error err => rfl
      | ok f => cases t.mapM (renderNode i context) <;> rfl

/-- The contributions of the decided nodes, joined by single spaces and repaired. -/
theorem assemble_eq_contributions (i : Inclusion) (context : Value) (t : Template) :
    assemble i context t = (do
      let parts ← (t.decided context).mapM (contribution i context)
      return (Fragment.join [' '] parts).repaired) := by
  rw [← mapM_renderNode, assemble]
  cases t.mapM (renderNode i context) <;> rfl

/-- Deciding first changes neither the statement nor the error. -/
theorem renderTemplate_decided (e : Engine) (t : Template) (context : Value) :
    e.renderTemplate (t.decided context) context = e.renderTemplate t context := by
  unfold renderTemplate fragment
  rw [assemble_eq_contributions, assemble_eq_contributions, Template.decided_decided]

/-- **Conditions can be decided before rendering.** A template and the one in which conditions
are decided and nodes that take no part are gone render to the same statement or fail with the
same error. The spaces and the repair are those of the nodes that are left, each of which
contributes. A node that takes no part changes nothing, wherever it stands and whatever its text
would lead to. -/
theorem conditions_decided_first (e : Engine) (t : Template) (context : Value) :
    e.renderTemplate t context = e.renderTemplate (t.decided context) context ∧
    e.fragment t context = (do
      let parts ← (t.decided context).mapM
        (contribution (e.inclusion e.settings.depthLimit) context)
      return (Fragment.join [' '] parts).repaired) ∧
    ∀ (before after : Template) (omitted : Node), omitted.decided context = [] →
      e.renderTemplate (before ++ omitted :: after) context =
        e.renderTemplate (before ++ after) context := by
  refine ⟨(renderTemplate_decided e t context).symm, assemble_eq_contributions _ context t, ?_⟩
  intro before after omitted homitted
  have hdecided : Template.decided context (before ++ omitted :: after) =
      Template.decided context (before ++ after) := by
    rw [Template.decided_append, Template.decided_cons, homitted, List.nil_append,
      Template.decided_append]
  rw [← renderTemplate_decided, hdecided, renderTemplate_decided]

/-- A conditional with a fault around an unknown template, a repetition over no element around a
template that includes itself, and between them a condition that holds. -/
theorem conditions_decided_first_cycle :
    let e : Engine := ⟨⟨[("p", [("loop", [.literal "{{ p.loop }}"])])]⟩, {}⟩
    let context : Value := .object [("a", .string "x"), ("ids", .array [])]
    let unknown : Node := .conditional ":a ===" "AND {{ no.where }}"
    let cyclic : Node := .repetition "ids" ", " "{{ p.loop }} :id"
    let search : Template := [.literal "SELECT * FROM t WHERE", unknown,
      .conditional ":a == 'x'" "AND a = :a", cyclic]
    unknown.decided context = [] ∧ cyclic.decided context = [] ∧
    search.decided context = [.literal "SELECT * FROM t WHERE", .literal "AND a = :a"] ∧
    e.renderTemplate search context = .ok ⟨"SELECT * FROM t WHERE a = ?", [.string "x"]⟩ ∧
    e.renderTemplate [.literal "SELECT * FROM t WHERE", unknown] context =
      e.renderTemplate [.literal "SELECT * FROM t WHERE"] context := by
  intro e context unknown cyclic search
  have hunknown : unknown.decided context = [] := by rfl
  have hsearch : search.decided context =
      [.literal "SELECT * FROM t WHERE", .literal "AND a = :a"] := by rfl
  obtain ⟨hrender, -, homit⟩ := conditions_decided_first e search context
  refine ⟨hunknown, by rfl, hsearch, ?_,
    homit [.literal "SELECT * FROM t WHERE"] [] unknown hunknown⟩
  rw [hrender, hsearch]
  rfl

end Engine

end SqlTemplate
