import SqlTemplate.Proofs.Condition.Defaults
import SqlTemplate.Proofs.Render.TwoRuns

/-!
# Data enters by lookup

Rendering never looks at a context as a whole. Tests, placeholders and repetitions ask it for
names, and inclusions hand it on. So contexts in which every name denotes the same cannot be
told apart (`looksAlike_sameLookups`), at any depth:

> `data_enters_by_lookup`: such contexts render to the same statement, or to the same error,
> and stand for each other among the elements of a repetition.

`null` and the object without fields are two such contexts: in neither does a name denote
anything.
-/

namespace SqlTemplate

/-- Contexts in which every name denotes the same. -/
def SameLookups (c d : Value) : Prop := ∀ name, c.lookup name = d.lookup name

/-- In `null` every name is absent, as it is where there are no fields. -/
theorem sameLookups_null : SameLookups .null (.object []) :=
  fun name => (Value.lookup_object_of_fields? rfl name).symm

section

variable {c d : Value} (h : SameLookups c d)

include h

/-! ## What is asked of a context -/

theorem SameLookups.lookupOrNull (name : String) : c.lookupOrNull name = d.lookupOrNull name := by
  unfold Value.lookupOrNull
  rw [h name]

/-- Conditions ask for names and, behind an absent one, for its root. -/
theorem SameLookups.passes (test : String) :
    Condition.passes test c = Condition.passes test d := by
  have hname : ∀ defaults name bound,
      Condition.resolveName defaults c name bound = Condition.resolveName defaults d name bound := by
    intro defaults name bound
    unfold Condition.resolveName
    rw [h name]
    cases Condition.root? name with
    | none => rfl
    | some root =>
      dsimp only
      rw [h root]
  have heval : ∀ condition : Condition, condition.eval c = condition.eval d := by
    intro condition
    have hvalue : condition.term.eval condition.defaults c =
        condition.term.eval condition.defaults d := by
      rw [Condition.Term.eval_eq_value, Condition.Term.eval_eq_value]
      exact Condition.Term.value_congr (fun name => hname _ name _) fun name _ => hname _ name _
    rw [Condition.eval, Condition.eval, hvalue]
  unfold Condition.passes Condition.evaluate
  simp only [heval]

theorem SameLookups.inlineLiterals (s : List Char) :
    Placeholder.inlineLiterals c s = Placeholder.inlineLiterals d s := by
  unfold Placeholder.inlineLiterals
  simp only [h.lookupOrNull]

theorem SameLookups.bindParams (s : List Char) :
    Placeholder.bindParams c s = Placeholder.bindParams d s := by
  unfold Placeholder.bindParams
  simp only [h.lookupOrNull]

theorem SameLookups.elements (name : String) : Engine.elements c name = Engine.elements d name := by
  unfold Engine.elements
  rw [h name]

end

namespace Engine

/-! ## Rendering -/

/-- No template tells such contexts apart. -/
theorem looksAlike_sameLookups (t : Template) : LooksAlike SameLookups Eq t where
  passes h _ _ _ := h.passes _
  elements h _ _ _ _ := by
    rw [h.elements]
    exact List.forall₂_same.mpr fun _ _ _ => rfl
  bound h _ _ := by
    rw [h.inlineLiterals, h.bindParams]
    exact Fragment.forall₂_pieceRelated_refl (fun _ => rfl) _

/-- An engine can be compared with itself against such contexts. -/
theorem comparable_sameLookups (e : Engine) : Comparable SameLookups Eq e e where
  registry := rfl
  depth := rfl
  nest h := congrArg e.nest h
  registered _ := looksAlike_sameLookups _

theorem eq_of_written {e : Engine} {s s' : Statement} (h : Written Eq e e s s') : s = s' := by
  obtain ⟨f, f', rfl, rfl, rfl⟩ := h
  rfl

/-- A template that is given renders the same. -/
theorem renderTemplate_eq_of_sameLookups (e : Engine) (template : Template) {c d : Value}
    (h : SameLookups c d) : e.renderTemplate template c = e.renderTemplate template d :=
  agree_eq_iff.mp <| (renderTemplate_agree Fragment.respected_eq (comparable_sameLookups e) h
    (looksAlike_sameLookups template)).imp fun _ _ => eq_of_written

/-- So does one that is registered. -/
theorem render_eq_of_sameLookups (e : Engine) (qualified : String) {c d : Value}
    (h : SameLookups c d) : e.render qualified c = e.render qualified d :=
  agree_eq_iff.mp <| (render_agree Fragment.respected_eq (comparable_sameLookups e) h
    qualified).imp fun _ _ => eq_of_written

/-- A text resolves to the same fragment, whatever its references lead to. -/
theorem resolveText_eq_of_sameLookups (e : Engine) (levels : Nat) (text : String) {c d : Value}
    (h : SameLookups c d) :
    resolveText (e.inclusion levels) c text = resolveText (e.inclusion levels) d text := by
  have hnode : Node.literal text ∈ [Node.literal text] := List.mem_singleton_self _
  have hrelated := resolveText_related Comparison.agree Fragment.respected_eq
    (inclusion_agree Fragment.respected_eq (comparable_sameLookups e) levels)
    (looksAlike_sameLookups [.literal text]) h hnode
  exact agree_eq_iff.mp hrelated

/-- **Data enters by lookup.** Contexts in which every name denotes the same render every
template, given or registered, to the same statement or the same error; `null` and the object
without fields are such contexts. At every level of inclusion a repetition contributes the same
where its elements are such contexts, one by one. -/
theorem data_enters_by_lookup (e : Engine) (template : Template) :
    (∀ {c d : Value}, SameLookups c d →
      e.renderTemplate template c = e.renderTemplate template d ∧
      ∀ qualified, e.render qualified c = e.render qualified d) ∧
    (e.renderTemplate template .null = e.renderTemplate template (.object []) ∧
      ∀ qualified, e.render qualified .null = e.render qualified (.object [])) ∧
    SameLookups .null (.object []) ∧
    ∀ (levels : Nat) {c d : Value} (arrayKey separator body : String),
      List.Forall₂ SameLookups (elements c arrayKey) (elements d arrayKey) →
      renderNode (e.inclusion levels) c (.repetition arrayKey separator body) =
        renderNode (e.inclusion levels) d (.repetition arrayKey separator body) := by
  have hsame : ∀ {c d : Value}, SameLookups c d →
      e.renderTemplate template c = e.renderTemplate template d ∧
      ∀ qualified, e.render qualified c = e.render qualified d :=
    fun h => ⟨renderTemplate_eq_of_sameLookups e template h,
      fun qualified => render_eq_of_sameLookups e qualified h⟩
  refine ⟨hsame, hsame sameLookups_null, sameLookups_null, ?_⟩
  intro levels c d arrayKey separator body hitems
  have hnode := renderRepetition_related Comparison.agree Fragment.respected_eq separator
    (hitems.imp fun x y hxy =>
      agree_eq_iff.mpr (resolveText_eq_of_sameLookups e levels body hxy))
  refine agree_eq_iff.mp (hnode.imp fun f f' hff => ?_)
  cases hff with
  | some h => rw [h]
  | none => rfl

/-- Rows that are rendered through an included template: `null` and the object without fields
are both a row in which nothing is known. -/
theorem data_enters_by_lookup_rows :
    let row : Template := [.literal "(:id, :name", .conditional "id != null" ", now()",
      .literal ")"]
    let e : Engine := ⟨⟨[("row", [("values", row)])]⟩, { nestedParams := .inline }⟩
    let node : Node := .repetition "rows" ", " "{{ row.values }}"
    let known : Value := .object [("id", .string "7")]
    let c : Value := .object [("rows", .array [.null, known])]
    let d : Value := .object [("rows", .array [.object [], known])]
    SameLookups .null (.object []) ∧
      e.render "row.values" .null = e.render "row.values" (.object []) ∧
      List.Forall₂ SameLookups (elements c "rows") (elements d "rows") ∧
      renderNode (e.inclusion 1) c node = renderNode (e.inclusion 1) d node ∧
      renderNode (e.inclusion 1) c node = .ok (some ⟨[.text "(".toList, .param .null,
        .text ", ".toList, .param .null, .text " ), (".toList, .param (.string "7"),
        .text ", ".toList, .param .null, .text " , now() )".toList]⟩) := by
  intro row e node known c d
  obtain ⟨hsame, -, hnull, hrepetition⟩ := data_enters_by_lookup e [node]
  have hitems : List.Forall₂ SameLookups (elements c "rows") (elements d "rows") :=
    .cons hnull (.cons (fun _ => rfl) .nil)
  refine ⟨hnull, (hsame hnull).2 "row.values", hitems,
    hrepetition 1 "rows" ", " "{{ row.values }}" hitems, ?_⟩
  dsimp only [e, row, node, c, known]
  rfl

end Engine

end SqlTemplate
