import SqlTemplate.Proofs.Fragment.Repaired
import SqlTemplate.Proofs.Placeholder.References
import SqlTemplate.Proofs.Render.Texts

/-!
# Parameters of a statement that discards nested ones

Under `NestedParams.discard` an included statement is text and brings no parameters along.
So the parameters of a statement are the values that the texts of its own template bind, in
order (`Template.boundValues`). Neither the registry nor any other setting has a say in
them.

> `params_of_discard`: the parameters are those the template binds itself.
> `included_bind_no_params`: so they are the same whatever is included, in whatever style.
-/

namespace SqlTemplate

/-- The values that a text binds, in order. -/
def Placeholder.boundValues (context : Value) (text : String) : List Value :=
  (bindParams context (inlineLiterals context text.toList)).params

/-- The values that the texts of a template bind, in order. -/
def Template.boundValues (context : Value) (t : Template) : List Value :=
  (t.texts context).flatMap fun p => Placeholder.boundValues p.1 p.2

/-! ## What a traversal gathers -/

/-- What the results of a traversal hold is what its elements account for. -/
theorem flatMap_of_mapM {α β γ ε : Type} {f : α → Except ε β} {p : β → List γ} {g : α → List γ}
    {xs : List α} {ys : List β} (h : ∀ x y, f x = .ok y → p y = g x) (hys : xs.mapM f = .ok ys) :
    ys.flatMap p = xs.flatMap g := by
  have hall := forall₂_of_mapM hys
  clear hys
  induction hall with
  | nil => rfl
  | cons hy _ ih => rw [List.flatMap_cons, List.flatMap_cons, h _ _ hy, ih]

namespace Fragment

theorem params_concat (fs : List Fragment) : (concat fs).params = fs.flatMap params := by
  induction fs with
  | nil => rfl
  | cons f fs ih =>
    show (f ++ concat fs).params = f.params ++ fs.flatMap params
    rw [params_append, ih]

/-- A node has the parameters of its parts. -/
theorem params_joinAny? (separator : List Char) (fs : List Fragment) :
    (joinAny? separator fs).elim [] params = fs.flatMap params := by
  cases fs with
  | nil => rfl
  | cons f fs => exact params_join separator (f :: fs)

end Fragment

namespace Placeholder

section

variable {ε : Type} {fetch : String → Except ε Fragment}
  (hfetch : ∀ key f, fetch key = .ok f → f.params = [])

include hfetch

/-- References to statements without parameters bring none along. -/
theorem params_expandReferences {s : List Char} {f : Fragment}
    (h : expandReferences fetch s = .ok f) : f.params = [] := by
  obtain ⟨parts, hparts, hf⟩ := bind_eq_ok.mp h
  cases hf
  have hnone : parts.flatMap Fragment.params = (Text.cut referenceAt s).flatMap fun _ => [] := by
    refine flatMap_of_mapM (fun part g hg => ?_) hparts
    cases part with
    | inl c =>
      cases hg
      exact Fragment.params_ofText [c]
    | inr key => exact hfetch _ g hg
  rw [Fragment.params_concat, hnone]
  exact List.flatMap_eq_nil_iff.mpr fun _ _ => rfl

/-- A text has the parameters that it binds. -/
theorem params_resolve {context : Value} {text : String} {f : Fragment}
    (h : resolve fetch context text.toList = .ok f) : f.params = boundValues context text := by
  obtain ⟨parts, hparts, hf⟩ := bind_eq_ok.mp h
  cases hf
  rw [Fragment.params_concat, boundValues, Fragment.params, List.filterMap_eq_flatMap_toList]
  refine flatMap_of_mapM (fun piece g hg => ?_) hparts
  cases piece with
  | text s => exact params_expandReferences hfetch hg
  | param v =>
    cases hg
    rfl

end

end Placeholder

namespace Engine

section

variable {i : Inclusion} (hi : ∀ key c f, i key c = .ok f → f.params = []) {context : Value}

include hi

theorem params_renderNode {node : Node} {part : Option Fragment}
    (h : renderNode i context node = .ok part) :
    part.elim [] Fragment.params =
      (node.texts context).flatMap fun p => Placeholder.boundValues p.1 p.2 := by
  rw [renderNode_eq_mapM] at h
  cases hparts : (node.texts context).mapM fun p => resolveText i p.1 p.2 with
  | error err =>
    rw [hparts] at h
    cases h
  | ok parts =>
    rw [hparts] at h
    cases h
    rw [Fragment.params_joinAny?]
    exact flatMap_of_mapM (fun p f => Placeholder.params_resolve fun key => hi key p.1) hparts

/-- Where what is included has no parameters, a template has those that it binds. -/
theorem params_assemble {t : Template} {f : Fragment} (h : assemble i context t = .ok f) :
    f.params = t.boundValues context := by
  obtain ⟨parts, hparts, hf⟩ := bind_eq_ok.mp h
  cases hf
  have htaken : (parts.filterMap id).flatMap Fragment.params =
      parts.flatMap fun part => part.elim [] Fragment.params := by
    rw [List.filterMap_eq_flatMap_toList, List.flatMap_assoc]
    refine List.flatMap_congr fun part _ => ?_
    cases part <;> simp
  rw [Fragment.params_repaired, Fragment.params_join, htaken, Template.boundValues, Template.texts,
    List.flatMap_assoc]
  exact flatMap_of_mapM (fun node part => params_renderNode hi) hparts

end

/-- What is included has no parameters where nested ones are discarded. -/
theorem params_inclusion_of_discard {e : Engine} (he : e.settings.nestedParams = .discard)
    {levels : Nat} {key : String} {context : Value} {f : Fragment}
    (h : e.inclusion levels key context = .ok f) : f.params = [] := by
  cases levels with
  | zero => cases h
  | succ levels =>
    obtain ⟨t, -, hnested⟩ := bind_eq_ok.mp h
    obtain ⟨g, -, hf⟩ := bind_eq_ok.mp hnested
    cases hf
    -- the statement has become text
    rw [nest, he]
    exact Fragment.params_ofText _

/-- The parameters of a statement are the values that its own template binds. -/
theorem params_of_discard {e : Engine} (he : e.settings.nestedParams = .discard)
    {template : Template} {context : Value} {s : Statement}
    (h : e.renderTemplate template context = .ok s) : s.params = template.boundValues context := by
  obtain ⟨f, hf, hs⟩ := bind_eq_ok.mp h
  cases hs
  exact params_assemble (fun _ _ _ => params_inclusion_of_discard he) hf

/-- **What is included binds no parameters.** Let two engines discard nested parameters, and
differ in their templates, their limits and the style of markers as they may. If a template is
rendered by both against the same data, its parameters are the same. -/
theorem included_bind_no_params {e e' : Engine} (he : e.settings.nestedParams = .discard)
    (he' : e'.settings.nestedParams = .discard) {template : Template} {context : Value}
    {s s' : Statement} (h : e.renderTemplate template context = .ok s)
    (h' : e'.renderTemplate template context = .ok s') : s.params = s'.params := by
  rw [params_of_discard he h, params_of_discard he' h']

/-- The same part stands before and behind what the template binds. In one engine it binds a
value, in the other it is plain text, in another style and under a lower limit. -/
theorem included_bind_no_params_list :
    let list : Template := [.literal "{{p.q}} :a", .repetition "ids" "," ":id {{p.q}}"]
    let e : Engine := ⟨⟨[("p", [("q", [.literal "=:a"])])]⟩, { nestedParams := .discard }⟩
    let e' : Engine := ⟨⟨[("p", [("q", [.literal "b"])])]⟩,
      { maxIncludeDepth := 1, markers := .dollar, nestedParams := .discard }⟩
    let context : Value := .object [("a", .string "x"),
      ("ids", .array [.object [("id", .string "7")], .string "8"])]
    let s : Statement := ⟨"=? ? ? =?,? =?", [.string "x", .string "7", .string "8"]⟩
    let s' : Statement := ⟨"b $1 $2 b,$3 b", [.string "x", .string "7", .string "8"]⟩
    e.settings.nestedParams = .discard ∧ e'.settings.nestedParams = .discard ∧
      e.renderTemplate list context = .ok s ∧ e'.renderTemplate list context = .ok s' ∧
      s.params = s'.params := by
  intro list e e' context s s'
  have hs : e.renderTemplate list context = .ok s := by
    dsimp only [list, e, context, s]
    rfl
  have hs' : e'.renderTemplate list context = .ok s' := by
    dsimp only [list, e', context, s']
    rfl
  exact ⟨rfl, rfl, hs, hs', included_bind_no_params rfl rfl hs hs'⟩

end Engine

end SqlTemplate
