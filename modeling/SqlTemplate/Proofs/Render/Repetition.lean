import SqlTemplate.Proofs.Placeholder.Inlining
import SqlTemplate.Proofs.Render.Decided

/-!
# Repetitions over parts of an array

A repetition resolves its body once for each element, with the element for a context, and joins
what comes out. So it sees of the outer context nothing but the array (`repeated`), and an array
may be cut in two anywhere:

> `repetition_distributes`: the elements of the first part go before those of the second, with
> the separator between them; the first element that fails decides the error.

An element that is no object denotes itself under every name. Where the body has no other
placeholders than bound names, each of them becomes a marker of the element (`marked`).
-/

namespace SqlTemplate

/-- What joins two lists with at least one fragment each joins the two joined fragments. -/
theorem Fragment.join_append (separator : List Char) {fs gs : List Fragment} (hfs : fs ≠ [])
    (hgs : gs ≠ []) :
    join separator (fs ++ gs) = join separator fs ++ ofText separator ++ join separator gs := by
  induction fs with
  | nil => exact absurd rfl hfs
  | cons f fs ih =>
    cases fs with
    | nil =>
      obtain ⟨g, gs, rfl⟩ := List.exists_cons_of_ne_nil hgs
      rfl
    | cons f' fs =>
      have hjoin : ∀ hs, join separator (f :: f' :: hs) =
          f ++ ofText separator ++ join separator (f' :: hs) := fun _ => rfl
      rw [List.cons_append, List.cons_append, hjoin, hjoin, ← List.cons_append,
        ih (List.cons_ne_nil f' fs)]
      simp only [append_assoc]

/-- A value that is no object denotes itself under every name. -/
theorem Value.lookupOrNull_of_not_object {v : Value} (h : ∀ fields, v ≠ .object fields)
    (name : String) : v.lookupOrNull name = v := by
  cases v with
  | object fields => exact absurd rfl (h fields)
  | _ => rfl

namespace Placeholder

open SqlTemplate.Text

/-- A text with a marker of the value for each bound name. -/
def marked (value : Value) (s : List Char) : Fragment :=
  Fragment.ofPieces <| (cut boundAt s).map fun
    | .inl c => .text [c]
    | .inr _ => .param value

section

variable {v : Value} (hv : ∀ fields, v ≠ .object fields)

include hv

/-- Against such a value every name is bound to the value. -/
theorem bindParams_eq_marked (s : List Char) : bindParams v s = marked v s := by
  unfold bindParams marked
  congr 1
  refine List.map_congr_left fun part _ => ?_
  cases part with
  | inl c => rfl
  | inr name => exact congrArg Piece.param (Value.lookupOrNull_of_not_object hv _)

theorem params_marked (s : List Char) :
    (marked v s).params = List.replicate (boundNames s).length v := by
  rw [← bindParams_eq_marked hv, params_bindParams]
  refine List.eq_replicate_iff.mpr ⟨List.length_map _, fun w hw => ?_⟩
  obtain ⟨name, -, rfl⟩ := List.mem_map.mp hw
  exact Value.lookupOrNull_of_not_object hv _

end

/-- A text that inlines no value and refers to no key is bound, and that is all. -/
theorem resolve_of_not_refers {m : Type → Type} [Monad m] [LawfulMonad m]
    (fetch : String → m Fragment) (context : Value) {s : List Char}
    (hinline : inlinesValue s = false) (hrefers : ∀ key, ¬ Refers s key) :
    resolve fetch context s = pure (bindParams context s) := by
  refine resolve_of_never fetch context hinline fun u hu t ht => ?_
  cases hfound : referenceAt t with
  | none => rfl
  | some found =>
    obtain ⟨r, rest, rfl, -, -⟩ := Reference.exists_of_referenceAt hfound
    have htext : r.text <:+: u := (List.prefix_append r.text rest).isInfix.trans ht.isInfix
    exact absurd ⟨r, rfl, htext.trans (infix_of_text_mem_bindParams context hu)⟩ (hrefers r.key)

end Placeholder

namespace Engine

open Placeholder (inlinesValue Refers boundNames marked)

/-- The body of a repetition, resolved against each of some elements and joined. -/
def repeated (i : Inclusion) (separator body : String) (items : List Value) :
    Except RenderError Fragment :=
  (items.mapM fun item => resolveText i item body).map (Fragment.join separator.toList)

section

variable (i : Inclusion) (separator body : String)

/-- Of its context a repetition sees the array only. -/
theorem renderNode_repetition {context : Value} {arrayKey : String} {items : List Value}
    (hitems : items ≠ []) (hlookup : context.lookup arrayKey = some (.array items)) :
    renderNode i context (.repetition arrayKey separator body) =
      (repeated i separator body items).map some := by
  have htexts : (Node.repetition arrayKey separator body).texts context =
      items.map fun item => (item, body) := by
    simp only [Node.texts, elements, hlookup]
  have hne : (Node.repetition arrayKey separator body).texts context ≠ [] := by
    rw [htexts]
    exact fun h => hitems (List.map_eq_nil_iff.mp h)
  rw [renderNode_of_texts_ne_nil i hne, contribution, htexts, List.mapM_map]
  rfl

theorem ne_nil_of_mapM {α β ε : Type} {f : α → Except ε β} {xs : List α} {ys : List β}
    (hxs : xs ≠ []) (h : xs.mapM f = .ok ys) : ys ≠ [] := by
  rintro rfl
  exact hxs (List.forall₂_nil_right_iff.mp (forall₂_of_mapM h))

variable {i separator body} {xs ys : List Value}

/-- An element that fails decides, whatever stands behind it. -/
theorem repeated_append_error {err : RenderError} (h : repeated i separator body xs = .error err) :
    repeated i separator body (xs ++ ys) = .error err := by
  have hparts := error_of_map h
  rw [repeated, List.mapM_append, hparts]
  rfl

/-- Behind elements that succeed the others go on, with a separator between. -/
theorem repeated_append_of_ok {f : Fragment} (hxs : xs ≠ []) (hys : ys ≠ [])
    (h : repeated i separator body xs = .ok f) :
    repeated i separator body (xs ++ ys) =
      (repeated i separator body ys).map fun g => f ++ Fragment.ofText separator.toList ++ g := by
  unfold repeated at h ⊢
  cases hfs : xs.mapM fun item => resolveText i item body with
  | error err =>
    rw [hfs] at h
    cases h
  | ok fs =>
    rw [hfs] at h
    cases h
    rw [List.mapM_append, hfs]
    cases hgs : ys.mapM fun item => resolveText i item body with
    | error err => rfl
    | ok gs =>
      exact congrArg Except.ok (Fragment.join_append separator.toList (ne_nil_of_mapM hxs hfs)
        (ne_nil_of_mapM hys hgs))

/-- A body that inlines nothing and refers to nothing is marked with each element, if none is an
object. -/
theorem repeated_of_not_objects (hitems : ∀ x ∈ xs, ∀ fields, x ≠ .object fields)
    (hinline : inlinesValue body.toList = false) (hrefers : ∀ key, ¬ Refers body.toList key) :
    repeated i separator body xs =
      .ok (Fragment.join separator.toList (xs.map fun x => marked x body.toList)) := by
  have hparts : xs.mapM (fun item => resolveText i item body) =
      .ok (xs.map fun x => marked x body.toList) := by
    refine Placeholder.mapM_eq_pure fun x hx => ?_
    rw [resolveText, Placeholder.resolve_of_not_refers _ x hinline hrefers,
      Placeholder.bindParams_eq_marked (hitems x hx)]
  rw [repeated, hparts]
  rfl

end

/-- **A repetition distributes over its array.** What it contributes depends on its context only
through the array, and on every level of inclusion these hold:

- An array cut in two fails with the error of its first part; if that succeeds, with the error of
  its second part. If both succeed, the fragments stand one behind the other with the separator
  between them, and so do their parameters.
- Where no element is an object and the body has no placeholders but bound names, the body stands
  once for each element with the separator between, with a marker for each of its names, and each
  element is bound as often as the body has names. -/
theorem repetition_distributes (e : Engine) (levels : Nat) (separator body : String) :
    let rep := repeated (e.inclusion levels) separator body
    (∀ context arrayKey xs, xs ≠ [] → context.lookup arrayKey = some (.array xs) →
      renderNode (e.inclusion levels) context (.repetition arrayKey separator body) =
        (rep xs).map some) ∧
    (∀ xs ys, xs ≠ [] → ys ≠ [] →
      (∀ err, rep xs = .error err → rep (xs ++ ys) = .error err) ∧
      (∀ f err, rep xs = .ok f → rep ys = .error err → rep (xs ++ ys) = .error err) ∧
      ∀ f g, rep xs = .ok f → rep ys = .ok g →
        rep (xs ++ ys) = .ok (f ++ Fragment.ofText separator.toList ++ g) ∧
        (f ++ Fragment.ofText separator.toList ++ g).params = f.params ++ g.params) ∧
    ∀ xs, (∀ x ∈ xs, ∀ fields, x ≠ .object fields) → inlinesValue body.toList = false →
      (∀ key, ¬ Refers body.toList key) →
      ∃ f, rep xs = .ok f ∧
        f = Fragment.join separator.toList (xs.map fun x => marked x body.toList) ∧
        f.params = xs.flatMap (List.replicate (boundNames body.toList).length) := by
  intro rep
  refine ⟨fun context arrayKey xs => renderNode_repetition _ separator body, ?_, ?_⟩
  · intro xs ys hxs hys
    refine ⟨fun err => repeated_append_error, fun f err hf herr => ?_, fun f g hf hg => ⟨?_, ?_⟩⟩
    · exact (repeated_append_of_ok hxs hys hf).trans (congrArg _ herr)
    · exact (repeated_append_of_ok hxs hys hf).trans (congrArg _ hg)
    · rw [Fragment.params_append, Fragment.params_append, Fragment.params_ofText, List.append_nil]
  · intro xs hitems hinline hrefers
    refine ⟨_, repeated_of_not_objects hitems hinline hrefers, rfl, ?_⟩
    rw [Fragment.params_join, List.flatMap_map]
    exact List.flatMap_congr fun x hx => Placeholder.params_marked (hitems x hx) body.toList

/-- Elements of four kinds that are no objects, under a body with two names; and a body that
includes a template which fails for one of two elements. -/
theorem repetition_distributes_elements :
    let part : Template := [.conditional ":v == 'z'" "{{ no.where }}", .literal "= :v"]
    let e : Engine := ⟨⟨[("p", [("q", part)])]⟩, { nestedParams := .inline }⟩
    let rep := repeated (e.inclusion 2) " OR " "(:a, :b)"
    let including := repeated (e.inclusion 2) "," ":a {{ p.q }}"
    let xs : List Value := [.null, .string "x"]
    let ys : List Value := [.array [.bool true], .number (.integer 7 (by decide))]
    let context : Value := .object [("rows", .object [("all", .array (xs ++ ys))])]
    let f : Fragment := ⟨[.text ['('], .param .null, .text [',', ' '], .param .null,
      .text ") OR (".toList, .param (.string "x"), .text [',', ' '], .param (.string "x"),
      .text [')']]⟩
    context.lookup "rows.all" = some (.array (xs ++ ys)) ∧ rep xs = .ok f ∧
    (∃ g, rep ys = .ok g ∧ rep (xs ++ ys) = .ok (f ++ Fragment.ofText " OR ".toList ++ g) ∧
      renderNode (e.inclusion 2) context (.repetition "rows.all" " OR " "(:a, :b)") =
        .ok (some (f ++ Fragment.ofText " OR ".toList ++ g))) ∧
    (∃ h, rep (xs ++ ys) = .ok h ∧ h.params = (xs ++ ys).flatMap (List.replicate 2)) ∧
    including [.string "x", .string "z"] = .error (.namespaceNotFound "no") ∧
    including [.string "z", .string "x"] = .error (.namespaceNotFound "no") := by
  intro part e rep including xs ys context f
  obtain ⟨harray, hsplit, hmarked⟩ := repetition_distributes e 2 " OR " "(:a, :b)"
  obtain ⟨-, hincluding, -⟩ := repetition_distributes e 2 "," ":a {{ p.q }}"
  have hlookup : context.lookup "rows.all" = some (.array (xs ++ ys)) := by rfl
  have hxs : rep xs = .ok f := by
    dsimp only [rep, e, xs, f]
    rfl
  have hitems : ∀ x ∈ xs ++ ys, ∀ fields, x ≠ .object fields := by
    intro x hx fields hobject
    have hcases : x = .null ∨ x = .string "x" ∨ x = .array [.bool true] ∨
        x = .number (.integer 7 (by decide)) := by simpa [xs, ys] using hx
    rcases hcases with rfl | rfl | rfl | rfl <;> cases hobject
  have hrefers : ∀ key, ¬ Refers "(:a, :b)".toList key := by
    rintro key ⟨r, -, hr⟩
    have hbrace : '\x7b' ∈ "(:a, :b)".toList := hr.subset (List.mem_cons_self ..)
    revert hbrace
    decide
  have hnames : (boundNames "(:a, :b)".toList).length = 2 := by decide
  obtain ⟨h, hh, -, hparams⟩ := hmarked (xs ++ ys) hitems (by decide) hrefers
  rw [hnames] at hparams
  obtain ⟨g, hg, -⟩ :=
    hmarked ys (fun x hx => hitems x (List.mem_append_right xs hx)) (by decide) hrefers
  obtain ⟨-, -, hjoined⟩ := hsplit xs ys (List.cons_ne_nil _ _) (List.cons_ne_nil _ _)
  have happend := (hjoined f g hxs hg).1
  have hwhole := (harray context "rows.all" (xs ++ ys) (List.cons_ne_nil _ _) hlookup).trans
    (congrArg (Except.map some) happend)
  -- one element of the other body succeeds and one fails
  have hz : including [.string "z"] = .error (.namespaceNotFound "no") := by
    dsimp only [including, e, part]
    rfl
  have hx : including [.string "x"] =
      .ok ⟨[.param (.string "x"), .text " = ".toList, .param (.string "x")]⟩ := by
    dsimp only [including, e, part]
    rfl
  obtain ⟨-, hsecond, -⟩ := hincluding [.string "x"] [.string "z"] (List.cons_ne_nil _ _)
    (List.cons_ne_nil _ _)
  obtain ⟨hfirst, -⟩ := hincluding [.string "z"] [.string "x"] (List.cons_ne_nil _ _)
    (List.cons_ne_nil _ _)
  exact ⟨hlookup, hxs, ⟨g, hg, happend, hwhole⟩, ⟨h, hh, hparams⟩, hsecond _ _ hx hz,
    hfirst _ hz⟩

end Engine

end SqlTemplate
