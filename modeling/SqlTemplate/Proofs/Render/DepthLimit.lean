import SqlTemplate.Proofs.Render.TwoRuns

/-!
# Raising the depth limit

Inclusion counts down the levels that are left, and gives up when none is. With more
levels left it does the same until it would have given up, so a run that never gave
up is unchanged (`inclusion_deeper`), and so is the whole rendering:

> `deeper_limit_changes_nothing`: under a higher limit a template renders as before,
> unless it hit the lower one.

The two runs are compared step by step as in every comparison of runs. What is new is
how outcomes are compared (`Comparison.untilGivenUp`): where the first run has given
up, the second is free.
-/

namespace SqlTemplate

/-- Whether a run ended because inclusions nested too deep. -/
def GaveUp {α : Type} (x : Except RenderError α) : Prop :=
  ∃ key limit, x = .error (.recursionLimitExceeded key limit)

/-- Nothing goes on behind a run that has given up. -/
theorem GaveUp.bind {α β : Type} {x : Except RenderError α} (h : GaveUp x)
    (f : α → Except RenderError β) : GaveUp (x >>= f) := by
  obtain ⟨key, limit, rfl⟩ := h
  exact ⟨key, limit, rfl⟩

theorem not_gaveUp_ok {α : Type} (a : α) : ¬ GaveUp (.ok a : Except RenderError α) := by
  rintro ⟨key, limit, h⟩
  cases h

/-- The first run has given up, or the runs do the same. -/
def Comparison.untilGivenUp : Comparison where
  Holds R x y := GaveUp x ∨ Agree R x y
  ok h := Or.inr h
  bind := by
    intro α β γ δ R S x y f g hxy hfg
    rcases hxy with hx | hxy
    · exact Or.inl (hx.bind f)
    · cases x with
      | error e =>
        cases y with
        | ok b => exact hxy.elim
        | error e' => exact Or.inr hxy
      | ok a =>
        cases y with
        | error e => exact hxy.elim
        | ok b => exact hfg a b hxy

/-- Runs that go on alike from where they have come. -/
theorem untilGivenUp_bind {α β : Type} {x y : Except RenderError α}
    {f g : α → Except RenderError β} (h : Comparison.untilGivenUp.Holds Eq x y)
    (hfg : ∀ a, Comparison.untilGivenUp.Holds Eq (f a) (g a)) :
    Comparison.untilGivenUp.Holds Eq (x >>= f) (y >>= g) := by
  refine Comparison.untilGivenUp.bind h fun a b hab => ?_
  subst hab
  exact hfg a

theorem untilGivenUp_of_eq {α : Type} {x y : Except RenderError α} (h : x = y) :
    Comparison.untilGivenUp.Holds Eq x y := Or.inr (agree_eq_iff.mpr h)

namespace Engine

/-- The engine with another limit on how deep inclusions nest. Rendering holds it to the
ceiling, as any other. -/
def withMaxDepth (e : Engine) (depth : Nat) : Engine :=
  { e with settings := { e.settings with maxIncludeDepth := depth } }

/-- With more levels left, inclusion does the same until it would have given up. -/
theorem inclusion_deeper (e : Engine) (d d' : Nat) {levels levels' : Nat} (h : levels ≤ levels') :
    InclusionRelated .untilGivenUp Eq Eq ((e.withMaxDepth d).inclusion levels)
      ((e.withMaxDepth d').inclusion levels') := by
  -- on the levels left to the first run: at none it gives up, else both go one deeper
  induction levels generalizing levels' with
  | zero => exact fun key _ _ _ => Or.inl ⟨key, _, rfl⟩
  | succ levels ih =>
    obtain ⟨more, rfl⟩ := Nat.exists_eq_add_of_le h
    have hdeeper : InclusionRelated .untilGivenUp Eq Eq ((e.withMaxDepth d).inclusion levels)
        ((e.withMaxDepth d').inclusion (levels + more)) := ih (Nat.le_add_right levels more)
    intro key c c' hc
    subst hc
    rw [Nat.add_right_comm, inclusion, inclusion]
    have htemplate : (e.withMaxDepth d).template key = (e.withMaxDepth d').template key :=
      template_eq rfl key
    refine untilGivenUp_bind (untilGivenUp_of_eq htemplate) fun t => ?_
    have hlike : LooksAlike Eq Eq t := looksAlike_eq (fun _ => rfl) t
    have hnested := assemble_related .untilGivenUp Fragment.respected_eq hdeeper hlike (Eq.refl c)
    exact untilGivenUp_bind hnested fun f => untilGivenUp_of_eq rfl

/-- The second run gives the result of the first, unless that gave up; and it gives up
only if the first did. -/
structure GoesOn (x y : Except RenderError Statement) : Prop where
  same : ¬ GaveUp x → y = x
  gaveUp : GaveUp y → GaveUp x

/-- What the comparison says of two renderings. -/
theorem goesOn_of_untilGivenUp {x y : Except RenderError Statement}
    (h : Comparison.untilGivenUp.Holds Eq x y) : GoesOn x y := by
  rcases h with hx | hxy
  · exact ⟨fun hnot => absurd hx hnot, fun _ => hx⟩
  · have heq : x = y := agree_eq_iff.mp hxy
    exact ⟨fun _ => heq.symm, fun hy => heq ▸ hy⟩

/-- A higher limit leaves more levels, up to the ceiling. -/
theorem renderTemplate_deeper (e : Engine) {m m' : Nat} (h : m ≤ m') (template : Template)
    (context : Value) :
    Comparison.untilGivenUp.Holds Eq ((e.withMaxDepth m).renderTemplate template context)
      ((e.withMaxDepth m').renderTemplate template context) := by
  have hlimit : (e.withMaxDepth m).settings.depthLimit ≤ (e.withMaxDepth m').settings.depthLimit := by
    show min m Settings.depthCeiling ≤ min m' Settings.depthCeiling
    omega
  have hlike : LooksAlike Eq Eq template := looksAlike_eq (fun _ => rfl) template
  have hfragment := assemble_related .untilGivenUp Fragment.respected_eq
    (inclusion_deeper e m m' hlimit) hlike (Eq.refl context)
  exact untilGivenUp_bind hfragment fun f => untilGivenUp_of_eq rfl

/-- **Raising the depth limit changes nothing else.** Under a higher limit a template,
registered or not, gives the statement or the error that it gave under the lower one,
unless that was the error of nesting too deep; and it nests too deep only if it did
under the lower limit. -/
theorem deeper_limit_changes_nothing (e : Engine) (context : Value) {m m' : Nat} (h : m ≤ m') :
    (∀ template, GoesOn ((e.withMaxDepth m).renderTemplate template context)
      ((e.withMaxDepth m').renderTemplate template context)) ∧
    ∀ qualified, GoesOn ((e.withMaxDepth m).render qualified context)
      ((e.withMaxDepth m').render qualified context) := by
  refine ⟨fun template => goesOn_of_untilGivenUp (renderTemplate_deeper e h template context),
    fun qualified => goesOn_of_untilGivenUp ?_⟩
  have htemplate : (e.withMaxDepth m).template qualified = (e.withMaxDepth m').template qualified :=
    template_eq rfl qualified
  unfold render
  exact untilGivenUp_bind (untilGivenUp_of_eq htemplate) fun t =>
    renderTemplate_deeper e h t context

/-- A page that includes a filter, with one level and with three; and a part that
includes itself, which gives up with three levels and so with one. -/
theorem deeper_limit_changes_nothing_page :
    let page : Template := [.literal "SELECT * FROM t {{ part.filter }}"]
    let e : Engine := ⟨⟨[("part", [("filter", [.literal "WHERE id = :id"]),
      ("loop", [.literal "({{ part.loop }})"])])]⟩, { nestedParams := .inline }⟩
    let context : Value := .object [("id", .string "7")]
    (1 ≤ 3) ∧ ¬ GaveUp ((e.withMaxDepth 1).renderTemplate page context) ∧
      (e.withMaxDepth 3).renderTemplate page context =
        (e.withMaxDepth 1).renderTemplate page context ∧
      GaveUp ((e.withMaxDepth 3).render "part.loop" context) ∧
      GaveUp ((e.withMaxDepth 1).render "part.loop" context) := by
  intro page e context
  have hle : 1 ≤ 3 := by decide
  obtain ⟨htemplate, hrender⟩ := deeper_limit_changes_nothing e context hle
  have hpage : (e.withMaxDepth 1).renderTemplate page context =
      .ok ⟨"SELECT * FROM t WHERE id = ?", [.string "7"]⟩ := by rfl
  have hloop : (e.withMaxDepth 3).render "part.loop" context =
      .error (.recursionLimitExceeded "part.loop" 3) := by rfl
  have hdone : ¬ GaveUp ((e.withMaxDepth 1).renderTemplate page context) := by
    rw [hpage]
    exact not_gaveUp_ok _
  have hdeep : GaveUp ((e.withMaxDepth 3).render "part.loop" context) := ⟨_, _, hloop⟩
  exact ⟨hle, hdone, (htemplate page).same hdone, hdeep, (hrender "part.loop").gaveUp hdeep⟩

end Engine

end SqlTemplate
