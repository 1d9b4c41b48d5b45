import SqlTemplate.Proofs.Clause.Filters
import SqlTemplate.Proofs.Fragment.Bound

/-!
# Optional filters

The template that the library is made for: a statement up to its `WHERE`, any
number of conditionals that each contribute `AND` and a filter, and a clause that
can follow. Whichever filters take part, the `WHERE` and the `AND`s come out right.

> `optional_filters_join`: without a filter the statement has no `WHERE`; with
> filters they stand behind one `WHERE`, with `AND` between each two.

The texts only bind parameters, so the fragment before repair is the bound text of
the nodes (`join_bindParams`), and binding commutes with repair. What repair does to
that text is known from its words.
-/

namespace SqlTemplate

/-! ## Bound texts, joined -/

namespace Placeholder

open SqlTemplate.Text

/-- Binding the parts and joining them with spaces is binding the whole. -/
theorem join_bindParams (context : Value) (ts : List (List Char)) :
    Fragment.join [' '] (ts.map (bindParams context)) =
      bindParams context ([' '].intercalate ts) := by
  induction ts with
  | nil => rfl
  | cons t ts ih =>
    cases ts with
    | nil => rw [List.intercalate_singleton]; rfl
    | cons u ts =>
      have hspace : BindsNothing [' '] := bindsNothing_of_not_mem (by decide)
      have hstart : StartsOutsideName ([' '] ++ [' '].intercalate (u :: ts)) :=
        startsOutsideName_cons (by decide) _
      rw [List.intercalate_cons_cons, List.append_assoc, bindParams_append context t hstart,
        bindParams_nothing_append context hspace (Or.inr (by decide)), ← ih,
        ← Fragment.append_assoc]
      rfl

end Placeholder

/-! ## Templates with optional filters -/

/-- A filter that takes part if its test holds. -/
structure OptionalFilter where
  test : String
  condition : String

namespace OptionalFilter

/-- A statement up to its `WHERE`, with optional filters and a clause behind them. -/
def template (base : String) (filters : List OptionalFilter) (tail : Option String) : Template :=
  .literal (base ++ " WHERE") ::
    ((filters.map fun f => .conditional f.test ("AND " ++ f.condition)) ++
      tail.toList.map .literal)

/-- The filters that take part. -/
def chosen (context : Value) (filters : List OptionalFilter) : List OptionalFilter :=
  filters.filter fun f => Condition.passes f.test context

end OptionalFilter

namespace Fragment

/-- `WHERE` and the conditions, with `AND` between each two; nothing without any. -/
def conditionClause : List Fragment → Fragment
  | [] => empty
  | f :: fs => ofText " WHERE ".toList ++ join " AND ".toList (f :: fs)

/-- A clause behind a space, if there is one. -/
def tailClause : Option Fragment → Fragment
  | none => empty
  | some f => ofText [' '] ++ f

end Fragment

/-! ## What the texts may hold -/

open SqlTemplate.Clause SqlTemplate.Placeholder SqlTemplate.Text

/-- A text that inlines nothing, refers to nothing and mentions no `WHERE`. -/
structure PlainText (s : List Char) : Prop extends BindsOnly s where
  noWhere : NoWhere s

/-- A text that can stand behind `AND`. -/
structure ConditionText (s : List Char) : Prop extends PlainText s where
  ne_nil : s ≠ []
  starts : StartsPlain s
  not_and : ¬ BeginsWith ['a', 'n', 'd'] atGap s
  not_follower : ∀ keyword ∈ followers, ¬ BeginsWith keyword endsWord s

/-- A text that can stand behind the conditions. -/
structure FollowerText (s : List Char) : Prop extends PlainText s where
  follower : ∃ keyword ∈ followers, BeginsWith keyword endsWord s

theorem plainText_andWord : PlainText andWord := ⟨⟨by decide, by decide⟩, by decide⟩

/-- Texts that mention no `WHERE` mention none when joined with spaces. -/
theorem noWhere_intercalate {ts : List (List Char)} (h : ∀ t ∈ ts, NoWhere t) :
    NoWhere ([' '].intercalate ts) := by
  induction ts with
  | nil => exact show NoWhere [] by decide
  | cons t ts ih =>
    have ht := h t (List.mem_cons_self ..)
    have hts := ih fun u hu => h u (List.mem_cons_of_mem _ hu)
    cases ts with
    | nil => rwa [List.intercalate_singleton]
    | cons u ts =>
      rw [List.intercalate_cons_cons, List.append_assoc]
      exact ht.space hts

/-- The first word of joined texts is the first word of the first of them. -/
theorem first_split_intercalate (t : List Char) (ts : List (List Char)) :
    (Words.split ([' '].intercalate (t :: ts))).first = (Words.split t).first := by
  cases ts with
  | nil => rw [List.intercalate_singleton]
  | cons u ts =>
    have hspace : List.takeWhile (!isBlank ·) ([' '] ++ [' '].intercalate (u :: ts)) = [] :=
      List.takeWhile_cons_of_neg (by decide)
    rw [List.intercalate_cons_cons, List.append_assoc, Words.first_split, Words.first_split,
      List.takeWhile_append, hspace, List.append_nil]
    split
    next hlen => exact ((List.takeWhile_prefix _).eq_of_length hlen).symm
    next => rfl

namespace ConditionText

variable {s : List Char} (h : ConditionText s)

include h

/-- Its first word is no `AND`, so the rule for these leaves it alone. -/
theorem first_not_and : isAnd (Words.split s).first = false := by
  by_contra hand
  exact h.not_and (beginsWith_and_of_first (by simpa using hand))

/-- Nor does its first word open a clause that follows. -/
theorem first_not_follower : opensFollower (Words.split s).first = false := by
  rw [opensFollower_first]
  by_contra hopens
  obtain ⟨keyword, hmem, hbegins⟩ := opensFollower_iff.mp (by simpa using hopens)
  exact h.not_follower keyword hmem hbegins

end ConditionText

/-- A clause that can follow begins with a letter. -/
theorem FollowerText.starts {s : List Char} (h : FollowerText s) : StartsPlain s := by
  obtain ⟨keyword, hmem, word, rest, rfl, hword, -⟩ := h.follower
  cases word with
  | nil =>
    have hlen := length_of_isKeyword hword
    rw [length_follower keyword hmem] at hlen
    cases hlen
  | cons c word =>
    refine startsPlain_cons ?_
    by_contra hblank
    have hforeign := not_wordChar_of_blank (by simpa using hblank)
    have hno := isKeyword_append_cons (letters_follower keyword hmem) hforeign [] word
    rw [List.nil_append, hword] at hno
    cases hno

/-! ## The text of such a statement -/

/-- The texts of the nodes that take part. -/
def nodeTexts (base : List Char) (conditions : List (List Char)) (tail : Option (List Char)) :
    List (List Char) :=
  (base ++ ' ' :: whereWord) :: (conditions.map (fun p => andWord ++ ' ' :: p) ++ tail.toList)

/-- The texts of the repaired statement. -/
def repairedTexts (base : List Char) (conditions : List (List Char)) (tail : Option (List Char)) :
    List (List Char) :=
  match conditions with
  | [] => base :: tail.toList
  | p :: ps =>
    (base ++ ' ' :: whereWord) :: p :: (ps.map (fun p => andWord ++ ' ' :: p) ++ tail.toList)

/-- What repair does, whichever filters take part. -/
theorem repair_nodeTexts {base : List Char} {conditions : List (List Char)}
    {tail : Option (List Char)} (hbase : PlainText base) (hend : EndsPlain base)
    (hconditions : ∀ p ∈ conditions, ConditionText p) (htail : ∀ t ∈ tail, FollowerText t) :
    repair true ([' '].intercalate (nodeTexts base conditions tail)) =
      [' '].intercalate (repairedTexts base conditions tail) := by
  cases conditions with
  | nil =>
    cases tail with
    | none => simpa [nodeTexts, repairedTexts] using repair_where_end hbase.noWhere hend
    | some t =>
      have ht := htail t rfl
      simpa [nodeTexts, repairedTexts] using
        repair_where_follower hbase.noWhere hend ht.noWhere ht.starts
          (opensFollower_iff.mpr ht.follower) true
  | cons p ps =>
    have hp := hconditions p (List.mem_cons_self ..)
    have hps := fun q hq => hconditions q (List.mem_cons_of_mem p hq)
    -- what stands behind the `WHERE` and the first `AND`; it mentions no other `WHERE`
    let rest := p :: (ps.map (fun p => andWord ++ ' ' :: p) ++ tail.toList)
    have hrest : NoWhere ([' '].intercalate rest) := by
      refine noWhere_intercalate fun t ht => ?_
      rcases List.mem_cons.mp ht with rfl | ht
      · exact hp.noWhere
      rcases List.mem_append.mp ht with ht | ht
      · obtain ⟨q, hq, rfl⟩ := List.mem_map.mp ht
        exact plainText_andWord.noWhere.space (hps q hq).noWhere
      · exact (htail t (Option.mem_toList.mp ht)).noWhere
    -- the `AND` that goes takes with it no blank of the first condition
    have hstart : StartsPlain ([' '].intercalate rest) := by
      cases p with
      | nil => exact absurd rfl hp.ne_nil
      | cons c p =>
        have hc : isBlank c = false := hp.starts c rfl
        rw [List.intercalate_cons_cons_left]
        exact startsPlain_cons hc
    have hand : isAnd (Words.split ([' '].intercalate rest)).first = false := by
      rw [first_split_intercalate]
      exact hp.first_not_and
    have hfollow : opensFollower (Words.split ([' '].intercalate rest)).first = false := by
      rw [first_split_intercalate]
      exact hp.first_not_follower
    have hbefore : [' '].intercalate (nodeTexts base (p :: ps) tail) =
        base ++ ' ' :: (whereWord ++ ' ' :: (andWord ++ ' ' :: [' '].intercalate rest)) := by
      simp [nodeTexts, rest, andWord]
    have hafter : [' '].intercalate (repairedTexts base (p :: ps) tail) =
        base ++ ' ' :: (whereWord ++ ' ' :: [' '].intercalate rest) := by
      simp [repairedTexts, rest]
    rw [hbefore, hafter]
    exact repair_where_and hbase.noWhere hend hrest hstart hand hfollow true

/-- The repaired texts, bound and joined, are the statement that the filters make up. -/
theorem join_repairedTexts (context : Value) (base : List Char) (conditions : List (List Char))
    (tail : Option (List Char)) :
    bindParams context ([' '].intercalate (repairedTexts base conditions tail)) =
      bindParams context base ++ (Fragment.conditionClause (conditions.map (bindParams context)) ++
        Fragment.tailClause (tail.map (bindParams context))) := by
  have htail : (Fragment.tailClause (tail.map (bindParams context))).Canonical := by
    cases tail with
    | none => exact Fragment.canonical_empty
    | some t => exact Fragment.Canonical.append _ (canonical_bindParams context t)
  have hright := Fragment.Canonical.append (bindParams context base)
    (Fragment.Canonical.append (Fragment.conditionClause (conditions.map (bindParams context))) htail)
  -- both sides are canonical, so it is enough to compare their symbols
  refine (canonical_bindParams context _).eq_of_symbols hright ?_
  rw [← join_bindParams]
  cases conditions with
  | nil => cases tail <;> simp [repairedTexts, Fragment.symbols_join_cons, Fragment.conditionClause,
      Fragment.tailClause]
  | cons p ps =>
    have hwhere : bindParams context (base ++ ' ' :: whereWord) =
        bindParams context base ++ Fragment.ofText (' ' :: whereWord) := by
      have hnothing : BindsNothing (' ' :: whereWord) := bindsNothing_of_not_mem (by decide)
      rw [bindParams_append context base (startsOutsideName_cons (by decide) _),
        bindParams_of_nothing context hnothing]
    have hand : ∀ q, bindParams context (andWord ++ ' ' :: q) =
        Fragment.ofText (andWord ++ [' ']) ++ bindParams context q := by
      intro q
      have h := bindParams_nothing_append context (s := andWord ++ [' '])
        (bindsNothing_of_not_mem (by decide)) (t := q) (Or.inr (by decide))
      rwa [List.append_assoc] at h
    simp only [repairedTexts, List.map_cons, List.map_append, List.map_map, Function.comp_def,
      hwhere, hand]
    cases tail <;> simp [Fragment.symbols_join_cons, Fragment.conditionClause,
      Fragment.tailClause, List.flatMap_map, whereWord, andWord]

/-! ## Rendering -/

/-- A node that only binds, and is no repetition. -/
def Node.BindsOnly : Node → Prop
  | .literal text => Placeholder.BindsOnly text.toList
  | .conditional _ body => Placeholder.BindsOnly body.toList
  | .repetition _ _ _ => False

/-- The text that such a node adds, if it takes part. -/
def Node.added (context : Value) : Node → Option (List Char)
  | .literal text => some text.toList
  | .conditional test body => if Condition.passes test context then some body.toList else none
  | .repetition _ _ _ => none

namespace Engine

/-- A node that only binds adds its bound text, or nothing. -/
theorem renderNode_of_bindsOnly (i : Inclusion) (context : Value) {node : Node}
    (h : node.BindsOnly) :
    renderNode i context node = pure ((node.added context).map (bindParams context)) := by
  cases node with
  | literal text =>
    rw [renderNode, resolveText, resolve_of_bindsOnly _ context h]
    rfl
  | conditional test body =>
    rw [renderNode, resolveText, resolve_of_bindsOnly _ context h, Node.added]
    split <;> rfl
  | repetition arrayKey separator body => exact h.elim

/-- A template that only binds is its texts, joined, repaired and bound. -/
theorem assemble_of_bindsOnly (i : Inclusion) (context : Value) {template : Template}
    (h : ∀ node ∈ template, node.BindsOnly) :
    assemble i context template = pure (bindParams context
      (repair true ([' '].intercalate (template.filterMap (Node.added context))))) := by
  have hnodes := mapM_eq_pure fun node hnode => renderNode_of_bindsOnly i context (h node hnode)
  have hparts : (template.map fun node => (node.added context).map (bindParams context)).filterMap id
      = (template.filterMap (Node.added context)).map (bindParams context) := by
    rw [List.filterMap_map, List.map_filterMap]
    rfl
  rw [assemble, hnodes, pure_bind, hparts, join_bindParams, Fragment.repaired_bindParams]

end Engine

namespace OptionalFilter

/-- The statement that the filters taking part make up: no `WHERE` without any, else
one `WHERE`, and `AND` between each two. -/
def statement (context : Value) (base : String) (filters : List OptionalFilter)
    (tail : Option String) : Fragment :=
  let bound (text : String) := bindParams context text.toList
  bound base ++ (Fragment.conditionClause ((chosen context filters).map (bound ·.condition)) ++
    Fragment.tailClause (tail.map bound))

/-- The parameters are those of the texts, in the order of the texts. -/
theorem params_statement (context : Value) (base : String) (filters : List OptionalFilter)
    (tail : Option String) :
    (statement context base filters tail).params = (bindParams context base.toList).params ++
      ((chosen context filters).flatMap (fun f => (bindParams context f.condition.toList).params) ++
        tail.toList.flatMap fun t => (bindParams context t.toList).params) := by
  have hconditions : ∀ fs : List Fragment,
      (Fragment.conditionClause fs).params = fs.flatMap Fragment.params := by
    intro fs
    cases fs with
    | nil => rfl
    | cons f fs => rw [Fragment.conditionClause, Fragment.params_append, Fragment.params_ofText,
        Fragment.params_join, List.nil_append]
  have htail : ∀ f : Option Fragment,
      (Fragment.tailClause f).params = f.toList.flatMap Fragment.params := by
    intro f
    cases f with
    | none => rfl
    | some f => simp [Fragment.tailClause]
  rw [statement, Fragment.params_append, Fragment.params_append, hconditions, htail,
    List.flatMap_map]
  cases tail <;> simp

/-- The texts of the nodes that take part. -/
theorem added_template (context : Value) (base : String) (filters : List OptionalFilter)
    (tail : Option String) :
    (template base filters tail).filterMap (Node.added context) = nodeTexts base.toList
      ((chosen context filters).map (·.condition.toList)) (tail.map String.toList) := by
  have hconditionals : (filters.map fun f => Node.conditional f.test ("AND " ++ f.condition)).filterMap
      (Node.added context) =
      ((chosen context filters).map (·.condition.toList)).map (fun p => andWord ++ ' ' :: p) := by
    induction filters with
    | nil => rfl
    | cons f fs ih =>
      rw [List.map_cons, List.filterMap_cons, ih]
      cases hpasses : Condition.passes f.test context <;>
        simp [Node.added, chosen, hpasses, andWord]
  have htail : (tail.toList.map Node.literal).filterMap (Node.added context) =
      (tail.map String.toList).toList := by
    cases tail <;> rfl
  rw [template, List.filterMap_cons, List.filterMap_append, hconditionals, htail]
  simp [Node.added, nodeTexts, whereWord]

theorem bindsOnly_template {base : String} {filters : List OptionalFilter} {tail : Option String}
    (hbase : PlainText base.toList) (hfilters : ∀ f ∈ filters, ConditionText f.condition.toList)
    (htail : ∀ t ∈ tail, FollowerText t.toList) :
    ∀ node ∈ template base filters tail, node.BindsOnly := by
  have hwhere : BindsOnly whereWord := ⟨by decide, by decide⟩
  have hand : BindsOnly andWord := ⟨by decide, by decide⟩
  intro node hnode
  rcases List.mem_cons.mp hnode with rfl | hnode
  · simpa [Node.BindsOnly, whereWord] using hbase.toBindsOnly.space hwhere
  rcases List.mem_append.mp hnode with hnode | hnode
  · obtain ⟨f, hf, rfl⟩ := List.mem_map.mp hnode
    simpa [Node.BindsOnly, andWord] using hand.space (hfilters f hf).toBindsOnly
  · obtain ⟨t, ht, rfl⟩ := List.mem_map.mp hnode
    exact (htail t (Option.mem_toList.mp ht)).toBindsOnly

end OptionalFilter

namespace Engine

open OptionalFilter

/-- **Optional filters join.** Whichever filters take part, the statement is the base,
behind it a `WHERE` and the filters with `AND` between each two if there are any,
and behind these the clause that follows. The parameters stand in the same order. -/
theorem optional_filters_join (e : Engine) (context : Value) {base : String}
    {filters : List OptionalFilter} {tail : Option String} (hbase : PlainText base.toList)
    (hend : EndsPlain base.toList) (hfilters : ∀ f ∈ filters, ConditionText f.condition.toList)
    (htail : ∀ t ∈ tail, FollowerText t.toList) :
    let f := OptionalFilter.statement context base filters tail
    e.renderTemplate (OptionalFilter.template base filters tail) context =
      .ok ⟨f.sql e.settings.markers, f.params⟩ ∧
    (∀ qualified, e.template qualified = .ok (OptionalFilter.template base filters tail) →
      e.render qualified context = .ok ⟨f.sql e.settings.markers, f.params⟩) ∧
    f.params = (bindParams context base.toList).params ++
      ((chosen context filters).flatMap (fun g => (bindParams context g.condition.toList).params) ++
        tail.toList.flatMap fun t => (bindParams context t.toList).params) := by
  intro f
  have hconditions : ∀ p ∈ (chosen context filters).map (·.condition.toList), ConditionText p := by
    intro p hp
    obtain ⟨g, hg, rfl⟩ := List.mem_map.mp hp
    exact hfilters g (List.mem_of_mem_filter hg)
  have hfollowers : ∀ t ∈ tail.map String.toList, FollowerText t := by
    intro t ht
    obtain ⟨u, hu, rfl⟩ := Option.map_eq_some_iff.mp ht
    exact htail u hu
  have hbound : bindParams context (repair true ([' '].intercalate
      ((OptionalFilter.template base filters tail).filterMap (Node.added context)))) = f := by
    rw [added_template, repair_nodeTexts hbase hend hconditions hfollowers, join_repairedTexts,
      List.map_map, Option.map_map]
    rfl
  have hfragment : e.fragment (OptionalFilter.template base filters tail) context = .ok f := by
    rw [Engine.fragment, assemble_of_bindsOnly _ context (bindsOnly_template hbase hfilters htail),
      hbound]
    rfl
  have hrender : e.renderTemplate (OptionalFilter.template base filters tail) context =
      .ok ⟨f.sql e.settings.markers, f.params⟩ := by
    rw [renderTemplate, hfragment]
    rfl
  refine ⟨hrender, fun qualified hfound => ?_, params_statement context base filters tail⟩
  rw [render, hfound]
  exact hrender

/-- Two of three filters, one that begins like `AND` and one that begins with a
parameter, before an `ORDER BY`. -/
theorem optional_filters_join_search :
    let e : Engine := ⟨⟨[]⟩, { markers := .dollar }⟩
    let filters : List OptionalFilter :=
      [⟨":a != null", "android = :a"⟩, ⟨":b != null", "b = :b"⟩, ⟨":c != null", ":c < id"⟩]
    let context : Value := .object [("a", .string "x"), ("c", .bool true)]
    PlainText "SELECT * FROM t".toList ∧ EndsPlain "SELECT * FROM t".toList ∧
    (∀ f ∈ filters, ConditionText f.condition.toList) ∧
    (∀ t ∈ some "order by id", FollowerText t.toList) ∧
    e.renderTemplate (OptionalFilter.template "SELECT * FROM t" filters (some "order by id")) context =
      .ok ⟨"SELECT * FROM t WHERE android = $1 AND $2 < id order by id",
        [.string "x", .bool true]⟩ := by
  intro e filters context
  have hbase : PlainText "SELECT * FROM t".toList := ⟨⟨by decide, by decide⟩, by decide⟩
  have hend : EndsPlain "SELECT * FROM t".toList := by
    have hlast : "SELECT * FROM t".toList.getLast? = some 't' := by decide
    intro c hc
    rw [hlast] at hc
    cases hc
    decide
  have hfilters : ∀ f ∈ filters, ConditionText f.condition.toList := by
    intro f hf
    have hcases : f = ⟨":a != null", "android = :a"⟩ ∨ f = ⟨":b != null", "b = :b"⟩ ∨
        f = ⟨":c != null", ":c < id"⟩ := by simpa [filters] using hf
    rcases hcases with rfl | rfl | rfl <;>
      exact ⟨⟨⟨by decide, by decide⟩, by decide⟩, by decide, startsPlain_cons (by decide),
        by decide, by decide⟩
  have htail : ∀ t ∈ some "order by id", FollowerText t.toList := by
    intro t ht
    cases ht
    exact ⟨⟨⟨by decide, by decide⟩, by decide⟩, by decide⟩
  refine ⟨hbase, hend, hfilters, htail, ?_⟩
  rw [(optional_filters_join e context hbase hend hfilters htail).1]
  rfl

end Engine

end SqlTemplate
