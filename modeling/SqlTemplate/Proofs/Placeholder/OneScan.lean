import SqlTemplate.Proofs.Placeholder.InOrder

/-!
# Resolving is one scan

Resolving binds the names of a text first and looks for references in the stretches between
them. It comes to one scan: the text is cut at its names and its references together
(`ItemOccurs`), and the parts are put in place one after another (`emit`).

A reference holds no colon. So where a stretch ends at a name, none of its references goes on
behind it, and cutting the stretches is cutting the text (`cut_itemAt_stretch`).

> `resolve_eq_scan`: resolving is scanning the text with its values inlined.
> `symbols_gather`: the characters and parameters that come out of a scan are those of its
> parts, one after another; the fragments that hold them have no say in it.
> `asks_gather`: a scan asks for the keys of its references, each once and in their order, up
> to the first that is refused.
-/

namespace SqlTemplate

namespace Placeholder

open SqlTemplate.Text

/-! ## What occurs in a text -/

/-- `::name` at the head of a text. -/
inductive LiteralOccurs : List Char → List Char → List Char → Prop where
  | intro {name rest : List Char} :
      LongestName name rest → LiteralOccurs (':' :: ':' :: (name ++ rest)) name rest

/-- What a scan takes out of a text. -/
inductive Item where
  | bound (name : List Char)
  | reference (key : List Char)

/-- `:name` or a reference at the head of a text. -/
inductive ItemOccurs : List Char → Item → List Char → Prop where
  | bound {name rest : List Char} :
      LongestName name rest → ItemOccurs (':' :: (name ++ rest)) (.bound name) rest
  | reference (r : Reference) (rest : List Char) :
      ItemOccurs (r.text ++ rest) (.reference r.key) rest

/-- `:name` or a reference. -/
def itemAt : Pattern Item := fun s =>
  match boundAt s with
  | some (name, length) => some (.bound name, length)
  | none => (referenceAt s).map fun found => (.reference found.1, found.2)

/-- A name behind its colon is found as far as it goes. -/
theorem LongestName.boundAt_eq {name rest : List Char} (h : LongestName name rest) :
    boundAt (':' :: (name ++ rest)) = some (name, name.length + 1) := by
  have hempty : name.isEmpty = false := by simpa using h.ne_nil
  simp [boundAt, h.nameOf_eq, hempty]

theorem exists_of_boundAt {s name : List Char} {length : Nat}
    (h : boundAt s = some (name, length)) :
    ∃ rest, s = ':' :: (name ++ rest) ∧ LongestName name rest := by
  unfold boundAt at h
  split at h
  next behind =>
    split at h
    next => cases h
    next hne =>
      obtain ⟨rfl, -⟩ := Prod.mk.inj (Option.some.inj h)
      obtain ⟨rest, htext, hname⟩ := exists_longestName (s := behind) (by simpa using hne)
      exact ⟨rest, congrArg (':' :: ·) htext, hname⟩
  next => cases h

/-- `::name` is a colon and `:name`. -/
theorem literalAt_cons (s : List Char) :
    literalAt (':' :: s) = (boundAt s).map fun found => (found.1, found.2 + 1) := by
  unfold literalAt boundAt
  split
  next rest heq =>
    obtain ⟨-, rfl⟩ := List.cons.inj heq
    split <;> simp [*]
  next hnone =>
    split
    next rest => exact absurd rfl (hnone rest)
    next => rfl

/-- Cutting a text at its inlined values finds what occurs in it. -/
theorem finds_literalAt : Finds literalAt LiteralOccurs where
  found := by
    rintro s name rest ⟨hname⟩
    exact ⟨':' :: ':' :: name, by simp, rfl, by simp [literalAt_cons, hname.boundAt_eq]⟩
  occurs := by
    intro s name length h
    have hcolon : ∃ behind, s = ':' :: behind := by
      unfold literalAt at h
      split at h
      next behind => exact ⟨_, rfl⟩
      next => cases h
    obtain ⟨behind, rfl⟩ := hcolon
    rw [literalAt_cons] at h
    obtain ⟨⟨_, _⟩, hbound, heq⟩ := Option.map_eq_some_iff.mp h
    obtain ⟨rfl, -⟩ := Prod.mk.inj heq
    obtain ⟨rest, rfl, hname⟩ := exists_of_boundAt hbound
    exact ⟨rest, .intro hname⟩

theorem finds_itemAt : Finds itemAt ItemOccurs where
  found := by
    intro s item rest hoccurs
    cases hoccurs with
    | @bound name _ hname =>
      exact ⟨':' :: name, by simp, rfl, by simp [itemAt, hname.boundAt_eq]⟩
    | reference r _ =>
      -- a reference begins with a brace, a bound name with a colon
      have hbound : boundAt (r.text ++ rest) = none := rfl
      exact ⟨r.text, by simp [Reference.text], rfl,
        by simp [itemAt, hbound, r.referenceAt_text]⟩
  occurs := by
    intro s item length h
    unfold itemAt at h
    split at h
    next name length hbound =>
      obtain ⟨rfl, -⟩ := Prod.mk.inj (Option.some.inj h)
      obtain ⟨rest, rfl, hname⟩ := exists_of_boundAt hbound
      exact ⟨rest, .bound hname⟩
    next =>
      obtain ⟨⟨key, _⟩, hreference, heq⟩ := Option.map_eq_some_iff.mp h
      obtain ⟨rfl, -⟩ := Prod.mk.inj heq
      obtain ⟨r, rest, rfl, rfl, -⟩ := Reference.exists_of_referenceAt hreference
      exact ⟨rest, .reference r rest⟩

/-! ## Cutting stretch by stretch -/

/-- In a text that binds nothing, only references are found. -/
theorem itemAt_of_suffix {s u : List Char} (hs : BindsNothing s) (hu : u <:+ s) :
    itemAt u = (referenceAt u).map fun found => (.reference found.1, found.2) := by
  have hbound : boundAt u = none := by
    cases u with
    | nil => rfl
    | cons c u =>
      have hnone := boundAt_eq_none_of_suffix hs hu (List.cons_ne_nil c u) (t := [])
        (Or.inl (by simp [StartsOutsideName]))
      rwa [List.append_nil] at hnone
  simp [itemAt, hbound]

theorem cut_itemAt_nothing {s : List Char} (hs : BindsNothing s) :
    cut itemAt s = (cut referenceAt s).map (Sum.map id .reference) :=
  cut_map Item.reference fun _ hu => itemAt_of_suffix hs hu

/-- A stretch in front of a bound name is cut at its references, and the name is taken. -/
theorem cut_itemAt_stretch {s n t : List Char} (hs : BindsNothing s) (hn : LongestName n t) :
    cut itemAt (s ++ (':' :: n ++ t)) =
      (cut referenceAt s).map (Sum.map id .reference) ++ .inr (.bound n) :: cut itemAt t := by
  have hcolon : StartsOutsideName (':' :: n ++ t) := startsOutsideName_cons (by decide) _
  have hsame : ∀ u, u <:+ s → u ≠ [] → itemAt (u ++ (':' :: n ++ t)) = itemAt u := by
    intro u hu hne
    have hbound := boundAt_eq_none_of_suffix hs hu hne (Or.inl hcolon)
    have hreference : referenceAt (u ++ (':' :: n ++ t)) = referenceAt u :=
      referenceAt_append_colon u (n ++ t)
    rw [itemAt_of_suffix hs hu, itemAt, hbound]
    exact congrArg (Option.map _) hreference
  have hends : ∀ {u item length}, u <:+ s → itemAt u = some (item, length) →
      length ≤ u.length := by
    intro u item length hu hfound
    rw [itemAt_of_suffix hs hu] at hfound
    obtain ⟨⟨key, _⟩, hreference, heq⟩ := Option.map_eq_some_iff.mp hfound
    obtain ⟨-, rfl⟩ := Prod.mk.inj heq
    exact length_le_of_referenceAt hreference
  rw [cut_append_of_local hsame hends, cut_itemAt_nothing hs, List.cons_append,
    finds_itemAt.cut_of_occurs (.bound hn)]

/-! ## Putting the parts in place -/

/-- What `::name` is replaced with. -/
def inlined (context : Value) : Char ⊕ List Char → List Char
  | .inl c => [c]
  | .inr name => (context.lookupOrNull (String.ofList name)).display.toList

section

variable {m : Type → Type} [Monad m]

/-- What is emitted for a part of a text. -/
def emit (fetch : String → m Fragment) (context : Value) : Char ⊕ Item → m Fragment
  | .inl c => pure (Fragment.ofText [c])
  | .inr (.bound name) => pure (Fragment.ofParam (context.lookupOrNull (String.ofList name)))
  | .inr (.reference key) => fetch (String.ofList key)

/-- The characters and parameters that take the place of a part, given those that take the place
of a reference. -/
def emitted (fetched : String → m (List (Char ⊕ Value))) (context : Value) :
    Char ⊕ Item → m (List (Char ⊕ Value))
  | .inl c => pure [.inl c]
  | .inr (.bound name) => pure [.inr (context.lookupOrNull (String.ofList name))]
  | .inr (.reference key) => fetched (String.ofList key)

/-- The fragments that are emitted for parts from left to right, one after another. -/
def gather {α : Type} (f : α → m Fragment) (parts : List α) : m Fragment := do
  let fragments ← parts.mapM f
  return Fragment.concat fragments

section

variable [LawfulMonad m] {α β : Type} (f : α → m Fragment)

theorem gather_nil : gather f [] = pure Fragment.empty := by simp [gather, Fragment.concat]

theorem gather_cons (part : α) (parts : List α) :
    gather f (part :: parts) = do
      let g ← f part
      let h ← gather f parts
      return g ++ h := by
  simp only [gather, List.mapM_cons, bind_assoc, pure_bind]
  rfl

theorem gather_append (xs ys : List α) :
    gather f (xs ++ ys) = do
      let g ← gather f xs
      let h ← gather f ys
      return g ++ h := by
  simp only [gather, List.mapM_append, bind_assoc, pure_bind, Fragment.concat_append]

/-- It makes no difference whether parts are renamed before or on the way. -/
theorem gather_map (g : β → α) (parts : List β) :
    gather f (parts.map g) = gather (fun part => f (g part)) parts := by
  rw [gather, List.mapM_map]
  rfl

/-- What a scan puts together reads as its parts do, one after another. -/
theorem symbols_gather (parts : List α) :
    Fragment.symbols <$> gather f parts =
      List.flatten <$> parts.mapM fun part => Fragment.symbols <$> f part := by
  induction parts with
  | nil => simp only [gather_nil, List.mapM_nil, map_pure, Fragment.symbols_empty, List.flatten_nil]
  | cons part parts ih =>
    rw [gather_cons, List.mapM_cons]
    simp only [map_bind, bind_map_left, map_pure, Fragment.symbols_append, List.flatten_cons]
    refine bind_congr fun g => ?_
    have hrest := congrArg (fun x => (g.symbols ++ ·) <$> x) ih
    simp only [Functor.map_map] at hrest
    simpa only [map_eq_pure_bind] using hrest

end

/-! ## Resolving is scanning -/

/-- What is put in the place of a piece of a bound text. -/
def expandPiece (fetch : String → m Fragment) : Piece → m Fragment
  | .text s => expandReferences fetch s
  | .param v => pure (Fragment.ofParam v)

variable [LawfulMonad m] (fetch : String → m Fragment) (context : Value)

/-- What is emitted for a part reads as what takes its place. -/
theorem symbols_emit (part : Char ⊕ Item) :
    Fragment.symbols <$> emit fetch context part =
      emitted (fun key => Fragment.symbols <$> fetch key) context part := by
  match part with
  | .inl c => simp [emit, emitted]
  | .inr (.bound name) => simp [emit, emitted]
  | .inr (.reference key) => rfl

/-- A stretch is put together from its references and the characters between them. -/
theorem expandReferences_eq_gather (s : List Char) :
    expandReferences fetch s =
      gather (emit fetch context) ((cut referenceAt s).map (Sum.map id .reference)) := by
  rw [gather_map]
  unfold expandReferences gather
  congr 2
  funext part
  cases part <;> rfl

/-- A text without parameters is one stretch. -/
theorem gather_ofText (s : List Char) :
    gather (expandPiece fetch) (Fragment.ofText s).pieces = expandReferences fetch s := by
  cases s with
  | nil =>
    have hnothing : expandReferences fetch [] = pure Fragment.empty := by
      rw [expandReferences, cut_nil, List.mapM_nil, pure_bind]
      rfl
    rw [hnothing]
    exact gather_nil _
  | cons c s =>
    -- what references are replaced with is canonical, and nothing behind it adds nothing
    have hconcat : ∀ fs, Fragment.concat fs ++ Fragment.empty = Fragment.concat fs := fun fs =>
      (Fragment.Canonical.append _ Fragment.canonical_empty).eq_of_symbols
        (Fragment.canonical_concat fs) (by simp)
    show gather (expandPiece fetch) [.text (c :: s)] = _
    rw [gather_cons, gather_nil, expandPiece, expandReferences]
    simp only [bind_assoc, pure_bind, hconcat]

/-- Stretch by stretch or all at once, the same parts are put in place, by induction on stretches
and names in turn. -/
theorem gather_bindParams (s : List Char) :
    gather (expandPiece fetch) (bindParams context s).pieces =
      gather (emit fetch context) (cut itemAt s) := by
  induction boundText s with
  | @nothing s hs =>
    rw [bindParams_of_nothing context hs, cut_itemAt_nothing hs, gather_ofText,
      expandReferences_eq_gather fetch context]
  | @name s n t hs hne hn ht _ ih =>
    have hpieces : ∀ v f, (Fragment.ofText s ++ (Fragment.ofParam v ++ f)).pieces =
        (Fragment.ofText s).pieces ++ .param v :: f.pieces := by
      intro v f
      cases s <;> rfl
    rw [bindParams_name context hs hne hn ht, cut_itemAt_stretch hs ⟨hne, hn, ht⟩, hpieces,
      gather_append, gather_append, gather_cons, gather_cons, ih, gather_ofText,
      expandReferences_eq_gather fetch context]
    rfl

/-- **Resolving is scanning** the text with its values inlined. -/
theorem resolve_eq_scan (s : List Char) :
    resolve fetch context s =
      gather (emit fetch context) (cut itemAt (inlineLiterals context s)) := by
  rw [← gather_bindParams]
  unfold resolve gather
  congr 2

end

/-! ## What is asked for -/

/-- The keys of the references among the parts of a text, from left to right. -/
def askedFor : List (Char ⊕ Item) → List String
  | [] => []
  | .inr (.reference key) :: rest => String.ofList key :: askedFor rest
  | _ :: rest => askedFor rest

section

variable {ε : Type}

/-- Notes down the keys that are asked for. The answer may depend on those before. -/
def recording (answer : List String → String → Except ε Fragment) (key : String) :
    ExceptT ε (StateM (List String)) Fragment := ExceptT.mk do
  let earlier ← get
  set (earlier ++ [key])
  return answer earlier key

/-- Asking for keys one after another, up to the first that is refused: the keys that have been
asked for in the end, and the error. -/
inductive Asks (answer : List String → String → Except ε Fragment) :
    (earlier keys asked : List String) → Option ε → Prop where
  | done {earlier : List String} : Asks answer earlier [] earlier none
  | answered {earlier keys asked : List String} {key : String} {f : Fragment} {err : Option ε} :
      answer earlier key = .ok f → Asks answer (earlier ++ [key]) keys asked err →
      Asks answer earlier (key :: keys) asked err
  | refused {earlier keys : List String} {key : String} {err : ε} :
      answer earlier key = .error err → Asks answer earlier (key :: keys) (earlier ++ [key]) (some err)

/-- What a run that notes down its keys comes to: its outcome, and the keys in the end. -/
def recorded {α : Type} (x : ExceptT ε (StateM (List String)) α) (earlier : List String) :
    Except ε α × List String := (x.run.run earlier).run

/-- A second step asks for its keys behind those of the first, if that succeeds. -/
theorem recorded_bind {α β : Type} (x : ExceptT ε (StateM (List String)) α)
    (next : α → ExceptT ε (StateM (List String)) β) (earlier : List String) :
    recorded (x >>= next) earlier =
      match recorded x earlier with
      | (.ok a, asked) => recorded (next a) asked
      | (.error err, asked) => (.error err, asked) := by
  unfold recorded
  rw [ExceptT.run_bind, StateT.run_bind, Id.run_bind]
  obtain ⟨outcome, asked⟩ := (x.run.run earlier).run
  cases outcome <;> rfl

variable (answer : List String → String → Except ε Fragment) (context : Value)

theorem recorded_recording (key : String) (earlier : List String) :
    recorded (recording answer key) earlier = (answer earlier key, earlier ++ [key]) := rfl

/-- A scan asks for the keys of its references, each once and in their order, up to the first that
is refused. -/
theorem asks_gather (parts : List (Char ⊕ Item)) (earlier : List String) :
    Asks answer earlier (askedFor parts)
      (recorded (gather (emit (recording answer) context) parts) earlier).2
      (error? (recorded (gather (emit (recording answer) context) parts) earlier).1) := by
  induction parts generalizing earlier with
  | nil =>
    rw [gather_nil]
    exact .done
  | cons part parts ih =>
    -- what goes on behind a part that is no reference, or behind an answer
    have hrest : ∀ (g : Fragment) earlier, Asks answer earlier (askedFor parts)
        (recorded (gather (emit (recording answer) context) parts >>= fun h => pure (g ++ h))
          earlier).2
        (error? (recorded (gather (emit (recording answer) context) parts >>= fun h =>
          pure (g ++ h)) earlier).1) := by
      intro g earlier
      have hasks := ih earlier
      rw [recorded_bind]
      generalize recorded (gather (emit (recording answer) context) parts) earlier = run at hasks ⊢
      obtain ⟨outcome, asked⟩ := run
      cases outcome <;> exact hasks
    rw [gather_cons]
    match part with
    | .inl c => exact hrest (Fragment.ofText [c]) earlier
    | .inr (.bound name) =>
      exact hrest (Fragment.ofParam (context.lookupOrNull (String.ofList name))) earlier
    | .inr (.reference key) =>
      rw [askedFor, emit]
      cases hanswer : answer earlier (String.ofList key) with
      | error err =>
        rw [recorded_bind, recorded_recording, hanswer]
        exact .refused hanswer
      | ok g =>
        rw [recorded_bind, recorded_recording, hanswer]
        exact .answered hanswer (hrest g _)

end

/-- **Resolving is one scan from left to right.** A text is cut at its `::name` in one way, and
each is replaced by the text of its value. What comes out is cut at its names and references in
one way; resolving puts the parts in place, so its characters and parameters are those of the
parts one after another, and a run asks for the keys of the references in their order, each once,
up to the first that is refused. -/
theorem resolve_is_one_scan (context : Value) (s : List Char) :
    (∃ literals, (∀ parts, CutAt LiteralOccurs s parts ↔ parts = literals) ∧
      inlineLiterals context s = literals.flatMap (inlined context)) ∧
    ∃ items, (∀ parts, CutAt ItemOccurs (inlineLiterals context s) parts ↔ parts = items) ∧
      (∀ {m : Type → Type} [Monad m] [LawfulMonad m] (fetch : String → m Fragment),
        resolve fetch context s = gather (emit fetch context) items ∧
        Fragment.symbols <$> resolve fetch context s =
          List.flatten <$> items.mapM
            (emitted (fun key => Fragment.symbols <$> fetch key) context)) ∧
      ∀ {ε : Type} (answer : List String → String → Except ε Fragment),
        Asks answer [] (askedFor items)
          (recorded (resolve (recording answer) context s) []).2
          (error? (recorded (resolve (recording answer) context s) []).1) := by
  have hinlined : inlineLiterals context s = (cut literalAt s).flatMap (inlined context) := by
    refine List.flatMap_congr fun part _ => ?_
    cases part <;> rfl
  refine ⟨⟨cut literalAt s, fun _ => finds_literalAt.cutAt_iff, hinlined⟩,
    cut itemAt (inlineLiterals context s), fun _ => finds_itemAt.cutAt_iff,
    fun fetch => ⟨resolve_eq_scan fetch context s, ?_⟩, fun answer => ?_⟩
  · rw [resolve_eq_scan, symbols_gather]
    exact congrArg (fun f => List.flatten <$> List.mapM f _) (funext (symbols_emit fetch context))
  · rw [resolve_eq_scan]
    exact asks_gather answer context _ []

/-- Of three references the second is refused, so the third is not asked for. The first one and
a bound name come in through `::filter`, another bound name through three colons. Where none is
refused, the parameters of what they stand for are counted among the others. -/
theorem resolve_is_one_scan_refused :
    let context : Value := .object [("a", .string "x"), ("filter", .string "a = :a {{ b.c }}")]
    let s := "::filter {{gone.x}}{{ b.c }}:::a".toList
    let answer : List String → String → Except String Fragment
      | [], key => .ok (.ofText key.toList)
      | _, key => .error key
    let run := recorded (resolve (recording answer) context s) []
    let known : String → Id Fragment := fun key =>
      pure (.ofText key.toList ++ .ofParam (.string key))
    ∃ items, CutAt ItemOccurs (inlineLiterals context s) items ∧
      resolve (recording answer) context s = gather (emit (recording answer) context) items ∧
      askedFor items = ["b.c", "gone.x", "b.c"] ∧
      Asks answer [] (askedFor items) run.2 (error? run.1) ∧
      run.2 = ["b.c", "gone.x"] ∧ error? run.1 = some "gone.x" ∧
      (resolve known context s).run.symbols =
        (Id.run (items.mapM (emitted (fun key => pure (known key).run.symbols) context))).flatten ∧
      (resolve known context s).run.sql .dollar = "a = $1 b.c$2 gone.x$3b.c$4$5" ∧
      Value.sameItems (resolve known context s).run.params
        [.string "x", .string "b.c", .string "gone.x", .string "b.c", .null] = true := by
  intro context s answer run known
  obtain ⟨-, items, hcut, hresolve, hasks⟩ := resolve_is_one_scan context s
  have hitems : cut itemAt (inlineLiterals context s) = items :=
    (hcut _).mp (finds_itemAt.cutAt_cut _)
  refine ⟨items, (hcut items).mpr rfl, (hresolve (recording answer)).1, ?_, hasks answer, ?_, ?_,
    (hresolve known).2, ?_, ?_⟩
  · rw [← hitems]
    decide +kernel
  · decide +kernel
  · decide +kernel
  · decide +kernel
  · decide +kernel

end Placeholder

end SqlTemplate
