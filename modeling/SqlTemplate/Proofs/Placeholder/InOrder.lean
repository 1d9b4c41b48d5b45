import SqlTemplate.Proofs.Placeholder.References

/-!
# References in order

Resolving a text asks for its keys from left to right and stops at the first that fails.
The text is cut at its bound names first and each stretch between them at its references;
since no reference holds a colon, the keys of the stretches are the keys of the text, in the
same order (`keys_bindParams`).

> `error?_resolve`: the error of a text is the first one among its keys, if there is any.
-/

namespace SqlTemplate

/-! ## The first error -/

/-- The error of an outcome, if it is one. -/
def error? {α ε : Type} : Except ε α → Option ε
  | .ok _ => none
  | .error err => some err

section

variable {α β γ ε : Type}

theorem error?_eq_some {x : Except ε α} {err : ε} : error? x = some err ↔ x = .error err := by
  cases x <;> simp [error?]

theorem error?_eq_none {x : Except ε α} : error? x = none ↔ ∃ a, x = .ok a := by
  cases x <;> simp [error?]

@[simp] theorem error?_bind_pure (x : Except ε α) (g : α → β) :
    error? (x >>= fun a => pure (g a)) = error? x := by
  cases x <;> rfl

@[simp] theorem error?_map (x : Except ε α) (g : α → β) : error? (x.map g) = error? x := by
  cases x <;> rfl

/-- A traversal has the error of the first element that has one. -/
theorem error?_mapM (f : α → Except ε β) (xs : List α) :
    error? (xs.mapM f) = xs.findSome? fun x => error? (f x) := by
  induction xs with
  | nil => rfl
  | cons x xs ih =>
    rw [List.mapM_cons, List.findSome?_cons, ← ih]
    cases f x with
    | error err => rfl
    | ok y => exact error?_bind_pure (xs.mapM f) (y :: ·)

/-- The first hit in lists one after another is in the first list that has one. -/
theorem findSome?_flatMap (f : β → Option γ) (g : α → List β) (xs : List α) :
    (xs.flatMap g).findSome? f = xs.findSome? fun x => (g x).findSome? f := by
  induction xs with
  | nil => rfl
  | cons x xs ih =>
    rw [List.flatMap_cons, List.findSome?_append, List.findSome?_cons, ih]
    cases (g x).findSome? f <;> rfl

end

namespace Placeholder

open SqlTemplate.Text

/-! ## The keys of a text -/

/-- A colon stands outside of every reference, so a text can be cut there. -/
theorem cut_referenceAt_colon (s t : List Char) :
    cut referenceAt (s ++ ':' :: t) = cut referenceAt s ++ .inl ':' :: cut referenceAt t := by
  have hcolon : referenceAt (':' :: t) = none := referenceAt_append_colon [] t
  rw [cut_append_of_local (fun u _ _ => referenceAt_append_colon u t)
    fun _ => length_le_of_referenceAt, cut_of_none hcolon]

/-- So the keys of a text are those before a colon and those behind it. -/
theorem keys_append_colon (s t : List Char) : keys (s ++ ':' :: t) = keys s ++ keys t := by
  unfold keys
  rw [cut_referenceAt_colon, List.filterMap_append, List.filterMap_cons_none rfl, List.map_append]

/-- A name holds no reference. -/
theorem keys_name_append {n : List Char} (hn : ∀ c ∈ n, isNameChar c = true) (t : List Char) :
    keys (n ++ t) = keys t := by
  induction n with
  | nil => rfl
  | cons c n ih =>
    have hbrace : '\x7b' ≠ c := by
      rintro rfl
      have hname := hn _ (List.mem_cons_self ..)
      revert hname
      decide
    have hnone : referenceAt (c :: (n ++ t)) = none :=
      referenceAt_eq_none fun hpre => hbrace (List.cons_prefix_cons.mp hpre).1
    rw [← ih fun d hd => hn d (List.mem_cons_of_mem c hd), List.cons_append, keys,
      cut_of_none hnone, List.filterMap_cons_none rfl]
    rfl

/-- The keys to which the text of a piece refers. -/
def pieceKeys : Piece → List String
  | .text s => keys s
  | .param _ => []

/-- The keys of the stretches between bound names are the keys of the text. -/
theorem keys_bindParams (context : Value) (s : List Char) :
    (bindParams context s).pieces.flatMap pieceKeys = keys s := by
  induction boundText s with
  | @nothing s hs =>
    rw [bindParams_of_nothing context hs]
    cases s with
    | nil => rfl
    | cons c s => exact List.flatMap_singleton ..
  -- the stretch in front of a colon, a name with no reference in it, and the rest
  | @name s n t hs hne hn ht _ ih =>
    rw [bindParams_name context hs hne hn ht, Fragment.pieces_ofText_append,
      Fragment.pieces_ofParam_append, List.cons_append, keys_append_colon, keys_name_append hn,
      ← ih]
    cases s with
    | nil => rfl
    | cons c s => rfl

/-! ## Resolving -/

section

variable {ε : Type} (fetch : String → Except ε Fragment)

/-- The error of a stretch between bound names is the first one among its keys. -/
theorem error?_expandReferences (s : List Char) :
    error? (expandReferences fetch s) = (keys s).findSome? fun key => error? (fetch key) := by
  unfold expandReferences keys
  rw [error?_bind_pure, error?_mapM, List.findSome?_map, List.filterMap_eq_flatMap_toList,
    findSome?_flatMap]
  congr 1
  funext part
  cases part with
  | inl c => rfl
  | inr key => simp

/-- The error of a text is the first one among its keys. -/
theorem error?_resolve (context : Value) (s : List Char) :
    error? (resolve fetch context s) =
      (keys (inlineLiterals context s)).findSome? fun key => error? (fetch key) := by
  unfold resolve
  rw [error?_bind_pure, error?_mapM, ← keys_bindParams context, findSome?_flatMap]
  congr 1
  funext piece
  cases piece with
  | text u => exact error?_expandReferences fetch u
  | param v => rfl

end

end Placeholder

end SqlTemplate
