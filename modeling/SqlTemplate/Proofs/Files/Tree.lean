import SqlTemplate.Files.Tree
import Mathlib.Data.List.Basic
import Mathlib.Data.List.Induction

/-!
# Growing file trees

In a file tree as file systems have them, whatever there is stands in a directory (`Rooted`). A
path then leads to a directory, or by its last segment to a place in one (`named_of_follow?`).

Making directories, whether or not all of them can be made, adds directories and changes nothing
else (`Grown`, `grown_makeDirectories`), and the tree stays rooted (`Rooted.makeDirectories`). It
does nothing on the way through directories that are there (`makeDirectories_append`).
-/

namespace SqlTemplate.FileTree

variable {t t' t'' : FileTree} {place other : Place} {item : Item} {content : ByteArray}

theorem isDirectory_iff : t.isDirectory place = true ↔ t.item? place = some .directory := by
  unfold isDirectory
  cases t.item? place with
  | none => simp
  | some item => cases item <;> simp [Item.isDirectory]

theorem file?_eq_some_iff :
    t.file? place = some content ↔ t.item? place = some (.file content) := by
  unfold file?
  cases t.item? place with
  | none => simp
  | some item => cases item <;> simp

/-- A place holds a file or a directory, never both. -/
theorem isDirectory_of_file? (h : t.file? place = some content) : t.isDirectory place = false := by
  rw [isDirectory, file?_eq_some_iff.mp h]
  rfl

/-- The root is a directory in every tree. -/
theorem ne_nil_of_isDirectory_eq_false (h : t.isDirectory place = false) : place ≠ [] := by
  rintro rfl
  exact absurd h (by simp [isDirectory, item?, Item.isDirectory])

theorem isDirectory_put (hne : place ≠ []) (hitem : item = .directory ∨ t.isDirectory place = false)
    (h : t.isDirectory other = true) : (t.put place item).isDirectory other = true := by
  by_cases heq : other = place
  · rcases hitem with rfl | hfalse
    · rw [isDirectory_iff, item?_put _ _ _ _ hne, if_pos heq]
    · rw [heq, hfalse] at h
      exact absurd h (by decide)
  · rwa [isDirectory, item?_put _ _ _ _ hne, if_neg heq]

/-! ## Rooted trees -/

/-- Every file and every directory stands in a directory. -/
def Rooted (t : FileTree) : Prop :=
  ∀ place item, t.item? place = some item → t.isDirectory place.dropLast = true

/-- It is enough to look at the items that are listed: the root, which is not among them, stands in
itself. -/
theorem rooted_of_forall_mem (h : ∀ entry ∈ t.items, t.isDirectory entry.1.dropLast = true) :
    t.Rooted := by
  intro place item hitem
  unfold item? at hitem
  split at hitem
  next hplace =>
    rw [hplace]
    rfl
  next =>
    obtain ⟨before, after, hitems, -⟩ := List.lookup_eq_some_iff.mp hitem
    exact h (place, item) (by simp [hitems])

namespace Rooted

/-- The directory above a directory is one. -/
theorem dropLast (h : t.Rooted) (hplace : t.isDirectory place = true) :
    t.isDirectory place.dropLast = true :=
  h place .directory (isDirectory_iff.mp hplace)

/-- A segment leads from a directory to a place in a directory. -/
theorem step (h : t.Rooted) (hplace : t.isDirectory place = true) (segment : String) :
    t.isDirectory (FileTree.step place segment).dropLast = true := by
  unfold FileTree.step
  split
  next => exact h.dropLast hplace
  next =>
    split
    next => exact h.dropLast (h.dropLast hplace)
    next => rwa [List.dropLast_concat]

/-- Without `..` a segment leads to a directory from a directory only. -/
theorem of_step (h : t.Rooted) {segment : String} (hup : segment ≠ "..")
    (hstep : t.isDirectory (FileTree.step place segment) = true) : t.isDirectory place = true := by
  unfold FileTree.step at hstep
  rw [if_neg hup] at hstep
  split at hstep
  next => exact hstep
  next => simpa using h.dropLast hstep

/-- An item may be put in a directory, but no file instead of a directory. -/
theorem put (h : t.Rooted) (hplace : t.isDirectory place.dropLast = true) (hne : place ≠ [])
    (hitem : item = .directory ∨ t.isDirectory place = false) : (t.put place item).Rooted := by
  intro other found hfound
  refine isDirectory_put hne hitem ?_
  by_cases heq : other = place
  · rwa [heq]
  · rw [item?_put _ _ _ _ hne, if_neg heq] at hfound
    exact h other found hfound

end Rooted

/-! ## Growing -/

/-- Directories have come to a tree where nothing was, and all else is as before. -/
def Grown (t t' : FileTree) : Prop :=
  ∀ place, t'.item? place = t.item? place ∨
    t.item? place = none ∧ t'.item? place = some .directory

namespace Grown

theorem refl (t : FileTree) : t.Grown t := fun _ => .inl rfl

/-- Growing twice is growing: what was made first is no place where nothing is. -/
theorem trans (h : t.Grown t') (h' : t'.Grown t'') : t.Grown t'' := by
  intro place
  rcases h' place with heq | ⟨hnone, hdirectory⟩
  · rw [heq]
    exact h place
  · -- a directory that the second growth adds was not added by the first
    rcases h place with heq | ⟨-, hmade⟩
    · exact .inr ⟨heq ▸ hnone, hdirectory⟩
    · rw [hmade] at hnone
      exact absurd hnone (by simp)

theorem item? (h : t.Grown t') (hitem : t.item? place = some item) :
    t'.item? place = some item := by
  rcases h place with heq | ⟨hnone, -⟩
  · rw [heq, hitem]
  · rw [hitem] at hnone
    exact absurd hnone (by simp)

/-- No file comes, goes or changes. -/
theorem file?_eq (h : t.Grown t') (place : Place) : t'.file? place = t.file? place := by
  unfold file?
  rcases h place with heq | ⟨hnone, hdirectory⟩
  · rw [heq]
  · rw [hnone, hdirectory]

/-- A directory stays one, so every path that could be followed still can be. -/
theorem isDirectory (h : t.Grown t') (hplace : t.isDirectory place = true) :
    t'.isDirectory place = true :=
  isDirectory_iff.mpr (h.item? (isDirectory_iff.mp hplace))

end Grown

/-! ## Following segments -/

/-- A path is followed part by part, the second from where the first leads. -/
theorem follow?_append (t : FileTree) (place : Place) (segments more : List String) :
    t.follow? place (segments ++ more) =
      (t.follow? place segments).bind fun reached => t.follow? reached more := by
  induction segments generalizing place with
  | nil => rfl
  | cons segment segments ih =>
    rw [List.cons_append, follow?, follow?]
    split
    next => exact ih _
    next => rfl

/-- Segments lead to one place at most, whatever the tree. -/
theorem eq_foldl_of_follow? {segments : List String} (h : t.follow? place segments = some other) :
    other = segments.foldl step place := by
  induction segments generalizing place with
  | nil => exact (Option.some.inj h).symm
  | cons segment segments ih =>
    rw [follow?] at h
    split at h
    next => exact ih h
    next => exact absurd h (by simp)

/-- A path leads to the same place in every tree that has the same directories, and perhaps more:
what stands at its end is not looked at. -/
theorem follow?_of_isDirectory {segments : List String}
    (hkept : ∀ place, t.isDirectory place = true → t'.isDirectory place = true)
    (h : t.follow? place segments = some other) : t'.follow? place segments = some other := by
  induction segments generalizing place with
  | nil => exact h
  | cons segment segments ih =>
    rw [follow?] at h ⊢
    split at h
    next hplace =>
      rw [if_pos (hkept place hplace)]
      exact ih h
    next => exact absurd h (by simp)

/-- Empty segments and single dots lead nowhere else. -/
theorem foldl_step_of_isVacuous {segments : List String}
    (h : ∀ segment ∈ segments, Path.isVacuous segment = true) :
    segments.foldl step place = place := by
  induction segments with
  | nil => rfl
  | cons segment segments ih =>
    rw [List.foldl_cons, step, if_pos (h segment (List.mem_cons_self ..))]
    exact ih fun other hother => h other (List.mem_cons_of_mem _ hother)

/-- A name that leads somewhere from a directory leads to what stands there under it. -/
theorem follow?_name {name : String} (hvacuous : Path.isVacuous name = false) (hup : name ≠ "..")
    (hplace : t.isDirectory place = true) (segments : List String) :
    t.follow? place (name :: segments) = t.follow? (place ++ [name]) segments := by
  simp [follow?, step, hvacuous, hup, hplace]

/-- Without `..` all that is on the way to a directory is a directory. -/
theorem follow?_of_no_up (h : t.Rooted) {segments : List String} (hup : ".." ∉ segments)
    (hreached : t.isDirectory (segments.foldl step place) = true) :
    t.follow? place segments = some (segments.foldl step place) := by
  -- from the end: the last step tells that the place before it is a directory as well
  induction segments using List.reverseRecOn with
  | nil => rfl
  | append_singleton segments segment ih =>
    rw [List.mem_append, not_or, List.mem_singleton] at hup
    rw [List.foldl_append, List.foldl_cons, List.foldl_nil] at hreached ⊢
    have hbefore := h.of_step (Ne.symm hup.2) hreached
    rw [follow?_append, ih hup.1 hbefore, Option.bind_some, follow?, if_pos hbefore]
    rfl

/-- Segments that lead nowhere else can be left off at the end. -/
theorem follow?_of_append_isVacuous {segments more : List String}
    (h : t.follow? place (segments ++ more) = some other)
    (hmore : ∀ segment ∈ more, Path.isVacuous segment = true) :
    t.follow? place segments = some other := by
  rw [follow?_append] at h
  obtain ⟨reached, hreached, hother⟩ := Option.bind_eq_some_iff.mp h
  rw [hreached, eq_foldl_of_follow? hother, foldl_step_of_isVacuous hmore]

/-- A path that leads to no directory ends with a name, and what is before the name leads to a
directory. -/
theorem named_of_follow? (hrooted : t.Rooted) {segments : List String} (hne : segments ≠ [])
    (h : t.follow? place segments = some other) (hother : t.isDirectory other = false) :
    ∃ front name directory, segments = front ++ [name] ∧ Path.isVacuous name = false ∧
      t.follow? place front = some directory ∧ t.isDirectory directory = true ∧
      other = directory ++ [name] := by
  obtain ⟨front, name, rfl⟩ := (List.eq_nil_or_concat' segments).resolve_left hne
  rw [follow?_append] at h
  obtain ⟨directory, hfront, hlast⟩ := Option.bind_eq_some_iff.mp h
  rw [follow?] at hlast
  split at hlast
  next hdirectory =>
    -- the last segment is no vacuous one and no `..`: both lead to directories
    have hstep : step directory name = other := Option.some.inj hlast
    unfold step at hstep
    split at hstep
    next =>
      rw [← hstep, hdirectory] at hother
      exact absurd hother (by decide)
    next hvacuous =>
      split at hstep
      next =>
        rw [← hstep, hrooted.dropLast hdirectory] at hother
        exact absurd hother (by decide)
      next =>
        exact ⟨front, name, directory, rfl, by simpa using hvacuous, hfront, hdirectory,
          hstep.symm⟩
  next => exact absurd hlast (by simp)

/-! ## Making directories -/

/-- Where a directory is, nothing is made. -/
theorem makeDirectory?_of_isDirectory (h : t.isDirectory place = true) :
    t.makeDirectory? place = some t := by
  rw [makeDirectory?, isDirectory_iff.mp h]

/-- A directory is there already, or it is put where nothing was. -/
theorem makeDirectory?_cases (h : t.makeDirectory? place = some t') :
    t.isDirectory place = true ∧ t' = t ∨
      place ≠ [] ∧ t.item? place = none ∧ t' = t.put place .directory := by
  unfold makeDirectory? at h
  split at h
  next hdirectory => exact .inl ⟨isDirectory_iff.mpr hdirectory, (Option.some.inj h).symm⟩
  next => exact absurd h (by simp)
  next hnone =>
    have hne : place ≠ [] := by
      rintro rfl
      exact absurd hnone (by simp [item?])
    exact .inr ⟨hne, hnone, (Option.some.inj h).symm⟩

/-- One directory that is made is all that changes. -/
theorem grown_makeDirectory? (h : t.makeDirectory? place = some t') : t.Grown t' := by
  rcases makeDirectory?_cases h with ⟨-, rfl⟩ | ⟨hne, hnone, rfl⟩
  · exact .refl t'
  · intro other
    rw [item?_put _ _ _ _ hne]
    by_cases heq : other = place
    · exact .inr ⟨heq ▸ hnone, if_pos heq⟩
    · exact .inl (if_neg heq)

theorem item?_of_makeDirectory? (h : t.makeDirectory? place = some t') (hother : other ≠ place) :
    t'.item? other = t.item? other := by
  rcases makeDirectory?_cases h with ⟨-, rfl⟩ | ⟨hne, -, rfl⟩
  · rfl
  · rw [item?_put _ _ _ _ hne, if_neg hother]

/-- Where making a directory succeeds, there is one. -/
theorem isDirectory_of_makeDirectory? (h : t.makeDirectory? place = some t') :
    t'.isDirectory place = true := by
  rcases makeDirectory?_cases h with ⟨hplace, rfl⟩ | ⟨hne, -, rfl⟩
  · exact hplace
  · rw [isDirectory_iff, item?_put _ _ _ _ hne, if_pos rfl]

/-- A directory made in a directory leaves the tree rooted. -/
theorem Rooted.makeDirectory? (h : t.Rooted) (hplace : t.isDirectory place.dropLast = true)
    (hmade : t.makeDirectory? place = some t') : t'.Rooted := by
  rcases makeDirectory?_cases hmade with ⟨-, rfl⟩ | ⟨hne, -, rfl⟩
  · exact h
  · exact h.put hplace hne (.inl rfl)

/-- However far making the directories of a path gets, it has added directories and nothing else. -/
theorem grown_makeDirectories (t : FileTree) (place : Place) (segments : List String) :
    t.Grown (t.makeDirectories place segments).1 := by
  induction segments generalizing t place with
  | nil =>
    rw [makeDirectories]
    split
    next made hmade => exact grown_makeDirectory? hmade
    next => exact .refl t
  | cons segment segments ih =>
    rw [makeDirectories]
    split
    -- the rest of the way is walked in the tree that has grown
    next made hmade => exact (grown_makeDirectory? hmade).trans (ih made _)
    next => exact .refl t

/-- However far it gets, the tree stays rooted: each directory is made one step from the one before.
-/
theorem Rooted.makeDirectories (h : t.Rooted) (hplace : t.isDirectory place.dropLast = true)
    (segments : List String) : (t.makeDirectories place segments).1.Rooted := by
  induction segments generalizing t place with
  | nil =>
    rw [FileTree.makeDirectories]
    split
    next made hmade => exact h.makeDirectory? hplace hmade
    next => exact h
  | cons segment segments ih =>
    rw [FileTree.makeDirectories]
    split
    next made hmade =>
      -- the directory just made is one, so the next place stands in a directory
      have hrooted := h.makeDirectory? hplace hmade
      exact ih hrooted (hrooted.step (isDirectory_of_makeDirectory? hmade) segment)
    next => exact h

/-- Only a file keeps a directory from being made. -/
theorem exists_file?_of_makeDirectory? (h : t.makeDirectory? place = none) :
    ∃ content, t.file? place = some content := by
  unfold makeDirectory? at h
  split at h
  next => exact absurd h (by simp)
  next content hfile => exact ⟨content, file?_eq_some_iff.mpr hfile⟩
  next => exact absurd h (by simp)

/-- One directory is made in a directory that is there. -/
theorem makeDirectories_name {name : String} (hvacuous : Path.isVacuous name = false)
    (hup : name ≠ "..") (hplace : t.isDirectory place = true) :
    t.makeDirectories place [name] =
      match t.makeDirectory? (place ++ [name]) with
      | some made => (made, true)
      | none => (t, false) := by
  have hthere := makeDirectory?_of_isDirectory hplace
  cases hname : t.makeDirectory? (place ++ [name]) with
  | none => simp [makeDirectories, hthere, step, hvacuous, hup, hname]
  | some made => simp [makeDirectories, hthere, step, hvacuous, hup, hname]

/-- Nothing is made on the way through directories that are there. -/
theorem makeDirectories_append {segments : List String}
    (h : t.follow? place segments = some other) (more : List String) :
    t.makeDirectories place (segments ++ more) = t.makeDirectories other more := by
  induction segments generalizing place with
  | nil => rw [List.nil_append, Option.some.inj h]
  | cons segment segments ih =>
    rw [follow?] at h
    split at h
    next hplace =>
      rw [List.cons_append, FileTree.makeDirectories, makeDirectory?_of_isDirectory hplace]
      exact ih h
    next => exact absurd h (by simp)

end SqlTemplate.FileTree
