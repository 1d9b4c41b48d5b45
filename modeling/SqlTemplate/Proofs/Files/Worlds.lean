import SqlTemplate.Files.Host
import SqlTemplate.Proofs.Files.Paths
import SqlTemplate.Proofs.Files.Tree

/-!
# Growing worlds

A machine works in a directory of a rooted file tree (`Grounded`). Its paths then lead to
directories, or by their last name into one (`leadsInto_of_resolve?`), and a path without
`..` leads to what is there even before the directories on the way are made
(`resolve?_of_grows`).

The parent of a path that leads into a directory leads to it (`LeadsInto.follow?_parent`), and
names put behind the parent are followed from there (`LeadsInto.resolve?_beside`).

The host makes directories without changing a file (`grows_makeDirectories`). When it writes a
file, that is all that changes, and the machine stays one with a rooted tree (`Writes.grounded`).
-/

namespace SqlTemplate.World

variable {w w' w'' : World} {path text : String} {place : Place} {item : Item}

/-- The place that a path spells, whether or not it leads there. -/
def spelled (w : World) (path : String) : Place :=
  (Path.segments path).foldl FileTree.step (FileTree.origin w.workingDirectory path)

/-- A machine with a rooted file tree, at work in a directory of it. -/
structure Grounded (w : World) : Prop where
  rooted : w.tree.Rooted
  atWork : w.tree.isDirectory w.workingDirectory = true

/-- A path is followed from a directory: the root, or the one that the machine works in. -/
theorem Grounded.isDirectory_origin (h : w.Grounded) (path : String) :
    w.tree.isDirectory (FileTree.origin w.workingDirectory path) = true := by
  unfold FileTree.origin
  split
  next => rfl
  next => exact h.atWork

/-! ## Where paths lead -/

/-- A path leads somewhere if the host accepts it as a path and its segments can be followed. -/
theorem resolve?_eq_some_iff : w.resolve? path = some place ↔
    path ≠ "" ∧ '\x00' ∉ path.toList ∧
      w.tree.follow? (FileTree.origin w.workingDirectory path) (Path.segments path) =
        some place := by
  unfold resolve? FileTree.resolve?
  by_cases hempty : path = ""
  · simp [hempty]
  · by_cases hnul : '\x00' ∈ path.toList
    · simp [hnul]
    · simp [hempty, hnul]

/-- A path leads nowhere but to the place that it spells. -/
theorem eq_spelled_of_resolve? (h : w.resolve? path = some place) : place = w.spelled path :=
  FileTree.eq_foldl_of_follow? (resolve?_eq_some_iff.mp h).2.2

/-- What a path finds is what stands at the place that it leads to. -/
theorem item?_of_resolve? (h : w.resolve? path = some place) :
    w.item? path = w.tree.item? place := by
  rw [World.item?, h, Option.bind_some]

/-- Whatever was there is there, and is found by the same paths. -/
structure Extends (w w' : World) : Prop where
  item? : ∀ {place item}, w.tree.item? place = some item → w'.tree.item? place = some item
  workingDirectory : w'.workingDirectory = w.workingDirectory

theorem Extends.refl (w : World) : w.Extends w := ⟨id, rfl⟩

theorem Extends.item?_path (h : w.Extends w') (hitem : w.item? path = some item) :
    w'.item? path = some item := by
  obtain ⟨place, hresolve, hplace⟩ := Option.bind_eq_some_iff.mp hitem
  obtain ⟨hne, hnul, hfollow⟩ := resolve?_eq_some_iff.mp hresolve
  have hkept : ∀ place, w.tree.isDirectory place = true → w'.tree.isDirectory place = true :=
    fun place hdirectory =>
      FileTree.isDirectory_iff.mpr (h.item? (FileTree.isDirectory_iff.mp hdirectory))
  have hresolve' : w'.resolve? path = some place := by
    rw [resolve?_eq_some_iff, h.workingDirectory]
    exact ⟨hne, hnul, FileTree.follow?_of_isDirectory hkept hfollow⟩
  rw [item?_of_resolve? hresolve', h.item? hplace]

/-! ## Beside a file -/

/-- A path ends with a name, and the segments in front lead to a directory. -/
structure LeadsInto (w : World) (path : String) (front : List String) (directory : Place) :
    Prop where
  segments : ∃ name, Path.segments path = front ++ [name] ∧ Path.isVacuous name = false
  noNul : '\x00' ∉ path.toList
  follow? : w.tree.follow? (FileTree.origin w.workingDirectory path) front = some directory
  isDirectory : w.tree.isDirectory directory = true

/-- A path that leads to no directory leads by its name into one. -/
theorem leadsInto_of_resolve? (hw : w.Grounded) (h : w.resolve? path = some place)
    (hplace : w.tree.isDirectory place = false) :
    ∃ front name directory, Path.segments path = front ++ [name] ∧
      w.LeadsInto path front directory ∧ place = directory ++ [name] := by
  obtain ⟨-, hnul, hfollow⟩ := resolve?_eq_some_iff.mp h
  obtain ⟨front, name, directory, hsegments, hname, hfront, hdirectory, hplace⟩ :=
    FileTree.named_of_follow? hw.rooted (Path.segments_ne_nil path) hfollow hplace
  exact ⟨front, name, directory, hsegments, ⟨⟨name, hsegments, hname⟩, hnul, hfront, hdirectory⟩,
    hplace⟩

/-- Names that lead somewhere from a directory, however that is spelled. -/
structure ArePlain (names : List String) : Prop where
  ne_nil : names ≠ []
  isSegment : ∀ name ∈ names, name ≠ "" ∧ Path.IsSegment name
  noNul : ∀ name ∈ names, '\x00' ∉ name.toList

namespace LeadsInto

variable {front names : List String} {directory : Place}
  (h : w.LeadsInto path front directory)

include h

/-- The directory of a file is spelled with segments of the path of the file. -/
theorem mem_segments {part : String} (hpart : part ∈ Path.stem front) :
    part ∈ Path.segments path := by
  obtain ⟨name, hsegments, -⟩ := h.segments
  obtain ⟨rest, hfront, -⟩ := Path.exists_eq_stem_append front
  rw [hsegments, hfront]
  simp [hpart]

/-- What the host would not accept is not in the path, so it is not in the spelling of its
directory. -/
theorem noNul_stem {part : String} (hpart : part ∈ Path.stem front) : '\x00' ∉ part.toList :=
  Path.not_mem_of_mem_segments (by decide) h.noNul (h.mem_segments hpart)

/-- The stem leads to the directory as well as all the segments do. -/
theorem follow?_stem : w.tree.follow? (FileTree.origin w.workingDirectory path)
    (Path.stem front) = some directory := by
  obtain ⟨rest, hfront, hrest⟩ := Path.exists_eq_stem_append front
  have hfollow := h.follow?
  rw [hfront] at hfollow
  exact FileTree.follow?_of_append_isVacuous hfollow hrest

theorem isAbsolute_iff : Path.isAbsolute path = true ↔ (Path.stem front).head? = some "" := by
  obtain ⟨name, hsegments, hname⟩ := h.segments
  have hne : name ≠ "" := by
    rintro rfl
    exact absurd hname (by decide)
  rw [Path.isAbsolute_iff hsegments hne, Path.head?_stem]

/-- The parent of a file leads to the directory that it is in. -/
theorem follow?_parent (hne : Path.directoryText (Path.stem front) ≠ "") :
    w.tree.follow?
      (FileTree.origin w.workingDirectory (Path.directoryText (Path.stem front)))
      (Path.segments (Path.directoryText (Path.stem front))) = some directory := by
  obtain ⟨name, hsegments, -⟩ := h.segments
  have hfront : ∀ part ∈ front, Path.IsSegment part := fun part hpart =>
    Path.isSegment_of_mem (hsegments ▸ List.mem_append_left [name] hpart)
  have hstem : ∀ part ∈ Path.stem front, Path.IsSegment part := fun _ hpart =>
    Path.isSegment_of_mem (h.mem_segments hpart)
  have hspells := Path.spellsDirectory_stem hfront
  have hfollow := h.follow?_stem
  have hpath := h.isAbsolute_iff
  generalize Path.stem front = parts at *
  -- the empty path is excluded, the root starts where the path does, and a named directory has the
  -- stem for its segments
  cases hspells with
  | here => exact absurd rfl hne
  | root =>
    rw [FileTree.origin, hpath.mpr rfl, if_pos rfl] at hfollow
    exact hfollow
  | @named parts last hlast hlastNe =>
    have hparts := Path.segments_ofSegments (List.concat_ne_nil last parts) hstem
    have hhead : parts.head? = some "" ↔ (parts ++ [last]).head? = some "" := by
      cases parts with
      | nil => simp [hlastNe]
      | cons first parts => simp
    have habsolute := (Path.isAbsolute_iff hparts hlastNe).trans (hhead.trans hpath.symm)
    rw [Path.directoryText_concat parts hlastNe, hparts, FileTree.origin]
    simp only [habsolute]
    exact hfollow

theorem noNul_parent : '\x00' ∉ (Path.directoryText (Path.stem front)).toList := by
  unfold Path.directoryText
  split
  next => decide
  next =>
    rw [Path.mem_ofSegments_iff (by decide)]
    rintro ⟨part, hpart, hnul⟩
    exact h.noNul_stem hpart hnul

/-- The directories that the parent of a file names are there, and none has to be made. -/
theorem makeDirectories_parent (hne : Path.directoryText (Path.stem front) ≠ "") :
    w.makeDirectories (Path.directoryText (Path.stem front)) = (w, true) := by
  have hmake := FileTree.makeDirectories_append (h.follow?_parent hne) []
  rw [List.append_nil, FileTree.makeDirectories,
    FileTree.makeDirectory?_of_isDirectory h.isDirectory] at hmake
  rw [World.makeDirectories, hmake]

variable (hnames : ArePlain names)

include hnames

/-- Names put behind the directory are its further segments. -/
theorem segments_beside : Path.segments (Path.ofSegments (Path.stem front ++ names)) =
    Path.stem front ++ names := by
  refine Path.segments_ofSegments (by simp [hnames.ne_nil]) fun part hpart => ?_
  rcases List.mem_append.mp hpart with hpart | hpart
  · exact Path.isSegment_of_mem (h.mem_segments hpart)
  · exact (hnames.isSegment part hpart).2

theorem noNul_beside : '\x00' ∉ (Path.ofSegments (Path.stem front ++ names)).toList := by
  rw [Path.mem_ofSegments_iff (by decide)]
  rintro ⟨part, hpart, hnul⟩
  rcases List.mem_append.mp hpart with hpart | hpart
  · exact h.noNul_stem hpart hnul
  · exact hnames.noNul part hpart hnul

theorem ne_empty_beside : Path.ofSegments (Path.stem front ++ names) ≠ "" := by
  intro hempty
  have hsegments := h.segments_beside hnames
  rw [hempty] at hsegments
  obtain ⟨name, hname⟩ := List.exists_mem_of_ne_nil names hnames.ne_nil
  have hmem : name ∈ Path.segments "" := hsegments ▸ List.mem_append_right _ hname
  exact (hnames.isSegment name hname).1 (List.mem_singleton.mp hmem)

/-- Such a path is followed from where the path of the file is. -/
theorem origin_beside (place : Place) :
    FileTree.origin place (Path.ofSegments (Path.stem front ++ names)) =
      FileTree.origin place path := by
  obtain ⟨first, rest, rfl⟩ := List.exists_cons_of_ne_nil hnames.ne_nil
  have hfirst := (hnames.isSegment first (List.mem_cons_self ..)).1
  have hbeside := Path.isAbsolute_iff (h.segments_beside hnames) hfirst
  rw [← h.isAbsolute_iff] at hbeside
  simp only [FileTree.origin, hbeside]

/-- Names put behind the directory of a file are followed from there. -/
theorem resolve?_beside : w.resolve? (Path.ofSegments (Path.stem front ++ names)) =
    w.tree.follow? directory names := by
  refine Option.ext fun place => ?_
  rw [resolve?_eq_some_iff, h.segments_beside hnames, h.origin_beside hnames,
    FileTree.follow?_append, h.follow?_stem, Option.bind_some]
  exact ⟨fun h' => h'.2.2, fun h' => ⟨h.ne_empty_beside hnames, h.noNul_beside hnames, h'⟩⟩

/-- Directories behind the directory of a file are made from there. -/
theorem makeDirectories_beside :
    w.makeDirectories (Path.ofSegments (Path.stem front ++ names)) =
      ({ w with tree := (w.tree.makeDirectories directory names).1 },
        (w.tree.makeDirectories directory names).2) := by
  rw [World.makeDirectories, h.segments_beside hnames, h.origin_beside hnames,
    FileTree.makeDirectories_append h.follow?_stem]

end LeadsInto

/-! ## Making directories -/

/-- Directories have been made, and no file has changed. -/
structure Grows (w w' : World) : Prop where
  tree : w.tree.Grown w'.tree
  workingDirectory : w'.workingDirectory = w.workingDirectory
  grounded : w'.Grounded

theorem Grows.refl (h : w.Grounded) : w.Grows w := ⟨.refl w.tree, rfl, h⟩

/-- A path spells the same place, whatever has been made. -/
theorem Grows.spelled (h : w.Grows w') (path : String) : w'.spelled path = w.spelled path := by
  rw [World.spelled, World.spelled, h.workingDirectory]

/-- What is no directory in the end was a file before. -/
theorem Grows.exists_file? (h : w.Grows w') (hitem : w.tree.item? place = some item)
    (hplace : w'.tree.isDirectory place = false) :
    ∃ content, w.tree.file? place = some content := by
  cases item with
  | file content => exact ⟨content, FileTree.file?_eq_some_iff.mpr hitem⟩
  | directory =>
    rw [h.tree.isDirectory (FileTree.isDirectory_iff.mpr hitem)] at hplace
    exact absurd hplace (by decide)

/-- A path that leads into a directory still does. -/
theorem Grows.leadsInto {front : List String} {directory : Place} (h : w.Grows w')
    (hleads : w.LeadsInto path front directory) : w'.LeadsInto path front directory := by
  refine ⟨hleads.segments, hleads.noNul, ?_, h.tree.isDirectory hleads.isDirectory⟩
  rw [h.workingDirectory]
  exact FileTree.follow?_of_isDirectory (fun _ => h.tree.isDirectory) hleads.follow?

/-- What a path without `..` leads to once directories have been made, it led to before, if that
was there. -/
theorem resolve?_of_grows (hw : w.Grounded) (h : w.Grows w')
    (hresolve : w'.resolve? path = some place) (hplace : w'.tree.isDirectory place = false)
    (hup : ".." ∉ Path.segments path) (hitem : w.tree.item? place = some item) :
    w.resolve? path = some place := by
  obtain ⟨hne, hnul, hfollow⟩ := resolve?_eq_some_iff.mp hresolve
  obtain ⟨front, name, directory, hsegments, hleads, rfl⟩ :=
    leadsInto_of_resolve? h.grounded hresolve hplace
  have hfront := hleads.follow?
  have hdirectory : w.tree.isDirectory directory = true := by
    simpa using hw.rooted _ _ hitem
  rw [h.workingDirectory] at hfront hfollow
  obtain rfl := FileTree.eq_foldl_of_follow? hfront
  -- the directory of what was there was there, and without `..` so were those on the way to it
  have hbefore := FileTree.follow?_of_no_up hw.rooted
    (fun hmem => hup (hsegments ▸ List.mem_append_left _ hmem)) hdirectory
  refine resolve?_eq_some_iff.mpr ⟨hne, hnul, ?_⟩
  rw [hsegments, FileTree.follow?_append] at hfollow ⊢
  rw [hfront, Option.bind_some, FileTree.follow?] at hfollow
  rw [hbefore, Option.bind_some, FileTree.follow?, if_pos hdirectory]
  split at hfollow
  next => exact hfollow
  next => exact absurd hfollow (by simp)

/-- Making directories, all that are asked for or some, is growing. -/
theorem grows_makeDirectories (h : w.Grounded) (path : String) :
    w.Grows (w.makeDirectories path).1 := by
  have hgrown := FileTree.grown_makeDirectories w.tree
    (FileTree.origin w.workingDirectory path) (Path.segments path)
  have horigin := h.rooted.dropLast (h.isDirectory_origin path)
  exact ⟨hgrown, rfl, h.rooted.makeDirectories horigin _, hgrown.isDirectory h.atWork⟩

/-! ## Writing files -/

/-- A file has been written where a path leads. All else is as before, but for what is printed. -/
structure Writes (w w' : World) (path text : String) : Prop where
  resolved : w.resolve? path = some (w.spelled path)
  notDirectory : w.tree.isDirectory (w.spelled path) = false
  tree : w'.tree = w.tree.put (w.spelled path) (.file text.toUTF8)
  workingDirectory : w'.workingDirectory = w.workingDirectory

/-- What the host reports as written has been written where the path leads, and nothing else. -/
theorem writes_of_write? (h : w.write? path text = some w') : w.Writes w' path text := by
  unfold write? at h
  obtain ⟨place, hplace, h⟩ := Option.bind_eq_some_iff.mp h
  obtain ⟨tree, htree, h⟩ := Option.bind_eq_some_iff.mp h
  obtain rfl := Option.some.inj h
  obtain rfl := eq_spelled_of_resolve? hplace
  unfold FileTree.write? at htree
  split at htree
  next => exact absurd htree (by simp)
  next hdirectory =>
    exact ⟨hplace, by simpa using hdirectory, (Option.some.inj htree).symm, rfl⟩

/-- Writing fails only where a path leads nowhere or to a directory. -/
theorem write?_of_resolve? (h : w.resolve? path = some place)
    (hplace : w.tree.isDirectory place = false) (text : String) :
    ∃ w', w.write? path text = some w' := by
  simp [write?, h, FileTree.write?, hplace]

namespace Writes

variable (h : w.Writes w' path text)

include h

/-- Every place after the writing: the file that has been written, and all else as before. -/
theorem item? (place : Place) : w'.tree.item? place =
    if place = w.spelled path then some (.file text.toUTF8) else w.tree.item? place := by
  rw [h.tree, FileTree.item?_put]
  exact FileTree.ne_nil_of_isDirectory_eq_false h.notDirectory

theorem file?_of_ne (hplace : place ≠ w.spelled path) :
    w'.tree.file? place = w.tree.file? place := by
  rw [FileTree.file?, FileTree.file?, h.item?, if_neg hplace]

theorem isDirectory_path : w'.tree.isDirectory (w.spelled path) = false := by
  rw [FileTree.isDirectory, h.item?, if_pos rfl]
  rfl

/-- No directory is lost: the file was not written in the place of one. -/
theorem isDirectory (hplace : w.tree.isDirectory place = true) :
    w'.tree.isDirectory place = true := by
  rw [h.tree]
  exact FileTree.isDirectory_put (FileTree.ne_nil_of_isDirectory_eq_false h.notDirectory)
    (.inr h.notDirectory) hplace

/-- The file has come into a directory, so the tree stays rooted. -/
theorem grounded (hw : w.Grounded) : w'.Grounded := by
  obtain ⟨front, name, directory, -, hleads, hplace⟩ :=
    leadsInto_of_resolve? hw h.resolved h.notDirectory
  have hparent : w.tree.isDirectory (w.spelled path).dropLast = true := by
    rw [hplace, List.dropLast_concat]
    exact hleads.isDirectory
  -- the tree is rooted, and the machine still works in a directory of it
  refine ⟨?_, ?_⟩
  · rw [h.tree]
    exact hw.rooted.put hparent (FileTree.ne_nil_of_isDirectory_eq_false h.notDirectory)
      (.inr h.notDirectory)
  · rw [h.workingDirectory]
    exact h.isDirectory hw.atWork

/-- The path leads to the file that has been written. -/
theorem resolve? : w'.resolve? path = some (w.spelled path) := by
  obtain ⟨hne, hnul, hfollow⟩ := resolve?_eq_some_iff.mp h.resolved
  refine resolve?_eq_some_iff.mpr ⟨hne, hnul, ?_⟩
  rw [h.workingDirectory]
  exact FileTree.follow?_of_isDirectory (fun _ => h.isDirectory) hfollow

theorem item?_path : w'.item? path = some (.file text.toUTF8) := by
  rw [item?_of_resolve? h.resolve?, h.item?, if_pos rfl]

theorem print (printed : String) :
    w.Writes { w' with printed := printed } path text :=
  ⟨h.resolved, h.notDirectory, h.tree, h.workingDirectory⟩

end Writes

/-! ## What the host does -/

variable (w) (reason : String)

theorem run_isPresent (path : String) :
    ((host reason).isPresent path).run w = ((w.item? path).isSome, w) := rfl

theorem run_print (text : String) :
    ((host reason).print text).run w = ((), { w with printed := w.printed ++ text }) := rfl

/-- The host makes directories as the tree does. A refusal leaves those that have been made before
it. -/
theorem run_makeDirectories (path : String) :
    ((host reason).makeDirectories path).run w =
      if '\x00' ∈ path.toList then (.error (refusal reason path), w)
      else
        (if (w.makeDirectories path).2 then .ok () else .error (refusal reason path),
          (w.makeDirectories path).1) := by
  by_cases hnul : '\x00' ∈ path.toList
  · simp [host, hnul]
    rfl
  · simp [host, hnul]
    rfl

variable {w} in
/-- The host makes directories, all of them or some. -/
theorem exists_run_makeDirectories (hw : w.Grounded) (path : String) :
    ∃ outcome w', ((host reason).makeDirectories path).run w = (outcome, w') ∧ w.Grows w' := by
  rw [run_makeDirectories]
  split
  next => exact ⟨_, w, rfl, .refl hw⟩
  next => exact ⟨_, _, rfl, grows_makeDirectories hw path⟩

/-- The host writes a file or refuses to, and a refusal changes nothing. -/
theorem run_writeFile (path text : String) :
    ((host reason).writeFile path text).run w =
      match w.write? path text with
      | some w' => (.ok (), w')
      | none => (.error (refusal reason path), w) := by
  simp only [host, StateT.run_bind, StateT.run_get, pure_bind]
  cases w.write? path text with
  | none => rfl
  | some w' => rfl

end SqlTemplate.World
