import SqlTemplate.Command.Run
import SqlTemplate.Proofs.Files.Runs
import SqlTemplate.Proofs.Files.Worlds

/-!
# Starting a project

`init` writes a project file and then example templates, each after the directories on the way to
it. Writing one file changes that file, or it fails and at most directories have been made
(`run_writeStarter`). The example templates go beside the project file, and by then the directory
of that is there: so they are written, or are there already, unless a file stands where their own
directory should (`run_addTemplates`). What has been written before a failure stays.

> `init_keeps_files`: `init` keeps what was there, but for a file that the path of the project file
> spells without leading to it. If `init` fails, all files are as they were, or the project file
> has been written and the example templates could not be. If nothing is in the way, it succeeds.

The proviso and the exception are needed (`init_fails_halfway_and_strays`).
-/

namespace SqlTemplate.Command

variable {w w₁ w' : World} {path text config : String} {place : Place}

section

variable (reason : String)

/-! ## Writing one file -/

/-- Making the parent of a file is making its directories, with the path in the error. -/
theorem run_makeParent_of_parent {parent : String} (hparent : Path.parent? path = some parent)
    (hne : parent ≠ "") {outcome : Except String Unit}
    (hrun : ((World.host reason).makeDirectories parent).run w = (outcome, w₁)) :
    (makeParent (World.host reason) path).run.run w =
      (outcome.mapError (.makeDirectory parent), w₁) := by
  have hempty : parent.isEmpty = false := by simpa using hne
  unfold makeParent
  rw [hparent]
  simp only [hempty, Bool.false_eq_true, if_false]
  rw [run_bind_of_ok (run_lift_of_run hrun)]
  cases outcome with
  | ok => rfl
  | error => rfl

/-- The directory that a file is to stand in is made, or some of those on the way to it are. -/
theorem run_makeParent (hw : w.Grounded) (path : String) :
    ∃ outcome w', (makeParent (World.host reason) path).run.run w = (outcome, w') ∧ w.Grows w' := by
  cases hparent : Path.parent? path with
  | none =>
    refine ⟨.ok (), w, ?_, .refl hw⟩
    rw [makeParent, hparent]
    rfl
  | some parent =>
    by_cases hempty : parent = ""
    · refine ⟨.ok (), w, ?_, .refl hw⟩
      rw [makeParent, hparent, hempty]
      rfl
    · obtain ⟨outcome, w', hrun, hgrows⟩ := World.exists_run_makeDirectories reason hw parent
      exact ⟨_, w', run_makeParent_of_parent reason hparent hempty hrun, hgrows⟩

/-- Where the directory of a file is there, none has to be made. -/
theorem run_makeParent_of_leadsInto {front : List String} {directory : Place}
    (h : w.LeadsInto path front directory) :
    (makeParent (World.host reason) path).run.run w = (.ok (), w) := by
  obtain ⟨name, hsegments, hname⟩ := h.segments
  have hparent := Path.parent?_eq hsegments hname
  by_cases hempty : Path.directoryText (Path.stem front) = ""
  · rw [makeParent, hparent, hempty]
    rfl
  · have hrun := World.run_makeDirectories w reason (Path.directoryText (Path.stem front))
    rw [h.makeDirectories_parent hempty, if_neg h.noNul_parent] at hrun
    exact run_makeParent_of_parent reason hparent hempty hrun

/-- Where the directory is made and the host writes, the file is reported as written. -/
theorem run_writeStarter_of_write {w₂ : World}
    (hparent : (makeParent (World.host reason) path).run.run w = (.ok (), w₁))
    (hwrite : w₁.write? path text = some w₂) :
    (writeStarter (World.host reason) path text).run.run w =
      (.ok (), { w₂ with printed := w₂.printed ++ ("wrote " ++ path ++ "\n") }) := by
  have hrun := World.run_writeFile w₁ reason path text
  rw [hwrite] at hrun
  rw [writeStarter, run_bind_of_ok hparent, run_bind_of_ok (run_lift_of_run hrun)]
  exact run_lift_of_run (World.run_print w₂ reason _)

/-- A file of a starter project is written, or directories are made at most. -/
theorem run_writeStarter (hw : w.Grounded) (path text : String) :
    (∃ fault w', (writeStarter (World.host reason) path text).run.run w = (.error fault, w') ∧
      w.Grows w') ∨
    ∃ w₁ w', (writeStarter (World.host reason) path text).run.run w = (.ok (), w') ∧
      w.Grows w₁ ∧ w₁.Writes w' path text := by
  obtain ⟨outcome, w₁, hparent, hgrows⟩ := run_makeParent reason hw path
  cases outcome with
  | error fault =>
    refine .inl ⟨fault, w₁, ?_, hgrows⟩
    rw [writeStarter, run_bind_of_error hparent]
  | ok =>
    cases hwrite : w₁.write? path text with
    | none =>
      have hrun := World.run_writeFile w₁ reason path text
      rw [hwrite] at hrun
      refine .inl ⟨.write path (World.refusal reason path), w₁, ?_, hgrows⟩
      rw [writeStarter, run_bind_of_ok hparent, run_bind_of_ok (run_lift_of_run hrun)]
      rfl
    | some w₂ =>
      exact .inr ⟨w₁, _, run_writeStarter_of_write reason hparent hwrite, hgrows,
        (World.writes_of_write? hwrite).print _⟩

/-! ## Adding the example templates -/

/-- The last part of starting a project. -/
def addTemplates {m : Type → Type} [Monad m] (host : Host m) (config : String) :
    ExceptT StarterFault m Unit := do
  if ← host.isPresent (examplePath config) then return
  writeStarter host (examplePath config) starterTemplates

/-- The example templates stand beside the project file, in a directory of their own. -/
theorem examplePath_eq {front : List String} {directory : Place}
    (h : w.LeadsInto config front directory) :
    examplePath config = Path.ofSegments (Path.stem front ++ ["sql", "example.yml"]) := by
  obtain ⟨name, hsegments, hname⟩ := h.segments
  have hfront : ∀ part ∈ front, Path.IsSegment part := fun part hpart =>
    Path.isSegment_of_mem (hsegments ▸ List.mem_append_left [name] hpart)
  have hsql : Path.isAbsolute "sql" = false := by decide
  have hexample : Path.isAbsolute "example.yml" = false := by decide
  have hsegment : Path.IsSegment "sql" := by decide
  rw [examplePath, Path.parent?_eq hsegments hname, Option.getD_some,
    Path.join_directoryText (Path.spellsDirectory_stem hfront) hsql,
    ← Path.directoryText_concat _ (by decide),
    Path.join_directoryText (.named (Path.stem front) hsegment (by decide)) hexample,
    List.append_assoc]
  rfl

/-- The name of the directory of the example templates is plain. -/
theorem arePlain_sql : World.ArePlain ["sql"] := ⟨by decide, by decide, by decide⟩

theorem arePlain_example : World.ArePlain ["sql", "example.yml"] :=
  ⟨by decide, by decide, by decide⟩

/-- The directory to be made for the example templates. -/
theorem parent?_examplePath {front : List String} {directory : Place}
    (h : w.LeadsInto config front directory) :
    Path.parent? (examplePath config) = some (Path.ofSegments (Path.stem front ++ ["sql"])) := by
  have hsegments : Path.segments (examplePath config) =
      Path.stem front ++ ["sql"] ++ ["example.yml"] := by
    rw [examplePath_eq h, h.segments_beside arePlain_example, List.append_assoc]
    rfl
  rw [Path.parent?_eq hsegments (by decide), Path.stem_concat _ (by decide),
    Path.directoryText_concat _ (by decide)]

section

variable {front : List String} {directory : Place} (h : w.LeadsInto config front directory)

include h

/-- The directory of the example templates is the only one that has to be made, since that of the
project file is there. -/
theorem run_makeDirectories_sql :
    ((World.host reason).makeDirectories (Path.ofSegments (Path.stem front ++ ["sql"]))).run w =
      match w.tree.makeDirectory? (directory ++ ["sql"]) with
      | some made => (.ok (), { w with tree := made })
      | none =>
        (.error (World.refusal reason (Path.ofSegments (Path.stem front ++ ["sql"]))), w) := by
  rw [World.run_makeDirectories, if_neg (h.noNul_beside arePlain_sql),
    h.makeDirectories_beside arePlain_sql,
    FileTree.makeDirectories_name (by decide) (by decide) h.isDirectory]
  cases w.tree.makeDirectory? (directory ++ ["sql"]) with
  | none => rfl
  | some made => rfl

/-- It is made, or was there. -/
theorem run_makeParent_made {made : FileTree}
    (hmade : w.tree.makeDirectory? (directory ++ ["sql"]) = some made) :
    (makeParent (World.host reason) (examplePath config)).run.run w =
      (.ok (), { w with tree := made }) := by
  have hrun := run_makeDirectories_sql reason h
  rw [hmade] at hrun
  exact run_makeParent_of_parent reason (parent?_examplePath h) (h.ne_empty_beside arePlain_sql)
    hrun

/-- It cannot be made, and nothing has changed. -/
theorem run_makeParent_blocked
    (hblocked : w.tree.makeDirectory? (directory ++ ["sql"]) = none) :
    ∃ fault, (makeParent (World.host reason) (examplePath config)).run.run w =
      (.error fault, w) := by
  have hrun := run_makeDirectories_sql reason h
  rw [hblocked] at hrun
  exact ⟨_, run_makeParent_of_parent reason (parent?_examplePath h)
    (h.ne_empty_beside arePlain_sql) hrun⟩

/-- The example templates are found where their directory is. -/
theorem resolve?_examplePath : w.resolve? (examplePath config) =
    if w.tree.isDirectory (directory ++ ["sql"]) then
      some (directory ++ ["sql"] ++ ["example.yml"])
    else none := by
  rw [examplePath_eq h, h.resolve?_beside arePlain_example,
    FileTree.follow?_name (by decide) (by decide) h.isDirectory]
  split
  next hsql =>
    rw [FileTree.follow?_name (by decide) (by decide) hsql]
    rfl
  next hsql => rw [FileTree.follow?, if_neg hsql]

theorem item?_example_of_absent (hw : w.Grounded) (habsent : w.item? (examplePath config) = none) :
    w.tree.item? (directory ++ ["sql"] ++ ["example.yml"]) = none := by
  by_contra hsome
  obtain ⟨item, hitem⟩ := Option.ne_none_iff_exists'.mp hsome
  have hsql := hw.rooted _ _ hitem
  have hresolve := resolve?_examplePath h
  rw [List.dropLast_concat] at hsql
  rw [if_pos hsql] at hresolve
  rw [World.item?_of_resolve? hresolve, hitem] at habsent
  exact absurd habsent (by simp)

/-- Making that directory is growing. -/
theorem grows_makeDirectory? (hw : w.Grounded) {made : FileTree}
    (hmade : w.tree.makeDirectory? (directory ++ ["sql"]) = some made) :
    w.Grows { w with tree := made } := by
  have hgrown := FileTree.grown_makeDirectory? hmade
  have hparent : w.tree.isDirectory (directory ++ ["sql"]).dropLast = true := by
    rw [List.dropLast_concat]
    exact h.isDirectory
  exact ⟨hgrown, rfl, hw.rooted.makeDirectory? hparent hmade, hgrown.isDirectory hw.atWork⟩

end

/-- Example templates that are there are left alone. -/
theorem run_addTemplates_of_present (h : (w.item? (examplePath config)).isSome = true) :
    (addTemplates (World.host reason) config).run.run w = (.ok (), w) := by
  rw [addTemplates, run_bind_of_ok (run_lift_of_run (World.run_isPresent w reason _)), h,
    if_pos rfl]
  rfl

/-- Example templates that are not there are to be written. -/
theorem run_addTemplates_of_absent (h : w.item? (examplePath config) = none) :
    (addTemplates (World.host reason) config).run.run w =
      (writeStarter (World.host reason) (examplePath config) starterTemplates).run.run w := by
  rw [addTemplates, run_bind_of_ok (run_lift_of_run (World.run_isPresent w reason _)), h,
    Option.isSome_none, if_neg Bool.false_ne_true]

/-- Example templates that are not there are written, if their directory is or can be made. -/
theorem run_addTemplates_of_made {front : List String} {directory : Place} (hw : w.Grounded)
    (h : w.LeadsInto config front directory) (habsent : w.item? (examplePath config) = none)
    {made : FileTree} (hmade : w.tree.makeDirectory? (directory ++ ["sql"]) = some made) :
    ∃ w', (addTemplates (World.host reason) config).run.run w = (.ok (), w') ∧ w.Extends w' ∧
      (w'.item? (examplePath config)).isSome = true := by
  have hfree := item?_example_of_absent h hw habsent
  have hgrows := grows_makeDirectory? h hw hmade
  have hresolve := resolve?_examplePath (hgrows.leadsInto h)
  rw [if_pos (FileTree.isDirectory_of_makeDirectory? hmade)] at hresolve
  have hfile : made.isDirectory (directory ++ ["sql"] ++ ["example.yml"]) = false := by
    rw [FileTree.isDirectory, FileTree.item?_of_makeDirectory? hmade (by simp), hfree]
    rfl
  obtain ⟨w₂, hwrite⟩ := World.write?_of_resolve? hresolve hfile starterTemplates
  have hrun := run_writeStarter_of_write reason (run_makeParent_made reason h hmade) hwrite
  have hwrites := (World.writes_of_write? hwrite).print
    (w₂.printed ++ ("wrote " ++ examplePath config ++ "\n"))
  refine ⟨_, (run_addTemplates_of_absent reason habsent).trans hrun,
    ⟨fun {place item} hitem => ?_, hwrites.workingDirectory⟩, by rw [hwrites.item?_path]; rfl⟩
  -- what was there was not where the templates have come
  have hne : place ≠ directory ++ ["sql"] ++ ["example.yml"] := by
    rintro rfl
    rw [hfree] at hitem
    exact absurd hitem (by simp)
  rw [World.eq_spelled_of_resolve? hresolve] at hne
  exact (hwrites.item? place).trans ((if_neg hne).trans (hgrows.tree.item? hitem))

/-- The example templates are added beside the project file unless they are there, or a file stands
where their directory should. -/
theorem run_addTemplates (hw : w.Grounded) (hconfig : w.resolve? config = some place)
    (hplace : w.tree.isDirectory place = false) :
    (∃ w', (addTemplates (World.host reason) config).run.run w = (.ok (), w') ∧ w.Extends w' ∧
      (w'.item? (examplePath config)).isSome = true) ∨
    ∃ fault content, (addTemplates (World.host reason) config).run.run w = (.error fault, w) ∧
      w.tree.file? (place.dropLast ++ ["sql"]) = some content := by
  obtain ⟨front, name, directory, -, hleads, rfl⟩ := World.leadsInto_of_resolve? hw hconfig hplace
  rw [List.dropLast_concat]
  cases hmade : w.tree.makeDirectory? (directory ++ ["sql"]) with
  | none =>
    obtain ⟨content, hfile⟩ := FileTree.exists_file?_of_makeDirectory? hmade
    obtain ⟨fault, hparent⟩ := run_makeParent_blocked reason hleads hmade
    -- no path leads through a file, so there are no example templates to be found
    have habsent : w.item? (examplePath config) = none := by
      rw [World.item?, resolve?_examplePath hleads, FileTree.isDirectory_of_file? hfile]
      rfl
    refine .inr ⟨fault, content, ?_, hfile⟩
    rw [run_addTemplates_of_absent reason habsent, writeStarter, run_bind_of_error hparent]
  | some made =>
    cases hitem : w.item? (examplePath config) with
    | some item =>
      have hsome : (w.item? (examplePath config)).isSome = true := by rw [hitem]; rfl
      exact .inl ⟨w, run_addTemplates_of_present reason hsome, .refl w, hsome⟩
    | none => exact .inl (run_addTemplates_of_made reason hw hleads hitem hmade)

/-! ## How starting a project ends -/

/-- A project file that is there is refused at once. -/
theorem run_startProject_of_present (h : (w.item? config).isSome = true) :
    (startProject (World.host reason) config).run.run w = (.error (.exists config), w) := by
  rw [startProject, run_bind_of_ok (run_lift_of_run (World.run_isPresent w reason _)), h,
    if_pos rfl]
  rfl

/-- Else the project file is written first, and then the templates. -/
theorem run_startProject_of_absent (h : w.item? config = none) :
    (startProject (World.host reason) config).run.run w =
      (writeStarter (World.host reason) config starterConfig >>= fun _ =>
        addTemplates (World.host reason) config).run.run w := by
  rw [startProject, run_bind_of_ok (run_lift_of_run (World.run_isPresent w reason _)), h,
    Option.isSome_none, if_neg Bool.false_ne_true]
  rfl

theorem run_orFail {ε σ α : Type} {failure : ε → Failure} {action : ExceptT ε (StateM σ) α}
    {s s' : σ} {outcome : Except ε α} (h : action.run.run s = (outcome, s')) :
    (orFail failure action).run.run s = (outcome.mapError failure, s') := by
  show (Except.mapError failure <$> action.run).run s = _
  rw [StateT.run_map, h]
  rfl

end

/-- A path with `..` spells the place of a file, but does not lead there. -/
structure Strays (w : World) (path : String) (place : Place) : Prop where
  up : ".." ∈ Path.segments path
  spelled : w.spelled path = place
  isFile : ∃ content, w.tree.file? place = some content
  absent : w.item? path = none

/-- What was there is there, but for a file that the path of the project file strays to. -/
def Keeps (w w' : World) (config : String) : Prop :=
  ∀ place item, w.tree.item? place = some item →
    w'.tree.item? place = some item ∨ Strays w config place

/-- The project file is all that has been written, for a file, which may be the project file itself,
stands where the directory of the example templates should. -/
structure HalfStarted (w w' : World) (config : String) : Prop where
  absent : w.item? config = none
  written : w'.item? config = some (.file starterConfig.toUTF8)
  others : ∀ place, place ≠ w.spelled config → w'.tree.file? place = w.tree.file? place
  blocked : ∃ content, w'.tree.file? ((w.spelled config).dropLast ++ ["sql"]) = some content

/-- The project file has been written, and there are example templates. -/
structure Started (w w' : World) (config : String) : Prop where
  absent : w.item? config = none
  written : w'.item? config = some (.file starterConfig.toUTF8)
  templates : (w'.item? (examplePath config)).isSome = true

/-- What starting a project in a world can come to, and the world that it ends in. -/
inductive StartEnds (w : World) (config : String) : Except StarterFault Unit → World → Prop
  | refused : (w.item? config).isSome = true → StartEnds w config (.error (.exists config)) w
  | stopped {fault : StarterFault} {w' : World} : w.item? config = none → w.Grows w' →
      StartEnds w config (.error fault) w'
  | half {fault : StarterFault} {w' : World} : HalfStarted w w' config → Keeps w w' config →
      StartEnds w config (.error fault) w'
  | started {w' : World} : Started w w' config → Keeps w w' config →
      StartEnds w config (.ok ()) w'

/-- The file that is written is one that the path did not find before. If something stood at its
place all the same, the path only led there once directories had been made: it has a `..` in it. -/
theorem keeps_of_writes (hw : w.Grounded) (habsent : w.item? config = none) (hgrows : w.Grows w₁)
    (hwrites : w₁.Writes w' config text) : Keeps w w' config := by
  intro place item hitem
  by_cases hplace : place = w.spelled config
  · have hfile : w₁.tree.isDirectory place = false := by
      rw [hplace, ← hgrows.spelled]
      exact hwrites.notDirectory
    refine .inr ⟨?_, hplace.symm, hgrows.exists_file? hitem hfile, habsent⟩
    -- a path without `..` would have led to the file before anything was made
    by_contra hup
    have hresolve := World.resolve?_of_grows hw hgrows hwrites.resolved hwrites.notDirectory hup
      (by rw [hgrows.spelled, ← hplace, hitem])
    rw [World.item?_of_resolve? hresolve, hgrows.spelled, ← hplace, hitem] at habsent
    exact absurd habsent (by simp)
  · rw [hwrites.item?, hgrows.spelled, if_neg hplace]
    exact .inl (hgrows.tree.item? hitem)

/-- Between the two files: the first has been written, and no other file has changed. -/
theorem halfStarted_of_writes (habsent : w.item? config = none) (hgrows : w.Grows w₁)
    (hwrites : w₁.Writes w' config starterConfig) {content : ByteArray}
    (hblocked : w'.tree.file? ((w.spelled config).dropLast ++ ["sql"]) = some content) :
    HalfStarted w w' config := by
  refine ⟨habsent, hwrites.item?_path, fun place hplace => ?_, content, hblocked⟩
  rw [← hgrows.spelled] at hplace
  rw [hwrites.file?_of_ne hplace, hgrows.tree.file?_eq]

/-- Every run ends in one of the ways of `StartEnds`, whatever the world and the path are. The cases
are those of the program: the file is there, the first file fails, the second one fails, or neither.
-/
theorem run_startProject (hw : w.Grounded) (reason config : String) :
    ∃ outcome w', (startProject (World.host reason) config).run.run w = (outcome, w') ∧
      StartEnds w config outcome w' := by
  cases hpresent : w.item? config with
  | some item =>
    have hsome : (w.item? config).isSome = true := by rw [hpresent]; rfl
    exact ⟨_, w, run_startProject_of_present reason hsome, .refused hsome⟩
  | none =>
    rw [run_startProject_of_absent reason hpresent]
    rcases run_writeStarter reason hw config starterConfig with
      ⟨fault, w', hrun, hgrows⟩ | ⟨w₁, w₂, hrun, hgrows, hwrites⟩
    · exact ⟨_, w', run_bind_of_error hrun _, .stopped hpresent hgrows⟩
    · rw [run_bind_of_ok hrun]
      have hkeeps := keeps_of_writes hw hpresent hgrows hwrites
      rcases run_addTemplates reason (hwrites.grounded hgrows.grounded) hwrites.resolve?
        hwrites.isDirectory_path with
        ⟨w', hadd, hextends, htemplates⟩ | ⟨fault, content, hadd, hblocked⟩
      · have hwritten := hextends.item?_path hwrites.item?_path
        exact ⟨_, w', hadd, .started ⟨hpresent, hwritten, htemplates⟩ fun place item hitem =>
          (hkeeps place item hitem).imp_left hextends.item?⟩
      · rw [hgrows.spelled] at hblocked
        exact ⟨_, w₂, hadd, .half (halfStarted_of_writes hpresent hgrows hwrites hblocked) hkeeps⟩

/-- Nothing is in the way of a new project: the directory of the project file is there, nothing
stands where that should, and neither a file nor that stands where the directory of the example
templates should. -/
structure Ready (w : World) (config : String) : Prop where
  resolved : w.resolve? config = some (w.spelled config)
  free : w.tree.item? (w.spelled config) = none
  unblocked : w.tree.file? ((w.spelled config).dropLast ++ ["sql"]) = none
  apart : w.spelled config ≠ (w.spelled config).dropLast ++ ["sql"]

/-- Where nothing is in the way, starting a project succeeds. -/
theorem run_startProject_of_ready (hw : w.Grounded) (h : Ready w config) (reason : String) :
    ∃ w', (startProject (World.host reason) config).run.run w = (.ok (), w') := by
  have habsent : w.item? config = none := (World.item?_of_resolve? h.resolved).trans h.free
  have hfree : w.tree.isDirectory (w.spelled config) = false := by
    rw [FileTree.isDirectory, h.free]
    rfl
  obtain ⟨front, name, directory, -, hleads, -⟩ := World.leadsInto_of_resolve? hw h.resolved hfree
  obtain ⟨w₂, hwrite⟩ := World.write?_of_resolve? h.resolved hfree starterConfig
  have hrun := run_writeStarter_of_write reason (run_makeParent_of_leadsInto reason hleads) hwrite
  have hwrites := (World.writes_of_write? hwrite).print
    (w₂.printed ++ ("wrote " ++ config ++ "\n"))
  rw [run_startProject_of_absent reason habsent, run_bind_of_ok hrun]
  have hadds := run_addTemplates reason (hwrites.grounded hw) hwrites.resolve?
    hwrites.isDirectory_path
  rcases hadds with ⟨w', hadd, -, -⟩ | ⟨fault, content, -, hblocked⟩
  · exact ⟨w', hadd⟩
  · -- the file in the way would have been there before, or be the project file
    rw [hwrites.file?_of_ne h.apart.symm, h.unblocked] at hblocked
    exact absurd hblocked (by simp)

/-- An empty directory is ready for a new project. -/
example : Ready ⟨.empty, [], [], .empty, ""⟩ "sqlbatis.toml" := ⟨rfl, rfl, rfl, by decide⟩

/-- The command reports the error of the starter as its own. -/
theorem run_init (reason : String) {outcome : Except StarterFault Unit}
    (h : (startProject (World.host reason) config).run.run w = (outcome, w')) :
    (run (World.host reason) (.init config)).run.run w = (outcome.mapError .starter, w') :=
  run_orFail h

/-- **What `init` keeps.** Whatever file or directory was there stays as it was, but for a file
whose place the path of the project file spells by `..` without leading there. If `init` fails, all
files are as they were, so it succeeds as soon as nothing is in the way; or the project file has
been written, and then a file stands where the directory of the example templates should, no other
file has changed, and `init` refuses to write that project file again. If it succeeds, the project
file has been written and there are example templates. -/
theorem init_keeps_files (hw : w.Grounded) (reason config : String) :
    ∃ outcome w', (run (World.host reason) (.init config)).run.run w = (outcome, w') ∧
      Keeps w w' config ∧
      (∀ failure, outcome = .error failure →
        (∀ place, w'.tree.file? place = w.tree.file? place) ∨
        HalfStarted w w' config ∧
          (run (World.host reason) (.init config)).run.run w' =
            (.error (.starter (.exists config)), w')) ∧
      (outcome = .ok () → Started w w' config) ∧ (Ready w config → outcome = .ok ()) := by
  obtain ⟨outcome, w', hrun, hends⟩ := run_startProject hw reason config
  -- the outcome is the same in every case, so readiness is settled once
  have hready : Ready w config → outcome.mapError Failure.starter = .ok () := by
    intro h
    obtain ⟨w'', hok⟩ := run_startProject_of_ready hw h reason
    rw [(Prod.mk.inj (hrun.symm.trans hok)).1]
    rfl
  refine ⟨_, w', run_init reason hrun, ?_⟩
  cases hends with
  | refused => exact ⟨fun _ _ h => .inl h, fun _ _ => .inl fun _ => rfl, nofun, hready⟩
  | stopped _ hgrows =>
    exact ⟨fun _ _ h => .inl (hgrows.tree.item? h), fun _ _ => .inl hgrows.tree.file?_eq, nofun,
      hready⟩
  | half hhalf hkeeps =>
    have hsome : (w'.item? config).isSome = true := by rw [hhalf.written]; rfl
    have hagain := run_init reason (run_startProject_of_present reason hsome)
    exact ⟨hkeeps, fun _ _ => .inr ⟨hhalf, hagain⟩, nofun, hready⟩
  | started hstarted hkeeps => exact ⟨hkeeps, nofun, fun _ => hstarted, hready⟩

/-- A file is in the way of the directory of the example templates. -/
theorem init_keeps_files_in_the_way :
    let w : World := ⟨⟨[(["sql"], .file "x".toUTF8)]⟩, [], [], .empty, ""⟩
    w.Grounded ∧
    ∃ outcome w',
      (run (World.host "refused") (.init "sqlbatis.toml")).run.run w = (outcome, w') ∧
      Keeps w w' "sqlbatis.toml" ∧
      (∀ failure, outcome = .error failure →
        (∀ place, w'.tree.file? place = w.tree.file? place) ∨
        HalfStarted w w' "sqlbatis.toml" ∧
          (run (World.host "refused") (.init "sqlbatis.toml")).run.run w' =
            (.error (.starter (.exists "sqlbatis.toml")), w')) ∧
      (outcome = .ok () → Started w w' "sqlbatis.toml") ∧
      (Ready w "sqlbatis.toml" → outcome = .ok ()) := by
  have hw : World.Grounded ⟨⟨[(["sql"], .file "x".toUTF8)]⟩, [], [], .empty, ""⟩ :=
    ⟨FileTree.rooted_of_forall_mem (by decide), rfl⟩
  exact ⟨hw, init_keeps_files hw "refused" "sqlbatis.toml"⟩

/-- Where `init` fails, the project file may have come; and where a path strays, a file that was
there is lost. -/
theorem init_fails_halfway_and_strays :
    (let w : World := ⟨⟨[(["sql"], .file "x".toUTF8)]⟩, [], [], .empty, ""⟩
      ∃ failure w',
        (run (World.host "refused") (.init "sqlbatis.toml")).run.run w = (.error failure, w') ∧
        w.tree.file? ["sqlbatis.toml"] = none ∧
        w'.tree.file? ["sqlbatis.toml"] = some starterConfig.toUTF8) ∧
    (let w : World := ⟨⟨[(["keep.toml"], .file "mine".toUTF8)]⟩, [], [], .empty, ""⟩
      ∃ w', (run (World.host "refused") (.init "x/../keep.toml")).run.run w = (.ok (), w') ∧
        w.tree.file? ["keep.toml"] = some "mine".toUTF8 ∧
        w'.tree.file? ["keep.toml"] = some starterConfig.toUTF8 ∧
        "mine".toUTF8 ≠ starterConfig.toUTF8) :=
  ⟨⟨_, _, rfl, rfl, rfl⟩, ⟨_, rfl, rfl, rfl, by decide +kernel⟩⟩

end SqlTemplate.Command
