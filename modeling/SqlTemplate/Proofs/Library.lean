import SqlTemplate.Proofs.Files.Runs
import SqlTemplate.Proofs.Registry
import Mathlib.Data.List.Infix
import Mathlib.Data.List.Perm.Basic

/-!
# Loading a directory

The files of a directory that hold definitions are taken in the order of their names, and the
first that cannot be used ends the loading. `Offends` says what is wrong with a file, without
the loading: its stem has a dot, its text does not define templates, or a file before it has the
same stem.

One step adds the templates of a file that does not offend under its stem, and fails with the
error of one that does (`addFile_ok`, `addFile_error`). So a run keeps `Defines`: the registry
has the stems of the files taken so far and the templates of each.

> `loads_what_files_define`: loading succeeds exactly if no file offends, and then the registry
> has what the files define; else the error is that of the first file that offends. The order
> in which a host lists the files does not matter.
-/

namespace SqlTemplate

namespace Library

/-! ## Names of files -/

/-- Whether a file of this name holds definitions. -/
structure NamesDefinitions (name : String) : Prop where
  ending : ".yml".toList <:+ name.toList ∨ ".yaml".toList <:+ name.toList
  shown : name.toList.head? ≠ some '.'
  noSwap : ¬ ".swp".toList <:+: name.toList

/-- Looking for a part is asking whether the text has it as a stretch. -/
theorem occursIn_iff (part s : List Char) : occursIn part s = true ↔ part <:+: s := by
  induction s with
  | nil => simp [occursIn]
  | cons c s ih => simp [occursIn, ih, List.infix_cons_iff]

/-- The files that are taken are those that hold definitions by their names. -/
theorem isCandidate_iff {name : String} : isCandidate name = true ↔ NamesDefinitions name := by
  have hends : endings.any (fun ending => ending.toList.isSuffixOf name.toList) = true ↔
      ".yml".toList <:+ name.toList ∨ ".yaml".toList <:+ name.toList := by
    simp [endings]
  have hswap : (!occursIn ".swp".toList name.toList) = true ↔
      ¬ ".swp".toList <:+: name.toList := by
    rw [← occursIn_iff]
    simp
  unfold isCandidate
  rw [Bool.and_eq_true, Bool.and_eq_true, hends, hswap]
  constructor
  · rintro ⟨⟨hending, hhead⟩, hnone⟩
    exact ⟨hending, by simpa using hhead, hnone⟩
  · rintro ⟨hending, hhead, hnone⟩
    exact ⟨⟨hending, by simpa using hhead⟩, hnone⟩

/-- The stem is what stands before the last dot. -/
theorem stem_of_append {name : String} {before ending : List Char} (hdot : '.' ∉ ending)
    (h : name.toList = before ++ '.' :: ending) : stem name = String.ofList before := by
  have hother : ∀ c ∈ ending.reverse, (c != '.') = true := fun c hc =>
    bne_iff_ne.mpr fun heq => hdot (heq ▸ List.mem_reverse.mp hc)
  have hrev : name.toList.reverse.dropWhile (· != '.') = '.' :: before.reverse := by
    rw [h, List.reverse_append, List.reverse_cons, List.append_assoc,
      List.dropWhile_append_of_pos hother]
    rfl
  unfold stem
  rw [hrev]
  simp

namespace NamesDefinitions

variable {name : String} (h : NamesDefinitions name)

include h

/-- The name of a file with definitions is its stem and one of the two endings. -/
theorem eq_stem_append : name = stem name ++ ".yml" ∨ name = stem name ++ ".yaml" := by
  rcases h.ending with ⟨before, hbefore⟩ | ⟨before, hbefore⟩
  · have hdot : '.' ∉ ['y', 'm', 'l'] := by decide
    have hstem := stem_of_append hdot hbefore.symm
    refine Or.inl (String.toList_inj.mp ?_)
    rw [hstem, String.toList_append, String.toList_ofList, hbefore]
  · have hdot : '.' ∉ ['y', 'a', 'm', 'l'] := by decide
    have hstem := stem_of_append hdot hbefore.symm
    refine Or.inr (String.toList_inj.mp ?_)
    rw [hstem, String.toList_append, String.toList_ofList, hbefore]

theorem stem_ne_empty : (stem name).isEmpty = false := by
  by_contra hempty
  have hstem : stem name = "" := by simpa using hempty
  have hname := h.eq_stem_append
  rw [hstem] at hname
  rcases hname with hname | hname <;> exact h.shown (hname ▸ rfl)

/-- A stem without dots is a namespace. -/
theorem namespaceOf?_eq :
    namespaceOf? name = if '.' ∈ (stem name).toList then none else some (stem name) := by
  unfold namespaceOf?
  rw [h.stem_ne_empty, Bool.false_or]
  simp

end NamesDefinitions

/-! ## What can be wrong with a file -/

/-- What is wrong with a file of a directory. Of two files with one stem the one that comes later
offends. -/
inductive Offends (directory : String) (files : List (String × String)) :
    String × String → Error → Prop where
  | dotted {name text : String} : '.' ∈ (stem name).toList →
      Offends directory files (name, text)
        (.load (Path.entry directory name ++ ": invalid namespace file name"))
  | malformed {name text : String} {fault : DefinitionFault} : '.' ∉ (stem name).toList →
      readDefinitions text = .error fault →
      Offends directory files (name, text) (.load (fault.messageAt (Path.entry directory name)))
  | taken {name text : String} {templates : List (String × Template)} {other : String × String} :
      '.' ∉ (stem name).toList → readDefinitions text = .ok templates →
      other ∈ files → other.1 < name → stem other.1 = stem name →
      Offends directory files (name, text)
        (.load (Path.entry directory name ++ ": namespace `" ++ stem name ++
          "` is already defined"))

/-- A file that offends before any other does. -/
structure OffendsFirst (directory : String) (files : List (String × String))
    (file : String × String) (err : Error) : Prop where
  mem : file ∈ files
  offends : Offends directory files file err
  first : ∀ other ∈ files, other.1 < file.1 → ∀ err', ¬ Offends directory files other err'

/-- A registry of just the namespaces that some files define. -/
def Defines (files : List (String × String)) (r : Registry) : Prop :=
  ∀ ns entries, r.templates? ns = some entries ↔
    ∃ file ∈ files, stem file.1 = ns ∧
      ∃ templates, readDefinitions file.2 = .ok templates ∧ entries = Entries.ofList templates

variable {directory : String} {files : List (String × String)} {file : String × String}

/-- A file offends in one way only. -/
theorem Offends.unique {err err' : Error} (h : Offends directory files file err)
    (h' : Offends directory files file err') : err = err' := by
  cases h with
  | dotted hdot =>
    cases h' with
    | dotted _ => rfl
    | malformed hno _ => exact absurd hdot hno
    | taken hno => exact absurd hdot hno
  | malformed hno hread =>
    cases h' with
    | dotted hdot => exact absurd hdot hno
    | malformed _ hread' =>
      cases hread.symm.trans hread'
      rfl
    | taken _ hread' => cases hread.symm.trans hread'
  | taken hno hread =>
    cases h' with
    | dotted hdot => exact absurd hdot hno
    | malformed _ hread' => cases hread.symm.trans hread'
    | taken _ _ => rfl

/-- What offends among some files offends among more. -/
theorem Offends.mono {files' : List (String × String)} {err : Error}
    (h : Offends directory files file err) (hsub : files ⊆ files') :
    Offends directory files' file err := by
  cases h with
  | dotted hdot => exact .dotted hdot
  | malformed hno hread => exact .malformed hno hread
  | taken hno hread hother hlt hstem => exact .taken hno hread (hsub hother) hlt hstem

/-- A file that does not offend has a stem without a dot, defines templates, and shares its stem
with no file before it. -/
theorem not_offends_iff :
    (∀ err, ¬ Offends directory files file err) ↔
      '.' ∉ (stem file.1).toList ∧ (∃ templates, readDefinitions file.2 = .ok templates) ∧
      ∀ other ∈ files, other.1 < file.1 → stem other.1 ≠ stem file.1 := by
  obtain ⟨name, text⟩ := file
  constructor
  · intro h
    have hno : '.' ∉ (stem name).toList := fun hdot => h _ (.dotted hdot)
    cases hread : readDefinitions text with
    | error fault => exact absurd (.malformed hno hread) (h _)
    | ok templates =>
      exact ⟨hno, ⟨templates, rfl⟩,
        fun other hother hlt hstem => h _ (.taken hno hread hother hlt hstem)⟩
  · rintro ⟨hno, ⟨templates, hread⟩, hfresh⟩ err h
    cases h with
    | dotted hdot => exact hno hdot
    | malformed _ hfault => cases hread.symm.trans hfault
    | taken _ _ hother hlt hstem => exact hfresh _ hother hlt hstem

/-! ## One file -/

/-- The files before one in a list of all of them. -/
def IsBefore (files before : List (String × String)) (file : String × String) : Prop :=
  ∀ other, other ∈ before ↔ other ∈ files ∧ other.1 < file.1

section

variable {before : List (String × String)} {r : Registry} (hname : NamesDefinitions file.1)
  (hbefore : IsBefore files before file) (hr : Defines before r)

include hname hbefore hr

/-- A file that offends gives its error, where the files before it define templates. -/
theorem addFile_error {err : Error}
    (hread : ∀ other ∈ before, ∃ templates, readDefinitions other.2 = .ok templates)
    (h : Offends directory files file err) :
    addFile directory r (file.1, .ok file.2) = .error err := by
  unfold addFile
  rw [hname.namespaceOf?_eq]
  cases h with
  | dotted hdot =>
    dsimp only
    rw [if_pos hdot]
  | malformed hno hfault =>
    dsimp only
    rw [if_neg hno, hfault]
  | @taken name text templates other hno hok hother hlt hstem =>
    obtain ⟨templates', hread'⟩ := hread other ((hbefore other).mpr ⟨hother, hlt⟩)
    have hpresent : r.templates? (stem name) = some (Entries.ofList templates') :=
      (hr _ _).mpr ⟨other, (hbefore other).mpr ⟨hother, hlt⟩, hstem, templates', hread', rfl⟩
    have hnone : r.insertNamespace? (stem name) templates = none :=
      (Registry.insertNamespace?_eq_none_iff ..).mpr
        (Option.isSome_iff_exists.mpr ⟨_, hpresent⟩)
    dsimp only
    rw [if_neg hno, hok]
    dsimp only
    rw [hnone]

/-- A file that does not offend is added to what the files before it define. -/
theorem addFile_ok (h : ∀ err, ¬ Offends directory files file err) :
    ∃ r', addFile directory r (file.1, .ok file.2) = .ok r' ∧ Defines (before ++ [file]) r' := by
  obtain ⟨hno, ⟨templates, hread⟩, hfresh⟩ := not_offends_iff.mp h
  have habsent : r.templates? (stem file.1) = none := by
    rw [Option.eq_none_iff_forall_ne_some]
    intro entries hentries
    obtain ⟨other, hother, hstem, -⟩ := (hr _ _).mp hentries
    obtain ⟨hmem, hlt⟩ := (hbefore other).mp hother
    exact hfresh other hmem hlt hstem
  obtain ⟨r', hr'⟩ : ∃ r', r.insertNamespace? (stem file.1) templates = some r' := by
    rw [← Option.ne_none_iff_exists', ne_eq, Registry.insertNamespace?_eq_none_iff]
    simp [Registry.hasNamespace, habsent]
  refine ⟨r', ?_, fun ns entries => ?_⟩
  · unfold addFile
    rw [hname.namespaceOf?_eq]
    dsimp only
    rw [if_neg hno, hread]
    dsimp only
    rw [hr']
  · rw [Registry.templates?_of_insertNamespace? _ _ _ hr']
    simp only [List.mem_append, List.mem_singleton, or_and_right, exists_or, exists_eq_left]
    rw [← hr ns entries]
    -- the namespace of the file, and any other
    by_cases hns : stem file.1 = ns
    · subst hns
      rw [if_pos rfl, habsent]
      constructor
      · intro h
        exact Or.inr ⟨rfl, templates, hread, (Option.some.inj h).symm⟩
      · rintro (h | ⟨-, templates', hread', rfl⟩)
        · cases h
        · cases hread.symm.trans hread'
          rfl
    · rw [if_neg hns]
      exact ⟨Or.inl, fun h => h.resolve_right fun h => hns h.1⟩

end

/-! ## All files -/

/-- The files as reading them gives them. -/
def opened (files : List (String × String)) : List File :=
  files.map fun file => (file.1, .ok file.2)

theorem defines_nil : Defines [] .empty := by
  intro ns entries
  simp [Registry.empty, Registry.templates?]

/-- In ascending order the files in front of one are those before it. -/
theorem isBefore_of_pairwise {before after : List (String × String)}
    (h : (before ++ file :: after).Pairwise (·.1 < ·.1)) :
    IsBefore (before ++ file :: after) before file := by
  obtain ⟨-, hafter, hbefore⟩ := List.pairwise_append.mp h
  intro other
  constructor
  · intro hother
    exact ⟨List.mem_append_left _ hother, hbefore other hother file (List.mem_cons_self ..)⟩
  · rintro ⟨hother, hlt⟩
    rcases List.mem_append.mp hother with hother | hother
    · exact hother
    · rcases List.mem_cons.mp hother with rfl | hother
      · exact absurd hlt (String.lt_irrefl _)
      · exact absurd hlt (String.lt_asymm ((List.pairwise_cons.mp hafter).1 other hother))

variable (directory) in
/-- Adding files one after another ends with what all of them define, or with the error of the
first that offends. -/
theorem foldlM_addFile (hnames : ∀ file ∈ files, NamesDefinitions file.1)
    (hascending : files.Pairwise (·.1 < ·.1)) {before after : List (String × String)}
    (hfiles : files = before ++ after) {r : Registry} (hr : Defines before r)
    (hclean : ∀ other ∈ before, ∀ err, ¬ Offends directory files other err) :
    (∃ r', (opened after).foldlM (addFile directory) r = .ok r' ∧ Defines files r' ∧
      ∀ file ∈ files, ∀ err, ¬ Offends directory files file err) ∨
    ∃ file err, (opened after).foldlM (addFile directory) r = .error err ∧
      OffendsFirst directory files file err := by
  induction after generalizing before r with
  | nil =>
    rw [List.append_nil] at hfiles
    exact Or.inl ⟨r, rfl, hfiles ▸ hr, hfiles ▸ hclean⟩
  | cons file after ih =>
    have hmem : file ∈ files := hfiles ▸ List.mem_append_right _ (List.mem_cons_self ..)
    have hbefore : IsBefore files before file := by
      rw [hfiles] at hascending ⊢
      exact isBefore_of_pairwise hascending
    have hstep : (opened (file :: after)).foldlM (addFile directory) r =
        addFile directory r (file.1, .ok file.2) >>= (opened after).foldlM (addFile directory) := by
      rw [opened, List.map_cons, List.foldlM_cons]
      rfl
    by_cases hoffends : ∃ err, Offends directory files file err
    · obtain ⟨err, herr⟩ := hoffends
      have hread : ∀ other ∈ before, ∃ templates, readDefinitions other.2 = .ok templates :=
        fun other hother => (not_offends_iff.mp (hclean other hother)).2.1
      refine Or.inr ⟨file, err, ?_, hmem, herr, fun other hother hlt => ?_⟩
      · rw [hstep, addFile_error (hnames file hmem) hbefore hr hread herr]
        rfl
      · exact hclean other ((hbefore other).mpr ⟨hother, hlt⟩)
    · rw [not_exists] at hoffends
      obtain ⟨r', hadd, hr'⟩ := addFile_ok (hnames file hmem) hbefore hr hoffends
      rw [hstep, hadd]
      refine ih (by rw [hfiles, List.append_cons]) hr' fun other hother => ?_
      rcases List.mem_append.mp hother with hother | hother
      · exact hclean other hother
      · rw [List.mem_singleton.mp hother]
        exact hoffends

theorem lt_or_lt_of_ne {a b : String} (h : a ≠ b) : a < b ∨ b < a :=
  (String.le_total a b).imp (Std.lt_of_le_of_ne · h) (Std.lt_of_le_of_ne · h.symm)

theorem pairwise_mergeSort_le {α : Type} (name : α → String) (xs : List α) :
    (xs.mergeSort fun a b => decide (name a ≤ name b)).Pairwise (name · ≤ name ·) := by
  have htrans : ∀ a b c : α, decide (name a ≤ name b) = true → decide (name b ≤ name c) = true →
      decide (name a ≤ name c) = true := fun a b c hab hbc =>
    decide_eq_true (String.le_trans (of_decide_eq_true hab) (of_decide_eq_true hbc))
  have htotal : ∀ a b : α, (decide (name a ≤ name b) || decide (name b ≤ name a)) = true :=
    fun a b => by simpa using String.le_total (name a) (name b)
  exact (List.pairwise_mergeSort htrans htotal xs).imp fun hab => of_decide_eq_true hab

/-- The files in the order of their names. -/
def sorted (files : List (String × String)) : List (String × String) :=
  files.mergeSort fun a b => decide (a.1 ≤ b.1)

@[simp] theorem mem_sorted : file ∈ sorted files ↔ file ∈ files := List.mem_mergeSort

/-- Files with different names are in strict order once sorted. -/
theorem pairwise_sorted_lt (hnodup : (files.map (·.1)).Nodup) :
    (sorted files).Pairwise (·.1 < ·.1) := by
  have hdistinct : (sorted files).Pairwise (·.1 ≠ ·.1) := by
    refine List.pairwise_map.mp (List.Perm.nodup ?_ hnodup)
    exact ((List.mergeSort_perm files _).map (·.1)).symm
  exact (pairwise_mergeSort_le (·.1) files).imp₂
    (fun _ _ hle hne => Std.lt_of_le_of_ne hle hne) hdistinct

variable (directory) in
/-- Files in any order, taken in the order of their names: either none offends, and the registry
has what they define, or the error is that of the first that does. -/
theorem ofFiles_sorted (hnames : ∀ file ∈ files, NamesDefinitions file.1)
    (hnodup : (files.map (·.1)).Nodup) :
    (∃ r, ofFiles directory (opened (sorted files)) = .ok r ∧ Defines files r ∧
      ∀ file ∈ files, ∀ err, ¬ Offends directory files file err) ∨
    ∃ file err, ofFiles directory (opened (sorted files)) = .error err ∧
      OffendsFirst directory files file err := by
  have hto : sorted files ⊆ files := fun _ => mem_sorted.mp
  have hfrom : files ⊆ sorted files := fun _ => mem_sorted.mpr
  rcases foldlM_addFile directory (fun file hfile => hnames file (hto hfile))
      (pairwise_sorted_lt hnodup) (List.nil_append _).symm defines_nil
      (fun _ h => absurd h List.not_mem_nil) with
    ⟨r, hr, hdefines, hclean⟩ | ⟨file, err, herr, hfirst⟩
  · refine Or.inl ⟨r, hr, fun ns entries => ?_, fun file hfile err h => ?_⟩
    · simpa using hdefines ns entries
    · exact hclean file (hfrom hfile) err (h.mono hfrom)
  · refine Or.inr ⟨file, err, herr, hto hfirst.mem, hfirst.offends.mono hto, ?_⟩
    exact fun other hother hlt err' h => hfirst.first other (hfrom hother) hlt err' (h.mono hfrom)

variable (directory) in
/-- No file offends exactly if every stem is free of dots, every text defines templates and no
two files share a stem. -/
theorem none_offends_iff (hnodup : (files.map (·.1)).Nodup) :
    (∀ file ∈ files, ∀ err, ¬ Offends directory files file err) ↔
      (∀ file ∈ files, '.' ∉ (stem file.1).toList) ∧
      (∀ file ∈ files, ∃ templates, readDefinitions file.2 = .ok templates) ∧
      ∀ file ∈ files, ∀ other ∈ files, stem file.1 = stem other.1 → file = other := by
  constructor
  · intro h
    have hsound := fun file hfile => not_offends_iff.mp (h file hfile)
    refine ⟨fun file hfile => (hsound file hfile).1, fun file hfile => (hsound file hfile).2.1, ?_⟩
    intro file hfile other hother hstem
    -- of two files with one stem the later one would offend
    have hsame : file.1 = other.1 := by
      by_contra hne
      rcases lt_or_lt_of_ne hne with hlt | hlt
      · exact (hsound other hother).2.2 file hfile hlt hstem
      · exact (hsound file hfile).2.2 other hother hlt hstem.symm
    exact List.inj_on_of_nodup_map hnodup hfile hother hsame
  · rintro ⟨hdots, hread, hstems⟩ file hfile
    refine not_offends_iff.mpr
      ⟨hdots file hfile, hread file hfile, fun other hother hlt hstem => ?_⟩
    rw [hstems other hother file hfile hstem] at hlt
    exact String.lt_irrefl _ hlt

theorem OffendsFirst.unique {file' : String × String} {err err' : Error}
    (hnodup : (files.map (·.1)).Nodup) (h : OffendsFirst directory files file err)
    (h' : OffendsFirst directory files file' err') : err = err' := by
  have hsame : file.1 = file'.1 := by
    by_contra hne
    rcases lt_or_lt_of_ne hne with hlt | hlt
    · exact h'.first file h.mem hlt err h.offends
    · exact h.first file' h'.mem hlt err' h'.offends
  cases List.inj_on_of_nodup_map hnodup h.mem h'.mem hsame
  exact h.offends.unique h'.offends

/-! ## Directories -/

/-- Candidates are the same in whatever order the names are listed. -/
theorem candidates_eq_of_perm {names expected : List String}
    (hperm : (names.filter isCandidate).Perm expected) (hsorted : expected.Pairwise (· ≤ ·)) :
    candidates names = expected :=
  List.Perm.eq_of_pairwise (fun _ _ _ _ => String.le_antisymm)
    (pairwise_mergeSort_le id (names.filter isCandidate)) hsorted
    ((List.mergeSort_perm _ _).trans hperm)

/-- The host that lists the files of each directory in another order. -/
def reordered {m : Type → Type} [Monad m] (order : String → List String → List String)
    (host : Host m) : Host m :=
  { host with fileNames := fun path => order path <$> host.fileNames path }

/-- In whatever order a host lists the files, loading does the same. -/
theorem load_reordered {m : Type → Type} [Monad m] [LawfulMonad m] (host : Host m) (path : String)
    {order : String → List String → List String}
    (horder : ∀ path names, (order path names).Perm names) :
    load (reordered order host) path = load host path := by
  have hcandidates : ∀ directory names, candidates (order directory names) = candidates names :=
    fun directory names => candidates_eq_of_perm
      (((horder directory names).filter isCandidate).trans (List.mergeSort_perm _ _).symm)
      (pairwise_mergeSort_le id _)
  have hread : ∀ directory,
      readFiles (reordered order host) directory = readFiles host directory := by
    intro directory
    unfold readFiles reordered
    simp only [bind_map_left, hcandidates]
  unfold load
  simp only [hread]
  rfl

end Library

/-! ## A world as a host -/

theorem decodeText_toUTF8 (text : String) : decodeText (.ok text.toUTF8) = .ok text := by
  have hvalid : String.fromUTF8? text.toUTF8 = some text := dif_pos text.isValidUTF8
  simp only [decodeText, hvalid]

section

variable {σ α β : Type}

/-- A traversal that only reads the state. -/
theorem run_mapM_of_reads {f : α → StateM σ β} {g : α → β} {s : σ} {xs : List α}
    (h : ∀ x ∈ xs, (f x).run s = (g x, s)) : (xs.mapM f).run s = (xs.map g, s) := by
  induction xs with
  | nil => rfl
  | cons x xs ih =>
    have hrest := ih fun y hy => h y (List.mem_cons_of_mem x hy)
    rw [List.mapM_cons, run_bind_of_run (h x (List.mem_cons_self ..)), run_bind_of_run hrest]
    rfl

end

namespace World

variable {w : World} (reason : String) {path : String}

theorem run_isDirectory :
    ((host reason).isDirectory path).run w = ((w.item? path).any Item.isDirectory, w) := rfl

theorem run_fileNames {place : Place} (h : w.resolve? path = some place) :
    ((host reason).fileNames path).run w = (w.tree.fileNames place, w) := by
  simp only [host, StateT.run_bind, StateT.run_get, pure_bind, h]
  rfl

theorem run_readFile {content : ByteArray} (h : w.item? path = some (.file content)) :
    ((host reason).readFile path).run w = (.ok content, w) := by
  simp only [host, StateT.run_bind, StateT.run_get, pure_bind, h]
  rfl

end World

namespace Library

/-- The files with definitions in a directory of a world, each with its text. Where its files are
listed the directory goes by the name that is given to it there. -/
structure Holds (w : World) (path directory : String) (files : List (String × String)) : Prop where
  isDirectory : (w.item? path).any Item.isDirectory = true
  listed : Path.listed? path = some directory
  names : ∃ place, w.resolve? directory = some place ∧ (w.tree.fileNames place).Nodup ∧
    ∀ name, (name ∈ w.tree.fileNames place ∧ NamesDefinitions name) ↔ ∃ text, (name, text) ∈ files
  nodup : (files.map (·.1)).Nodup
  text : ∀ file ∈ files, w.item? (Path.entry directory file.1) = some (.file file.2.toUTF8)

namespace Holds

variable {w : World} {path directory : String} {files : List (String × String)}
  (h : Holds w path directory files) (reason : String)

include h

theorem namesDefinitions : ∀ file ∈ files, NamesDefinitions file.1 := by
  intro file hfile
  obtain ⟨place, -, -, hnames⟩ := h.names
  exact ((hnames file.1).mpr ⟨file.2, hfile⟩).2

/-- The candidates are the files in the order of their names. -/
theorem candidates_eq {place : Place} (hplace : w.resolve? directory = some place) :
    candidates (w.tree.fileNames place) = (sorted files).map (·.1) := by
  obtain ⟨place', hplace', hnodup, hnames⟩ := h.names
  cases hplace.symm.trans hplace'
  have hsorted := (List.mergeSort_perm files fun a b => decide (a.1 ≤ b.1)).map (·.1)
  refine candidates_eq_of_perm ?_ (List.pairwise_map.mpr (pairwise_mergeSort_le (·.1) files))
  refine (List.perm_ext_iff_of_nodup (hnodup.filter _) (hsorted.nodup_iff.mpr h.nodup)).mpr
    fun name => ?_
  rw [List.mem_filter, isCandidate_iff, hnames]
  simp

/-- The files are read in the order of their names. -/
theorem run_readFiles :
    (readFiles (World.host reason) directory).run w = (opened (sorted files), w) := by
  obtain ⟨place, hplace, -⟩ := h.names
  rw [readFiles, run_bind_of_run (World.run_fileNames reason hplace), h.candidates_eq hplace,
    List.mapM_map]
  refine run_mapM_of_reads fun file hfile => ?_
  have htext := h.text file (mem_sorted.mp hfile)
  rw [Function.comp_apply, run_bind_of_run (World.run_readFile reason htext), decodeText_toUTF8]
  rfl

/-- Loading opens the files in the order of their names, and changes nothing. -/
theorem run_load :
    (load (World.host reason) path).run w = (ofFiles directory (opened (sorted files)), w) := by
  rw [load, run_bind_of_run (World.run_isDirectory reason), h.isDirectory, if_pos rfl, h.listed]
  exact run_bind_of_run (h.run_readFiles reason) fun files => pure (ofFiles directory files)

end Holds

/-- **Loading takes what the files define.** Loading a directory changes nothing in its world. It
succeeds exactly if the stem of every file with definitions is free of dots, its text defines
templates, and no two of these files share a stem; then the registry has just these stems for
namespaces, each with the templates of its file. Else the error is that of the first file, in the
order of their names, that offends. On every host, the order in which it lists the files of a
directory makes no difference. -/
theorem loads_what_files_define {w : World} {path directory : String}
    {files : List (String × String)} (h : Holds w path directory files) (reason : String) :
    (∃ outcome, (load (World.host reason) path).run w = (outcome, w) ∧
      ((∃ r, outcome = .ok r) ↔
        (∀ file ∈ files, '.' ∉ (stem file.1).toList) ∧
        (∀ file ∈ files, ∃ templates, readDefinitions file.2 = .ok templates) ∧
        ∀ file ∈ files, ∀ other ∈ files, stem file.1 = stem other.1 → file = other) ∧
      (∀ r, outcome = .ok r → Defines files r) ∧
      ∀ err, outcome = .error err ↔ ∃ file, OffendsFirst directory files file err) ∧
    ∀ {m : Type → Type} [Monad m] [LawfulMonad m] (host : Host m)
      (order : String → List String → List String),
      (∀ path names, (order path names).Perm names) →
      load (reordered order host) path = load host path := by
  refine ⟨⟨_, h.run_load reason, ?_⟩, fun host order => load_reordered host path⟩
  rw [← none_offends_iff directory h.nodup]
  rcases ofFiles_sorted directory h.namesDefinitions h.nodup with
    ⟨r, hr, hdefines, hclean⟩ | ⟨file, err, herr, hfirst⟩
  · rw [hr]
    refine ⟨⟨fun _ => hclean, fun _ => ⟨r, rfl⟩⟩, ?_, fun err => ⟨nofun, ?_⟩⟩
    · rintro _ ⟨⟩
      exact hdefines
    · rintro ⟨file, hfile⟩
      exact absurd hfile.offends (hclean file hfile.mem err)
  · rw [herr]
    refine ⟨⟨nofun, fun hclean => ?_⟩, nofun, fun err' => ⟨?_, ?_⟩⟩
    · exact absurd hfirst.offends (hclean file hfirst.mem err)
    · rintro ⟨⟩
      exact ⟨file, hfirst⟩
    · rintro ⟨file', hfirst'⟩
      rw [hfirst.unique h.nodup hfirst']

/-- A directory with a hidden file and a directory by the name of a file, which count for nothing.
Of two files with one stem the one that is later in the order of names ends the loading, before a
file without definitions is read. -/
theorem loads_what_files_define_clash :
    let world : List (String × String) → World := fun files =>
      ⟨⟨(["sql"], .directory) :: (["sql", "sub.yml"], .directory) ::
        (["sql", ".user.yml"], .file "- x".toUTF8) ::
        files.map fun file => (["sql", file.1], .file file.2.toUTF8)⟩, [], [], .empty, ""⟩
    let fine : List (String × String) := [("user.yml", ""), ("order.yaml", "x: SELECT 1")]
    let clashing : List (String × String) :=
      [("zone.yml", "- x"), ("user.yml", ""), ("user.yaml", "")]
    let host := World.host "refused"
    Holds (world fine) "sql" "sql" fine ∧ Holds (world clashing) "sql" "sql" clashing ∧
    (∃ r, (load host "sql").run (world fine) = (.ok r, world fine) ∧ Defines fine r) ∧
    (load host "sql").run (world clashing) =
      (.error (.load "sql/user.yml: namespace `user` is already defined"), world clashing) ∧
    load (reordered (fun _ names => names.reverse) host) "sql" = load host "sql" := by
  intro world fine clashing host
  have hfine : Holds (world fine) "sql" "sql" fine := by
    refine ⟨by rfl, by rfl, ⟨["sql"], by rfl, by decide, fun name => ?_⟩, by decide, ?_⟩
    · have hnames : ((world fine).tree.fileNames ["sql"]).filter isCandidate =
          ["user.yml", "order.yaml"] := by decide
      rw [← isCandidate_iff, ← List.mem_filter, hnames]
      simp [fine, exists_or]
    · simp only [fine, List.forall_mem_cons]
      exact ⟨by rfl, by rfl, nofun⟩
  have hclashing : Holds (world clashing) "sql" "sql" clashing := by
    refine ⟨by rfl, by rfl, ⟨["sql"], by rfl, by decide, fun name => ?_⟩, by decide, ?_⟩
    · have hnames : ((world clashing).tree.fileNames ["sql"]).filter isCandidate =
          ["zone.yml", "user.yml", "user.yaml"] := by decide
      rw [← isCandidate_iff, ← List.mem_filter, hnames]
      simp [clashing, exists_or]
    · simp only [clashing, List.forall_mem_cons]
      exact ⟨by rfl, by rfl, by rfl, nofun⟩
  obtain ⟨⟨outcome, hrun, hok, hdefines, -⟩, horder⟩ := loads_what_files_define hfine "refused"
  obtain ⟨⟨outcome', hrun', -, -, herror⟩, -⟩ := loads_what_files_define hclashing "refused"
  obtain ⟨r, rfl⟩ : ∃ r, outcome = .ok r := by
    have hread : (readDefinitions "x: SELECT 1").toOption.isSome = true := by decide +kernel
    refine hok.mpr ⟨by decide, ?_, by decide⟩
    simp only [fine, List.forall_mem_cons]
    refine ⟨⟨[], by rfl⟩, ?_, nofun⟩
    cases h : readDefinitions "x: SELECT 1" with
    | ok templates => exact ⟨templates, rfl⟩
    | error fault => rw [h] at hread; cases hread
  have hfirst : OffendsFirst "sql" clashing ("user.yml", "")
      (.load "sql/user.yml: namespace `user` is already defined") := by
    have hread : readDefinitions "" = .ok [] := by rfl
    have hother : ("user.yaml", "") ∈ clashing := by simp [clashing]
    refine ⟨by simp [clashing], .taken (by decide) hread hother (by decide) (by decide), ?_⟩
    simp only [clashing, List.forall_mem_cons]
    refine ⟨fun hlt => absurd hlt (by decide), fun hlt => absurd hlt (by decide), fun _ => ?_,
      nofun⟩
    refine not_offends_iff.mpr ⟨by decide, ⟨[], hread⟩, by decide⟩
  rw [(herror _).mpr ⟨_, hfirst⟩] at hrun'
  exact ⟨hfine, hclashing, ⟨r, hrun, hdefines r rfl⟩, hrun',
    horder host _ fun _ names => names.reverse_perm⟩

end Library

end SqlTemplate
