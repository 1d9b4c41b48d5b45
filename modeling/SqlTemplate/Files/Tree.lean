import SqlTemplate.Files.Path

/-!
# File trees

What a file system holds: files with their bytes, and directories. Each stands at
a place, the list of names that lead to it from the root. The root is always a
directory. A path denotes a place only if every segment before its end leads
through a directory that is there.
-/

namespace SqlTemplate

/-- The names that lead from the root to a file or directory. -/
abbrev Place := List String

/-- What stands at a place. -/
inductive Item where
  | file (content : ByteArray)
  | directory

/-- Whether the item is a directory. -/
def Item.isDirectory : Item → Bool
  | .directory => true
  | .file _ => false

/-- The files and directories below the root. -/
structure FileTree where
  items : List (Place × Item)

namespace FileTree

/-- The tree with nothing below the root. -/
def empty : FileTree := ⟨[]⟩

/-- What stands at a place. -/
def item? (t : FileTree) (place : Place) : Option Item :=
  if place = [] then some .directory else t.items.lookup place

/-- The bytes of the file at a place. -/
def file? (t : FileTree) (place : Place) : Option ByteArray :=
  match t.item? place with
  | some (.file content) => some content
  | _ => none

/-- Whether a directory stands at a place. -/
def isDirectory (t : FileTree) (place : Place) : Bool := (t.item? place).any Item.isDirectory

/-- Puts an item at a place below the root, instead of what stood there. -/
def put (t : FileTree) (place : Place) (item : Item) : FileTree :=
  ⟨(place, item) :: t.items.filter (·.1 != place)⟩

/-- The place that one segment leads to from a directory. -/
def step (place : Place) (segment : String) : Place :=
  if Path.isVacuous segment then place
  else if segment = ".." then place.dropLast
  else place ++ [segment]

/-- The place that segments lead to; `none` if one of them starts where no directory is. -/
def follow? (t : FileTree) (place : Place) : List String → Option Place
  | [] => some place
  | segment :: rest =>
    if t.isDirectory place then t.follow? (step place segment) rest else none

/-- Where the segments of a path are followed from. -/
def origin (workingDirectory : Place) (path : String) : Place :=
  if Path.isAbsolute path then [] else workingDirectory

/-- The place that a path denotes, seen from a working directory. The empty path and one
with a null character denote none. -/
def resolve? (t : FileTree) (workingDirectory : Place) (path : String) : Option Place :=
  if path.isEmpty || path.toList.contains '\x00' then none
  else t.follow? (origin workingDirectory path) (Path.segments path)

/-- Makes a directory at a place, unless there is one; `none` where a file stands. -/
def makeDirectory? (t : FileTree) (place : Place) : Option FileTree :=
  match t.item? place with
  | some .directory => some t
  | some (.file _) => none
  | none => some (t.put place .directory)

/-- Makes the directories that segments lead through. Those made before a file stands in
the way stay; whether none did is told. -/
def makeDirectories (t : FileTree) (place : Place) : List String → FileTree × Bool
  | [] =>
    match t.makeDirectory? place with
    | some made => (made, true)
    | none => (t, false)
  | segment :: rest =>
    match t.makeDirectory? place with
    | some made => made.makeDirectories (step place segment) rest
    | none => (t, false)

/-- Writes a file; `none` where a directory stands. -/
def write? (t : FileTree) (place : Place) (content : ByteArray) : Option FileTree :=
  if t.isDirectory place then none else some (t.put place (.file content))

/-- The names of the files that stand directly in a directory. -/
def fileNames (t : FileTree) (place : Place) : List String :=
  t.items.filterMap fun
    | (p, .file _) => if p.dropLast = place then p.getLast? else none
    | (_, .directory) => none

/-- A place holds what has been put there last. -/
theorem item?_put (t : FileTree) (place other : Place) (item : Item) (h : place ≠ []) :
    (t.put place item).item? other = if other = place then some item else t.item? other := by
  unfold item? put
  by_cases hroot : other = []
  · subst hroot; simp [Ne.symm h]
  · by_cases heq : other = place
    · subst heq; simp [hroot]
    · have hne : (other == place) = false := by simpa using heq
      simp only [hroot, if_false, heq, List.lookup_cons, hne]
      induction t.items with
      | nil => rfl
      | cons first rest ih =>
        by_cases hfirst : first.1 = place
        · have hother : (other == first.1) = false := by simpa [hfirst] using heq
          obtain ⟨p, i⟩ := first
          simp only at hfirst hother
          simpa [List.filter_cons, hfirst, List.lookup_cons, hother, hne] using ih
        · obtain ⟨p, i⟩ := first
          simp only at hfirst
          by_cases hp : other = p
          · subst hp; simp [hfirst]
          · have hp' : (other == p) = false := by simpa using hp
            simpa [List.filter_cons, hfirst, List.lookup_cons, hp'] using ih

end FileTree

end SqlTemplate
