import SqlTemplate.Files.Tree

/-!
# Hosts

The commands reach files, environment variables, standard input and standard
output through the operations of a host, in a monad of its choosing. A `World` is
a host's state as a plain value; `World.host` acts on it and on nothing else.
-/

namespace SqlTemplate

/-- Why a text could not be read. -/
inductive ReadFault where
  /-- The host gives its reason. -/
  | refused (reason : String)
  | notUtf8
deriving DecidableEq

/-- The message about a text that could not be read. -/
def ReadFault.message : ReadFault → String
  | .refused reason => reason
  | .notUtf8 => "stream did not contain valid UTF-8"

/-- The text that bytes encode. -/
def decodeText : Except String ByteArray → Except ReadFault String
  | .error reason => .error (.refused reason)
  | .ok bytes =>
    match String.fromUTF8? bytes with
    | some text => .ok text
    | none => .error .notUtf8

/-- What a program may ask of the machine it runs on. A request that is refused gives the
reason. -/
structure Host (m : Type → Type) where
  /-- Whether a path denotes a file or directory. -/
  isPresent : (path : String) → m Bool
  /-- Whether a path denotes a directory. -/
  isDirectory : (path : String) → m Bool
  /-- The names of the files directly in a directory, in any order. -/
  fileNames : (path : String) → m (List String)
  /-- The bytes of a file. -/
  readFile : (path : String) → m (Except String ByteArray)
  /-- Makes a directory and those on the way to it. -/
  makeDirectories : (path : String) → m (Except String Unit)
  /-- Writes a file, instead of the one that was there. -/
  writeFile : (path text : String) → m (Except String Unit)
  /-- The value of an environment variable, if it is set. -/
  environmentVariable : (name : String) → m (Option String)
  /-- All of standard input. -/
  readInput : m (Except String ByteArray)
  /-- Writes to standard output. -/
  print : (text : String) → m Unit

/-- A machine as a value. -/
structure World where
  tree : FileTree
  workingDirectory : Place
  environment : List (String × String)
  input : ByteArray
  /-- What has been written to standard output. -/
  printed : String

namespace World

/-- The place that a path denotes. -/
def resolve? (w : World) (path : String) : Option Place :=
  w.tree.resolve? w.workingDirectory path

/-- What stands where a path leads. -/
def item? (w : World) (path : String) : Option Item :=
  (w.resolve? path).bind w.tree.item?

/-- The world after directories have been made, and whether they all could be. -/
def makeDirectories (w : World) (path : String) : World × Bool :=
  let (tree, complete) :=
    w.tree.makeDirectories (FileTree.origin w.workingDirectory path) (Path.segments path)
  ({ w with tree := tree }, complete)

/-- The world after a file has been written; `none` if it cannot be. -/
def write? (w : World) (path text : String) : Option World := do
  let place ← w.resolve? path
  let tree ← w.tree.write? place text.toUTF8
  return { w with tree := tree }

/-- Why a request about a path is refused. A path with a null character is told apart, for
it names nothing on any machine. -/
def refusal (reason path : String) : String :=
  if path.toList.contains '\x00' then "file name contained an unexpected NUL byte" else reason

/-- The host that acts on a world and gives one reason for all that it refuses. -/
def host (reason : String) : Host (StateM World) :=
  { isPresent := fun path => return ((← get).item? path).isSome
    isDirectory := fun path => return ((← get).item? path).any Item.isDirectory
    fileNames := fun path => do
      let w ← get
      match w.resolve? path with
      | some place => return w.tree.fileNames place
      | none => return []
    readFile := fun path => do
      match (← get).item? path with
      | some (.file content) => return .ok content
      | _ => return .error (refusal reason path)
    makeDirectories := fun path => do
      if path.toList.contains '\x00' then return .error (refusal reason path)
      let (w, complete) := (← get).makeDirectories path
      set w
      return if complete then .ok () else .error (refusal reason path)
    writeFile := fun path text => do
      match (← get).write? path text with
      | some w => set w; return .ok ()
      | none => return .error (refusal reason path)
    environmentVariable := fun name => return (← get).environment.lookup name
    readInput := return .ok (← get).input
    print := fun text => modify fun w => { w with printed := w.printed ++ text } }

end World

end SqlTemplate
