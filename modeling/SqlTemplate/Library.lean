import SqlTemplate.Definition
import SqlTemplate.Error
import SqlTemplate.Files.Host

/-!
# Libraries of definitions

A directory holds the templates of a registry, a file for each namespace. The
files that count are those named `*.yml` or `*.yaml`, without the hidden ones and
the swap files of editors. They are taken in the order of their names, whatever
the order in which the directory lists them, and the first that cannot be used
ends the loading.
-/

namespace SqlTemplate

namespace Library

/-- A file of the directory: its name, and what reading it gives. -/
abbrev File := String × Except ReadFault String

/-- The endings of the names of definition files. -/
def endings : List String := [".yml", ".yaml"]

/-- Whether a text occurs in another one. -/
def occursIn (part : List Char) : List Char → Bool
  | [] => part.isEmpty
  | c :: rest => part.isPrefixOf (c :: rest) || occursIn part rest

/-- Whether a file of this name counts. -/
def isCandidate (name : String) : Bool :=
  endings.any (fun ending => ending.toList.isSuffixOf name.toList) &&
    !(name.toList.head? == some '.') && !occursIn ".swp".toList name.toList

/-- A file name up to its last dot. -/
def stem (name : String) : String :=
  match name.toList.reverse.dropWhile (· != '.') with
  | _ :: before => String.ofList before.reverse
  | [] => name

/-- The namespace of a file name; a stem with a dot names none. -/
def namespaceOf? (name : String) : Option String :=
  if (stem name).isEmpty || (stem name).toList.contains '.' then none else some (stem name)

/-- Adds the templates of one file. -/
def addFile (directory : String) (registry : Registry) (file : File) :
    Except Error Registry :=
  let path := Path.entry directory file.1
  match namespaceOf? file.1 with
  | none => .error (.load (path ++ ": invalid namespace file name"))
  | some namespaceName =>
    match file.2 with
    | .error fault => .error (.file fault.message)
    | .ok source =>
      match readDefinitions source with
      | .error fault => .error (.load (fault.messageAt path))
      | .ok templates =>
        match registry.insertNamespace? namespaceName templates with
        | some extended => .ok extended
        | none =>
          .error (.load (path ++ ": namespace `" ++ namespaceName ++ "` is already defined"))

/-- The names that count, in order. -/
def candidates (names : List String) : List String :=
  (names.filter isCandidate).mergeSort fun a b => decide (a ≤ b)

/-- The registry that candidate files define, taken in the given order. -/
def ofFiles (directory : String) (files : List File) : Except Error Registry :=
  files.foldlM (addFile directory) .empty

variable {m : Type → Type} [Monad m]

/-- Reads the candidates of a directory, in order. -/
def readFiles (host : Host m) (directory : String) : m (List File) := do
  let names ← host.fileNames directory
  (candidates names).mapM fun name => do
    return (name, decodeText (← host.readFile (Path.entry directory name)))

/-- Loads the templates of a directory. -/
def load (host : Host m) (path : String) : m (Except Error Registry) := do
  if ← host.isDirectory path then
    match Path.listed? path with
    | some directory => return ofFiles directory (← readFiles host directory)
    | none => return .ok .empty
  else return .error (.load ("template directory not found: " ++ path))

end Library

end SqlTemplate
