/-!
# Paths

A path is a text in which slashes separate the names on the way to a file. Paths
are kept as they are spelled: putting one behind another, or leaving off its last
name, changes no other part of the text.
-/

namespace SqlTemplate.Path

/-- A text cut at each of its slashes. -/
def cutSlashes : List Char → List (List Char)
  | [] => [[]]
  | c :: rest =>
    if c = '/' then [] :: cutSlashes rest
    else
      match cutSlashes rest with
      | [] => [[c]]
      | first :: others => (c :: first) :: others

/-- The segments of a path: what stands before, between and behind its slashes. -/
def segments (path : String) : List String := (cutSlashes path.toList).map String.ofList

/-- The path with the given segments. -/
def ofSegments (segments : List String) : String := "/".intercalate segments

/-- Whether a path starts at the root. -/
def isAbsolute (path : String) : Bool := path.toList.head? == some '/'

/-- A path as seen from another one. An absolute path stays as it is. -/
def join (base path : String) : String :=
  if isAbsolute path || base.isEmpty then path
  else if base.toList.getLast? == some '/' then base ++ path
  else base ++ "/" ++ path

/-- A segment that leads nowhere else. -/
def isVacuous (segment : String) : Bool := segment.isEmpty || segment == "."

/-- The segments without those at the end that lead nowhere else. -/
def dropVacuous (segments : List String) : List String :=
  (segments.reverse.dropWhile isVacuous).reverse

/-- The segments before the last one that leads somewhere; `none` if there is none. -/
def beforeLast? (segments : List String) : Option (List String) :=
  match segments.reverse.dropWhile isVacuous with
  | [] => none
  | _ :: before => some (before.dropWhile isVacuous).reverse

/-- The path of the directory that a path's last segment stands in. It is empty for a
single segment; the root and the empty path have none. -/
def parent? (path : String) : Option String :=
  match segments path with
  | "" :: body => (beforeLast? body).map fun before => "/" ++ ofSegments before
  | "." :: body =>
    match beforeLast? body with
    | some before => some (ofSegments ("." :: before))
    | none => some ""
  | body => (beforeLast? body).map ofSegments

/-- An entry of a directory. What lies in `.` goes by its bare name. -/
def entry (directory name : String) : String :=
  if directory = "." then name else join directory name

/-- The path by which a directory is named when its files are listed: its segments, one
entered after the other, beginning at the root or at `.`. An empty segment entered from
`.` names nothing. -/
def listed? (path : String) : Option String :=
  let (start, steps) :=
    if isAbsolute path then ("/", (segments path).drop 1) else (".", segments path)
  steps.foldlM (fun directory name =>
    let next := entry directory name
    if next.isEmpty then none else some next) start

end SqlTemplate.Path
