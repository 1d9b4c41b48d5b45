import SqlTemplate.Project.Open

/-!
# Command lines

The first argument names what is to be done. Options with a value are written in two
arguments or in one with an equals sign; the arguments are first read as a list of
`Argument`s in which both spellings look alike, and a command is then put together
from these, the last value of an option being the one that counts. The flags that ask
for verbose logs may stand anywhere and say nothing about the command.
-/

namespace SqlTemplate

namespace Command

/-- What the command line can do. -/
inductive Action where
  | render
  | display
  | list
  | init
deriving DecidableEq

/-- The word for an action. -/
def Action.word : Action → String
  | .render => "render"
  | .display => "show"
  | .list => "list"
  | .init => "init"

/-- The action of a word. -/
def Action.ofWord? (word : String) : Option Action :=
  [Action.render, .display, .list, .init].find? (·.word == word)

/-- An option with a value. -/
inductive Valued where
  | config
  | templates
  | data
deriving DecidableEq

/-- The flag of an option. -/
def Valued.flag : Valued → String
  | .config => "--config"
  | .templates => "--templates"
  | .data => "--data"

/-- The options with values that an action accepts. -/
def Action.valued : Action → List Valued
  | .render => [.config, .templates, .data]
  | .display => [.config, .templates]
  | .list => [.config, .templates]
  | .init => [.config]

/-- Whether an action is about one template. -/
def Action.takesKey : Action → Bool
  | .render => true
  | .display => true
  | .list => false
  | .init => false

/-- Where the data of a statement comes from. -/
inductive DataSource where
  /-- Standard input. -/
  | input
  | file (path : String)
deriving DecidableEq

/-- The data source that the value of an option names. -/
def DataSource.ofValue (value : String) : DataSource :=
  if value = "-" then .input else .file value

/-- What is wrong with a command line. -/
inductive ArgumentFault where
  | unknownCommand (word : String)
  | lacksValue (option : Valued)
  | unknownArgument (word : String)
  | unexpectedArgument (word : String)
  | missingKey (action : Action)
deriving DecidableEq

/-- The message about a command line. -/
def ArgumentFault.message : ArgumentFault → String
  | .unknownCommand word => "unknown command: " ++ word
  | .lacksValue .data => "--data requires a value (file path or `-` for stdin)"
  | .lacksValue option => option.flag ++ " requires a value"
  | .unknownArgument word => "unknown argument: " ++ word
  | .unexpectedArgument word => "unexpected argument: " ++ word
  | .missingKey action =>
    "missing template key (usage: sqlbatis " ++ action.word ++ " <NAMESPACE.KEY>)"

/-! ## Arguments -/

/-- An argument, or two that belong together. -/
inductive Argument where
  | valued (option : Valued) (value : String)
  /-- The flag of an option at the end of the line. -/
  | lacksValue (option : Valued)
  | plain (word : String)
deriving DecidableEq

/-- A text without a start that it has; the start may be there several times. -/
def withoutStarts (start : List Char) : (steps : Nat) → List Char → List Char
  | 0, s => s
  | steps + 1, s =>
    if start.isPrefixOf s then withoutStarts start steps (s.drop start.length) else s

/-- The value in an argument that spells an option with an equals sign. -/
def Valued.spelled? (option : Valued) (word : String) : Option String :=
  let start := option.flag.toList ++ ['=']
  if start.isPrefixOf word.toList then
    some (String.ofList (withoutStarts start word.length word.toList))
  else none

/-- An argument that does not take the next one as its value. -/
def Argument.ofWord (options : List Valued) (word : String) : Argument :=
  match options.findSome? fun option => (option.spelled? word).map (option, ·) with
  | some (option, value) => .valued option value
  | none => .plain word

/-- The arguments that words make, given the options that have values. -/
def Argument.ofWords (options : List Valued) : List String → List Argument
  | [] => []
  | [word] =>
    match options.find? (·.flag == word) with
    | some option => [.lacksValue option]
    | none => [.ofWord options word]
  | word :: next :: rest =>
    match options.find? (·.flag == word) with
    | some option => .valued option next :: ofWords options rest
    | none => .ofWord options word :: ofWords options (next :: rest)

/-! ## Commands -/

/-- What has been asked for so far. -/
structure Request where
  source : Source := {}
  data : Option DataSource := none
  json : Bool := false
  key : Option String := none
deriving DecidableEq

/-- The request with the value of an option. -/
def Request.set (r : Request) (option : Valued) (value : String) : Request :=
  match option with
  | .config => { r with source := { r.source with config := value } }
  | .templates => { r with source := { r.source with templates := some value } }
  | .data => { r with data := some (.ofValue value) }

end Command

/-- A command. -/
inductive Command where
  /-- Help about an action, or about all of them. -/
  | help (topic : Option Command.Action)
  | render (source : Source) (key : String) (data : Option Command.DataSource) (json : Bool)
  | display (source : Source) (key : String) (json : Bool)
  | list (source : Source)
  | init (config : String)
deriving DecidableEq

namespace Command

/-- The words that ask for help. -/
def helpWords : List String := ["-h", "--help"]

/-- The words that ask for verbose logs. -/
def verboseWords : List String := ["-v", "--verbose"]

/-- The command that a request amounts to. -/
def ofRequest (action : Action) (r : Request) : Except ArgumentFault Command :=
  match action, r.key with
  | .render, some key => .ok (.render r.source key r.data r.json)
  | .display, some key => .ok (.display r.source key r.json)
  | .render, none => .error (.missingKey .render)
  | .display, none => .error (.missingKey .display)
  | .list, _ => .ok (.list r.source)
  | .init, _ => .ok (.init r.source.config)

/-- The command that the arguments of an action make, after those taken so far. -/
def ofArguments (action : Action) (r : Request) :
    List Argument → Except ArgumentFault Command
  | [] => ofRequest action r
  | .valued option value :: rest => ofArguments action (r.set option value) rest
  | .lacksValue option :: _ => .error (.lacksValue option)
  | .plain word :: rest =>
    if helpWords.contains word then .ok (.help (some action))
    else if !action.takesKey then .error (.unknownArgument word)
    else if word = "--json" then ofArguments action { r with json := true } rest
    else if word.toList.head? == some '-' then .error (.unknownArgument word)
    else if r.key.isSome then .error (.unexpectedArgument word)
    else ofArguments action { r with key := some word } rest

/-- The command that the words of a command line make, without the name of the program. -/
def ofWords (words : List String) : Except ArgumentFault Command :=
  match words.filter fun word => !verboseWords.contains word with
  | [] => .ok (.help none)
  | word :: rest =>
    if helpWords.contains word then .ok (.help none)
    else
      match Action.ofWord? word with
      | none => .error (.unknownCommand word)
      | some action => ofArguments action {} (Argument.ofWords action.valued rest)

end Command

/-- What a command line asks for: a command, and whether to log what is done. -/
structure Invocation where
  verbose : Bool
  command : Command
deriving DecidableEq

/-- The invocation that the words of a command line make, without the name of the program. -/
def Invocation.ofWords (words : List String) : Except Command.ArgumentFault Invocation := do
  let command ← Command.ofWords words
  return ⟨words.any Command.verboseWords.contains, command⟩

end SqlTemplate
