import SqlTemplate.Command.Help
import SqlTemplate.Command.Starter
import SqlTemplate.Json.Read

/-!
# Running commands

A command acts through the operations of a host. What it prints before it fails stays
printed.
-/

namespace SqlTemplate.Command

/-- Why the data of a statement could not be read. -/
inductive DataFault where
  | unreadable (source : DataSource) (fault : ReadFault)
  | invalid (source : DataSource)
  | notAnObject (source : DataSource)
deriving DecidableEq

/-- A data source in a message. -/
def DataSource.shown : DataSource → String
  | .input => "stdin"
  | .file path => path

/-- The message about data that could not be read. -/
def DataFault.message : DataFault → String
  | .unreadable .input fault => "failed to read data from stdin: " ++ fault.message
  | .unreadable (.file path) fault => "failed to read data file " ++ path ++ ": " ++ fault.message
  | .invalid source => "invalid JSON data in " ++ source.shown
  | .notAnObject source => "data in " ++ source.shown ++ " must be a JSON object"

/-- Why a command failed. -/
inductive Failure where
  | arguments (fault : ArgumentFault)
  | project (fault : ProjectFault)
  | data (fault : DataFault)
  | render (key : String) (e : RenderError)
  | lookUp (key : String) (e : RenderError)
  | starter (fault : StarterFault)
deriving DecidableEq

/-- The message about a command that failed. -/
def Failure.message : Failure → String
  | .arguments fault => fault.message
  | .project fault => fault.message
  | .data fault => fault.message
  | .render key e => "failed to render " ++ key ++ ": " ++ e.message
  | .lookUp key e => "failed to look up " ++ key ++ ": " ++ e.message
  | .starter fault => fault.message

/-! ## Data -/

/-- The data in a text. Blanks alone stand for an empty object. -/
def parseData (source : DataSource) (text : String) : Except DataFault Value :=
  if Text.isBlankText text then .ok (.object [])
  else
    match Json.read? text with
    | none => .error (.invalid source)
    | some .null => .ok .null
    | some (.object fields) => .ok (.object fields)
    | some _ => .error (.notAnObject source)

/-! ## Output -/

/-- A statement, with each parameter on a line of its own behind it. -/
def statementText (s : Statement) : String :=
  s.sql ++ "".intercalate (s.params.mapIdx fun i v =>
    "\n-- $" ++ natText (i + 1) ++ ": " ++ Json.compact v)

/-- A number in a column of three characters or more. -/
def column (n : Nat) : String :=
  String.ofList (List.replicate (3 - (natText n).length) ' ') ++ natText n

/-- A template, each node on a line of its own behind its number. -/
def templateText (t : Template) : String :=
  "\n".intercalate (t.mapIdx fun i node => column (i + 1) ++ "  " ++ node.shown)

/-! ## Commands -/

variable {m : Type → Type} [Monad m]

/-- Reads the data of a statement; without a source there is none. -/
def readData (host : Host m) : Option DataSource → ExceptT DataFault m Value
  | none => return .object []
  | some source => do
    let bytes ← match source with
      | .input => host.readInput
      | .file path => host.readFile path
    match decodeText bytes with
    | .error fault => throw (.unreadable source fault)
    | .ok text => ExceptT.mk (pure (parseData source text))

/-- Prints a text and ends the line. -/
def printLine (host : Host m) (text : String) : ExceptT Failure m Unit :=
  ExceptT.lift (host.print (text ++ "\n"))

/-- An action with its failure as that of a command. -/
def orFail {ε α : Type} (failure : ε → Failure) (action : ExceptT ε m α) : ExceptT Failure m α :=
  action.adapt failure

/-- Carries out a command. -/
def run (host : Host m) : Command → ExceptT Failure m Unit
  | .help topic => printLine host (helpText topic)
  | .render source key data json => do
    let engine ← orFail .project (source.openEngine host)
    let context ← orFail .data (readData host data)
    match engine.render key context with
    | .error e => throw (.render key e)
    | .ok s => printLine host (if json then Json.pretty s.toValue else statementText s)
  | .display source key json => do
    let engine ← orFail .project (source.openEngine host)
    match engine.template key with
    | .error e => throw (.lookUp key e)
    | .ok t => printLine host (if json then Json.pretty t.toValue else templateText t)
  | .list source => do
    let engine ← orFail .project (source.openEngine host)
    engine.registry.qualifiedKeys.forM (printLine host)
  | .init config => orFail .starter (startProject host config)

/-- Carries out the command that the words of a command line make. Logs are not part of what it
does. -/
def runWords (host : Host m) (words : List String) : ExceptT Failure m Unit :=
  match Invocation.ofWords words with
  | .ok invocation => invocation.command.run host
  | .error fault => throw (.arguments fault)

end SqlTemplate.Command
