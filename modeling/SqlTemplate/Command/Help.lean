import SqlTemplate.Command.Arguments

/-!
# Help

What is printed when help is asked for, line by line.
-/

namespace SqlTemplate.Command

/-- The line about an option: its spelling in a column of its own, then what it does. -/
def optionLine (spelling meaning : String) : String :=
  "  " ++ spelling ++ String.ofList (List.replicate (22 - spelling.length) ' ') ++ meaning

/-- The lines about the options that choose templates. -/
def sourceLines : List String :=
  [optionLine "--config <FILE>" "Config file path (default: sqlbatis.toml)",
    optionLine "--templates <DIR>" "Override the template directory from config"]

/-- The line about asking for help. -/
def helpLine : String := optionLine "-h, --help" "Print help"

/-- The lines about the options of an action. -/
def Action.optionLines : Action → List String
  | .render =>
    [optionLine "--data <FILE>" "JSON data context (`-` reads stdin; default: \x7b\x7d)",
      optionLine "--json" "Print \x7b\"sql\": ..., \"params\": [...]\x7d as JSON"] ++
      sourceLines ++ [helpLine]
  | .display => [optionLine "--json" "Print the nodes as JSON"] ++ sourceLines ++ [helpLine]
  | .list => sourceLines ++ [helpLine]
  | .init =>
    [optionLine "--config <FILE>" "Config file path to create (default: sqlbatis.toml)", helpLine]

/-- The lines of help about an action. -/
def Action.helpLines (action : Action) : List String :=
  let key := if action.takesKey then " <NAMESPACE.KEY>" else ""
  ["USAGE:", "  sqlbatis " ++ action.word ++ key ++ " [OPTIONS]", "", "OPTIONS:"] ++
    action.optionLines

/-- The lines of help about all actions. -/
def overviewLines : List String :=
  ["sqlbatis - render dynamic SQL templates", "", "USAGE:", "  sqlbatis <COMMAND> [OPTIONS]", "",
    "COMMANDS:", "  render        Render a template against JSON data",
    "  show          Print the raw nodes of a template", "  list          List every namespace.key",
    "  init          Write a starter sqlbatis.toml and template directory", "", "GLOBAL OPTIONS:",
    optionLine "-v, --verbose" "Log rendering decisions to stderr (RUST_LOG overrides)", helpLine, "",
    "Run `sqlbatis <command> --help` for more."]

/-- The help about an action, or about all of them. -/
def helpText (topic : Option Action) : String :=
  "\n".intercalate <| match topic with
    | some action => action.helpLines
    | none => overviewLines

end SqlTemplate.Command
