import SqlTemplate.Fragment

/-!
# Settings of rendering

How deep statements may include one another, how parameter markers are spelled,
and what becomes of the parameters of included statements.
-/

namespace SqlTemplate

/-- What becomes of the parameters bound inside an included statement. -/
inductive NestedParams where
  /-- Only the text is taken over; its markers stay in it without values. -/
  | discard
  /-- Markers and values become part of the including statement. -/
  | inline
deriving DecidableEq

/-- How templates are rendered. -/
structure Settings where
  /-- How deep inclusions may nest; larger values act as `depthCeiling`. -/
  maxIncludeDepth : Nat := 16
  markers : MarkerStyle := .question
  nestedParams : NestedParams := .discard
deriving DecidableEq

namespace Settings

/-- No setting allows inclusions to nest deeper than this. -/
def depthCeiling : Nat := 128

/-- The depth that rendering observes. -/
def depthLimit (s : Settings) : Nat := min s.maxIncludeDepth depthCeiling

/-- The settings with another depth, held to the ceiling. -/
def withDepth (s : Settings) (depth : Nat) : Settings :=
  { s with maxIncludeDepth := min depth depthCeiling }

end Settings

/-- The name of a marker style. -/
def MarkerStyle.name : MarkerStyle → String
  | .question => "question"
  | .dollar => "dollar"

/-- The marker style of a name. -/
def MarkerStyle.ofName? (name : String) : Option MarkerStyle :=
  [MarkerStyle.question, .dollar].find? (·.name == name)

/-- The name of a policy for nested parameters. -/
def NestedParams.name : NestedParams → String
  | .discard => "discard"
  | .inline => "inline"

/-- The policy of a name. -/
def NestedParams.ofName? (name : String) : Option NestedParams :=
  [NestedParams.discard, .inline].find? (·.name == name)

end SqlTemplate
