import SqlTemplate.Yaml.Lexer

/-!
# The nodes of a YAML document

Tokens make up a tree of nodes: scalars, sequences, mappings, and aliases of
nodes that carry an anchor. Anchors get numbers in the order of the document.
The number of a new anchor is the count of different anchor names before it, so
a name that is given again may share its number with the next new name; an
alias refers to the last node with its number.
-/

namespace SqlTemplate.Yaml

/-- What can stand before the content of a node. -/
structure Properties where
  anchor : Option Nat
  tag : Option String

/-- No properties. -/
def Properties.none : Properties := ⟨Option.none, Option.none⟩

/-- A node of a document. -/
inductive Node where
  | alias (number : Nat)
  | scalar (properties : Properties) (text : String) (plain : Bool)
  | sequence (properties : Properties) (items : List Node)
  | mapping (properties : Properties) (entries : List (Node × Node))

/-- The node that stands where nothing is written. -/
def Node.empty : Node := .scalar .none "" true

/-- The state of reading a document: the tokens that are left, and the names of
the anchors so far with their numbers. -/
structure Rest where
  tokens : List Token
  anchors : List (String × Nat)

/-- Reads something from the tokens of a document. -/
abbrev Reader (α : Type) := Rest → Option (α × Rest)

/-- The tag directives in force: each handle with what it stands for. -/
abbrev Handles := List (String × String)

/-- The handles of a document without directives. -/
def Handles.default : Handles := [("!", "!"), ("!!", "tag:yaml.org,2002:")]

/-- The tag that a handle and a suffix denote. -/
def Handles.resolve? (handles : Handles) (handle suffix : String) : Option String :=
  if handle.isEmpty then some suffix
  else (handles.lookup handle).map (· ++ suffix)

/-- Gives a name the number of the next anchor. -/
def Rest.anchor (r : Rest) (name : String) : Nat × Rest :=
  let number := r.anchors.length
  (number, { r with anchors := (name, number) :: r.anchors.filter (·.1 != name) })

/-- Reads the anchor and the tag before a node, in either order. -/
def readProperties? (handles : Handles) (r : Rest) : Option (Properties × Rest) :=
  match r.tokens with
  | .anchor name :: .tag handle suffix :: rest => do
    let tag ← handles.resolve? handle suffix
    let (number, r) := { r with tokens := rest }.anchor name
    return (⟨number, tag⟩, r)
  | .tag handle suffix :: .anchor name :: rest => do
    let tag ← handles.resolve? handle suffix
    let (number, r) := { r with tokens := rest }.anchor name
    return (⟨number, tag⟩, r)
  | .anchor name :: rest =>
    let (number, r) := { r with tokens := rest }.anchor name
    some (⟨number, none⟩, r)
  | .tag handle suffix :: rest => do
    let tag ← handles.resolve? handle suffix
    return (⟨none, tag⟩, { r with tokens := rest })
  | _ => some (.none, r)

/-- Whether nothing is written before one of the given tokens. -/
def Rest.isBefore (r : Rest) (ends : List Token) : Bool :=
  match r.tokens with
  | t :: _ => ends.contains t
  | [] => false

/-- Reads a node, unless one of the given tokens tells that none is written. -/
def readUnless? (ends : List Token) (node : Reader Node) : Reader Node := fun r =>
  if r.isBefore ends then some (.empty, r) else node r

/-- Reads the items of a block sequence, up to its end. -/
def readBlockItems? (node : Reader Node) : (steps : Nat) → Reader (List Node)
  | 0, _ => none
  | steps + 1, r =>
    match r.tokens with
    | .blockEntry :: rest => do
      let (item, r) ← readUnless? [.blockEntry, .blockEnd] node { r with tokens := rest }
      let (items, r) ← readBlockItems? node steps r
      return (item :: items, r)
    | .blockEnd :: rest => some ([], { r with tokens := rest })
    | _ => none

/-- Reads the items of a sequence that stands at the column of the mapping around
it, and so has no brackets of its own. -/
def readBareItems? (node : Reader Node) : (steps : Nat) → Reader (List Node)
  | 0, _ => none
  | steps + 1, r =>
    match r.tokens with
    | .blockEntry :: rest => do
      let (item, r) ←
        readUnless? [.blockEntry, .key, .value, .blockEnd] node { r with tokens := rest }
      let (items, r) ← readBareItems? node steps r
      return (item :: items, r)
    | _ => some ([], r)

/-- Reads the value of a mapping entry, which is empty where no colon stands. -/
def readEntryValue? (ends : List Token) (node : Reader Node) : Reader Node := fun r =>
  match r.tokens with
  | .value :: rest => readUnless? ends node { r with tokens := rest }
  | _ => some (.empty, r)

/-- Reads the entries of a block mapping, up to its end. -/
def readBlockEntries? (node : Reader Node) : (steps : Nat) → Reader (List (Node × Node))
  | 0, _ => none
  | steps + 1, r =>
    let ends := [Token.key, .value, .blockEnd]
    match r.tokens with
    | .key :: rest => do
      let (key, r) ← readUnless? ends node { r with tokens := rest }
      let (value, r) ← readEntryValue? ends node r
      let (entries, r) ← readBlockEntries? node steps r
      return ((key, value) :: entries, r)
    | .blockEnd :: rest => some ([], { r with tokens := rest })
    | _ => none

/-- The tokens behind the comma before an entry other than the first. -/
def afterComma? (isFirst : Bool) (r : Rest) : Option Rest :=
  if isFirst then some r
  else match r.tokens with
    | .flowEntry :: rest => some { r with tokens := rest }
    | _ => none

/-- Reads the key of an entry that stands in a flow sequence. A colon directly
after the question mark is taken for the end of the key. -/
def readPairKey? (node : Reader Node) : Reader Node := fun r =>
  if r.isBefore [.value, .flowEntry, .flowSequenceEnd] then
    some (.empty, { r with tokens := r.tokens.drop 1 })
  else node r

/-- Reads the items of a flow sequence, up to its end. An entry of a mapping among
them is a mapping of its own. -/
def readFlowItems? (node : Reader Node) : (steps : Nat) → (isFirst : Bool) → Reader (List Node)
  | 0, _, _ => none
  | steps + 1, isFirst, r =>
    match r.tokens with
    | .flowSequenceEnd :: rest => some ([], { r with tokens := rest })
    | _ => do
      let r ← afterComma? isFirst r
      match r.tokens with
      | .flowSequenceEnd :: rest => return ([], { r with tokens := rest })
      | .key :: rest =>
        let (key, r) ← readPairKey? node { r with tokens := rest }
        let (value, r) ← readEntryValue? [.flowEntry, .flowSequenceEnd] node r
        let (items, r) ← readFlowItems? node steps false r
        return (.mapping .none [(key, value)] :: items, r)
      | _ =>
        let (item, r) ← node r
        let (items, r) ← readFlowItems? node steps false r
        return (item :: items, r)

/-- Reads the entries of a flow mapping, up to its end. An entry without a question
mark before it and a colon in it has no value. -/
def readFlowEntries? (node : Reader Node) :
    (steps : Nat) → (isFirst : Bool) → Reader (List (Node × Node))
  | 0, _, _ => none
  | steps + 1, isFirst, r =>
    let ends := [Token.flowEntry, .flowMappingEnd]
    match r.tokens with
    | .flowMappingEnd :: rest => some ([], { r with tokens := rest })
    | _ => do
      let r ← afterComma? isFirst r
      match r.tokens with
      | .flowMappingEnd :: rest => return ([], { r with tokens := rest })
      | .key :: rest =>
        let (key, r) ← readUnless? (.value :: ends) node { r with tokens := rest }
        let (value, r) ← readEntryValue? ends node r
        let (entries, r) ← readFlowEntries? node steps false r
        return ((key, value) :: entries, r)
      | _ =>
        let (key, r) ← node r
        let (entries, r) ← readFlowEntries? node steps false r
        return ((key, .empty) :: entries, r)

/-- How a node may begin. -/
inductive Place where
  /-- Inside a flow collection. -/
  | flow
  /-- In a block collection. -/
  | block
  /-- As a key or value of a block mapping, where the items of a sequence may stand
  at the column of the mapping. -/
  | entry
deriving DecidableEq

/-- Reads a node; nodes stand inside one another at most as deep as there are
tokens. A lone exclamation mark as the tag of a scalar is no tag. -/
def readNode? (handles : Handles) : (depth : Nat) → Place → Reader Node
  | 0, _, _ => none
  | depth + 1, place, r =>
    match r.tokens with
    | .alias name :: rest =>
      (r.anchors.lookup name).map fun number => (.alias number, { r with tokens := rest })
    | _ => do
      let (properties, r) ← readProperties? handles r
      let steps := r.tokens.length + 1
      let inFlow := readNode? handles depth .flow
      let inBlock := readNode? handles depth .block
      let inEntry := readNode? handles depth .entry
      match r.tokens with
      | .scalar text plain :: rest =>
        let tag := if properties.tag = some "!" then none else properties.tag
        return (.scalar { properties with tag := tag } text plain, { r with tokens := rest })
      | .flowSequenceStart :: rest =>
        let (items, r) ← readFlowItems? inFlow steps true { r with tokens := rest }
        return (.sequence properties items, r)
      | .flowMappingStart :: rest =>
        let (entries, r) ← readFlowEntries? inFlow steps true { r with tokens := rest }
        return (.mapping properties entries, r)
      | token :: rest =>
        if token = .blockEntry ∧ place = .entry then
          let (items, r) ← readBareItems? inBlock steps r
          return (.sequence properties items, r)
        else if token = .blockSequenceStart ∧ place ≠ .flow then
          let (items, r) ← readBlockItems? inBlock steps { r with tokens := rest }
          return (.sequence properties items, r)
        else if token = .blockMappingStart ∧ place ≠ .flow then
          let (entries, r) ← readBlockEntries? inEntry steps { r with tokens := rest }
          return (.mapping properties entries, r)
        else if properties.anchor.isSome || properties.tag.isSome then
          return (.scalar properties "" true, r)
        else none
      | [] =>
        if properties.anchor.isSome || properties.tag.isSome then
          return (.scalar properties "" true, r)
        else none

/-! ## Documents -/

/-- Reads the directives before a document: at most one version, which must be 1.1
or 1.2, and each handle once. -/
def readDirectives? (version : Bool) (own : Handles) : List Token → Option (Handles × List Token)
  | .version major minor :: rest =>
    if version || major != 1 || (minor != 1 && minor != 2) then none
    else readDirectives? true own rest
  | .tagDirective handle expansion :: rest =>
    if (own.lookup handle).isSome then none
    else readDirectives? version ((handle, expansion) :: own) rest
  | ts => some (own ++ Handles.default, ts)

/-- Whether a token can begin a document without a marker. -/
def beginsBare : Token → Bool
  | .version _ _ | .tagDirective _ _ | .documentStart => false
  | _ => true

/-- Reads the content of a document, which may be empty. -/
def readContent? (handles : Handles) (ts : List Token) : Option (Node × List Token) :=
  match ts with
  | [] | .version _ _ :: _ | .tagDirective _ _ :: _ | .documentStart :: _ | .documentEnd :: _ =>
    some (.empty, ts)
  | ts => do
    let (node, r) ← readNode? handles (ts.length + 1) .block ⟨ts, []⟩
    return (node, r.tokens)

/-- The node of a text that holds one document at most; `none` for the node where
there is no document. -/
def document? (ts : List Token) : Option (Option Node) :=
  match ts with
  | [] => some none
  | t :: _ => do
    let (node, rest) ←
      if beginsBare t then do
        let (node, r) ← readNode? .default (ts.length + 1) .block ⟨ts, []⟩
        some (node, r.tokens)
      else do
        let (handles, rest) ← readDirectives? false [] ts
        match rest with
        | .documentStart :: rest => readContent? handles rest
        | _ => none
    if rest.all (· == .documentEnd) then return some node else none

/-! ## Anchored nodes -/

mutual

/-- The nodes that carry an anchor, with its number, in the order of the document. -/
def Node.anchored : Node → List (Nat × Node)
  | .alias _ => []
  | .scalar properties text plain =>
    properties.anchor.toList.map (·, .scalar properties text plain)
  | .sequence properties items =>
    properties.anchor.toList.map (·, .sequence properties items) ++ anchoredItems items
  | .mapping properties entries =>
    properties.anchor.toList.map (·, .mapping properties entries) ++ anchoredEntries entries

/-- The anchored nodes among some nodes. -/
def anchoredItems : List Node → List (Nat × Node)
  | [] => []
  | node :: rest => node.anchored ++ anchoredItems rest

/-- The anchored nodes among some entries. -/
def anchoredEntries : List (Node × Node) → List (Nat × Node)
  | [] => []
  | (key, value) :: rest => key.anchored ++ value.anchored ++ anchoredEntries rest

end

mutual

/-- The size of a node: one for a scalar or an alias, two more than its parts for a
collection. -/
def Node.size : Node → Nat
  | .alias _ => 1
  | .scalar _ _ _ => 1
  | .sequence _ items => 2 + sizeItems items
  | .mapping _ entries => 2 + sizeEntries entries

/-- The size of some nodes. -/
def sizeItems : List Node → Nat
  | [] => 0
  | node :: rest => node.size + sizeItems rest

/-- The size of some entries. -/
def sizeEntries : List (Node × Node) → Nat
  | [] => 0
  | (key, value) :: rest => key.size + value.size + sizeEntries rest

end

end SqlTemplate.Yaml
