import SqlTemplate.Numeric.Numeral
import SqlTemplate.Value

/-!
# Statement text with parameters in it

A fragment is a sequence of pieces: stretches of SQL text, and parameter
markers that carry the values bound to them. Markers get their spelling only
when the fragment is written out, so `$1`, `$2`, … always count through the
whole statement.

Every operation keeps fragments canonical: no stretch of text is empty, and no
two stretches touch. So two fragments are equal exactly when they are the same
sequence of characters and parameters.
-/

namespace SqlTemplate

/-- How a parameter marker is spelled. -/
inductive MarkerStyle where
  /-- `?` for every parameter. -/
  | question
  /-- `$1`, `$2`, … in the order of the statement. -/
  | dollar
deriving DecidableEq

/-- A stretch of text or a bound parameter. -/
inductive Piece where
  | text (chars : List Char)
  | param (value : Value)

/-- The symbols of one piece: its characters, or its parameter. -/
def Piece.symbols : Piece → List (Char ⊕ Value)
  | .text s => s.map .inl
  | .param v => [.inr v]

/-- Statement text with parameters in it. -/
structure Fragment where
  pieces : List Piece

namespace Fragment

/-- Nothing at all. -/
def empty : Fragment := ⟨[]⟩

instance : Inhabited Fragment := ⟨empty⟩

/-- Pieces with one more in front. Empty text adds nothing, and text in front of
text joins it. -/
def consPiece : Piece → List Piece → List Piece
  | .text [], rest => rest
  | .text s, .text t :: rest => .text (s ++ t) :: rest
  | .text s, rest => .text s :: rest
  | .param v, rest => .param v :: rest

/-- The fragment made of any sequence of pieces. -/
def ofPieces (pieces : List Piece) : Fragment := ⟨pieces.foldr consPiece []⟩

/-- A fragment that is text only. -/
def ofText (chars : List Char) : Fragment := ofPieces [.text chars]

/-- A fragment that is one bound parameter. -/
def ofParam (value : Value) : Fragment := ⟨[.param value]⟩

/-- One fragment after another. -/
def append (f g : Fragment) : Fragment := ⟨f.pieces.foldr consPiece g.pieces⟩

instance : Append Fragment := ⟨append⟩

/-- The fragments one after another. -/
def concat (fragments : List Fragment) : Fragment := fragments.foldr append empty

/-- The fragments one after another with a text between each two. -/
def join (separator : List Char) : List Fragment → Fragment
  | [] => empty
  | [f] => f
  | f :: rest => f ++ ofText separator ++ join separator rest

/-- The bound values, in the order of their markers. -/
def params (f : Fragment) : List Value :=
  f.pieces.filterMap fun
    | .text _ => none
    | .param v => some v

/-- The spelling of the parameter marker with the given number. -/
def marker (style : MarkerStyle) (number : Nat) : List Char :=
  match style with
  | .question => ['?']
  | .dollar => '$' :: Nat.toDigits 10 number

/-- Writes pieces out, numbering their markers from `number` on. -/
def piecesText (style : MarkerStyle) : (number : Nat) → List Piece → List Char
  | _, [] => []
  | number, .text s :: rest => s ++ piecesText style number rest
  | number, .param _ :: rest => marker style number ++ piecesText style (number + 1) rest

/-- The SQL text, with the markers spelled in a style. -/
def text (style : MarkerStyle) (f : Fragment) : List Char := piecesText style 1 f.pieces

/-- The SQL text, with the markers spelled in a style. -/
def sql (style : MarkerStyle) (f : Fragment) : String := String.ofList (f.text style)

/-- Equality of pieces as data. -/
def samePieces : List Piece → List Piece → Bool
  | [], [] => true
  | .text s :: xs, .text t :: ys => s == t && samePieces xs ys
  | .param v :: xs, .param w :: ys => v.same w && samePieces xs ys
  | _, _ => false

/-- Equality of fragments as data. -/
def same (f g : Fragment) : Bool := samePieces f.pieces g.pieces

/-! ## The view as symbols -/

/-- A fragment as the sequence of its characters and parameters. -/
def symbols (f : Fragment) : List (Char ⊕ Value) := f.pieces.flatMap Piece.symbols

/-- A piece in front brings its symbols to the front. -/
theorem symbols_consPiece (p : Piece) (rest : List Piece) :
    (consPiece p rest).flatMap Piece.symbols = p.symbols ++ rest.flatMap Piece.symbols := by
  cases p with
  | param v => simp [consPiece]
  | text s =>
    cases s with
    | nil => simp [consPiece, Piece.symbols]
    | cons c s =>
      cases rest with
      | nil => simp [consPiece, Piece.symbols]
      | cons q rest => cases q <;> simp [consPiece, Piece.symbols]

theorem symbols_foldr_consPiece (pieces rest : List Piece) :
    (pieces.foldr consPiece rest).flatMap Piece.symbols =
      pieces.flatMap Piece.symbols ++ rest.flatMap Piece.symbols := by
  induction pieces with
  | nil => rfl
  | cons p pieces ih => simp [symbols_consPiece, ih]

@[simp] theorem symbols_empty : empty.symbols = [] := rfl

/-- Putting pieces together keeps their symbols. -/
@[simp] theorem symbols_ofPieces (pieces : List Piece) :
    (ofPieces pieces).symbols = pieces.flatMap Piece.symbols := by
  simp [symbols, ofPieces, symbols_foldr_consPiece]

@[simp] theorem symbols_ofText (chars : List Char) :
    (ofText chars).symbols = chars.map .inl := by
  simp [ofText, Piece.symbols]

@[simp] theorem symbols_ofParam (v : Value) : (ofParam v).symbols = [.inr v] := rfl

/-- The symbols of two fragments, one after the other. -/
@[simp] theorem symbols_append (f g : Fragment) : (f ++ g).symbols = f.symbols ++ g.symbols :=
  symbols_foldr_consPiece f.pieces g.pieces

end Fragment

end SqlTemplate
