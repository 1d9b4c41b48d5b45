import SqlTemplate.Context
import SqlTemplate.Fragment
import SqlTemplate.Text.Characters
import SqlTemplate.Text.Cut

/-!
# Placeholders in statement text

Three kinds of placeholder are resolved, in this order:

1. `::name` becomes the text of the named value;
2. `:name` becomes a parameter marker bound to the named value;
3. a key in double braces becomes the fragment of another statement.

A name is a run of ASCII letters, digits, underscores and dots, as long as
possible. The order shows: text that came in through `::name` is itself
searched for the other two kinds, while bound values and included fragments
never are.
-/

namespace SqlTemplate.Placeholder

open SqlTemplate.Text

/-- A character of which names are made. -/
def isNameChar (c : Char) : Bool := c.isAlphanum || c == '_' || c == '.'

/-- The name at the head of a text; it may be empty. -/
def nameOf (s : List Char) : List Char := s.takeWhile isNameChar

/-- `::name`. -/
def literalAt : Pattern (List Char)
  | ':' :: ':' :: rest =>
    if (nameOf rest).isEmpty then none else some (nameOf rest, (nameOf rest).length + 2)
  | _ => none

/-- `:name`. -/
def boundAt : Pattern (List Char)
  | ':' :: rest =>
    if (nameOf rest).isEmpty then none else some (nameOf rest, (nameOf rest).length + 1)
  | _ => none

/-- A key between double braces, with blanks allowed around it. -/
def referenceAt : Pattern (List Char)
  | '\x7b' :: '\x7b' :: rest =>
    let gap := rest.takeWhile isBlank
    let name := nameOf (rest.dropWhile isBlank)
    let tail := (rest.dropWhile isBlank).dropWhile isNameChar
    let closingGap := tail.takeWhile isBlank
    match tail.dropWhile isBlank with
    | '\x7d' :: '\x7d' :: _ =>
      if name.isEmpty then none
      else some (name, gap.length + name.length + closingGap.length + 4)
    | _ => none
  | _ => none

/-- Every `::name` replaced by the text of its value; nothing for an absent one. -/
def inlineLiterals (context : Value) (s : List Char) : List Char :=
  (cut literalAt s).flatMap fun
    | .inl c => [c]
    | .inr name => (context.lookupOrNull (String.ofList name)).display.toList

/-- Every `:name` replaced by a parameter bound to its value; `null` for an absent one. -/
def bindParams (context : Value) (s : List Char) : Fragment :=
  Fragment.ofPieces <| (cut boundAt s).map fun
    | .inl c => .text [c]
    | .inr name => .param (context.lookupOrNull (String.ofList name))

section

variable {m : Type → Type} [Monad m]

/-- Every key in double braces replaced by the fragment that `fetch` gives for it,
asked for from left to right. -/
def expandReferences (fetch : String → m Fragment) (s : List Char) : m Fragment := do
  let parts ← (cut referenceAt s).mapM fun
    | .inl c => pure (Fragment.ofText [c])
    | .inr key => fetch (String.ofList key)
  return Fragment.concat parts

/-- Resolves all placeholders of a text. -/
def resolve (fetch : String → m Fragment) (context : Value) (s : List Char) : m Fragment := do
  let parts ← (bindParams context (inlineLiterals context s)).pieces.mapM fun
    | .text chars => expandReferences fetch chars
    | .param v => pure (Fragment.ofParam v)
  return Fragment.concat parts

end

end SqlTemplate.Placeholder
