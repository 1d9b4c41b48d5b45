import SqlTemplate.Text.Characters
import SqlTemplate.Text.Words

/-!
# Repairing clauses left dangling

Conditionals that are left out can leave a `WHERE` without a condition. Three
rules repair the statement, in this order and without regard to case:

1. a `WHERE` at the very end is removed;
2. the `AND`s directly after a `WHERE` are removed;
3. a `WHERE` directly before `UNION`, `ORDER`, `GROUP` or `LIMIT` is removed.

The rules speak of the words of a statement. A word counts as `WHERE` or `AND`
only as a whole and with a gap before it, so the first word of a text never
does; the clause keywords of the third rule may be followed by anything that
ends a word.
-/

namespace SqlTemplate.Clause

open SqlTemplate.Text

/-- Whether a word is the given lower-case keyword in some mix of cases. -/
def isKeyword (keyword : List Char) (word : List Char) : Bool :=
  word.map Char.toLower == keyword

/-- The word that opens the list of conditions. -/
def isWhere (word : List Char) : Bool := isKeyword ['w', 'h', 'e', 'r', 'e'] word

/-- The word that joins two conditions. -/
def isAnd (word : List Char) : Bool := isKeyword ['a', 'n', 'd'] word

/-- The keywords that can follow the list of conditions; each has five letters. -/
def followers : List (List Char) :=
  [['u', 'n', 'i', 'o', 'n'], ['o', 'r', 'd', 'e', 'r'], ['g', 'r', 'o', 'u', 'p'],
    ['l', 'i', 'm', 'i', 't']]

/-- Whether a word begins with a keyword that ends the list of conditions. -/
def opensFollower (word : List Char) : Bool :=
  followers.contains ((word.take 5).map Char.toLower) && endsWord (word.drop 5)

/-- Rule 1: a last `WHERE` goes, together with the blanks around it. -/
def dropLastWhere : List Spaced → List Spaced
  | [] => []
  | [s] => if isWhere s.word then [] else [s]
  | [s, last] =>
    if isWhere s.word && last.word.isEmpty then [] else s :: dropLastWhere [last]
  | s :: more => s :: dropLastWhere more

/-- How the words before the current place bear on rule 2. -/
inductive AfterWhere where
  /-- The last word is no `WHERE` that can lose an `AND`. -/
  | no
  /-- The last word is a `WHERE`. -/
  | directly
  /-- Between the last `WHERE` and here an `AND` has been removed. -/
  | dropped

/-- Rule 2: the `AND`s directly after a `WHERE` go, as far as something follows
them, and what follows stands behind a single space. The word that follows does
not start the rule again. -/
def dropAnds : AfterWhere → List Spaced → List Spaced
  | _, [] => []
  | .no, s :: more => s :: dropAnds (if isWhere s.word then .directly else .no) more
  | .directly, s :: more =>
    if isAnd s.word && !more.isEmpty then dropAnds .dropped more
    else s :: dropAnds (if isWhere s.word then .directly else .no) more
  | .dropped, s :: more =>
    if isAnd s.word && !more.isEmpty then dropAnds .dropped more
    else ⟨[' '], s.word⟩ :: dropAnds .no more

/-- Rule 3: a `WHERE` before a keyword that ends the conditions goes, and the
keyword stands behind a single space. -/
def dropWhereBeforeFollower : List Spaced → List Spaced
  | [] => []
  | [s] => [s]
  | s :: next :: more =>
    if isWhere s.word && opensFollower next.word then
      ⟨[' '], next.word⟩ :: dropWhereBeforeFollower more
    else s :: dropWhereBeforeFollower (next :: more)

/-- The rules applied to the words of a text; rule 1 only where the text is the
end of its statement. -/
def repairWords (atEnd : Bool) (ws : Words) : Words :=
  let spaced := if atEnd then dropLastWhere ws.spaced else ws.spaced
  { ws with spaced := dropWhereBeforeFollower (dropAnds .no spaced) }

/-- Repairs a stretch of statement text. -/
def repair (atEnd : Bool) (s : List Char) : List Char :=
  (repairWords atEnd (Words.split s)).text

/-- Repairs a whole statement. -/
def repairStatement (sql : String) : String := String.ofList (repair true sql.toList)

end SqlTemplate.Clause
