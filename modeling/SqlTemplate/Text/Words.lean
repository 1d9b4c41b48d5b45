import SqlTemplate.Text.Characters

/-!
# Words and the gaps before them

A text is a first word, which may be empty, followed by gaps and words in turn.
A gap is a whole run of blanks; a word holds none, and only the last may be
empty, when the text ends in blanks. Putting the pieces together again gives
the text back.
-/

namespace SqlTemplate.Text

/-- A gap together with the word behind it. -/
structure Spaced where
  gap : List Char
  word : List Char
deriving DecidableEq

/-- A text as words with the gaps between them. -/
structure Words where
  first : List Char
  spaced : List Spaced
deriving DecidableEq

namespace Words

/-- The words of a text with a further character in front. -/
def cons (c : Char) (ws : Words) : Words :=
  if isBlank c then
    match ws with
    | ⟨[], s :: more⟩ => ⟨[], { s with gap := c :: s.gap } :: more⟩
    | ⟨first, spaced⟩ => ⟨[], ⟨[c], first⟩ :: spaced⟩
  else { ws with first := c :: ws.first }

/-- Splits a text into its words. -/
def split (s : List Char) : Words := s.foldr cons ⟨[], []⟩

/-- The characters of a gap and its word. -/
def spacedText (spaced : List Spaced) : List Char := spaced.flatMap fun s => s.gap ++ s.word

/-- The text that the words and gaps make up. -/
def text (ws : Words) : List Char := ws.first ++ spacedText ws.spaced

@[simp] theorem spacedText_cons (s : Spaced) (more : List Spaced) :
    spacedText (s :: more) = s.gap ++ (s.word ++ spacedText more) := by
  simp [spacedText]

@[simp] theorem spacedText_nil : spacedText [] = [] := rfl

theorem text_cons (c : Char) (ws : Words) : (cons c ws).text = c :: ws.text := by
  obtain ⟨first, spaced⟩ := ws
  unfold cons
  split
  · cases first with
    | nil => cases spaced <;> simp [text]
    | cons d first => simp [text]
  · simp [text]

/-- Splitting loses nothing. -/
@[simp] theorem text_split (s : List Char) : (split s).text = s := by
  induction s with
  | nil => rfl
  | cons c rest ih =>
    have h : split (c :: rest) = cons c (split rest) := rfl
    rw [h, text_cons, ih]

end Words

end SqlTemplate.Text
