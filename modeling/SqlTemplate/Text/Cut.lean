/-!
# Cutting a text at the occurrences of a pattern

A pattern says whether an occurrence stands at the head of a text, what it
denotes and how many characters it takes. A text is cut from left to right: the
first occurrence that begins at the current place is taken whole, and a place
where none begins gives up its single character.
-/

namespace SqlTemplate.Text

/-- What an occurrence at the head of a text denotes, and its length. -/
abbrev Pattern (α : Type) := List Char → Option (α × Nat)

/-- Cuts a text of which the first `skip` characters belong to an occurrence
already taken. -/
def cutFrom {α : Type} (pattern : Pattern α) : (skip : Nat) → List Char → List (Char ⊕ α)
  | _, [] => []
  | skip + 1, _ :: rest => cutFrom pattern skip rest
  | 0, c :: rest =>
    match pattern (c :: rest) with
    | some (found, length) => .inr found :: cutFrom pattern (length - 1) rest
    | none => .inl c :: cutFrom pattern 0 rest

/-- A text as its occurrences of the pattern and the characters between them. -/
def cut {α : Type} (pattern : Pattern α) (s : List Char) : List (Char ⊕ α) :=
  cutFrom pattern 0 s

section

variable {α : Type} {pattern : Pattern α}

theorem cutFrom_eq_cut_drop (skip : Nat) (s : List Char) :
    cutFrom pattern skip s = cut pattern (s.drop skip) := by
  induction s generalizing skip with
  | nil => cases skip <;> simp [cutFrom, cut]
  | cons c rest ih =>
    cases skip with
    | zero => rfl
    | succ skip => simpa [cutFrom] using ih skip

@[simp] theorem cut_nil : cut pattern [] = [] := by simp [cut, cutFrom]

/-- Where no occurrence begins, one character is given up. -/
theorem cut_of_none {c : Char} {rest : List Char} (h : pattern (c :: rest) = none) :
    cut pattern (c :: rest) = .inl c :: cut pattern rest := by
  simp [cut, cutFrom, h]

/-- Where an occurrence begins, it is taken and cutting goes on behind it. -/
theorem cut_of_some {c : Char} {rest : List Char} {found : α} {length : Nat}
    (h : pattern (c :: rest) = some (found, length)) :
    cut pattern (c :: rest) = .inr found :: cut pattern (rest.drop (length - 1)) := by
  rw [cut, cutFrom]
  simp [h, cutFrom_eq_cut_drop]

end

end SqlTemplate.Text
