import SqlTemplate.Render
import Mathlib.Data.List.Basic

/-!
# Canonical fragments

The operations on fragments never leave empty text behind and never put two
stretches of text side by side. `CanonicalPieces` says so for a list of pieces,
`Fragment.Canonical` for a fragment. Its constructors are the four ways in
which a canonical list can begin, so a proof about canonical fragments is an
induction over stretches and markers in turn.

A canonical fragment is determined by its symbols, the characters and
parameters that it is made of (`Canonical.eq_of_symbols`). Equations between
fragments are therefore proved on symbols, where appending is appending of
lists; the parameters and the written text are functions of the symbols, too.
-/

namespace SqlTemplate

/-- Pieces in which no text is empty and no two texts touch. -/
inductive CanonicalPieces : List Piece → Prop where
  | nil : CanonicalPieces []
  | param (v : Value) {rest : List Piece} :
      CanonicalPieces rest → CanonicalPieces (.param v :: rest)
  | text {s : List Char} : s ≠ [] → CanonicalPieces [.text s]
  | textParam {s : List Char} (v : Value) {rest : List Piece} :
      s ≠ [] → CanonicalPieces rest → CanonicalPieces (.text s :: .param v :: rest)

namespace Fragment

/-- A fragment whose pieces are canonical. -/
def Canonical (f : Fragment) : Prop := CanonicalPieces f.pieces

/-! ## Every operation keeps fragments canonical -/

/-- A piece in front joins the text behind it, so no two texts touch. -/
theorem consPiece_canonical (p : Piece) {rest : List Piece} (h : CanonicalPieces rest) :
    CanonicalPieces (consPiece p rest) := by
  cases p with
  | param v => exact .param v h
  | text s =>
    cases s with
    | nil => exact h
    | cons c s =>
      have hne : c :: s ≠ [] := List.cons_ne_nil c s
      -- text in front of what a canonical list may begin with
      cases h with
      | nil => exact .text hne
      | param v h => exact .textParam v hne h
      | text _ => exact .text (by simp)
      | textParam v _ h => exact .textParam v (by simp) h

theorem foldr_consPiece_canonical (pieces : List Piece) {rest : List Piece}
    (h : CanonicalPieces rest) : CanonicalPieces (pieces.foldr consPiece rest) := by
  induction pieces with
  | nil => exact h
  | cons p pieces ih => exact consPiece_canonical p ih

theorem canonical_empty : empty.Canonical := .nil

/-- Whatever the pieces, what is made of them is canonical. -/
theorem canonical_ofPieces (pieces : List Piece) : (ofPieces pieces).Canonical :=
  foldr_consPiece_canonical pieces .nil

theorem canonical_ofText (s : List Char) : (ofText s).Canonical := canonical_ofPieces _

theorem canonical_ofParam (v : Value) : (ofParam v).Canonical := .param v .nil

/-- Only the fragment behind needs to be canonical. -/
theorem Canonical.append (f : Fragment) {g : Fragment} (hg : g.Canonical) :
    (f ++ g).Canonical := foldr_consPiece_canonical f.pieces hg

theorem canonical_concat (fs : List Fragment) : (concat fs).Canonical := by
  induction fs with
  | nil => exact canonical_empty
  | cons f fs ih => exact Canonical.append f ih

/-- A joined fragment ends with the last one that is joined, so this has to be canonical. -/
theorem canonical_join (separator : List Char) {fs : List Fragment}
    (h : ∀ f ∈ fs, f.Canonical) : (join separator fs).Canonical := by
  induction fs with
  | nil => exact canonical_empty
  | cons f fs ih =>
    cases fs with
    | nil => exact h f (List.mem_cons_self ..)
    | cons g fs => exact Canonical.append _ (ih fun k hk => h k (List.mem_cons_of_mem _ hk))

/-- Repair may empty a text, so the pieces are put together again. -/
theorem canonical_repaired (f : Fragment) : f.repaired.Canonical := canonical_ofPieces _

/-! ## Appending -/

/-- Appending to pieces with one more in front is appending to the rest first. -/
theorem foldr_consPiece_consPiece (p : Piece) (ps rest : List Piece) :
    (consPiece p ps).foldr consPiece rest = consPiece p (ps.foldr consPiece rest) := by
  cases p with
  | param v => rfl
  | text s =>
    cases s with
    | nil => rfl
    | cons c s =>
      cases ps with
      | nil => rfl
      | cons q ps =>
        cases q with
        | param v => rfl
        | text t =>
          show consPiece (.text (c :: s ++ t)) (ps.foldr consPiece rest) =
            consPiece (.text (c :: s)) (consPiece (.text t) (ps.foldr consPiece rest))
          generalize ps.foldr consPiece rest = tail
          cases t with
          | nil => simp [consPiece]
          | cons d t =>
            cases tail with
            | nil => rfl
            | cons q tail => cases q <;> simp [consPiece]

/-- Appending is associative, canonical or not. -/
theorem append_assoc (f g h : Fragment) : f ++ g ++ h = f ++ (g ++ h) := by
  obtain ⟨ps⟩ := f
  show Fragment.mk ((ps.foldr consPiece g.pieces).foldr consPiece h.pieces) =
    Fragment.mk (ps.foldr consPiece (g.pieces.foldr consPiece h.pieces))
  congr 1
  -- on the pieces in front, each of which can wait
  induction ps with
  | nil => rfl
  | cons p ps ih => rw [List.foldr_cons, foldr_consPiece_consPiece, ih, List.foldr_cons]

theorem concat_append (fs gs : List Fragment) : concat (fs ++ gs) = concat fs ++ concat gs := by
  induction fs with
  | nil => rfl
  | cons f fs ih =>
    show f ++ concat (fs ++ gs) = f ++ concat fs ++ concat gs
    rw [ih, append_assoc]

theorem pieces_ofText_append (s : List Char) (f : Fragment) :
    (ofText s ++ f).pieces = consPiece (.text s) f.pieces :=
  foldr_consPiece_consPiece (.text s) [] f.pieces

theorem pieces_ofParam_append (v : Value) (f : Fragment) :
    (ofParam v ++ f).pieces = .param v :: f.pieces := rfl

/-! ## A canonical fragment is its symbols -/

/-- A symbol as a piece of its own. -/
def symbolPiece : Char ⊕ Value → Piece
  | .inl c => .text [c]
  | .inr v => .param v

/-- The fragment made of a sequence of symbols. -/
def ofSymbols (xs : List (Char ⊕ Value)) : Fragment := ofPieces (xs.map symbolPiece)

/-- Characters put in front one by one are a stretch put in front. -/
theorem foldr_chars (s : List Char) (rest : List Piece) :
    (s.map fun c => symbolPiece (.inl c)).foldr consPiece rest = consPiece (.text s) rest := by
  induction s with
  | nil => rfl
  | cons c s ih =>
    rw [List.map_cons, List.foldr_cons, ih]
    cases s with
    | nil => rfl
    | cons d s =>
      cases rest with
      | nil => rfl
      | cons p rest => cases p <;> rfl

/-- The symbols of a piece, put in front one by one, are the piece. -/
theorem foldr_symbolPiece (p : Piece) (rest : List Piece) :
    (p.symbols.map symbolPiece).foldr consPiece rest = consPiece p rest := by
  cases p with
  | param v => rfl
  | text s =>
    rw [Piece.symbols, List.map_map]
    exact foldr_chars s rest

/-- Canonical pieces come back from their symbols. -/
theorem pieces_of_symbols {ps : List Piece} (h : CanonicalPieces ps) :
    ((ps.flatMap Piece.symbols).map symbolPiece).foldr consPiece [] = ps := by
  induction h with
  | nil => rfl
  | param v _ ih =>
    rw [List.flatMap_cons, List.map_append, List.foldr_append, ih]
    rfl
  | @text s hs =>
    rw [List.flatMap_cons, List.flatMap_nil, List.append_nil, foldr_symbolPiece]
    cases s with
    | nil => exact absurd rfl hs
    | cons c s => rfl
  | @textParam s v rest hs _ ih =>
    rw [List.flatMap_cons, List.flatMap_cons, List.map_append, List.map_append,
      List.foldr_append, List.foldr_append, ih, foldr_symbolPiece, foldr_symbolPiece]
    cases s with
    | nil => exact absurd rfl hs
    | cons c s => rfl

/-- So a canonical fragment comes back from its symbols. -/
theorem Canonical.ofSymbols_symbols {f : Fragment} (h : f.Canonical) :
    ofSymbols f.symbols = f := by
  show Fragment.mk _ = f
  rw [symbols, pieces_of_symbols h]

/-- Two canonical fragments with the same symbols are equal. -/
theorem Canonical.eq_of_symbols {f g : Fragment} (hf : f.Canonical) (hg : g.Canonical)
    (h : f.symbols = g.symbols) : f = g := by
  rw [← hf.ofSymbols_symbols, ← hg.ofSymbols_symbols, h]

theorem Canonical.ofPieces_pieces {f : Fragment} (h : f.Canonical) : ofPieces f.pieces = f :=
  (canonical_ofPieces _).eq_of_symbols h (symbols_ofPieces _)

theorem Canonical.append_empty {f : Fragment} (h : f.Canonical) : f ++ empty = f :=
  h.ofPieces_pieces

/-- The symbols of fragments one after another are theirs one after another. -/
@[simp] theorem symbols_concat (fs : List Fragment) :
    (concat fs).symbols = fs.flatMap symbols := by
  induction fs with
  | nil => rfl
  | cons f fs ih =>
    show (f ++ concat fs).symbols = _
    rw [symbols_append, ih, List.flatMap_cons]

/-- Joining puts the separator in front of every fragment but the first. -/
theorem symbols_join_cons (separator : List Char) (f : Fragment) (fs : List Fragment) :
    (join separator (f :: fs)).symbols =
      f.symbols ++ fs.flatMap fun g => separator.map .inl ++ g.symbols := by
  induction fs generalizing f with
  | nil => simp [join]
  | cons g fs ih => simp [join, ih]

/-! ## Parameters and text, read off the symbols -/

/-- The parameters are the symbols that are no characters. -/
theorem params_eq_symbols (f : Fragment) : f.params = f.symbols.filterMap Sum.getRight? := by
  obtain ⟨ps⟩ := f
  show ps.filterMap _ = (ps.flatMap Piece.symbols).filterMap Sum.getRight?
  induction ps with
  | nil => rfl
  | cons p ps ih =>
    rw [List.flatMap_cons, List.filterMap_append, ← ih]
    cases p with
    | param v => rfl
    | text s =>
      have hs : (s.map (Sum.inl : Char → Char ⊕ Value)).filterMap Sum.getRight? = [] := by
        simp [List.filterMap_map]
      rw [Piece.symbols, hs]
      rfl

@[simp] theorem params_append (f g : Fragment) : (f ++ g).params = f.params ++ g.params := by
  simp [params_eq_symbols]

@[simp] theorem params_ofText (s : List Char) : (ofText s).params = [] := by
  simp [params_eq_symbols, List.filterMap_map]

@[simp] theorem params_join (separator : List Char) (fs : List Fragment) :
    (join separator fs).params = fs.flatMap params := by
  induction fs with
  | nil => rfl
  | cons f fs ih =>
    cases fs with
    | nil => simp [join]
    | cons g fs =>
      show (f ++ ofText separator ++ join separator (g :: fs)).params =
        f.params ++ (g :: fs).flatMap params
      rw [params_append, params_append, params_ofText, List.append_nil, ih]

/-- Writes symbols out, numbering their markers from `number` on. -/
def symbolsText (style : MarkerStyle) : (number : Nat) → List (Char ⊕ Value) → List Char
  | _, [] => []
  | number, .inl c :: rest => c :: symbolsText style number rest
  | number, .inr _ :: rest => marker style number ++ symbolsText style (number + 1) rest

theorem symbolsText_chars (style : MarkerStyle) (number : Nat) (s : List Char)
    (rest : List (Char ⊕ Value)) :
    symbolsText style number (s.map .inl ++ rest) = s ++ symbolsText style number rest := by
  induction s with
  | nil => rfl
  | cons c s ih => rw [List.map_cons, List.cons_append, symbolsText, ih, List.cons_append]

theorem piecesText_eq_symbolsText (style : MarkerStyle) (number : Nat) (ps : List Piece) :
    piecesText style number ps = symbolsText style number (ps.flatMap Piece.symbols) := by
  induction ps generalizing number with
  | nil => rfl
  | cons p ps ih =>
    rw [List.flatMap_cons]
    cases p with
    | param v => rw [piecesText, ih]; rfl
    | text s => rw [piecesText, Piece.symbols, symbolsText_chars, ih]

/-- The written text of a fragment is that of its symbols. -/
theorem text_eq_symbolsText (style : MarkerStyle) (f : Fragment) :
    f.text style = symbolsText style 1 f.symbols := piecesText_eq_symbolsText style 1 f.pieces

/-- Question marks do not count, so they can be written from any number on. -/
theorem symbolsText_question_number (number other : Nat) (xs : List (Char ⊕ Value)) :
    symbolsText .question number xs = symbolsText .question other xs := by
  induction xs generalizing number other with
  | nil => rfl
  | cons x xs ih =>
    cases x with
    | inl c => rw [symbolsText, symbolsText, ih number other]
    | inr v =>
      rw [symbolsText, symbolsText, ih (number + 1) (other + 1)]
      rfl

/-- So with question marks a text is written stretch by stretch. -/
theorem symbolsText_question_append (number : Nat) (xs ys : List (Char ⊕ Value)) :
    symbolsText .question number (xs ++ ys) =
      symbolsText .question number xs ++ symbolsText .question 1 ys := by
  induction xs generalizing number with
  | nil => exact symbolsText_question_number number 1 ys
  | cons x xs ih =>
    cases x with
    | inl c => rw [List.cons_append, symbolsText, symbolsText, ih, List.cons_append]
    | inr v => rw [List.cons_append, symbolsText, symbolsText, ih, List.append_assoc]

/-- With question marks, the text of fragments one after another is theirs. -/
theorem text_question_append (f g : Fragment) :
    (f ++ g).text .question = f.text .question ++ g.text .question := by
  rw [text_eq_symbolsText, symbols_append, symbolsText_question_append, ← text_eq_symbolsText,
    ← text_eq_symbolsText]

@[simp] theorem text_ofText (style : MarkerStyle) (s : List Char) :
    (ofText s).text style = s := by
  rw [text_eq_symbolsText, symbols_ofText]
  simpa [symbolsText] using symbolsText_chars style 1 s []

/-- Without parameters the symbols are the characters of the text. -/
theorem symbols_of_params_nil {f : Fragment} (h : f.params = []) (style : MarkerStyle) :
    f.symbols = (f.text style).map .inl := by
  rw [params_eq_symbols] at h
  rw [text_eq_symbolsText]
  generalize f.symbols = xs at h
  induction xs with
  | nil => rfl
  | cons x xs ih =>
    cases x with
    | inl c => rw [symbolsText, List.map_cons, ← ih (by simpa using h)]
    | inr v => simp at h

/-- A canonical fragment without parameters is plain text. -/
theorem Canonical.eq_ofText {f : Fragment} (hf : f.Canonical) (h : f.params = [])
    (style : MarkerStyle) : ofText (f.text style) = f :=
  (canonical_ofText _).eq_of_symbols hf (by rw [symbols_ofText, symbols_of_params_nil h style])

end Fragment

end SqlTemplate
