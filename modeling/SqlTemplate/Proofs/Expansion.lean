import SqlTemplate.Project.Expansion
import SqlTemplate.Proofs.Files.Runs
import SqlTemplate.Proofs.Text.Cut
import Mathlib.Data.List.Infix

/-!
# Expanding in one pass

A `Layout` says how a text is made up of references: stretches in which none opens, with names
in braces between them, and maybe a last reference that no brace closes. Every text has one
layout and no other (`isLayout_iff`), since cutting a text at its references gives the parts of
any layout that it has (`pieces_text`).

Expanding goes through these parts once. Each reference either stands for the value of a
variable or is at fault, and the first at fault ends it (`FirstFault`); what a reference stands
for is not looked at again.

> `expands_in_one_pass`: expanding gives the layout with the values in place of the names exactly
> if every reference stands for something, and else the fault of the leftmost that does not.
-/

namespace SqlTemplate.Expansion

open SqlTemplate.Text

/-! ## Layouts -/

/-- What opens a reference. -/
def opening : List Char := ['$', '\x7b']

/-- A text as the stretches between its references: the first, and behind each name the next. -/
structure Layout where
  first : List Char
  /-- Names in braces, each with the stretch behind it. -/
  refs : List (List Char × List Char)
  /-- What follows a last opening that no brace closes. -/
  unclosed : Option (List Char)

namespace Layout

/-- The text with a layout. -/
def text (l : Layout) : List Char :=
  l.first ++ (l.refs.flatMap (fun ref => opening ++ (ref.1 ++ '\x7d' :: ref.2)) ++
    l.unclosed.elim [] (opening ++ ·))

/-- No reference opens in a stretch, and no brace closes in a name or behind the last opening. -/
structure Proper (l : Layout) : Prop where
  first : ¬ opening <:+: l.first
  names : ∀ ref ∈ l.refs, '\x7d' ∉ ref.1
  stretches : ∀ ref ∈ l.refs, ¬ opening <:+: ref.2
  unclosed : ∀ rest ∈ l.unclosed, '\x7d' ∉ rest

/-- The references of a text with this layout, from left to right. -/
def references (l : Layout) : List Reference :=
  l.refs.map (.closed ·.1) ++ (l.unclosed.map .unterminated).toList

/-- The layout with the values of variables in place of their names. -/
def filled (value : String → Option String) (l : Layout) : List Char :=
  l.first ++ l.refs.flatMap fun ref =>
    ((value (String.ofList ref.1)).getD "").toList ++ ref.2

/-- The characters and references of a text with this layout. -/
def parts (l : Layout) : List (Char ⊕ Reference) :=
  l.first.map .inl ++ (l.refs.flatMap (fun ref => .inr (.closed ref.1) :: ref.2.map .inl) ++
    (l.unclosed.map (.inr ∘ .unterminated)).toList)

/-- The layout that parts have. -/
def ofParts : List (Char ⊕ Reference) → Layout
  | [] => ⟨[], [], none⟩
  | .inl c :: rest => { ofParts rest with first := c :: (ofParts rest).first }
  | .inr (.closed name) :: rest =>
    ⟨[], (name, (ofParts rest).first) :: (ofParts rest).refs, (ofParts rest).unclosed⟩
  | .inr (.unterminated rest) :: _ => ⟨[], [], some rest⟩

theorem ofParts_chars (cs : List Char) (rest : List (Char ⊕ Reference)) :
    ofParts (cs.map .inl ++ rest) =
      ⟨cs ++ (ofParts rest).first, (ofParts rest).refs, (ofParts rest).unclosed⟩ := by
  induction cs with
  | nil => rfl
  | cons c cs ih => rw [List.map_cons, List.cons_append, ofParts, ih]; rfl

/-- A layout is determined by its parts. -/
theorem ofParts_parts (l : Layout) : ofParts l.parts = l := by
  obtain ⟨first, refs, unclosed⟩ := l
  have hrefs : ofParts (refs.flatMap (fun ref => .inr (.closed ref.1) :: ref.2.map .inl) ++
      (unclosed.map (.inr ∘ .unterminated)).toList) = ⟨[], refs, unclosed⟩ := by
    induction refs with
    | nil => cases unclosed <;> rfl
    | cons ref refs ih =>
      rw [List.flatMap_cons, List.append_assoc, List.cons_append, ofParts, ofParts_chars, ih,
        List.append_nil]
  rw [parts, ofParts_chars, hrefs, List.append_nil]

end Layout

/-! ## Every text has one layout -/

/-- A reference at the head of a text, in front of the rest. -/
inductive Opens : Occurrence Reference where
  | closed {name rest : List Char} : '\x7d' ∉ name →
      Opens ('$' :: '\x7b' :: (name ++ '\x7d' :: rest)) (.closed name) rest
  | unterminated {rest : List Char} : '\x7d' ∉ rest →
      Opens ('$' :: '\x7b' :: rest) (.unterminated rest) []

/-- At every opening there is a reference: to the next brace, or without an end. -/
theorem exists_opens (s : List Char) : ∃ r rest, Opens ('$' :: '\x7b' :: s) r rest := by
  by_cases hmem : '\x7d' ∈ s
  · obtain ⟨name, rest, rfl, hname⟩ := List.eq_append_cons_of_mem hmem
    exact ⟨_, _, .closed hname⟩
  · exact ⟨_, _, .unterminated hmem⟩

theorem takeWhile_of_not_mem {s : List Char} (h : '\x7d' ∉ s) :
    s.takeWhile (· != '\x7d') = s := by
  rw [List.takeWhile_eq_self_iff]
  intro c hc
  exact bne_iff_ne.mpr fun heq => h (heq ▸ hc)

/-- A reference at the head of a text is found, with its length. -/
theorem reference_of_opens {s : List Char} {r : Reference} {rest : List Char}
    (h : Opens s r rest) : ∃ w, w ≠ [] ∧ s = w ++ rest ∧ reference s = some (r, w.length) := by
  cases h with
  | @closed name rest hname =>
    have htake : (name ++ '\x7d' :: rest).takeWhile (· != '\x7d') = name := by
      rw [List.takeWhile_append_of_pos]
      · simp
      · exact List.takeWhile_eq_self_iff.mp (takeWhile_of_not_mem hname)
    refine ⟨'$' :: '\x7b' :: (name ++ ['\x7d']), List.cons_ne_nil _ _, by simp, ?_⟩
    rw [reference]
    rw [htake, if_pos (by simp)]
    simp
  | @unterminated rest hrest =>
    refine ⟨'$' :: '\x7b' :: rest, List.cons_ne_nil _ _, by simp, ?_⟩
    rw [reference]
    rw [takeWhile_of_not_mem hrest, if_neg (Nat.lt_irrefl _)]
    rfl

theorem finds_reference : Finds reference Opens where
  found := reference_of_opens
  occurs := by
    intro s r length h
    unfold reference at h
    split at h
    next s =>
      obtain ⟨r', rest, hopens⟩ := exists_opens s
      obtain ⟨w, -, -, hfound⟩ := reference_of_opens hopens
      have hsame : some (r, length) = some (r', w.length) := h.symm.trans hfound
      cases hsame
      exact ⟨rest, hopens⟩
    next => cases h

/-- Parts are those of a proper layout of their text. -/
theorem proper_ofParts {s : List Char} {parts : List (Char ⊕ Reference)}
    (h : CutAt Opens s parts) :
    (Layout.ofParts parts).Proper ∧ (Layout.ofParts parts).text = s := by
  induction h with
  | nil => exact ⟨⟨by decide, by simp [Layout.ofParts], by simp [Layout.ofParts],
      by simp [Layout.ofParts]⟩, rfl⟩
  | @found s t r parts hopens _ ih =>
    obtain ⟨hproper, htext⟩ := ih
    cases hopens with
    | closed hname =>
      refine ⟨⟨by simp [Layout.ofParts, opening], ?_, ?_, hproper.unclosed⟩, ?_⟩
      · exact List.forall_mem_cons.mpr ⟨hname, hproper.names⟩
      · exact List.forall_mem_cons.mpr ⟨hproper.first, hproper.stretches⟩
      · rw [← htext]
        simp [Layout.ofParts, Layout.text, opening]
    | unterminated hrest =>
      refine ⟨⟨by simp [Layout.ofParts, opening], by simp [Layout.ofParts],
        by simp [Layout.ofParts], ?_⟩, by simp [Layout.ofParts, Layout.text, opening]⟩
      simpa [Layout.ofParts] using hrest
  | @char c s parts hnever _ ih =>
    obtain ⟨hproper, htext⟩ := ih
    refine ⟨⟨?_, hproper.names, hproper.stretches, hproper.unclosed⟩, ?_⟩
    · intro hinfix
      rcases List.infix_cons_iff.mp hinfix with hprefix | hrest
      · -- a reference would open here
        obtain ⟨tail, htail⟩ := hprefix
        obtain ⟨rfl, hfirst⟩ := List.cons.inj htail
        rw [Layout.text, ← hfirst] at htext
        obtain ⟨r, rest, hopens⟩ := exists_opens _
        exact hnever r rest (htext ▸ hopens)
      · exact hproper.first hrest
    · rw [← htext]
      simp [Layout.ofParts, Layout.text]

/-- A stretch in which no reference opens, in front of a text that does not complete an opening. -/
theorem cutAt_chars {cs s : List Char} {parts : List (Char ⊕ Reference)}
    (hcs : ¬ opening <:+: cs) (hs : s.head? ≠ some '\x7b') (h : CutAt Opens s parts) :
    CutAt Opens (cs ++ s) (cs.map .inl ++ parts) := by
  induction cs with
  | nil => exact h
  | cons c cs ih =>
    rw [List.infix_cons_iff, not_or] at hcs
    refine .char (fun r rest hopens => ?_) (ih hcs.2)
    obtain ⟨tail, hc, htail⟩ : ∃ tail, c = '$' ∧ cs ++ s = '\x7b' :: tail := by
      generalize htext : c :: (cs ++ s) = t at hopens
      cases hopens <;> exact ⟨_, (List.cons.inj htext).1, (List.cons.inj htext).2⟩
    -- the opening would begin with the last character of the stretch, or lie inside it
    cases cs with
    | nil =>
      rw [List.nil_append] at htail
      exact hs (htail ▸ rfl)
    | cons d cs =>
      have hd : d = '\x7b' := (List.cons.inj htail).1
      exact hcs.1 ⟨cs, by rw [hc, hd]; rfl⟩

/-- Behind a stretch stands the end or a dollar sign, and so nothing that would complete an opening
begun in the stretch. -/
theorem cutAt_refs {refs : List (List Char × List Char)} {unclosed : Option (List Char)}
    (h : Layout.Proper ⟨[], refs, unclosed⟩) :
    CutAt Opens (Layout.text ⟨[], refs, unclosed⟩) (Layout.parts ⟨[], refs, unclosed⟩) ∧
      (Layout.text ⟨[], refs, unclosed⟩).head? ≠ some '\x7b' := by
  induction refs with
  | nil =>
    cases unclosed with
    | none => exact ⟨.nil, by simp [Layout.text]⟩
    | some rest =>
      exact ⟨.found (.unterminated (h.unclosed rest rfl)) .nil, by simp [Layout.text, opening]⟩
  | cons ref refs ih =>
    obtain ⟨hname, hnames⟩ := List.forall_mem_cons.mp h.names
    obtain ⟨hstretch, hstretches⟩ := List.forall_mem_cons.mp h.stretches
    obtain ⟨hcut, hhead⟩ := ih ⟨h.first, hnames, hstretches, h.unclosed⟩
    have hfound := CutAt.found (.closed hname) (cutAt_chars hstretch hhead hcut)
    refine ⟨?_, by simp [Layout.text, opening]⟩
    simpa [Layout.text, Layout.parts, opening] using hfound

/-- The text of a proper layout is cut into its parts. -/
theorem cutAt_parts {l : Layout} (h : l.Proper) : CutAt Opens l.text l.parts := by
  have hempty : ¬ opening <:+: [] := by decide
  obtain ⟨hcut, hhead⟩ := cutAt_refs ⟨hempty, h.names, h.stretches, h.unclosed⟩
  exact cutAt_chars h.first hhead hcut

/-- The parts of a text are those of any proper layout that it has. -/
theorem pieces_text {l : Layout} (h : l.Proper) : pieces l.text = l.parts :=
  (finds_reference.cutAt_iff.mp (cutAt_parts h)).symm

/-- **Every text has one layout**, the one that its parts have. -/
theorem isLayout_iff {s : List Char} {l : Layout} :
    l.Proper ∧ l.text = s ↔ l = Layout.ofParts (pieces s) := by
  constructor
  · rintro ⟨hproper, rfl⟩
    rw [pieces_text hproper, Layout.ofParts_parts]
  · rintro rfl
    exact proper_ofParts (finds_reference.cutAt_cut s)

/-- The pieces of a text are the parts of its layout. -/
theorem parts_layout (s : List Char) : (Layout.ofParts (pieces s)).parts = pieces s := by
  obtain ⟨hproper, htext⟩ := isLayout_iff.mpr (rfl : Layout.ofParts (pieces s) = _)
  rw [← pieces_text hproper, htext]

/-! ## What a reference stands for -/

section

variable (value : String → Option String)

/-- A reference in braces stands for the value of the variable that it names. -/
inductive StandsFor : Reference → String → Prop where
  | closed {name : List Char} {v : String} : name ≠ [] → value (String.ofList name) = some v →
      StandsFor (.closed name) v

/-- What is wrong with a reference that stands for nothing. -/
inductive AtFault : Reference → Fault → Prop where
  | unterminated {rest : List Char} : AtFault (.unterminated rest) (.unterminated rest)
  | emptyName : AtFault (.closed []) .emptyName
  | missing {name : List Char} : name ≠ [] → value (String.ofList name) = none →
      AtFault (.closed name) (.missing name)

/-- What is wrong with the first of some references that stands for nothing. -/
inductive FirstFault : List Reference → Fault → Prop where
  | here {r : Reference} {rest : List Reference} {fault : Fault} :
      AtFault value r fault → FirstFault (r :: rest) fault
  | later {r : Reference} {rest : List Reference} {v : String} {fault : Fault} :
      StandsFor value r v → FirstFault rest fault → FirstFault (r :: rest) fault

/-- A reference stands for something unless it is at fault. -/
theorem standsFor_or_atFault (r : Reference) :
    (∃ v, StandsFor value r v) ∨ ∃ fault, AtFault value r fault := by
  cases r with
  | unterminated rest => exact Or.inr ⟨_, .unterminated⟩
  | closed name =>
    by_cases hname : name = []
    · subst hname
      exact Or.inr ⟨_, .emptyName⟩
    · cases hvalue : value (String.ofList name) with
      | none => exact Or.inr ⟨_, .missing hname hvalue⟩
      | some v => exact Or.inl ⟨v, .closed hname hvalue⟩

theorem stand_or_firstFault (refs : List Reference) :
    (∀ r ∈ refs, ∃ v, StandsFor value r v) ∨ ∃ fault, FirstFault value refs fault := by
  induction refs with
  | nil => exact Or.inl fun _ h => absurd h List.not_mem_nil
  | cons r refs ih =>
    rcases standsFor_or_atFault value r with ⟨v, hv⟩ | ⟨fault, hfault⟩
    · rcases ih with hall | ⟨fault, hfault⟩
      · exact Or.inl (List.forall_mem_cons.mpr ⟨⟨v, hv⟩, hall⟩)
      · exact Or.inr ⟨fault, .later hv hfault⟩
    · exact Or.inr ⟨fault, .here hfault⟩

end

/-! ## Expanding -/

/-- The references among characters and references. -/
def referencesOf (parts : List (Char ⊕ Reference)) : List Reference :=
  parts.filterMap Sum.getRight?

/-- The references of a layout are those among its parts. -/
theorem referencesOf_parts (l : Layout) : referencesOf l.parts = l.references := by
  obtain ⟨first, refs, unclosed⟩ := l
  have hchars : ∀ cs : List Char, referencesOf (cs.map .inl) = [] := by
    intro cs
    induction cs with
    | nil => rfl
    | cons c cs ih => exact ih
  have hrefs : referencesOf (refs.flatMap fun ref => .inr (.closed ref.1) :: ref.2.map .inl) =
      refs.map (.closed ·.1) := by
    induction refs with
    | nil => rfl
    | cons ref refs ih =>
      have hstretch := hchars ref.2
      unfold referencesOf at hstretch ih ⊢
      simp [hstretch, ih]
  have hfirst := hchars first
  unfold referencesOf at hfirst hrefs ⊢
  rw [Layout.parts, List.filterMap_append, List.filterMap_append, hfirst, hrefs]
  cases unclosed <;> rfl

/-- The text of parts with the values of variables in place of the references to them. -/
def filledParts (value : String → Option String) (parts : List (Char ⊕ Reference)) : List Char :=
  parts.flatMap fun
    | .inl c => [c]
    | .inr (.closed name) => ((value (String.ofList name)).getD "").toList
    | .inr (.unterminated _) => []

theorem filledParts_chars (value : String → Option String) (cs : List Char) :
    filledParts value (cs.map .inl) = cs := by
  induction cs with
  | nil => rfl
  | cons c cs ih => exact congrArg (c :: ·) ih

theorem filledParts_append (value : String → Option String) (xs ys : List (Char ⊕ Reference)) :
    filledParts value (xs ++ ys) = filledParts value xs ++ filledParts value ys :=
  List.flatMap_append

/-- Filling the parts of a layout is filling the layout. -/
theorem filledParts_parts (value : String → Option String) (l : Layout) :
    filledParts value l.parts = l.filled value := by
  obtain ⟨first, refs, unclosed⟩ := l
  have hrefs : filledParts value (refs.flatMap fun ref => .inr (.closed ref.1) :: ref.2.map .inl) =
      refs.flatMap fun ref => ((value (String.ofList ref.1)).getD "").toList ++ ref.2 := by
    induction refs with
    | nil => rfl
    | cons ref refs ih =>
      rw [List.flatMap_cons, List.flatMap_cons, filledParts_append, ih]
      refine congrArg (· ++ _) ?_
      exact congrArg (_ ++ ·) (filledParts_chars value ref.2)
  rw [Layout.parts, filledParts_append, filledParts_append, filledParts_chars, hrefs]
  cases unclosed <;> simp [filledParts, Layout.filled]

variable (w : World) (reason : String)

/-- The value of a variable in the environment of a world. -/
def valueIn (name : String) : Option String := w.environment.lookup name

theorem run_environmentVariable (name : String) :
    ((World.host reason).environmentVariable name).run w = (valueIn w name, w) := rfl

variable {w}

/-- A name is looked up in the environment, which does not change. -/
theorem run_value_closed {name : List Char} (hname : name ≠ []) :
    ((Reference.closed name).value (World.host reason).environmentVariable).run.run w =
      ((valueIn w (String.ofList name)).elim (.error (.missing name)) (.ok ·.toList), w) := by
  rw [Reference.value, run_bind_of_ok (run_lift_of_run (run_environmentVariable w reason _))]
  · cases valueIn w (String.ofList name) <;> rfl
  · exact hname

/-- A reference that stands for a value has that value. -/
theorem run_value_of_standsFor {r : Reference} {v : String} (h : StandsFor (valueIn w) r v) :
    (r.value (World.host reason).environmentVariable).run.run w = (.ok v.toList, w) := by
  cases h with
  | closed hname hvalue => rw [run_value_closed reason hname, hvalue]; rfl

theorem run_value_of_atFault {r : Reference} {fault : Fault} (h : AtFault (valueIn w) r fault) :
    (r.value (World.host reason).environmentVariable).run.run w = (.error fault, w) := by
  cases h with
  | unterminated => rfl
  | emptyName => rfl
  | missing hname hvalue => rw [run_value_closed reason hname, hvalue]; rfl

/-- Where all references stand for something, the parts are filled. -/
theorem run_expandPieces_of_standsFor {parts : List (Char ⊕ Reference)}
    (h : ∀ r ∈ referencesOf parts, ∃ v, StandsFor (valueIn w) r v) :
    (expandPieces (World.host reason).environmentVariable parts).run.run w =
      (.ok (filledParts (valueIn w) parts), w) := by
  induction parts with
  | nil => rfl
  | cons part parts ih =>
    cases part with
    | inl c => rw [expandPieces, run_bind_of_ok (ih h)]; rfl
    | inr r =>
      obtain ⟨⟨v, hv⟩, hrest⟩ := List.forall_mem_cons.mp h
      rw [expandPieces, run_bind_of_ok (run_value_of_standsFor reason hv),
        run_bind_of_ok (ih hrest)]
      cases hv with
      | closed _ hvalue => simp [filledParts, hvalue]; rfl

/-- Else the first reference at fault ends the expansion. -/
theorem run_expandPieces_of_firstFault {parts : List (Char ⊕ Reference)} {fault : Fault}
    (h : FirstFault (valueIn w) (referencesOf parts) fault) :
    (expandPieces (World.host reason).environmentVariable parts).run.run w =
      (.error fault, w) := by
  induction parts with
  | nil => cases h
  | cons part parts ih =>
    cases part with
    | inl c => rw [expandPieces, run_bind_of_error (ih h)]
    | inr r =>
      rw [expandPieces]
      cases h with
      | here hfault => rw [run_bind_of_error (run_value_of_atFault reason hfault)]
      -- the reference is looked up, and the fault is behind it
      | later hv hrest =>
        rw [run_bind_of_ok (run_value_of_standsFor reason hv), run_bind_of_error (ih hrest)]

/-- The references of a layout all stand for something if the last opening is closed, and each name
is that of a variable with a value. -/
theorem stand_iff {value : String → Option String} {l : Layout} :
    (∀ r ∈ l.references, ∃ v, StandsFor value r v) ↔
      l.unclosed = none ∧
        ∀ ref ∈ l.refs, ref.1 ≠ [] ∧ ∃ v, value (String.ofList ref.1) = some v := by
  obtain ⟨first, refs, unclosed⟩ := l
  have hclosed : ∀ name, (∃ v, StandsFor value (.closed name) v) ↔
      name ≠ [] ∧ ∃ v, value (String.ofList name) = some v := by
    intro name
    constructor
    · rintro ⟨v, hname, hvalue⟩
      exact ⟨hname, v, hvalue⟩
    · rintro ⟨hname, v, hvalue⟩
      exact ⟨v, .closed hname hvalue⟩
  have hunclosed : (∀ r ∈ (unclosed.map Reference.unterminated).toList,
      ∃ v, StandsFor value r v) ↔ unclosed = none := by
    cases unclosed with
    | none => simp
    | some rest =>
      refine iff_of_false (fun h => ?_) (by simp)
      obtain ⟨v, hv⟩ := h (.unterminated rest) (by simp)
      cases hv
  unfold Layout.references
  rw [List.forall_mem_append, hunclosed, List.forall_mem_map, and_comm]
  simp only [hclosed]

/-- **Expanding is a single exact pass.** Every text has one layout. Expanding it, in any
environment, succeeds exactly if the last opening is closed and every name is not empty and that
of a variable that is set; then the result is the layout with the values in place of the names. Else
the fault is that of the leftmost reference that is empty, missing or not closed. -/
theorem expands_in_one_pass (w : World) (reason text : String) :
    ∃ l : Layout, (∀ l' : Layout, l'.Proper ∧ l'.text = text.toList ↔ l' = l) ∧
      ∃ outcome, (expand (World.host reason).environmentVariable text).run.run w = (outcome, w) ∧
        ((∃ t, outcome = .ok t) ↔ l.unclosed = none ∧
          ∀ ref ∈ l.refs, ref.1 ≠ [] ∧ ∃ v, valueIn w (String.ofList ref.1) = some v) ∧
        (∀ t, outcome = .ok t → t = String.ofList (l.filled (valueIn w))) ∧
        ∀ fault, outcome = .error fault ↔ FirstFault (valueIn w) l.references fault := by
  refine ⟨Layout.ofParts (pieces text.toList), fun _ => isLayout_iff, ?_⟩
  have hparts := parts_layout text.toList
  generalize Layout.ofParts (pieces text.toList) = l at hparts
  rw [← stand_iff, expand, ← hparts]
  rcases stand_or_firstFault (valueIn w) l.references with hall | ⟨fault, hfault⟩
  · have hrun := run_expandPieces_of_standsFor reason (referencesOf_parts l ▸ hall)
    rw [run_bind_of_ok hrun, filledParts_parts]
    refine ⟨_, rfl, iff_of_true ⟨_, rfl⟩ hall, ?_, fun fault => ⟨nofun, fun hfault => ?_⟩⟩
    · rintro _ ⟨⟩
      rfl
    · have herror := run_expandPieces_of_firstFault reason (referencesOf_parts l ▸ hfault)
      cases hrun.symm.trans herror
  · have hrun := run_expandPieces_of_firstFault reason (referencesOf_parts l ▸ hfault)
    rw [run_bind_of_error hrun]
    refine ⟨_, rfl, iff_of_false nofun fun hall => ?_, nofun, fun fault' => ⟨?_, fun hfault' => ?_⟩⟩
    · have hok := run_expandPieces_of_standsFor reason (referencesOf_parts l ▸ hall)
      cases hrun.symm.trans hok
    · rintro ⟨⟩
      exact hfault
    · have hrun' := run_expandPieces_of_firstFault reason (referencesOf_parts l ▸ hfault')
      cases hrun.symm.trans hrun'
      rfl

/-- A dollar sign in front of a reference is a character, and so is one in a value. -/
example :
    let w : World := ⟨.empty, [], [("A", "$\x7bB\x7d"), ("B", "b")], .empty, ""⟩
    ((expand (World.host "").environmentVariable "$$\x7bA\x7d/$\x7bB\x7d").run.run w).1 =
      .ok "$$\x7bB\x7d/b" := by
  rfl

end SqlTemplate.Expansion
