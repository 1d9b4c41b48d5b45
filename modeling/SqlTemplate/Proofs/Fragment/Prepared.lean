import SqlTemplate.Proofs.Fragment.Built
import Mathlib.Data.List.Chain
import Mathlib.Data.List.Forall2

/-!
# Markers apart from their parameters

A database takes a statement as text with bare markers, and the parameters beside it. `Prepared`
is a fragment in that form. Its operations work at the end: text is added to a last stretch of
text, and parameters are added to their list. Nothing in the type keeps markers and parameters in
step; where texts are replaced, each marker takes the next parameter, or a `fallback` if there is
none left.

A fragment is set out in this form by `Fragment.prepared` and read back by `Prepared.fragment`. On
canonical fragments the operations are the same in both forms (`prepared_append`, `prepared_join`,
`prepared_mapTexts`, `repaired_prepared`), and so is the text that is written out, for which the
parameters are not looked at (`text_prepared`). So what the operations build in this form are the
built fragments, set out (`Prepared.built_iff`), and each fact about canonical fragments is one
about them:

> `built_in_canonical_form`: no text is empty, no two texts touch, there is a parameter for each
> marker, and what is equal is what reads the same.
> `repaired_of_built`: repairing in this form is repairing the text.
-/

namespace SqlTemplate

/-- A stretch of text, or a marker for the next parameter. -/
inductive Part where
  | text (chars : List Char)
  | marker
deriving DecidableEq

/-- Statement text with bare markers in it, and the parameters beside it. -/
structure Prepared where
  parts : List Part
  params : List Value

namespace Prepared

/-! ## Operations -/

/-- Nothing at all. -/
def empty : Prepared := ⟨[], []⟩

/-- Parts with one more behind them. Empty text adds nothing, and text behind text joins it. -/
def snocPart (parts : List Part) : Part → List Part
  | .marker => parts ++ [.marker]
  | .text [] => parts
  | .text s =>
    match parts.getLast? with
    | some (.text t) => parts.dropLast ++ [.text (t ++ s)]
    | _ => parts ++ [.text s]

/-- Text only. -/
def ofText (s : List Char) : Prepared := ⟨if s = [] then [] else [.text s], []⟩

/-- Text at the end. -/
def addText (a : Prepared) (s : List Char) : Prepared :=
  { a with parts := snocPart a.parts (.text s) }

/-- A bound parameter at the end. -/
def addParam (a : Prepared) (v : Value) : Prepared :=
  ⟨snocPart a.parts .marker, a.params ++ [v]⟩

/-- One after another, part by part. -/
def append (a b : Prepared) : Prepared := ⟨b.parts.foldl snocPart a.parts, a.params ++ b.params⟩

instance : Append Prepared := ⟨append⟩

/-- One after another with a text between each two. -/
def join (separator : List Char) : List Prepared → Prepared
  | [] => empty
  | a :: rest => rest.foldl (fun out b => out.addText separator ++ b) (empty ++ a)

section

variable {m : Type → Type} [Monad m]

/-- Adds to `out` what parts turn into, from left to right: what `f` gives for a stretch of text,
told whether it is the last part, and for a marker the next of the parameters. -/
def mapParts (fallback : Value) (f : (last : Bool) → List Char → m Prepared) :
    List Part → (params : List Value) → (out : Prepared) → m Prepared
  | [], _, out => pure out
  | .text s :: rest, params, out => do
    let a ← f rest.isEmpty s
    mapParts fallback f rest params (out ++ a)
  | .marker :: rest, params, out =>
    mapParts fallback f rest params.tail (out.addParam (params.headD fallback))

/-- Every stretch of text replaced, and markers as they are. -/
def mapTexts (fallback : Value) (f : (last : Bool) → List Char → m Prepared) (a : Prepared) :
    m Prepared := mapParts fallback f a.parts a.params empty

end

/-- With its clauses repaired, stretch by stretch. -/
def repaired (a : Prepared) : Prepared :=
  Id.run (a.mapTexts .null fun last s => pure (ofText (Clause.repair last s)))

/-- Writes parts out, numbering their markers from `number` on. -/
def partsText (style : MarkerStyle) : (number : Nat) → List Part → List Char
  | _, [] => []
  | number, .text s :: rest => s ++ partsText style number rest
  | number, .marker :: rest => Fragment.marker style number ++ partsText style (number + 1) rest

/-- The SQL text, with the markers spelled in a style. The parameters have no part in it. -/
def text (style : MarkerStyle) (a : Prepared) : List Char := partsText style 1 a.parts

/-- The SQL text, with the markers spelled in a style. -/
def sql (style : MarkerStyle) (a : Prepared) : String := String.ofList (a.text style)

/-- Equality as data. -/
def same (a b : Prepared) : Bool := a.parts == b.parts && Value.sameItems a.params b.params

/-- What the operations build. What a replacement of texts does may depend on what it did before,
and it may fail; it is to give what the operations build. -/
inductive Built : Prepared → Prop where
  | empty : Built empty
  | ofText (s : List Char) : Built (ofText s)
  | addText {a : Prepared} (s : List Char) : Built a → Built (a.addText s)
  | addParam {a : Prepared} (v : Value) : Built a → Built (a.addParam v)
  | append {a b : Prepared} : Built a → Built b → Built (a ++ b)
  | join (separator : List Char) {as : List Prepared} :
      (∀ a ∈ as, Built a) → Built (join separator as)
  | mapTexts {σ ε : Type} {a b : Prepared} {s s' : σ} (fallback : Value)
      (replace : Bool → List Char → StateT σ (Except ε) Prepared) :
      Built a → (∀ last chars s b s', (replace last chars).run s = .ok (b, s') → Built b) →
      (a.mapTexts fallback replace).run s = .ok (b, s') → Built b

/-! ## Reading back -/

/-- Parts with the parameters in their markers; a marker without one is left out. -/
def toPieces : List Part → (params : List Value) → List Piece
  | [], _ => []
  | .text s :: rest, params => .text s :: toPieces rest params
  | .marker :: rest, v :: params => .param v :: toPieces rest params
  | .marker :: rest, [] => toPieces rest []

/-- The fragment with the parameters in their markers. -/
def fragment (a : Prepared) : Fragment := ⟨toPieces a.parts a.params⟩

/-- The sequence of characters and parameters. -/
def symbols (a : Prepared) : List (Char ⊕ Value) := a.fragment.symbols

/-! ## Parts at the end -/

/-- What comes behind a marker does not join it. -/
theorem snocPart_marker_cons (parts : List Part) (p : Part) :
    snocPart (.marker :: parts) p = .marker :: snocPart parts p := by
  cases p with
  | marker => rfl
  | text s =>
    cases s with
    | nil => rfl
    | cons c s =>
      cases parts with
      | nil => rfl
      | cons q parts =>
        simp only [snocPart, List.getLast?_cons_cons, List.dropLast_cons_cons]
        split <;> rfl

theorem snocPart_cons_cons (p q : Part) (parts : List Part) (r : Part) :
    snocPart (p :: q :: parts) r = p :: snocPart (q :: parts) r := by
  cases r with
  | marker => rfl
  | text s =>
    cases s with
    | nil => rfl
    | cons c s =>
      simp only [snocPart, List.getLast?_cons_cons, List.dropLast_cons_cons]
      split <;> rfl

end Prepared

/-- A piece without the parameter in its marker. -/
def Piece.part : Piece → Part
  | .text s => .text s
  | .param _ => .marker

namespace Fragment

/-- A fragment with its parameters beside it. -/
def prepared (f : Fragment) : Prepared := ⟨f.pieces.map Piece.part, f.params⟩

/-- What is set out is read back. -/
@[simp] theorem fragment_prepared (f : Fragment) : f.prepared.fragment = f := by
  obtain ⟨ps⟩ := f
  show Fragment.mk (Prepared.toPieces (ps.map Piece.part) (Fragment.mk ps).params) = ⟨ps⟩
  congr 1
  induction ps with
  | nil => rfl
  | cons p ps ih =>
    cases p with
    | text s => exact congrArg (.text s :: ·) ih
    | param v => exact congrArg (.param v :: ·) ih

/-- For the text, a marker is a marker, with or without its parameter in it. -/
theorem partsText_map_part (style : MarkerStyle) (number : Nat) (ps : List Piece) :
    Prepared.partsText style number (ps.map Piece.part) = piecesText style number ps := by
  induction ps generalizing number with
  | nil => rfl
  | cons p ps ih =>
    cases p with
    | text s => exact congrArg (s ++ ·) (ih number)
    | param v => exact congrArg (marker style number ++ ·) (ih (number + 1))

/-- Both forms are written out the same, whatever the parameters are. -/
theorem text_prepared (f : Fragment) (style : MarkerStyle) : f.prepared.text style = f.text style :=
  partsText_map_part style 1 f.pieces

theorem sql_prepared (f : Fragment) (style : MarkerStyle) : f.prepared.sql style = f.sql style :=
  congrArg String.ofList (f.text_prepared style)

/-- Adding at the end of canonical pieces needs a look at the last of them only. -/
theorem part_foldr_consPiece {ps : List Piece} (h : CanonicalPieces ps) (p : Piece) :
    (ps.foldr consPiece (consPiece p [])).map Piece.part =
      Prepared.snocPart (ps.map Piece.part) p.part := by
  induction h with
  | nil =>
    cases p with
    | param v => rfl
    | text s => cases s <;> rfl
  | param v _ ih =>
    rw [List.map_cons]
    exact (congrArg (.marker :: ·) ih).trans (Prepared.snocPart_marker_cons _ _).symm
  | @text s hs =>
    obtain ⟨c, s, rfl⟩ := List.exists_cons_of_ne_nil hs
    cases p with
    | param v => rfl
    | text t => cases t <;> rfl
  | @textParam s v rest hs _ ih =>
    obtain ⟨c, s, rfl⟩ := List.exists_cons_of_ne_nil hs
    rw [List.map_cons, List.map_cons, Piece.part, Piece.part, Prepared.snocPart_cons_cons,
      Prepared.snocPart_marker_cons, ← ih]
    rfl

/-! ## The operations in both forms -/

theorem ofPieces_append (p : Piece) (ps : List Piece) :
    ofPieces [p] ++ ofPieces ps = ofPieces (p :: ps) :=
  congrArg Fragment.mk (foldr_consPiece_consPiece p [] (ps.foldr consPiece []))

theorem prepared_append_piece {f : Fragment} (hf : f.Canonical) (p : Piece) :
    (f ++ ofPieces [p]).prepared.parts = Prepared.snocPart f.prepared.parts p.part :=
  part_foldr_consPiece hf p

/-- Adding text is appending it. -/
theorem prepared_addText {f : Fragment} (hf : f.Canonical) (s : List Char) :
    f.prepared.addText s = (f ++ ofText s).prepared := by
  have hparams : f.params = (f ++ ofText s).params := by simp
  exact congrArg₂ Prepared.mk (prepared_append_piece hf (.text s)).symm hparams

/-- Adding a parameter is appending it. -/
theorem prepared_addParam {f : Fragment} (hf : f.Canonical) (v : Value) :
    f.prepared.addParam v = (f ++ ofParam v).prepared := by
  have hparams : f.params ++ [v] = (f ++ ofParam v).params := (params_append f (ofParam v)).symm
  exact congrArg₂ Prepared.mk (prepared_append_piece hf (.param v)).symm hparams

theorem foldl_snocPart (ps : List Piece) {f : Fragment} (hf : f.Canonical) :
    (ps.map Piece.part).foldl Prepared.snocPart f.prepared.parts =
      (f ++ ofPieces ps).prepared.parts := by
  induction ps generalizing f with
  | nil =>
    have hnil : f ++ ofPieces [] = f := hf.append_empty
    rw [hnil]
    rfl
  | cons p ps ih =>
    rw [List.map_cons, List.foldl_cons, ← prepared_append_piece hf,
      ih (Canonical.append f (canonical_ofPieces [p])), append_assoc, ofPieces_append]

/-- Part by part, whatever is appended becomes canonical. -/
theorem prepared_append_any {f : Fragment} (hf : f.Canonical) (g : Fragment) :
    f.prepared ++ g.prepared = (f ++ ofPieces g.pieces).prepared := by
  have hparams : f.params ++ g.params = (f ++ ofPieces g.pieces).params := by
    rw [params_append, params_eq_symbols (ofPieces _), symbols_ofPieces, params_eq_symbols g]
    rfl
  exact congrArg₂ Prepared.mk (foldl_snocPart g.pieces hf) hparams

/-- Appending is the same in both forms. -/
theorem prepared_append {f g : Fragment} (hf : f.Canonical) (hg : g.Canonical) :
    f.prepared ++ g.prepared = (f ++ g).prepared := by
  rw [prepared_append_any hf, hg.ofPieces_pieces]

theorem prepared_ofText (s : List Char) : (ofText s).prepared = Prepared.ofText s := by
  cases s <;> rfl

section

variable (separator : List Char)

theorem foldl_append (fs : List Fragment) (f g : Fragment) :
    fs.foldl (fun out h => out ++ ofText separator ++ h) (f ++ g) =
      f ++ fs.foldl (fun out h => out ++ ofText separator ++ h) g := by
  induction fs generalizing g with
  | nil => rfl
  | cons h fs ih =>
    rw [List.foldl_cons, List.foldl_cons, append_assoc, append_assoc, ih, ← append_assoc g]

/-- Joining from the left. -/
theorem join_cons (f : Fragment) (fs : List Fragment) :
    join separator (f :: fs) = fs.foldl (fun out g => out ++ ofText separator ++ g) f := by
  induction fs generalizing f with
  | nil => rfl
  | cons g fs ih =>
    rw [List.foldl_cons, foldl_append, ← ih]
    rfl

/-- Step by step, a join from the left is the same in both forms. -/
theorem prepared_foldl {fs : List Fragment} (hfs : ∀ f ∈ fs, f.Canonical) {f : Fragment}
    (hf : f.Canonical) :
    (fs.map prepared).foldl (fun out b => out.addText separator ++ b) f.prepared =
      (fs.foldl (fun out g => out ++ ofText separator ++ g) f).prepared := by
  induction fs generalizing f with
  | nil => rfl
  | cons g fs ih =>
    have hg : g.Canonical := hfs g (List.mem_cons_self ..)
    rw [List.map_cons, List.foldl_cons, List.foldl_cons, prepared_addText hf,
      prepared_append (Canonical.append f (canonical_ofText separator)) hg]
    exact ih (fun k hk => hfs k (List.mem_cons_of_mem _ hk)) (Canonical.append _ hg)

/-- Joining is the same in both forms. -/
theorem prepared_join {fs : List Fragment} (h : ∀ f ∈ fs, f.Canonical) :
    Prepared.join separator (fs.map prepared) = (join separator fs).prepared := by
  cases fs with
  | nil => rfl
  | cons f fs =>
    have hf : f.Canonical := h f (List.mem_cons_self ..)
    have hstart : Prepared.empty ++ f.prepared = f.prepared :=
      prepared_append canonical_empty hf
    rw [join_cons, List.map_cons, Prepared.join, hstart]
    exact prepared_foldl separator (fun k hk => h k (List.mem_cons_of_mem _ hk)) hf

end

/-- A fragment need not be canonical to be put in front of others: only its symbols count. -/
theorem ofPieces_append_concat (g : Fragment) (gs : List Fragment) :
    ofPieces g.pieces ++ concat gs = concat (g :: gs) := by
  refine (Canonical.append _ (canonical_concat gs)).eq_of_symbols (canonical_concat (g :: gs)) ?_
  rw [symbols_append, symbols_ofPieces, symbols_concat, symbols_concat, List.flatMap_cons]
  rfl

section

variable {m : Type → Type} [Monad m] [LawfulMonad m] (fallback : Value)
  (replace : Bool → List Char → m Fragment)

/-- Replacing texts from the left, behind what has been put out, is replacing them piece by piece
and putting the results together. -/
theorem prepared_mapParts (ps : List Piece) {h : Fragment} (hh : h.Canonical) :
    Prepared.mapParts fallback (fun last s => prepared <$> replace last s)
        (ps.map Piece.part) (Fragment.mk ps).params h.prepared =
      (fun gs => (h ++ concat gs).prepared) <$> mapPieces replace ps := by
  induction ps generalizing h with
  | nil =>
    have hend : h ++ concat [] = h := hh.append_empty
    simp only [mapPieces, map_pure, hend]
    rfl
  | cons p ps ih =>
    cases p with
    -- a marker takes the next parameter, which is its own
    | param v =>
      have hnext := ih (Canonical.append h (canonical_ofParam v))
      simp only [append_assoc] at hnext
      simp only [mapPieces, ← map_eq_pure_bind, Functor.map_map]
      refine Eq.trans ?_ hnext
      exact congrArg _ (prepared_addParam hh v)
    -- what a text turns into need not be canonical, but what has been put out is
    | text s =>
      simp only [mapPieces, List.map_cons, Piece.part, Prepared.mapParts, map_bind,
        List.isEmpty_map, bind_map_left, ← map_eq_pure_bind, Functor.map_map]
      refine bind_congr fun g => ?_
      have hnext := ih (Canonical.append h (canonical_ofPieces g.pieces))
      rw [← prepared_append_any hh] at hnext
      refine hnext.trans (congrArg (· <$> mapPieces replace ps) (funext fun gs => ?_))
      rw [append_assoc, ofPieces_append_concat]

/-- Replacing texts is the same in both forms, and no marker goes without its parameter. -/
theorem prepared_mapTexts (f : Fragment) :
    f.prepared.mapTexts fallback (fun last s => prepared <$> replace last s) =
      prepared <$> f.mapTexts replace := by
  obtain ⟨ps⟩ := f
  refine (prepared_mapParts fallback replace ps canonical_empty).trans ?_
  simp only [mapTexts, ← map_eq_pure_bind, Functor.map_map]
  rfl

end

/-- Repair is the same in both forms. -/
theorem repaired_prepared (f : Fragment) : f.prepared.repaired = f.repaired.prepared := by
  have htexts := prepared_mapTexts (m := Id) .null
    (fun last s => pure (ofText (Clause.repair last s))) f
  simp only [map_pure, prepared_ofText] at htexts
  rw [repaired_eq_mapTexts]
  exact htexts

end Fragment

namespace Prepared

open Fragment

/-! ## What the operations build -/

theorem run_map_eq_ok {σ ε α β : Type} {x : StateT σ (Except ε) α} {f : α → β} {s s' : σ} {b : β} :
    (f <$> x).run s = .ok (b, s') ↔ ∃ a, x.run s = .ok (a, s') ∧ f a = b := by
  rw [StateT.run_map]
  constructor
  · intro h
    cases hx : x.run s with
    | error err => rw [hx] at h; cases h
    | ok out => rw [hx] at h; cases h; exact ⟨out.1, rfl, rfl⟩
  · rintro ⟨a, hx, rfl⟩
    rw [hx]
    rfl

/-- Whether this is a built fragment, set out. -/
structure SetOut (a : Prepared) : Prop where
  built : a.fragment.Built
  prepared_eq : a.fragment.prepared = a

/-- A built fragment that is set out is one. -/
theorem setOut_prepared {f : Fragment} (h : f.Built) : f.prepared.SetOut where
  built := by rwa [fragment_prepared]
  prepared_eq := congrArg prepared (fragment_prepared f)

/-- A replacement that sets fragments out comes from one that gives fragments. -/
theorem replace_eq {σ ε : Type} {replace : Bool → List Char → StateT σ (Except ε) Prepared}
    (h : ∀ last chars s b s', (replace last chars).run s = .ok (b, s') → b.SetOut) :
    replace = fun last chars => prepared <$> (fragment <$> replace last chars) := by
  funext last chars
  -- run by run, whatever it answers is set out
  refine StateT.ext fun s => ?_
  rw [StateT.run_map, StateT.run_map]
  cases hout : (replace last chars).run s with
  | error err => rfl
  | ok out =>
    have hsame : out.1.fragment.prepared = out.1 := (h last chars s out.1 out.2 hout).prepared_eq
    exact congrArg (fun b => Except.ok (b, out.2)) hsame.symm

/-- What the operations of this form build is a built fragment, set out: each operation is that of
fragments. -/
theorem Built.setOut {a : Prepared} (h : Built a) : a.SetOut := by
  induction h with
  | empty => exact setOut_prepared .empty
  | ofText s => exact prepared_ofText s ▸ setOut_prepared (.text s)
  | addText s _ ih =>
    rw [← ih.prepared_eq, prepared_addText ih.built.canonical]
    exact setOut_prepared (.append ih.built (.text s))
  | addParam v _ ih =>
    rw [← ih.prepared_eq, prepared_addParam ih.built.canonical]
    exact setOut_prepared (.append ih.built (.param v))
  | append _ _ iha ihb =>
    rw [← iha.prepared_eq, ← ihb.prepared_eq,
      prepared_append iha.built.canonical ihb.built.canonical]
    exact setOut_prepared (.append iha.built ihb.built)
  | @join separator as _ ih =>
    have hback : (as.map fragment).map prepared = as := by
      rw [List.map_map]
      exact (List.map_congr_left fun a ha => (ih a ha).prepared_eq).trans (List.map_id as)
    have hbuilt : ∀ f ∈ as.map fragment, f.Built := by
      intro f hf
      obtain ⟨a, ha, rfl⟩ := List.mem_map.mp hf
      exact (ih a ha).built
    rw [← hback, prepared_join separator fun f hf => (hbuilt f hf).canonical]
    exact setOut_prepared (.join separator hbuilt)
  | mapTexts fallback replace _ _ hrun iha ihreplace =>
    rw [replace_eq ihreplace, ← iha.prepared_eq, prepared_mapTexts] at hrun
    obtain ⟨g, hg, rfl⟩ := run_map_eq_ok.mp hrun
    refine setOut_prepared (.mapTexts _ iha.built (fun last chars s k s' hk => ?_) hg)
    obtain ⟨b, hb, rfl⟩ := run_map_eq_ok.mp hk
    exact (ihreplace last chars s b s' hb).built

/-- A built fragment, set out, is built by the operations of this form. -/
theorem built_prepared {f : Fragment} (h : f.Built) : f.prepared.Built := by
  induction h with
  | empty => exact .empty
  | text s => exact prepared_ofText s ▸ .ofText s
  | param v => exact .addParam v .empty
  | append hf hg ihf ihg => exact prepared_append hf.canonical hg.canonical ▸ .append ihf ihg
  | join separator hfs ih =>
    rw [← prepared_join separator fun f hf => (hfs f hf).canonical]
    refine .join separator fun a ha => ?_
    obtain ⟨f, hf, rfl⟩ := List.mem_map.mp ha
    exact ih f hf
  | @mapTexts σ ε f g s s' replace _ _ hrun ihf ihreplace =>
    have hsame :
        (f.prepared.mapTexts .null fun last chars => prepared <$> replace last chars).run s =
          .ok (g.prepared, s') := by
      rw [prepared_mapTexts]
      exact run_map_eq_ok.mpr ⟨g, hrun, rfl⟩
    refine .mapTexts .null _ ihf (fun last chars s b s' hb => ?_) hsame
    obtain ⟨k, hk, rfl⟩ := run_map_eq_ok.mp hb
    exact ihreplace last chars s k s' hk

/-- Both forms have the same built things. -/
theorem built_iff {a : Prepared} : Built a ↔ a.SetOut :=
  ⟨Built.setOut, fun h => h.prepared_eq ▸ built_prepared h.built⟩

/-- What is built is a canonical fragment, set out. -/
theorem exists_of_built {a : Prepared} (h : Built a) :
    ∃ f : Fragment, f.Canonical ∧ f.prepared = a :=
  ⟨a.fragment, h.setOut.built.canonical, h.setOut.prepared_eq⟩

/-! ## Canonical form -/

/-- Whether no text is empty, no two texts touch, and there is a parameter for each marker. -/
structure Canonical (a : Prepared) : Prop where
  text_ne_nil : ∀ s, .text s ∈ a.parts → s ≠ []
  apart : a.parts.IsChain fun p q => p = .marker ∨ q = .marker
  inStep : a.parts.count .marker = a.params.length

theorem text_ne_nil_of_canonical {ps : List Piece} (h : CanonicalPieces ps) :
    ∀ s, .text s ∈ ps.map Piece.part → s ≠ [] := by
  induction h with
  | nil => intro s hs; cases hs
  | param v _ ih =>
    intro s hs
    exact ih s (List.mem_of_ne_of_mem (by simp [Piece.part]) hs)
  | @text t ht =>
    intro s hs
    cases List.mem_singleton.mp hs
    exact ht
  | @textParam t v rest ht _ ih =>
    intro s hs
    rcases List.mem_cons.mp hs with heq | hs
    · cases heq
      exact ht
    · exact ih s (List.mem_of_ne_of_mem (by simp [Piece.part]) hs)

/-- Of two pieces side by side one is a marker. -/
theorem apart_of_canonical {ps : List Piece} (h : CanonicalPieces ps) :
    (ps.map Piece.part).IsChain fun p q => p = .marker ∨ q = .marker := by
  induction h with
  | nil => exact .nil
  | param v _ ih => exact .cons ih fun q hq => .inl rfl
  | text _ => exact .singleton _
  | textParam v _ _ ih =>
    refine .cons (.cons ih fun q hq => .inl rfl) fun q hq => .inr ?_
    exact (Option.some.inj hq).symm

/-- Canonical pieces, set out, are in canonical form. -/
theorem canonical_prepared {f : Fragment} (h : f.Canonical) : f.prepared.Canonical where
  text_ne_nil := text_ne_nil_of_canonical h
  apart := apart_of_canonical h
  inStep := by
    have hmarkers : f.prepared.parts.count .marker = f.markerCount := by
      rw [prepared, List.count_eq_countP, List.countP_map]
      refine List.countP_congr fun p _ => ?_
      cases p <;> simp [Piece.part, Piece.isParam]
    exact hmarkers.trans (markerCount_eq_length_params f)

/-- **Repair in this form is repair of the text**, and leaves the parameters and the number of
markers as they are. -/
theorem repaired_of_built {a : Prepared} (h : a.Built) :
    a.repaired.Built ∧ (∀ style, a.repaired.sql style = Clause.repairStatement (a.sql style)) ∧
    a.repaired.params = a.params ∧
    a.repaired.parts.count .marker = a.parts.count .marker := by
  obtain ⟨f, hf, rfl⟩ := exists_of_built h
  have hrepaired : f.repaired.Canonical := canonical_repaired f
  have hparams : f.repaired.prepared.params = f.prepared.params := params_repaired f
  rw [repaired_prepared]
  refine ⟨built_prepared (built_iff_canonical.mpr hrepaired), fun style => ?_, hparams, ?_⟩
  · rw [sql_prepared, sql_prepared, hf.sql_repaired]
  · rw [(canonical_prepared hrepaired).inStep, (canonical_prepared hf).inStep, hparams]

section

variable {m : Type → Type} [Monad m]

/-- With a parameter for each marker, nothing falls back. -/
theorem mapParts_fallback (fallback other : Value) (f : Bool → List Char → m Prepared)
    {parts : List Part} {params : List Value} (h : parts.count .marker ≤ params.length)
    (out : Prepared) :
    mapParts fallback f parts params out = mapParts other f parts params out := by
  induction parts generalizing params out with
  | nil => rfl
  | cons p parts ih =>
    cases p with
    | text s =>
      have hrest : parts.count .marker ≤ params.length := by simpa using h
      rw [mapParts, mapParts]
      exact congrArg _ (funext fun a => ih hrest (out ++ a))
    | marker =>
      rw [List.count_cons_self] at h
      cases params with
      | nil => cases h
      | cons v params => exact ih (Nat.le_of_succ_le_succ h) (out.addParam v)

end

/-! ## Equality as data -/

/-- Whether two symbols are equal as data. -/
def SameSymbol : Char ⊕ Value → Char ⊕ Value → Prop
  | .inl c, .inl d => c = d
  | .inr v, .inr w => v.same w = true
  | _, _ => False

theorem same_text (s t : List Char) : (Part.text s == .text t) = (s == t) := by
  rw [Bool.eq_iff_iff, beq_iff_eq, beq_iff_eq, Part.text.injEq]

/-- Texts and then parameters are compared, or pieces one by one. -/
theorem same_pieces (ps qs : List Piece) :
    (ps.map Piece.part == qs.map Piece.part &&
      Value.sameItems (Fragment.mk ps).params (Fragment.mk qs).params) = samePieces ps qs := by
  induction ps generalizing qs with
  | nil => cases qs <;> rfl
  | cons p ps ih =>
    cases qs with
    | nil => cases p <;> rfl
    | cons q qs =>
      cases p with
      | text s =>
        cases q with
        | text t =>
          rw [samePieces, ← ih qs, ← same_text, ← Bool.and_assoc]
          rfl
        | param w => rfl
      | param v =>
        cases q with
        | text t => rfl
        | param w =>
          rw [samePieces, ← ih qs, Bool.and_left_comm]
          rfl

/-- Equality as data is the same in both forms. -/
theorem same_prepared (f g : Fragment) : f.prepared.same g.prepared = f.same g :=
  same_pieces f.pieces g.pieces

/-- Pieces that are equal as data have symbols that are. -/
theorem sameSymbols_of_same {ps qs : List Piece} (h : samePieces ps qs = true) :
    List.Forall₂ SameSymbol (ps.flatMap Piece.symbols) (qs.flatMap Piece.symbols) := by
  fun_induction samePieces ps qs with
  | case1 => exact .nil
  | case2 s xs t ys ih =>
    obtain ⟨htext, hrest⟩ := Bool.and_eq_true_iff.mp h
    cases eq_of_beq htext
    refine List.rel_append (List.forall₂_same.mpr fun x hx => ?_) (ih hrest)
    obtain ⟨c, -, rfl⟩ := List.mem_map.mp hx
    exact rfl
  | case3 v xs w ys ih =>
    obtain ⟨hvalue, hrest⟩ := Bool.and_eq_true_iff.mp h
    exact .cons hvalue (ih hrest)
  | case4 => cases h

theorem same_consPiece {x y : Char ⊕ Value} (hxy : SameSymbol x y) {ps qs : List Piece}
    (h : samePieces ps qs = true) :
    samePieces (consPiece (symbolPiece x) ps) (consPiece (symbolPiece y) qs) = true := by
  match x, y, hxy with
  | .inr v, .inr w, hvalue => exact Bool.and_eq_true_iff.mpr ⟨hvalue, h⟩
  | .inl c, .inl _, rfl =>
    revert h
    fun_cases samePieces ps qs with
    | case1 => simp [symbolPiece, consPiece, samePieces]
    | case2 s xs t ys => simp [symbolPiece, consPiece, samePieces]
    | case3 v xs w ys => simp [symbolPiece, consPiece, samePieces]
    | case4 => intro h; cases h

/-- Canonical fragments are equal as data if and only if their symbols are. -/
theorem same_iff_sameSymbols {f g : Fragment} (hf : f.Canonical) (hg : g.Canonical) :
    f.same g = true ↔ List.Forall₂ SameSymbol f.symbols g.symbols := by
  refine ⟨sameSymbols_of_same, fun h => ?_⟩
  rw [← hf.ofSymbols_symbols, ← hg.ofSymbols_symbols]
  generalize f.symbols = xs, g.symbols = ys at h
  show samePieces ((xs.map symbolPiece).foldr consPiece [])
    ((ys.map symbolPiece).foldr consPiece []) = true
  -- symbol by symbol from the end, as pieces are put together
  induction h with
  | nil => rfl
  | cons hxy _ ih => exact same_consPiece hxy ih

/-! ## Main result -/

/-- **What the operations build is in canonical form**, and is a built fragment, set out. So no
marker ever falls back, what is equal is what reads the same, and appending is that of a
monoid. -/
theorem built_in_canonical_form {a b c : Prepared} (ha : a.Built) (hb : b.Built) (hc : c.Built) :
    (a.Canonical ∧ a.fragment.Built ∧ a.fragment.prepared = a) ∧
    (∀ {m : Type → Type} [Monad m] (fallback : Value) (f : Bool → List Char → m Prepared),
      a.mapTexts fallback f = a.mapTexts .null f) ∧
    (a = b ↔ a.symbols = b.symbols) ∧
    (a.same b = true ↔ List.Forall₂ SameSymbol a.symbols b.symbols) ∧
    a ++ b ++ c = a ++ (b ++ c) ∧ empty ++ a = a ∧ a ++ empty = a := by
  have hcanonical {a : Prepared} (ha : a.Built) : a.Canonical :=
    ha.setOut.prepared_eq ▸ canonical_prepared ha.setOut.built.canonical
  refine ⟨⟨hcanonical ha, ha.setOut.built, ha.setOut.prepared_eq⟩,
    fun fallback f => mapParts_fallback fallback .null f (hcanonical ha).inStep.le empty, ?_⟩
  obtain ⟨f, hf, rfl⟩ := exists_of_built ha
  obtain ⟨g, hg, rfl⟩ := exists_of_built hb
  obtain ⟨h, hh, rfl⟩ := exists_of_built hc
  rw [same_prepared, symbols, symbols, fragment_prepared, fragment_prepared]
  refine ⟨⟨fun heq => ?_, fun heq => ?_⟩, same_iff_sameSymbols hf hg, ?_, ?_, ?_⟩
  · rw [← fragment_prepared f, heq, fragment_prepared]
  · rw [hf.eq_of_symbols hg heq]
  · rw [prepared_append hf hg, prepared_append hg hh, prepared_append (.append f hg) hh,
      prepared_append hf (.append g hh), append_assoc]
  · exact prepared_append canonical_empty hf
  · exact (prepared_append hf canonical_empty).trans (congrArg prepared hf.append_empty)

/-- The first text is replaced by nothing, and the last one by text, a marker and text, in pieces
that join. -/
theorem built_in_canonical_form_replaced :
    let a := ((ofText "id = ".toList).addParam (.bool true)).addText " AND x".toList
    let replace : Bool → List Char → StateT Nat (Except String) Prepared := fun last s => do
      modify (· + 1)
      return if last then ((ofText s).addText [' ']).addParam .null ++ ofText [')'] else ofText []
    let b : Prepared :=
      ⟨[.marker, .text " AND x ".toList, .marker, .text [')']], [.bool true, .null]⟩
    a.Built ∧ b.Built ∧ (a.mapTexts .null replace).run 0 = .ok (b, 2) ∧
      (b.Canonical ∧ b.fragment.Built ∧ b.fragment.prepared = b) ∧
      (b = a ↔ b.symbols = a.symbols) ∧ b ++ a ++ b = b ++ (a ++ b) ∧ b ++ empty = b := by
  intro a replace b
  have ha : a.Built := .addText _ (.addParam _ (.ofText _))
  have hrun : (a.mapTexts .null replace).run 0 = .ok (b, 2) := rfl
  have hb : b.Built := by
    refine .mapTexts .null replace ha (fun last s n k n' hk => ?_) hrun
    cases hk
    cases last with
    | true => exact .append (.addParam _ (.addText _ (.ofText _))) (.ofText _)
    | false => exact .ofText _
  obtain ⟨hcanonical, -, hequal, -, hassoc, -, hempty⟩ := built_in_canonical_form hb ha hb
  exact ⟨ha, hb, hrun, hcanonical, hequal, hassoc, hempty⟩

end Prepared

end SqlTemplate
