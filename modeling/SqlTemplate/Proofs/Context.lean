import SqlTemplate.Context
import Mathlib.Data.List.Forall2

/-!
# Paths through a context

A path is a list of steps, each to a field of an object or to an element of an array, and
following it is a matter of the data alone. Looking a name up is more: the name is cut at its
dots, a segment may be read in two ways, and a field under the whole name hides the path.

> `walk_eq_some_iff`: segments lead to what a path written by them leads to, or to the length
> of an array or string that such a path leads to.
> `nodes_are_addressed`: every value inside a context is found under the address of a path to
> it, and what is found under a name is such a value, or such a length.
-/

namespace SqlTemplate

/-! ## Segments of a name -/

/-- The segments of a name are what its dots cut it into. -/
theorem segments_eq_splitOn (s : List Char) : segments s = s.splitOn '.' := by
  induction s with
  | nil => rfl
  | cons c s ih =>
    rw [segments, List.splitOn_cons_eq_if_modifyHead, ih]
    by_cases hc : c = '.'
    · rw [if_pos hc, if_pos (beq_iff_eq.mpr hc)]
    · rw [if_neg hc, if_neg (mt beq_iff_eq.mp hc)]
      cases hsplit : s.splitOn '.' with
      | nil => exact absurd hsplit (List.splitOn_ne_nil '.' s)
      | cons first more => rfl

/-- A text with a dot has a segment before the first one, and another behind it. -/
theorem segments_of_dot {s : List Char} (h : '.' ∈ s) :
    ∃ first second more, segments s = first :: second :: more ∧ '.' ∉ first := by
  obtain ⟨first, rest, rfl, hfirst⟩ := List.eq_append_cons_of_mem h
  obtain ⟨second, more, hrest⟩ := List.exists_cons_of_ne_nil (List.splitOn_ne_nil '.' rest)
  refine ⟨first, second, more, ?_, hfirst⟩
  rw [segments_eq_splitOn, List.splitOn_append_cons_self_of_not_mem hfirst, hrest]

/-- Segments without dots are those of the name that joins them. -/
theorem segments_intercalate {parts : List (List Char)} (hne : parts ≠ [])
    (hdots : ∀ part ∈ parts, '.' ∉ part) : segments (['.'].intercalate parts) = parts := by
  rw [segments_eq_splitOn, List.splitOn_intercalate '.' hdots hne]

/-- Two segments have a dot between them. -/
theorem dot_mem_intercalate (first second : List Char) (more : List (List Char)) :
    '.' ∈ ['.'].intercalate (first :: second :: more) := by
  rw [List.intercalate_cons_cons]
  simp

namespace Value

/-! ## Steps -/

/-- A step from a value to one inside it. -/
inductive Step where
  /-- To the field of an object under a key. -/
  | field (key : String)
  /-- To the element of an array at a position. -/
  | element (position : Nat)

/-- Where a step leads. -/
def step? : Value → Step → Option Value
  | .object fields, .field key => Entries.find? key fields
  | .array items, .element position => items[position]?
  | _, _ => none

/-- Where a path leads. -/
def follow? : Value → List Step → Option Value
  | v, [] => some v
  | v, step :: path => (v.step? step).bind (·.follow? path)

/-- A path leads on from where its first step leads. -/
theorem follow?_cons {v u w : Value} {step : Step} {path : List Step}
    (hstep : v.step? step = some u) (hpath : u.follow? path = some w) :
    v.follow? (step :: path) = some w := by
  rw [follow?, hstep, Option.bind_some, hpath]

/-- The number of elements of an array or of characters of a string. -/
def size? : Value → Option Nat
  | .array items => some items.length
  | .string s => some s.length
  | _ => none

namespace Step

/-- The segment that stands for a step in an address: a key as it is, a position in decimal. -/
def segment : Step → String
  | .field key => key
  | .element position => natText position

/-- Whether the segment of a step stays one segment: a key is not empty and has no dot. -/
def Addressable : Step → Prop
  | .field key => key ≠ "" ∧ '.' ∉ key.toList
  | .element _ => True

/-- The segments that are read as a step: a key that is not empty, and for a position its
digits, with leading zeros or a plus sign if need be. -/
inductive Written : Step → List Char → Prop
  | field {key : String} (h : key ≠ "") : Written (.field key) key.toList
  | element {digits : List Char} (hne : digits ≠ []) (h : ∀ c ∈ digits, c.isDigit = true) :
    Written (.element (digitsValue digits)) digits
  | signed {digits : List Char} (hne : digits ≠ []) (h : ∀ c ∈ digits, c.isDigit = true) :
    Written (.element (digitsValue digits)) ('+' :: digits)

end Step

/-- The address of a path: its segments with dots between them. -/
def address (path : List Step) : String := ".".intercalate (path.map Step.segment)

/-! ## Positions -/

/-- Digits are read from the left, each worth ten times those behind it. -/
theorem digitsValue_eq (digits : List Char) : digitsValue digits = Nat.ofDigitChars 10 digits 0 :=
  Nat.ofDigitChars_eq_foldl.symm

/-- The decimal digits of a number denote it. -/
theorem digitsValue_toDigits (n : Nat) : digitsValue (Nat.toDigits 10 n) = n := by
  rw [digitsValue_eq, Nat.ofDigitChars_ten_toDigits]

/-- A run of characters denotes a position if it has one and all are digits. -/
theorem readDigits_eq_some_iff {digits : List Char} {position : Nat} :
    (if digits.isEmpty || !digits.all Char.isDigit then none else some (digitsValue digits)) =
        some position ↔
      digits ≠ [] ∧ (∀ c ∈ digits, c.isDigit = true) ∧ digitsValue digits = position := by
  rw [Option.ite_none_left_eq_some, Option.some_inj, Bool.or_eq_true, not_or]
  simp [and_assoc]

/-- A segment is read as a position if it is written as one. -/
theorem position?_eq_some_iff {segment : List Char} {position : Nat} :
    position? segment = some position ↔ (Step.element position).Written segment := by
  by_cases hsign : segment.head? = some '+'
  · obtain ⟨digits, rfl⟩ := List.head?_eq_some_iff.mp hsign
    refine readDigits_eq_some_iff.trans ⟨?_, fun h => ?_⟩
    · rintro ⟨hne, hdigits, rfl⟩
      exact .signed hne hdigits
    · cases h with
      | element hne hdigits => exact absurd (hdigits '+' (List.mem_cons_self ..)) (by decide)
      | signed hne hdigits => exact ⟨hne, hdigits, rfl⟩
  · have heq : position? segment = if segment.isEmpty || !segment.all Char.isDigit then none
        else some (digitsValue segment) := by
      unfold position?
      split
      next rest => exact absurd rfl hsign
      next => rfl
    rw [heq]
    refine readDigits_eq_some_iff.trans ⟨?_, fun h => ?_⟩
    · rintro ⟨hne, hdigits, rfl⟩
      exact .element hne hdigits
    · cases h with
      | element hne hdigits => exact ⟨hne, hdigits, rfl⟩
      | signed hne hdigits => exact absurd rfl hsign

/-! ## Walking -/

/-- A field under the whole name goes before any path. -/
theorem lookup_of_find? {name : String} {fields : Entries Value} {v : Value}
    (h : Entries.find? name fields = some v) : (object fields).lookup name = some v := by
  rw [lookup, h]

theorem find?_eq_none_of_lookup {name : String} {fields : Entries Value}
    (h : (object fields).lookup name = none) : Entries.find? name fields = none := by
  cases hfound : Entries.find? name fields with
  | none => rfl
  | some v =>
    rw [lookup_of_find? hfound] at h
    cases h

/-- What a name denotes that is no field: the end of a path, or nothing. -/
theorem lookup_of_not_field {name : String} {fields : Entries Value}
    (h : Entries.find? name fields = none) :
    (object fields).lookup name =
      if '.' ∈ name.toList then (object fields).walk (segments name.toList) else none := by
  rw [lookup, h]

/-- The first step of a path in an object. -/
theorem walk_object_cons (fields : Entries Value) (first : List Char) (rest : List (List Char)) :
    (object fields).walk (first :: rest) =
      if first.isEmpty then none
      else (Entries.find? (String.ofList first) fields).bind (·.walk rest) := by
  rw [walk]
  split
  · rfl
  · cases Entries.find? (String.ofList first) fields <;> rfl

/-- No path leads through `null`. -/
theorem walk_null_cons (segment : List Char) (rest : List (List Char)) :
    null.walk (segment :: rest) = none := by
  unfold walk
  split <;> rfl

/-- The first step of a path in an array. -/
theorem walk_array_cons (items : List Value) (first : List Char) (rest : List (List Char)) :
    (array items).walk (first :: rest) =
      if first = lengthSegment ∧ rest = [] then some (ofCount items.length)
      else (position? first).bind fun position => items[position]?.bind (·.walk rest) := by
  rw [walk]
  by_cases hempty : first.isEmpty = true
  · rw [if_pos hempty]
    cases List.isEmpty_iff.mp hempty
    rfl
  · rw [if_neg hempty]
    split
    · rfl
    · cases position? first with
      | none => rfl
      | some position => cases hitem : items[position]? <;> simp [hitem]

/-- The first step of a path in a string asks for its length. -/
theorem walk_string_cons (s : String) (first : List Char) (rest : List (List Char)) :
    (string s).walk (first :: rest) =
      if first = lengthSegment ∧ rest = [] then some (ofCount s.length) else none := by
  rw [walk]
  by_cases hempty : first.isEmpty = true
  · rw [if_pos hempty]
    cases List.isEmpty_iff.mp hempty
    rfl
  · rw [if_neg hempty]

namespace Step

/-- A segment is read as the step to a field unless it is empty. -/
theorem written_field_iff {key : String} {segment : List Char} :
    (field key).Written segment ↔ segment.isEmpty = false ∧ key = String.ofList segment := by
  constructor
  · rintro ⟨h⟩
    simpa using h
  · rintro ⟨h, rfl⟩
    have hne : String.ofList segment ≠ "" := by simpa using h
    have hwritten := Written.field hne
    rwa [String.toList_ofList] at hwritten

/-- No position is spelled as the length is. -/
theorem not_written_element_length (position : Nat) :
    ¬ (element position).Written lengthSegment := by
  intro h
  cases h with
  | element _ hdigits => exact absurd (hdigits 'l' (List.mem_cons_self ..)) (by decide)

end Step

/-- A segment leads through a field or an element, or, as the last one, to a length. -/
theorem walk_cons_eq_some_iff {v w : Value} {first : List Char} {rest : List (List Char)} :
    v.walk (first :: rest) = some w ↔
      (∃ step u, step.Written first ∧ v.step? step = some u ∧ u.walk rest = some w) ∨
        (first = lengthSegment ∧ rest = [] ∧ v.size?.map ofCount = some w) := by
  cases v with
  | null | bool _ | number _ =>
    rw [walk] <;> simp [step?, size?]
  | string s =>
    rw [walk_string_cons]
    simp [step?, size?, and_assoc]
  | array items =>
    rw [walk_array_cons]
    -- `length` is no position, so the two ways to read a segment exclude each other
    by_cases hlength : first = lengthSegment ∧ rest = []
    · obtain ⟨rfl, rfl⟩ := hlength
      rw [if_pos ⟨rfl, rfl⟩]
      refine ⟨fun h => Or.inr ⟨rfl, rfl, h⟩, ?_⟩
      rintro (⟨step, u, hwritten, hstep, -⟩ | ⟨-, -, h⟩)
      · cases step with
        | field key => cases hstep
        | element position => exact absurd hwritten (Step.not_written_element_length position)
      · exact h
    · rw [if_neg hlength]
      simp only [Option.bind_eq_some_iff, position?_eq_some_iff]
      constructor
      · rintro ⟨position, hwritten, u, hitem, hrest⟩
        exact Or.inl ⟨.element position, u, hwritten, hitem, hrest⟩
      · rintro (⟨step, u, hwritten, hstep, hrest⟩ | ⟨hfirst, hrest, -⟩)
        · cases step with
          | field key => cases hstep
          | element position => exact ⟨position, hwritten, u, hstep, hrest⟩
        · exact absurd ⟨hfirst, hrest⟩ hlength
  | object fields =>
    rw [walk_object_cons]
    constructor
    · intro h
      rw [Option.ite_none_left_eq_some, Option.bind_eq_some_iff] at h
      obtain ⟨hne, u, hfield, hrest⟩ := h
      have hwritten := Step.written_field_iff.mpr ⟨Bool.eq_false_iff.mpr hne, rfl⟩
      exact Or.inl ⟨_, u, hwritten, hfield, hrest⟩
    · rintro (⟨step, u, hwritten, hstep, hrest⟩ | ⟨-, -, hsize⟩)
      · cases step with
        | field key =>
          obtain ⟨hne, rfl⟩ := Step.written_field_iff.mp hwritten
          have hfield : Entries.find? (String.ofList first) fields = some u := hstep
          rw [hne, hfield]
          exact hrest
        | element position => cases hstep
      · cases hsize

/-- **Where segments lead.** A path is written by them, or by all but the last, which asks for
the length of what the path leads to. -/
theorem walk_eq_some_iff {v w : Value} {parts : List (List Char)} :
    v.walk parts = some w ↔
      (∃ path, List.Forall₂ Step.Written path parts ∧ v.follow? path = some w) ∨
        ∃ path init u, parts = init ++ [lengthSegment] ∧ List.Forall₂ Step.Written path init ∧
          v.follow? path = some u ∧ u.size?.map ofCount = some w := by
  -- on the segments: each is a step, or the last of them asks for a length
  induction parts generalizing v with
  | nil =>
    constructor
    · intro h
      rw [walk] at h
      exact Or.inl ⟨[], .nil, h⟩
    · rintro (⟨path, hwritten, hfollow⟩ | ⟨path, init, u, hinit, -⟩)
      · cases hwritten
        rw [walk]
        exact hfollow
      · cases init <;> cases hinit
  | cons first rest ih =>
    rw [walk_cons_eq_some_iff]
    constructor
    · rintro (⟨step, u, hwritten, hstep, hrest⟩ | ⟨rfl, rfl, hsize⟩)
      · rcases ih.mp hrest with ⟨path, hpath, hfollow⟩ | ⟨path, init, t, rfl, hpath, hfollow, hsize⟩
        · exact Or.inl ⟨step :: path, .cons hwritten hpath, follow?_cons hstep hfollow⟩
        · exact Or.inr ⟨step :: path, first :: init, t, rfl, .cons hwritten hpath,
            follow?_cons hstep hfollow, hsize⟩
      · exact Or.inr ⟨[], [], v, rfl, .nil, rfl, hsize⟩
    · rintro (⟨path, hwritten, hfollow⟩ | ⟨path, init, t, hinit, hwritten, hfollow, hsize⟩)
      · cases hwritten with
        | cons hfirst hpath =>
          obtain ⟨u, hstep, hrest⟩ := Option.bind_eq_some_iff.mp hfollow
          exact Or.inl ⟨_, u, hfirst, hstep, ih.mpr (Or.inl ⟨_, hpath, hrest⟩)⟩
      · cases hwritten with
        | nil =>
          cases hinit
          cases hfollow
          exact Or.inr ⟨rfl, rfl, hsize⟩
        | cons hfirst hpath =>
          cases hinit
          obtain ⟨u, hstep, hrest⟩ := Option.bind_eq_some_iff.mp hfollow
          exact Or.inl ⟨_, u, hfirst, hstep, ih.mpr (Or.inr ⟨_, _, t, rfl, hpath, hrest, hsize⟩)⟩

/-! ## Addresses -/

namespace Step

/-- The segment of a step is read as that step, and has no dot. -/
theorem Addressable.written {step : Step} (h : step.Addressable) :
    step.Written step.segment.toList ∧ '.' ∉ step.segment.toList := by
  cases step with
  | field key => exact ⟨.field h.1, h.2⟩
  | element position =>
    have hdigits : ∀ c ∈ Nat.toDigits 10 position, c.isDigit = true := fun c hc =>
      Nat.isDigit_of_mem_toDigits (by decide) (by decide) hc
    have hwritten := Written.element Nat.toDigits_ne_nil hdigits
    rw [digitsValue_toDigits] at hwritten
    rw [segment, natText, String.toList_ofList]
    exact ⟨hwritten, fun hdot => absurd (hdigits '.' hdot) (by decide)⟩

end Step

theorem toList_address (path : List Step) :
    (address path).toList = ['.'].intercalate (path.map (·.segment.toList)) := by
  rw [address, String.toList_intercalate, List.map_map]
  rfl

/-- The segments of an address lead where its path leads. -/
theorem walk_address {context v : Value} {path : List Step} (hne : path ≠ [])
    (hpath : ∀ step ∈ path, step.Addressable) (hfollow : context.follow? path = some v) :
    context.walk (segments (address path).toList) = some v := by
  have hdots : ∀ part ∈ path.map (·.segment.toList), '.' ∉ part :=
    List.forall_mem_map.mpr fun step hstep => (hpath step hstep).written.2
  have hwritten : List.Forall₂ Step.Written path (path.map (·.segment.toList)) :=
    List.forall₂_map_right_iff.mpr
      (List.forall₂_same.mpr fun step hstep => (hpath step hstep).written.1)
  rw [toList_address, segments_intercalate (mt List.map_eq_nil_iff.mp hne) hdots]
  exact walk_eq_some_iff.mpr (Or.inl ⟨path, hwritten, hfollow⟩)

/-- An address that is no field has several segments. -/
theorem dot_mem_address {fields : Entries Value} {path : List Step} {v : Value} (hne : path ≠ [])
    (hfollow : (object fields).follow? path = some v)
    (hfield : Entries.find? (address path) fields = none) : '.' ∈ (address path).toList := by
  cases path with
  | nil => exact absurd rfl hne
  | cons step path =>
    cases path with
    | cons second path =>
      rw [toList_address]
      exact dot_mem_intercalate _ _ _
    | nil =>
      obtain ⟨u, hstep, -⟩ := Option.bind_eq_some_iff.mp hfollow
      cases step with
      | element position => cases hstep
      | field key =>
        rw [address, List.map_singleton, String.intercalate_singleton] at hfield
        have hkey : Entries.find? key fields = some u := hstep
        exact absurd (hfield.symm.trans hkey) (by simp)

/-- **Every node has an address, and nothing is invented.** What a path leads to is found under
its address, unless a field stands under that address. What is found under a name is the field
under it, or what a path written by its segments leads to, or, behind a last segment `length`,
the number of elements or characters of what the path before it leads to. -/
theorem nodes_are_addressed (fields : Entries Value) :
    (∀ path v, path ≠ [] → (∀ step ∈ path, step.Addressable) →
      (object fields).follow? path = some v →
      (object fields).lookup (address path) =
        some ((Entries.find? (address path) fields).getD v)) ∧
    ∀ name v, (object fields).lookup name = some v →
      Entries.find? name fields = some v ∨
      (∃ path, List.Forall₂ Step.Written path (name.toList.splitOn '.') ∧
        (object fields).follow? path = some v) ∨
      ∃ path init u, name.toList.splitOn '.' = init ++ ["length".toList] ∧
        List.Forall₂ Step.Written path init ∧ (object fields).follow? path = some u ∧
        u.size?.map ofCount = some v := by
  constructor
  · intro path v hne hpath hfollow
    cases hfield : Entries.find? (address path) fields with
    | some u => exact lookup_of_find? hfield
    | none =>
      rw [lookup_of_not_field hfield, if_pos (dot_mem_address hne hfollow hfield)]
      exact walk_address hne hpath hfollow
  · intro name v hlookup
    cases hfield : Entries.find? name fields with
    | some u =>
      rw [lookup_of_find? hfield] at hlookup
      exact Or.inl hlookup
    | none =>
      rw [lookup_of_not_field hfield, Option.ite_none_right_eq_some, segments_eq_splitOn] at hlookup
      exact Or.inr (walk_eq_some_iff.mp hlookup.2)

/-- An element of an array inside an element, a key that looks like a position, a path that a
field hides, and a length. -/
theorem nodes_are_addressed_orders :
    let order := object [("7", .string "seven"), ("lines", .array [.null, .array [.bool true]])]
    let fields : Entries Value := [("order", order), ("order.7", .string "hidden")]
    let path := [Step.field "order", .field "lines", .element 1, .element 0]
    let hidden := [Step.field "order", .field "7"]
    (path ≠ [] ∧ (∀ step ∈ path, step.Addressable) ∧
      (object fields).follow? path = some (.bool true) ∧
      address path = "order.lines.1.0" ∧
      (object fields).lookup "order.lines.1.0" = some (.bool true)) ∧
    ((∀ step ∈ hidden, step.Addressable) ∧
      (object fields).follow? hidden = some (.string "seven") ∧
      (object fields).lookup "order.7" = some (.string "hidden")) ∧
    (object fields).lookup "order.lines.length" = some (ofCount 2) := by
  intro order fields path hidden
  have hpath : ∀ step ∈ path, step.Addressable := by simp [path, Step.Addressable]
  have hhidden : ∀ step ∈ hidden, step.Addressable := by simp [hidden, Step.Addressable]
  have haddress : address path = "order.lines.1.0" := by decide +kernel
  have hfollow : (object fields).follow? path = some (.bool true) := rfl
  have haddressHidden : address hidden = "order.7" := by decide +kernel
  have hfollowHidden : (object fields).follow? hidden = some (.string "seven") := rfl
  have hfound := (nodes_are_addressed fields).1 path (.bool true) (by simp [path]) hpath hfollow
  have hfoundHidden :=
    (nodes_are_addressed fields).1 hidden (.string "seven") (by simp [hidden]) hhidden hfollowHidden
  rw [haddress] at hfound
  rw [haddressHidden] at hfoundHidden
  exact ⟨⟨by simp [path], hpath, hfollow, haddress, hfound⟩,
    ⟨hhidden, hfollowHidden, hfoundHidden⟩, rfl⟩

end Value

end SqlTemplate
