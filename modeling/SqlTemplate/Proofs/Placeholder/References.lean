import SqlTemplate.Proofs.Placeholder

/-!
# References in a text

What cutting a text at its references finds, without the cutting: a key is found if
and only if a reference to it stands somewhere in the text (`refers_iff_mem_cut`).
Cutting from left to right passes over none, because no reference begins inside
another.

Binding parameters first changes nothing about this (`refers_iff_text_mem_bindParams`):
a reference holds no colon, so no parameter cuts one in two, and none comes into being.

So resolving a text asks for the keys that the text refers to, and for no others:

> `resolve_error`: the error of a text is the error of a key that it refers to.
> `resolve_ok`: where a text is resolved, every key that it refers to has been found.
-/

namespace SqlTemplate

/-! ## Traversals that may fail -/

/-- Two steps succeed if and only if each of them does. -/
theorem bind_eq_ok {α β ε : Type} {x : Except ε α} {f : α → Except ε β} {b : β} :
    x >>= f = .ok b ↔ ∃ a, x = .ok a ∧ f a = .ok b := by
  constructor
  · intro h
    cases x with
    | error err => cases h
    | ok a => exact ⟨a, rfl, h⟩
  · rintro ⟨a, rfl, h⟩
    exact h

/-- Where a traversal fails, it is one element that fails. -/
theorem exists_error_of_mapM {α β ε : Type} {f : α → Except ε β} {xs : List α} {err : ε}
    (h : xs.mapM f = .error err) : ∃ x ∈ xs, f x = .error err := by
  induction xs with
  | nil => cases h
  | cons x xs ih =>
    rw [List.mapM_cons] at h
    cases hx : f x with
    | error err' =>
      rw [hx] at h
      cases h
      exact ⟨x, List.mem_cons_self .., hx⟩
    | ok y =>
      cases hxs : xs.mapM f with
      | error err' =>
        rw [hx, hxs] at h
        cases h
        obtain ⟨z, hz, herr⟩ := ih hxs
        exact ⟨z, List.mem_cons_of_mem _ hz, herr⟩
      | ok ys =>
        rw [hx, hxs] at h
        cases h

/-- Where a traversal succeeds, its results are those of its elements, one by one. What else is
said of a successful traversal follows by induction on this. -/
theorem forall₂_of_mapM {α β ε : Type} {f : α → Except ε β} {xs : List α} {ys : List β}
    (h : xs.mapM f = .ok ys) : List.Forall₂ (fun x y => f x = .ok y) xs ys := by
  induction xs generalizing ys with
  | nil =>
    cases h
    exact .nil
  | cons x xs ih =>
    rw [List.mapM_cons] at h
    obtain ⟨y, hy, hrest⟩ := bind_eq_ok.mp h
    obtain ⟨zs, hzs, hpure⟩ := bind_eq_ok.mp hrest
    cases hpure
    exact .cons hy (ih hzs)

/-- Where a traversal succeeds, every element succeeds. -/
theorem forall_ok_of_mapM {α β ε : Type} {f : α → Except ε β} {xs : List α} {ys : List β}
    (h : xs.mapM f = .ok ys) : ∀ x ∈ xs, ∃ y, f x = .ok y := by
  have hall := forall₂_of_mapM h
  clear h
  induction hall with
  | nil => exact fun x hx => absurd hx List.not_mem_nil
  | cons hy _ ih => exact List.forall_mem_cons.mpr ⟨⟨_, hy⟩, ih⟩

/-- What every result of a step satisfies, every result of a traversal satisfies. -/
theorem forall_of_mapM {α β ε : Type} {f : α → Except ε β} {P : β → Prop}
    (hf : ∀ x y, f x = .ok y → P y) {xs : List α} {ys : List β} (h : xs.mapM f = .ok ys) :
    ∀ y ∈ ys, P y := by
  have hall := forall₂_of_mapM h
  clear h
  induction hall with
  | nil => exact fun y hy => absurd hy List.not_mem_nil
  | cons hy _ ih => exact List.forall_mem_cons.mpr ⟨hf _ _ hy, ih⟩

/-- Where the last step cannot fail, the error is that of the steps before it. -/
theorem error_of_bind_pure {α β ε : Type} {x : Except ε α} {g : α → β} {err : ε}
    (h : (x >>= fun a => pure (g a)) = .error err) : x = .error err := by
  cases x with
  | error err' =>
    cases h
    rfl
  | ok a => cases h

theorem ok_of_bind_pure {α β ε : Type} {x : Except ε α} {g : α → β} {b : β}
    (h : (x >>= fun a => pure (g a)) = .ok b) : ∃ a, x = .ok a := by
  cases x with
  | error err => cases h
  | ok a => exact ⟨a, rfl⟩

/-- What is mapped fails only where it failed before. -/
theorem error_of_map {α β ε : Type} {x : Except ε α} {f : α → β} {err : ε}
    (h : x.map f = .error err) : x = .error err := by
  cases x with
  | error err' =>
    cases h
    rfl
  | ok a => cases h

theorem ok_of_map {α β ε : Type} {x : Except ε α} {f : α → β} {b : β}
    (h : x.map f = .ok b) : ∃ a, x = .ok a := by
  cases x with
  | error err => cases h
  | ok a => exact ⟨a, rfl⟩

namespace Placeholder

open SqlTemplate.Text

/-! ## References -/

/-- A key between double braces, with blanks around it. -/
structure Reference where
  before : List Char
  key : List Char
  after : List Char
  before_blank : ∀ c ∈ before, isBlank c = true
  key_ne_nil : key ≠ []
  key_name : ∀ c ∈ key, isNameChar c = true
  after_blank : ∀ c ∈ after, isBlank c = true

namespace Reference

variable (r : Reference)

/-- The reference behind its opening braces. -/
def body : List Char := r.before ++ (r.key ++ (r.after ++ ['\x7d', '\x7d']))

/-- The reference as it is written. -/
def text : List Char := '\x7b' :: '\x7b' :: r.body

/-- A character that is no blank, none of a name and no brace does not stand in a
reference behind its opening braces. -/
theorem not_mem_body {c : Char} (hblank : isBlank c = false) (hname : isNameChar c = false)
    (hbrace : c ≠ '\x7d') : c ∉ r.body := by
  intro hc
  simp only [body, List.mem_append, List.mem_cons, List.not_mem_nil, or_false, or_self] at hc
  rcases hc with hc | hc | hc | hc
  · rw [r.before_blank c hc] at hblank
    cases hblank
  · rw [r.key_name c hc] at hname
    cases hname
  · rw [r.after_blank c hc] at hblank
    cases hblank
  · exact hbrace hc

/-- No brace opens inside a reference. -/
theorem brace_not_mem_body : '\x7b' ∉ r.body :=
  r.not_mem_body (by decide) (by decide) (by decide)

theorem colon_not_mem_text : ':' ∉ r.text := by
  have hbody : ':' ∉ r.body := r.not_mem_body (by decide) (by decide) (by decide)
  simp [text, hbody]

/-- A reference at the head of a text ends before any colon. -/
theorem before_colon {s t u : List Char} (h : s ++ ':' :: t = r.text ++ u) :
    ∃ v, s = r.text ++ v := by
  rcases List.append_eq_append_iff.mp h with ⟨v, hr, hu⟩ | ⟨v, hs, -⟩
  · cases v with
    | nil => exact ⟨[], by simpa using hr.symm⟩
    | cons c v =>
      have hc : ':' = c := (List.cons.inj hu).1
      exact absurd (hr ▸ hc ▸ by simp) r.colon_not_mem_text
  · exact ⟨v, hs⟩

/-- A reference is found where it stands. -/
theorem referenceAt_text (t : List Char) :
    referenceAt (r.text ++ t) = some (r.key, r.text.length) := by
  have hkey : ∀ c ∈ (r.key ++ (r.after ++ '\x7d' :: '\x7d' :: t)).head?, isBlank c = false := by
    obtain ⟨k, ks, hk⟩ := List.exists_cons_of_ne_nil r.key_ne_nil
    intro c hc
    rw [hk, List.cons_append, List.head?_cons, Option.mem_some_iff] at hc
    exact hc ▸ not_blank_of_nameChar (r.key_name k (hk ▸ List.mem_cons_self ..))
  have hafter : StartsOutsideName (r.after ++ '\x7d' :: '\x7d' :: t) := by
    refine StartsOutsideName.append (fun c hc => ?_) (startsOutsideName_cons (by decide) _)
    exact not_nameChar_of_blank (r.after_blank c (List.mem_of_mem_head? hc))
  have hclose : ∀ c ∈ ('\x7d' :: '\x7d' :: t).head?, isBlank c = false := by
    intro c hc
    cases hc
    decide
  -- each of the three runs ends where the next one begins
  obtain ⟨hgap, hrest⟩ := run_append r.before_blank hkey
  obtain ⟨hname, htail⟩ := run_append r.key_name hafter
  obtain ⟨hclosing, hend⟩ := run_append r.after_blank hclose
  have hempty : r.key.isEmpty = false := by simpa using r.key_ne_nil
  have htext : r.text ++ t = '\x7b' :: '\x7b' ::
      (r.before ++ (r.key ++ (r.after ++ '\x7d' :: '\x7d' :: t))) := by simp [text, body]
  have hlength : r.text.length = r.before.length + r.key.length + r.after.length + 4 := by
    simp [text, body]
    omega
  rw [htext, hlength]
  simp [referenceAt, nameOf, hgap, hrest, hname, htail, hclosing, hend, hempty]

/-- Cutting takes a reference where it stands. -/
theorem cut_text_append (t : List Char) :
    cut referenceAt (r.text ++ t) = .inr r.key :: cut referenceAt t := by
  have hfound := r.referenceAt_text t
  rw [text, List.cons_append] at hfound ⊢
  rw [cut_of_some hfound]
  simp

/-- No reference is found in the middle of another. -/
theorem referenceAt_eq_none_inside {u : List Char} (t : List Char) (hne : u ≠ [])
    (hu : u <:+ '\x7b' :: r.body) : referenceAt (u ++ t) = none := by
  refine referenceAt_eq_none fun hpre => r.brace_not_mem_body ?_
  rcases List.suffix_cons_iff.mp hu with rfl | hu
  · -- the second brace would be the first character of the body
    have hsecond : ['\x7b'] <+: r.body ++ t := (List.cons_prefix_cons.mp hpre).2
    cases hb : r.body with
    | nil => simp [body, r.key_ne_nil] at hb
    | cons b bs =>
      rw [hb] at hsecond
      exact (List.cons_prefix_cons.mp hsecond).1 ▸ List.mem_cons_self ..
  · cases u with
    | nil => exact absurd rfl hne
    | cons b bs =>
      have hb : '\x7b' = b := (List.cons_prefix_cons.mp hpre).1
      exact hu.subset (hb ▸ List.mem_cons_self ..)

/-- What is found is a reference. -/
theorem exists_of_referenceAt {s key : List Char} {length : Nat}
    (h : referenceAt s = some (key, length)) :
    ∃ (r : Reference) (t : List Char), s = r.text ++ t ∧ r.key = key ∧ r.text.length = length := by
  unfold referenceAt at h
  split at h
  next rest =>
    dsimp only at h
    split at h
    next t hend =>
      split at h
      next => cases h
      next hname =>
        obtain ⟨rfl, rfl⟩ := Prod.mk.inj (Option.some.inj h)
        refine ⟨⟨rest.takeWhile isBlank, nameOf (rest.dropWhile isBlank),
          ((rest.dropWhile isBlank).dropWhile isNameChar).takeWhile isBlank,
          fun c hc => List.mem_takeWhile_imp hc, by simpa using hname,
          fun c hc => List.mem_takeWhile_imp hc, fun c hc => List.mem_takeWhile_imp hc⟩,
          t, ?_, rfl, ?_⟩
        · -- the four runs and what follows them make up the text
          have hparts : rest = rest.takeWhile isBlank ++ (nameOf (rest.dropWhile isBlank) ++
              (((rest.dropWhile isBlank).dropWhile isNameChar).takeWhile isBlank ++
                '\x7d' :: '\x7d' :: t)) := by
            rw [← hend, List.takeWhile_append_dropWhile, nameOf, List.takeWhile_append_dropWhile,
              List.takeWhile_append_dropWhile]
          simpa [text, body] using hparts
        · simp [text, body]
          omega
    next => cases h
  next => cases h

end Reference

/-- What is found is no longer than the text. -/
theorem length_le_of_referenceAt {s key : List Char} {length : Nat}
    (h : referenceAt s = some (key, length)) : length ≤ s.length := by
  obtain ⟨r, t, rfl, -, rfl⟩ := Reference.exists_of_referenceAt h
  simp

/-- What stands behind a colon does not matter. -/
theorem referenceAt_append_colon (s t : List Char) :
    referenceAt (s ++ ':' :: t) = referenceAt s := by
  cases hs : referenceAt s with
  | some found =>
    obtain ⟨r, u, rfl, hkey, hlength⟩ := Reference.exists_of_referenceAt hs
    rw [List.append_assoc, r.referenceAt_text, hkey, hlength]
  | none =>
    cases hhead : referenceAt (s ++ ':' :: t) with
    | none => rfl
    | some found =>
      obtain ⟨r, u, heq, -⟩ := Reference.exists_of_referenceAt hhead
      obtain ⟨v, rfl⟩ := r.before_colon heq
      rw [r.referenceAt_text] at hs
      cases hs

/-- Whether a reference to the key stands in a text. -/
def Refers (s key : List Char) : Prop := ∃ r : Reference, r.key = key ∧ r.text <:+: s

/-- A text refers to what a part of it refers to. -/
theorem Refers.mono {s t key : List Char} (h : Refers s key) (hst : s <:+: t) : Refers t key := by
  obtain ⟨r, hr, hs⟩ := h
  exact ⟨r, hr, hs.trans hst⟩

/-! ## What cutting finds -/

/-- References keep apart. -/
theorem referenceAt_apart {s u key : List Char} {length : Nat}
    (h : referenceAt s = some (key, length)) (hu : u <:+ s) (hne : u ≠ s)
    (hinside : s.length < u.length + length) : referenceAt u = none := by
  obtain ⟨r, t, rfl, -, rfl⟩ := Reference.exists_of_referenceAt h
  have ht : t <:+ u := by
    refine List.suffix_of_suffix_length_le (List.suffix_append r.text t) hu ?_
    rw [List.length_append] at hinside
    omega
  -- so `u` is the end of the reference and the text behind it
  obtain ⟨v, rfl⟩ := ht
  obtain ⟨w, hw⟩ := hu
  have htext : w ++ v = r.text := List.append_cancel_right ((List.append_assoc w v t).trans hw)
  rcases List.suffix_cons_iff.mp ⟨w, htext⟩ with rfl | hv
  · exact absurd rfl hne
  · refine r.referenceAt_eq_none_inside t (fun hnil => ?_) hv
    -- what is left would begin behind the reference
    rw [hnil, List.nil_append, List.length_append] at hinside
    omega

/-- **What cutting finds.** A key is found in a text if and only if a reference to it
stands there. -/
theorem refers_iff_mem_cut {s key : List Char} : Refers s key ↔ .inr key ∈ cut referenceAt s := by
  constructor
  · rintro ⟨r, rfl, hr⟩
    obtain ⟨before, after, rfl⟩ := hr
    have hu : r.text ++ after <:+ before ++ r.text ++ after := by
      rw [List.append_assoc]
      exact List.suffix_append _ _
    exact mem_cutFrom_of_suffix referenceAt_apart (by simp [Reference.text]) hu
      hu.length_le (r.referenceAt_text after)
  · intro h
    obtain ⟨u, length, hu, hfound⟩ := exists_suffix_of_mem_cutFrom h
    obtain ⟨r, t, rfl, hkey, -⟩ := Reference.exists_of_referenceAt hfound
    exact ⟨r, hkey, (List.prefix_append r.text t).isInfix.trans hu.isInfix⟩

/-- The keys to which a text refers, from left to right. -/
def keys (s : List Char) : List String :=
  ((cut referenceAt s).filterMap Sum.getRight?).map String.ofList

/-- The keys of a text are those that it refers to. -/
theorem mem_keys {s : List Char} {key : String} : key ∈ keys s ↔ Refers s key.toList := by
  unfold keys
  rw [refers_iff_mem_cut, List.mem_map]
  constructor
  · rintro ⟨chars, hchars, rfl⟩
    obtain ⟨part, hpart, hright⟩ := List.mem_filterMap.mp hchars
    cases part with
    | inl c => cases hright
    | inr found =>
      cases hright
      rwa [String.toList_ofList]
  · intro h
    exact ⟨key.toList, List.mem_filterMap.mpr ⟨.inr key.toList, h, rfl⟩, String.ofList_toList⟩

/-! ## References in a bound text -/

/-- Binding parameters keeps the references of a text, and adds none. -/
theorem refers_iff_text_mem_bindParams (context : Value) {s key : List Char} :
    Refers s key ↔ ∃ u, .text u ∈ (bindParams context s).pieces ∧ Refers u key := by
  constructor
  · rintro ⟨r, hkey, hr⟩
    -- along the stretches of the text: a reference stands in one of them
    induction boundText s with
    | @nothing s hs =>
      refine ⟨s, ?_, r, hkey, hr⟩
      rw [bindParams_of_nothing context hs]
      cases s with
      | nil => simp [Reference.text] at hr
      | cons c s => exact List.mem_singleton.mpr rfl
    | @name s n t hs hne hn ht _ ih =>
      rw [bindParams_name context hs hne hn ht, Fragment.pieces_ofText_append,
        Fragment.pieces_ofParam_append]
      rw [List.cons_append] at hr
      rcases infix_append_cons hr r.colon_not_mem_text with hs' | hrest
      · refine ⟨s, ?_, r, hkey, hs'⟩
        cases s with
        | nil => simp [Reference.text] at hs'
        | cons c s => exact List.mem_cons_self ..
      · have hbrace : '\x7b' ∉ n := fun h => by
          have hname := hn _ h
          revert hname
          decide
        obtain ⟨u, hu, hrefers⟩ := ih (infix_of_not_mem hbrace hrest)
        refine ⟨u, ?_, hrefers⟩
        cases s with
        | nil => exact List.mem_cons_of_mem _ hu
        | cons c s => exact List.mem_cons_of_mem _ (List.mem_cons_of_mem _ hu)
  · rintro ⟨u, hu, hrefers⟩
    exact hrefers.mono (infix_of_text_mem_bindParams context hu)

/-! ## Resolving -/

section

variable {ε : Type} {fetch : String → Except ε Fragment}

/-- The error of a stretch between bound names is that of a key that it refers to. -/
theorem expandReferences_error {s : List Char} {err : ε}
    (h : expandReferences fetch s = .error err) :
    ∃ key, Refers s key ∧ fetch (String.ofList key) = .error err := by
  obtain ⟨part, hpart, herr⟩ := exists_error_of_mapM (error_of_bind_pure h)
  cases part with
  | inl c => cases herr
  | inr key => exact ⟨key, refers_iff_mem_cut.mpr hpart, herr⟩

/-- Where such a stretch is expanded, every key that it refers to has been found. -/
theorem expandReferences_ok {s : List Char} {f : Fragment}
    (h : expandReferences fetch s = .ok f) {key : List Char} (hkey : Refers s key) :
    ∃ g, fetch (String.ofList key) = .ok g := by
  obtain ⟨parts, hparts⟩ := ok_of_bind_pure h
  exact forall_ok_of_mapM hparts (.inr key) (refers_iff_mem_cut.mp hkey)

variable {context : Value} {s : List Char}

/-- The error of a text is the error of a key that it refers to. -/
theorem resolve_error {err : ε} (h : resolve fetch context s = .error err) :
    ∃ key, Refers (inlineLiterals context s) key ∧ fetch (String.ofList key) = .error err := by
  obtain ⟨piece, hpiece, herr⟩ := exists_error_of_mapM (error_of_bind_pure h)
  cases piece with
  | param v => cases herr
  | text u =>
    obtain ⟨key, hkey, hfetch⟩ := expandReferences_error herr
    exact ⟨key, (refers_iff_text_mem_bindParams context).mpr ⟨u, hpiece, hkey⟩, hfetch⟩

/-- Where a text is resolved, every key that it refers to has been found. -/
theorem resolve_ok {f : Fragment} (h : resolve fetch context s = .ok f) {key : List Char}
    (hkey : Refers (inlineLiterals context s) key) : ∃ g, fetch (String.ofList key) = .ok g := by
  obtain ⟨u, hu, hrefers⟩ := (refers_iff_text_mem_bindParams context).mp hkey
  obtain ⟨parts, hparts⟩ := ok_of_bind_pure h
  obtain ⟨g, hg⟩ := forall_ok_of_mapM hparts (.text u) hu
  exact expandReferences_ok hg hrefers

end

end Placeholder

end SqlTemplate
