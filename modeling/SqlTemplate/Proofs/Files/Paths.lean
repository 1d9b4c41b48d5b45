import SqlTemplate.Files.Path
import Mathlib.Data.List.DropRight

/-!
# Segments of paths

A path is its segments with slashes between them, and segments without slashes are those of the
path that they make (`ofSegments_segments`, `segments_ofSegments`). So what is done to paths is
done to segments: the parent of a path has the segments before the last name, less those behind
its first that lead nowhere else (`parent?_eq`), and putting a name behind a path adds a segment
(`join_directoryText`).
-/

namespace SqlTemplate.Path

/-! ## Cutting at slashes -/

/-- Cutting at slashes is the splitting of lists, whose lemmas carry what follows. -/
theorem cutSlashes_eq_splitOn (s : List Char) : cutSlashes s = s.splitOn '/' := by
  induction s with
  | nil => rfl
  | cons c s ih =>
    rw [cutSlashes, List.splitOn_cons_eq_if_modifyHead, ih]
    by_cases hc : c = '/'
    · rw [if_pos hc, if_pos (beq_iff_eq.mpr hc)]
    · rw [if_neg hc, if_neg (mt beq_iff_eq.mp hc)]
      cases hsplit : s.splitOn '/' with
      | nil => exact absurd hsplit (List.splitOn_ne_nil '/' s)
      | cons first more => rfl

/-- No slash is left in what a text is cut into. -/
theorem slash_not_mem_of_mem_cutSlashes {s segment : List Char} (h : segment ∈ cutSlashes s) :
    '/' ∉ segment := by
  induction s generalizing segment with
  | nil =>
    rw [cutSlashes, List.mem_singleton] at h
    exact h ▸ List.not_mem_nil
  | cons c s ih =>
    rw [cutSlashes] at h
    split at h
    next =>
      rcases List.mem_cons.mp h with rfl | h
      · exact List.not_mem_nil
      · exact ih h
    next hc =>
      cases hcut : cutSlashes s with
      | nil =>
        rw [hcut] at h
        rw [List.mem_singleton.mp h, List.mem_singleton]
        exact Ne.symm hc
      | cons first more =>
        rw [hcut] at h ih
        rcases List.mem_cons.mp h with rfl | h
        · rw [List.mem_cons, not_or]
          exact ⟨Ne.symm hc, ih (List.mem_cons_self ..)⟩
        · exact ih (List.mem_cons_of_mem _ h)

/-- Whether a text can be a segment of a path. -/
def IsSegment (segment : String) : Prop := '/' ∉ segment.toList

instance : DecidablePred IsSegment := fun segment =>
  inferInstanceAs (Decidable ('/' ∉ segment.toList))

theorem isSegment_of_mem {path segment : String} (h : segment ∈ segments path) :
    IsSegment segment := by
  obtain ⟨chars, hchars, rfl⟩ := List.mem_map.mp h
  rw [IsSegment, String.toList_ofList]
  exact slash_not_mem_of_mem_cutSlashes hchars

/-- Even the empty path has one segment, the empty one. -/
theorem segments_ne_nil (path : String) : segments path ≠ [] := by
  rw [segments, cutSlashes_eq_splitOn]
  simp

/-- A path is its segments with slashes between them. -/
theorem ofSegments_segments (path : String) : ofSegments (segments path) = path := by
  have hmap : ((cutSlashes path.toList).map String.ofList).map String.toList =
      cutSlashes path.toList := by simp [Function.comp_def]
  rw [← String.toList_inj, ofSegments, String.toList_intercalate, segments, hmap,
    cutSlashes_eq_splitOn]
  exact List.intercalate_splitOn '/'

/-- Segments are those of the path that they make. -/
theorem segments_ofSegments {parts : List String} (hne : parts ≠ [])
    (h : ∀ part ∈ parts, IsSegment part) : segments (ofSegments parts) = parts := by
  have hslash : ∀ part ∈ parts.map String.toList, '/' ∉ part := List.forall_mem_map.mpr h
  rw [segments, ofSegments, String.toList_intercalate, cutSlashes_eq_splitOn]
  refine (congrArg (List.map String.ofList)
    (List.splitOn_intercalate '/' hslash (by simpa using hne))).trans ?_
  simp [Function.comp_def]

theorem ofSegments_singleton (part : String) : ofSegments [part] = part :=
  String.intercalate_singleton

theorem ofSegments_cons {part : String} {parts : List String} (h : parts ≠ []) :
    ofSegments (part :: parts) = part ++ "/" ++ ofSegments parts := by
  obtain ⟨next, more, rfl⟩ := List.exists_cons_of_ne_nil h
  exact String.intercalate_cons_cons

theorem ofSegments_concat {parts : List String} (h : parts ≠ []) (part : String) :
    ofSegments (parts ++ [part]) = ofSegments parts ++ "/" ++ part := by
  induction parts with
  | nil => exact absurd rfl h
  | cons first parts ih =>
    by_cases hparts : parts = []
    · subst hparts
      exact String.intercalate_cons_cons
    · rw [List.cons_append, ofSegments_cons (by simp), ih hparts, ofSegments_cons hparts]
      simp [String.append_assoc]

/-- A character other than a slash stands in a path where it stands in a segment. -/
theorem mem_ofSegments_iff {c : Char} (hc : c ≠ '/') (parts : List String) :
    c ∈ (ofSegments parts).toList ↔ ∃ part ∈ parts, c ∈ part.toList := by
  induction parts with
  | nil => simp [ofSegments]
  | cons part parts ih =>
    by_cases hnil : parts = []
    · simp [hnil, ofSegments_singleton]
    · -- the slash in between is not the character
      rw [ofSegments_cons hnil]
      simp [hc, ih]

/-- A character that is not in a path is in none of its segments. -/
theorem not_mem_of_mem_segments {path segment : String} {c : Char} (hc : c ≠ '/')
    (h : c ∉ path.toList) (hsegment : segment ∈ segments path) : c ∉ segment.toList := by
  rw [← ofSegments_segments path, mem_ofSegments_iff hc] at h
  exact fun hmem => h ⟨segment, hsegment, hmem⟩

/-- What begins with a segment that is not empty does not begin with a slash. -/
theorem isAbsolute_segment_append {segment : String} (h : IsSegment segment)
    (hne : segment ≠ "") (rest : String) : isAbsolute (segment ++ rest) = false := by
  obtain ⟨c, cs, hcs⟩ : ∃ c cs, segment.toList = c :: cs :=
    List.exists_cons_of_ne_nil (by simpa using hne)
  have hc : c ≠ '/' := fun hc => h (by rw [hcs, hc]; exact List.mem_cons_self ..)
  simp [isAbsolute, hcs, hc]

/-- A path begins with its first segment, whether or not there are more. -/
theorem exists_ofSegments_cons (part : String) (parts : List String) :
    ∃ rest, ofSegments (part :: parts) = part ++ rest := by
  cases parts with
  | nil => exact ⟨"", by simp [ofSegments]⟩
  | cons next parts => exact ⟨_, (ofSegments_cons (by simp)).trans (String.append_assoc ..)⟩

/-- A path with an empty segment in front of others is absolute, and no other is. -/
theorem isAbsolute_iff {path name : String} {parts more : List String}
    (h : segments path = parts ++ name :: more) (hname : name ≠ "") :
    isAbsolute path = true ↔ parts.head? = some "" := by
  have hsegment : ∀ part ∈ parts ++ name :: more, IsSegment part := fun part hpart =>
    isSegment_of_mem (h ▸ hpart)
  rw [← ofSegments_segments path, h]
  cases parts with
  | nil =>
    obtain ⟨rest, hrest⟩ := exists_ofSegments_cons name more
    rw [List.nil_append, hrest, isAbsolute_segment_append (hsegment name (by simp)) hname]
    simp
  | cons first parts =>
    by_cases hfirst : first = ""
    · rw [hfirst, List.cons_append, ofSegments_cons (by simp)]
      simp [isAbsolute]
    · obtain ⟨rest, hrest⟩ := exists_ofSegments_cons first (parts ++ name :: more)
      rw [List.cons_append, hrest, isAbsolute_segment_append (hsegment first (by simp)) hfirst]
      simp [hfirst]

/-! ## Parents -/

/-- Segments without those at the end, behind the first, that lead nowhere else. -/
def stem : List String → List String
  | [] => []
  | first :: more => first :: dropVacuous more

/-- A directory with the given segments, as a parent is spelled. -/
def directoryText (parts : List String) : String :=
  if parts = [""] then "/" else ofSegments parts

theorem dropVacuous_concat (parts : List String) {name : String} (h : isVacuous name = false) :
    dropVacuous (parts ++ [name]) = parts ++ [name] :=
  List.rdropWhile_concat_neg isVacuous parts name (by simp [h])

/-- A name in front is never dropped, so dropping goes on behind it. -/
theorem dropVacuous_cons {first : String} (h : isVacuous first = false) (parts : List String) :
    dropVacuous (first :: parts) = first :: dropVacuous parts := by
  induction parts using List.reverseRecOn with
  | nil => exact dropVacuous_concat [] h
  | append_singleton parts last ih =>
    cases hlast : isVacuous last with
    | false => rw [dropVacuous_concat _ hlast, ← List.cons_append, dropVacuous_concat _ hlast]
    | true =>
      have hdrop : ∀ l, dropVacuous (l ++ [last]) = dropVacuous l := fun l =>
        List.rdropWhile_concat_pos isVacuous l last hlast
      rw [hdrop, ← List.cons_append, hdrop, ih]

/-- What is dropped stood at the end and leads nowhere else. -/
theorem exists_eq_dropVacuous_append (parts : List String) :
    ∃ rest, parts = dropVacuous parts ++ rest ∧ ∀ part ∈ rest, isVacuous part = true :=
  ⟨parts.rtakeWhile isVacuous, List.rdropWhile_append_rtakeWhile.symm,
    fun _ => List.mem_rtakeWhile_imp⟩

/-- What is left ends with a name. -/
theorem isVacuous_of_dropVacuous_eq {parts front : List String} {last : String}
    (h : dropVacuous parts = front ++ [last]) : isVacuous last = false := by
  have hdrop : parts.rdropWhile isVacuous = front ++ [last] := h
  have hlast := List.rdropWhile_last_not isVacuous parts (by simp [hdrop])
  simpa [hdrop] using hlast

/-- Before a last name, segments that lead nowhere else are dropped too, so that the parent ends
with a name again. -/
theorem beforeLast?_concat {parts : List String} {name : String} (h : isVacuous name = false) :
    beforeLast? (parts ++ [name]) = some (dropVacuous parts) := by
  have hrev : (parts ++ [name]).reverse.dropWhile isVacuous = name :: parts.reverse := by
    rw [List.reverse_append, List.reverse_singleton, List.singleton_append,
      List.dropWhile_cons_of_neg (by simp [h])]
  rw [beforeLast?, hrev]
  rfl

/-- Segments that end with a name are their own stem. -/
theorem stem_concat (parts : List String) {name : String} (h : isVacuous name = false) :
    stem (parts ++ [name]) = parts ++ [name] := by
  cases parts with
  | nil => rfl
  | cons first parts => rw [List.cons_append, stem, dropVacuous_concat _ h]

/-- The first segment stays, since it tells whether a path is absolute. -/
theorem head?_stem (parts : List String) : (stem parts).head? = parts.head? := by
  cases parts with
  | nil => rfl
  | cons first parts => rfl

/-- A stem leads where the segments lead: those that are left off lead nowhere else. -/
theorem exists_eq_stem_append (parts : List String) :
    ∃ rest, parts = stem parts ++ rest ∧ ∀ part ∈ rest, isVacuous part = true := by
  cases parts with
  | nil => exact ⟨[], rfl, by simp⟩
  | cons first parts =>
    obtain ⟨rest, hparts, hrest⟩ := exists_eq_dropVacuous_append parts
    exact ⟨rest, congrArg (first :: ·) hparts, hrest⟩

/-- The parent of a path has the segments before its last name. -/
theorem parent?_eq {path name : String} {front : List String}
    (h : segments path = front ++ [name]) (hname : isVacuous name = false) :
    parent? path = some (directoryText (stem front)) := by
  -- a first segment that leads nowhere else is not the name, so it is one of `front`
  have hnot : ∀ first body, isVacuous first = true → segments path = first :: body →
      ∃ more, front = first :: more ∧ body = more ++ [name] := by
    intro first body hfirst hcons
    cases front with
    | nil =>
      obtain ⟨rfl, -⟩ := List.cons.inj (h.symm.trans hcons)
      rw [hname] at hfirst
      exact absurd hfirst (by decide)
    | cons other more =>
      obtain ⟨rfl, rfl⟩ := List.cons.inj (h.symm.trans hcons)
      exact ⟨more, rfl, rfl⟩
  unfold parent?
  split
  next body hcons =>
    obtain ⟨more, rfl, rfl⟩ := hnot "" body rfl hcons
    rw [beforeLast?_concat hname, Option.map_some, stem, directoryText]
    by_cases hmore : dropVacuous more = []
    · simp [hmore, ofSegments]
    · simp [hmore, ofSegments_cons hmore]
  next body hcons =>
    obtain ⟨more, rfl, rfl⟩ := hnot "." body (by decide) hcons
    simp [beforeLast?_concat hname, stem, directoryText]
  next hempty hdot =>
    rw [h, beforeLast?_concat hname, Option.map_some]
    cases front with
    | nil => rfl
    | cons first more =>
      have hfirst : isVacuous first = false := by
        have hne : first ≠ "" := fun heq => hempty _ (by rw [h, heq]; rfl)
        have hne' : first ≠ "." := fun heq => hdot _ (by rw [h, heq]; rfl)
        simp [isVacuous, hne, hne']
      have hne : first :: dropVacuous more ≠ [""] := fun heq => by
        rw [(List.cons.inj heq).1] at hfirst
        exact absurd hfirst (by decide)
      rw [dropVacuous_cons hfirst, stem, directoryText, if_neg hne]

/-! ## Names behind a path -/

/-- How the segments of a directory are spelled: as those of the empty path, of the root, or of a
path that does not end with a slash. -/
inductive SpellsDirectory : List String → Prop
  | here : SpellsDirectory []
  | root : SpellsDirectory [""]
  | named (parts : List String) {last : String} : IsSegment last → last ≠ "" →
      SpellsDirectory (parts ++ [last])

/-- The parent of a path is spelled in one of the three ways. -/
theorem spellsDirectory_stem {parts : List String} (h : ∀ part ∈ parts, IsSegment part) :
    SpellsDirectory (stem parts) := by
  cases parts with
  | nil => exact .here
  | cons first parts =>
    obtain ⟨rest, hparts, -⟩ := exists_eq_dropVacuous_append parts
    rw [stem]
    rcases List.eq_nil_or_concat' (dropVacuous parts) with hdrop | ⟨front, last, hdrop⟩
    · rw [hdrop]
      by_cases hfirst : first = ""
      · exact hfirst ▸ .root
      · exact .named [] (h first (List.mem_cons_self ..)) hfirst
    · have hmem : last ∈ parts := by
        rw [hparts, hdrop]
        simp
      have hne : last ≠ "" := by
        rintro rfl
        exact absurd (isVacuous_of_dropVacuous_eq hdrop) (by decide)
      rw [hdrop]
      exact .named (first :: front) (h last (List.mem_cons_of_mem _ hmem)) hne

/-- A path ends with its last segment, whether or not there are others. -/
theorem exists_ofSegments_concat (parts : List String) (part : String) :
    ∃ front, ofSegments (parts ++ [part]) = front ++ part := by
  by_cases h : parts = []
  · exact ⟨"", by simp [h, ofSegments]⟩
  · exact ⟨_, ofSegments_concat h part⟩

/-- Only the root alone is spelled in a way of its own. -/
theorem directoryText_concat {last : String} (parts : List String) (h : last ≠ "") :
    directoryText (parts ++ [last]) = ofSegments (parts ++ [last]) := by
  have hne : parts ++ [last] ≠ [""] := fun heq =>
    h (List.append_singleton_inj.mp (heq.trans (List.nil_append [""]).symm)).2
  rw [directoryText, if_neg hne]

/-- A name put behind a directory is one more segment. -/
theorem join_directoryText {parts : List String} {name : String} (h : SpellsDirectory parts)
    (hname : isAbsolute name = false) :
    join (directoryText parts) name = ofSegments (parts ++ [name]) := by
  rw [join, hname, Bool.false_or]
  cases h with
  | here => simp [directoryText, ofSegments]
  | root =>
    rw [List.singleton_append, ofSegments_cons (by simp), ofSegments_singleton]
    rfl
  | @named parts last hlast hne =>
    obtain ⟨front, hfront⟩ := exists_ofSegments_concat parts last
    have hempty : (front ++ last).isEmpty = false := by simp [hne]
    -- the directory does not end with a slash, so one is put in between
    have hslash : ((front ++ last).toList.getLast? == some '/') = false := by
      obtain ⟨cs, c, hcs⟩ : ∃ cs c, last.toList = cs ++ [c] :=
        (List.eq_nil_or_concat' _).resolve_left (by simpa using hne)
      have hc : c ≠ '/' := fun hc => hlast (by rw [hcs, hc]; simp)
      simp [hcs, hc]
    rw [directoryText_concat parts hne, ofSegments_concat (List.concat_ne_nil last parts) name,
      hfront, hempty, hslash]
    simp

end SqlTemplate.Path
