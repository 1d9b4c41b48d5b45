import SqlTemplate.Keyed

/-!
# What entries hold

Looking up is membership: in ascending entries a value is found under a key exactly if both
stand there as an entry (`mem_of_find?`, `find?_of_mem`). Entries made of a list hold, under
each key, what the list has last (`find?_ofList`).
-/

namespace SqlTemplate.Entries

variable {α : Type} {key : String} {value : α} {entries : Entries α}

/-- What is found under a key is an entry. -/
theorem mem_of_find? (h : find? key entries = some value) : (key, value) ∈ entries := by
  induction entries with
  | nil => cases h
  | cons entry rest ih =>
    obtain ⟨k, v⟩ := entry
    unfold find? at h
    split at h
    next hk =>
      cases h
      exact hk ▸ List.mem_cons_self ..
    next => exact List.mem_cons_of_mem _ (ih h)

/-- In ascending entries no entry hides another. -/
theorem find?_of_mem (h : entries.Ascending) (hmem : (key, value) ∈ entries) :
    find? key entries = some value := by
  induction entries with
  | nil => cases hmem
  | cons entry rest ih =>
    obtain ⟨k, v⟩ := entry
    obtain ⟨hfirst, hrest⟩ := List.pairwise_cons.mp h
    rcases List.mem_cons.mp hmem with heq | hmem
    · cases heq
      exact if_pos rfl
    · have hne : k ≠ key := fun hk => String.lt_irrefl key (hk ▸ hfirst _ hmem)
      exact (if_neg hne).trans (ih hrest hmem)

/-- What holds of every two entries in their order holds of two with keys in that order. -/
theorem Ascending.rel_of_lt {S : String × α → String × α → Prop} (h : entries.Ascending)
    (hS : entries.Pairwise S) {a b : String × α} (ha : a ∈ entries) (hb : b ∈ entries)
    (hab : a.1 < b.1) : S a b := by
  obtain ⟨before, behind, rfl⟩ := List.append_of_mem ha
  obtain ⟨-, hbehind, -⟩ := List.pairwise_append.mp hS
  obtain ⟨-, -, hbefore⟩ := List.pairwise_append.mp h
  rcases List.mem_append.mp hb with hb | hb
  · exact absurd (hbefore b hb a (List.mem_cons_self ..)) (String.lt_asymm hab)
  · rcases List.mem_cons.mp hb with rfl | hb
    · exact absurd hab (String.lt_irrefl _)
    · exact (List.pairwise_cons.mp hbehind).1 b hb

/-- The last of the values that a list has under a key. -/
theorem find?_ofList (list : List (String × α)) (key : String) :
    find? key (ofList list) = list.reverse.lookup key := by
  suffices ∀ acc : Entries α,
      find? key (list.foldl (fun acc entry => insert entry.1 entry.2 acc) acc) =
        (list.reverse.lookup key).or (find? key acc) by
    simpa [ofList] using this []
  induction list with
  | nil => exact fun _ => rfl
  | cons entry list ih =>
    obtain ⟨k, v⟩ := entry
    intro acc
    rw [List.foldl_cons, ih, find?_insert, List.reverse_cons, List.lookup_append, Option.or_assoc,
      List.lookup_cons, List.lookup_nil]
    congr 1
    by_cases hkey : k = key
    · simp [hkey]
    · have hne : (key == k) = false := by simpa using Ne.symm hkey
      simp [hkey, hne]

/-- One value under each of some keys. -/
def insertAll (keys : List String) (value : α) (entries : Entries α) : Entries α :=
  keys.foldl (fun acc key => insert key value acc) entries

/-- The keys hold the value, and all others what they held. -/
theorem find?_insertAll (keys : List String) (value : α) (key : String) (entries : Entries α) :
    find? key (entries.insertAll keys value) =
      if key ∈ keys then some value else find? key entries := by
  unfold insertAll
  induction keys generalizing entries with
  | nil => rfl
  | cons first keys ih =>
    rw [List.foldl_cons, ih, find?_insert]
    by_cases hfirst : first = key
    · simp [hfirst]
    · simp [hfirst, Ne.symm hfirst]

end SqlTemplate.Entries
