/-!
# Entries in key order

A finite map from texts is a list of entries in ascending order of their keys,
so that what is listed is always sorted and two maps with the same entries are
the same list. Keys compare by code point.
-/

namespace SqlTemplate

/-- Entries under text keys. -/
abbrev Entries (α : Type) := List (String × α)

namespace Entries

variable {α : Type}

/-- The value under a key. -/
def find? (key : String) : Entries α → Option α
  | [] => none
  | (k, v) :: rest => if k = key then some v else find? key rest

/-- Puts a value under a key, in place of the one that was there. -/
def insert (key : String) (value : α) : Entries α → Entries α
  | [] => [(key, value)]
  | (k, v) :: rest =>
    if k = key then (key, value) :: rest
    else if key < k then (key, value) :: (k, v) :: rest
    else (k, v) :: insert key value rest

/-- The entries in key order; of two with one key the later stays. -/
def ofList (entries : List (String × α)) : Entries α :=
  entries.foldl (fun acc entry => insert entry.1 entry.2 acc) []

/-- The keys, in order. -/
def keys (entries : Entries α) : List String := entries.map (·.1)

/-- Each key is smaller than all that follow. -/
def Ascending (entries : Entries α) : Prop := entries.Pairwise (·.1 < ·.1)

@[simp] theorem find?_nil (key : String) : find? key ([] : Entries α) = none := rfl

/-- What is put under a key is found there. -/
theorem find?_insert_self (key : String) (value : α) (entries : Entries α) :
    find? key (insert key value entries) = some value := by
  induction entries with
  | nil => simp [insert, find?]
  | cons entry rest ih =>
    obtain ⟨k, v⟩ := entry
    by_cases hk : k = key
    · simp [insert, find?, hk]
    · by_cases hlt : key < k <;> simp [insert, find?, hk, hlt, ih]

/-- Other keys hold what they held. -/
theorem find?_insert_of_ne {key other : String} (h : key ≠ other) (value : α)
    (entries : Entries α) :
    find? other (insert key value entries) = find? other entries := by
  induction entries with
  | nil => simp [insert, find?, h]
  | cons entry rest ih =>
    obtain ⟨k, v⟩ := entry
    by_cases hk : k = key
    · subst hk; simp [insert, find?, h]
    · by_cases hlt : key < k <;> simp [insert, find?, hk, hlt, h, ih]

/-- Looking up after an insertion. -/
theorem find?_insert (key other : String) (value : α) (entries : Entries α) :
    find? other (insert key value entries) =
      if key = other then some value else find? other entries := by
  by_cases h : key = other
  · subst h; simp [find?_insert_self]
  · simp [h, find?_insert_of_ne h]

/-- The entries after an insertion are old ones or the new one. -/
theorem mem_insert {key : String} {value : α} {entries : Entries α} {entry : String × α}
    (h : entry ∈ insert key value entries) : entry = (key, value) ∨ entry ∈ entries := by
  induction entries with
  | nil => simp only [insert, List.mem_singleton] at h; exact Or.inl h
  | cons first rest ih =>
    obtain ⟨k, v⟩ := first
    by_cases hk : k = key
    · simp only [insert, hk, if_true, List.mem_cons] at h
      rcases h with h | h
      · exact Or.inl h
      · exact Or.inr (List.mem_cons_of_mem _ h)
    · by_cases hlt : key < k
      · simp only [insert, hk, hlt, if_true, if_false, List.mem_cons] at h
        rcases h with h | h
        · exact Or.inl h
        · exact Or.inr (by simpa using h)
      · simp only [insert, hk, hlt, if_false, List.mem_cons] at h
        rcases h with h | h
        · exact Or.inr (by simp [h])
        · rcases ih h with h | h
          · exact Or.inl h
          · exact Or.inr (List.mem_cons_of_mem _ h)

/-- A new entry comes to its place in the order. -/
theorem Ascending.insert {entries : Entries α} (h : entries.Ascending) (key : String)
    (value : α) : (Entries.insert key value entries).Ascending := by
  induction entries with
  | nil => simp [Entries.insert, Ascending]
  | cons entry rest ih =>
    obtain ⟨k, v⟩ := entry
    have hrest : Ascending rest := List.Pairwise.of_cons h
    have hhead : ∀ e ∈ rest, k < e.1 := (List.pairwise_cons.mp h).1
    by_cases hk : k = key
    · subst hk
      simp only [Entries.insert, if_true]
      exact List.pairwise_cons.mpr ⟨hhead, hrest⟩
    · by_cases hlt : key < k
      · simp only [Entries.insert, hk, hlt, if_true, if_false]
        refine List.pairwise_cons.mpr ⟨?_, h⟩
        intro e he
        rcases List.mem_cons.mp he with rfl | he
        · exact hlt
        · exact String.lt_trans hlt (hhead e he)
      · simp only [Entries.insert, hk, hlt, if_false]
        refine List.pairwise_cons.mpr ⟨?_, ih hrest⟩
        intro e he
        rcases mem_insert he with rfl | he
        · exact Std.lt_of_le_of_ne (String.not_lt.mp hlt) hk
        · exact hhead e he

/-- What is made of a list is in order. -/
theorem ascending_ofList (entries : List (String × α)) : (ofList entries).Ascending := by
  suffices ∀ (entries acc : List (String × α)), Ascending acc →
      Ascending (entries.foldl (fun acc entry => Entries.insert entry.1 entry.2 acc) acc) from
    this entries [] List.Pairwise.nil
  intro entries
  induction entries with
  | nil => intro acc h; exact h
  | cons entry rest ih => intro acc h; exact ih _ (h.insert entry.1 entry.2)

end Entries

end SqlTemplate
