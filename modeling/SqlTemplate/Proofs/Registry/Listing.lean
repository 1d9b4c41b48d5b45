import SqlTemplate.Proofs.Registry
import SqlTemplate.Proofs.Text.Bytes

/-!
# The order in which addresses are listed

Addresses are listed by namespace, and by key within each namespace. That need not be the order
of the texts, for the dot behind a namespace takes part in their comparison: `a-b` comes behind
`a`, yet `a-b.x` is a smaller text than `a.x`, since the hyphen is smaller than the dot. Where no
namespace goes on behind another one with such a character (`BelowDot`), the dot decides nothing
that the namespaces do not (`text_lt_iff_of_lt`).

> `qualifiedKeys_ascending_iff`: the list is strictly ascending exactly if, of the namespaces
> with templates, none goes on behind another one with a character below the dot.
-/

namespace SqlTemplate

open SqlTemplate.Text

/-- Whether the second of two namespaces is the first and more, going on with a character that
is smaller than a dot. -/
def BelowDot (ns ns' : String) : Prop :=
  ∃ c rest, ns'.toList = ns.toList ++ c :: rest ∧ c < '.'

/-- What goes on behind a namespace comes behind it. -/
theorem BelowDot.lt {ns ns' : String} (h : BelowDot ns ns') : ns < ns' := by
  obtain ⟨c, rest, htext, -⟩ := h
  have hlonger : ns.toList ++ [] < ns.toList ++ c :: rest :=
    List.append_left_lt (List.nil_lt_cons c rest)
  rwa [List.append_nil, ← htext] at hlonger

/-- With a dot behind either, two texts keep their order unless the dot of the first meets a
smaller character of the second. -/
theorem append_dot_lt_iff {xs ys : List Char} (h : xs < ys) (hdot : '.' ∉ ys) (us vs : List Char) :
    xs ++ '.' :: us < ys ++ '.' :: vs ↔ ¬ ∃ c rest, ys = xs ++ c :: rest ∧ c < '.' := by
  induction h with
  -- the first text is at its end: its dot meets the next character of the second
  | @nil c ys =>
    have hne : '.' ≠ c := fun heq => hdot (heq ▸ List.mem_cons_self ..)
    rw [List.nil_append, List.cons_append, List.cons_lt_cons_iff]
    constructor
    · rintro (hlt | ⟨heq, -⟩) ⟨c', rest, hys, hc'⟩
      · cases hys
        exact Char.lt_asymm hlt hc'
      · exact hne heq
    · intro hnone
      refine Or.inl (Std.lt_of_le_of_ne (Char.not_lt.mp fun hlt => ?_) hne)
      exact hnone ⟨c, ys, rfl, hlt⟩
  | @cons c xs ys _ ih =>
    have htail := ih fun hmem => hdot (List.mem_cons_of_mem _ hmem)
    rw [List.cons_append, List.cons_append, List.cons_lt_cons_iff]
    simp [htail]
  | @rel c xs d ys hcd =>
    have hne : d ≠ c := fun heq => Char.lt_irrefl c (heq ▸ hcd)
    rw [List.cons_append, List.cons_append, List.cons_lt_cons_iff]
    simp [hcd, hne]

namespace QualifiedKey

/-- Addresses are in the order of their namespaces unless the dot decides otherwise. -/
theorem text_lt_iff_of_lt {k l : QualifiedKey} (h : k.namespaceName < l.namespaceName)
    (hdot : '.' ∉ l.namespaceName.toList) :
    k.text < l.text ↔ ¬ BelowDot k.namespaceName l.namespaceName := by
  rw [String.lt_iff, toList_text, toList_text]
  exact append_dot_lt_iff (String.lt_iff.mp h) hdot _ _

/-- In one namespace the keys decide. -/
theorem text_lt_of_key_lt (ns : String) {key key' : String} (h : key < key') :
    (QualifiedKey.mk ns key).text < (QualifiedKey.mk ns key').text := by
  rw [String.lt_iff, toList_text, toList_text]
  exact List.append_left_lt (List.cons_lt_cons_iff.mpr (Or.inr ⟨rfl, String.lt_iff.mp h⟩))

end QualifiedKey

namespace Registry

variable {r : Registry} {history : List Write} {ns ns' : String}

/-- A template stands in each namespace that is present with templates, and in no other. -/
theorem exists_find?_iff (h : Ordered r) :
    (∃ key t, r.find? ns key = some t) ↔
      ∃ templates, (ns, templates) ∈ r.namespaces ∧ templates ≠ [] := by
  constructor
  · rintro ⟨key, t, hfind⟩
    obtain ⟨templates, hns, hkey⟩ := Option.bind_eq_some_iff.mp hfind
    exact ⟨templates, Entries.mem_of_find? hns, List.ne_nil_of_mem (Entries.mem_of_find? hkey)⟩
  · rintro ⟨templates, hmem, hne⟩
    obtain ⟨⟨key, t⟩, rest, rfl⟩ := List.exists_cons_of_ne_nil hne
    refine ⟨key, t, Option.bind_eq_some_iff.mpr ⟨_, Entries.find?_of_mem h.namespaces hmem, ?_⟩⟩
    exact Entries.find?_of_mem (h.keys _ hmem) (List.mem_cons_self ..)

/-- Whether the addresses are listed in the order of their bytes, none of them twice. -/
def ListedInOrder (r : Registry) : Prop := r.qualifiedKeys.Pairwise fun a b => bytes a < bytes b

/-- Whether, of the namespaces with templates, some goes on behind another one with a character
below the dot. -/
def SomeBelowDot (r : Registry) : Prop :=
  ∃ ns ns', (∃ key t, r.find? ns key = some t) ∧ (∃ key t, r.find? ns' key = some t) ∧
    BelowDot ns ns'

/-- The dot decides nothing between namespaces exactly if the addresses are in order. -/
theorem qualifiedKeys_ascending_iff (h : Ordered r)
    (hdots : ∀ entry ∈ r.namespaces, '.' ∉ entry.1.toList) :
    r.ListedInOrder ↔ ¬ r.SomeBelowDot := by
  simp only [ListedInOrder, bytes_lt_iff]
  unfold qualifiedKeys
  rw [List.pairwise_flatMap]
  constructor
  · rintro ⟨-, hpairs⟩ ⟨ns, ns', hns, hns', hbelow⟩
    obtain ⟨templates, hmem, hne⟩ := (exists_find?_iff h).mp hns
    obtain ⟨templates', hmem', hne'⟩ := (exists_find?_iff h).mp hns'
    obtain ⟨a, ha⟩ := List.exists_mem_of_ne_nil _ hne
    obtain ⟨b, hb⟩ := List.exists_mem_of_ne_nil _ hne'
    have hsorted := h.namespaces.rel_of_lt hpairs hmem hmem' hbelow.lt
      _ (List.mem_map_of_mem ha) _ (List.mem_map_of_mem hb)
    exact (QualifiedKey.text_lt_iff_of_lt hbelow.lt (hdots _ hmem')).mp hsorted hbelow
  · intro hnone
    refine ⟨?_, h.namespaces.imp_of_mem ?_⟩
    · rintro ⟨ns, templates⟩ hmem
      exact List.pairwise_map.mpr ((h.keys _ hmem).imp (QualifiedKey.text_lt_of_key_lt ns))
    · rintro ⟨ns, templates⟩ ⟨ns', templates'⟩ hmem hmem' hlt _ hx _ hy
      obtain ⟨a, ha, rfl⟩ := List.mem_map.mp hx
      obtain ⟨b, hb, rfl⟩ := List.mem_map.mp hy
      refine (QualifiedKey.text_lt_iff_of_lt hlt (hdots _ hmem')).mpr fun hbelow => hnone ?_
      exact ⟨ns, ns', (exists_find?_iff h).mpr ⟨templates, hmem, List.ne_nil_of_mem ha⟩,
        (exists_find?_iff h).mpr ⟨templates', hmem', List.ne_nil_of_mem hb⟩, hbelow⟩

/-- The namespaces of a registry that writes have made hold no dot if those that were written to
hold none. -/
theorem dot_not_mem_of_entry (hdots : ∀ w ∈ history, '.' ∉ w.namespaceName.toList)
    (entry : String × Entries Template) (hmem : entry ∈ (after history).namespaces) :
    '.' ∉ entry.1.toList := by
  have hfind : (after history).templates? entry.1 = some entry.2 :=
    Entries.find?_of_mem (ordered_after history).namespaces hmem
  exact dot_not_mem_of_present hdots (Option.isSome_iff_exists.mpr ⟨entry.2, hfind⟩)

/-- **When addresses are listed in order.** In a registry that writes have made and whose
namespaces hold no dot, the addresses are listed in the strictly ascending order of their bytes
exactly if, of the namespaces with templates, none goes on behind another one with a character
below the dot. What is loaded is such a registry. -/
theorem listed_in_order_iff (r : Registry) :
    ((∃ history, r = after history) → (∀ entry ∈ r.namespaces, '.' ∉ entry.1.toList) →
      (r.ListedInOrder ↔ ¬ r.SomeBelowDot)) ∧
    ∀ (directory : String) (files : List Library.File), Library.ofFiles directory files = .ok r →
      (∀ entry ∈ r.namespaces, '.' ∉ entry.1.toList) ∧ (r.ListedInOrder ↔ ¬ r.SomeBelowDot) := by
  constructor
  · rintro ⟨history, rfl⟩ hdots
    exact qualifiedKeys_ascending_iff (ordered_after history) hdots
  · intro directory files h
    have hnone : ∀ w ∈ ([] : List Write), '.' ∉ w.namespaceName.toList :=
      fun _ hw => absurd hw List.not_mem_nil
    obtain ⟨history, hhistory, rfl⟩ := exists_history_of_foldlM hnone h
    have hdots := dot_not_mem_of_entry hhistory
    exact ⟨hdots, qualifiedKeys_ascending_iff (ordered_after history) hdots⟩

/-- A namespace behind another one with an underscore, which is above the dot, and one with a
hyphen that has no templates. -/
theorem listed_in_order_underscore :
    let t : Template := [.literal "SELECT 1"]
    let history : List Write :=
      [.whole "user-old" [], .one "user" "one" t, .one "user_group" "all" t, .one "user" "all" t]
    (∀ entry ∈ (after history).namespaces, '.' ∉ entry.1.toList) ∧
      (after history).qualifiedKeys = ["user.all", "user.one", "user_group.all"] ∧
      (after history).ListedInOrder ∧ ¬ (after history).SomeBelowDot := by
  intro t history
  have hdots : ∀ entry ∈ (after history).namespaces, '.' ∉ entry.1.toList := by
    decide +kernel
  have hlisted : (after history).qualifiedKeys = ["user.all", "user.one", "user_group.all"] := by
    rfl
  have horder : (after history).ListedInOrder := by
    rw [ListedInOrder, hlisted]
    decide +kernel
  refine ⟨hdots, hlisted, horder, ?_⟩
  exact ((listed_in_order_iff (after history)).1 ⟨history, rfl⟩ hdots).mp horder

/-- Two files are loaded, and the addresses are not listed in the order of their bytes: the hyphen
is below the dot. -/
theorem loaded_listed_out_of_order :
    ∃ r, Library.ofFiles "sql" [("a-b.yml", .ok "x: SELECT 1"), ("a.yml", .ok "x: SELECT 1")] =
        .ok r ∧
      (∀ entry ∈ r.namespaces, '.' ∉ entry.1.toList) ∧
      r.qualifiedKeys = ["a.x", "a-b.x"] ∧ bytes "a-b.x" < bytes "a.x" ∧ ¬ r.ListedInOrder := by
  generalize hload : Library.ofFiles "sql" [("a-b.yml", .ok "x: SELECT 1"),
    ("a.yml", .ok "x: SELECT 1")] = outcome
  have hentries : outcome.toOption.map Registry.namespaces =
      some [("a", [("x", [.literal "SELECT 1"])]), ("a-b", [("x", [.literal "SELECT 1"])])] := by
    rw [← hload]
    decide +kernel
  cases outcome with
  | error err => cases hentries
  | ok r =>
    obtain ⟨namespaces⟩ := r
    cases hentries
    refine ⟨_, rfl, by decide, by rfl, by decide +kernel, ?_⟩
    unfold ListedInOrder
    decide +kernel

end Registry

end SqlTemplate
