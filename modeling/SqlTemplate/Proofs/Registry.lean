import SqlTemplate.Library
import SqlTemplate.Proofs.Keyed
import SqlTemplate.Proofs.Render.TwoRuns
import Mathlib.Data.List.Nodup
import Mathlib.Data.List.TakeWhile

/-!
# What a registry lists

A registry is reached from the empty one by writes: of one template, in place of the one that
was there, and of a whole namespace, which has no effect where the namespace is present. What
is registered at an address is told by the history of the writes alone (`registered`), and the
registry finds just that (`find?_after`).

Addresses are listed as texts, a namespace and a key with a dot between them. The first dot of
a text is this one if no namespace has a dot (`QualifiedKey.parse?_eq_some_iff`), and then no
two addresses have one text. So what is listed is what can be fetched:

> `lists_what_it_finds`: a text is listed, and once only, exactly if it leads to a template,
> and that is the one registered last at the address.
-/

namespace SqlTemplate

/-! ## Addresses as texts -/

namespace QualifiedKey

theorem toList_text (k : QualifiedKey) :
    k.text.toList = k.namespaceName.toList ++ '.' :: k.key.toList := by
  simp [text]

/-- An address is read off its text at the first dot. -/
theorem parse?_eq_some_iff {qualified : String} {k : QualifiedKey} :
    parse? qualified = some k ↔ '.' ∉ k.namespaceName.toList ∧ k.text = qualified := by
  have hdot : ∀ c : Char, (c != '.') = true ↔ c ≠ '.' := fun c => bne_iff_ne
  constructor
  · intro h
    unfold parse? at h
    dsimp only at h
    split at h
    next key hrest =>
      cases h
      refine ⟨?_, String.toList_inj.mp ?_⟩
      · intro hmem
        rw [String.toList_ofList] at hmem
        have hother := List.mem_takeWhile_imp hmem
        exact (hdot '.').mp hother rfl
      · rw [toList_text, String.toList_ofList, String.toList_ofList, ← hrest,
          List.takeWhile_append_dropWhile]
    next => cases h
  · rintro ⟨hns, rfl⟩
    have hbefore : ∀ c ∈ k.namespaceName.toList, (c != '.') = true :=
      fun c hc => (hdot c).mpr fun heq => hns (heq ▸ hc)
    unfold parse?
    dsimp only
    rw [toList_text, List.takeWhile_append_of_pos hbefore, List.dropWhile_append_of_pos hbefore]
    simp

/-- Texts tell addresses apart whose namespaces have no dot. -/
theorem text_injective {k l : QualifiedKey} (hk : '.' ∉ k.namespaceName.toList)
    (hl : '.' ∉ l.namespaceName.toList) (h : k.text = l.text) : k = l := by
  have hparse := parse?_eq_some_iff.mpr ⟨hk, h⟩
  rw [parse?_eq_some_iff.mpr ⟨hl, rfl⟩] at hparse
  exact (Option.some.inj hparse).symm

end QualifiedKey

namespace Registry

/-! ## Writes -/

/-- A write to a registry: of one template, or of all templates of a namespace. -/
inductive Write where
  | one (namespaceName key : String) (template : Template)
  | whole (namespaceName : String) (templates : List (String × Template))

namespace Write

/-- The namespace that is written to. -/
def namespaceName : Write → String
  | .one ns _ _ => ns
  | .whole ns _ => ns

/-- The registry after a write. One that is refused changes nothing. -/
def apply (r : Registry) : Write → Registry
  | .one ns key t => r.insert ns key t
  | .whole ns templates => (r.insertNamespace? ns templates).getD r

end Write

/-- The registry after some writes, the latest of which comes first. -/
def after : List Write → Registry
  | [] => empty
  | w :: earlier => w.apply (after earlier)

/-- What is registered at an address after some writes, the latest of which comes first. Writing
a whole namespace counts if no write before it named the namespace, and of two templates that
it has under one key the second counts. -/
def registered (ns key : String) : List Write → Option Template
  | [] => none
  | .one ns' key' t :: earlier =>
    if ns' = ns ∧ key' = key then some t else registered ns key earlier
  | .whole ns' templates :: earlier =>
    if ns' = ns ∧ ∀ w ∈ earlier, w.namespaceName ≠ ns then templates.reverse.lookup key
    else registered ns key earlier

/-! ## What one write does -/

variable (r : Registry) (ns key : String) (t : Template) (templates : List (String × Template))

/-- Writing one template changes the templates of its namespace only. -/
theorem templates?_insert (other : String) :
    (r.insert ns key t).templates? other =
      if ns = other then some (Entries.insert key t ((r.templates? ns).getD []))
      else r.templates? other :=
  Entries.find?_insert ns other _ r.namespaces

theorem find?_insert (ns' key' : String) :
    (r.insert ns key t).find? ns' key' =
      if ns = ns' ∧ key = key' then some t else r.find? ns' key' := by
  unfold find?
  rw [templates?_insert]
  by_cases hns : ns = ns'
  · subst hns
    rw [if_pos rfl, Option.bind_some, Entries.find?_insert]
    by_cases hkey : key = key'
    · simp [hkey]
    · simp only [hkey, and_false, if_false]
      cases r.templates? ns <;> rfl
  · simp [hns]

theorem hasNamespace_insert (other : String) :
    (r.insert ns key t).hasNamespace other = true ↔ ns = other ∨ r.hasNamespace other = true := by
  unfold hasNamespace
  rw [templates?_insert]
  by_cases hns : ns = other <;> simp [hns]

/-- A namespace that is present is not written again. -/
theorem insertNamespace?_eq_none_iff :
    r.insertNamespace? ns templates = none ↔ r.hasNamespace ns = true := by
  unfold insertNamespace?
  split <;> simp_all

/-- A namespace that is written has the templates that it was written with. -/
theorem templates?_of_insertNamespace? {r' : Registry}
    (h : r.insertNamespace? ns templates = some r') (other : String) :
    r'.templates? other = if ns = other then some (Entries.ofList templates)
      else r.templates? other := by
  unfold insertNamespace? at h
  split at h
  next => cases h
  next =>
    cases h
    exact Entries.find?_insert ns other _ r.namespaces

/-- Writing a whole namespace has an effect only where the namespace is absent. -/
theorem templates?_whole (other : String) :
    (Write.apply r (.whole ns templates)).templates? other =
      if ns = other ∧ r.hasNamespace ns = false then some (Entries.ofList templates)
      else r.templates? other := by
  change ((r.insertNamespace? ns templates).getD r).templates? other = _
  cases hr' : r.insertNamespace? ns templates with
  | none =>
    have hpresent := (insertNamespace?_eq_none_iff r ns templates).mp hr'
    simp [hpresent]
  | some r' =>
    have habsent : r.hasNamespace ns = false := by
      rw [← Bool.not_eq_true, ← insertNamespace?_eq_none_iff r ns templates, hr']
      exact Option.some_ne_none r'
    simp [habsent, templates?_of_insertNamespace? r ns templates hr' other]

/-! ## What a history does -/

variable {r ns key t templates} {history : List Write}

/-- A namespace is present exactly if some write named it. -/
theorem hasNamespace_after :
    (after history).hasNamespace ns = true ↔ ∃ w ∈ history, w.namespaceName = ns := by
  induction history with
  | nil => simp [after, empty, hasNamespace, templates?]
  | cons w earlier ih =>
    rw [List.exists_mem_cons_iff, ← ih, after]
    cases w with
    | one ns' key' t' => exact hasNamespace_insert _ _ _ _ _
    | whole ns' templates' =>
      unfold hasNamespace
      rw [templates?_whole]
      by_cases hns : ns' = ns
      · subst hns
        unfold hasNamespace
        cases ((after earlier).templates? ns') <;> simp [Write.namespaceName]
      · simp [hns, Write.namespaceName]

/-- **The last write that took effect.** A registry finds what its history has registered. -/
theorem find?_after (history : List Write) (ns key : String) :
    (after history).find? ns key = registered ns key history := by
  induction history with
  | nil => rfl
  | cons w earlier ih =>
    rw [after]
    cases w with
    | one ns' key' t =>
      rw [registered, ← ih]
      exact find?_insert _ _ _ _ _ _
    | whole ns' templates =>
      have hfresh : (after earlier).hasNamespace ns = false ↔
          ∀ w ∈ earlier, w.namespaceName ≠ ns := by
        rw [← Bool.not_eq_true, hasNamespace_after]
        simp
      rw [registered, ← ih, find?, templates?_whole]
      by_cases hns : ns' = ns
      · subst hns
        by_cases h : (after earlier).hasNamespace ns' = false
        · rw [if_pos ⟨rfl, h⟩, if_pos ⟨rfl, hfresh.mp h⟩, Option.bind_some, Entries.find?_ofList]
        · rw [if_neg fun hand => h hand.2, if_neg fun hand => h (hfresh.mpr hand.2)]
          rfl
      · rw [if_neg fun hand => hns hand.1, if_neg fun hand => hns hand.1]
        rfl

/-! ## What is listed -/

/-- Namespaces, and the keys of each, stand in ascending order. -/
structure Ordered (r : Registry) : Prop where
  namespaces : r.namespaces.Ascending
  keys : ∀ entry ∈ r.namespaces, entry.2.Ascending

/-- A namespace put in place keeps the order if it is in order itself. -/
theorem Ordered.put (h : Ordered r) {templates : Entries Template} (ht : templates.Ascending) :
    Ordered ⟨Entries.insert ns templates r.namespaces⟩ where
  namespaces := h.namespaces.insert ns templates
  keys entry hentry := by
    rcases Entries.mem_insert hentry with rfl | hold
    · exact ht
    · exact h.keys entry hold

/-- Every write keeps the order. -/
theorem Ordered.apply (h : Ordered r) (w : Write) : Ordered (w.apply r) := by
  cases w with
  | one ns key t =>
    refine h.put (Entries.Ascending.insert ?_ key t)
    cases hns : r.templates? ns with
    | none => exact List.Pairwise.nil
    | some templates => exact h.keys _ (Entries.mem_of_find? hns)
  | whole ns templates =>
    change Ordered ((r.insertNamespace? ns templates).getD r)
    unfold insertNamespace?
    split
    next => exact h
    next => exact h.put (Entries.ascending_ofList templates)

/-- So whatever has been written stands in order. -/
theorem ordered_after (history : List Write) : Ordered (after history) := by
  induction history with
  | nil => exact ⟨List.Pairwise.nil, fun _ h => absurd h List.not_mem_nil⟩
  | cons w earlier ih => exact ih.apply w

/-- Listed are the addresses at which a template is found. -/
theorem mem_qualifiedKeys (h : Ordered r) {qualified : String} :
    qualified ∈ r.qualifiedKeys ↔
      ∃ k : QualifiedKey, k.text = qualified ∧ ∃ t, r.find? k.namespaceName k.key = some t := by
  unfold qualifiedKeys
  rw [List.mem_flatMap]
  constructor
  · rintro ⟨⟨ns, templates⟩, hns, hmem⟩
    obtain ⟨⟨key, t⟩, hkey, rfl⟩ := List.mem_map.mp hmem
    refine ⟨⟨ns, key⟩, rfl, t, Option.bind_eq_some_iff.mpr ⟨templates, ?_, ?_⟩⟩
    · exact Entries.find?_of_mem h.namespaces hns
    · exact Entries.find?_of_mem (h.keys _ hns) hkey
  · rintro ⟨⟨ns, key⟩, rfl, t, hfind⟩
    obtain ⟨templates, hns, hkey⟩ := Option.bind_eq_some_iff.mp hfind
    exact ⟨(ns, templates), Entries.mem_of_find? hns,
      List.mem_map.mpr ⟨(key, t), Entries.mem_of_find? hkey, rfl⟩⟩

/-- No address is listed twice, where namespaces have no dot. -/
theorem nodup_qualifiedKeys (h : Ordered r)
    (hdots : ∀ entry ∈ r.namespaces, '.' ∉ entry.1.toList) : r.qualifiedKeys.Nodup := by
  -- within a namespace the keys differ, and between namespaces the namespaces do
  refine List.nodup_flatMap.mpr ⟨?_, ?_⟩
  · rintro ⟨ns, templates⟩ hns
    refine List.pairwise_map.mpr ((h.keys _ hns).imp fun {a b} hlt heq => ?_)
    have hkeys : QualifiedKey.mk ns a.1 = ⟨ns, b.1⟩ :=
      QualifiedKey.text_injective (hdots _ hns) (hdots _ hns) heq
    rw [(QualifiedKey.mk.inj hkeys).2] at hlt
    exact String.lt_irrefl _ hlt
  · refine h.namespaces.imp_of_mem ?_
    rintro ⟨ns, templates⟩ ⟨ns', templates'⟩ hns hns' hlt qualified hin hin'
    obtain ⟨a, -, ha⟩ := List.mem_map.mp hin
    obtain ⟨b, -, hb⟩ := List.mem_map.mp hin'
    have hkeys : QualifiedKey.mk ns a.1 = ⟨ns', b.1⟩ :=
      QualifiedKey.text_injective (hdots _ hns) (hdots _ hns') (ha.trans hb.symm)
    rw [(QualifiedKey.mk.inj hkeys).1] at hlt
    exact String.lt_irrefl _ hlt

theorem size_eq_length (r : Registry) : r.size = r.qualifiedKeys.length := by
  obtain ⟨namespaces⟩ := r
  unfold size qualifiedKeys
  induction namespaces with
  | nil => rfl
  | cons entry rest ih =>
    rw [List.foldr_cons, List.flatMap_cons, List.length_append, List.length_map]
    exact congrArg (entry.2.length + ·) ih

/-! ## Loaded registries -/

theorem dot_not_mem_namespaceOf? {name ns : String} (h : Library.namespaceOf? name = some ns) :
    '.' ∉ ns.toList := by
  unfold Library.namespaceOf? at h
  split at h
  next => cases h
  next hstem =>
    cases h
    simp only [Bool.or_eq_true, not_or] at hstem
    simpa using hstem.2

/-- A file that is added is one write, to a namespace without a dot. -/
theorem exists_write_of_addFile {directory : String} {file : Library.File} {r' : Registry}
    (h : Library.addFile directory r file = .ok r') :
    ∃ w : Write, '.' ∉ w.namespaceName.toList ∧ r' = w.apply r := by
  unfold Library.addFile at h
  dsimp only at h
  split at h
  next => cases h
  next ns hns =>
    split at h
    next => cases h
    next source _ =>
      split at h
      next => cases h
      next templates _ =>
        split at h
        next extended hinsert =>
          cases h
          refine ⟨.whole ns templates, dot_not_mem_namespaceOf? hns, ?_⟩
          rw [Write.apply, hinsert]
          rfl
        next => cases h

/-- What is loaded is reached by writes to namespaces without a dot. -/
theorem exists_history_of_foldlM {directory : String} {files : List Library.File}
    (hdots : ∀ w ∈ history, '.' ∉ w.namespaceName.toList)
    (h : files.foldlM (Library.addFile directory) (after history) = .ok r) :
    ∃ history', (∀ w ∈ history', '.' ∉ w.namespaceName.toList) ∧ r = after history' := by
  -- on the files, each of which adds a write to the history
  induction files generalizing history with
  | nil =>
    cases h
    exact ⟨history, hdots, rfl⟩
  | cons file files ih =>
    rw [List.foldlM_cons] at h
    cases hfile : Library.addFile directory (after history) file with
    | error err =>
      rw [hfile] at h
      cases h
    | ok r' =>
      rw [hfile] at h
      obtain ⟨w, hw, rfl⟩ := exists_write_of_addFile hfile
      have hmore : ∀ w' ∈ w :: history, '.' ∉ w'.namespaceName.toList :=
        List.forall_mem_cons.mpr ⟨hw, hdots⟩
      exact ih hmore h

/-! ## Listing and fetching -/

section

variable (hdots : ∀ w ∈ history, '.' ∉ w.namespaceName.toList)

include hdots

/-- A namespace that is present was written to, so it has no dot. -/
theorem dot_not_mem_of_present (h : (after history).hasNamespace ns = true) :
    '.' ∉ ns.toList := by
  obtain ⟨w, hw, rfl⟩ := hasNamespace_after.mp h
  exact hdots w hw

/-- No address is listed twice. -/
theorem nodup_qualifiedKeys_after : (after history).qualifiedKeys.Nodup := by
  refine nodup_qualifiedKeys (ordered_after history) ?_
  rintro ⟨ns, templates⟩ hmem
  have hfind : (after history).templates? ns = some templates :=
    Entries.find?_of_mem (ordered_after history).namespaces hmem
  exact dot_not_mem_of_present hdots (Option.isSome_iff_exists.mpr ⟨templates, hfind⟩)

/-- What leads to a template is listed, and what is listed leads to one. -/
theorem exists_template_iff_listed (settings : Settings) (qualified : String) :
    (∃ t, (Engine.mk (after history) settings).template qualified = .ok t) ↔
      qualified ∈ (after history).qualifiedKeys := by
  rw [mem_qualifiedKeys (ordered_after history)]
  constructor
  · rintro ⟨t, ht⟩
    obtain ⟨k, hparse, hfind⟩ := Engine.template_eq_ok_iff.mp ht
    exact ⟨k, (QualifiedKey.parse?_eq_some_iff.mp hparse).2, t, hfind⟩
  · rintro ⟨k, htext, t, hfind⟩
    obtain ⟨templates, hns, -⟩ := Option.bind_eq_some_iff.mp hfind
    have hdot := dot_not_mem_of_present hdots (Option.isSome_iff_exists.mpr ⟨templates, hns⟩)
    have hparse := QualifiedKey.parse?_eq_some_iff.mpr ⟨hdot, htext⟩
    exact ⟨t, Engine.template_eq_ok_iff.mpr ⟨k, hparse, hfind⟩⟩

end

/-- The template that is fetched is the one registered behind the first dot. -/
theorem template_after_eq_ok_iff (history : List Write) (settings : Settings)
    {qualified : String} {t : Template} :
    (Engine.mk (after history) settings).template qualified = .ok t ↔
      ∃ ns key, '.' ∉ ns.toList ∧ ns ++ "." ++ key = qualified ∧
        registered ns key history = some t := by
  rw [Engine.template_eq_ok_iff]
  constructor
  · rintro ⟨k, hparse, hfind⟩
    obtain ⟨hns, htext⟩ := QualifiedKey.parse?_eq_some_iff.mp hparse
    exact ⟨k.namespaceName, k.key, hns, htext, find?_after history _ _ ▸ hfind⟩
  · rintro ⟨ns, key, hns, htext, hregistered⟩
    refine ⟨⟨ns, key⟩, QualifiedKey.parse?_eq_some_iff.mpr ⟨hns, htext⟩, ?_⟩
    exact (find?_after history ns key).trans hregistered

/-- **A registry lists what it finds.** After any writes to namespaces without a dot, a text is
listed exactly if it leads to a template, and then it is listed once. The template is the one
registered at the namespace before the first dot and the key behind it. The size is the number of
addresses listed, and a whole namespace is refused exactly if some write named it before. What is
loaded is such a registry. -/
theorem lists_what_it_finds :
    (∀ history : List Write, (∀ w ∈ history, '.' ∉ w.namespaceName.toList) →
      ∀ (settings : Settings) (qualified : String),
        ((∃ t, (Engine.mk (after history) settings).template qualified = .ok t) ↔
          qualified ∈ (after history).qualifiedKeys) ∧
        (qualified ∈ (after history).qualifiedKeys →
          (after history).qualifiedKeys.count qualified = 1) ∧
        (∀ t, (Engine.mk (after history) settings).template qualified = .ok t ↔
          ∃ ns key, '.' ∉ ns.toList ∧ ns ++ "." ++ key = qualified ∧
            registered ns key history = some t) ∧
        (after history).size = (after history).qualifiedKeys.length ∧
        ∀ ns templates, (after history).insertNamespace? ns templates = none ↔
          ∃ w ∈ history, w.namespaceName = ns) ∧
    ∀ (directory : String) (files : List Library.File) (r : Registry),
      Library.ofFiles directory files = .ok r →
      ∃ history, (∀ w ∈ history, '.' ∉ w.namespaceName.toList) ∧ r = after history := by
  constructor
  · intro history hdots settings qualified
    refine ⟨exists_template_iff_listed hdots settings qualified, ?_,
      fun t => template_after_eq_ok_iff history settings, size_eq_length _, fun ns templates => ?_⟩
    · exact List.count_eq_one_of_mem (nodup_qualifiedKeys_after hdots)
    · rw [insertNamespace?_eq_none_iff, hasNamespace_after]
  · intro directory files r h
    have hnone : ∀ w ∈ ([] : List Write), '.' ∉ w.namespaceName.toList :=
      fun _ hw => absurd hw List.not_mem_nil
    exact exists_history_of_foldlM hnone h

/-- A namespace that is present though empty, a key with dots that is written twice, and an
address of two empty parts. -/
theorem lists_what_it_finds_overwritten :
    let stale : Template := [.literal "SELECT 1"]
    let fresh : Template := [.literal "SELECT * FROM users WHERE id = :id"]
    let history : List Write := [.whole "user" [("all", stale)], .one "user" "find.byId" fresh,
      .one "user" "find.byId" stale, .whole "user" [], .whole "" [("", stale), ("", fresh)]]
    let files : List Library.File := [("user.yml", .ok ""), ("order.yaml", .ok "")]
    (∀ w ∈ history, '.' ∉ w.namespaceName.toList) ∧
      (after history).qualifiedKeys = [".", "user.find.byId"] ∧
      (after history).qualifiedKeys.count "user.find.byId" = 1 ∧
      (Engine.mk (after history) {}).template "user.find.byId" = .ok fresh ∧
      (Engine.mk (after history) {}).template "." = .ok fresh ∧
      (¬ ∃ t, (Engine.mk (after history) {}).template "user.all" = .ok t) ∧
      (after history).insertNamespace? "user" [("all", stale)] = none ∧
      Library.ofFiles "sql" files = .ok ⟨[("order", []), ("user", [])]⟩ ∧
      ∃ loaded, (∀ w ∈ loaded, '.' ∉ w.namespaceName.toList) ∧
        ⟨[("order", []), ("user", [])]⟩ = after loaded := by
  intro stale fresh history files
  obtain ⟨hreached, hloaded⟩ := lists_what_it_finds
  have hdots : ∀ w ∈ history, '.' ∉ w.namespaceName.toList := by decide
  have hlisted : (after history).qualifiedKeys = [".", "user.find.byId"] := by rfl
  have hfiles : Library.ofFiles "sql" files = .ok ⟨[("order", []), ("user", [])]⟩ := by rfl
  obtain ⟨-, honce, hfind, -, hrefused⟩ := hreached history hdots {} "user.find.byId"
  obtain ⟨-, -, hempty, -⟩ := hreached history hdots {} "."
  obtain ⟨hall, -⟩ := hreached history hdots {} "user.all"
  refine ⟨hdots, hlisted, honce (by simp [hlisted]), (hfind fresh).mpr ?_, (hempty fresh).mpr ?_,
    fun h => ?_, (hrefused "user" _).mpr ?_, hfiles, hloaded "sql" files _ hfiles⟩
  · exact ⟨"user", "find.byId", by decide, by rfl, by rfl⟩
  · exact ⟨"", "", by decide, by rfl, by rfl⟩
  · have hmem := hall.mp h
    simp [hlisted] at hmem
  · exact ⟨.whole "user" [], by simp [history], rfl⟩

end Registry

end SqlTemplate
