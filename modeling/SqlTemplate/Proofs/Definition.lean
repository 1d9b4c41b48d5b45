import SqlTemplate.Definition
import SqlTemplate.Proofs.Placeholder.References
import Mathlib.Data.List.Basic
import Mathlib.Data.List.Forall2
import Mathlib.Data.List.Nodup

/-!
# Reading templates from YAML values

`Node.Read` says which node an item of a list stands for, without the reading: a scalar is a
literal, and a mapping is a conditional or a repetition, by the texts of its fields. A list is
read item by item into just these nodes (`nodesOfYaml_eq_ok_iff`), and its first item that stands
for no node is the one that an error names (`nodesOfYaml_eq_error_iff`).

`Node.Written` says how a node may be written: the fields stand in any order among others, the
directive is in any mix of cases, and the separator has two spellings or, if it is empty, none.
What a mapping holds does not depend on the order of its entries (`MappingOf.field?_eq`), so
what is written stands for the node it was written for (`Node.Written.read`).

> `Template.reads_what_is_written`: a written template is read back as it was, what is read stands
> item by item in the list, and an error has the position of the first malformed item.
-/

namespace SqlTemplate

open Yaml.Value (field?)

/-! ## Cases of letters -/

theorem toNat_toLower (c : Char) :
    c.toLower.toNat = if 65 ≤ c.toNat ∧ c.toNat ≤ 90 then c.toNat + 32 else c.toNat := by
  unfold Char.toLower
  split
  next h =>
    have hsum : (c.val + 32).toNat = c.toNat + 32 := by
      rw [UInt32.toNat_add, Nat.mod_eq_of_lt]
      · rfl
      · exact Nat.lt_of_le_of_lt (Nat.add_le_add_right h.2 _) (by decide)
    exact hsum.trans (if_pos h).symm
  next h => exact (if_neg h).symm

theorem toNat_toUpper (c : Char) :
    c.toUpper.toNat = if 97 ≤ c.toNat ∧ c.toNat ≤ 122 then c.toNat - 32 else c.toNat := by
  unfold Char.toUpper
  split
  next h =>
    have hlow : 97 ≤ c.val.toNat := h.1
    have hhigh : c.val.toNat ≤ 122 := h.2
    -- The difference of the two letters wraps around, and so does the sum.
    have hsum : (c.val + ('A'.val - 'a'.val)).toNat = c.val.toNat - 32 := by
      have hdiff : ('A'.val - 'a'.val).toNat = 4294967264 := by decide
      rw [UInt32.toNat_add, hdiff]
      omega
    exact hsum.trans (if_pos h).symm
  next h => exact (if_neg h).symm

/-- Two characters have a letter as their lower case, itself and its capital. -/
theorem toLower_eq_iff {c d : Char} (h : c.isLower = true) :
    d.toLower = c ↔ d = c ∨ d = c.toUpper := by
  obtain ⟨hlow, hhigh⟩ := Bool.and_eq_true_iff.mp h
  have hc : 97 ≤ c.toNat ∧ c.toNat ≤ 122 := ⟨of_decide_eq_true hlow, of_decide_eq_true hhigh⟩
  simp only [← Char.toNat_inj, toNat_toLower, toNat_toUpper, if_pos hc]
  split <;> omega

/-- Whether a text spells a word in any mix of cases. -/
def MixedCase (word written : String) : Prop :=
  List.Forall₂ (fun c d => d = c ∨ d = c.toUpper) word.toList written.toList

theorem mixedCase_self (word : String) : MixedCase word word :=
  List.forall₂_same.mpr fun _ _ => .inl rfl

theorem forall₂_mixedCase_iff {cs ds : List Char} (h : ∀ c ∈ cs, c.isLower = true) :
    List.Forall₂ (fun c d => d = c ∨ d = c.toUpper) cs ds ↔ ds.map Char.toLower = cs := by
  induction cs generalizing ds with
  | nil => cases ds <;> simp
  | cons c cs ih =>
    obtain ⟨hc, hcs⟩ := List.forall_mem_cons.mp h
    cases ds with
    | nil => simp
    | cons d ds =>
      rw [List.forall₂_cons, ih hcs, ← toLower_eq_iff hc, List.map_cons, List.cons.injEq]

/-- A spelling of a word in small letters has the word as its lower case, which is what the reader
compares. -/
theorem mixedCase_iff {word written : String} (h : ∀ c ∈ word.toList, c.isLower = true) :
    MixedCase word written ↔ written.toList.map Char.toLower = word.toList :=
  forall₂_mixedCase_iff h

/-! ## Fields -/

section

variable {entries : List (Yaml.Value × Yaml.Value)} {field text : String}

/-- Whether a field holds a scalar with this text. -/
def HasText (entries : List (Yaml.Value × Yaml.Value)) (field text : String) : Prop :=
  ∃ v, field? field entries = some v ∧ v.text? = some text

/-- Whether there is nothing, or `null`. -/
def Blank (v? : Option Yaml.Value) : Prop :=
  v? = none ∨ v? = some .null

/-- Whether a field is left out or `null`. -/
def LeftOut (entries : List (Yaml.Value × Yaml.Value)) (field : String) : Prop :=
  Blank (field? field entries)

/-- Whether a mapping gives this separator. The first spelling goes before the second. -/
inductive HasSeparator (entries : List (Yaml.Value × Yaml.Value)) : String → Prop where
  | first {text : String} : HasText entries "separator" text → HasSeparator entries text
  | second {text : String} : LeftOut entries "separator" → HasText entries "seperator" text →
      HasSeparator entries text
  | neither : LeftOut entries "separator" → LeftOut entries "seperator" → HasSeparator entries ""

namespace Node

/-- An optional field gives the text of its scalar. -/
theorem optionalField_eq_some_iff :
    optionalField entries field = .ok (some text) ↔ HasText entries field text := by
  unfold optionalField HasText
  cases field? field entries with
  | none => simp
  | some v => cases v <;> simp [Yaml.Value.text?]

theorem optionalField_eq_none_iff :
    optionalField entries field = .ok none ↔ LeftOut entries field := by
  unfold optionalField LeftOut Blank
  cases field? field entries with
  | none => simp
  | some v => cases v <;> simp [Yaml.Value.text?]

/-- A required field has to give a text. -/
theorem requiredField_eq_ok_iff :
    requiredField entries field = .ok text ↔ HasText entries field text := by
  rw [← optionalField_eq_some_iff]
  unfold requiredField
  split <;> simp_all

/-- The second spelling is asked only where the first is left out. -/
theorem separatorField_eq_ok_iff :
    separatorField entries = .ok text ↔ HasSeparator entries text := by
  constructor
  · intro h
    unfold separatorField at h
    split at h
    next written hfirst =>
      cases h
      exact .first (optionalField_eq_some_iff.mp hfirst)
    next hfirst =>
      have hout := optionalField_eq_none_iff.mp hfirst
      cases hsecond : optionalField entries "seperator" with
      | error fault => rw [hsecond] at h; cases h
      | ok written? =>
        rw [hsecond] at h
        cases h
        cases written? with
        | none => exact .neither hout (optionalField_eq_none_iff.mp hsecond)
        | some written => exact .second hout (optionalField_eq_some_iff.mp hsecond)
    -- the first spelling is at fault
    next => cases h
  · intro h
    unfold separatorField
    cases h with
    | first hfirst => rw [optionalField_eq_some_iff.mpr hfirst]
    | second hout hsecond =>
      rw [optionalField_eq_none_iff.mpr hout, optionalField_eq_some_iff.mpr hsecond]
      rfl
    | neither hout hboth =>
      rw [optionalField_eq_none_iff.mpr hout, optionalField_eq_none_iff.mpr hboth]
      rfl

end Node

end

/-! ## What is read -/

namespace Node

/-- The node that an item stands for. -/
inductive Read : Yaml.Value → Node → Prop where
  | literal {v : Yaml.Value} {text : String} : v.text? = some text → Read v (.literal text)
  | conditional {entries : List (Yaml.Value × Yaml.Value)} {name test body : String} :
      HasText entries "name" name → MixedCase "if" name → HasText entries "test" test →
      HasText entries "sql" body → Read (.mapping entries) (.conditional test body)
  | repetition {entries : List (Yaml.Value × Yaml.Value)}
      {name arrayKey separator body : String} :
      HasText entries "name" name → MixedCase "for" name → HasText entries "array" arrayKey →
      HasSeparator entries separator → HasText entries "sql" body →
      Read (.mapping entries) (.repetition arrayKey separator body)

theorem mixedCase_if_iff {name : String} :
    MixedCase "if" name ↔ name.toList.map Char.toLower = ['i', 'f'] :=
  mixedCase_iff (by simp)

theorem mixedCase_for_iff {name : String} :
    MixedCase "for" name ↔ name.toList.map Char.toLower = ['f', 'o', 'r'] :=
  mixedCase_iff (by simp)

/-- What an item is read as, it stands for. -/
theorem read_of_ofYaml {v : Yaml.Value} {node : Node} (h : ofYaml v = .ok node) :
    Read v node := by
  unfold ofYaml at h
  split at h
  next entries =>
    obtain ⟨name, hname, hdirective⟩ := bind_eq_ok.mp h
    have hname := requiredField_eq_ok_iff.mp hname
    dsimp only at hdirective
    split at hdirective
    next hif =>
      obtain ⟨test, htest, hrest⟩ := bind_eq_ok.mp hdirective
      obtain ⟨body, hsql, hnode⟩ := bind_eq_ok.mp hrest
      cases hnode
      exact .conditional hname (mixedCase_if_iff.mpr hif) (requiredField_eq_ok_iff.mp htest)
        (requiredField_eq_ok_iff.mp hsql)
    next =>
      split at hdirective
      next hfor =>
        obtain ⟨separator, hseparator, hrest⟩ := bind_eq_ok.mp hdirective
        obtain ⟨arrayKey, harray, hrest⟩ := bind_eq_ok.mp hrest
        obtain ⟨body, hsql, hnode⟩ := bind_eq_ok.mp hrest
        cases hnode
        exact .repetition hname (mixedCase_for_iff.mpr hfor) (requiredField_eq_ok_iff.mp harray)
          (separatorField_eq_ok_iff.mp hseparator) (requiredField_eq_ok_iff.mp hsql)
      next => cases hdirective
  next => cases h
  next =>
    split at h
    next text htext =>
      cases h
      exact .literal htext
    next => cases h

/-- And what it stands for it is read as. -/
theorem Read.ofYaml_eq {v : Yaml.Value} {node : Node} (h : Read v node) :
    ofYaml v = .ok node := by
  cases h with
  | literal htext => cases v <;> simp_all [ofYaml, Yaml.Value.text?]
  | conditional hname hif htest hsql =>
    have hname := requiredField_eq_ok_iff.mpr hname
    have htest := requiredField_eq_ok_iff.mpr htest
    have hsql := requiredField_eq_ok_iff.mpr hsql
    have hif := mixedCase_if_iff.mp hif
    simp only [ofYaml, hname, htest, hsql, hif, bind, Except.bind, pure, Except.pure, if_true]
  | repetition hname hfor harray hseparator hsql =>
    have hname := requiredField_eq_ok_iff.mpr hname
    have harray := requiredField_eq_ok_iff.mpr harray
    have hseparator := separatorField_eq_ok_iff.mpr hseparator
    have hsql := requiredField_eq_ok_iff.mpr hsql
    have hfor := mixedCase_for_iff.mp hfor
    simp [ofYaml, hname, harray, hseparator, hsql, hfor, bind, Except.bind, pure, Except.pure]

theorem ofYaml_eq_ok_iff {v : Yaml.Value} {node : Node} :
    ofYaml v = .ok node ↔ Read v node :=
  ⟨read_of_ofYaml, Read.ofYaml_eq⟩

end Node

/-! ## The items of a list -/

namespace Template

/-- A list is read if its first item and the rest are. -/
theorem nodesOfYaml_cons_eq_ok_iff {position : Nat} {item : Yaml.Value} {items : List Yaml.Value}
    {t : Template} :
    nodesOfYaml position (item :: items) = .ok t ↔
      ∃ node rest, Node.ofYaml item = .ok node ∧ nodesOfYaml (position + 1) items = .ok rest ∧
        t = node :: rest := by
  rw [nodesOfYaml]
  cases Node.ofYaml item with
  | error fault => simp
  | ok node => cases nodesOfYaml (position + 1) items <;> simp [Except.map, eq_comm]

/-- An error is that of the first item, or of the rest behind an item that is read. -/
theorem nodesOfYaml_cons_eq_error_iff {position : Nat} {item : Yaml.Value}
    {items : List Yaml.Value} {fault : TemplateFault} :
    nodesOfYaml position (item :: items) = .error fault ↔
      (∃ nodeFault, Node.ofYaml item = .error nodeFault ∧ fault = .node position nodeFault) ∨
        (∃ node, Node.ofYaml item = .ok node) ∧
          nodesOfYaml (position + 1) items = .error fault := by
  rw [nodesOfYaml]
  cases Node.ofYaml item with
  | error nodeFault => simp [eq_comm]
  | ok node => cases nodesOfYaml (position + 1) items <;> simp [Except.map]

theorem nodesOfYaml_eq_ok_iff {position : Nat} {items : List Yaml.Value} {t : Template} :
    nodesOfYaml position items = .ok t ↔ List.Forall₂ Node.Read items t := by
  induction items generalizing position t with
  | nil => simp [nodesOfYaml, eq_comm]
  | cons item items ih =>
    rw [nodesOfYaml_cons_eq_ok_iff, List.forall₂_cons_left_iff]
    simp only [Node.ofYaml_eq_ok_iff, ih]

/-- Whether the first item that stands for no node comes after this many others, and this is what
is wrong with it. -/
def FirstMalformed (items : List Yaml.Value) (count : Nat) (fault : NodeFault) : Prop :=
  ∃ before item after, items = before ++ item :: after ∧ before.length = count ∧
    (∀ earlier ∈ before, ∃ node, Node.Read earlier node) ∧ (∀ node, ¬ Node.Read item node) ∧
      Node.ofYaml item = .error fault

theorem not_firstMalformed_nil {count : Nat} {fault : NodeFault} :
    ¬ FirstMalformed [] count fault := by
  rintro ⟨before, item, after, hitems, -⟩
  exact List.append_ne_nil_of_right_ne_nil before (List.cons_ne_nil item after) hitems.symm

/-- The first malformed item is the head, or it is that of the rest behind a head that is none. -/
theorem firstMalformed_cons_iff {item : Yaml.Value} {items : List Yaml.Value} {count : Nat}
    {fault : NodeFault} :
    FirstMalformed (item :: items) count fault ↔
      (Node.ofYaml item = .error fault ∧ count = 0) ∨
        (∃ node, Node.ofYaml item = .ok node) ∧
          ∃ n, FirstMalformed items n fault ∧ count = n + 1 := by
  constructor
  · rintro ⟨before, malformed, after, hitems, hcount, hbefore, hnone, hfault⟩
    cases before with
    | nil =>
      obtain ⟨rfl, -⟩ := List.cons.inj hitems
      exact .inl ⟨hfault, hcount.symm⟩
    | cons earlier before =>
      obtain ⟨rfl, hrest⟩ := List.cons.inj hitems
      obtain ⟨node, hread⟩ := hbefore item List.mem_cons_self
      exact .inr ⟨⟨node, hread.ofYaml_eq⟩, before.length, ⟨before, malformed, after, hrest, rfl,
        fun v hv => hbefore v (List.mem_cons_of_mem _ hv), hnone, hfault⟩, hcount.symm⟩
  · rintro (⟨hfault, rfl⟩ | ⟨⟨node, hnode⟩, n, hfirst, rfl⟩)
    · have hnone : ∀ node, ¬ Node.Read item node := fun node hread => by
        rw [hread.ofYaml_eq] at hfault
        cases hfault
      exact ⟨[], item, items, rfl, rfl, nofun, hnone, hfault⟩
    · obtain ⟨before, malformed, after, rfl, rfl, hbefore, hmalformed⟩ := hfirst
      refine ⟨item :: before, malformed, after, rfl, rfl, ?_, hmalformed⟩
      exact List.forall_mem_cons.mpr ⟨⟨node, Node.read_of_ofYaml hnode⟩, hbefore⟩

/-- The error on a list names its first malformed item. -/
theorem nodesOfYaml_eq_error_iff {position : Nat} {items : List Yaml.Value}
    {fault : TemplateFault} :
    nodesOfYaml position items = .error fault ↔
      ∃ count nodeFault, FirstMalformed items count nodeFault ∧
        fault = .node (position + count) nodeFault := by
  induction items generalizing position with
  | nil => simp [nodesOfYaml, not_firstMalformed_nil]
  | cons item items ih =>
    rw [nodesOfYaml_cons_eq_error_iff, ih]
    constructor
    · rintro (⟨nodeFault, hitem, rfl⟩ | ⟨hitem, count, nodeFault, hfirst, rfl⟩)
      · exact ⟨0, nodeFault, firstMalformed_cons_iff.mpr (.inl ⟨hitem, rfl⟩), rfl⟩
      · refine ⟨count + 1, nodeFault,
          firstMalformed_cons_iff.mpr (.inr ⟨hitem, count, hfirst, rfl⟩), ?_⟩
        rw [Nat.add_right_comm, Nat.add_assoc]
    · rintro ⟨count, nodeFault, hfirst, rfl⟩
      obtain ⟨hitem, rfl⟩ | ⟨hitem, n, hlater, rfl⟩ := firstMalformed_cons_iff.mp hfirst
      · exact .inl ⟨nodeFault, hitem, rfl⟩
      · refine .inr ⟨hitem, n, nodeFault, hlater, ?_⟩
        rw [Nat.add_right_comm, Nat.add_assoc]

end Template

/-! ## What is written -/

/-- The names of the fields that a node may have. -/
def fieldNames : List String := ["name", "test", "sql", "array", "separator", "seperator"]

/-- The entries of the fields that are given. -/
def present (fields : List (String × Option Yaml.Value)) : List (Yaml.Value × Yaml.Value) :=
  fields.filterMap fun field => field.2.map (.string field.1, ·)

/-- Whether these are the entries of a mapping with these fields, in any order and among others. -/
def MappingOf (fields : List (String × Option Yaml.Value))
    (entries : List (Yaml.Value × Yaml.Value)) : Prop :=
  ∃ further, (∀ entry ∈ further, ∀ field ∈ fieldNames, entry.1 ≠ .string field) ∧
    entries.Perm (present fields ++ further)

section

variable {fields : List (String × Option Yaml.Value)} {entries : List (Yaml.Value × Yaml.Value)}
  {field : String} {v : Yaml.Value} {v? : Option Yaml.Value}

theorem mem_present_iff : (.string field, v) ∈ present fields ↔ (field, some v) ∈ fields := by
  unfold present
  constructor
  · intro h
    obtain ⟨⟨name, given⟩, hmem, hgiven⟩ := List.mem_filterMap.mp h
    cases given with
    | none => cases hgiven
    | some w =>
      cases hgiven
      exact hmem
  · intro h
    exact List.mem_filterMap.mpr ⟨(field, some v), h, rfl⟩

/-- A field that is found stands among the entries. -/
theorem mem_of_field?_eq_some (h : field? field entries = some v) :
    (.string field, v) ∈ entries := by
  induction entries using Yaml.Value.field?.induct field with
  | case1 => cases h
  | case2 value rest =>
    rw [field?, if_pos rfl] at h
    exact Option.some.inj h ▸ List.mem_cons_self
  | case3 key value rest hkey ih =>
    rw [field?, if_neg hkey] at h
    exact List.mem_cons_of_mem _ (ih h)
  | case4 head rest hother ih =>
    rw [field?] at h
    · exact List.mem_cons_of_mem _ (ih h)
    · exact hother

/-- A field that stands among them is found, though maybe with another value. -/
theorem field?_ne_none_of_mem (h : (.string field, v) ∈ entries) :
    field? field entries ≠ none := by
  induction entries using Yaml.Value.field?.induct field with
  | case1 => cases h
  | case2 value rest =>
    rw [field?, if_pos rfl]
    exact Option.some_ne_none value
  | case3 key value rest hkey ih =>
    rw [field?, if_neg hkey]
    obtain heq | hrest := List.mem_cons.mp h
    · cases heq
      exact absurd rfl hkey
    · exact ih hrest
  | case4 head rest hother ih =>
    rw [field?]
    · obtain heq | hrest := List.mem_cons.mp h
      · exact absurd heq.symm (hother field v)
      · exact ih hrest
    · exact hother

/-- A field that stands at most once is found wherever it stands. -/
theorem field?_eq_of_mem_iff (h : ∀ v, (.string field, v) ∈ entries ↔ v? = some v) :
    field? field entries = v? := by
  cases hfound : field? field entries with
  | some v => exact ((h v).mp (mem_of_field?_eq_some hfound)).symm
  -- nothing is found, so nothing stands there
  | none =>
    cases v? with
    | none => rfl
    | some v => exact absurd hfound (field?_ne_none_of_mem ((h v).mpr rfl))

/-- A mapping has no other entry for a field of a node. -/
theorem MappingOf.mem_iff (h : MappingOf fields entries) (hfield : field ∈ fieldNames) :
    (.string field, v) ∈ entries ↔ (field, some v) ∈ fields := by
  obtain ⟨further, hfurther, hperm⟩ := h
  have hout : (.string field, v) ∉ further := fun hmem => hfurther _ hmem field hfield rfl
  rw [hperm.mem_iff, List.mem_append, mem_present_iff, or_iff_left hout]

/-- A mapping has the fields that it was made of, and no other field of a node. -/
theorem MappingOf.field?_eq (h : MappingOf fields entries) (hnodup : (fields.map Prod.fst).Nodup)
    (hfield : field ∈ fieldNames) (hmem : (field, v?) ∈ fields) :
    field? field entries = v? := by
  refine field?_eq_of_mem_iff fun v => ?_
  rw [h.mem_iff hfield]
  constructor
  · intro hv
    exact (Prod.mk.inj (List.inj_on_of_nodup_map hnodup hmem hv rfl)).2
  · rintro rfl
    exact hmem

theorem MappingOf.hasText {text : String} (h : MappingOf fields entries)
    (hnodup : (fields.map Prod.fst).Nodup) (hfield : field ∈ fieldNames)
    (hmem : (field, some (.string text)) ∈ fields) : HasText entries field text :=
  ⟨.string text, h.field?_eq hnodup hfield hmem, rfl⟩

theorem mappingOf_present : MappingOf fields (present fields) :=
  ⟨[], nofun, by rw [List.append_nil]⟩

end

/-- How a separator may be written under its two spellings. -/
inductive SeparatorWritten : String → (first second : Option Yaml.Value) → Prop where
  | first {separator : String} {second : Option Yaml.Value} :
      SeparatorWritten separator (some (.string separator)) second
  | second {separator : String} {first : Option Yaml.Value} : Blank first →
      SeparatorWritten separator first (some (.string separator))
  | neither {first second : Option Yaml.Value} : Blank first → Blank second →
      SeparatorWritten "" first second

/-- The separator as it is written is the one that the mapping gives. -/
theorem SeparatorWritten.hasSeparator {entries : List (Yaml.Value × Yaml.Value)}
    {separator : String} {first second : Option Yaml.Value}
    (h : SeparatorWritten separator first second) (hfirst : field? "separator" entries = first)
    (hsecond : field? "seperator" entries = second) : HasSeparator entries separator := by
  have hleft : ∀ {field v?}, field? field entries = v? → Blank v? → LeftOut entries field :=
    fun hfield hblank => by rwa [LeftOut, hfield]
  cases h with
  | first => exact .first ⟨.string separator, hfirst, rfl⟩
  | second hblank => exact .second (hleft hfirst hblank) ⟨.string separator, hsecond, rfl⟩
  | neither hblank hboth => exact .neither (hleft hfirst hblank) (hleft hsecond hboth)

namespace Node

/-- The values that a node may be written as. -/
inductive Written : Node → Yaml.Value → Prop where
  | literal (text : String) : Written (.literal text) (.string text)
  | conditional {name test body : String} {entries : List (Yaml.Value × Yaml.Value)} :
      MixedCase "if" name →
      MappingOf [("name", some (.string name)), ("test", some (.string test)),
        ("sql", some (.string body))] entries →
      Written (.conditional test body) (.mapping entries)
  | repetition {name arrayKey separator body : String} {first second : Option Yaml.Value}
      {entries : List (Yaml.Value × Yaml.Value)} :
      MixedCase "for" name → SeparatorWritten separator first second →
      MappingOf [("name", some (.string name)), ("array", some (.string arrayKey)),
        ("sql", some (.string body)), ("separator", first), ("seperator", second)] entries →
      Written (.repetition arrayKey separator body) (.mapping entries)

/-- The plain way to write a node. -/
def toYaml : Node → Yaml.Value
  | .literal text => .string text
  | .conditional test body =>
    .mapping [(.string "name", .string "if"), (.string "test", .string test),
      (.string "sql", .string body)]
  | .repetition arrayKey separator body =>
    .mapping [(.string "name", .string "for"), (.string "array", .string arrayKey),
      (.string "sql", .string body), (.string "separator", .string separator)]

theorem written_toYaml (node : Node) : Written node node.toYaml := by
  cases node with
  | literal text => exact .literal text
  | conditional test body => exact .conditional (mixedCase_self "if") mappingOf_present
  | repetition arrayKey separator body =>
    exact .repetition (mixedCase_self "for") (.first : SeparatorWritten separator _ none)
      mappingOf_present

/-- What a node is written as stands for this node. -/
theorem Written.read {node : Node} {v : Yaml.Value} (h : Written node v) : Read v node := by
  cases h with
  | literal text => exact .literal rfl
  | @conditional name test body entries hif hmapping =>
    have hnodup : ["name", "test", "sql"].Nodup := by decide
    have hname : HasText entries "name" name := hmapping.hasText hnodup (by decide) (by simp)
    have htest : HasText entries "test" test := hmapping.hasText hnodup (by decide) (by simp)
    have hsql : HasText entries "sql" body := hmapping.hasText hnodup (by decide) (by simp)
    exact .conditional hname hif htest hsql
  | @repetition name arrayKey separator body first second entries hfor hseparator hmapping =>
    have hnodup : ["name", "array", "sql", "separator", "seperator"].Nodup := by decide
    have hname : HasText entries "name" name := hmapping.hasText hnodup (by decide) (by simp)
    have harray : HasText entries "array" arrayKey :=
      hmapping.hasText hnodup (by decide) (by simp)
    have hsql : HasText entries "sql" body := hmapping.hasText hnodup (by decide) (by simp)
    have hfirst : field? "separator" entries = first :=
      hmapping.field?_eq hnodup (by decide) (by simp)
    have hsecond : field? "seperator" entries = second :=
      hmapping.field?_eq hnodup (by decide) (by simp)
    exact .repetition hname hfor harray (hseparator.hasSeparator hfirst hsecond) hsql

end Node

namespace Template

/-- The templates that a value defines, read off its form. -/
theorem ofYaml_eq_ok_iff {v : Yaml.Value} {t : Template} :
    ofYaml v = .ok t ↔ (∃ text, v = .string text ∧ t = [.literal text]) ∨
      ∃ items, v = .sequence items ∧ List.Forall₂ Node.Read items t := by
  cases v with
  | string text => simp [ofYaml, eq_comm]
  | sequence items => simp [ofYaml, nodesOfYaml_eq_ok_iff]
  | _ => simp [ofYaml]

theorem forall₂_written_toYaml (t : Template) :
    List.Forall₂ Node.Written t (t.map Node.toYaml) := by
  rw [List.forall₂_map_right_iff, List.forall₂_same]
  exact fun node _ => node.written_toYaml

/-- A list of written nodes is read back as it was. What is read stands item by item in the list,
and an error has the position of the first item that stands for no node, counted from 1. -/
theorem reads_what_is_written :
    (∀ t : Template, List.Forall₂ Node.Written t (t.map Node.toYaml)) ∧
    (∀ (t : Template) (items : List Yaml.Value), List.Forall₂ Node.Written t items →
      ofYaml (.sequence items) = .ok t) ∧
    (∀ (v : Yaml.Value) (t : Template), ofYaml v = .ok t ↔
      (∃ text, v = .string text ∧ t = [.literal text]) ∨
        ∃ items, v = .sequence items ∧ List.Forall₂ Node.Read items t) ∧
    ∀ (items : List Yaml.Value) (fault : TemplateFault),
      ofYaml (.sequence items) = .error fault ↔
        ∃ count nodeFault, FirstMalformed items count nodeFault ∧
          fault = .node (count + 1) nodeFault := by
  refine ⟨forall₂_written_toYaml, fun t items hwritten => ?_, fun v t => ofYaml_eq_ok_iff,
    fun items fault => ?_⟩
  · have hread : List.Forall₂ Node.Read items t := (hwritten.imp fun _ _ => Node.Written.read).flip
    exact ofYaml_eq_ok_iff.mpr (.inr ⟨items, rfl, hread⟩)
  · rw [ofYaml, nodesOfYaml_eq_error_iff]
    simp only [Nat.add_comm 1]

/-- A list of all kinds of nodes, with a directive in capitals, the second spelling of the separator
and a further field, and a list whose second item is `null`. -/
theorem reads_what_is_written_mixed :
    ofYaml (.sequence [.string "SELECT * FROM t WHERE",
      .mapping [(.string "note", .bool true), (.string "sql", .string "AND a = :a"),
        (.string "test", .string ":a != null"), (.string "name", .string "IF")],
      .mapping [(.string "seperator", .string " OR "), (.string "separator", .null),
        (.string "sql", .string "id = :id"), (.string "array", .string "ids"),
        (.string "name", .string "For")]]) =
      .ok [.literal "SELECT * FROM t WHERE", .conditional ":a != null" "AND a = :a",
        .repetition "ids" " OR " "id = :id"] ∧
    ofYaml (.sequence [.string "SELECT 1", .null]) = .error (.node 2 .empty) := by
  have hif : MixedCase "if" "IF" := Node.mixedCase_if_iff.mpr (by decide)
  have hfor : MixedCase "for" "For" := Node.mixedCase_for_iff.mpr (by decide)
  have hseparator : SeparatorWritten " OR " (some .null) (some (.string " OR ")) :=
    .second (.inr rfl)
  have hconditional : Node.Written (.conditional ":a != null" "AND a = :a") (.mapping _) :=
    .conditional hif
      ⟨[(.string "note", .bool true)], by simp [fieldNames], List.reverse_perm _⟩
  have hrepetition : Node.Written (.repetition "ids" " OR " "id = :id") (.mapping _) :=
    .repetition hfor hseparator ⟨[], nofun, List.reverse_perm _⟩
  refine ⟨reads_what_is_written.2.1 _ _
    (.cons (.literal _) (.cons hconditional (.cons hrepetition .nil))), ?_⟩
  refine (reads_what_is_written.2.2.2 _ _).mpr ⟨1, .empty,
    ⟨[.string "SELECT 1"], .null, [], rfl, rfl, ?_, ?_, rfl⟩, rfl⟩
  · exact List.forall_mem_singleton.mpr ⟨.literal "SELECT 1", .literal rfl⟩
  · intro node hread
    cases hread with
    | literal htext => cases htext

end Template

end SqlTemplate
