import SqlTemplate.Proofs.Condition.Names
import SqlTemplate.Proofs.Context
import SqlTemplate.Proofs.Keyed

/-!
# Defaults of bound names

A bound name that the context lacks is `null`, and so is its bare form in the same condition.
The evaluator keeps these names aside. The rule can also be told without it: copy the context,
put a field with `null` under each bound name that is absent, and evaluate the condition as if
no name had a colon.

A field that is put into an object might do more than that. It might be the root of a path, or
stand in the way of one. It does neither: a path does not lead through `null`, and a name that
denotes something gets no field.

> `lookup_injected`: in the copy, names denote what they denoted before, and the added ones
> denote `null`.
> `defaulting_is_injecting`: evaluating with defaults is evaluating against the copy.
-/

namespace SqlTemplate

/-! ## Putting fields into a copy -/

namespace Value

/-- The fields of an object; `null` acts as an object without fields. -/
def fields? : Value → Option (Entries Value)
  | .null => some []
  | .object fields => some fields
  | _ => none

/-- The names that a context lacks, among these. -/
def absent (context : Value) (names : List String) : List String :=
  names.filter fun name => (context.lookup name).isNone

theorem mem_absent {context : Value} {names : List String} {name : String} :
    name ∈ context.absent names ↔ name ∈ names ∧ context.lookup name = none := by
  rw [absent, List.mem_filter, Option.isNone_iff_eq_none]

/-- A copy of a context with these fields, with `null` under each of the names that the context
lacks. -/
def injected (context : Value) (fields : Entries Value) (names : List String) : Value :=
  .object (fields.insertAll (context.absent names) .null)

/-- As far as names go, a context is the object with its fields. -/
theorem lookup_object_of_fields? {context : Value} {fields : Entries Value}
    (h : context.fields? = some fields) (name : String) :
    (object fields).lookup name = context.lookup name := by
  cases context with
  | null =>
    cases h
    rw [lookup_of_not_field (Entries.find?_nil name)]
    split
    next hdot =>
      obtain ⟨first, second, more, hsegments, -⟩ := segments_of_dot hdot
      rw [hsegments, walk_object_cons]
      split <;> rfl
    next => rfl
  | object fields' =>
    cases h
    rfl
  | bool _ | number _ | string _ | array _ => cases h

/-- A path of several segments ends where it ended before fields with `null` were added under
names that were absent. -/
theorem walk_insertAll_null {fields : Entries Value} {names : List String}
    (habsent : ∀ name ∈ names, Entries.find? name fields = none) (first second : List Char)
    (more : List (List Char)) :
    (object (fields.insertAll names null)).walk (first :: second :: more) =
      (object fields).walk (first :: second :: more) := by
  rw [walk_object_cons, walk_object_cons, Entries.find?_insertAll]
  by_cases hadded : String.ofList first ∈ names
  · rw [if_pos hadded, habsent _ hadded, Option.bind_some, walk_null_cons, Option.bind_none]
  · rw [if_neg hadded]

/-- Fields with `null` under names that were no fields denote `null`, and change nothing else. -/
theorem lookup_insertAll_null {fields : Entries Value} {names : List String}
    (habsent : ∀ name ∈ names, Entries.find? name fields = none) (name : String) :
    (object (fields.insertAll names null)).lookup name =
      if name ∈ names then some null else (object fields).lookup name := by
  have hfield := Entries.find?_insertAll names null name fields
  by_cases hname : name ∈ names
  · rw [if_pos hname] at hfield ⊢
    exact lookup_of_find? hfield
  · rw [if_neg hname] at hfield ⊢
    cases hfound : Entries.find? name fields with
    | some v => rw [lookup_of_find? (hfield.trans hfound), lookup_of_find? hfound]
    | none =>
      rw [lookup_of_not_field (hfield.trans hfound), lookup_of_not_field hfound]
      split
      next hdot =>
        obtain ⟨first, second, more, hsegments, -⟩ := segments_of_dot hdot
        rw [hsegments, walk_insertAll_null habsent]
      next => rfl

/-- **Names in the copy.** What was found before is found, what was added is `null`, and all
else is absent still. -/
theorem lookup_injected {context : Value} {fields : Entries Value}
    (hfields : context.fields? = some fields) (names : List String) (name : String) :
    (context.injected fields names).lookup name =
      match context.lookup name with
      | some v => some v
      | none => if name ∈ names then some null else none := by
  have hobject := lookup_object_of_fields? hfields
  have habsent : ∀ other ∈ context.absent names, Entries.find? other fields = none :=
    fun other hother => find?_eq_none_of_lookup ((hobject other).trans (mem_absent.mp hother).2)
  rw [injected, lookup_insertAll_null habsent, hobject]
  cases hlookup : context.lookup name with
  | some v => exact if_neg fun hin => by simp [(mem_absent.mp hin).2] at hlookup
  | none => simp [mem_absent, hlookup]

end Value

namespace Condition

/-! ## Evaluating against the copy -/

/-- What a name denotes where nothing is kept aside: what is found under it, or `null` if it is
a path whose root is found. -/
def bareName (context : Value) (name : String) : Except Fault Value :=
  match context.lookup name with
  | some v => .ok v
  | none =>
    match root? name with
    | none => .error (.undefinedName name)
    | some root =>
      if (context.lookup root).isSome then .ok .null else .error (.undefinedName name)

/-- Reads a condition, puts the names that it binds into a copy of the context, and evaluates
it there as if each name were bare. -/
def evaluateInjected (source : String) (context : Value) (fields : Entries Value) :
    Except Fault Bool := do
  let ts ← tokens source
  let term ← Term.ofTokens ts
  let copy := context.injected fields (boundNames ts)
  let v ← term.value fun name _ => bareName copy name
  return v.isTruthy

/-- With names kept aside, a name denotes what it denotes bare in the copy that has them. -/
theorem resolveName_eq_bareName {context : Value} {fields : Entries Value}
    (hfields : context.fields? = some fields) {names : List String} {name : String} {bound : Bool}
    (hbound : bound = true → name ∈ names) :
    resolveName names context name bound = bareName (context.injected fields names) name := by
  unfold resolveName bareName
  rw [Value.lookup_injected hfields]
  cases context.lookup name with
  | some v => rfl
  | none =>
    by_cases hname : name ∈ names
    · simp [hname]
    · have hbare : bound = false := by simpa using mt hbound hname
      cases hroot : root? name with
      | none => simp [hname, hbare]
      | some root =>
        -- the root is found in the copy if it was found before or is added itself
        have hfound : ((context.injected fields names).lookup root).isSome =
            ((context.lookup root).isSome || names.contains root) := by
          rw [Value.lookup_injected hfields]
          cases context.lookup root with
          | some v => rfl
          | none => by_cases hr : root ∈ names <;> simp [hr]
        simp [hname, hbare, hfound]

/-- **Defaulting is injecting.** A condition that is read holds of an object or `null`, or fails,
exactly as it does of a copy that has `null` under every bound name that was absent, where no
name is taken for bound. -/
theorem defaulting_is_injecting {source : String} {condition : Condition}
    (hparse : parse source = .ok condition) {context : Value} {fields : Entries Value}
    (hfields : context.fields? = some fields) :
    condition.eval context = evaluateInjected source context fields := by
  unfold parse at hparse
  unfold evaluateInjected
  cases hts : tokens source with
  | error fault =>
    rw [hts] at hparse
    cases hparse
  | ok ts =>
    cases hterm : Term.ofTokens ts with
    | error fault =>
      simp only [hts, hterm, bind, Except.bind] at hparse
      cases hparse
    | ok term =>
      simp only [hts, hterm, bind, Except.bind] at hparse
      cases hparse
      -- the names kept aside are those that the term binds
      have hnames : term.boundNames = boundNames ts :=
        boundNames_of_derives (derives_of_ofTokens hterm)
      have hvalue : term.eval (boundNames ts) context =
          term.value fun name _ => bareName (context.injected fields (boundNames ts)) name := by
        rw [Term.eval_eq_value]
        refine Term.value_congr (fun name => ?_) (fun name hname => ?_)
        · exact resolveName_eq_bareName hfields fun h => absurd h Bool.false_ne_true
        · exact resolveName_eq_bareName hfields fun _ => hnames ▸ hname
      simp only [Condition.eval, hvalue, hterm, bind, Except.bind]

/-- A bound name that becomes the root of a bare path, one that is a path itself, and a path
that ends in a length. -/
theorem defaulting_is_injecting_paths :
    let source := ":user == null && user.age == null && :page.size != ids.length"
    let fields : Entries Value := [("ids", .array [.null, .null])]
    ∃ condition, parse source = .ok condition ∧ (Value.object fields).fields? = some fields ∧
      condition.eval (.object fields) = .ok true ∧
      condition.eval (.object fields) = evaluateInjected source (.object fields) fields ∧
      (Value.object fields).injected fields condition.defaults =
        .object [("ids", .array [.null, .null]), ("page.size", .null), ("user", .null)] := by
  intro source fields
  have hfields : (Value.object fields).fields? = some fields := rfl
  have htokens : tokens ":user == null && user.age == null && :page.size != ids.length" =
      .ok [.bound "user", .comparison .equal, .null, .conjunction, .name "user.age",
        .comparison .equal, .null, .conjunction, .bound "page.size", .comparison .notEqual,
        .name "ids.length"] := by rfl
  have hparse : parse source = .ok ⟨.conjunction (.conjunction
      (.comparison (.reference "user" true) .equal (.literal .null))
      (.comparison (.reference "user.age" false) .equal (.literal .null)))
      (.comparison (.reference "page.size" true) .notEqual (.reference "ids.length" false)),
        ["user", "page.size"]⟩ := by
    rw [parse, htokens]
    rfl
  exact ⟨_, hparse, hfields, by rfl, defaulting_is_injecting hparse hfields, by rfl⟩

end Condition

end SqlTemplate
