import SqlTemplate.Command.Arguments
import Mathlib.Data.List.Infix

/-!
# Two spellings of an option

An option with a value is written in two words, or in one with an equals sign. What stands before
it on a command line does not matter, as long as an argument begins there (`ArgumentBegins`): the
arguments before it and those behind it are read on their own (`ofWords_append`), and both
spellings are read as the option with its value (`ofWords_two_words`, `ofWords_one_word`).

In one word, though, all starts like that of the option are taken off, not only its own. So it is
another value that is read where the value itself begins with such a start:

> `spellings_agree_iff`: the two spellings of an option mean the same at every place exactly if its
> value does not begin with the flag of the option and an equals sign.
-/

namespace SqlTemplate.Command

/-! ## Where an argument begins -/

/-- Words of a command line of which none is left waiting for its value. -/
inductive Complete (options : List Valued) : List String → Prop where
  | nil : Complete options []
  | valued {option : Valued} {value : String} {words : List String} : option ∈ options →
      Complete options words → Complete options (option.flag :: value :: words)
  | other {word : String} {words : List String} : (∀ option ∈ options, option.flag ≠ word) →
      Complete options words → Complete options (word :: words)

/-- The words without those that ask for verbose logs. -/
def quiet (words : List String) : List String :=
  words.filter fun word => !verboseWords.contains word

/-- Whether an argument of the action begins behind the words: they name the action, and no option
that it accepts is left waiting for its value. -/
def ArgumentBegins (action : Action) (words : List String) : Prop :=
  ∃ args, quiet words = action.word :: args ∧ Complete action.valued args

theorem flag_injective {option other : Valued} : option.flag = other.flag → option = other := by
  cases option <;> cases other <;> decide

theorem find?_flag {options : List Valued} {option : Valued} (h : option ∈ options) :
    options.find? (·.flag == option.flag) = some option := by
  induction options with
  | nil => cases h
  | cons other options ih =>
    by_cases hflag : other.flag = option.flag
    · rw [flag_injective hflag, List.find?_cons_of_pos (by simp)]
    · have hne : option ≠ other := fun heq => hflag (heq ▸ rfl)
      rw [List.find?_cons_of_neg (by simpa using hflag)]
      exact ih ((List.mem_cons.mp h).resolve_left hne)

variable {options : List Valued} {option : Valued}

/-- A flag takes the next word for its value, whatever that looks like. -/
theorem ofWords_two_words (h : option ∈ options) (value : String) (words : List String) :
    Argument.ofWords options (option.flag :: value :: words) =
      .valued option value :: Argument.ofWords options words := by
  rw [Argument.ofWords, find?_flag h]

/-- Any other word is an argument by itself. -/
theorem ofWords_other {word : String} (h : ∀ option ∈ options, option.flag ≠ word)
    (words : List String) :
    Argument.ofWords options (word :: words) =
      .ofWord options word :: Argument.ofWords options words := by
  have hfind : options.find? (·.flag == word) = none :=
    List.find?_eq_none.mpr fun option hoption => by simpa using h option hoption
  cases words with
  | nil => simp only [Argument.ofWords, hfind]
  | cons next words => rw [Argument.ofWords, hfind]

/-- Where an argument begins, what stands before and what stands behind is read on its own. -/
theorem ofWords_append {args : List String} (h : Complete options args) (words : List String) :
    Argument.ofWords options (args ++ words) =
      Argument.ofWords options args ++ Argument.ofWords options words := by
  induction h with
  | nil => rfl
  | valued hoption _ ih =>
    rw [List.cons_append, List.cons_append, ofWords_two_words hoption, ofWords_two_words hoption,
      ih, List.cons_append]
  | other hword _ ih =>
    rw [List.cons_append, ofWords_other hword, ofWords_other hword, ih, List.cons_append]

/-! ## An option in one word -/

/-- How an option with its value begins in one word. -/
def Valued.start (option : Valued) : List Char := option.flag.toList ++ ['=']

/-- An option with its value in one word. -/
def Valued.oneWord (option : Valued) (value : String) : String := option.flag ++ "=" ++ value

/-- What is left of a value when all the starts of the option that it begins with are off. -/
structure IsBare (option : Valued) (value bare : String) : Prop where
  starts : ∃ n, value.toList = (List.replicate n option.start).flatten ++ bare.toList
  bare : ¬ option.start <+: bare.toList

theorem toList_oneWord (option : Valued) (value : String) :
    (option.oneWord value).toList = option.start ++ value.toList := by
  rw [Valued.oneWord, Valued.start, String.toList_append, String.toList_append]
  rfl

/-- No start is empty, so there are no more of them than characters. -/
theorem le_length_starts (option : Valued) (n : Nat) :
    n ≤ (List.replicate n option.start).flatten.length := by
  have hstart : 1 ≤ option.start.length := by cases option <;> decide
  induction n with
  | zero => exact Nat.zero_le _
  | succ n ih =>
    rw [List.replicate_succ, List.flatten_cons, List.length_append]
    omega

/-- With as many steps as there are starts, all of them come off, and nothing else does. -/
theorem withoutStarts_replicate {start s : List Char} (h : ¬ start <+: s) {n steps : Nat}
    (hn : n ≤ steps) : withoutStarts start steps ((List.replicate n start).flatten ++ s) = s := by
  -- on the number of starts, each of which costs one step
  induction n generalizing steps with
  | zero =>
    cases steps with
    | zero => rfl
    | succ steps =>
      have hstart : ¬ start.isPrefixOf s = true := by rwa [List.isPrefixOf_iff_prefix]
      exact if_neg hstart
  | succ n ih =>
    obtain ⟨steps, rfl⟩ : ∃ k, steps = k + 1 := ⟨steps - 1, by omega⟩
    have hstart : start.isPrefixOf (start ++ ((List.replicate n start).flatten ++ s)) = true := by
      simp
    rw [List.replicate_succ, List.flatten_cons, List.append_assoc, withoutStarts, if_pos hstart,
      List.drop_left]
    exact ih (Nat.le_of_succ_le_succ hn)

/-- In one word an option is read with the bare value. -/
theorem spelled?_oneWord {value bare : String} (h : IsBare option value bare) :
    option.spelled? (option.oneWord value) = some bare := by
  obtain ⟨n, hvalue⟩ := h.starts
  have hstart : option.start.isPrefixOf (option.oneWord value).toList = true := by
    rw [toList_oneWord]
    simp
  have hword : (option.oneWord value).toList =
      (List.replicate (n + 1) option.start).flatten ++ bare.toList := by
    rw [toList_oneWord, hvalue, List.replicate_succ, List.flatten_cons, List.append_assoc]
  -- the steps are counted by the characters, which are enough for the starts
  have hlong : n + 1 ≤ (option.oneWord value).length := by
    rw [← String.length_toList, hword, List.length_append]
    exact Nat.le_add_right_of_le (le_length_starts option (n + 1))
  unfold Valued.spelled?
  rw [show option.flag.toList ++ ['='] = option.start from rfl, if_pos hstart, hword,
    withoutStarts_replicate h.bare hlong, String.ofList_toList]

/-- No option begins like another one. -/
theorem not_start_of_ne {other : Valued} (h : other ≠ option) (s : List Char) :
    other.start.isPrefixOf (option.start ++ s) = false := by
  cases other with
  | config =>
    cases option with
    | config => exact absurd rfl h
    | templates => rfl
    | data => rfl
  | templates =>
    cases option with
    | config => rfl
    | templates => exact absurd rfl h
    | data => rfl
  | data =>
    cases option with
    | config => rfl
    | templates => rfl
    | data => exact absurd rfl h

theorem spelled?_other {other : Valued} (h : other ≠ option) (value : String) :
    other.spelled? (option.oneWord value) = none := by
  unfold Valued.spelled?
  rw [toList_oneWord, show other.flag.toList ++ ['='] = other.start from rfl,
    if_neg (by simp [not_start_of_ne h])]

theorem ofWord_oneWord (h : option ∈ options) {value bare : String}
    (hbare : IsBare option value bare) :
    Argument.ofWord options (option.oneWord value) = .valued option bare := by
  have hfind : options.findSome? (fun other =>
      (other.spelled? (option.oneWord value)).map (other, ·)) = some (option, bare) := by
    induction options with
    | nil => cases h
    | cons other options ih =>
      by_cases heq : other = option
      · rw [List.findSome?_cons, heq, spelled?_oneWord hbare]
        rfl
      · rw [List.findSome?_cons, spelled?_other heq]
        exact ih ((List.mem_cons.mp h).resolve_left (Ne.symm heq))
  unfold Argument.ofWord
  rw [hfind]

theorem isBare_self {value : String} (h : ¬ option.start <+: value.toList) :
    IsBare option value value := ⟨⟨0, rfl⟩, h⟩

/-- Every value has something left when its starts are off. -/
theorem exists_isBare (option : Valued) (value : String) : ∃ bare, IsBare option value bare := by
  -- with each start that goes the value gets shorter
  induction hlen : value.length using Nat.strong_induction_on generalizing value with
  | _ length ih =>
    by_cases hstart : option.start <+: value.toList
    · obtain ⟨rest, hrest⟩ := hstart
      have hpos : 1 ≤ option.start.length := by cases option <;> decide
      have hshorter : (String.ofList rest).length < length := by
        rw [← hlen, ← String.length_toList, ← String.length_toList, String.toList_ofList, ← hrest,
          List.length_append]
        omega
      obtain ⟨bare, ⟨n, hn⟩, hbare⟩ := ih _ hshorter (String.ofList rest) rfl
      rw [String.toList_ofList] at hn
      refine ⟨bare, ⟨n + 1, ?_⟩, hbare⟩
      rw [← hrest, hn, List.replicate_succ, List.flatten_cons, List.append_assoc]
    · exact ⟨value, isBare_self hstart⟩

/-! ## Command lines -/

theorem quiet_append (words more : List String) :
    quiet (words ++ more) = quiet words ++ quiet more :=
  List.filter_append words more

theorem quiet_cons {word : String} (h : word ∉ verboseWords) (words : List String) :
    quiet (word :: words) = word :: quiet words := by
  rw [quiet, List.filter_cons_of_pos (by simpa using h)]
  rfl

theorem flag_not_verbose (option : Valued) : option.flag ∉ verboseWords := by
  cases option <;> decide

theorem oneWord_not_verbose (option : Valued) (value : String) :
    option.oneWord value ∉ verboseWords := by
  have hequals : '=' ∈ (option.oneWord value).toList := by simp [Valued.oneWord]
  have hnone : ∀ word ∈ verboseWords, '=' ∉ word.toList := by decide
  exact fun hmem => hnone _ hmem hequals

/-- The words of an action and its arguments make the command that these arguments make. -/
theorem ofWords_of_quiet {action : Action} {words args : List String}
    (h : quiet words = action.word :: args) :
    Command.ofWords words = ofArguments action {} (Argument.ofWords action.valued args) := by
  have hhelp : helpWords.contains action.word = false := by cases action <;> decide
  have haction : Action.ofWord? action.word = some action := by cases action <;> decide
  unfold Command.ofWords
  rw [show (words.filter fun word => !verboseWords.contains word) = _ from h]
  simp only [hhelp, haction, Bool.false_eq_true, if_false]

section

variable {action : Action} (h : option ∈ action.valued) {before : List String}
  {args : List String} (hquiet : quiet before = action.word :: args)
  (hargs : Complete action.valued args) (after : List String)

include h hquiet hargs

/-- In two words, what the command is made of is what stands before, the option with its value, and
what stands behind. -/
theorem ofWords_at_two_words {value : String} (hvalue : value ∉ verboseWords) :
    Command.ofWords (before ++ option.flag :: value :: after) =
      ofArguments action {} (Argument.ofWords action.valued args ++
        .valued option value :: Argument.ofWords action.valued (quiet after)) := by
  have hwords : quiet (before ++ option.flag :: value :: after) =
      action.word :: (args ++ option.flag :: value :: quiet after) := by
    rw [quiet_append, hquiet, quiet_cons (flag_not_verbose option), quiet_cons hvalue]
    rfl
  rw [ofWords_of_quiet hwords, ofWords_append hargs, ofWords_two_words h]

/-- In one word it is the same with the bare value. -/
theorem ofWords_at_one_word {value bare : String} (hbare : IsBare option value bare) :
    Command.ofWords (before ++ option.oneWord value :: after) =
      ofArguments action {} (Argument.ofWords action.valued args ++
        .valued option bare :: Argument.ofWords action.valued (quiet after)) := by
  have hwords : quiet (before ++ option.oneWord value :: after) =
      action.word :: (args ++ option.oneWord value :: quiet after) := by
    rw [quiet_append, hquiet, quiet_cons (oneWord_not_verbose option value)]
    rfl
  -- the word is not taken for the flag of an option, which has no equals sign
  have hflag : ∀ other ∈ action.valued, other.flag ≠ option.oneWord value := by
    intro other _ heq
    have hequals : '=' ∈ (option.oneWord value).toList := by simp [Valued.oneWord]
    rw [← heq] at hequals
    cases other <;> exact absurd hequals (by decide)
  rw [ofWords_of_quiet hwords, ofWords_append hargs, ofWords_other hflag,
    ofWord_oneWord h hbare]

end

/-- Both spellings ask for logs where a word elsewhere on the line does. -/
theorem invocation_eq_iff {words words' : List String}
    (h : words.any verboseWords.contains = words'.any verboseWords.contains) :
    Invocation.ofWords words = Invocation.ofWords words' ↔
      Command.ofWords words = Command.ofWords words' := by
  unfold Invocation.ofWords
  rw [h]
  cases Command.ofWords words <;> cases Command.ofWords words' <;>
    simp [bind, Except.bind, pure, Except.pure]

/-- A source of data tells the value that it was named by. -/
theorem ofValue_injective {value value' : String}
    (h : DataSource.ofValue value = DataSource.ofValue value') : value = value' := by
  unfold DataSource.ofValue at h
  split at h <;> split at h <;> simp_all

/-- A command tells the value of each option that its action accepts. -/
theorem value_eq_of_ofRequest {action : Action} (h : option ∈ action.valued) {r : Request}
    (hkey : action.takesKey = true → r.key.isSome = true) {value value' : String}
    (heq : ofRequest action (r.set option value) = ofRequest action (r.set option value')) :
    value = value' := by
  obtain ⟨source, data, json, key⟩ := r
  cases action with
  | render =>
    obtain ⟨key, rfl⟩ := Option.isSome_iff_exists.mp (hkey rfl)
    cases option with
    | config => simpa [ofRequest, Request.set] using heq
    | templates => simpa [ofRequest, Request.set] using heq
    | data => exact ofValue_injective (by simpa [ofRequest, Request.set] using heq)
  | display =>
    obtain ⟨key, rfl⟩ := Option.isSome_iff_exists.mp (hkey rfl)
    cases option with
    | config => simpa [ofRequest, Request.set] using heq
    | templates => simpa [ofRequest, Request.set] using heq
    | data => exact absurd h (by decide)
  | list =>
    cases option with
    | config => simpa [ofRequest, Request.set] using heq
    | templates => simpa [ofRequest, Request.set] using heq
    | data => exact absurd h (by decide)
  | init =>
    cases option with
    | config => simpa [ofRequest, Request.set] using heq
    | templates => exact absurd h (by decide)
    | data => exact absurd h (by decide)

/-- The shortest arguments that an action is content with. -/
def Action.fewest (action : Action) : List String := if action.takesKey then ["a.b"] else []

theorem complete_fewest (action : Action) : Complete action.valued action.fewest := by
  have hkey : ∀ option ∈ action.valued, option.flag ≠ "a.b" := by cases action <;> decide
  unfold Action.fewest
  split
  · exact .other hkey .nil
  · exact .nil

/-- A command line of the fewest arguments and an option tells its value. -/
theorem value_eq_of_fewest {action : Action} (h : option ∈ action.valued) {value value' : String}
    (heq : ofArguments action {} (Argument.ofWords action.valued action.fewest ++
        [.valued option value]) =
      ofArguments action {} (Argument.ofWords action.valued action.fewest ++
        [.valued option value'])) : value = value' := by
  have hrequest : ∃ r : Request, (action.takesKey = true → r.key.isSome = true) ∧ ∀ v,
      ofArguments action {} (Argument.ofWords action.valued action.fewest ++ [.valued option v]) =
        ofRequest action (r.set option v) := by
    cases action with
    | render => exact ⟨{ key := some "a.b" }, fun _ => rfl, fun _ => rfl⟩
    | display => exact ⟨{ key := some "a.b" }, fun _ => rfl, fun _ => rfl⟩
    | list => exact ⟨{}, nofun, fun _ => rfl⟩
    | init => exact ⟨{}, nofun, fun _ => rfl⟩
  obtain ⟨r, hkey, hr⟩ := hrequest
  rw [hr, hr] at heq
  exact value_eq_of_ofRequest h hkey heq

/-- **When both spellings of an option mean the same.** Take a command line on which an argument of
the action begins. The option and its value in one word make the same invocation there, or the same
fault, as in two words the option and the value without the starts that it begins with. So
the two spellings of a value agree at every place exactly if it begins with none. -/
theorem spellings_agree_iff {action : Action} {option : Valued} (haccepts : option ∈ action.valued)
    {value : String} (hvalue : value ∉ verboseWords) :
    (∀ before after bare, ArgumentBegins action before → IsBare option value bare →
      bare ∉ verboseWords →
      Invocation.ofWords (before ++ option.oneWord value :: after) =
        Invocation.ofWords (before ++ option.flag :: bare :: after)) ∧
    ((∀ before after, ArgumentBegins action before →
      Invocation.ofWords (before ++ option.oneWord value :: after) =
        Invocation.ofWords (before ++ option.flag :: value :: after)) ↔
      ¬ option.start <+: value.toList) := by
  have hany : ∀ (before after : List String) (v : String), v ∉ verboseWords →
      (before ++ option.oneWord value :: after).any verboseWords.contains =
        (before ++ option.flag :: v :: after).any verboseWords.contains := by
    intro before after v hv
    have hone := oneWord_not_verbose option value
    have hflag := flag_not_verbose option
    simp [List.any_append, List.any_cons, hone, hflag, hv]
  have hbare : ∀ before after bare, ArgumentBegins action before → IsBare option value bare →
      bare ∉ verboseWords → Invocation.ofWords (before ++ option.oneWord value :: after) =
        Invocation.ofWords (before ++ option.flag :: bare :: after) := by
    rintro before after bare ⟨args, hquiet, hargs⟩ hbare hquietBare
    rw [invocation_eq_iff (hany before after bare hquietBare),
      ofWords_at_one_word haccepts hquiet hargs after hbare,
      ofWords_at_two_words haccepts hquiet hargs after hquietBare]
  refine ⟨hbare, fun h hstart => ?_, fun hstart before after hbegins => ?_⟩
  · -- the least command line on which the option can stand tells the two values apart
    obtain ⟨bare, hbareValue⟩ := exists_isBare option value
    have hquiet : quiet (action.word :: action.fewest) = action.word :: action.fewest := by
      cases action <;> decide
    have hsame := h _ [] ⟨_, hquiet, complete_fewest action⟩
    rw [invocation_eq_iff (hany _ _ _ hvalue),
      ofWords_at_one_word haccepts hquiet (complete_fewest action) [] hbareValue,
      ofWords_at_two_words haccepts hquiet (complete_fewest action) [] hvalue] at hsame
    rw [← value_eq_of_fewest haccepts hsame] at hstart
    exact hbareValue.bare hstart
  · exact hbare before after value hbegins (isBare_self hstart) hvalue

/-- A value may look like another option. -/
theorem spellings_agree_data :
    Valued.data ∈ Action.render.valued ∧ "--config=-" ∉ verboseWords ∧
    ArgumentBegins .render ["-v", "render", "--config", "--data"] ∧
    ¬ Valued.data.start <+: "--config=-".toList ∧
    Invocation.ofWords (["-v", "render", "--config", "--data"] ++ "--data=--config=-" :: ["a.b"]) =
      Invocation.ofWords
        (["-v", "render", "--config", "--data"] ++ "--data" :: "--config=-" :: ["a.b"]) := by
  have haccepts : Valued.data ∈ Action.render.valued := by decide
  have hvalue : "--config=-" ∉ verboseWords := by decide
  have hconfig : Valued.config ∈ Action.render.valued := by decide
  have hbegins : ArgumentBegins .render ["-v", "render", "--config", "--data"] :=
    ⟨["--config", "--data"], by decide, .valued hconfig .nil⟩
  have hstart : ¬ Valued.data.start <+: "--config=-".toList := by decide
  exact ⟨haccepts, hvalue, hbegins, hstart,
    (spellings_agree_iff haccepts hvalue).2.mpr hstart _ _ hbegins⟩

/-- In one word all starts come off, the one that belongs to the value too. -/
theorem spellings_differ_start_twice :
    Invocation.ofWords ["list", "--config=--config=x"] = .ok ⟨false, .list { config := "x" }⟩ ∧
    Invocation.ofWords ["list", "--config", "--config=x"] =
      .ok ⟨false, .list { config := "--config=x" }⟩ ∧
    Invocation.ofWords ["list", "--config=--config=x"] ≠
      Invocation.ofWords ["list", "--config", "--config=x"] := by
  have hone : Invocation.ofWords ["list", "--config=--config=x"] =
      .ok ⟨false, .list { config := "x" }⟩ := by rfl
  have htwo : Invocation.ofWords ["list", "--config", "--config=x"] =
      .ok ⟨false, .list { config := "--config=x" }⟩ := by rfl
  refine ⟨hone, htwo, ?_⟩
  rw [hone, htwo]
  simp

end SqlTemplate.Command
