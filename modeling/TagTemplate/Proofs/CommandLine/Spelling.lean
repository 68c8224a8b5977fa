import TagTemplate.CommandLine
import TagTemplate.Proofs.Result
import TagTemplate.Proofs.Text.Words

/-!
# Spellings of command lines

The options of a command line can be written in many ways: switches stand in clusters of letters, an
option with an operand ends its cluster, and the operand stands behind the letter or in the next
argument. The path stands anywhere between them, or behind two dashes. All these spellings are read
as what they write, and nothing else is read.
-/

namespace TagTemplate

/-- An option without an operand. -/
inductive Switch where
  /-- Directives that fail are passed over. -/
  | ignoresErrors
  /-- Names must resolve. -/
  | strict
  /-- No settings file is read. -/
  | skipsSettings
  deriving DecidableEq, Repr

/-- The letter of a switch. -/
def Switch.letter : Switch → Char
  | ignoresErrors => 'i'
  | strict => 's'
  | skipsSettings => 'n'

theorem Switch.letter_ne (s : Switch) : s.letter ≠ '-' := by cases s <;> decide

/-- The letter of an option that takes an operand. -/
def OperandOption.letter : OperandOption → Char
  | config => 'c'
  | define => 'D'

theorem OperandOption.letter_ne (option : OperandOption) : option.letter ≠ '-' := by
  cases option <;> decide

/-- A name with the value that it is given. -/
structure Definition where
  /-- The name. -/
  name : String
  /-- Its value. -/
  value : String
  /-- There is a name. -/
  name_ne : name ≠ ""
  /-- The name ends before the first equals sign. -/
  no_equals : '=' ∉ name.toList
  deriving DecidableEq

/-- An option with its operand. -/
inductive Assignment where
  /-- The settings file. -/
  | config (path : String)
  /-- A definition. -/
  | define (definition : Definition)
  deriving DecidableEq

namespace Assignment

/-- The option. -/
def option : Assignment → OperandOption
  | config _ => .config
  | define _ => .define

/-- How the operand is written. -/
def operand : Assignment → String
  | config path => path
  | define definition => definition.name ++ "=" ++ definition.value

end Assignment

/-- An option of a command line. -/
inductive CommandOption where
  /-- One without an operand. -/
  | switch (switch : Switch)
  /-- One with its operand. -/
  | assignment (assignment : Assignment)
  deriving DecidableEq

namespace CommandOption

/-- The settings file that an option chooses. -/
def choice? : CommandOption → Option SettingsChoice
  | switch .skipsSettings => some .skip
  | assignment (.config path) => some (.file path)
  | _ => none

/-- The name and the value that an option defines. -/
def definition? : CommandOption → Option (String × String)
  | assignment (.define definition) => some (definition.name, definition.value)
  | _ => none

end CommandOption

namespace CommandLine

/-- What options and a path say in whatever way they are written. The last choice of a settings file
counts, and definitions keep their order. -/
def ofOptions (options : List CommandOption) (path : Option String) : CommandLine where
  config := (options.filterMap CommandOption.choice?).getLast?.getD .search
  defines := options.filterMap CommandOption.definition?
  ignoresErrors := decide (.switch .ignoresErrors ∈ options)
  strict := decide (.switch .strict ∈ options)
  template := match path with
    | none => .stdin
    | some path => if path = "-" then .stdin else .file path

/-- The letters of an argument write options, of which the last may wait for its operand. -/
inductive Cluster : List Char → List CommandOption → Option OperandOption → Prop
  /-- No letters write nothing. -/
  | nil : Cluster [] [] none
  /-- A switch is its letter. -/
  | switch (s : Switch) {letters : List Char} {options : List CommandOption}
      {waiting : Option OperandOption} (h : Cluster letters options waiting) :
      Cluster (s.letter :: letters) (.switch s :: options) waiting
  /-- An operand that is not empty ends the letters. -/
  | attached (a : Assignment) (h : a.operand ≠ "") :
      Cluster (a.option.letter :: a.operand.toList) [.assignment a] none
  /-- Without letters behind it, an option waits for its operand. -/
  | waiting (option : OperandOption) : Cluster [option.letter] [] (some option)

/-- An argument that is a path: it does not begin with a dash, or is a single one. -/
def IsPath (arg : String) : Prop := arg.toList.head? ≠ some '-' ∨ arg = "-"

/-- Arguments write options and paths. -/
inductive Writes : List String → List CommandOption → List String → Prop
  /-- No arguments write nothing. -/
  | nil : Writes [] [] []
  /-- A cluster of options with all their operands. -/
  | cluster {letters : List Char} {options more : List CommandOption} {args paths : List String}
      (hl : letters ≠ []) (hc : Cluster letters options none) (h : Writes args more paths) :
      Writes (String.ofList ('-' :: letters) :: args) (options ++ more) paths
  /-- A cluster whose last option has the next argument as its operand. -/
  | separate {letters : List Char} {options more : List CommandOption} {args paths : List String}
      (a : Assignment) (hc : Cluster letters options (some a.option))
      (h : Writes args more paths) :
      Writes (String.ofList ('-' :: letters) :: a.operand :: args)
        (options ++ .assignment a :: more) paths
  /-- A path between options. -/
  | path {path : String} {options : List CommandOption} {args paths : List String}
      (hp : IsPath path) (h : Writes args options paths) :
      Writes (path :: args) options (path :: paths)
  /-- Two dashes end the options; only paths follow. -/
  | ended (paths : List String) : Writes ("--" :: paths) [] paths

/-- The command line with one option more. -/
def take (l : CommandLine) : CommandOption → CommandLine
  | .switch .ignoresErrors => { l with ignoresErrors := true }
  | .switch .strict => { l with strict := true }
  | .switch .skipsSettings => { l with config := .skip }
  | .assignment (.config path) => { l with config := .file path }
  | .assignment (.define definition) =>
    { l with defines := l.defines ++ [(definition.name, definition.value)] }

variable {l last : CommandLine} {options : List CommandOption} {args paths : List String}

/-- What options make of a command line. -/
theorem foldl_take (options : List CommandOption) (l : CommandLine) :
    options.foldl take l =
      { l with
        config := (options.filterMap CommandOption.choice?).getLast?.getD l.config
        defines := l.defines ++ options.filterMap CommandOption.definition?
        ignoresErrors := l.ignoresErrors || decide (.switch .ignoresErrors ∈ options)
        strict := l.strict || decide (.switch .strict ∈ options) } := by
  induction options generalizing l with
  | nil => simp
  | cons option options ih =>
    rw [List.foldl_cons, ih]
    rcases option with (_ | _ | _) | (path | definition) <;>
      simp [take, CommandOption.choice?, CommandOption.definition?, List.filterMap_cons,
        List.getLast?_cons]

/-- A definition is cut at its first equals sign. -/
theorem cutAt_operand (d : Definition) :
    Text.cutAt '=' (Assignment.define d).operand.toList = some (d.name.toList, d.value.toList) := by
  refine Text.cutAt_eq_some_iff.mpr ⟨?_, d.no_equals⟩
  simp [Assignment.operand]

/-- An option takes the operands that it can have, and no others. -/
theorem giveOperand_eq_ok_iff {operand : String} {option : OperandOption} :
    l.giveOperand operand option = .ok last ↔
      ∃ a : Assignment, a.option = option ∧ a.operand = operand ∧ l.take (.assignment a) = last := by
  constructor
  · intro h
    cases option with
    | config => exact ⟨.config operand, rfl, rfl, Except.ok.inj h⟩
    | define =>
      rw [giveOperand] at h
      split at h
      · cases h
      · cases h
      · next name value hname hcut =>
        obtain ⟨hop, hfree⟩ := Text.cutAt_eq_some_iff.mp hcut
        have hne : String.ofList name ≠ "" := fun he => hname (String.ofList_eq_empty_iff.mp he)
        rw [← String.toList_ofList (l := name)] at hfree
        refine ⟨.define ⟨String.ofList name, String.ofList value, hne, hfree⟩, rfl, ?_,
          Except.ok.inj h⟩
        apply String.toList_injective
        simp [Assignment.operand, hop]
  · rintro ⟨path | d, rfl, rfl, rfl⟩
    · rfl
    · obtain ⟨c, cs, hname⟩ := List.exists_cons_of_ne_nil (mt String.toList_eq_nil_iff.mp d.name_ne)
      have hcut := cutAt_operand d
      rw [hname] at hcut
      simp only [Assignment.option, giveOperand, hcut, take]
      rw [← hname, String.ofList_toList, String.ofList_toList]

theorem giveOperand_operand (l : CommandLine) (a : Assignment) :
    l.giveOperand a.operand a.option = .ok (l.take (.assignment a)) := by
  rw [giveOperand_eq_ok_iff]
  exact ⟨a, rfl, rfl, rfl⟩

/-- An option without letters behind it waits for its operand; else these are the operand. -/
theorem cluster_of_openOption (option : OperandOption) {letters : List Char}
    {waiting : Option OperandOption} (h : l.openOption option letters = .ok (last, waiting)) :
    ∃ options, Cluster (option.letter :: letters) options waiting ∧ options.foldl take l = last := by
  unfold openOption at h
  split at h
  · next hletters =>
    cases h
    rw [List.isEmpty_iff.mp hletters]
    exact ⟨[], .waiting option, rfl⟩
  · next hletters =>
    obtain ⟨l', hgive, hl'⟩ := map_eq_ok_iff.mp h
    cases hl'
    rw [giveOperand_eq_ok_iff] at hgive
    obtain ⟨a, rfl, ho, hlast⟩ := hgive
    have hoperand : a.operand.toList = letters := by
      rw [ho, String.toList_ofList]
    have hne : a.operand ≠ "" := fun he => by
      rw [← hoperand, he] at hletters
      exact hletters rfl
    exact ⟨[.assignment a], hoperand ▸ .attached a hne, hlast⟩

theorem openOption_operand (l : CommandLine) (a : Assignment) (h : a.operand ≠ "") :
    l.openOption a.option a.operand.toList = .ok (l.take (.assignment a), none) := by
  rw [openOption, if_neg (by simpa using h), String.ofList_toList, giveOperand_operand]
  rfl

/-- The letters of an argument are taken exactly if they write options, and these are taken in order;
the last may wait for its operand. -/
theorem takeLetters_eq_ok_iff {letters : List Char} {waiting : Option OperandOption} :
    l.takeLetters letters = .ok (last, waiting) ↔
      ∃ options, Cluster letters options waiting ∧ options.foldl take l = last := by
  constructor
  · intro h
    induction letters generalizing l with
    | nil =>
      cases h
      exact ⟨[], .nil, rfl⟩
    | cons letter letters ih =>
      have hswitch (s : Switch) (h : (l.take (.switch s)).takeLetters letters = .ok (last, waiting)) :
          ∃ options, Cluster (s.letter :: letters) options waiting ∧ options.foldl take l = last := by
        obtain ⟨options, hc, hlast⟩ := ih h
        exact ⟨.switch s :: options, .switch s hc, hlast⟩
      rw [takeLetters] at h
      split at h
      · next hl => exact hl ▸ hswitch .ignoresErrors h
      split at h
      · next hl => exact hl ▸ hswitch .strict h
      split at h
      · next hl => exact hl ▸ hswitch .skipsSettings h
      split at h
      · next hl => exact hl ▸ cluster_of_openOption .config h
      split at h
      · next hl => exact hl ▸ cluster_of_openOption .define h
      · cases h
  · rintro ⟨options, hc, rfl⟩
    induction hc generalizing l with
    | nil => rfl
    | switch s _ ih => cases s <;> exact ih
    | attached a h => cases a <;> exact openOption_operand l _ h
    | waiting option => cases option <;> rfl

/-- The arguments that are options are those that are no paths. -/
theorem isLetters_eq_false_iff {arg : String} : isLetters arg = false ↔ IsPath arg := by
  unfold isLetters IsPath
  split
  · next c cs h =>
    have hdash : arg ≠ "-" := fun he => by
      rw [he] at h
      cases h
    simp [h, hdash]
  · next h =>
    refine iff_of_true rfl ?_
    cases hcs : arg.toList with
    | nil => exact .inl nofun
    | cons c cs =>
      by_cases hc : c = '-'
      · cases cs with
        | nil =>
          right
          apply String.toList_injective
          rw [hcs, hc]
          rfl
        | cons d cs => exact absurd (hc ▸ hcs) (h d cs)
      · exact .inl (by simpa using hc)

/-- An argument consists of options exactly if it is a dash with letters behind it. -/
theorem isLetters_iff {arg : String} :
    isLetters arg = true ↔ ∃ letters, letters ≠ [] ∧ arg = String.ofList ('-' :: letters) := by
  unfold isLetters
  split
  · next c cs h =>
    refine iff_of_true rfl ⟨c :: cs, List.cons_ne_nil c cs, ?_⟩
    rw [← h, String.ofList_toList]
  · next h =>
    refine iff_of_false Bool.false_ne_true ?_
    rintro ⟨letters, hne, rfl⟩
    obtain ⟨c, cs, rfl⟩ := List.exists_cons_of_ne_nil hne
    exact h c cs String.toList_ofList

/-- A cluster with an option that waits has the letter of that option. -/
theorem Cluster.ne_nil_of_waiting {letters : List Char} {option : OperandOption}
    (h : Cluster letters options (some option)) : letters ≠ [] := by
  cases h <;> exact List.cons_ne_nil _ _

/-- No option has a dash as its letter, so no cluster is two dashes. -/
theorem Cluster.ne_dashes {letters : List Char} {waiting : Option OperandOption}
    (h : Cluster letters options waiting) : String.ofList ('-' :: letters) ≠ "--" := by
  intro he
  have hletters : '-' :: letters = ['-', '-'] := by
    rw [← String.toList_ofList (l := '-' :: letters), he]
    rfl
  have hfirst : letters.head? = some '-' := by
    rw [(List.cons.inj hletters).2]
    rfl
  cases h with
  | nil => cases hfirst
  | switch s _ => exact s.letter_ne (Option.some.inj hfirst)
  | attached a _ => exact a.option.letter_ne (Option.some.inj hfirst)
  | waiting option => exact option.letter_ne (Option.some.inj hfirst)

/-- An argument of options that is taken is a cluster. -/
theorem exists_cluster {arg : String} {waiting : Option OperandOption} (hp : isLetters arg = true)
    (h : l.takeLetters (arg.toList.drop 1) = .ok (last, waiting)) :
    ∃ letters options, letters ≠ [] ∧ arg = String.ofList ('-' :: letters) ∧
      Cluster letters options waiting ∧ options.foldl take l = last := by
  obtain ⟨letters, hne, rfl⟩ := isLetters_iff.mp hp
  rw [String.toList_ofList, takeLetters_eq_ok_iff] at h
  obtain ⟨options, hc, hlast⟩ := h
  exact ⟨letters, options, hne, rfl, hc, hlast⟩

/-- A cluster that is not empty is an argument of options, which is taken. -/
theorem Cluster.takes {letters : List Char} {waiting : Option OperandOption}
    (hc : Cluster letters options waiting) (hl : letters ≠ []) (l : CommandLine) :
    isLetters (String.ofList ('-' :: letters)) = true ∧
      l.takeLetters ((String.ofList ('-' :: letters)).toList.drop 1) =
        .ok (options.foldl take l, waiting) := by
  refine ⟨isLetters_iff.mpr ⟨letters, hl, rfl⟩, ?_⟩
  rw [String.toList_ofList, takeLetters_eq_ok_iff]
  exact ⟨options, hc, rfl⟩

/-- Arguments that are taken write options and paths, and these are taken in order. -/
theorem writes_of_takeArguments {before : List String}
    (h : l.takeArguments before args = .ok (last, paths)) :
    ∃ options written, Writes args options written ∧ options.foldl take l = last ∧
      before ++ written = paths := by
  fun_induction takeArguments l before args with
  | case1 =>
    cases h
    exact ⟨[], [], .nil, rfl, List.append_nil _⟩
  | case2 l before rest =>
    cases h
    exact ⟨[], rest, .ended rest, rfl, rfl⟩
  | case3 l before arg rest _ hp ih =>
    obtain ⟨options, written, hw, hlast, rfl⟩ := ih h
    have hpath : IsPath arg := isLetters_eq_false_iff.mp (by simpa using hp)
    exact ⟨options, arg :: written, .path hpath hw, hlast, by simp⟩
  | case5 l before arg rest _ hp next hletters ih =>
    obtain ⟨letters, first, hne, rfl, hc, rfl⟩ := exists_cluster (by simpa using hp) hletters
    obtain ⟨options, written, hw, hlast, hpaths⟩ := ih h
    exact ⟨first ++ options, written, .cluster hne hc hw, by rwa [List.foldl_append], hpaths⟩
  | case8 l before arg _ hp between option hletters operand rest next hgive ih =>
    obtain ⟨letters, first, -, rfl, hc, rfl⟩ := exists_cluster (by simpa using hp) hletters
    obtain ⟨a, rfl, rfl, rfl⟩ := giveOperand_eq_ok_iff.mp hgive
    obtain ⟨options, written, hw, hlast, hpaths⟩ := ih h
    refine ⟨first ++ .assignment a :: options, written, .separate a hc hw, ?_, hpaths⟩
    rwa [List.foldl_append, List.foldl_cons]
  | case4 | case6 | case7 => cases h

/-- Arguments that write options and paths are taken as these, in order. -/
theorem takeArguments_of_writes (h : Writes args options paths) (l : CommandLine)
    (before : List String) :
    l.takeArguments before args = .ok (options.foldl take l, before ++ paths) := by
  induction h generalizing l before with
  | nil => rw [List.append_nil, takeArguments, List.foldl_nil]
  | cluster hl hc _ ih =>
    obtain ⟨hletters, htaken⟩ := hc.takes hl l
    rw [takeArguments, if_neg hc.ne_dashes, hletters, htaken, List.foldl_append]
    exact ih _ before
  | separate a hc _ ih =>
    obtain ⟨hletters, htaken⟩ := hc.takes hc.ne_nil_of_waiting l
    rw [takeArguments, if_neg hc.ne_dashes, hletters, htaken]
    simp only [Bool.not_true, Bool.false_eq_true, if_false, giveOperand_operand]
    rw [ih, List.foldl_append, List.foldl_cons]
  | @path path _ _ _ hp _ ih =>
    have hdashes : path ≠ "--" := by
      rintro rfl
      rcases hp with h | h
      · exact h rfl
      · exact absurd h (by decide)
    rw [takeArguments, if_neg hdashes, isLetters_eq_false_iff.mpr hp, Bool.not_false, if_pos rfl,
      ih, List.append_assoc, List.singleton_append]
  | ended paths => rw [takeArguments, if_pos rfl, List.foldl_nil]

/-- There is at most one path. -/
theorem exists_path_of_withPaths (h : l.withPaths paths = .ok last) :
    ∃ path : Option String, paths = path.toList := by
  rcases paths with _ | ⟨path, _ | _⟩
  · exact ⟨none, rfl⟩
  · exact ⟨some path, rfl⟩
  · cases h

/-- The path says where the template comes from. -/
theorem withPaths_toList (options : List CommandOption) (path : Option String) :
    (options.foldl take empty).withPaths path.toList = .ok (ofOptions options path) := by
  rw [foldl_take]
  cases path with
  | none => simp [withPaths, ofOptions, empty]
  | some path => by_cases h : path = "-" <;> simp [withPaths, ofOptions, empty, h]

/-- **Every spelling of a command line is understood, and nothing else is.** Arguments are a command
line exactly if they write some options and at most one path; the command line is then what these
say. -/
theorem parse_eq_ok_iff_writes (args : List String) (l : CommandLine) :
    parse args = .ok l ↔
      ∃ options path, Writes args options path.toList ∧ ofOptions options path = l := by
  constructor
  · intro h
    unfold parse at h
    split at h
    · cases h
    · next hargs =>
      obtain ⟨options, written, hw, rfl, rfl⟩ := writes_of_takeArguments hargs
      obtain ⟨path, hpath⟩ := exists_path_of_withPaths h
      rw [List.nil_append] at hpath
      subst hpath
      rw [List.nil_append, withPaths_toList] at h
      exact ⟨options, path, hw, Except.ok.inj h⟩
  · rintro ⟨options, path, hw, rfl⟩
    rw [parse, takeArguments_of_writes hw, List.nil_append]
    exact withPaths_toList options path

/-- A cluster with an operand that looks like the end of the options, and a path behind that end. -/
example : (parse ["-isc", "--", "-Da=b=c", "--", "-n"]).toOption =
    some ⟨.file "--", [("a", "b=c")], true, true, .file "-n"⟩ := by
  decide +kernel

end CommandLine

end TagTemplate
