import Mathlib.Data.List.Induction
import TtlStore.Proofs.Numeral
import TtlStore.Soak.Options

/-!
# The grammar of the command line

A command line is to be spelled by settings: each a spelling of a flag, followed
by a numeral.  Of several settings of one flag the last counts, whatever their
spellings and whatever stands between them, so that settings of different flags
may be put in any order.

A command line that no settings spell has a first offence: after some settings,
in the place of a flag, stands a word that asks for help or for the version, or
is unknown, or is a flag without a value or with one that is no numeral.  The
offence decides what comes of the command line, whatever follows.
-/

namespace TtlStore.Soak

/-! ## Flags and their values -/

namespace Flag

theorem mem_all (flag : Flag) : flag ∈ all := by
  cases flag <;> decide

/-- No word spells two flags. -/
theorem ofSpelling?_eq_some_iff (word : String) (flag : Flag) :
    ofSpelling? word = some flag ↔ word ∈ flag.spellings := by
  constructor
  · intro found
    have spells := List.find?_some found
    exact List.contains_iff_mem.mp spells
  · intro spells
    cases flag with
    | shards | bucketMilliseconds | ttlMilliseconds =>
        rcases List.mem_singleton.mp spells with rfl
        decide
    | workers | keys | seconds =>
        rcases List.mem_cons.mp spells with rfl | second
        · decide
        · rcases List.mem_singleton.mp second with rfl
          decide

theorem ofSpelling?_eq_none_iff (word : String) :
    ofSpelling? word = none ↔ ∀ flag : Flag, word ∉ flag.spellings := by
  rw [Option.eq_none_iff_forall_ne_some]
  apply forall_congr'
  intro flag
  exact not_congr (ofSpelling?_eq_some_iff word flag)

/-- The first spelling of a flag. -/
def spelling (flag : Flag) : String :=
  flag.spellings.headD ""

theorem spelling_mem (flag : Flag) : flag.spelling ∈ flag.spellings := by
  cases flag <;> exact List.mem_cons_self

end Flag

namespace Options

/-- The value of the option that a flag sets. -/
def value (options : Options) : Flag → UInt64
  | .shards => options.shards
  | .bucketMilliseconds => options.bucketMilliseconds
  | .workers => options.workers
  | .keys => options.keys
  | .ttlMilliseconds => options.ttlMilliseconds
  | .seconds => options.seconds

/-- Options are determined by the values that flags set. -/
theorem ext_value
    {left right : Options}
    (same : ∀ flag, left.value flag = right.value flag) :
    left = right := by
  cases left
  cases right
  congr 1
  · exact same .shards
  · exact same .bucketMilliseconds
  · exact same .workers
  · exact same .keys
  · exact same .ttlMilliseconds
  · exact same .seconds

theorem value_assign
    (options : Options)
    (number : UInt64)
    (flag other : Flag) :
    (options.assign number flag).value other =
      if flag = other then number else options.value other := by
  cases flag <;> cases other <;> rfl

end Options

/-- A flag and the number that it is set to. -/
structure Setting where
  flag : Flag
  number : UInt64

namespace Options

/-- The options after settings, one after another. -/
def assignAll (options : Options) (settings : List Setting) : Options :=
  settings.foldl
    (fun current setting => current.assign setting.number setting.flag)
    options

end Options

/-- The number to which settings set a flag in the end, if they set it. -/
def lastNumber? (settings : List Setting) (flag : Flag) : Option UInt64 :=
  (settings.filter fun setting => setting.flag = flag).getLast?.map (·.number)

/-- The last number counts, or else the value before. -/
theorem Options.value_assignAll
    (options : Options)
    (settings : List Setting)
    (flag : Flag) :
    (options.assignAll settings).value flag =
      (lastNumber? settings flag).getD (options.value flag) := by
  induction settings using List.reverseRecOn with
  | nil => rfl
  | append_singleton earlier last induction =>
      have step :
          options.assignAll (earlier ++ [last]) =
            (options.assignAll earlier).assign last.number last.flag :=
        List.foldl_append
      rw [step, value_assign, lastNumber?, List.filter_append]
      by_cases here : last.flag = flag
      · have kept : [last].filter (fun setting => setting.flag = flag) = [last] :=
          List.filter_cons_of_pos (decide_eq_true here)
        rw [if_pos here, kept, List.getLast?_concat]
        rfl
      · have dropped : [last].filter (fun setting => setting.flag = flag) = [] :=
          List.filter_cons_of_neg (by simpa using here)
        rw [if_neg here, dropped, List.append_nil, induction]
        rfl

/-! ## The grammar -/

/-- The words are flags in one of their spellings, each followed by a numeral. -/
inductive Spells : List String → List Setting → Prop where
  | nil : Spells [] []
  | cons
      {flag : Flag}
      {spelling value : String}
      {number : UInt64}
      {words : List String}
      {settings : List Setting}
      (spells : spelling ∈ flag.spellings)
      (denotes : Numeral.Denotes value number)
      (rest : Spells words settings) :
      Spells (spelling :: value :: words) (⟨flag, number⟩ :: settings)

/-- The words begin with an offence where a flag should stand, and what then comes of them. -/
inductive Offends : List String → Except UsageError Request → Prop where
  | help (rest : List String) :
      Offends ("--help" :: rest) (.ok .help)
  | version
      {word : String}
      (spells : word = "--version" ∨ word = "-v")
      (rest : List String) :
      Offends (word :: rest) (.ok .version)
  | unknownArgument
      {word : String}
      (noFlag : ∀ flag : Flag, word ∉ flag.spellings)
      (noRequest : word ∉ ["--help", "--version", "-v"])
      (rest : List String) :
      Offends (word :: rest) (.error (.unknownArgument word))
  | missingValue
      {flag : Flag}
      {spelling : String}
      (spells : spelling ∈ flag.spellings) :
      Offends [spelling] (.error (.missingValue spelling))
  | invalidValue
      {flag : Flag}
      {spelling value : String}
      {cause : NumeralError}
      (spells : spelling ∈ flag.spellings)
      (refused : Numeral.read value = .error cause)
      (rest : List String) :
      Offends (spelling :: value :: rest)
        (.error (.invalidValue spelling value cause))

/-- What comes of options that were read to the end: there must be a worker and a key. -/
def Options.conclusion (options : Options) : Except UsageError Request :=
  if options.workers = 0 ∨ options.keys = 0 then
    .error .nothingToDo
  else
    .ok (.soak options)

/-! ## Reading by the grammar -/

namespace Request

variable {words : List String} {settings : List Setting}

theorem readFrom_setting
    {flag : Flag}
    {spelling value : String}
    {number : UInt64}
    (spells : spelling ∈ flag.spellings)
    (denotes : Numeral.Denotes value number)
    (options : Options)
    (rest : List String) :
    readFrom options (spelling :: value :: rest) =
      readFrom (options.assign number flag) rest := by
  rw [readFrom, (Flag.ofSpelling?_eq_some_iff _ _).mpr spells,
    (Numeral.read_eq_ok_iff _ _).mpr denotes]

/-- Settings are read one after another, whatever follows them. -/
theorem readFrom_append
    (spelled : Spells words settings)
    (options : Options)
    (rest : List String) :
    readFrom options (words ++ rest) =
      readFrom (options.assignAll settings) rest := by
  induction spelled generalizing options with
  | nil => rfl
  | cons spells denotes others induction =>
      rw [List.cons_append, List.cons_append,
        readFrom_setting spells denotes, induction]
      rfl

theorem readFrom_of_no_flag
    {word : String}
    (noFlag : ∀ flag : Flag, word ∉ flag.spellings)
    (options : Options)
    (rest : List String) :
    readFrom options (word :: rest) =
      (ofSpelling? word).elim (.error (.unknownArgument word)) .ok := by
  have none := (Flag.ofSpelling?_eq_none_iff word).mpr noFlag
  cases rest with
  | nil =>
      rw [readFrom, none]
      cases ofSpelling? word <;> rfl
  | cons value others =>
      rw [readFrom, none]
      cases ofSpelling? word <;> rfl

/-- An offence decides what comes of a command line, whatever was set before. -/
theorem readFrom_of_offends
    {outcome : Except UsageError Request}
    (offends : Offends words outcome)
    (options : Options) :
    readFrom options words = outcome := by
  cases offends with
  | help rest =>
      rw [readFrom_of_no_flag ((Flag.ofSpelling?_eq_none_iff _).mp (by decide))]
      rfl
  | version spells rest =>
      rcases spells with rfl | rfl
      · rw [readFrom_of_no_flag ((Flag.ofSpelling?_eq_none_iff _).mp (by decide))]
        rfl
      · rw [readFrom_of_no_flag ((Flag.ofSpelling?_eq_none_iff _).mp (by decide))]
        rfl
  | @unknownArgument word noFlag noRequest rest =>
      have unknown : ofSpelling? word = none := by
        simp only [List.mem_cons, List.not_mem_nil, or_false, not_or]
          at noRequest
        rw [ofSpelling?, if_neg noRequest.1, if_neg (not_or.mpr noRequest.2)]
      rw [readFrom_of_no_flag noFlag, unknown]
      rfl
  | missingValue spells =>
      rw [readFrom, (Flag.ofSpelling?_eq_some_iff _ _).mpr spells]
  | invalidValue spells refused rest =>
      rw [readFrom, (Flag.ofSpelling?_eq_some_iff _ _).mpr spells, refused]

/-- A word that is no flag is an offence. -/
theorem exists_offends_of_no_flag
    {word : String}
    (noFlag : ∀ flag : Flag, word ∉ flag.spellings)
    (rest : List String) :
    ∃ outcome, Offends (word :: rest) outcome := by
  by_cases request : word ∈ ["--help", "--version", "-v"]
  · simp only [List.mem_cons, List.not_mem_nil, or_false] at request
    rcases request with rfl | version
    · exact ⟨_, .help rest⟩
    · exact ⟨_, .version version rest⟩
  · exact ⟨_, .unknownArgument noFlag request rest⟩

/-- Every command line is spelled by settings, or it has an offence after some. -/
theorem spelled_or_offends (words : List String) :
    ∃ before settings rest,
      words = before ++ rest ∧
        Spells before settings ∧
          (rest = [] ∨ ∃ outcome, Offends rest outcome) := by
  induction words using List.twoStepInduction with
  | nil => exact ⟨[], [], [], rfl, .nil, Or.inl rfl⟩
  | singleton word =>
      refine ⟨[], [], [word], rfl, .nil, Or.inr ?_⟩
      by_cases known : ∃ flag : Flag, word ∈ flag.spellings
      · rcases known with ⟨flag, spells⟩
        exact ⟨_, .missingValue spells⟩
      · exact exists_offends_of_no_flag (not_exists.mp known) []
  | cons_cons word value others induction _ =>
      by_cases known : ∃ flag : Flag, word ∈ flag.spellings
      · rcases known with ⟨flag, spells⟩
        cases read : Numeral.read value with
        | error cause =>
            exact
              ⟨[], [], _, rfl, .nil,
                Or.inr ⟨_, .invalidValue spells read others⟩⟩
        | ok number =>
            rcases induction with ⟨before, settings, rest, rfl, spelled, ends⟩
            exact
              ⟨word :: value :: before, ⟨flag, number⟩ :: settings, rest, rfl,
                .cons spells ((Numeral.read_eq_ok_iff _ _).mp read) spelled,
                ends⟩
      · exact
          ⟨[], [], _, rfl, .nil,
            Or.inr
              (exists_offends_of_no_flag (not_exists.mp known)
                (value :: others))⟩

theorem read_of_spells (spelled : Spells words settings) :
    read words = (Options.standard.assignAll settings).conclusion := by
  have whole := readFrom_append spelled Options.standard []
  rw [List.append_nil] at whole
  exact whole

theorem read_of_offends
    (spelled : Spells words settings)
    {rest : List String}
    {outcome : Except UsageError Request}
    (offends : Offends rest outcome) :
    read (words ++ rest) = outcome := by
  rw [read, readFrom_append spelled]
  exact readFrom_of_offends offends _

/-- What comes of a command line is what its settings or its first offence say. -/
theorem read_eq_iff
    (arguments : List String)
    (outcome : Except UsageError Request) :
    read arguments = outcome ↔
      (∃ settings,
        Spells arguments settings ∧
          outcome = (Options.standard.assignAll settings).conclusion) ∨
        ∃ before settings rest,
          arguments = before ++ rest ∧
            Spells before settings ∧ Offends rest outcome := by
  constructor
  · rintro rfl
    rcases spelled_or_offends arguments with
      ⟨before, settings, rest, rfl, spelled, rfl | ⟨outcome, offends⟩⟩
    · rw [List.append_nil]
      exact Or.inl ⟨settings, spelled, read_of_spells spelled⟩
    · rw [read_of_offends spelled offends]
      exact Or.inr ⟨before, settings, rest, rfl, spelled, offends⟩
  · rintro (⟨settings, spelled, rfl⟩ |
      ⟨before, settings, rest, rfl, spelled, offends⟩)
    · exact read_of_spells spelled
    · exact read_of_offends spelled offends

end Request

/-! ## Writing options -/

namespace Options

/-- A command line that asks for the options: each flag with its value in decimal digits. -/
def words (options : Options) : List String :=
  Flag.all.flatMap fun flag =>
    [flag.spelling, toString (options.value flag)]

/-- The settings of all flags to the values of the options. -/
def settings (options : Options) : List Setting :=
  Flag.all.map fun flag => ⟨flag, options.value flag⟩

theorem spells_words (options : Options) :
    Spells options.words options.settings := by
  rw [words, settings]
  induction Flag.all with
  | nil => exact .nil
  | cons flag others induction =>
      exact
        .cons flag.spelling_mem
          (Numeral.denotes_toString (options.value flag)) induction

theorem lastNumber?_settings (options : Options) (flag : Flag) :
    lastNumber? options.settings flag = some (options.value flag) := by
  cases flag <;> rfl

theorem conclusion_eq_soak_iff (options other : Options) :
    options.conclusion = .ok (.soak other) ↔
      options = other ∧ other.workers ≠ 0 ∧ other.keys ≠ 0 := by
  rw [conclusion]
  split
  · rename_i idle
    constructor
    · intro refused
      cases refused
    · rintro ⟨rfl, workers, keys⟩
      exact absurd idle (not_or.mpr ⟨workers, keys⟩)
  · rename_i busy
    constructor
    · intro accepted
      cases accepted
      exact ⟨rfl, not_or.mp busy⟩
    · rintro ⟨rfl, _⟩
      rfl

/-- The options are the given ones after settings if each flag has its last number, or else its value before. -/
theorem assignAll_eq_iff (options other : Options) (settings : List Setting) :
    options.assignAll settings = other ↔
      ∀ flag,
        other.value flag =
          (lastNumber? settings flag).getD (options.value flag) := by
  constructor
  · rintro rfl flag
    exact options.value_assignAll settings flag
  · intro values
    apply ext_value
    intro flag
    rw [values, value_assignAll]

end Options

/-- A mistake is named by the word at which it is made. -/
theorem Offends.names
    {word : String}
    {rest : List String}
    {error : UsageError}
    (offends : Offends (word :: rest) (.error error)) :
    ∃ opening closing, error.message = opening ++ word ++ closing := by
  cases offends with
  | unknownArgument =>
      exact ⟨"unknown argument: ", "", String.append_empty.symm⟩
  | missingValue =>
      refine ⟨"", " requires a value", ?_⟩
      rw [String.empty_append]
      rfl
  | @invalidValue _ _ value =>
      refine ⟨"invalid value for ", ": " ++ value, ?_⟩
      rw [← String.append_assoc]
      rfl

/--
The grammar of the command line.  A command line asks for a soak run if and only
if it is spelled by settings, with a worker and a key after all of them; each
option then has the number of its last setting, in whichever spelling, or else its
standard value.  Settings of different flags may stand in any order, and all
options with a worker and a key can be written and are read back.

Of any other command line the first offence decides what comes of it: help or the
version, whatever follows, or a mistake, whose wording has the word at which it was
made.  What stands after a flag is its value, and is never taken for a flag.
-/
theorem command_lines_by_grammar (arguments : List String) :
    (∀ word,
        (∃ flag : Flag, word ∈ flag.spellings) ↔
          word ∈
            ["--shards", "--bucket-ms", "--threads", "-t", "--keys", "-k",
              "--ttl-ms", "--duration-secs", "-d"]) ∧
      (∀ value number,
        Numeral.read value = .ok number ↔ Numeral.Denotes value number) ∧
      (∀ options,
        Request.read arguments = .ok (.soak options) ↔
          ∃ settings,
            Spells arguments settings ∧
              options.workers ≠ 0 ∧
              options.keys ≠ 0 ∧
              ∀ flag,
                options.value flag =
                  (lastNumber? settings flag).getD
                    (Options.standard.value flag)) ∧
      (∀ settings other otherSettings,
        Spells arguments settings →
          Spells other otherSettings →
            (∀ flag,
              (settings.filter fun setting => setting.flag = flag) =
                otherSettings.filter fun setting => setting.flag = flag) →
              Request.read other = Request.read arguments) ∧
      (∀ options : Options,
        options.workers ≠ 0 →
          options.keys ≠ 0 →
            Request.read options.words = .ok (.soak options)) ∧
      (∀ outcome,
        Request.read arguments = outcome ↔
          (∃ settings,
            Spells arguments settings ∧
              outcome = (Options.standard.assignAll settings).conclusion) ∨
            ∃ before settings rest,
              arguments = before ++ rest ∧
                Spells before settings ∧ Offends rest outcome) ∧
      ∀ word rest error,
        Offends (word :: rest) (.error error) →
          ∃ opening closing, error.message = opening ++ word ++ closing := by
  refine
    ⟨?_, Numeral.read_eq_ok_iff, ?_, ?_, ?_, Request.read_eq_iff arguments,
      fun _ _ _ offends => offends.names⟩
  · intro word
    constructor
    · rintro ⟨flag, spells⟩
      have listed : word ∈ Flag.all.flatMap Flag.spellings :=
        List.mem_flatMap.mpr ⟨flag, flag.mem_all, spells⟩
      exact listed
    · intro listed
      have spells : word ∈ Flag.all.flatMap Flag.spellings := listed
      rcases List.mem_flatMap.mp spells with ⟨flag, _, spells⟩
      exact ⟨flag, spells⟩
  · intro options
    constructor
    · intro asked
      rcases (Request.read_eq_iff _ _).mp asked with
        ⟨settings, spelled, accepted⟩ | ⟨_, _, _, _, _, offends⟩
      · rcases (Options.conclusion_eq_soak_iff _ _).mp accepted.symm with
          ⟨same, workers, keys⟩
        exact
          ⟨settings, spelled, workers, keys,
            (Options.assignAll_eq_iff _ _ _).mp same⟩
      · cases offends
    · rintro ⟨settings, spelled, workers, keys, values⟩
      rw [Request.read_of_spells spelled, Options.conclusion_eq_soak_iff]
      exact
        ⟨(Options.assignAll_eq_iff _ _ _).mpr values, workers, keys⟩
  · intro settings other otherSettings spelled otherSpelled sameOrder
    rw [Request.read_of_spells spelled, Request.read_of_spells otherSpelled]
    apply congrArg Options.conclusion
    rw [Options.assignAll_eq_iff]
    intro flag
    rw [Options.value_assignAll, lastNumber?, sameOrder, lastNumber?]
  · intro options workers keys
    rw [Request.read_of_spells options.spells_words,
      Options.conclusion_eq_soak_iff]
    refine ⟨?_, workers, keys⟩
    rw [Options.assignAll_eq_iff]
    intro flag
    rw [options.lastNumber?_settings]
    rfl

/-- Both spellings of the workers' flag set one option, and settings of other flags may stand between. -/
theorem command_lines_by_grammar_respelledFlag :
    let arguments := ["-t", "+2", "--keys", "5", "--threads", "03"]
    let reordered := ["-k", "5", "-t", "2", "-t", "3"]
    let options : Options := { Options.standard with workers := 3, keys := 5 }
    let settings : List Setting :=
      [⟨.workers, 2⟩, ⟨.keys, 5⟩, ⟨.workers, 3⟩]
    Spells arguments settings ∧
      options.workers ≠ 0 ∧
      options.keys ≠ 0 ∧
      Request.read arguments = .ok (.soak options) ∧
      Request.read reordered = Request.read arguments ∧
      Request.read options.words = Request.read arguments := by
  intro arguments reordered options settings
  obtain ⟨-, numerals, asks, reorders, written, -, -⟩ :=
    command_lines_by_grammar arguments
  have spelled : Spells arguments settings :=
    .cons (by decide) ((numerals _ _).mp (by decide +kernel))
      (.cons (by decide) ((numerals _ _).mp (by decide +kernel))
        (.cons (by decide) ((numerals _ _).mp (by decide +kernel)) .nil))
  have otherSpelled :
      Spells reordered [⟨.keys, 5⟩, ⟨.workers, 2⟩, ⟨.workers, 3⟩] :=
    .cons (by decide) ((numerals _ _).mp (by decide +kernel))
      (.cons (by decide) ((numerals _ _).mp (by decide +kernel))
        (.cons (by decide) ((numerals _ _).mp (by decide +kernel)) .nil))
  have workers : options.workers ≠ 0 := by decide
  have keys : options.keys ≠ 0 := by decide
  have asked : Request.read arguments = .ok (.soak options) := by
    refine (asks options).mpr ⟨settings, spelled, workers, keys, ?_⟩
    intro flag
    cases flag <;> rfl
  refine ⟨spelled, workers, keys, asked, ?_, ?_⟩
  · apply reorders settings reordered _ spelled otherSpelled
    intro flag
    cases flag <;> rfl
  · rw [asked]
    exact written options workers keys

/-- After a flag even a request for help is only a value, and no numeral. -/
example :
    Request.read ["-t", "+2", "--threads", "03", "--shards", "--help"] =
      .error (.invalidValue "--shards" "--help" .invalidDigit) := by
  decide +kernel

end TtlStore.Soak
