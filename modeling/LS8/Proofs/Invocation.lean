-- What the command line makes of a program in a file. With the command or without it, the same
-- request is read, and its outcome is that of the machine: the text of the run is the output, a
-- halt and a fault have each their own status, and what goes wrong is named on the last line.
import LS8.Proofs.History
import LS8.Proofs.Levels
import LS8.Session

namespace LS8

/-! ## Options of a run, as they are written -/

namespace CommandLine

inductive RunOption
  | limit (value : String)
  | trace
  | verbose
  deriving DecidableEq

namespace RunOption

def flag : RunOption → String
  | limit _ => "--max-cycles"
  | trace => "--trace"
  | verbose => "--verbose"

def arguments : RunOption → List String
  | limit value => ["--max-cycles", value]
  | trace => ["--trace"]
  | verbose => ["--verbose"]

/-- The limit that the option gives, if it gives one. -/
def limit? : RunOption → Option Nat
  | limit value => Text.unsigned64? value
  | _ => none

/-- The limit has to be a number. -/
def isWellFormed : RunOption → Bool
  | limit value => (Text.unsigned64? value).isSome
  | _ => true

end RunOption

/-- Options that are understood: none is given twice, and each is well formed. -/
structure Understood (options : List RunOption) : Prop where
  once : (options.map RunOption.flag).Nodup
  well_formed : ∀ o ∈ options, o.isWellFormed = true

instance (options : List RunOption) : Decidable (Understood options) :=
  decidable_of_iff ((options.map RunOption.flag).Nodup ∧ ∀ o ∈ options, o.isWellFormed = true)
    ⟨fun ⟨once, well_formed⟩ => ⟨once, well_formed⟩,
      fun ⟨once, well_formed⟩ => ⟨once, well_formed⟩⟩

/-- A word that names a program: no command, and no option. An empty word names no file. -/
structure IsProgramName (name : String) : Prop where
  some_text : name ≠ ""
  no_command : name ∉ ["run", "disasm", "help"]
  no_option : name.toList.head? ≠ some '-'

instance (name : String) : Decidable (IsProgramName name) :=
  decidable_of_iff (name ≠ "" ∧ name ∉ ["run", "disasm", "help"] ∧ name.toList.head? ≠ some '-')
    ⟨fun ⟨text, command, option⟩ => ⟨text, command, option⟩,
      fun ⟨text, command, option⟩ => ⟨text, command, option⟩⟩

/-! ## Tokens -/

theorem Token.ofArgument_of_word {argument : String} (h : argument.toList.head? ≠ some '-') :
    ofArgument argument = .word argument := by
  unfold ofArgument
  split
  · rename_i chars
    simp [chars] at h
  · rename_i chars
    simp [chars] at h
  · rename_i chars
    simp [chars] at h
  · rfl

/-- A number does not begin with a dash. -/
theorem Token.ofArgument_of_number {value : String}
    (h : (Text.unsigned64? value).isSome = true) : ofArgument value = .word value := by
  apply ofArgument_of_word
  intro dash
  obtain ⟨rest, chars⟩ : ∃ rest, value.toList = '-' :: rest := by
    cases chars : value.toList with
    | nil => simp [chars] at dash
    | cons c rest =>
      rw [chars, List.head?_cons] at dash
      cases dash
      exact ⟨rest, rfl⟩
  have no_digit : Text.isDigit 10 '-' = false := by decide
  simp [Text.unsigned64?, Text.unsigned?, chars, Text.withoutPlus, no_digit] at h

/-! ## Reading the arguments -/

variable {rule : EnvironmentRule} {form : Form} {environment : Option String} {d : Draft}
  {options : List RunOption}

namespace Draft

/-- The draft with one option more. -/
def take (d : Draft) : RunOption → Draft
  | .limit value => { d with limit := Text.unsigned64? value }
  | .trace => { d with trace := true }
  | .verbose => { d with verbose := true }

/-- No option of the kind has been given. -/
def Lacks (d : Draft) : RunOption → Prop
  | .limit _ => d.limit = none
  | .trace => d.trace = false
  | .verbose => d.verbose = false

/-- An option leaves the others to be given. -/
theorem Lacks.take {o other : RunOption} (h : d.Lacks other) (ne : o.flag ≠ other.flag) :
    (d.take o).Lacks other := by
  cases o <;> cases other <;> first | exact h | exact absurd rfl ne

end Draft

theorem readArguments_option (runs : form.runs = true) {o : RunOption} (lacks : d.Lacks o)
    (well_formed : o.isWellFormed = true) (rest : List String) :
    readArguments rule form environment d (o.arguments ++ rest) =
      readArguments rule form environment (d.take o) rest := by
  cases o with
  | limit value =>
    have token : Token.ofArgument "--max-cycles" = .long "max-cycles" none := by decide +kernel
    have meaning : form.meaning? "max-cycles" = some .limit := by
      cases form <;> simp [Form.meaning?, Form.runs] at runs ⊢
    have word := Token.ofArgument_of_number well_formed
    obtain ⟨n, parsed⟩ := Option.isSome_iff_exists.mp well_formed
    have added : d.addLimit value = .ok (d.take (.limit value)) := by
      simp only [Draft.Lacks] at lacks
      simp [Draft.addLimit, Draft.take, lacks, valueOf, parsed, Except.map]
    simp only [RunOption.arguments, List.cons_append, List.nil_append, readArguments, token, meaning,
      word, added]
  | trace =>
    have token : Token.ofArgument "--trace" = .long "trace" none := by decide +kernel
    have meaning : form.meaning? "trace" = some .trace := by
      cases form <;> simp [Form.meaning?, Form.runs] at runs ⊢
    have added : d.addTrace = .ok (d.take .trace) := by
      simp only [Draft.Lacks] at lacks
      simp [Draft.addTrace, Draft.take, lacks]
    rw [RunOption.arguments, List.cons_append, List.nil_append, readArguments.eq_def]
    simp only [token, meaning, added]
  | verbose =>
    have token : Token.ofArgument "--verbose" = .long "verbose" none := by decide +kernel
    have meaning : form.meaning? "verbose" = some .verbose := by
      cases form <;> simp [Form.meaning?, Form.runs] at runs ⊢
    have added : d.addVerbose = .ok (d.take .verbose) := by
      simp only [Draft.Lacks] at lacks
      simp [Draft.addVerbose, Draft.take, lacks]
    rw [RunOption.arguments, List.cons_append, List.nil_append, readArguments.eq_def]
    simp only [token, meaning, added]

/-- The limit that is given among the options, if one is. -/
def givenLimit? (options : List RunOption) : Option Nat := options.findSome? RunOption.limit?

theorem Understood.tail {o : RunOption} (h : Understood (o :: options)) : Understood options :=
  ⟨(List.nodup_cons.mp h.once).2,
    fun other mem => h.well_formed other (List.mem_cons_of_mem o mem)⟩

/-- The options are read one by one, and each is found again in the draft. -/
theorem readArguments_options (runs : form.runs = true) (understood : Understood options)
    (lacks : ∀ o ∈ options, d.Lacks o) :
    readArguments rule form environment d (options.flatMap RunOption.arguments) =
      finish rule form environment
        { program := d.program
          limit := d.limit.or (givenLimit? options)
          trace := d.trace || decide (.trace ∈ options)
          verbose := d.verbose || decide (.verbose ∈ options) } := by
  induction options generalizing d with
  | nil => simp [readArguments, givenLimit?]
  | cons o options ih =>
    have fresh := (List.nodup_cons.mp understood.once).1
    have still : ∀ other ∈ options, (d.take o).Lacks other := by
      intro other mem
      apply (lacks other (List.mem_cons_of_mem o mem)).take
      intro same
      exact fresh (same ▸ List.mem_map_of_mem mem)
    have well_formed := understood.well_formed o List.mem_cons_self
    have first := lacks o List.mem_cons_self
    rw [List.flatMap_cons, readArguments_option runs first well_formed, ih understood.tail still]
    cases o with
    | limit value =>
      obtain ⟨n, parsed⟩ := Option.isSome_iff_exists.mp well_formed
      simp only [Draft.Lacks] at first
      simp [Draft.take, givenLimit?, RunOption.limit?, parsed, first]
    | trace => simp [Draft.take, givenLimit?, List.findSome?_cons, RunOption.limit?]
    | verbose => simp [Draft.take, givenLimit?, List.findSome?_cons, RunOption.limit?]

/-! ## The whole command line -/

/-- The value in the environment, if there is one, is a number. -/
def IsValid (environment : Option String) : Prop :=
  ∀ value ∈ environment, (Text.unsigned64? value).isSome = true

instance (environment : Option String) : Decidable (IsValid environment) :=
  inferInstanceAs (Decidable (∀ value ∈ environment, (Text.unsigned64? value).isSome = true))

/-- The limit that the environment gives. -/
def defaultLimit? (environment : Option String) : Option Nat := environment.bind Text.unsigned64?

theorem limitIn_of_valid (valid : IsValid environment) :
    limitIn environment = .ok (defaultLimit? environment) := by
  cases environment with
  | none => rfl
  | some value =>
    obtain ⟨n, parsed⟩ := Option.isSome_iff_exists.mp (valid value rfl)
    simp [limitIn, valueOf, defaultLimit?, parsed, Except.map]

/-- Whether or not the environment is looked at, the limit is the given one, or else its own. -/
theorem environmentLimit_of_valid (valid : IsValid environment) (form : Form) (d : Draft) :
    ∃ default, environmentLimit form environment d = .ok default ∧
      d.limit.or default = d.limit.or (defaultLimit? environment) := by
  unfold environmentLimit
  split
  · rename_i given
    obtain ⟨n, limit⟩ := Option.isSome_iff_exists.mp given.2
    exact ⟨none, rfl, by simp [limit]⟩
  · exact ⟨_, limitIn_of_valid valid, rfl⟩

theorem finish_of_valid {name : String} (documented : rule.Documented) (valid : IsValid environment)
    (program : d.program = some name) :
    finish rule form environment d = .ok (form.request name d (defaultLimit? environment)) := by
  obtain ⟨default, found, limit⟩ := environmentLimit_of_valid valid form d
  rw [finish_eq documented program, found]
  cases form with
  | disasm => rfl
  | plain | run => simp only [Except.map, Form.request, limit]

theorem readArguments_name {name : String} (named : IsProgramName name) (rest : List String) :
    readArguments rule form environment {} (name :: rest) =
      readArguments rule form environment { program := some name } rest := by
  have word := Token.ofArgument_of_word named.no_option
  have added : Draft.addProgram {} name = .ok { program := some name } := by
    simp [Draft.addProgram, named.some_text]
  rw [readArguments.eq_def]
  simp only [word, added]

/-- The arguments of a run come to their end with all that they give. -/
theorem readArguments_run {name : String} (runs : form.runs = true) (named : IsProgramName name)
    (understood : Understood options) :
    readArguments rule form environment {} (name :: options.flatMap RunOption.arguments) =
      finish rule form environment
        { program := some name
          limit := givenLimit? options
          trace := decide (.trace ∈ options)
          verbose := decide (.verbose ∈ options) } := by
  have lacks : ∀ o ∈ options, Draft.Lacks { program := some name } o := by
    intro o _
    cases o <;> rfl
  rw [readArguments_name named, readArguments_options runs understood lacks]
  simp

theorem readUnder_name {name : String} (named : IsProgramName name) (rest : List String) :
    readUnder rule environment (name :: rest) =
      readArguments rule .plain environment {} (name :: rest) := by
  have other := named.no_command
  simp only [List.mem_cons, List.not_mem_nil, or_false, not_or] at other
  unfold readUnder
  split
  · rename_i same
    exact absurd (List.cons.inj same).1 other.1
  · rename_i same
    exact absurd (List.cons.inj same).1 other.2.1
  · rename_i same
    exact absurd (List.cons.inj same).1 other.2.2
  · rfl

/-- What is asked for by a program name and options of a run. -/
def requestOf (name : String) (environment : Option String) (options : List RunOption) : Request :=
  .run name ⟨(givenLimit? options).or (defaultLimit? environment), decide (.trace ∈ options)⟩
    (decide (.verbose ∈ options))

/-- With the command or without it, the same is asked for. -/
theorem readUnder_eq_requestOf {name : String} (documented : rule.Documented)
    (named : IsProgramName name) (understood : Understood options) (valid : IsValid environment) :
    readUnder rule environment (name :: options.flatMap RunOption.arguments) =
        .ok (requestOf name environment options) ∧
      readUnder rule environment ("run" :: name :: options.flatMap RunOption.arguments) =
        .ok (requestOf name environment options) := by
  constructor
  · rw [readUnder_name named, readArguments_run rfl named understood,
      finish_of_valid documented valid rfl]
    rfl
  · change readArguments rule .run environment {} _ = _
    rw [readArguments_run rfl named understood, finish_of_valid documented valid rfl]
    rfl

theorem readUnder_disasm {name : String} (documented : rule.Documented)
    (named : IsProgramName name) (valid : IsValid environment) :
    readUnder rule environment ["disasm", name] = .ok (.list name) := by
  change readArguments rule .disasm environment {} [name] = _
  rw [readArguments_name named, readArguments, finish_of_valid documented valid rfl]
  rfl

end CommandLine

/-! ## Files and runs -/

/-- A text that stands in a file is read as it is. -/
theorem Reader.text_of_file {read : Reader} {name text : String}
    (file : read name = .ok text.toUTF8) : Reader.text read name = .ok text := by
  have decoded : String.fromUTF8? text.toUTF8 = some text := dif_pos text.isValidUTF8
  simp only [Reader.text, file, decoded]

theorem Program.load_of_file {read : Reader} {name text : String}
    (file : read name = .ok text.toUTF8) :
    load read name = (ofText text).mapError LoadError.malformed := by
  simp only [load, Reader.text_of_file file]
  cases ofText text <;> rfl

/-- The text is made of whole lines. -/
def Text.WholeLines (text : String) : Prop :=
  ∃ lines : List String, text = String.join (lines.map (· ++ "\n"))

theorem Text.WholeLines.append {text : String} (h : WholeLines text) (line : String) :
    WholeLines (text ++ line ++ "\n") := by
  obtain ⟨lines, rfl⟩ := h
  refine ⟨lines ++ [line], ?_⟩
  rw [List.map_append, String.join_append, String.append_assoc]
  simp

namespace Session

open CommandLine
open Text (WholeLines)

theorem wholeLines_observer (trace : Bool) {shown : String} (h : WholeLines shown) (m : Machine) :
    WholeLines (observer trace shown m) := by
  cases trace with
  | false => exact h
  | true =>
    change WholeLines (m.noteStep shown)
    unfold Machine.noteStep
    split
    · exact h
    · split
      · exact h.append _
      · exact h

/-- A run that ends has the outcome of the machine, behind the trace that was shown. -/
theorem run_of_execute {p : Program} {result : Except Fault Nat} {last : Machine} (name : String)
    (options : Options) (verbose : Bool)
    (h : (Machine.start p options.limit {}).execute = some (result, last)) :
    ∃ shown, WholeLines shown ∧ (options.trace = false → shown = "") ∧
      run name p options verbose = some (ended name verbose last.sink.text shown result) := by
  rw [← Machine.executeWatched_snd (observer options.trace) ""] at h
  obtain ⟨⟨shown, answer⟩, watched, same⟩ := Option.map_eq_some_iff.mp h
  subst same
  refine ⟨shown, ?_, ?_, by simp only [run, watched]⟩
  · exact Machine.executeWatched_keeps (P := fun shown _ => WholeLines shown)
      (fun _ m lines => wholeLines_observer _ lines m) watched ⟨[], rfl⟩
  · intro silent
    rw [silent] at watched
    exact Machine.executeWatched_keeps (P := fun shown _ => shown = "")
      (fun _ _ nothing => nothing) watched rfl

theorem outcomeUnder_of_read {rule : EnvironmentRule} {read : Reader}
    {environment : Option String} {arguments : List String} {request : Request}
    (h : readUnder rule environment arguments = .ok request) :
    outcomeUnder rule read environment arguments = carryOut read request := by
  simp only [outcomeUnder, h]

/-! ## The law -/

/-- The program in a file is run alike with the command and without it. If its text is malformed,
that is all there is to read, whatever the command; if not, the output is what the machine writes
under the limit of the option, or else of the environment, if there is one. A halt has the status 1
and a fault the status 2, and the fault is named on a line of its own behind the trace, with no
report behind it. The listing has a line for each entry. -/
theorem the_command_does_what_the_machine_does (rule : EnvironmentRule) (read : Reader)
    (name text : String) (environment : Option String) (options : List RunOption)
    (documented : rule.Documented) (file : read name = .ok text.toUTF8)
    (named : IsProgramName name) (understood : Understood options) (valid : IsValid environment) :
    outcomeUnder rule read environment ("run" :: name :: options.flatMap RunOption.arguments) =
      outcomeUnder rule read environment (name :: options.flatMap RunOption.arguments) ∧
    (∀ e, Program.ofText text = .error e →
      outcomeUnder rule read environment (name :: options.flatMap RunOption.arguments) = some
        { exit := 2
          output := ""
          errors := "error: failed to load " ++ name ++ ": " ++ e.message ++ "\n" } ∧
      outcomeUnder rule read environment ["disasm", name] = some
        { exit := 2
          output := ""
          errors := "error: failed to load " ++ name ++ ": " ++ e.message ++ "\n" }) ∧
    ∀ p, Program.ofText text = .ok p →
      outcomeUnder rule read environment ["disasm", name] = some
        { exit := 0
          output := String.join (p.listing.map fun (address, entry) =>
            Text.hexByte address ++ ": " ++ entry.text ++ "\n")
          errors := "" } ∧
      ∀ result last, Machine.execute (Machine.start p
          ((givenLimit? options).or (defaultLimit? environment)) {}) = some (result, last) →
        ∃ o, outcomeUnder rule read environment (name :: options.flatMap RunOption.arguments) = some o ∧
          o.output = last.sink.text ∧ o.exit ≠ 0 ∧
          (∀ cycles, result = .ok cycles → o.exit = 1) ∧
          ∀ f, result = .error f → o.exit = 2 ∧ o.finished = none ∧ ∃ shown, WholeLines shown ∧
            (.trace ∉ options → shown = "") ∧ o.errors = shown ++
              ("error: failed to execute " ++ name ++ ": " ++ f.message ++ "\n") := by
  obtain ⟨plain, command⟩ := readUnder_eq_requestOf documented named understood valid
  have listing := readUnder_disasm documented named valid
  rw [outcomeUnder_of_read plain, outcomeUnder_of_read command, outcomeUnder_of_read listing]
  refine ⟨rfl, ?_, ?_⟩
  · intro e malformed
    have load : Program.load read name = .error (.malformed e) := by
      rw [Program.load_of_file file, malformed]
      rfl
    simp only [carryOut, requestOf, list, load]
    exact ⟨rfl, rfl⟩
  · intro p well_formed
    have load : Program.load read name = .ok p := by
      rw [Program.load_of_file file, well_formed]
      rfl
    simp only [carryOut, requestOf, list, load]
    refine ⟨rfl, ?_⟩
    intro result last executed
    obtain ⟨shown, lines, silent, ran⟩ := run_of_execute name
      ⟨(givenLimit? options).or (defaultLimit? environment), decide (.trace ∈ options)⟩
      (decide (.verbose ∈ options)) executed
    refine ⟨_, ran, ?_⟩
    cases result with
    | ok cycles =>
      refine ⟨rfl, by simp [ended], fun _ _ => rfl, ?_⟩
      intro f other
      cases other
    | error fault =>
      refine ⟨rfl, by simp [ended], ?_, ?_⟩
      · intro cycles other
        cases other
      · intro f same
        cases same
        refine ⟨rfl, rfl, shown, lines, fun untraced => silent (by simp [untraced]), ?_⟩
        simp only [ended, String.append_assoc]

/-- The limit of the option counts and not that of the environment, under which the run would not
come to the unknown instruction. -/
theorem a_fault_is_named_behind_its_trace :
    let text := "10000010\n00000000\n00001000\n01000111\n00000000\n11111111\n"
    let read : Reader := fun _ => .ok text.toUTF8
    let arguments := ["p", "--trace", "--verbose", "--max-cycles", "5"]
    outcome read (some "1") ("run" :: arguments) = outcome read (some "1") arguments ∧
      ∃ o shown, outcome read (some "1") arguments = some o ∧
        o.output = "8\n" ∧ o.exit = 2 ∧ o.finished = none ∧ WholeLines shown ∧ o.errors = shown ++
          "error: failed to execute p: unknown instruction 255 at address 5\n" := by
  intro text read arguments
  obtain ⟨p, well_formed, ran⟩ : ∃ p, Program.ofText text = .ok p ∧
      (Machine.start p (some 5) {}).execute.map (fun answer => (answer.1, answer.2.sink.text)) =
        some (.error (.unknownOpcode 5 255), "8\n") :=
    ⟨⟨[130, 0, 8, 71, 0, 255], by decide⟩, by decide +kernel, by decide +kernel⟩
  obtain ⟨⟨result, last⟩, executed, same⟩ := Option.map_eq_some_iff.mp ran
  obtain ⟨rfl, output⟩ := Prod.mk.inj same
  obtain ⟨alike, -, law⟩ := the_command_does_what_the_machine_does .standard read "p" text
    (some "1") [.trace, .verbose, .limit "5"] EnvironmentRule.documented_standard rfl (by decide)
    (by decide +kernel) (by decide +kernel)
  obtain ⟨-, law⟩ := law p well_formed
  obtain ⟨o, ended, output_eq, -, -, faulty⟩ := law _ last executed
  obtain ⟨exit, no_report, shown, lines, -, errors⟩ := faulty _ rfl
  exact ⟨alike, o, shown, ended, output_eq.trans output, exit, no_report, lines, errors⟩

end Session

end LS8
