-- The command line: what its arguments ask for. A command may stand first; the
-- options may stand in any order before and behind the program; behind "--" there
-- are only names. The options of a run are declared on two levels, at the top and
-- behind the command that runs, and on each of them a limit that is not given is
-- asked of the environment.

import LS8.Options
import LS8.Text.Numeral

namespace LS8

/-- What a command line asks for. -/
inductive Request
  | run (program : String) (options : Options) (verbose : Bool)
  | list (program : String)
  | help
  | version
  deriving DecidableEq

/-- Why a command line is rejected. -/
inductive UsageError
  | unknownOption (option : String)
  | repeatedOption (option : String)
  | missingValue (option : String)
  | needlessValue (option : String)
  | invalidValue (option value : String)
  | unknownCommand (name : String)
  | unexpectedWord (word : String)
  | emptyName
  | missingProgram
  deriving DecidableEq

def UsageError.message : UsageError → String
  | .unknownOption option => "unexpected argument '" ++ option ++ "'"
  | .repeatedOption option => "the option '" ++ option ++ "' is given twice"
  | .missingValue option => "the option '" ++ option ++ "' needs a value"
  | .needlessValue option => "the option '" ++ option ++ "' takes no value"
  | .invalidValue option value => "invalid value '" ++ value ++ "' for '" ++ option ++ "'"
  | .unknownCommand name => "there is no command '" ++ name ++ "'"
  | .unexpectedWord word => "unexpected argument '" ++ word ++ "'"
  | .emptyName => "the name of the program is empty"
  | .missingProgram => "no program is given"

namespace CommandLine

/-! ## Arguments one by one -/

inductive Token
  /-- Two dashes, behind which there are no options. -/
  | terminator
  | long (name : String) (value : Option String)
  | short (letters : List Char)
  | word (text : String)
  deriving DecidableEq

/-- Two dashes begin a long option, whose value may follow a "=", and one dash begins short
options. A single dash is a word. -/
def Token.ofArgument (argument : String) : Token :=
  match argument.toList with
  | ['-', '-'] => .terminator
  | '-' :: '-' :: rest =>
    let name := String.ofList (rest.takeWhile (· != '='))
    match rest.dropWhile (· != '=') with
    | [] => .long name none
    | _ :: value => .long name (some (String.ofList value))
  | '-' :: letter :: letters => .short (letter :: letters)
  | _ => .word argument

/-! ## The forms of the command line -/

/-- Which command stands first. Without one, the program is run. -/
inductive Form
  | plain
  | run
  | disasm
  deriving DecidableEq

/-- Whether the form takes the options of a run. -/
def Form.runs : Form → Bool
  | .disasm => false
  | _ => true

/-! ## Options that may stand in the environment -/

/-- The value of an option, in its argument or in the environment. -/
def valueOf (option : String) (parse : String → Option Nat) (value : String) :
    Except UsageError Nat :=
  match parse value with
  | some n => .ok n
  | none => .error (.invalidValue option value)

/-- How the library that reads arguments comes to the value of an option that may also stand in
the environment, on each level that declares the option. The rule goes by the name of the option,
the reading of its values, what is given on the level, and the text of the variable. -/
abbrev EnvironmentRule :=
  String → (String → Option Nat) → Option Nat → Option String → Except UsageError (Option Nat)

namespace EnvironmentRule

/-- What the library documents of its rule. -/
structure Documented (rule : EnvironmentRule) : Prop where
  /-- The value on the level counts, and the variable is not looked at. -/
  given : ∀ option parse n text, rule option parse (some n) text = .ok (some n)
  /-- The option may be left out. -/
  unset : ∀ option parse, rule option parse none none = .ok none
  /-- An option that is not given takes its variable, which is read as an argument would be. -/
  taken : ∀ option parse text,
    rule option parse none (some text) = (valueOf option parse text).map some

/-- The rule with which the program runs. -/
def standard : EnvironmentRule := fun option parse given text =>
  match given, text with
  | some n, _ => .ok (some n)
  | none, none => .ok none
  | none, some text => (valueOf option parse text).map some

theorem documented_standard : standard.Documented where
  given _ _ _ _ := rfl
  unset _ _ := rfl
  taken _ _ _ := rfl

end EnvironmentRule

/-! ## What is given on a level -/

/-- What the arguments of one level have given so far. -/
structure Draft where
  program : Option String := none
  limit : Option Nat := none
  trace : Bool := false
  verbose : Bool := false

namespace Draft

def addProgram (d : Draft) (word : String) : Except UsageError Draft :=
  if d.program.isSome then .error (.unexpectedWord word)
  else if word = "" then .error .emptyName
  else .ok { d with program := some word }

def addLimit (d : Draft) (value : String) : Except UsageError Draft :=
  if d.limit.isSome then .error (.repeatedOption "--max-cycles")
  else
    (valueOf "--max-cycles" Text.unsigned64? value).map fun n => { d with limit := some n }

def addTrace (d : Draft) : Except UsageError Draft :=
  if d.trace then .error (.repeatedOption "--trace") else .ok { d with trace := true }

def addVerbose (d : Draft) : Except UsageError Draft :=
  if d.verbose then .error (.repeatedOption "--verbose") else .ok { d with verbose := true }

/-- The level at its end, when the environment has been asked for the limit. -/
def filled (rule : EnvironmentRule) (environment : Option String) (d : Draft) :
    Except UsageError Draft :=
  (rule "--max-cycles" Text.unsigned64? d.limit environment).map fun limit =>
    { d with limit := limit }

def required (d : Draft) : Except UsageError String :=
  match d.program with
  | some program => .ok program
  | none => .error .missingProgram

/-- The options of the run: the limit, if there is one, and then whether it is traced. -/
def options (d : Draft) : Options :=
  (Options.setAll {} (d.limit.map .limit).toList).setAll [.trace d.trace]

end Draft

/-! ## The two levels -/

/-- A command with what is given on its level. -/
inductive Command
  | run (given : Draft)
  | disasm (given : Draft)

/-- What is given at the top, and the command, if one is given. -/
structure Levels where
  top : Draft := {}
  command : Option Command := none

namespace Command

/-- The level of the command at its end. The options of a run are not declared for a listing. -/
def filled (rule : EnvironmentRule) (environment : Option String) :
    Command → Except UsageError Command
  | .run d => (d.filled rule environment).map .run
  | .disasm d => .ok (.disasm d)

def request : Command → Except UsageError Request
  | .run d => d.required.map fun program => .run program d.options d.verbose
  | .disasm d => d.required.map .list

end Command

/-- What is asked for on the two levels. The level of a command ends first. The options of a run
are declared at the top also if a command is given, which then makes no use of them; without a
command they are those of the run. -/
def Levels.request (rule : EnvironmentRule) (environment : Option String) (l : Levels) :
    Except UsageError Request := do
  match l.command with
  | some command =>
    let request ← (← command.filled rule environment).request
    let _ ← l.top.filled rule environment
    return request
  | none => Command.request (.run (← l.top.filled rule environment))

/-- With a command nothing is given at the top, since arguments there exclude a command. -/
def Form.levels (form : Form) (d : Draft) : Levels :=
  match form with
  | .plain => { top := d }
  | .run => { command := some (.run d) }
  | .disasm => { command := some (.disasm d) }

/-! ## What the options mean -/

/-- What a long option does. -/
inductive Meaning
  | trace
  | verbose
  | limit
  | help
  | version

/-- The long options of a form. -/
def Form.meaning? (form : Form) (name : String) : Option Meaning :=
  if name = "help" then some .help
  else if name = "version" ∧ form = .plain then some .version
  else if form.runs then
    if name = "trace" then some .trace
    else if name = "verbose" then some .verbose
    else if name = "max-cycles" then some .limit
    else none
  else none

/-- The short options of a form. -/
def Form.shortMeaning? (form : Form) (letter : Char) : Option Meaning :=
  if letter = 'h' then some .help
  else if letter = 'V' ∧ form = .plain then some .version
  else none

/-! ## The whole command line -/

/-- The request, when all arguments are read. -/
def finish (rule : EnvironmentRule) (form : Form) (environment : Option String) (d : Draft) :
    Except UsageError Request :=
  (form.levels d).request rule environment

/-- Reads the arguments behind the command. Asking for help or for the version ends the
reading, and so does the first mistake. -/
def readArguments (rule : EnvironmentRule) (form : Form) (environment : Option String)
    (d : Draft) : List String → Except UsageError Request
  | [] => finish rule form environment d
  | argument :: rest =>
    match Token.ofArgument argument with
    | .terminator =>
      match rest.foldlM Draft.addProgram d with
      | .ok d => finish rule form environment d
      | .error e => .error e
    | .word word =>
      match d.addProgram word with
      | .ok d => readArguments rule form environment d rest
      | .error e => .error e
    | .short letters =>
      match letters.head?.bind form.shortMeaning? with
      | some .help => .ok .help
      | some .version => .ok .version
      | _ => .error (.unknownOption argument)
    | .long name value =>
      match form.meaning? name, value with
      | none, _ => .error (.unknownOption argument)
      | some .help, none => .ok .help
      | some .version, none => .ok .version
      | some .trace, none =>
        match d.addTrace with
        | .ok d => readArguments rule form environment d rest
        | .error e => .error e
      | some .verbose, none =>
        match d.addVerbose with
        | .ok d => readArguments rule form environment d rest
        | .error e => .error e
      | some .limit, some value =>
        match d.addLimit value with
        | .ok d => readArguments rule form environment d rest
        | .error e => .error e
      | some .limit, none =>
        match rest with
        | [] => .error (.missingValue argument)
        | next :: rest =>
          match Token.ofArgument next with
          | .word value =>
            match d.addLimit value with
            | .ok d => readArguments rule form environment d rest
            | .error e => .error e
          | _ => .error (.missingValue argument)
      | some _, some _ => .error (.needlessValue argument)

/-- The words behind the command "help" may name one command. -/
def readHelp : List String → Except UsageError Request
  | [] => .ok .help
  | [name] =>
    if name = "run" ∨ name = "disasm" ∨ name = "help" then .ok .help
    else .error (.unknownCommand name)
  | _ :: name :: _ => .error (.unknownCommand name)

/-- Reads a command line. A command is recognised as the first argument only. -/
def readUnder (rule : EnvironmentRule) (environment : Option String) (arguments : List String) :
    Except UsageError Request :=
  match arguments with
  | "run" :: rest => readArguments rule .run environment {} rest
  | "disasm" :: rest => readArguments rule .disasm environment {} rest
  | "help" :: rest => readHelp rest
  | _ => readArguments rule .plain environment {} arguments

/-- Reads a command line by the rule of the program. -/
def read (environment : Option String) (arguments : List String) : Except UsageError Request :=
  readUnder EnvironmentRule.standard environment arguments

end CommandLine

end LS8
