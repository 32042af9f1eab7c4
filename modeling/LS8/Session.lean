-- A session: one command line carried out. It gives an exit status, the text on
-- the standard output and the text on the standard error output.

import LS8.CommandLine
import LS8.Files
import LS8.Machine.Trace
import LS8.Program.Listing
import LS8.Program.Source

namespace LS8

inductive LoadError
  | unreadable (cause : FileError)
  | malformed (cause : ProgramError)
  deriving DecidableEq

def LoadError.message : LoadError → String
  | .unreadable cause => "failed to read program: " ++ cause.message
  | .malformed cause => cause.message

/-- Loads the program in a file. -/
def Program.load (read : Reader) (name : String) : Except LoadError Program :=
  match read.text name with
  | .error e => .error (.unreadable e)
  | .ok text =>
    match Program.ofText text with
    | .error e => .error (.malformed e)
    | .ok program => .ok program

/-- The way a session ends. -/
structure Outcome where
  exit : Nat
  output : String := ""
  errors : String := ""
  /-- The number of instructions, if the end of the run is to be reported. -/
  finished : Option Nat := none
  deriving DecidableEq

namespace Session

def helpText : String :=
  "Run and inspect LS-8 programs\n\n"
    ++ "Usage: ls8 [OPTIONS] <PROGRAM>\n"
    ++ "       ls8 run [OPTIONS] <PROGRAM>\n"
    ++ "       ls8 disasm <PROGRAM>\n\n"
    ++ "Options:\n"
    ++ "      --trace           Print the PC, upcoming bytes and registers before every instruction\n"
    ++ "      --max-cycles <N>  Stop with an error after executing this many instructions\n"
    ++ "                        [env: LS8_MAX_CYCLES=]\n"
    ++ "      --verbose         Report the end of the run\n"
    ++ "  -h, --help            Print help\n"
    ++ "  -V, --version         Print version\n"

def versionText : String := "ls8 0.1.0\n"

/-- The report of a run that has halted, in bold green and with the status in twelve columns. -/
def finishedText (cycles : Nat) : String :=
  "\x1b[1m\x1b[32m    Finished\x1b[0m " ++ Text.decimal cycles ++ " instructions"

/-- A span of time in seconds, or from a minute on in minutes and seconds. -/
def elapsedText (milliseconds : Nat) : String :=
  let seconds := milliseconds / 1000
  if 60 ≤ seconds then
    Text.decimal (seconds / 60) ++ "m " ++ Text.twoDigits (seconds % 60) ++ "s"
  else
    Text.decimal seconds ++ "." ++ Text.twoDigits (milliseconds % 1000 / 10) ++ "s"

/-- What to add to the trace before a step. -/
def observer (trace : Bool) : String → Machine → String :=
  if trace then Machine.noteStep else fun lines _ => lines

/-- A command line that was not understood. -/
def rejected (e : UsageError) : Outcome where
  exit := 2
  errors := "error: " ++ e.message ++ "\n\n" ++ helpText

def loadFailed (name : String) (e : LoadError) : Outcome where
  exit := 2
  errors := "error: failed to load " ++ name ++ ": " ++ e.message ++ "\n"

/-- The end of a run. To halt is the signal to stop, and not a success. -/
def ended (name : String) (verbose : Bool) (output trace : String) :
    Except Fault Nat → Outcome
  | .ok cycles =>
    { exit := 1, output := output, errors := trace,
      finished := if verbose then some cycles else none }
  | .error fault =>
    { exit := 2, output := output,
      errors := trace ++ "error: failed to execute " ++ name ++ ": " ++ fault.message ++ "\n" }

/-- Runs a program. There is no outcome if the run never ends. -/
def run (name : String) (p : Program) (options : Options) (verbose : Bool) : Option Outcome :=
  match (Machine.start p options.limit {}).executeWatched (observer options.trace) "" with
  | none => none
  | some (trace, result, last) => some (ended name verbose last.sink.text trace result)

/-- Lists a program. -/
def list (read : Reader) (name : String) : Outcome :=
  match Program.load read name with
  | .error e => loadFailed name e
  | .ok p =>
    { exit := 0, output := String.join (p.listing.map fun line => listingLine line ++ "\n") }

def helped : Outcome := { exit := 0, output := helpText }

def versioned : Outcome := { exit := 0, output := versionText }

/-- Carries out a request. -/
def carryOut (read : Reader) : Request → Option Outcome
  | .help => some helped
  | .version => some versioned
  | .list name => some (list read name)
  | .run name options verbose =>
    match Program.load read name with
    | .error e => some (loadFailed name e)
    | .ok p => run name p options verbose

/-- The outcome of a command line, if the session ends. -/
def outcomeUnder (rule : CommandLine.EnvironmentRule) (read : Reader)
    (environment : Option String) (arguments : List String) : Option Outcome :=
  match CommandLine.readUnder rule environment arguments with
  | .error e => some (rejected e)
  | .ok request => carryOut read request

/-- The outcome by the rule of the program. -/
def outcome (read : Reader) (environment : Option String) (arguments : List String) :
    Option Outcome :=
  outcomeUnder CommandLine.EnvironmentRule.standard read environment arguments

end Session

end LS8
