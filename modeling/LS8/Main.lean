-- The program "ls8". It reads the file and shows output and trace as the run goes
-- on; everything else is decided in the session.

import LS8.Session

namespace LS8.Main

/-- Whether a code of the system is a given error number, which may come negated. -/
def isCode (number code : UInt32) : Bool := code == number || code == -number

/-- What an error of the system means for a reader of files. -/
def fileError : IO.Error → FileError
  | .noFileOrDirectory _ _ _ => .notFound
  | .inappropriateType _ code _ => if isCode 20 code then .notDirectory else .isDirectory
  | e@(.invalidArgument _ code _) =>
    if isCode 36 code then .nameTooLong else .other e.toString
  | e => .other e.toString

def readWhole (name : String) : IO (Except FileError ByteArray) := do
  try
    return .ok (← IO.FS.readBinFile name)
  catch e =>
    return .error (fileError e)

/-- Runs the machine to its end. -/
partial def showRun (trace : Bool) (m : Machine) : IO (Except Fault Nat) := do
  IO.eprint (Session.observer trace "" m)
  let (answer, next) := m.step
  IO.print next.sink.text
  match answer with
  | .running => showRun trace { next with sink := next.sink.drained }
  | .halted => return .ok next.state.clock
  | .fault f => return .error f

/-- Shows the outcome of a session that began at the given time, and gives its exit status. -/
def close (started : Nat) (o : Outcome) : IO UInt32 := do
  IO.print o.output
  IO.eprint o.errors
  match o.finished with
  | none => pure ()
  | some cycles =>
    let spent := (← IO.monoMsNow) - started
    IO.eprintln (Session.finishedText cycles ++ " in " ++ Session.elapsedText spent)
  return UInt32.ofNat o.exit

def carryOut : Request → IO UInt32
  | .help => close 0 Session.helped
  | .version => close 0 Session.versioned
  | .list name => do
    let content ← readWhole name
    close 0 (Session.list (fun _ => content) name)
  | .run name options verbose => do
    let content ← readWhole name
    match Program.load (fun _ => content) name with
    | .error e => close 0 (Session.loadFailed name e)
    | .ok p =>
      let started ← IO.monoMsNow
      let result ← showRun options.trace (Machine.start p options.limit {})
      close started (Session.ended name verbose "" "" result)

end LS8.Main

def main (arguments : List String) : IO UInt32 := do
  let environment ← IO.getEnv "LS8_MAX_CYCLES"
  match LS8.CommandLine.read environment arguments with
  | .error e => LS8.Main.close 0 (LS8.Session.rejected e)
  | .ok request => LS8.Main.carryOut request
