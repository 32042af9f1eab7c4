-- The switches of a run. Tracing it and reporting its end add to the error output, the trace in
-- front and the report behind, and change nothing else: not the status, not the output, and not
-- what else goes to the error output.
import LS8.Proofs.Invocation
import LS8.Proofs.Tracing

namespace LS8

/-! ## The error output -/

/-- The report of the end of a run, if there is one, after so many milliseconds. -/
def Outcome.report (o : Outcome) (spent : Nat) : String :=
  match o.finished with
  | none => ""
  | some cycles => Session.finishedText cycles ++ " in " ++ Session.elapsedText spent ++ "\n"

/-- All that goes to the error output in a session that takes so many milliseconds. -/
def Outcome.errorText (o : Outcome) (spent : Nat) : String := o.errors ++ o.report spent

/-- The limit of a run: the given one, or else that of the environment. -/
def CommandLine.limit? (environment : Option String) (options : List RunOption) : Option Nat :=
  (givenLimit? options).or (defaultLimit? environment)

namespace Session

open CommandLine
open Machine (textOfLines)

variable {name : String} {p : Program} {options : Options} {verbose : Bool} {o : Outcome}
  {r : Except Fault Nat}

/-- What a run that has ended has to say for itself. -/
def verdict (name : String) : Except Fault Nat → String
  | .ok _ => ""
  | .error f => "error: failed to execute " ++ name ++ ": " ++ f.message ++ "\n"

/-- The report of a run that has halted. Of a fault nothing is reported. -/
def reportOf (spent : Nat) : Except Fault Nat → String
  | .ok cycles => finishedText cycles ++ " in " ++ elapsedText spent ++ "\n"
  | .error _ => ""

theorem report_ended (name : String) (verbose : Bool) (output shown : String)
    (r : Except Fault Nat) (spent : Nat) : (ended name verbose output shown r).report spent =
      if verbose then reportOf spent r else "" := by
  cases r <;> cases verbose <;> rfl

theorem errors_ended (name : String) (verbose : Bool) (output shown : String)
    (r : Except Fault Nat) : (ended name verbose output shown r).errors =
      shown ++ verdict name r := by
  cases r with
  | ok cycles => exact String.append_empty.symm
  | error f =>
    unfold ended verdict
    simp only [String.append_assoc]

theorem ended_of_result (name : String) (verbose : Bool) (output shown : String)
    (r : Except Fault Nat) : (ended name verbose output shown r).output = output ∧
      (ended name verbose output shown r).exit = (ended name false output "" r).exit := by
  cases r <;> exact ⟨rfl, rfl⟩

/-! ## One run, with each choice of switches -/

theorem execute_of_run (h : run name p options verbose = some o) :
    ∃ r last, (Machine.start p options.limit {}).execute = some (r, last) := by
  unfold run at h
  rw [← Machine.executeWatched_snd (observer options.trace) ""]
  split at h
  · cases h
  · rename_i shown r last watched
    rw [watched]
    exact ⟨r, last, rfl⟩

/-- If watching is a fold, the trace that is shown is made of its lines. -/
theorem run_of_fold {last : Machine} {k : Nat} (name : String) (options : Options) (verbose : Bool)
    (folds : ∀ {α : Type} (see : α → Machine → α) (seen : α),
      (Machine.start p options.limit {}).executeWatched see seen =
        some (((Machine.start p options.limit {}).befores (k + 1)).foldl see seen, r, last)) :
    run name p options verbose = some (ended name verbose last.sink.text
      (if options.trace then textOfLines ((Machine.start p options.limit {}).traceLines (k + 1))
        else "") r) := by
  unfold run
  rw [folds]
  cases options.trace with
  | true => simp [observer, Machine.foldl_noteStep, Machine.traceLines]
  | false =>
    have nothing : ∀ ms : List Machine, ms.foldl (observer false) "" = "" := by
      intro ms
      induction ms with
      | nil => rfl
      | cons m ms ih => exact ih
    simp [nothing]

/-- With the command or without it, the options decide what is carried out. -/
theorem outcomeUnder_of_options {rule : EnvironmentRule} {read : Reader}
    {environment : Option String} {options : List RunOption} {command : List String}
    (documented : rule.Documented) (named : IsProgramName name) (understood : Understood options)
    (valid : IsValid environment) (form : command ∈ [[], ["run"]]) :
    outcomeUnder rule read environment (command ++ name :: options.flatMap RunOption.arguments) =
      carryOut read (.run name ⟨limit? environment options, decide (.trace ∈ options)⟩
        (decide (.verbose ∈ options))) := by
  obtain ⟨plain, behind⟩ := readUnder_eq_requestOf documented named understood valid
  simp only [List.mem_cons, List.not_mem_nil, or_false] at form
  rcases form with rfl | rfl
  · exact outcomeUnder_of_read plain
  · exact outcomeUnder_of_read behind

/-- The report in one piece, with its word and its number. -/
theorem reportOf_ok (spent cycles : Nat) : reportOf spent (.ok cycles) =
    "\x1b[1m\x1b[32m    Finished\x1b[0m " ++ Text.decimal cycles ++ " instructions in " ++
      elapsedText spent ++ "\n" := by
  unfold reportOf finishedText
  simp only [String.append_assoc]
  rfl

theorem errorText_ended (name : String) (verbose : Bool) (output shown : String)
    (r : Except Fault Nat) (spent : Nat) : (ended name verbose output shown r).errorText spent =
      shown ++ verdict name r ++ (if verbose then reportOf spent r else "") := by
  rw [Outcome.errorText, errors_ended, report_ended]

theorem errorText_loadFailed (name : String) (e : LoadError) (spent : Nat) :
    (loadFailed name e).errorText spent = (loadFailed name e).errors := String.append_empty

/-! ## The law -/

/-- If a run ends, then it ends alike with each choice of the two switches and the same limit, and
with the command or without it: the status and the output are the same, and the error output is
the same but for the lines of the trace in front of it and the report behind it. A program that
cannot be loaded has neither. The lines are those of the steps that come to an instruction. All
steps before the last one complete an instruction. So does the last one if the machine halts. If it
fails, it completes nothing; it has a line if the stack stops its instruction, and none if there was
no instruction or no cycle for it. The report is for a machine that halts, and its number is that
of the lines. -/
theorem the_switches_only_add_to_the_error_output (rule : EnvironmentRule) (read : Reader)
    (name : String) (environment : Option String) (options : List RunOption) (o : Outcome)
    (documented : rule.Documented) (named : IsProgramName name) (understood : Understood options)
    (valid : IsValid environment) (ends : outcomeUnder rule read environment
      (name :: options.flatMap RunOption.arguments) = some o) :
    ∃ (lines : List String) (quiet : String) (report : Nat → String),
      (∀ others, Understood others → limit? environment others = limit? environment options →
        ∀ command ∈ [[], ["run"]], ∃ other,
          outcomeUnder rule read environment
            (command ++ name :: others.flatMap RunOption.arguments) = some other ∧
          other.exit = o.exit ∧ other.output = o.output ∧
          ∀ spent, other.errorText spent =
            (if .trace ∈ others then textOfLines lines else "") ++ quiet ++
              (if .verbose ∈ others then report spent else "")) ∧
      (∀ e, Program.load read name = .error e → lines = [] ∧ ∀ spent, report spent = "") ∧
      ∀ p, Program.load read name = .ok p →
        ∃ k r, let m := Machine.start p (limit? environment options) {}
          (∀ j < k, (m.after j).step.1 = .running) ∧
          (m.after k).step.1.result? (m.after (k + 1)).state.clock = some r ∧
          m.execute = some (r, m.after (k + 1)) ∧
          lines = m.traceLines (k + 1) ∧
          (∀ j < k, (m.after j).completion?.isSome = true ∧ (m.after j).executed?.isSome = true) ∧
          (∀ cycles, r = .ok cycles → (m.after k).completion?.isSome = true ∧
            (m.after k).executed?.isSome = true ∧ cycles = lines.length ∧
            ∀ spent, report spent =
              "\x1b[1m\x1b[32m    Finished\x1b[0m " ++ Text.decimal lines.length ++
                " instructions in " ++ elapsedText spent ++ "\n") ∧
          ∀ f, r = .error f → (m.after k).completion? = none ∧
            ((f.isOfStack = true ∧ (m.after k).executed?.isSome = true) ∨
              (f.isOfFetch = true ∧ (m.after k).executed? = none)) ∧
            ∀ spent, report spent = "" := by
  have asked : ∀ others, Understood others →
      limit? environment others = limit? environment options → ∀ command ∈ [[], ["run"]],
      outcomeUnder rule read environment (command ++ name :: others.flatMap RunOption.arguments) =
        carryOut read (.run name ⟨limit? environment options, decide (.trace ∈ others)⟩
          (decide (.verbose ∈ others))) := by
    intro others understood same command form
    rw [outcomeUnder_of_options documented named understood valid form, same]
  have first := asked options understood rfl [] List.mem_cons_self
  rw [List.nil_append, ends] at first
  cases loaded : Program.load read name with
  | error e =>
    simp only [carryOut, loaded, Option.some.injEq] at first
    refine ⟨[], o.errors, fun _ => "", ?_, fun _ _ => ⟨rfl, fun _ => rfl⟩, ?_⟩
    · intro others understood same command mem
      refine ⟨o, ?_, rfl, rfl, ?_⟩
      · rw [asked others understood same command mem]
        simp only [carryOut, loaded, first]
      · intro spent
        rw [first, errorText_loadFailed]
        simp [textOfLines]
    · intro p other
      cases other
  | ok p =>
    simp only [carryOut, loaded] at first asked
    obtain ⟨r, last, executed⟩ := execute_of_run first.symm
    obtain ⟨k, running, rfl, result, folds⟩ := Machine.last_step_of_execute executed
    obtain ⟨completing, halting, failing⟩ := Machine.lines_of_run rfl rfl rfl running result
    rw [run_of_fold name _ _ folds, Option.some.injEq] at first
    subst first
    refine ⟨(Machine.start p (limit? environment options) {}).traceLines (k + 1), verdict name r,
      fun spent => reportOf spent r, ?_, ?_, ?_⟩
    · intro others understood same command mem
      refine ⟨_, (asked others understood same command mem).trans (run_of_fold name _ _ folds),
        ?_, ?_, ?_⟩
      · rw [(ended_of_result ..).2, (ended_of_result name (decide (.verbose ∈ options)) ..).2]
      · rw [(ended_of_result ..).1, (ended_of_result ..).1]
      · intro spent
        simp only [errorText_ended, decide_eq_true_eq]
    · intro e other
      cases other
    · intro q same
      cases same
      refine ⟨k, r, running, result, executed, rfl, completing, ?_, ?_⟩
      · rintro cycles rfl
        obtain ⟨completes, has_line, number⟩ := halting cycles rfl
        refine ⟨completes, has_line, number, fun spent => ?_⟩
        rw [← number]
        exact reportOf_ok spent cycles
      · rintro f rfl
        obtain ⟨incomplete, which⟩ := failing f rfl
        exact ⟨incomplete, which, fun _ => rfl⟩

/-- Its third line is that of the halt, which is reported as the third instruction. -/
theorem a_halted_run_is_traced_and_reported :
    let text := "10000010\n00000000\n00001000\n01000111\n00000000\n00000001\n"
    let read : Reader := fun _ => .ok text.toUTF8
    ∃ (lines : List String) (o : Outcome), lines.length = 3 ∧
      outcome read none ["run", "p", "--trace", "--verbose", "--max-cycles", "5"] = some o ∧
      o.exit = 1 ∧ o.output = "8\nSystem exiting...\n" ∧
      ∀ spent, o.errorText spent = textOfLines lines ++
        ("\x1b[1m\x1b[32m    Finished\x1b[0m 3 instructions in " ++ elapsedText spent ++ "\n") := by
  intro text read
  have ends : outcome read none ["p", "--max-cycles", "5"] = some
      { exit := 1, output := "8\nSystem exiting...\n" } := by decide +kernel
  obtain ⟨p, loaded, ran⟩ : ∃ p, Program.load read "p" = .ok p ∧
      (Machine.start p (some 5) {}).execute.map Prod.fst = some (.ok 3) :=
    ⟨⟨[130, 0, 8, 71, 0, 1], by decide⟩, by decide +kernel, by decide +kernel⟩
  obtain ⟨lines, quiet, report, alike, -, traced⟩ :=
    the_switches_only_add_to_the_error_output .standard read "p" none [.limit "5"] _
      EnvironmentRule.documented_standard (by decide) (by decide +kernel) (by decide +kernel) ends
  obtain ⟨k, r, -, -, executed, -, -, halting, -⟩ := traced p loaded
  change (Machine.start p (some 5) {}).execute = _ at executed
  rw [executed, Option.map_some, Option.some.injEq] at ran
  obtain ⟨-, -, number, reported⟩ := halting 3 ran
  obtain ⟨same, unswitched, -, -, plain⟩ := alike [.limit "5"] (by decide +kernel) rfl [] (by simp)
  cases ends.symm.trans unswitched
  have silent : quiet = "" := by simpa [Outcome.errorText, Outcome.report] using (plain 0).symm
  obtain ⟨o, switched, exit, output, shown⟩ :=
    alike [.trace, .verbose, .limit "5"] (by decide +kernel) rfl ["run"] (by simp)
  have three : Text.decimal 3 = "3" := by decide
  refine ⟨lines, o, number.symm, switched, exit, output, fun spent => ?_⟩
  rw [shown spent, silent, reported spent, ← number, three]
  simp [← String.append_assoc]

end Session

end LS8
