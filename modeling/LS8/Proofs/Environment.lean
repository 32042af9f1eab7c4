-- What a limit in the environment counts for where it is not needed: behind the command that lists
-- a program, and beside an option that gives the limit. A number there counts for nothing. What is
-- no number is refused behind a command, where the options at the top ask for it although nothing
-- uses them, and is not looked at without one.
import LS8.Proofs.Switches

namespace LS8

namespace CommandLine

variable {rule : EnvironmentRule} {form : Form} {environment : Option String} {d : Draft}
  {options : List RunOption} {name value : String}

/-! ## Values that are no numbers -/

/-- A limit in the environment that is no number, as the command line refuses it. -/
def refusal (value : String) : UsageError := .invalidValue "--max-cycles" value

theorem exists_value_of_not_valid (h : ¬ IsValid environment) :
    ∃ value, environment = some value ∧ Text.unsigned64? value = none := by
  cases environment with
  | none => exact absurd (fun _ none => by cases none) h
  | some value =>
    refine ⟨value, rfl, ?_⟩
    cases parsed : Text.unsigned64? value with
    | none => rfl
    | some n =>
      refine absurd ?_ h
      intro other same
      cases same
      simp [parsed]

theorem valid_none : IsValid none := by
  intro value none
  cases none

theorem limitIn_of_bad_value (bad : Text.unsigned64? value = none) :
    limitIn (some value) = .error (refusal value) := by
  simp [limitIn, valueOf, bad, refusal, Except.map]

/-- Behind a command the value is looked at, on the level above it. -/
theorem finish_of_bad_value (documented : rule.Documented) (behind : form ≠ .plain)
    (program : d.program = some name) (bad : Text.unsigned64? value = none) :
    finish rule form (some value) d = .error (refusal value) := by
  rw [finish_eq documented program, environmentLimit, if_neg (by simp [behind]),
    limitIn_of_bad_value bad]
  rfl

/-- Without a command it is not, if there is a limit. -/
theorem finish_of_limited (documented : rule.Documented) (limited : d.limit.isSome = true)
    (program : d.program = some name) :
    finish rule .plain environment d = .ok (.run name ⟨d.limit, d.trace⟩ d.verbose) := by
  obtain ⟨n, limit⟩ := Option.isSome_iff_exists.mp limited
  rw [finish_eq documented program, environmentLimit, if_pos ⟨rfl, limited⟩]
  simp [Except.map, Form.request, limit]

/-! ## The command lines -/

theorem readUnder_disasm_of_bad_value (documented : rule.Documented) (named : IsProgramName name)
    (bad : Text.unsigned64? value = none) :
    readUnder rule (some value) ["disasm", name] = .error (refusal value) := by
  change readArguments rule .disasm (some value) {} [name] = _
  rw [readArguments_name named, readArguments]
  exact finish_of_bad_value documented (by decide) rfl bad

theorem readUnder_run_of_bad_value (documented : rule.Documented) (named : IsProgramName name)
    (understood : Understood options) (bad : Text.unsigned64? value = none) :
    readUnder rule (some value) ("run" :: name :: options.flatMap RunOption.arguments) =
      .error (refusal value) := by
  change readArguments rule .run (some value) {} _ = _
  rw [readArguments_run rfl named understood]
  exact finish_of_bad_value documented (by decide) rfl bad

/-- With a limit among the options, what is asked for does not depend on the environment. -/
theorem readUnder_of_limited (documented : rule.Documented) (named : IsProgramName name)
    (understood : Understood options) (limited : (givenLimit? options).isSome = true) :
    readUnder rule environment (name :: options.flatMap RunOption.arguments) =
      .ok (requestOf name none options) := by
  rw [readUnder_name named, readArguments_run rfl named understood,
    finish_of_limited documented limited rfl]
  obtain ⟨n, limit⟩ := Option.isSome_iff_exists.mp limited
  simp [requestOf, limit]

theorem requestOf_of_limited (limited : (givenLimit? options).isSome = true) :
    requestOf name environment options = requestOf name none options := by
  obtain ⟨n, limit⟩ := Option.isSome_iff_exists.mp limited
  simp [requestOf, limit]

end CommandLine

namespace Session

open CommandLine
open Machine (textOfLines)

variable {rule : EnvironmentRule} {name value : String} {environment : Option String}

/-! ## A refusal can be told from what a program comes to -/

theorem front_of_refusal (value : String) :
    (rejected (refusal value)).errors.toList.take 8 = "error: i".toList := by
  change ("error: " ++ (refusal value).message ++ "\n\n" ++ helpText).toList.take 8 = _
  generalize helpText = help
  unfold refusal UsageError.message
  simp

theorem front_of_loadFailed (name : String) (e : LoadError) :
    (loadFailed name e).errors.toList.take 8 = "error: f".toList := by
  change ("error: failed to load " ++ name ++ ": " ++ e.message ++ "\n").toList.take 8 = _
  simp

theorem front_of_verdict (name : String) (f : Fault) :
    (verdict name (.error f)).toList.take 8 = "error: f".toList := by
  change ("error: failed to execute " ++ name ++ ": " ++ f.message ++ "\n").toList.take 8 = _
  generalize f.message = message
  simp

theorem front_of_traceLine (s : State) (rest : String) :
    (s.traceLine ++ rest).toList.head? = some 'T' := by
  unfold State.traceLine
  simp only [String.append_assoc]
  generalize Text.hexByte s.pc ++ _ = more
  simp

theorem front_of_trace (m : Machine) (k : Nat) (rest : String) :
    m.traceLines k = [] ∨ (textOfLines (m.traceLines k) ++ rest).toList.head? = some 'T' := by
  cases lines : m.traceLines k with
  | nil => exact Or.inl rfl
  | cons l more =>
    have mem : l ∈ m.traceLines k := by simp [lines]
    obtain ⟨t, -, rfl⟩ := List.mem_map.mp mem
    unfold textOfLines
    rw [List.map_cons, String.join_cons, String.append_assoc, String.append_assoc]
    exact Or.inr (front_of_traceLine _ _)

/-- The fronts of two texts of errors tell a failure from a refusal. -/
theorem fronts_differ : "error: f".toList ≠ "error: i".toList := by decide

theorem loadFailed_ne_rejected (name : String) (e : LoadError) (value : String) :
    loadFailed name e ≠ rejected (refusal value) := by
  intro same
  have front := front_of_loadFailed name e
  rw [same, front_of_refusal] at front
  exact fronts_differ front.symm

theorem list_ne_rejected (read : Reader) (name value : String) :
    list read name ≠ rejected (refusal value) := by
  unfold list
  cases Program.load read name with
  | error e => exact loadFailed_ne_rejected name e value
  | ok p =>
    intro same
    have exit := congrArg Outcome.exit same
    simp [rejected] at exit

theorem run_ne_rejected (name : String) (p : Program) (options : Options) (verbose : Bool)
    (value : String) : run name p options verbose ≠ some (rejected (refusal value)) := by
  intro ran
  obtain ⟨r, last, executed⟩ := execute_of_run ran
  obtain ⟨k, -, -, -, folds⟩ := Machine.last_step_of_execute executed
  rw [run_of_fold name options verbose folds, Option.some.injEq] at ran
  cases r with
  | ok cycles =>
    have exit := congrArg Outcome.exit ran
    simp [rejected, ended] at exit
  | error f =>
    have front := front_of_refusal value
    have plain := front_of_verdict name f
    rw [← ran, errors_ended] at front
    by_cases on : options.trace = true
    · rw [if_pos on] at front
      rcases front_of_trace (Machine.start p options.limit {}) (k + 1)
        (verdict name (.error f)) with no_lines | traced
      · have nothing : textOfLines [] = "" := rfl
        rw [no_lines, nothing, String.empty_append, plain] at front
        exact fronts_differ front
      · have first := congrArg List.head? front
        rw [List.head?_take, if_neg (by decide), traced] at first
        revert first
        decide
    · rw [if_neg on, String.empty_append, plain] at front
      exact fronts_differ front

theorem carryOut_run_ne_rejected (read : Reader) (name : String) (options : Options)
    (verbose : Bool) (value : String) :
    carryOut read (.run name options verbose) ≠ some (rejected (refusal value)) := by
  intro same
  simp only [carryOut] at same
  split at same
  · exact loadFailed_ne_rejected name _ value (Option.some.inj same)
  · exact run_ne_rejected name _ options verbose value same

theorem outcomeUnder_of_refusal {read : Reader} {arguments : List String}
    (h : readUnder rule environment arguments = .error (refusal value)) :
    outcomeUnder rule read environment arguments = some (rejected (refusal value)) := by
  simp only [outcomeUnder, h]

/-- What is refused at a bad value and else comes to something else is good for no bad value. -/
theorem valid_of_same {read : Reader} {arguments : List String} (request : Request)
    (refused : ∀ value, environment = some value → Text.unsigned64? value = none →
      outcomeUnder rule read environment arguments = some (rejected (refusal value)))
    (other : ∀ value, carryOut read request ≠ some (rejected (refusal value)))
    (same : outcomeUnder rule read environment arguments = carryOut read request) :
    IsValid environment := by
  by_contra bad
  obtain ⟨value, set, no_number⟩ := exists_value_of_not_valid bad
  exact other value (same.symm.trans (refused value set no_number))

/-! ## The law -/

/-- Without a command, a run that is given its limit does not depend on the environment. Behind a
command, it and a listing depend on it only if the limit there is no number, and then they are
refused, since the level above the command has no limit of its own. So the two forms agree if and
only if the environment has no limit or a number. -/
theorem only_a_command_asks_for_a_number_in_the_environment (rule : EnvironmentRule)
    (read : Reader) (name : String) (environment : Option String) (options : List RunOption)
    (documented : rule.Documented) (named : IsProgramName name) (understood : Understood options)
    (limited : (givenLimit? options).isSome = true) :
    let answer := outcomeUnder rule read
    let plain := name :: options.flatMap RunOption.arguments
    (answer environment ["disasm", name] = answer none ["disasm", name] ↔ IsValid environment) ∧
    answer environment plain = answer none plain ∧
    (answer environment ("run" :: plain) = answer none ("run" :: plain) ↔ IsValid environment) ∧
    (answer environment ("run" :: plain) = answer environment plain ↔ IsValid environment) ∧
    ∀ value, environment = some value → Text.unsigned64? value = none →
      answer environment ["disasm", name] = some (rejected (.invalidValue "--max-cycles" value)) ∧
        answer environment ("run" :: plain) =
          some (rejected (.invalidValue "--max-cycles" value)) := by
  intro answer plain
  have listing : ∀ env, IsValid env → answer env ["disasm", name] = some (list read name) :=
    fun env valid => outcomeUnder_of_read (readUnder_disasm documented named valid)
  have free : ∀ env, answer env plain = carryOut read (requestOf name none options) :=
    fun env => outcomeUnder_of_read (readUnder_of_limited documented named understood limited)
  have behind : ∀ env, IsValid env →
      answer env ("run" :: plain) = carryOut read (requestOf name none options) := by
    intro env valid
    rw [← requestOf_of_limited limited]
    exact outcomeUnder_of_read (readUnder_eq_requestOf documented named understood valid).2
  have refused : ∀ value, environment = some value → Text.unsigned64? value = none →
      answer environment ["disasm", name] = some (rejected (refusal value)) ∧
        answer environment ("run" :: plain) = some (rejected (refusal value)) := by
    rintro value rfl bad
    exact ⟨outcomeUnder_of_refusal (readUnder_disasm_of_bad_value documented named bad),
      outcomeUnder_of_refusal (readUnder_run_of_bad_value documented named understood bad)⟩
  have ran : ∀ value, carryOut read (requestOf name none options) ≠
      some (rejected (refusal value)) :=
    fun value => carryOut_run_ne_rejected read name _ _ value
  refine ⟨⟨?_, ?_⟩, ?_, ⟨?_, ?_⟩, ⟨?_, ?_⟩, refused⟩
  · rw [listing none valid_none]
    refine valid_of_same (.list name) (fun value set bad => (refused value set bad).1) ?_
    intro value same
    exact list_ne_rejected read name value (Option.some.inj same)
  · intro valid
    rw [listing environment valid, listing none valid_none]
  · rw [free, free]
  · rw [behind none valid_none]
    exact valid_of_same _ (fun value set bad => (refused value set bad).2) ran
  · intro valid
    rw [behind environment valid, behind none valid_none]
  · rw [free]
    exact valid_of_same _ (fun value set bad => (refused value set bad).2) ran
  · intro valid
    rw [behind environment valid, free]

/-- Without the command the limit of the option is enough. With it the bad value counts. -/
theorem the_two_forms_part_at_a_bad_value :
    let read : Reader := fun _ => .ok "00000001\n".toUTF8
    let arguments := ["p", "--max-cycles", "2"]
    outcome read (some "zz") arguments = outcome read none arguments ∧
      outcome read (some "zz") ("run" :: arguments) ≠ outcome read (some "zz") arguments ∧
      outcome read (some "zz") ["disasm", "p"] ≠ outcome read none ["disasm", "p"] := by
  intro read arguments
  have bad : ¬ IsValid (some "zz") := by decide +kernel
  obtain ⟨listing, plain, -, alike, -⟩ :=
    only_a_command_asks_for_a_number_in_the_environment .standard read "p" (some "zz")
      [.limit "2"] EnvironmentRule.documented_standard (by decide) (by decide +kernel)
      (by decide +kernel)
  exact ⟨plain, fun same => bad (alike.mp same), fun same => bad (listing.mp same)⟩

/-- So the environment is not only a default for runs: a value that is no number stops a listing. -/
theorem the_environment_is_no_mere_default :
    ¬ ∀ (read : Reader) (name : String) (environment : Option String) (n : Nat),
      IsProgramName name → n < UInt64.size →
      let plain := [name, "--max-cycles", Text.decimal n]
      outcome read environment ["disasm", name] = outcome read none ["disasm", name] ∧
        outcome read environment plain = outcome read none plain ∧
        outcome read environment ("run" :: plain) = outcome read none ("run" :: plain) ∧
        outcome read environment ("run" :: plain) = outcome read environment plain := by
  intro default_only
  let read : Reader := fun _ => .ok "00000001\n".toUTF8
  have named : IsProgramName "p" := by decide
  obtain ⟨listing, -⟩ := default_only read "p" (some "zz") 2 named (by decide)
  have documented := EnvironmentRule.documented_standard
  unfold outcome at listing
  rw [outcomeUnder_of_refusal (readUnder_disasm_of_bad_value documented named (by decide +kernel)),
    outcomeUnder_of_read (readUnder_disasm documented named valid_none)] at listing
  exact list_ne_rejected read "p" "zz" (Option.some.inj listing).symm

end Session

end LS8
