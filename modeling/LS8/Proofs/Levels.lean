-- What the two levels of a command line make of a limit in the environment. Without a command it
-- is looked at only if no option gives the limit. Behind a command it is always looked at, since the
-- options of a run are declared at the top as well, where none of them can be given then. This is so
-- for each rule that does what is documented of it.
import LS8.CommandLine

namespace LS8

namespace CommandLine

variable {rule : EnvironmentRule} {form : Form} {environment : Option String} {d : Draft}
  {name : String}

/-! ## One level -/

theorem Draft.options_eq (d : Draft) : d.options = ⟨d.limit, d.trace⟩ := by
  unfold Draft.options
  cases d.limit <;> rfl

/-- The limit in the environment, which has to be a number. -/
def limitIn (environment : Option String) : Except UsageError (Option Nat) :=
  match environment with
  | none => .ok none
  | some value => (valueOf "--max-cycles" Text.unsigned64? value).map some

/-- The limit on a level: the given one, or else that of the environment. -/
def Draft.limitOn (environment : Option String) (d : Draft) : Except UsageError (Option Nat) :=
  match d.limit with
  | some n => .ok (some n)
  | none => limitIn environment

/-- Where nothing is given, only the environment can give a limit. -/
theorem Draft.limitOn_empty : Draft.limitOn environment {} = limitIn environment := rfl

theorem Draft.filled_eq (documented : rule.Documented) :
    d.filled rule environment =
      (d.limitOn environment).map fun limit => { d with limit := limit } := by
  unfold filled limitOn
  cases limit : d.limit with
  | some n => rw [documented.given]
  | none =>
    cases environment with
    | none => rw [documented.unset]; rfl
    | some value => rw [documented.taken]; rfl

theorem Command.request_run (program : d.program = some name) :
    (run d).request = .ok (.run name ⟨d.limit, d.trace⟩ d.verbose) := by
  simp only [request, Draft.required, program, Draft.options_eq, Except.map]

theorem Command.request_disasm (program : d.program = some name) :
    (disasm d).request = .ok (.list name) := by
  simp only [request, Draft.required, program, Except.map]

/-! ## Both levels -/

/-- Without a command there is only one level to be filled. -/
theorem finish_plain (documented : rule.Documented) (program : d.program = some name) :
    finish rule .plain environment d =
      (d.limitOn environment).map fun limit => .run name ⟨limit, d.trace⟩ d.verbose := by
  simp only [finish, Form.levels, Levels.request, Draft.filled_eq documented]
  cases d.limitOn environment with
  | error e => rfl
  | ok limit =>
    exact Command.request_run (d := { d with limit := limit }) program

/-- Behind the command that runs there are two, and nothing is given on the outer one. -/
theorem finish_run (documented : rule.Documented) (program : d.program = some name) :
    finish rule .run environment d = (d.limitOn environment).bind fun limit =>
      (limitIn environment).map fun _ => .run name ⟨limit, d.trace⟩ d.verbose := by
  simp only [finish, Form.levels, Levels.request, Command.filled, Draft.filled_eq documented,
    Draft.limitOn_empty]
  cases d.limitOn environment with
  | error e => rfl
  | ok limit =>
    have asked := Command.request_run (d := { d with limit := limit }) program
    simp only [Except.map, bind, Except.bind, asked]
    cases limitIn environment <;> rfl

/-- The command that lists has no limit, but the outer level has. -/
theorem finish_disasm (documented : rule.Documented) (program : d.program = some name) :
    finish rule .disasm environment d = (limitIn environment).map fun _ => .list name := by
  have asked := Command.request_disasm program
  simp only [finish, Form.levels, Levels.request, Command.filled, Draft.filled_eq documented,
    Draft.limitOn_empty, bind, Except.bind, asked]
  cases limitIn environment <;> rfl

/-! ## The environment, as far as it is looked at -/

/-- Behind a command the environment has to give a number, also if it is not used; without one it
is looked at only if no option gives the limit. -/
def environmentLimit (form : Form) (environment : Option String) (d : Draft) :
    Except UsageError (Option Nat) :=
  if form = .plain ∧ d.limit.isSome then .ok none else limitIn environment

/-- What is asked for, when a program is given. -/
def Form.request (form : Form) (name : String) (d : Draft) (default : Option Nat) : Request :=
  match form with
  | .disasm => .list name
  | _ => .run name ⟨d.limit.or default, d.trace⟩ d.verbose

/-- This is all that the levels make of the environment. -/
theorem finish_eq (documented : rule.Documented) (program : d.program = some name) :
    finish rule form environment d =
      (environmentLimit form environment d).map (form.request name d) := by
  unfold environmentLimit
  cases form with
  | plain =>
    rw [finish_plain documented program, Draft.limitOn]
    cases limit : d.limit with
    | none => simp [Form.request, limit, Except.map]
    | some n => simp [Form.request, limit, Except.map]
  | run =>
    rw [finish_run documented program, Draft.limitOn, if_neg (by simp)]
    cases limit : d.limit with
    | none => cases limitIn environment <;> simp [Form.request, limit, Except.map, Except.bind]
    | some n => cases limitIn environment <;> simp [Form.request, limit, Except.map, Except.bind]
  | disasm =>
    rw [finish_disasm documented program, if_neg (by simp)]
    rfl

end CommandLine

end LS8
