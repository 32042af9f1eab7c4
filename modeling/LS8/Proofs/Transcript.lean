-- What the text of a machine tells about its history. It is the numbers that were printed, one to
-- a line, and behind them the notice of the halt, if there was one. Digits are no notice and no
-- line feed, so the text can be read back.
import LS8.Proofs.History

namespace LS8

/-! ## Reports -/

/-- A number as it is printed. -/
def printedLine (v : Byte) : String := Text.decimal v.toNat ++ "\n"

/-- The text of a machine that has printed these numbers, and has halted or not. -/
def report (printed : List Byte) (halted : Bool) : String :=
  String.join (printed.map printedLine) ++ if halted then "System exiting...\n" else ""

theorem report_cons (v : Byte) (vs : List Byte) (halted : Bool) :
    report (v :: vs) halted = printedLine v ++ report vs halted := by
  unfold report
  rw [List.map_cons, String.join_cons, String.append_assoc]

theorem toList_printedLine (v : Byte) :
    (printedLine v).toList = Nat.toDigits 10 v.toNat ++ ['\n'] := by
  unfold printedLine
  rw [String.toList_append, Text.toList_decimal]
  rfl

theorem isDigit_of_printed {v : Byte} {c : Char} (h : c ∈ Nat.toDigits 10 v.toNat) :
    c.isDigit = true :=
  Nat.isDigit_of_mem_toDigits (by decide) (by decide) h

/-- A printed number ends where its line ends, whatever comes behind. -/
theorem printedLine_append_inj {v w : Byte} {s t : String}
    (h : printedLine v ++ s = printedLine w ++ t) : v = w ∧ s = t := by
  have first : ∀ (u : Byte) (rest : List Char),
      (Nat.toDigits 10 u.toNat ++ '\n' :: rest).takeWhile (· != '\n') =
        Nat.toDigits 10 u.toNat := by
    intro u rest
    have digits : ∀ c ∈ Nat.toDigits 10 u.toNat, (c != '\n') = true := by
      intro c mem
      rw [bne_iff_ne]
      rintro rfl
      exact absurd (isDigit_of_printed mem) (by decide)
    rw [List.takeWhile_append_of_pos digits]
    simp
  have chars := congrArg String.toList h
  simp only [String.toList_append, toList_printedLine, List.append_assoc,
    List.singleton_append] at chars
  have digits := congrArg (List.takeWhile (· != '\n')) chars
  rw [first, first] at digits
  have same : v = w := by
    apply UInt8.toNat_inj.mp
    apply Text.decimal_inj.mp
    apply String.toList_inj.mp
    rw [Text.toList_decimal, Text.toList_decimal, digits]
  subst same
  refine ⟨rfl, String.toList_inj.mp ?_⟩
  exact (List.cons.inj (List.append_cancel_left chars)).2

/-- A report without numbers does not begin with a digit. -/
theorem report_nil_ne_cons (w : Byte) (ws : List Byte) (a b : Bool) :
    report [] a ≠ report (w :: ws) b := by
  intro same
  have chars := congrArg String.toList same
  obtain ⟨d, ds, digits⟩ := List.exists_cons_of_ne_nil (Nat.toDigits_ne_nil (n := w.toNat) (b := 10))
  have digit : d.isDigit = true := isDigit_of_printed (v := w) (by simp [digits])
  rw [report_cons, String.toList_append, toList_printedLine, digits] at chars
  cases a with
  | false => simp [report] at chars
  | true =>
    simp [report] at chars
    rw [← chars.1] at digit
    exact absurd digit (by decide)

/-- The text tells what was printed and whether the machine has halted. -/
theorem report_injective {vs ws : List Byte} {a b : Bool} (h : report vs a = report ws b) :
    vs = ws ∧ a = b := by
  induction vs generalizing ws with
  | nil =>
    cases ws with
    | nil => cases a <;> cases b <;> simp_all [report]
    | cons w ws => exact absurd h (report_nil_ne_cons w ws a b)
  | cons v vs ih =>
    cases ws with
    | nil => exact absurd h.symm (report_nil_ne_cons v vs b a)
    | cons w ws =>
      rw [report_cons, report_cons] at h
      obtain ⟨rfl, rest⟩ := printedLine_append_inj h
      obtain ⟨rfl, same⟩ := ih rest
      exact ⟨rfl, same⟩

/-! ## What is printed by what is completed -/

namespace Completion

/-- The number that the instruction printed, if it printed one: what its register held when it was
begun. -/
def printed? (c : Completion) : Option Byte :=
  match c.instruction with
  | .prn r => some (c.before.get r)
  | _ => none

/-- Whether the instruction was a halt. -/
def halts (c : Completion) : Bool := c.instruction = .hlt

/-- The report goes on with the line of the instruction. -/
theorem report_append (c : Completion) (vs : List Byte) :
    report (vs ++ c.printed?.toList) c.halts =
      report vs false ++ (c.before.line? c.instruction).getD "" := by
  obtain ⟨i, s⟩ := c
  cases i with
  | hlt => simp [report, printed?, halts, State.line?, haltNotice]
  | prn r => simp [report, printed?, halts, State.line?, printedLine]
  | _ => simp [report, printed?, halts, State.line?]

end Completion

/-- The numbers printed by instructions that were completed, in their order. -/
def printedBy (log : List Completion) : List Byte := log.filterMap Completion.printed?

theorem printedBy_append (log : List Completion) (c : Completion) :
    printedBy (log ++ [c]) = printedBy log ++ c.printed?.toList := by
  unfold printedBy
  rw [List.filterMap_append, List.filterMap_cons]
  cases c.printed? <;> rfl

/-- The text, the clock and the halt of the machine are those of what it has completed. -/
structure Told (log : List Completion) (m : Machine) : Prop where
  open_sink : m.sink.capacity = .unlimited
  text : m.sink.text = report (printedBy log) m.state.halted
  clock : m.state.clock = log.length
  halts : log.countP Completion.halts = m.state.halted.toNat

theorem told_start (p : Program) (limit : Option Nat) : Told [] (Machine.start p limit {}) :=
  ⟨rfl, rfl, rfl, rfl⟩

theorem Told.step {log : List Completion} {m : Machine} (h : Told log m) :
    Told (m.noteCompletion log) m.step.2 := by
  have open_sink : m.step.2.sink.capacity = .unlimited := by
    rw [Machine.sink_of_step h.open_sink]
  have clock : m.step.2.state.clock = (m.noteCompletion log).length := by
    rw [Machine.clock_of_step, h.clock, Machine.noteCompletion, List.length_append]
  unfold Machine.noteCompletion at clock ⊢
  cases completes : m.completion? with
  | none =>
    rw [completes] at clock
    simp only [Option.toList_none, List.append_nil] at clock ⊢
    rcases Machine.step_of_no_completion completes with stopped | ⟨f, fault⟩
    · rw [stopped]
      exact h
    · have sink := Machine.sink_of_fault h.open_sink fault
      obtain ⟨-, -, halted⟩ := Machine.unchanged_by_fault fault
      exact ⟨open_sink, by rw [sink, halted, h.text], clock, by rw [halted, h.halts]⟩
  | some c =>
    rw [completes] at clock
    obtain ⟨before, run, room, -, state, text⟩ := Machine.step_of_completion completes
    obtain ⟨awake, -⟩ := Machine.executed?_eq_some_iff.mp run
    have halted : m.step.2.state.halted = c.halts := by
      rw [state, (State.execute_of_fine room).2.2, awake, Bool.or_false]
      rfl
    refine ⟨open_sink, ?_, clock, ?_⟩
    · rw [text, h.text, awake, halted, Option.toList_some, printedBy_append, c.report_append,
        before]
    · rw [halted, Option.toList_some, List.countP_append, h.halts, awake]
      simp only [List.countP_cons, List.countP_nil, Bool.toNat_false, Nat.zero_add]
      cases c.halts <;> rfl

theorem told_of_calls {p : Program} {limit : Option Nat} {cs : List Call} {t : History}
    (called : (History.fresh p limit {}).calls cs = some t) : Told t.completed t.machine :=
  History.calls_keep (fun _ _ => Told.step) called (told_start p limit)

/-! ## The law -/

/-- Whatever is called for, and in whatever order, the text of the machine is the numbers that it
has printed, each as its register held it then, and the notice of the halt behind them exactly if
it has halted. The clock shows how many instructions have been completed, among them one halt or
none. Behind the halt a step answers that the machine has halted and a run answers with the clock,
whatever the limit, and nothing changes. So machines that have written the same text have printed
the same numbers, and have halted or not alike. -/
theorem the_text_tells_the_history (p : Program) (limit : Option Nat) (cs : List Call) (t : History)
    (called : (History.fresh p limit {}).calls cs = some t) :
    t.machine.sink.text = report (printedBy t.completed) t.machine.state.halted ∧
    t.machine.state.clock = t.completed.length ∧
    t.completed.countP Completion.halts = (if t.machine.state.halted then 1 else 0) ∧
    (t.machine.state.halted = true → ∀ later, t.calls later = some { t with
      replies := t.replies ++ later.map (History.replyAfterHalt t.machine.state.clock) }) ∧
    ∀ (q : Program) (other : Option Nat) (ds : List Call) (u : History),
      (History.fresh q other {}).calls ds = some u →
      u.machine.sink.text = t.machine.sink.text →
        printedBy u.completed = printedBy t.completed ∧
          u.machine.state.halted = t.machine.state.halted := by
  have told := told_of_calls called
  refine ⟨told.text, told.clock, ?_, History.calls_of_halted, ?_⟩
  · rw [told.halts]
    cases t.machine.state.halted <;> rfl
  · intro q other ds u called_too same
    rw [(told_of_calls called_too).text, told.text] at same
    exact report_injective same

/-- A pop that fails and, called for again, does not, and a halt at the limit. -/
def faultyProgram : Program where
  image := [0x47, 7, 0x82, 7, 10, 0x46, 7, 0x47, 7, 1, 255]

/-- The first run ends with the pop, and the second one with the halt. The calls behind it change
nothing more. -/
theorem a_history_with_a_fault_is_told :
    ∃ t, (History.fresh faultyProgram (some 5) {}).calls [.step, .run, .step, .run] = some t ∧
      t.replies = [.step .running, .run (.error (.stackUnderflow 5)), .step .running,
        .run (.ok 5)] ∧
      t.machine.sink.text = "244\n1\nSystem exiting...\n" ∧
      t.machine.state.clock = 5 ∧ t.completed.length = 5 ∧
      t.calls [.step, .run] = some { t with
        replies := t.replies ++ [.step .halted, .run (.ok 5)] } := by
  have facts : ((History.fresh faultyProgram (some 5) {}).calls [.step, .run, .step, .run]).map
      (fun t => (t.replies, printedBy t.completed, t.machine.state.halted, t.completed.length)) =
      some ([.step .running, .run (.error (.stackUnderflow 5)), .step .running, .run (.ok 5)],
        [244, 1], true, 5) := by decide +kernel
  obtain ⟨t, called, found⟩ := Option.map_eq_some_iff.mp facts
  simp only [Prod.mk.injEq] at found
  obtain ⟨replies, printed, halted, length⟩ := found
  obtain ⟨text, clock, -, behind, -⟩ := the_text_tells_the_history _ _ _ t called
  have later := behind halted [.step, .run]
  rw [printed, halted] at text
  rw [length] at clock
  rw [clock] at later
  exact ⟨t, called, replies, text, clock, length, later⟩

end LS8
