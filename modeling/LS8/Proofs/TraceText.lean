-- What a line of the trace tells. It shows the program counter, three bytes and the registers, each
-- in two digits, so it can be read back. Decoding reads no more than these three bytes, although
-- it does not go on at address 0 as the line does; so a line tells which instruction comes next
-- and what it writes, and the lines of a run tell what the run has written.
import LS8.Proofs.MemoryAccess
import LS8.Proofs.Tracing
import LS8.Text.Line

namespace LS8

/-! ## Reading bytes in hexadecimal digits -/

namespace Text

/-- The value of an upper case hexadecimal digit. -/
def hexValue (c : Char) : Nat :=
  if c.isDigit then c.toNat - '0'.toNat else c.toNat - 'A'.toNat + 10

/-- The bytes that pairs of hexadecimal digits stand for. -/
def bytesOfDigits : List Char → List Byte
  | high :: low :: rest => UInt8.ofNat (16 * hexValue high + hexValue low) :: bytesOfDigits rest
  | _ => []

/-- Blanks and bars stand between the bytes of a line. -/
def isBetween (c : Char) : Bool := c == ' ' || c == '|'

/-- The character is no part of a line ending. -/
def isInLine (c : Char) : Bool := c != '\n' && c != '\r'

theorem hexDigit_spec {n : Nat} (small : n < 16) :
    hexValue (hexDigit n) = n ∧ isBetween (hexDigit n) = false ∧ isInLine (hexDigit n) = true := by
  have all : ∀ m : Fin 16, hexValue (hexDigit m) = m ∧ isBetween (hexDigit m) = false ∧
      isInLine (hexDigit m) = true := by decide
  exact all ⟨n, small⟩

theorem halves_lt (b : Byte) : b.toNat / 16 < 16 ∧ b.toNat % 16 < 16 := by
  have := b.toNat_lt_256
  omega

/-- The digits of a byte are nothing of what stands between bytes. -/
theorem filter_hexByte (b : Byte) :
    (hexByte b).toList.filter (!isBetween ·) = (hexByte b).toList := by
  obtain ⟨high, low⟩ := halves_lt b
  simp [hexByte, hexDigit_spec high, hexDigit_spec low]

theorem all_hexByte (b : Byte) : (hexByte b).toList.all isInLine = true := by
  obtain ⟨high, low⟩ := halves_lt b
  simp [hexByte, hexDigit_spec high, hexDigit_spec low]

/-- Bytes that are written one behind the other are read back. -/
theorem bytesOfDigits_hexBytes (bs : List Byte) :
    bytesOfDigits (bs.flatMap fun b => (hexByte b).toList) = bs := by
  induction bs with
  | nil => rfl
  | cons b bs ih =>
    obtain ⟨high, low⟩ := halves_lt b
    have value : UInt8.ofNat (16 * (b.toNat / 16) + b.toNat % 16) = b := by
      rw [Nat.div_add_mod, UInt8.ofNat_toNat]
    rw [List.flatMap_cons, hexByte, String.toList_ofList]
    simp only [List.cons_append, List.nil_append, bytesOfDigits, hexDigit_spec high,
      hexDigit_spec low, value, ih]

end Text

/-! ## Reading a line -/

/-- What a line of the trace shows: the program counter, the three bytes from there on, and the
registers. -/
def State.shown (s : State) : List Byte :=
  [s.pc, s.memory.read s.pc, s.memory.read (s.pc + 1), s.memory.read (s.pc + 2)] ++
    s.registers.toList

/-- The bytes in a line, behind the word at its front. -/
def shownIn (line : String) : List Byte :=
  Text.bytesOfDigits ((line.toList.drop "TRACE: ".length).filter (!Text.isBetween ·))

namespace State

variable {s t : State}

theorem shown_eq_iff : s.shown = t.shown ↔
    s.pc = t.pc ∧ (∀ r, s.get r = t.get r) ∧ s.memory.read s.pc = t.memory.read t.pc ∧
      s.memory.read (s.pc + 1) = t.memory.read (t.pc + 1) ∧
      s.memory.read (s.pc + 2) = t.memory.read (t.pc + 2) := by
  have registers : s.registers.toList = t.registers.toList ↔ ∀ r, s.get r = t.get r := by
    constructor
    · intro same r
      unfold get Registers.get
      rw [Vector.toList_inj.mp same]
    · intro same
      rw [Registers.ext same]
  unfold shown
  rw [← registers]
  simp only [List.cons_append, List.nil_append, List.cons.injEq]
  tauto

/-- A line is read back. -/
theorem shownIn_traceLine (s : State) : shownIn s.traceLine = s.shown := by
  have digits : (s.traceLine.toList.drop "TRACE: ".length).filter (!Text.isBetween ·) =
      s.shown.flatMap fun b => (Text.hexByte b).toList := by
    have word : "TRACE: ".toList.length = "TRACE: ".length := rfl
    have between : (" | ".toList.filter (!Text.isBetween ·)) = [] ∧
        (" ".toList.filter (!Text.isBetween ·)) = [] ∧
        (" |".toList.filter (!Text.isBetween ·)) = [] := by decide
    unfold traceLine shown
    simp only [String.append_assoc, String.toList_append, String.toList_join, List.flatMap_map]
    rw [List.drop_left' word]
    simp only [List.filter_append, Text.filter_hexByte, between, List.filter_flatMap,
      List.flatMap_cons, List.cons_append, List.nil_append]
  rw [shownIn, digits, Text.bytesOfDigits_hexBytes]

/-- A line has no line ending within. -/
theorem all_traceLine (s : State) : s.traceLine.toList.all Text.isInLine = true := by
  have words : "TRACE: ".toList.all Text.isInLine = true ∧
      " | ".toList.all Text.isInLine = true ∧ " ".toList.all Text.isInLine = true ∧
      " |".toList.all Text.isInLine = true := by decide
  unfold traceLine
  simp only [String.toList_append, String.toList_join, List.flatMap_map, List.all_append,
    Text.all_hexByte, words, List.all_flatMap, Bool.and_self, Bool.true_and]
  simp

/-- Two lines are the same exactly if they show the same. -/
theorem traceLine_eq_iff : s.traceLine = t.traceLine ↔ s.shown = t.shown := by
  constructor
  · intro h
    rw [← shownIn_traceLine, h, shownIn_traceLine]
  · intro h
    obtain ⟨pc, registers, first, second, third⟩ := shown_eq_iff.mp h
    unfold traceLine
    rw [first, second, third, Registers.ext registers, pc]

end State

/-! ## What comes next -/

/-- Decoding reads at most three cells. -/
theorem Instruction.decode_of_three_cells {memory other : Memory} {pc : Byte}
    (first : other.read pc = memory.read pc) (second : other.read (pc + 1) = memory.read (pc + 1))
    (third : other.read (pc + 2) = memory.read (pc + 2)) :
    decode other pc = decode memory pc := by
  apply decode_congr
  rintro a (rfl | ⟨o, -, k, asked, rfl, -⟩)
  · exact first
  · have few : o.operands ≤ 2 := by
      have := o.width_le_three
      unfold Opcode.width at this
      omega
    rw [List.mem_range'_1] at asked
    obtain rfl | rfl : k = 1 ∨ k = 2 := by omega
    · exact second
    · exact third

namespace State

variable {s t : State}

/-- The text of the instruction that stands at the program counter. -/
def nextText (s : State) : String :=
  ((Instruction.decode s.memory s.pc).toOption.bind s.line?).getD ""

theorem decode_of_traceLine (h : s.traceLine = t.traceLine) :
    Instruction.decode s.memory s.pc = Instruction.decode t.memory t.pc := by
  obtain ⟨pc, -, first, second, third⟩ := shown_eq_iff.mp (traceLine_eq_iff.mp h)
  rw [pc] at first second third ⊢
  exact Instruction.decode_of_three_cells first second third

theorem nextText_of_traceLine (h : s.traceLine = t.traceLine) : s.nextText = t.nextText := by
  obtain ⟨-, registers, -⟩ := shown_eq_iff.mp (traceLine_eq_iff.mp h)
  have lines : s.line? = t.line? := by
    funext i
    cases i with
    | prn r => simp [line?, registers]
    | _ => rfl
  unfold nextText
  rw [decode_of_traceLine h, lines]

end State

namespace Machine

variable {m : Machine}

/-- Below its limit, a machine that has not halted writes what its state tells. -/
theorem written_of_awake (awake : m.state.halted = false)
    (below : ∀ n ∈ m.limit, m.state.clock < n) : m.written = m.state.nextText := by
  have fetched : m.fetch = Instruction.decode m.state.memory m.state.pc :=
    fetch_of_below fun n limit => below n limit
  unfold written executed? State.nextText
  rw [awake, fetched]
  rfl

end Machine

/-! ## The text of a run -/

/-- A state that the line shows. What no line shows is as it is at first. -/
def stateOfLine (line : String) : State :=
  let byte k := (shownIn line).getD k 0
  { pc := byte 0
    clock := 0
    flags := Flags.none
    halted := false
    registers := ⟨Vector.ofFn fun r => byte (r + 4)⟩
    memory := ((Memory.zero.write (byte 0) (byte 1)).write (byte 0 + 1) (byte 2)).write
      (byte 0 + 2) (byte 3) }

/-- The text that the step behind the line writes. -/
def printedBehind (line : String) : String := (stateOfLine line).nextText

theorem shown_stateOfLine (s : State) : (stateOfLine s.traceLine).shown = s.shown := by
  have apart : s.pc ≠ s.pc + 1 ∧ s.pc ≠ s.pc + 2 ∧ s.pc + 1 ≠ s.pc + 2 := by
    simp
  obtain ⟨first, second, third⟩ := apart
  apply State.shown_eq_iff.mpr
  unfold stateOfLine
  rw [State.shownIn_traceLine]
  unfold State.shown
  refine ⟨rfl, ?_, ?_⟩
  · intro r
    simp [State.get, Registers.get, Registers.toList]
  · simp [Memory.read_write, first, second, third]

/-- The text that a run with this trace writes. -/
def printedBehindTrace (trace : String) : String :=
  String.join ((Text.lines trace.toList).map fun line => printedBehind (String.ofList line))

theorem printedBehind_traceLine (s : State) : printedBehind s.traceLine = s.nextText :=
  State.nextText_of_traceLine (State.traceLine_eq_iff.mpr (shown_stateOfLine s))

namespace Machine

variable {m : Machine}

/-- Lines with an ending each are found again. -/
theorem lines_textOfLines {lines : List String}
    (in_line : ∀ line ∈ lines, line.toList.all Text.isInLine = true) :
    Text.lines (textOfLines lines).toList = lines.map String.toList := by
  induction lines with
  | nil => rfl
  | cons line rest ih =>
    have plain := in_line line List.mem_cons_self
    have no_ending : '\n' ∉ line.toList ∧ '\r' ∉ line.toList := by
      constructor
      all_goals
        intro mem
        exact absurd (List.all_eq_true.mp plain _ mem) (by decide)
    have opened : (textOfLines (line :: rest)).toList =
        line.toList ++ '\n' :: (textOfLines rest).toList := by
      simp [textOfLines]
    rw [opened, Text.lines_line no_ending.1, Text.withoutReturn_of_free no_ending.2,
      ih fun other mem => in_line other (List.mem_cons_of_mem _ mem), List.map_cons]

theorem traceLines_succ (m : Machine) (k : Nat) : m.traceLines (k + 1) =
    m.traceLines k ++
      if (m.after k).executed?.isSome then [(m.after k).state.traceLine] else [] := by
  unfold traceLines
  rw [befores_succ, List.filter_append, List.map_append]
  by_cases here : (m.after k).executed?.isSome = true <;> simp [here]

/-- A step that has a line writes what the line tells, and a step without a line writes nothing. -/
theorem written_eq_printedBehind (m : Machine) :
    m.written = if m.executed?.isSome then printedBehind m.state.traceLine else "" := by
  cases run : m.executed? with
  | none => simp [written, run]
  | some i =>
    obtain ⟨-, fetched⟩ := executed?_eq_some_iff.mp run
    obtain ⟨-, decoded⟩ := fetch_eq_ok_iff.mp fetched
    rw [written_of_executed run, printedBehind_traceLine, State.nextText, decoded]
    rfl

theorem printedBehindTrace_textOfLines (m : Machine) (k : Nat) :
    printedBehindTrace (textOfLines (m.traceLines k)) =
      String.join ((m.traceLines k).map printedBehind) := by
  have in_line : ∀ line ∈ m.traceLines k, line.toList.all Text.isInLine = true := by
    intro line mem
    obtain ⟨t, -, rfl⟩ := List.mem_map.mp mem
    exact t.state.all_traceLine
  have same : (fun line => printedBehind (String.ofList line)) ∘ String.toList = printedBehind := by
    funext line
    rw [Function.comp_apply, String.ofList_toList]
  rw [printedBehindTrace, lines_textOfLines in_line, List.map_map, same]

/-- The text after any number of steps, from the lines of their trace. -/
theorem text_of_traceLines (open_sink : m.sink.capacity = .unlimited) (k : Nat) :
    (m.after k).sink.text =
      m.sink.text ++ String.join ((m.traceLines k).map printedBehind) := by
  induction k with
  | zero => simp [after, traceLines, befores]
  | succ k ih =>
    rw [after_succ, sink_of_step (capacity_after open_sink k), traceLines_succ, List.map_append,
      String.join_append, ← String.append_assoc, ← ih, written_eq_printedBehind]
    by_cases here : (m.after k).executed?.isSome = true <;> simp [here]

/-! ## The law -/

/-- Two lines of the trace are the same exactly if they come from states with the same program
counter, the same registers and the same three bytes from the program counter on. Then the same
instruction comes next in both, or none for the same reason, and two machines that are not kept from
it write the same text. So the trace of a run tells the text of the run, whether it ends or not. -/
theorem a_trace_line_is_faithful :
    (∀ s t : State, s.traceLine = t.traceLine ↔
      s.pc = t.pc ∧ (∀ r, s.get r = t.get r) ∧ s.memory.read s.pc = t.memory.read t.pc ∧
        s.memory.read (s.pc + 1) = t.memory.read (t.pc + 1) ∧
        s.memory.read (s.pc + 2) = t.memory.read (t.pc + 2)) ∧
    (∀ s t : State, s.traceLine = t.traceLine →
      Instruction.decode s.memory s.pc = Instruction.decode t.memory t.pc) ∧
    (∀ m n : Machine, m.state.traceLine = n.state.traceLine →
      m.state.halted = false → n.state.halted = false →
      (∀ limit ∈ m.limit, m.state.clock < limit) → (∀ limit ∈ n.limit, n.state.clock < limit) →
      m.sink.capacity = .unlimited → n.sink.capacity = .unlimited →
      ∃ text, m.step.2.sink.text = m.sink.text ++ text ∧
        n.step.2.sink.text = n.sink.text ++ text) ∧
    (∀ m : Machine, m.sink.capacity = .unlimited → ∀ k, (m.after k).sink.text =
      m.sink.text ++ String.join ((m.traceLines k).map printedBehind)) ∧
    ∀ m : Machine, m.sink.capacity = .unlimited → ∀ (trace : String) (r : Except Fault Nat)
      (last : Machine), executeWatched noteStep "" m = some (trace, r, last) →
      last.sink.text = m.sink.text ++ printedBehindTrace trace := by
  refine ⟨?_, fun s t => State.decode_of_traceLine, ?_, fun m => text_of_traceLines, ?_⟩
  · intro s t
    exact State.traceLine_eq_iff.trans State.shown_eq_iff
  · intro m n same awake_m awake_n below_m below_n open_m open_n
    refine ⟨m.state.nextText, ?_, ?_⟩
    · rw [sink_of_step open_m, written_of_awake awake_m below_m]
    · rw [sink_of_step open_n, written_of_awake awake_n below_n, State.nextText_of_traceLine same]
  · intro m open_sink trace r last ran
    have ended : execute m = some (r, last) := by
      rw [← executeWatched_snd noteStep "" m, ran]
      rfl
    obtain ⟨k, -, rfl, -, watched⟩ := last_step_of_execute ended
    rw [watched noteStep "", foldl_noteStep, String.empty_append] at ran
    cases ran
    rw [text_of_traceLines open_sink, ← printedBehindTrace_textOfLines]
    rfl

/-- A program that prints a number, and then the stack pointer behind a pop. -/
def printingProgram : Program where
  image := [0x82, 0, 8, 0x47, 0, 0x46, 1, 0x47, 7, 1]

/-- The text of its run is read off the trace. -/
theorem a_trace_tells_what_was_printed :
    ∃ (trace : String) (last : Machine),
      (start printingProgram (some 9) {}).sink.capacity = .unlimited ∧
      executeWatched noteStep "" (start printingProgram (some 9) {}) =
        some (trace, .ok 5, last) ∧
      printedBehindTrace trace = "8\n245\nSystem exiting...\n" ∧
      last.sink.text = "8\n245\nSystem exiting...\n" := by
  have facts : (executeWatched noteStep "" (start printingProgram (some 9) {})).map
      (fun r => (r.2.1, r.2.2.sink.text)) =
        some (.ok 5, "8\n245\nSystem exiting...\n") := by decide +kernel
  obtain ⟨⟨trace, r, last⟩, ran, found⟩ := Option.map_eq_some_iff.mp facts
  simp only [Prod.mk.injEq] at found
  obtain ⟨rfl, text⟩ := found
  obtain ⟨-, -, -, -, law⟩ := a_trace_line_is_faithful
  have told := law _ rfl _ _ _ ran
  rw [text] at told
  exact ⟨trace, last, rfl, ran, (told.trans String.empty_append).symm, text⟩

end Machine

end LS8
