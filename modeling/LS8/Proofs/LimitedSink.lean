-- A sink with room for so many bytes. It is compared with a sink that takes everything: up
-- to the line that does not fit, the two machines go the same way and write the same. The
-- line that does not fit is kept as far as there is room, and the machine stops before it
-- has done the instruction that writes it.
import LS8.Proofs.Aftermath
import LS8.Proofs.Running
import Mathlib.Data.List.Basic

namespace LS8

/-! ## Text in bytes -/

namespace Text

/-- The bytes that a sink gets for a text. -/
def bytes (text : String) : List Byte := text.toUTF8.data.toList

def Ascii (text : String) : Prop := ∀ c ∈ text.toList, c.val ≤ 127

instance (text : String) : Decidable (Ascii text) :=
  List.decidableBAll (fun c : Char => c.val ≤ 127) text.toList

/-- The first characters of a text. -/
def front (n : Nat) (text : String) : String := String.ofList (text.toList.take n)

theorem toList_front (n : Nat) (text : String) : (front n text).toList = text.toList.take n := by
  simp [front]

theorem length_front (n : Nat) (text : String) : (front n text).length = min n text.length := by
  rw [← String.length_toList, toList_front, List.length_take, String.length_toList]

/-- A front that reaches beyond a text takes its rest from the next one. -/
theorem front_append {n : Nat} {text : String} (le : text.length ≤ n) (line : String) :
    front n (text ++ line) = text ++ String.ofList (line.toList.take (n - text.length)) := by
  apply String.toList_inj.mp
  rw [toList_front, String.toList_append, List.take_append, String.length_toList,
    List.take_of_length_le (by rwa [String.length_toList]), String.toList_append,
    String.toList_ofList]

theorem Ascii.append {s t : String} (hs : Ascii s) (ht : Ascii t) : Ascii (s ++ t) := by
  intro c mem
  rw [String.toList_append, List.mem_append] at mem
  exact mem.elim (hs c) (ht c)

theorem Ascii.front {text : String} (h : Ascii text) (n : Nat) : Ascii (front n text) := by
  intro c mem
  rw [toList_front] at mem
  exact h c (List.mem_of_mem_take mem)

theorem ascii_decimal (n : Nat) : Ascii (decimal n) := by
  intro c mem
  rw [toList_decimal] at mem
  have digit := Nat.isDigit_of_mem_toDigits (by decide) (by decide) mem
  unfold Char.isDigit at digit
  simp only [Bool.and_eq_true, decide_eq_true_eq] at digit
  exact UInt32.le_trans digit.2 (by decide)

theorem bytes_eq_flatMap (text : String) :
    bytes text = text.toList.flatMap String.utf8EncodeChar := by
  have encoded : text.toUTF8 = text.toList.utf8Encode := by
    rw [String.toUTF8_eq_toByteArray, ← String.toByteArray_ofList, String.ofList_toList]
  unfold bytes
  rw [encoded, List.utf8Encode, List.data_toByteArray]

/-- Each character of the text is one byte. -/
theorem bytes_of_ascii {text : String} (h : Ascii text) :
    bytes text = text.toList.map fun c => c.val.toUInt8 := by
  rw [bytes_eq_flatMap, List.map_eq_flatMap]
  apply List.flatMap_congr
  intro c mem
  exact String.utf8EncodeChar_eq_singleton (Char.utf8Size_eq_one_iff.mpr (h c mem))

theorem length_bytes {text : String} (h : Ascii text) : (bytes text).length = text.length := by
  rw [bytes_of_ascii h, List.length_map, String.length_toList]

theorem bytes_front {text : String} (h : Ascii text) (n : Nat) :
    bytes (front n text) = (bytes text).take n := by
  rw [bytes_of_ascii (h.front n), bytes_of_ascii h, toList_front, List.map_take]

end Text

open Text (bytes Ascii front)

theorem State.ascii_line {s : State} {i : Instruction} {line : String}
    (h : s.line? i = some line) : Ascii line := by
  have newline : Ascii "\n" := by decide
  cases i with
  | hlt =>
    cases h
    exact Ascii.append (by decide) newline
  | prn r =>
    cases h
    exact (Text.ascii_decimal _).append newline
  | _ => cases h

/-! ## The sink -/

namespace Sink

variable {room : Nat} {failure : SinkFailure} {text line : String}

/-- A sink that takes `room` bytes in all, when it has taken this text. -/
def holding (text : String) (room : Nat) (failure : SinkFailure) : Sink :=
  ⟨text, .limited (room - text.length) failure⟩

theorem write_holding_of_fits (fits : (text ++ line).length ≤ room) :
    (holding text room failure).write line = (.ok (), holding (text ++ line) room failure) := by
  rw [String.length_append] at fits
  unfold holding
  rw [write_of_fits (by omega), String.length_append, Nat.sub_add_eq]

/-- Of the line that does not fit, the sink keeps what there is room for. -/
theorem write_holding_of_overflows (held : text.length ≤ room)
    (overflows : room < (text ++ line).length) :
    (holding text room failure).write line =
      (.error failure, holding (front room (text ++ line)) room failure) := by
  have full : room - (front room (text ++ line)).length = 0 := by
    rw [Text.length_front]
    omega
  rw [String.length_append] at overflows
  unfold holding
  rw [write_of_overflows (by omega), full, Text.front_append held]

end Sink

namespace Machine

variable {m : Machine} {room : Nat} {i : Instruction} {j k : Nat}

/-! ## The text of an open sink -/

theorem text_of_step (open_sink : m.sink.capacity = .unlimited) :
    m.step.2.sink.text = m.sink.text ++ m.written := by
  rw [sink_of_step open_sink]

theorem text_after_succ (open_sink : m.sink.capacity = .unlimited) (k : Nat) :
    (m.after (k + 1)).sink.text = (m.after k).sink.text ++ (m.after k).written :=
  text_of_step (capacity_after open_sink k)

theorem length_text_after (open_sink : m.sink.capacity = .unlimited) (le : j ≤ k) :
    (m.after j).sink.text.length ≤ (m.after k).sink.text.length := by
  induction le with
  | refl => exact Nat.le_refl _
  | @step k le ih =>
    rw [text_after_succ open_sink, String.length_append]
    omega

/-- A text that is too long for the room has passed its limit at some step. -/
theorem exists_overflow (held : m.sink.text.length ≤ room)
    (overflows : room < (m.after k).sink.text.length) :
    ∃ j < k, (m.after j).sink.text.length ≤ room ∧
      room < (m.after (j + 1)).sink.text.length := by
  induction k with
  | zero => exact absurd held (Nat.not_le_of_lt overflows)
  | succ k ih =>
    by_cases earlier : room < (m.after k).sink.text.length
    · obtain ⟨j, lt, here⟩ := ih earlier
      exact ⟨j, Nat.lt_succ_of_lt lt, here⟩
    · exact ⟨k, Nat.lt_succ_self k, Nat.le_of_not_lt earlier, overflows⟩

theorem ascii_written (m : Machine) : Ascii m.written := by
  unfold written
  cases h : m.executed?.bind m.state.line? with
  | none =>
    intro c mem
    cases mem
  | some line =>
    obtain ⟨i, -, hline⟩ := Option.bind_eq_some_iff.mp h
    exact State.ascii_line hline

theorem ascii_after (open_sink : m.sink.capacity = .unlimited) (ascii : Ascii m.sink.text)
    (k : Nat) : Ascii (m.after k).sink.text := by
  induction k with
  | zero => exact ascii
  | succ k ih =>
    rw [text_after_succ open_sink]
    exact ih.append (ascii_written _)

/-! ## The same machine with less room -/

/-- The machine with a sink that takes `room` bytes in all, of which its text has had its part. -/
def withRoom (room : Nat) (failure : SinkFailure) (m : Machine) : Machine :=
  { m with sink := .holding m.sink.text room failure }

theorem perform_withRoom (failure : SinkFailure) (open_sink : m.sink.capacity = .unlimited)
    (fits : (m.perform i).2.sink.text.length ≤ room) :
    (m.withRoom room failure).perform i =
      ((m.perform i).1, (m.perform i).2.withRoom room failure) := by
  rw [perform_of_unlimited open_sink] at fits ⊢
  cases hline : m.state.line? i with
  | none => simp [perform, withState, withRoom, hline]
  | some line =>
    rw [hline, Option.getD_some] at fits
    rw [Option.getD_some]
    have also : (m.withRoom room failure).state.line? i = some line := hline
    have taken : (m.withRoom room failure).sink.write line =
        (.ok (), .holding (m.sink.text ++ line) room failure) := Sink.write_holding_of_fits fits
    rw [perform_of_line also, taken]
    rfl

/-- A step that writes no more than there is room for is the same. -/
theorem step_withRoom (failure : SinkFailure) (open_sink : m.sink.capacity = .unlimited)
    (fits : m.step.2.sink.text.length ≤ room) :
    (m.withRoom room failure).step = (m.step.1, m.step.2.withRoom room failure) := by
  apply step_of_change (withRoom room failure)
  · rfl
  · intro awake
    rfl
  · intro nothing
    rfl
  · intro i run
    obtain ⟨awake, fetched⟩ := executed?_eq_some_iff.mp run
    rw [step_of_fetch_ok awake fetched] at fits
    exact perform_withRoom failure open_sink fits

theorem after_withRoom (failure : SinkFailure) (open_sink : m.sink.capacity = .unlimited)
    (fits : (m.after k).sink.text.length ≤ room) :
    (m.withRoom room failure).after k = (m.after k).withRoom room failure := by
  induction k with
  | zero => rfl
  | succ k ih =>
    have before := Nat.le_trans (length_text_after open_sink (Nat.le_succ k)) fits
    rw [after_succ, ih before, step_withRoom failure (capacity_after open_sink k) fits]
    rfl

/-! ## The line that does not fit -/

/-- The machine as the step leaves it whose line does not fit. -/
def cutOff (room : Nat) (failure : SinkFailure) (m : Machine) : Machine :=
  { m with sink := .holding (front room m.step.2.sink.text) room failure }

theorem line_of_overflow (open_sink : m.sink.capacity = .unlimited)
    (held : m.sink.text.length ≤ room) (overflows : room < m.step.2.sink.text.length) :
    ∃ i line, m.executed? = some i ∧ m.state.line? i = some line ∧
      m.step.2.sink.text = m.sink.text ++ line := by
  rw [text_of_step open_sink] at overflows ⊢
  cases h : m.executed?.bind m.state.line? with
  | none =>
    simp [written, h] at overflows
    omega
  | some line =>
    obtain ⟨i, run, hline⟩ := Option.bind_eq_some_iff.mp h
    exact ⟨i, line, run, hline, by simp [written, h]⟩

/-- The machine fails at the line that does not fit, and at each later step again. -/
theorem step_of_overflow (failure : SinkFailure) (open_sink : m.sink.capacity = .unlimited)
    (held : m.sink.text.length ≤ room) (overflows : room < m.step.2.sink.text.length) :
    m.state.halted = false ∧
      (m.withRoom room failure).step =
        (.fault (.output failure), m.cutOff room failure) ∧
      (m.cutOff room failure).step = (.fault (.output failure), m.cutOff room failure) := by
  obtain ⟨i, line, run, hline, text⟩ := line_of_overflow open_sink held overflows
  have write : (m.withRoom room failure).sink.write line =
      (.error failure, (m.cutOff room failure).sink) := by
    rw [text] at overflows
    unfold cutOff
    rw [text]
    exact Sink.write_holding_of_overflows held overflows
  have also : (m.withRoom room failure).executed? = some i := run
  have cut : { m.withRoom room failure with
      sink := ((m.withRoom room failure).sink.write line).2 } = m.cutOff room failure := by
    rw [write]
    rfl
  have refused := congrArg Prod.fst write
  refine ⟨(executed?_eq_some_iff.mp run).1, ?_, ?_⟩
  · rw [step_of_refused also hline refused, cut]
  · rw [← cut]
    exact step_after_refusal also hline refused

theorem after_of_still (still : m.step.2 = m) (k : Nat) : m.after k = m := by
  induction k with
  | zero => rfl
  | succ k ih => rw [after_succ, ih, still]

/-- From the line that does not fit on, the machine stands still. -/
theorem after_overflow (failure : SinkFailure) (open_sink : m.sink.capacity = .unlimited)
    (held : (m.after j).sink.text.length ≤ room)
    (here : room < (m.after (j + 1)).sink.text.length) (later : j < k) :
    (m.withRoom room failure).after k = (m.after j).cutOff room failure := by
  obtain ⟨-, fails, again⟩ := step_of_overflow failure (capacity_after open_sink j) held here
  have stopped : (m.withRoom room failure).after (j + 1) = (m.after j).cutOff room failure := by
    rw [after_succ, after_withRoom failure open_sink held, fails]
  have still := congrArg Prod.snd again
  obtain ⟨d, rfl⟩ := Nat.exists_eq_add_of_lt later
  rw [Nat.add_right_comm, after_add, stopped]
  exact after_of_still still d

/-! ## The law -/

/-- The bytes that the sink has got. -/
def output (m : Machine) : List Byte := bytes m.sink.text

/-- A machine at the state, with a sink that takes everything. -/
def unbounded (s : State) (limit : Option Nat) : Machine := ⟨s, {}, limit⟩

/-- The same machine, with a sink that takes `room` bytes in all and then fails. -/
def bounded (s : State) (limit : Option Nat) (room : Nat) (failure : SinkFailure) : Machine :=
  ⟨s, ⟨"", .limited room failure⟩, limit⟩

/-- As long as the text of a run has room, a bounded sink makes no difference to the run. The first
step whose text has no room fails, and leaves the machine at the state before it: not halted, even
if the line is the notice of a halt, and with the instruction not counted. The sink has what it
could take, the first `room` bytes. Each later step fails in the same way and changes nothing. -/
theorem a_limited_sink_gets_a_prefix (s : State) (limit : Option Nat) (room : Nat)
    (failure : SinkFailure) :
    (∀ k, ((unbounded s limit).after k).output.length ≤ room →
      (∀ j < k, ((bounded s limit room failure).after j).step.1 =
        ((unbounded s limit).after j).step.1) ∧
      ((bounded s limit room failure).after k).state = ((unbounded s limit).after k).state ∧
      ((bounded s limit room failure).after k).output = ((unbounded s limit).after k).output) ∧
    ∀ k, room < ((unbounded s limit).after k).output.length → ∃ j < k,
      (∀ i ≤ j, ((unbounded s limit).after i).output.length ≤ room) ∧
      room < ((unbounded s limit).after (j + 1)).output.length ∧
      ((bounded s limit room failure).after j).step.1 = .fault (.output failure) ∧
      ((bounded s limit room failure).after (j + 1)).output =
        ((unbounded s limit).after (j + 1)).output.take room ∧
      ((bounded s limit room failure).after (j + 1)).state = ((unbounded s limit).after j).state ∧
      ((unbounded s limit).after j).state.halted = false ∧
      ∀ i > j, ((bounded s limit room failure).after i).step =
        (.fault (.output failure), (bounded s limit room failure).after (j + 1)) := by
  have open_sink : (unbounded s limit).sink.capacity = .unlimited := rfl
  have ascii : ∀ k, Ascii ((unbounded s limit).after k).sink.text := by
    intro k
    apply ascii_after open_sink
    intro c mem
    cases mem
  have length : ∀ k, ((unbounded s limit).after k).output.length =
      ((unbounded s limit).after k).sink.text.length := fun k => Text.length_bytes (ascii k)
  have less_room : bounded s limit room failure = (unbounded s limit).withRoom room failure := rfl
  simp only [length]
  rw [less_room]
  constructor
  · intro k fits
    refine ⟨fun j lt => ?_, ?_, ?_⟩
    · have now := Nat.le_trans (length_text_after open_sink (Nat.le_of_lt lt)) fits
      have next := Nat.le_trans (length_text_after open_sink (Nat.succ_le_of_lt lt)) fits
      rw [after_withRoom failure open_sink now,
        step_withRoom failure (capacity_after open_sink j) next]
    · rw [after_withRoom failure open_sink fits]
      rfl
    · rw [after_withRoom failure open_sink fits]
      rfl
  · intro k overflows
    obtain ⟨j, lt, held, here⟩ := exists_overflow (Nat.zero_le room) overflows
    have reached := after_withRoom failure open_sink held
    have stopped := fun i => after_overflow (k := i) failure open_sink held here
    obtain ⟨awake, fails, again⟩ := step_of_overflow failure (capacity_after open_sink j) held here
    refine ⟨j, lt, ?_, here, ?_, ?_, ?_, awake, ?_⟩
    · intro i le
      exact Nat.le_trans (length_text_after open_sink le) held
    · rw [reached, fails]
    · rw [stopped (j + 1) (Nat.lt_succ_self j)]
      exact Text.bytes_front (ascii (j + 1)) room
    · rw [stopped (j + 1) (Nat.lt_succ_self j)]
      rfl
    · intro i later
      rw [stopped i later, stopped (j + 1) (Nat.lt_succ_self j), again]

/-- With room for five bytes the number is written, and the halt notice is cut behind its first
letter. So nothing halts. -/
theorem a_cut_notice_halts_nothing : ∃ s : State,
    ((bounded s none 5 .brokenPipe).after 2).state = ((unbounded s none).after 2).state ∧
    ((bounded s none 5 .brokenPipe).after 2).step.1 = .fault (.output .brokenPipe) ∧
    ((bounded s none 5 .brokenPipe).after 3).output = bytes "123\nS" ∧
    ((bounded s none 5 .brokenPipe).after 3).state.halted = false ∧
    ((bounded s none 5 .brokenPipe).after 3).state.clock = 2 ∧
    ∀ i > 2, ((bounded s none 5 .brokenPipe).after i).step =
      (.fault (.output .brokenPipe), (bounded s none 5 .brokenPipe).after 3) := by
  let s := State.start ⟨[0x82, 0, 123, 0x47, 0, 1], by decide⟩
  have facts : ((unbounded s none).after 1).output.length = 0 ∧
      ((unbounded s none).after 2).output.length = 4 ∧
      ((unbounded s none).after 2).state.clock = 2 ∧
      ((unbounded s none).after 3).output = bytes "123\nSystem exiting...\n" := by
    decide +kernel
  clear_value s
  obtain ⟨first, second, clock, third⟩ := facts
  have text : (bytes "123\nSystem exiting...\n").take 5 = bytes "123\nS" ∧
      5 < (bytes "123\nSystem exiting...\n").length := by decide +kernel
  obtain ⟨fits, overflows⟩ := a_limited_sink_gets_a_prefix s none 5 .brokenPipe
  obtain ⟨-, same, -⟩ := fits 2 (by omega)
  obtain ⟨j, lt, -, here, fails, kept, stopped, awake, again⟩ :=
    overflows 3 (by rw [third]; exact text.2)
  have last : j = 2 := by
    by_contra other
    obtain rfl | rfl : j = 0 ∨ j = 1 := by omega
    · rw [first] at here
      omega
    · rw [second] at here
      omega
  subst last
  rw [third, text.1] at kept
  refine ⟨s, same, fails, kept, ?_, ?_, again⟩
  · rw [stopped, awake]
  · rw [stopped, clock]

end Machine

end LS8
