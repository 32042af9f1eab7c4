-- What the registers hold after a run of sums and products. Every one of them wraps, but nothing
-- is lost by it: had the registers room for any integer, the remainder modulo 256 taken once at
-- the end would be the same, whatever way the run took.
import LS8.Proofs.Tracing
import Mathlib.Data.Int.ModEq
import Mathlib.Logic.Function.Basic

namespace LS8

/-- Registers that have room for any integer. -/
abbrev WideRegisters := Register → Int

namespace Instruction

/-- The instruction loads, adds, multiplies, compares, prints or jumps. -/
def computes : Instruction → Bool
  | ldi _ _ | prn _ => true
  | alu op _ _ => op ∈ [AluOp.add, .mul, .cmp]
  | branch op _ => op ∈ [BranchOp.jmp, .jeq, .jne]
  | _ => false

/-- What a load, a sum or a product leaves in registers that do not wrap. All else leaves them as
they are. -/
def replay (wide : WideRegisters) : Instruction → WideRegisters
  | ldi r v => Function.update wide r v.toNat
  | alu .add a b => Function.update wide a (wide a + wide b)
  | alu .mul a b => Function.update wide a (wide a * wide b)
  | _ => wide

end Instruction

/-! ## One instruction -/

theorem Byte.toNat_add_modEq (x y : Byte) :
    ((x + y).toNat : Int) ≡ x.toNat + y.toNat [ZMOD 256] := by
  rw [UInt8.toNat_add]
  push_cast
  exact Int.mod_modEq _ _

theorem Byte.toNat_mul_modEq (x y : Byte) :
    ((x * y).toNat : Int) ≡ x.toNat * y.toNat [ZMOD 256] := by
  rw [UInt8.toNat_mul]
  push_cast
  exact Int.mod_modEq _ _

namespace State

variable {s : State} {wide : WideRegisters} {i : Instruction}

/-- The registers hold the remainders of the wide ones. -/
def Reduces (s : State) (wide : WideRegisters) : Prop :=
  ∀ r, ((s.get r).toNat : Int) ≡ wide r [ZMOD 256]

theorem Reduces.set (h : s.Reduces wide) (r : Register) {v : Byte} {z : Int}
    (same : (v.toNat : Int) ≡ z [ZMOD 256]) : (s.set r v).Reduces (Function.update wide r z) := by
  intro q
  by_cases here : q = r
  · subst here
    rw [get_set, if_pos rfl, Function.update_self]
    exact same
  · rw [get_set, if_neg here, Function.update_of_ne here]
    exact h q

/-- The operands may be the same register: both are read before the first is written. -/
theorem Reduces.execute (h : s.Reduces wide) (computes : i.computes = true) :
    (s.execute i).2.Reduces (i.replay wide) := by
  cases i with
  | hlt | ret | push | pop => cases computes
  | prn r => exact h
  | ldi r v => exact h.set r Int.ModEq.rfl
  | branch op r =>
    cases op with
    | call => cases computes
    | jmp | jeq | jne => exact h
  | alu op a b =>
    cases op with
    | add => exact h.set a ((Byte.toNat_add_modEq _ _).trans ((h a).add (h b)))
    | mul => exact h.set a ((Byte.toNat_mul_modEq _ _).trans ((h a).mul (h b)))
    | and | or | xor => cases computes
    | cmp =>
      -- A comparison writes back what its first register held.
      have back : (s.set a (s.get a)).registers = s.registers := by rw [set_get_self]
      have kept : (s.execute (.alu .cmp a b)).2.registers = s.registers := back
      intro q
      rw [get, kept]
      exact h q

end State

/-! ## A whole run -/

namespace Machine

variable {m : Machine} {wide : WideRegisters}

/-- The instructions that the first `k` steps execute. -/
def executions (m : Machine) (k : Nat) : List Instruction :=
  (m.befores k).filterMap Machine.executed?

theorem executions_succ (m : Machine) (k : Nat) :
    m.executions (k + 1) = m.executions k ++ (m.after k).executed?.toList := by
  unfold executions
  rw [befores_succ, List.filterMap_append]
  cases run : (m.after k).executed? <;> simp [run]

theorem reduces_step (h : m.state.Reduces wide)
    (computes : ∀ i ∈ m.executed?, i.computes = true) :
    m.step.2.state.Reduces (m.executed?.toList.foldl Instruction.replay wide) := by
  have idle (nothing : m.executed? = none) :
      m.state.Reduces (m.executed?.toList.foldl Instruction.replay wide) := by
    rw [nothing]
    exact h
  rcases m.step_cases with ⟨halted, step⟩ | ⟨awake, f, fetched, step⟩ | ⟨i, run, step⟩
  · rw [step]
    exact idle (by simp [executed?, halted])
  · rw [step]
    exact idle (by simp [executed?, awake, fetched, Except.toOption])
  · have plain := computes i run
    rw [step, run, Option.toList_some, List.foldl_cons, List.foldl_nil]
    cases refused : m.refusal? i with
    | none =>
      obtain ⟨sink, -, performed⟩ := perform_of_no_refusal refused
      rw [performed]
      exact h.execute plain
    | some failure =>
      -- Of these instructions only a print can be refused, and then nothing is changed.
      obtain ⟨line, written, -, performed⟩ := perform_of_refusal refused
      rw [performed]
      cases i with
      | prn r => exact h
      | hlt => cases plain
      | _ => cases written

theorem reduces_after {k : Nat}
    (computes : ∀ j < k, ∀ i ∈ (m.after j).executed?, i.computes = true)
    (h : m.state.Reduces wide) :
    (m.after k).state.Reduces ((m.executions k).foldl Instruction.replay wide) := by
  induction k with
  | zero => exact h
  | succ k ih =>
    have so_far := ih fun j before => computes j (Nat.lt_succ_of_lt before)
    rw [after_succ, executions_succ, List.foldl_append]
    exact reduces_step so_far (computes k (Nat.lt_succ_self k))

/-! ## The law -/

/-- Steps that execute nothing but loads, sums, products, comparisons, prints and jumps leave in
each register the remainder modulo 256 of what the same loads, sums and products, in the same order,
leave in registers that have room for any integer and hold the same at first. -/
theorem registers_hold_integers_modulo_256 (m : Machine) (k : Nat)
    (computes : ∀ j < k, ∀ i ∈ (m.after j).executed?, i.computes = true) (r : Register) :
    (((m.after k).state.get r).toNat : Int) =
      (m.executions k).foldl Instruction.replay (fun q => ((m.state.get q).toNat : Int)) r % 256 := by
  have at_first : m.state.Reduces fun q => ((m.state.get q).toNat : Int) := fun q => Int.ModEq.rfl
  have reduced := reduces_after computes at_first
  have small : (((m.after k).state.get r).toNat : Int) < 256 := by
    have := ((m.after k).state.get r).toNat_lt_256
    omega
  calc (((m.after k).state.get r).toNat : Int)
      = ((m.after k).state.get r).toNat % 256 := (Int.emod_eq_of_lt (by omega) small).symm
    _ = _ := reduced r

/-- A loop that doubles one register and squares another, which is the stack pointer. -/
def squaringProgram : Program where
  image := [0x82, 7, 3, 0x82, 1, 9, 0x82, 0, 200,
    0xA0, 0, 0, 0xA2, 7, 7, 0xA7, 0, 7, 0x47, 0, 0x54, 1]

/-- After three turns the wide registers hold 1600 and 6561. -/
theorem a_squaring_loop_wraps :
    ∃ m : Machine, (∀ j < 18, ∀ i ∈ (m.after j).executed?, i.computes = true) ∧
      (∀ j < 18, (m.after j).step.1 = .running) ∧
      (m.executions 18).foldl Instruction.replay (fun q => ((m.state.get q).toNat : Int))
        Register.sp = 6561 ∧
      (((m.after 18).state.get Register.sp).toNat : Int) = 6561 % 256 ∧
      (((m.after 18).state.get 0).toNat : Int) = 1600 % 256 := by
  let m := start squaringProgram none {}
  have computes : ∀ j < 18, ∀ i ∈ (m.after j).executed?, i.computes = true := by decide +kernel
  have running : ∀ j < 18, (m.after j).step.1 = .running := by decide +kernel
  have wide : ∀ r, (m.executions 18).foldl Instruction.replay
      (fun q => ((m.state.get q).toNat : Int)) r =
        if r = 0 then 1600 else if r = 1 then 9 else if r = Register.sp then 6561 else 0 := by
    decide +kernel
  have law := registers_hold_integers_modulo_256 m 18 computes
  refine ⟨m, computes, running, wide _, ?_, ?_⟩
  · rw [law, wide]
    rfl
  · rw [law, wide]
    rfl

end Machine

end LS8
