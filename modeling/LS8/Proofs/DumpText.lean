-- A dump can be read back. It names the cells that are not zero, by increasing address, and the
-- numbers in it are an address and a value in turn: nothing but digits belongs to a number, and
-- between two numbers there is always something else. So memories with the same dump are the same.
import LS8.Memory

namespace LS8

/-! ## The numbers in a text -/

namespace Text

/-- The numbers in a text, each of them as many digits in a row as there are. -/
def numbersIn (text : List Char) : List Nat :=
  ((text.splitOnP (!·.isDigit)).filter (· ≠ [])).map (Nat.ofDigitChars 10 · 0)

theorem numbersIn_cons {c : Char} (other : c.isDigit = false) (rest : List Char) :
    numbersIn (c :: rest) = numbersIn rest := by
  unfold numbersIn
  rw [List.splitOnP_cons_eq_if_modifyHead, if_pos (by simp [other])]
  simp

/-- What has no digit has no number. -/
theorem numbersIn_append {gap : List Char} (free : gap.any Char.isDigit = false)
    (rest : List Char) : numbersIn (gap ++ rest) = numbersIn rest := by
  induction gap with
  | nil => rfl
  | cons c gap ih =>
    obtain ⟨first, others⟩ := Bool.or_eq_false_iff.mp free
    rw [List.cons_append, numbersIn_cons first]
    exact ih others

/-- A number ends where something else than a digit comes. -/
theorem numbersIn_decimal (n : Nat) {c : Char} (other : c.isDigit = false) (rest : List Char) :
    numbersIn ((decimal n).toList ++ c :: rest) = n :: numbersIn rest := by
  have digits : ∀ d ∈ Nat.toDigits 10 n, (!d.isDigit) = false := by
    intro d mem
    have digit : d.isDigit = true := Nat.isDigit_of_mem_toDigits (by decide) (by decide) mem
    simp [digit]
  have some_digit : Nat.toDigits 10 n ≠ [] := Nat.toDigits_ne_nil
  unfold numbersIn
  rw [toList_decimal,
    List.splitOnP_append_cons_of_forall_mem digits c (by simp [other]) rest]
  simp [some_digit, Nat.ofDigitChars_ten_toDigits]

end Text

namespace Memory

open Text (decimal numbersIn)

variable {m n : Memory}

/-! ## The cells that are not zero -/

theorem mem_nonzero_iff {a : Nat} {v : Byte} : (a, v) ∈ m.nonzero ↔ m.load a = .ok v ∧ v ≠ 0 := by
  have found : m.load a = .ok v ↔ m.cells.toList[a]? = some v := by
    unfold load
    rw [Vector.getElem?_toList]
    cases m.cells[a]? <;> simp
  unfold nonzero
  rw [found, List.mem_map]
  constructor
  · rintro ⟨⟨w, b⟩, mem, ⟨⟩⟩
    obtain ⟨stands, filled⟩ := List.mem_filter.mp mem
    exact ⟨List.mk_mem_zipIdx_iff_getElem?.mp stands, by simpa using filled⟩
  · rintro ⟨stands, filled⟩
    refine ⟨(v, a), List.mem_filter.mpr ⟨?_, by simpa using filled⟩, rfl⟩
    exact List.mk_mem_zipIdx_iff_getElem?.mpr stands

/-- They stand by increasing address, so none of them is there twice. -/
theorem pairwise_nonzero (m : Memory) : m.nonzero.Pairwise fun x y => x.1 < y.1 := by
  have numbered : (m.cells.toList.zipIdx.map Prod.snd).Pairwise (· < ·) := by
    rw [List.zipIdx_map_snd]
    exact List.pairwise_lt_range'
  unfold nonzero
  rw [List.pairwise_map] at numbered ⊢
  exact numbered.filter _

/-- A memory is determined by the cells that are not zero. -/
theorem eq_of_nonzero (same : m.nonzero = n.nonzero) : m = n := by
  have kept : ∀ {x y : Memory}, x.nonzero = y.nonzero → ∀ a, x.read a ≠ 0 →
      y.read a = x.read a := by
    intro x y same a filled
    have mem : (a.toNat, x.read a) ∈ x.nonzero := mem_nonzero_iff.mpr ⟨x.load_toNat a, filled⟩
    rw [same] at mem
    have loaded := (mem_nonzero_iff.mp mem).1
    rw [load_toNat] at loaded
    exact Except.ok.inj loaded
  ext a
  by_cases left : m.read a = 0
  · by_cases right : n.read a = 0
    · rw [left, right]
    · rw [kept same.symm a right]
  · rw [kept same a left]

/-! ## The numbers in a dump -/

/-- The two numbers that a dump gives for a cell. -/
def cellNumbers (cell : Nat × Byte) : List Nat := [cell.1, cell.2.toNat]

theorem cells_of_numbers {xs ys : List (Nat × Byte)}
    (same : xs.flatMap cellNumbers = ys.flatMap cellNumbers) : xs = ys := by
  induction xs generalizing ys with
  | nil =>
    cases ys with
    | nil => rfl
    | cons y ys => cases same
  | cons x xs ih =>
    cases ys with
    | nil => cases same
    | cons y ys =>
      simp only [List.flatMap_cons, cellNumbers, List.cons_append, List.nil_append,
        List.cons.injEq] at same
      obtain ⟨address, value, rest⟩ := same
      rw [Prod.ext address (UInt8.toNat_inj.mp value), ih rest]

theorem numbersIn_cellText (cell : Nat × Byte) {c : Char} (other : c.isDigit = false)
    (rest : List Char) :
    numbersIn ((cellText cell).toList ++ c :: rest) = cellNumbers cell ++ numbersIn rest := by
  have cut : (cellText cell).toList ++ c :: rest =
      (decimal cell.1).toList ++ ':' :: ([' '] ++ ((decimal cell.2.toNat).toList ++ c :: rest)) := by
    simp [cellText]
  rw [cut, Text.numbersIn_decimal _ (by decide), Text.numbersIn_append (by decide),
    Text.numbersIn_decimal _ other]
  rfl

/-- On one line, a comma stands behind each cell but the last. -/
theorem numbersIn_cells (cells : List (Nat × Byte)) :
    numbersIn ((", ".intercalate (cells.map cellText)).toList ++ ['\x7d']) =
      cells.flatMap cellNumbers := by
  induction cells with
  | nil => decide
  | cons cell rest ih =>
    cases rest with
    | nil =>
      rw [List.map_singleton, String.intercalate_singleton, numbersIn_cellText cell (by decide)]
      rfl
    | cons next rest =>
      have cut : (", ".intercalate ((cell :: next :: rest).map cellText)).toList ++ ['\x7d'] =
          (cellText cell).toList ++ ',' :: ([' '] ++
            ((", ".intercalate ((next :: rest).map cellText)).toList ++ ['\x7d'])) := by
        simp [String.intercalate_cons_cons]
      rw [cut, numbersIn_cellText cell (by decide), Text.numbersIn_append (by decide), ih]
      rfl

/-- On lines of their own, a comma stands behind each cell. -/
theorem numbersIn_lines (cells : List (Nat × Byte)) :
    numbersIn ((String.join (cells.map fun cell => "    " ++ cellText cell ++ ",\n")).toList ++
      ['\x7d']) = cells.flatMap cellNumbers := by
  induction cells with
  | nil => decide
  | cons cell rest ih =>
    have cut : (String.join ((cell :: rest).map fun cell => "    " ++ cellText cell ++ ",\n")).toList
        ++ ['\x7d'] = "    ".toList ++ ((cellText cell).toList ++ ',' :: (['\n'] ++
          ((String.join (rest.map fun cell => "    " ++ cellText cell ++ ",\n")).toList ++
            ['\x7d']))) := by
      simp
    rw [cut, Text.numbersIn_append (by decide), numbersIn_cellText cell (by decide),
      Text.numbersIn_append (by decide), ih]
    rfl

theorem numbersIn_dump (m : Memory) :
    numbersIn m.dump.toList = m.nonzero.flatMap cellNumbers := by
  have cut : m.dump.toList =
      ['\x7b'] ++ ((", ".intercalate (m.nonzero.map cellText)).toList ++ ['\x7d']) := by
    simp [dump]
  rw [cut, Text.numbersIn_append (by decide), numbersIn_cells]

theorem dumpLines_eq (m : Memory) : m.dumpLines =
    if m.nonzero = [] then "\x7b\x7d"
    else "\x7b\n" ++
      String.join (m.nonzero.map fun cell => "    " ++ cellText cell ++ ",\n") ++ "\x7d" := by
  unfold dumpLines
  cases m.nonzero <;> simp

theorem numbersIn_dumpLines (m : Memory) :
    numbersIn m.dumpLines.toList = m.nonzero.flatMap cellNumbers := by
  rw [dumpLines_eq]
  by_cases empty : m.nonzero = []
  · rw [if_pos empty, empty]
    decide
  · rw [if_neg empty]
    have cut : ("\x7b\n" ++ String.join (m.nonzero.map fun cell => "    " ++ cellText cell ++ ",\n")
        ++ "\x7d").toList = ['\x7b', '\n'] ++
          ((String.join (m.nonzero.map fun cell => "    " ++ cellText cell ++ ",\n")).toList ++
            ['\x7d']) := by
      simp
    rw [cut, Text.numbersIn_append (by decide), numbersIn_lines]

/-- Memories with the same numbers in their dumps are the same. -/
theorem eq_of_dump (same : m.dump = n.dump) : m = n := by
  apply eq_of_nonzero
  apply cells_of_numbers
  rw [← numbersIn_dump, same, numbersIn_dump]

theorem eq_of_dumpLines (same : m.dumpLines = n.dumpLines) : m = n := by
  apply eq_of_nonzero
  apply cells_of_numbers
  rw [← numbersIn_dumpLines, same, numbersIn_dumpLines]

/-! ## The law -/

/-- A dump, on one line or on several, gives just the cells that are not zero, each of them once and
by increasing address, with the address and the value in decimal; these are all the numbers in it.
Two memories have the same dump on one line exactly if they have the same one on several, and
exactly if all their cells are the same. -/
theorem a_dump_lists_the_cells_that_are_not_zero (m : Memory) :
    (∃ cells : List (Nat × Byte),
      (∀ a v, (a, v) ∈ cells ↔ m.load a = .ok v ∧ v ≠ 0) ∧
      cells.Pairwise (fun x y => x.1 < y.1) ∧
      m.dump = "\x7b" ++ ", ".intercalate (cells.map fun cell =>
        decimal cell.1 ++ ": " ++ decimal cell.2.toNat) ++ "\x7d" ∧
      m.dumpLines = (if cells = [] then "\x7b\x7d"
        else "\x7b\n" ++ String.join (cells.map fun cell =>
          "    " ++ (decimal cell.1 ++ ": " ++ decimal cell.2.toNat) ++ ",\n") ++ "\x7d") ∧
      numbersIn m.dump.toList = (cells.flatMap fun cell => [cell.1, cell.2.toNat]) ∧
      numbersIn m.dumpLines.toList = (cells.flatMap fun cell => [cell.1, cell.2.toNat])) ∧
    ∀ n : Memory, (m.dump = n.dump ↔ m.dumpLines = n.dumpLines) ∧
      (m.dump = n.dump ↔ ∀ a : Byte, m.read a = n.read a) := by
  constructor
  · exact ⟨m.nonzero, fun a v => mem_nonzero_iff, m.pairwise_nonzero, rfl, m.dumpLines_eq,
      m.numbersIn_dump, m.numbersIn_dumpLines⟩
  · intro n
    constructor
    · constructor
      · intro same
        rw [eq_of_dump same]
      · intro same
        rw [eq_of_dumpLines same]
    · constructor
      · intro same a
        rw [eq_of_dump same]
      · intro same
        rw [Memory.ext same]

example : (ofImage [0, 5, 0, 200]).dump = "\x7b1: 5, 3: 200\x7d" := by decide +kernel

end Memory

end LS8
