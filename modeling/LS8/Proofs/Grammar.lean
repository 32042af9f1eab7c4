-- The grammar of programs as text, said without the way a text is read. A line that begins with a
-- binary digit stands for a byte, and it is well formed if its first eight characters, without the
-- white space at their end, are binary digits. A text is a program if and only if all these lines
-- are well formed and there are no more than 256 of them.
import Mathlib.Data.List.DropRight
import Mathlib.Data.Nat.Digits.Lemmas
import LS8.Program.Source

namespace LS8

namespace Source

/-! ## The grammar -/

def StandsForByte (line : List Char) : Prop := line.head? = some '0' ∨ line.head? = some '1'

/-- The characters that have to be binary digits. -/
def front (line : List Char) : List Char := (line.take 8).rdropWhile Text.isBlank

def IsWellFormed (line : List Char) : Prop := ∀ c ∈ front line, c = '0' ∨ c = '1'

def bit (c : Char) : Nat := if c = '1' then 1 else 0

/-- The number that the front of a line writes in base two. -/
def value (line : List Char) : Nat := Nat.ofDigits 2 ((front line).map bit).reverse

/-- Any line that stands for no byte is in the grammar. -/
def InGrammar (line : List Char) : Prop := StandsForByte line → IsWellFormed line

instance : DecidablePred StandsForByte := fun line =>
  inferInstanceAs (Decidable (line.head? = some '0' ∨ line.head? = some '1'))

instance : DecidablePred IsWellFormed := fun line =>
  inferInstanceAs (Decidable (∀ c ∈ front line, c = '0' ∨ c = '1'))

instance : DecidablePred InGrammar := fun line =>
  inferInstanceAs (Decidable (StandsForByte line → IsWellFormed line))

/-! ## One line -/

variable {line : List Char}

theorem isSignificant_iff : isSignificant line = true ↔ StandsForByte line := by
  unfold isSignificant StandsForByte
  cases line <;> simp [isBinaryDigit]

theorem stands_of_start {start : List Char} (h : start <+: line) (stands : StandsForByte start) :
    StandsForByte line := by
  obtain ⟨rest, rfl⟩ := h
  unfold StandsForByte at stands ⊢
  cases start with
  | nil => simp at stands
  | cons c more => exact stands

theorem digits_eq_front (line : List Char) : digits line = front line := rfl

/-- The front keeps the binary digit that the line begins with. -/
theorem exists_front (stands : StandsForByte line) :
    ∃ c rest, front line = c :: rest ∧ (c = '0' ∨ c = '1') := by
  obtain ⟨c, rest, rfl, digit⟩ : ∃ c rest, line = c :: rest ∧ (c = '0' ∨ c = '1') := by
    unfold StandsForByte at stands
    cases line with
    | nil => simp at stands
    | cons c rest => exact ⟨c, rest, rfl, by simpa using stands⟩
  have dark : Text.isBlank c = false := by rcases digit with rfl | rfl <;> decide
  have kept : front (c :: rest) ≠ [] := by
    intro blank
    have := List.rdropWhile_eq_nil_iff.mp blank c (by simp)
    simp [dark] at this
  obtain ⟨d, more, same⟩ := List.exists_cons_of_ne_nil kept
  have before : front (c :: rest) <+: c :: rest.take 7 := List.rdropWhile_prefix _ _
  rw [same, List.cons_prefix_cons] at before
  exact ⟨d, more, same, before.1 ▸ digit⟩

theorem length_front_le (line : List Char) : (front line).length ≤ 8 := by
  have before : front line <+: line.take 8 := List.rdropWhile_prefix _ _
  have := before.length_le
  rw [List.length_take] at this
  omega

theorem bit_lt (c : Char) : bit c < 2 := by
  unfold bit
  split <;> decide

/-- Eight binary digits make no number above 255. -/
theorem value_lt (line : List Char) : value line < 256 := by
  have below : value line < 2 ^ ((front line).map bit).reverse.length := by
    refine Nat.ofDigits_lt_base_pow_length (by decide) fun d member => ?_
    obtain ⟨c, -, rfl⟩ := List.mem_map.mp (List.mem_reverse.mp member)
    exact bit_lt c
  rw [List.length_reverse, List.length_map] at below
  exact below.trans_le (Nat.pow_le_pow_right (by decide) (length_front_le line))

/-- Binary digits read from the highest on make the number that they make in base two. -/
theorem ofDigitChars_of_binary {cs : List Char} (binary : ∀ c ∈ cs, c = '0' ∨ c = '1') (n : Nat) :
    Nat.ofDigitChars 2 cs n = Nat.ofDigits 2 (cs.map bit).reverse + 2 ^ cs.length * n := by
  induction cs generalizing n with
  | nil => simp
  | cons c rest ih =>
    have digit : c.toNat - '0'.toNat = bit c := by
      rcases binary c List.mem_cons_self with rfl | rfl <;> decide
    rw [Nat.ofDigitChars_cons, ih fun d member => binary d (List.mem_cons_of_mem c member), digit,
      List.map_cons, Nat.ofDigits_reverse_cons, List.length_map, List.length_cons]
    ring

theorem isDigit_two_iff {c : Char} : Text.isDigit 2 c = true ↔ c = '0' ∨ c = '1' := by
  unfold Text.isDigit
  simp only [Bool.and_eq_true, decide_eq_true_eq, Char.isDigit_iff_toNat]
  constructor
  · rintro ⟨⟨low, -⟩, small⟩
    change 48 ≤ c.toNat at low
    change c.toNat - 48 < 2 at small
    have cases : c.toNat = 48 ∨ c.toNat = 49 := by omega
    exact cases.imp (fun zero => Char.toNat_inj.mp zero) (fun one => Char.toNat_inj.mp one)
  · rintro (rfl | rfl) <;> decide

def byteOf (line : List Char) : Byte := UInt8.ofNat (value line)

theorem toNat_byteOf (line : List Char) : (byteOf line).toNat = value line :=
  UInt8.toNat_ofNat_of_lt' (value_lt line)

/-- A well-formed line is neither empty nor too large a number. -/
theorem byte?_of_well_formed (stands : StandsForByte line) (well_formed : IsWellFormed line) :
    byte? line = some (byteOf line) := by
  obtain ⟨c, rest, same, -⟩ := exists_front stands
  have number : Nat.ofDigitChars 2 (front line) 0 = value line := by
    rw [ofDigitChars_of_binary well_formed, Nat.mul_zero, Nat.add_zero, value]
  have read : Text.unsigned? 2 UInt8.size (front line) = some (value line) := by
    rw [Text.unsigned?_of_digits (by simp [same])
      (fun d member => isDigit_two_iff.mpr (well_formed d member)) (number ▸ value_lt line), number]
  rw [byte?, digits_eq_front, read, Option.map_some, byteOf]

/-- The digit at its beginning leaves a line no sign. -/
theorem byte?_of_ill_formed (stands : StandsForByte line) (ill_formed : ¬ IsWellFormed line) :
    byte? line = none := by
  obtain ⟨c, rest, same, digit⟩ := exists_front stands
  have unsigned : Text.withoutPlus (front line) = front line := by
    rw [same]
    rcases digit with rfl | rfl <;> rfl
  have no_number : Text.unsigned? 2 UInt8.size (front line) = none := by
    unfold Text.unsigned?
    rw [unsigned]
    refine if_neg ?_
    rintro ⟨-, digits, -⟩
    exact ill_formed fun d member => isDigit_two_iff.mp (List.all_eq_true.mp digits d member)
  rw [byte?, digits_eq_front, no_number, Option.map_none]

/-! ## The lines of a text -/

variable {number : Nat} {lines : List (List Char)} {e : ProgramError}

/-- The lines that stand for bytes, in order. -/
def standing (lines : List (List Char)) : List (List Char) := lines.filter (StandsForByte ·)

theorem mem_standing_iff : line ∈ standing lines ↔ line ∈ lines ∧ StandsForByte line := by
  simp [standing]

theorem all_inGrammar_iff :
    (∀ line ∈ lines, InGrammar line) ↔ ∀ line ∈ standing lines, IsWellFormed line := by
  constructor
  · intro grammar line member
    obtain ⟨among, stands⟩ := mem_standing_iff.mp member
    exact grammar line among stands
  · intro well_formed line member stands
    exact well_formed line (mem_standing_iff.mpr ⟨member, stands⟩)

theorem standing_cons_of_stands (stands : StandsForByte line) (rest : List (List Char)) :
    standing (line :: rest) = line :: standing rest :=
  List.filter_cons_of_pos (by simpa using stands)

theorem standing_cons_of_remark (remark : ¬ StandsForByte line) (rest : List (List Char)) :
    standing (line :: rest) = standing rest :=
  List.filter_cons_of_neg (by simpa using remark)

theorem bytes_cons_of_stands (stands : StandsForByte line) (well_formed : IsWellFormed line)
    (number : Nat) (rest : List (List Char)) :
    bytes number (line :: rest) = (byteOf line :: ·) <$> bytes (number + 1) rest := by
  rw [bytes, if_pos (isSignificant_iff.mpr stands), byte?_of_well_formed stands well_formed]

theorem bytes_cons_of_remark (remark : ¬ StandsForByte line) (number : Nat)
    (rest : List (List Char)) : bytes number (line :: rest) = bytes (number + 1) rest := by
  rw [bytes, if_neg (fun stands => remark (isSignificant_iff.mp stands))]

theorem bytes_cons_of_ill_formed (bad : ¬ InGrammar line) (number : Nat)
    (rest : List (List Char)) :
    bytes number (line :: rest) = .error (.invalidByte number (String.ofList line)) := by
  obtain ⟨stands, ill_formed⟩ := Classical.not_imp.mp bad
  rw [bytes, if_pos (isSignificant_iff.mpr stands), byte?_of_ill_formed stands ill_formed]

/-- Lines of the grammar stand for their bytes, and what follows them is read with its number. -/
theorem bytes_append_of_grammar {before : List (List Char)}
    (grammar : ∀ line ∈ before, InGrammar line) (number : Nat) (rest : List (List Char)) :
    bytes number (before ++ rest) =
      ((standing before).map byteOf ++ ·) <$> bytes (number + before.length) rest := by
  induction before generalizing number with
  | nil => simp [standing]
  | cons line more ih =>
    have later := ih (fun l member => grammar l (List.mem_cons_of_mem line member)) (number + 1)
    rw [Nat.add_assoc, Nat.add_comm 1] at later
    rw [List.cons_append, List.length_cons]
    by_cases stands : StandsForByte line
    · rw [bytes_cons_of_stands stands (grammar line List.mem_cons_self stands), later,
        standing_cons_of_stands stands, List.map_cons]
      cases bytes (number + (more.length + 1)) rest <;> rfl
    · rw [bytes_cons_of_remark stands, later, standing_cons_of_remark stands]

theorem bytes_of_grammar (grammar : ∀ line ∈ lines, InGrammar line) (number : Nat) :
    bytes number lines = .ok ((standing lines).map byteOf) := by
  have all := bytes_append_of_grammar grammar number []
  rw [List.append_nil] at all
  rw [all, bytes]
  simp

/-- The first line outside the grammar, with its number, is what makes the error. -/
def IsFirstError (number : Nat) (lines : List (List Char)) (e : ProgramError) : Prop :=
  ∃ before line after, lines = before ++ line :: after ∧ (∀ l ∈ before, InGrammar l) ∧
    ¬ InGrammar line ∧ e = .invalidByte (number + before.length) (String.ofList line)

theorem bytes_of_first_error (first : IsFirstError number lines e) :
    bytes number lines = .error e := by
  obtain ⟨before, line, after, rfl, grammar, bad, rfl⟩ := first
  rw [bytes_append_of_grammar grammar, bytes_cons_of_ill_formed bad]
  rfl

theorem exists_first_error (number : Nat) (bad : ¬ ∀ line ∈ lines, InGrammar line) :
    ∃ e, IsFirstError number lines e := by
  cases found : lines.find? (¬ InGrammar ·) with
  | none =>
    refine absurd (fun line member => ?_) bad
    simpa using List.find?_eq_none.mp found line member
  | some line =>
    obtain ⟨outside, before, after, cut, earlier⟩ := List.find?_eq_some_iff_append.mp found
    exact ⟨_, before, line, after, cut, fun l member => by simpa using earlier l member,
      by simpa using outside, rfl⟩

theorem bytes_eq_ok_iff {image : List Byte} :
    bytes number lines = .ok image ↔
      (∀ line ∈ lines, InGrammar line) ∧ image = (standing lines).map byteOf := by
  constructor
  · intro read
    by_cases grammar : ∀ line ∈ lines, InGrammar line
    · rw [bytes_of_grammar grammar, Except.ok.injEq] at read
      exact ⟨grammar, read.symm⟩
    · obtain ⟨e, first⟩ := exists_first_error number grammar
      rw [bytes_of_first_error first] at read
      cases read
  · rintro ⟨grammar, rfl⟩
    exact bytes_of_grammar grammar number

theorem bytes_eq_error_iff : bytes number lines = .error e ↔ IsFirstError number lines e := by
  constructor
  · intro read
    by_cases grammar : ∀ line ∈ lines, InGrammar line
    · rw [bytes_of_grammar grammar] at read
      cases read
    · obtain ⟨other, first⟩ := exists_first_error number grammar
      rw [bytes_of_first_error first, Except.error.injEq] at read
      exact read ▸ first
  · exact bytes_of_first_error

/-! ## Programs written out -/

/-- The binary digits of a number in so many places. -/
def places : Nat → Nat → List Char
  | 0, _ => []
  | width + 1, n => places width (n / 2) ++ [if n % 2 = 1 then '1' else '0']

theorem length_places (width n : Nat) : (places width n).length = width := by
  induction width generalizing n with
  | zero => rfl
  | succ width ih => rw [places, List.length_append, ih, List.length_singleton]

theorem binary_of_mem_places {width n : Nat} {c : Char} (h : c ∈ places width n) :
    c = '0' ∨ c = '1' := by
  induction width generalizing n with
  | zero => cases h
  | succ width ih =>
    rw [places, List.mem_append, List.mem_singleton] at h
    rcases h with high | rfl
    · exact ih high
    · split
      · exact Or.inr rfl
      · exact Or.inl rfl

/-- The digits make the number again, as far as the places reach. -/
theorem ofDigits_places (width n : Nat) :
    Nat.ofDigits 2 ((places width n).map bit).reverse = n % 2 ^ width := by
  induction width generalizing n with
  | zero => simp [places, Nat.mod_one]
  | succ width ih =>
    have digit : bit (if n % 2 = 1 then '1' else '0') = n % 2 := by
      rcases Nat.mod_two_eq_zero_or_one n with even | odd
      · rw [even]; rfl
      · rw [odd]; rfl
    rw [places, List.map_append, List.reverse_append, List.map_singleton, List.reverse_singleton,
      List.singleton_append, Nat.ofDigits_cons, ih, digit, Nat.pow_succ', Nat.mod_mul]

/-- Eight digits fill the front, whatever follows them. -/
theorem front_places (n : Nat) (tail : List Char) : front (places 8 n ++ tail) = places 8 n := by
  have full : (places 8 n ++ tail).take 8 = places 8 n := by
    rw [List.take_append_of_le_length (by rw [length_places]),
      List.take_of_length_le (by rw [length_places])]
  rw [front, full, List.rdropWhile_eq_self_iff]
  intro some_digit
  rcases binary_of_mem_places (List.getLast_mem some_digit) with zero | one
  · rw [zero]
    decide
  · rw [one]
    decide

theorem stands_places (n : Nat) (tail : List Char) : StandsForByte (places 8 n ++ tail) := by
  cases digits : places 8 n with
  | nil =>
    have := length_places 8 n
    rw [digits] at this
    cases this
  | cons c rest =>
    have first : c ∈ places 8 n := by simp [digits]
    rcases binary_of_mem_places first with rfl | rfl
    · exact Or.inl rfl
    · exact Or.inr rfl

theorem well_formed_places (n : Nat) (tail : List Char) : IsWellFormed (places 8 n ++ tail) := by
  intro c member
  rw [front_places] at member
  exact binary_of_mem_places member

theorem byteOf_places (b : Byte) (tail : List Char) : byteOf (places 8 b.toNat ++ tail) = b := by
  have whole : b.toNat % 2 ^ 8 = b.toNat := Nat.mod_eq_of_lt b.toNat_lt
  rw [byteOf, value, front_places, ofDigits_places, whole, UInt8.ofNat_toNat]

theorem bytes_cons_places (b : Byte) (tail : List Char) (number : Nat)
    (rest : List (List Char)) :
    bytes number ((places 8 b.toNat ++ tail) :: rest) = (b :: ·) <$> bytes (number + 1) rest := by
  rw [bytes_cons_of_stands (stands_places _ _) (well_formed_places _ _), byteOf_places]

/-- The empty line may stand or not. -/
theorem bytes_of_last (number : Nat) (last : List Char) :
    bytes number (if last = [] then [] else [last]) = bytes number [last] := by
  split
  · rename_i empty
    rw [empty]
    rfl
  · rfl

/-- A line that writes a byte in eight digits with any tail, or a line that stands for none. -/
inductive Written
  | byte (b : Byte) (tail : List Char) (one_line : '\n' ∉ tail)
  | remark (text : List Char) (one_line : '\n' ∉ text) (no_byte : ¬ StandsForByte text)

namespace Written

def toLine : Written → List Char
  | byte b tail _ => places 8 b.toNat ++ tail
  | remark text _ _ => text

def byte? : Written → Option Byte
  | byte b _ _ => some b
  | remark .. => none

/-- The lines with a line feed between each and the next. -/
def text (source : List Written) : String :=
  String.ofList (['\n'].intercalate (source.map toLine))

theorem one_line (w : Written) : '\n' ∉ w.toLine := by
  cases w with
  | byte b tail one_line =>
    intro member
    rcases List.mem_append.mp member with digit | rest
    · rcases binary_of_mem_places digit with h | h <;> cases h
    · exact one_line rest
  | remark text one_line _ => exact one_line

/-- A line is read as its byte, with a carriage return at its end or without. -/
theorem bytes_cons (w : Written) {l : List Char}
    (kept : l = w.toLine ∨ l = Text.withoutReturn w.toLine) (number : Nat)
    (rest : List (List Char)) :
    bytes number (l :: rest) = (w.byte?.toList ++ ·) <$> bytes (number + 1) rest := by
  cases w with
  | byte b tail one_line =>
    have free : '\r' ∉ places 8 b.toNat := by
      intro member
      rcases binary_of_mem_places member with h | h <;> cases h
    rcases kept with rfl | rfl
    · exact bytes_cons_places b tail number rest
    · rw [toLine, Text.withoutReturn_append free]
      exact bytes_cons_places b _ number rest
  | remark text one_line no_byte =>
    have remark : ¬ StandsForByte l := by
      rcases kept with rfl | rfl
      · exact no_byte
      · intro stands
        exact no_byte (stands_of_start (Text.withoutReturn_prefix text) stands)
    rw [bytes_cons_of_remark remark]
    simp [byte?]

/-- The induction is on the lines, and each is read where the one before it has ended. -/
theorem bytes_lines (source : List Written) (number : Nat) :
    bytes number (Text.lines (['\n'].intercalate (source.map toLine))) =
      .ok (source.filterMap byte?) := by
  induction source generalizing number with
  | nil => rfl
  | cons w rest ih =>
    cases rest with
    | nil =>
      rw [List.map_singleton, List.intercalate_singleton, Text.lines_of_body w.one_line,
        bytes_of_last, w.bytes_cons (Or.inl rfl)]
      cases w <;> rfl
    | cons next more =>
      rw [List.map_cons, List.map_cons, List.intercalate_cons_cons, List.append_assoc,
        List.singleton_append, Text.lines_line w.one_line, w.bytes_cons (Or.inr rfl),
        ← List.map_cons, ih]
      cases w <;> rfl

end Written

end Source

/-! ## What is loaded -/

namespace Program

open Source

variable {text : String} {e : ProgramError}

theorem ofText_of_grammar
    (well_formed : ∀ line ∈ standing (Text.lines text.toList), IsWellFormed line) :
    ofText text = ofImage ((standing (Text.lines text.toList)).map byteOf) := by
  change bytes 1 (Text.lines text.toList) >>= ofImage = _
  rw [bytes_of_grammar (all_inGrammar_iff.mpr well_formed)]
  rfl

theorem ofText_of_first_error (first : IsFirstError 1 (Text.lines text.toList) e) :
    ofText text = .error e := by
  change bytes 1 (Text.lines text.toList) >>= ofImage = _
  rw [bytes_of_first_error first]
  rfl

theorem not_grammar_of_first_error {lines : List (List Char)} (first : IsFirstError 1 lines e) :
    ¬ ∀ line ∈ standing lines, IsWellFormed line := by
  obtain ⟨before, bad, after, rfl, -, outside, -⟩ := first
  intro well_formed
  exact outside (all_inGrammar_iff.mpr well_formed bad (by simp))

theorem ofText_eq_ok_iff {p : Program} :
    ofText text = .ok p ↔
      (∀ line ∈ standing (Text.lines text.toList), IsWellFormed line) ∧
        p.image = (standing (Text.lines text.toList)).map byteOf := by
  by_cases well_formed : ∀ line ∈ standing (Text.lines text.toList), IsWellFormed line
  · rw [ofText_of_grammar well_formed, ofImage_eq_ok_iff]
    exact ⟨fun image => ⟨well_formed, image⟩, fun both => both.2⟩
  · obtain ⟨e, first⟩ := exists_first_error 1 (mt all_inGrammar_iff.mp well_formed)
    rw [ofText_of_first_error first]
    constructor
    · intro same
      cases same
    · exact fun both => absurd both.1 well_formed

theorem ofText_eq_error_iff :
    ofText text = .error e ↔
      IsFirstError 1 (Text.lines text.toList) e ∨
        (∀ line ∈ standing (Text.lines text.toList), IsWellFormed line) ∧
          256 < (standing (Text.lines text.toList)).length ∧
          e = .tooLarge (standing (Text.lines text.toList)).length := by
  by_cases well_formed : ∀ line ∈ standing (Text.lines text.toList), IsWellFormed line
  · rw [ofText_of_grammar well_formed, ofImage_eq_error_iff, List.length_map]
    constructor
    · exact fun large => Or.inr ⟨well_formed, large⟩
    · rintro (first | large)
      · exact absurd well_formed (not_grammar_of_first_error first)
      · exact large.2
  · obtain ⟨other, first⟩ := exists_first_error 1 (mt all_inGrammar_iff.mp well_formed)
    constructor
    · intro same
      rw [ofText_of_first_error first, Except.error.injEq] at same
      exact Or.inl (same ▸ first)
    · rintro (first | large)
      · exact ofText_of_first_error first
      · exact absurd large.1 well_formed

theorem map_toNat_byteOf (lines : List (List Char)) :
    (lines.map byteOf).map UInt8.toNat = lines.map value := by
  rw [List.map_map]
  exact List.map_congr_left fun line _ => toNat_byteOf line

theorem image_eq_iff {image : List Byte} {lines : List (List Char)} :
    image = lines.map byteOf ↔ image.map UInt8.toNat = lines.map value := by
  rw [← map_toNat_byteOf]
  constructor
  · rintro rfl
    rfl
  · exact fun same => List.map_injective_iff.mpr (fun _ _ => UInt8.toNat_inj.mp) same

theorem exists_program_iff :
    (∃ p, ofText text = .ok p) ↔
      (∀ line ∈ standing (Text.lines text.toList), IsWellFormed line) ∧
        (standing (Text.lines text.toList)).length ≤ 256 := by
  constructor
  · rintro ⟨p, loaded⟩
    obtain ⟨well_formed, image⟩ := ofText_eq_ok_iff.mp loaded
    have fits := p.fits
    rw [image, List.length_map] at fits
    exact ⟨well_formed, fits⟩
  · rintro ⟨well_formed, fits⟩
    refine ⟨⟨(standing (Text.lines text.toList)).map byteOf, by rwa [List.length_map]⟩, ?_⟩
    exact ofText_eq_ok_iff.mpr ⟨well_formed, rfl⟩

theorem ofText_eq_invalidByte_iff {number : Nat} {line : String} :
    ofText text = .error (.invalidByte number line) ↔
      ∃ before bad after, Text.lines text.toList = before ++ bad :: after ∧
        (∀ earlier ∈ standing before, IsWellFormed earlier) ∧
        StandsForByte bad ∧ ¬ IsWellFormed bad ∧
        number = before.length + 1 ∧ line = String.ofList bad := by
  rw [ofText_eq_error_iff]
  constructor
  · rintro (⟨before, bad, after, cut, grammar, outside, same⟩ | ⟨-, -, same⟩)
    · obtain ⟨stands, ill_formed⟩ := Classical.not_imp.mp outside
      rw [ProgramError.invalidByte.injEq, Nat.add_comm] at same
      exact ⟨before, bad, after, cut, all_inGrammar_iff.mp grammar, stands, ill_formed, same⟩
    · cases same
  · rintro ⟨before, bad, after, cut, grammar, stands, ill_formed, rfl, rfl⟩
    refine Or.inl ⟨before, bad, after, cut, all_inGrammar_iff.mpr grammar, ?_, ?_⟩
    · exact fun inside => ill_formed (inside stands)
    · rw [Nat.add_comm]

theorem ofText_eq_tooLarge_iff {count : Nat} :
    ofText text = .error (.tooLarge count) ↔
      (∀ line ∈ standing (Text.lines text.toList), IsWellFormed line) ∧
        256 < (standing (Text.lines text.toList)).length ∧
        count = (standing (Text.lines text.toList)).length := by
  rw [ofText_eq_error_iff]
  constructor
  · rintro (⟨before, bad, after, -, -, -, same⟩ | ⟨well_formed, large, same⟩)
    · cases same
    · exact ⟨well_formed, large, ProgramError.tooLarge.inj same⟩
  · rintro ⟨well_formed, large, rfl⟩
    exact Or.inr ⟨well_formed, large, rfl⟩

/-- Lines that are written out make the program of their bytes. -/
theorem ofText_written (source : List Written) :
    ofText (Written.text source) = ofImage (source.filterMap Written.byte?) := by
  change bytes 1 (Text.lines (Written.text source).toList) >>= ofImage = _
  rw [Written.text, String.toList_ofList, Written.bytes_lines source 1]
  rfl

/-! ## The law -/

/-- A text is a program if and only if the lines that stand for bytes are well formed and no more
than 256, and their numbers in base two are its bytes. Else the first line that is not well formed
is the error, and only where there is none the number of bytes. So the eight digits of the bytes
of a program, each with any tail and with any other lines between, are that program. -/
theorem the_loader_accepts_exactly_its_grammar (text : String) :
    let lines := Text.lines text.toList
    ((∃ p, ofText text = .ok p) ↔
      (∀ line ∈ standing lines, IsWellFormed line) ∧ (standing lines).length ≤ 256) ∧
    (∀ p, ofText text = .ok p ↔
      (∀ line ∈ standing lines, IsWellFormed line) ∧
        p.image.map UInt8.toNat = (standing lines).map value) ∧
    (∀ line ∈ standing lines, value line ≤ 255) ∧
    (∀ number line, ofText text = .error (.invalidByte number line) ↔
      ∃ before bad after, lines = before ++ bad :: after ∧
        (∀ earlier ∈ standing before, IsWellFormed earlier) ∧
        StandsForByte bad ∧ ¬ IsWellFormed bad ∧
        number = before.length + 1 ∧ line = String.ofList bad) ∧
    (∀ count, ofText text = .error (.tooLarge count) ↔
      (∀ line ∈ standing lines, IsWellFormed line) ∧
        256 < (standing lines).length ∧ count = (standing lines).length) ∧
    ∀ (source : List Written) (p : Program), source.filterMap Written.byte? = p.image →
      ofText (Written.text source) = .ok p := by
  intro lines
  refine ⟨exists_program_iff, ?_, ?_, ?_, ?_, ?_⟩
  · intro p
    rw [ofText_eq_ok_iff, image_eq_iff]
  · intro line _
    exact Nat.le_of_lt_succ (value_lt line)
  · exact fun number line => ofText_eq_invalidByte_iff
  · exact fun count => ofText_eq_tooLarge_iff
  · intro source p image
    rw [ofText_written, image]
    exact ofImage_eq_ok_iff.mpr rfl

/-- The text behind eight digits may begin with anything, and a line may be only a remark. -/
theorem a_written_program_is_loaded :
    ofText "10000010LDI\n# R0\r\n00000000\t\n\n00000001" = .ok ⟨[130, 0, 1], by decide⟩ := by
  let source : List Written :=
    [.byte 130 "LDI".toList (by decide), .remark "# R0\r".toList (by decide) (by decide),
      .byte 0 ['\t'] (by decide), .remark [] (by decide) (by decide), .byte 1 [] (by decide)]
  have spelled : Written.text source = "10000010LDI\n# R0\r\n00000000\t\n\n00000001" := by
    decide +kernel
  obtain ⟨-, -, -, -, -, written⟩ := the_loader_accepts_exactly_its_grammar ""
  rw [← spelled]
  exact written source ⟨[130, 0, 1], by decide⟩ rfl

/-- The number counts all lines, and the text is the whole line. -/
example : ofText "00000001\n# x\n10    #2\n2\n" = .error (.invalidByte 3 "10    #2") := by
  decide +kernel

end Program

end LS8
