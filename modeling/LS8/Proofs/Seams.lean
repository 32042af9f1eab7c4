-- Texts put one behind the other, and the two endings of a line. Behind a line feed a text is read
-- as if it stood alone, but its lines are counted on. A carriage return before a line feed belongs
-- to the ending, so it changes nothing.
import LS8.Proofs.Grammar

namespace LS8

namespace Text

/-! ## Carriage returns before line feeds -/

/-- The text with a carriage return before every line feed. -/
def withReturns (text : List Char) : List Char :=
  text.flatMap fun c => if c = '\n' then ['\r', '\n'] else [c]

theorem withReturns_of_body {body : List Char} (h : '\n' ∉ body) : withReturns body = body := by
  induction body with
  | nil => rfl
  | cons c rest ih =>
    simp only [List.mem_cons, not_or] at h
    rw [withReturns, List.flatMap_cons, if_neg (Ne.symm h.1)]
    exact congrArg (c :: ·) (ih h.2)

theorem withReturns_line {body : List Char} (h : '\n' ∉ body) (rest : List Char) :
    withReturns (body ++ '\n' :: rest) = (body ++ ['\r']) ++ '\n' :: withReturns rest := by
  have unchanged := withReturns_of_body h
  unfold withReturns at unchanged ⊢
  rw [List.flatMap_append, unchanged, List.flatMap_cons, if_pos rfl]
  simp

/-- Both endings make the same lines. -/
theorem lines_withReturns {text : List Char} (h : '\r' ∉ text) :
    lines (withReturns text) = lines text := by
  induction text using line_induction with
  | last body free => rw [withReturns_of_body free]
  | line body rest free ih =>
    simp only [List.mem_append, List.mem_cons, not_or] at h
    have free' : '\n' ∉ body ++ ['\r'] := by simp [free]
    rw [withReturns_line free, lines_line free', lines_line free, withoutReturn_return,
      withoutReturn_of_free h.1, ih h.2.2]

end Text

namespace Source

/-! ## A text behind a text -/

variable {a b : List Char} {number : Nat} {lines more : List (List Char)} {e : ProgramError}
  {x y : List Byte}

/-- The first error stays the first, whatever follows. -/
theorem IsFirstError.append (first : IsFirstError number lines e) (more : List (List Char)) :
    IsFirstError number (lines ++ more) e := by
  obtain ⟨before, line, after, rfl, grammar, bad, same⟩ := first
  exact ⟨before, line, after ++ more, by simp, grammar, bad, same⟩

/-- Lines of the grammar in front move its number on. -/
theorem IsFirstError.behind (first : IsFirstError number more e)
    (grammar : ∀ line ∈ lines, InGrammar line) :
    ∃ l t, e = .invalidByte l t ∧
      IsFirstError number (lines ++ more) (.invalidByte (l + lines.length) t) := by
  obtain ⟨before, line, after, rfl, earlier, bad, same⟩ := first
  refine ⟨_, _, same, lines ++ before, line, after, by simp, ?_, bad, ?_⟩
  · intro l member
    rcases List.mem_append.mp member with front | back
    · exact grammar l front
    · exact earlier l back
  · rw [List.length_append, Nat.add_assoc, Nat.add_comm before.length]

theorem image_append_of_error (failed : image (a ++ ['\n']) = .error e) :
    image (a ++ '\n' :: b) = .error e := by
  unfold image at failed ⊢
  rw [Text.lines_append]
  exact bytes_eq_error_iff.mpr ((bytes_eq_error_iff.mp failed).append _)

theorem image_append_of_error_behind (read : image (a ++ ['\n']) = .ok x)
    (failed : image b = .error e) :
    ∃ l t, e = .invalidByte l t ∧
      image (a ++ '\n' :: b) = .error (.invalidByte (l + (a ++ ['\n']).count '\n') t) := by
  unfold image at read failed ⊢
  obtain ⟨l, t, same, first⟩ :=
    (bytes_eq_error_iff.mp failed).behind (bytes_eq_ok_iff.mp read).1
  refine ⟨l, t, same, ?_⟩
  rw [Text.lines_append, ← Text.length_lines]
  exact bytes_eq_error_iff.mpr first

theorem image_append_of_ok (read : image (a ++ ['\n']) = .ok x) (behind : image b = .ok y) :
    image (a ++ '\n' :: b) = .ok (x ++ y) := by
  unfold image at read behind ⊢
  obtain ⟨grammar, rfl⟩ := bytes_eq_ok_iff.mp read
  obtain ⟨grammar_behind, rfl⟩ := bytes_eq_ok_iff.mp behind
  rw [Text.lines_append, bytes_append_of_grammar grammar, bytes_of_grammar grammar_behind]
  rfl

/-- The image depends on the lines only. -/
theorem image_withReturns (h : '\r' ∉ a) : image (Text.withReturns a) = image a := by
  unfold image
  rw [Text.lines_withReturns h]

end Source

/-! ## The law -/

namespace Program

/-- Where a text that ends in a line feed has an error, so does every longer text, and the same.
Where it has none, an error behind it is counted on by its line feeds, and the image behind it
comes behind its image. And a text without carriage returns is the same program with one before
every line feed. -/
theorem texts_concatenate_and_line_endings_do_not_matter (a b : String) :
    let front := a ++ "\n"
    (∀ e, Source.image front.toList = .error e → Source.image (front ++ b).toList = .error e) ∧
    (∀ x e, Source.image front.toList = .ok x → Source.image b.toList = .error e →
      ∃ l t, e = .invalidByte l t ∧
        Source.image (front ++ b).toList = .error (.invalidByte (l + front.toList.count '\n') t)) ∧
    (∀ x y, Source.image front.toList = .ok x → Source.image b.toList = .ok y →
      Source.image (front ++ b).toList = .ok (x ++ y)) ∧
    ∀ text : String, '\r' ∉ text.toList →
      ofText (String.ofList (Text.withReturns text.toList)) = ofText text := by
  intro front
  have ending : front.toList = a.toList ++ ['\n'] := String.toList_append
  have whole : (front ++ b).toList = a.toList ++ '\n' :: b.toList := by
    rw [String.toList_append, ending, List.append_assoc, List.singleton_append]
  rw [ending, whole]
  refine ⟨?_, ?_, ?_, ?_⟩
  · exact fun e failed => Source.image_append_of_error failed
  · exact fun x e read failed => Source.image_append_of_error_behind read failed
  · exact fun x y read behind => Source.image_append_of_ok read behind
  · intro text free
    unfold ofText
    rw [String.toList_ofList, Source.image_withReturns free]

/-- A carriage return before the seam and a remark count as they would in one text. -/
theorem an_error_behind_a_seam_is_counted_on :
    Source.image "1\n# x\r\n".toList = .ok [1] ∧
      Source.image "\n10x".toList = .error (.invalidByte 2 "10x") ∧
      Source.image "1\n# x\r\n\n10x".toList = .error (.invalidByte 4 "10x") := by
  have read : Source.image "1\n# x\r\n".toList = .ok [1] := by decide +kernel
  have failed : Source.image "\n10x".toList = .error (.invalidByte 2 "10x") := by decide +kernel
  refine ⟨read, failed, ?_⟩
  obtain ⟨-, behind, -⟩ :=
    texts_concatenate_and_line_endings_do_not_matter "1\n# x\r" "\n10x"
  obtain ⟨l, t, same, whole⟩ := behind _ _ read failed
  cases same
  exact whole

end Program

end LS8
