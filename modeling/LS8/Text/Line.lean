-- A text cut into lines. A line feed ends a line, and a carriage return right
-- before it belongs to the ending. The last line may have no ending, and there is
-- no empty line behind a line feed that ends the text.

namespace LS8.Text

/-- The text cut behind every line feed. -/
def pieces (text : List Char) : List (List Char) :=
  text.foldr
    (fun c rest =>
      if c = '\n' then [c] :: rest
      else match rest with
        | [] => [[c]]
        | piece :: more => (c :: piece) :: more)
    []

/-- The piece without its line ending. -/
def withoutEnding (piece : List Char) : List Char :=
  match piece.reverse with
  | '\n' :: '\r' :: rest => rest.reverse
  | '\n' :: rest => rest.reverse
  | _ => piece

def lines (text : List Char) : List (List Char) := (pieces text).map withoutEnding

/-! ## Cutting loses nothing -/

@[simp] theorem pieces_nil : pieces [] = [] := rfl

theorem pieces_newline (rest : List Char) : pieces ('\n' :: rest) = ['\n'] :: pieces rest := by
  simp [pieces]

theorem pieces_cons {c : Char} (h : c ≠ '\n') (rest : List Char) :
    pieces (c :: rest) = match pieces rest with
      | [] => [[c]]
      | piece :: more => (c :: piece) :: more := by
  simp [pieces, h]

/-- The pieces in a row are the text. -/
theorem pieces_flatten (text : List Char) : (pieces text).flatten = text := by
  induction text with
  | nil => rfl
  | cons c rest ih =>
    by_cases h : c = '\n'
    · subst h
      rw [pieces_newline, List.flatten_cons, ih]
      rfl
    · rw [pieces_cons h]
      cases hp : pieces rest with
      | nil =>
        rw [hp] at ih
        simp only [List.flatten_nil] at ih
        simp [← ih]
      | cons piece more =>
        rw [hp] at ih
        simpa using ih

/-- Behind a line feed the cutting starts afresh. -/
theorem pieces_append (a b : List Char) :
    pieces (a ++ '\n' :: b) = pieces (a ++ ['\n']) ++ pieces b := by
  induction a with
  | nil =>
    rw [List.nil_append, List.nil_append, pieces_newline, pieces_newline]
    rfl
  | cons c rest ih =>
    rw [List.cons_append, List.cons_append]
    by_cases h : c = '\n'
    · subst h
      rw [pieces_newline, pieces_newline, ih]
      rfl
    · rw [pieces_cons h, pieces_cons h, ih]
      cases hp : pieces (rest ++ ['\n']) with
      | nil =>
        have := pieces_flatten (rest ++ ['\n'])
        rw [hp] at this
        simp at this
      | cons piece more => rfl

/-! ## The lines of a text -/

/-- What stays of a line that ends in a line feed. -/
def withoutReturn (body : List Char) : List Char :=
  if body.getLast? = some '\r' then body.dropLast else body

/-- A text is a last line without an ending, or a line that a line feed ends and a text. -/
@[elab_as_elim]
theorem line_induction {P : List Char → Prop} (last : ∀ body, '\n' ∉ body → P body)
    (line : ∀ body rest, '\n' ∉ body → P rest → P (body ++ '\n' :: rest)) (text : List Char) :
    P text := by
  by_cases h : '\n' ∈ text
  · obtain ⟨body, rest, cut, free⟩ := List.eq_append_cons_of_mem h
    have shorter : rest.length < text.length := by
      simp only [cut, List.length_append, List.length_cons]
      omega
    rw [cut]
    exact line body rest free (line_induction last line rest)
  · exact last text h
termination_by text.length

theorem withoutEnding_of_body {body : List Char} (h : '\n' ∉ body) :
    withoutEnding body = body := by
  unfold withoutEnding
  split
  · rename_i reversed
    exact absurd (List.mem_reverse.mp (reversed ▸ List.mem_cons_self)) h
  · rename_i reversed
    exact absurd (List.mem_reverse.mp (reversed ▸ List.mem_cons_self)) h
  · rfl

theorem withoutEnding_line (body : List Char) :
    withoutEnding (body ++ ['\n']) = withoutReturn body := by
  unfold withoutEnding withoutReturn
  rw [List.reverse_append]
  cases hr : body.reverse with
  | nil =>
    have : body = [] := by simpa using hr
    subst this
    rfl
  | cons c rest =>
    have body_eq : body = rest.reverse ++ [c] := by
      have := congrArg List.reverse hr
      rwa [List.reverse_reverse, List.reverse_cons] at this
    subst body_eq
    by_cases h : c = '\r'
    · subst h
      simp
    · simp [h]

theorem pieces_of_body {body : List Char} (h : '\n' ∉ body) :
    pieces body = if body = [] then [] else [body] := by
  induction body with
  | nil => rfl
  | cons c rest ih =>
    simp only [List.mem_cons, not_or] at h
    rw [pieces_cons (Ne.symm h.1), ih h.2]
    cases rest <;> rfl

theorem pieces_line {body : List Char} (h : '\n' ∉ body) :
    pieces (body ++ ['\n']) = [body ++ ['\n']] := by
  induction body with
  | nil => rfl
  | cons c rest ih =>
    simp only [List.mem_cons, not_or] at h
    rw [List.cons_append, pieces_cons (Ne.symm h.1), ih h.2]

/-- A text without a line feed is one line as it stands, if it is anything. -/
theorem lines_of_body {body : List Char} (h : '\n' ∉ body) :
    lines body = if body = [] then [] else [body] := by
  unfold lines
  rw [pieces_of_body h]
  split
  · rfl
  · rw [List.map_singleton, withoutEnding_of_body h]

/-- Behind a line feed the lines start afresh. -/
theorem lines_append (a b : List Char) :
    lines (a ++ '\n' :: b) = lines (a ++ ['\n']) ++ lines b := by
  unfold lines
  rw [pieces_append, List.map_append]

/-- The first line feed ends the first line. -/
theorem lines_line {body : List Char} (h : '\n' ∉ body) (rest : List Char) :
    lines (body ++ '\n' :: rest) = withoutReturn body :: lines rest := by
  rw [lines_append]
  unfold lines
  rw [pieces_line h, List.map_singleton, withoutEnding_line, List.singleton_append]

/-- A text that ends in a line feed has as many lines as line feeds. -/
theorem length_lines (a : List Char) :
    (lines (a ++ ['\n'])).length = (a ++ ['\n']).count '\n' := by
  induction a using line_induction with
  | last body h =>
    rw [lines_line h, List.count_append, List.count_eq_zero_of_not_mem h]
    rfl
  | line body rest h ih =>
    have count : (body ++ '\n' :: (rest ++ ['\n'])).count '\n' =
        (rest ++ ['\n']).count '\n' + 1 := by
      rw [List.count_append, List.count_eq_zero_of_not_mem h, List.count_cons_self, Nat.zero_add]
    rw [List.append_assoc, List.cons_append, lines_line h, List.length_cons, ih, count]

/-! ## Carriage returns -/

theorem withoutReturn_of_free {body : List Char} (h : '\r' ∉ body) : withoutReturn body = body := by
  unfold withoutReturn
  rw [if_neg]
  intro last
  exact h (List.mem_of_getLast? last)

@[simp] theorem withoutReturn_return (body : List Char) :
    withoutReturn (body ++ ['\r']) = body := by
  simp [withoutReturn]

theorem withoutReturn_append {a : List Char} (h : '\r' ∉ a) (b : List Char) :
    withoutReturn (a ++ b) = a ++ withoutReturn b := by
  cases b with
  | nil =>
    have nothing : withoutReturn [] = [] := rfl
    rw [nothing, List.append_nil, withoutReturn_of_free h]
  | cons c rest =>
    have last : (a ++ c :: rest).getLast? = (c :: rest).getLast? := by
      simp [List.getLast?_append, List.getLast?_cons]
    unfold withoutReturn
    rw [last]
    split
    · rw [List.dropLast_append_of_ne_nil (List.cons_ne_nil c rest)]
    · rfl

theorem withoutReturn_prefix (body : List Char) : withoutReturn body <+: body := by
  unfold withoutReturn
  split
  · exact List.dropLast_prefix body
  · exact List.prefix_refl body

end LS8.Text
