-- Steps that open and close like brackets. A closing step matches the last opening
-- step before it that is not matched yet, so the openings without a match are kept
-- as a stack, the last of them in front.
import Mathlib.Data.List.Sort

namespace LS8

/-- What a step does to the nesting. -/
inductive BracketKind
  | opening
  | closing
  | neither
  deriving DecidableEq

namespace BracketKind

variable (w : Nat → BracketKind)

/-- The number of openings among the first `k` steps. -/
def openings (k : Nat) : Nat := (List.range k).countP fun j => w j = .opening

/-- The number of closings among the first `k` steps. -/
def closings (k : Nat) : Nat := (List.range k).countP fun j => w j = .closing

/-- How deep the first `k` steps lead into the nesting. -/
def depth (k : Nat) : Int := openings w k - closings w k

/-- No prefix of the first `k` steps has more closings than openings. -/
def Nested (k : Nat) : Prop := ∀ j ≤ k, closings w j ≤ openings w j

instance (k : Nat) : Decidable (Nested w k) :=
  inferInstanceAs (Decidable (∀ j ≤ k, closings w j ≤ openings w j))

/-- Step `i` opens, step `j` closes, and what stands between them is nested and balanced. -/
def Matches (i j : Nat) : Prop :=
  i < j ∧ w i = .opening ∧ w j = .closing ∧ depth w (i + 1) = depth w j ∧
    ∀ l ≤ j, i < l → depth w (i + 1) ≤ depth w l

instance (i j : Nat) : Decidable (Matches w i j) :=
  inferInstanceAs (Decidable (_ ∧ _ ∧ _ ∧ _ ∧ ∀ l ≤ j, i < l → depth w (i + 1) ≤ depth w l))

/-- The openings among the first `k` steps without a match among them, the last one in front. -/
def unmatched (k : Nat) : List Nat :=
  (List.range k).reverse.filter fun i => w i = .opening ∧ ∀ l < k, ¬Matches w i l

/-- The openings that are kept while the first `k` steps are read: a closing drops the last. -/
def pending : Nat → List Nat
  | 0 => []
  | k + 1 =>
    match w k with
    | .opening => k :: pending k
    | .closing => (pending k).tail
    | .neither => pending k

variable {w} {i j k l : Nat} {rest : List Nat}

theorem Nested.mono (nested : Nested w k) (le : j ≤ k) : Nested w j := fun l hl =>
  nested l (Nat.le_trans hl le)

/-! ## One more step -/

theorem openings_succ : openings w (k + 1) = openings w k + if w k = .opening then 1 else 0 := by
  simp [openings, List.range_succ, List.countP_append, List.countP_singleton]

theorem closings_succ : closings w (k + 1) = closings w k + if w k = .closing then 1 else 0 := by
  simp [closings, List.range_succ, List.countP_append, List.countP_singleton]

theorem depth_of_opening (h : w k = .opening) : depth w (k + 1) = depth w k + 1 := by
  simp only [depth, openings_succ, closings_succ, h]
  simp
  omega

theorem pending_of_opening (h : w k = .opening) : pending w (k + 1) = k :: pending w k := by
  simp [pending, h]

theorem pending_of_closing (h : w k = .closing) : pending w (k + 1) = (pending w k).tail := by
  simp [pending, h]

theorem pending_of_neither (h : w k = .neither) : pending w (k + 1) = pending w k := by
  simp [pending, h]

/-- While no closing is too many, as many openings are pending as the nesting is deep. -/
theorem length_pending (nested : Nested w k) :
    (pending w k).length + closings w k = openings w k := by
  induction k with
  | zero => rfl
  | succ k ih =>
    have before := ih (nested.mono (Nat.le_succ k))
    have now := nested (k + 1) le_rfl
    rw [openings_succ, closings_succ] at now ⊢
    cases h : w k with
    | opening =>
      simp only [pending_of_opening h, List.length_cons]
      simp
      omega
    | closing =>
      simp only [h] at now
      simp only [pending_of_closing h, List.length_tail]
      simp at now ⊢
      omega
    | neither =>
      simp only [pending_of_neither h]
      simpa using before

theorem depth_eq_length (nested : Nested w k) : depth w k = (pending w k).length := by
  have := length_pending nested
  unfold depth
  omega

/-- A closing that is not too many finds an opening to close. -/
theorem pending_of_next_closing (nested : Nested w (k + 1)) (h : w k = .closing) :
    ∃ i rest, pending w k = i :: rest := by
  have before := length_pending (nested.mono (Nat.le_succ k))
  have now := nested (k + 1) le_rfl
  rw [openings_succ, closings_succ] at now
  simp only [h] at now
  simp at now
  exact List.exists_cons_of_length_pos (by omega)

/-! ## The pending openings -/

theorem of_mem_pending (h : i ∈ pending w k) : i < k ∧ w i = .opening := by
  induction k with
  | zero => simp [pending] at h
  | succ k ih =>
    have old : i ∈ pending w k → i < k + 1 ∧ w i = .opening := fun hi =>
      ⟨Nat.lt_succ_of_lt (ih hi).1, (ih hi).2⟩
    cases hk : w k with
    | opening =>
      rw [pending_of_opening hk] at h
      rcases List.mem_cons.mp h with rfl | hi
      · exact ⟨Nat.lt_succ_self i, hk⟩
      · exact old hi
    | closing =>
      rw [pending_of_closing hk] at h
      exact old (List.mem_of_mem_tail h)
    | neither =>
      rw [pending_of_neither hk] at h
      exact old h

theorem sortedGT_pending (w : Nat → BracketKind) (k : Nat) : (pending w k).SortedGT := by
  induction k with
  | zero => exact List.Pairwise.sortedGT List.Pairwise.nil
  | succ k ih =>
    cases hk : w k with
    | opening =>
      rw [pending_of_opening hk]
      exact (List.pairwise_cons.mpr ⟨fun i hi => (of_mem_pending hi).1, ih.pairwise⟩).sortedGT
    | closing =>
      rw [pending_of_closing hk]
      exact (ih.pairwise.tail).sortedGT
    | neither =>
      rw [pending_of_neither hk]
      exact ih

/-- While an opening is pending, so is everything that was pending when it came. -/
theorem pending_since (h : (i :: rest) <:+ pending w k) (lt : i < l) (le : l ≤ k) :
    (i :: rest) <:+ pending w l := by
  induction k with
  | zero => omega
  | succ k ih =>
    rcases Nat.lt_or_eq_of_le le with before | rfl
    · refine ih ?_ (by omega)
      cases hk : w k with
      | opening =>
        rw [pending_of_opening hk, List.suffix_cons_iff] at h
        rcases h with same | inner
        · have : i = k := (List.cons.inj same).1
          omega
        · exact inner
      | closing =>
        rw [pending_of_closing hk] at h
        exact h.trans (List.tail_suffix _)
      | neither =>
        rw [pending_of_neither hk] at h
        exact h
    · exact h

theorem pending_behind (h : pending w k = i :: rest) : pending w (i + 1) = i :: rest := by
  obtain ⟨lt, opens⟩ := of_mem_pending (h ▸ List.mem_cons_self)
  have whole : (i :: rest) <:+ pending w k := h ▸ List.suffix_rfl
  have since := pending_since whole (Nat.lt_succ_self i) lt
  rw [pending_of_opening opens, List.suffix_cons_iff] at since
  rcases since with same | inner
  · rw [pending_of_opening opens, same]
  · have := (of_mem_pending (inner.subset List.mem_cons_self)).1
    omega

/-! ## Matches -/

/-- A closing matches the last pending opening. -/
theorem matches_head (nested : Nested w k) (closes : w k = .closing)
    (h : pending w k = i :: rest) : Matches w i k := by
  obtain ⟨lt, opens⟩ := of_mem_pending (h ▸ List.mem_cons_self)
  have deep : depth w (i + 1) = rest.length + 1 := by
    rw [depth_eq_length (nested.mono lt), pending_behind h]
    rfl
  refine ⟨lt, opens, closes, ?_, fun l le after => ?_⟩
  · rw [deep, depth_eq_length nested, h]
    rfl
  · have whole : (i :: rest) <:+ pending w k := h ▸ List.suffix_rfl
    have since := (pending_since whole after le).length_le
    rw [deep, depth_eq_length (nested.mono le)]
    simp only [List.length_cons] at since
    omega

/-- A closing has only one match. -/
theorem Matches.unique (hi : Matches w i k) (hj : Matches w j k) : i = j := by
  -- of two, the later would open inside the earlier, one level too deep to close with it
  have later : ∀ {i j}, Matches w i k → Matches w j k → ¬i < j := by
    rintro i j ⟨_, _, _, outer, lowest⟩ ⟨lt, opens, _, inner, _⟩ before
    have := lowest j (Nat.le_of_lt lt) before
    have := depth_of_opening opens
    omega
  have := later hi hj
  have := later hj hi
  omega

/-- A step adds itself if it opens, and takes away what it matches. -/
theorem mem_pending_succ_iff (nested : Nested w (k + 1)) :
    i ∈ pending w (k + 1) ↔ (i = k ∧ w k = .opening) ∨ (i ∈ pending w k ∧ ¬Matches w i k) := by
  have no_match : w k ≠ .closing → ¬Matches w i k := fun h m => h m.2.2.1
  cases hk : w k with
  | opening => simp [pending_of_opening hk, no_match (by simp [hk])]
  | neither => simp [pending_of_neither hk, no_match (by simp [hk])]
  | closing =>
    obtain ⟨h, rest, eq⟩ := pending_of_next_closing nested hk
    have matched := matches_head (nested.mono (Nat.le_succ k)) hk eq
    have sorted := (sortedGT_pending w k).pairwise
    rw [eq, List.pairwise_cons] at sorted
    simp only [pending_of_closing hk, eq, List.tail_cons, List.mem_cons, reduceCtorEq, and_false,
      false_or]
    constructor
    · intro hi
      refine ⟨Or.inr hi, fun m => ?_⟩
      have := sorted.1 i hi
      have := m.unique matched
      omega
    · rintro ⟨rfl | hi, unmatched⟩
      · exact absurd matched unmatched
      · exact hi

/-- Pending are the openings that no step has closed. -/
theorem mem_pending_iff (nested : Nested w k) :
    i ∈ pending w k ↔ i < k ∧ w i = .opening ∧ ∀ l < k, ¬Matches w i l := by
  induction k with
  | zero => simp [pending]
  | succ k ih =>
    rw [mem_pending_succ_iff nested, ih (nested.mono (Nat.le_succ k)), Nat.forall_lt_succ_right]
    constructor
    · rintro (⟨rfl, opens⟩ | ⟨⟨lt, opens, none⟩, open_still⟩)
      · have ahead : ∀ l ≤ i, ¬Matches w i l := fun l le m => by
          have := m.1
          omega
        exact ⟨Nat.lt_succ_self i, opens, fun l hl => ahead l (Nat.le_of_lt hl), ahead i le_rfl⟩
      · exact ⟨Nat.lt_succ_of_lt lt, opens, none, open_still⟩
    · rintro ⟨lt, opens, none, open_still⟩
      rcases Nat.lt_succ_iff_lt_or_eq.mp lt with old | rfl
      · exact Or.inr ⟨⟨old, opens, none⟩, open_still⟩
      · exact Or.inl ⟨rfl, opens⟩

/-- The stack of pending openings is the list of the unmatched ones. -/
theorem pending_eq_unmatched (nested : Nested w k) : pending w k = unmatched w k := by
  refine (sortedGT_pending w k).eq_of_mem_iff ?_ fun i => ?_
  · exact ((List.pairwise_reverse.mpr List.pairwise_lt_range).filter _).sortedGT
  · rw [mem_pending_iff nested]
    simp [unmatched]

end BracketKind

end LS8
