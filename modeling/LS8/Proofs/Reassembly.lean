-- Reading a program and putting it together again. The entries of a listing stand one
-- behind the other from address 0 on and lose no byte, so their bytes in a row are the
-- image, and a row of instructions is listed as just those instructions.
import LS8.Proofs.ListingText
import LS8.Proofs.Placement
import Mathlib.Algebra.Ring.Nat

namespace LS8

/-! ## One entry -/

namespace Entry

variable {memory : Memory} {pc : Byte} {i : Instruction}

/-- An instruction is listed exactly where its bytes stand. -/
theorem read_eq_instruction_iff :
    Entry.read memory pc = .instruction i ↔ i.encode <+: memory.onward pc.toNat := by
  rw [← Instruction.decode_eq_ok_iff_encode, Entry.read]
  cases Instruction.decode memory pc <;> simp

/-- A byte is listed by itself exactly where no instruction can be decoded. -/
theorem read_eq_byte_iff {b : Byte} : Entry.read memory pc = .byte b ↔
    memory.read pc = b ∧ ∃ f, Instruction.decode memory pc = .error f := by
  rw [Entry.read]
  cases Instruction.decode memory pc <;> simp

/-- An entry has the bytes that stand at its address. -/
theorem bytes_read_prefix : (Entry.read memory pc).bytes <+: memory.onward pc.toNat := by
  cases h : Entry.read memory pc with
  | instruction i => exact read_eq_instruction_iff.mp h
  | byte b =>
    obtain ⟨here, -⟩ := read_eq_byte_iff.mp h
    refine cons_prefix_iff.mpr ⟨?_, List.nil_prefix⟩
    rw [Memory.getElem?_onward_zero, here]

theorem size_le_three (e : Entry) : e.size ≤ 3 := by
  cases e with
  | instruction i => exact i.width_le_three
  | byte b => exact (by decide : 1 ≤ 3)

end Entry

/-! ## The walk over the memory -/

/-- The bytes that the entries of a listing stand for, one behind the other. -/
def listedBytes (listing : List (Byte × Entry)) : List Byte := listing.flatMap (·.2.bytes)

@[simp] theorem listedBytes_nil : listedBytes [] = [] := rfl

@[simp] theorem listedBytes_cons (line : Byte × Entry) (rest : List (Byte × Entry)) :
    listedBytes (line :: rest) = line.2.bytes ++ listedBytes rest := rfl

theorem listedBytes_take_succ {listing : List (Byte × Entry)} {k : Nat} (h : k < listing.length) :
    listedBytes (listing.take (k + 1)) = listedBytes (listing.take k) ++ listing[k].2.bytes := by
  unfold listedBytes
  rw [List.take_succ_eq_append_getElem h, List.flatMap_append, List.flatMap_singleton]

/-- Every entry has a byte at least. -/
theorem length_le_listedBytes (listing : List (Byte × Entry)) :
    listing.length ≤ (listedBytes listing).length := by
  induction listing with
  | nil => exact Nat.le_refl 0
  | cons line rest ih =>
    rw [listedBytes_cons, List.length_append, line.2.length_bytes, List.length_cons]
    have pos := line.2.size_pos
    omega

variable {memory : Memory} {stop address : Nat}

/-- The entries from an address on have the bytes that stand from there on. -/
theorem listedBytes_prefix (inside : stop ≤ 256) :
    listedBytes (entriesFrom memory stop address) <+: memory.onward address := by
  fun_induction entriesFrom memory stop address with
  | case1 address before entry ih =>
    have here : (UInt8.ofNat address).toNat = address :=
      UInt8.toNat_ofNat_of_lt (Nat.lt_of_lt_of_le before inside)
    have first : entry.bytes <+: memory.onward address := here ▸ Entry.bytes_read_prefix
    rw [listedBytes_cons, Memory.append_prefix_onward, entry.length_bytes]
    exact ⟨first, ih⟩
  | case2 address after => exact List.nil_prefix

/-- The entries reach the address where they have to stop, and pass it by two cells at most. -/
theorem length_listedBytes (before : address ≤ stop) :
    stop ≤ address + (listedBytes (entriesFrom memory stop address)).length ∧
      address + (listedBytes (entriesFrom memory stop address)).length ≤ stop + 2 := by
  fun_induction entriesFrom memory stop address with
  | case1 address lt entry ih =>
    rw [listedBytes_cons, List.length_append, entry.length_bytes]
    have small := entry.size_le_three
    rcases Nat.lt_or_ge stop (address + entry.size) with past | short
    · rw [entriesFrom_of_le (Nat.le_of_lt past), listedBytes_nil, List.length_nil]
      omega
    · have rest := ih short
      omega
  | case2 address after =>
    simp only [listedBytes_nil, List.length_nil]
    omega

/-- Stopping where the entries end gives the same entries. -/
theorem entriesFrom_of_end :
    entriesFrom memory (address + (listedBytes (entriesFrom memory stop address)).length) address =
      entriesFrom memory stop address := by
  fun_induction entriesFrom memory stop address with
  | case1 address before entry ih =>
    have reached : address + (listedBytes ((UInt8.ofNat address, entry) ::
          entriesFrom memory stop (address + entry.size))).length =
        address + entry.size +
          (listedBytes (entriesFrom memory stop (address + entry.size))).length := by
      rw [listedBytes_cons, List.length_append, entry.length_bytes, Nat.add_assoc]
    have pos := entry.size_pos
    rw [reached, entriesFrom_of_lt (by omega)]
    exact congrArg _ ih
  | case2 address after => exact entriesFrom_of_le (Nat.le_refl _)

theorem lt_of_entry {k : Nat} (h : k < (entriesFrom memory stop address).length) :
    address < stop := by
  apply Nat.lt_of_not_le
  intro after
  simp [entriesFrom_of_le after] at h

/-- The entry with number `k` stands behind the bytes of the entries before it, and it is what
stands there. -/
theorem entriesFrom_getElem (inside : stop ≤ 256) {k : Nat}
    (h : k < (entriesFrom memory stop address).length) :
    ((entriesFrom memory stop address)[k]).1.toNat =
        address + (listedBytes ((entriesFrom memory stop address).take k)).length ∧
      ((entriesFrom memory stop address)[k]).1.toNat < stop ∧
      ((entriesFrom memory stop address)[k]).2 =
        Entry.read memory ((entriesFrom memory stop address)[k]).1 := by
  induction k generalizing address with
  | zero =>
    have before := lt_of_entry h
    have here : (UInt8.ofNat address).toNat = address :=
      UInt8.toNat_ofNat_of_lt (Nat.lt_of_lt_of_le before inside)
    simp [entriesFrom_of_lt before, here, before]
  | succ k ih =>
    have before := lt_of_entry h
    simp only [entriesFrom_of_lt before, List.length_cons, Nat.add_lt_add_iff_right] at h
    simp only [entriesFrom_of_lt before, List.getElem_cons_succ, List.take_succ_cons,
      listedBytes_cons, List.length_append, Entry.length_bytes, ← Nat.add_assoc]
    exact ih h

/-! ## The bytes of a listing -/

theorem Memory.ofImage_append_zeros (image : List Byte) (z : Nat) :
    ofImage (image ++ List.replicate z 0) = ofImage image := by
  apply Memory.ext
  intro a
  rw [read_ofImage, read_ofImage]
  simp only [List.getD_eq_getElem?_getD, List.getElem?_append, List.getElem?_replicate]
  split
  · rfl
  · rename_i outside
    rw [List.getElem?_eq_none (Nat.le_of_not_lt outside)]
    split <;> rfl

namespace Program

/-- The entry with number `k` stands behind the bytes of the entries before it. -/
theorem address_of_entry (p : Program) {k : Nat} (h : k < p.listing.length) :
    (p.listing[k]).1.toNat = (listedBytes (p.listing.take k)).length ∧
      (p.listing[k]).1.toNat < p.image.length ∧
      (p.listing[k]).2 = Entry.read p.memory (p.listing[k]).1 := by
  have found := entriesFrom_getElem p.fits h
  rwa [Nat.zero_add] at found

/-- A program has no more entries than bytes. -/
theorem length_listing_le (p : Program) : p.listing.length ≤ p.image.length := by
  rcases Nat.eq_zero_or_pos p.listing.length with none_listed | some_listed
  · omega
  · have last : p.listing.length - 1 < p.listing.length := by omega
    obtain ⟨address, inside, -⟩ := p.address_of_entry last
    have before := length_le_listedBytes (p.listing.take (p.listing.length - 1))
    rw [List.length_take_of_le (Nat.sub_le _ _)] at before
    omega

/-- The entries of a program are its image, and the last one may have zeros behind it. -/
theorem listedBytes_listing (p : Program) : ∃ z, z ≤ 2 ∧ p.image.length + z ≤ 256 ∧
    listedBytes p.listing = p.image ++ List.replicate z 0 := by
  obtain ⟨reached, passed⟩ : p.image.length ≤ 0 + (listedBytes p.listing).length ∧
      0 + (listedBytes p.listing).length ≤ p.image.length + 2 :=
    length_listedBytes (Nat.zero_le _)
  rw [Nat.zero_add] at reached passed
  have whole : listedBytes p.listing <+: p.memory.onward 0 := listedBytes_prefix p.fits
  have inside : (listedBytes p.listing).length ≤ 256 := by simpa using whole.length_le
  refine ⟨(listedBytes p.listing).length - p.image.length, ?_, ?_, ?_⟩
  · exact Nat.sub_le_iff_le_add'.mpr passed
  · rw [Nat.add_sub_of_le reached]
    exact inside
  · rw [memory, Memory.onward_ofImage p.fits] at whole
    have taken := List.prefix_iff_eq_take.mp whole
    rwa [List.take_append, List.take_of_length_le reached, List.take_replicate,
      Nat.min_eq_left (Nat.sub_le_sub_right inside _)] at taken

/-- The memory of a program is what its entries fill. -/
theorem memory_of_listing (p : Program) : Memory.ofImage (listedBytes p.listing) = p.memory := by
  obtain ⟨z, -, -, whole⟩ := p.listedBytes_listing
  rw [whole, Memory.ofImage_append_zeros, memory]

/-- The entries of a program can be put in a program again, which has the same entries. -/
theorem ofImage_listedBytes (p : Program) : ∃ q, ofImage (listedBytes p.listing) = .ok q ∧
    q.memory = p.memory ∧ q.listing = p.listing := by
  obtain ⟨z, -, inside, whole⟩ := p.listedBytes_listing
  have fits : (listedBytes p.listing).length ≤ 256 := by
    rw [whole, List.length_append, List.length_replicate]
    exact inside
  refine ⟨⟨listedBytes p.listing, fits⟩, ofImage_of_le fits, p.memory_of_listing, ?_⟩
  have again : entriesFrom p.memory (0 + (listedBytes p.listing).length) 0 = p.listing :=
    entriesFrom_of_end
  rw [Nat.zero_add] at again
  rw [listing, memory, p.memory_of_listing]
  exact again

/-- A listing starts at address 0, every entry stands directly behind the one before it, and the
bytes of the entries are the image, with two zeros behind it at most. Put together again they fill
the memory in the same way and have the same listing. Even the printed lines tell the memory. -/
theorem a_listing_loses_nothing (p : Program) :
    (0 < p.image.length → p.listing.head?.map (·.1) = some 0) ∧
    (∀ k (h : k + 1 < p.listing.length),
      (p.listing[k + 1]).1.toNat = (p.listing[k]).1.toNat + (p.listing[k]).2.bytes.length) ∧
    (∀ line ∈ p.listing, line.1.toNat < p.image.length) ∧
    p.listing.length ≤ p.image.length ∧
    (∃ z, z ≤ 2 ∧ p.image.length + z ≤ 256 ∧
      listedBytes p.listing = p.image ++ List.replicate z 0) ∧
    (∃ q, ofImage (listedBytes p.listing) = .ok q ∧ q.memory = p.memory ∧
      q.listing = p.listing) ∧
    ∀ q : Program, p.listing.map listingLine = q.listing.map listingLine →
      p.memory = q.memory := by
  refine ⟨?_, ?_, ?_, p.length_listing_le, p.listedBytes_listing, p.ofImage_listedBytes, ?_⟩
  · intro some_byte
    rw [listing, entriesFrom_of_lt some_byte]
    rfl
  · intro k h
    have k_listed := Nat.lt_of_succ_lt h
    rw [(p.address_of_entry h).1, (p.address_of_entry k_listed).1, listedBytes_take_succ k_listed,
      List.length_append]
  · intro line listed
    obtain ⟨k, h, rfl⟩ := List.getElem_of_mem listed
    exact (p.address_of_entry h).2.1
  · intro q same
    have entries := List.map_injective_iff.mpr (fun _ _ => listingLine_injective) same
    rw [← p.memory_of_listing, ← q.memory_of_listing, entries]

end Program

/-! ## Putting instructions together -/

/-- Where instructions stand in a row, just they are listed. -/
theorem entriesFrom_encoded {memory : Memory} {address : Nat} {is : List Instruction}
    (stands : is.flatMap Instruction.encode <+: memory.onward address) :
    (entriesFrom memory (address + (is.flatMap Instruction.encode).length) address).map (·.2) =
      is.map Entry.instruction := by
  induction is generalizing address with
  | nil => exact congrArg _ (entriesFrom_of_le (Nat.le_refl _))
  | cons i is ih =>
    rw [List.flatMap_cons, Memory.append_prefix_onward, i.length_encode] at stands
    obtain ⟨first, others⟩ := stands
    have pos := i.width_pos
    have inside : address < 256 := by
      have room := first.length_le
      rw [i.length_encode, Memory.length_onward] at room
      omega
    have here : (UInt8.ofNat address).toNat = address := UInt8.toNat_ofNat_of_lt inside
    have listed : Entry.read memory (UInt8.ofNat address) = .instruction i :=
      Entry.read_eq_instruction_iff.mpr (here.symm ▸ first)
    have before : address < address + (i.width + (is.flatMap Instruction.encode).length) := by
      omega
    rw [List.flatMap_cons, List.length_append, i.length_encode, entriesFrom_of_lt before, listed,
      List.map_cons, List.map_cons, ← Nat.add_assoc]
    exact congrArg _ (ih others)

/-- The entries before number `k` have the bytes of the instructions before it. -/
theorem listedBytes_of_instructions {listing : List (Byte × Entry)} {is : List Instruction}
    (same : listing.map (·.2) = is.map Entry.instruction) (k : Nat) :
    listedBytes (listing.take k) = (is.take k).flatMap Instruction.encode := by
  have entries : (listing.take k).map (·.2) = (is.take k).map Entry.instruction := by
    rw [List.map_take, same, List.map_take]
  calc listedBytes (listing.take k)
      = ((listing.take k).map (·.2)).flatMap Entry.bytes := by rw [List.flatMap_map]; rfl
    _ = ((is.take k).map Entry.instruction).flatMap Entry.bytes := by rw [entries]
    _ = (is.take k).flatMap Instruction.encode := by rw [List.flatMap_map]; rfl

theorem length_encoded (is : List Instruction) :
    (is.flatMap Instruction.encode).length = (is.map Instruction.width).sum := by
  rw [List.length_flatMap]
  congr 2
  funext i
  exact i.length_encode

/-- Instructions that fit in memory make a program, and its listing has just these instructions in
their order. Each stands where the widths of the ones before it add up to. -/
theorem an_assembled_program_lists_its_instructions (is : List Instruction)
    (fits : (is.flatMap Instruction.encode).length ≤ 256) :
    ∃ p, Program.ofImage (is.flatMap Instruction.encode) = .ok p ∧
      p.listing.map (·.2) = is.map Entry.instruction ∧
      ∀ k (h : k < p.listing.length),
        (p.listing[k]).1.toNat = ((is.take k).map Instruction.width).sum := by
  have stands : is.flatMap Instruction.encode <+:
      (Memory.ofImage (is.flatMap Instruction.encode)).onward 0 := by
    rw [Memory.onward_ofImage fits]
    exact List.prefix_append _ _
  have listed := entriesFrom_encoded stands
  rw [Nat.zero_add] at listed
  refine ⟨⟨_, fits⟩, Program.ofImage_of_le fits, listed, ?_⟩
  intro k h
  rw [(Program.address_of_entry _ h).1, ← length_encoded]
  exact congrArg List.length (listedBytes_of_instructions listed k)

/-- Eighty-five loads and a halt take up all the cells, and the halt stands in the last one. -/
def fullMemory : List Instruction := List.replicate 85 (.ldi Register.sp 8) ++ [.hlt]

theorem a_full_memory_lists_its_instructions :
    (fullMemory.flatMap Instruction.encode).length = 256 ∧
    ∃ p, Program.ofImage (fullMemory.flatMap Instruction.encode) = .ok p ∧
      p.listing.map (·.2) = fullMemory.map Entry.instruction ∧
      ∀ k (h : k < p.listing.length),
        (p.listing[k]).1.toNat = ((fullMemory.take k).map Instruction.width).sum := by
  have whole : (fullMemory.flatMap Instruction.encode).length = 256 := by decide +kernel
  exact ⟨whole, an_assembled_program_lists_its_instructions fullMemory (Nat.le_of_eq whole)⟩

end LS8
