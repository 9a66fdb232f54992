import FlatGraph.Proofs.Checked.Flattener

/-!
Offsets out of the elements of a frame. A field is known by its distance from
the start of the source, and its slot by the same distance in the copy; the
offset in the slot counts from the element around it, wherever a copy of that
element comes to lie.
-/

namespace FlatGraph

namespace Frame

variable {frame : Frame} {field place position index : Nat}

structure SlotAt (frame : Frame) (field place : Nat) : Prop where
  above : frame.target ≤ place
  distance : place - frame.target = field - frame.source
  inside : place + wordSize ≤ frame.target + frame.size

theorem slotAt_of_slot (found : frame.slot field = .ok place) :
    frame.SlotAt field place := by
  obtain ⟨covered, rfl⟩ := slot_eq_ok_iff.mp found
  exact ⟨Nat.le_add_left _ _, Nat.add_sub_cancel _ _, slot_fits covered⟩

/-- A place in the copy belongs to an element, by the number of the element. -/
structure InElement (frame : Frame) (index place : Nat) : Prop where
  present : index * frame.stride < frame.size
  start : frame.target + index * frame.stride ≤ place
  stop : place < frame.target + (index + 1) * frame.stride

theorem InElement.index_eq (element : frame.InElement index place) :
    (place - frame.target) / frame.stride = index := by
  obtain ⟨-, start, stop⟩ := element
  exact Nat.div_eq_of_lt_le (by omega) (by omega)

theorem InElement.container_eq (element : frame.InElement index place) :
    frame.container place = frame.target + index * frame.stride := by
  have nonzero : frame.stride ≠ 0 := by
    intro zero
    obtain ⟨-, start, stop⟩ := element
    rw [zero] at start stop
    omega
  rw [container, if_neg nonzero, element.index_eq]

theorem InElement.whole (element : frame.InElement index place)
    (divided : frame.stride ∣ frame.size) :
    (index + 1) * frame.stride ≤ frame.size := by
  have present := element.present
  obtain ⟨count, size_eq⟩ := divided
  rw [size_eq, Nat.mul_comm frame.stride] at present ⊢
  exact Nat.mul_le_mul_right _ (Nat.lt_of_mul_lt_mul_right present)

/-- The first byte of a slot belongs to an element, also where its others
reach into the next one. -/
theorem SlotAt.exists_inElement (slotAt : frame.SlotAt field place)
    (divided : frame.stride ∣ frame.size) :
    ∃ index, frame.InElement index place := by
  obtain ⟨above, -, inside⟩ := slotAt
  have word : 0 < wordSize := by decide
  have positive : 0 < frame.stride := by
    refine Nat.pos_of_ne_zero fun zero => ?_
    rw [zero] at divided
    have empty := Nat.eq_zero_of_zero_dvd divided
    omega
  have start := Nat.div_mul_le_self (place - frame.target) frame.stride
  have stop := Nat.lt_div_mul_add positive (a := place - frame.target)
  refine ⟨(place - frame.target) / frame.stride, ?_, ?_, ?_⟩
  · omega
  · omega
  · rw [Nat.succ_mul]
    omega

section Offset

variable (slotAt : frame.SlotAt field place)
  (behind : frame.target + frame.size ≤ position)

include slotAt behind

theorem SlotAt.container_lt : frame.container place < position := by
  have before := frame.container_le slotAt.above
  have inside := slotAt.inside
  have word : 0 < wordSize := by decide
  omega

theorem SlotAt.offsetTo_present :
    (frame.offsetTo place position).isNull = false := by
  have before := slotAt.container_lt behind
  simp only [offsetTo, Offset.isNull, beq_eq_false_iff_ne]
  omega

theorem SlotAt.target?_eq {base : Nat} (fits : base + position < wordLimit) :
    (frame.offsetTo place position).target? (base + frame.container place) =
      some (base + position) := by
  have before := slotAt.container_lt behind
  have present := slotAt.offsetTo_present behind
  have sum : base + frame.container place +
      (frame.offsetTo place position).raw = base + position := by
    simp only [offsetTo]
    omega
  rw [Offset.target?, present, if_neg Bool.false_ne_true, sum,
    Nat.mod_eq_of_lt fits]

end Offset

/-- The words that are formed for a frame are the numbers that they stand for:
neither the test of a field nor the place of its slot, the element around it or
an offset wraps. -/
structure Unwrapped (frame : Frame) : Prop where
  found : ∀ field place, frame.slot field = .ok place → ∀ σ : Type,
    (Checked.slot frame field : Checked.Action σ Nat) = pure place ∧
      (Checked.container frame place : Checked.Action σ Nat) =
        pure (frame.container place) ∧
      ∀ position, frame.target + frame.size ≤ position →
        position < wordLimit →
          (Checked.offsetTo frame place position : Checked.Action σ Offset) =
            pure (frame.offsetTo place position)
  missed : ∀ field fault, frame.slot field = .error fault → ∀ σ : Type,
    (Checked.slot frame field : Checked.Action σ Nat) =
      throw (.fault fault)

/-- What a frame makes of every field, and what the offsets in its slots lead
to. -/
structure Inverts (frame : Frame) : Prop where
  slot_iff : ∀ field, (∃ place, frame.slot field = .ok place) ↔
    frame.source ≤ field ∧ field + wordSize ≤ frame.source + frame.size
  fault : ∀ field cause, frame.slot field = .error cause →
    cause = .fieldOutOfBounds (signedWord (field - frame.source)) frame.size
  slotAt : ∀ field place, frame.slot field = .ok place →
    frame.SlotAt field place
  element : ∀ field place, frame.slot field = .ok place →
    ∃ index, frame.InElement index place ∧
      (∀ other, frame.InElement other place → other = index) ∧
      frame.container place = frame.target + index * frame.stride ∧
      (index + 1) * frame.stride ≤ frame.size
  offset : ∀ field place position, frame.slot field = .ok place →
    frame.target + frame.size ≤ position →
      (frame.offsetTo place position).isNull = false ∧
        ∀ base, base + position < wordLimit →
          (frame.offsetTo place position).target?
              (base + frame.container place) = some (base + position)
  unwrapped : frame.Unwrapped

theorem unwrapped_of_bounded
    (bounded : frame.target + frame.size < wordLimit) : frame.Unwrapped := by
  refine ⟨fun field place found σ => ?_, fun field fault failed σ => ?_⟩
  · have slotAt := slotAt_of_slot found
    have above := slotAt.above
    have inside := slotAt.inside
    obtain ⟨covered, rfl⟩ := slot_eq_ok_iff.mp found
    exact ⟨Checked.slot_of_covers covered bounded,
      Checked.container_eq above (by omega),
      fun position behind small =>
        Checked.offsetTo_eq above (by omega) small⟩
  · obtain ⟨missed, rfl⟩ := slot_eq_error_iff.mp failed
    exact Checked.slot_of_not_covers missed

theorem offsets_invert (divided : frame.stride ∣ frame.size)
    (bounded : frame.target + frame.size < wordLimit) : frame.Inverts where
  slot_iff field := by
    rw [← covers_iff]
    constructor
    · rintro ⟨place, found⟩
      exact (slot_eq_ok_iff.mp found).1
    · intro covered
      exact ⟨_, slot_of_covers covered⟩
  fault field cause failed := (slot_eq_error_iff.mp failed).2.symm
  slotAt field place found := slotAt_of_slot found
  element field place found := by
    obtain ⟨index, element⟩ := (slotAt_of_slot found).exists_inElement divided
    exact ⟨index, element,
      fun other also => also.index_eq.symm.trans element.index_eq,
      element.container_eq, element.whole divided⟩
  offset field place position found behind :=
    have slotAt := slotAt_of_slot found
    ⟨slotAt.offsetTo_present behind,
      fun _ fits => slotAt.target?_eq behind fits⟩
  unwrapped := unwrapped_of_bounded bounded

/-- Four elements of twelve bytes: the slot at 104 begins in the fourth of
them, at 100. -/
theorem offsets_invert_sample :
    let frame : Frame := ⟨1000, 48, 12, 64⟩
    frame.stride ∣ frame.size ∧ frame.target + frame.size < wordLimit ∧
      frame.Inverts ∧ frame.slot 1040 = .ok 104 ∧
      (frame.offsetTo 104 112).target? (4096 + 100) = some (4096 + 112) := by
  have inverts : (⟨1000, 48, 12, 64⟩ : Frame).Inverts :=
    offsets_invert (by decide) (by decide)
  exact ⟨by decide, by decide, inverts, rfl,
    (inverts.offset 1040 104 112 rfl (by decide)).2 4096 (by decide)⟩

end Frame

end FlatGraph
