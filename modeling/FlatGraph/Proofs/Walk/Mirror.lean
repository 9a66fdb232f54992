import FlatGraph.Proofs.Flattener
import FlatGraph.Proofs.Memory
import FlatGraph.Proofs.Walk.Laid

/-!
Operations of a flattener on the slots of one structure: which bytes of the
output they change, and where they put what a slot leads to.
-/

namespace FlatGraph

namespace Flattener

def image (flattener : Flattener) : Memory :=
  Memory.ofBytes flattener.buffer.bytes

/-- The innermost structure covers `size` bytes of the source at an address.
Their copy begins at a position, from which the offsets of its slots count. -/
def Mirrors (flattener : Flattener) (address position size : Nat) : Prop :=
  ∃ frame rest, flattener.frames = frame :: rest ∧ frame.source ≤ address ∧
    address + size ≤ frame.source + frame.size ∧
    position = address - frame.source + frame.target ∧
    ∀ slot, position ≤ slot → slot + wordSize ≤ position + size →
      frame.container slot = position

namespace Mirrors

variable {flattener : Flattener} {address position size offset : Nat}

theorem placed (mirrors : flattener.Mirrors address position size)
    (wf : flattener.WellFormed) : position + size ≤ flattener.position := by
  obtain ⟨frame, rest, opened, above, below, rfl, -⟩ := mirrors
  have inside := wf.inside frame (by rw [opened]; exact List.mem_cons_self)
  omega

theorem of_frames_eq {other : Flattener}
    (mirrors : flattener.Mirrors address position size)
    (same : other.frames = flattener.frames) :
    other.Mirrors address position size := by
  obtain ⟨frame, rest, opened, mirrored⟩ := mirrors
  exact ⟨frame, rest, same.trans opened, mirrored⟩

theorem slotAt_eq (mirrors : flattener.Mirrors address position size)
    (inside : offset + wordSize ≤ size) :
    ∃ frame, flattener.slotAt (address + offset) =
        .ok (some ⟨position + offset, frame⟩) ∧
      ∀ target, Slot.word ⟨position + offset, frame⟩ (some target) =
        target - position := by
  obtain ⟨frame, rest, opened, above, below, rfl, container⟩ := mirrors
  have covered : frame.covers (address + offset) := by
    refine ⟨by omega, by omega, ?_⟩
    omega
  refine ⟨frame, ?_, ?_⟩
  · have place : address + offset - frame.source + frame.target =
        address - frame.source + frame.target + offset := by omega
    rw [slotAt_cons opened covered, place]
  · intro target
    have found := container
      (address - frame.source + frame.target + offset)
      (Nat.le_add_right _ _) (by omega)
    change target - frame.container _ = _
    rw [found]

end Mirrors

theorem mirrors_element {flattener : Flattener} {source size count start : Nat}
    {rest : List Frame}
    (opened : flattener.frames = ⟨source, size * count, size, start⟩ :: rest)
    {index : Nat} (inside : index < count) :
    flattener.Mirrors (source + size * index) (start + size * index) size := by
  have whole := Nat.mul_le_mul_left size inside
  rw [Nat.mul_succ] at whole
  have positive : 0 < wordSize := by decide
  refine ⟨_, rest, opened, ?_, ?_, ?_, ?_⟩
  · exact Nat.le_add_right _ _
  · simp only
    omega
  · simp only
    omega
  · intro slot above below
    have nonzero : size ≠ 0 := by omega
    have division : (slot - start) / size = index := by
      rw [show slot - start = size * index + (slot - start - size * index) by
        omega, Nat.mul_add_div (by omega), Nat.div_eq_of_lt (by omega),
        Nat.add_zero]
    simp only [Frame.container, if_neg nonzero, division]
    rw [Nat.mul_comm]

theorem mirrors_structure {flattener : Flattener} {source size start : Nat}
    {rest : List Frame}
    (opened : flattener.frames = ⟨source, size, size, start⟩ :: rest) :
    flattener.Mirrors source start size := by
  have one : flattener.frames = ⟨source, size * 1, size, start⟩ :: rest := by
    rw [Nat.mul_one]
    exact opened
  exact mirrors_element one Nat.zero_lt_one

structure Written (before after : Flattener) (slot value added : Nat) :
    Prop where
  wf : after.WellFormed
  position_eq : after.position = before.position + added
  kept : ∀ place < before.position, Outside place slot →
    after.image.byte place = before.image.byte place
  word_eq : after.image.word slot = value

section Written

variable {before after : Flattener} {slot : Slot} {target : Option Nat}
  {extra : Bytes}
  (fits : slot.position + wordSize ≤ before.position)
  (bytes_eq : after.buffer.bytes =
    mark (some slot) target before.buffer.bytes ++ extra)

include fits bytes_eq

theorem written_of_mark (wf : after.WellFormed)
    (small : slot.word target < wordLimit) :
    Written before after slot.position (slot.word target) extra.length := by
  have length : (mark (some slot) target before.buffer.bytes).length =
      before.position := mark_length (by
    intro place same
    cases same
    exact fits)
  have left : ∀ place < before.position, after.image.byte place =
      (Memory.ofBytes
        (mark (some slot) target before.buffer.bytes)).byte place := by
    intro place inside
    rw [image, bytes_eq]
    exact Memory.ofBytes_append_left (by rw [length]; exact inside)
  refine ⟨wf, ?_, ?_, ?_⟩
  · change after.buffer.bytes.length = _
    rw [bytes_eq, List.length_append, length]
  · intro place inside outside
    rw [left place inside]
    exact Memory.ofBytes_patch_outside fits outside
  · have patched := Memory.ofBytes_patch_word fits small
    refine Eq.trans (Memory.word_congr ?_) patched
    intro index short
    exact left _ (by omega)

theorem added_of_mark (index : Nat) :
    after.image.byte (before.position + index) =
      (Memory.ofBytes extra).byte index := by
  have length : (mark (some slot) target before.buffer.bytes).length =
      before.position := mark_length (by
    intro place same
    cases same
    exact fits)
  rw [image, bytes_eq, ← length]
  exact Memory.ofBytes_append_right _ _ _

end Written

theorem written_null {before : Flattener} {slot : Slot}
    (fits : slot.position + wordSize ≤ before.position)
    (wf : (before.withBytes
      (mark (some slot) none before.buffer.bytes)).WellFormed) :
    Written before
      (before.withBytes (mark (some slot) none before.buffer.bytes))
      slot.position 0 0 := by
  have bytes_eq :=
    (List.append_nil (mark (some slot) none before.buffer.bytes)).symm
  have small : slot.word none < wordLimit := Nat.two_pow_pos 64
  exact written_of_mark fits bytes_eq wf small

theorem padded_byte (position align : Nat) (block : Bytes) (index : Nat) :
    (Memory.ofBytes (padded position align block)).byte
        (gap position (placementAlignment align) + index) =
      (Memory.ofBytes block).byte index := by
  have zeros : (List.replicate (gap position (placementAlignment align))
      (0 : UInt8)).length = gap position (placementAlignment align) :=
    List.length_replicate
  have right := Memory.ofBytes_append_right
    (List.replicate (gap position (placementAlignment align)) 0) block index
  rw [zeros] at right
  exact right

section Operations

variable {before after : Flattener} {allocator : Allocator} {memory : Memory}
  {address position size offset : Nat}

structure Entered (memory : Memory) (before after : Flattener)
    (source slot position size stride start : Nat) : Prop where
  wf : after.WellFormed
  frames_eq : after.frames = ⟨source, size, stride, start⟩ :: before.frames
  behind : before.position ≤ start
  position_eq : after.position = start + size
  kept : ∀ place < before.position, Outside place slot →
    after.image.byte place = before.image.byte place
  word_eq : after.image.word slot = start - position
  copied : ∀ index < size,
    after.image.byte (start + index) = memory.byte (source + index)

theorem Mirrors.enterElements_ok {align block stride : Nat} {present : Bool}
    (mirrors : before.Mirrors address position size)
    (wf : before.WellFormed) (inside : offset + wordSize ≤ size)
    (ran : enterElements allocator memory (address + offset) align block
      stride before = .ok present after) :
    (memory.word (address + offset) = 0 ∧ present = false ∧
      after.frames = before.frames ∧
      Written before after (position + offset) 0 0) ∨
    (memory.word (address + offset) ≠ 0 ∧ present = true ∧
      ∃ start, Entered memory before after (memory.word (address + offset))
        (position + offset) position block stride start) := by
  have fits := mirrors.placed wf
  obtain ⟨frame, found, word⟩ := mirrors.slotAt_eq inside
  have afterWf := wf.enterElements_ok ran
  cases wf.entering ran with
  | null same null =>
      cases found.symm.trans same
      exact .inl ⟨null, rfl, rfl, written_null (by simp only; omega) afterWf⟩
  | entered same here reserving supported left =>
      cases found.symm.trans same
      have frames_eq := congrArg Flattener.frames left
      have bytes_eq := congrArg (fun done => done.buffer.bytes) left
      have opened := afterWf.inside
        ⟨memory.word (address + offset), block, stride,
          blockStart before.position align⟩
        (by rw [frames_eq]; exact List.mem_cons_self)
      have below := afterWf.valid.length_lt_wordLimit
      have starts : blockStart before.position align = before.position +
        gap before.position (placementAlignment align) := rfl
      have width := padded_length before.position align
        (memory.load (memory.word (address + offset)) block)
      rw [Memory.load_length] at width
      change blockStart before.position align + block ≤ after.position
        at opened
      change after.position < wordLimit at below
      have small : Slot.word ⟨position + offset, frame⟩
          (some (blockStart before.position align)) < wordLimit := by
        rw [word]
        omega
      have written :=
        written_of_mark (by simp only; omega) bytes_eq afterWf small
      have position_eq := written.position_eq
      rw [width] at position_eq
      refine .inr ⟨here, rfl, blockStart before.position align, afterWf,
        frames_eq, ?_, ?_, written.kept, written.word_eq.trans (word _), ?_⟩
      · rw [starts]
        exact Nat.le_add_right _ _
      · rw [position_eq, starts]
        omega
      · intro index short
        have added := added_of_mark (by simp only; omega) bytes_eq
          (gap before.position (placementAlignment align) + index)
        rw [padded_byte, Memory.ofBytes_load_self short] at added
        rw [starts, Nat.add_assoc]
        exact added

theorem Mirrors.addString_ok
    (mirrors : before.Mirrors address position size)
    (wf : before.WellFormed) (inside : offset + wordSize ≤ size)
    (ran : addString allocator memory (address + offset) before =
      .ok () after) :
    after.frames = before.frames ∧
      (memory.word (address + offset) = 0 ∧
          Written before after (position + offset) 0 0 ∨
        memory.word (address + offset) ≠ 0 ∧ ∃ text,
          memory.string? (memory.word (address + offset)) = some text ∧
          Written before after (position + offset)
            (before.position - position) text.length ∧
          ∀ index < text.length, after.image.byte (before.position + index) =
            memory.byte (memory.word (address + offset) + index)) := by
  have fits := mirrors.placed wf
  obtain ⟨frame, found, word⟩ := mirrors.slotAt_eq inside
  have afterWf := wf.addString_ok ran
  cases wf.addingString ran with
  | null same null =>
      cases found.symm.trans same
      exact ⟨rfl, .inl ⟨null, written_null (by simp only; omega) afterWf⟩⟩
  | @added slot text reserved after same here ends reserving left =>
      cases found.symm.trans same
      have frames_eq := congrArg Flattener.frames left
      have bytes_eq := congrArg (fun done => done.buffer.bytes) left
      have below := wf.valid.length_lt_wordLimit
      change before.position < wordLimit at below
      have small : Slot.word ⟨position + offset, frame⟩
          (some before.position) < wordLimit := by
        rw [word]
        omega
      have written :=
        written_of_mark (by simp only; omega) bytes_eq afterWf small
      rw [word] at written
      refine ⟨frames_eq, .inr ⟨here, text, ends, written, ?_⟩⟩
      intro index short
      have added := added_of_mark (by simp only; omega) bytes_eq index
      rw [added]
      exact Memory.ofBytes_byte_eq (Memory.string?_byte ends short)

theorem Mirrors.clear_ok (mirrors : before.Mirrors address position size)
    (wf : before.WellFormed) (inside : offset + wordSize ≤ size)
    (ran : clear (address + offset) before = .ok () after) :
    after.frames = before.frames ∧
      Written before after (position + offset) 0 0 := by
  have fits := mirrors.placed wf
  obtain ⟨frame, found, word⟩ := mirrors.slotAt_eq inside
  have afterWf := wf.clear_ok ran
  obtain ⟨slot, same, rfl⟩ := Flattener.clear_ok wf ran
  cases found.symm.trans same
  exact ⟨rfl, written_null (by simp only; omega) afterWf⟩

end Operations

end Flattener

end FlatGraph
