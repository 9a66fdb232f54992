import FlatGraph.Proofs.Faults
import FlatGraph.Proofs.Walk.Mirror

/-!
The open structures of a flattener: where their copies lie, and why no slot of
theirs can be missed when it is written.
-/

namespace FlatGraph

theorem leastAlignment_dvd {align : Nat}
    (power : isPowerOfTwo (placementAlignment align) = true) :
    leastAlignment ∣ placementAlignment align :=
  isPowerOfTwo_dvd isPowerOfTwo_leastAlignment power
    (Nat.le_max_right align leastAlignment)

theorem Frame.container_le {frame : Frame} {slot : Nat}
    (above : frame.target ≤ slot) : frame.container slot ≤ slot := by
  have whole := Nat.div_mul_le_self (slot - frame.target) frame.stride
  unfold Frame.container
  split
  · exact above
  · omega

namespace Flattener

/-- The copies of the open structures lie in the output one behind the other,
the innermost last, each at a multiple of the least alignment and made of
whole elements. -/
structure Stacked (flattener : Flattener) : Prop where
  inside : ∀ frame ∈ flattener.frames,
    frame.target + frame.size ≤ flattener.position
  aligned : ∀ frame ∈ flattener.frames, leastAlignment ∣ frame.target
  divided : ∀ frame ∈ flattener.frames, frame.stride ∣ frame.size
  ordered : flattener.frames.Pairwise fun inner outer =>
    outer.target + outer.size ≤ inner.target

section Stacked

variable {before after : Flattener}

theorem Stacked.grown (stacked : before.Stacked)
    (same : after.frames = before.frames)
    (longer : before.position ≤ after.position) : after.Stacked := by
  obtain ⟨inside, aligned, divided, ordered⟩ := stacked
  rw [← same] at inside aligned divided ordered
  exact ⟨fun frame member => Nat.le_trans (inside frame member) longer,
    aligned, divided, ordered⟩

theorem Stacked.opened (stacked : before.Stacked) {frame : Frame}
    (same : after.frames = frame :: before.frames)
    (behind : before.position ≤ frame.target)
    (within : frame.target + frame.size ≤ after.position)
    (aligned : leastAlignment ∣ frame.target)
    (divided : frame.stride ∣ frame.size) : after.Stacked := by
  refine ⟨?_, ?_, ?_, ?_⟩
  · intro other member
    rw [same] at member
    rcases List.mem_cons.mp member with rfl | older
    · exact within
    · have inside := stacked.inside other older
      omega
  · intro other member
    rw [same] at member
    rcases List.mem_cons.mp member with rfl | older
    · exact aligned
    · exact stacked.aligned other older
  · intro other member
    rw [same] at member
    rcases List.mem_cons.mp member with rfl | older
    · exact divided
    · exact stacked.divided other older
  · rw [same]
    refine List.pairwise_cons.mpr ⟨?_, stacked.ordered⟩
    intro outer member
    exact Nat.le_trans (stacked.inside outer member) behind

theorem Stacked.left (stacked : before.Stacked)
    (ran : leave before = .ok () after) : after.Stacked := by
  obtain ⟨frame, rest, opened, rfl⟩ := leave_ok ran
  obtain ⟨inside, aligned, divided, ordered⟩ := stacked
  rw [opened] at inside aligned divided ordered
  exact ⟨fun other member => inside other (List.mem_cons_of_mem _ member),
    fun other member => aligned other (List.mem_cons_of_mem _ member),
    fun other member => divided other (List.mem_cons_of_mem _ member),
    (List.pairwise_cons.mp ordered).2⟩

end Stacked

section Operations

variable {before after : Flattener} {allocator : Allocator} {memory : Memory}
  {field : Nat} {fault : Fault}

theorem position_marked {slot : Option Slot}
    (fits : Fits slot before.position) (target : Option Nat) :
    (before.withBytes (mark slot target before.buffer.bytes)).position =
      before.position :=
  mark_length fits

theorem Stacked.enterElements_ok {align size stride : Nat} {present : Bool}
    (stacked : before.Stacked) (wf : before.WellFormed)
    (divided : stride ∣ size)
    (ran : enterElements allocator memory field align size stride before =
      .ok present after) :
    after.Stacked ∧
      after.depth = before.depth + if present then 1 else 0 := by
  have afterWf := wf.enterElements_ok ran
  cases wf.entering ran with
  | null found null =>
      exact ⟨stacked.grown rfl
        (Nat.le_of_eq (position_marked (wf.fits found) none).symm), rfl⟩
  | entered found here reserving supported left =>
      have frames_eq := congrArg Flattener.frames left
      refine ⟨stacked.opened frames_eq (Nat.le_add_right _ _) ?_ ?_ divided,
        congrArg List.length frames_eq⟩
      · exact afterWf.inside _ (by rw [frames_eq]; exact List.mem_cons_self)
      · exact Nat.dvd_trans (leastAlignment_dvd supported.1)
          (dvd_add_gap (placementAlignment_pos align) before.position)

theorem Stacked.addString_ok (stacked : before.Stacked)
    (wf : before.WellFormed)
    (ran : addString allocator memory field before = .ok () after) :
    after.Stacked ∧ after.depth = before.depth := by
  cases wf.addingString ran with
  | null found null =>
      exact ⟨stacked.grown rfl
        (Nat.le_of_eq (position_marked (wf.fits found) none).symm), rfl⟩
  | @added slot text reserved after found here ends reserving left =>
      subst left
      refine ⟨stacked.grown rfl ?_, rfl⟩
      change before.position ≤ List.length _
      rw [List.length_append, mark_length (wf.fits found)]
      exact Nat.le_add_right _ _

theorem Stacked.clear_ok (stacked : before.Stacked) (wf : before.WellFormed)
    (ran : clear field before = .ok () after) :
    after.Stacked ∧ after.depth = before.depth := by
  obtain ⟨slot, found, rfl⟩ := Flattener.clear_ok wf ran
  exact ⟨stacked.grown rfl
    (Nat.le_of_eq (position_marked (wf.fits found) none).symm), rfl⟩

theorem Stacked.leave_ok (stacked : before.Stacked)
    (ran : leave before = .ok () after) :
    after.Stacked ∧ after.depth + 1 = before.depth := by
  refine ⟨stacked.left ran, ?_⟩
  obtain ⟨frame, rest, opened, rfl⟩ := Flattener.leave_ok ran
  rw [depth, depth, opened]
  rfl

theorem Stacked.unchanged (stacked : before.Stacked)
    (bytes : after.buffer.bytes = before.buffer.bytes)
    (frames : after.frames = before.frames) : after.Stacked :=
  stacked.grown frames (Nat.le_of_eq (congrArg List.length bytes.symm))

end Operations

theorem start_stacked {allocator : Allocator} {memory : Memory}
    {root : Option Nat} {size capacity : Nat} {flattener : Flattener}
    (started : start allocator memory root size capacity = .ok flattener) :
    flattener.Stacked ∧ flattener.depth = root.toList.length := by
  obtain ⟨wf, -, frames_eq⟩ := start_ok started
  have inside := wf.inside
  cases root with
  | none =>
      have closed : flattener.frames = [] := frames_eq
      refine ⟨⟨inside, ?_, ?_, ?_⟩, congrArg List.length closed⟩
      all_goals
        rw [closed]
        simp
  | some address =>
      have opened : flattener.frames = [Frame.single address size 0] :=
        frames_eq
      refine ⟨⟨inside, ?_, ?_, ?_⟩, congrArg List.length opened⟩
      all_goals
        rw [opened]
        simp [Frame.single]

section Offsets

variable {before after : Flattener} {allocator : Allocator} {memory : Memory}
  {field : Nat} {slot : Slot}

theorem readWord?_eq {flattener : Flattener} {position : Nat}
    (inside : position + wordSize ≤ flattener.position) :
    flattener.buffer.readWord? position =
      some (flattener.image.word position) := by
  have there : flattener.buffer.hasWordAt position = true :=
    decide_eq_true inside
  rw [Buffer.readWord?, if_pos there, image, Memory.word,
    Memory.ofBytes_load inside]

/-- Null is no offset: what a slot leads to lies behind the structure that the
slot belongs to. -/
theorem WellFormed.offset_pos (wf : before.WellFormed)
    (found : before.slotAt field = .ok (some slot)) {target : Nat}
    (behind : before.position ≤ target) : 0 < slot.word (some target) := by
  have fits := wf.fits found slot rfl
  obtain ⟨frame, rest, opened, covered, rfl⟩ := slotAt_eq_some found
  have container := Frame.container_le
    (Nat.le_add_left frame.target (field - frame.source))
  have positive : 0 < wordSize := by decide
  simp only at fits
  simp only [Slot.word, Frame.offsetTo]
  omega

theorem WellFormed.offset_written (wf : before.WellFormed)
    (found : before.slotAt field = .ok (some slot)) {target : Nat}
    {extra : Bytes} (afterWf : after.WellFormed)
    (bytes_eq : after.buffer.bytes =
      mark (some slot) (some target) before.buffer.bytes ++ extra)
    (behind : before.position ≤ target) (reached : target ≤ after.position) :
    ∃ offset, after.buffer.readWord? slot.position = some offset ∧
      0 < offset := by
  have fits := wf.fits found slot rfl
  have bounded := afterWf.valid.length_lt_wordLimit
  have small : slot.word (some target) < wordLimit :=
    Nat.lt_of_le_of_lt (Nat.sub_le target _)
      (Nat.lt_of_le_of_lt reached bounded)
  have written := written_of_mark fits bytes_eq afterWf small
  refine ⟨slot.word (some target), ?_, wf.offset_pos found behind⟩
  rw [readWord?_eq (by rw [written.position_eq]; omega), written.word_eq]

theorem WellFormed.enterElements_offset {align size stride : Nat}
    {present : Bool} (wf : before.WellFormed)
    (found : before.slotAt field = .ok (some slot))
    (here : memory.word field ≠ 0)
    (ran : enterElements allocator memory field align size stride before =
      .ok present after) :
    ∃ offset, after.buffer.readWord? slot.position = some offset ∧
      0 < offset := by
  have afterWf := wf.enterElements_ok ran
  cases wf.entering ran with
  | null same null => exact absurd null here
  | entered same here reserving supported left =>
      cases found.symm.trans same
      have frames_eq := congrArg Flattener.frames left
      have opened := afterWf.inside _
        (by rw [frames_eq]; exact List.mem_cons_self)
      exact wf.offset_written found afterWf
        (congrArg (fun done => done.buffer.bytes) left)
        (Nat.le_add_right _ _) (Nat.le_trans (Nat.le_add_right _ _) opened)

theorem WellFormed.addString_offset (wf : before.WellFormed)
    (found : before.slotAt field = .ok (some slot))
    (here : memory.word field ≠ 0)
    (ran : addString allocator memory field before = .ok () after) :
    ∃ offset, after.buffer.readWord? slot.position = some offset ∧
      0 < offset := by
  have afterWf := wf.addString_ok ran
  cases wf.addingString ran with
  | null same null => exact absurd null here
  | added same here ends reserving left =>
      cases found.symm.trans same
      have bytes_eq := congrArg (fun done => done.buffer.bytes) left
      refine wf.offset_written found afterWf bytes_eq (Nat.le_refl _) ?_
      change before.position ≤ after.buffer.bytes.length
      rw [bytes_eq, List.length_append, mark_length (wf.fits found)]
      exact Nat.le_add_right _ _

end Offsets

end Flattener

end FlatGraph
