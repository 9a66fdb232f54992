import FlatGraph.Proofs.Walk.Confined

/-!
The output of a walk does not depend on where the value lies. Two walks over
the same value in two memories go on in step: at every point their outputs are
equally long and equally roomy, and differ at most in slots that have been
copied and not been visited yet. In the end there is none of these.
-/

namespace FlatGraph

namespace Flattener

/-- Two outputs with the same room and the same bytes in all places outside of
the slots that are pending, and the structures that are open in each. -/
structure Twins (pending : Nat → Prop) (leftFrames rightFrames : List Frame)
    (left right : Flattener) : Prop where
  leftWf : left.WellFormed
  rightWf : right.WellFormed
  left_frames : left.frames = leftFrames
  right_frames : right.frames = rightFrames
  capacity_eq : left.buffer.capacity = right.buffer.capacity
  position_eq : left.position = right.position
  byte_eq : ∀ place, (∀ slot, pending slot → Outside place slot) →
    left.image.byte place = right.image.byte place

/-- Two actions ended alike: both have failed for the same cause, or both have
left outputs that are twins. -/
def EndAlike (pending : Nat → Prop) (leftFrames rightFrames : List Frame) :
    EStateM.Result Fault Flattener Unit →
      EStateM.Result Fault Flattener Unit → Prop
  | .ok _ left, .ok _ right => Twins pending leftFrames rightFrames left right
  | .error fault _, .error other _ => fault = other
  | _, _ => False

section Twins

variable {pending others fresh : Nat → Prop}
  {leftFrames rightFrames : List Frame} {left right : Flattener}

theorem Twins.imp (twins : Twins pending leftFrames rightFrames left right)
    (more : ∀ slot, pending slot → others slot) :
    Twins others leftFrames rightFrames left right :=
  { twins with
    byte_eq := fun place outside => twins.byte_eq place
      fun slot isPending => outside slot (more slot isPending) }

theorem Twins.settled
    (twins : Twins (fun slot => others slot ∨ False) leftFrames rightFrames
      left right) : Twins others leftFrames rightFrames left right := by
  refine twins.imp ?_
  rintro slot (older | impossible)
  · exact older
  · cases impossible

theorem Twins.leave_alike {leftFrame rightFrame : Frame}
    (twins : Twins pending (leftFrame :: leftFrames)
      (rightFrame :: rightFrames) left right) :
    EndAlike pending leftFrames rightFrames (leave left) (leave right) := by
  have leftLeft : Flattener.leave left =
      .ok () { left with frames := leftFrames } := by
    rw [Flattener.leave, twins.left_frames]
  have rightLeft : Flattener.leave right =
      .ok () { right with frames := rightFrames } := by
    rw [Flattener.leave, twins.right_frames]
  rw [leftLeft, rightLeft]
  exact ⟨twins.leftWf.leave_ok leftLeft, twins.rightWf.leave_ok rightLeft,
    rfl, rfl, twins.capacity_eq, twins.position_eq, twins.byte_eq⟩

theorem EndAlike.bind {first second first' second' : Action Unit}
    {leftRest rightRest : List Frame}
    (ends : EndAlike pending leftFrames rightFrames (first left)
      (first' right))
    (next : ∀ left right, Twins pending leftFrames rightFrames left right →
      EndAlike others leftRest rightRest (second left) (second' right)) :
    EndAlike others leftRest rightRest
      ((first >>= fun _ => second) left)
      ((first' >>= fun _ => second') right) := by
  cases ran : first left with
  | ok _ middle =>
      cases ran' : first' right with
      | ok _ middle' =>
          rw [ran, ran'] at ends
          rw [Action.bind_of_ok ran, Action.bind_of_ok ran']
          exact next middle middle' ends
      | error fault after =>
          rw [ran, ran'] at ends
          cases ends
  | error fault after =>
      cases ran' : first' right with
      | ok _ middle' =>
          rw [ran, ran'] at ends
          cases ends
      | error other after' =>
          rw [ran, ran'] at ends
          rw [Action.bind_of_error ran, Action.bind_of_error ran']
          exact ends

end Twins

theorem fits_some {frame : Frame} {place length : Nat}
    (fits : place + wordSize ≤ length) :
    Fits (some ⟨place, frame⟩) length := by
  intro slot member
  cases member
  exact fits

section Operations

variable {others fresh : Nat → Prop} {leftFrames rightFrames : List Frame}
  {left right leftAfter rightAfter : Flattener}
  {leftFrame rightFrame : Frame} {place : Nat} {target : Option Nat}

theorem mark_image_eq
    (twins : Twins (fun slot => others slot ∨ slot = place) leftFrames
      rightFrames left right)
    (fits : place + wordSize ≤ left.position)
    (word_eq : Slot.word ⟨place, leftFrame⟩ target =
      Slot.word ⟨place, rightFrame⟩ target)
    {other : Nat} (outside : ∀ slot, others slot → Outside other slot) :
    (Memory.ofBytes (mark (some ⟨place, leftFrame⟩) target
        left.buffer.bytes)).byte other =
      (Memory.ofBytes (mark (some ⟨place, rightFrame⟩) target
        right.buffer.bytes)).byte other := by
  have rightFits : place + wordSize ≤ right.position := by
    rw [← twins.position_eq]
    exact fits
  simp only [mark, word_eq]
  by_cases apart : Outside other place
  · rw [Memory.ofBytes_patch_outside fits apart,
      Memory.ofBytes_patch_outside rightFits apart]
    refine twins.byte_eq other ?_
    rintro slot (older | rfl)
    · exact outside slot older
    · exact apart
  · unfold Outside at apart
    have index : other = place + (other - place) := by omega
    rw [index, Memory.ofBytes_patch_inside fits (by omega),
      Memory.ofBytes_patch_inside rightFits (by omega)]

/-- A slot that is written to the same effect is not pending any more; what is
added is the same in both but for slots that now are. -/
theorem Twins.appended
    (twins : Twins (fun slot => others slot ∨ slot = place) leftFrames
      rightFrames left right)
    (fits : place + wordSize ≤ left.position)
    (word_eq : Slot.word ⟨place, leftFrame⟩ target =
      Slot.word ⟨place, rightFrame⟩ target)
    {leftExtra rightExtra : Bytes}
    (leftBytes : leftAfter.buffer.bytes =
      mark (some ⟨place, leftFrame⟩) target left.buffer.bytes ++ leftExtra)
    (rightBytes : rightAfter.buffer.bytes =
      mark (some ⟨place, rightFrame⟩) target right.buffer.bytes ++ rightExtra)
    (length_eq : leftExtra.length = rightExtra.length)
    (extra_eq : ∀ index,
      (∀ slot, fresh slot → Outside (left.position + index) slot) →
        (Memory.ofBytes leftExtra).byte index =
          (Memory.ofBytes rightExtra).byte index)
    (leftWf : leftAfter.WellFormed) (rightWf : rightAfter.WellFormed)
    (capacity_eq : leftAfter.buffer.capacity = rightAfter.buffer.capacity) :
    Twins (fun slot => others slot ∨ fresh slot) leftAfter.frames
      rightAfter.frames leftAfter rightAfter := by
  have rightFits : place + wordSize ≤ right.position := by
    rw [← twins.position_eq]
    exact fits
  have leftLength : (mark (some ⟨place, leftFrame⟩) target
      left.buffer.bytes).length = left.position :=
    mark_length (fits_some fits)
  have rightLength : (mark (some ⟨place, rightFrame⟩) target
      right.buffer.bytes).length = left.position :=
    (mark_length (fits_some rightFits)).trans
      twins.position_eq.symm
  refine ⟨leftWf, rightWf, rfl, rfl, capacity_eq, ?_, ?_⟩
  · change leftAfter.buffer.bytes.length = rightAfter.buffer.bytes.length
    rw [leftBytes, rightBytes, List.length_append, List.length_append,
      leftLength, rightLength, length_eq]
  · intro other outside
    by_cases before : other < left.position
    · rw [image, image, leftBytes, rightBytes,
        Memory.ofBytes_append_left (by rw [leftLength]; exact before),
        Memory.ofBytes_append_left (by rw [rightLength]; exact before)]
      exact mark_image_eq twins fits word_eq fun slot older =>
        outside slot (.inl older)
    · have index : other = left.position + (other - left.position) := by
        omega
      have leftAdded : leftAfter.image.byte
          (left.position + (other - left.position)) =
            (Memory.ofBytes leftExtra).byte (other - left.position) :=
        added_of_mark fits leftBytes _
      have rightAdded : rightAfter.image.byte
          (right.position + (other - left.position)) =
            (Memory.ofBytes rightExtra).byte (other - left.position) :=
        added_of_mark rightFits rightBytes _
      rw [← twins.position_eq] at rightAdded
      rw [index, leftAdded, rightAdded]
      refine extra_eq _ fun slot newer => ?_
      rw [← index]
      exact outside slot (.inr newer)

theorem Twins.marked_null
    (twins : Twins (fun slot => others slot ∨ slot = place) leftFrames
      rightFrames left right)
    (fits : place + wordSize ≤ left.position) :
    Twins others leftFrames rightFrames
      (left.withBytes
        (mark (some ⟨place, leftFrame⟩) none left.buffer.bytes))
      (right.withBytes
        (mark (some ⟨place, rightFrame⟩) none right.buffer.bytes)) := by
  have rightFits : place + wordSize ≤ right.position := by
    rw [← twins.position_eq]
    exact fits
  cases twins.left_frames
  cases twins.right_frames
  have marked : Twins (fun slot => others slot ∨ False) left.frames
      right.frames
      (left.withBytes
        (mark (some ⟨place, leftFrame⟩) none left.buffer.bytes))
      (right.withBytes
        (mark (some ⟨place, rightFrame⟩) none right.buffer.bytes)) :=
    twins.appended fits rfl (List.append_nil _).symm (List.append_nil _).symm
      rfl (fun _ _ => rfl) (twins.leftWf.marked (fits_some fits) none)
      (twins.rightWf.marked (fits_some rightFits) none) twins.capacity_eq
  exact marked.settled

theorem padded_alike {position align block here there index : Nat}
    {leftMemory rightMemory : Memory}
    (copied : ∀ inner < block,
      (∀ slot, fresh slot →
        Outside (blockStart position align + inner) slot) →
      leftMemory.byte (here + inner) = rightMemory.byte (there + inner))
    (outside : ∀ slot, fresh slot → Outside (position + index) slot) :
    (Memory.ofBytes (padded position align
        (leftMemory.load here block))).byte index =
      (Memory.ofBytes (padded position align
        (rightMemory.load there block))).byte index := by
  have zeros : (List.replicate (gap position (placementAlignment align))
      (0 : UInt8)).length = gap position (placementAlignment align) :=
    List.length_replicate
  by_cases padding : index < gap position (placementAlignment align)
  · rw [padded, padded,
      Memory.ofBytes_append_left (by rw [zeros]; exact padding),
      Memory.ofBytes_append_left (by rw [zeros]; exact padding)]
  · have inner : index = gap position (placementAlignment align) +
        (index - gap position (placementAlignment align)) := by omega
    rw [inner, padded_byte, padded_byte]
    apply Memory.ofBytes_load_congr
    intro short
    refine copied _ short fun slot newer => ?_
    rw [blockStart, Nat.add_assoc, ← inner]
    exact outside slot newer

end Operations

section Mirrored

variable {others : Nat → Prop} {leftFrames rightFrames : List Frame}
  {left right : Flattener} {allocator : Allocator}
  {leftMemory rightMemory : Memory}
  {leftAddress rightAddress position size offset : Nat}

theorem Twins.clear_alike
    (twins : Twins (fun slot => others slot ∨ slot = position + offset)
      leftFrames rightFrames left right)
    (leftMirrors : left.Mirrors leftAddress position size)
    (rightMirrors : right.Mirrors rightAddress position size)
    (inside : offset + wordSize ≤ size) :
    EndAlike others leftFrames rightFrames
      (clear (leftAddress + offset) left)
      (clear (rightAddress + offset) right) := by
  have leftFits := leftMirrors.placed twins.leftWf
  obtain ⟨leftFrame, leftFound, -⟩ := leftMirrors.slotAt_eq inside
  obtain ⟨rightFrame, rightFound, -⟩ := rightMirrors.slotAt_eq inside
  rw [clear_of_slot leftFound (twins.leftWf.fits leftFound),
    clear_of_slot rightFound (twins.rightWf.fits rightFound)]
  exact twins.marked_null (by omega)

theorem Twins.addString_alike
    (twins : Twins (fun slot => others slot ∨ slot = position + offset)
      leftFrames rightFrames left right)
    (leftMirrors : left.Mirrors leftAddress position size)
    (rightMirrors : right.Mirrors rightAddress position size)
    (inside : offset + wordSize ≤ size)
    (null : leftMemory.word (leftAddress + offset) = 0 ↔
      rightMemory.word (rightAddress + offset) = 0)
    (text_eq : leftMemory.word (leftAddress + offset) ≠ 0 → ∃ text,
      leftMemory.string? (leftMemory.word (leftAddress + offset)) =
        some text ∧
      rightMemory.string? (rightMemory.word (rightAddress + offset)) =
        some text) :
    EndAlike others leftFrames rightFrames
      (addString allocator leftMemory (leftAddress + offset) left)
      (addString allocator rightMemory (rightAddress + offset) right) := by
  have leftFits := leftMirrors.placed twins.leftWf
  obtain ⟨leftFrame, leftFound, leftWord⟩ := leftMirrors.slotAt_eq inside
  obtain ⟨rightFrame, rightFound, rightWord⟩ := rightMirrors.slotAt_eq inside
  have leftSlot := twins.leftWf.fits leftFound
  have rightSlot := twins.rightWf.fits rightFound
  by_cases zero : leftMemory.word (leftAddress + offset) = 0
  · rw [addString_of_null leftFound leftSlot zero,
      addString_of_null rightFound rightSlot (null.mp zero)]
    exact twins.marked_null (by omega)
  · have here := mt null.mpr zero
    obtain ⟨text, leftText, rightText⟩ := text_eq zero
    rcases Buffer.reserve_alike allocator text.length twins.position_eq
      twins.capacity_eq with ⟨fault, leftFull, rightFull⟩ |
        ⟨capacity, leftRoom, rightRoom⟩
    · rw [addString_of_reserve_error leftFound zero leftText leftFull,
        addString_of_reserve_error rightFound here rightText rightFull]
      rfl
    · have leftRan := addString_of_reserved leftFound leftSlot zero leftText
        leftRoom
      have rightRan := addString_of_reserved rightFound rightSlot here
        rightText rightRoom
      have leftWf := twins.leftWf.addString_ok leftRan
      have rightWf := twins.rightWf.addString_ok rightRan
      rw [leftRan, rightRan]
      cases twins.left_frames
      cases twins.right_frames
      exact (twins.appended (by omega)
        ((leftWord left.position).trans (rightWord left.position).symm) rfl
        (by rw [twins.position_eq]) rfl (fun _ _ => rfl) leftWf rightWf
        rfl).settled

theorem Twins.enterElements_alike {align block stride : Nat}
    {fresh : Nat → Nat → Prop} {leftInner rightInner : Action Unit}
    (twins : Twins (fun slot => others slot ∨ slot = position + offset)
      leftFrames rightFrames left right)
    (leftMirrors : left.Mirrors leftAddress position size)
    (rightMirrors : right.Mirrors rightAddress position size)
    (inside : offset + wordSize ≤ size)
    (null : leftMemory.word (leftAddress + offset) = 0 ↔
      rightMemory.word (rightAddress + offset) = 0)
    (copied : leftMemory.word (leftAddress + offset) ≠ 0 →
      ∀ start, ∀ index < block,
        (∀ slot, fresh start slot → Outside (start + index) slot) →
          leftMemory.byte (leftMemory.word (leftAddress + offset) + index) =
            rightMemory.byte
              (rightMemory.word (rightAddress + offset) + index))
    (walks : leftMemory.word (leftAddress + offset) ≠ 0 →
      ∀ start leftAfter rightAfter,
        Twins (fun slot => others slot ∨ fresh start slot)
          (⟨leftMemory.word (leftAddress + offset), block, stride, start⟩ ::
            leftFrames)
          (⟨rightMemory.word (rightAddress + offset), block, stride,
            start⟩ :: rightFrames) leftAfter rightAfter →
        EndAlike others
          (⟨leftMemory.word (leftAddress + offset), block, stride, start⟩ ::
            leftFrames)
          (⟨rightMemory.word (rightAddress + offset), block, stride,
            start⟩ :: rightFrames)
          (leftInner leftAfter) (rightInner rightAfter)) :
    EndAlike others leftFrames rightFrames
      ((do
        if ← enterElements allocator leftMemory (leftAddress + offset) align
            block stride then
          leftInner
          leave : Action Unit) left)
      ((do
        if ← enterElements allocator rightMemory (rightAddress + offset)
            align block stride then
          rightInner
          leave : Action Unit) right) := by
  have leftFits := leftMirrors.placed twins.leftWf
  obtain ⟨leftFrame, leftFound, leftWord⟩ := leftMirrors.slotAt_eq inside
  obtain ⟨rightFrame, rightFound, rightWord⟩ := rightMirrors.slotAt_eq inside
  have leftSlot := twins.leftWf.fits leftFound
  have rightSlot := twins.rightWf.fits rightFound
  by_cases zero : leftMemory.word (leftAddress + offset) = 0
  · rw [Action.bind_of_ok (enterElements_of_null leftFound leftSlot zero),
      Action.bind_of_ok
        (enterElements_of_null rightFound rightSlot (null.mp zero))]
    exact twins.marked_null (by omega)
  · have here := mt null.mpr zero
    rcases Buffer.reserve_alike allocator
      (gap left.position (placementAlignment align) + block)
      twins.position_eq twins.capacity_eq with
        ⟨fault, leftFull, rightFull⟩ | ⟨capacity, leftRoom, rightRoom⟩
    · rw [twins.position_eq] at rightFull
      rw [Action.bind_of_error
          (enterElements_of_reserve_error leftFound zero leftFull),
        Action.bind_of_error
          (enterElements_of_reserve_error rightFound here rightFull)]
      rfl
    · rw [twins.position_eq] at rightRoom
      by_cases supported : isPowerOfTwo (placementAlignment align) ∧
          placementAlignment align ≤ storageAlignment
      · have leftRan : enterElements allocator leftMemory
            (leftAddress + offset) align block stride left = _ :=
          enterElements_of_reserved leftFound leftSlot zero leftRoom supported
        have rightRan : enterElements allocator rightMemory
            (rightAddress + offset) align block stride right = _ :=
          enterElements_of_reserved rightFound rightSlot here rightRoom
            supported
        have leftWf := twins.leftWf.enterElements_ok leftRan
        have rightWf := twins.rightWf.enterElements_ok rightRan
        rw [Action.bind_of_ok leftRan, Action.bind_of_ok rightRan]
        rw [← twins.position_eq] at rightWf ⊢
        cases twins.left_frames
        cases twins.right_frames
        refine EndAlike.bind (walks zero (blockStart left.position align) _ _
          (twins.appended (by omega)
            ((leftWord _).trans (rightWord _).symm) rfl rfl ?_ ?_ leftWf
            rightWf rfl)) fun _ _ => Twins.leave_alike
        · rw [padded_length, padded_length, Memory.load_length,
            Memory.load_length]
        · intro index outside
          exact padded_alike
            (copied zero (blockStart left.position align)) outside
      · rw [Action.bind_of_error (enterElements_of_unsupported leftFound zero
            leftRoom supported),
          Action.bind_of_error (enterElements_of_unsupported rightFound here
            rightRoom supported)]
        rfl

end Mirrored

end Flattener

open Flattener

variable {count : Nat}

section Same

variable {schema : Schema count} {leftMemory rightMemory : Memory}
  {cleared : Nat → Prop} {type : Fin count}
  {leftAddress rightAddress position : Nat}

theorem SameValue.byte_eq
    (same : SameValue schema leftMemory rightMemory cleared type leftAddress
      rightAddress) {index : Nat} (short : index < (schema type).layout.size)
    (outside : ∀ slot, (Part.value type).Slot schema position slot →
      Outside (position + index) slot) :
    leftMemory.byte (leftAddress + index) =
      rightMemory.byte (rightAddress + index) := by
  cases same with
  | intro plain =>
      refine (plain index ⟨short, fun link member => ?_⟩).symm
      rcases outside _ ⟨link, member, rfl⟩ with before | after
      · exact .inl (by omega)
      · exact .inr (by omega)

theorem SameValue.sameLink
    (same : SameValue schema leftMemory rightMemory cleared type leftAddress
      rightAddress) {link : Link count} (member : link ∈ (schema type).links) :
    SameLink schema leftMemory rightMemory cleared link leftAddress
      rightAddress := by
  cases same with
  | intro plain nothing null string nested length array =>
      exact ⟨nothing link member, null link member, string link member,
        nested link member, length link member, array link member⟩

theorem SameValue.length_eq
    (same : SameValue schema leftMemory rightMemory cleared type leftAddress
      rightAddress) (schemaWf : schema.WellFormed) {link : Link count}
    (member : link ∈ (schema type).links) {length : LengthField}
    (isLength : length ∈ link.target.length?) :
    length.read leftMemory leftAddress =
      length.read rightMemory rightAddress := by
  cases same with
  | intro plain =>
      apply LengthField.read_congr
      intro index short
      rw [Nat.add_assoc, Nat.add_assoc]
      exact (plain _ ((schemaWf type).lengths link member length isLength index
        short)).symm

theorem elements_byte_eq {total : Nat}
    (same : ∀ index < total,
      SameValue schema leftMemory rightMemory cleared type
        (leftAddress + (schema type).layout.size * index)
        (rightAddress + (schema type).layout.size * index))
    {place : Nat} (inside : place < (schema type).layout.size * total)
    (outside : ∀ slot, (Part.elements type total).Slot schema position slot →
      Outside (position + place) slot) :
    leftMemory.byte (leftAddress + place) =
      rightMemory.byte (rightAddress + place) := by
  have element : place / (schema type).layout.size < total :=
    Nat.div_lt_of_lt_mul inside
  have positive : 0 < (schema type).layout.size := by
    apply Nat.pos_of_ne_zero
    intro zero
    rw [zero, Nat.zero_mul] at inside
    cases inside
  have parts := Nat.div_add_mod place (schema type).layout.size
  have bare : ∀ slot, (Part.value type).Slot schema (position +
      (schema type).layout.size * (place / (schema type).layout.size)) slot →
        Outside (position + (schema type).layout.size *
          (place / (schema type).layout.size) +
            place % (schema type).layout.size) slot := by
    rintro slot ⟨link, member, rfl⟩
    rw [Nat.add_assoc, parts]
    exact outside _ ⟨_, element, link, member, rfl⟩
  have bytes := (same _ element).byte_eq (Nat.mod_lt place positive) bare
  rw [Nat.add_assoc, Nat.add_assoc, parts] at bytes
  exact bytes

end Same

section Walk

variable {schema : Schema count} {leftMemory rightMemory : Memory}
  {cleared : Nat → Prop} {allocator : Allocator}
  {leftVisit rightVisit : Fin count → Nat → Action Unit}
  {type : Fin count} {leftAddress rightAddress position : Nat}
  {others : Nat → Prop} {leftFrames rightFrames : List Frame}
  {left right : Flattener}

/-- Visits of structures that hold the same value end alike, and leave no slot
of theirs pending. -/
def VisitAlike (schema : Schema count) (leftMemory rightMemory : Memory)
    (cleared : Nat → Prop)
    (leftVisit rightVisit : Fin count → Nat → Action Unit) : Prop :=
  ∀ {type : Fin count} {leftAddress rightAddress position : Nat}
    {others : Nat → Prop} {leftFrames rightFrames : List Frame}
    {left right : Flattener},
    SameValue schema leftMemory rightMemory cleared type leftAddress
      rightAddress →
    left.Mirrors leftAddress position (schema type).layout.size →
    right.Mirrors rightAddress position (schema type).layout.size →
    Twins (fun slot => others slot ∨
      (Part.value type).Slot schema position slot) leftFrames rightFrames left
        right →
    EndAlike others leftFrames rightFrames (leftVisit type leftAddress left)
      (rightVisit type rightAddress right)

theorem forElements_alike
    (visits : VisitAlike schema leftMemory rightMemory cleared leftVisit
      rightVisit) {total : Nat}
    (same : ∀ index < total,
      SameValue schema leftMemory rightMemory cleared type
        (leftAddress + (schema type).layout.size * index)
        (rightAddress + (schema type).layout.size * index))
    (leftMirrors : ∀ index < total,
      left.Mirrors (leftAddress + (schema type).layout.size * index)
        (position + (schema type).layout.size * index)
        (schema type).layout.size)
    (rightMirrors : ∀ index < total,
      right.Mirrors (rightAddress + (schema type).layout.size * index)
        (position + (schema type).layout.size * index)
        (schema type).layout.size)
    (twins : Twins (fun slot => others slot ∨
      (Part.elements type total).Slot schema position slot) leftFrames
        rightFrames left right) :
    EndAlike others leftFrames rightFrames
      (forElements (leftVisit type) (schema type).layout.size total
        leftAddress left)
      (forElements (rightVisit type) (schema type).layout.size total
        rightAddress right) := by
  induction total generalizing leftAddress rightAddress position left right with
  | zero =>
      refine twins.imp ?_
      rintro slot (older | ⟨index, impossible, -⟩)
      · exact older
      · cases impossible
  | succ total ih =>
      have first : Twins (fun slot => (others slot ∨
          (Part.elements type total).Slot schema
            (position + (schema type).layout.size) slot) ∨
          (Part.value type).Slot schema position slot) leftFrames rightFrames
            left right := by
        refine twins.imp ?_
        rintro slot (older | element)
        · exact .inl (.inl older)
        · rcases Part.slot_elements_succ.mp element with here | later
          · exact .inr here
          · exact .inl (.inr later)
      refine EndAlike.bind (visits (same 0 (Nat.succ_pos _))
        (leftMirrors 0 (Nat.succ_pos _)) (rightMirrors 0 (Nat.succ_pos _))
        first) ?_
      intro middle other next
      refine ih ?_ ?_ ?_ next
      · intro index short
        have later := same (index + 1) (Nat.succ_lt_succ short)
        rw [Part.element_succ, Part.element_succ] at later
        exact later
      · intro index short
        have later := leftMirrors (index + 1) (Nat.succ_lt_succ short)
        rw [Part.element_succ, Part.element_succ] at later
        exact later.of_frames_eq
          (next.left_frames.trans twins.left_frames.symm)
      · intro index short
        have later := rightMirrors (index + 1) (Nat.succ_lt_succ short)
        rw [Part.element_succ, Part.element_succ] at later
        exact later.of_frames_eq
          (next.right_frames.trans twins.right_frames.symm)

theorem visitLink_alike
    (visits : VisitAlike schema leftMemory rightMemory cleared leftVisit
      rightVisit)
    (schemaWf : schema.WellFormed) {link : Link count}
    (member : link ∈ (schema type).links)
    (same : SameValue schema leftMemory rightMemory cleared type leftAddress
      rightAddress)
    (leftMirrors : left.Mirrors leftAddress position
      (schema type).layout.size)
    (rightMirrors : right.Mirrors rightAddress position
      (schema type).layout.size)
    (twins : Twins (fun slot => others slot ∨ slot = position + link.offset)
      leftFrames rightFrames left right) :
    EndAlike others leftFrames rightFrames
      (schema.visitLink (Flattener.visitor allocator leftMemory) leftMemory
        leftVisit leftAddress link left)
      (schema.visitLink (Flattener.visitor allocator rightMemory) rightMemory
        rightVisit rightAddress link right) := by
  have inside := (schemaWf type).inside link member
  obtain ⟨-, null, string, nested, -, array⟩ := same.sameLink member
  cases kind : link.target with
  | «structure» target =>
      have nullAlike := (null (by rw [kind]; simp)).symm
      rw [visitLink_structure kind, visitLink_structure kind]
      refine twins.enterElements_alike leftMirrors rightMirrors inside
        nullAlike (fun here start index short bare =>
          (nested target kind here).byte_eq short bare) ?_
      intro here start leftOpened rightOpened opened
      exact visits (nested target kind here)
        (mirrors_structure opened.left_frames)
        (mirrors_structure opened.right_frames) opened
  | array target length =>
      have nullAlike := (null (by rw [kind]; simp)).symm
      have lengths := same.length_eq schemaWf member
        (by rw [kind]; rfl : length ∈ link.target.length?)
      rw [visitLink_array kind, visitLink_array kind, ← lengths]
      split
      · refine twins.enterElements_alike leftMirrors rightMirrors inside
          nullAlike (fun here start index short bare =>
            elements_byte_eq (array target length kind here) short bare) ?_
        intro here start leftOpened rightOpened opened
        unfold visitElements
        split
        · rename_i isPlain
          refine opened.imp ?_
          rintro slot (older | ⟨index, -, inner, impossible, -⟩)
          · exact older
          · rw [Schema.links_of_isPlain isPlain] at impossible
            cases impossible
        · exact forElements_alike visits (array target length kind here)
            (fun index short => mirrors_element opened.left_frames short)
            (fun index short => mirrors_element opened.right_frames short)
            opened
      · rfl
  | string =>
      have nullAlike := (null (by rw [kind]; simp)).symm
      rw [visitLink_string kind, visitLink_string kind]
      exact twins.addString_alike leftMirrors rightMirrors inside nullAlike
        (string kind)
  | nothing =>
      rw [visitLink_nothing kind, visitLink_nothing kind]
      exact twins.clear_alike leftMirrors rightMirrors inside

theorem forM_alike {links : List (Link count)}
    {leftOne rightOne : Link count → Action Unit}
    (visits : ∀ link ∈ links, ∀ (others : Nat → Prop) left right,
      Twins (fun slot => others slot ∨ slot = position + link.offset)
        leftFrames rightFrames left right →
      EndAlike others leftFrames rightFrames (leftOne link left)
        (rightOne link right))
    (twins : Twins (fun slot => others slot ∨
      ∃ link ∈ links, slot = position + link.offset) leftFrames rightFrames
        left right) :
    EndAlike others leftFrames rightFrames (links.forM leftOne left)
      (links.forM rightOne right) := by
  induction links generalizing left right with
  | nil =>
      refine twins.imp ?_
      rintro slot (older | ⟨link, impossible, -⟩)
      · exact older
      · cases impossible
  | cons link links ih =>
      have first : Twins (fun slot => (others slot ∨
          ∃ other ∈ links, slot = position + other.offset) ∨
            slot = position + link.offset) leftFrames rightFrames left
              right := by
        refine twins.imp ?_
        rintro slot (older | ⟨other, member, rfl⟩)
        · exact .inl (.inl older)
        · rcases List.mem_cons.mp member with rfl | later
          · exact .inr rfl
          · exact .inl (.inr ⟨other, later, rfl⟩)
      refine EndAlike.bind
        (visits link List.mem_cons_self _ left right first) ?_
      intro middle other next
      exact ih (fun other member =>
        visits other (List.mem_cons_of_mem _ member)) next

theorem visitLinks_alike (schemaWf : schema.WellFormed)
    (allocator : Allocator) (depth : Nat) :
    VisitAlike schema leftMemory rightMemory cleared
      (schema.visitLinks (Flattener.visitor allocator leftMemory) leftMemory
        depth)
      (schema.visitLinks (Flattener.visitor allocator rightMemory)
        rightMemory depth) := by
  induction depth with
  | zero =>
      intro type leftAddress rightAddress position others leftFrames
        rightFrames left right same leftMirrors rightMirrors twins
      rfl
  | succ depth ih =>
      intro type leftAddress rightAddress position others leftFrames
        rightFrames left right same leftMirrors rightMirrors twins
      rw [Schema.visitLinks, Schema.visitLinks]
      refine forM_alike ?_ twins
      intro link member others middle other next
      exact visitLink_alike ih schemaWf member same
        (leftMirrors.of_frames_eq
          (next.left_frames.trans twins.left_frames.symm))
        (rightMirrors.of_frames_eq
          (next.right_frames.trans twins.right_frames.symm)) next

end Walk

section Flatten

variable {schema : Schema count} {leftMemory rightMemory : Memory}
  {cleared : Nat → Prop} {type : Fin count} {leftRoot rightRoot : Nat}

theorem Flattener.Twins.buffer_eq {leftFrames rightFrames : List Frame}
    {left right : Flattener}
    (twins : Twins (fun _ => False) leftFrames rightFrames left right) :
    left.buffer = right.buffer := by
  have bytes_eq : left.buffer.bytes = right.buffer.bytes := by
    apply List.ext_getElem?
    intro place
    have lengths : left.buffer.bytes.length = right.buffer.bytes.length :=
      twins.position_eq
    by_cases inside : place < left.buffer.bytes.length
    · rw [Memory.getElem?_ofBytes inside,
        Memory.getElem?_ofBytes (by rw [← lengths]; exact inside)]
      exact congrArg some (twins.byte_eq place fun _ impossible =>
        impossible.elim)
    · rw [List.getElem?_eq_none (by omega), List.getElem?_eq_none (by omega)]
  have capacity_eq := twins.capacity_eq
  cases left with
  | mk leftBuffer leftOpen =>
      cases right with
      | mk rightBuffer rightOpen =>
          cases leftBuffer
          cases rightBuffer
          cases bytes_eq
          cases capacity_eq
          rfl

theorem start_of_append {allocator : Allocator} {memory : Memory}
    {address size capacity position : Nat} {buffer filled : Buffer}
    (created : Buffer.withCapacity allocator (max size capacity) = .ok buffer)
    (appended : Buffer.append allocator (memory.load address size) buffer =
      .ok position filled) :
    Flattener.start allocator memory (some address) size capacity =
      .ok ⟨filled, [Frame.single address size position]⟩ := by
  simp only [Flattener.start, created, Except.bind, appended]

theorem start_alike
    (same : SameValue schema leftMemory rightMemory cleared type leftRoot
      rightRoot) (allocator : Allocator) (capacity : Nat) :
    (∃ fault,
      Flattener.start allocator leftMemory (some leftRoot)
        (schema type).layout.size capacity = .error fault ∧
      Flattener.start allocator rightMemory (some rightRoot)
        (schema type).layout.size capacity = .error fault) ∨
    ∃ left right,
      Flattener.start allocator leftMemory (some leftRoot)
        (schema type).layout.size capacity = .ok left ∧
      Flattener.start allocator rightMemory (some rightRoot)
        (schema type).layout.size capacity = .ok right ∧
      Twins (fun slot => (Part.value type).Slot schema 0 slot)
        [Frame.single leftRoot (schema type).layout.size 0]
        [Frame.single rightRoot (schema type).layout.size 0] left right := by
  cases created : Buffer.withCapacity allocator
      (max (schema type).layout.size capacity) with
  | error fault =>
      refine .inl ⟨fault, ?_, ?_⟩
      · simp only [Flattener.start, created, Except.bind]
      · simp only [Flattener.start, created, Except.bind]
  | ok buffer =>
      rcases Buffer.append_alike allocator
        ((leftMemory.load_length leftRoot (schema type).layout.size).trans
          (rightMemory.load_length rightRoot
            (schema type).layout.size).symm) buffer with
        ⟨fault, leftFull, rightFull⟩ | ⟨room, leftFilled, rightFilled⟩
      · refine .inl ⟨fault, ?_, ?_⟩
        · simp only [Flattener.start, created, Except.bind, leftFull]
        · simp only [Flattener.start, created, Except.bind, rightFull]
      · have leftStarted := start_of_append created leftFilled
        have rightStarted := start_of_append created rightFilled
        obtain ⟨leftWf, leftBytes, leftFrames⟩ :=
          Flattener.start_ok leftStarted
        obtain ⟨rightWf, rightBytes, rightFrames⟩ :=
          Flattener.start_ok rightStarted
        refine .inr ⟨_, _, leftStarted, rightStarted, leftWf, rightWf,
          leftFrames, rightFrames, rfl, ?_, ?_⟩
        · refine (congrArg List.length leftBytes).trans
            (Eq.trans ?_ (congrArg List.length rightBytes).symm)
          exact (leftMemory.load_length leftRoot _).trans
            (rightMemory.load_length rightRoot _).symm
        · intro place outside
          rw [image, image, leftBytes, rightBytes]
          apply Memory.ofBytes_load_congr
          intro short
          have bare : ∀ slot, (Part.value type).Slot schema 0 slot →
              Outside (0 + place) slot := by
            rw [Nat.zero_add]
            exact outside
          exact same.byte_eq short bare

theorem outcome_alike {leftAction rightAction : Action Unit}
    {leftFrames rightFrames : List Frame} {left right : Flattener}
    (ends : EndAlike (fun _ => False) leftFrames rightFrames
      (leftAction left) (rightAction right)) (allocator : Allocator) :
    Flattener.outcome (do
        leftAction
        Flattener.onBuffer (Buffer.shrinkToFit allocator)) left =
      Flattener.outcome (do
        rightAction
        Flattener.onBuffer (Buffer.shrinkToFit allocator)) right := by
  unfold Flattener.outcome
  cases leftRan : leftAction left with
  | error fault leftAfter =>
      cases rightRan : rightAction right with
      | error other rightAfter =>
          rw [leftRan, rightRan] at ends
          cases ends
          rw [Action.bind_of_error leftRan, Action.bind_of_error rightRan]
      | ok _ rightAfter =>
          rw [leftRan, rightRan] at ends
          cases ends
  | ok _ leftAfter =>
      cases rightRan : rightAction right with
      | error other rightAfter =>
          rw [leftRan, rightRan] at ends
          cases ends
      | ok _ rightAfter =>
          rw [leftRan, rightRan] at ends
          rw [Action.bind_of_ok leftRan, Action.bind_of_ok rightRan]
          unfold Flattener.onBuffer
          rw [ends.buffer_eq]
          cases Buffer.shrinkToFit allocator rightAfter.buffer with
          | ok _ buffer => rfl
          | error fault buffer => rfl

/-- Whatever the schema is: the same value is flattened to the same result
from wherever it lies. -/
theorem flatten_congr (schemaWf : schema.WellFormed)
    (same : SameValue schema leftMemory rightMemory cleared type leftRoot
      rightRoot) (allocator : Allocator) (capacity : Nat) :
    schema.flatten allocator leftMemory type leftRoot capacity =
      schema.flatten allocator rightMemory type rightRoot capacity := by
  unfold Schema.flatten
  rcases start_alike same allocator capacity with
    ⟨fault, leftFailed, rightFailed⟩ |
      ⟨left, right, leftStarted, rightStarted, twins⟩
  · simp only [leftFailed, rightFailed, Except.bind]
  · simp only [leftStarted, rightStarted, Except.bind]
    refine outcome_alike (EndAlike.bind (visitLinks_alike schemaWf allocator
      (Schema.depthBound count) same (mirrors_structure twins.left_frames)
      (mirrors_structure twins.right_frames)
      (twins.imp fun slot => .inr)) fun _ _ => Twins.leave_alike) allocator

end Flatten

theorem flatten_congr_sample :
    ∃ resolved,
      sampleSchema.resolve 0 4096
          (Memory.blank.store 4096 sampleBuffer.bytes) = some resolved ∧
        sampleSchema.flatten (fun _ => true) sampleSource 0 16 0 =
          sampleSchema.flatten (fun _ => true) resolved 0 4096 0 := by
  have schemaWf : sampleSchema.WellFormed := by decide +kernel
  have loaded : (Memory.blank.store 4096 sampleBuffer.bytes).load 4096
      sampleBuffer.bytes.length = sampleBuffer.bytes := by
    decide +kernel
  have bounded : 4096 + sampleBuffer.bytes.length < wordLimit := by
    decide +kernel
  obtain ⟨slots, noted⟩ := exists_flattenNoting sample_flatten
  obtain ⟨sites, -, laidOut⟩ := flattenNoting_laidOut schemaWf noted
  have same := laidOut.same schemaWf bounded
    (laidOut.resolve schemaWf loaded bounded).2
  exact ⟨_, laidOut.resolve_eq schemaWf loaded bounded,
    flatten_congr schemaWf same (fun _ => true) 0⟩

end FlatGraph
