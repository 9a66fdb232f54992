import FlatGraph.Proofs.Buffer
import FlatGraph.Proofs.Patch

/-!
What each operation of a flattener does to its output and to its open
structures, case by case. A slot is written before the block or string behind
it is appended, so every operation marks at most one slot and then adds bytes
at the end.
-/

namespace FlatGraph

namespace Flattener

structure WellFormed (flattener : Flattener) : Prop where
  valid : flattener.buffer.Valid
  inside : ∀ frame ∈ flattener.frames,
    frame.target + frame.size ≤ flattener.position

def withBytes (flattener : Flattener) (bytes : Bytes) : Flattener :=
  { flattener with buffer := { flattener.buffer with bytes } }

def slotAt (flattener : Flattener) (field : Nat) : Except Fault (Option Slot) :=
  match flattener.frames with
  | [] => .ok none
  | frame :: _ =>
      (frame.slot field).map fun position => some ⟨position, frame⟩

theorem slotOf_eq (field : Nat) (flattener : Flattener) :
    slotOf field flattener =
      match flattener.slotAt field with
      | .ok slot => .ok slot flattener
      | .error fault => .error fault flattener := by
  unfold slotOf slotAt
  cases flattener.frames with
  | nil => rfl
  | cons frame rest =>
      cases found : frame.slot field with
      | error fault => simp only [found, Except.map]
      | ok position => simp only [found, Except.map]

def Slot.word (slot : Slot) : Option Nat → Nat
  | none => Offset.null.raw
  | some target => (slot.frame.offsetTo slot.position target).raw

/-- The output after a slot, if there is one, has been given a target. -/
def mark (slot : Option Slot) (target : Option Nat) (bytes : Bytes) : Bytes :=
  match slot with
  | none => bytes
  | some slot =>
      Buffer.patch bytes slot.position (encodeWord (slot.word target))

def Fits (slot : Option Slot) (length : Nat) : Prop :=
  ∀ place ∈ slot, place.position + wordSize ≤ length

theorem mark_length {slot : Option Slot} {target : Option Nat} {bytes : Bytes}
    (fits : Fits slot bytes.length) :
    (mark slot target bytes).length = bytes.length := by
  cases slot with
  | none => rfl
  | some slot =>
      refine Buffer.patch_length ?_
      rw [encodeWord_length]
      exact fits slot rfl

theorem mark_append {slot : Option Slot} {target : Option Nat}
    {bytes extra : Bytes} (fits : Fits slot bytes.length) :
    mark slot target (bytes ++ extra) = mark slot target bytes ++ extra := by
  cases slot with
  | none => rfl
  | some slot =>
      refine Buffer.patch_append ?_
      rw [encodeWord_length]
      exact fits slot rfl

theorem slotAt_nil {flattener : Flattener} (field : Nat)
    (closed : flattener.frames = []) : flattener.slotAt field = .ok none := by
  rw [slotAt, closed]

theorem slotAt_cons {flattener : Flattener} {frame : Frame}
    {rest : List Frame} {field : Nat}
    (opened : flattener.frames = frame :: rest)
    (covered : frame.covers field) :
    flattener.slotAt field =
      .ok (some ⟨field - frame.source + frame.target, frame⟩) := by
  rw [slotAt, opened]
  simp only [Frame.slot_of_covers covered, Except.map]

theorem slotAt_missed {flattener : Flattener} {frame : Frame}
    {rest : List Frame} {field : Nat}
    (opened : flattener.frames = frame :: rest)
    (missed : ¬ frame.covers field) :
    flattener.slotAt field =
      .error (.fieldOutOfBounds (signedWord (field - frame.source))
        frame.size) := by
  rw [slotAt, opened]
  simp only [Frame.slot_of_not_covers missed, Except.map]

/-- What becomes of a field: nothing, if no structure is open, and else it has
a slot in the innermost one or is outside of it. -/
inductive Slotted (flattener : Flattener) (field : Nat) :
    Except Fault (Option Slot) → Prop
  | closed (closed : flattener.frames = []) :
      Slotted flattener field (.ok none)
  | covered {frame : Frame} {rest : List Frame}
      (opened : flattener.frames = frame :: rest)
      (covered : frame.covers field) :
      Slotted flattener field
        (.ok (some ⟨field - frame.source + frame.target, frame⟩))
  | missed {frame : Frame} {rest : List Frame}
      (opened : flattener.frames = frame :: rest)
      (missed : ¬ frame.covers field) :
      Slotted flattener field
        (.error (.fieldOutOfBounds (signedWord (field - frame.source))
          frame.size))

theorem slotted_of_eq {flattener : Flattener} {field : Nat}
    {slotted : Except Fault (Option Slot)}
    (found : flattener.slotAt field = slotted) :
    Slotted flattener field slotted := by
  subst found
  cases opened : flattener.frames with
  | nil =>
      rw [slotAt_nil field opened]
      exact .closed opened
  | cons frame rest =>
      by_cases covered : frame.covers field
      · rw [slotAt_cons opened covered]
        exact .covered opened covered
      · rw [slotAt_missed opened covered]
        exact .missed opened covered

theorem slotAt_eq_some {flattener : Flattener} {field : Nat} {slot : Slot}
    (found : flattener.slotAt field = .ok (some slot)) :
    ∃ frame rest, flattener.frames = frame :: rest ∧ frame.covers field ∧
      slot = ⟨field - frame.source + frame.target, frame⟩ := by
  cases slotted_of_eq found with
  | covered opened covered => exact ⟨_, _, opened, covered, rfl⟩

theorem slotAt_eq_none {flattener : Flattener} {field : Nat}
    (found : flattener.slotAt field = .ok none) : flattener.frames = [] := by
  cases slotted_of_eq found with
  | closed closed => exact closed

theorem WellFormed.fits {flattener : Flattener} (wf : flattener.WellFormed)
    {field : Nat} {slot : Option Slot}
    (found : flattener.slotAt field = .ok slot) :
    Fits slot flattener.position := by
  intro place member
  cases member
  obtain ⟨frame, rest, opened, covered, rfl⟩ := slotAt_eq_some found
  have inside := wf.inside frame (by rw [opened]; exact List.mem_cons_self)
  exact Nat.le_trans (Frame.slot_fits covered) inside

theorem onBuffer_of_ok {α : Type} {action : Buffer.Action α} {value : α}
    {flattener : Flattener} {buffer : Buffer}
    (ran : action flattener.buffer = .ok value buffer) :
    onBuffer action flattener = .ok value { flattener with buffer } := by
  unfold onBuffer
  rw [ran]

theorem onBuffer_of_error {α : Type} {action : Buffer.Action α}
    {flattener : Flattener} {buffer : Buffer} {fault : Fault}
    (failed : action flattener.buffer = .error fault buffer) :
    onBuffer action flattener = .error fault { flattener with buffer } := by
  unfold onBuffer
  rw [failed]

theorem onBuffer_ok {α : Type} {action : Buffer.Action α} {value : α}
    {flattener after : Flattener}
    (ran : onBuffer action flattener = .ok value after) :
    action flattener.buffer = .ok value after.buffer := by
  unfold onBuffer at ran
  cases acting : action flattener.buffer with
  | error fault buffer =>
      rw [acting] at ran
      cases ran
  | ok _ buffer =>
      rw [acting] at ran
      cases ran
      rfl

theorem onBuffer_shrinkToFit_ok {allocator : Allocator}
    {flattener after : Flattener}
    (ran : onBuffer (Buffer.shrinkToFit allocator) flattener = .ok () after) :
    after.buffer.bytes = flattener.buffer.bytes := by
  rw [Buffer.shrinkToFit_ok (onBuffer_ok ran)]

theorem writeNull_eq {slot : Option Slot} {flattener : Flattener}
    (fits : Fits slot flattener.position) :
    writeNull slot flattener =
      .ok () (flattener.withBytes (mark slot none flattener.buffer.bytes)) := by
  cases slot with
  | none => rfl
  | some slot =>
      exact onBuffer_of_ok (Buffer.writeWord_of_inside (fits slot rfl))

theorem writeOffset_eq {slot : Option Slot} {target : Nat}
    {flattener : Flattener} (fits : Fits slot flattener.position) :
    writeOffset target slot flattener =
      .ok () (flattener.withBytes
        (mark slot (some target) flattener.buffer.bytes)) := by
  cases slot with
  | none => rfl
  | some slot =>
      exact onBuffer_of_ok (Buffer.writeWord_of_inside (fits slot rfl))

theorem placementAlignment_pos (align : Nat) : 0 < placementAlignment align :=
  Nat.lt_of_lt_of_le (by decide) (Nat.le_max_right align leastAlignment)

def padded (position align : Nat) (block : Bytes) : Bytes :=
  List.replicate (gap position (placementAlignment align)) 0 ++ block

def blockStart (position align : Nat) : Nat :=
  position + gap position (placementAlignment align)

section Enter

variable {allocator : Allocator} {memory : Memory}
  {field align size stride : Nat} {flattener : Flattener}

theorem enterElements_of_slot_error {fault : Fault}
    (failed : flattener.slotAt field = .error fault) :
    enterElements allocator memory field align size stride flattener =
      .error fault flattener := by
  unfold enterElements
  refine Action.bind_of_error ?_
  rw [slotOf_eq, failed]

theorem enterElements_of_null {slot : Option Slot}
    (found : flattener.slotAt field = .ok slot)
    (fits : Fits slot flattener.position) (null : memory.word field = 0) :
    enterElements allocator memory field align size stride flattener =
      .ok false
        (flattener.withBytes (mark slot none flattener.buffer.bytes)) := by
  unfold enterElements
  rw [Action.bind_of_ok (by rw [slotOf_eq, found])]
  simp only [if_pos null]
  exact Action.bind_of_ok (writeNull_eq fits)

theorem enterElements_of_present {slot : Option Slot}
    (found : flattener.slotAt field = .ok slot)
    (present : memory.word field ≠ 0) :
    enterElements allocator memory field align size stride flattener =
      (do
        onBuffer (Buffer.reserve allocator
          (gap flattener.position (placementAlignment align) + size))
        onBuffer (Buffer.alignTo allocator (placementAlignment align))
        writeOffset (blockStart flattener.position align) slot
        discard (onBuffer
          (Buffer.append allocator (memory.load (memory.word field) size)))
        openFrame ⟨memory.word field, size, stride,
          blockStart flattener.position align⟩
        return true : Action Bool) flattener := by
  have rounded := roundUp_eq_add_gap (placementAlignment_pos align)
    flattener.position
  have got : (get : Action Flattener) flattener = .ok flattener flattener := rfl
  unfold enterElements
  rw [Action.bind_of_ok (by rw [slotOf_eq, found])]
  simp only [if_neg present]
  rw [Action.bind_of_ok got, rounded, Nat.add_sub_cancel_left]
  rfl

theorem enterElements_of_reserve_error {slot : Option Slot} {fault : Fault}
    {buffer : Buffer} (found : flattener.slotAt field = .ok slot)
    (present : memory.word field ≠ 0)
    (failed : Buffer.reserve allocator
      (gap flattener.position (placementAlignment align) + size)
      flattener.buffer = .error fault buffer) :
    enterElements allocator memory field align size stride flattener =
      .error fault flattener := by
  have same := Buffer.reserve_error failed
  subst same
  rw [enterElements_of_present found present]
  exact Action.bind_of_error (onBuffer_of_error failed)

theorem enterElements_of_unsupported {slot : Option Slot} {reserved : Buffer}
    (found : flattener.slotAt field = .ok slot)
    (present : memory.word field ≠ 0)
    (reserving : Buffer.reserve allocator
      (gap flattener.position (placementAlignment align) + size)
      flattener.buffer = .ok () reserved)
    (unsupported : ¬ (isPowerOfTwo (placementAlignment align) ∧
      placementAlignment align ≤ storageAlignment)) :
    enterElements allocator memory field align size stride flattener =
      .error .unsupportedAlignment { flattener with buffer := reserved } := by
  rw [enterElements_of_present found present,
    Action.bind_of_ok (onBuffer_of_ok reserving)]
  exact Action.bind_of_error
    (onBuffer_of_error (Buffer.alignTo_unsupported unsupported))

/-- The upfront reservation covers the padding and the block, so nothing after
it can fail. -/
theorem enterElements_of_reserved {slot : Option Slot} {reserved : Buffer}
    (found : flattener.slotAt field = .ok slot)
    (fits : Fits slot flattener.position)
    (present : memory.word field ≠ 0)
    (reserving : Buffer.reserve allocator
      (gap flattener.position (placementAlignment align) + size)
      flattener.buffer = .ok () reserved)
    (supported : isPowerOfTwo (placementAlignment align) ∧
      placementAlignment align ≤ storageAlignment) :
    enterElements allocator memory field align size stride flattener =
      .ok true
        { buffer := {
            bytes :=
              mark slot (some (blockStart flattener.position align))
                flattener.buffer.bytes ++
              padded flattener.position align
                (memory.load (memory.word field) size)
            capacity := reserved.capacity }
          frames := ⟨memory.word field, size, stride,
            blockStart flattener.position align⟩ :: flattener.frames } := by
  obtain ⟨bytes_eq, room, -⟩ := Buffer.reserve_ok reserving
  obtain ⟨bytes, capacity⟩ := reserved
  change bytes = flattener.buffer.bytes at bytes_eq
  subst bytes_eq
  change _ ≤ capacity - flattener.position at room
  let zeros : Bytes :=
    List.replicate (gap flattener.position (placementAlignment align)) 0
  let target := some (blockStart flattener.position align)
  have zerosLength : zeros.length =
      gap flattener.position (placementAlignment align) :=
    List.length_replicate
  have aligning : Buffer.alignTo allocator (placementAlignment align)
      ⟨flattener.buffer.bytes, capacity⟩ =
        .ok () ⟨flattener.buffer.bytes ++ zeros, capacity⟩ :=
    Buffer.alignTo_of_room supported (Nat.le_trans (Nat.le_add_right _ _) room)
  have longer : Fits slot (flattener.buffer.bytes ++ zeros).length := by
    intro place member
    have inside := fits place member
    rw [List.length_append]
    exact Nat.le_trans inside (Nat.le_add_right _ _)
  have marking : mark slot target (flattener.buffer.bytes ++ zeros) =
      mark slot target flattener.buffer.bytes ++ zeros := mark_append fits
  have length : (mark slot target (flattener.buffer.bytes ++ zeros)).length =
      flattener.position + zeros.length := by
    rw [mark_length longer, List.length_append]
    rfl
  have appending : Buffer.append allocator
      (memory.load (memory.word field) size)
      ⟨mark slot target (flattener.buffer.bytes ++ zeros), capacity⟩ = _ :=
    Buffer.append_of_room (by
      change (memory.load _ size).length ≤ capacity - List.length _
      rw [length, Memory.load_length, zerosLength]
      omega)
  rw [enterElements_of_present found present,
    Action.bind_of_ok (onBuffer_of_ok reserving),
    Action.bind_of_ok (onBuffer_of_ok aligning),
    Action.bind_of_ok (writeOffset_eq longer),
    Action.bind_of_ok (Action.discard_of_ok (onBuffer_of_ok appending))]
  simp only [marking, padded, List.append_assoc, zeros, target]
  rfl

inductive Entering (allocator : Allocator) (memory : Memory)
    (field align size stride : Nat) (flattener : Flattener) :
    EStateM.Result Fault Flattener Bool → Prop where
  | outside {fault : Fault} (failed : flattener.slotAt field = .error fault) :
      Entering allocator memory field align size stride flattener
        (.error fault flattener)
  | null {slot : Option Slot} (found : flattener.slotAt field = .ok slot)
      (null : memory.word field = 0) :
      Entering allocator memory field align size stride flattener
        (.ok false
          (flattener.withBytes (mark slot none flattener.buffer.bytes)))
  | full {slot : Option Slot} {fault : Fault} {buffer : Buffer}
      (found : flattener.slotAt field = .ok slot)
      (present : memory.word field ≠ 0)
      (failed : Buffer.reserve allocator
        (gap flattener.position (placementAlignment align) + size)
        flattener.buffer = .error fault buffer) :
      Entering allocator memory field align size stride flattener
        (.error fault flattener)
  | unsupported {slot : Option Slot} {reserved : Buffer}
      (found : flattener.slotAt field = .ok slot)
      (present : memory.word field ≠ 0)
      (reserving : Buffer.reserve allocator
        (gap flattener.position (placementAlignment align) + size)
        flattener.buffer = .ok () reserved)
      (unsupported : ¬ (isPowerOfTwo (placementAlignment align) ∧
        placementAlignment align ≤ storageAlignment)) :
      Entering allocator memory field align size stride flattener
        (.error .unsupportedAlignment { flattener with buffer := reserved })
  | entered {slot : Option Slot} {reserved : Buffer} {after : Flattener}
      (found : flattener.slotAt field = .ok slot)
      (present : memory.word field ≠ 0)
      (reserving : Buffer.reserve allocator
        (gap flattener.position (placementAlignment align) + size)
        flattener.buffer = .ok () reserved)
      (supported : isPowerOfTwo (placementAlignment align) ∧
        placementAlignment align ≤ storageAlignment)
      (left : after =
        { buffer := {
            bytes :=
              mark slot (some (blockStart flattener.position align))
                flattener.buffer.bytes ++
              padded flattener.position align
                (memory.load (memory.word field) size)
            capacity := reserved.capacity }
          frames := ⟨memory.word field, size, stride,
            blockStart flattener.position align⟩ :: flattener.frames }) :
      Entering allocator memory field align size stride flattener
        (.ok true after)

theorem WellFormed.entering (wf : flattener.WellFormed)
    {result : EStateM.Result Fault Flattener Bool}
    (ran : enterElements allocator memory field align size stride flattener =
      result) :
    Entering allocator memory field align size stride flattener result := by
  rw [← ran]
  cases found : flattener.slotAt field with
  | error fault =>
      rw [enterElements_of_slot_error found]
      exact .outside found
  | ok slot =>
      by_cases null : memory.word field = 0
      · rw [enterElements_of_null found (wf.fits found) null]
        exact .null found null
      · cases reserving : Buffer.reserve allocator
            (gap flattener.position (placementAlignment align) + size)
            flattener.buffer with
        | error fault buffer =>
            rw [enterElements_of_reserve_error found null reserving]
            exact .full found null reserving
        | ok _ reserved =>
            by_cases supported : isPowerOfTwo (placementAlignment align) ∧
                placementAlignment align ≤ storageAlignment
            · rw [enterElements_of_reserved found (wf.fits found) null
                reserving supported]
              exact .entered found null reserving supported rfl
            · rw [enterElements_of_unsupported found null reserving supported]
              exact .unsupported found null reserving supported

end Enter

theorem enterArray_eq (allocator : Allocator) (memory : Memory)
    (field : Nat) (layout : Layout) (count : Nat) (flattener : Flattener) :
    enterArray allocator memory field layout count flattener =
      if layout.size * count < wordLimit then
        enterElements allocator memory field layout.align
          (layout.size * count) layout.size flattener
      else .error .capacityOverflow flattener := by
  unfold enterArray
  by_cases small : layout.size * count < wordLimit
  · rw [if_pos small, if_pos small]
  · rw [if_neg small, if_neg small]
    exact Action.bind_of_error rfl

section AddString

variable {allocator : Allocator} {memory : Memory} {field : Nat}
  {flattener : Flattener}

theorem addString_of_slot_error {fault : Fault}
    (failed : flattener.slotAt field = .error fault) :
    addString allocator memory field flattener = .error fault flattener := by
  unfold addString
  refine Action.bind_of_error ?_
  rw [slotOf_eq, failed]

theorem addString_of_null {slot : Option Slot}
    (found : flattener.slotAt field = .ok slot)
    (fits : Fits slot flattener.position) (null : memory.word field = 0) :
    addString allocator memory field flattener =
      .ok () (flattener.withBytes
        (mark slot none flattener.buffer.bytes)) := by
  unfold addString
  rw [Action.bind_of_ok (by rw [slotOf_eq, found])]
  simp only [if_pos null]
  exact writeNull_eq fits

theorem addString_of_unterminated {slot : Option Slot}
    (found : flattener.slotAt field = .ok slot)
    (present : memory.word field ≠ 0)
    (endless : memory.string? (memory.word field) = none) :
    addString allocator memory field flattener =
      .error (.unterminatedString (memory.word field)) flattener := by
  unfold addString
  rw [Action.bind_of_ok (by rw [slotOf_eq, found])]
  simp only [if_neg present, endless]
  rfl

theorem addString_of_text {slot : Option Slot} {text : Bytes}
    (found : flattener.slotAt field = .ok slot)
    (present : memory.word field ≠ 0)
    (ends : memory.string? (memory.word field) = some text) :
    addString allocator memory field flattener =
      (do
        onBuffer (Buffer.reserve allocator text.length)
        writeOffset (← get).position slot
        discard (onBuffer (Buffer.append allocator text)) :
          Action Unit) flattener := by
  unfold addString
  rw [Action.bind_of_ok (by rw [slotOf_eq, found])]
  simp only [if_neg present, ends]

theorem addString_of_reserve_error {slot : Option Slot} {text : Bytes}
    {fault : Fault} {buffer : Buffer}
    (found : flattener.slotAt field = .ok slot)
    (present : memory.word field ≠ 0)
    (ends : memory.string? (memory.word field) = some text)
    (failed : Buffer.reserve allocator text.length flattener.buffer =
      .error fault buffer) :
    addString allocator memory field flattener = .error fault flattener := by
  have same := Buffer.reserve_error failed
  subst same
  rw [addString_of_text found present ends]
  exact Action.bind_of_error (onBuffer_of_error failed)

theorem addString_of_reserved {slot : Option Slot} {text : Bytes}
    {reserved : Buffer} (found : flattener.slotAt field = .ok slot)
    (fits : Fits slot flattener.position)
    (present : memory.word field ≠ 0)
    (ends : memory.string? (memory.word field) = some text)
    (reserving : Buffer.reserve allocator text.length flattener.buffer =
      .ok () reserved) :
    addString allocator memory field flattener =
      .ok ()
        { buffer := {
            bytes :=
              mark slot (some flattener.position) flattener.buffer.bytes ++
                text
            capacity := reserved.capacity }
          frames := flattener.frames } := by
  obtain ⟨bytes_eq, room, -⟩ := Buffer.reserve_ok reserving
  obtain ⟨bytes, capacity⟩ := reserved
  change bytes = flattener.buffer.bytes at bytes_eq
  subst bytes_eq
  have length :
      (mark slot (some flattener.position) flattener.buffer.bytes).length =
        flattener.position := mark_length fits
  have appending : Buffer.append allocator text
      ⟨mark slot (some flattener.position) flattener.buffer.bytes,
        capacity⟩ = _ :=
    Buffer.append_of_room (by
      change text.length ≤ capacity - List.length _
      rw [length]
      exact room)
  let before : Flattener :=
    ⟨⟨flattener.buffer.bytes, capacity⟩, flattener.frames⟩
  have got : (get : Action Flattener) before = .ok before before := rfl
  have marking : writeOffset flattener.position slot before = .ok () _ :=
    writeOffset_eq fits
  rw [addString_of_text found present ends,
    Action.bind_of_ok (onBuffer_of_ok reserving), Action.bind_of_ok got]
  exact (Action.bind_of_ok marking).trans
    (Action.discard_of_ok (onBuffer_of_ok appending))

inductive AddingString (allocator : Allocator) (memory : Memory) (field : Nat)
    (flattener : Flattener) : EStateM.Result Fault Flattener Unit → Prop where
  | outside {fault : Fault} (failed : flattener.slotAt field = .error fault) :
      AddingString allocator memory field flattener (.error fault flattener)
  | null {slot : Option Slot} (found : flattener.slotAt field = .ok slot)
      (null : memory.word field = 0) :
      AddingString allocator memory field flattener
        (.ok () (flattener.withBytes (mark slot none flattener.buffer.bytes)))
  | unterminated {slot : Option Slot}
      (found : flattener.slotAt field = .ok slot)
      (present : memory.word field ≠ 0)
      (endless : memory.string? (memory.word field) = none) :
      AddingString allocator memory field flattener
        (.error (.unterminatedString (memory.word field)) flattener)
  | full {slot : Option Slot} {text : Bytes} {fault : Fault} {buffer : Buffer}
      (found : flattener.slotAt field = .ok slot)
      (present : memory.word field ≠ 0)
      (ends : memory.string? (memory.word field) = some text)
      (failed : Buffer.reserve allocator text.length flattener.buffer =
        .error fault buffer) :
      AddingString allocator memory field flattener (.error fault flattener)
  | added {slot : Option Slot} {text : Bytes} {reserved : Buffer}
      {after : Flattener} (found : flattener.slotAt field = .ok slot)
      (present : memory.word field ≠ 0)
      (ends : memory.string? (memory.word field) = some text)
      (reserving : Buffer.reserve allocator text.length flattener.buffer =
        .ok () reserved)
      (left : after =
        { buffer := {
            bytes :=
              mark slot (some flattener.position) flattener.buffer.bytes ++
                text
            capacity := reserved.capacity }
          frames := flattener.frames }) :
      AddingString allocator memory field flattener (.ok () after)

theorem WellFormed.addingString (wf : flattener.WellFormed)
    {result : EStateM.Result Fault Flattener Unit}
    (ran : addString allocator memory field flattener = result) :
    AddingString allocator memory field flattener result := by
  rw [← ran]
  cases found : flattener.slotAt field with
  | error fault =>
      rw [addString_of_slot_error found]
      exact .outside found
  | ok slot =>
      by_cases null : memory.word field = 0
      · rw [addString_of_null found (wf.fits found) null]
        exact .null found null
      · cases ends : memory.string? (memory.word field) with
        | none =>
            rw [addString_of_unterminated found null ends]
            exact .unterminated found null ends
        | some text =>
            cases reserving :
                Buffer.reserve allocator text.length flattener.buffer with
            | error fault buffer =>
                rw [addString_of_reserve_error found null ends reserving]
                exact .full found null ends reserving
            | ok _ reserved =>
                rw [addString_of_reserved found (wf.fits found) null ends
                  reserving]
                exact .added found null ends reserving rfl

end AddString

theorem clear_of_slot {field : Nat} {flattener : Flattener} {slot : Slot}
    (found : flattener.slotAt field = .ok (some slot))
    (fits : Fits (some slot) flattener.position) :
    clear field flattener =
      .ok () (flattener.withBytes
        (mark (some slot) none flattener.buffer.bytes)) := by
  unfold clear
  rw [Action.bind_of_ok (by rw [slotOf_eq, found])]
  exact writeNull_eq fits

theorem clear_ok {field : Nat} {flattener after : Flattener}
    (wf : flattener.WellFormed) (ran : clear field flattener = .ok () after) :
    ∃ slot, flattener.slotAt field = .ok (some slot) ∧
      after = flattener.withBytes
        (mark (some slot) none flattener.buffer.bytes) := by
  unfold clear at ran
  cases found : flattener.slotAt field with
  | error fault =>
      rw [Action.bind_of_error (by rw [slotOf_eq, found])] at ran
      cases ran
  | ok slot =>
      rw [Action.bind_of_ok (by rw [slotOf_eq, found])] at ran
      cases slot with
      | none => cases ran
      | some slot =>
          refine ⟨slot, rfl, ?_⟩
          have marked := (writeNull_eq (wf.fits found)).symm.trans ran
          cases marked
          rfl

theorem clear_error {field : Nat} {flattener after : Flattener}
    {fault : Fault} (wf : flattener.WellFormed)
    (failed : clear field flattener = .error fault after) :
    after = flattener ∧
      (flattener.slotAt field = .error fault ∨
        fault = .noOpenFrame ∧ flattener.frames = []) := by
  unfold clear at failed
  cases found : flattener.slotAt field with
  | error cause =>
      rw [Action.bind_of_error (by rw [slotOf_eq, found])] at failed
      cases failed
      exact ⟨rfl, .inl rfl⟩
  | ok slot =>
      rw [Action.bind_of_ok (by rw [slotOf_eq, found])] at failed
      cases slot with
      | none =>
          cases failed
          exact ⟨rfl, .inr ⟨rfl, slotAt_eq_none found⟩⟩
      | some slot => cases (writeNull_eq (wf.fits found)).symm.trans failed

theorem leave_ok {flattener after : Flattener}
    (ran : leave flattener = .ok () after) :
    ∃ frame rest, flattener.frames = frame :: rest ∧
      after = { flattener with frames := rest } := by
  unfold leave at ran
  cases opened : flattener.frames with
  | nil =>
      rw [opened] at ran
      cases ran
  | cons frame rest =>
      rw [opened] at ran
      cases ran
      exact ⟨frame, rest, rfl, rfl⟩

theorem leave_error {flattener after : Flattener} {fault : Fault}
    (failed : leave flattener = .error fault after) :
    after = flattener ∧ fault = .noOpenFrame ∧ flattener.frames = [] := by
  unfold leave at failed
  cases opened : flattener.frames with
  | nil =>
      rw [opened] at failed
      cases failed
      exact ⟨rfl, rfl, rfl⟩
  | cons frame rest =>
      rw [opened] at failed
      cases failed

theorem padded_length (position align : Nat) (block : Bytes) :
    (padded position align block).length =
      gap position (placementAlignment align) + block.length := by
  rw [padded, List.length_append, List.length_replicate]

theorem WellFormed.marked {flattener : Flattener} (wf : flattener.WellFormed)
    {slot : Option Slot} (fits : Fits slot flattener.position)
    (target : Option Nat) :
    (flattener.withBytes
      (mark slot target flattener.buffer.bytes)).WellFormed := by
  have length :
      (mark slot target flattener.buffer.bytes).length =
        flattener.position := mark_length fits
  refine ⟨wf.valid.of_length_eq length rfl, ?_⟩
  intro frame member
  have inside := wf.inside frame member
  change frame.target + frame.size ≤
    (mark slot target flattener.buffer.bytes).length
  rw [length]
  exact inside

theorem WellFormed.extended {flattener : Flattener}
    (wf : flattener.WellFormed) {slot : Option Slot}
    (fits : Fits slot flattener.position) (target : Option Nat)
    {allocator : Allocator} {extra : Bytes} {reserved : Buffer}
    (reserving : Buffer.reserve allocator extra.length flattener.buffer =
      .ok () reserved)
    {frames : List Frame}
    (inside : ∀ frame ∈ frames,
      frame.target + frame.size ≤ flattener.position + extra.length) :
    (Flattener.mk
      ⟨mark slot target flattener.buffer.bytes ++ extra, reserved.capacity⟩
      frames).WellFormed := by
  have reservation := Buffer.reserve_ok reserving
  have valid := reservation.valid wf.valid
  have room := reservation.room
  have least := valid.length_le_capacity
  have length :
      (mark slot target flattener.buffer.bytes ++ extra).length =
        flattener.position + extra.length := by
    rw [List.length_append, mark_length fits]
    rfl
  rw [reservation.length_eq] at room least
  change extra.length ≤ reserved.capacity - flattener.position at room
  change flattener.position ≤ reserved.capacity at least
  refine ⟨⟨?_, valid.capacity_le_max, valid.aligned⟩, ?_⟩
  · change (mark slot target flattener.buffer.bytes ++ extra).length ≤
      reserved.capacity
    omega
  · intro frame member
    have bounded := inside frame member
    change frame.target + frame.size ≤
      (mark slot target flattener.buffer.bytes ++ extra).length
    omega

theorem WellFormed.enterElements_ok {allocator : Allocator} {memory : Memory}
    {field align size stride : Nat} {flattener after : Flattener}
    {present : Bool} (wf : flattener.WellFormed)
    (ran : enterElements allocator memory field align size stride flattener =
      .ok present after) : after.WellFormed := by
  cases wf.entering ran with
  | null found null => exact wf.marked (wf.fits found) none
  | entered found here reserving supported left =>
      subst left
      have length := padded_length flattener.position align
        (memory.load (memory.word field) size)
      rw [Memory.load_length] at length
      rw [← length] at reserving
      refine wf.extended (wf.fits found) _ reserving ?_
      intro frame member
      rcases List.mem_cons.mp member with rfl | older
      · change flattener.position + _ + size ≤ _
        omega
      · have inside := wf.inside frame older
        omega

theorem WellFormed.enterElements_error {allocator : Allocator}
    {memory : Memory} {field align size stride : Nat}
    {flattener after : Flattener} {fault : Fault} (wf : flattener.WellFormed)
    (failed : enterElements allocator memory field align size stride
      flattener = .error fault after) :
    after.WellFormed ∧ after.buffer.bytes = flattener.buffer.bytes ∧
      after.frames = flattener.frames := by
  cases wf.entering failed with
  | outside failed => exact ⟨wf, rfl, rfl⟩
  | full found here failed => exact ⟨wf, rfl, rfl⟩
  | @unsupported slot reserved found here reserving unsupported =>
      have reservation := Buffer.reserve_ok reserving
      refine ⟨⟨reservation.valid wf.valid, ?_⟩, reservation.bytes_eq, rfl⟩
      intro frame member
      have inside := wf.inside frame member
      change frame.target + frame.size ≤ reserved.length
      rw [reservation.length_eq]
      exact inside

theorem WellFormed.addString_ok {allocator : Allocator} {memory : Memory}
    {field : Nat} {flattener after : Flattener} (wf : flattener.WellFormed)
    (ran : addString allocator memory field flattener = .ok () after) :
    after.WellFormed := by
  cases wf.addingString ran with
  | null found null => exact wf.marked (wf.fits found) none
  | added found here ends reserving left =>
      subst left
      refine wf.extended (wf.fits found) _ reserving ?_
      intro frame member
      exact Nat.le_trans (wf.inside frame member) (Nat.le_add_right _ _)

theorem WellFormed.addString_error {allocator : Allocator} {memory : Memory}
    {field : Nat} {flattener after : Flattener} {fault : Fault}
    (wf : flattener.WellFormed)
    (failed : addString allocator memory field flattener =
      .error fault after) : after = flattener := by
  cases wf.addingString failed with
  | outside failed => rfl
  | unterminated found here endless => rfl
  | full found here ends failed => rfl

theorem WellFormed.clear_ok {field : Nat} {flattener after : Flattener}
    (wf : flattener.WellFormed)
    (ran : clear field flattener = .ok () after) : after.WellFormed := by
  obtain ⟨slot, found, rfl⟩ := Flattener.clear_ok wf ran
  exact wf.marked (wf.fits found) none

theorem WellFormed.leave_ok {flattener after : Flattener}
    (wf : flattener.WellFormed) (ran : leave flattener = .ok () after) :
    after.WellFormed := by
  obtain ⟨frame, rest, opened, rfl⟩ := Flattener.leave_ok ran
  refine ⟨wf.valid, ?_⟩
  intro other member
  exact wf.inside other (by rw [opened]; exact List.mem_cons_of_mem _ member)

section Starting

variable {allocator : Allocator} {memory : Memory} {root : Option Nat}
  {size capacity : Nat} {flattener : Flattener}

/-- The block at the root fits into the room that is made at the start, so
nothing after making it can fail. -/
theorem start_eq :
    start allocator memory root size capacity =
      (Buffer.withCapacity allocator (max size capacity)).map fun buffer =>
        ⟨⟨(root.map (memory.load · size)).getD [], buffer.capacity⟩,
          (root.map (Frame.single · size 0)).toList⟩ := by
  unfold start
  cases created : Buffer.withCapacity allocator (max size capacity) with
  | error fault => rfl
  | ok buffer =>
      cases root with
      | none =>
          obtain ⟨bytes, room⟩ := buffer
          obtain ⟨-, rfl, -⟩ := Buffer.withCapacity_ok created
          rfl
      | some address =>
          have fits : (memory.load address size).length ≤ max size capacity :=
            (Memory.load_length ..).symm ▸ Nat.le_max_left _ _
          simp only [Except.bind, Except.map,
            Buffer.append_of_created created fits]
          rfl

theorem start_ok
    (started : start allocator memory root size capacity = .ok flattener) :
    flattener.WellFormed ∧
      flattener.buffer.bytes =
        (root.map (memory.load · size)).getD [] ∧
      flattener.frames =
        (root.map (Frame.single · size 0)).toList := by
  rw [start_eq] at started
  obtain ⟨buffer, created, rfl⟩ := ok_of_map_ok started
  obtain ⟨valid, -, rounded⟩ := Buffer.withCapacity_ok created
  have enough := le_roundUp (by decide : 0 < storageAlignment)
    (max size capacity)
  refine ⟨⟨⟨?_, valid.capacity_le_max, valid.aligned⟩, ?_⟩, rfl, rfl⟩
  · cases root with
    | none => exact Nat.zero_le _
    | some address =>
        change (memory.load address size).length ≤ buffer.capacity
        rw [Memory.load_length, rounded]
        omega
  · intro frame member
    cases root with
    | none => cases member
    | some address =>
        cases List.mem_singleton.mp member
        change 0 + size ≤ (memory.load address size).length
        rw [Memory.load_length, Nat.zero_add]

theorem start_capacity
    (started : start allocator memory root size capacity = .ok flattener) :
    flattener.buffer.capacity =
      roundUp (max size capacity) storageAlignment := by
  rw [start_eq] at started
  obtain ⟨buffer, created, rfl⟩ := ok_of_map_ok started
  exact (Buffer.withCapacity_ok created).2.2

end Starting

end Flattener

end FlatGraph
