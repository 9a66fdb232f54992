import FlatGraph.Buffer.Basic
import FlatGraph.Frame
import FlatGraph.Memory

/-!
Flattening a graph of structures into one buffer. The caller walks the graph:
it enters the targets of pointer fields, copies strings, clears fields, and
leaves structures again. Each visited field of a copy is overwritten with an
offset from the structure that contains it.
-/

namespace FlatGraph

structure Layout where
  size : Nat
  align : Nat
  deriving DecidableEq, Repr

/-- The output so far, and the open structures, innermost first. -/
structure Flattener where
  buffer : Buffer
  frames : List Frame
  deriving Repr

namespace Flattener

abbrev Action := EStateM Fault Flattener

def position (flattener : Flattener) : Nat := flattener.buffer.length

def depth (flattener : Flattener) : Nat := flattener.frames.length

def onBuffer {α : Type} (action : Buffer.Action α) : Action α :=
  fun flattener =>
    match action flattener.buffer with
    | .ok value buffer => .ok value { flattener with buffer }
    | .error fault buffer => .error fault { flattener with buffer }

structure Slot where
  position : Nat
  frame : Frame

def slotOf (field : Nat) : Action (Option Slot) := fun flattener =>
  match flattener.frames with
  | [] => .ok none flattener
  | frame :: _ =>
      match frame.slot field with
      | .ok position => .ok (some ⟨position, frame⟩) flattener
      | .error fault => .error fault flattener

def writeNull : Option Slot → Action Unit
  | none => pure ()
  | some slot => onBuffer (Buffer.writeWord slot.position Offset.null.raw)

def writeOffset (target : Nat) : Option Slot → Action Unit
  | none => pure ()
  | some slot =>
      onBuffer (Buffer.writeWord slot.position
        (slot.frame.offsetTo slot.position target).raw)

def openFrame (frame : Frame) : Action Unit :=
  modify fun flattener =>
    { flattener with frames := frame :: flattener.frames }

/-- Copies a block of elements to which a field points, and makes it the
innermost structure. Answers whether there was a block: null is not entered. -/
def enterElements (allocator : Allocator) (memory : Memory)
    (field align size stride : Nat) : Action Bool := do
  let slot ← slotOf field
  let address := memory.word field
  if address = 0 then
    writeNull slot
    return false
  let start := (← get).position
  let target := roundUp start (placementAlignment align)
  onBuffer (Buffer.reserve allocator (target - start + size))
  onBuffer (Buffer.alignTo allocator (placementAlignment align))
  writeOffset target slot
  discard (onBuffer (Buffer.append allocator (memory.load address size)))
  openFrame ⟨address, size, stride, target⟩
  return true

def enterBlock (allocator : Allocator) (memory : Memory)
    (field align size : Nat) : Action Bool :=
  enterElements allocator memory field align size size

def enter (allocator : Allocator) (memory : Memory) (field : Nat)
    (layout : Layout) : Action Bool :=
  enterBlock allocator memory field layout.align layout.size

def enterArray (allocator : Allocator) (memory : Memory) (field : Nat)
    (layout : Layout) (count : Nat) : Action Bool := do
  unless layout.size * count < wordLimit do throw .capacityOverflow
  enterElements allocator memory field layout.align (layout.size * count)
    layout.size

def leave : Action Unit := fun flattener =>
  match flattener.frames with
  | [] => .error .noOpenFrame flattener
  | _ :: frames => .ok () { flattener with frames }

def addString (allocator : Allocator) (memory : Memory) (field : Nat) :
    Action Unit := do
  let slot ← slotOf field
  let address := memory.word field
  if address = 0 then writeNull slot
  else
    match memory.string? address with
    | none => throw (.unterminatedString address)
    | some text => do
        onBuffer (Buffer.reserve allocator text.length)
        writeOffset (← get).position slot
        discard (onBuffer (Buffer.append allocator text))

/-- Makes a field null in the output, whatever it is in the source. -/
def clear (field : Nat) : Action Unit := do
  match ← slotOf field with
  | none => throw .noOpenFrame
  | some slot => writeNull (some slot)

/-- A flattener whose first structure, if there is one, is the block of `size`
bytes at the root. -/
def start (allocator : Allocator) (memory : Memory) (root : Option Nat)
    (size capacity : Nat) : Except Fault Flattener :=
  (Buffer.withCapacity allocator (max size capacity)).bind fun buffer =>
    match root with
    | none => .ok ⟨buffer, []⟩
    | some address =>
        match Buffer.append allocator (memory.load address size) buffer with
        | .ok position filled =>
            .ok ⟨filled, [Frame.single address size position]⟩
        | .error fault _ => .error fault

end Flattener

end FlatGraph
