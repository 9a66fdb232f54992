import FlatGraph.Align
import FlatGraph.Fault

/-!
A growable byte buffer with an explicit capacity. Every operation either
finishes or reports its cause; the state after a report is kept too, so that
what a failed operation leaves behind can be stated.
-/

namespace FlatGraph

abbrev Allocator := Nat → Bool

structure Buffer where
  bytes : Bytes
  capacity : Nat
  deriving DecidableEq, Repr

namespace Buffer

abbrev Action := EStateM Fault Buffer

def empty : Buffer := ⟨[], 0⟩

def length (buffer : Buffer) : Nat := buffer.bytes.length

structure Valid (buffer : Buffer) : Prop where
  length_le_capacity : buffer.length ≤ buffer.capacity
  capacity_le_max : buffer.capacity ≤ maxCapacity
  aligned : storageAlignment ∣ buffer.capacity

/-- The capacity asked for when so many bytes are needed: a power of two, or
the limit itself where the next power of two would pass it. -/
def grownCapacity? (need : Nat) : Option Nat :=
  if need ≤ 1 <<< 62 then some (max (ceilPowerOfTwo need) storageAlignment)
  else if need ≤ maxCapacity then some maxCapacity
  else none

/-- Capacity zero holds no memory and is never refused. -/
def setCapacity (allocator : Allocator) (capacity : Nat) : Action Unit :=
  fun buffer =>
    if capacity = 0 ∨ allocator capacity then .ok () { buffer with capacity }
    else .error (.allocationRefused capacity) buffer

def grow (allocator : Allocator) (need : Nat) : Action Unit :=
  match grownCapacity? need with
  | some capacity => setCapacity allocator capacity
  | none => throw .capacityOverflow

def ensure (allocator : Allocator) (capacity : Nat) : Action Unit := do
  let buffer ← get
  if buffer.capacity < capacity then grow allocator capacity

def reserve (allocator : Allocator) (additional : Nat) : Action Unit := do
  let buffer ← get
  if buffer.capacity - buffer.length < additional then
    grow allocator (buffer.length + additional)

def append (allocator : Allocator) (bytes : Bytes) : Action Nat := do
  unless bytes.isEmpty do reserve allocator bytes.length
  let buffer ← get
  set { buffer with bytes := buffer.bytes ++ bytes }
  return buffer.length

def alignTo (allocator : Allocator) (alignment : Nat) : Action Unit := do
  unless isPowerOfTwo alignment ∧ alignment ≤ storageAlignment do
    throw .unsupportedAlignment
  let buffer ← get
  let padding := roundUp buffer.length alignment - buffer.length
  discard (append allocator (List.replicate padding 0))

def hasWordAt (buffer : Buffer) (position : Nat) : Bool :=
  position + wordSize ≤ buffer.length

def patch (bytes : Bytes) (position : Nat) (replacement : Bytes) : Bytes :=
  bytes.take position ++ replacement ++
    bytes.drop (position + replacement.length)

def writeWord (position value : Nat) : Action Unit := do
  let buffer ← get
  if buffer.hasWordAt position then
    set { buffer with bytes := patch buffer.bytes position (encodeWord value) }
  else throw (.positionOutOfBounds position buffer.length)

def readWord? (buffer : Buffer) (position : Nat) : Option Nat :=
  if buffer.hasWordAt position then
    some (decodeLittle ((buffer.bytes.drop position).take wordSize))
  else none

/-- Puts a byte in the place of another. To index the contents outside their
length is to panic; here, where no fault reports it, nothing changes. -/
def setByte (position : Nat) (byte : UInt8) : Action Unit :=
  modify fun buffer => { buffer with bytes := buffer.bytes.set position byte }

def shrinkToFit (allocator : Allocator) : Action Unit := do
  let buffer ← get
  let capacity := roundUp buffer.length storageAlignment
  unless capacity = buffer.capacity do setCapacity allocator capacity

def withCapacity (allocator : Allocator) (capacity : Nat) :
    Except Fault Buffer :=
  if maxCapacity < capacity then .error .capacityOverflow
  else
    match setCapacity allocator (roundUp capacity storageAlignment) empty with
    | .ok _ buffer => .ok buffer
    | .error fault _ => .error fault

def ofBytes (allocator : Allocator) (bytes : Bytes) : Except Fault Buffer :=
  (withCapacity allocator bytes.length).bind fun buffer =>
    match append allocator bytes buffer with
    | .ok _ filled => .ok filled
    | .error fault _ => .error fault

def debugText (buffer : Buffer) : String :=
  Fault.record "AlignedBuffer"
    [("len", buffer.length), ("capacity", buffer.capacity)]

theorem patch_length {bytes replacement : Bytes} {position : Nat}
    (inside : position + replacement.length ≤ bytes.length) :
    (patch bytes position replacement).length = bytes.length := by
  simp only [patch, List.length_append, List.length_take, List.length_drop]
  omega

end Buffer

end FlatGraph
