import FlatGraph.Word

/-!
Byte-addressed memory: the structures that are flattened lie in one, and a
flat buffer is placed in one to be resolved.
-/

namespace FlatGraph

structure Memory where
  byte : Nat → UInt8

namespace Memory

def blank : Memory := ⟨fun _ => 0⟩

def load (memory : Memory) (address length : Nat) : Bytes :=
  (List.range length).map fun index => memory.byte (address + index)

def store (memory : Memory) (address : Nat) (bytes : Bytes) : Memory :=
  let block := bytes.toArray
  ⟨fun place =>
    if address ≤ place then block.getD (place - address) (memory.byte place)
    else memory.byte place⟩

def word (memory : Memory) (address : Nat) : Nat :=
  decodeLittle (memory.load address wordSize)

def storeWord (memory : Memory) (address value : Nat) : Memory :=
  memory.store address (encodeWord value)

def storeAll (memory : Memory) (edits : List (Nat × Bytes)) : Memory :=
  edits.foldl (fun memory edit => memory.store edit.1 edit.2) memory

/-- The first zero byte at or after an address, among `fuel` bytes. -/
def firstZero? (memory : Memory) : (fuel address : Nat) → Option Nat
  | 0, _ => none
  | fuel + 1, address =>
      if memory.byte address = 0 then some address
      else firstZero? memory fuel (address + 1)

def string? (memory : Memory) (address : Nat) : Option Bytes :=
  (memory.firstZero? (wordLimit - address) address).map fun stop =>
    memory.load address (stop + 1 - address)

@[simp] theorem load_length (memory : Memory) (address length : Nat) :
    (memory.load address length).length = length := by
  simp [load]

theorem byte_store_inside (memory : Memory) (address index : Nat)
    (bytes : Bytes) (inside : index < bytes.length) :
    (memory.store address bytes).byte (address + index) = bytes[index] := by
  simp [store, inside]

theorem byte_store_outside (memory : Memory) (address place : Nat)
    (bytes : Bytes)
    (outside : place < address ∨ address + bytes.length ≤ place) :
    (memory.store address bytes).byte place = memory.byte place := by
  by_cases below : address ≤ place
  · have beyond : bytes.length ≤ place - address := by omega
    simp [store, below, beyond]
  · simp [store, below]

end Memory

end FlatGraph
