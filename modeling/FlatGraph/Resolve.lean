import FlatGraph.Pointer
import FlatGraph.Schema

/-!
Turning the offsets of a flat buffer back into addresses, wherever the buffer
has been placed: one slot at a time, or all that a value leads to.
-/

namespace FlatGraph

namespace Memory

/-- The address that a slot stands for in the structure at `container`; zero
for null. -/
def peek (memory : Memory) (container slot : Nat) : Nat :=
  ((Offset.mk (memory.word slot)).target? container).getD 0

def peekAs (memory : Memory) (kind : PointerKind) (container slot : Nat) :
    Pointer :=
  Pointer.ofAddress kind (memory.peek container slot)

def resolveSlot (memory : Memory) (container slot : Nat) : Memory :=
  memory.storeWord slot (memory.peek container slot)

def resolveAs (memory : Memory) (kind : PointerKind) (container slot : Nat) :
    Pointer × Memory :=
  let pointer := memory.peekAs kind container slot
  (pointer, memory.storeWord slot pointer.word)

end Memory

/-- What a walk over a flat value needs of the memory in which it lies. -/
structure Resolver (m : Type → Type) where
  /-- Resolves a slot of the structure at `container`; answers the address. -/
  resolve (container slot : Nat) : m Nat
  length (field : LengthField) (address : Nat) : m Nat
  cyclic : m Unit

def Memory.resolver : Resolver (StateT Memory Option) where
  resolve container slot := do
    let found := (← get).peek container slot
    modify fun memory => memory.resolveSlot container slot
    return found
  length field address := return field.read (← get) address
  cyclic := fun _ => none

namespace Schema

variable {count : Nat}

section Walk

variable {m : Type → Type} [Monad m] (resolver : Resolver m)
  (schema : Schema count)

def resolveLink (visit : Fin count → Nat → m Unit) (address : Nat)
    (link : Link count) : m Unit := do
  let found ← resolver.resolve address (address + link.offset)
  match link.target with
  | .structure target => if found ≠ 0 then visit target found
  | .array target length =>
      unless found = 0 ∨ schema.isPlain target do
        forElements (visit target) (schema target).layout.size
          (← resolver.length length address) found
  | .string => pure ()
  | .nothing => pure ()

/-- Resolves the slots of the structure at an address, and then, as it meets
them, of all that they lead to. -/
def resolveLinks : (depth : Nat) → Fin count → Nat → m Unit
  | 0, _, _ => resolver.cyclic
  | depth + 1, type, address =>
      (schema type).links.forM
        (resolveLink resolver schema (resolveLinks depth) address)

theorem forElements_resolveLinks [LawfulMonad m] {type : Fin count}
    (isPlain : schema.isPlain type = true)
    (depth stride elements first : Nat) :
    forElements (resolveLinks resolver schema (depth + 1) type) stride
      elements first = pure () := by
  apply forElements_of_pure
  intro address
  rw [resolveLinks, links_of_isPlain isPlain]
  rfl

end Walk

/-- Memory after all that the value at `base` leads to has been resolved;
nothing if the value leads back into itself. -/
def resolve (schema : Schema count) (type : Fin count) (base : Nat)
    (memory : Memory) : Option Memory :=
  (resolveLinks Memory.resolver schema (depthBound count) type base
    memory).map (·.2)

end Schema

end FlatGraph
