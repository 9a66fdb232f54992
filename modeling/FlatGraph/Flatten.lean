import FlatGraph.Schema

/-!
Flattening a whole value by its schema: the walk that enters every structure
and array, copies every string and clears every field that is not followed.
-/

namespace FlatGraph

/-- What a walk over a value does with the fields that it meets. -/
structure Visitor (m : Type → Type) where
  /-- Answers whether there was a structure to enter. -/
  enter (field : Nat) (layout : Layout) : m Bool
  enterArray (field : Nat) (layout : Layout) (count : Nat) : m Bool
  leave : m Unit
  addString (field : Nat) : m Unit
  clear (field : Nat) : m Unit
  /-- The walk is deeper than any value without cycles. -/
  cyclic : m Unit

def Flattener.visitor (allocator : Allocator) (memory : Memory) :
    Visitor Flattener.Action where
  enter := Flattener.enter allocator memory
  enterArray := Flattener.enterArray allocator memory
  leave := Flattener.leave
  addString := Flattener.addString allocator memory
  clear := Flattener.clear
  cyclic := throw .cyclicGraph

def Flattener.outcome (action : Flattener.Action Unit)
    (flattener : Flattener) : Except Fault Buffer :=
  match action flattener with
  | .ok _ finished => .ok finished.buffer
  | .error fault _ => .error fault

namespace Schema

variable {count : Nat}

section Walk

variable {m : Type → Type} [Monad m] (visitor : Visitor m) (memory : Memory)
  (schema : Schema count)

def visitLink (visit : Fin count → Nat → m Unit) (address : Nat)
    (link : Link count) : m Unit := do
  let field := address + link.offset
  match link.target with
  | .structure target =>
      if ← visitor.enter field (schema target).layout then
        visit target (memory.word field)
        visitor.leave
  | .array target length =>
      let elements := length.read memory address
      let layout := (schema target).layout
      if ← visitor.enterArray field layout elements then
        unless schema.isPlain target do
          forElements (visit target) layout.size elements (memory.word field)
        visitor.leave
  | .string => visitor.addString field
  | .nothing => visitor.clear field

/-- Visits all that the structure at an address leads to. The structure, or
the array around it, is the innermost one. -/
def visitLinks : (depth : Nat) → Fin count → Nat → m Unit
  | 0, _, _ => visitor.cyclic
  | depth + 1, type, address =>
      (schema type).links.forM
        (visitLink visitor memory schema (visitLinks depth) address)

def visitValue (type : Fin count) (address : Nat) : m Unit := do
  visitLinks visitor memory schema (depthBound count) type address
  visitor.leave

/-- Elements without links need no loop: it would do nothing. -/
theorem forElements_visitLinks [LawfulMonad m] {type : Fin count}
    (isPlain : schema.isPlain type = true)
    (depth stride elements first : Nat) :
    forElements (visitLinks visitor memory schema (depth + 1) type) stride
      elements first = pure () := by
  apply forElements_of_pure
  intro address
  rw [visitLinks, links_of_isPlain isPlain]
  rfl

end Walk

/-- The value at an address as one flat buffer, trimmed to its length. -/
def flatten (allocator : Allocator) (memory : Memory) (schema : Schema count)
    (type : Fin count) (root capacity : Nat) : Except Fault Buffer :=
  (Flattener.start allocator memory (some root) (schema type).layout.size
    capacity).bind (Flattener.outcome do
      visitValue (Flattener.visitor allocator memory) memory schema type root
      Flattener.onBuffer (Buffer.shrinkToFit allocator))

end Schema

end FlatGraph
