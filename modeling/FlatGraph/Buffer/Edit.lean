import FlatGraph.Buffer.Basic
import FlatGraph.View

/-!
Edits of a buffer as data, so that a whole history of them can be run. An
edit that fails is reported, and the history goes on from the state it left.
-/

namespace FlatGraph

namespace Buffer

inductive Edit where
  | ensure (capacity : Nat)
  | reserve (additional : Nat)
  | alignTo (alignment : Nat)
  | append (bytes : Bytes)
  | writeWord (position value : Nat)
  | readWord (position : Nat)
  | setByte (position : Nat) (byte : UInt8)
  | shrinkToFit
  | relocate
  | isEmpty
  | contents
  | debug
  /-- Whether the buffer begins at a multiple of the storage alignment, as the
  memory behind a buffer always does. -/
  | startAligned
  | view (query : View.Query)
  deriving Repr

inductive Reply where
  | done
  | position (value : Nat)
  | word (value : Option Nat)
  | flag (value : Bool)
  | text (value : String)
  | bytes (value : Bytes)
  | view (answer : Except Fault View.Answer)

/-- The buffer is replaced by a copy of itself somewhere else. -/
def relocate (allocator : Allocator) : Action Unit := fun buffer =>
  match ofBytes allocator buffer.bytes with
  | .ok copy => .ok () copy
  | .error fault => .error fault buffer

def Edit.run (allocator : Allocator) : Edit → Action Reply
  | .ensure capacity => do Buffer.ensure allocator capacity; return .done
  | .reserve additional => do Buffer.reserve allocator additional; return .done
  | .alignTo alignment => do Buffer.alignTo allocator alignment; return .done
  | .append bytes => return .position (← Buffer.append allocator bytes)
  | .writeWord position value => do
      Buffer.writeWord position value
      return .done
  | .readWord position => return .word ((← get).readWord? position)
  | .setByte position byte => do Buffer.setByte position byte; return .done
  | .shrinkToFit => do Buffer.shrinkToFit allocator; return .done
  | .relocate => do Buffer.relocate allocator; return .done
  | .isEmpty => return .flag (← get).bytes.isEmpty
  | .contents => return .bytes (← get).bytes
  | .debug => return .text (← get).debugText
  | .startAligned => return .flag true
  | .view query => return .view (View.answer (← get).bytes query)

structure Outcome where
  reply : Except Fault Reply
  after : Buffer

def Edit.outcome (allocator : Allocator) (edit : Edit) (buffer : Buffer) :
    Outcome :=
  match edit.run allocator buffer with
  | .ok reply after => ⟨.ok reply, after⟩
  | .error fault after => ⟨.error fault, after⟩

def runEdits (allocator : Allocator) : List Edit → Buffer → List Outcome
  | [], _ => []
  | edit :: rest, buffer =>
      let outcome := edit.outcome allocator buffer
      outcome :: runEdits allocator rest outcome.after

def afterEdits (allocator : Allocator) (edits : List Edit) (buffer : Buffer) :
    Buffer :=
  edits.foldl (fun buffer edit => (edit.outcome allocator buffer).after) buffer

end Buffer

end FlatGraph
