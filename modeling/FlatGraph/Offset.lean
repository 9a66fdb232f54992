import FlatGraph.Word

/-!
What a flattened pointer field holds: zero for null, otherwise the distance
from the start of the structure that contains the field to its target.
-/

namespace FlatGraph

structure Offset where
  raw : Nat
  deriving DecidableEq, Repr

namespace Offset

def null : Offset := ⟨0⟩

def isNull (offset : Offset) : Bool := offset.raw == 0

def target? (offset : Offset) (container : Nat) : Option Nat :=
  if offset.isNull then none
  else some ((container + offset.raw) % wordLimit)

def debugText (offset : Offset) : String :=
  "Offset(" ++ toString offset.raw ++ ")"

end Offset

end FlatGraph
