import FlatGraph.Word

/-!
The causes for which building or reading a flat buffer fails, with the wording
under which they are reported.
-/

namespace FlatGraph

inductive Fault where
  | fieldOutOfBounds (offset : Int) (size : Nat)
  | noOpenFrame
  | allocationRefused (capacity : Nat)
  | capacityOverflow
  | positionOutOfBounds (position length : Nat)
  | unterminatedString (position : Nat)
  | unsupportedAlignment
  /-- A walk that met a structure inside itself. -/
  | cyclicGraph
  | io (text : String)
  deriving DecidableEq, Repr

namespace Fault

def label : Fault → String
  | .fieldOutOfBounds _ _ => "FieldOutOfBounds"
  | .noOpenFrame => "EmptyFrameStack"
  | .allocationRefused _ => "AllocationFailed"
  | .capacityOverflow => "CapacityOverflow"
  | .positionOutOfBounds _ _ => "OffsetOutOfBounds"
  | .unterminatedString _ => "UnterminatedString"
  | .unsupportedAlignment => "Panic"
  | .cyclicGraph => "CyclicGraph"
  | .io _ => "Io"

def message : Fault → String
  | .fieldOutOfBounds offset size =>
      "field at offset " ++ toString offset ++
        " lies outside the current structure (" ++ toString size ++ " bytes)"
  | .noOpenFrame => "no structure on the frame stack"
  | .allocationRefused capacity =>
      "failed to allocate " ++ toString capacity ++ " bytes"
  | .capacityOverflow => "buffer cannot grow beyond maximum capacity"
  | .positionOutOfBounds position length =>
      "position " ++ toString position ++ " is out of bounds of buffer of " ++
        toString length ++ " bytes"
  | .unterminatedString position =>
      "string at position " ++ toString position ++ " has no terminating NUL"
  | .unsupportedAlignment =>
      "alignment must be a power of 2 no greater than STORAGE_ALIGNMENT"
  | .cyclicGraph => "structure contains itself"
  | .io text => "I/O error: " ++ text

def details : Fault → List (String × Int)
  | .fieldOutOfBounds offset size =>
      [("field_offset", offset), ("struct_size", size)]
  | .allocationRefused capacity => [("capacity", capacity)]
  | .positionOutOfBounds position length =>
      [("pos", position), ("len", length)]
  | .unterminatedString position => [("pos", position)]
  | _ => []

def record (name : String) (numbers : List (String × Int)) : String :=
  if numbers.isEmpty then name
  else
    name ++ " \x7b " ++
      ", ".intercalate (numbers.map fun entry =>
        entry.1 ++ ": " ++ toString entry.2) ++ " \x7d"

/-- The cause as a record; a failed file operation has none. -/
def debugText? (fault : Fault) : Option String :=
  match fault with
  | .io _ => none
  | fault => some (record fault.label fault.details)

def source? : Fault → Option String
  | .io text => some text
  | _ => none

end Fault

end FlatGraph
