import FlatGraph.Fault
import FlatGraph.Offset

/-!
Reading a flat buffer by position, with every access checked against the
bytes there are. Sums of positions are not bounded, so an access is accepted
exactly when its last byte exists; sums of machine words, which may wrap, come
to the same (`Checked.agrees_of_bounded`).
-/

namespace FlatGraph

namespace View

def slice (bytes : Bytes) (position length : Nat) : Except Fault Bytes :=
  if position + length ≤ bytes.length then
    .ok ((bytes.drop position).take length)
  else .error (.positionOutOfBounds position bytes.length)

def word (bytes : Bytes) (position : Nat) : Except Fault Nat :=
  (slice bytes position wordSize).map decodeLittle

def offset (bytes : Bytes) (position : Nat) : Except Fault Offset :=
  (word bytes position).map Offset.mk

def string (bytes : Bytes) (position : Nat) : Except Fault Bytes :=
  if bytes.length < position then
    .error (.positionOutOfBounds position bytes.length)
  else
    let tail := bytes.drop position
    if tail.contains 0 then .ok (tail.takeWhile (· != 0))
    else .error (.unterminatedString position)

/-- The position a sum stands for in a report: sums past the last word are
reported as the last word. -/
def reported (position : Nat) : Nat :=
  if position < wordLimit then position else wordLimit - 1

/-- Where the pointer field at distance `field` inside the structure at
`container` leads. The target may lie at the very end of the bytes. -/
def resolve (bytes : Bytes) (container field : Nat) :
    Except Fault (Option Nat) :=
  if container + field < wordLimit then
    match offset bytes (container + field) with
    | .error fault => .error fault
    | .ok offset =>
        if offset.isNull then .ok none
        else if container + offset.raw ≤ bytes.length then
          .ok (some (container + offset.raw))
        else
          .error (.positionOutOfBounds (reported (container + offset.raw))
            bytes.length)
  else .error (.positionOutOfBounds (wordLimit - 1) bytes.length)

inductive Query where
  | length
  | isEmpty
  | contents
  | word (position : Nat)
  | offset (position : Nat)
  | resolve (container field : Nat)
  | string (position : Nat)
  | slice (position length : Nat)
  deriving Repr

inductive Answer where
  | number (value : Nat)
  | flag (value : Bool)
  | bytes (value : Bytes)
  | offset (value : Offset)
  | position (value : Option Nat)
  deriving Repr

def answer (bytes : Bytes) : Query → Except Fault Answer
  | .length => .ok (.number bytes.length)
  | .isEmpty => .ok (.flag bytes.isEmpty)
  | .contents => .ok (.bytes bytes)
  | .word position => (word bytes position).map .number
  | .offset position => (View.offset bytes position).map .offset
  | .resolve container field => (resolve bytes container field).map .position
  | .string position => (string bytes position).map .bytes
  | .slice position length => (slice bytes position length).map .bytes

end View

end FlatGraph
