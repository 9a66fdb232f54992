import FlatGraph.Buffer.Basic
import FlatGraph.Memory

/-!
Flat buffers in files. A place is what a path leads to; a mapping is a private
copy of a file, so writing to it never changes the file.
-/

namespace FlatGraph

inductive Place where
  | vacant
  /-- A path through a directory that does not exist. -/
  | unreachable
  | directory
  | file (contents : Bytes)
  deriving DecidableEq, Repr

namespace Place

def notFound : Fault := .io "No such file or directory (os error 2)"

def isDirectory : Fault := .io "Is a directory (os error 21)"

def noDevice : Fault := .io "No such device (os error 19)"

def save (buffer : Buffer) : Place → Except Fault Place
  | .vacant => .ok (.file buffer.bytes)
  | .unreachable => .error notFound
  | .directory => .error isDirectory
  | .file _ => .ok (.file buffer.bytes)

def read : Place → Except Fault Bytes
  | .vacant => .error notFound
  | .unreachable => .error notFound
  | .directory => .error isDirectory
  | .file contents => .ok contents

def load (allocator : Allocator) (place : Place) : Except Fault Buffer :=
  place.read.bind (Buffer.ofBytes allocator)

def contents? : Place → Option Bytes
  | .file contents => some contents
  | _ => none

end Place

structure Mapping where
  contents : Bytes
  deriving DecidableEq, Repr

namespace Mapping

def ofPlace : Place → Except Fault Mapping
  | .vacant => .error Place.notFound
  | .unreachable => .error Place.notFound
  | .directory => .error Place.noDevice
  | .file contents => .ok ⟨contents⟩

/-- As in a buffer, a place outside the contents is left without a report. -/
def setByte (mapping : Mapping) (position : Nat) (byte : UInt8) : Mapping :=
  ⟨mapping.contents.set position byte⟩

def setBytes (mapping : Mapping) (edits : List (Nat × UInt8)) : Mapping :=
  edits.foldl (fun mapping edit => mapping.setByte edit.1 edit.2) mapping

def inMemory (mapping : Mapping) (base : Nat) : Memory :=
  Memory.blank.store base mapping.contents

end Mapping

end FlatGraph
