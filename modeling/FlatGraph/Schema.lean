import FlatGraph.Flattener

/-!
Families of structure types that refer to each other by number. A type says
how large it is and which of its fields are pointers to follow; all other
bytes are plain data.
-/

namespace FlatGraph

structure LengthField where
  offset : Nat
  width : Nat
  signed : Bool
  deriving DecidableEq, Repr

/-- The length as a word: a negative number stands for the word that has the
same bits, extended by its sign; of a number wider than a word the lowest
bits count. -/
def LengthField.read (field : LengthField) (memory : Memory)
    (address : Nat) : Nat :=
  let raw := decodeLittle (memory.load (address + field.offset) field.width)
  if field.signed then wordOfInt ((raw : Int).bmod (1 <<< (8 * field.width)))
  else raw % wordLimit

inductive Target (count : Nat) where
  | structure (type : Fin count)
  | array (type : Fin count) (length : LengthField)
  | string
  | nothing
  deriving DecidableEq, Repr

structure Link (count : Nat) where
  offset : Nat
  target : Target count
  deriving DecidableEq, Repr

structure StructType (count : Nat) where
  layout : Layout
  links : List (Link count)
  deriving DecidableEq, Repr

abbrev Schema (count : Nat) := Fin count → StructType count

def forElements {m : Type → Type} [Monad m] (visit : Nat → m Unit)
    (stride : Nat) : (count first : Nat) → m Unit
  | 0, _ => pure ()
  | count + 1, first => do
      visit first
      forElements visit stride count (first + stride)

theorem forElements_of_pure {m : Type → Type} [Monad m] [LawfulMonad m]
    {visit : Nat → m Unit} (idle : ∀ address, visit address = pure ())
    (stride count first : Nat) :
    forElements visit stride count first = pure () := by
  induction count generalizing first with
  | zero => rfl
  | succ count ih => rw [forElements, idle, pure_bind, ih]

namespace Schema

def isPlain {count : Nat} (schema : Schema count) (type : Fin count) : Bool :=
  (schema type).links.isEmpty

theorem links_of_isPlain {count : Nat} {schema : Schema count}
    {type : Fin count} (isPlain : schema.isPlain type = true) :
    (schema type).links = [] :=
  List.isEmpty_iff.mp isPlain

/-- A chain of nested structures longer than this meets one of them twice:
there are no more pairs of a type and an address. -/
def depthBound (count : Nat) : Nat := count * wordLimit + 1

end Schema

end FlatGraph
