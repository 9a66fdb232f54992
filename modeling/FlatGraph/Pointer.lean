import FlatGraph.Word

/-!
The three kinds of pointer field. Each is one word in memory, with zero for
null; an optional pointer keeps null apart from the addresses.
-/

namespace FlatGraph

inductive PointerKind where
  | shared
  | mutable
  | optional
  deriving DecidableEq, Repr

inductive Pointer where
  | shared (address : Nat)
  | mutable (address : Nat)
  | optional (target : Option { address : Nat // address ≠ 0 })

namespace Pointer

def ofAddress (kind : PointerKind) (address : Nat) : Pointer :=
  match kind with
  | .shared => .shared address
  | .mutable => .mutable address
  | .optional =>
      .optional (if nonzero : address ≠ 0 then some ⟨address, nonzero⟩ else none)

def address : Pointer → Nat
  | .shared address => address
  | .mutable address => address
  | .optional none => 0
  | .optional (some target) => target.val

def word (pointer : Pointer) : Nat := pointer.address

def isNull (pointer : Pointer) : Bool := pointer.address == 0

@[simp] theorem address_ofAddress (kind : PointerKind) (address : Nat) :
    (ofAddress kind address).address = address := by
  cases kind with
  | shared => rfl
  | mutable => rfl
  | optional =>
      by_cases zero : address = 0 <;> simp [ofAddress, Pointer.address, zero]

end Pointer

end FlatGraph
