import FlatGraph.Fault
import FlatGraph.Offset

/-!
An open structure: where it lies in the source and where its copy begins in
the output. A frame may cover an array; its elements are `stride` bytes each,
and an offset is relative to the element that contains the field.
-/

namespace FlatGraph

structure Frame where
  source : Nat
  size : Nat
  stride : Nat
  target : Nat
  deriving DecidableEq, Repr

namespace Frame

def single (source size target : Nat) : Frame :=
  ⟨source, size, size, target⟩

def covers (frame : Frame) (field : Nat) : Prop :=
  frame.source ≤ field ∧ wordSize ≤ frame.size ∧
    field - frame.source ≤ frame.size - wordSize

instance (frame : Frame) (field : Nat) : Decidable (frame.covers field) :=
  inferInstanceAs (Decidable (_ ∧ _ ∧ _))

def slot (frame : Frame) (field : Nat) : Except Fault Nat :=
  if frame.covers field then .ok (field - frame.source + frame.target)
  else
    .error (.fieldOutOfBounds (signedWord (field - frame.source)) frame.size)

/-- Where the structure, or the array element, around a slot begins. -/
def container (frame : Frame) (slot : Nat) : Nat :=
  if frame.stride = 0 then frame.target
  else
    frame.target + (slot - frame.target) / frame.stride * frame.stride

def offsetTo (frame : Frame) (slot position : Nat) : Offset :=
  ⟨position - frame.container slot⟩

variable {frame : Frame} {field : Nat}

/-- No difference in the test falls below zero. -/
theorem covers_iff :
    frame.covers field ↔
      frame.source ≤ field ∧
        field + wordSize ≤ frame.source + frame.size := by
  unfold covers
  constructor
  · rintro ⟨above, enough, short⟩
    omega
  · rintro ⟨above, within⟩
    omega

theorem slot_fits (covered : frame.covers field) :
    field - frame.source + frame.target + wordSize ≤
      frame.target + frame.size := by
  obtain ⟨above, within⟩ := covers_iff.mp covered
  omega

theorem slot_of_covers (covered : frame.covers field) :
    frame.slot field = .ok (field - frame.source + frame.target) :=
  if_pos covered

theorem slot_of_not_covers (missed : ¬ frame.covers field) :
    frame.slot field =
      .error (.fieldOutOfBounds (signedWord (field - frame.source))
        frame.size) :=
  if_neg missed

theorem slot_eq_ok_iff {place : Nat} :
    frame.slot field = .ok place ↔
      frame.covers field ∧ field - frame.source + frame.target = place := by
  by_cases covered : frame.covers field
  · simp [slot_of_covers covered, covered]
  · simp [slot_of_not_covers covered, covered]

theorem slot_eq_error_iff {fault : Fault} :
    frame.slot field = .error fault ↔
      ¬ frame.covers field ∧
        .fieldOutOfBounds (signedWord (field - frame.source)) frame.size =
          fault := by
  by_cases covered : frame.covers field
  · simp [slot_of_covers covered, covered]
  · simp [slot_of_not_covers covered, covered]

end Frame

end FlatGraph
