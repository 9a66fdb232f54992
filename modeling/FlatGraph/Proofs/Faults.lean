import FlatGraph.Proofs.Flattener

/-!
Why the operations of a flattener fail: because of the field that they are
given, because no structure is open, because of what the field points to, or
because the buffer does not grow.
-/

namespace FlatGraph

/-- The causes for which a buffer does not grow. -/
def Fault.OfGrowth : Fault → Prop
  | .capacityOverflow => True
  | .allocationRefused _ => True
  | _ => False

theorem Buffer.Refused.ofGrowth {allocator : Allocator} {need : Nat}
    {fault : Fault} (refused : Buffer.Refused allocator need fault) :
    fault.OfGrowth := by
  cases refused with
  | overflow large => trivial
  | denied enough denied => trivial

namespace Flattener

variable {allocator : Allocator} {memory : Memory} {field : Nat}
  {flattener after : Flattener} {fault : Fault}

theorem slotAt_fault (failed : flattener.slotAt field = .error fault) :
    ∃ offset size, fault = .fieldOutOfBounds offset size := by
  cases slotted_of_eq failed with
  | missed => exact ⟨_, _, rfl⟩

theorem WellFormed.enterElements_fault {align size stride : Nat}
    (wf : flattener.WellFormed)
    (failed : enterElements allocator memory field align size stride
      flattener = .error fault after) :
    flattener.slotAt field = .error fault ∨ fault.OfGrowth ∨
      fault = .unsupportedAlignment ∧
        ¬ (isPowerOfTwo (placementAlignment align) ∧
          placementAlignment align ≤ storageAlignment) := by
  cases wf.entering failed with
  | outside missed => exact .inl missed
  | full found present refused =>
      exact .inr (.inl (Buffer.reserve_refused refused).ofGrowth)
  | unsupported found present reserving unsupported =>
      exact .inr (.inr ⟨rfl, unsupported⟩)

theorem WellFormed.enterArray_fault {layout : Layout} {count : Nat}
    (wf : flattener.WellFormed)
    (failed : enterArray allocator memory field layout count flattener =
      .error fault after) :
    flattener.slotAt field = .error fault ∨ fault.OfGrowth ∨
      fault = .unsupportedAlignment ∧
        ¬ (isPowerOfTwo (placementAlignment layout.align) ∧
          placementAlignment layout.align ≤ storageAlignment) := by
  rw [enterArray_eq] at failed
  split at failed
  · exact wf.enterElements_fault failed
  · cases failed
    exact .inr (.inl trivial)

theorem WellFormed.addString_fault (wf : flattener.WellFormed)
    (failed : addString allocator memory field flattener =
      .error fault after) :
    flattener.slotAt field = .error fault ∨ fault.OfGrowth ∨
      fault = .unterminatedString (memory.word field) ∧
        memory.word field ≠ 0 ∧
        memory.string? (memory.word field) = none := by
  cases wf.addingString failed with
  | outside missed => exact .inl missed
  | unterminated found present endless =>
      exact .inr (.inr ⟨rfl, present, endless⟩)
  | full found present ends refused =>
      exact .inr (.inl (Buffer.reserve_refused refused).ofGrowth)

theorem start_fault {root : Option Nat} {size capacity : Nat}
    (failed : start allocator memory root size capacity = .error fault) :
    fault.OfGrowth := by
  rw [start_eq] at failed
  exact (Buffer.withCapacity_refused (error_of_map_error failed)).ofGrowth

end Flattener

end FlatGraph
