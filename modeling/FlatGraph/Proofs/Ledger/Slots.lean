import FlatGraph.Proofs.Ledger.Tiling
import FlatGraph.Proofs.View

/-!
Slots keep their meaning: what a view of the output finds through a visited
slot is what the latest visit of the slot placed, however much has been
appended since and whichever structures have been left.
-/

namespace FlatGraph

namespace Visit

/-- Where an element of the block begins that has all of its own bytes around
the slot's first; a block that is no array is its own element. -/
def Contains (visit : Visit) (container : Nat) : Prop :=
  match visit.block.element with
  | none => container = visit.block.start
  | some size =>
      container ≤ visit.slot ∧ visit.slot < container + size ∧
        ∃ index, container = visit.block.start + index * size

theorem Sound.contains_iff {visit : Visit} {length : Nat}
    (sound : visit.Sound length) {container : Nat} :
    visit.Contains container ↔ container = visit.container := by
  obtain ⟨slot, ⟨source, start, size, element⟩, target⟩ := visit
  obtain ⟨above, below, placed, -⟩ := sound
  have positive : 0 < wordSize := by decide
  simp only at above below
  simp only [Contains, Visit.container]
  cases element with
  | none => rfl
  | some stride =>
      have divided : stride ∣ size := placed.divided stride rfl
      have nonzero : 0 < stride := by
        rcases Nat.eq_zero_or_pos stride with rfl | positive
        · have empty := Nat.eq_zero_of_zero_dvd divided
          omega
        · exact positive
      simp only
      constructor
      · rintro ⟨behind, before, index, rfl⟩
        have remainder :
            (slot - start) % stride = slot - (start + index * stride) := by
          rw [show slot - start =
            slot - (start + index * stride) + index * stride by omega,
            Nat.add_mul_mod_self_right, Nat.mod_eq_of_lt (by omega)]
        rw [remainder]
        omega
      · rintro rfl
        have bounded := Nat.mod_lt (slot - start) nonzero
        have short := Nat.mod_le (slot - start) stride
        have division := Nat.div_add_mod' (slot - start) stride
        exact ⟨by omega, by omega, (slot - start) / stride, by omega⟩

end Visit

theorem Visit.Sound.resolve_eq {visit : Visit} {bytes : Bytes}
    (sound : visit.Sound bytes.length) (bounded : bytes.length < wordLimit)
    (reading : (bytes.drop visit.slot).take wordSize =
      encodeWord visit.offset) :
    View.resolve bytes visit.container (visit.slot - visit.container) =
      .ok visit.target := by
  obtain ⟨behind, before⟩ := sound.container_le
  have inside := sound.inside
  have below := sound.below
  have positive : 0 < wordSize := by decide
  have place : visit.container + (visit.slot - visit.container) =
      visit.slot := by omega
  rw [← place] at reading inside
  cases reached : visit.target with
  | none =>
      have zero : visit.offset = 0 := by rw [Visit.offset, reached]
      rw [zero] at reading
      exact View.resolve_of_null inside bounded
        (View.offset_eq inside (by decide) reading) rfl
  | some target =>
      obtain ⟨after, within⟩ := sound.beyond target reached
      have difference : visit.offset = target - visit.container := by
        rw [Visit.offset, reached]
      exact View.resolve_of_target inside bounded
        (View.offset_eq inside (by omega) reading) difference (by omega)
        within

/-- Two visits of one slot are visits of one block: blocks lie apart. -/
theorem Ledger.Sound.block_eq {ledger : Ledger} (sound : ledger.Sound)
    {left right : Visit} (leftMember : left ∈ ledger.visits)
    (rightMember : right ∈ ledger.visits) (same : left.slot = right.slot) :
    left.block = right.block := by
  have positive : 0 < wordSize := by decide
  have leftSound := sound.visits left leftMember
  have rightSound := sound.visits right rightMember
  have leftAbove := leftSound.above
  have leftBelow := leftSound.below
  have rightAbove := rightSound.above
  have rightBelow := rightSound.below
  rcases sound.apart left.block (Ledger.mem_known_of_mem_visits leftMember)
    right.block (Ledger.mem_known_of_mem_visits rightMember) with
    equal | before | behind
  · exact equal
  · omega
  · omega

theorem Ledger.Sound.container_eq {ledger : Ledger} (sound : ledger.Sound)
    {left right : Visit} (leftMember : left ∈ ledger.visits)
    (rightMember : right ∈ ledger.visits) (same : left.slot = right.slot) :
    left.container = right.container := by
  rw [Visit.container, Visit.container,
    sound.block_eq leftMember rightMember same, same]

theorem Ledger.latest?_mem {ledger : Ledger} {slot : Nat} {visit : Visit}
    (found : ledger.latest? slot = some visit) :
    visit ∈ ledger.visits ∧ visit.slot = slot := by
  refine ⟨List.mem_of_find?_eq_some found, ?_⟩
  have matching := List.find?_some found
  exact beq_iff_eq.mp matching

namespace Run

/-- In every state of a run, every slot that has been visited leads from the
start of its structure to what its latest visit placed, or to nothing if that
visit met null. -/
theorem calls_resolve {allocator : Allocator} {memory : Memory}
    {root : Option Nat} {size capacity : Nat} {opened : Run}
    (started : start allocator memory root size capacity = .ok opened)
    (calls : List Call)
    (aligned : ∀ visit ∈ (opened.calls calls).ledger.visits,
      wordSize ∣ visit.slot)
    {visit : Visit} (member : visit ∈ (opened.calls calls).ledger.visits)
    {container : Nat} (contains : visit.Contains container) :
    ∃ latest,
      (opened.calls calls).ledger.latest? visit.slot = some latest ∧
      View.resolve (opened.calls calls).flattener.buffer.bytes container
        (visit.slot - container) = .ok latest.target := by
  have sound := (start_sound started).calls calls
  have length := sound.position_eq
  have bounded := sound.wf.valid.length_lt_wordLimit
  have describes := sound.ledger.describes aligned
  obtain ⟨latest, found, reading⟩ := describes.slot_eq visit member
  obtain ⟨noted, same⟩ := Ledger.latest?_mem found
  have latestSound := sound.ledger.visits latest noted
  have here := (sound.ledger.visits visit member).contains_iff.mp contains
  refine ⟨latest, found, ?_⟩
  rw [here, ← sound.ledger.container_eq noted member same, ← same]
  rw [← same, ← sound.bytes_eq] at reading
  refine Visit.Sound.resolve_eq ?_ bounded reading
  change latest.Sound (opened.calls calls).flattener.position
  rw [length]
  exact latestSound

theorem calls_resolve_sample :
    ∃ latest,
      (sampleOpened.calls sampleCalls).ledger.latest? 40 = some latest ∧
      View.resolve (sampleOpened.calls sampleCalls).flattener.buffer.bytes 40
        (40 - 40) = .ok latest.target :=
  calls_resolve sample_started sampleCalls (by decide +kernel)
    (show ⟨40, ⟨64, 24, 32, some 16⟩, some 59⟩ ∈ _ by decide +kernel)
    (show 40 ≤ 40 ∧ 40 < 40 + 16 ∧ ∃ index, 40 = 24 + index * 16 from
      ⟨by decide, by decide, 1, rfl⟩)

end Run

end FlatGraph
