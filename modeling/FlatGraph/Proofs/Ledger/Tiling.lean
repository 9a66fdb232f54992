import FlatGraph.Proofs.Ledger.Run

/-!
The output of a run is a tiling: the pieces that the calls placed, in order
and without anything between them but padding, except for the visited slots,
which hold what their latest visits put there.
-/

namespace FlatGraph

theorem aligned_eq_or_apart {left right : Nat} (leftAligned : wordSize ∣ left)
    (rightAligned : wordSize ∣ right) :
    left = right ∨ left + wordSize ≤ right ∨ right + wordSize ≤ left := by
  obtain ⟨leftIndex, rfl⟩ := leftAligned
  obtain ⟨rightIndex, rfl⟩ := rightAligned
  unfold wordSize
  omega

theorem overwrite_getElem?_outside {visits : List Visit} {bytes : Bytes}
    (inside : ∀ visit ∈ visits, visit.slot + wordSize ≤ bytes.length)
    {place : Nat} (outside : ∀ visit ∈ visits,
      place < visit.slot ∨ visit.slot + wordSize ≤ place) :
    (overwrite visits bytes)[place]? = bytes[place]? := by
  induction visits with
  | nil => rfl
  | cons visit visits ih =>
      have rest : ∀ visit ∈ visits, visit.slot + wordSize ≤ bytes.length :=
        fun other member => inside other (List.mem_cons_of_mem _ member)
      rw [overwrite_cons, Buffer.patch_getElem?_outside]
      · exact ih rest fun other member =>
          outside other (List.mem_cons_of_mem _ member)
      · rw [encodeWord_length, overwrite_length rest]
        exact inside visit List.mem_cons_self
      · rw [encodeWord_length]
        exact outside visit List.mem_cons_self

/-- Aligned slots are equal or apart, so that a later visit either replaces
what an earlier one wrote or leaves it alone. -/
theorem overwrite_slot {visits : List Visit} {bytes : Bytes}
    (inside : ∀ visit ∈ visits, visit.slot + wordSize ≤ bytes.length)
    (aligned : ∀ visit ∈ visits, wordSize ∣ visit.slot) {slot : Nat}
    (visited : ∃ visit ∈ visits, visit.slot = slot) :
    ∃ latest, visits.find? (fun visit => visit.slot == slot) = some latest ∧
      ((overwrite visits bytes).drop slot).take wordSize =
        encodeWord latest.offset := by
  induction visits with
  | nil =>
      obtain ⟨visit, member, -⟩ := visited
      cases member
  | cons visit visits ih =>
      have rest : ∀ visit ∈ visits, visit.slot + wordSize ≤ bytes.length :=
        fun other member => inside other (List.mem_cons_of_mem _ member)
      have fits : visit.slot + (encodeWord visit.offset).length ≤
          (overwrite visits bytes).length := by
        rw [encodeWord_length, overwrite_length rest]
        exact inside visit List.mem_cons_self
      rw [overwrite_cons]
      -- The head is the latest visit of its own slot, and apart from others.
      by_cases same : visit.slot = slot
      · subst same
        refine ⟨visit, List.find?_cons_of_pos (beq_self_eq_true _), ?_⟩
        have reading := Buffer.slice_patch fits
        rw [encodeWord_length] at reading
        exact reading
      · have older : ∃ visit ∈ visits, visit.slot = slot := by
          obtain ⟨other, member, here⟩ := visited
          rcases List.mem_cons.mp member with rfl | older
          · exact absurd here same
          · exact ⟨other, older, here⟩
        obtain ⟨latest, found, reading⟩ := ih rest
          (fun other member => aligned other (List.mem_cons_of_mem _ member))
          older
        have apart : visit.slot + wordSize ≤ slot ∨
            slot + wordSize ≤ visit.slot := by
          obtain ⟨other, member, rfl⟩ := older
          exact (aligned_eq_or_apart (aligned visit List.mem_cons_self)
            (aligned other (List.mem_cons_of_mem _ member))).resolve_left same
        refine ⟨latest, ?_, ?_⟩
        · rw [List.find?_cons_of_neg (by simpa using same)]
          exact found
        · rw [← reading]
          apply Buffer.slice_congr
          intro place above below
          apply Buffer.patch_getElem?_outside fits
          rw [encodeWord_length]
          omega

/-- What a ledger says about the output, byte for byte. -/
structure Ledger.Describes (ledger : Ledger) (bytes : Bytes) : Prop where
  length_eq : bytes.length = (tile ledger.pieces).length
  outside_eq : ∀ place, (∀ visit ∈ ledger.visits,
    place < visit.slot ∨ visit.slot + wordSize ≤ place) →
      bytes[place]? = (tile ledger.pieces)[place]?
  slot_eq : ∀ visit ∈ ledger.visits, ∃ latest,
    ledger.latest? visit.slot = some latest ∧
      (bytes.drop visit.slot).take wordSize = encodeWord latest.offset

theorem Ledger.Sound.describes {ledger : Ledger} (sound : ledger.Sound)
    (aligned : ∀ visit ∈ ledger.visits, wordSize ∣ visit.slot) :
    ledger.Describes ledger.output := by
  have inside : ∀ visit ∈ ledger.visits,
      visit.slot + wordSize ≤ (tile ledger.pieces).length :=
    fun visit member => (sound.visits visit member).inside
  refine ⟨sound.output_length, ?_, ?_⟩
  · intro place outside
    exact overwrite_getElem?_outside inside outside
  · intro visit member
    exact overwrite_slot inside aligned ⟨visit, member, rfl⟩

namespace Run

section Calls

variable {allocator : Allocator} {memory : Memory} {root : Option Nat}
  {size capacity : Nat} {opened : Run}

/-- Whatever the calls are, and whichever of them fail, the output is what
the ledger describes. -/
theorem calls_describes
    (started : start allocator memory root size capacity = .ok opened)
    (calls : List Call)
    (aligned : ∀ visit ∈ (opened.calls calls).ledger.visits,
      wordSize ∣ visit.slot) :
    (opened.calls calls).ledger.Describes
      (opened.calls calls).flattener.buffer.bytes := by
  have sound := (start_sound started).calls calls
  rw [sound.bytes_eq]
  exact sound.ledger.describes aligned

end Calls

/-- A root with two pointers, two elements with a pointer each, and a text to
which three of the pointers lead. -/
def sampleMemory : Memory :=
  Memory.blank.storeAll
    [(16, encodeWord 64), (24, encodeWord 96), (32, [7]),
      (64, encodeWord 96), (72, [1]), (80, encodeWord 96), (88, [2]),
      (96, [104, 105, 0])]

def sampleCalls : List Call :=
  [.enterArray 16 ⟨16, 8⟩ 2, .addString 64, .addString 80, .addString 200,
    .leave, .clear 24].map (Call.mk (fun _ => true) sampleMemory)

def sampleOpened : Run where
  flattener := ⟨⟨sampleMemory.load 16 24, 32⟩, [Frame.single 16 24 0]⟩
  ledger := Ledger.start sampleMemory (some 16) 24

theorem sample_started :
    start (fun _ => true) sampleMemory (some 16) 24 0 = .ok sampleOpened := by
  rfl

theorem calls_describes_sample :
    (sampleOpened.calls sampleCalls).ledger.Describes
      (sampleOpened.calls sampleCalls).flattener.buffer.bytes :=
  calls_describes sample_started sampleCalls (by decide +kernel)

end Run

end FlatGraph
