import FlatGraph.Proofs.View.Bounds
import FlatGraph.Proofs.Walk.Rebase

/-!
Resolving without checks, beside the checked view. Wherever the view succeeds,
a slot of the bytes in memory stands for what the view answers, as an address;
where it fails, the slot leads out of the bytes. Resolving in place overwrites
the one word that it reads.
-/

namespace FlatGraph

section Holds

variable {memory : Memory} {base : Nat} {bytes : Bytes} {slot : Nat}

theorem Holds.word_eq (holds : Holds memory base bytes)
    (inside : slot + wordSize ≤ bytes.length) :
    memory.word (base + slot) = View.wordAt bytes slot := by
  have same := Memory.load_eq_iff.mp holds.loaded
  have image : memory.word (base + slot) = (Memory.ofBytes bytes).word slot := by
    apply Memory.word_congr
    intro index short
    rw [Nat.add_assoc]
    exact same _ (by omega)
  rw [image, Memory.word, Memory.ofBytes_load inside, View.wordAt,
    decodeLittle_eq_ofDigits]

variable {container field : Nat}

theorem Holds.peek_of_zero (holds : Holds memory base bytes)
    (inside : slot + wordSize ≤ bytes.length)
    (zero : View.wordAt bytes slot = 0) :
    memory.peek container (base + slot) = 0 :=
  Memory.peek_of_null ((holds.word_eq inside).trans zero)

theorem Holds.peek_of_reached (holds : Holds memory base bytes)
    (inside : slot + wordSize ≤ bytes.length)
    (nonzero : View.wordAt bytes slot ≠ 0)
    (reached : container + View.wordAt bytes slot ≤ bytes.length) :
    memory.peek (base + container) (base + slot) =
      base + (container + View.wordAt bytes slot) := by
  have word_eq := holds.word_eq inside
  have bounded := holds.bounded
  exact Memory.peek_of_offset (by omega) (by omega) (by omega)

end Holds

/-- The pointer for which a slot in memory stands is the one that the view
answers, counted from the base; a slot that the view refuses leads out of the
bytes. -/
structure PeeksAlike (bytes : Bytes) (memory : Memory) (base : Nat)
    (kind : PointerKind) (container field : Nat) : Prop where
  null : View.resolve bytes container field = .ok none →
    (memory.peekAs kind (base + container)
      (base + (container + field))).isNull = true
  target : ∀ position,
    View.resolve bytes container field = .ok (some position) →
      (memory.peekAs kind (base + container)
        (base + (container + field))).address = base + position
  refused : ∀ fault, View.resolve bytes container field = .error fault →
    bytes.length < container + memory.word (base + (container + field))

theorem Holds.peeksAlike {memory : Memory} {base : Nat} {bytes : Bytes}
    (holds : Holds memory base bytes) (kind : PointerKind)
    {container field : Nat}
    (inside : container + field + wordSize ≤ bytes.length) :
    PeeksAlike bytes memory base kind container field := by
  have bounded : bytes.length < wordLimit :=
    Nat.lt_of_le_of_lt (Nat.le_add_left _ _) holds.bounded
  have resolves := (View.resolve_resolving bounded container field).resolves
  refine ⟨?_, ?_, ?_⟩
  · intro null
    obtain ⟨-, zero⟩ := resolves.null_iff.mp null
    rw [Memory.peekAs, holds.peek_of_zero inside zero, Pointer.isNull,
      Pointer.address_ofAddress]
    rfl
  · intro position arrives
    obtain ⟨-, nonzero, rfl, reached⟩ :=
      (resolves.target_iff position).mp arrives
    rw [Memory.peekAs, Pointer.address_ofAddress,
      holds.peek_of_reached inside nonzero reached]
  · intro fault failed
    rcases (resolves.error_iff fault).mp failed with
      ⟨outside, -⟩ | ⟨-, -, past, -⟩
    · omega
    · rw [holds.word_eq inside]
      exact past

/-- Resolving a slot in place answers what a look at it answers, and leaves
just that address in just that slot. -/
structure ResolvesOneWord (memory : Memory) (kind : PointerKind)
    (container slot : Nat) : Prop where
  answer_eq : (memory.resolveAs kind container slot).1 =
    memory.peekAs kind container slot
  word_eq : (memory.resolveAs kind container slot).2.word slot =
    (memory.peekAs kind container slot).address
  kept : ∀ place, place < slot ∨ slot + wordSize ≤ place →
    (memory.resolveAs kind container slot).2.byte place = memory.byte place
  null_iff : (memory.peekAs kind container slot).isNull = true ↔
    memory.word slot = 0 ∨ (container + memory.word slot) % wordLimit = 0

theorem Memory.peek_eq_zero_iff {memory : Memory} {container slot : Nat} :
    memory.peek container slot = 0 ↔
      memory.word slot = 0 ∨ (container + memory.word slot) % wordLimit = 0 := by
  unfold peek Offset.target?
  split
  · rename_i null
    simp only [Offset.isNull, beq_iff_eq] at null
    simp [null]
  · rename_i nonnull
    simp only [Offset.isNull, beq_iff_eq] at nonnull
    simp [nonnull]

theorem resolvesOneWord (memory : Memory) (kind : PointerKind)
    (container slot : Nat) : ResolvesOneWord memory kind container slot where
  answer_eq := rfl
  word_eq := by
    have small : (memory.peekAs kind container slot).word < wordLimit := by
      rw [Pointer.word, Memory.peekAs, Pointer.address_ofAddress]
      exact Memory.peek_lt memory container slot
    exact Memory.word_storeWord small
  kept := fun _ outside => Memory.byte_storeWord_outside outside
  null_iff := by
    rw [Pointer.isNull, Memory.peekAs, Pointer.address_ofAddress, beq_iff_eq,
      Memory.peek_eq_zero_iff]

theorem resolving_unchecked {memory : Memory} {base : Nat} {bytes : Bytes}
    (holds : Holds memory base bytes) {container field : Nat}
    (inside : container + field + wordSize ≤ bytes.length)
    (kind : PointerKind) :
    PeeksAlike bytes memory base kind container field ∧
      ∀ any address slot, ResolvesOneWord any kind address slot :=
  ⟨holds.peeksAlike kind inside, fun any address slot =>
    resolvesOneWord any kind address slot⟩

/-- Null, a word on, and back by a word around the end of the address space,
which the view refuses. -/
def sampleWrapping : Bytes :=
  encodeWord 0 ++ encodeWord 16 ++ encodeWord (wordLimit - 8)

theorem resolving_unchecked_sample :
    let memory := Memory.blank.store 4096 sampleWrapping
    Holds memory 4096 sampleWrapping ∧
      16 + 0 + wordSize ≤ sampleWrapping.length ∧
      PeeksAlike sampleWrapping memory 4096 .optional 16 0 ∧
      ∀ any address slot, ResolvesOneWord any .optional address slot :=
  have holds : Holds (Memory.blank.store 4096 sampleWrapping) 4096
      sampleWrapping := ⟨by decide +kernel, by decide⟩
  have inside : 16 + 0 + wordSize ≤ sampleWrapping.length := by decide
  ⟨holds, inside, resolving_unchecked holds inside .optional⟩

end FlatGraph
