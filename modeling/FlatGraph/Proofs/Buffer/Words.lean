import FlatGraph.Proofs.Checked.Buffer
import FlatGraph.Proofs.Patch
import FlatGraph.Proofs.View.Bounds

/-!
Single words of a buffer. A word may be written and read at every position at
which its eight bytes are there, aligned or not; writing one changes no byte
besides its own, and a view of the bytes reads exactly what the buffer does.
-/

namespace FlatGraph

namespace Buffer

variable {buffer : Buffer} {position value : Nat}

theorem readWord?_of_inside (inside : position + wordSize ≤ buffer.length) :
    buffer.readWord? position = some (View.wordAt buffer.bytes position) := by
  rw [readWord?_eq_ofDigits]
  exact if_pos inside

theorem readWord?_of_outside
    (outside : ¬ position + wordSize ≤ buffer.length) :
    buffer.readWord? position = none := by
  rw [readWord?_eq_ofDigits]
  exact if_neg outside

theorem readWord?_eq_some_iff :
    buffer.readWord? position = some value ↔
      View.word buffer.bytes position = .ok value := by
  by_cases inside : position + wordSize ≤ buffer.length
  · rw [readWord?_of_inside inside, View.word_of_inside inside,
      Option.some.injEq, Except.ok.injEq]
  · rw [readWord?_of_outside inside,
      View.word_of_outside (Nat.lt_of_not_le inside)]
    simp only [reduceCtorEq]

theorem readWord?_congr {other : Buffer}
    (lengths : buffer.length = other.length)
    (same : ∀ place, position ≤ place → place < position + wordSize →
      buffer.bytes[place]? = other.bytes[place]?) :
    buffer.readWord? position = other.readWord? position := by
  rw [readWord?, readWord?, hasWordAt, hasWordAt, lengths, slice_congr same]

/-- A word has been written: its bytes, lowest first, and nothing else. -/
structure Overwritten (before : Buffer) (position value : Nat)
    (after : Buffer) : Prop where
  read : after.readWord? position = some value
  others : ∀ other, Apart position other →
    after.readWord? other = before.readWord? other
  length_eq : after.length = before.length
  capacity_eq : after.capacity = before.capacity
  inside : ∀ index < wordSize, after.bytes[position + index]? =
    some (UInt8.ofNat (value / 256 ^ index))
  outside : ∀ place, place < position ∨ position + wordSize ≤ place →
    after.bytes[place]? = before.bytes[place]?

theorem overwritten_patch (inside : position + wordSize ≤ buffer.length)
    (small : value < wordLimit) :
    Overwritten buffer position value
      { buffer with
        bytes := patch buffer.bytes position (encodeWord value) } := by
  have fits : position + (encodeWord value).length ≤ buffer.bytes.length := by
    rw [encodeWord_length]
    exact inside
  have length_eq := patch_length fits
  have outside : ∀ place, place < position ∨ position + wordSize ≤ place →
      (patch buffer.bytes position (encodeWord value))[place]? =
        buffer.bytes[place]? := by
    intro place beside
    rw [← encodeWord_length value] at beside
    exact patch_getElem?_outside fits beside
  refine ⟨?_, ?_, length_eq, rfl, ?_, outside⟩
  · have written := slice_patch fits
    rw [encodeWord_length] at written
    rw [readWord?_eq_some_iff, View.word, View.slice,
      if_pos (length_eq.symm ▸ inside), written]
    exact congrArg Except.ok (decodeLittle_encodeWord small)
  · intro other apart
    refine readWord?_congr length_eq fun place above below => ?_
    apply outside
    unfold Apart at apart
    omega
  · intro index within
    rw [patch_getElem?_inside fits (by rw [encodeWord_length]; exact within),
      encodeWord, encodeLittle_eq_map, List.getElem?_map,
      List.getElem?_range within]
    rfl

structure ExactWords (buffer : Buffer) : Prop where
  writes_iff : ∀ position value,
    (∃ after, writeWord position value buffer = .ok () after) ↔
      position + wordSize ≤ buffer.length
  refuses : ∀ position value, buffer.length < position + wordSize →
    writeWord position value buffer =
      .error (.positionOutOfBounds position buffer.length) buffer
  written : ∀ position value after, value < wordLimit →
    writeWord position value buffer = .ok () after →
      Overwritten buffer position value after
  viewed : ∀ position value,
    buffer.readWord? position = some value ↔
      View.word buffer.bytes position = .ok value
  /-- All of this by sums of machine words, of which one that wraps counts as
  outside. -/
  checked : buffer.Valid → ∀ position,
    (∀ value, Checked.Exact (Checked.writeWord position value)
      (writeWord position value) buffer) ∧
    Checked.readWord? buffer position = buffer.readWord? position ∧
    Checked.word buffer.bytes position = View.word buffer.bytes position

/-- At every position, and whatever else lies there. -/
theorem words_exact (buffer : Buffer) : ExactWords buffer where
  writes_iff position value := by
    constructor
    · rintro ⟨after, ran⟩
      by_contra outside
      rw [writeWord_of_outside outside] at ran
      cases ran
    · intro inside
      exact ⟨_, writeWord_of_inside inside⟩
  refuses position value outside :=
    writeWord_of_outside (Nat.not_le_of_lt outside)
  written position value after small ran := by
    by_cases inside : position + wordSize ≤ buffer.length
    · rw [writeWord_of_inside inside] at ran
      cases ran
      exact overwritten_patch inside small
    · rw [writeWord_of_outside inside] at ran
      cases ran
  viewed position value := readWord?_eq_some_iff
  checked valid position :=
    ⟨Checked.writeWord_exact valid position,
      Checked.readWord?_eq valid position,
      Checked.word_eq valid.length_lt_wordLimit position⟩

end Buffer

end FlatGraph
