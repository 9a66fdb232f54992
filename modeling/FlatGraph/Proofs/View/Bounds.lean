import FlatGraph.Proofs.Buffer.Contents
import FlatGraph.Proofs.Checked.View

/-!
Exactly which accesses a view accepts. Positions and lengths are of any size
and sums do not wrap, so that an access succeeds if and only if the bytes that
it asks for are there, and a link is followed if and only if its word and its
target are.
-/

namespace FlatGraph

namespace View

variable {bytes : Bytes} {container field position length : Nat}

def wordAt (bytes : Bytes) (position : Nat) : Nat :=
  Nat.ofDigits 256 (((bytes.drop position).take wordSize).map UInt8.toNat)

/-- An access to the bytes at a position succeeds if and only if they are all
there, with a value that is right; otherwise the position is reported. -/
structure Bounded {α : Type} (bytes : Bytes) (position length : Nat)
    (right : α → Prop) (result : Except Fault α) : Prop where
  ok_iff : ∀ value, result = .ok value ↔
    position + length ≤ bytes.length ∧ right value
  error_iff : ∀ fault, result = .error fault ↔
    bytes.length < position + length ∧
      fault = .positionOutOfBounds position bytes.length

theorem Bounded.of_inside {α : Type} {right : α → Prop} {found : α}
    (inside : position + length ≤ bytes.length)
    (right_iff : ∀ value, right value ↔ value = found) :
    Bounded bytes position length right (.ok found) where
  ok_iff := by
    intro value
    rw [right_iff, Except.ok.injEq, eq_comm]
    exact (and_iff_right inside).symm
  error_iff := by
    intro fault
    constructor
    · intro impossible
      cases impossible
    · rintro ⟨outside, -⟩
      omega

theorem Bounded.of_outside {α : Type} {right : α → Prop}
    (outside : bytes.length < position + length) :
    Bounded bytes position length right
      (.error (.positionOutOfBounds position bytes.length)) where
  ok_iff := by
    intro value
    constructor
    · intro impossible
      cases impossible
    · rintro ⟨inside, -⟩
      omega
  error_iff := by
    intro fault
    rw [Except.error.injEq, eq_comm]
    exact (and_iff_right outside).symm

theorem eq_slice_iff (inside : position + length ≤ bytes.length)
    (found : Bytes) :
    (found.length = length ∧
        ∀ index < length, found[index]? = bytes[position + index]?) ↔
      found = (bytes.drop position).take length := by
  have size : ((bytes.drop position).take length).length = length := by
    rw [List.length_take, List.length_drop]
    omega
  have at_index : ∀ index < length,
      ((bytes.drop position).take length)[index]? =
        bytes[position + index]? := by
    intro index within
    rw [List.getElem?_take_of_lt within, List.getElem?_drop]
  constructor
  · rintro ⟨size_eq, same⟩
    apply List.ext_getElem?
    intro index
    by_cases within : index < length
    · rw [same index within, at_index index within]
    · rw [List.getElem?_eq_none (by omega), List.getElem?_eq_none (by omega)]
  · rintro rfl
    exact ⟨size, at_index⟩

theorem slice_bounded (bytes : Bytes) (position length : Nat) :
    Bounded bytes position length
      (fun found => found.length = length ∧
        ∀ index < length, found[index]? = bytes[position + index]?)
      (slice bytes position length) := by
  by_cases inside : position + length ≤ bytes.length
  · rw [slice, if_pos inside]
    exact .of_inside inside (eq_slice_iff inside)
  · rw [slice, if_neg inside]
    exact .of_outside (Nat.lt_of_not_le inside)

theorem word_of_inside (inside : position + wordSize ≤ bytes.length) :
    word bytes position = .ok (wordAt bytes position) := by
  rw [word, slice, if_pos inside, wordAt, ← decodeLittle_eq_ofDigits]
  rfl

theorem word_of_outside (outside : bytes.length < position + wordSize) :
    word bytes position =
      .error (.positionOutOfBounds position bytes.length) := by
  rw [word, slice, if_neg (Nat.not_le_of_lt outside)]
  rfl

theorem word_bounded (bytes : Bytes) (position : Nat) :
    Bounded bytes position wordSize (· = wordAt bytes position)
      (word bytes position) := by
  rcases Nat.lt_or_ge bytes.length (position + wordSize) with outside | inside
  · rw [word_of_outside outside]
    exact .of_outside outside
  · rw [word_of_inside inside]
    exact .of_inside inside fun _ => Iff.rfl

theorem offset_of_inside (inside : position + wordSize ≤ bytes.length) :
    offset bytes position = .ok ⟨wordAt bytes position⟩ := by
  rw [offset, word_of_inside inside]
  rfl

theorem offset_of_outside (outside : bytes.length < position + wordSize) :
    offset bytes position =
      .error (.positionOutOfBounds position bytes.length) := by
  rw [offset, word_of_outside outside]
  rfl

theorem offset_bounded (bytes : Bytes) (position : Nat) :
    Bounded bytes position wordSize
      (fun found => found.raw = wordAt bytes position)
      (offset bytes position) := by
  rcases Nat.lt_or_ge bytes.length (position + wordSize) with outside | inside
  · rw [offset_of_outside outside]
    exact .of_outside outside
  · rw [offset_of_inside inside]
    refine .of_inside inside fun found => ?_
    rw [Offset.mk.injEq]

/-- A text that lies at a position, and the zero after it. -/
def EndsAt (bytes : Bytes) (position : Nat) (text : Bytes) : Prop :=
  0 ∉ text ∧ ∃ rest, bytes.drop position = text ++ 0 :: rest

theorem EndsAt.takeWhile_eq {text : Bytes} (ends : EndsAt bytes position text) :
    (bytes.drop position).takeWhile (· != 0) = text := by
  obtain ⟨nonzero, rest, split⟩ := ends
  have whole : ∀ byte ∈ text, (byte != 0) = true := by
    intro byte member
    rw [bne_iff_ne]
    rintro rfl
    exact nonzero member
  rw [split, List.takeWhile_append_of_pos whole]
  simp

theorem exists_endsAt (zero : 0 ∈ bytes.drop position) :
    ∃ text, EndsAt bytes position text := by
  obtain ⟨text, rest, split, nonzero⟩ := List.eq_append_cons_of_mem zero
  exact ⟨text, nonzero, rest, split⟩

inductive Reading (bytes : Bytes) (position : Nat) : Except Fault Bytes → Prop
  | outside (beyond : bytes.length < position) :
      Reading bytes position
        (.error (.positionOutOfBounds position bytes.length))
  | unterminated (inside : position ≤ bytes.length)
      (nonzero : 0 ∉ bytes.drop position) :
      Reading bytes position (.error (.unterminatedString position))
  | text {text : Bytes} (ends : EndsAt bytes position text) :
      Reading bytes position (.ok text)

theorem string_reading (bytes : Bytes) (position : Nat) :
    Reading bytes position (string bytes position) := by
  rw [string]
  split
  · rename_i beyond
    exact .outside beyond
  · rename_i inside
    simp only
    split
    · rename_i zero
      obtain ⟨text, ends⟩ := exists_endsAt (List.contains_iff_mem.mp zero)
      rw [ends.takeWhile_eq]
      exact .text ends
    · rename_i nonzero
      refine .unterminated (Nat.le_of_not_lt inside) fun member => ?_
      exact nonzero (List.contains_iff_mem.mpr member)

theorem EndsAt.zero_mem {text : Bytes} (ends : EndsAt bytes position text) :
    0 ∈ bytes.drop position := by
  obtain ⟨-, rest, split⟩ := ends
  rw [split]
  exact List.mem_append_right _ List.mem_cons_self

theorem EndsAt.inside {text : Bytes} (ends : EndsAt bytes position text) :
    position < bytes.length := by
  have some_left := List.length_pos_of_mem ends.zero_mem
  rw [List.length_drop] at some_left
  omega

structure Reads (bytes : Bytes) (position : Nat) (result : Except Fault Bytes) :
    Prop where
  outside_iff : result = .error (.positionOutOfBounds position bytes.length) ↔
    bytes.length < position
  unterminated_iff : result = .error (.unterminatedString position) ↔
    position ≤ bytes.length ∧ 0 ∉ bytes.drop position
  ok_iff : ∀ text, result = .ok text ↔ EndsAt bytes position text

theorem Reading.reads {result : Except Fault Bytes}
    (reading : Reading bytes position result) : Reads bytes position result := by
  cases reading with
  | outside beyond =>
      refine ⟨by simpa using beyond, ?_, fun text => ?_⟩
      · simp only [Except.error.injEq, reduceCtorEq, false_iff]
        omega
      · simp only [reduceCtorEq, false_iff]
        intro ends
        have inside := ends.inside
        omega
  | unterminated inside nonzero =>
      refine ⟨?_, by simpa using ⟨inside, nonzero⟩, fun text => ?_⟩
      · simp only [Except.error.injEq, reduceCtorEq, false_iff]
        omega
      · simp only [reduceCtorEq, false_iff]
        intro ends
        exact nonzero ends.zero_mem
  | text ends =>
      refine ⟨?_, ?_, fun other => ?_⟩
      · simp only [reduceCtorEq, false_iff]
        have inside := ends.inside
        omega
      · simp only [reduceCtorEq, false_iff]
        rintro ⟨-, nonzero⟩
        exact nonzero ends.zero_mem
      · rw [Except.ok.injEq]
        constructor
        · rintro rfl
          exact ends
        · intro also
          rw [← ends.takeWhile_eq, also.takeWhile_eq]

/-- The report of a position, which is the last word if no word holds it. -/
def outOfBounds (bytes : Bytes) (position : Nat) : Fault :=
  .positionOutOfBounds (min position (wordLimit - 1)) bytes.length

theorem reported_eq (position : Nat) :
    reported position = min position (wordLimit - 1) := by
  unfold reported
  split
  · omega
  · omega

inductive Resolving (bytes : Bytes) (container field : Nat) :
    Except Fault (Option Nat) → Prop
  | outside (beyond : bytes.length < container + field + wordSize) :
      Resolving bytes container field
        (.error (outOfBounds bytes (container + field)))
  | null (inside : container + field + wordSize ≤ bytes.length)
      (zero : wordAt bytes (container + field) = 0) :
      Resolving bytes container field (.ok none)
  | target (inside : container + field + wordSize ≤ bytes.length)
      (nonzero : wordAt bytes (container + field) ≠ 0)
      (reached : container + wordAt bytes (container + field) ≤ bytes.length) :
      Resolving bytes container field
        (.ok (some (container + wordAt bytes (container + field))))
  | beyond (inside : container + field + wordSize ≤ bytes.length)
      (nonzero : wordAt bytes (container + field) ≠ 0)
      (past : bytes.length < container + wordAt bytes (container + field)) :
      Resolving bytes container field
        (.error (outOfBounds bytes
          (container + wordAt bytes (container + field))))

theorem resolve_resolving (bounded : bytes.length < wordLimit)
    (container field : Nat) :
    Resolving bytes container field (resolve bytes container field) := by
  rcases Nat.lt_or_ge bytes.length (container + field + wordSize) with
    outside | inside
  · have report : resolve bytes container field =
        .error (outOfBounds bytes (container + field)) := by
      rw [resolve, outOfBounds, offset_of_outside outside]
      split
      · rename_i small
        simp only
        rw [Nat.min_eq_left (by omega)]
      · rename_i large
        rw [Nat.min_eq_right (by omega)]
    rw [report]
    exact .outside outside
  · have small : container + field < wordLimit := by omega
    rw [resolve, if_pos small, offset_of_inside inside]
    simp only [Offset.isNull, beq_iff_eq]
    split
    · rename_i zero
      exact .null inside zero
    · rename_i nonzero
      split
      · rename_i reached
        exact .target inside nonzero reached
      · rename_i past
        rw [reported_eq]
        exact .beyond inside nonzero (Nat.lt_of_not_le past)

/-- When a link is null, when it leads somewhere, and what is reported when it
does neither. -/
structure Resolves (bytes : Bytes) (container field : Nat)
    (result : Except Fault (Option Nat)) : Prop where
  null_iff : result = .ok none ↔
    container + field + wordSize ≤ bytes.length ∧
      wordAt bytes (container + field) = 0
  target_iff : ∀ position, result = .ok (some position) ↔
    container + field + wordSize ≤ bytes.length ∧
      wordAt bytes (container + field) ≠ 0 ∧
      position = container + wordAt bytes (container + field) ∧
      position ≤ bytes.length
  error_iff : ∀ fault, result = .error fault ↔
    bytes.length < container + field + wordSize ∧
        fault = outOfBounds bytes (container + field) ∨
      container + field + wordSize ≤ bytes.length ∧
        wordAt bytes (container + field) ≠ 0 ∧
        bytes.length < container + wordAt bytes (container + field) ∧
        fault = outOfBounds bytes
          (container + wordAt bytes (container + field))

theorem Resolving.resolves {result : Except Fault (Option Nat)}
    (resolving : Resolving bytes container field result) :
    Resolves bytes container field result := by
  cases resolving with
  | outside beyond =>
      have missing : ¬ container + field + wordSize ≤ bytes.length :=
        Nat.not_le_of_lt beyond
      refine ⟨?_, fun position => ?_, fun fault => ?_⟩
      · simp [missing]
      · simp [missing]
      · simp [missing, beyond, eq_comm]
  | null inside zero =>
      have present : ¬ bytes.length < container + field + wordSize :=
        Nat.not_lt_of_le inside
      refine ⟨?_, fun position => ?_, fun fault => ?_⟩
      · simp [inside, zero]
      · simp [zero]
      · simp [zero, present]
  | target inside nonzero reached =>
      have present : ¬ bytes.length < container + field + wordSize :=
        Nat.not_lt_of_le inside
      refine ⟨?_, fun position => ?_, fun fault => ?_⟩
      · simp [nonzero]
      · simp only [Except.ok.injEq, Option.some.injEq]
        constructor
        · rintro rfl
          exact ⟨inside, nonzero, rfl, reached⟩
        · rintro ⟨-, -, same, -⟩
          exact same.symm
      · simp [present, Nat.not_lt_of_le reached]
  | beyond inside nonzero past =>
      have present : ¬ bytes.length < container + field + wordSize :=
        Nat.not_lt_of_le inside
      refine ⟨?_, fun position => ?_, fun fault => ?_⟩
      · simp [nonzero]
      · simp only [reduceCtorEq, false_iff]
        rintro ⟨-, -, rfl, reached⟩
        exact Nat.not_le_of_lt past reached
      · simp [present, inside, nonzero, past, eq_comm]

/-- What a view of the bytes answers to every query about a position. -/
structure Exact (bytes : Bytes) : Prop where
  slice : ∀ position length, Bounded bytes position length
    (fun found => found.length = length ∧
      ∀ index < length, found[index]? = bytes[position + index]?)
    (slice bytes position length)
  word : ∀ position, Bounded bytes position wordSize
    (· = wordAt bytes position) (word bytes position)
  offset : ∀ position, Bounded bytes position wordSize
    (fun found => found.raw = wordAt bytes position) (offset bytes position)
  string : ∀ position, Reads bytes position (string bytes position)
  resolve : ∀ container field, Resolves bytes container field
    (resolve bytes container field)
  checked : Checked.Agrees bytes

/-- Of bytes whose number is a word, and for positions of any size. -/
theorem exact_of_bounded (bounded : bytes.length < wordLimit) : Exact bytes where
  slice := slice_bounded bytes
  word := word_bounded bytes
  offset := offset_bounded bytes
  string := fun position => (string_reading bytes position).reads
  resolve := fun container field =>
    (resolve_resolving bounded container field).resolves
  checked := Checked.agrees_of_bounded bounded

theorem exact_of_bounded_sample :
    let bytes := encodeWord 24 ++ encodeWord 25 ++ encodeWord (wordLimit - 8)
    bytes.length < wordLimit ∧ Exact bytes :=
  ⟨by decide, exact_of_bounded (by decide)⟩

end View

end FlatGraph
