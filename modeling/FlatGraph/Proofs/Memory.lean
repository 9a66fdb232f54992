import FlatGraph.Schema
import FlatGraph.Proofs.Patch

/-!
Reading memory: what is read at an address depends on the bytes there alone,
so that the same bytes at two addresses read the same. Bytes count as a memory
of their own, in which they lie at zero.
-/

namespace FlatGraph

namespace Memory

variable {left right : Memory} {here there : Nat}

theorem load_congr {length : Nat}
    (same : ∀ index < length,
      left.byte (here + index) = right.byte (there + index)) :
    left.load here length = right.load there length := by
  apply List.map_congr_left
  intro index member
  exact same index (List.mem_range.mp member)

theorem word_congr
    (same : ∀ index < wordSize,
      left.byte (here + index) = right.byte (there + index)) :
    left.word here = right.word there := by
  rw [word, word, load_congr same]

theorem load_getElem? (memory : Memory) (address : Nat) {length index : Nat}
    (inside : index < length) :
    (memory.load address length)[index]? =
      some (memory.byte (address + index)) := by
  rw [load, List.getElem?_map, List.getElem?_range inside]
  rfl

theorem word_storeWord {memory : Memory} {address value : Nat}
    (small : value < wordLimit) :
    (memory.storeWord address value).word address = value := by
  have loaded : (memory.storeWord address value).load address wordSize =
      encodeWord value := by
    apply List.ext_getElem?
    intro index
    by_cases inside : index < wordSize
    · have within : index < (encodeWord value).length := by
        rw [encodeWord_length]
        exact inside
      rw [load_getElem? _ _ inside, storeWord,
        byte_store_inside _ _ _ _ within, List.getElem?_eq_getElem within]
    · rw [List.getElem?_eq_none (by rw [load_length]; omega),
        List.getElem?_eq_none (by rw [encodeWord_length]; omega)]
  rw [word, loaded, decodeLittle_encodeWord small]

theorem byte_storeWord_outside {memory : Memory} {address value place : Nat}
    (outside : place < address ∨ address + wordSize ≤ place) :
    (memory.storeWord address value).byte place = memory.byte place := by
  apply byte_store_outside
  rw [encodeWord_length]
  exact outside

theorem firstZero?_eq_some_iff {memory : Memory} {fuel address stop : Nat} :
    memory.firstZero? fuel address = some stop ↔
      address ≤ stop ∧ stop < address + fuel ∧ memory.byte stop = 0 ∧
        ∀ place, address ≤ place → place < stop → memory.byte place ≠ 0 := by
  induction fuel generalizing address with
  | zero =>
      simp only [firstZero?]
      constructor
      · intro impossible
        cases impossible
      · rintro ⟨above, below, -⟩
        omega
  | succ fuel ih =>
      simp only [firstZero?]
      split
      · rename_i zero
        constructor
        · intro same
          cases same
          exact ⟨Nat.le_refl _, by omega, zero, by omega⟩
        · rintro ⟨above, -, -, before⟩
          rcases Nat.eq_or_lt_of_le above with same | later
          · rw [same]
          · exact absurd zero (before address (Nat.le_refl _) later)
      · rename_i nonzero
        rw [ih]
        constructor
        · rintro ⟨above, below, zero, before⟩
          refine ⟨by omega, by omega, zero, ?_⟩
          intro place least upTo
          by_cases first : place = address
          · rw [first]
            exact nonzero
          · exact before place (by omega) upTo
        · rintro ⟨above, below, zero, before⟩
          have later : stop ≠ address := by
            rintro rfl
            exact nonzero zero
          exact ⟨by omega, by omega, zero,
            fun place least upTo => before place (by omega) upTo⟩

theorem string?_eq_some_iff {memory : Memory} {address : Nat} {text : Bytes} :
    memory.string? address = some text ↔
      ∃ length, text = memory.load address (length + 1) ∧
        address + length < wordLimit ∧
        memory.byte (address + length) = 0 ∧
        ∀ index < length, memory.byte (address + index) ≠ 0 := by
  simp only [string?, Option.map_eq_some_iff, firstZero?_eq_some_iff]
  constructor
  · rintro ⟨stop, ⟨above, below, zero, before⟩, rfl⟩
    have ends : address + (stop - address) = stop := by omega
    refine ⟨stop - address, ?_, by omega, by rw [ends]; exact zero, ?_⟩
    · rw [show stop + 1 - address = stop - address + 1 by omega]
    · intro index inside
      exact before _ (by omega) (by omega)
  · rintro ⟨length, rfl, bounded, zero, before⟩
    refine ⟨address + length, ⟨by omega, by omega, zero, ?_⟩, ?_⟩
    · intro place above below
      have index := before (place - address) (by omega)
      rw [show address + (place - address) = place by omega] at index
      exact index
    · rw [show address + length + 1 - address = length + 1 by omega]

theorem string?_congr {text : Bytes} (found : left.string? here = some text)
    (same : ∀ index < text.length,
      right.byte (there + index) = left.byte (here + index))
    (bounded : there + text.length ≤ wordLimit) :
    right.string? there = some text := by
  obtain ⟨length, rfl, -, zero, before⟩ := string?_eq_some_iff.mp found
  rw [load_length] at same bounded
  refine string?_eq_some_iff.mpr ⟨length, ?_, by omega, ?_, ?_⟩
  · exact load_congr fun index inside => (same index inside).symm
  · rw [same length (Nat.lt_succ_self length)]
    exact zero
  · intro index inside
    rw [same index (Nat.lt_succ_of_lt inside)]
    exact before index inside

theorem string?_byte {text : Bytes} (found : left.string? here = some text)
    {index : Nat} (inside : index < text.length) :
    text[index]? = some (left.byte (here + index)) := by
  obtain ⟨length, rfl, -⟩ := string?_eq_some_iff.mp found
  rw [load_length] at inside
  exact load_getElem? left here inside

end Memory

theorem LengthField.read_congr {field : LengthField} {left right : Memory}
    {here there : Nat}
    (same : ∀ index < field.width, left.byte (here + field.offset + index) =
      right.byte (there + field.offset + index)) :
    field.read left here = field.read right there := by
  rw [LengthField.read, LengthField.read, Memory.load_congr same]

namespace Memory

def ofBytes (bytes : Bytes) : Memory := ⟨fun place => bytes.getD place 0⟩

theorem ofBytes_byte_eq {bytes : Bytes} {place : Nat} {byte : UInt8}
    (found : bytes[place]? = some byte) :
    (ofBytes bytes).byte place = byte := by
  simp only [ofBytes, List.getD_eq_getElem?_getD, found, Option.getD_some]

theorem ofBytes_congr {first second : Bytes} {place : Nat}
    (same : first[place]? = second[place]?) :
    (ofBytes first).byte place = (ofBytes second).byte place := by
  simp only [ofBytes, List.getD_eq_getElem?_getD, same]

theorem getElem?_ofBytes {bytes : Bytes} {place : Nat}
    (inside : place < bytes.length) :
    bytes[place]? = some ((ofBytes bytes).byte place) := by
  simp only [ofBytes, List.getD_eq_getElem?_getD,
    List.getElem?_eq_getElem inside, Option.getD_some]

theorem ofBytes_load {bytes : Bytes} {position length : Nat}
    (inside : position + length ≤ bytes.length) :
    (ofBytes bytes).load position length =
      (bytes.drop position).take length := by
  apply List.ext_getElem?
  intro index
  by_cases within : index < length
  · rw [load_getElem? _ _ within, List.getElem?_take_of_lt within,
      List.getElem?_drop, getElem?_ofBytes (by omega)]
  · rw [List.getElem?_eq_none (by rw [load_length]; omega),
      List.getElem?_take_eq_none (Nat.not_lt.mp within)]

theorem load_eq_iff {memory : Memory} {address : Nat} {bytes : Bytes} :
    memory.load address bytes.length = bytes ↔
      ∀ place < bytes.length,
        memory.byte (address + place) = (ofBytes bytes).byte place := by
  constructor
  · intro loaded place inside
    have found := load_getElem? memory address inside
    rw [loaded] at found
    exact (ofBytes_byte_eq found).symm
  · intro same
    have whole : (ofBytes bytes).load 0 bytes.length =
        (bytes.drop 0).take bytes.length :=
      ofBytes_load (Nat.le_of_eq (Nat.zero_add bytes.length))
    rw [List.drop_zero, List.take_length] at whole
    refine Eq.trans (load_congr ?_) whole
    intro index inside
    rw [Nat.zero_add]
    exact same index inside

theorem ofBytes_append_left {bytes extra : Bytes} {place : Nat}
    (inside : place < bytes.length) :
    (ofBytes (bytes ++ extra)).byte place = (ofBytes bytes).byte place :=
  ofBytes_congr (List.getElem?_append_left inside)

theorem ofBytes_append_right (bytes extra : Bytes) (index : Nat) :
    (ofBytes (bytes ++ extra)).byte (bytes.length + index) =
      (ofBytes extra).byte index := by
  simp only [ofBytes, List.getD_eq_getElem?_getD]
  rw [List.getElem?_append_right (Nat.le_add_right _ _),
    Nat.add_sub_cancel_left]

theorem ofBytes_load_self {memory : Memory} {address length index : Nat}
    (inside : index < length) :
    (ofBytes (memory.load address length)).byte index =
      memory.byte (address + index) :=
  ofBytes_byte_eq (load_getElem? memory address inside)

theorem ofBytes_load_congr {left right : Memory} {here there length : Nat}
    {index : Nat} (same : index < length →
      left.byte (here + index) = right.byte (there + index)) :
    (ofBytes (left.load here length)).byte index =
      (ofBytes (right.load there length)).byte index := by
  by_cases inside : index < length
  · rw [ofBytes_load_self inside, ofBytes_load_self inside, same inside]
  · have beyond : ∀ (memory : Memory) (address : Nat),
        (memory.load address length)[index]? = none := fun memory address =>
      List.getElem?_eq_none (by rw [load_length]; omega)
    exact ofBytes_congr ((beyond left here).trans (beyond right there).symm)

section Patch

variable {bytes : Bytes} {slot value : Nat}
  (fits : slot + wordSize ≤ bytes.length)

include fits

theorem ofBytes_patch_outside {place : Nat}
    (outside : place < slot ∨ slot + wordSize ≤ place) :
    (ofBytes (Buffer.patch bytes slot (encodeWord value))).byte place =
      (ofBytes bytes).byte place := by
  apply ofBytes_congr
  apply Buffer.patch_getElem?_outside
  · rw [encodeWord_length]
    exact fits
  · rw [encodeWord_length]
    exact outside

theorem ofBytes_patch_inside {index : Nat} (inside : index < wordSize) :
    (ofBytes (Buffer.patch bytes slot (encodeWord value))).byte
        (slot + index) =
      (ofBytes (encodeWord value)).byte index := by
  simp only [ofBytes, List.getD_eq_getElem?_getD]
  rw [Buffer.patch_getElem?_inside]
  · rw [encodeWord_length]
    exact fits
  · rw [encodeWord_length]
    exact inside

theorem ofBytes_patch_word (small : value < wordLimit) :
    (ofBytes (Buffer.patch bytes slot (encodeWord value))).word slot =
      value := by
  have within : slot + (encodeWord value).length ≤ bytes.length := by
    rw [encodeWord_length]
    exact fits
  have reading := Buffer.slice_patch within
  rw [encodeWord_length] at reading
  rw [word, ofBytes_load (by rw [Buffer.patch_length within]; exact fits),
    reading, decodeLittle_encodeWord small]

end Patch

end Memory

end FlatGraph
