import FlatGraph.View
import FlatGraph.Proofs.Memory

namespace FlatGraph

namespace View

variable {bytes : Bytes} {container field slot target value : Nat}

theorem offset_eq (inside : slot + wordSize ≤ bytes.length)
    (small : value < wordLimit)
    (reading : (bytes.drop slot).take wordSize = encodeWord value) :
    offset bytes slot = .ok ⟨value⟩ := by
  rw [offset, word, slice, if_pos inside, reading]
  simp only [Except.map, decodeLittle_encodeWord small]

theorem offset_eq_word (inside : slot + wordSize ≤ bytes.length) :
    offset bytes slot = .ok ⟨(Memory.ofBytes bytes).word slot⟩ := by
  rw [offset, word, slice, if_pos inside, Memory.word,
    Memory.ofBytes_load inside]
  rfl

section Resolve

variable (inside : container + field + wordSize ≤ bytes.length)
  (bounded : bytes.length < wordLimit)
  (found : offset bytes (container + field) = .ok ⟨value⟩)

include inside bounded found

theorem resolve_of_null (null : value = 0) :
    resolve bytes container field = .ok none := by
  have small : container + field < wordLimit := by omega
  rw [resolve, if_pos small, found, null]
  rfl

theorem resolve_of_target (leads : value = target - container)
    (beyond : container < target) (reached : target ≤ bytes.length) :
    resolve bytes container field = .ok (some target) := by
  have small : container + field < wordLimit := by omega
  have nonnull : ¬ (Offset.mk value).isNull = true := by
    simp only [Offset.isNull, beq_iff_eq]
    omega
  have place : container + value = target := by omega
  rw [resolve, if_pos small, found]
  simp only [if_neg nonnull, place, if_pos reached]

end Resolve

theorem string_of_memory {position : Nat} {text : Bytes}
    (found : (Memory.ofBytes bytes).string? position = some text)
    (inside : position + text.length ≤ bytes.length) :
    ∃ body, text = body ++ [0] ∧ string bytes position = .ok body := by
  obtain ⟨length, rfl, -, zero, before⟩ :=
    Memory.string?_eq_some_iff.mp found
  rw [Memory.load_length] at inside
  have byte_eq : ∀ index ≤ length, (bytes.drop position)[index]? =
      some ((Memory.ofBytes bytes).byte (position + index)) := by
    intro index upTo
    rw [List.getElem?_drop, Memory.getElem?_ofBytes (by omega)]
  have split : bytes.drop position =
      (Memory.ofBytes bytes).load position length ++
        0 :: bytes.drop (position + (length + 1)) := by
    rw [← List.take_append_drop length (bytes.drop position),
      Memory.ofBytes_load (by omega)]
    congr 1
    have last := byte_eq length (Nat.le_refl _)
    rw [zero] at last
    obtain ⟨short, value⟩ := List.getElem?_eq_some_iff.mp last
    rw [List.drop_eq_getElem_cons short, value, List.drop_drop]
  have nonzero : ∀ byte ∈ (Memory.ofBytes bytes).load position length,
      (byte != 0) = true := by
    intro byte member
    obtain ⟨index, short, rfl⟩ := List.mem_map.mp member
    exact bne_iff_ne.mpr (before index (List.mem_range.mp short))
  refine ⟨(Memory.ofBytes bytes).load position length, ?_, ?_⟩
  · rw [Memory.load, List.range_succ, List.map_append, List.map_singleton,
      zero]
    rfl
  · rw [string, if_neg (by omega)]
    simp only
    rw [split, List.takeWhile_append_of_pos nonzero]
    simp

end View

end FlatGraph
