import FlatGraph.Buffer.Basic

/-!
Patched bytes, place by place: a patch shows inside its own places and nowhere
else, and bytes that are appended later do not matter to it. Before that, when
two words share no byte.
-/

namespace FlatGraph

def Apart (left right : Nat) : Prop :=
  left + wordSize ≤ right ∨ right + wordSize ≤ left

def Outside (place slot : Nat) : Prop :=
  place < slot ∨ slot + wordSize ≤ place

instance (left right : Nat) : Decidable (Apart left right) :=
  inferInstanceAs (Decidable (_ ∨ _))

instance (place slot : Nat) : Decidable (Outside place slot) :=
  inferInstanceAs (Decidable (_ ∨ _))

namespace Buffer

variable {bytes replacement : Bytes} {position : Nat}

theorem patch_getElem?_outside {place : Nat}
    (fits : position + replacement.length ≤ bytes.length)
    (outside : place < position ∨ position + replacement.length ≤ place) :
    (patch bytes position replacement)[place]? = bytes[place]? := by
  have front : (bytes.take position).length = position := by
    rw [List.length_take]
    omega
  rw [patch, List.append_assoc]
  rcases outside with before | behind
  · rw [List.getElem?_append_left (by omega), List.getElem?_take,
      if_pos before]
  · rw [List.getElem?_append_right (by omega), front,
      List.getElem?_append_right (by omega), List.getElem?_drop]
    congr 1
    omega

theorem patch_append {extra : Bytes}
    (fits : position + replacement.length ≤ bytes.length) :
    patch (bytes ++ extra) position replacement =
      patch bytes position replacement ++ extra := by
  rw [patch, patch, List.take_append_of_le_length (by omega),
    List.drop_append_of_le_length fits]
  simp only [List.append_assoc]

theorem slice_patch (fits : position + replacement.length ≤ bytes.length) :
    ((patch bytes position replacement).drop position).take
      replacement.length = replacement := by
  have front : (bytes.take position).length = position := by
    rw [List.length_take]
    omega
  rw [patch, List.append_assoc, List.drop_left' front, List.take_left]

theorem patch_getElem?_inside
    (fits : position + replacement.length ≤ bytes.length) {index : Nat}
    (inside : index < replacement.length) :
    (patch bytes position replacement)[position + index]? =
      replacement[index]? := by
  rw [← List.getElem?_drop, ← List.getElem?_take_of_lt inside,
    slice_patch fits]

theorem slice_congr {left right : Bytes} {position length : Nat}
    (same : ∀ place, position ≤ place → place < position + length →
      left[place]? = right[place]?) :
    (left.drop position).take length = (right.drop position).take length := by
  apply List.ext_getElem?
  intro index
  by_cases inside : index < length
  · rw [List.getElem?_take_of_lt inside, List.getElem?_take_of_lt inside,
      List.getElem?_drop, List.getElem?_drop]
    exact same _ (Nat.le_add_right _ _) (Nat.add_lt_add_left inside _)
  · rw [List.getElem?_take_eq_none (Nat.not_lt.mp inside),
      List.getElem?_take_eq_none (Nat.not_lt.mp inside)]

end Buffer

end FlatGraph
