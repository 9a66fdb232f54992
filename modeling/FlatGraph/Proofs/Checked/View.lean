import FlatGraph.View

/-!
Viewing flat bytes by checked arithmetic, with the sums of positions that the
machine forms: one that no word holds counts as outside. Of bytes whose number
is a word this answers what the view does.
-/

namespace FlatGraph

namespace Checked

variable {bytes : Bytes} {left right : Nat}

/-- A sum of two words, if a word holds it. -/
def sum? (left right : Nat) : Option Nat :=
  if left + right < wordLimit then some (left + right) else none

def range? (bytes : Bytes) (start stop : Nat) : Option Bytes :=
  if start ≤ stop ∧ stop ≤ bytes.length then
    some ((bytes.take stop).drop start)
  else none

def slice (bytes : Bytes) (position length : Nat) : Except Fault Bytes :=
  match (sum? position length).bind (range? bytes position) with
  | some found => .ok found
  | none => .error (.positionOutOfBounds position bytes.length)

def word (bytes : Bytes) (position : Nat) : Except Fault Nat :=
  (slice bytes position wordSize).map decodeLittle

def offset (bytes : Bytes) (position : Nat) : Except Fault Offset :=
  (word bytes position).map Offset.mk

def resolve (bytes : Bytes) (container field : Nat) :
    Except Fault (Option Nat) :=
  match sum? container field with
  | none => .error (.positionOutOfBounds (wordLimit - 1) bytes.length)
  | some slot =>
      match offset bytes slot with
      | .error fault => .error fault
      | .ok offset =>
          if offset.isNull then .ok none
          else
            match sum? container offset.raw with
            | some position =>
                if position ≤ bytes.length then .ok (some position)
                else .error (.positionOutOfBounds position bytes.length)
            | none =>
                .error (.positionOutOfBounds (wordLimit - 1) bytes.length)

theorem sum?_of_held (held : left + right < wordLimit) :
    sum? left right = some (left + right) :=
  if_pos held

theorem sum?_of_wrapped (wrapped : wordLimit ≤ left + right) :
    sum? left right = none :=
  if_neg (Nat.not_lt_of_le wrapped)

theorem slice_eq (bounded : bytes.length < wordLimit)
    (position length : Nat) :
    slice bytes position length = View.slice bytes position length := by
  by_cases inside : position + length ≤ bytes.length
  · have found : range? bytes position (position + length) =
        some ((bytes.drop position).take length) := by
      rw [range?, if_pos ⟨Nat.le_add_right _ _, inside⟩, List.drop_take,
        Nat.add_sub_cancel_left]
    rw [slice, sum?_of_held (by omega), Option.bind_some, found, View.slice,
      if_pos inside]
  · have missing : (sum? position length).bind (range? bytes position) =
        none := by
      rcases Nat.lt_or_ge (position + length) wordLimit with held | wrapped
      · rw [sum?_of_held held]
        exact if_neg fun both => inside both.2
      · rw [sum?_of_wrapped wrapped]
        rfl
    rw [slice, missing, View.slice, if_neg inside]

theorem word_eq (bounded : bytes.length < wordLimit) (position : Nat) :
    word bytes position = View.word bytes position := by
  rw [word, slice_eq bounded, View.word]

theorem offset_eq (bounded : bytes.length < wordLimit) (position : Nat) :
    offset bytes position = View.offset bytes position := by
  rw [offset, word_eq bounded, View.offset]

theorem resolve_eq (bounded : bytes.length < wordLimit)
    (container field : Nat) :
    resolve bytes container field = View.resolve bytes container field := by
  rw [resolve, View.resolve]
  rcases Nat.lt_or_ge (container + field) wordLimit with held | wrapped
  · rw [sum?_of_held held, if_pos held]
    simp only [offset_eq bounded]
    cases View.offset bytes (container + field) with
    | error fault => rfl
    | ok found =>
        simp only
        rcases Nat.lt_or_ge (container + found.raw) wordLimit with
          reached | beyond
        · rw [sum?_of_held reached, View.reported, if_pos reached]
        · have outside : ¬ container + found.raw ≤ bytes.length := by omega
          rw [sum?_of_wrapped beyond, if_neg outside, View.reported,
            if_neg (Nat.not_lt_of_le beyond)]
  · rw [sum?_of_wrapped wrapped, if_neg (Nat.not_lt_of_le wrapped)]

/-- Viewing by sums of machine words is viewing by sums of any size. A text is
read without forming a sum. -/
structure Agrees (bytes : Bytes) : Prop where
  slice : ∀ position length,
    Checked.slice bytes position length = View.slice bytes position length
  word : ∀ position, Checked.word bytes position = View.word bytes position
  offset : ∀ position,
    Checked.offset bytes position = View.offset bytes position
  resolve : ∀ container field,
    Checked.resolve bytes container field = View.resolve bytes container field

theorem agrees_of_bounded (bounded : bytes.length < wordLimit) :
    Agrees bytes where
  slice := slice_eq bounded
  word := word_eq bounded
  offset := offset_eq bounded
  resolve := resolve_eq bounded

end Checked

end FlatGraph
