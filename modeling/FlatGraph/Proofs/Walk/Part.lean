import FlatGraph.Proofs.Memory

/-!
The parts of a value that a walk comes to, and where their slots lie. In a
well-formed schema the slots of a structure lie inside it and apart.
-/

namespace FlatGraph

/-- A slot, and where the structure around it begins. -/
structure Site where
  container : Nat
  slot : Nat
  deriving DecidableEq, Repr

variable {count : Nat}

def Target.length? : Target count → Option LengthField
  | .array _ length => some length
  | _ => none

namespace StructType

/-- A byte of the structure that belongs to none of its links. -/
def Plain (type : StructType count) (index : Nat) : Prop :=
  index < type.layout.size ∧ ∀ link ∈ type.links, Outside index link.offset

structure WellFormed (type : StructType count) : Prop where
  inside : ∀ link ∈ type.links, link.offset + wordSize ≤ type.layout.size
  apart : type.links.Pairwise fun left right => Apart left.offset right.offset
  lengths : ∀ link ∈ type.links, ∀ length ∈ link.target.length?,
    ∀ index < length.width, type.Plain (length.offset + index)

instance (type : StructType count) (index : Nat) :
    Decidable (type.Plain index) :=
  inferInstanceAs (Decidable (_ ∧ _))

instance (type : StructType count) : Decidable type.WellFormed :=
  decidable_of_iff
    ((∀ link ∈ type.links, link.offset + wordSize ≤ type.layout.size) ∧
      (type.links.Pairwise fun left right =>
        Apart left.offset right.offset) ∧
      ∀ link ∈ type.links, ∀ length ∈ link.target.length?,
        ∀ index < length.width, type.Plain (length.offset + index))
    ⟨fun ⟨inside, apart, lengths⟩ => ⟨inside, apart, lengths⟩,
      fun wf => ⟨wf.inside, wf.apart, wf.lengths⟩⟩

end StructType

def Schema.WellFormed (schema : Schema count) : Prop :=
  ∀ type, (schema type).WellFormed

instance (schema : Schema count) : Decidable schema.WellFormed :=
  inferInstanceAs (Decidable (∀ type, (schema type).WellFormed))

/-- What a walk has before it: a structure, some or one of its links,
consecutive structures, or bytes without any links. -/
inductive Part (count : Nat) where
  | value (type : Fin count)
  | links (type : Fin count) (links : List (Link count))
  | link (type : Fin count) (link : Link count)
  | elements (type : Fin count) (elements : Nat)
  | bytes (length : Nat)

namespace Part

variable (schema : Schema count)

def extent : Part count → Nat
  | .value type => (schema type).layout.size
  | .links type _ => (schema type).layout.size
  | .link type _ => (schema type).layout.size
  | .elements type total => (schema type).layout.size * total
  | .bytes length => length

def Slot (position slot : Nat) : Part count → Prop
  | .value type => ∃ link ∈ (schema type).links, slot = position + link.offset
  | .links _ rest => ∃ link ∈ rest, slot = position + link.offset
  | .link _ only => slot = position + only.offset
  | .elements type total => ∃ index < total,
      ∃ link ∈ (schema type).links,
        slot = position + (schema type).layout.size * index + link.offset
  | .bytes _ => False

def around : Part count → Part count
  | .links type _ => .value type
  | .link type _ => .value type
  | part => part

def Within : Part count → Prop
  | .value _ => True
  | .links type rest => rest.Sublist (schema type).links
  | .link type only => only ∈ (schema type).links
  | .elements _ _ => True
  | .bytes _ => True

variable {schema} {type : Fin count} {link : Link count}
  {links : List (Link count)} {position slot : Nat}

theorem Slot.inside {part : Part count}
    (owned : part.Slot schema position slot) (wf : schema.WellFormed)
    (within : part.Within schema) :
    position ≤ slot ∧ slot + wordSize ≤ position + part.extent schema := by
  cases part with
  | value type =>
      obtain ⟨link, member, rfl⟩ := owned
      have inside := (wf type).inside link member
      simp only [extent]
      omega
  | links type links =>
      obtain ⟨link, member, rfl⟩ := owned
      have inside := (wf type).inside link (within.subset member)
      simp only [extent]
      omega
  | link type link =>
      cases owned
      have inside := (wf type).inside link within
      simp only [extent]
      omega
  | elements type elements =>
      obtain ⟨index, before, link, member, rfl⟩ := owned
      have inside := (wf type).inside link member
      have whole := Nat.mul_le_mul_left (schema type).layout.size before
      rw [Nat.mul_succ] at whole
      simp only [extent]
      omega
  | bytes length => cases owned

theorem Slot.outside {part : Part count} {place : Nat}
    (owned : part.Slot schema position slot) (wf : schema.WellFormed)
    (within : part.Within schema)
    (behind : position + part.extent schema ≤ place) : Outside place slot := by
  have inside := owned.inside wf within
  exact .inr (by omega)

theorem element_succ (first size index : Nat) :
    first + size * (index + 1) = first + size + size * index := by
  rw [Nat.mul_add_one]
  omega

theorem slot_elements_succ {elements : Nat} :
    (Part.elements type (elements + 1)).Slot schema position slot ↔
      (Part.value type).Slot schema position slot ∨
        (Part.elements type elements).Slot schema
          (position + (schema type).layout.size) slot := by
  constructor
  · rintro ⟨index, before, link, member, rfl⟩
    cases index with
    | zero => exact .inl ⟨link, member, by rw [Nat.mul_zero]; rfl⟩
    | succ index =>
        refine .inr ⟨index, by omega, link, member, ?_⟩
        rw [Nat.mul_succ]
        omega
  · rintro (⟨link, member, rfl⟩ | ⟨index, before, link, member, rfl⟩)
    · exact ⟨0, Nat.succ_pos _, link, member, by rw [Nat.mul_zero]; rfl⟩
    · refine ⟨index + 1, by omega, link, member, ?_⟩
      rw [Nat.mul_succ]
      omega

end Part

theorem StructType.Plain.untouched {schema : Schema count} {type : Fin count}
    {index : Nat} (plain : (schema type).Plain index) (position : Nat) :
    position ≤ position + index ∧
      position + index < position + (schema type).layout.size ∧
      ∀ slot, (Part.value type).Slot schema position slot →
        Outside (position + index) slot := by
  refine ⟨Nat.le_add_right _ _, Nat.add_lt_add_left plain.1 position, ?_⟩
  rintro slot ⟨link, member, rfl⟩
  rcases plain.2 link member with before | after
  · exact .inl (by omega)
  · exact .inr (by omega)

def Target.part? (schema : Schema count) (source : Memory)
    (address pointer : Nat) : Target count → Option (Part count)
  | .structure type => some (.value type)
  | .array type length =>
      let elements := length.read source address
      some (if schema.isPlain type then
          .bytes ((schema type).layout.size * elements)
        else .elements type elements)
  | .string => (source.string? pointer).map fun text => .bytes text.length
  | .nothing => none

theorem Target.part?_whole {schema : Schema count} {source : Memory}
    {address pointer : Nat} {target : Target count} {part : Part count}
    (leads : target.part? schema source address pointer = some part) :
    part.Within schema ∧ part.around = part := by
  cases target with
  | «structure» type =>
      cases leads
      exact ⟨trivial, rfl⟩
  | array type length =>
      cases leads
      split
      · exact ⟨trivial, rfl⟩
      · exact ⟨trivial, rfl⟩
  | string =>
      obtain ⟨text, -, rfl⟩ := Option.map_eq_some_iff.mp leads
      exact ⟨trivial, rfl⟩
  | nothing => cases leads

end FlatGraph
