import Mathlib.Data.List.Forall2
import FlatGraph.Proofs.Derive.Conditions
import FlatGraph.Proofs.Derive.Spelling

/-!
The annotated fields of a declaration: those with the attribute, in order,
each with the role that its attribute spells. Collecting them fails exactly
if some field has two of the attributes or one that spells no role, and the
first such field decides the fault.
-/

namespace FlatGraph

namespace Derive

namespace Field

def isMarked (field : Field) : Bool :=
  field.attributes.any (·.path.is "ser")

/-- A field with one attribute, which spells a role. -/
def MarkedAs (field : Field) (role : Role) : Prop :=
  ∃ source clause, field.attributes.filter (·.path.is "ser") = [source] ∧
    Encloses source.content clause ∧ Role.Spelled clause role

inductive Offends (field : Field) : DeriveFault → Prop
  | duplicate
      (many : 2 ≤ (field.attributes.filter (·.path.is "ser")).length) :
      Offends field .duplicate
  | misspelt {source : Attribute} {fault : DeriveFault}
      (single : field.attributes.filter (·.path.is "ser") = [source])
      (misspelt : Role.Misspelt source fault) : Offends field fault

variable {field : Field}

theorem isMarked_eq_false_iff :
    field.isMarked = false ↔
      field.attributes.filter (·.path.is "ser") = [] := by
  rw [isMarked, List.any_eq_false, List.filter_eq_nil_iff]

inductive Outcome (field : Field) : Except DeriveFault (Option Role) → Prop
  | plain (unmarked : field.isMarked = false) : Outcome field (.ok none)
  | marked {role : Role} (marked : field.isMarked = true)
      (as : field.MarkedAs role) : Outcome field (.ok (some role))
  | offends {fault : DeriveFault} (marked : field.isMarked = true)
      (offends : Offends field fault) : Outcome field (.error fault)

theorem outcome (field : Field) : Outcome field (Role.ofField field) := by
  have marked (source : Attribute) (others : List Attribute)
      (found : field.attributes.filter (·.path.is "ser") = source :: others) :
      field.isMarked = true := by
    rw [← Bool.not_eq_false, isMarked_eq_false_iff, found]
    exact List.cons_ne_nil _ _
  rw [Role.ofField]
  split
  · rename_i none
    exact .plain (isMarked_eq_false_iff.mpr none)
  · rename_i source single
    have came := Role.outcome source
    generalize Role.ofAttribute source = made at came
    cases came with
    | spelled encloses spelled =>
        exact .marked (marked _ _ single) ⟨_, _, single, encloses, spelled⟩
    | misspelt misspelt =>
        exact .offends (marked _ _ single) (.misspelt single misspelt)
  · rename_i none other
    cases found : field.attributes.filter (·.path.is "ser") with
    | nil => exact absurd found none
    | cons first others =>
        cases others with
        | nil => exact absurd found (other first)
        | cons second others =>
            refine .offends (marked _ _ found) (.duplicate ?_)
            rw [found]
            simp

theorem ofField_of_markedAs {role : Role} (as : field.MarkedAs role) :
    Role.ofField field = .ok (some role) := by
  obtain ⟨source, clause, single, encloses, spelled⟩ := as
  rw [Role.ofField, single]
  simp only [Role.ofAttribute_eq_ok_iff.mpr ⟨clause, encloses, spelled⟩,
    Except.map]

theorem MarkedAs.unique {role other : Role} (one : field.MarkedAs role)
    (two : field.MarkedAs other) : role = other := by
  have same := (ofField_of_markedAs one).symm.trans (ofField_of_markedAs two)
  exact Option.some.inj (Except.ok.inj same)

theorem MarkedAs.isMarked {role : Role} (as : field.MarkedAs role) :
    field.isMarked = true := by
  obtain ⟨source, clause, single, -⟩ := as
  rw [← Bool.not_eq_false, isMarked_eq_false_iff, single]
  exact List.cons_ne_nil _ _

theorem ofField_of_offends {fault : DeriveFault} (offends : Offends field fault) :
    Role.ofField field = .error fault := by
  cases offends with
  | duplicate many =>
      rw [Role.ofField]
      split
      · rename_i none
        rw [none] at many
        cases many
      · rename_i source single
        rw [single] at many
        simp at many
      · rfl
  | misspelt single misspelt =>
      rw [Role.ofField, single]
      simp only [Role.ofAttribute_eq_error_iff.mpr misspelt, Except.map]

end Field

/-- What is collected of a field at its place among all fields. -/
structure Entry (entry : Field × Nat) (found : Annotated) : Prop where
  named : ∀ name, entry.1.name = some name → found.member = .named name
  unnamed : entry.1.name = none → found.member = .index entry.2
  type : found.type = entry.1.type
  role : entry.1.MarkedAs found.role

def markedFrom (place : Nat) (fields : List Field) : List (Field × Nat) :=
  (fields.zipIdx place).filter fun entry => entry.1.isMarked

section Fields

variable {field : Field} {fields : List Field} {place : Nat}

theorem markedFrom_cons_of_marked (marked : field.isMarked = true) :
    markedFrom place (field :: fields) =
      (field, place) :: markedFrom (place + 1) fields := by
  simp [markedFrom, marked]

theorem markedFrom_cons_of_unmarked (unmarked : field.isMarked = false) :
    markedFrom place (field :: fields) = markedFrom (place + 1) fields := by
  simp [markedFrom, unmarked]

theorem entry_iff {role : Role} (as : field.MarkedAs role)
    {found : Annotated} :
    Entry (field, place) found ↔
      found = ⟨field.member place, field.type, role⟩ := by
  constructor
  · intro entry
    obtain ⟨member, type, other⟩ := found
    obtain rfl : role = other := as.unique entry.role
    obtain rfl : type = field.type := entry.type
    have member : member = field.member place := by
      rw [Field.member]
      cases name : field.name with
      | some word => exact entry.named word name
      | none => exact entry.unnamed name
    rw [member]
  · rintro rfl
    refine ⟨fun name named => ?_, fun unnamed => ?_, rfl, as⟩
    · simp only at named
      simp only [Field.member, named]
    · simp only at unnamed
      simp only [Field.member, unnamed]

theorem annotatedFrom_eq_ok_iff {found : List Annotated} :
    annotatedFrom place fields = .ok found ↔
      List.Forall₂ Entry (markedFrom place fields) found := by
  induction fields generalizing place found with
  | nil => simp [annotatedFrom, markedFrom, eq_comm]
  | cons field fields ih =>
      have came := field.outcome
      rw [annotatedFrom]
      generalize answer : Role.ofField field = made at came
      cases came with
      | plain unmarked =>
          rw [markedFrom_cons_of_unmarked unmarked, ← ih]
          cases annotatedFrom (place + 1) fields <;> rfl
      | @marked role marked as =>
          rw [markedFrom_cons_of_marked marked]
          simp only [Except.bind, List.forall₂_cons_left_iff, entry_iff as, ← ih]
          cases annotatedFrom (place + 1) fields with
          | error fault => simp [Except.map]
          | ok later => simp [Except.map, eq_comm]
      | offends marked offends =>
          rw [markedFrom_cons_of_marked marked]
          constructor
          · intro impossible
            cases impossible
          · intro entries
            cases entries with
            | cons entry later =>
                cases answer.symm.trans (Field.ofField_of_markedAs entry.role)

theorem annotatedFrom_eq_error_iff {fault : DeriveFault} :
    annotatedFrom place fields = .error fault ↔
      FirstRefused Role.ofField fields fault := by
  induction fields generalizing place with
  | nil =>
      constructor
      · intro impossible
        cases impossible
      · intro impossible
        cases impossible
  | cons field fields ih =>
      rw [annotatedFrom]
      constructor
      · intro failed
        cases first : Role.ofField field with
        | error other =>
            rw [first] at failed
            cases failed
            exact .here fields first
        | ok role? =>
            refine .later first ((@ih (place + 1)).mp ?_)
            rw [first, Except.bind] at failed
            cases rest : annotatedFrom (place + 1) fields with
            | error other =>
                rw [rest] at failed
                cases failed
                rfl
            | ok later =>
                rw [rest] at failed
                cases failed
      · intro refused
        cases refused with
        | here _ refused =>
            rw [refused]
            rfl
        | later accepted rest =>
            rw [accepted, Except.bind, (@ih (place + 1)).mpr rest]
            rfl

end Fields

/-- What collecting the annotated fields of a declaration comes to. -/
structure Collects (item : Item) : Prop where
  accepts : ∀ found, item.annotated = .ok found ↔
    List.Forall₂ Entry (markedFrom 0 item.fields) found
  refuses : ∀ fault, item.annotated = .error fault ↔
    ∃ before field after, item.fields = before ++ field :: after ∧
      (∀ earlier ∈ before, earlier.isMarked = true →
        ∃ role, earlier.MarkedAs role) ∧
      field.Offends fault
  fails : (∃ fault, item.annotated = .error fault) ↔
    ∃ field ∈ item.fields,
      2 ≤ (field.attributes.filter (·.path.is "ser")).length ∨
        ∃ source, field.attributes.filter (·.path.is "ser") = [source] ∧
          ∀ clause role, Encloses source.content clause →
            ¬Role.Spelled clause role
  /-- Besides the faults of attributes there is only that of a literal of an
  unknown kind. -/
  faults : ∀ fault, item.annotated = .error fault →
    fault ∈ [.duplicate, .malformed, .lengthMember, .unknownForm] ∨
      ∃ text, fault = .refused (.unknownLiteral text)

section Faults

variable {field : Field} {fault : DeriveFault}

theorem ofField_eq_ok_iff :
    (∃ role?, Role.ofField field = .ok role?) ↔
      (field.isMarked = true → ∃ role, field.MarkedAs role) := by
  have came := field.outcome
  generalize answer : Role.ofField field = made at came
  cases came with
  | plain unmarked => simp [unmarked]
  | @marked role marked as => exact ⟨fun _ _ => ⟨role, as⟩, fun _ => ⟨_, rfl⟩⟩
  | offends marked offends =>
      constructor
      · rintro ⟨role?, impossible⟩
        cases impossible
      · intro spelled
        obtain ⟨role, as⟩ := spelled marked
        cases answer.symm.trans (Field.ofField_of_markedAs as)

theorem ofField_eq_error_iff :
    Role.ofField field = .error fault ↔ field.Offends fault := by
  constructor
  · intro failed
    have came := field.outcome
    rw [failed] at came
    cases came with
    | offends marked offends => exact offends
  · exact Field.ofField_of_offends

theorem Field.offends_iff :
    (∃ fault, field.Offends fault) ↔
      2 ≤ (field.attributes.filter (·.path.is "ser")).length ∨
        ∃ source, field.attributes.filter (·.path.is "ser") = [source] ∧
          ∀ clause role, Encloses source.content clause →
            ¬Role.Spelled clause role := by
  constructor
  · rintro ⟨fault, offends⟩
    cases offends with
    | duplicate many => exact .inl many
    | @misspelt source _ single misspelt =>
        exact .inr ⟨source, single,
          Role.exists_misspelt_iff.mp ⟨fault, misspelt⟩⟩
  · rintro (many | ⟨source, single, unspelled⟩)
    · exact ⟨.duplicate, .duplicate many⟩
    · obtain ⟨fault, misspelt⟩ := Role.exists_misspelt_iff.mpr unspelled
      exact ⟨fault, .misspelt single misspelt⟩

theorem Field.Offends.fault_cases (offends : field.Offends fault) :
    fault ∈ [.duplicate, .malformed, .lengthMember, .unknownForm] ∨
      ∃ text, fault = .refused (.unknownLiteral text) := by
  cases offends with
  | duplicate many => exact .inl (by simp)
  | misspelt single misspelt =>
      cases misspelt with
      | malformed refused known => exact .inl (by simp)
      | unknownLiteral refused => exact .inr ⟨_, rfl⟩
      | lengthMember encloses gives unnamed known => exact .inl (by simp)
      | lengthLiteral encloses gives breaks => exact .inr ⟨_, rfl⟩
      | unknownForm parsed unspelled => exact .inl (by simp)

end Faults

theorem Item.annotated_eq_error_iff {item : Item} {fault : DeriveFault} :
    item.annotated = .error fault ↔
      ∃ before field after, item.fields = before ++ field :: after ∧
        (∀ earlier ∈ before, earlier.isMarked = true →
          ∃ role, earlier.MarkedAs role) ∧
        field.Offends fault := by
  rw [Item.annotated, annotatedFrom_eq_error_iff, firstRefused_iff_append]
  simp only [ofField_eq_ok_iff, ofField_eq_error_iff]

theorem Item.annotated_fails_iff {item : Item} :
    (∃ fault, item.annotated = .error fault) ↔
      ∃ field ∈ item.fields, ∃ fault, field.Offends fault := by
  simp only [Item.annotated, annotatedFrom_eq_error_iff,
    exists_firstRefused_iff, ofField_eq_error_iff]

theorem annotations_collected (item : Item) : Collects item where
  accepts := fun found => annotatedFrom_eq_ok_iff
  refuses := fun fault => Item.annotated_eq_error_iff
  fails := by
    rw [Item.annotated_fails_iff]
    simp only [Field.offends_iff]
  faults := fun fault failed => by
    obtain ⟨_, field, _, -, -, offends⟩ := Item.annotated_eq_error_iff.mp failed
    exact offends.fault_cases

/-- The tokens of a declaration whose attribute holds a text that a zero ends,
which is a literal of no known kind. -/
def unknownTokens : List Token :=
  [.word "struct", .word "E",
    .group .brace [.punct '#' false,
      .group .bracket [.word "ser", .group .parenthesis [.literal "c\"x\""]],
      .word "a", .punct ':' false, .punct '*' false, .word "const", .word "u8"]]

/-- Not every fault is one of the four faults of attributes. -/
theorem annotations_break_down :
    ∃ item fault, Item.ofTokens unknownTokens = .ok item ∧
      item.annotated = .error fault ∧
      fault = .refused (.unknownLiteral "c\"x\"") ∧
      ∀ known ∈ [DeriveFault.duplicate, .malformed, .lengthMember, .unknownForm],
        fault.message ≠ known.message :=
  ⟨_, _, rfl, rfl, rfl, by decide⟩

end Derive

end FlatGraph
