import Mathlib.Data.List.Forall2
import FlatGraph.Proofs.Derive.Conditions
import FlatGraph.Proofs.Derive.Statement

/-!
The two implementations for a declaration agree: both are generated or
neither is, their statements lead from the same fields to as many values, and
the rest of them differs in names of capabilities only.
-/

namespace FlatGraph

namespace Derive

def Field.annotated? (field : Field) (place : Nat) : Option Annotated :=
  (Role.ofField field).toOption.join.map fun role =>
    ⟨field.member place, field.type, role⟩

theorem annotatedFrom_ok {place : Nat} {fields : List Field}
    {found : List Annotated} (annotated : annotatedFrom place fields = .ok found) :
    found = (fields.zipIdx place).filterMap fun entry =>
      entry.1.annotated? entry.2 := by
  induction fields generalizing place found with
  | nil =>
      cases annotated
      rfl
  | cons field fields ih =>
      rw [annotatedFrom] at annotated
      cases role : Role.ofField field with
      | error fault =>
          rw [role] at annotated
          cases annotated
      | ok role? =>
          cases rest : annotatedFrom (place + 1) fields with
          | error fault =>
              rw [role, rest] at annotated
              cases annotated
          | ok later =>
              rw [role, rest] at annotated
              cases annotated
              rw [List.zipIdx_cons, List.filterMap_cons, ← ih rest]
              cases role? with
              | none => simp [Field.annotated?, role, Except.toOption]
              | some role => simp [Field.annotated?, role, Except.toOption]

/-- Code that is other code but for names of capabilities. -/
def Renamed (one other : Code) : Prop :=
  List.Forall₂ (fun piece twin => piece = twin ∨
    piece = Capability.serialize.name ∧ twin = Capability.resolve.name) one other

namespace Renamed

theorem refl (same : Code) : Renamed same same := by
  induction same with
  | nil => exact .nil
  | cons piece rest ih => exact .cons (.inl rfl) ih

theorem append {one other : Code} (front : Renamed one other) {rest twin : Code}
    (back : Renamed rest twin) : Renamed (one ++ rest) (other ++ twin) :=
  List.rel_append front back

theorem name :
    Renamed [Capability.serialize.name] [Capability.resolve.name] :=
  .cons (.inr ⟨rfl, rfl⟩) .nil

theorem condition (front : List Token) :
    Renamed (Token.piecesAll (ending front Capability.serialize.ordinary))
      (Token.piecesAll (ending front Capability.resolve.ordinary)) := by
  rw [ending, ending, Token.piecesAll_append, Token.piecesAll_append]
  exact (refl _).append name

theorem intersperse {codes others : List Code}
    (each : List.Forall₂ Renamed codes others) :
    Renamed (codes.intersperse [","]).flatten
      (others.intersperse [","]).flatten := by
  induction each with
  | nil => exact .nil
  | cons first rest ih =>
      cases rest with
      | nil => simpa using first
      | cons second rest =>
          have later := (refl [","]).append ih
          simpa using first.append later

end Renamed

namespace Implementation

variable {item : Item} {fields : List Annotated}
  {pairs : List (List Token × List Token)}

def made (item : Item) (fields : List Annotated)
    (pairs : List (List Token × List Token)) (capability : Capability) :
    Implementation :=
  ⟨capability, item.name, item.generics, fields, pairConditions capability pairs⟩

theorem pairConditions_renamed (pairs : List (List Token × List Token)) :
    List.Forall₂ Renamed
      ((pairConditions .serialize pairs).map Token.piecesAll)
      ((pairConditions .resolve pairs).map Token.piecesAll) := by
  induction pairs with
  | nil => exact .nil
  | cons pair pairs ih => exact .cons (.refl _) (.cons (.condition _) ih)

theorem conditions_renamed (item : Item) (fields : List Annotated)
    (pairs : List (List Token × List Token)) :
    List.Forall₂ Renamed
      ((made item fields pairs .serialize).conditions.map Token.piecesAll)
      ((made item fields pairs .resolve).conditions.map Token.piecesAll) := by
  rw [conditions, conditions, List.map_append, List.map_append]
  refine List.rel_append ?_ (pairConditions_renamed pairs)
  exact List.forall₂_same.mpr fun _ _ => .refl _

theorem conditionCode_renamed :
    Renamed (made item fields pairs .serialize).conditionCode
      (made item fields pairs .resolve).conditionCode := by
  -- The last comma of the declaration's own conditions stays if none are added.
  cases pairs with
  | nil => exact .refl _
  | cons pair pairs =>
      have conditional (capability : Capability) :
          (made item fields (pair :: pairs) capability).conditions.isEmpty =
            false := by
        simp [conditions, made, pairConditions]
      have added (capability : Capability) :
          (made item fields (pair :: pairs) capability).added.isEmpty = false :=
        rfl
      have clauses := conditions_renamed item fields (pair :: pairs)
      simp only [conditionCode, conditional, added, Bool.false_and, Bool.false_eq_true,
        if_false, List.append_nil]
      exact (Renamed.refl ["where"]).append (.intersperse clauses)

def headerFront (implementation : Implementation) : Code :=
  code "# [ automatically_derived ] impl" ++
    implementation.generics.declarations ++ [":", ":", "ser_reloc", ":", ":"]

theorem header_eq (implementation : Implementation) :
    implementation.header = implementation.headerFront ++
      implementation.capability.name ::
        ("for" :: implementation.name :: implementation.generics.arguments) ++
      implementation.conditionCode := by
  have path (name : String) :
      runtime name = [":", ":", "ser_reloc", ":", ":"] ++ [name] := rfl
  simp [header, headerFront, path]

/-- What the implementations of the two capabilities have in common. -/
structure Agree (item : Item) (serialize resolve : Implementation) : Prop where
  annotated : item.annotated = .ok serialize.fields
  inOrder : serialize.fields = item.fields.zipIdx.filterMap fun entry =>
    entry.1.annotated? entry.2
  /-- Each of these fields has a statement in both, about what it leads to. A
  text and a null pointer are resolved alike. -/
  flattening : serialize.body = serialize.statements.flatten ++
      closing .serialize ∧
    serialize.statements.map Statement.flattens? =
      serialize.fields.map fun field => some (field.subject, field.role.label)
  resolving : resolve.body = resolve.statements.flatten ∧
    resolve.statements.map Statement.resolves? =
      serialize.fields.map fun field => some field.subject
  headers : ∃ front back,
    serialize.header = front ++ Capability.serialize.name :: back ++
      serialize.conditionCode ∧
    resolve.header = front ++ Capability.resolve.name :: back ++
      resolve.conditionCode
  conditions : ∃ pairs,
    serialize.conditions = item.generics.conditions.map (·.1) ++
      pairConditions .serialize pairs ∧
    resolve.conditions = item.generics.conditions.map (·.1) ++
      pairConditions .resolve pairs
  conditionCode : Renamed serialize.conditionCode resolve.conditionCode

theorem made_agree (annotated : item.annotated = .ok fields) :
    Agree item (made item fields pairs .serialize)
      (made item fields pairs .resolve) where
  annotated := annotated
  inOrder := annotatedFrom_ok annotated
  flattening := by
    refine ⟨rfl, ?_⟩
    rw [statements, List.map_map]
    exact List.map_congr_left fun field _ => Statement.flattens?_serialize field
  resolving := by
    refine ⟨List.append_nil _, ?_⟩
    rw [statements, List.map_map]
    exact List.map_congr_left fun field _ => Statement.resolves?_resolve field
  headers := ⟨(made item fields pairs .serialize).headerFront,
    "for" :: item.name :: item.generics.arguments, header_eq _, header_eq _⟩
  conditions := ⟨pairs, rfl, rfl⟩
  conditionCode := conditionCode_renamed

/-- Deriving the two capabilities fails alike: with the fault of the annotated
fields, or else with that of the first condition to be added that cannot be
read. If it does not fail, the implementations agree. -/
theorem derivations_agree (item : Item) :
    (∀ fault, derive .serialize item = .error fault ↔
      derive .resolve item = .error fault) ∧
    (∀ capability fault, derive capability item = .error fault ↔
      item.annotated = .error fault ∨
        ∃ fields, item.annotated = .ok fields ∧
          FirstRefused readCondition (required capability item.generics fields)
            fault) ∧
    ∀ serialize resolve, derive .serialize item = .ok serialize →
      derive .resolve item = .ok resolve → Agree item serialize resolve := by
  refine ⟨fun fault => ?_, fun capability => derive_error_iff capability item, ?_⟩
  · rcases derive_alike item with ⟨other, same⟩ | ⟨fields, pairs, -, same⟩
    · rw [same .serialize, same .resolve]
    · simp [same]
  · intro serialize resolve one two
    rcases derive_alike item with ⟨fault, same⟩ | ⟨fields, pairs, annotated, same⟩
    · rw [same .serialize] at one
      cases one
    · obtain rfl := Except.ok.inj ((same .serialize).symm.trans one)
      obtain rfl := Except.ok.inj ((same .resolve).symm.trans two)
      exact made_agree annotated

def sampleGenerics : Generics :=
  ⟨[(.type [] "T" [], false)], []⟩

def sampleField (label name : String) (type : List Token) : Field :=
  ⟨[⟨⟨false, ["ser"]⟩, [.group .parenthesis [.word label]]⟩], some name, type⟩

def samplePointer : List Token :=
  [.punct '*' false, .word "const", .word "T"]

def sampleItem : Item :=
  ⟨"H", sampleGenerics,
    [sampleField "push" "f" samplePointer,
      ⟨[], some "n", [.word "u64"]⟩,
      sampleField "null" "g" samplePointer]⟩

theorem derivations_agree_sample :
    ∃ serialize resolve, derive .serialize sampleItem = .ok serialize ∧
      derive .resolve sampleItem = .ok resolve ∧
      Agree sampleItem serialize resolve ∧ serialize.fields.length = 2 := by
  refine ⟨_, _, rfl, rfl, ?_, rfl⟩
  exact (derivations_agree sampleItem).2.2 _ _ rfl rfl

/-- A pointer type whose second argument is a block in a block. -/
def nestedPointer (block : List Token) : List Token :=
  [.punct '*' false, .word "const", .word "A", .punct '<' false, .word "T",
    .punct ',' false, .group .brace block, .punct '>' false]

def nestedItem : Item :=
  ⟨"H", sampleGenerics,
    [sampleField "push" "f" (nestedPointer [.group .brace [.literal "3"]])]⟩

/-- The declaration of `nestedItem`. It has the braces of the block only;
normal order puts the block into further ones. -/
def nestedTokens : List Token :=
  [.word "struct", .word "H", .punct '<' false, .word "T", .punct '>' false,
    .group .brace ([.punct '#' false,
      .group .bracket [.word "ser", .group .parenthesis [.word "push"]],
      .word "f", .punct ':' false] ++ nestedPointer [.literal "3"])]

/-- A declaration whose fields are annotated well, though neither capability
can be derived for it. -/
theorem derivations_refuse_annotated :
    Item.ofTokens nestedTokens = .ok nestedItem ∧
      nestedItem.annotated.map (fun fields => fields.map (·.role)) =
        .ok [.push] ∧
      ∀ capability, derive capability nestedItem =
        .error (.refused .unsupportedExpression) := by
  refine ⟨rfl, rfl, fun capability => ?_⟩
  cases capability with
  | serialize => rfl
  | resolve => rfl

end Implementation

end Derive

end FlatGraph
