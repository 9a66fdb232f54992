import FlatGraph.Proofs.Derive.Bounds

/-!
Which types are taken to mention a type parameter. What is searched are the
tokens of a type, in groups of any depth, and a lifetime among them counts by
its name like any identifier. A type is found for each type parameter that it
mentions; besides, it is found for a lifetime that has the name of one.
-/

namespace FlatGraph

namespace Derive

namespace Token

inductive Occurs (token : Token) : List Token → Prop
  | here (rest : List Token) : Occurs token (token :: rest)
  | within {delimiter : Delimiter} {body : List Token} (rest : List Token)
      (inside : Occurs token body) :
      Occurs token (.group delimiter body :: rest)
  | later (first : Token) {rest : List Token} (behind : Occurs token rest) :
      Occurs token (first :: rest)

variable {token : Token}

@[simp] theorem not_occurs_nil : ¬ Occurs token [] := by
  intro occurs
  cases occurs

theorem occurs_cons_iff {first : Token} {rest : List Token} :
    Occurs token (first :: rest) ↔
      (token = first ∨
        ∃ delimiter body, first = .group delimiter body ∧
          Occurs token body) ∨
      Occurs token rest := by
  constructor
  · intro occurs
    cases occurs with
    | here => exact .inl (.inl rfl)
    | within _ inside => exact .inl (.inr ⟨_, _, rfl, inside⟩)
    | later _ behind => exact .inr behind
  · rintro ((rfl | ⟨delimiter, body, rfl, inside⟩) | behind)
    · exact .here rest
    · exact .within rest inside
    · exact .later first behind

/-- A name stands among tokens, as an identifier or as that of a lifetime. -/
def Named (name : String) (tokens : List Token) : Prop :=
  Occurs (.word name) tokens ∨ Occurs (.lifetime name) tokens

theorem named_cons_iff {name : String} {first : Token} {rest : List Token} :
    Named name (first :: rest) ↔ Named name [first] ∨ Named name rest := by
  simp only [Named, occurs_cons_iff, not_occurs_nil, or_false]
  exact or_or_or_comm

theorem named_group_iff {name : String} {delimiter : Delimiter}
    {body : List Token} :
    Named name [.group delimiter body] ↔ Named name body := by
  simp [Named, occurs_cons_iff]

mutual

theorem mentions_iff {names : List String} : (token : Token) →
    (mentions names token = true ↔ ∃ name ∈ names, Named name [token])
  | .word text => by
      simp [mentions, Named, occurs_cons_iff]
  | .lifetime text => by
      simp [mentions, Named, occurs_cons_iff]
  | .literal text => by
      simp [mentions, Named, occurs_cons_iff]
  | .punct char joint => by
      simp [mentions, Named, occurs_cons_iff]
  | .group delimiter body => by
      simp only [mentions, named_group_iff]
      exact mentionsAny_iff body

theorem mentionsAny_iff {names : List String} : (tokens : List Token) →
    (mentionsAny names tokens = true ↔ ∃ name ∈ names, Named name tokens)
  | [] => by
      simp [mentionsAny, Named]
  | token :: rest => by
      rw [mentionsAny, Bool.or_eq_true, mentions_iff token,
        mentionsAny_iff rest, ← exists_or]
      refine exists_congr fun name => ?_
      rw [← and_or_left, ← named_cons_iff]

end

end Token

namespace Generics

variable {generics : Generics} {type : List Token}

/-- A type parameter of a declaration. Its lifetimes and constants are none. -/
def HasType (generics : Generics) (name : String) : Prop :=
  ∃ attributes bounds comma,
    (.type attributes name bounds, comma) ∈ generics.parameters

theorem mem_typeNames_iff {name : String} :
    name ∈ generics.typeNames ↔ generics.HasType name := by
  simp only [typeNames, List.mem_map, List.mem_filter, HasType]
  constructor
  · rintro ⟨parameter, ⟨⟨entry, member, rfl⟩, type⟩, rfl⟩
    obtain ⟨parameter, comma⟩ := entry
    cases parameter with
    | lifetime attributes name bounds => cases type
    | type attributes name bounds => exact ⟨attributes, bounds, comma, member⟩
    | const attributes name type => cases type
  · rintro ⟨attributes, bounds, comma, member⟩
    exact ⟨_, ⟨⟨_, member, rfl⟩, rfl⟩, rfl⟩

def Mentioned (generics : Generics) (type : List Token) : Prop :=
  ∃ name, generics.HasType name ∧ Token.Occurs (.word name) type

/-- A lifetime in a type has the name of a type parameter. -/
def Shared (generics : Generics) (type : List Token) : Prop :=
  ∃ name, generics.HasType name ∧ Token.Occurs (.lifetime name) type

theorem usedBy_iff :
    generics.usedBy type = true ↔
      generics.Mentioned type ∨ generics.Shared type := by
  simp only [usedBy, Token.mentionsAny_iff, mem_typeNames_iff, Token.Named,
    and_or_left, exists_or, Mentioned, Shared]

end Generics

namespace Implementation

variable {capability : Capability} {generics : Generics}

theorem mem_required_iff {fields : List Annotated} {condition : List Token} :
    condition ∈ required capability generics fields ↔
      ∃ field ∈ fields, field.role.isPush = true ∧
        (generics.Mentioned field.type ∨ generics.Shared field.type) ∧
        condition ∈ field.conditions capability := by
  simp only [required, List.mem_flatMap, List.mem_filter, Bool.and_eq_true,
    Generics.usedBy_iff, and_assoc]

/-- Which types are taken to mention a type parameter, and which conditions an
implementation receives for them. -/
structure FindsMentions (generics : Generics) : Prop where
  used_iff : ∀ type, generics.usedBy type = true ↔
    generics.Mentioned type ∨ generics.Shared type
  unshared : ∀ type, ¬ generics.Shared type →
    (generics.usedBy type = true ↔ generics.Mentioned type)
  received : ∀ capability item implementation, item.generics = generics →
    derive capability item = .ok implementation →
      ∃ wanted, List.Forall₂
          (fun condition made => readCondition condition = .ok made)
          wanted implementation.added ∧
        ∀ condition, condition ∈ wanted ↔
          ∃ field ∈ implementation.fields, field.role.isPush = true ∧
            (generics.Mentioned field.type ∨ generics.Shared field.type) ∧
            condition ∈ field.conditions capability

theorem mentions_found (generics : Generics) : FindsMentions generics where
  used_iff _ := Generics.usedBy_iff
  unshared type unshared := by
    rw [Generics.usedBy_iff]
    exact or_iff_left unshared
  received capability item implementation same derived := by
    subst same
    obtain ⟨fields, added, -, read, rfl⟩ := derive_eq_ok_iff.mp derived
    exact ⟨_, mapM_ok_iff.mp read, fun _ => mem_required_iff⟩

/-- A pointer to a reference that lives as long as `'T`. Normal order does not
keep that there is no gap after the ampersand. -/
def lifetimePointer (joint : Bool) : List Token :=
  [.punct '*' false, .word "const", .punct '&' joint, .lifetime "T",
    .word "u8"]

def lifetimeGenerics : Generics :=
  ⟨[(.lifetime [] "T" [], true), (.type [] "T" [], false)], []⟩

def lifetimeTokens : List Token :=
  [.word "struct", .word "S", .punct '<' true, .lifetime "T",
    .punct ',' false, .word "T", .punct '>' false,
    .group .brace ([.punct '#' false,
      .group .bracket [.word "ser", .group .parenthesis [.word "push"]],
      .word "a", .punct ':' false] ++ lifetimePointer true ++
      [.punct ',' false, .word "b", .punct ':' false, .word "T"])]

def lifetimeItem : Item :=
  ⟨"S", lifetimeGenerics,
    [sampleField "push" "a" (lifetimePointer false),
      ⟨[], some "b", [.word "T"]⟩]⟩

theorem lifetimePointer_mentions_none :
    ¬ lifetimeGenerics.Mentioned (lifetimePointer false) := by
  rintro ⟨name, ⟨attributes, bounds, comma, parameter⟩, occurs⟩
  obtain ⟨⟨-, rfl, -⟩, -⟩ :
      (attributes = [] ∧ name = "T" ∧ bounds = []) ∧ comma = false := by
    simpa [lifetimeGenerics] using parameter
  simp [lifetimePointer, Token.occurs_cons_iff] at occurs

/-- The lifetime `'T` is no mention of the type `T`, and yet it is taken for
one: conditions are added for a type that mentions no type parameter. -/
theorem lifetime_taken_for_type :
    Item.ofTokens lifetimeTokens = .ok lifetimeItem ∧
      ¬ lifetimeGenerics.Mentioned (lifetimePointer false) ∧
      lifetimeGenerics.usedBy (lifetimePointer false) = true ∧
      derive .serialize lifetimeItem = .ok
        ⟨.serialize, "S", lifetimeGenerics,
          [⟨.named "a", lifetimePointer false, .push⟩],
          [pointerBound (lifetimePointer false),
            targetBound .serialize (lifetimePointer false)]⟩ :=
  ⟨rfl, lifetimePointer_mentions_none, rfl, rfl⟩

end Implementation

end Derive

end FlatGraph
