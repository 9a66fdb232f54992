import FlatGraph.Proofs.Derive.Agreement
import FlatGraph.Proofs.Derive.Annotation
import FlatGraph.Proofs.Derive.Plain

/-!
The conditions of an implementation: those of the declaration, and two for
each followed field whose type mentions a type parameter. Nothing else of the
declaration's parameters and conditions changes.
-/

namespace FlatGraph

namespace Derive

open Reader

theorem Generics.separated_of_parameterList {grammar : Grammar}
    {before after : Progress} {parameters : List (Parameter × Bool)}
    (ran : StateT.run (parameterList grammar) before =
      .ok (parameters, after)) : Separated parameters := by
  rw [parameterList, run_ahead_bind] at ran
  split at ran
  · obtain ⟨_, _, -, ran⟩ := run_bind_eq_ok_iff.mp ran
    obtain ⟨found, _, listed, ran⟩ := run_bind_eq_ok_iff.mp ran
    obtain ⟨_, _, -, ran⟩ := run_bind_eq_ok_iff.mp ran
    cases ran
    exact separated_of_list listed
  · cases ran
    exact .nil

theorem Item.separated_of_ofTokens {tokens : List Token} {item : Item}
    (parsed : Item.ofTokens tokens = .ok item) :
    Separated item.generics.parameters := by
  have ran := run_eq_ok_iff.mp parsed
  obtain ⟨_, _, -, ran⟩ := run_bind_eq_ok_iff.mp ran
  obtain ⟨_, _, -, ran⟩ := run_bind_eq_ok_iff.mp ran
  obtain ⟨_, _, -, ran⟩ := run_bind_eq_ok_iff.mp ran
  obtain ⟨_, _, -, ran⟩ := run_bind_eq_ok_iff.mp ran
  obtain ⟨parameters, _, listed, ran⟩ := run_bind_eq_ok_iff.mp ran
  obtain ⟨_, _, -, ran⟩ := run_bind_eq_ok_iff.mp ran
  cases ran
  exact Generics.separated_of_parameterList listed

namespace Generics

def lifetimesFirst (generics : Generics) : List (Parameter × Bool) :=
  generics.parameters.filter (fun entry => entry.1.isLifetime) ++
    generics.parameters.filter (fun entry => !entry.1.isLifetime)

theorem bracketed_eq {generics : Generics}
    (separated : Separated generics.parameters) (render : Parameter → Code) :
    generics.bracketed render =
      angled (generics.lifetimesFirst.map fun entry => render entry.1)
        (isTrailed generics.lifetimesFirst) := by
  rw [bracketed, angled, arranged_eq render _ separated, lifetimesFirst]
  cases generics.parameters with
  | nil => rfl
  | cons entry rest =>
      have some : entry ∈ (entry :: rest).filter (fun entry => entry.1.isLifetime) ++
          (entry :: rest).filter (fun entry => !entry.1.isLifetime) := by
        cases lifetime : entry.1.isLifetime <;> simp [lifetime]
      have present : ((entry :: rest).filter (fun entry => entry.1.isLifetime) ++
          (entry :: rest).filter (fun entry => !entry.1.isLifetime)).map
            (fun entry => render entry.1) ≠ [] := by
        intro none
        rw [List.map_eq_nil_iff.mp none] at some
        cases some
      rw [if_neg present]
      rfl

end Generics

def whereCode (conditions : List Code) (trailing : Bool) : Code :=
  if conditions = [] then [] else "where" :: commaSeparated conditions trailing

def pointerBound (type : List Token) : List Token :=
  type ++ Token.mark [':'] ++ runtimePath "PtrField"

/-- What a type points to has a capability:
`<<type> as ::ser_reloc::PtrField>::Target : ::ser_reloc::<capability>`. -/
def targetBound (capability : Capability) (type : List Token) : List Token :=
  Token.mark ['<'] ++ type ++ .word "as" :: runtimePath "PtrField" ++
    Token.mark ['>'] ++ Token.mark [':', ':'] ++ .word "Target" ::
    Token.mark [':'] ++ runtimePath capability.name

namespace Grammar

variable {grammar : Grammar} {type : List Token}

theorem run_runtimeBound (name : String)
    (known : name = "PtrField" ∨ ∃ capability : Capability, name = capability.name)
    (strays : Bool) :
    StateT.run (Reader.list endsConditions "+" (bound grammar))
        ⟨runtimePath name, strays⟩ =
      .ok ([(⟨runtimePath name, false⟩, false)], ⟨[], strays⟩) := by
  rcases known with rfl | ⟨capability, rfl⟩
  · rfl
  · cases capability <;> rfl

theorem run_predicate {name : String} {bound? : Option (List Token)}
    (known : name = "PtrField" ∨ ∃ capability : Capability, name = capability.name)
    (unfree : Ahead.lifetime (type ++ .punct ':' false :: runtimePath name) = false)
    (ungeneral : Ahead.word "for"
      (type ++ .punct ':' false :: runtimePath name) = false)
    (read : StateT.run (grammar.type true)
        ⟨type ++ .punct ':' false :: runtimePath name, false⟩ =
      .ok (⟨type, bound?⟩, ⟨.punct ':' false :: runtimePath name, false⟩)) :
    Reader.run (predicate grammar) (type ++ .punct ':' false :: runtimePath name) =
      .ok (type ++ .punct ':' false :: runtimePath name) := by
  rw [run_eq_ok_iff, predicate, run_ahead_bind, run_ahead_bind,
    if_neg (by simp [unfree])]
  refine (run_bind_ok (run_option_missed ungeneral)).trans ?_
  refine (run_bind_ok read).trans ((run_bind_ok rfl).trans ?_)
  refine (run_bind_ok (run_runtimeBound name known false)).trans ?_
  rw [run_pure]
  simp [boundTokens, Listed.tokens, Token.mark]

def pointerWay : Way :=
  ⟨true, ⟨"ser_reloc", []⟩, [⟨"PtrField", []⟩]⟩

def targetType (type : List Token) : List Token :=
  qualified type (some pointerWay) ⟨"Target", []⟩ []

theorem Plain.target (plain : Plain type) : Plain (targetType type) := by
  have pointer : ∀ step ∈ pointerWay.words, step.Ordered ∧ step.arguments = [] := by
    intro step member
    simp only [pointerWay, Way.words, List.mem_cons, List.not_mem_nil, or_false]
      at member
    rcases member with rfl | rfl
    · exact ⟨Step.ordered_word ⟨by decide, by decide⟩, rfl⟩
    · exact ⟨Step.ordered_word ⟨by decide, by decide⟩, rfl⟩
  refine .qualified plain ?_ ?_ ?_ ?_
  · rintro view ⟨⟩ step member
    exact (pointer step member).1
  · rintro view ⟨⟩ step member entry inside
    rw [(pointer step member).2] at inside
    cases inside
  · rw [List.forall_mem_singleton]
    exact Step.ordered_word ⟨by decide, by decide⟩
  · simp

end Grammar

section Plain

open Implementation

variable {type : List Token}

theorem readCondition_of_plain (plain : Grammar.Plain type) {name : String}
    (known : name = "PtrField" ∨
      ∃ capability : Capability, name = capability.name) :
    readCondition (type ++ .punct ':' false :: runtimePath name) =
      .ok (type ++ .punct ':' false :: runtimePath name) := by
  have front := plain.front (.colon (runtimePath name))
  have deep : Token.sizeAll type <
      Token.sizeAll (type ++ .punct ':' false :: runtimePath name) + 1 := by
    rw [Grammar.sizeAll_append]
    omega
  obtain ⟨bound?, read⟩ :=
    plain.reads deep true _ false (.colon (runtimePath name))
  rw [readCondition, Grammar.ofTokens, Grammar.run_predicate known
    front.lifetime (front.foreign (by decide)) read]
  rfl

theorem readCondition_pointerBound (plain : Grammar.Plain type) :
    readCondition (pointerBound type) = .ok (pointerBound type) := by
  have whole : pointerBound type =
      type ++ .punct ':' false :: runtimePath "PtrField" := by
    simp [pointerBound, Token.mark]
  rw [whole]
  exact readCondition_of_plain plain (.inl rfl)

theorem readCondition_targetBound (plain : Grammar.Plain type)
    (capability : Capability) :
    readCondition (targetBound capability type) =
      .ok (targetBound capability type) := by
  have path : runtimePath "PtrField" = Grammar.pointerWay.written := rfl
  have whole : targetBound capability type =
      Grammar.targetType type ++ .punct ':' false ::
        runtimePath capability.name := by
    rw [targetBound, path]
    simp [Grammar.targetType, Grammar.qualified, Grammar.viewIf,
      Grammar.further, Grammar.Step.brackets, Token.mark]
  rw [whole]
  exact readCondition_of_plain plain.target (.inr ⟨capability, rfl⟩)

end Plain

/-- A field that is followed and whose type mentions a type parameter. -/
def Contributes (generics : Generics) (field : Field) : Prop :=
  ∃ role, field.MarkedAs role ∧
    (role = .push ∨ ∃ length, role = .pushSlice length) ∧
    generics.usedBy field.type = true

inductive Adds (capability : Capability) (generics : Generics) (field : Field) :
    List (List Token) → Prop
  | both (contributes : Contributes generics field) :
      Adds capability generics field
        [pointerBound field.type, targetBound capability field.type]
  | nothing (other : ¬Contributes generics field) :
      Adds capability generics field []

namespace Implementation

variable {capability : Capability} {generics : Generics}

theorem required_of_followed {found : Annotated} {later : List Annotated}
    (adds : (found.role.isPush && generics.usedBy found.type) = true) :
    required capability generics (found :: later) =
      [pointerBound found.type, targetBound capability found.type] ++
        required capability generics later := by
  rw [required, List.filter_cons, if_pos adds, List.flatMap_cons]
  congr 1
  simp [Annotated.conditions, Annotated.target, pointerBound, targetBound]

theorem required_of_other {found : Annotated} {later : List Annotated}
    (other : (found.role.isPush && generics.usedBy found.type) = false) :
    required capability generics (found :: later) =
      required capability generics later := by
  rw [required, List.filter_cons, if_neg (by simp [other])]
  rfl

theorem adds_of_entry {field : Field} {place : Nat} {found : Annotated}
    (entry : Entry (field, place) found) (later : List Annotated) :
    ∃ added, Adds capability generics field added ∧
      required capability generics (found :: later) =
        added ++ required capability generics later := by
  have contributes : (found.role.isPush && generics.usedBy found.type) = true ↔
      Contributes generics field := by
    rw [entry.type, Bool.and_eq_true]
    constructor
    · rintro ⟨pushes, uses⟩
      refine ⟨found.role, entry.role, ?_, uses⟩
      cases role : found.role with
      | push => exact .inl rfl
      | pushSlice length => exact .inr ⟨length, rfl⟩
      | string =>
          rw [role] at pushes
          cases pushes
      | null =>
          rw [role] at pushes
          cases pushes
    · rintro ⟨role, as, pushes, uses⟩
      rw [entry.role.unique as]
      rcases pushes with rfl | ⟨length, rfl⟩
      · exact ⟨rfl, uses⟩
      · exact ⟨rfl, uses⟩
  cases adds : found.role.isPush && generics.usedBy found.type with
  | true =>
      refine ⟨_, ?_, required_of_followed adds⟩
      rw [entry.type]
      exact .both (contributes.mp adds)
  | false =>
      refine ⟨[], .nothing fun also => ?_, required_of_other adds⟩
      cases adds.symm.trans (contributes.mpr also)

theorem required_eq {place : Nat} {fields : List Field}
    {found : List Annotated}
    (entries : List.Forall₂ Entry (markedFrom place fields) found) :
    ∃ each, List.Forall₂ (Adds capability generics) fields each ∧
      required capability generics found = each.flatten := by
  induction fields generalizing place found with
  | nil =>
      cases entries
      exact ⟨[], .nil, rfl⟩
  | cons field fields ih =>
      cases marked : field.isMarked with
      | false =>
          rw [markedFrom_cons_of_unmarked marked] at entries
          obtain ⟨each, adds, whole⟩ := ih entries
          refine ⟨[] :: each, .cons (.nothing ?_) adds, whole⟩
          rintro ⟨role, as, -⟩
          cases marked.symm.trans as.isMarked
      | true =>
          rw [markedFrom_cons_of_marked marked] at entries
          cases entries with
          | cons entry later =>
              obtain ⟨each, adds, whole⟩ := ih later
              obtain ⟨added, first, front⟩ := adds_of_entry entry _
              refine ⟨added :: each, .cons first adds, ?_⟩
              rw [List.flatten_cons, ← whole]
              exact front

theorem mapM_ok_iff {α β ε : Type} {read : α → Except ε β} {values : List α}
    {found : List β} :
    values.mapM read = .ok found ↔
      List.Forall₂ (fun value made => read value = .ok made) values found := by
  induction values generalizing found with
  | nil => simp [pure, Except.pure, eq_comm]
  | cons value values ih =>
      rw [List.forall₂_cons_left_iff]
      cases first : read value with
      | error fault =>
          rw [mapM_cons_error first]
          simp
      | ok made =>
          rw [mapM_cons_ok first]
          simp only [← ih]
          cases values.mapM read with
          | error fault => simp [Except.map]
          | ok later => simp [Except.map, eq_comm]

/-- How an implementation puts a declaration's own parameters and conditions,
with further conditions added to them. -/
structure Extends (item : Item) (capability : Capability)
    (added : List (List Token)) (implementation : Implementation) : Prop where
  conditions : implementation.conditions =
    item.generics.conditions.map (·.1) ++ added
  /-- Without further conditions they are put as in the declaration, with the
  comma that ends them. -/
  unchanged : added = [] → implementation.conditionCode =
    whereCode (item.generics.conditions.map fun entry => Token.piecesAll entry.1)
      (isTrailed item.generics.conditions)
  extended : added ≠ [] → implementation.conditionCode =
    whereCode (implementation.conditions.map Token.piecesAll) false
  header : (∃ tokens, Item.ofTokens tokens = .ok item) →
    implementation.header = code "# [ automatically_derived ] impl" ++
      angled (item.generics.lifetimesFirst.map fun entry =>
        Generics.declaration entry.1) (isTrailed item.generics.lifetimesFirst) ++
      runtime capability.name ++ "for" :: item.name ::
      angled (item.generics.lifetimesFirst.map fun entry =>
        Generics.argument entry.1) (isTrailed item.generics.lifetimesFirst) ++
      implementation.conditionCode

theorem conditionCode_eq (implementation : Implementation) :
    implementation.conditionCode =
      whereCode (implementation.conditions.map Token.piecesAll)
        (implementation.added.isEmpty &&
          isTrailed implementation.generics.conditions) := by
  rw [conditionCode, whereCode]
  cases implementation.conditions with
  | nil => rfl
  | cons first rest => rfl

theorem extends_of_derive {item : Item} {fields : List Annotated}
    {added : List (List Token)} :
    Extends item capability added
      ⟨capability, item.name, item.generics, fields, added⟩ where
  conditions := rfl
  unchanged := by
    rintro rfl
    rw [conditionCode_eq]
    simp [conditions, Function.comp_def]
  extended := by
    intro some
    rw [conditionCode_eq, List.isEmpty_eq_false_iff.mpr some]
    rfl
  header := by
    rintro ⟨tokens, parsed⟩
    have separated := Item.separated_of_ofTokens parsed
    rw [header, Generics.declarations, Generics.arguments,
      Generics.bracketed_eq separated, Generics.bracketed_eq separated]

theorem read_of_plain {fields : List Field} {each : List (List (List Token))}
    (adds : List.Forall₂ (Adds capability generics) fields each)
    (plain : ∀ field ∈ fields, Contributes generics field →
      Grammar.Plain field.type) :
    each.flatten.mapM readCondition = .ok each.flatten := by
  rw [mapM_ok_iff, List.forall₂_same]
  induction adds with
  | nil => simp
  | cons first later ih =>
      rw [List.flatten_cons, List.forall_mem_append]
      refine ⟨?_, ih fun field member => plain field (.tail _ member)⟩
      cases first with
      | both contributes =>
          have type := plain _ (.head _) contributes
          rw [List.forall_mem_cons, List.forall_mem_singleton]
          exact ⟨readCondition_pointerBound type,
            readCondition_targetBound type capability⟩
      | nothing other => simp

/-- What is put for a capability of a declaration, when each of its fields adds
certain conditions. -/
structure Bounded (capability : Capability) (item : Item)
    (each : List (List (List Token))) : Prop where
  fails : ∀ fault, derive capability item = .error fault ↔
    FirstRefused readCondition each.flatten fault
  succeeds : ∀ implementation, derive capability item = .ok implementation →
    ∃ added, List.Forall₂ (fun wanted made => readCondition wanted = .ok made)
        each.flatten added ∧
      Extends item capability added implementation
  /-- Reading changes no condition on a plain type. -/
  plain : (∀ field ∈ item.fields, Contributes item.generics field →
      Grammar.Plain field.type) →
    ∃ implementation, derive capability item = .ok implementation ∧
      Extends item capability each.flatten implementation

/-- The conditions that are added are those of the fields that are followed,
in order; nothing else of the declaration changes. -/
theorem bounds_added {item : Item} {fields : List Annotated}
    (accepted : item.annotated = .ok fields) (capability : Capability) :
    ∃ each, List.Forall₂ (Adds capability item.generics) item.fields each ∧
      Bounded capability item each := by
  obtain ⟨each, adds, whole⟩ := required_eq (annotatedFrom_eq_ok_iff.mp accepted)
  refine ⟨each, adds, fun fault => ?_, fun implementation made => ?_,
    fun plain => ?_⟩
  · rw [derive_error_iff, ← whole]
    simp [accepted]
  · obtain ⟨others, added, also, read, rfl⟩ := derive_eq_ok_iff.mp made
    cases accepted.symm.trans also
    rw [whole] at read
    exact ⟨added, mapM_ok_iff.mp read, extends_of_derive⟩
  · have read := read_of_plain adds plain
    rw [← whole] at read
    refine ⟨_, derive_eq_ok_iff.mpr ⟨fields, _, accepted, read, rfl⟩, ?_⟩
    rw [whole]
    exact extends_of_derive

theorem samplePointer_plain : Grammar.Plain samplePointer := by
  have ordered : Grammar.Step.Ordered ⟨"T", []⟩ :=
    Grammar.Step.ordered_word ⟨by decide, by decide⟩
  have path : Grammar.Plain (Grammar.Way.mk false ⟨"T", []⟩ []).written :=
    .path (by simp [Grammar.Way.words, ordered]) (by simp [Grammar.Way.words])
  exact .pointer (.inl rfl) path

theorem bounds_added_sample :
    ∃ fields each, sampleItem.annotated = .ok fields ∧
      List.Forall₂ (Adds .serialize sampleItem.generics) sampleItem.fields each ∧
      Bounded .serialize sampleItem each ∧
      ∃ implementation, derive .serialize sampleItem = .ok implementation ∧
        Extends sampleItem .serialize each.flatten implementation := by
  have accepted : sampleItem.annotated = .ok
      [⟨.named "f", samplePointer, .push⟩, ⟨.named "g", samplePointer, .null⟩] :=
    rfl
  obtain ⟨each, adds, bounded⟩ := bounds_added accepted .serialize
  refine ⟨_, each, accepted, adds, bounded, bounded.plain fun field member also => ?_⟩
  simp only [sampleItem, sampleField, List.mem_cons, List.not_mem_nil, or_false]
    at member
  rcases member with rfl | rfl | rfl
  · exact samplePointer_plain
  · obtain ⟨_, _, _, uses⟩ := also
    cases uses
  · exact samplePointer_plain

/-- A function that takes itself as an argument; its binder gives a lifetime
no bounds, though a colon. -/
def binderType : List Token :=
  [.word "for", .punct '<' false, .lifetime "a", .punct ':' true,
    .punct '>' false, .word "fn",
    .group .parenthesis [.word "mut", .word "self", .punct ',' false, .word "T"]]

def binderTokens : List Token :=
  [.word "struct", .word "H", .punct '<' false, .word "T", .punct '>' false,
    .group .brace ([.punct '#' false,
      .group .bracket [.word "ser", .group .parenthesis [.word "push"]],
      .word "f", .punct ':' false] ++ binderType)]

def binderItem : Item :=
  ⟨"H", sampleGenerics, [sampleField "push" "f" binderType]⟩

def boundType : List Token :=
  [.word "for", .punct '<' false, .lifetime "a", .punct '>' false, .word "fn",
    .group .parenthesis [.word "mut", .word "self", .punct ',' false, .word "T"]]

theorem nestedItem_refused :
    Item.ofTokens nestedTokens = .ok nestedItem ∧
      (nestedItem.annotated.map fun fields => fields.map (·.role)) = .ok [.push] ∧
      derive .serialize nestedItem = .error (.refused .unsupportedExpression) :=
  ⟨rfl, rfl, rfl⟩

/-- A type can come out changed in a condition: this one loses its binder to
the condition, and the binder its colon. Another one is refused there. -/
theorem bounds_reread :
    Item.ofTokens binderTokens = .ok binderItem ∧
      binderItem.annotated = .ok [⟨.named "f", binderType, .push⟩] ∧
      binderItem.generics.usedBy binderType = true ∧
      derive .serialize binderItem = .ok
        ⟨.serialize, "H", sampleGenerics, [⟨.named "f", binderType, .push⟩],
          [pointerBound boundType, targetBound .serialize binderType]⟩ ∧
      Token.piecesAll (pointerBound boundType) ≠
        Token.piecesAll (pointerBound binderType) ∧
      Item.ofTokens nestedTokens = .ok nestedItem ∧
      (nestedItem.annotated.map fun fields => fields.map (·.role)) = .ok [.push] ∧
      derive .serialize nestedItem = .error (.refused .unsupportedExpression) :=
  ⟨rfl, rfl, rfl, rfl, by decide, nestedItem_refused⟩

end Implementation

end Derive

end FlatGraph
