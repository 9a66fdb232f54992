import FlatGraph.Derive.Implementation
import FlatGraph.Proofs.Derive.Types

/-!
The conditions that implementations add. Those for the two capabilities differ
in the name at their ends only, so that they are read alike: both up to the
same condition that cannot be read, or all of them.
-/

namespace FlatGraph

namespace Derive

theorem Token.sizeAll_ending (front : List Token) (name : Ordinary) :
    Token.sizeAll (ending front name) = Token.sizeAll front + 1 := by
  induction front with
  | nil => simp [Token.sizeAll, Token.size]
  | cons token front ih =>
      rw [ending_cons, Token.sizeAll, Token.sizeAll, ih, Nat.add_assoc]

namespace Reader

theorem run_ending {reader : Reader (List Token)}
    (blind : Blind Trails fun _ => reader) (front : List Token) :
    (∃ refusal, ∀ name, run reader (ending front name) = .error refusal) ∨
      ∃ read, ∀ name, run reader (ending front name) = .ok (ending read name) := by
  cases blind front false with
  | refused refusal same =>
      refine .inl ⟨refusal, fun name => ?_⟩
      rw [run, same name]
  | before value rest strays same =>
      refine .inl ⟨.unexpectedToken, fun name => ?_⟩
      rw [run, same name]
      cases rest <;> rfl
  | after value trails strays same =>
      obtain ⟨read, whole⟩ := trails
      cases strays with
      | true =>
          refine .inl ⟨.unexpectedToken, fun name => ?_⟩
          rw [run, same name]
      | false =>
          refine .inr ⟨read, fun name => ?_⟩
          rw [run, same name, whole name]

end Reader

theorem readCondition_ending (front : List Token) :
    (∃ fault, ∀ name,
      Implementation.readCondition (ending front name) = .error fault) ∨
    ∃ read, ∀ name,
      Implementation.readCondition (ending front name) = .ok (ending read name) := by
  -- The grammar depends on how many tokens there are, which is the same for
  -- all names.
  have blind := Grammar.predicate_blind (Token.sizeAll front + 1 + 1)
  rcases Reader.run_ending blind front with ⟨refusal, same⟩ | ⟨read, same⟩
  · refine .inl ⟨.refused refusal, fun name => ?_⟩
    rw [Implementation.readCondition, Grammar.ofTokens, Token.sizeAll_ending,
      same name]
    rfl
  · refine .inr ⟨read, fun name => ?_⟩
    rw [Implementation.readCondition, Grammar.ofTokens, Token.sizeAll_ending,
      same name]
    rfl

/-- The name of a capability is like any other to the grammar. -/
def Capability.ordinary (capability : Capability) : Ordinary :=
  ⟨capability.name, by cases capability <;> decide⟩

namespace Annotated

def pointerCondition (field : Annotated) : List Token :=
  field.type ++ Token.mark [':'] ++ runtimePath "PtrField"

def targetFront (field : Annotated) : List Token :=
  field.target ++ Token.mark [':'] ++ Token.mark [':', ':'] ++
    .word "ser_reloc" :: Token.mark [':', ':']

theorem conditions_eq (capability : Capability) (field : Annotated) :
    field.conditions capability =
      [field.pointerCondition, ending field.targetFront capability.ordinary] := by
  simp [conditions, pointerCondition, targetFront, runtimePath, ending,
    Capability.ordinary]

end Annotated

section Reading

variable {α β ε : Type} {read : α → Except ε β} {value : α} {values : List α}

theorem mapM_cons_error {fault : ε} (failed : read value = .error fault) :
    (value :: values).mapM read = .error fault := by
  rw [List.mapM_cons, failed]
  rfl

theorem mapM_cons_ok {found : β} (ran : read value = .ok found) :
    (value :: values).mapM read = (values.mapM read).map (found :: ·) := by
  rw [List.mapM_cons, ran]
  cases values.mapM read <;> rfl

/-- The fault of the first value that cannot be read. -/
inductive FirstRefused (read : α → Except ε β) : List α → ε → Prop
  | here {value : α} {fault : ε} (values : List α)
      (refused : read value = .error fault) :
      FirstRefused read (value :: values) fault
  | later {value : α} {values : List α} {found : β} {fault : ε}
      (accepted : read value = .ok found)
      (rest : FirstRefused read values fault) :
      FirstRefused read (value :: values) fault

theorem mapM_error_iff {fault : ε} :
    values.mapM read = .error fault ↔ FirstRefused read values fault := by
  constructor
  · intro failed
    induction values with
    | nil => cases failed
    | cons value values ih =>
        cases first : read value with
        | error other =>
            rw [mapM_cons_error first] at failed
            cases failed
            exact .here values first
        | ok found =>
            rw [mapM_cons_ok first] at failed
            cases rest : values.mapM read with
            | error other =>
                rw [rest] at failed
                cases failed
                exact .later first (ih rest)
            | ok later =>
                rw [rest] at failed
                cases failed
  · intro refused
    induction refused with
    | here values refused => exact mapM_cons_error refused
    | later accepted rest ih =>
        rw [mapM_cons_ok accepted, ih]
        rfl

theorem firstRefused_iff_append {fault : ε} :
    FirstRefused read values fault ↔
      ∃ before value after, values = before ++ value :: after ∧
        (∀ earlier ∈ before, ∃ found, read earlier = .ok found) ∧
          read value = .error fault := by
  constructor
  · intro refused
    induction refused with
    | @here value _ values refused =>
        exact ⟨[], value, values, rfl, by simp, refused⟩
    | @later first _ found _ accepted rest ih =>
        obtain ⟨before, value, after, rfl, earlier, refused⟩ := ih
        refine ⟨first :: before, value, after, rfl, ?_, refused⟩
        exact List.forall_mem_cons.mpr ⟨⟨found, accepted⟩, earlier⟩
  · rintro ⟨before, value, after, rfl, earlier, refused⟩
    induction before with
    | nil => exact .here after refused
    | cons first before ih =>
        obtain ⟨⟨found, accepted⟩, earlier⟩ := List.forall_mem_cons.mp earlier
        exact .later accepted (ih earlier)

theorem exists_firstRefused_iff :
    (∃ fault, FirstRefused read values fault) ↔
      ∃ value ∈ values, ∃ fault, read value = .error fault := by
  constructor
  · rintro ⟨fault, refused⟩
    obtain ⟨before, value, after, rfl, -, refused⟩ :=
      firstRefused_iff_append.mp refused
    exact ⟨value, by simp, fault, refused⟩
  · rintro ⟨value, member, refused⟩
    induction values with
    | nil => cases member
    | cons first values ih =>
        cases answer : read first with
        | error fault => exact ⟨fault, .here values answer⟩
        | ok found =>
            rcases List.mem_cons.mp member with rfl | member
            · obtain ⟨fault, refused⟩ := refused
              cases answer.symm.trans refused
            · obtain ⟨fault, later⟩ := ih member
              exact ⟨fault, .later answer later⟩

end Reading

namespace Implementation

/-- Two conditions for each of several fields; to the second of them the name
of a capability is added. -/
def pairConditions (capability : Capability)
    (pairs : List (List Token × List Token)) : List (List Token) :=
  pairs.flatMap fun pair => [pair.1, ending pair.2 capability.ordinary]

theorem conditions_alike (fields : List Annotated) :
    (∃ fault, ∀ capability,
      (fields.flatMap (Annotated.conditions capability)).mapM readCondition =
        .error fault) ∨
    ∃ pairs, ∀ capability,
      (fields.flatMap (Annotated.conditions capability)).mapM readCondition =
        .ok (pairConditions capability pairs) := by
  induction fields with
  | nil => exact .inr ⟨[], fun _ => rfl⟩
  | cons field fields ih =>
      simp only [List.flatMap_cons, Annotated.conditions_eq, List.cons_append,
        List.nil_append]
      -- The first condition of a field is the same for both capabilities.
      cases pointer : readCondition field.pointerCondition with
      | error fault =>
          exact .inl ⟨fault, fun _ => mapM_cons_error pointer⟩
      | ok first =>
          simp only [mapM_cons_ok pointer]
          rcases readCondition_ending field.targetFront with
            ⟨fault, same⟩ | ⟨second, same⟩
          · refine .inl ⟨fault, fun capability => ?_⟩
            rw [mapM_cons_error (same capability.ordinary)]
            rfl
          · rcases ih with ⟨fault, later⟩ | ⟨pairs, later⟩
            · refine .inl ⟨fault, fun capability => ?_⟩
              rw [mapM_cons_ok (same capability.ordinary), later capability]
              rfl
            · refine .inr ⟨(first, second) :: pairs, fun capability => ?_⟩
              rw [mapM_cons_ok (same capability.ordinary), later capability]
              rfl

theorem derive_error_iff (capability : Capability) (item : Item)
    (fault : DeriveFault) :
    derive capability item = .error fault ↔
      item.annotated = .error fault ∨
        ∃ fields, item.annotated = .ok fields ∧
          FirstRefused readCondition (required capability item.generics fields)
            fault := by
  rw [derive]
  cases annotated : item.annotated with
  | error other => simp [Except.bind]
  | ok fields =>
      simp only [← mapM_error_iff, Except.bind, reduceCtorEq, false_or,
        Except.ok.injEq, exists_eq_left']
      cases (required capability item.generics fields).mapM readCondition with
      | error other => simp [Except.map]
      | ok added => simp [Except.map]

theorem derive_eq_ok_iff {capability : Capability} {item : Item}
    {implementation : Implementation} :
    derive capability item = .ok implementation ↔
      ∃ fields added, item.annotated = .ok fields ∧
        (required capability item.generics fields).mapM readCondition =
          .ok added ∧
        ⟨capability, item.name, item.generics, fields, added⟩ =
          implementation := by
  rw [derive]
  cases annotated : item.annotated with
  | error fault => simp [Except.bind]
  | ok fields =>
      simp only [Except.bind, Except.ok.injEq, exists_and_left,
        exists_eq_left']
      cases (required capability item.generics fields).mapM readCondition with
      | error fault => simp [Except.map]
      | ok added => simp [Except.map]

theorem derive_alike (item : Item) :
    (∃ fault, ∀ capability, derive capability item = .error fault) ∨
    ∃ fields pairs, item.annotated = .ok fields ∧ ∀ capability,
      derive capability item =
        .ok ⟨capability, item.name, item.generics, fields,
          pairConditions capability pairs⟩ := by
  cases annotated : item.annotated with
  | error fault =>
      refine .inl ⟨fault, fun capability => ?_⟩
      rw [derive, annotated]
      rfl
  | ok fields =>
      rcases conditions_alike (fields.filter fun field =>
        field.role.isPush && item.generics.usedBy field.type) with
        ⟨fault, same⟩ | ⟨pairs, same⟩
      · refine .inl ⟨fault, fun capability => ?_⟩
        rw [derive, annotated, Except.bind, required, same capability]
        rfl
      · refine .inr ⟨fields, pairs, rfl, fun capability => ?_⟩
        rw [derive, annotated, Except.bind, required, same capability]
        rfl

end Implementation

end Derive

end FlatGraph
