import FlatGraph.Flatten
import FlatGraph.Resolve
import FlatGraph.Proofs.Flattener

/-!
Walks that note the slots they visit, in the order in which they come to them.
Noting changes nothing else: with the notes forgotten, a noting walk is the
walk itself.
-/

namespace FlatGraph

abbrev Noting (m : Type → Type) := StateT (List Nat) m

namespace Noting

variable {m : Type → Type} [Monad m] {α β : Type}

/-- An action that does the same without notes. -/
def Erases (noting : Noting m α) (plain : m α) : Prop :=
  ∀ notes, Prod.fst <$> noting.run notes = plain

section Lawful

variable [LawfulMonad m]

theorem erases_pure (value : α) :
    Erases (pure value : Noting m α) (pure value) := by
  intro notes
  rw [StateT.run_pure, map_pure]

theorem Erases.bind {noting : Noting m α} {plain : m α}
    (erases : Erases noting plain) {next : α → Noting m β}
    {plainNext : α → m β}
    (later : ∀ value, Erases (next value) (plainNext value)) :
    Erases (noting >>= next) (plain >>= plainNext) := by
  intro notes
  rw [StateT.run_bind, map_bind, ← erases notes, bind_map_left]
  apply bind_congr
  intro outcome
  exact later outcome.1 outcome.2

theorem erases_lift (plain : m α) : Erases (StateT.lift plain) plain := by
  intro notes
  rw [StateT.run_lift, map_bind]
  simp only [map_pure, bind_pure]

theorem Erases.forM {next : α → Noting m Unit} {plainNext : α → m Unit}
    (erases : ∀ value, Erases (next value) (plainNext value))
    (values : List α) :
    Erases (values.forM next) (values.forM plainNext) := by
  induction values with
  | nil => exact erases_pure ()
  | cons value values ih => exact (erases value).bind fun _ => ih

theorem Erases.forElements {visit : Nat → Noting m Unit}
    {plainVisit : Nat → m Unit}
    (erases : ∀ address, Erases (visit address) (plainVisit address))
    (stride count first : Nat) :
    Erases (forElements visit stride count first)
      (FlatGraph.forElements plainVisit stride count first) := by
  induction count generalizing first with
  | zero => exact erases_pure ()
  | succ count ih => exact (erases first).bind fun _ => ih (first + stride)

end Lawful

end Noting

section Flatten

variable {m : Type → Type} [Monad m]

structure Visitor.Erases (noting : Visitor (Noting m)) (plain : Visitor m) :
    Prop where
  enter : ∀ field layout,
    Noting.Erases (noting.enter field layout) (plain.enter field layout)
  enterArray : ∀ field layout count,
    Noting.Erases (noting.enterArray field layout count)
      (plain.enterArray field layout count)
  leave : Noting.Erases noting.leave plain.leave
  addString : ∀ field,
    Noting.Erases (noting.addString field) (plain.addString field)
  clear : ∀ field, Noting.Erases (noting.clear field) (plain.clear field)
  cyclic : Noting.Erases noting.cyclic plain.cyclic

variable [LawfulMonad m] {noting : Visitor (Noting m)} {plain : Visitor m}
  {count : Nat} {memory : Memory} {schema : Schema count}

theorem Visitor.Erases.visitLink (erases : noting.Erases plain)
    {visit : Fin count → Nat → Noting m Unit}
    {plainVisit : Fin count → Nat → m Unit}
    (visits : ∀ type address,
      Noting.Erases (visit type address) (plainVisit type address))
    (address : Nat) (link : Link count) :
    Noting.Erases (schema.visitLink noting memory visit address link)
      (schema.visitLink plain memory plainVisit address link) := by
  unfold Schema.visitLink
  cases link.target with
  | «structure» target =>
      refine (erases.enter _ _).bind fun present => ?_
      cases present with
      | false => exact Noting.erases_pure ()
      | true => exact (visits _ _).bind fun _ => erases.leave
  | array target length =>
      refine (erases.enterArray _ _ _).bind fun present => ?_
      cases present with
      | false => exact Noting.erases_pure ()
      | true =>
          cases schema.isPlain target with
          | true => exact erases.leave
          | false =>
              exact (Noting.Erases.forElements (visits target) _ _ _).bind
                fun _ => erases.leave
  | string => exact erases.addString _
  | nothing => exact erases.clear _

theorem Visitor.Erases.visitLinks (erases : noting.Erases plain)
    (depth : Nat) (type : Fin count) (address : Nat) :
    Noting.Erases (schema.visitLinks noting memory depth type address)
      (schema.visitLinks plain memory depth type address) := by
  induction depth generalizing type address with
  | zero => exact erases.cyclic
  | succ depth ih =>
      exact Noting.Erases.forM (erases.visitLink ih address) _

theorem Visitor.Erases.visitValue (erases : noting.Erases plain)
    (memory : Memory) (schema : Schema count) (type : Fin count)
    (address : Nat) :
    Noting.Erases (schema.visitValue noting memory type address)
      (schema.visitValue plain memory type address) :=
  (erases.visitLinks _ type address).bind fun _ => erases.leave

end Flatten

namespace Flattener

def slotPosition (flattener : Flattener) (field : Nat) : List Nat :=
  match flattener.slotAt field with
  | .ok (some slot) => [slot.position]
  | _ => []

def note {α : Type} (field : Nat) (action : Action α) : Noting Action α :=
  fun notes => do
    let noted := (← get).slotPosition field
    let value ← action
    return (value, notes ++ noted)

def notingVisitor (allocator : Allocator) (memory : Memory) :
    Visitor (Noting Action) where
  enter field layout := note field (enter allocator memory field layout)
  enterArray field layout count :=
    note field (enterArray allocator memory field layout count)
  leave := StateT.lift leave
  addString field := note field (addString allocator memory field)
  clear field := note field (clear field)
  cyclic := StateT.lift (throw .cyclicGraph)

theorem note_eq {α : Type} (field : Nat) (action : Action α)
    (notes : List Nat) (flattener : Flattener) :
    note field action notes flattener =
      match action flattener with
      | .ok value after =>
          .ok (value, notes ++ flattener.slotPosition field) after
      | .error fault after => .error fault after := by
  have got : (get : Action Flattener) flattener = .ok flattener flattener := rfl
  cases ran : action flattener with
  | ok value after =>
      exact (Action.bind_of_ok got).trans (Action.bind_of_ok ran)
  | error fault after =>
      exact (Action.bind_of_ok got).trans (Action.bind_of_error ran)

theorem erases_note {α : Type} (field : Nat) (action : Action α) :
    Noting.Erases (note field action) action := by
  intro notes
  funext flattener
  change (Prod.fst <$> (note field action notes : Action _)) flattener = _
  have run := note_eq field action notes flattener
  cases ran : action flattener with
  | ok value after =>
      rw [ran] at run
      exact Action.map_of_ok run
  | error fault after =>
      rw [ran] at run
      exact Action.map_of_error run

theorem notingVisitor_erases (allocator : Allocator) (memory : Memory) :
    (notingVisitor allocator memory).Erases (visitor allocator memory) where
  enter field _ := erases_note field _
  enterArray field _ _ := erases_note field _
  leave := Noting.erases_lift _
  addString field := erases_note field _
  clear field := erases_note field _
  cyclic := Noting.erases_lift _

end Flattener

def Flattener.outcomeNoting (action : Noting Flattener.Action Unit)
    (flattener : Flattener) : Except Fault (Buffer × List Nat) :=
  match action [] flattener with
  | .ok (_, notes) finished => .ok (finished.buffer, notes)
  | .error fault _ => .error fault

theorem Flattener.bind_outcomeNoting_eq_ok
    {action : Noting Flattener.Action Unit}
    {started : Except Fault Flattener} {buffer : Buffer} {notes : List Nat}
    (ran : started.bind (outcomeNoting action) = .ok (buffer, notes)) :
    ∃ opened finished, started = .ok opened ∧
      action [] opened = .ok ((), notes) finished ∧
        finished.buffer = buffer := by
  cases started with
  | error fault => cases ran
  | ok opened =>
      change outcomeNoting action opened = _ at ran
      unfold outcomeNoting at ran
      cases walk : action [] opened with
      | error fault after =>
          rw [walk] at ran
          cases ran
      | ok value finished =>
          rw [walk] at ran
          cases ran
          exact ⟨opened, finished, rfl, walk, rfl⟩

theorem Noting.Erases.outcome_eq {noting : Noting Flattener.Action Unit}
    {plain : Flattener.Action Unit} (erases : Erases noting plain)
    (flattener : Flattener) :
    flattener.outcome plain =
      (flattener.outcomeNoting noting).map Prod.fst := by
  have same := congrFun (erases []) flattener
  unfold Flattener.outcome Flattener.outcomeNoting
  rw [← same]
  cases ran : noting [] flattener with
  | ok value finished =>
      have mapped : (Prod.fst <$> noting.run []) flattener = _ :=
        Action.map_of_ok ran
      rw [mapped]
      rfl
  | error fault after =>
      have mapped : (Prod.fst <$> noting.run []) flattener = _ :=
        Action.map_of_error ran
      rw [mapped]
      rfl

theorem Noting.Erases.bind_outcome_eq
    {noting : Noting Flattener.Action Unit} {plain : Flattener.Action Unit}
    (erases : Erases noting plain) (started : Except Fault Flattener) :
    started.bind (Flattener.outcome plain) =
      (started.bind (Flattener.outcomeNoting noting)).map Prod.fst := by
  cases started with
  | error fault => rfl
  | ok flattener => exact erases.outcome_eq flattener

/-- The value at an address as one flat buffer, with the positions of its
slots in the order in which they are written. -/
def Schema.flattenNoting {count : Nat} (allocator : Allocator)
    (memory : Memory) (schema : Schema count) (type : Fin count)
    (root capacity : Nat) : Except Fault (Buffer × List Nat) :=
  (Flattener.start allocator memory (some root) (schema type).layout.size
    capacity).bind (Flattener.outcomeNoting do
      schema.visitValue (Flattener.notingVisitor allocator memory) memory type
        root
      StateT.lift (Flattener.onBuffer (Buffer.shrinkToFit allocator)))

theorem Schema.flatten_eq_map {count : Nat} (allocator : Allocator)
    (memory : Memory) (schema : Schema count) (type : Fin count)
    (root capacity : Nat) :
    schema.flatten allocator memory type root capacity =
      (schema.flattenNoting allocator memory type root capacity).map
        Prod.fst := by
  have visits :=
    (Flattener.notingVisitor_erases allocator memory).visitValue
      memory schema type root
  exact (visits.bind fun _ => Noting.erases_lift _).bind_outcome_eq _

section Resolve

variable {m : Type → Type} [Monad m]

structure Resolver.Erases (noting : Resolver (Noting m)) (plain : Resolver m) :
    Prop where
  resolve : ∀ container slot,
    Noting.Erases (noting.resolve container slot)
      (plain.resolve container slot)
  length : ∀ field address,
    Noting.Erases (noting.length field address) (plain.length field address)
  cyclic : Noting.Erases noting.cyclic plain.cyclic

variable [LawfulMonad m] {noting : Resolver (Noting m)} {plain : Resolver m}
  {count : Nat} {schema : Schema count}

theorem Resolver.Erases.resolveLink (erases : noting.Erases plain)
    {visit : Fin count → Nat → Noting m Unit}
    {plainVisit : Fin count → Nat → m Unit}
    (visits : ∀ type address,
      Noting.Erases (visit type address) (plainVisit type address))
    (address : Nat) (link : Link count) :
    Noting.Erases (schema.resolveLink noting visit address link)
      (schema.resolveLink plain plainVisit address link) := by
  unfold Schema.resolveLink
  refine (erases.resolve _ _).bind fun found => ?_
  cases link.target with
  | «structure» target =>
      by_cases null : found = 0
      · simpa [null] using Noting.erases_pure ()
      · simpa [null] using visits target found
  | array target length =>
      by_cases skipped : found = 0 ∨ schema.isPlain target
      · simpa [skipped] using Noting.erases_pure ()
      · simp only [skipped]
        exact (erases.length length address).bind fun elements =>
          Noting.Erases.forElements (visits target) _ _ _
  | string => exact Noting.erases_pure ()
  | nothing => exact Noting.erases_pure ()

theorem Resolver.Erases.resolveLinks (erases : noting.Erases plain)
    (schema : Schema count) (depth : Nat) (type : Fin count) (address : Nat) :
    Noting.Erases (schema.resolveLinks noting depth type address)
      (schema.resolveLinks plain depth type address) := by
  induction depth generalizing type address with
  | zero => exact erases.cyclic
  | succ depth ih =>
      exact Noting.Erases.forM (erases.resolveLink ih address) _

end Resolve

namespace Memory

def notingResolver : Resolver (Noting (StateT Memory Option)) where
  resolve container slot := fun notes => do
    return (← resolver.resolve container slot, notes ++ [slot])
  length field address := StateT.lift (resolver.length field address)
  cyclic := StateT.lift resolver.cyclic

theorem notingResolver_erases : notingResolver.Erases resolver where
  resolve container slot := by
    intro notes
    change Prod.fst <$> (resolver.resolve container slot >>= fun found =>
      pure (found, notes ++ [slot])) = _
    simp only [map_bind, map_pure, bind_pure]
  length field address := Noting.erases_lift _
  cyclic := Noting.erases_lift _

end Memory

/-- Resolving a value, with the addresses of the slots in the order in which
they are overwritten. -/
def Schema.resolveNoting {count : Nat} (schema : Schema count)
    (type : Fin count) (base : Nat) (memory : Memory) :
    Option (List Nat × Memory) :=
  (schema.resolveLinks Memory.notingResolver (depthBound count) type base []
    memory).map fun outcome => (outcome.1.2, outcome.2)

theorem Noting.Erases.map_eq {noting : Noting (StateT Memory Option) Unit}
    {plain : StateT Memory Option Unit} (erases : Erases noting plain)
    (memory : Memory) :
    (plain memory).map (·.2) =
      ((noting [] memory).map fun outcome => (outcome.1.2, outcome.2)).map
        Prod.snd := by
  rw [← erases []]
  change ((Prod.fst <$> noting []).run memory).map (·.2) = _
  rw [StateT.run_map, Option.map_eq_map, Option.map_map, Option.map_map]
  rfl

theorem Schema.resolve_eq_map {count : Nat} (schema : Schema count)
    (type : Fin count) (base : Nat) (memory : Memory) :
    schema.resolve type base memory =
      (schema.resolveNoting type base memory).map Prod.snd := by
  have links := Memory.notingResolver_erases.resolveLinks schema
    (depthBound count) type base
  exact links.map_eq memory

end FlatGraph
