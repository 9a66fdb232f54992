import FlatGraph.Proofs.Ledger.Abreast
import FlatGraph.Proofs.Walk.Confined

/-!
Capacity is not observable. Walks over one value with different room, if both
come to their ends, put out the same bytes; trimmed to their length these take
the same room as well.
-/

namespace FlatGraph

namespace Flattener

/-- If both actions succeed from states that are abreast, they answer the
same, and the states that they leave are abreast. -/
structure Concurs {α : Type} (action action' : Action α) : Prop where
  ends : ∀ {left right leftAfter rightAfter : Flattener} {value value' : α},
    left.Abreast right → action left = .ok value leftAfter →
      action' right = .ok value' rightAfter →
        value = value' ∧ leftAfter.Abreast rightAfter

namespace Concurs

variable {α β : Type}

theorem pure (value : α) :
    Concurs (Pure.pure value : Action α) (Pure.pure value) := by
  constructor
  intro left right leftAfter rightAfter answer answer' abreast ran ran'
  cases ran
  cases ran'
  exact ⟨rfl, abreast⟩

theorem bind {first first' : Action α} {next next' : α → Action β}
    (begun : Concurs first first')
    (onward : ∀ value, Concurs (next value) (next' value)) :
    Concurs (first >>= next) (first' >>= next') := by
  constructor
  intro left right leftAfter rightAfter answer answer' abreast ran ran'
  obtain ⟨value, middle, here, later⟩ := Action.bind_eq_ok_iff.mp ran
  obtain ⟨value', middle', here', later'⟩ := Action.bind_eq_ok_iff.mp ran'
  obtain ⟨rfl, between⟩ := begun.ends abreast here here'
  exact (onward value).ends between later later'

theorem throw {fault : Fault} {action : Action α} :
    Concurs (MonadExcept.throw fault : Action α) action := by
  constructor
  intro left right leftAfter rightAfter answer answer' abreast ran ran'
  cases ran

theorem call (first second : Allocator) (memory : Memory)
    (operation : Operation) {action action' : Action α} (reply : α → Reply)
    (injective : Function.Injective reply)
    (action_eq : (Call.mk first memory operation).action = reply <$> action)
    (action_eq' : (Call.mk second memory operation).action =
      reply <$> action') : Concurs action action' := by
  constructor
  intro left right leftAfter rightAfter answer answer' abreast ran ran'
  have mapped : (reply <$> action) left = _ := Action.map_of_ok ran
  have mapped' : (reply <$> action') right = _ := Action.map_of_ok ran'
  rw [← action_eq] at mapped
  rw [← action_eq'] at mapped'
  obtain ⟨same, after⟩ := abreast.action_ok mapped mapped'
  exact ⟨injective same, after⟩

theorem forM {ι : Type} {visit visit' : ι → Action Unit}
    (visits : ∀ item, Concurs (visit item) (visit' item)) (items : List ι) :
    Concurs (items.forM visit) (items.forM visit') := by
  induction items with
  | nil => exact pure ()
  | cons item rest ih => exact (visits item).bind fun _ => ih

theorem forElements {visit visit' : Nat → Action Unit}
    (visits : ∀ address, Concurs (visit address) (visit' address))
    (stride count first : Nat) :
    Concurs (FlatGraph.forElements visit stride count first)
      (FlatGraph.forElements visit' stride count first) := by
  induction count generalizing first with
  | zero => exact pure ()
  | succ count ih => exact (visits first).bind fun _ => ih _

end Concurs

end Flattener

structure VisitorsConcur (visitor visitor' : Visitor Flattener.Action) :
    Prop where
  enter : ∀ field layout,
    Flattener.Concurs (visitor.enter field layout)
      (visitor'.enter field layout)
  enterArray : ∀ field layout count,
    Flattener.Concurs (visitor.enterArray field layout count)
      (visitor'.enterArray field layout count)
  leave : Flattener.Concurs visitor.leave visitor'.leave
  addString : ∀ field,
    Flattener.Concurs (visitor.addString field) (visitor'.addString field)
  clear : ∀ field,
    Flattener.Concurs (visitor.clear field) (visitor'.clear field)
  cyclic : Flattener.Concurs visitor.cyclic visitor'.cyclic

open Flattener

theorem visitors_concur (first second : Allocator) (memory : Memory) :
    VisitorsConcur (Flattener.visitor first memory)
      (Flattener.visitor second memory) := by
  refine ⟨?_, ?_, ?_, ?_, ?_, .throw⟩
  · intro field layout
    exact .call first second memory (.enter field layout) .entered
      (fun _ _ same => Reply.entered.inj same) rfl rfl
  · intro field layout count
    exact .call first second memory (.enterArray field layout count) .entered
      (fun _ _ same => Reply.entered.inj same) rfl rfl
  · exact .call first second memory .leave (fun _ => .done)
      (fun _ _ _ => rfl) rfl rfl
  · intro field
    change Concurs (addString first memory field)
      (addString second memory field)
    exact .call first second memory (.addString field) (fun _ => .done)
      (fun _ _ _ => rfl) rfl rfl
  · intro field
    exact .call first second memory (.clear field) (fun _ => .done)
      (fun _ _ _ => rfl) rfl rfl

section Walk

variable {count : Nat} {schema : Schema count} {memory : Memory}
  {visitor visitor' : Visitor Flattener.Action}

theorem VisitorsConcur.visitLink (visitors : VisitorsConcur visitor visitor')
    {visit visit' : Fin count → Nat → Action Unit}
    (visits : ∀ type address, Concurs (visit type address)
      (visit' type address)) (address : Nat) (link : Link count) :
    Concurs (schema.visitLink visitor memory visit address link)
      (schema.visitLink visitor' memory visit' address link) := by
  unfold Schema.visitLink
  cases link.target with
  | «structure» target =>
      refine (visitors.enter _ _).bind fun present => ?_
      cases present with
      | false => exact .pure ()
      | true => exact (visits target _).bind fun _ => visitors.leave
  | array target length =>
      refine (visitors.enterArray _ _ _).bind fun present => ?_
      cases present with
      | false => exact .pure ()
      | true =>
          cases schema.isPlain target with
          | true => exact visitors.leave
          | false =>
              exact (Concurs.forElements (visits target) _ _ _).bind
                fun _ => visitors.leave
  | string => exact visitors.addString _
  | nothing => exact visitors.clear _

theorem VisitorsConcur.visitLinks (visitors : VisitorsConcur visitor visitor')
    (depth : Nat) (type : Fin count) (address : Nat) :
    Concurs (schema.visitLinks visitor memory depth type address)
      (schema.visitLinks visitor' memory depth type address) := by
  induction depth generalizing type address with
  | zero => exact visitors.cyclic
  | succ depth ih =>
      exact .forM (visitors.visitLink ih address) (schema type).links

end Walk

theorem flatten_abreast {count : Nat} {schema : Schema count}
    {first second : Allocator} {memory : Memory} {type : Fin count}
    {root capacity capacity' : Nat} {buffer buffer' : Buffer}
    (flattened : schema.flatten first memory type root capacity =
      .ok buffer)
    (flattened' : schema.flatten second memory type root capacity' =
      .ok buffer') :
    buffer = buffer' ∧
      buffer.capacity = roundUp buffer.length storageAlignment := by
  obtain ⟨opened, walked, left, started, walking, leaving, shrinking⟩ :=
    flatten_ok flattened
  obtain ⟨opened', walked', left', started', walking', leaving',
    shrinking'⟩ := flatten_ok flattened'
  have visitors := visitors_concur first second memory
  have begun := start_abreast started started'
  have walks : ∀ depth, Concurs
      (schema.visitLinks (Flattener.visitor first memory) memory depth type
        root)
      (schema.visitLinks (Flattener.visitor second memory) memory depth type
        root) := fun depth => visitors.visitLinks depth type root
  obtain ⟨-, between⟩ := (walks _).ends begun walking walking'
  obtain ⟨-, finished⟩ := visitors.leave.ends between leaving leaving'
  have same := finished.sameOutput.bytes_eq
  cases Buffer.shrinkToFit_ok shrinking
  cases Buffer.shrinkToFit_ok shrinking'
  refine ⟨?_, rfl⟩
  simp only [Buffer.length, same]

/-- What the steps of a script come to from two starts over one memory, of
which the first was made with so much room suggested. -/
structure RoomUnseen (memory : Memory) (size suggested : Nat)
    (left right : Flattener) (script : List Step) : Prop where
  same : ∀ granted granted',
    Entry.SucceedAlike (Step.runEach granted ⟨memory, left⟩ script).1
        (Step.runEach granted' ⟨memory, right⟩ script).1 →
      Entry.Same (Step.runEach granted ⟨memory, left⟩ script).1
          (Step.runEach granted' ⟨memory, right⟩ script).1 ∧
        SameOutput (Step.runEach granted ⟨memory, left⟩ script).2.flattener
          (Step.runEach granted' ⟨memory, right⟩ script).2.flattener
  capacity_eq : left.buffer.capacity =
    roundUp (max size suggested) storageAlignment
  kept : ∀ granted,
    ¬ Entry.ReportedIn .unsupportedAlignment
        (Step.runEach granted ⟨memory, left⟩ script).1 →
    (Step.runEach granted ⟨memory, left⟩ script).2.flattener.position ≤
        suggested →
      Entry.AllOf
        (fun flattener => flattener.buffer.capacity = left.buffer.capacity)
        (Step.runEach granted ⟨memory, left⟩ script).1

theorem roomUnseen_of_start {first second : Allocator} {memory : Memory}
    {root : Option Nat} {size suggested other : Nat} {left right : Flattener}
    (started : start first memory root size suggested = .ok left)
    (started' : start second memory root size other = .ok right)
    (script : List Step) :
    RoomUnseen memory size suggested left right script := by
  have abreast := start_abreast started started'
  have capacity_eq := start_capacity started
  have enough := le_roundUp (by decide : 0 < storageAlignment)
    (max size suggested)
  refine ⟨?_, capacity_eq, ?_⟩
  · intro granted granted' alike
    have begun : Session.Abreast ⟨memory, left⟩ ⟨memory, right⟩ :=
      ⟨rfl, abreast⟩
    obtain ⟨same, finished⟩ := begun.each alike
    exact ⟨same, finished.flattener.sameOutput⟩
  · intro granted returned fits
    obtain ⟨wf, -, -⟩ := start_ok started
    refine wf.capacity_eq returned ?_
    rw [capacity_eq]
    exact Nat.le_trans fits (Nat.le_trans (Nat.le_max_right _ _) enough)

/-- Neither a script nor a whole value shows how much room was suggested: the
room of a whole value is the least that holds it. -/
theorem capacity_unseen {first second : Allocator} {memory : Memory}
    {root : Option Nat} {size suggested other : Nat} {left right : Flattener}
    (started : start first memory root size suggested = .ok left)
    (started' : start second memory root size other = .ok right)
    (script : List Step) :
    RoomUnseen memory size suggested left right script ∧
      ∀ {count : Nat} {schema : Schema count} {allocator allocator' : Allocator}
        {source : Memory} {type : Fin count} {address suggested other : Nat}
        {buffer buffer' : Buffer},
        schema.flatten allocator source type address suggested =
            .ok buffer →
          schema.flatten allocator' source type address other =
              .ok buffer' →
            buffer = buffer' ∧
              IsLeast {room | storageAlignment ∣ room ∧
                buffer.length ≤ room} buffer.capacity := by
  refine ⟨roomUnseen_of_start started started' script, ?_⟩
  intro count schema allocator allocator' source type address suggested other
    buffer buffer' flattened flattened'
  obtain ⟨same, rounded⟩ := flatten_abreast flattened flattened'
  refine ⟨same, ?_⟩
  rw [rounded]
  exact isLeast_roundUp (by decide) buffer.length

def sampleScript : List Step :=
  [.enterArray 16 ⟨16, 8⟩ 2, .addString 64, .within 80 ⟨3, 1⟩ [.view .length],
    .addString 200, .leave, .clear 24]

def sampleRoomy : Flattener :=
  ⟨⟨Run.sampleMemory.load 16 24, 208⟩, [Frame.single 16 24 0]⟩

theorem capacity_unseen_sample :
    let grown := Step.runEach (fun _ _ => true)
      ⟨Run.sampleMemory, Run.sampleOpened.flattener⟩ sampleScript
    let roomy := Step.runEach (fun _ _ => true)
      ⟨Run.sampleMemory, sampleRoomy⟩ sampleScript
    grown.2.flattener.buffer.capacity = 128 ∧ Entry.Same grown.1 roomy.1 ∧
      Entry.AllOf (fun flattener => flattener.buffer.capacity = 208)
        roomy.1 ∧
      IsLeast {room | storageAlignment ∣ room ∧ sampleBuffer.length ≤ room}
        sampleBuffer.capacity := by
  have started : start (fun _ => true) Run.sampleMemory (some 16) 24 0 =
    .ok Run.sampleOpened.flattener := rfl
  have started' : start (fun _ => true) Run.sampleMemory (some 16) 24 200 =
    .ok sampleRoomy := rfl
  have roomier : sampleSchema.flatten (fun _ => true) sampleSource 0 16 1000 =
      .ok sampleBuffer := by
    decide +kernel
  obtain ⟨forward, whole⟩ := capacity_unseen started started' sampleScript
  obtain ⟨backward, -⟩ := capacity_unseen started' started sampleScript
  exact ⟨by decide +kernel, (forward.same _ _ (by decide +kernel)).1,
    backward.kept _ (by decide +kernel) (by decide +kernel),
    (whole sample_flatten roomier).2⟩

end FlatGraph
