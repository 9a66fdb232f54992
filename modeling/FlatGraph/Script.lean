import FlatGraph.Flattener
import FlatGraph.View

/-!
Walks as data: steps of a flattener, with scopes that enter a structure, run
steps inside it and leave it again. A scope stops at its first failure; the
outermost steps go on after one.
-/

namespace FlatGraph

inductive Step where
  | enter (field : Nat) (layout : Layout)
  | enterArray (field : Nat) (layout : Layout) (count : Nat)
  | enterBlock (field align size : Nat)
  | within (field : Nat) (layout : Layout) (body : List Step)
  | addString (field : Nat)
  | clear (field : Nat)
  | leave
  | poke (edits : List (Nat × Bytes))
  | view (query : View.Query)
  | fail (fault : Fault)

structure Session where
  memory : Memory
  flattener : Flattener

inductive Reply where
  | done
  | entered (present : Bool)
  | view (answer : Except Fault View.Answer)

/-- What one step reported, the output after it, and, when the body of a
scope ran, the source address of its structure with the entries of the body. -/
structure Entry where
  reply : Except Fault Reply
  after : Flattener
  scope : Option (Nat × List Entry)

namespace Session

def perform {α : Type} (session : Session) (action : Flattener.Action α) :
    Except Fault α × Session :=
  match action session.flattener with
  | .ok value flattener => (.ok value, { session with flattener })
  | .error fault flattener => (.error fault, { session with flattener })

def report (outcome : Except Fault Reply × Session) : Entry × Session :=
  (⟨outcome.1, outcome.2.flattener, none⟩, outcome.2)

end Session

open Session in
mutual

def Step.run (allocator : Allocator) (session : Session) :
    Step → Entry × Session
  | .enter field layout =>
      report (session.perform
        (.entered <$> Flattener.enter allocator session.memory field layout))
  | .enterArray field layout count =>
      report (session.perform
        (.entered <$>
          Flattener.enterArray allocator session.memory field layout count))
  | .enterBlock field align size =>
      report (session.perform
        (.entered <$>
          Flattener.enterBlock allocator session.memory field align size))
  | .within field layout body =>
      match session.perform
          (Flattener.enter allocator session.memory field layout) with
      | (.error fault, next) => report (.error fault, next)
      | (.ok false, next) => report (.ok .done, next)
      | (.ok true, next) =>
          let inner := Step.runBody allocator next body
          let outcome : Except Fault Unit × Session :=
            match inner.2.1 with
            | some fault => (.error fault, inner.2.2)
            | none => inner.2.2.perform Flattener.leave
          (⟨outcome.1.map fun _ => .done, outcome.2.flattener,
            some (session.memory.word field, inner.1)⟩, outcome.2)
  | .addString field =>
      report (session.perform
        ((fun _ => .done) <$>
          Flattener.addString allocator session.memory field))
  | .clear field =>
      report (session.perform ((fun _ => .done) <$> Flattener.clear field))
  | .leave =>
      report (session.perform ((fun _ => .done) <$> Flattener.leave))
  | .poke edits =>
      report (.ok .done,
        { session with memory := session.memory.storeAll edits })
  | .view query =>
      report (.ok (.view (View.answer session.flattener.buffer.bytes query)),
        session)
  | .fail fault => report (.error fault, session)

/-- The entries of the steps that ran, and the failure that ended them. -/
def Step.runBody (allocator : Allocator) (session : Session) :
    List Step → List Entry × Option Fault × Session
  | [] => ([], none, session)
  | step :: rest =>
      let first := Step.run allocator session step
      match first.1.reply with
      | .error fault => ([first.1], some fault, first.2)
      | .ok _ =>
          let later := Step.runBody allocator first.2 rest
          (first.1 :: later.1, later.2)

end

def Step.runAll (allocator : Allocator) (session : Session) :
    List Step → List Entry × Session
  | [] => ([], session)
  | step :: rest =>
      let first := step.run allocator session
      let later := Step.runAll allocator first.2 rest
      (first.1 :: later.1, later.2)

end FlatGraph
