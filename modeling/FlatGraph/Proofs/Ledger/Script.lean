import FlatGraph.Proofs.Action
import FlatGraph.Proofs.Ledger.Basic

/-!
Scripts are runs: every state that a script reports, inside of a scope or
outside, is one to which some calls lead in order.
-/

namespace FlatGraph

mutual

/-- The states after a step and after the steps of its scope. -/
def Entry.All (holds : Flattener → Prop) : Entry → Prop
  | ⟨_, after, none⟩ => holds after
  | ⟨_, after, some (_, entries)⟩ => holds after ∧ Entry.AllOf holds entries

def Entry.AllOf (holds : Flattener → Prop) : List Entry → Prop
  | [] => True
  | entry :: entries => Entry.All holds entry ∧ Entry.AllOf holds entries

end

mutual

theorem Entry.All.imp {holds other : Flattener → Prop}
    (weaker : ∀ flattener, holds flattener → other flattener) :
    ∀ {entry : Entry}, entry.All holds → entry.All other
  | ⟨_, _, none⟩, here => weaker _ here
  | ⟨_, _, some (_, _)⟩, ⟨here, inner⟩ =>
      ⟨weaker _ here, Entry.AllOf.imp weaker inner⟩

theorem Entry.AllOf.imp {holds other : Flattener → Prop}
    (weaker : ∀ flattener, holds flattener → other flattener) :
    ∀ {entries : List Entry}, Entry.AllOf holds entries →
      Entry.AllOf other entries
  | [], _ => trivial
  | _ :: _, ⟨first, rest⟩ =>
      ⟨Entry.All.imp weaker first, Entry.AllOf.imp weaker rest⟩

end

namespace Session

theorem perform_flattener {α : Type} (session : Session)
    (action : Flattener.Action α) :
    (session.perform action).2.flattener =
      Action.after action session.flattener := by
  rw [Session.perform, Action.after]
  cases action session.flattener with
  | ok value after => rfl
  | error fault after => rfl

theorem perform_map {α β : Type} (session : Session)
    (action : Flattener.Action α) (reply : α → β) :
    session.perform (reply <$> action) =
      ((session.perform action).1.map reply, (session.perform action).2) := by
  rw [Session.perform, Session.perform]
  cases ran : action session.flattener with
  | ok value state =>
      rw [Action.map_of_ok ran]
      rfl
  | error fault state =>
      rw [Action.map_of_error ran]
      rfl

end Session

namespace Operation

def step : Operation → Step
  | .enter field layout => .enter field layout
  | .enterArray field layout count => .enterArray field layout count
  | .enterBlock field align size => .enterBlock field align size
  | .addString field => .addString field
  | .clear field => .clear field
  | .leave => .leave

theorem run_step (operation : Operation) (allocator : Allocator)
    (session : Session) :
    operation.step.run allocator session =
      Session.report (session.perform
        (Call.mk allocator session.memory operation).action) := by
  cases operation with
  | enter field layout => rw [step, Step.run]; rfl
  | enterArray field layout count => rw [step, Step.run]; rfl
  | enterBlock field align size => rw [step, Step.run]; rfl
  | addString field => rw [step, Step.run]; rfl
  | clear field => rw [step, Step.run]; rfl
  | leave => rw [step, Step.run]; rfl

end Operation

inductive Scoping (allocator : Allocator) (session : Session) (field : Nat)
    (layout : Layout) (body : List Step) : Entry × Session → Prop
  | missed {fault : Fault} {next : Session} :
      session.perform
          (Call.mk allocator session.memory (.enter field layout)).action =
        (.error fault, next) →
        Scoping allocator session field layout body
          (Session.report (.error fault, next))
  | null {next : Session} :
      session.perform
          (Call.mk allocator session.memory (.enter field layout)).action =
        (.ok (.entered false), next) →
        Scoping allocator session field layout body
          (Session.report (.ok .done, next))
  | stopped {next after : Session} {entries : List Entry} {fault : Fault} :
      session.perform
          (Call.mk allocator session.memory (.enter field layout)).action =
        (.ok (.entered true), next) →
      Step.runBody allocator next body = (entries, some fault, after) →
        Scoping allocator session field layout body
          (⟨.error fault, after.flattener,
            some (session.memory.word field, entries)⟩, after)
  | left {next after closed : Session} {entries : List Entry}
      {reply : Except Fault Reply} :
      session.perform
          (Call.mk allocator session.memory (.enter field layout)).action =
        (.ok (.entered true), next) →
      Step.runBody allocator next body = (entries, none, after) →
      after.perform (Call.mk allocator after.memory .leave).action =
        (reply, closed) →
        Scoping allocator session field layout body
          (⟨reply, closed.flattener,
            some (session.memory.word field, entries)⟩, closed)

theorem Step.scoping (allocator : Allocator) (session : Session) (field : Nat)
    (layout : Layout) (body : List Step) :
    Scoping allocator session field layout body
      ((Step.within field layout body).run allocator session) := by
  have entering : session.perform
      (Call.mk allocator session.memory (.enter field layout)).action = _ :=
    Session.perform_map session
      (Flattener.enter allocator session.memory field layout) Reply.entered
  rw [Step.run]
  generalize session.perform
    (Flattener.enter allocator session.memory field layout) = opened
    at entering ⊢
  obtain ⟨result, next⟩ := opened
  rcases result with fault | _ | _
  · exact .missed entering
  · exact .null entering
  · simp only
    cases finishing : Step.runBody allocator next body with
    | mk entries ending =>
        obtain ⟨ended, after⟩ := ending
        cases ended with
        | some fault => exact .stopped entering finishing
        | none =>
            exact .left entering finishing
              (Session.perform_map after Flattener.leave fun _ => Reply.done)

namespace Run

theorem calls_append (run : Run) (calls later : List Call) :
    run.calls (calls ++ later) = (run.calls calls).calls later :=
  List.foldl_append

theorem call_flattener (run : Run) (call : Call) :
    (run.call call).flattener = Action.after call.action run.flattener := by
  rw [Run.call, Action.after]
  cases call.action run.flattener with
  | ok reply after => rfl
  | error fault after => rfl

/-- Some calls in order make the flattener of the run into another one. -/
def Reaches (run : Run) (flattener : Flattener) : Prop :=
  ∃ calls, (run.calls calls).flattener = flattener

namespace Reaches

variable {run : Run} {flattener : Flattener}

theorem here (run : Run) : run.Reaches run.flattener := ⟨[], rfl⟩

theorem after_call (reached : run.Reaches flattener) (call : Call) :
    run.Reaches (Action.after call.action flattener) := by
  obtain ⟨calls, rfl⟩ := reached
  refine ⟨calls ++ [call], ?_⟩
  rw [calls_append]
  exact call_flattener _ call

section Perform

variable {allocator : Allocator} {session next : Session}

theorem perform (reached : run.Reaches session.flattener) (call : Call) :
    run.Reaches (session.perform call.action).2.flattener := by
  rw [Session.perform_flattener]
  exact reached.after_call call

end Perform

theorem report {outcome : Except Fault Reply × Session}
    (reached : run.Reaches outcome.2.flattener) :
    (Session.report outcome).1.All run.Reaches ∧
      run.Reaches (Session.report outcome).2.flattener :=
  ⟨reached, reached⟩

theorem operation {allocator : Allocator} {session : Session}
    (reached : run.Reaches session.flattener) (operation : Operation) :
    (operation.step.run allocator session).1.All run.Reaches ∧
      run.Reaches (operation.step.run allocator session).2.flattener := by
  rw [Operation.run_step]
  exact report (reached.perform ⟨allocator, session.memory, operation⟩)

mutual

theorem step {allocator : Allocator} : ∀ (step : Step) {session : Session},
    run.Reaches session.flattener →
      (step.run allocator session).1.All run.Reaches ∧
        run.Reaches (step.run allocator session).2.flattener
  | .enter field layout, session, reached =>
      reached.operation (.enter field layout)
  | .enterArray field layout count, session, reached =>
      reached.operation (.enterArray field layout count)
  | .enterBlock field align size, session, reached =>
      reached.operation (.enterBlock field align size)
  | .within field layout body, session, reached => by
      have ran := Step.scoping allocator session field layout body
      have entered := reached.perform
        ⟨allocator, session.memory, .enter field layout⟩
      generalize (Step.within field layout body).run allocator session =
        outcome at ran ⊢
      cases ran with
      | missed entering =>
          rw [entering] at entered
          exact report entered
      | null entering =>
          rw [entering] at entered
          exact report entered
      | @stopped next after entries fault entering finishing =>
          rw [entering] at entered
          have inner : Entry.AllOf run.Reaches
              (Step.runBody allocator next body).1 ∧ _ := steps body entered
          rw [finishing] at inner
          exact ⟨inner.symm, inner.2⟩
      | @left next after closed entries reply entering finishing leaving =>
          rw [entering] at entered
          have inner : Entry.AllOf run.Reaches
              (Step.runBody allocator next body).1 ∧ _ := steps body entered
          rw [finishing] at inner
          have left := inner.2.perform ⟨allocator, after.memory, .leave⟩
          rw [leaving] at left
          exact ⟨⟨left, inner.1⟩, left⟩
  | .addString field, session, reached =>
      reached.operation (.addString field)
  | .clear field, session, reached => reached.operation (.clear field)
  | .leave, session, reached => reached.operation .leave
  | .poke edits, session, reached => by
      rw [Step.run]
      exact report reached
  | .view query, session, reached => by
      rw [Step.run]
      exact report reached
  | .fail fault, session, reached => by
      rw [Step.run]
      exact report reached

theorem steps {allocator : Allocator} : ∀ (body : List Step)
    {session : Session}, run.Reaches session.flattener →
      Entry.AllOf run.Reaches (Step.runBody allocator session body).1 ∧
        run.Reaches (Step.runBody allocator session body).2.2.flattener
  | [], session, reached => by
      rw [Step.runBody]
      exact ⟨trivial, reached⟩
  | first :: rest, session, reached => by
      obtain ⟨entry, reachedNext⟩ := step first reached
      rw [Step.runBody]
      simp only
      split
      · exact ⟨⟨entry, trivial⟩, reachedNext⟩
      · obtain ⟨entries, finished⟩ := steps rest reachedNext
        exact ⟨⟨entry, entries⟩, finished⟩

end

/-- Every state that a script reports is reached by calls alone. -/
theorem script {allocator : Allocator} {session : Session}
    (reached : run.Reaches session.flattener) (script : List Step) :
    Entry.AllOf run.Reaches (Step.runAll allocator session script).1 ∧
      run.Reaches (Step.runAll allocator session script).2.flattener := by
  induction script generalizing session with
  | nil => exact ⟨trivial, reached⟩
  | cons first rest ih =>
      obtain ⟨entry, reachedNext⟩ := step first reached
      obtain ⟨entries, finished⟩ := ih reachedNext
      exact ⟨⟨entry, entries⟩, finished⟩

end Reaches

end Run

end FlatGraph
