import FlatGraph.Proofs.Ledger.Script

/-!
The calls that a script makes: a scope is the call that enters, the calls of
its body and the call that leaves, as far as it gets.
-/

namespace FlatGraph

mutual

/-- The calls that a step makes, in order. A scope that enters its structure
and comes to the end of its body leaves the structure again. -/
def Step.calls (allocator : Allocator) (session : Session) : Step → List Call
  | .enter field layout => [⟨allocator, session.memory, .enter field layout⟩]
  | .enterArray field layout count =>
      [⟨allocator, session.memory, .enterArray field layout count⟩]
  | .enterBlock field align size =>
      [⟨allocator, session.memory, .enterBlock field align size⟩]
  | .within field layout body =>
      ⟨allocator, session.memory, .enter field layout⟩ ::
        match session.perform
            (Flattener.enter allocator session.memory field layout) with
        | (.ok true, next) =>
            Step.callsIn allocator next body ++
              match (Step.runBody allocator next body).2.1 with
              | some _ => []
              | none => [⟨allocator, session.memory, .leave⟩]
        | _ => []
  | .addString field => [⟨allocator, session.memory, .addString field⟩]
  | .clear field => [⟨allocator, session.memory, .clear field⟩]
  | .leave => [⟨allocator, session.memory, .leave⟩]
  | .poke _ => []
  | .view _ => []
  | .fail _ => []

/-- The calls of a body, up to its first failure. -/
def Step.callsIn (allocator : Allocator) (session : Session) :
    List Step → List Call
  | [] => []
  | step :: rest =>
      let first := Step.run allocator session step
      Step.calls allocator session step ++
        match first.1.reply with
        | .error _ => []
        | .ok _ => Step.callsIn allocator first.2 rest

end

def Step.callsAll (allocator : Allocator) (session : Session) :
    List Step → List Call
  | [] => []
  | step :: rest =>
      step.calls allocator session ++
        Step.callsAll allocator (step.run allocator session).2 rest

namespace Run

theorem perform_flattener {run : Run} {session : Session}
    (same : session.flattener = run.flattener) (call : Call) :
    (session.perform call.action).2.flattener =
      (run.call call).flattener := by
  rw [call_flattener, Session.perform_flattener, same]

theorem perform_map_flattener {α β : Type} {action : Flattener.Action α}
    {session : Session} (reply : α → β) :
    (session.perform (reply <$> action)).2.flattener =
      (session.perform action).2.flattener := by
  rw [Session.perform_map]

theorem operation_calls {allocator : Allocator} {run : Run}
    {session : Session} (same : session.flattener = run.flattener)
    (operation : Operation) :
    (operation.step.run allocator session).2.flattener =
      (run.calls (operation.step.calls allocator session)).flattener := by
  have calls : operation.step.calls allocator session =
      [⟨allocator, session.memory, operation⟩] := by
    cases operation <;> rw [Operation.step, Step.calls]
  rw [Operation.run_step, calls]
  exact perform_flattener same ⟨allocator, session.memory, operation⟩

mutual

theorem step_calls (allocator : Allocator) : ∀ (step : Step) {run : Run}
    {session : Session}, session.flattener = run.flattener →
      (step.run allocator session).2.flattener =
        (run.calls (step.calls allocator session)).flattener
  | .enter field layout, run, session, same =>
      operation_calls same (.enter field layout)
  | .enterArray field layout count, run, session, same =>
      operation_calls same (.enterArray field layout count)
  | .enterBlock field align size, run, session, same =>
      operation_calls same (.enterBlock field align size)
  | .within field layout body, run, session, same => by
      let opening : Call := ⟨allocator, session.memory, .enter field layout⟩
      have entered := (perform_map_flattener Reply.entered).symm.trans
        (perform_flattener same opening)
      rw [Step.run, Step.calls]
      cases entering : session.perform
        (Flattener.enter allocator session.memory field layout) with
      | mk outcome next =>
          rw [entering] at entered
          cases outcome with
          | error fault => exact entered
          | ok present =>
              cases present with
              | false => exact entered
              | true =>
                  have finished :
                      (Step.runBody allocator next body).2.2.flattener =
                        ((run.call opening).calls
                          (Step.callsIn allocator next body)).flattener :=
                    steps_calls allocator body entered
                  simp only
                  cases (Step.runBody allocator next body).2.1 with
                  | some fault =>
                      rw [List.append_nil]
                      exact finished
                  | none =>
                      have left := (perform_map_flattener
                        fun _ => Reply.done).symm.trans
                        (perform_flattener finished
                          ⟨allocator, session.memory, .leave⟩)
                      change _ = (((run.call opening).calls _).flattener)
                      rw [calls_append]
                      exact left
  | .addString field, run, session, same =>
      operation_calls same (.addString field)
  | .clear field, run, session, same =>
      operation_calls same (.clear field)
  | .leave, run, session, same =>
      operation_calls same .leave
  | .poke edits, run, session, same => by
      rw [Step.run, Step.calls]
      exact same
  | .view query, run, session, same => by
      rw [Step.run, Step.calls]
      exact same
  | .fail fault, run, session, same => by
      rw [Step.run, Step.calls]
      exact same

theorem steps_calls (allocator : Allocator) : ∀ (body : List Step) {run : Run}
    {session : Session}, session.flattener = run.flattener →
      (Step.runBody allocator session body).2.2.flattener =
        (run.calls (Step.callsIn allocator session body)).flattener
  | [], run, session, same => by
      rw [Step.runBody, Step.callsIn]
      exact same
  | first :: rest, run, session, same => by
      have next := step_calls allocator first same
      rw [Step.runBody, Step.callsIn, calls_append]
      simp only
      cases (Step.run allocator session first).1.reply with
      | error fault => exact next
      | ok reply => exact steps_calls allocator rest next

end

theorem script_calls {allocator : Allocator} {run : Run} {session : Session}
    (same : session.flattener = run.flattener) (script : List Step) :
    (Step.runAll allocator session script).2.flattener =
      (run.calls (Step.callsAll allocator session script)).flattener := by
  induction script generalizing run session with
  | nil => exact same
  | cons step rest ih =>
      rw [Step.runAll, Step.callsAll, calls_append]
      exact ih (step_calls allocator step same)

end Run

end FlatGraph
