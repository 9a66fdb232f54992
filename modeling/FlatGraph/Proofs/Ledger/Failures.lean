import FlatGraph.Proofs.Faults
import FlatGraph.Proofs.Ledger.Run
import FlatGraph.Proofs.Ledger.Tiling

/-!
Calls that fail. A block is entered only after room has been reserved for all
of it, padding included, and a slot that is accepted lies inside the output:
so nothing fails once the output has begun to change, and a call that fails is
as good as not made.
-/

namespace FlatGraph

def Fault.OfCall : Fault → Prop
  | .fieldOutOfBounds _ _ => True
  | .noOpenFrame => True
  | .allocationRefused _ => True
  | .capacityOverflow => True
  | _ => False

theorem Fault.OfGrowth.ofCall {fault : Fault} (growth : fault.OfGrowth) :
    fault.OfCall := by
  cases fault with
  | allocationRefused capacity => trivial
  | capacityOverflow => trivial
  | _ => cases growth

namespace Flattener

section Failed

variable {before after : Flattener} {call : Call} {memory : Memory}
  {allocator : Allocator} {field : Nat} {fault : Fault}

theorem slotAt_ofCall (missed : before.slotAt field = .error fault) :
    fault.OfCall := by
  obtain ⟨offset, size, rfl⟩ := slotAt_fault missed
  trivial

/-- An alignment that no buffer supports is not met before room has been
made; any other failure comes before anything has changed. -/
theorem WellFormed.enterElements_error_eq {align size stride : Nat}
    (wf : before.WellFormed)
    (failed : enterElements allocator memory field align size stride before =
      .error fault after) (returned : fault ≠ .unsupportedAlignment) :
    after = before ∧ fault.OfCall := by
  cases wf.entering failed with
  | outside missed => exact ⟨rfl, slotAt_ofCall missed⟩
  | full found present refused =>
      exact ⟨rfl, (Buffer.reserve_refused refused).ofGrowth.ofCall⟩
  | unsupported found present reserving unsupported =>
      exact absurd rfl returned

theorem WellFormed.action_error_eq (wf : before.WellFormed)
    (failed : call.action before = .error fault after)
    (returned : fault ≠ .unsupportedAlignment) :
    after = before ∧ (fault.OfCall ∨ ∃ address,
      fault = .unterminatedString address ∧
        call.memory.string? address = none) := by
  obtain ⟨allocator, memory, operation⟩ := call
  cases operation with
  | enter field layout =>
      obtain ⟨same, cause⟩ := wf.enterElements_error_eq
        (Action.map_eq_error_iff.mp failed) returned
      exact ⟨same, .inl cause⟩
  | enterArray field layout count =>
      have failed := Action.map_eq_error_iff.mp failed
      rw [enterArray_eq] at failed
      split at failed
      · obtain ⟨same, cause⟩ := wf.enterElements_error_eq failed returned
        exact ⟨same, .inl cause⟩
      · cases failed
        exact ⟨rfl, .inl trivial⟩
  | enterBlock field align size =>
      obtain ⟨same, cause⟩ := wf.enterElements_error_eq
        (Action.map_eq_error_iff.mp failed) returned
      exact ⟨same, .inl cause⟩
  | addString field =>
      have failed := Action.map_eq_error_iff.mp failed
      refine ⟨wf.addString_error failed, ?_⟩
      rcases wf.addString_fault failed with
        missed | growth | ⟨rfl, -, endless⟩
      · exact .inl (slotAt_ofCall missed)
      · exact .inl growth.ofCall
      · exact .inr ⟨_, rfl, endless⟩
  | clear field =>
      have failed := Action.map_eq_error_iff.mp failed
      obtain ⟨same, missed | ⟨rfl, -⟩⟩ := clear_error wf failed
      · exact ⟨same, .inl (slotAt_ofCall missed)⟩
      · exact ⟨same, .inl trivial⟩
  | leave =>
      have failed := Action.map_eq_error_iff.mp failed
      obtain ⟨same, rfl, -⟩ := leave_error failed
      exact ⟨same, .inl trivial⟩

end Failed

end Flattener

namespace Run

/-- What a call that fails leaves behind after some calls since a start: the
output, its capacity and the open structures as they were, and so everything
that is done later as if the call had not been made. -/
structure Unharmed (opened : Run) (calls : List Call) (call : Call)
    (fault : Fault) (after : Flattener) : Prop where
  after_eq : after = (opened.calls calls).flattener
  cause : fault.OfCall ∨ ∃ address, fault = .unterminatedString address ∧
    call.memory.string? address = none
  calls_eq : ∀ later,
    opened.calls (calls ++ call :: later) = opened.calls (calls ++ later)
  script_eq : ∀ rest,
    Step.runAll call.allocator ⟨call.memory, (opened.calls calls).flattener⟩
        (call.operation.step :: rest) =
      let others := Step.runAll call.allocator
        ⟨call.memory, (opened.calls calls).flattener⟩ rest
      (⟨.error fault, (opened.calls calls).flattener, none⟩ :: others.1,
        others.2)

theorem call_eq_of_error {run : Run} {call : Call} {fault : Fault}
    (failed : call.action run.flattener = .error fault run.flattener) :
    run.call call = run := by
  rw [Run.call, failed]

theorem runAll_cons_of_error {call : Call} {fault : Fault}
    {flattener : Flattener}
    (failed : call.action flattener = .error fault flattener)
    (rest : List Step) :
    Step.runAll call.allocator ⟨call.memory, flattener⟩
        (call.operation.step :: rest) =
      let others := Step.runAll call.allocator ⟨call.memory, flattener⟩ rest
      (⟨.error fault, flattener, none⟩ :: others.1, others.2) := by
  have performed : Session.perform ⟨call.memory, flattener⟩ call.action =
      (.error fault, ⟨call.memory, flattener⟩) := by
    rw [Session.perform, failed]
  have ran : call.operation.step.run call.allocator
      ⟨call.memory, flattener⟩ =
        (⟨.error fault, flattener, none⟩, ⟨call.memory, flattener⟩) := by
    rw [Operation.run_step, performed]
    rfl
  rw [Step.runAll, ran]

/-- Whatever has been done before, whatever the call asks for, and whichever
requests the allocators refuse, if the call returns. -/
theorem calls_unharmed {allocator : Allocator} {memory : Memory}
    {root : Option Nat} {size capacity : Nat} {opened : Run}
    (started : start allocator memory root size capacity = .ok opened)
    (calls : List Call) {call : Call} {fault : Fault} {after : Flattener}
    (failed : call.action (opened.calls calls).flattener = .error fault after)
    (returned : fault ≠ .unsupportedAlignment) :
    opened.Unharmed calls call fault after := by
  have wf := ((start_sound started).calls calls).wf
  obtain ⟨rfl, cause⟩ := wf.action_error_eq failed returned
  refine ⟨rfl, cause, ?_, ?_⟩
  · intro later
    rw [calls_append, calls_append]
    exact congrArg (Run.calls · later) (call_eq_of_error failed)
  · exact runAll_cons_of_error failed

def sampleRefused : Call :=
  ⟨fun _ => false, sampleMemory, .enterBlock 16 16 4000⟩

/-- After the calls of the sample there is no room for the block to which a
field of the root leads, and none is granted. -/
theorem calls_unharmed_sample :
    sampleOpened.Unharmed sampleCalls sampleRefused (.allocationRefused 4096)
      (sampleOpened.calls sampleCalls).flattener := by
  let before := (sampleOpened.calls sampleCalls).flattener
  let wanted := gap before.position (placementAlignment 16) + 4000
  have found : before.slotAt 16 = .ok (some ⟨0, Frame.single 16 24 0⟩) := rfl
  have full : before.buffer.capacity - before.buffer.length < wanted := by
    decide +kernel
  have grown : Buffer.grownCapacity? (before.buffer.length + wanted) =
      some 4096 := by
    decide +kernel
  have refused : Buffer.reserve sampleRefused.allocator wanted before.buffer =
      .error (.allocationRefused 4096) before.buffer := by
    rw [Buffer.reserve_eq, if_pos full, Buffer.grow, grown]
    rfl
  have failed : sampleRefused.action before =
      .error (.allocationRefused 4096) before :=
    Action.map_of_error (Flattener.enterElements_of_reserve_error found
      (by decide +kernel) refused)
  exact calls_unharmed sample_started sampleCalls failed nofun

end Run

end FlatGraph
