import FlatGraph.Proofs.Ledger.Depth
import FlatGraph.Proofs.Ledger.Failures

/-!
How much room an output has. A call never makes the output shorter, and it
changes the capacity only where the output comes to be longer than that: an
output for which there is room from the beginning is never moved.
-/

namespace FlatGraph

namespace Flattener

/-- The output has grown, or not; and there is as much room as there was,
unless it now is longer than that. -/
structure Grown (before after : Flattener) : Prop where
  wf : after.WellFormed
  position_le : before.position ≤ after.position
  room : after.buffer.capacity = before.buffer.capacity ∨
    before.buffer.capacity < after.position

/-- From any output that can have been made. -/
def Grows (before after : Flattener) : Prop :=
  before.WellFormed → before.Grown after

theorem Grows.refl (flattener : Flattener) : flattener.Grows flattener :=
  fun wf => ⟨wf, Nat.le_refl _, .inl rfl⟩

theorem Grows.trans {before middle after : Flattener}
    (first : before.Grows middle) (last : middle.Grows after) :
    before.Grows after := by
  intro wf
  have here := first wf
  have there := last here.wf
  refine ⟨there.wf, Nat.le_trans here.position_le there.position_le, ?_⟩
  rcases here.room with same | past
  · rw [← same]
    exact there.room
  · exact .inr (Nat.lt_of_lt_of_le past there.position_le)

section Call

variable {allocator : Allocator} {memory : Memory} {field : Nat}
  {before after : Flattener}

theorem WellFormed.marked_grown (wf : before.WellFormed)
    {slot : Option Slot} (fits : Fits slot before.position)
    (target : Option Nat) :
    before.Grown (before.withBytes (mark slot target before.buffer.bytes)) :=
  ⟨wf.marked fits target, Nat.le_of_eq (mark_length fits).symm, .inl rfl⟩

theorem Grown.of_extended {slot : Option Slot}
    (fits : Fits slot before.position) {target : Option Nat} {extra : Bytes}
    {reserved : Buffer}
    (reserving : Buffer.reserve allocator extra.length before.buffer =
      .ok () reserved) (later : after.WellFormed)
    (buffer_eq : after.buffer =
      ⟨mark slot target before.buffer.bytes ++ extra, reserved.capacity⟩) :
    before.Grown after := by
  have position_eq : after.position = before.position + extra.length := by
    rw [position, buffer_eq, Buffer.length, List.length_append,
      mark_length fits]
    rfl
  refine ⟨later, by omega, ?_⟩
  rw [buffer_eq, position_eq]
  rw [Buffer.reserve_eq] at reserving
  split at reserving
  · rename_i short
    change before.buffer.capacity - before.position < extra.length at short
    omega
  · cases reserving
    exact .inl rfl

theorem WellFormed.enterElements_grown {align size stride : Nat}
    {present : Bool} (wf : before.WellFormed)
    (ran : enterElements allocator memory field align size stride before =
      .ok present after) : before.Grown after := by
  have later := wf.enterElements_ok ran
  cases wf.entering ran with
  | null found null => exact wf.marked_grown (wf.fits found) none
  | entered found here reserving supported left =>
      have length := padded_length before.position align
        (memory.load (memory.word field) size)
      rw [Memory.load_length] at length
      rw [← length] at reserving
      exact .of_extended (wf.fits found) reserving later
        (congrArg Flattener.buffer left)

theorem WellFormed.action_ok_grown {call : Call} {reply : Reply}
    (wf : before.WellFormed) (ran : call.action before = .ok reply after) :
    before.Grown after := by
  obtain ⟨allocator, memory, operation⟩ := call
  cases operation with
  | enter field layout =>
      obtain ⟨present, ran, -⟩ := Action.map_eq_ok_iff.mp ran
      exact wf.enterElements_grown ran
  | enterArray field layout count =>
      obtain ⟨present, ran, -⟩ := Action.map_eq_ok_iff.mp ran
      rw [enterArray_eq] at ran
      split at ran
      · exact wf.enterElements_grown ran
      · cases ran
  | enterBlock field align size =>
      obtain ⟨present, ran, -⟩ := Action.map_eq_ok_iff.mp ran
      exact wf.enterElements_grown ran
  | addString field =>
      obtain ⟨⟨⟩, ran, -⟩ := Action.map_eq_ok_iff.mp ran
      have later := wf.addString_ok ran
      cases wf.addingString ran with
      | null found null => exact wf.marked_grown (wf.fits found) none
      | added found here ends reserving left =>
          exact .of_extended (wf.fits found) reserving later
            (congrArg Flattener.buffer left)
  | clear field =>
      obtain ⟨⟨⟩, ran, -⟩ := Action.map_eq_ok_iff.mp ran
      obtain ⟨slot, found, rfl⟩ := Flattener.clear_ok wf ran
      exact wf.marked_grown (wf.fits found) none
  | leave =>
      obtain ⟨⟨⟩, ran, -⟩ := Action.map_eq_ok_iff.mp ran
      have later := wf.leave_ok ran
      obtain ⟨frame, rest, opened, rfl⟩ := Flattener.leave_ok ran
      exact ⟨later, Nat.le_refl _, .inl rfl⟩

theorem grows_action {call : Call} {before : Flattener}
    (returned : ∀ after,
      call.action before ≠ .error .unsupportedAlignment after) :
    before.Grows (Action.after call.action before) := by
  intro wf
  rw [Action.after]
  cases ran : call.action before with
  | ok reply after => exact wf.action_ok_grown ran
  | error fault after =>
      obtain ⟨rfl, -⟩ := wf.action_error_eq ran fun panicked =>
        returned after (by rw [ran, panicked])
      exact Grows.refl after wf

end Call

end Flattener

def Step.runEach (granted : Nat → Allocator) (session : Session) :
    List Step → List Entry × Session
  | [] => ([], session)
  | step :: rest =>
      let first := step.run (granted 0) session
      let later := Step.runEach (fun turn => granted (turn + 1)) first.2 rest
      (first.1 :: later.1, later.2)

theorem Step.runEach_const (allocator : Allocator) (session : Session)
    (script : List Step) :
    Step.runEach (fun _ => allocator) session script =
      Step.runAll allocator session script := by
  induction script generalizing session with
  | nil => rfl
  | cons first rest ih => rw [Step.runEach, Step.runAll, ih]

/-- What leads from each state to the next through any call that returns. -/
structure Steady (leads : Flattener → Flattener → Prop) : Prop where
  refl : ∀ flattener, leads flattener flattener
  trans : ∀ {before middle after},
    leads before middle → leads middle after → leads before after
  call : ∀ {call : Call} {before : Flattener},
    (∀ after, call.action before ≠ .error .unsupportedAlignment after) →
      leads before (Action.after call.action before)

theorem Flattener.steady_grows : Steady Flattener.Grows :=
  ⟨Grows.refl, Grows.trans, grows_action⟩

def Between (leads : Flattener → Flattener → Prop)
    (before after flattener : Flattener) : Prop :=
  leads before flattener ∧ leads flattener after

namespace Steady

variable {leads : Flattener → Flattener → Prop}

theorem report (steady : Steady leads) {before : Flattener}
    {outcome : Except Fault Reply × Session}
    (led : leads before outcome.2.flattener) :
    (Session.report outcome).1.All
        (Between leads before (Session.report outcome).2.flattener) ∧
      leads before (Session.report outcome).2.flattener :=
  ⟨⟨led, steady.refl _⟩, led⟩

theorem perform (steady : Steady leads) (session : Session) (call : Call)
    (returned :
      (session.perform call.action).1 ≠ .error .unsupportedAlignment) :
    leads session.flattener (session.perform call.action).2.flattener := by
  rw [Session.perform_flattener]
  refine steady.call fun after panicked => returned ?_
  rw [Session.perform, panicked]

theorem widen (steady : Steady leads)
    {before first last after : Flattener} (front : leads before first)
    (back : leads last after) (flattener : Flattener)
    (between : Between leads first last flattener) :
    Between leads before after flattener :=
  ⟨steady.trans front between.1, steady.trans between.2 back⟩

theorem operation (steady : Steady leads) (allocator : Allocator)
    (session : Session) (operation : Operation)
    (returned : ¬ (operation.step.run allocator session).1.Reports
      .unsupportedAlignment) :
    (operation.step.run allocator session).1.All
        (Between leads session.flattener
          (operation.step.run allocator session).2.flattener) ∧
      leads session.flattener
        (operation.step.run allocator session).2.flattener := by
  rw [Operation.run_step] at returned ⊢
  exact steady.report (steady.perform session
    ⟨allocator, session.memory, operation⟩ returned)

mutual

theorem step (steady : Steady leads) (allocator : Allocator) :
    ∀ (step : Step) (session : Session),
      ¬ (step.run allocator session).1.Reports .unsupportedAlignment →
        (step.run allocator session).1.All
            (Between leads session.flattener
              (step.run allocator session).2.flattener) ∧
          leads session.flattener (step.run allocator session).2.flattener
  | .enter field layout, session, returned =>
      steady.operation allocator session (.enter field layout) returned
  | .enterArray field layout count, session, returned =>
      steady.operation allocator session (.enterArray field layout count)
        returned
  | .enterBlock field align size, session, returned =>
      steady.operation allocator session (.enterBlock field align size) returned
  | .within field layout body, session, returned => by
      have ran := Step.scoping allocator session field layout body
      have entered := steady.perform session
        ⟨allocator, session.memory, .enter field layout⟩
      generalize (Step.within field layout body).run allocator session =
        outcome at ran returned ⊢
      cases ran with
      | missed entering =>
          rw [entering] at entered
          exact steady.report (entered returned)
      | null entering =>
          rw [entering] at entered
          exact steady.report (entered nofun)
      | @stopped next after entries fault entering finishing =>
          rw [entering] at entered
          have begun := entered nofun
          have inner := steady.steps allocator body next
          rw [finishing] at inner
          obtain ⟨states, onward⟩ := inner fun nested =>
            returned (.inr nested)
          have finished := steady.trans begun onward
          exact ⟨⟨⟨finished, steady.refl _⟩,
            states.imp (steady.widen begun (steady.refl _))⟩, finished⟩
      | @left next after closed entries reply entering finishing leaving =>
          rw [entering] at entered
          have begun := entered nofun
          have inner := steady.steps allocator body next
          rw [finishing] at inner
          obtain ⟨states, onward⟩ := inner fun nested =>
            returned (.inr nested)
          have last := steady.perform after ⟨allocator, after.memory, .leave⟩
          rw [leaving] at last
          have left := last fun panicked => returned (.inl panicked)
          have finished := steady.trans (steady.trans begun onward) left
          exact ⟨⟨⟨finished, steady.refl _⟩,
            states.imp (steady.widen begun left)⟩, finished⟩
  | .addString field, session, returned =>
      steady.operation allocator session (.addString field) returned
  | .clear field, session, returned =>
      steady.operation allocator session (.clear field) returned
  | .leave, session, returned =>
      steady.operation allocator session .leave returned
  | .poke edits, session, returned => by
      rw [Step.run]
      exact steady.report (steady.refl _)
  | .view query, session, returned => by
      rw [Step.run]
      exact steady.report (steady.refl _)
  | .fail fault, session, returned => by
      rw [Step.run]
      exact steady.report (steady.refl _)

theorem steps (steady : Steady leads) (allocator : Allocator) :
    ∀ (body : List Step) (session : Session),
      ¬ Entry.ReportedIn .unsupportedAlignment
          (Step.runBody allocator session body).1 →
        Entry.AllOf
            (Between leads session.flattener
              (Step.runBody allocator session body).2.2.flattener)
            (Step.runBody allocator session body).1 ∧
          leads session.flattener
            (Step.runBody allocator session body).2.2.flattener
  | [], session, _ => by
      rw [Step.runBody]
      exact ⟨trivial, steady.refl _⟩
  | first :: rest, session, returned => by
      rw [Step.runBody] at returned ⊢
      simp only at returned ⊢
      cases replied : (first.run allocator session).1.reply with
      | error fault =>
          rw [replied] at returned
          obtain ⟨entry, led⟩ := steady.step allocator first session
            fun panicked => returned (.inl panicked)
          exact ⟨⟨entry, trivial⟩, led⟩
      | ok reply =>
          rw [replied] at returned
          obtain ⟨entry, led⟩ := steady.step allocator first session
            fun panicked => returned (.inl panicked)
          obtain ⟨entries, onward⟩ := steady.steps allocator rest
            (first.run allocator session).2
            fun panicked => returned (.inr panicked)
          exact ⟨⟨entry.imp (steady.widen (steady.refl _) onward),
            entries.imp (steady.widen led (steady.refl _))⟩,
            steady.trans led onward⟩

end

theorem each (steady : Steady leads) {granted : Nat → Allocator}
    {session : Session} {script : List Step}
    (returned : ¬ Entry.ReportedIn .unsupportedAlignment
      (Step.runEach granted session script).1) :
    Entry.AllOf
        (Between leads session.flattener
          (Step.runEach granted session script).2.flattener)
        (Step.runEach granted session script).1 ∧
      leads session.flattener
        (Step.runEach granted session script).2.flattener := by
  induction script generalizing granted session with
  | nil => exact ⟨trivial, steady.refl _⟩
  | cons first rest ih =>
      obtain ⟨entry, led⟩ := steady.step (granted 0) first session
        fun panicked => returned (.inl panicked)
      obtain ⟨entries, onward⟩ := ih fun panicked => returned (.inr panicked)
      exact ⟨⟨entry.imp (steady.widen (steady.refl _) onward),
        entries.imp (steady.widen led (steady.refl _))⟩,
        steady.trans led onward⟩

end Steady

/-- An output for which there is room in the end has never been moved. -/
theorem Flattener.WellFormed.capacity_eq {opened : Flattener}
    (wf : opened.WellFormed) {memory : Memory} {granted : Nat → Allocator}
    {script : List Step}
    (returned : ¬ Entry.ReportedIn .unsupportedAlignment
      (Step.runEach granted ⟨memory, opened⟩ script).1)
    (room : (Step.runEach granted ⟨memory, opened⟩ script).2.flattener.position
      ≤ opened.buffer.capacity) :
    Entry.AllOf
      (fun flattener => flattener.buffer.capacity = opened.buffer.capacity)
      (Step.runEach granted ⟨memory, opened⟩ script).1 := by
  obtain ⟨entries, -⟩ := Flattener.steady_grows.each returned
  refine entries.imp fun flattener between => ?_
  have grown := between.1 wf
  have later := between.2 grown.wf
  have fits := Nat.le_trans later.position_le room
  rcases grown.room with same | past
  · exact same
  · exact absurd past (Nat.not_lt.mpr fits)

end FlatGraph
