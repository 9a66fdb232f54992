import FlatGraph.Proofs.Frames
import FlatGraph.Proofs.Ledger.Run
import FlatGraph.Proofs.Ledger.Scopes
import FlatGraph.Proofs.Ledger.Tiling

/-!
The open structures of a run: in every state they are stacked in the output,
there are as many as have been opened and not left again, and no operation
misses a slot.
-/

namespace FlatGraph

def Fault.OutOfBounds : Fault → Prop
  | .positionOutOfBounds _ _ => True
  | _ => False

theorem Fault.OfGrowth.in_bounds {fault : Fault} (growth : fault.OfGrowth) :
    ¬ fault.OutOfBounds := by
  cases fault <;> simp_all [OfGrowth, OutOfBounds]

mutual

def Step.Raises (fault : Fault) : Step → Prop
  | .fail raised => raised = fault
  | .within _ _ body => Step.RaisesIn fault body
  | _ => False

def Step.RaisesIn (fault : Fault) : List Step → Prop
  | [] => False
  | step :: rest => Step.Raises fault step ∨ Step.RaisesIn fault rest

end

mutual

/-- Whether a step reported a fault, or a step of its scope did. -/
def Entry.Reports (fault : Fault) : Entry → Prop
  | ⟨reply, _, none⟩ => reply = .error fault
  | ⟨reply, _, some (_, entries)⟩ =>
      reply = .error fault ∨ Entry.ReportedIn fault entries

def Entry.ReportedIn (fault : Fault) : List Entry → Prop
  | [] => False
  | entry :: entries =>
      Entry.Reports fault entry ∨ Entry.ReportedIn fault entries

end

instance {α : Type} (fault : Fault) : ∀ reply : Except Fault α,
    Decidable (reply = .error fault)
  | .ok _ => isFalse nofun
  | .error cause =>
      decidable_of_iff (cause = fault) ⟨congrArg _, Except.error.inj⟩

mutual

def Entry.decideReports (fault : Fault) :
    ∀ entry : Entry, Decidable (entry.Reports fault)
  | ⟨reply, _, none⟩ => inferInstanceAs (Decidable (reply = .error fault))
  | ⟨reply, _, some (_, entries)⟩ =>
      have := Entry.decideReportedIn fault entries
      inferInstanceAs (Decidable
        (reply = .error fault ∨ Entry.ReportedIn fault entries))

def Entry.decideReportedIn (fault : Fault) :
    ∀ entries : List Entry, Decidable (Entry.ReportedIn fault entries)
  | [] => inferInstanceAs (Decidable False)
  | entry :: entries =>
      have := Entry.decideReports fault entry
      have := Entry.decideReportedIn fault entries
      inferInstanceAs (Decidable
        (Entry.Reports fault entry ∨ Entry.ReportedIn fault entries))

end

instance (fault : Fault) (entries : List Entry) :
    Decidable (Entry.ReportedIn fault entries) :=
  Entry.decideReportedIn fault entries

theorem Entry.reports_of_reply {fault : Fault} {entry : Entry}
    (failed : entry.reply = .error fault) : entry.Reports fault := by
  obtain ⟨reply, after, scope⟩ := entry
  cases scope with
  | none => exact failed
  | some scope => exact .inl failed

theorem Step.runBody_fault_reported {allocator : Allocator} {fault : Fault}
    {body : List Step} {session : Session}
    (failed : (Step.runBody allocator session body).2.1 = some fault) :
    Entry.ReportedIn fault (Step.runBody allocator session body).1 := by
  induction body generalizing session with
  | nil =>
      rw [Step.runBody] at failed
      cases failed
  | cons first rest ih =>
      rw [Step.runBody] at failed ⊢
      simp only at failed ⊢
      cases replied : (Step.run allocator session first).1.reply with
      | error cause =>
          rw [replied] at failed
          cases failed
          exact .inl (Entry.reports_of_reply replied)
      | ok reply =>
          rw [replied] at failed
          exact .inr (ih failed)

namespace Flattener

variable {flattener after : Flattener} {field : Nat} {fault : Fault}

theorem slotAt_in_bounds (failed : flattener.slotAt field = .error fault) :
    ¬ fault.OutOfBounds := by
  obtain ⟨offset, size, rfl⟩ := slotAt_fault failed
  exact id

theorem entering_in_bounds {unsupported : Prop}
    (cause : flattener.slotAt field = .error fault ∨ fault.OfGrowth ∨
      fault = .unsupportedAlignment ∧ unsupported) :
    ¬ fault.OutOfBounds := by
  rcases cause with missed | growth | ⟨rfl, -⟩
  · exact slotAt_in_bounds missed
  · exact growth.in_bounds
  · exact id

theorem WellFormed.action_in_bounds (wf : flattener.WellFormed) {call : Call}
    (failed : call.action flattener = .error fault after) :
    ¬ fault.OutOfBounds := by
  obtain ⟨allocator, memory, operation⟩ := call
  cases operation with
  | enter field layout =>
      exact entering_in_bounds
        (wf.enterElements_fault (Action.map_eq_error_iff.mp failed))
  | enterArray field layout count =>
      exact entering_in_bounds
        (wf.enterArray_fault (Action.map_eq_error_iff.mp failed))
  | enterBlock field align size =>
      exact entering_in_bounds
        (wf.enterElements_fault (Action.map_eq_error_iff.mp failed))
  | addString field =>
      rcases wf.addString_fault (Action.map_eq_error_iff.mp failed) with
        missed | growth | ⟨rfl, -⟩
      · exact slotAt_in_bounds missed
      · exact growth.in_bounds
      · exact id
  | clear field =>
      obtain ⟨-, missed | ⟨rfl, -⟩⟩ :=
        clear_error wf (Action.map_eq_error_iff.mp failed)
      · exact slotAt_in_bounds missed
      · exact id
  | leave =>
      obtain ⟨-, rfl, -⟩ := leave_error (Action.map_eq_error_iff.mp failed)
      exact id

end Flattener

namespace Run

section Raised

variable {run : Run} {allocator : Allocator} {session : Session}
  {fault : Fault}

theorem Reaches.perform_in_bounds (reached : run.Reaches session.flattener)
    (sound : run.Sound) (call : Call)
    (failed : (session.perform call.action).1 = .error fault) :
    ¬ fault.OutOfBounds := by
  rw [Session.perform] at failed
  cases ran : call.action session.flattener with
  | ok reply after =>
      rw [ran] at failed
      cases failed
  | error cause after =>
      rw [ran] at failed
      cases failed
      exact (reached.wf sound).action_in_bounds ran

theorem Reaches.operation_in_bounds (reached : run.Reaches session.flattener)
    (sound : run.Sound) (operation : Operation)
    (reported : (operation.step.run allocator session).1.Reports fault) :
    ¬ fault.OutOfBounds := by
  rw [Operation.run_step] at reported
  exact reached.perform_in_bounds sound
    ⟨allocator, session.memory, operation⟩ reported

mutual

theorem step_raises (sound : run.Sound) : ∀ (step : Step) {session : Session},
    run.Reaches session.flattener →
      (step.run allocator session).1.Reports fault → fault.OutOfBounds →
        step.Raises fault
  | .enter field layout, session, reached, reported, outside =>
      absurd outside (reached.operation_in_bounds sound (.enter field layout)
        reported)
  | .enterArray field layout count, session, reached, reported, outside =>
      absurd outside (reached.operation_in_bounds sound
        (.enterArray field layout count) reported)
  | .enterBlock field align size, session, reached, reported, outside =>
      absurd outside (reached.operation_in_bounds sound
        (.enterBlock field align size) reported)
  | .within field layout body, session, reached, reported, outside => by
      let opening : Call := ⟨allocator, session.memory, .enter field layout⟩
      have ran := Step.scoping allocator session field layout body
      have entered := reached.perform opening
      generalize (Step.within field layout body).run allocator session =
        outcome at ran reported
      rw [Step.Raises]
      cases ran with
      | missed entering =>
          cases reported
          exact absurd outside (reached.perform_in_bounds sound opening
            (by rw [entering]))
      | null entering => cases reported
      | @stopped next after entries cause entering finishing =>
          rw [entering] at entered
          have inner : Entry.ReportedIn fault
              (Step.runBody allocator next body).1 → _ := fun nested =>
            steps_raises sound body entered nested outside
          rcases reported with own | nested
          · cases own
            exact inner (Step.runBody_fault_reported (by rw [finishing]))
          · rw [finishing] at inner
            exact inner nested
      | @left next after closed entries reply entering finishing leaving =>
          rw [entering] at entered
          have finished : run.Reaches
              (Step.runBody allocator next body).2.2.flattener :=
            (Reaches.steps body entered).2
          have inner : Entry.ReportedIn fault
              (Step.runBody allocator next body).1 → _ := fun nested =>
            steps_raises sound body entered nested outside
          rw [finishing] at finished inner
          rcases reported with own | nested
          · exact absurd outside (finished.perform_in_bounds sound
              ⟨allocator, after.memory, .leave⟩ (by rw [leaving]; exact own))
          · exact inner nested
  | .addString field, session, reached, reported, outside =>
      absurd outside (reached.operation_in_bounds sound (.addString field)
        reported)
  | .clear field, session, reached, reported, outside =>
      absurd outside (reached.operation_in_bounds sound (.clear field)
        reported)
  | .leave, session, reached, reported, outside =>
      absurd outside (reached.operation_in_bounds sound .leave
        reported)
  | .poke edits, session, reached, reported, outside => by
      rw [Step.run] at reported
      cases reported
  | .view query, session, reached, reported, outside => by
      rw [Step.run] at reported
      cases reported
  | .fail cause, session, reached, reported, outside => by
      rw [Step.run] at reported
      cases reported
      rfl

theorem steps_raises (sound : run.Sound) : ∀ (body : List Step)
    {session : Session}, run.Reaches session.flattener →
      Entry.ReportedIn fault (Step.runBody allocator session body).1 →
        fault.OutOfBounds → Step.RaisesIn fault body
  | [], session, reached, reported, outside => by
      rw [Step.runBody] at reported
      cases reported
  | first :: rest, session, reached, reported, outside => by
      have reachedNext : run.Reaches
          (Step.run allocator session first).2.flattener :=
        (Reaches.step first reached).2
      rw [Step.runBody] at reported
      rw [Step.RaisesIn]
      simp only at reported
      split at reported
      · rcases reported with here | later
        · exact .inl (step_raises sound first reached here outside)
        · cases later
      · rcases reported with here | later
        · exact .inl (step_raises sound first reached here outside)
        · exact .inr (steps_raises sound rest reachedNext later outside)

end

theorem script_raises (sound : run.Sound) {script : List Step}
    (reached : run.Reaches session.flattener)
    (reported :
      Entry.ReportedIn fault (Step.runAll allocator session script).1)
    (outside : fault.OutOfBounds) : Step.RaisesIn fault script := by
  induction script generalizing session with
  | nil => cases reported
  | cons first rest ih =>
      rcases reported with here | later
      · exact .inl (step_raises sound first reached here outside)
      · exact .inr (ih (Reaches.step first reached).2 later)

end Raised

end Run

def Reply.opened : Reply → Nat
  | .entered true => 1
  | _ => 0

@[simp] theorem Reply.opened_entered (present : Bool) :
    (Reply.entered present).opened = if present then 1 else 0 := by
  cases present <;> rfl

def Call.opens (call : Call) (flattener : Flattener) : Nat :=
  match call.action flattener with
  | .ok reply _ => reply.opened
  | .error _ _ => 0

def Call.leaves (call : Call) (flattener : Flattener) : Nat :=
  match call.operation, call.action flattener with
  | .leave, .ok _ _ => 1
  | _, _ => 0

def Operation.followed? : Operation → Option Nat
  | .enter field _ => some field
  | .enterArray field _ _ => some field
  | .enterBlock field _ _ => some field
  | .addString field => some field
  | .clear _ => none
  | .leave => none

namespace Flattener

variable {before after : Flattener} {call : Call}

inductive Performed (call : Call) (before : Flattener) :
    Reply → Flattener → Prop where
  | entered {field align size stride : Nat} {present : Bool}
      {after : Flattener} (follows : call.operation.followed? = some field)
      (divided : stride ∣ size)
      (ran : enterElements call.allocator call.memory field align size stride
        before = .ok present after) :
      Performed call before (.entered present) after
  | added {field : Nat} {after : Flattener}
      (follows : call.operation.followed? = some field)
      (ran : addString call.allocator call.memory field before =
        .ok () after) : Performed call before .done after
  | cleared {field : Nat} {after : Flattener}
      (kind : call.operation = .clear field)
      (ran : clear field before = .ok () after) :
      Performed call before .done after
  | left {after : Flattener} (kind : call.operation = .leave)
      (ran : leave before = .ok () after) : Performed call before .done after

theorem performed {reply : Reply}
    (ran : call.action before = .ok reply after) :
    Performed call before reply after := by
  obtain ⟨allocator, memory, operation⟩ := call
  cases operation with
  | enter field layout =>
      obtain ⟨present, entered, rfl⟩ := Action.map_eq_ok_iff.mp ran
      exact .entered rfl (Nat.dvd_refl layout.size) entered
  | enterArray field layout count =>
      obtain ⟨present, entered, rfl⟩ := Action.map_eq_ok_iff.mp ran
      rw [enterArray_eq] at entered
      split at entered
      · exact .entered rfl (Nat.dvd_mul_right layout.size count) entered
      · cases entered
  | enterBlock field align size =>
      obtain ⟨present, entered, rfl⟩ := Action.map_eq_ok_iff.mp ran
      exact .entered rfl (Nat.dvd_refl size) entered
  | addString field =>
      obtain ⟨⟨⟩, added, rfl⟩ := Action.map_eq_ok_iff.mp ran
      exact .added rfl added
  | clear field =>
      obtain ⟨⟨⟩, cleared, rfl⟩ := Action.map_eq_ok_iff.mp ran
      exact .cleared rfl cleared
  | leave =>
      obtain ⟨⟨⟩, left, rfl⟩ := Action.map_eq_ok_iff.mp ran
      exact .left rfl left

theorem leaves_of_followed {field : Nat}
    (follows : call.operation.followed? = some field)
    (flattener : Flattener) : call.leaves flattener = 0 := by
  unfold Call.leaves
  cases kind : call.operation with
  | leave =>
      rw [kind] at follows
      cases follows
  | _ => rfl

theorem Stacked.action_ok (stacked : before.Stacked) (wf : before.WellFormed)
    {reply : Reply} (ran : call.action before = .ok reply after) :
    after.Stacked ∧
      after.depth + call.leaves before = before.depth + call.opens before := by
  have opens : call.opens before = reply.opened := by rw [Call.opens, ran]
  rw [opens]
  cases performed ran with
  | entered follows divided entering =>
      rw [leaves_of_followed follows, Reply.opened_entered]
      exact stacked.enterElements_ok wf divided entering
  | added follows adding =>
      rw [leaves_of_followed follows]
      exact stacked.addString_ok wf adding
  | cleared kind clearing =>
      have leaves : call.leaves before = 0 := by rw [Call.leaves, kind]
      rw [leaves]
      exact stacked.clear_ok wf clearing
  | left kind leaving =>
      have leaves : call.leaves before = 1 := by rw [Call.leaves, kind, ran]
      rw [leaves]
      exact stacked.leave_ok leaving

theorem Stacked.action_error (stacked : before.Stacked)
    (wf : before.WellFormed) {fault : Fault}
    (failed : call.action before = .error fault after) :
    after.Stacked ∧
      after.depth + call.leaves before = before.depth + call.opens before := by
  obtain ⟨-, bytes, frames⟩ := wf.action_error failed
  have opens : call.opens before = 0 := by
    rw [Call.opens, failed]
  have leaves : call.leaves before = 0 := by
    rw [Call.leaves, failed]
    cases call.operation <;> rfl
  rw [opens, leaves]
  exact ⟨stacked.unchanged bytes frames, congrArg List.length frames⟩

/-- The offset that is written for a pointer is not the one that is read as
null, even when nothing is placed behind it. -/
theorem WellFormed.action_offset (wf : before.WellFormed) {field : Nat}
    {slot : Slot} (follows : call.operation.followed? = some field)
    (found : before.slotAt field = .ok (some slot))
    (here : call.memory.word field ≠ 0) {reply : Reply}
    (ran : call.action before = .ok reply after) :
    ∃ offset, after.buffer.readWord? slot.position = some offset ∧
      0 < offset := by
  cases performed ran with
  | entered other divided entering =>
      cases follows.symm.trans other
      exact wf.enterElements_offset found here entering
  | added other adding =>
      cases follows.symm.trans other
      exact wf.addString_offset found here adding
  | cleared kind clearing =>
      rw [kind] at follows
      cases follows
  | left kind leaving =>
      rw [kind] at follows
      cases follows

end Flattener

/-- What the operations rely on in a state, and their callers with them. -/
structure Flattener.Guarded (flattener : Flattener) : Prop where
  stacked : flattener.Stacked
  slots : ∀ field slot, slotOf field flattener = .ok (some slot) flattener →
    slot.position + wordSize ≤ flattener.position
  offsets : ∀ (call : Call) field slot reply after,
    call.operation.followed? = some field →
      slotOf field flattener = .ok (some slot) flattener →
        call.memory.word field ≠ 0 →
          call.action flattener = .ok reply after →
            ∃ offset, after.buffer.readWord? slot.position = some offset ∧
              0 < offset
  in_bounds : ∀ (call : Call) fault after,
    call.action flattener = .error fault after → ¬ fault.OutOfBounds

theorem Flattener.slotAt_of_slotOf {flattener : Flattener} {field : Nat}
    {slot : Option Slot}
    (found : slotOf field flattener = .ok slot flattener) :
    flattener.slotAt field = .ok slot := by
  rw [slotOf_eq] at found
  cases located : flattener.slotAt field with
  | error fault =>
      rw [located] at found
      cases found
  | ok other =>
      rw [located] at found
      cases found
      rfl

theorem Flattener.Stacked.guarded {flattener : Flattener}
    (stacked : flattener.Stacked) (wf : flattener.WellFormed) :
    flattener.Guarded := by
  refine ⟨stacked, ?_, ?_, ?_⟩
  · intro field slot found
    exact wf.fits (slotAt_of_slotOf found) slot rfl
  · intro call field slot reply after follows found here ran
    exact wf.action_offset follows (slotAt_of_slotOf found) here ran
  · intro call fault after failed
    exact wf.action_in_bounds failed

namespace Run

/-- The sum of a number over calls in order, each in the state in which it
runs. -/
def total (number : Call → Flattener → Nat) (run : Run) : List Call → Nat
  | [] => 0
  | call :: rest => number call run.flattener + total number (run.call call) rest

variable {run : Run}

theorem Sound.call_depth (sound : run.Sound)
    (stacked : run.flattener.Stacked) (call : Call) :
    (run.call call).flattener.Stacked ∧
      (run.call call).flattener.depth + call.leaves run.flattener =
        run.flattener.depth + call.opens run.flattener := by
  unfold Run.call
  cases outcome : call.action run.flattener with
  | ok reply after => exact stacked.action_ok sound.wf outcome
  | error fault after => exact stacked.action_error sound.wf outcome

theorem Sound.calls_depth (sound : run.Sound)
    (stacked : run.flattener.Stacked) (calls : List Call) :
    (run.calls calls).flattener.Stacked ∧
      (run.calls calls).flattener.depth + run.total Call.leaves calls =
        run.flattener.depth + run.total Call.opens calls := by
  induction calls generalizing run with
  | nil => exact ⟨stacked, rfl⟩
  | cons call rest ih =>
      obtain ⟨stackedNext, here⟩ := sound.call_depth stacked call
      obtain ⟨stackedLast, later⟩ := ih (sound.call call) stackedNext
      refine ⟨stackedLast, ?_⟩
      change ((run.call call).calls rest).flattener.depth + _ = _
      rw [total, total]
      omega

theorem Sound.calls_guarded (sound : run.Sound)
    (stacked : run.flattener.Stacked) (calls : List Call) :
    (run.calls calls).flattener.Guarded :=
  (sound.calls_depth stacked calls).1.guarded (sound.calls calls).wf

theorem start_depth {allocator : Allocator} {memory : Memory}
    {root : Option Nat} {size capacity : Nat}
    (started : start allocator memory root size capacity = .ok run) :
    run.flattener.Stacked ∧ run.flattener.depth = root.toList.length := by
  obtain ⟨flattener, opened, rfl⟩ := ok_of_map_ok started
  exact Flattener.start_stacked opened

theorem start_in_bounds {allocator : Allocator} {memory : Memory}
    {root : Option Nat} {size capacity : Nat} {fault : Fault}
    (failed : start allocator memory root size capacity = .error fault) :
    ¬ fault.OutOfBounds :=
  (Flattener.start_fault (error_of_map_error failed)).in_bounds

theorem Reaches.guarded {flattener : Flattener}
    (reached : run.Reaches flattener) (sound : run.Sound)
    (stacked : run.flattener.Stacked) : flattener.Guarded := by
  obtain ⟨calls, rfl⟩ := reached
  exact sound.calls_guarded stacked calls

/-- What holds after some calls since a start at a root: how many structures
are open, and what calls and scripts can do then. -/
structure Balanced (root : Option Nat) (opened : Run) (calls : List Call) :
    Prop where
  guarded : (opened.calls calls).flattener.Guarded
  depth_eq :
    (opened.calls calls).flattener.depth + opened.total Call.leaves calls =
      root.toList.length + opened.total Call.opens calls
  script_eq : ∀ allocator memory script,
    (Step.runAll allocator ⟨memory, (opened.calls calls).flattener⟩
        script).2.flattener =
      (opened.calls (calls ++ Step.callsAll allocator
        ⟨memory, (opened.calls calls).flattener⟩ script)).flattener
  script_guarded : ∀ allocator memory script,
    Entry.AllOf Flattener.Guarded (Step.runAll allocator
      ⟨memory, (opened.calls calls).flattener⟩ script).1
  script_raises : ∀ allocator memory script fault,
    Entry.ReportedIn fault (Step.runAll allocator
        ⟨memory, (opened.calls calls).flattener⟩ script).1 →
      fault.OutOfBounds → Step.RaisesIn fault script

/-- Whatever the calls are, and whichever of them fail. -/
theorem calls_balanced (allocator : Allocator) (memory : Memory)
    (root : Option Nat) (size capacity : Nat) :
    (∀ fault, start allocator memory root size capacity = .error fault →
      ¬ fault.OutOfBounds) ∧
    ∀ opened, start allocator memory root size capacity = .ok opened →
      ∀ calls, opened.Balanced root calls := by
  refine ⟨fun fault => start_in_bounds, ?_⟩
  intro opened started calls
  have sound := start_sound started
  obtain ⟨stacked, depth⟩ := start_depth started
  have reached : opened.Reaches (opened.calls calls).flattener := ⟨calls, rfl⟩
  refine ⟨sound.calls_guarded stacked calls, ?_, ?_, ?_, ?_⟩
  · rw [← depth]
    exact (sound.calls_depth stacked calls).2
  · intro allocator memory script
    rw [calls_append]
    exact script_calls rfl script
  · intro allocator memory script
    exact Entry.AllOf.imp
      (fun flattener reached => reached.guarded sound stacked)
      (Reaches.script reached script).1
  · intro allocator memory script fault
    exact script_raises sound reached

theorem calls_balanced_sample : sampleOpened.Balanced (some 16) sampleCalls :=
  (calls_balanced (fun _ => true) sampleMemory (some 16) 24 0).2 sampleOpened
    sample_started sampleCalls

end Run

end FlatGraph
