import FlatGraph.Proofs.Ledger.Room

/-!
Two runs of the same steps over the same memory, with different room. The
ledger knows no capacity: as long as no step succeeds in one run and fails in
the other, one ledger describes both, and nothing that can be seen of them
differs but the capacity.
-/

namespace FlatGraph

def Operation.answer (memory : Memory) : Operation → Reply
  | .enter field _ => .entered (memory.word field != 0)
  | .enterArray field _ _ => .entered (memory.word field != 0)
  | .enterBlock field _ _ => .entered (memory.word field != 0)
  | .addString _ => .done
  | .clear _ => .done
  | .leave => .done

def Buffer.refusal (need : Nat) : Fault :=
  match grownCapacity? need with
  | some capacity => .allocationRefused capacity
  | none => .capacityOverflow

theorem Buffer.reserve_error_eq {allocator : Allocator} {additional : Nat}
    {buffer after : Buffer} {fault : Fault}
    (failed : reserve allocator additional buffer = .error fault after) :
    fault = refusal (buffer.length + additional) := by
  rw [reserve_eq] at failed
  split at failed
  · unfold grow at failed
    rw [refusal]
    cases grown : grownCapacity? (buffer.length + additional) with
    | none =>
        rw [grown] at failed
        cases failed
        rfl
    | some capacity =>
        rw [grown] at failed
        simp only [setCapacity] at failed
        split at failed <;> cases failed
        rfl
  · cases failed

namespace Flattener

/-- The fault of a field that is not inside the open structure comes before
any other. -/
def blame (flattener : Flattener) (field : Nat) (otherwise : Fault) : Fault :=
  match flattener.slotAt field with
  | .error fault => fault
  | .ok _ => otherwise

def enterBlame (flattener : Flattener) (field align size : Nat) : Fault :=
  flattener.blame field
    (Buffer.refusal (flattener.position +
      (gap flattener.position (placementAlignment align) + size)))

end Flattener

def Operation.blame (memory : Memory) (flattener : Flattener) :
    Operation → Fault
  | .enter field layout =>
      flattener.enterBlame field layout.align layout.size
  | .enterArray field layout count =>
      if layout.size * count < wordLimit then
        flattener.enterBlame field layout.align (layout.size * count)
      else .capacityOverflow
  | .enterBlock field align size => flattener.enterBlame field align size
  | .addString field =>
      flattener.blame field
        (match memory.string? (memory.word field) with
          | none => .unterminatedString (memory.word field)
          | some text => Buffer.refusal (flattener.position + text.length))
  | .clear field => flattener.blame field .noOpenFrame
  | .leave => .noOpenFrame

namespace Flattener

section Answers

variable {allocator : Allocator} {memory : Memory} {field : Nat}
  {before after left right : Flattener} {fault : Fault}

theorem blame_congr (frames_eq : left.frames = right.frames) (field : Nat)
    (otherwise : Fault) :
    left.blame field otherwise = right.blame field otherwise := by
  simp only [blame, slotAt, frames_eq]

theorem operation_blame_congr (frames_eq : left.frames = right.frames)
    (position_eq : left.position = right.position) (memory : Memory)
    (operation : Operation) :
    operation.blame memory left = operation.blame memory right := by
  cases operation <;>
    simp only [Operation.blame, enterBlame, position_eq,
      blame_congr frames_eq]

theorem WellFormed.enterElements_present {align size stride : Nat}
    {present : Bool} (wf : before.WellFormed)
    (ran : enterElements allocator memory field align size stride before =
      .ok present after) : present = (memory.word field != 0) := by
  cases wf.entering ran with
  | null found null => rw [null]; rfl
  | entered found present => exact (bne_iff_ne.mpr present).symm

theorem WellFormed.enterElements_blame {align size stride : Nat}
    (wf : before.WellFormed)
    (failed : enterElements allocator memory field align size stride before =
      .error fault after) (returned : fault ≠ .unsupportedAlignment) :
    fault = before.enterBlame field align size := by
  rw [enterBlame, blame]
  cases wf.entering failed with
  | outside missed => rw [missed]
  | full found present refused =>
      rw [found]
      exact Buffer.reserve_error_eq refused
  | unsupported found present reserving unsupported =>
      exact absurd rfl returned

theorem WellFormed.action_answer {call : Call} {reply : Reply}
    (wf : before.WellFormed) (ran : call.action before = .ok reply after) :
    reply = call.operation.answer call.memory := by
  obtain ⟨allocator, memory, operation⟩ := call
  cases operation with
  | enter field layout =>
      obtain ⟨present, entering, rfl⟩ := Action.map_eq_ok_iff.mp ran
      exact congrArg Reply.entered (wf.enterElements_present entering)
  | enterArray field layout count =>
      obtain ⟨present, entering, rfl⟩ := Action.map_eq_ok_iff.mp ran
      rw [enterArray_eq] at entering
      split at entering
      · exact congrArg Reply.entered (wf.enterElements_present entering)
      · cases entering
  | enterBlock field align size =>
      obtain ⟨present, entering, rfl⟩ := Action.map_eq_ok_iff.mp ran
      exact congrArg Reply.entered (wf.enterElements_present entering)
  | addString field =>
      obtain ⟨⟨⟩, -, rfl⟩ := Action.map_eq_ok_iff.mp ran
      rfl
  | clear field =>
      obtain ⟨⟨⟩, -, rfl⟩ := Action.map_eq_ok_iff.mp ran
      rfl
  | leave =>
      obtain ⟨⟨⟩, -, rfl⟩ := Action.map_eq_ok_iff.mp ran
      rfl

theorem WellFormed.action_blame {call : Call} (wf : before.WellFormed)
    (failed : call.action before = .error fault after)
    (returned : fault ≠ .unsupportedAlignment) :
    fault = call.operation.blame call.memory before := by
  obtain ⟨allocator, memory, operation⟩ := call
  cases operation with
  | enter field layout =>
      exact wf.enterElements_blame (Action.map_eq_error_iff.mp failed)
        returned
  | enterArray field layout count =>
      have failed := Action.map_eq_error_iff.mp failed
      rw [enterArray_eq] at failed
      rw [Operation.blame]
      split at failed
      · rename_i small
        rw [if_pos small]
        exact wf.enterElements_blame failed returned
      · rename_i large
        cases failed
        rw [if_neg large]
  | enterBlock field align size =>
      exact wf.enterElements_blame (Action.map_eq_error_iff.mp failed)
        returned
  | addString field =>
      rw [Operation.blame, blame]
      cases wf.addingString (Action.map_eq_error_iff.mp failed) with
      | outside missed => rw [missed]
      | unterminated found present endless => rw [found, endless]
      | full found present ends refused =>
          rw [found, ends]
          exact Buffer.reserve_error_eq refused
  | clear field =>
      rw [Operation.blame, blame]
      obtain ⟨-, missed | ⟨rfl, closed⟩⟩ :=
        clear_error wf (Action.map_eq_error_iff.mp failed)
      · rw [missed]
      · rw [slotAt_nil field closed]
  | leave =>
      exact (leave_error (Action.map_eq_error_iff.mp failed)).2.1

end Answers

/-- One ledger describes both. -/
def Abreast (left right : Flattener) : Prop :=
  ∃ ledger, Run.Sound ⟨left, ledger⟩ ∧ Run.Sound ⟨right, ledger⟩

structure SameOutput (left right : Flattener) : Prop where
  bytes_eq : left.buffer.bytes = right.buffer.bytes
  frames_eq : left.frames = right.frames

namespace Abreast

variable {left right leftAfter rightAfter : Flattener}
  {first second : Allocator} {memory : Memory} {operation : Operation}

theorem sameOutput (abreast : left.Abreast right) : left.SameOutput right := by
  obtain ⟨ledger, here, there⟩ := abreast
  exact ⟨here.bytes_eq.trans there.bytes_eq.symm,
    here.frames_eq.trans there.frames_eq.symm⟩

theorem action_ok (abreast : left.Abreast right) {reply other : Reply}
    (ran : (Call.mk first memory operation).action left =
      .ok reply leftAfter)
    (ran' : (Call.mk second memory operation).action right =
      .ok other rightAfter) : reply = other ∧ leftAfter.Abreast rightAfter := by
  obtain ⟨ledger, here, there⟩ := abreast
  have same : ledger.record ⟨first, memory, operation⟩ =
      ledger.record ⟨second, memory, operation⟩ := by
    cases operation <;> rfl
  have recorded := here.action_ok ran
  rw [same] at recorded
  refine ⟨?_, _, recorded, there.action_ok ran'⟩
  exact (here.wf.action_answer ran).trans (there.wf.action_answer ran').symm

theorem action_error (abreast : left.Abreast right) {fault cause : Fault}
    (failed : (Call.mk first memory operation).action left =
      .error fault leftAfter)
    (failed' : (Call.mk second memory operation).action right =
      .error cause rightAfter)
    (alike : fault = .unsupportedAlignment ↔ cause = .unsupportedAlignment) :
    fault = cause ∧ leftAfter.Abreast rightAfter := by
  have same := abreast.sameOutput
  have blamed := operation_blame_congr same.frames_eq
    (congrArg List.length same.bytes_eq) memory operation
  obtain ⟨ledger, here, there⟩ := abreast
  refine ⟨?_, ledger, here.action_error failed, there.action_error failed'⟩
  by_cases panicked : fault = .unsupportedAlignment
  · exact panicked.trans (alike.mp panicked).symm
  · have panicked' := fun same => panicked (alike.mpr same)
    exact (here.wf.action_blame failed panicked).trans
      (blamed.trans (there.wf.action_blame failed' panicked').symm)

end Abreast

end Flattener

/-- Both succeeded, or both returned a cause, or neither returned. -/
def EndedAlike {α β : Type} : Except Fault α → Except Fault β → Prop
  | .ok _, .ok _ => True
  | .error fault, .error cause =>
      fault = .unsupportedAlignment ↔ cause = .unsupportedAlignment
  | _, _ => False

instance {α β : Type} : ∀ (result : Except Fault α) (result' : Except Fault β),
    Decidable (EndedAlike result result')
  | .ok _, .ok _ => inferInstanceAs (Decidable True)
  | .error fault, .error cause => inferInstanceAs (Decidable
      (fault = .unsupportedAlignment ↔ cause = .unsupportedAlignment))
  | .ok _, .error _ => inferInstanceAs (Decidable False)
  | .error _, .ok _ => inferInstanceAs (Decidable False)

mutual

def Entry.Matches (replies : Except Fault Reply → Except Fault Reply → Prop)
    (places : Nat → Nat → Prop) (states : Flattener → Flattener → Prop) :
    Entry → Entry → Prop
  | ⟨reply, after, none⟩, ⟨reply', after', none⟩ =>
      replies reply reply' ∧ states after after'
  | ⟨reply, after, some (place, inner)⟩,
    ⟨reply', after', some (place', inner')⟩ =>
      replies reply reply' ∧ states after after' ∧ places place place' ∧
        Entry.MatchesAll replies places states inner inner'
  | _, _ => False

def Entry.MatchesAll
    (replies : Except Fault Reply → Except Fault Reply → Prop)
    (places : Nat → Nat → Prop) (states : Flattener → Flattener → Prop) :
    List Entry → List Entry → Prop
  | [], [] => True
  | entry :: rest, entry' :: rest' =>
      Entry.Matches replies places states entry entry' ∧
        Entry.MatchesAll replies places states rest rest'
  | _, _ => False

end

section Decidable

variable {replies : Except Fault Reply → Except Fault Reply → Prop}
  {places : Nat → Nat → Prop} {states : Flattener → Flattener → Prop}
  [DecidableRel replies] [DecidableRel places] [DecidableRel states]

mutual

def Entry.decideMatches : ∀ entry entry' : Entry,
    Decidable (entry.Matches replies places states entry')
  | ⟨reply, after, none⟩, ⟨reply', after', none⟩ =>
      inferInstanceAs (Decidable (replies reply reply' ∧ states after after'))
  | ⟨reply, after, some (place, inner)⟩,
    ⟨reply', after', some (place', inner')⟩ =>
      have := Entry.decideMatchesAll inner inner'
      inferInstanceAs (Decidable (replies reply reply' ∧
        states after after' ∧ places place place' ∧
          Entry.MatchesAll replies places states inner inner'))
  | ⟨_, _, none⟩, ⟨_, _, some _⟩ => inferInstanceAs (Decidable False)
  | ⟨_, _, some _⟩, ⟨_, _, none⟩ => inferInstanceAs (Decidable False)

def Entry.decideMatchesAll : ∀ entries entries' : List Entry,
    Decidable (Entry.MatchesAll replies places states entries entries')
  | [], [] => inferInstanceAs (Decidable True)
  | entry :: rest, entry' :: rest' =>
      have := Entry.decideMatches entry entry'
      have := Entry.decideMatchesAll rest rest'
      inferInstanceAs (Decidable
        (Entry.Matches replies places states entry entry' ∧
          Entry.MatchesAll replies places states rest rest'))
  | [], _ :: _ => inferInstanceAs (Decidable False)
  | _ :: _, [] => inferInstanceAs (Decidable False)

end

instance (entries entries' : List Entry) :
    Decidable (Entry.MatchesAll replies places states entries entries') :=
  Entry.decideMatchesAll entries entries'

end Decidable

theorem Entry.Matches.replies
    {replies : Except Fault Reply → Except Fault Reply → Prop}
    {places : Nat → Nat → Prop} {states : Flattener → Flattener → Prop}
    {entry entry' : Entry}
    (matched : entry.Matches replies places states entry') :
    replies entry.reply entry'.reply := by
  obtain ⟨reply, after, scope⟩ := entry
  obtain ⟨reply', after', scope'⟩ := entry'
  cases scope with
  | none =>
      cases scope' with
      | none => exact matched.1
      | some inner' => cases matched
  | some inner =>
      cases scope' with
      | none => cases matched
      | some inner' => exact matched.1

/-- The same steps ran, and each of them ended alike in both runs. -/
abbrev Entry.SucceedAlike : List Entry → List Entry → Prop :=
  Entry.MatchesAll EndedAlike (fun _ _ => True) (fun _ _ => True)

abbrev Entry.Same : List Entry → List Entry → Prop :=
  Entry.MatchesAll Eq Eq Flattener.SameOutput

namespace Session

structure Abreast (left right : Session) : Prop where
  memory_eq : left.memory = right.memory
  flattener : left.flattener.Abreast right.flattener

namespace Abreast

variable {left right : Session}

theorem perform (abreast : left.Abreast right) (first second : Allocator)
    (operation : Operation)
    (alike : EndedAlike
      (left.perform (Call.mk first left.memory operation).action).1
      (right.perform (Call.mk second right.memory operation).action).1) :
    (left.perform (Call.mk first left.memory operation).action).1 =
        (right.perform (Call.mk second right.memory operation).action).1 ∧
      (left.perform (Call.mk first left.memory operation).action).2.Abreast
        (right.perform
          (Call.mk second right.memory operation).action).2 := by
  obtain ⟨memory, left⟩ := left
  obtain ⟨_, right⟩ := right
  obtain ⟨rfl, flattener⟩ := abreast
  simp only [Session.perform] at alike ⊢
  cases ran : (Call.mk first memory operation).action left with
  | ok reply after =>
      cases ran' : (Call.mk second memory operation).action right with
      | ok reply' after' =>
          obtain ⟨same, later⟩ := flattener.action_ok ran ran'
          exact ⟨congrArg Except.ok same, rfl, later⟩
      | error fault after' =>
          rw [ran, ran'] at alike
          cases alike
  | error fault after =>
      cases ran' : (Call.mk second memory operation).action right with
      | ok reply after' =>
          rw [ran, ran'] at alike
          cases alike
      | error fault' after' =>
          rw [ran, ran'] at alike
          obtain ⟨same, later⟩ := flattener.action_error ran ran' alike
          exact ⟨congrArg Except.error same, rfl, later⟩

theorem after_ok (abreast : left.Abreast right) {first second : Allocator}
    {operation : Operation} {reply reply' : Reply} {next next' : Session}
    (ran : left.perform (Call.mk first left.memory operation).action =
      (.ok reply, next))
    (ran' : right.perform (Call.mk second right.memory operation).action =
      (.ok reply', next')) : next.Abreast next' := by
  have performed := abreast.perform first second operation
  rw [ran, ran'] at performed
  exact (performed trivial).2

theorem reported {outcome outcome' : Except Fault Reply × Session}
    (same : outcome.1 = outcome'.1) (later : outcome.2.Abreast outcome'.2) :
    Entry.Matches Eq Eq Flattener.SameOutput (report outcome).1
        (report outcome').1 ∧
      (report outcome).2.Abreast (report outcome').2 :=
  ⟨⟨same, later.flattener.sameOutput⟩, later⟩

theorem operation (abreast : left.Abreast right) (first second : Allocator)
    (operation : Operation)
    (alike : Entry.Matches EndedAlike (fun _ _ => True) (fun _ _ => True)
      (operation.step.run first left).1
      (operation.step.run second right).1) :
    Entry.Matches Eq Eq Flattener.SameOutput
        (operation.step.run first left).1
        (operation.step.run second right).1 ∧
      (operation.step.run first left).2.Abreast
        (operation.step.run second right).2 := by
  rw [Operation.run_step, Operation.run_step] at alike ⊢
  obtain ⟨same, later⟩ := abreast.perform first second operation alike.1
  exact reported same later

mutual

theorem step (first second : Allocator) : ∀ (step : Step)
    {left right : Session}, left.Abreast right →
      Entry.Matches EndedAlike (fun _ _ => True) (fun _ _ => True)
          (step.run first left).1 (step.run second right).1 →
        Entry.Matches Eq Eq Flattener.SameOutput
            (step.run first left).1 (step.run second right).1 ∧
          (step.run first left).2.Abreast (step.run second right).2
  | .enter field layout, left, right, abreast, alike =>
      abreast.operation first second (.enter field layout) alike
  | .enterArray field layout count, left, right, abreast, alike =>
      abreast.operation first second (.enterArray field layout count) alike
  | .enterBlock field align size, left, right, abreast, alike =>
      abreast.operation first second (.enterBlock field align size) alike
  | .within field layout body, left, right, abreast, alike => by
      have ran := Step.scoping first left field layout body
      have ran' := Step.scoping second right field layout body
      have place_eq : left.memory.word field = right.memory.word field := by
        rw [abreast.memory_eq]
      generalize (Step.within field layout body).run first left = outcome
        at ran alike ⊢
      generalize (Step.within field layout body).run second right = outcome'
        at ran' alike ⊢
      -- Where the two come to different ends, their entries differ.
      cases ran with
      | missed entering =>
          cases ran' with
          | missed entering' =>
              have entered := abreast.perform first second
                (.enter field layout)
              rw [entering, entering'] at entered
              obtain ⟨same, later⟩ := entered alike.1
              exact reported same later
          | null entering' => cases alike.1
          | stopped entering' finishing' => cases alike
          | left entering' finishing' leaving' => cases alike
      | null entering =>
          cases ran' with
          | missed entering' => cases alike.1
          | null entering' =>
              exact reported rfl (abreast.after_ok entering entering')
          | stopped entering' finishing' => cases alike
          | left entering' finishing' leaving' => cases alike
      | stopped entering finishing =>
          cases ran' with
          | missed entering' => cases alike
          | null entering' => cases alike
          | stopped entering' finishing' =>
              have inner := steps first second body
                (abreast.after_ok entering entering')
              rw [finishing, finishing'] at inner
              obtain ⟨matched, ended, finished⟩ := inner alike.2.2.2
              exact ⟨⟨congrArg Except.error (Option.some.inj ended),
                finished.flattener.sameOutput, place_eq, matched⟩, finished⟩
          | left entering' finishing' leaving' =>
              have inner := steps first second body
                (abreast.after_ok entering entering')
              rw [finishing, finishing'] at inner
              obtain ⟨matched, ended, finished⟩ := inner alike.2.2.2
              cases ended
      | left entering finishing leaving =>
          cases ran' with
          | missed entering' => cases alike
          | null entering' => cases alike
          | stopped entering' finishing' =>
              have inner := steps first second body
                (abreast.after_ok entering entering')
              rw [finishing, finishing'] at inner
              obtain ⟨matched, ended, finished⟩ := inner alike.2.2.2
              cases ended
          | left entering' finishing' leaving' =>
              have inner := steps first second body
                (abreast.after_ok entering entering')
              rw [finishing, finishing'] at inner
              obtain ⟨matched, ended, finished⟩ := inner alike.2.2.2
              have closed := finished.perform first second .leave
              rw [leaving, leaving'] at closed
              obtain ⟨same, later⟩ := closed alike.1
              exact ⟨⟨same, later.flattener.sameOutput, place_eq, matched⟩,
                later⟩
  | .addString field, left, right, abreast, alike =>
      abreast.operation first second (.addString field) alike
  | .clear field, left, right, abreast, alike =>
      abreast.operation first second (.clear field) alike
  | .leave, left, right, abreast, alike =>
      abreast.operation first second .leave alike
  | .poke edits, left, right, abreast, alike => by
      rw [Step.run, Step.run]
      refine reported rfl ⟨?_, abreast.flattener⟩
      rw [abreast.memory_eq]
  | .view query, left, right, abreast, alike => by
      rw [Step.run, Step.run]
      refine reported ?_ abreast
      rw [abreast.flattener.sameOutput.bytes_eq]
  | .fail fault, left, right, abreast, alike => by
      rw [Step.run, Step.run]
      exact reported rfl abreast

theorem steps (first second : Allocator) : ∀ (body : List Step)
    {left right : Session}, left.Abreast right →
      Entry.SucceedAlike (Step.runBody first left body).1
          (Step.runBody second right body).1 →
        Entry.Same (Step.runBody first left body).1
            (Step.runBody second right body).1 ∧
          (Step.runBody first left body).2.1 =
            (Step.runBody second right body).2.1 ∧
          (Step.runBody first left body).2.2.Abreast
            (Step.runBody second right body).2.2
  | [], left, right, abreast, alike => by
      rw [Step.runBody, Step.runBody]
      exact ⟨trivial, rfl, abreast⟩
  | head :: rest, left, right, abreast, alike => by
      have headed := @step first second head left right abreast
      have onward := @steps first second rest
      rw [Step.runBody, Step.runBody] at alike ⊢
      simp only at alike ⊢
      generalize Step.run first left head = ran at alike headed ⊢
      generalize Step.run second right head = ran' at alike headed ⊢
      obtain ⟨entry, next⟩ := ran
      obtain ⟨entry', next'⟩ := ran'
      simp only at alike headed ⊢
      cases replied : entry.reply with
      | error fault =>
          cases replied' : entry'.reply with
          | error fault' =>
              rw [replied, replied'] at alike
              obtain ⟨matched, after⟩ := headed alike.1
              have same := matched.replies
              rw [replied, replied'] at same
              exact ⟨⟨matched, trivial⟩,
                congrArg some (Except.error.inj same), after⟩
          | ok reply' =>
              rw [replied, replied'] at alike
              have ends := alike.1.replies
              rw [replied, replied'] at ends
              cases ends
      | ok reply =>
          cases replied' : entry'.reply with
          | error fault' =>
              rw [replied, replied'] at alike
              have ends := alike.1.replies
              rw [replied, replied'] at ends
              cases ends
          | ok reply' =>
              rw [replied, replied'] at alike
              obtain ⟨matched, after⟩ := headed alike.1
              obtain ⟨others, stopped, finished⟩ :=
                onward after alike.2
              exact ⟨⟨matched, others⟩, stopped, finished⟩

end

theorem each {granted granted' : Nat → Allocator} {script : List Step}
    (abreast : left.Abreast right)
    (alike : Entry.SucceedAlike (Step.runEach granted left script).1
      (Step.runEach granted' right script).1) :
    Entry.Same (Step.runEach granted left script).1
        (Step.runEach granted' right script).1 ∧
      (Step.runEach granted left script).2.Abreast
        (Step.runEach granted' right script).2 := by
  induction script generalizing left right granted granted' with
  | nil => exact ⟨trivial, abreast⟩
  | cons head rest ih =>
      obtain ⟨matched, after⟩ :=
        step (granted 0) (granted' 0) head abreast alike.1
      obtain ⟨others, finished⟩ := ih after alike.2
      exact ⟨⟨matched, others⟩, finished⟩

end Abreast

end Session

theorem Flattener.start_abreast {first second : Allocator} {memory : Memory}
    {root : Option Nat} {size capacity capacity' : Nat}
    {left right : Flattener}
    (started : start first memory root size capacity = .ok left)
    (started' : start second memory root size capacity' = .ok right) :
    left.Abreast right := by
  have here : Run.start first memory root size capacity =
      .ok ⟨left, Ledger.start memory root size⟩ := by
    rw [Run.start, started]
    rfl
  have there : Run.start second memory root size capacity' =
      .ok ⟨right, Ledger.start memory root size⟩ := by
    rw [Run.start, started']
    rfl
  exact ⟨_, Run.start_sound here, Run.start_sound there⟩

end FlatGraph
