import FlatGraph.Proofs.Ledger.Depth
import FlatGraph.Proofs.Ledger.Failures

/-!
Scopes give back what they were given, or stop where they fail. A scope that
succeeds leaves the open structures as they were before it; one that fails
does so by the first step that fails, however deep it lies, and leaves open
what was open there.
-/

namespace FlatGraph

/-- How many structures are open in a body, of those that it has opened
itself, after a step of it. -/
def Step.level (opened : Nat) (reply : Reply) : Step → Nat
  | .leave => opened - 1
  | .within _ _ _ => opened
  | _ => opened + reply.opened

/-- A body may leave what it has opened itself. -/
def Step.permitted (opened : Nat) : Step → Bool
  | .leave => 0 < opened
  | _ => true

mutual

/-- Whether the body of every scope that a step comes to leaves whatever plain
steps of it have entered, and nothing else. -/
def Step.balances (allocator : Allocator) (session : Session) : Step → Bool
  | .within field layout body =>
      match session.perform
          (Flattener.enter allocator session.memory field layout) with
      | (.ok true, next) => Step.balancesIn allocator next 0 body
      | _ => true
  | _ => true

/-- The same for a body of which some structures are open. A body that fails
leaves nothing more. -/
def Step.balancesIn (allocator : Allocator) (session : Session)
    (opened : Nat) : List Step → Bool
  | [] => opened == 0
  | step :: rest =>
      let first := Step.run allocator session step
      Step.balances allocator session step && step.permitted opened &&
        match first.1.reply with
        | .error _ => true
        | .ok reply =>
            Step.balancesIn allocator first.2 (step.level opened reply) rest

end

/-- A step fails, or a step of its scope does after others that did not. What
would have come behind it has no part in the outcome. The first session is the
one before the step, the second the one before the step that fails. -/
inductive Stops (allocator : Allocator) (fault : Fault) :
    Session → Step → Session → Entry × Session → Prop where
  | own {session next : Session} {step : Step}
      (ran : step.run allocator session =
        (⟨.error fault, next.flattener, none⟩, next)) :
      Stops allocator fault session step session
        (⟨.error fault, next.flattener, none⟩, next)
  | inside {session next middle failing left : Session} {field : Nat}
      {layout : Layout} {front rest : List Step} {step : Step}
      {entries : List Entry} {last : Entry}
      (entered : session.perform
          (Flattener.enter allocator session.memory field layout) =
        (.ok true, next))
      (before : Step.runBody allocator next front = (entries, none, middle))
      (stops : Stops allocator fault middle step failing (last, left)) :
      Stops allocator fault session
        (.within field layout (front ++ step :: rest)) failing
        (⟨.error fault, left.flattener,
          some (session.memory.word field, entries ++ [last])⟩, left)

theorem Stops.reply_eq {allocator : Allocator} {fault : Fault}
    {session failing : Session} {step : Step} {outcome : Entry × Session}
    (stops : Stops allocator fault session step failing outcome) :
    outcome.1.reply = .error fault := by
  cases stops with
  | own ran => rfl
  | inside entered before stops => rfl

theorem Step.runBody_of_error {allocator : Allocator} {fault : Fault}
    {session middle left : Session} {front rest : List Step} {step : Step}
    {entries : List Entry} {last : Entry}
    (before : Step.runBody allocator session front = (entries, none, middle))
    (ran : step.run allocator middle = (last, left))
    (failed : last.reply = .error fault) :
    Step.runBody allocator session (front ++ step :: rest) =
      (entries ++ [last], some fault, left) := by
  induction front generalizing session entries with
  | nil =>
      rw [Step.runBody] at before
      cases before
      rw [List.nil_append, Step.runBody, ran]
      simp only [failed]
      rfl
  | cons first front ih =>
      rw [Step.runBody] at before
      simp only at before
      rw [List.cons_append, Step.runBody]
      cases replied : (first.run allocator session).1.reply with
      | error cause =>
          rw [replied] at before
          cases before
      | ok reply =>
          rw [replied] at before
          cases going : Step.runBody allocator
              (first.run allocator session).2 front with
          | mk earlier ending =>
              rw [going] at before
              cases before
              simp only [ih going]
              rfl

theorem Stops.run_eq {allocator : Allocator} {fault : Fault}
    {session failing : Session} {step : Step} {outcome : Entry × Session}
    (stops : Stops allocator fault session step failing outcome) :
    step.run allocator session = outcome := by
  induction stops with
  | own ran => exact ran
  | inside entered before stops ih =>
      rw [Step.run, entered]
      simp only [Step.runBody_of_error before ih stops.reply_eq]
      rfl

/-- How a step that succeeds changes which structures are open. -/
def Step.Nests (step : Step) (reply : Reply) (before after : List Frame) :
    Prop :=
  match step with
  | .leave => ∃ frame, before = frame :: after
  | .within _ _ _ => after = before
  | _ => ∃ own, own.length = reply.opened ∧ after = own ++ before

theorem Step.Nests.above {step : Step} {reply : Reply}
    {before after own base : List Frame}
    (nests : step.Nests reply before after) (split : before = own ++ base)
    (permitted : step.permitted own.length = true) :
    ∃ still, still.length = step.level own.length reply ∧
      after = still ++ base := by
  cases step with
  | leave =>
      obtain ⟨frame, same⟩ := nests
      cases own with
      | nil => cases permitted
      | cons first own =>
          rw [split] at same
          cases same
          exact ⟨own, rfl, rfl⟩
  | within field layout body => exact ⟨own, rfl, nests.trans split⟩
  | _ =>
      obtain ⟨opened, count, rfl⟩ := nests
      refine ⟨opened ++ own, ?_, ?_⟩
      · rw [List.length_append, count, Nat.add_comm]
        rfl
      · rw [split, List.append_assoc]

namespace Flattener

variable {before after : Flattener} {allocator : Allocator} {memory : Memory}
  {field : Nat}

theorem WellFormed.enterElements_frames {align size stride : Nat}
    {present : Bool} (wf : before.WellFormed)
    (ran : enterElements allocator memory field align size stride before =
      .ok present after) :
    ∃ own, own.length = (Reply.entered present).opened ∧
      after.frames = own ++ before.frames := by
  cases wf.entering ran with
  | null found null => exact ⟨[], rfl, rfl⟩
  | entered found present reserving supported left =>
      subst left
      exact ⟨[_], rfl, rfl⟩

theorem WellFormed.operation_nests {operation : Operation} {reply : Reply}
    (wf : before.WellFormed)
    (ran : Call.action ⟨allocator, memory, operation⟩ before =
      .ok reply after) :
    operation.step.Nests reply before.frames after.frames := by
  cases operation with
  | enter field layout =>
      obtain ⟨present, entering, rfl⟩ := Action.map_eq_ok_iff.mp ran
      exact wf.enterElements_frames entering
  | enterArray field layout count =>
      obtain ⟨present, entering, rfl⟩ := Action.map_eq_ok_iff.mp ran
      rw [enterArray_eq] at entering
      split at entering
      · exact wf.enterElements_frames entering
      · cases entering
  | enterBlock field align size =>
      obtain ⟨present, entering, rfl⟩ := Action.map_eq_ok_iff.mp ran
      exact wf.enterElements_frames entering
  | addString field =>
      obtain ⟨⟨⟩, adding, rfl⟩ := Action.map_eq_ok_iff.mp ran
      refine ⟨[], rfl, ?_⟩
      cases wf.addingString adding with
      | null found null => rfl
      | added found present ends reserving left =>
          subst left
          rfl
  | clear field =>
      obtain ⟨⟨⟩, clearing, rfl⟩ := Action.map_eq_ok_iff.mp ran
      obtain ⟨slot, -, rfl⟩ := Flattener.clear_ok wf clearing
      exact ⟨[], rfl, rfl⟩
  | leave =>
      obtain ⟨⟨⟩, leaving, rfl⟩ := Action.map_eq_ok_iff.mp ran
      obtain ⟨frame, rest, opened, rfl⟩ := Flattener.leave_ok leaving
      exact ⟨frame, opened⟩

end Flattener

namespace Session

variable {session next : Session} {allocator : Allocator} {field : Nat}
  {layout : Layout}

theorem perform_ok {α : Type} {action : Flattener.Action α} {value : α}
    (ran : session.perform action = (.ok value, next)) :
    action session.flattener = .ok value next.flattener := by
  rw [Session.perform] at ran
  cases ended : action session.flattener with
  | ok found after =>
      rw [ended] at ran
      cases ran
      rfl
  | error fault after =>
      rw [ended] at ran
      cases ran

theorem perform_error {α : Type} {action : Flattener.Action α}
    {fault : Fault} (failed : session.perform action = (.error fault, next)) :
    action session.flattener = .error fault next.flattener ∧
      next = { session with flattener := next.flattener } := by
  rw [Session.perform] at failed
  cases ended : action session.flattener with
  | ok found after =>
      rw [ended] at failed
      cases failed
  | error cause after =>
      rw [ended] at failed
      cases failed
      exact ⟨rfl, rfl⟩

theorem perform_leave {own base : List Frame}
    (opened : session.flattener.frames = own ++ base) (count : own.length = 1) :
    session.perform (Call.mk allocator session.memory .leave).action =
      (.ok .done, { session with
        flattener := { session.flattener with frames := base } }) := by
  obtain ⟨frame, rfl⟩ := List.length_eq_one_iff.mp count
  have leaves : Flattener.leave session.flattener =
      .ok () { session.flattener with frames := base } := by
    unfold Flattener.leave
    rw [opened]
    rfl
  have ran : (Call.mk allocator session.memory .leave).action
      session.flattener = _ := Action.map_of_ok leaves
  rw [Session.perform, ran]

theorem perform_enter {present : Bool}
    (entering : session.perform
        (Call.mk allocator session.memory (.enter field layout)).action =
      (.ok (.entered present), next)) :
    session.perform (Flattener.enter allocator session.memory field layout) =
      (.ok present, next) := by
  have mapped : session.perform
      (Call.mk allocator session.memory (.enter field layout)).action = _ :=
    perform_map session
      (Flattener.enter allocator session.memory field layout) Reply.entered
  rw [entering] at mapped
  generalize session.perform
    (Flattener.enter allocator session.memory field layout) = outcome
    at mapped ⊢
  obtain ⟨result, after⟩ := outcome
  cases result with
  | ok found =>
      cases mapped
      rfl
  | error fault => cases mapped

end Session

theorem Entry.quiet_of_ok {reply : Reply} {after : Flattener} :
    ∀ fault, ¬ Entry.Reports fault ⟨.ok reply, after, none⟩ := by
  intro fault reported
  cases reported

inductive Step.Ends (allocator : Allocator) (session : Session) (step : Step) :
    Entry × Session → Prop where
  | done {entry : Entry} {next : Session} {reply : Reply}
      (replied : entry.reply = .ok reply)
      (quiet : ∀ fault, ¬ entry.Reports fault)
      (nests : step.Nests reply session.flattener.frames
        next.flattener.frames) :
      Ends allocator session step (entry, next)
  | stopped {entry : Entry} {next failing : Session} {fault : Fault}
      {opened : List Frame}
      (stops : Stops allocator fault session step failing (entry, next))
      (only : ∀ cause, entry.Reports cause → cause = fault)
      (inside : failing.flattener.frames =
        opened ++ session.flattener.frames)
      (same : next.flattener.frames = failing.flattener.frames) :
      Ends allocator session step (entry, next)

theorem Step.Ends.of_own {allocator : Allocator} {session next : Session}
    {step : Step} {fault : Fault}
    (ran : step.run allocator session =
      (⟨.error fault, next.flattener, none⟩, next))
    (same : next.flattener.frames = session.flattener.frames) :
    step.Ends allocator session
      (⟨.error fault, next.flattener, none⟩, next) := by
  refine .stopped (.own ran) ?_ (List.nil_append _).symm same
  intro cause reported
  cases reported
  rfl

inductive Step.EndsBody (allocator : Allocator) (session : Session)
    (base : List Frame) (body : List Step) :
    List Entry × Option Fault × Session → Prop where
  | done {entries : List Entry} {after : Session}
      (quiet : ∀ fault, ¬ Entry.ReportedIn fault entries)
      (same : after.flattener.frames = base) :
      EndsBody allocator session base body (entries, none, after)
  | stopped {front rest : List Step} {step : Step} {entries : List Entry}
      {last : Entry} {middle failing after : Session} {fault : Fault}
      {opened : List Frame} (split : body = front ++ step :: rest)
      (before : Step.runBody allocator session front =
        (entries, none, middle))
      (stops : Stops allocator fault middle step failing (last, after))
      (only : ∀ cause, Entry.ReportedIn cause (entries ++ [last]) →
        cause = fault)
      (inside : failing.flattener.frames = opened ++ base)
      (same : after.flattener.frames = failing.flattener.frames) :
      EndsBody allocator session base body
        (entries ++ [last], some fault, after)

namespace Run

variable {run : Run} {allocator : Allocator}

section Ends

variable {session : Session}

theorem Reaches.ends_operation (reached : run.Reaches session.flattener)
    (sound : run.Sound) (operation : Operation) :
    operation.step.Ends allocator session
      (operation.step.run allocator session) := by
  have wf := reached.wf sound
  have ran := operation.run_step allocator session
  rw [Session.perform] at ran
  cases ended : (Call.mk allocator session.memory operation).action
      session.flattener with
  | ok reply after =>
      rw [ended] at ran
      rw [ran]
      exact .done rfl Entry.quiet_of_ok (wf.operation_nests ended)
  | error fault after =>
      rw [ended] at ran
      rw [ran]
      obtain ⟨-, -, frames⟩ := wf.action_error ended
      exact .of_own ran frames

theorem Reaches.ends_within (reached : run.Reaches session.flattener)
    (sound : run.Sound) {field : Nat} {layout : Layout} {body : List Step}
    (inner : ∀ next,
      session.perform
          (Flattener.enter allocator session.memory field layout) =
        (.ok true, next) →
      run.Reaches next.flattener →
        Step.EndsBody allocator next next.flattener.frames body
          (Step.runBody allocator next body)) :
    (Step.within field layout body).Ends allocator session
      ((Step.within field layout body).run allocator session) := by
  have wf := reached.wf sound
  have scoping := Step.scoping allocator session field layout body
  have entered : run.Reaches _ :=
    reached.perform ⟨allocator, session.memory, .enter field layout⟩
  generalize ran : (Step.within field layout body).run allocator session =
    outcome at scoping ⊢
  cases scoping with
  | @missed fault next entering =>
      obtain ⟨-, -, frames⟩ :=
        wf.action_error (Session.perform_error entering).1
      exact .of_own ran frames
  | @null next entering =>
      obtain ⟨own, none, opened⟩ :=
        wf.operation_nests (Session.perform_ok entering)
      rw [List.length_eq_zero_iff.mp none] at opened
      exact .done rfl Entry.quiet_of_ok opened
  | @stopped next after entries fault entering finishing =>
      obtain ⟨own, -, opened⟩ :=
        wf.operation_nests (Session.perform_ok entering)
      have enters := Session.perform_enter entering
      rw [entering] at entered
      have ends := inner next enters entered
      rw [finishing] at ends
      cases ends with
      | @stopped front rest step earlier last middle failing _ _ more
          split before stops only inside same =>
          subst split
          have above : failing.flattener.frames =
              (more ++ own) ++ session.flattener.frames := by
            rw [inside, opened, List.append_assoc]
          refine .stopped (.inside enters before stops) ?_ above same
          rintro cause (replied | nested)
          · cases replied
            rfl
          · exact only cause nested
  | @left next after closed entries reply entering finishing leaving =>
      obtain ⟨own, count, opened⟩ :=
        wf.operation_nests (Session.perform_ok entering)
      rw [entering] at entered
      have ends := inner next (Session.perform_enter entering) entered
      rw [finishing] at ends
      cases ends with
      | done quiet same =>
          have left : after.perform
              (Call.mk allocator after.memory .leave).action = _ :=
            Session.perform_leave (same.trans opened) count
          rw [left] at leaving
          cases leaving
          refine .done rfl ?_ rfl
          rintro fault (replied | nested)
          · cases replied
          · exact quiet fault nested

end Ends

end Run

namespace Step.EndsBody

variable {allocator : Allocator} {session next : Session} {first : Step}
  {rest : List Step} {entry : Entry} {base : List Frame}

theorem cons {reply : Reply}
    (ran : first.run allocator session = (entry, next))
    (replied : entry.reply = .ok reply)
    (quiet : ∀ fault, ¬ entry.Reports fault)
    (onward : EndsBody allocator next base rest
      (runBody allocator next rest)) :
    EndsBody allocator session base (first :: rest)
      (runBody allocator session (first :: rest)) := by
  rw [runBody, ran]
  simp only [replied]
  generalize ranRest : runBody allocator next rest = left at onward
  cases onward with
  | done quietRest same =>
      refine .done ?_ same
      rintro fault (reported | nested)
      · exact quiet fault reported
      · exact quietRest fault nested
  | @stopped front behind step earlier last middle failing after fault more
      parted before stops only inside same =>
      have whole : first :: rest = (first :: front) ++ step :: behind :=
        congrArg (first :: ·) parted
      have ranFront : runBody allocator session (first :: front) =
          (entry :: earlier, none, middle) := by
        rw [runBody, ran]
        simp only [replied, before]
      refine .stopped whole ranFront stops ?_ inside same
      rintro cause (reported | nested)
      · exact absurd reported (quiet cause)
      · exact only cause nested

theorem of_stops {failing : Session} {fault : Fault} {opened : List Frame}
    (stops : Stops allocator fault session first failing (entry, next))
    (only : ∀ cause, entry.Reports cause → cause = fault)
    (inside : failing.flattener.frames = opened ++ base)
    (same : next.flattener.frames = failing.flattener.frames) :
    EndsBody allocator session base (first :: rest)
      (runBody allocator session (first :: rest)) := by
  have none : runBody allocator session [] = ([], none, session) := by
    rw [runBody]
  have failed : entry.reply = .error fault := stops.reply_eq
  rw [runBody, stops.run_eq]
  simp only [failed]
  refine .stopped (List.nil_append (first :: rest)).symm none stops ?_ inside
    same
  rintro cause (reported | nested)
  · exact only cause reported
  · cases nested

end Step.EndsBody

namespace Run

variable {run : Run} {allocator : Allocator}

mutual

theorem step_ends (sound : run.Sound) : ∀ (step : Step) {session : Session},
    run.Reaches session.flattener →
      step.balances allocator session = true →
        step.Ends allocator session (step.run allocator session)
  | .enter field layout, session, reached, _ =>
      reached.ends_operation sound (.enter field layout)
  | .enterArray field layout count, session, reached, _ =>
      reached.ends_operation sound (.enterArray field layout count)
  | .enterBlock field align size, session, reached, _ =>
      reached.ends_operation sound (.enterBlock field align size)
  | .within field layout body, session, reached, balanced => by
      refine reached.ends_within sound ?_
      intro next entering entered
      rw [Step.balances, entering] at balanced
      exact steps_end sound body entered (List.nil_append _).symm balanced
  | .addString field, session, reached, _ =>
      reached.ends_operation sound (.addString field)
  | .clear field, session, reached, _ =>
      reached.ends_operation sound (.clear field)
  | .leave, session, reached, _ => reached.ends_operation sound .leave
  | .poke edits, session, _, _ => by
      rw [Step.run]
      exact .done rfl Entry.quiet_of_ok ⟨[], rfl, rfl⟩
  | .view query, session, _, _ => by
      rw [Step.run]
      exact .done rfl Entry.quiet_of_ok ⟨[], rfl, rfl⟩
  | .fail fault, session, _, _ => by
      have ran : (Step.fail fault).run allocator session =
          (⟨.error fault, session.flattener, none⟩, session) := by
        rw [Step.run]
        rfl
      rw [ran]
      exact .of_own ran rfl

theorem steps_end (sound : run.Sound) : ∀ (body : List Step)
    {session : Session} {own base : List Frame},
    run.Reaches session.flattener →
      session.flattener.frames = own ++ base →
        Step.balancesIn allocator session own.length body = true →
          Step.EndsBody allocator session base body
            (Step.runBody allocator session body)
  | [], session, own, base, _, split, balanced => by
      rw [Step.balancesIn, beq_iff_eq, List.length_eq_zero_iff] at balanced
      rw [balanced, List.nil_append] at split
      rw [Step.runBody]
      refine .done ?_ split
      intro fault reported
      cases reported
  | first :: rest, session, own, base, reached, split, balanced => by
      rw [Step.balancesIn] at balanced
      simp only [Bool.and_eq_true] at balanced
      obtain ⟨⟨here, permitted⟩, later⟩ := balanced
      have ends := step_ends sound first reached here
      have reachedNext : run.Reaches
          (Step.run allocator session first).2.flattener :=
        (Reaches.step first reached).2
      generalize ran : Step.run allocator session first = outcome
        at ends reachedNext later
      cases ends with
      | @done entry next reply replied quiet nests =>
          obtain ⟨still, count, above⟩ := nests.above split permitted
          simp only [replied] at later
          rw [← count] at later
          exact .cons ran replied quiet
            (steps_end sound rest reachedNext above later)
      | @stopped entry next failing fault opened stops only inside same =>
          have above : failing.flattener.frames = (opened ++ own) ++ base := by
            rw [inside, split, List.append_assoc]
          exact .of_stops stops only above same

end

/-- What a scope comes to whose body, and all scopes in it, are balanced. -/
structure Scoped (allocator : Allocator) (session : Session) (field : Nat)
    (layout : Layout) (body : List Step) (outcome : Entry × Session) :
    Prop where
  done : ∀ reply, outcome.1.reply = .ok reply →
    outcome.2.flattener.frames = session.flattener.frames ∧
      ∀ fault, ¬ outcome.1.Reports fault
  /-- The body has not run, and only the slot has changed. -/
  null : session.memory.word field = 0 → ∀ slot,
    session.flattener.slotAt field = .ok slot →
      outcome = Session.report (.ok .done, { session with
        flattener := session.flattener.withBytes
          (Flattener.mark slot none session.flattener.buffer.bytes) })
  stopped : ∀ fault, outcome.1.reply = .error fault →
    (∀ cause, outcome.1.Reports cause → cause = fault) ∧
    ∃ failing opened,
      Stops allocator fault session (.within field layout body) failing
        outcome ∧
      failing.flattener.frames = opened ++ session.flattener.frames ∧
      outcome.2.flattener.frames = opened ++ session.flattener.frames
  missed : ∀ fault next,
    session.perform
        (Flattener.enter allocator session.memory field layout) =
      (.error fault, next) →
    fault ≠ .unsupportedAlignment →
      outcome = Session.report (.error fault, session)

theorem within_null {session : Session} {field : Nat} {layout : Layout}
    {slot : Option Flattener.Slot} (wf : session.flattener.WellFormed)
    (null : session.memory.word field = 0)
    (found : session.flattener.slotAt field = .ok slot) (body : List Step) :
    (Step.within field layout body).run allocator session =
      Session.report (.ok .done, { session with
        flattener := session.flattener.withBytes
          (Flattener.mark slot none session.flattener.buffer.bytes) }) := by
  have entering : Flattener.enter allocator session.memory field layout
      session.flattener = .ok false _ :=
    Flattener.enterElements_of_null found (wf.fits found) null
  rw [Step.run, Session.perform, entering]

theorem within_missed {session next : Session} {field : Nat}
    {layout : Layout} {fault : Fault} (wf : session.flattener.WellFormed)
    (failed : session.perform
        (Flattener.enter allocator session.memory field layout) =
      (.error fault, next))
    (returned : fault ≠ .unsupportedAlignment) (body : List Step) :
    (Step.within field layout body).run allocator session =
      Session.report (.error fault, session) := by
  obtain ⟨ended, same⟩ := Session.perform_error failed
  have kept := (wf.enterElements_error_eq ended returned).1
  rw [kept] at same
  rw [Step.run, failed, same]

/-- After any calls since a start, for any body: as deep as its scopes are
nested, and wherever it fails, if it does. -/
theorem within_scoped {granted : Allocator} {memory : Memory}
    {root : Option Nat} {size capacity : Nat} {opened : Run}
    (started : start granted memory root size capacity = .ok opened)
    (calls : List Call) {session : Session}
    (current : session.flattener = (opened.calls calls).flattener)
    {field : Nat} {layout : Layout} {body : List Step}
    (balanced :
      (Step.within field layout body).balances allocator session = true) :
    Scoped allocator session field layout body
      ((Step.within field layout body).run allocator session) := by
  have sound := start_sound started
  have reached : opened.Reaches session.flattener := ⟨calls, current.symm⟩
  have wf := reached.wf sound
  have ends := step_ends sound (.within field layout body) reached balanced
  refine ⟨?_, ?_, ?_, ?_⟩
  · intro reply replied
    generalize (Step.within field layout body).run allocator session =
      outcome at ends replied
    cases ends with
    | done _ quiet nests => exact ⟨nests, quiet⟩
    | stopped stops only inside same =>
        cases stops.reply_eq.symm.trans replied
  · intro null slot found
    exact within_null wf null found body
  · intro fault failed
    generalize (Step.within field layout body).run allocator session =
      outcome at ends failed ⊢
    cases ends with
    | done replied => cases replied.symm.trans failed
    | @stopped entry next failing cause above stops only inside same =>
        cases stops.reply_eq.symm.trans failed
        exact ⟨only, failing, above, stops, inside, same.trans inside⟩
  · intro fault next failed returned
    exact within_missed wf failed returned body

def sampleSession : Session := ⟨sampleMemory, sampleOpened.flattener⟩

def sampleScope : Step :=
  .within 16 ⟨32, 8⟩ [.addString 80, .enterBlock 64 1 3, .clear 80, .leave]

/-- The field to be cleared is not inside the block, which is not left any
more: the block stays open, and the elements around it. -/
theorem within_scoped_sample :
    ∃ failing opened,
      Stops (fun _ => true) (.fieldOutOfBounds (-16) 3) sampleSession
        sampleScope failing
        (sampleScope.run (fun _ => true) sampleSession) ∧
      failing.flattener.frames =
        opened ++ sampleSession.flattener.frames ∧
      opened.length = 2 := by
  have failed : (sampleScope.run (fun _ => true) sampleSession).1.reply =
      .error (.fieldOutOfBounds (-16) 3) := by
    decide +kernel
  have three : (sampleScope.run (fun _ => true)
      sampleSession).2.flattener.frames.length = 3 := by
    decide +kernel
  obtain ⟨-, failing, opened, stops, inside, same⟩ :=
    (within_scoped sample_started [] (rfl : sampleSession.flattener = _)
      (by decide +kernel : sampleScope.balances (fun _ => true)
        sampleSession = true)).stopped _ failed
  refine ⟨failing, opened, stops, inside, ?_⟩
  have count := congrArg List.length same
  rw [List.length_append] at count
  have one : sampleSession.flattener.frames.length = 1 := rfl
  have both : opened.length + 1 = 3 := (one ▸ count).symm.trans three
  omega

end Run

end FlatGraph
