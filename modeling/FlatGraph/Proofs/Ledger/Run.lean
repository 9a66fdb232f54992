import FlatGraph.Proofs.Ledger.Script
import FlatGraph.Proofs.Ledger.Sound

/-!
Every run is described by its ledger: each call either fails and changes
neither the output nor the open structures, or does what the ledger records.
-/

namespace FlatGraph

theorem Flattener.WellFormed.action_error {before after : Flattener}
    (wf : before.WellFormed) {call : Call} {fault : Fault}
    (failed : call.action before = .error fault after) :
    after.WellFormed ∧ after.buffer.bytes = before.buffer.bytes ∧
      after.frames = before.frames := by
  obtain ⟨allocator, memory, operation⟩ := call
  cases operation with
  | enter field layout =>
      exact wf.enterElements_error (Action.map_eq_error_iff.mp failed)
  | enterArray field layout count =>
      have failed := Action.map_eq_error_iff.mp failed
      rw [enterArray_eq] at failed
      split at failed
      · exact wf.enterElements_error failed
      · cases failed
        exact ⟨wf, rfl, rfl⟩
  | enterBlock field align size =>
      exact wf.enterElements_error (Action.map_eq_error_iff.mp failed)
  | addString field =>
      cases wf.addString_error (Action.map_eq_error_iff.mp failed)
      exact ⟨wf, rfl, rfl⟩
  | clear field =>
      obtain ⟨rfl, -⟩ := clear_error wf (Action.map_eq_error_iff.mp failed)
      exact ⟨wf, rfl, rfl⟩
  | leave =>
      obtain ⟨rfl, -⟩ := leave_error (Action.map_eq_error_iff.mp failed)
      exact ⟨wf, rfl, rfl⟩

namespace Run

structure Sound (run : Run) : Prop where
  wf : run.flattener.WellFormed
  ledger : run.ledger.Sound
  frames_eq : run.flattener.frames = run.ledger.blocks.map Block.frame
  bytes_eq : run.flattener.buffer.bytes = run.ledger.output

theorem Sound.position_eq {run : Run} (sound : run.Sound) :
    run.flattener.position = run.ledger.length :=
  (congrArg List.length sound.bytes_eq).trans sound.ledger.output_length

theorem Sound.visit_sound {run : Run} (sound : run.Sound) {field : Nat}
    {slot : Option Flattener.Slot}
    (found : run.flattener.slotAt field = .ok slot) {target : Option Nat}
    {length : Nat} (longer : run.ledger.length ≤ length)
    (beyond : ∀ place ∈ target, run.ledger.length ≤ place ∧ place ≤ length)
    {visit : Visit} (member : visit ∈ run.ledger.visit field target) :
    visit ∈ run.ledger.visits ∨ visit.Sound length := by
  rcases Ledger.mem_visit member with older | ⟨block, opened, first, rfl⟩
  · exact .inl older
  · have placed := (sound.ledger.placed block
      (Ledger.mem_known_of_mem_blocks opened))
    have frames : ∃ rest, run.flattener.frames = block.frame :: rest := by
      obtain ⟨rest, blocks⟩ := List.head?_eq_some_iff.mp first
      exact ⟨rest.map Block.frame, by rw [sound.frames_eq, blocks]; rfl⟩
    obtain ⟨rest, frames⟩ := frames
    have covered : block.frame.covers field := by
      cases Flattener.slotted_of_eq found with
      | closed closed =>
          rw [closed] at frames
          cases frames
      | covered opened covered =>
          rw [frames] at opened
          cases opened
          exact covered
    refine .inr ⟨Nat.le_add_left _ _, Frame.slot_fits covered,
      placed.mono longer, ?_⟩
    intro place isTarget
    obtain ⟨behind, inside⟩ := beyond place isTarget
    exact ⟨Nat.le_trans placed.inside behind, inside⟩

theorem Sound.mark_eq {run : Run} (sound : run.Sound) {field : Nat}
    {slot : Option Flattener.Slot}
    (found : run.flattener.slotAt field = .ok slot) {target : Option Nat}
    (beyond : ∀ place ∈ target, run.ledger.length ≤ place) :
    Flattener.mark slot target run.flattener.buffer.bytes =
      overwrite (run.ledger.visit field target) (tile run.ledger.pieces) := by
  rw [sound.bytes_eq]
  have frames_eq := sound.frames_eq
  cases opened : run.ledger.blocks with
  | nil =>
      rw [opened] at frames_eq
      rw [Flattener.slotAt_nil field frames_eq] at found
      cases found
      simp only [Ledger.visit, opened]
      rfl
  | cons block rest =>
      rw [opened] at frames_eq
      cases slot with
      | none =>
          rw [Flattener.slotAt_eq_none found] at frames_eq
          cases frames_eq
      | some slot =>
          obtain ⟨frame, others, actual, covered, rfl⟩ :=
            Flattener.slotAt_eq_some found
          rw [frames_eq] at actual
          cases actual
          let visit : Visit :=
            ⟨field - block.source + block.start, block, target⟩
          have visits : run.ledger.visit field target =
              visit :: run.ledger.visits := by
            simp only [Ledger.visit, opened, visit]
          have placed := sound.ledger.placed block
            (Ledger.mem_known_of_mem_blocks (by
              rw [opened]
              exact List.mem_cons_self))
          have soundVisit : visit.Sound
              (max run.ledger.length (target.getD 0)) := by
            refine ⟨Nat.le_add_left _ _, Frame.slot_fits covered,
              placed.mono (Nat.le_max_left _ _), ?_⟩
            intro place isTarget
            refine ⟨Nat.le_trans placed.inside (beyond place isTarget), ?_⟩
            cases isTarget
            exact Nat.le_max_right _ _
          rw [visits, overwrite_cons, ← soundVisit.word_eq]
          rfl

/-- One visit, and some bytes at the end of the output: what every call that
succeeds comes to, except for leaving. -/
theorem Sound.advance {run : Run} (sound : run.Sound) {field : Nat}
    {slot : Option Flattener.Slot}
    (found : run.flattener.slotAt field = .ok slot) {target : Option Nat}
    {pieces : List Piece} {extra : Bytes}
    (tiled : tile pieces = tile run.ledger.pieces ++ extra)
    (beyond : ∀ place ∈ target, run.ledger.length ≤ place ∧
      place ≤ run.ledger.length + extra.length)
    {blocks : List Block} (fresh : Option Block)
    (known : ∀ block ∈ blocks,
      block ∈ run.ledger.blocks ∨ fresh = some block)
    (placed : ∀ block ∈ fresh, run.ledger.length ≤ block.start ∧
      block.Placed (run.ledger.length + extra.length))
    {after : Flattener} (wf : after.WellFormed)
    (frames_eq : after.frames = blocks.map Block.frame)
    (bytes_eq : after.buffer.bytes =
      Flattener.mark slot target run.flattener.buffer.bytes ++ extra) :
    Sound ⟨after, ⟨pieces, blocks, run.ledger.visit field target⟩⟩ := by
  have length : (tile pieces).length = run.ledger.length + extra.length := by
    rw [tiled, List.length_append]
    rfl
  have longer := Nat.le_add_right run.ledger.length extra.length
  have visits : ∀ visit ∈ run.ledger.visit field target,
      visit ∈ run.ledger.visits ∨
        visit.Sound (run.ledger.length + extra.length) :=
    fun visit => sound.visit_sound found longer beyond
  refine ⟨wf, ?_, frames_eq, ?_⟩
  · refine sound.ledger.extend (by
      change run.ledger.length ≤ (tile pieces).length
      rw [length]
      exact longer) fresh ?_ ?_ ?_
    · intro block member
      rcases List.mem_append.mp member with opened | visited
      · rcases known block opened with older | newer
        · exact .inl (Ledger.mem_known_of_mem_blocks older)
        · exact .inr newer
      · obtain ⟨visit, noted, rfl⟩ := List.mem_map.mp visited
        exact .inl (Ledger.block_mem_known_of_mem_visit noted)
    · intro block isFresh
      change _ ∧ block.Placed (tile pieces).length
      rw [length]
      exact placed block isFresh
    · intro visit member
      change _ ∨ visit.Sound (tile pieces).length
      rw [length]
      exact visits visit member
  · have inside : ∀ visit ∈ run.ledger.visit field target,
        visit.slot + wordSize ≤ (tile run.ledger.pieces).length := by
      intro visit member
      have known := Ledger.block_mem_known_of_mem_visit member
      have placedBlock := (sound.ledger.placed visit.block known).inside
      rcases visits visit member with older | newer
      · exact (sound.ledger.visits visit older).inside
      · exact Nat.le_trans newer.below placedBlock
    rw [bytes_eq, sound.mark_eq found fun place isTarget =>
      (beyond place isTarget).1]
    change _ = overwrite (run.ledger.visit field target) (tile pieces)
    rw [tiled, overwrite_append inside]

theorem Sound.visitNull {run : Run} (sound : run.Sound) {field : Nat}
    {slot : Option Flattener.Slot}
    (found : run.flattener.slotAt field = .ok slot) :
    Sound ⟨run.flattener.withBytes
        (Flattener.mark slot none run.flattener.buffer.bytes),
      run.ledger.visitNull field⟩ := by
  have tiled : tile run.ledger.pieces = tile run.ledger.pieces ++ ([] : Bytes) :=
    (List.append_nil _).symm
  refine sound.advance found tiled ?_ none ?_ ?_
    (sound.wf.marked (sound.wf.fits found) none) sound.frames_eq ?_
  · intro place isTarget
    cases isTarget
  · intro block member
    exact .inl member
  · intro block isFresh
    cases isFresh
  · rw [List.append_nil]
    rfl

theorem Sound.enterElements {run : Run} (sound : run.Sound)
    {allocator : Allocator} {memory : Memory} {field align size stride : Nat}
    (element : Option Nat) (strided : element.getD size = stride)
    (divided : ∀ stride ∈ element, stride ∣ size)
    {present : Bool} {after : Flattener}
    (ran : Flattener.enterElements allocator memory field align size stride
      run.flattener = .ok present after) :
    Sound ⟨after, run.ledger.enterBlock memory field align size element⟩ := by
  have wf := sound.wf.enterElements_ok ran
  cases sound.wf.entering ran with
  | null found null =>
      simp only [Ledger.enterBlock, if_pos null]
      exact sound.visitNull found
  | entered found here reserving supported left =>
      subst left
      have alignment : placementAlignment align = max leastAlignment align :=
        Nat.max_comm _ _
      have start : Flattener.blockStart run.flattener.position align =
          run.ledger.blockStart align := by
        rw [Flattener.blockStart, sound.position_eq, alignment]
        rfl
      have width := Flattener.padded_length run.flattener.position align
        (memory.load (memory.word field) size)
      rw [Memory.load_length, sound.position_eq, alignment] at width
      have tiled : tile (run.ledger.pieces ++
          [.aligned (max leastAlignment align)
            (memory.load (memory.word field) size)]) =
          tile run.ledger.pieces ++
            Flattener.padded run.flattener.position align
              (memory.load (memory.word field) size) := by
        rw [tile_append_singleton, Piece.add, Flattener.padded,
          sound.position_eq, alignment, List.append_assoc]
        rfl
      simp only [Ledger.enterBlock, if_neg here]
      refine sound.advance found tiled ?_
        (some ⟨memory.word field, run.ledger.blockStart align, size, element⟩)
        ?_ ?_ wf ?_ (by rw [start])
      · intro place isTarget
        have same := Option.some.inj isTarget
        rw [← same, sound.position_eq, width, Ledger.blockStart]
        omega
      · intro block member
        rcases List.mem_cons.mp member with rfl | older
        · exact .inr rfl
        · exact .inl older
      · intro block isFresh
        have same := Option.some.inj isFresh
        rw [← same, sound.position_eq, width]
        refine ⟨Nat.le_add_right _ _, ?_, divided⟩
        change run.ledger.blockStart align + size ≤ _
        rw [Ledger.blockStart]
        omega
      · rw [List.map_cons, sound.frames_eq, start, ← strided]
        rfl

theorem Sound.addString {run : Run} (sound : run.Sound)
    {allocator : Allocator} {memory : Memory} {field : Nat}
    {after : Flattener}
    (ran : Flattener.addString allocator memory field run.flattener =
      .ok () after) :
    Sound ⟨after, run.ledger.addString memory field⟩ := by
  have wf := sound.wf.addString_ok ran
  cases sound.wf.addingString ran with
  | null found null =>
      simp only [Ledger.addString, if_pos null]
      exact sound.visitNull found
  | @added slot text reserved after found here ends reserving left =>
      subst left
      simp only [Ledger.addString, if_neg here, ends]
      have tiled : tile (run.ledger.pieces ++ [.plain text]) =
          tile run.ledger.pieces ++ text := by
        rw [tile_append_singleton]
        rfl
      refine sound.advance found tiled ?_ none ?_ ?_ wf sound.frames_eq ?_
      · intro place isTarget
        cases isTarget
        exact ⟨Nat.le_refl _, Nat.le_add_right _ _⟩
      · intro block member
        exact .inl member
      · intro block isFresh
        cases isFresh
      · rw [sound.position_eq]

theorem Sound.clear {run : Run} (sound : run.Sound) {field : Nat}
    {after : Flattener}
    (ran : Flattener.clear field run.flattener = .ok () after) :
    Sound ⟨after, run.ledger.visitNull field⟩ := by
  obtain ⟨slot, found, rfl⟩ := Flattener.clear_ok sound.wf ran
  exact sound.visitNull found

theorem Sound.leave {run : Run} (sound : run.Sound) {after : Flattener}
    (ran : Flattener.leave run.flattener = .ok () after) :
    Sound ⟨after, { run.ledger with blocks := run.ledger.blocks.tail }⟩ := by
  have wf := sound.wf.leave_ok ran
  obtain ⟨frame, rest, opened, rfl⟩ := Flattener.leave_ok ran
  refine ⟨wf, ?_, ?_, sound.bytes_eq⟩
  · refine sound.ledger.extend (Nat.le_refl _) none ?_ ?_ ?_
    · intro block member
      rcases List.mem_append.mp member with older | visited
      · exact .inl (Ledger.mem_known_of_mem_blocks (List.mem_of_mem_tail older))
      · exact .inl (List.mem_append_right _ visited)
    · intro block isFresh
      cases isFresh
    · intro visit member
      exact .inl member
  · have frames_eq := sound.frames_eq
    rw [opened] at frames_eq
    rw [List.map_tail, ← frames_eq]
    rfl

theorem Sound.unchanged {run : Run} (sound : run.Sound) {after : Flattener}
    (wf : after.WellFormed) (frames : after.frames = run.flattener.frames)
    (bytes : after.buffer.bytes = run.flattener.buffer.bytes) :
    Sound ⟨after, run.ledger⟩ :=
  ⟨wf, sound.ledger, frames.trans sound.frames_eq, bytes.trans sound.bytes_eq⟩

theorem Sound.action_ok {run : Run} (sound : run.Sound) {call : Call}
    {reply : Reply} {after : Flattener}
    (ran : call.action run.flattener = .ok reply after) :
    Sound ⟨after, run.ledger.record call⟩ := by
  obtain ⟨allocator, memory, operation⟩ := call
  cases operation with
  | enter field layout =>
      obtain ⟨present, ran, -⟩ := Action.map_eq_ok_iff.mp ran
      have entered : Flattener.enterElements allocator memory field
          layout.align layout.size layout.size run.flattener =
            .ok present after := ran
      have recorded := sound.enterElements none rfl (by simp) entered
      simp only [Ledger.record]
      exact recorded
  | enterArray field layout count =>
      obtain ⟨present, ran, -⟩ := Action.map_eq_ok_iff.mp ran
      rw [Flattener.enterArray_eq] at ran
      split at ran
      · have recorded := sound.enterElements (some layout.size) rfl
          (by simp only [Option.mem_some_iff, forall_eq', Nat.dvd_mul_right])
          ran
        simp only [Ledger.record]
        exact recorded
      · cases ran
  | enterBlock field align size =>
      obtain ⟨present, ran, -⟩ := Action.map_eq_ok_iff.mp ran
      have entered : Flattener.enterElements allocator memory field align
          size size run.flattener = .ok present after := ran
      have recorded := sound.enterElements none rfl (by simp) entered
      simp only [Ledger.record]
      exact recorded
  | addString field =>
      obtain ⟨⟨⟩, ran, -⟩ := Action.map_eq_ok_iff.mp ran
      simp only [Ledger.record]
      exact sound.addString ran
  | clear field =>
      obtain ⟨⟨⟩, ran, -⟩ := Action.map_eq_ok_iff.mp ran
      simp only [Ledger.record]
      exact sound.clear ran
  | leave =>
      obtain ⟨⟨⟩, ran, -⟩ := Action.map_eq_ok_iff.mp ran
      simp only [Ledger.record]
      exact sound.leave ran

theorem Sound.action_error {run : Run} (sound : run.Sound) {call : Call}
    {fault : Fault} {after : Flattener}
    (failed : call.action run.flattener = .error fault after) :
    Sound ⟨after, run.ledger⟩ := by
  obtain ⟨wf, bytes, frames⟩ := sound.wf.action_error failed
  exact sound.unchanged wf frames bytes

theorem Sound.call {run : Run} (sound : run.Sound) (call : Call) :
    (run.call call).Sound := by
  unfold Run.call
  cases outcome : call.action run.flattener with
  | ok reply after => exact sound.action_ok outcome
  | error fault after => exact sound.action_error outcome

theorem Sound.calls {run : Run} (sound : run.Sound) (calls : List Call) :
    (run.calls calls).Sound := by
  induction calls generalizing run with
  | nil => exact sound
  | cons call calls ih => exact ih (sound.call call)

theorem Reaches.wf {run : Run} {flattener : Flattener}
    (reached : run.Reaches flattener) (sound : run.Sound) :
    flattener.WellFormed := by
  obtain ⟨calls, rfl⟩ := reached
  exact (sound.calls calls).wf

theorem start_sound {allocator : Allocator} {memory : Memory}
    {root : Option Nat} {size capacity : Nat} {run : Run}
    (started : start allocator memory root size capacity = .ok run) :
    run.Sound := by
  obtain ⟨flattener, opened, rfl⟩ := ok_of_map_ok started
  obtain ⟨wf, bytes_eq, frames_eq⟩ := Flattener.start_ok opened
  cases root with
  | none =>
      refine ⟨wf, ⟨?_, ?_, ?_⟩, frames_eq, bytes_eq⟩
      all_goals
        intro _ member
        cases member
  | some address =>
      refine ⟨wf, ⟨?_, ?_, ?_⟩, frames_eq, bytes_eq⟩
      · intro block member
        cases List.mem_singleton.mp member
        refine ⟨?_, by simp⟩
        change 0 + size ≤ (memory.load address size).length
        rw [Memory.load_length, Nat.zero_add]
      · intro visit member
        cases member
      · intro left leftMember right rightMember
        cases List.mem_singleton.mp leftMember
        cases List.mem_singleton.mp rightMember
        exact .inl rfl

end Run

end FlatGraph
