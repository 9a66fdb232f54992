import FlatGraph.Proofs.Buffer.Growth
import FlatGraph.Proofs.Checked.Reached

/-!
The capacity of a buffer through its history. It always holds the bytes and
never passes the limit; only trimming makes it smaller, and an edit for which
there is room already leaves it as it is.
-/

namespace FlatGraph

namespace Buffer

variable {allocator : Allocator} {buffer : Buffer}

/-- Whether an edit trims the buffer. The copy that takes the place of a buffer
is a buffer of its own, which begins as small as a trimmed one. -/
def Edit.trims : Edit → Bool
  | .shrinkToFit => true
  | .relocate => true
  | _ => false

inductive RoomKept (turn : Turn) (before : Buffer) : Outcome → Prop
  | kept {outcome : Outcome} (untrimming : turn.edit.trims = false)
      (grows : before.capacity ≤ outcome.after.capacity)
      (sufficient :
        (∀ need ∈ turn.edit.need? before.bytes, need ≤ before.capacity) →
          outcome.after.capacity = before.capacity) :
      RoomKept turn before outcome
  | trimmed {reply : Reply} {after : Buffer} (trimming : turn.edit.trims = true)
      (least : IsLeast {room | storageAlignment ∣ room ∧ before.length ≤ room}
        after.capacity)
      (emptied : before.bytes = [] → after.capacity = 0)
      (shrinks : after.capacity ≤ before.capacity) :
      RoomKept turn before ⟨.ok reply, after⟩
  /-- Memory may be refused even for less than there is. -/
  | untrimmed {fault : Fault} (trimming : turn.edit.trims = true) :
      RoomKept turn before ⟨.error fault, before⟩

theorem RoomKept.grows {turn : Turn} {outcome : Outcome}
    (kept : RoomKept turn buffer outcome)
    (untrimming : turn.edit.trims = false) :
    buffer.capacity ≤ outcome.after.capacity := by
  cases kept with
  | kept _ grows _ => exact grows
  | trimmed trimming least emptied shrinks =>
      exact absurd trimming (Bool.eq_false_iff.mp untrimming)
  | untrimmed trimming => exact Nat.le_refl _

structure Roomier (need : Nat) (before after : Buffer) : Prop where
  grows : before.capacity ≤ after.capacity
  sufficient : need ≤ before.capacity → after.capacity = before.capacity

theorem Roomier.of_capacity_eq {need : Nat} {before after : Buffer}
    (same : after.capacity = before.capacity) : Roomier need before after :=
  ⟨same.ge, fun _ => same⟩

theorem Growth.roomier {need : Nat} {action : Allocator → Action Unit}
    (growth : Growth need buffer action) (allocator : Allocator) :
    Roomier need buffer (Action.after (action allocator) buffer) := by
  rw [Action.after]
  rcases Nat.lt_or_ge buffer.capacity need with short | enough
  · rcases Nat.lt_or_ge maxCapacity need with large | fits
    · rw [(growth.overflows allocator).mpr large]
      exact .of_capacity_eq rfl
    · obtain ⟨capacity, -, above, -, asked⟩ := growth.asks short fits
      rw [asked allocator]
      cases allocator capacity with
      | true => exact ⟨Nat.le_of_lt above, fun enough => by omega⟩
      | false => exact .of_capacity_eq rfl
  · rw [(growth.unchanged allocator).mpr enough]
    exact .of_capacity_eq rfl

theorem Valid.append_roomier (valid : buffer.Valid) (bytes : Bytes) :
    Roomier (buffer.length + bytes.length) buffer
      (Action.after (append allocator bytes) buffer) := by
  have reserved := (valid.reserve_growth bytes.length).roomier allocator
  rw [Action.after] at reserved ⊢
  unfold append
  by_cases empty : bytes.isEmpty = true
  · rw [if_pos empty]
    exact .of_capacity_eq rfl
  · rw [if_neg empty]
    cases ran : reserve allocator bytes.length buffer with
    | ok _ roomy =>
        rw [ran] at reserved
        rw [Action.bind_of_ok ran]
        exact ⟨reserved.grows, reserved.sufficient⟩
    | error fault after =>
        rw [ran] at reserved
        rw [Action.bind_of_error ran]
        exact reserved

theorem Turn.after_eq {α : Type} {turn : Turn} {action : Action α}
    {reply : α → Reply}
    (runs : turn.edit.run turn.allocator = do return reply (← action)) :
    (turn.outcome buffer).after = Action.after action buffer := by
  rw [Action.after]
  cases ran : action buffer with
  | ok value after => rw [Turn.outcome_of_ok runs ran]
  | error fault after => rw [Turn.outcome_of_error runs ran]

section Turns

variable {turn : Turn} {outcome : Outcome}

theorem RoomKept.of_roomier {need : Nat} (untrimming : turn.edit.trims = false)
    (needs : turn.edit.need? buffer.bytes = some need)
    (roomier : Roomier need buffer outcome.after) :
    RoomKept turn buffer outcome :=
  .kept untrimming roomier.grows fun enough =>
    roomier.sufficient (enough need needs)

theorem RoomKept.of_capacity_eq (untrimming : turn.edit.trims = false)
    (same : outcome.after.capacity = buffer.capacity) :
    RoomKept turn buffer outcome :=
  .kept untrimming same.ge fun _ => same

theorem Valid.room_trimmed (valid : buffer.Valid)
    (trimming : turn.edit.trims = true) {reply : Reply} {after : Buffer}
    (rounded : after.capacity = roundUp buffer.length storageAlignment) :
    RoomKept turn buffer ⟨.ok reply, after⟩ := by
  have least := isLeast_roundUp (by decide : 0 < storageAlignment) buffer.length
  rw [← rounded] at least
  refine .trimmed trimming least (fun empty => ?_) ?_
  · have zero : buffer.length = 0 := congrArg List.length empty
    exact Nat.le_zero.mp (least.2 ⟨Nat.dvd_zero _, zero.le⟩)
  · exact least.2 ⟨valid.aligned, valid.length_le_capacity⟩

end Turns

theorem Valid.room_kept (valid : buffer.Valid) (turn : Turn) :
    RoomKept turn buffer (turn.outcome buffer) := by
  obtain ⟨allocator, leftover, edit⟩ := turn
  cases edit with
  | ensure capacity =>
      refine .of_roomier rfl rfl ?_
      rw [Turn.after_eq rfl]
      exact (valid.ensure_growth capacity).roomier allocator
  | reserve additional =>
      refine .of_roomier rfl rfl ?_
      rw [Turn.after_eq rfl]
      exact (valid.reserve_growth additional).roomier allocator
  | append bytes =>
      refine .of_roomier rfl rfl ?_
      rw [Turn.after_eq rfl]
      exact valid.append_roomier bytes
  | alignTo alignment =>
      by_cases divides : alignment ∣ storageAlignment
      · refine .of_roomier rfl (if_pos divides) ?_
        have padded : Roomier _ buffer (Action.after (append allocator
            (List.replicate (gap buffer.length alignment) 0)) buffer) :=
          valid.append_roomier _
        rw [List.length_replicate] at padded
        rw [Turn.after_eq rfl, Action.after_congr
          (alignTo_eq (supported_iff.mpr divides)), Action.after_discard]
        exact padded
      · refine .of_capacity_eq rfl ?_
        rw [Turn.after_eq rfl, Action.after,
          alignTo_unsupported (mt supported_iff.mp divides)]
  | writeWord position value =>
      refine .of_capacity_eq rfl ?_
      rw [Turn.after_eq rfl, Action.after]
      by_cases inside : position + wordSize ≤ buffer.length
      · rw [writeWord_of_inside inside]
      · rw [writeWord_of_outside inside]
  | shrinkToFit =>
      cases ran : shrinkToFit allocator buffer with
      | ok _ after =>
          rw [Turn.outcome_of_ok rfl ran]
          cases shrinkToFit_ok ran
          exact valid.room_trimmed rfl rfl
      | error fault after =>
          obtain ⟨rfl, -⟩ := shrinkToFit_refused ran
          rw [Turn.outcome_of_error rfl ran]
          exact .untrimmed rfl
  | relocate =>
      cases made : ofBytes allocator buffer.bytes with
      | ok copy =>
          have ran : relocate allocator buffer = .ok () copy := by
            rw [relocate, made]
          rw [Turn.outcome_of_ok rfl ran]
          exact valid.room_trimmed rfl (ofBytes_ok made).2.2
      | error fault =>
          have failed : relocate allocator buffer = .error fault buffer := by
            rw [relocate, made]
          rw [Turn.outcome_of_error rfl failed]
          exact .untrimmed rfl
  | readWord position => exact .of_capacity_eq rfl rfl
  | setByte position byte => exact .of_capacity_eq rfl rfl
  | isEmpty => exact .of_capacity_eq rfl rfl
  | contents => exact .of_capacity_eq rfl rfl
  | debug => exact .of_capacity_eq rfl rfl
  | startAligned => exact .of_capacity_eq rfl rfl
  | view query => exact .of_capacity_eq rfl rfl

def afterTurns (turns : List Turn) (buffer : Buffer) : Buffer :=
  turns.foldl (fun buffer turn => (turn.outcome buffer).after) buffer

theorem Reached.capacity_le_after (reached : buffer.Reached) {turns : List Turn}
    (untrimmed : ∀ turn ∈ turns, turn.edit.trims = false) :
    buffer.capacity ≤ (afterTurns turns buffer).capacity := by
  induction turns generalizing buffer with
  | nil => exact Nat.le_refl _
  | cons turn turns ih =>
      have first := (reached.valid.room_kept turn).grows
        (untrimmed turn List.mem_cons_self)
      have rest := ih (reached.edited turn) fun other member =>
        untrimmed other (List.mem_cons_of_mem _ member)
      exact Nat.le_trans first rest

/-- What holds of the capacity of a buffer, and of every edit that may come
next. -/
structure CapacityKept (buffer : Buffer) : Prop where
  valid : buffer.Valid
  edited : ∀ turn : Turn, RoomKept turn buffer (turn.outcome buffer)
  lasting : ∀ turns : List Turn,
    (∀ turn ∈ turns, turn.edit.trims = false) →
      buffer.capacity ≤ (afterTurns turns buffer).capacity

theorem capacity_kept (reached : buffer.Reached) : CapacityKept buffer :=
  ⟨reached.valid, reached.valid.room_kept,
    fun _ untrimmed => reached.capacity_le_after untrimmed⟩

def sampleTurn (edit : Edit) : Turn :=
  ⟨fun capacity => 32 ≤ capacity, fun _ => 0, edit⟩

theorem capacity_kept_sample :
    Reached ⟨[7, 7, 7], 64⟩ ∧
      (∀ turn ∈ [sampleTurn (.reserve 62), sampleTurn (.append [8])],
        turn.edit.trims = false) ∧
      64 ≤ (afterTurns [sampleTurn (.reserve 62), sampleTurn (.append [8])]
        ⟨[7, 7, 7], 64⟩).capacity := by
  have granted : (Origin.withCapacity 50).make (fun _ => true) = .ok ⟨[], 64⟩ :=
    rfl
  have reached : Reached ⟨[7, 7, 7], 64⟩ :=
    (Reached.made granted).edited (sampleTurn (.append [7, 7, 7]))
  have untrimming : ∀ turn ∈ [sampleTurn (.reserve 62), sampleTurn (.append [8])],
      turn.edit.trims = false := by simp [sampleTurn, Edit.trims]
  exact ⟨reached, untrimming, (capacity_kept reached).lasting _ untrimming⟩

end Buffer

end FlatGraph
