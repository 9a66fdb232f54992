import FlatGraph.Buffer.Basic
import FlatGraph.Proofs.Action
import FlatGraph.Proofs.Align

/-!
What each operation of a buffer does when it succeeds, that it changes
nothing when it fails, and that every buffer stays valid.
-/

namespace FlatGraph

namespace Buffer

theorem Valid.of_length_eq {before after : Buffer} (valid : before.Valid)
    (same : after.length = before.length)
    (kept : after.capacity = before.capacity) : after.Valid := by
  refine ⟨?_, ?_, ?_⟩
  · rw [same, kept]
    exact valid.length_le_capacity
  · rw [kept]
    exact valid.capacity_le_max
  · rw [kept]
    exact valid.aligned

theorem Valid.length_lt_wordLimit {buffer : Buffer} (valid : buffer.Valid) :
    buffer.length < wordLimit := by
  have inside := valid.length_le_capacity
  have bounded := valid.capacity_le_max
  unfold maxCapacity at bounded
  unfold wordLimit
  omega

theorem grownCapacity?_bounds {need capacity : Nat}
    (grown : grownCapacity? need = some capacity) :
    need ≤ capacity ∧ capacity ≤ maxCapacity ∧
      storageAlignment ∣ capacity := by
  unfold grownCapacity? at grown
  split at grown
  · rename_i small
    cases grown
    have enough := le_ceilPowerOfTwo need
    rw [one_shiftLeft] at small
    have bounded := ceilPowerOfTwo_le small
    refine ⟨Nat.le_trans enough (Nat.le_max_left _ _), ?_, ?_⟩
    · exact Nat.max_le.mpr ⟨by unfold maxCapacity; omega, by decide⟩
    · have power := isPowerOfTwo_max (isPowerOfTwo_ceilPowerOfTwo need)
        isPowerOfTwo_storageAlignment
      exact isPowerOfTwo_dvd isPowerOfTwo_storageAlignment power
        (Nat.le_max_right _ _)
  · split at grown
    · rename_i fits
      cases grown
      exact ⟨fits, Nat.le_refl _, by decide⟩
    · cases grown

theorem grownCapacity?_eq_none {need : Nat}
    (overflown : grownCapacity? need = none) : maxCapacity < need := by
  unfold grownCapacity? at overflown
  split at overflown
  · cases overflown
  · split at overflown
    · cases overflown
    · omega

theorem setCapacity_ok {allocator : Allocator} {capacity : Nat}
    {buffer after : Buffer}
    (ran : setCapacity allocator capacity buffer = .ok () after) :
    after = { buffer with capacity } := by
  unfold setCapacity at ran
  split at ran <;> cases ran
  rfl

theorem setCapacity_error {allocator : Allocator} {capacity : Nat}
    {buffer after : Buffer} {fault : Fault}
    (failed : setCapacity allocator capacity buffer = .error fault after) :
    after = buffer := by
  unfold setCapacity at failed
  split at failed <;> cases failed
  rfl

theorem grow_ok {allocator : Allocator} {need : Nat} {buffer after : Buffer}
    (ran : grow allocator need buffer = .ok () after) :
    ∃ capacity, grownCapacity? need = some capacity ∧
      after = { buffer with capacity } := by
  unfold grow at ran
  cases grown : grownCapacity? need with
  | none =>
      rw [grown] at ran
      cases ran
  | some capacity =>
      rw [grown] at ran
      exact ⟨capacity, rfl, setCapacity_ok ran⟩

theorem grow_error {allocator : Allocator} {need : Nat}
    {buffer after : Buffer} {fault : Fault}
    (failed : grow allocator need buffer = .error fault after) :
    after = buffer := by
  unfold grow at failed
  cases grown : grownCapacity? need with
  | none =>
      rw [grown] at failed
      cases failed
      rfl
  | some capacity =>
      rw [grown] at failed
      exact setCapacity_error failed

/-- Why so many bytes are not granted: there is no capacity that holds them,
or the memory for one that does is denied. -/
inductive Refused (allocator : Allocator) (need : Nat) : Fault → Prop
  | overflow : maxCapacity < need → Refused allocator need .capacityOverflow
  | denied {capacity : Nat} : need ≤ capacity →
      allocator capacity = false →
        Refused allocator need (.allocationRefused capacity)

theorem setCapacity_refused {allocator : Allocator} {need capacity : Nat}
    {buffer after : Buffer} {fault : Fault} (enough : need ≤ capacity)
    (failed : setCapacity allocator capacity buffer = .error fault after) :
    Refused allocator need fault := by
  unfold setCapacity at failed
  split at failed
  · cases failed
  · rename_i denied
    cases failed
    exact .denied enough (Bool.eq_false_iff.mpr fun granted =>
      denied (.inr granted))

theorem grow_refused {allocator : Allocator} {need : Nat}
    {buffer after : Buffer} {fault : Fault}
    (failed : grow allocator need buffer = .error fault after) :
    Refused allocator need fault := by
  unfold grow at failed
  cases grown : grownCapacity? need with
  | none =>
      rw [grown] at failed
      cases failed
      exact .overflow (grownCapacity?_eq_none grown)
  | some capacity =>
      rw [grown] at failed
      exact setCapacity_refused (grownCapacity?_bounds grown).1 failed

theorem ensure_eq (allocator : Allocator) (capacity : Nat)
    (buffer : Buffer) :
    ensure allocator capacity buffer =
      if buffer.capacity < capacity then grow allocator capacity buffer
      else .ok () buffer := by
  change (if buffer.capacity < capacity then grow allocator capacity
    else pure ()) buffer = _
  split <;> rfl

theorem ensure_ok {allocator : Allocator} {capacity : Nat}
    {buffer after : Buffer} (valid : buffer.Valid)
    (ran : ensure allocator capacity buffer = .ok () after) :
    after.bytes = buffer.bytes ∧ capacity ≤ after.capacity ∧
      after.Valid := by
  have inside := valid.length_le_capacity
  rw [ensure_eq] at ran
  split at ran
  · obtain ⟨roomy, grown, rfl⟩ := grow_ok ran
    obtain ⟨enough, bounded, aligned⟩ := grownCapacity?_bounds grown
    refine ⟨rfl, enough, ?_, bounded, aligned⟩
    change buffer.length ≤ roomy
    omega
  · rename_i large
    cases ran
    exact ⟨rfl, Nat.not_lt.mp large, valid⟩

theorem ensure_refused {allocator : Allocator} {capacity : Nat}
    {buffer after : Buffer} {fault : Fault}
    (failed : ensure allocator capacity buffer = .error fault after) :
    after = buffer ∧ Refused allocator capacity fault := by
  rw [ensure_eq] at failed
  split at failed
  · exact ⟨grow_error failed, grow_refused failed⟩
  · cases failed

theorem shrinkToFit_eq (allocator : Allocator) (buffer : Buffer) :
    shrinkToFit allocator buffer =
      if roundUp buffer.length storageAlignment = buffer.capacity then
        .ok () buffer
      else
        setCapacity allocator (roundUp buffer.length storageAlignment)
          buffer := by
  change (if roundUp buffer.length storageAlignment = buffer.capacity then
    pure () else
      setCapacity allocator (roundUp buffer.length storageAlignment)) buffer = _
  split <;> rfl

theorem shrinkToFit_ok {allocator : Allocator} {buffer after : Buffer}
    (ran : shrinkToFit allocator buffer = .ok () after) :
    after = ⟨buffer.bytes, roundUp buffer.length storageAlignment⟩ := by
  rw [shrinkToFit_eq] at ran
  split at ran
  · rename_i fits
    cases ran
    rw [fits]
  · exact setCapacity_ok ran

theorem Valid.shrunk {allocator : Allocator} {buffer after : Buffer}
    (valid : buffer.Valid)
    (ran : shrinkToFit allocator buffer = .ok () after) : after.Valid := by
  have positive : 0 < storageAlignment := by decide
  have least := roundUp_le positive valid.aligned valid.length_le_capacity
  cases shrinkToFit_ok ran
  exact ⟨le_roundUp positive _, Nat.le_trans least valid.capacity_le_max,
    dvd_roundUp _ _⟩

theorem shrinkToFit_refused {allocator : Allocator} {buffer after : Buffer}
    {fault : Fault}
    (failed : shrinkToFit allocator buffer = .error fault after) :
    after = buffer ∧ Refused allocator buffer.length fault := by
  rw [shrinkToFit_eq] at failed
  split at failed
  · cases failed
  · exact ⟨setCapacity_error failed,
      setCapacity_refused (le_roundUp (by decide) _) failed⟩

structure Reserved (additional : Nat) (before after : Buffer) : Prop where
  bytes_eq : after.bytes = before.bytes
  room : additional ≤ after.capacity - after.length
  valid : before.Valid → after.Valid

theorem Reserved.length_eq {additional : Nat} {before after : Buffer}
    (reserved : Reserved additional before after) :
    after.length = before.length :=
  congrArg List.length reserved.bytes_eq

theorem reserve_eq (allocator : Allocator) (additional : Nat)
    (buffer : Buffer) :
    reserve allocator additional buffer =
      if buffer.capacity - buffer.length < additional then
        grow allocator (buffer.length + additional) buffer
      else .ok () buffer := by
  change (if buffer.capacity - buffer.length < additional then
    grow allocator (buffer.length + additional) else pure ()) buffer = _
  split <;> rfl

theorem reserve_of_room {allocator : Allocator} {additional : Nat}
    {buffer : Buffer} (room : additional ≤ buffer.capacity - buffer.length) :
    reserve allocator additional buffer = .ok () buffer := by
  rw [reserve_eq, if_neg (Nat.not_lt.mpr room)]

theorem reserve_ok {allocator : Allocator} {additional : Nat}
    {buffer after : Buffer}
    (ran : reserve allocator additional buffer = .ok () after) :
    Reserved additional buffer after := by
  rw [reserve_eq] at ran
  split at ran
  · obtain ⟨capacity, grown, rfl⟩ := grow_ok ran
    obtain ⟨enough, bounded, aligned⟩ := grownCapacity?_bounds grown
    refine ⟨rfl, ?_, ?_⟩
    · exact Nat.le_sub_of_add_le (by rw [Nat.add_comm]; exact enough)
    · intro _
      exact ⟨Nat.le_trans (Nat.le_add_right _ _) enough, bounded, aligned⟩
  · rename_i room
    cases ran
    exact ⟨rfl, Nat.not_lt.mp room, id⟩

theorem reserve_error {allocator : Allocator} {additional : Nat}
    {buffer after : Buffer} {fault : Fault}
    (failed : reserve allocator additional buffer = .error fault after) :
    after = buffer := by
  rw [reserve_eq] at failed
  split at failed
  · exact grow_error failed
  · cases failed

theorem reserve_refused {allocator : Allocator} {additional : Nat}
    {buffer after : Buffer} {fault : Fault}
    (failed : reserve allocator additional buffer = .error fault after) :
    Refused allocator (buffer.length + additional) fault := by
  rw [reserve_eq] at failed
  split at failed
  · exact grow_refused failed
  · cases failed

/-- Whether there comes to be room, and how much of it, depends on nothing
but the length and the capacity. -/
theorem reserve_alike (allocator : Allocator) (additional : Nat)
    {left right : Buffer} (lengths : left.length = right.length)
    (capacities : left.capacity = right.capacity) :
    (∃ fault, reserve allocator additional left = .error fault left ∧
      reserve allocator additional right = .error fault right) ∨
    ∃ capacity,
      reserve allocator additional left = .ok () { left with capacity } ∧
      reserve allocator additional right = .ok () { right with capacity } := by
  rw [reserve_eq, reserve_eq, lengths, capacities]
  split
  · unfold grow
    cases grownCapacity? (right.length + additional) with
    | none => exact .inl ⟨.capacityOverflow, rfl, rfl⟩
    | some capacity =>
        simp only [setCapacity]
        split
        · exact .inr ⟨capacity, rfl, rfl⟩
        · exact .inl ⟨.allocationRefused capacity, rfl, rfl⟩
  · refine .inr ⟨right.capacity, ?_, rfl⟩
    rw [← capacities]

structure Appended (bytes : Bytes) (before after : Buffer) : Prop where
  bytes_eq : after.bytes = before.bytes ++ bytes
  valid : before.Valid → after.Valid

theorem append_of_room {allocator : Allocator} {bytes : Bytes}
    {buffer : Buffer}
    (room : bytes.length ≤ buffer.capacity - buffer.length) :
    append allocator bytes buffer =
      .ok buffer.length { buffer with bytes := buffer.bytes ++ bytes } := by
  unfold append
  by_cases empty : bytes.isEmpty = true
  · rw [if_pos empty]
    rfl
  · rw [if_neg empty]
    exact Action.bind_of_ok (reserve_of_room room)

theorem append_ok {allocator : Allocator} {bytes : Bytes}
    {buffer after : Buffer} {position : Nat}
    (ran : append allocator bytes buffer = .ok position after) :
    position = buffer.length ∧ Appended bytes buffer after := by
  unfold append at ran
  by_cases empty : bytes.isEmpty = true
  · rw [if_pos empty] at ran
    cases ran
    refine ⟨rfl, rfl, fun valid => valid.of_length_eq ?_ rfl⟩
    rw [List.isEmpty_iff.mp empty, List.append_nil]
  · rw [if_neg empty] at ran
    obtain ⟨⟨⟩, reserved, reserving, appending⟩ :=
      Action.bind_eq_ok_iff.mp ran
    have reservation := reserve_ok reserving
    cases appending
    refine ⟨reservation.length_eq, ?_, ?_⟩
    · exact congrArg (· ++ bytes) reservation.bytes_eq
    · intro valid
      have later := reservation.valid valid
      have inside := later.length_le_capacity
      have room := reservation.room
      refine ⟨?_, later.capacity_le_max, later.aligned⟩
      simp only [length, List.length_append] at inside room ⊢
      omega

theorem append_refused {allocator : Allocator} {bytes : Bytes}
    {buffer after : Buffer} {fault : Fault}
    (failed : append allocator bytes buffer = .error fault after) :
    after = buffer ∧
      Refused allocator (buffer.length + bytes.length) fault := by
  unfold append at failed
  by_cases empty : bytes.isEmpty = true
  · rw [if_pos empty] at failed
    cases failed
  · rw [if_neg empty] at failed
    rcases Action.bind_eq_error_iff.mp failed with
      refused | ⟨⟨⟩, reserved, -, appending⟩
    · exact ⟨reserve_error refused, reserve_refused refused⟩
    · cases appending

/-- Of the bytes that are appended only their number matters to the room. -/
theorem append_alike (allocator : Allocator) {left right : Bytes}
    (lengths : left.length = right.length) (buffer : Buffer) :
    (∃ fault, append allocator left buffer = .error fault buffer ∧
      append allocator right buffer = .error fault buffer) ∨
    ∃ capacity,
      append allocator left buffer =
        .ok buffer.length ⟨buffer.bytes ++ left, capacity⟩ ∧
      append allocator right buffer =
        .ok buffer.length ⟨buffer.bytes ++ right, capacity⟩ := by
  have empties : left.isEmpty = right.isEmpty := by
    rw [Bool.eq_iff_iff, List.isEmpty_iff_length_eq_zero,
      List.isEmpty_iff_length_eq_zero, lengths]
  unfold append
  rw [lengths, empties]
  cases right.isEmpty with
  | true => exact .inr ⟨buffer.capacity, rfl, rfl⟩
  | false =>
      rcases reserve_alike allocator right.length (rfl : buffer.length = _)
        rfl with ⟨fault, full, -⟩ | ⟨capacity, room, -⟩
      · exact .inl ⟨fault, Action.bind_of_error full,
          Action.bind_of_error full⟩
      · exact .inr ⟨capacity, Action.bind_of_ok room, Action.bind_of_ok room⟩

theorem alignTo_eq {allocator : Allocator} {alignment : Nat}
    {buffer : Buffer} (supported : isPowerOfTwo alignment ∧
      alignment ≤ storageAlignment) :
    alignTo allocator alignment buffer =
      (discard (append allocator
        (List.replicate (gap buffer.length alignment) 0)) : Action Unit)
          buffer := by
  have positive := isPowerOfTwo_pos supported.1
  have padding : roundUp buffer.length alignment - buffer.length =
      gap buffer.length alignment := by
    rw [roundUp_eq_add_gap positive]
    omega
  unfold alignTo
  rw [if_pos supported, ← padding]
  rfl

theorem alignTo_of_room {allocator : Allocator} {alignment : Nat}
    {buffer : Buffer} (supported : isPowerOfTwo alignment ∧
      alignment ≤ storageAlignment)
    (room : gap buffer.length alignment ≤ buffer.capacity - buffer.length) :
    alignTo allocator alignment buffer =
      .ok () { buffer with
        bytes := buffer.bytes ++
          List.replicate (gap buffer.length alignment) 0 } := by
  have appended : append allocator
      (List.replicate (gap buffer.length alignment) 0) buffer = _ :=
    append_of_room (by rw [List.length_replicate]; exact room)
  rw [alignTo_eq supported]
  exact Action.bind_of_ok appended

theorem alignTo_unsupported {allocator : Allocator} {alignment : Nat}
    {buffer : Buffer} (unsupported : ¬ (isPowerOfTwo alignment ∧
      alignment ≤ storageAlignment)) :
    alignTo allocator alignment buffer =
      .error .unsupportedAlignment buffer := by
  unfold alignTo
  rw [if_neg unsupported]
  rfl

theorem withCapacity_ok {allocator : Allocator} {capacity : Nat}
    {buffer : Buffer} (created : withCapacity allocator capacity = .ok buffer) :
    buffer.Valid ∧ buffer.bytes = [] ∧
      buffer.capacity = roundUp capacity storageAlignment := by
  unfold withCapacity at created
  split at created
  · cases created
  · rename_i small
    cases setting : setCapacity allocator (roundUp capacity storageAlignment)
        empty with
    | error fault after =>
        rw [setting] at created
        cases created
    | ok _ after =>
        rw [setting] at created
        cases created
        cases setCapacity_ok setting
        have bounded := roundUp_le_maxCapacity storageAlignment_supported
          (Nat.le_of_not_lt small)
        exact ⟨⟨Nat.zero_le _, bounded, dvd_roundUp _ _⟩, rfl, rfl⟩

theorem withCapacity_refused {allocator : Allocator} {capacity : Nat}
    {fault : Fault}
    (failed : withCapacity allocator capacity = .error fault) :
    Refused allocator capacity fault := by
  unfold withCapacity at failed
  split at failed
  · rename_i large
    cases failed
    exact .overflow large
  · cases setting : setCapacity allocator (roundUp capacity storageAlignment)
        empty with
    | ok _ buffer =>
        rw [setting] at failed
        cases failed
    | error cause buffer =>
        rw [setting] at failed
        cases failed
        exact setCapacity_refused (le_roundUp (by decide) capacity) setting

/-- What fits into the room that is made is appended without asking for
more. -/
theorem append_of_created {allocator : Allocator} {need : Nat} {bytes : Bytes}
    {blank : Buffer} (created : withCapacity allocator need = .ok blank)
    (fits : bytes.length ≤ need) :
    append allocator bytes blank = .ok 0 ⟨bytes, blank.capacity⟩ := by
  obtain ⟨contents, capacity⟩ := blank
  obtain ⟨-, rfl, rounded⟩ := withCapacity_ok created
  have enough := le_roundUp (by decide : 0 < storageAlignment) need
  rw [← rounded] at enough
  exact append_of_room (Nat.le_trans fits enough)

theorem ofBytes_eq (allocator : Allocator) (bytes : Bytes) :
    ofBytes allocator bytes =
      (withCapacity allocator bytes.length).map
        fun blank => ⟨bytes, blank.capacity⟩ := by
  unfold ofBytes
  cases created : withCapacity allocator bytes.length with
  | error fault => rfl
  | ok blank =>
      simp only [Except.bind, Except.map,
        append_of_created created (Nat.le_refl _)]

theorem ofBytes_ok {allocator : Allocator} {bytes : Bytes} {buffer : Buffer}
    (made : ofBytes allocator bytes = .ok buffer) :
    buffer.Valid ∧ buffer.bytes = bytes ∧
      buffer.capacity = roundUp bytes.length storageAlignment := by
  rw [ofBytes_eq] at made
  obtain ⟨blank, created, rfl⟩ := ok_of_map_ok made
  obtain ⟨valid, -, rounded⟩ := withCapacity_ok created
  refine ⟨⟨?_, valid.capacity_le_max, valid.aligned⟩, rfl, rounded⟩
  change bytes.length ≤ blank.capacity
  rw [rounded]
  exact le_roundUp (by decide) bytes.length

theorem ofBytes_refused {allocator : Allocator} {bytes : Bytes}
    {fault : Fault} (failed : ofBytes allocator bytes = .error fault) :
    Refused allocator bytes.length fault := by
  rw [ofBytes_eq] at failed
  exact withCapacity_refused (error_of_map_error failed)

theorem writeWord_of_inside {position value : Nat} {buffer : Buffer}
    (inside : position + wordSize ≤ buffer.length) :
    writeWord position value buffer =
      .ok () { buffer with
        bytes := patch buffer.bytes position (encodeWord value) } := by
  have there : buffer.hasWordAt position = true := decide_eq_true inside
  change (if buffer.hasWordAt position = true then _ else _ :
    Action Unit) buffer = _
  rw [if_pos there]
  rfl

theorem writeWord_of_outside {position value : Nat} {buffer : Buffer}
    (outside : ¬ position + wordSize ≤ buffer.length) :
    writeWord position value buffer =
      .error (.positionOutOfBounds position buffer.length) buffer := by
  have absent : ¬ buffer.hasWordAt position = true :=
    fun there => outside (of_decide_eq_true there)
  change (if buffer.hasWordAt position = true then _ else _ :
    Action Unit) buffer = _
  rw [if_neg absent]
  rfl

end Buffer

end FlatGraph
