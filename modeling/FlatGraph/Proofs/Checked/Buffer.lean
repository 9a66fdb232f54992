import FlatGraph.Proofs.Buffer.Cells
import FlatGraph.Proofs.Checked.Basic

/-!
The operations of a buffer by checked arithmetic, each with the sums and
differences that the machine forms for it. On a valid buffer none of them
wraps.
-/

namespace FlatGraph

namespace Checked

def grow (allocator : Allocator) (additional : Nat) : Action Buffer Unit := do
  let buffer ← get
  let need ← orOverflow (buffer.length + additional)
  if need ≤ 1 <<< 62 then
    let power ← nextPowerOfTwo need
    lift (Buffer.setCapacity allocator (max power storageAlignment))
  else if need ≤ maxCapacity then
    lift (Buffer.setCapacity allocator maxCapacity)
  else throw (.fault .capacityOverflow)

def ensure (allocator : Allocator) (capacity : Nat) : Action Buffer Unit := do
  let buffer ← get
  if buffer.capacity < capacity then
    let additional ← sub capacity buffer.length
    grow allocator additional

def reserve (allocator : Allocator) (additional : Nat) :
    Action Buffer Unit := do
  let buffer ← get
  let room ← sub buffer.capacity buffer.length
  if room < additional then grow allocator additional

def append (allocator : Allocator) (bytes : Bytes) : Action Buffer Nat := do
  unless bytes.isEmpty do reserve allocator bytes.length
  let buffer ← get
  discard (add buffer.length bytes.length)
  set { buffer with bytes := buffer.bytes ++ bytes }
  return buffer.length

def alignTo (allocator : Allocator) (alignment : Nat) :
    Action Buffer Unit := do
  unless isPowerOfTwo alignment ∧ alignment ≤ storageAlignment do
    throw (.fault .unsupportedAlignment)
  let buffer ← get
  let target ← roundUp buffer.length alignment
  let padding ← sub target buffer.length
  discard (append allocator (List.replicate padding 0))

def hasWordAt (buffer : Buffer) (position : Nat) : Bool :=
  if position + wordSize < wordLimit then
    position + wordSize ≤ buffer.length
  else false

def writeWord (position value : Nat) : Action Buffer Unit := do
  let buffer ← get
  if hasWordAt buffer position then
    set { buffer with
      bytes := Buffer.patch buffer.bytes position (encodeWord value) }
  else throw (.fault (.positionOutOfBounds position buffer.length))

def readWord? (buffer : Buffer) (position : Nat) : Option Nat :=
  if hasWordAt buffer position then
    some (decodeLittle ((buffer.bytes.drop position).take wordSize))
  else none

def shrinkToFit (allocator : Allocator) : Action Buffer Unit := do
  let buffer ← get
  let capacity ← roundUp buffer.length storageAlignment
  unless capacity = buffer.capacity do
    lift (Buffer.setCapacity allocator capacity)

def withCapacity (allocator : Allocator) (capacity : Nat) :
    Action Buffer Unit := do
  if maxCapacity < capacity then throw (.fault .capacityOverflow)
  let rounded ← roundUp capacity storageAlignment
  lift (Buffer.setCapacity allocator rounded)

def ofBytes (allocator : Allocator) (bytes : Bytes) : Action Buffer Unit := do
  withCapacity allocator bytes.length
  discard (append allocator bytes)

def relocate (allocator : Allocator) : Action Buffer Unit := fun buffer =>
  match made (ofBytes allocator buffer.bytes) Buffer.empty with
  | .ok copy => .ok () copy
  | .error halt => .error halt buffer

def edit (allocator : Allocator) : Buffer.Edit → Action Buffer Buffer.Reply
  | .ensure capacity => do ensure allocator capacity; return .done
  | .reserve additional => do reserve allocator additional; return .done
  | .alignTo alignment => do alignTo allocator alignment; return .done
  | .append bytes => return .position (← append allocator bytes)
  | .writeWord position value => do
      writeWord position value
      return .done
  | .readWord position => return .word (readWord? (← get) position)
  | .shrinkToFit => do shrinkToFit allocator; return .done
  | .relocate => do relocate allocator; return .done
  | other => lift (other.run allocator)

def make (allocator : Allocator) : Buffer.Origin → Except Halt Buffer
  | .empty => .ok Buffer.empty
  | .withCapacity capacity =>
      made (withCapacity allocator capacity) Buffer.empty
  | .ofBytes bytes => made (ofBytes allocator bytes) Buffer.empty

section Exact

variable {σ α : Type} {buffer : Buffer} (allocator : Allocator)

/-- What no word holds passes the limit of every capacity. -/
theorem grownCapacity?_of_large {need : Nat} (large : ¬ need < wordLimit) :
    Buffer.grownCapacity? need = none := by
  unfold wordLimit at large
  unfold Buffer.grownCapacity? maxCapacity
  rw [if_neg (by omega), if_neg (by omega)]

theorem grow_exact {additional need : Nat}
    (whole : buffer.length + additional = need) :
    Exact (grow allocator additional) (Buffer.grow allocator need) buffer := by
  apply Exact.of_same
  rw [grow, Action.get_bind, whole]
  by_cases fits : need < wordLimit
  · rw [orOverflow_eq fits, pure_bind]
    unfold Buffer.grow Buffer.grownCapacity?
    split
    · rename_i small
      rw [one_shiftLeft] at small
      rw [nextPowerOfTwo_eq small]
      rfl
    · split
      · rfl
      · rfl
  · rw [orOverflow, if_neg fits, Buffer.grow, grownCapacity?_of_large fits]
    rfl

theorem ensure_exact (valid : buffer.Valid) (capacity : Nat) :
    Exact (ensure allocator capacity) (Buffer.ensure allocator capacity)
      buffer := by
  have inside := valid.length_le_capacity
  unfold ensure Buffer.ensure
  refine .get ?_
  split
  · rw [sub_eq (by omega), pure_bind]
    exact grow_exact allocator (by omega)
  · exact .pure _ _

theorem reserve_exact (valid : buffer.Valid) (additional : Nat) :
    Exact (reserve allocator additional) (Buffer.reserve allocator additional)
      buffer := by
  unfold reserve Buffer.reserve
  refine .get ?_
  rw [sub_eq valid.length_le_capacity, pure_bind]
  split
  · exact grow_exact allocator rfl
  · exact .pure _ _

theorem append_exact (valid : buffer.Valid) (bytes : Bytes) :
    Exact (append allocator bytes) (Buffer.append allocator bytes)
      buffer := by
  unfold append Buffer.append
  by_cases empty : bytes.isEmpty = true
  · have small := valid.length_lt_wordLimit
    have none : bytes.length = 0 := List.isEmpty_iff_length_eq_zero.mp empty
    rw [if_pos empty, if_pos empty]
    refine .get ?_
    rw [add_eq (by omega)]
    exact .of_same rfl
  · rw [if_neg empty, if_neg empty]
    refine (reserve_exact allocator valid bytes.length).bind ?_
    intro _ reserved ran
    have reservation := Buffer.reserve_ok ran
    have later := reservation.valid valid
    have inside := later.length_le_capacity
    have small := later.capacity_le_max
    have room := reservation.room
    refine .get ?_
    unfold maxCapacity at small
    rw [add_eq (by unfold wordLimit; omega)]
    exact .of_same rfl

theorem roundUp_length (valid : buffer.Valid) {alignment : Nat}
    (supported : isPowerOfTwo alignment ∧ alignment ≤ storageAlignment) :
    (roundUp buffer.length alignment : Action σ Nat) =
      pure (FlatGraph.roundUp buffer.length alignment) := by
  have inside := valid.length_le_capacity
  have small := valid.capacity_le_max
  have most := supported.2
  apply roundUp_eq supported.1
  unfold storageAlignment at most
  unfold maxCapacity at small
  unfold wordLimit
  omega

theorem alignTo_exact (valid : buffer.Valid) (alignment : Nat) :
    Exact (alignTo allocator alignment) (Buffer.alignTo allocator alignment)
      buffer := by
  unfold alignTo Buffer.alignTo
  by_cases supported : isPowerOfTwo alignment ∧ alignment ≤ storageAlignment
  · have positive := isPowerOfTwo_pos supported.1
    rw [if_pos supported, if_pos supported]
    refine .get ?_
    rw [roundUp_length valid supported, pure_bind,
      sub_eq (le_roundUp positive _), pure_bind]
    exact (append_exact allocator valid _).discard
  · rw [if_neg supported, if_neg supported]
    exact .of_same rfl

theorem hasWordAt_eq (valid : buffer.Valid) (position : Nat) :
    hasWordAt buffer position = buffer.hasWordAt position := by
  have small := valid.length_lt_wordLimit
  unfold hasWordAt Buffer.hasWordAt
  split
  · rfl
  · rename_i large
    exact (decide_eq_false (by omega)).symm

theorem writeWord_exact (valid : buffer.Valid) (position value : Nat) :
    Exact (writeWord position value) (Buffer.writeWord position value)
      buffer := by
  unfold writeWord Buffer.writeWord
  refine .get ?_
  rw [hasWordAt_eq valid]
  split
  · exact .of_same rfl
  · exact .of_same rfl

theorem readWord?_eq (valid : buffer.Valid) (position : Nat) :
    readWord? buffer position = buffer.readWord? position := by
  rw [readWord?, hasWordAt_eq valid, Buffer.readWord?]

theorem shrinkToFit_exact (valid : buffer.Valid) :
    Exact (shrinkToFit allocator) (Buffer.shrinkToFit allocator) buffer := by
  unfold shrinkToFit Buffer.shrinkToFit
  refine .get ?_
  rw [roundUp_length valid storageAlignment_supported, pure_bind]
  dsimp only
  split
  · exact .pure _ _
  · exact .lift _ _

theorem withCapacity_exact (capacity : Nat) :
    made (withCapacity allocator capacity) Buffer.empty =
      (Buffer.withCapacity allocator capacity).mapError .fault := by
  unfold withCapacity Buffer.withCapacity
  by_cases large : maxCapacity < capacity
  · rw [if_pos large, if_pos large]
    rfl
  · rw [if_neg large, if_neg large]
    unfold maxCapacity at large
    rw [roundUp_eq storageAlignment_supported.1
      (by unfold storageAlignment wordLimit; omega)]
    change made (lift (Buffer.setCapacity allocator
      (FlatGraph.roundUp capacity storageAlignment))) Buffer.empty = _
    rw [made, lift]
    cases Buffer.setCapacity allocator
        (FlatGraph.roundUp capacity storageAlignment) Buffer.empty with
    | ok _ buffer => rfl
    | error fault buffer => rfl

theorem ofBytes_exact (bytes : Bytes) :
    made (ofBytes allocator bytes) Buffer.empty =
      (Buffer.ofBytes allocator bytes).mapError .fault := by
  rw [ofBytes, made_bind, withCapacity_exact, Buffer.ofBytes]
  cases created : Buffer.withCapacity allocator bytes.length with
  | error fault => rfl
  | ok buffer =>
      have valid := (Buffer.withCapacity_ok created).1
      have same := (append_exact allocator valid bytes).same
      change made (discard (append allocator bytes)) buffer = _
      cases appended : Buffer.append allocator bytes buffer with
      | ok position filled =>
          rw [appended] at same
          rw [made_of_ok (Action.discard_of_ok same)]
          simp only [Except.bind, appended]
          rfl
      | error fault after =>
          rw [appended] at same
          rw [made_of_error (Action.discard_of_error same)]
          simp only [Except.bind, appended]
          rfl

theorem relocate_exact :
    Exact (relocate allocator) (Buffer.relocate allocator) buffer := by
  apply Exact.of_same
  rw [relocate, ofBytes_exact, Buffer.relocate]
  cases Buffer.ofBytes allocator buffer.bytes with
  | ok copy => rfl
  | error fault => rfl

theorem edit_exact (valid : buffer.Valid) (request : Buffer.Edit) :
    Exact (edit allocator request) (request.run allocator) buffer := by
  cases request with
  | ensure capacity =>
      exact (ensure_exact allocator valid capacity).bind
        fun _ _ _ => .pure _ _
  | reserve additional =>
      exact (reserve_exact allocator valid additional).bind
        fun _ _ _ => .pure _ _
  | alignTo alignment =>
      exact (alignTo_exact allocator valid alignment).bind
        fun _ _ _ => .pure _ _
  | append bytes =>
      exact (append_exact allocator valid bytes).bind fun _ _ _ => .pure _ _
  | writeWord position value =>
      exact (writeWord_exact valid position value).bind
        fun _ _ _ => .pure _ _
  | readWord position =>
      refine .get ?_
      rw [readWord?_eq valid]
      exact .pure _ _
  | setByte position byte => exact .lift _ _
  | shrinkToFit =>
      exact (shrinkToFit_exact allocator valid).bind fun _ _ _ => .pure _ _
  | relocate =>
      exact (relocate_exact allocator).bind fun _ _ _ => .pure _ _
  | isEmpty => exact .lift _ _
  | contents => exact .lift _ _
  | debug => exact .lift _ _
  | startAligned => exact .lift _ _
  | view query => exact .lift _ _

theorem valid_of_ran {action : Buffer.Action α} {reply : α → Buffer.Reply}
    {value : α} {after : Buffer} (valid : buffer.Valid) (turn : Buffer.Turn)
    (runs : turn.edit.run turn.allocator = do return reply (← action))
    (ran : action buffer = .ok value after) : after.Valid := by
  have kept := (valid.keeps turn).valid
  rw [Buffer.Turn.outcome_of_ok runs ran] at kept
  exact kept

theorem make_exact (origin : Buffer.Origin) :
    make allocator origin = (origin.make allocator).mapError .fault := by
  cases origin with
  | empty => rfl
  | withCapacity capacity => exact withCapacity_exact allocator capacity
  | ofBytes bytes => exact ofBytes_exact allocator bytes

end Exact

end Checked

end FlatGraph
