import FlatGraph.Buffer.Edit
import FlatGraph.Proofs.Buffer
import Mathlib.Data.Nat.Digits.Defs

/-!
A buffer as nothing but its bytes. A list of bytes has no capacity and never
runs out of room; apart from the edits for which memory is refused, and which
change nothing, a buffer holds and answers what such a list does.
-/

namespace FlatGraph

theorem encodeLittle_eq_map (width value : Nat) :
    encodeLittle width value =
      (List.range width).map fun place => UInt8.ofNat (value / 256 ^ place) := by
  induction width generalizing value with
  | zero => rfl
  | succ width ih =>
      rw [encodeLittle, ih, List.range_succ_eq_map, List.map_cons,
        List.map_map, Nat.pow_zero, Nat.div_one]
      congr 2
      funext place
      rw [Function.comp_apply, Nat.div_div_eq_div_mul, Nat.pow_succ']

theorem decodeLittle_eq_ofDigits (bytes : Bytes) :
    decodeLittle bytes = Nat.ofDigits 256 (bytes.map UInt8.toNat) := by
  induction bytes with
  | nil => rfl
  | cons byte rest ih =>
      rw [decodeLittle, List.map_cons, Nat.ofDigits_cons, ih]

namespace Buffer

theorem supported_iff {alignment : Nat} :
    isPowerOfTwo alignment ∧ alignment ≤ storageAlignment ↔
      alignment ∣ storageAlignment := by
  constructor
  · rintro ⟨power, small⟩
    exact isPowerOfTwo_dvd power isPowerOfTwo_storageAlignment small
  · intro divides
    have small : alignment ≤ storageAlignment :=
      Nat.le_of_dvd (by decide) divides
    refine ⟨?_, small⟩
    revert divides
    unfold storageAlignment at small ⊢
    revert alignment
    decide +kernel

namespace Edit

/-- What an edit makes of a list of bytes. Padding is the least number of zeros
that reaches the boundary. -/
def edited (bytes : Bytes) : Edit → Bytes
  | .alignTo alignment =>
      if alignment ∣ storageAlignment then
        bytes ++ List.replicate (gap bytes.length alignment) 0
      else bytes
  | .append more => bytes ++ more
  | .writeWord position value =>
      if position + wordSize ≤ bytes.length then
        bytes.take position ++
          (List.range wordSize).map
            (fun place => UInt8.ofNat (value / 256 ^ place)) ++
          bytes.drop (position + wordSize)
      else bytes
  | .setByte position byte => bytes.set position byte
  | _ => bytes

/-- What a list of bytes answers to an edit. Only the text for debugging is
not known from the bytes: it shows the capacity. -/
def answer? (bytes : Bytes) : Edit → Option (Except Fault Reply)
  | .alignTo alignment =>
      if alignment ∣ storageAlignment then some (.ok .done)
      else some (.error .unsupportedAlignment)
  | .append _ => some (.ok (.position bytes.length))
  | .writeWord position _ =>
      if position + wordSize ≤ bytes.length then some (.ok .done)
      else some (.error (.positionOutOfBounds position bytes.length))
  | .readWord position =>
      some (.ok (.word
        (if position + wordSize ≤ bytes.length then
          some (Nat.ofDigits 256
            (((bytes.drop position).take wordSize).map UInt8.toNat))
        else none)))
  | .isEmpty => some (.ok (.flag (bytes == [])))
  | .contents => some (.ok (.bytes bytes))
  | .debug => none
  | .startAligned => some (.ok (.flag true))
  | .view query => some (.ok (.view (View.answer bytes query)))
  | _ => some (.ok .done)

/-- How many bytes there has to be room for, of an edit that may have to move
the buffer to other memory. -/
def need? (bytes : Bytes) : Edit → Option Nat
  | .ensure capacity => some capacity
  | .reserve additional => some (bytes.length + additional)
  | .alignTo alignment =>
      if alignment ∣ storageAlignment then
        some (bytes.length + gap bytes.length alignment)
      else none
  | .append more => some (bytes.length + more.length)
  | .shrinkToFit => some bytes.length
  | .relocate => some bytes.length
  | _ => none

end Edit

/-- An edit, with the memory that is granted for it and what others have left
behind there. -/
structure Turn where
  allocator : Allocator
  leftover : Nat → UInt8
  edit : Edit

def Turn.outcome (turn : Turn) (buffer : Buffer) : Outcome :=
  turn.edit.outcome turn.allocator buffer

def runTurns : List Turn → Buffer → List Outcome
  | [], _ => []
  | turn :: rest, buffer =>
      turn.outcome buffer :: runTurns rest (turn.outcome buffer).after

inductive Advance (bytes : Bytes) (capacity : Nat) (turn : Turn) :
    Outcome → Prop
  | refused {need : Nat} {fault : Fault} :
      turn.edit.need? bytes = some need →
      Refused turn.allocator need fault →
        Advance bytes capacity turn ⟨.error fault, ⟨bytes, capacity⟩⟩
  | failed {fault : Fault} :
      turn.edit.answer? bytes = some (.error fault) →
        Advance bytes capacity turn ⟨.error fault, ⟨bytes, capacity⟩⟩
  | finished {reply : Reply} {roomy : Nat} :
      (∀ answer ∈ turn.edit.answer? bytes, answer = .ok reply) →
      (∀ need ∈ turn.edit.need? bytes, need ≤ roomy) →
      (turn.edit.need? bytes = none → roomy = capacity) →
        Advance bytes capacity turn
          ⟨.ok reply, ⟨turn.edit.edited bytes, roomy⟩⟩

/-- A history of outcomes that begins with a list of bytes, turn by turn. -/
inductive Follows : Bytes → Nat → List Turn → List Outcome → Prop
  | nil (bytes : Bytes) (capacity : Nat) : Follows bytes capacity [] []
  | cons {bytes : Bytes} {capacity : Nat} {turn : Turn} {outcome : Outcome}
      {turns : List Turn} {outcomes : List Outcome} :
      Advance bytes capacity turn outcome →
      Follows outcome.after.bytes outcome.after.capacity turns outcomes →
        Follows bytes capacity (turn :: turns) (outcome :: outcomes)

section Turn

variable {α : Type} {turn : Turn} {buffer after : Buffer}
  {action : Action α} {reply : α → Reply}

theorem Turn.outcome_of_ok {value : α}
    (runs : turn.edit.run turn.allocator = do return reply (← action))
    (ran : action buffer = .ok value after) :
    turn.outcome buffer = ⟨.ok (reply value), after⟩ := by
  rw [Turn.outcome, Edit.outcome, runs, Action.bind_of_ok ran]
  rfl

theorem Turn.outcome_of_error {fault : Fault}
    (runs : turn.edit.run turn.allocator = do return reply (← action))
    (failed : action buffer = .error fault after) :
    turn.outcome buffer = ⟨.error fault, after⟩ := by
  rw [Turn.outcome, Edit.outcome, runs, Action.bind_of_error failed]

end Turn

/-- A turn advances the list of bytes, and the buffer after it is valid. -/
structure Keeps (buffer : Buffer) (turn : Turn) (outcome : Outcome) :
    Prop where
  advance : Advance buffer.bytes buffer.capacity turn outcome
  valid : outcome.after.Valid

section Keeps

variable {allocator : Allocator} {leftover : Nat → UInt8} {buffer : Buffer}

theorem Valid.keeps_refused {turn : Turn} {need : Nat} {fault : Fault}
    (valid : buffer.Valid) (needs : turn.edit.need? buffer.bytes = some need)
    (refused : Refused turn.allocator need fault) :
    Keeps buffer turn ⟨.error fault, buffer⟩ :=
  ⟨.refused needs refused, valid⟩

theorem Valid.keeps_failed {turn : Turn} {fault : Fault}
    (valid : buffer.Valid)
    (answer : turn.edit.answer? buffer.bytes = some (.error fault)) :
    Keeps buffer turn ⟨.error fault, buffer⟩ :=
  ⟨.failed answer, valid⟩

theorem answers_of_eq {edit : Edit} {bytes : Bytes} {reply : Reply}
    (answer : edit.answer? bytes = some (.ok reply)) :
    ∀ given ∈ edit.answer? bytes, given = .ok reply := by
  intro given member
  rw [answer] at member
  exact (Option.some.inj member).symm

theorem Valid.keeps_roomy {turn : Turn} {after : Buffer} {reply : Reply}
    {need : Nat} (valid : after.Valid)
    (needs : turn.edit.need? buffer.bytes = some need)
    (answer : turn.edit.answer? buffer.bytes = some (.ok reply))
    (bytes_eq : after.bytes = turn.edit.edited buffer.bytes)
    (room : need ≤ after.capacity) : Keeps buffer turn ⟨.ok reply, after⟩ := by
  obtain ⟨bytes, capacity⟩ := after
  cases bytes_eq
  refine ⟨.finished (answers_of_eq answer) ?_ ?_, valid⟩
  · intro wanted member
    rw [needs] at member
    exact Option.some.inj member ▸ room
  · intro impossible
    rw [needs] at impossible
    cases impossible

theorem Advance.in_place {turn : Turn} {bytes : Bytes} {capacity : Nat}
    {reply : Reply} (needs : turn.edit.need? bytes = none)
    (answers : ∀ answer ∈ turn.edit.answer? bytes, answer = .ok reply) :
    Advance bytes capacity turn
      ⟨.ok reply, ⟨turn.edit.edited bytes, capacity⟩⟩ := by
  refine .finished answers ?_ fun _ => rfl
  intro need member
  rw [needs] at member
  cases member

theorem Valid.keeps_here {turn : Turn} {reply : Reply} (valid : buffer.Valid)
    (needs : turn.edit.need? buffer.bytes = none)
    (answer : turn.edit.answer? buffer.bytes = some (.ok reply))
    (length_eq : (turn.edit.edited buffer.bytes).length = buffer.length) :
    Keeps buffer turn
      ⟨.ok reply, ⟨turn.edit.edited buffer.bytes, buffer.capacity⟩⟩ :=
  ⟨.in_place needs (answers_of_eq answer), valid.of_length_eq length_eq rfl⟩

theorem Valid.keeps_shown {turn : Turn} {reply : Reply} (valid : buffer.Valid)
    (needs : turn.edit.need? buffer.bytes = none)
    (answers : ∀ answer ∈ turn.edit.answer? buffer.bytes, answer = .ok reply)
    (same : turn.edit.edited buffer.bytes = buffer.bytes) :
    Keeps buffer turn ⟨.ok reply, buffer⟩ := by
  have shown : Advance buffer.bytes buffer.capacity turn
      ⟨.ok reply, ⟨turn.edit.edited buffer.bytes, buffer.capacity⟩⟩ :=
    .in_place needs answers
  rw [same] at shown
  exact ⟨shown, valid⟩

theorem Valid.keeps_append (valid : buffer.Valid) (bytes : Bytes) :
    Keeps buffer ⟨allocator, leftover, .append bytes⟩
      (Turn.outcome ⟨allocator, leftover, .append bytes⟩ buffer) := by
  cases ran : append allocator bytes buffer with
  | ok position after =>
      obtain ⟨rfl, appended⟩ := append_ok ran
      have later := appended.valid valid
      have room := later.length_le_capacity
      rw [length, appended.bytes_eq, List.length_append] at room
      rw [Turn.outcome_of_ok rfl ran]
      exact later.keeps_roomy rfl rfl appended.bytes_eq room
  | error fault after =>
      obtain ⟨rfl, refused⟩ := append_refused ran
      rw [Turn.outcome_of_error rfl ran]
      exact valid.keeps_refused rfl refused

theorem Valid.keeps_alignTo (valid : buffer.Valid) (alignment : Nat) :
    Keeps buffer ⟨allocator, leftover, .alignTo alignment⟩
      (Turn.outcome ⟨allocator, leftover, .alignTo alignment⟩ buffer) := by
  by_cases divides : alignment ∣ storageAlignment
  · have supported := supported_iff.mpr divides
    let zeros : Bytes := List.replicate (gap buffer.length alignment) 0
    have zeros_length : zeros.length = gap buffer.length alignment :=
      List.length_replicate
    cases ran : append allocator zeros buffer with
    | ok position after =>
        obtain ⟨-, appended⟩ := append_ok ran
        have later := appended.valid valid
        have room := later.length_le_capacity
        rw [length, appended.bytes_eq, List.length_append, zeros_length]
          at room
        have aligned := (alignTo_eq supported).trans (Action.discard_of_ok ran)
        rw [Turn.outcome_of_ok rfl aligned]
        refine later.keeps_roomy (if_pos divides) (if_pos divides) ?_ room
        exact appended.bytes_eq.trans (if_pos divides).symm
    | error fault after =>
        obtain ⟨rfl, refused⟩ := append_refused ran
        have failed := (alignTo_eq supported).trans
          (Action.bind_of_error ran)
        rw [zeros_length] at refused
        rw [Turn.outcome_of_error rfl failed]
        exact valid.keeps_refused (if_pos divides) refused
  · have unsupported := mt supported_iff.mp divides
    rw [Turn.outcome_of_error rfl (alignTo_unsupported unsupported)]
    exact valid.keeps_failed (if_neg divides)

theorem Valid.keeps_writeWord (valid : buffer.Valid) (position value : Nat) :
    Keeps buffer ⟨allocator, leftover, .writeWord position value⟩
      (Turn.outcome ⟨allocator, leftover, .writeWord position value⟩
        buffer) := by
  by_cases inside : position + wordSize ≤ buffer.length
  · have written : (Edit.writeWord position value).edited buffer.bytes =
        patch buffer.bytes position (encodeWord value) := by
      rw [patch, encodeWord_length, encodeWord, encodeLittle_eq_map]
      exact if_pos inside
    rw [Turn.outcome_of_ok rfl (writeWord_of_inside inside), ← written]
    refine valid.keeps_here rfl (if_pos inside) ?_
    rw [written]
    exact patch_length (by rw [encodeWord_length]; exact inside)
  · rw [Turn.outcome_of_error rfl (writeWord_of_outside inside)]
    exact valid.keeps_failed (if_neg inside)

theorem readWord?_eq_ofDigits (position : Nat) :
    buffer.readWord? position =
      if position + wordSize ≤ buffer.bytes.length then
        some (Nat.ofDigits 256
          (((buffer.bytes.drop position).take wordSize).map UInt8.toNat))
      else none := by
  rw [readWord?, ← decodeLittle_eq_ofDigits]
  exact if_congr decide_eq_true_iff rfl rfl

theorem Valid.keeps_relocate (valid : buffer.Valid) :
    Keeps buffer ⟨allocator, leftover, .relocate⟩
      (Turn.outcome ⟨allocator, leftover, .relocate⟩ buffer) := by
  cases made : ofBytes allocator buffer.bytes with
  | ok copy =>
      obtain ⟨later, bytes_eq, -⟩ := ofBytes_ok made
      have room := later.length_le_capacity
      have ran : relocate allocator buffer = .ok () copy := by
        rw [relocate, made]
      rw [length, bytes_eq] at room
      rw [Turn.outcome_of_ok rfl ran]
      exact later.keeps_roomy rfl rfl bytes_eq room
  | error fault =>
      have failed : relocate allocator buffer = .error fault buffer := by
        rw [relocate, made]
      rw [Turn.outcome_of_error rfl failed]
      exact valid.keeps_refused rfl (ofBytes_refused made)

theorem Valid.keeps (valid : buffer.Valid) (turn : Turn) :
    Keeps buffer turn (turn.outcome buffer) := by
  obtain ⟨allocator, leftover, edit⟩ := turn
  cases edit with
  | ensure capacity =>
      cases ran : ensure allocator capacity buffer with
      | ok _ after =>
          obtain ⟨bytes_eq, room, later⟩ := ensure_ok valid ran
          rw [Turn.outcome_of_ok rfl ran]
          exact later.keeps_roomy rfl rfl bytes_eq room
      | error fault after =>
          obtain ⟨rfl, refused⟩ := ensure_refused ran
          rw [Turn.outcome_of_error rfl ran]
          exact valid.keeps_refused rfl refused
  | reserve additional =>
      cases ran : reserve allocator additional buffer with
      | ok _ after =>
          have reserved := reserve_ok ran
          have later := reserved.valid valid
          have inside := later.length_le_capacity
          have room := reserved.room
          have length_eq := reserved.length_eq
          rw [Turn.outcome_of_ok rfl ran]
          refine later.keeps_roomy rfl rfl reserved.bytes_eq ?_
          change buffer.length + additional ≤ after.capacity
          omega
      | error fault after =>
          cases reserve_error ran
          rw [Turn.outcome_of_error rfl ran]
          exact valid.keeps_refused rfl (reserve_refused ran)
  | alignTo alignment => exact valid.keeps_alignTo alignment
  | append bytes => exact valid.keeps_append bytes
  | writeWord position value => exact valid.keeps_writeWord position value
  | readWord position =>
      refine valid.keeps_shown rfl (answers_of_eq ?_) rfl
      rw [readWord?_eq_ofDigits]
      rfl
  | setByte position byte => exact valid.keeps_here rfl rfl List.length_set
  | shrinkToFit =>
      cases ran : shrinkToFit allocator buffer with
      | ok _ after =>
          have later := valid.shrunk ran
          have room := later.length_le_capacity
          rw [Turn.outcome_of_ok rfl ran]
          cases shrinkToFit_ok ran
          exact later.keeps_roomy rfl rfl rfl room
      | error fault after =>
          obtain ⟨rfl, refused⟩ := shrinkToFit_refused ran
          rw [Turn.outcome_of_error rfl ran]
          exact valid.keeps_refused rfl refused
  | relocate => exact valid.keeps_relocate
  | isEmpty =>
      refine valid.keeps_shown rfl (answers_of_eq ?_) rfl
      cases buffer.bytes <;> rfl
  | contents => exact valid.keeps_shown rfl (answers_of_eq rfl) rfl
  | debug => exact valid.keeps_shown rfl (fun _ none => nomatch none) rfl
  | startAligned => exact valid.keeps_shown rfl (answers_of_eq rfl) rfl
  | view query => exact valid.keeps_shown rfl (answers_of_eq rfl) rfl

end Keeps

theorem Valid.follows {buffer : Buffer} (valid : buffer.Valid)
    (turns : List Turn) :
    Follows buffer.bytes buffer.capacity turns (runTurns turns buffer) := by
  induction turns generalizing buffer with
  | nil => exact .nil _ _
  | cons turn rest ih =>
      have kept := valid.keeps turn
      exact .cons kept.advance (ih kept.valid)

end Buffer

end FlatGraph
