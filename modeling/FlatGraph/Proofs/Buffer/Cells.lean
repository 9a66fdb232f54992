import FlatGraph.Proofs.Buffer.Contents
import FlatGraph.Proofs.Patch

/-!
The memory behind a buffer, cell by cell. Only the first cells have been
written; the others hold what was left in them, by this buffer or by whoever
had the memory before. None of that ever shows.
-/

namespace FlatGraph

namespace Buffer

structure Cells where
  held : Bytes
  length : Nat

namespace Cells

abbrev Action := EStateM Fault Cells

def empty : Cells := ⟨[], 0⟩

def bytes (cells : Cells) : Bytes := cells.held.take cells.length

/-- The first cells hold what they held; cells that are new hold leftovers. -/
def resized (leftover : Nat → UInt8) (capacity : Nat) (held : Bytes) : Bytes :=
  held.take capacity ++
    (List.range (capacity - held.length)).map leftover

section Edits

variable (allocator : Allocator) (leftover : Nat → UInt8)

def setCapacity (capacity : Nat) : Action Unit := fun cells =>
  if capacity = 0 ∨ allocator capacity then
    .ok () { cells with held := resized leftover capacity cells.held }
  else .error (.allocationRefused capacity) cells

def grow (need : Nat) : Action Unit :=
  match grownCapacity? need with
  | some capacity => setCapacity allocator leftover capacity
  | none => throw .capacityOverflow

def ensure (capacity : Nat) : Action Unit := do
  let cells ← get
  if cells.held.length < capacity then grow allocator leftover capacity

def reserve (additional : Nat) : Action Unit := do
  let cells ← get
  if cells.held.length - cells.length < additional then
    grow allocator leftover (cells.length + additional)

def append (bytes : Bytes) : Action Nat := do
  unless bytes.isEmpty do reserve allocator leftover bytes.length
  let cells ← get
  set ({ held := patch cells.held cells.length bytes
         length := cells.length + bytes.length } : Cells)
  return cells.length

def alignTo (alignment : Nat) : Action Unit := do
  unless isPowerOfTwo alignment ∧ alignment ≤ storageAlignment do
    throw .unsupportedAlignment
  let cells ← get
  let padding := roundUp cells.length alignment - cells.length
  discard (append allocator leftover (List.replicate padding 0))

def writeWord (position value : Nat) : Action Unit := do
  let cells ← get
  if position + wordSize ≤ cells.length then
    set { cells with held := patch cells.held position (encodeWord value) }
  else throw (.positionOutOfBounds position cells.length)

def readWord? (cells : Cells) (position : Nat) : Option Nat :=
  if position + wordSize ≤ cells.length then
    some (decodeLittle ((cells.held.drop position).take wordSize))
  else none

def setByte (position : Nat) (byte : UInt8) : Action Unit :=
  modify fun cells =>
    if position < cells.length then
      { cells with held := cells.held.set position byte }
    else cells

def shrinkToFit : Action Unit := do
  let cells ← get
  let capacity := roundUp cells.length storageAlignment
  unless capacity = cells.held.length do
    setCapacity allocator leftover capacity

def withCapacity (capacity : Nat) : Except Fault Cells :=
  if maxCapacity < capacity then .error .capacityOverflow
  else
    match setCapacity allocator leftover (roundUp capacity storageAlignment)
        empty with
    | .ok _ cells => .ok cells
    | .error fault _ => .error fault

def ofBytes (bytes : Bytes) : Except Fault Cells :=
  (withCapacity allocator leftover bytes.length).bind fun cells =>
    match append allocator leftover bytes cells with
    | .ok _ filled => .ok filled
    | .error fault _ => .error fault

def relocate : Action Unit := fun cells =>
  match ofBytes allocator leftover cells.bytes with
  | .ok copy => .ok () copy
  | .error fault => .error fault cells

def edit : Edit → Action Reply
  | .ensure capacity => do
      ensure allocator leftover capacity
      return .done
  | .reserve additional => do
      reserve allocator leftover additional
      return .done
  | .alignTo alignment => do
      alignTo allocator leftover alignment
      return .done
  | .append bytes => return .position (← append allocator leftover bytes)
  | .writeWord position value => do
      writeWord position value
      return .done
  | .readWord position => return .word ((← get).readWord? position)
  | .setByte position byte => do
      setByte position byte
      return .done
  | .shrinkToFit => do
      shrinkToFit allocator leftover
      return .done
  | .relocate => do
      relocate allocator leftover
      return .done
  | .isEmpty => return .flag ((← get).length == 0)
  | .contents => return .bytes (← get).bytes
  | .debug => do
      let cells ← get
      return .text (Fault.record "AlignedBuffer"
        [("len", cells.length), ("capacity", cells.held.length)])
  | .startAligned => return .flag true
  | .view query => return .view (View.answer (← get).bytes query)

end Edits

def buffer (cells : Cells) : Buffer := ⟨cells.bytes, cells.held.length⟩

def runTurns : List Turn → Cells → List Outcome
  | [], _ => []
  | turn :: rest, cells =>
      match edit turn.allocator turn.leftover turn.edit cells with
      | .ok reply after => ⟨.ok reply, after.buffer⟩ :: runTurns rest after
      | .error fault after => ⟨.error fault, after.buffer⟩ :: runTurns rest after

/-- The cells are those behind a buffer, and no more have been written than
there are. -/
structure Holds (cells : Cells) (buffer : Buffer) : Prop where
  buffer_eq : cells.buffer = buffer
  fits : cells.length ≤ cells.held.length

/-- Both ended alike, on cells and on the buffer in front of them. -/
inductive Shows {α : Type} : EStateM.Result Fault Cells α →
    EStateM.Result Fault Buffer α → Prop
  | ok {value other : α} {cells : Cells} {buffer : Buffer} :
      value = other → cells.Holds buffer →
        Shows (.ok value cells) (.ok other buffer)
  | error {fault : Fault} {cells : Cells} {buffer : Buffer} :
      cells.Holds buffer → Shows (.error fault cells) (.error fault buffer)

inductive ShowsMade : Except Fault Cells → Except Fault Buffer → Prop
  | made {cells : Cells} {buffer : Buffer} :
      cells.Holds buffer → ShowsMade (.ok cells) (.ok buffer)
  | failed (fault : Fault) : ShowsMade (.error fault) (.error fault)

section Holds

variable {cells : Cells} {buffer : Buffer}

theorem Holds.bytes_eq (holds : cells.Holds buffer) :
    cells.held.take cells.length = buffer.bytes :=
  congrArg Buffer.bytes holds.buffer_eq

theorem Holds.capacity_eq (holds : cells.Holds buffer) :
    cells.held.length = buffer.capacity :=
  congrArg Buffer.capacity holds.buffer_eq

theorem Holds.length_eq (holds : cells.Holds buffer) :
    cells.length = buffer.length := by
  rw [Buffer.length, ← holds.bytes_eq, List.length_take,
    Nat.min_eq_left holds.fits]

theorem resized_length (leftover : Nat → UInt8) (capacity : Nat)
    (held : Bytes) : (resized leftover capacity held).length = capacity := by
  rw [resized, List.length_append, List.length_take, List.length_map,
    List.length_range]
  omega

/-- Other memory holds the same where something has been written. -/
theorem Holds.resized (holds : cells.Holds buffer) {capacity : Nat}
    (enough : cells.length ≤ capacity) (leftover : Nat → UInt8) :
    Holds { cells with held := resized leftover capacity cells.held }
      { buffer with capacity } := by
  have fits := holds.fits
  have taken : (Cells.resized leftover capacity cells.held).take
      cells.length = cells.held.take cells.length := by
    rw [Cells.resized, List.take_append_of_le_length (by
      rw [List.length_take]; omega), List.take_take, Nat.min_eq_left enough]
  have width := resized_length leftover capacity cells.held
  refine ⟨?_, by rw [width]; exact enough⟩
  rw [Cells.buffer, Cells.bytes, width, taken, holds.bytes_eq]

theorem Holds.appended (holds : cells.Holds buffer) {bytes : Bytes}
    (room : bytes.length ≤ buffer.capacity - buffer.length) :
    Holds ⟨patch cells.held cells.length bytes, cells.length + bytes.length⟩
      { buffer with bytes := buffer.bytes ++ bytes } := by
  have fits := holds.fits
  rw [← holds.capacity_eq, ← holds.length_eq] at room
  have width : (patch cells.held cells.length bytes).length =
      cells.held.length := patch_length (by omega)
  have front : (cells.held.take cells.length ++ bytes).length =
      cells.length + bytes.length := by
    rw [List.length_append, List.length_take]
    omega
  refine ⟨?_, by rw [width]; change _ + _ ≤ _; omega⟩
  rw [Cells.buffer, Cells.bytes, width, holds.capacity_eq, patch,
    List.take_left' front, holds.bytes_eq]

theorem Holds.patched (holds : cells.Holds buffer) {position : Nat}
    {replacement : Bytes}
    (inside : position + replacement.length ≤ cells.length) :
    Holds { cells with held := patch cells.held position replacement }
      { buffer with bytes := patch buffer.bytes position replacement } := by
  have fits := holds.fits
  have front : (cells.held.take cells.length).length = cells.length := by
    rw [List.length_take]
    omega
  have within : position + replacement.length ≤
      (cells.held.take cells.length).length := by
    rw [front]
    exact inside
  have width : (patch cells.held position replacement).length =
      cells.held.length := patch_length (by omega)
  have taken : (patch cells.held position replacement).take cells.length =
      patch (cells.held.take cells.length) position replacement := by
    conv_lhs => rw [← List.take_append_drop cells.length cells.held]
    rw [patch_append within, List.take_left' ((patch_length within).trans front)]
  refine ⟨?_, by rw [width]; exact fits⟩
  rw [Cells.buffer, Cells.bytes, width, taken, holds.bytes_eq,
    holds.capacity_eq]

theorem Holds.set (holds : cells.Holds buffer) (position : Nat)
    (byte : UInt8) :
    Holds (if position < cells.length then
        { cells with held := cells.held.set position byte } else cells)
      { buffer with bytes := buffer.bytes.set position byte } := by
  split
  · refine ⟨?_, by rw [List.length_set]; exact holds.fits⟩
    rw [Cells.buffer, Cells.bytes, List.take_set, holds.bytes_eq,
      List.length_set, holds.capacity_eq]
  · rename_i outside
    rw [List.set_eq_of_length_le]
    · exact holds
    · rw [holds.length_eq] at outside
      exact Nat.not_lt.mp outside

end Holds

section Shows

variable {allocator : Allocator} {leftover : Nat → UInt8} {cells : Cells}
  {buffer : Buffer}

theorem Shows.bind {α β : Type} {first : Action α} {second : α → Action β}
    {first' : Buffer.Action α} {second' : α → Buffer.Action β}
    (ends : Shows (first cells) (first' buffer))
    (next : ∀ value cells after, first' buffer = .ok value after →
      Holds cells after → Shows (second value cells) (second' value after)) :
    Shows ((first >>= second) cells) ((first' >>= second') buffer) := by
  generalize ran : first cells = left at ends
  generalize ran' : first' buffer = right at ends
  cases ends with
  | ok same holds =>
      cases same
      rw [Action.bind_of_ok ran, Action.bind_of_ok ran']
      exact next _ _ _ ran' holds
  | error holds =>
      rw [Action.bind_of_error ran, Action.bind_of_error ran']
      exact .error holds

theorem Shows.reply {α : Type} {action : Action α}
    {action' : Buffer.Action α} {reply : α → Reply}
    (ends : Shows (action cells) (action' buffer)) :
    Shows ((do return reply (← action) : Action Reply) cells)
      ((do return reply (← action') : Buffer.Action Reply) buffer) :=
  ends.bind fun _ _ _ _ holds => .ok rfl holds

namespace Holds

theorem setCapacity_shows (holds : cells.Holds buffer) {capacity : Nat}
    (enough : cells.length ≤ capacity) :
    Shows (setCapacity allocator leftover capacity cells)
      (Buffer.setCapacity allocator capacity buffer) := by
  unfold setCapacity Buffer.setCapacity
  split
  · exact .ok rfl (holds.resized enough leftover)
  · exact .error holds

theorem grow_shows (holds : cells.Holds buffer) {need : Nat}
    (enough : cells.length ≤ need) :
    Shows (grow allocator leftover need cells)
      (Buffer.grow allocator need buffer) := by
  unfold grow Buffer.grow
  cases grown : grownCapacity? need with
  | none => exact .error holds
  | some capacity =>
      have bounds := grownCapacity?_bounds grown
      exact holds.setCapacity_shows (Nat.le_trans enough bounds.1)

theorem ensure_shows (holds : cells.Holds buffer) (capacity : Nat) :
    Shows (ensure allocator leftover capacity cells)
      (Buffer.ensure allocator capacity buffer) := by
  have fits := holds.fits
  change Shows ((if cells.held.length < capacity then
    grow allocator leftover capacity else pure ()) cells) _
  rw [ensure_eq, ← holds.capacity_eq]
  split
  · exact holds.grow_shows (by omega)
  · exact .ok rfl holds

theorem reserve_shows (holds : cells.Holds buffer) (additional : Nat) :
    Shows (reserve allocator leftover additional cells)
      (Buffer.reserve allocator additional buffer) := by
  change Shows ((if cells.held.length - cells.length < additional then
    grow allocator leftover (cells.length + additional) else pure ()) cells) _
  rw [reserve_eq, ← holds.capacity_eq, ← holds.length_eq]
  split
  · exact holds.grow_shows (Nat.le_add_right _ _)
  · exact .ok rfl holds

theorem append_shows (holds : cells.Holds buffer) (bytes : Bytes) :
    Shows (append allocator leftover bytes cells)
      (Buffer.append allocator bytes buffer) := by
  unfold append Buffer.append
  by_cases empty : bytes.isEmpty = true
  · have room : bytes.length ≤ buffer.capacity - buffer.length := by
      rw [List.isEmpty_iff.mp empty]
      exact Nat.zero_le _
    rw [if_pos empty, if_pos empty]
    exact .ok holds.length_eq (holds.appended room)
  · rw [if_neg empty, if_neg empty]
    refine (holds.reserve_shows bytes.length).bind ?_
    rintro ⟨⟩ middle after reserving held
    have reserved := reserve_ok reserving
    exact .ok held.length_eq (held.appended reserved.room)

theorem alignTo_shows (holds : cells.Holds buffer) (alignment : Nat) :
    Shows (alignTo allocator leftover alignment cells)
      (Buffer.alignTo allocator alignment buffer) := by
  unfold alignTo Buffer.alignTo
  split
  · let padding := roundUp cells.length alignment - cells.length
    change Shows ((discard (append allocator leftover
      (List.replicate padding 0)) : Action Unit) cells)
        ((discard (Buffer.append allocator (List.replicate
          (roundUp buffer.length alignment - buffer.length) 0)) :
            Buffer.Action Unit) buffer)
    rw [← holds.length_eq]
    exact (holds.append_shows _).bind fun _ _ _ _ held => .ok rfl held
  · exact .error holds

theorem writeWord_shows (holds : cells.Holds buffer) (position value : Nat) :
    Shows (writeWord position value cells)
      (Buffer.writeWord position value buffer) := by
  change Shows ((if position + wordSize ≤ cells.length then _ else _ :
    Action Unit) cells) _
  by_cases inside : position + wordSize ≤ cells.length
  · rw [if_pos inside, writeWord_of_inside (holds.length_eq ▸ inside)]
    exact .ok rfl (holds.patched (by rw [encodeWord_length]; exact inside))
  · rw [if_neg inside, writeWord_of_outside (holds.length_eq ▸ inside),
      holds.length_eq]
    exact .error holds

theorem readWord?_eq (holds : cells.Holds buffer) (position : Nat) :
    cells.readWord? position = buffer.readWord? position := by
  by_cases inside : position + wordSize ≤ cells.length
  · have there : buffer.hasWordAt position = true :=
      decide_eq_true (holds.length_eq ▸ inside)
    rw [Cells.readWord?, if_pos inside, Buffer.readWord?, if_pos there,
      ← holds.bytes_eq, List.drop_take, List.take_take, Nat.min_eq_left]
    omega
  · have absent : ¬ buffer.hasWordAt position = true := fun there =>
      inside (holds.length_eq ▸ of_decide_eq_true there)
    rw [Cells.readWord?, if_neg inside, Buffer.readWord?, if_neg absent]

theorem shrinkToFit_shows (holds : cells.Holds buffer) :
    Shows (shrinkToFit allocator leftover cells)
      (Buffer.shrinkToFit allocator buffer) := by
  change Shows ((if roundUp cells.length storageAlignment =
    cells.held.length then pure () else setCapacity allocator leftover
      (roundUp cells.length storageAlignment)) cells) _
  rw [shrinkToFit_eq, ← holds.length_eq, ← holds.capacity_eq]
  split
  · exact .ok rfl holds
  · exact holds.setCapacity_shows (le_roundUp (by decide) _)

end Holds

theorem empty_holds : empty.Holds Buffer.empty := ⟨rfl, Nat.le_refl 0⟩

theorem withCapacity_shows (allocator : Allocator) (leftover : Nat → UInt8)
    (capacity : Nat) :
    ShowsMade (withCapacity allocator leftover capacity)
      (Buffer.withCapacity allocator capacity) := by
  have shows : Shows
      (setCapacity allocator leftover (roundUp capacity storageAlignment)
        empty)
      (Buffer.setCapacity allocator (roundUp capacity storageAlignment)
        Buffer.empty) := empty_holds.setCapacity_shows (Nat.zero_le _)
  unfold withCapacity Buffer.withCapacity
  split
  · exact .failed _
  · generalize setCapacity allocator leftover
      (roundUp capacity storageAlignment) empty = left at shows ⊢
    generalize Buffer.setCapacity allocator
      (roundUp capacity storageAlignment) Buffer.empty = right at shows ⊢
    cases shows with
    | ok same holds => exact .made holds
    | error holds => exact .failed _

theorem ofBytes_shows (allocator : Allocator) (leftover : Nat → UInt8)
    (bytes : Bytes) :
    ShowsMade (ofBytes allocator leftover bytes)
      (Buffer.ofBytes allocator bytes) := by
  have created := withCapacity_shows allocator leftover bytes.length
  unfold ofBytes Buffer.ofBytes
  generalize withCapacity allocator leftover bytes.length = left
    at created ⊢
  generalize Buffer.withCapacity allocator bytes.length = right at created ⊢
  cases created with
  | failed fault => exact .failed fault
  | @made cells buffer holds =>
      have shows : Shows (append allocator leftover bytes cells)
        (Buffer.append allocator bytes buffer) := holds.append_shows bytes
      simp only [Except.bind]
      generalize append allocator leftover bytes cells = left at shows ⊢
      generalize Buffer.append allocator bytes buffer = right at shows ⊢
      cases shows with
      | ok same holds => exact .made holds
      | error holds => exact .failed _

theorem Holds.relocate_shows (holds : cells.Holds buffer) :
    Shows (relocate allocator leftover cells)
      (Buffer.relocate allocator buffer) := by
  have copied := ofBytes_shows allocator leftover cells.bytes
  have same : cells.bytes = buffer.bytes := holds.bytes_eq
  unfold relocate Buffer.relocate
  rw [same] at copied ⊢
  generalize ofBytes allocator leftover buffer.bytes = left at copied ⊢
  generalize Buffer.ofBytes allocator buffer.bytes = right at copied ⊢
  cases copied with
  | made held => exact .ok rfl held
  | failed fault => exact .error holds

theorem Holds.edit_shows (holds : cells.Holds buffer) (request : Edit) :
    Shows (edit allocator leftover request cells)
      (request.run allocator buffer) := by
  have bytes_eq : cells.bytes = buffer.bytes := holds.bytes_eq
  cases request with
  | ensure capacity => exact (holds.ensure_shows capacity).reply
  | reserve additional => exact (holds.reserve_shows additional).reply
  | alignTo alignment => exact (holds.alignTo_shows alignment).reply
  | append bytes => exact (holds.append_shows bytes).reply
  | writeWord position value => exact (holds.writeWord_shows _ _).reply
  | readWord position =>
      exact .ok (congrArg Reply.word (holds.readWord?_eq position)) holds
  | setByte position byte => exact .ok rfl (holds.set position byte)
  | shrinkToFit => exact holds.shrinkToFit_shows.reply
  | relocate => exact holds.relocate_shows.reply
  | isEmpty =>
      refine .ok (congrArg Reply.flag ?_) holds
      rw [holds.length_eq, Buffer.length]
      cases buffer.bytes <;> rfl
  | contents => exact .ok (congrArg Reply.bytes bytes_eq) holds
  | debug =>
      refine .ok (congrArg Reply.text ?_) holds
      rw [debugText, holds.length_eq, holds.capacity_eq]
  | startAligned => exact .ok rfl holds
  | view query =>
      refine .ok (congrArg Reply.view ?_) holds
      rw [bytes_eq]

theorem Holds.runTurns_eq (holds : cells.Holds buffer) (turns : List Turn) :
    runTurns turns cells = Buffer.runTurns turns buffer := by
  induction turns generalizing cells buffer with
  | nil => rfl
  | cons turn rest ih =>
      have shows : Shows
          (edit turn.allocator turn.leftover turn.edit cells)
          (turn.edit.run turn.allocator buffer) :=
        holds.edit_shows turn.edit
      rw [runTurns, Buffer.runTurns, Turn.outcome, Edit.outcome]
      generalize edit turn.allocator turn.leftover turn.edit cells = left
        at shows ⊢
      generalize turn.edit.run turn.allocator buffer = right at shows ⊢
      cases shows with
      | ok same held =>
          cases same
          exact congrArg₂ _ (by rw [held.buffer_eq]) (ih held)
      | error held => exact congrArg₂ _ (by rw [held.buffer_eq]) (ih held)

end Shows

end Cells

inductive Origin where
  | empty
  | withCapacity (capacity : Nat)
  | ofBytes (bytes : Bytes)

namespace Origin

def make (allocator : Allocator) : Origin → Except Fault Buffer
  | .empty => .ok Buffer.empty
  | .withCapacity capacity => Buffer.withCapacity allocator capacity
  | .ofBytes bytes => Buffer.ofBytes allocator bytes

def cells (allocator : Allocator) (leftover : Nat → UInt8) :
    Origin → Except Fault Cells
  | .empty => .ok Cells.empty
  | .withCapacity capacity => Cells.withCapacity allocator leftover capacity
  | .ofBytes bytes => Cells.ofBytes allocator leftover bytes

def bytes : Origin → Bytes
  | .empty => []
  | .withCapacity _ => []
  | .ofBytes bytes => bytes

def need : Origin → Nat
  | .empty => 0
  | .withCapacity capacity => capacity
  | .ofBytes bytes => bytes.length

theorem make_ok {allocator : Allocator} {origin : Origin} {buffer : Buffer}
    (made : origin.make allocator = .ok buffer) :
    buffer.Valid ∧ buffer.bytes = origin.bytes ∧
      origin.need ≤ buffer.capacity := by
  cases origin with
  | empty =>
      rw [← Except.ok.inj made]
      exact ⟨⟨Nat.zero_le _, Nat.zero_le _, Nat.dvd_zero _⟩, rfl,
        Nat.zero_le _⟩
  | withCapacity capacity =>
      obtain ⟨valid, none, rounded⟩ := withCapacity_ok made
      refine ⟨valid, none, ?_⟩
      rw [rounded]
      exact le_roundUp (by decide) capacity
  | ofBytes bytes =>
      obtain ⟨valid, bytes_eq, -⟩ := ofBytes_ok made
      have room := valid.length_le_capacity
      rw [length, bytes_eq] at room
      exact ⟨valid, bytes_eq, room⟩

theorem make_refused {allocator : Allocator} {origin : Origin}
    {fault : Fault} (failed : origin.make allocator = .error fault) :
    Refused allocator origin.need fault := by
  cases origin with
  | empty => cases failed
  | withCapacity capacity => exact withCapacity_refused failed
  | ofBytes bytes => exact ofBytes_refused failed

theorem cells_show (origin : Origin) (allocator : Allocator)
    (leftover : Nat → UInt8) :
    Cells.ShowsMade (origin.cells allocator leftover)
      (origin.make allocator) := by
  cases origin with
  | empty => exact .made Cells.empty_holds
  | withCapacity capacity => exact Cells.withCapacity_shows _ _ capacity
  | ofBytes bytes => exact Cells.ofBytes_shows _ _ bytes

end Origin

/-- A buffer as it was made, in front of its cells: from here on it follows
its bytes, and so do the cells, whatever is left over in them. -/
structure ActsAsBytes (origin : Origin) (buffer : Buffer) (cells : Cells) :
    Prop where
  bytes_eq : buffer.bytes = origin.bytes
  room : origin.need ≤ buffer.capacity
  follows : ∀ turns,
    Follows origin.bytes buffer.capacity turns (runTurns turns buffer)
  shown : ∀ turns, cells.runTurns turns = runTurns turns buffer

/-- For every beginning and every history, with any memory. -/
theorem acts_as_bytes (origin : Origin) (allocator : Allocator)
    (leftover : Nat → UInt8) :
    (∃ fault, Refused allocator origin.need fault ∧
      origin.make allocator = .error fault ∧
      origin.cells allocator leftover = .error fault) ∨
    ∃ buffer cells, origin.make allocator = .ok buffer ∧
      origin.cells allocator leftover = .ok cells ∧
      ActsAsBytes origin buffer cells := by
  have shown := origin.cells_show allocator leftover
  generalize laying : origin.cells allocator leftover = cells at shown
  generalize making : origin.make allocator = buffer at shown
  cases shown with
  | failed fault => exact .inl ⟨fault, Origin.make_refused making, rfl, rfl⟩
  | @made cells buffer holds =>
      obtain ⟨valid, bytes_eq, room⟩ := Origin.make_ok making
      refine .inr ⟨buffer, cells, rfl, rfl, bytes_eq, room, ?_, ?_⟩
      · intro turns
        rw [← bytes_eq]
        exact valid.follows turns
      · intro turns
        exact holds.runTurns_eq turns

/-- Memory full of ones, given back and taken again: the padding is zero. -/
example :
    let turn := Turn.mk (fun _ => true) (fun _ => 255)
    (Cells.runTurns
      [turn (.append (List.replicate 17 7)), turn .shrinkToFit,
        turn (.reserve 40), turn (.alignTo 8)] Cells.empty).map
      (fun outcome => (outcome.after.bytes, outcome.after.capacity)) =
    [(List.replicate 17 7, 32), (List.replicate 17 7, 32),
      (List.replicate 17 7, 64),
      (List.replicate 17 7 ++ List.replicate 7 0, 64)] := by
  decide +kernel

end Buffer

end FlatGraph
