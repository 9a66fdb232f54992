import FlatGraph.Proofs.Ledger.Depth
import FlatGraph.Proofs.Walk.Confined

/-!
Null pointers to arrays. Such a field is cleared as a null pointer to a
structure is, but only if the size that the array would have is a word: the
size is computed before the pointer is looked at. A value with a null array
whose length says otherwise cannot be flattened.
-/

namespace FlatGraph

namespace Flattener

variable {before after : Flattener} {memory : Memory} {field : Nat}

structure Nulled (slot : Option Slot) (before after : Flattener) : Prop where
  frames_eq : after.frames = before.frames
  capacity_eq : after.buffer.capacity = before.buffer.capacity
  position_eq : after.position = before.position
  kept : ∀ place, (∀ own ∈ slot, Outside place own.position) →
    after.buffer.bytes[place]? = before.buffer.bytes[place]?
  null : ∀ own ∈ slot, after.buffer.readWord? own.position = some 0

theorem WellFormed.nulled (wf : before.WellFormed) {slot : Option Slot}
    (found : before.slotAt field = .ok slot) :
    before.Nulled slot
      (before.withBytes (mark slot none before.buffer.bytes)) := by
  have fits := wf.fits found
  have position_eq :
      (before.withBytes (mark slot none before.buffer.bytes)).position =
        before.position := mark_length fits
  refine ⟨rfl, rfl, position_eq, ?_, ?_⟩
  · intro place outside
    cases slot with
    | none => rfl
    | some own =>
        refine Buffer.patch_getElem?_outside ?_ ?_
        · rw [encodeWord_length]
          exact fits own rfl
        · rw [encodeWord_length]
          exact outside own rfl
  · intro own member
    cases member
    have inside := fits own rfl
    have written := written_null inside (wf.marked fits none)
    rw [readWord?_eq (by rw [position_eq]; exact inside), written.word_eq]

theorem WellFormed.enterElements_null (wf : before.WellFormed)
    {slot : Option Slot} (found : before.slotAt field = .ok slot)
    (null : memory.word field = 0) (allocator : Allocator)
    (align size stride : Nat) :
    enterElements allocator memory field align size stride before =
      .ok false (before.withBytes (mark slot none before.buffer.bytes)) :=
  enterElements_of_null found (wf.fits found) null

end Flattener

open Flattener

section Walk

variable {count : Nat} {schema : Schema count} {allocator : Allocator}
  {memory : Memory} {type target : Fin count} {length : LengthField}
  {link : Link count}

theorem exists_ok_of_forM {ε σ α : Type} {visit : α → EStateM ε σ Unit}
    {items : List α} {before after : σ}
    (ran : items.forM visit before = .ok () after) {item : α}
    (member : item ∈ items) :
    ∃ middle next, visit item middle = .ok () next := by
  induction items generalizing before with
  | nil => cases member
  | cons first rest ih =>
      obtain ⟨⟨⟩, middle, here, later⟩ := Action.bind_eq_ok_iff.mp ran
      rcases List.mem_cons.mp member with rfl | member
      · exact ⟨before, middle, here⟩
      · exact ih later member

/-- Whatever the pointer is: an array is visited only if its size is a
word. -/
theorem visitLink_array_fits {visit : Fin count → Nat → Action Unit}
    {address : Nat} {before after : Flattener}
    (kind : link.target = .array target length)
    (ran : schema.visitLink (Flattener.visitor allocator memory) memory visit
      address link before = .ok () after) :
    (schema target).layout.size * length.read memory address < wordLimit := by
  rw [visitLink_array kind] at ran
  split at ran
  · assumption
  · cases ran

theorem visitLinks_array_fits {depth address : Nat}
    {before after : Flattener} (member : link ∈ (schema type).links)
    (kind : link.target = .array target length)
    (ran : schema.visitLinks (Flattener.visitor allocator memory) memory depth
      type address before = .ok () after) :
    (schema target).layout.size * length.read memory address < wordLimit := by
  cases depth with
  | zero => cases ran
  | succ depth =>
      obtain ⟨middle, next, visited⟩ := exists_ok_of_forM ran member
      exact visitLink_array_fits kind visited

theorem flatten_array_fits (member : link ∈ (schema type).links)
    (kind : link.target = .array target length) {root capacity : Nat}
    {buffer : Buffer}
    (flattened : schema.flatten allocator memory type root capacity =
      .ok buffer) :
    (schema target).layout.size * length.read memory root < wordLimit := by
  obtain ⟨opened, walked, -, -, walking, -⟩ := flatten_ok flattened
  exact visitLinks_array_fits member kind walking

end Walk

/-- What a null pointer in a field comes to when it is said to lead to an
array: the state after it is the one after a null pointer to a structure,
unless the size of the array is no word. -/
structure ClearsArray (memory : Memory) (field : Nat) (slot : Option Slot)
    (before after : Flattener) : Prop where
  nulled : before.Nulled slot after
  enter_eq : ∀ allocator layout,
    enter allocator memory field layout before = .ok false after
  enterArray_eq : ∀ allocator layout length,
    enterArray allocator memory field layout length before =
      if layout.size * length < wordLimit then .ok false after
      else .error .capacityOverflow before
  visitLink_eq : ∀ {count : Nat} (schema : Schema count) (link : Link count)
      target length address,
    link.target = .array target length → address + link.offset = field →
      ∀ allocator visit,
        schema.visitLink (Flattener.visitor allocator memory) memory visit
            address link before =
          if (schema target).layout.size * length.read memory address <
            wordLimit then .ok () after
          else .error .capacityOverflow before
  flatten_ne : ∀ {count : Nat} (schema : Schema count) (link : Link count)
      type target length address,
    link ∈ (schema type).links → link.target = .array target length →
      wordLimit ≤ (schema target).layout.size * length.read memory address →
        ∀ allocator capacity buffer,
          schema.flatten allocator memory type address capacity ≠ .ok buffer

theorem enterArray_null {first : Allocator} {source : Memory}
    {root : Option Nat} {size capacity : Nat} {opened : Run}
    (started : Run.start first source root size capacity = .ok opened)
    {before : Flattener} (reached : opened.Reaches before) {field : Nat}
    {slot : Option Slot} (found : slotOf field before = .ok slot before)
    {memory : Memory} (null : memory.word field = 0) :
    ∃ after, ClearsArray memory field slot before after := by
  have wf := reached.wf (Run.start_sound started)
  have located := slotAt_of_slotOf found
  have entering := wf.enterElements_null located null
  refine ⟨_, wf.nulled located, ?_, ?_, ?_, ?_⟩
  · intro allocator layout
    exact entering allocator _ _ _
  · intro allocator layout length
    rw [Flattener.enterArray_eq, entering allocator]
  · rintro count schema link target length address kind rfl allocator visit
    rw [visitLink_array kind, Action.bind_of_ok (entering allocator _ _ _)]
    rfl
  · intro count schema link type target length address member kind overlong
      allocator capacity buffer flattened
    exact Nat.not_lt.mpr overlong (flatten_array_fits member kind flattened)

def sampleGrid : Schema 2
  | 0 => ⟨⟨16, 8⟩, [⟨8, .array (Fin.last 1) ⟨0, 4, true⟩⟩]⟩
  | 1 => ⟨⟨24, 8⟩, [⟨16, .string⟩]⟩

/-- A grid that has minus one row, and nothing where its rows should be. -/
def sampleRowless : Memory := Memory.blank.store 16 [255, 255, 255, 255]

def sampleRowlessStart : Run where
  flattener := ⟨⟨sampleRowless.load 16 16, 16⟩, [Frame.single 16 16 0]⟩
  ledger := Ledger.start sampleRowless (some 16) 16

theorem enterArray_null_sample :
    ∃ after, ClearsArray sampleRowless 24 (some ⟨8, Frame.single 16 16 0⟩)
      sampleRowlessStart.flattener after :=
  have started : Run.start (fun _ => true) sampleRowless (some 16) 16 0 =
    .ok sampleRowlessStart := rfl
  enterArray_null started (Run.Reaches.here _) rfl (by decide +kernel)

/-- Null is not handled as for one structure when the size is no word: this
grid is refused, and the same one without a length is not. -/
theorem null_array_refused :
    sampleRowless.word (16 + 8) = 0 ∧
      sampleGrid.flatten (fun _ => true) sampleRowless 0 16 0 =
        .error .capacityOverflow ∧
      sampleGrid.flatten (fun _ => true) Memory.blank 0 16 0 =
        .ok ⟨List.replicate 16 0, 16⟩ := by
  decide +kernel

end FlatGraph
