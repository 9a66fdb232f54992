import FlatGraph.Proofs.Checked.Flattener
import FlatGraph.Proofs.Ledger.Run

namespace FlatGraph

inductive Flattener.Reached : Flattener → Prop
  | calls {allocator : Allocator} {memory : Memory} {root : Option Nat}
      {size capacity : Nat} {opened : Run}
      (started : Run.start allocator memory root size capacity = .ok opened)
      (calls : List Call) : Reached (opened.calls calls).flattener

theorem Flattener.Reached.wf {flattener : Flattener}
    (reached : flattener.Reached) : flattener.WellFormed := by
  obtain ⟨started, calls⟩ := reached
  exact ((Run.start_sound started).calls calls).wf

inductive Buffer.Reached : Buffer → Prop
  | made {allocator : Allocator} {origin : Origin} {buffer : Buffer}
      (made : origin.make allocator = .ok buffer) : Reached buffer
  | edited {buffer : Buffer} (reached : Reached buffer) (turn : Turn) :
      Reached (turn.outcome buffer).after
  /-- The output of a flattener may be taken from it at any time. -/
  | taken {flattener : Flattener} (reached : flattener.Reached) :
      Reached flattener.buffer

theorem Buffer.Reached.valid {buffer : Buffer} (reached : buffer.Reached) :
    buffer.Valid := by
  induction reached with
  | made made => exact (Origin.make_ok made).1
  | edited reached turn ih => exact (ih.keeps turn).valid
  | taken reached => exact reached.wf.valid

/-- The distance of two addresses modulo the word size, read as a signed
number. -/
structure SignedDistance (left right : Nat) (distance : Int) : Prop where
  congruent : distance % wordLimit = ((left : Int) - right) % wordLimit
  least : -(2 ^ 63) ≤ distance
  most : distance < 2 ^ 63

theorem signedWord_distance (left right : Nat) :
    SignedDistance left right (signedWord (left - right)) := by
  have positive : 0 < wordLimit := by decide
  have least := @Int.le_bmod (left - right) wordLimit positive
  have most := @Int.bmod_lt (left - right) wordLimit positive
  exact ⟨Int.bmod_emod, least, most⟩

def Operation.field? : Operation → Option Nat
  | .enter field _ => some field
  | .enterArray field _ _ => some field
  | .enterBlock field _ _ => some field
  | .addString field => some field
  | .clear field => some field
  | .leave => none

section Blame

variable {flattener : Flattener} {field size need : Nat} {offset : Int}
  {otherwise : Fault}

theorem Buffer.refusal_ne :
    refusal need ≠ .fieldOutOfBounds offset size := by
  unfold refusal
  intro same
  cases grown : grownCapacity? need with
  | none =>
      rw [grown] at same
      cases same
  | some capacity =>
      rw [grown] at same
      cases same

theorem Flattener.slotAt_outOfBounds
    (missed : flattener.slotAt field = .error (.fieldOutOfBounds offset size)) :
    ∃ frame rest, flattener.frames = frame :: rest ∧ size = frame.size ∧
      offset = signedWord (field - frame.source) := by
  cases slotted_of_eq missed with
  | missed opened => exact ⟨_, _, opened, rfl, rfl⟩

theorem Flattener.blame_outOfBounds
    (blamed : flattener.blame field otherwise = .fieldOutOfBounds offset size)
    (other : otherwise ≠ .fieldOutOfBounds offset size) :
    flattener.slotAt field = .error (.fieldOutOfBounds offset size) := by
  unfold blame at blamed
  split at blamed
  · rename_i missed
    rw [missed, blamed]
  · exact absurd blamed other

theorem Operation.blame_outOfBounds {operation : Operation} {memory : Memory}
    (blamed : operation.blame memory flattener =
      .fieldOutOfBounds offset size) :
    ∃ field ∈ operation.field?,
      flattener.slotAt field = .error (.fieldOutOfBounds offset size) := by
  cases operation with
  | enter field layout =>
      exact ⟨field, rfl,
        Flattener.blame_outOfBounds blamed Buffer.refusal_ne⟩
  | enterArray field layout count =>
      rw [blame] at blamed
      split at blamed
      · exact ⟨field, rfl,
          Flattener.blame_outOfBounds blamed Buffer.refusal_ne⟩
      · cases blamed
  | enterBlock field align size =>
      exact ⟨field, rfl,
        Flattener.blame_outOfBounds blamed Buffer.refusal_ne⟩
  | addString field =>
      refine ⟨field, rfl, Flattener.blame_outOfBounds blamed ?_⟩
      split
      · exact fun same => Fault.noConfusion same
      · exact Buffer.refusal_ne
  | clear field =>
      refine ⟨field, rfl, Flattener.blame_outOfBounds blamed ?_⟩
      exact fun same => Fault.noConfusion same
  | leave => cases blamed

end Blame

/-- Whatever is asked for, the sums, differences and products that are formed
for it are machine words, and the reported distance of a field outside the
open structure is the one that the machine forms. -/
structure NothingWraps (allocator : Allocator) : Prop where
  make : ∀ origin,
    Checked.ExactMade (Checked.make allocator origin) (origin.make allocator)
  edit : ∀ buffer, Buffer.Reached buffer → ∀ request : Buffer.Edit,
    Checked.Exact (Checked.edit allocator request) (request.run allocator)
      buffer
  start : ∀ memory root size capacity,
    Checked.ExactMade
      (Checked.made (Checked.start allocator memory root size capacity)
        ⟨Buffer.empty, []⟩)
      (Flattener.start allocator memory root size capacity)
  call : ∀ flattener, Flattener.Reached flattener → ∀ memory operation,
    operation.Placeable →
      Checked.Exact (Checked.call ⟨allocator, memory, operation⟩)
        (Call.action ⟨allocator, memory, operation⟩) flattener
  distance : ∀ flattener, Flattener.Reached flattener →
    ∀ memory operation offset size after,
      Call.action ⟨allocator, memory, operation⟩ flattener =
          .error (.fieldOutOfBounds offset size) after →
        ∃ field ∈ operation.field?, ∃ frame rest,
          flattener.frames = frame :: rest ∧ size = frame.size ∧
            SignedDistance field frame.source offset

theorem nothing_wraps (allocator : Allocator) : NothingWraps allocator where
  make origin := .of_same (Checked.make_exact allocator origin)
  edit _ reached request := Checked.edit_exact allocator reached.valid request
  start memory root size capacity :=
    .of_same (Checked.start_exact allocator memory root size capacity)
  call _ reached _ _ placeable := Checked.call_exact reached.wf placeable
  distance flattener reached memory operation offset size after failed := by
    have blamed := (reached.wf.action_blame failed nofun).symm
    obtain ⟨field, visits, missed⟩ := Operation.blame_outOfBounds blamed
    obtain ⟨frame, rest, opened, same, rfl⟩ :=
      Flattener.slotAt_outOfBounds missed
    exact ⟨field, visits, frame, rest, opened, same,
      signedWord_distance field frame.source⟩

/-- The differences are checked: in a buffer that is longer than its room, as
none ever is, the first of them would wrap. -/
example : Checked.reserve (fun _ => true) 1 ⟨[7, 7], 1⟩ =
    .error .wrapped ⟨[7, 7], 1⟩ := by
  rfl

end FlatGraph
