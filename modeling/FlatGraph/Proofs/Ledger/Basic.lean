import FlatGraph.Script
import FlatGraph.Proofs.Align

/-!
A ledger of all that a flattener has done, kept from the calls alone: the
pieces that the output consists of, the blocks that are open, and the visits
of slots. It knows no buffer and no capacity. A scope counts as the call that
enters, the calls of its body and the call that leaves.
-/

namespace FlatGraph

inductive Operation where
  | enter (field : Nat) (layout : Layout)
  | enterArray (field : Nat) (layout : Layout) (count : Nat)
  | enterBlock (field align size : Nat)
  | addString (field : Nat)
  | clear (field : Nat)
  | leave

/-- An operation, with the source memory and the allocator as they are when it
runs. -/
structure Call where
  allocator : Allocator
  memory : Memory
  operation : Operation

def Call.action (call : Call) : Flattener.Action Reply :=
  match call.operation with
  | .enter field layout =>
      .entered <$> Flattener.enter call.allocator call.memory field layout
  | .enterArray field layout count =>
      .entered <$>
        Flattener.enterArray call.allocator call.memory field layout count
  | .enterBlock field align size =>
      .entered <$>
        Flattener.enterBlock call.allocator call.memory field align size
  | .addString field =>
      (fun _ => .done) <$>
        Flattener.addString call.allocator call.memory field
  | .clear field => (fun _ => .done) <$> Flattener.clear field
  | .leave => (fun _ => .done) <$> Flattener.leave

inductive Piece where
  | plain (bytes : Bytes)
  /-- Bytes that begin at the next multiple of an alignment, behind zeros. -/
  | aligned (alignment : Nat) (bytes : Bytes)

def Piece.add (output : Bytes) : Piece → Bytes
  | .plain bytes => output ++ bytes
  | .aligned alignment bytes =>
      output ++ List.replicate (gap output.length alignment) 0 ++ bytes

def tile (pieces : List Piece) : Bytes := pieces.foldl Piece.add []

@[simp] theorem tile_append_singleton (pieces : List Piece) (piece : Piece) :
    tile (pieces ++ [piece]) = piece.add (tile pieces) := by
  simp only [tile, List.foldl_append, List.foldl_cons, List.foldl_nil]

/-- A structure, or an array of elements of one size, that has been copied
from the source to the output. -/
structure Block where
  source : Nat
  start : Nat
  size : Nat
  element : Option Nat
  deriving DecidableEq, Repr

/-- A visit of the slot of a field: the block that the field is in, and the
position of what was placed for it; nothing was placed for null. -/
structure Visit where
  slot : Nat
  block : Block
  target : Option Nat
  deriving DecidableEq, Repr

/-- Where the element around the slot begins, or else the block. -/
def Visit.container (visit : Visit) : Nat :=
  match visit.block.element with
  | none => visit.block.start
  | some size => visit.slot - (visit.slot - visit.block.start) % size

def Visit.offset (visit : Visit) : Nat :=
  match visit.target with
  | none => 0
  | some target => target - visit.container

structure Ledger where
  pieces : List Piece
  blocks : List Block
  /-- The latest visit first. -/
  visits : List Visit

namespace Ledger

def length (ledger : Ledger) : Nat := (tile ledger.pieces).length

def latest? (ledger : Ledger) (slot : Nat) : Option Visit :=
  ledger.visits.find? fun visit => visit.slot == slot

def visit (ledger : Ledger) (field : Nat) (target : Option Nat) :
    List Visit :=
  match ledger.blocks with
  | [] => ledger.visits
  | block :: _ =>
      ⟨field - block.source + block.start, block, target⟩ :: ledger.visits

def visitNull (ledger : Ledger) (field : Nat) : Ledger :=
  { ledger with visits := ledger.visit field none }

def blockStart (ledger : Ledger) (align : Nat) : Nat :=
  ledger.length + gap ledger.length (max leastAlignment align)

def enterBlock (ledger : Ledger) (memory : Memory) (field align size : Nat)
    (element : Option Nat) : Ledger :=
  let address := memory.word field
  if address = 0 then ledger.visitNull field
  else
    let start := ledger.blockStart align
    { pieces := ledger.pieces ++
        [.aligned (max leastAlignment align) (memory.load address size)]
      blocks := ⟨address, start, size, element⟩ :: ledger.blocks
      visits := ledger.visit field (some start) }

def addString (ledger : Ledger) (memory : Memory) (field : Nat) : Ledger :=
  let address := memory.word field
  if address = 0 then ledger.visitNull field
  else
    match memory.string? address with
    | none => ledger
    | some text =>
        { pieces := ledger.pieces ++ [.plain text]
          blocks := ledger.blocks
          visits := ledger.visit field (some ledger.length) }

def record (ledger : Ledger) (call : Call) : Ledger :=
  match call.operation with
  | .enter field layout =>
      ledger.enterBlock call.memory field layout.align layout.size none
  | .enterArray field layout count =>
      ledger.enterBlock call.memory field layout.align (layout.size * count)
        (some layout.size)
  | .enterBlock field align size =>
      ledger.enterBlock call.memory field align size none
  | .addString field => ledger.addString call.memory field
  | .clear field => ledger.visitNull field
  | .leave => { ledger with blocks := ledger.blocks.tail }

def start (memory : Memory) (root : Option Nat) (size : Nat) : Ledger :=
  match root with
  | none => ⟨[], [], []⟩
  | some address =>
      ⟨[.plain (memory.load address size)], [⟨address, 0, size, none⟩], []⟩

end Ledger

structure Run where
  flattener : Flattener
  ledger : Ledger

namespace Run

def start (allocator : Allocator) (memory : Memory) (root : Option Nat)
    (size capacity : Nat) : Except Fault Run :=
  (Flattener.start allocator memory root size capacity).map
    fun flattener => ⟨flattener, Ledger.start memory root size⟩

/-- A call that fails leaves no trace in the ledger. -/
def call (run : Run) (call : Call) : Run :=
  match call.action run.flattener with
  | .ok _ flattener => ⟨flattener, run.ledger.record call⟩
  | .error _ flattener => ⟨flattener, run.ledger⟩

def calls (run : Run) (calls : List Call) : Run := calls.foldl Run.call run

end Run

end FlatGraph
