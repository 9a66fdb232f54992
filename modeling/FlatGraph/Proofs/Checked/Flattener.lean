import FlatGraph.Proofs.Frames
import FlatGraph.Proofs.Ledger.Abreast
import FlatGraph.Proofs.Checked.Buffer

/-!
The operations of a flattener by checked arithmetic. None of them wraps in any
state that a flattener or a buffer comes to.
-/

namespace FlatGraph

namespace Checked

variable {σ α : Type}

/-- The distance of two addresses as the machine forms it, read as a signed
number. This is the one difference that may wrap. -/
def wordDistance (field source : Nat) : Int :=
  (UInt64.ofNat field - UInt64.ofNat source).toInt64.toInt

def covers (frame : Frame) (field : Nat) : Action σ Bool := do
  if frame.source ≤ field ∧ wordSize ≤ frame.size then
    let distance ← sub field frame.source
    let last ← sub frame.size wordSize
    return distance ≤ last
  else return false

def slot (frame : Frame) (field : Nat) : Action σ Nat := do
  if ← covers frame field then
    let distance ← sub field frame.source
    add distance frame.target
  else
    throw (.fault
      (.fieldOutOfBounds (wordDistance field frame.source) frame.size))

def container (frame : Frame) (slot : Nat) : Action σ Nat := do
  if frame.stride = 0 then return frame.target
  else
    let distance ← sub slot frame.target
    let elements ← mul (distance / frame.stride) frame.stride
    add frame.target elements

def offsetTo (frame : Frame) (slot position : Nat) : Action σ Offset := do
  let start ← container frame slot
  let distance ← sub position start
  return ⟨distance⟩

def onBuffer (action : Action Buffer α) : Action Flattener α :=
  fun flattener =>
    match action flattener.buffer with
    | .ok value buffer => .ok value { flattener with buffer }
    | .error halt buffer => .error halt { flattener with buffer }

def slotOf (field : Nat) : Action Flattener (Option Flattener.Slot) := do
  let flattener ← get
  match flattener.frames with
  | [] => return none
  | frame :: _ =>
      let position ← slot frame field
      discard (add position wordSize)
      return some ⟨position, frame⟩

def writeNull : Option Flattener.Slot → Action Flattener Unit
  | none => pure ()
  | some slot => onBuffer (writeWord slot.position Offset.null.raw)

def writeOffset (target : Nat) :
    Option Flattener.Slot → Action Flattener Unit
  | none => pure ()
  | some slot => do
      let offset ← offsetTo slot.frame slot.position target
      onBuffer (writeWord slot.position offset.raw)

def reserveBlock (allocator : Allocator) (padding size : Nat) :
    Action Buffer Unit := do
  let additional ← orOverflow (padding + size)
  reserve allocator additional

def enterElements (allocator : Allocator) (memory : Memory)
    (field align size stride : Nat) : Action Flattener Bool := do
  let slot ← slotOf field
  let address := memory.word field
  if address = 0 then
    writeNull slot
    return false
  let start := (← get).position
  let target ← roundUp start (placementAlignment align)
  let padding ← sub target start
  onBuffer (reserveBlock allocator padding size)
  onBuffer (alignTo allocator (placementAlignment align))
  writeOffset target slot
  discard (onBuffer (append allocator (memory.load address size)))
  lift (Flattener.openFrame ⟨address, size, stride, target⟩)
  return true

def enterArray (allocator : Allocator) (memory : Memory) (field : Nat)
    (layout : Layout) (count : Nat) : Action Flattener Bool := do
  let size ← orOverflow (layout.size * count)
  enterElements allocator memory field layout.align size layout.size

def addString (allocator : Allocator) (memory : Memory) (field : Nat) :
    Action Flattener Unit := do
  let slot ← slotOf field
  let address := memory.word field
  if address = 0 then writeNull slot
  else
    match memory.string? address with
    | none => throw (.fault (.unterminatedString address))
    | some text => do
        onBuffer (reserve allocator text.length)
        writeOffset (← get).position slot
        discard (onBuffer (append allocator text))

def clear (field : Nat) : Action Flattener Unit := do
  match ← slotOf field with
  | none => throw (.fault .noOpenFrame)
  | some slot => writeNull (some slot)

def start (allocator : Allocator) (memory : Memory) (root : Option Nat)
    (size capacity : Nat) : Action Flattener Unit := do
  onBuffer (withCapacity allocator (max size capacity))
  match root with
  | none => pure ()
  | some address =>
      let position ←
        onBuffer (append allocator (memory.load address size))
      lift (Flattener.openFrame (.single address size position))

def call (request : Call) : Action Flattener Reply :=
  match request.operation with
  | .enter field layout =>
      .entered <$> enterElements request.allocator request.memory field
        layout.align layout.size layout.size
  | .enterArray field layout count =>
      .entered <$>
        enterArray request.allocator request.memory field layout count
  | .enterBlock field align size =>
      .entered <$>
        enterElements request.allocator request.memory field align size size
  | .addString field =>
      (fun _ => .done) <$> addString request.allocator request.memory field
  | .clear field => (fun _ => .done) <$> clear field
  | .leave => (fun _ => .done) <$> lift Flattener.leave

theorem wordDistance_eq (field source : Nat) :
    wordDistance field source = signedWord (field - source) := by
  change (BitVec.ofNat 64 field - BitVec.ofNat 64 source).toInt = _
  rw [BitVec.toInt_sub, BitVec.toInt_ofNat', BitVec.toInt_ofNat',
    Int.sub_bmod_bmod, Int.bmod_sub_bmod]
  rfl

section Frames

variable {frame : Frame} {field place position : Nat}

theorem covers_eq :
    (covers frame field : Action σ Bool) =
      pure (decide (frame.covers field)) := by
  unfold covers
  split
  · rename_i inside
    rw [sub_eq inside.1, pure_bind, sub_eq inside.2, pure_bind]
    exact congrArg pure (decide_eq_decide.mpr
      ⟨fun short => ⟨inside.1, inside.2, short⟩, fun covered => covered.2.2⟩)
  · rename_i outside
    exact congrArg pure (decide_eq_false fun covered =>
      outside ⟨covered.1, covered.2.1⟩).symm

theorem slot_of_covers (covered : frame.covers field)
    (bounded : frame.target + frame.size < wordLimit) :
    (slot frame field : Action σ Nat) =
      pure (field - frame.source + frame.target) := by
  obtain ⟨above, enough, short⟩ := covered
  rw [slot, covers_eq, decide_eq_true ⟨above, enough, short⟩, pure_bind,
    if_pos rfl, sub_eq above, pure_bind, add_eq (by omega)]

theorem slot_of_not_covers (missed : ¬ frame.covers field) :
    (slot frame field : Action σ Nat) =
      throw (.fault
        (.fieldOutOfBounds (signedWord (field - frame.source)) frame.size)) := by
  rw [slot, covers_eq, decide_eq_false missed, pure_bind, wordDistance_eq]
  rfl

theorem container_eq (above : frame.target ≤ place)
    (bounded : place < wordLimit) :
    (container frame place : Action σ Nat) = pure (frame.container place) := by
  have whole := Nat.div_mul_le_self (place - frame.target) frame.stride
  unfold container Frame.container
  split
  · rfl
  · rw [sub_eq above, pure_bind, mul_eq (by omega), pure_bind,
      add_eq (by omega)]

theorem offsetTo_eq (above : frame.target ≤ place) (behind : place ≤ position)
    (bounded : position < wordLimit) :
    (offsetTo frame place position : Action σ Offset) =
      pure (frame.offsetTo place position) := by
  have before := frame.container_le above
  rw [offsetTo, container_eq above (by omega), pure_bind,
    sub_eq (by omega), pure_bind]
  rfl

end Frames

section Exact

variable {flattener : Flattener}

theorem Exact.onBuffer {checked : Action Buffer α}
    {plain : Buffer.Action α}
    (exact : Exact checked plain flattener.buffer) :
    Exact (onBuffer checked) (Flattener.onBuffer plain) flattener := by
  apply of_same
  rw [Checked.onBuffer, Flattener.onBuffer, exact.same]
  cases plain flattener.buffer with
  | ok value buffer => rfl
  | error fault buffer => rfl

theorem slotOf_exact (wf : flattener.WellFormed) (field : Nat) :
    Exact (slotOf field) (Flattener.slotOf field) flattener := by
  have small := wf.valid.length_lt_wordLimit
  apply Exact.of_same
  rw [slotOf, Action.get_bind, Flattener.slotOf]
  cases opened : flattener.frames with
  | nil => rfl
  | cons frame rest =>
      have inside := wf.inside frame (by rw [opened]; exact List.mem_cons_self)
      change frame.target + frame.size ≤ flattener.buffer.length at inside
      dsimp only
      by_cases covered : frame.covers field
      · obtain ⟨above, within⟩ := Frame.covers_iff.mp covered
        rw [slot_of_covers covered (by omega), pure_bind,
          add_eq (by omega), Frame.slot_of_covers covered]
        rfl
      · rw [slot_of_not_covers covered, Frame.slot_of_not_covers covered]
        rfl

def Ahead (slot : Option Flattener.Slot) (target : Nat) : Prop :=
  ∀ place ∈ slot, place.frame.target ≤ place.position ∧
    place.position ≤ target

theorem Ahead.mono {slot : Option Flattener.Slot} {target later : Nat}
    (ahead : Ahead slot target) (further : target ≤ later) :
    Ahead slot later := fun place member =>
  ⟨(ahead place member).1, Nat.le_trans (ahead place member).2 further⟩

theorem writeNull_exact (valid : flattener.buffer.Valid)
    (slot : Option Flattener.Slot) :
    Exact (writeNull slot) (Flattener.writeNull slot) flattener := by
  cases slot with
  | none => exact .pure _ _
  | some slot => exact .onBuffer (writeWord_exact valid _ _)

theorem writeOffset_exact (valid : flattener.buffer.Valid)
    {slot : Option Flattener.Slot} {target : Nat} (ahead : Ahead slot target)
    (bounded : target < wordLimit) :
    Exact (writeOffset target slot) (Flattener.writeOffset target slot)
      flattener := by
  cases slot with
  | none => exact .pure _ _
  | some slot =>
      obtain ⟨above, behind⟩ := ahead slot rfl
      rw [writeOffset, offsetTo_eq above behind bounded, pure_bind]
      exact .onBuffer (writeWord_exact valid _ _)

theorem reserveBlock_exact {buffer : Buffer} (allocator : Allocator)
    (valid : buffer.Valid) (padding size : Nat) :
    Exact (reserveBlock allocator padding size)
      (Buffer.reserve allocator (padding + size)) buffer := by
  unfold reserveBlock
  by_cases fits : padding + size < wordLimit
  · rw [orOverflow_eq fits, pure_bind]
    exact reserve_exact allocator valid _
  · have most := valid.capacity_le_max
    have short : buffer.capacity - buffer.length < padding + size := by
      unfold maxCapacity at most
      unfold wordLimit at fits
      omega
    apply Exact.of_same
    rw [Buffer.reserve_eq, if_pos short, Buffer.grow,
      grownCapacity?_of_large (by omega), orOverflow, if_neg fits]
    rfl

theorem slotOf_ok (wf : flattener.WellFormed) {field : Nat}
    {slot : Option Flattener.Slot} {after : Flattener}
    (found : Flattener.slotOf field flattener = .ok slot after) :
    flattener = after ∧ Ahead slot flattener.position := by
  rw [Flattener.slotOf_eq] at found
  cases located : flattener.slotAt field with
  | error fault =>
      rw [located] at found
      cases found
  | ok slot =>
      rw [located] at found
      cases found
      refine ⟨rfl, fun place member => ?_⟩
      have fits := wf.fits located place member
      cases member
      obtain ⟨frame, rest, -, -, rfl⟩ := Flattener.slotAt_eq_some located
      exact ⟨Nat.le_add_left _ _, by omega⟩

theorem writeOffset_valid (valid : flattener.buffer.Valid)
    {slot : Option Flattener.Slot} {target : Nat} {after : Flattener}
    (ran : Flattener.writeOffset target slot flattener = .ok () after) :
    after.buffer.Valid := by
  cases slot with
  | none =>
      cases ran
      exact valid
  | some slot =>
      exact valid_of_ran valid ⟨fun _ => true, fun _ => 0, .writeWord _ _⟩ rfl
        (Flattener.onBuffer_ok ran)

theorem roundUp_position (valid : flattener.buffer.Valid) {alignment : Nat}
    (supported : isPowerOfTwo alignment ∧ alignment ≤ storageAlignment) :
    (roundUp flattener.position alignment : Action σ Nat) =
        pure (FlatGraph.roundUp flattener.position alignment) ∧
      flattener.position ≤ FlatGraph.roundUp flattener.position alignment ∧
      FlatGraph.roundUp flattener.position alignment < wordLimit := by
  have limited := roundUp_le_maxCapacity supported
    (Nat.le_trans valid.length_le_capacity valid.capacity_le_max)
  exact ⟨roundUp_length valid supported,
    le_roundUp (isPowerOfTwo_pos supported.1) _,
    Nat.lt_of_le_of_lt limited (by decide)⟩

theorem enterElements_exact (wf : flattener.WellFormed)
    (allocator : Allocator) (memory : Memory) (field : Nat) {align : Nat}
    (size stride : Nat)
    (supported : isPowerOfTwo (placementAlignment align) ∧
      placementAlignment align ≤ storageAlignment) :
    Exact (enterElements allocator memory field align size stride)
      (Flattener.enterElements allocator memory field align size stride)
      flattener := by
  obtain ⟨rounds, least, bounded⟩ :=
    @roundUp_position Flattener flattener wf.valid _ supported
  unfold enterElements Flattener.enterElements
  refine (slotOf_exact wf field).bind ?_
  intro slot _ found
  obtain ⟨rfl, ahead⟩ := slotOf_ok wf found
  by_cases null : memory.word field = 0
  · simp only [if_pos null]
    exact (writeNull_exact wf.valid slot).bind fun _ _ _ => .pure _ _
  · simp only [if_neg null]
    refine .get ?_
    rw [rounds, pure_bind, sub_eq least, pure_bind]
    refine (Exact.onBuffer
      (reserveBlock_exact allocator wf.valid _ size)).bind ?_
    intro _ reserved reserving
    have roomy := (Buffer.reserve_ok
      (Flattener.onBuffer_ok reserving)).valid wf.valid
    refine (Exact.onBuffer (alignTo_exact allocator roomy _)).bind ?_
    intro _ aligned aligning
    have padded := valid_of_ran roomy
      ⟨allocator, fun _ => 0, .alignTo _⟩ rfl (Flattener.onBuffer_ok aligning)
    refine (writeOffset_exact padded (ahead.mono least) bounded).bind ?_
    intro _ marked marking
    have written := writeOffset_valid padded marking
    refine (Exact.onBuffer (append_exact allocator written _)).discard.bind ?_
    intro _ filled _
    exact (Exact.lift _ filled).bind fun _ _ _ => .pure _ _

theorem enterArray_exact (wf : flattener.WellFormed)
    (allocator : Allocator) (memory : Memory) (field : Nat) {layout : Layout}
    (count : Nat)
    (supported : isPowerOfTwo (placementAlignment layout.align) ∧
      placementAlignment layout.align ≤ storageAlignment) :
    Exact (enterArray allocator memory field layout count)
      (Flattener.enterArray allocator memory field layout count)
      flattener := by
  unfold enterArray Flattener.enterArray
  by_cases fits : layout.size * count < wordLimit
  · rw [orOverflow_eq fits, pure_bind, if_pos fits]
    exact enterElements_exact wf allocator memory field _ _ supported
  · rw [orOverflow, if_neg fits, if_neg fits]
    exact .of_same rfl

theorem addString_exact (wf : flattener.WellFormed) (allocator : Allocator)
    (memory : Memory) (field : Nat) :
    Exact (addString allocator memory field)
      (Flattener.addString allocator memory field) flattener := by
  unfold addString Flattener.addString
  refine (slotOf_exact wf field).bind ?_
  intro slot _ found
  obtain ⟨rfl, ahead⟩ := slotOf_ok wf found
  by_cases null : memory.word field = 0
  · simp only [if_pos null]
    exact writeNull_exact wf.valid slot
  · simp only [if_neg null]
    cases memory.string? (memory.word field) with
    | none => exact .throw _ _
    | some text =>
        refine (Exact.onBuffer (reserve_exact allocator wf.valid _)).bind ?_
        intro _ reserved reserving
        have reservation := Buffer.reserve_ok (Flattener.onBuffer_ok reserving)
        have roomy := reservation.valid wf.valid
        have kept : flattener.position ≤ reserved.position :=
          Nat.le_of_eq reservation.length_eq.symm
        refine .get ?_
        refine (writeOffset_exact roomy (ahead.mono kept)
          roomy.length_lt_wordLimit).bind ?_
        intro _ marked marking
        have written := writeOffset_valid roomy marking
        exact (Exact.onBuffer (append_exact allocator written text)).discard

theorem clear_exact (wf : flattener.WellFormed) (field : Nat) :
    Exact (clear field) (Flattener.clear field) flattener := by
  unfold clear Flattener.clear
  refine (slotOf_exact wf field).bind ?_
  intro slot _ found
  obtain ⟨rfl, -⟩ := slotOf_ok wf found
  cases slot with
  | none => exact .throw _ _
  | some slot => exact writeNull_exact wf.valid (some slot)

theorem made_onBuffer (action : Action Buffer Unit) (flattener : Flattener) :
    made (onBuffer action) flattener =
      (made action flattener.buffer).map
        fun buffer => { flattener with buffer } := by
  unfold made onBuffer
  cases action flattener.buffer with
  | ok _ buffer => rfl
  | error halt buffer => rfl

theorem start_exact (allocator : Allocator) (memory : Memory)
    (root : Option Nat) (size capacity : Nat) :
    made (start allocator memory root size capacity) ⟨Buffer.empty, []⟩ =
      (Flattener.start allocator memory root size capacity).mapError
        .fault := by
  unfold start Flattener.start
  rw [made_bind, made_onBuffer, withCapacity_exact]
  cases created : Buffer.withCapacity allocator (max size capacity) with
  | error fault => rfl
  | ok buffer =>
      have valid := (Buffer.withCapacity_ok created).1
      cases root with
      | none => rfl
      | some address =>
          let opened : Flattener := ⟨buffer, []⟩
          have same := (Exact.onBuffer (append_exact allocator valid
            (memory.load address size)) : Exact _ _ opened).same
          change made (onBuffer (append allocator (memory.load address size))
            >>= _) opened = _
          cases appended : Buffer.append allocator (memory.load address size)
              buffer with
          | ok position filled =>
              rw [Flattener.onBuffer_of_ok appended] at same
              rw [made, Action.bind_of_ok same]
              simp only [Except.bind, appended]
              rfl
          | error fault after =>
              rw [Flattener.onBuffer_of_error appended] at same
              rw [made_of_error (Action.bind_of_error same)]
              simp only [Except.bind, appended]
              rfl

end Exact

end Checked

def Operation.alignment? : Operation → Option Nat
  | .enter _ layout => some layout.align
  | .enterArray _ layout _ => some layout.align
  | .enterBlock _ align _ => some align
  | .addString _ => none
  | .clear _ => none
  | .leave => none

def Operation.Placeable (operation : Operation) : Prop :=
  ∀ align ∈ operation.alignment?,
    isPowerOfTwo align = true ∧ align ≤ storageAlignment

theorem Checked.call_exact {flattener : Flattener}
    (wf : flattener.WellFormed) {request : Call}
    (placeable : request.operation.Placeable) :
    Exact (call request) request.action flattener := by
  obtain ⟨allocator, memory, operation⟩ := request
  cases operation with
  | enter field layout =>
      exact (enterElements_exact wf allocator memory field _ _
        (placementAlignment_supported (placeable _ rfl))).map
  | enterArray field layout count =>
      exact (enterArray_exact wf allocator memory field count
        (placementAlignment_supported (placeable _ rfl))).map
  | enterBlock field align size =>
      exact (enterElements_exact wf allocator memory field _ _
        (placementAlignment_supported (placeable _ rfl))).map
  | addString field => exact (addString_exact wf allocator memory field).map
  | clear field => exact (clear_exact wf field).map
  | leave => exact (Exact.lift _ _).map

end FlatGraph
