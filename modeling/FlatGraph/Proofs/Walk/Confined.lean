import FlatGraph.Proofs.Faults
import FlatGraph.Proofs.Ledger.Run
import FlatGraph.Proofs.Walk.Mirror
import FlatGraph.Proofs.Walk.RoundTrip
import FlatGraph.Proofs.Walk.Value

/-!
What a walk over one structure may touch: it leaves the open structures as
they were, and of the bytes that were there it changes the slots of that
structure alone. It fails only if the buffer does not grow.
-/

namespace FlatGraph

variable {count : Nat}

/-- A layout that the output can hold, with room for every link. -/
structure StructType.Supported (type : StructType count) : Prop where
  inside : ∀ link ∈ type.links, link.offset + wordSize ≤ type.layout.size
  power : isPowerOfTwo type.layout.align = true
  bounded : type.layout.align ≤ storageAlignment

instance (type : StructType count) : Decidable type.Supported :=
  decidable_of_iff
    ((∀ link ∈ type.links, link.offset + wordSize ≤ type.layout.size) ∧
      isPowerOfTwo type.layout.align = true ∧
      type.layout.align ≤ storageAlignment)
    ⟨fun ⟨inside, power, bounded⟩ => ⟨inside, power, bounded⟩,
      fun supported =>
        ⟨supported.inside, supported.power, supported.bounded⟩⟩

def Schema.Supported (schema : Schema count) : Prop :=
  ∀ type, (schema type).Supported

instance (schema : Schema count) : Decidable schema.Supported :=
  inferInstanceAs (Decidable (∀ type, (schema type).Supported))

theorem StructType.Supported.placement {type : StructType count}
    (supported : type.Supported) :
    isPowerOfTwo (placementAlignment type.layout.align) = true ∧
      placementAlignment type.layout.align ≤ storageAlignment :=
  placementAlignment_supported ⟨supported.power, supported.bounded⟩

namespace Flattener

/-- The open structures are what they were, and of the bytes that were there
none has changed outside of the slots. -/
structure Confined (slots : Nat → Prop) (before after : Flattener) :
    Prop where
  wf : after.WellFormed
  frames_eq : after.frames = before.frames
  longer : before.position ≤ after.position
  kept : ∀ place < before.position,
    (∀ slot, slots slot → Outside place slot) →
      after.image.byte place = before.image.byte place

/-- An action ends with some slots written, or because the buffer does not
grow. -/
def Confines (slots : Nat → Prop) (before : Flattener) :
    EStateM.Result Fault Flattener Unit → Prop
  | .ok _ after => Confined slots before after
  | .error fault _ => fault.OfGrowth

section Confined

variable {slots others : Nat → Prop} {before middle after : Flattener}

theorem Confined.refl (wf : before.WellFormed) :
    Confined slots before before :=
  ⟨wf, rfl, Nat.le_refl _, fun _ _ _ => rfl⟩

theorem Confined.trans (first : Confined slots before middle)
    (second : Confined slots middle after) : Confined slots before after := by
  refine ⟨second.wf, second.frames_eq.trans first.frames_eq,
    Nat.le_trans first.longer second.longer, ?_⟩
  intro place inside outside
  have longer := first.longer
  exact (second.kept place (by omega) outside).trans
    (first.kept place inside outside)

theorem Confined.imp (confined : Confined slots before after)
    (more : ∀ slot, slots slot → others slot) :
    Confined others before after :=
  ⟨confined.wf, confined.frames_eq, confined.longer,
    fun place inside outside => confined.kept place inside
      fun slot owned => outside slot (more slot owned)⟩

theorem Confines.imp {result : EStateM.Result Fault Flattener Unit}
    (confines : Confines slots before result)
    (more : ∀ slot, slots slot → others slot) :
    Confines others before result := by
  cases result with
  | ok _ after => exact Confined.imp confines more
  | error fault after => exact confines

theorem Confines.bind {action rest : Action Unit}
    (first : Confines slots before (action before))
    (second : ∀ middle, Confined slots before middle →
      Confines slots middle (rest middle)) :
    Confines slots before ((action >>= fun _ => rest) before) := by
  cases ran : action before with
  | error fault after =>
      rw [ran] at first
      rw [Action.bind_of_error ran]
      exact first
  | ok _ middle =>
      rw [ran] at first
      have next := second middle first
      rw [Action.bind_of_ok ran]
      cases finished : rest middle with
      | error fault after =>
          rw [finished] at next
          exact next
      | ok _ after =>
          rw [finished] at next
          exact Confined.trans first next

end Confined

section Operations

variable {before after : Flattener} {allocator : Allocator} {memory : Memory}
  {address position size offset : Nat}

theorem Written.confined {value added : Nat}
    (written : before.Written after (position + offset) value added)
    (frames_eq : after.frames = before.frames) :
    Confined (· = position + offset) before after := by
  have position_eq := written.position_eq
  refine ⟨written.wf, frames_eq, by omega, ?_⟩
  intro place inside outside
  exact written.kept place inside (outside _ rfl)

theorem Mirrors.addString_confines
    (mirrors : before.Mirrors address position size)
    (wf : before.WellFormed) (inside : offset + wordSize ≤ size)
    (ends : memory.word (address + offset) ≠ 0 →
      (memory.string? (memory.word (address + offset))).isSome) :
    Confines (· = position + offset) before
      (addString allocator memory (address + offset) before) := by
  obtain ⟨frame, found, -⟩ := mirrors.slotAt_eq inside
  cases adding : addString allocator memory (address + offset) before with
  | error fault after =>
      rcases wf.addString_fault adding with
        missed | growth | ⟨-, here, endless⟩
      · cases found.symm.trans missed
      · exact growth
      · have text := ends here
        rw [endless] at text
        cases text
  | ok _ after =>
      obtain ⟨frames_eq, ⟨-, written⟩ | ⟨-, text, -, written, -⟩⟩ :=
        mirrors.addString_ok wf inside adding
      · exact written.confined frames_eq
      · exact written.confined frames_eq

theorem Mirrors.clear_confines
    (mirrors : before.Mirrors address position size)
    (wf : before.WellFormed) (inside : offset + wordSize ≤ size) :
    Confines (· = position + offset) before
      (clear (address + offset) before) := by
  obtain ⟨frame, found, -⟩ := mirrors.slotAt_eq inside
  cases clearing : clear (address + offset) before with
  | error fault after =>
      obtain ⟨-, missed | ⟨-, closed⟩⟩ := clear_error wf clearing
      · cases found.symm.trans missed
      · rw [slotAt_nil _ closed] at found
        cases found
  | ok _ after =>
      obtain ⟨frames_eq, written⟩ := mirrors.clear_ok wf inside clearing
      exact written.confined frames_eq

/-- What is done to a block between entering and leaving it touches nothing
that was there before but the slot that leads to the block. -/
theorem Entered.confines {source block stride start : Nat}
    {inner : Action Unit}
    (entered : Entered memory before after source (position + offset)
      position block stride start)
    (walked : Confines (start ≤ ·) after (inner after)) :
    Confines (· = position + offset) before
      ((inner >>= fun _ => Flattener.leave) after) := by
  cases ran : inner after with
  | error fault filled =>
      rw [ran] at walked
      rw [Action.bind_of_error ran]
      exact walked
  | ok _ filled =>
      rw [ran] at walked
      rw [Action.bind_of_ok ran]
      have opened := walked.frames_eq.trans entered.frames_eq
      have left : Flattener.leave filled =
          .ok () { filled with frames := before.frames } := by
        rw [Flattener.leave, opened]
      have behind := entered.behind
      have position_eq := entered.position_eq
      have longer := walked.longer
      rw [left]
      refine ⟨walked.wf.leave_ok left, rfl, ?_, ?_⟩
      · change before.position ≤ filled.position
        omega
      · intro place inside outside
        refine (walked.kept place (by omega) ?_).trans
          (entered.kept place inside (outside _ rfl))
        intro slot above
        exact .inl (by omega)

theorem Mirrors.enterElements_confines {align block stride : Nat}
    {inner : Action Unit}
    (mirrors : before.Mirrors address position size)
    (wf : before.WellFormed) (inside : offset + wordSize ≤ size)
    (supported : isPowerOfTwo (placementAlignment align) = true ∧
      placementAlignment align ≤ storageAlignment)
    (walks : memory.word (address + offset) ≠ 0 → ∀ start after,
      Entered memory before after (memory.word (address + offset))
        (position + offset) position block stride start →
      Confines (start ≤ ·) after (inner after)) :
    Confines (· = position + offset) before
      ((do
        if ← enterElements allocator memory (address + offset) align block
            stride then
          inner
          leave : Action Unit) before) := by
  obtain ⟨frame, found, -⟩ := mirrors.slotAt_eq inside
  cases entering : enterElements allocator memory (address + offset) align
      block stride before with
  | error fault after =>
      rw [Action.bind_of_error entering]
      rcases wf.enterElements_fault entering with
        missed | growth | ⟨-, unsupported⟩
      · cases found.symm.trans missed
      · exact growth
      · exact absurd supported unsupported
  | ok present after =>
      rw [Action.bind_of_ok entering]
      rcases mirrors.enterElements_ok wf inside entering with
        ⟨-, rfl, frames_eq, written⟩ | ⟨here, rfl, start, entered⟩
      · exact written.confined frames_eq
      · exact entered.confines (walks here start after entered)

end Operations

end Flattener

open Flattener Schema

section Walk

variable {schema : Schema count} {memory : Memory} {allocator : Allocator}
  {visit : Fin count → Nat → Action Unit} {follows : Node count → Prop}
  {type : Fin count} {address position : Nat} {before : Flattener}

def Visits (schema : Schema count) (visit : Fin count → Nat → Action Unit)
    (follows : Node count → Prop) : Prop :=
  ∀ {type : Fin count} {address position : Nat} {before : Flattener},
    before.WellFormed →
    before.Mirrors address position (schema type).layout.size →
    follows (type, address) →
    Confines (fun slot => (Part.value type).Slot schema position slot) before
      (visit type address before)

theorem forElements_confines (visits : Visits schema visit follows)
    {start total : Nat} (wf : before.WellFormed) (above : start ≤ position)
    (mirrors : ∀ index < total,
      before.Mirrors (address + (schema type).layout.size * index)
        (position + (schema type).layout.size * index)
        (schema type).layout.size)
    (followed : ∀ index < total,
      follows (type, address + (schema type).layout.size * index)) :
    Confines (start ≤ ·) before
      (forElements (visit type) (schema type).layout.size total address
        before) := by
  induction total generalizing address position before with
  | zero => exact Confined.refl wf
  | succ total ih =>
      refine Confines.bind ?_ fun middle confined => ?_
      · refine (visits wf (mirrors 0 (Nat.succ_pos _))
          (followed 0 (Nat.succ_pos _))).imp ?_
        rintro slot ⟨link, member, rfl⟩
        rw [Nat.mul_zero]
        omega
      · have beyond :=
          Nat.le_trans above (Nat.le_add_right _ (schema type).layout.size)
        refine ih confined.wf beyond ?_ ?_
        · intro index short
          have next := mirrors (index + 1) (Nat.succ_lt_succ short)
          rw [Part.element_succ, Part.element_succ] at next
          exact next.of_frames_eq confined.frames_eq
        · intro index short
          have next := followed (index + 1) (Nat.succ_lt_succ short)
          rw [Part.element_succ] at next
          exact next

theorem forM_confines {slots : Nat → Prop} {links : List (Link count)}
    {visitOne : Link count → Action Unit} (wf : before.WellFormed)
    (confines : ∀ link ∈ links, ∀ middle : Flattener, middle.WellFormed →
      middle.frames = before.frames →
        Confines slots middle (visitOne link middle)) :
    Confines slots before (links.forM visitOne before) := by
  induction links generalizing before with
  | nil => exact Confined.refl wf
  | cons link links ih =>
      refine Confines.bind
        (confines link List.mem_cons_self before wf rfl)
        fun middle confined => ih confined.wf ?_
      intro other member next nextWf same
      exact confines other (List.mem_cons_of_mem _ member) next nextWf
        (same.trans confined.frames_eq)

theorem visitLink_structure {link : Link count} {target : Fin count}
    (kind : link.target = .structure target) :
    schema.visitLink (Flattener.visitor allocator memory) memory visit address
        link =
      (do
        if ← enterElements allocator memory (address + link.offset)
            (schema target).layout.align (schema target).layout.size
            (schema target).layout.size then
          visit target (memory.word (address + link.offset))
          leave : Action Unit) := by
  rw [Schema.visitLink, kind]
  rfl

def visitElements (schema : Schema count)
    (visit : Fin count → Nat → Action Unit) (type : Fin count)
    (total first : Nat) : Action Unit :=
  if schema.isPlain type then pure ()
  else forElements (visit type) (schema type).layout.size total first

theorem visitLink_array {link : Link count} {target : Fin count}
    {length : LengthField} (kind : link.target = .array target length) :
    schema.visitLink (Flattener.visitor allocator memory) memory visit address
        link before =
      if (schema target).layout.size * length.read memory address <
          wordLimit then
        (do
          if ← enterElements allocator memory (address + link.offset)
              (schema target).layout.align
              ((schema target).layout.size * length.read memory address)
              (schema target).layout.size then
            visitElements schema visit target (length.read memory address)
              (memory.word (address + link.offset))
            leave : Action Unit) before
      else .error .capacityOverflow before := by
  have entering := enterArray_eq allocator memory (address + link.offset)
    (schema target).layout (length.read memory address) before
  rw [Schema.visitLink, kind]
  split at entering
  · rename_i small
    rw [if_pos small]
    refine (Action.bind_congr_left entering).trans ?_
    unfold visitElements
    cases schema.isPlain target with
    | true => rfl
    | false => rfl
  · rename_i large
    rw [if_neg large]
    exact Action.bind_of_error entering

theorem visitLink_string {link : Link count} (kind : link.target = .string) :
    schema.visitLink (Flattener.visitor allocator memory) memory visit address
        link = addString allocator memory (address + link.offset) := by
  rw [Schema.visitLink, kind]
  rfl

theorem visitLink_nothing {link : Link count} (kind : link.target = .nothing) :
    schema.visitLink (Flattener.visitor allocator memory) memory visit address
        link = clear (address + link.offset) := by
  rw [Schema.visitLink, kind]
  rfl

theorem bind_outcome_eq_ok {action : Action Unit}
    {started : Except Fault Flattener} {buffer : Buffer}
    (ran : started.bind (Flattener.outcome action) = .ok buffer) :
    ∃ opened finished, started = .ok opened ∧
      action opened = .ok () finished ∧ finished.buffer = buffer := by
  cases started with
  | error fault => cases ran
  | ok opened =>
      change Flattener.outcome action opened = .ok buffer at ran
      unfold Flattener.outcome at ran
      cases acting : action opened with
      | error fault after =>
          rw [acting] at ran
          cases ran
      | ok _ finished =>
          rw [acting] at ran
          cases ran
          exact ⟨opened, finished, rfl, acting, rfl⟩

theorem flatten_ok {root capacity : Nat} {buffer : Buffer}
    (flattened : schema.flatten allocator memory type root capacity =
      .ok buffer) :
    ∃ opened walked left,
      start allocator memory (some root) (schema type).layout.size capacity =
        .ok opened ∧
      schema.visitLinks (Flattener.visitor allocator memory) memory
        (depthBound count) type root opened = .ok () walked ∧
      leave walked = .ok () left ∧
      Buffer.shrinkToFit allocator left.buffer = .ok () buffer := by
  obtain ⟨opened, finished, started, whole, rfl⟩ :=
    bind_outcome_eq_ok flattened
  obtain ⟨⟨⟩, left, visited, shrinking⟩ := Action.bind_eq_ok_iff.mp whole
  unfold Schema.visitValue at visited
  obtain ⟨⟨⟩, walked, walking, leaving⟩ := Action.bind_eq_ok_iff.mp visited
  exact ⟨opened, walked, left, started, walking, leaving,
    onBuffer_ok shrinking⟩

theorem visitLink_confines (visits : Visits schema visit follows)
    (supported : schema.Supported) {link : Link count}
    (member : link ∈ (schema type).links) (wf : before.WellFormed)
    (mirrors : before.Mirrors address position (schema type).layout.size)
    (followed : FollowsLink schema memory follows address link) :
    Confines (· = position + link.offset) before
      (schema.visitLink (Flattener.visitor allocator memory) memory visit
        address link before) := by
  have inside := (supported type).inside link member
  unfold FollowsLink at followed
  cases kind : link.target with
  | «structure» target =>
      rw [visitLink_structure kind]
      rw [kind] at followed
      refine mirrors.enterElements_confines wf inside
        (supported target).placement ?_
      intro here start after entered
      refine (visits entered.wf (mirrors_structure entered.frames_eq)
        (followed here)).imp ?_
      rintro slot ⟨inner, -, rfl⟩
      exact Nat.le_add_right _ _
  | array target length =>
      rw [visitLink_array kind]
      rw [kind] at followed
      split
      · refine mirrors.enterElements_confines wf inside
          (supported target).placement ?_
        intro here start after entered
        unfold visitElements
        split
        · exact Confined.refl entered.wf
        · exact forElements_confines visits entered.wf (Nat.le_refl _)
            (fun index short => mirrors_element entered.frames_eq short)
            (followed here)
      · trivial
  | string =>
      rw [visitLink_string kind]
      rw [kind] at followed
      exact mirrors.addString_confines wf inside followed
  | nothing =>
      rw [visitLink_nothing kind]
      exact mirrors.clear_confines wf inside

theorem visitLinks_confines (supported : schema.Supported)
    (allocator : Allocator) (depth : Nat) :
    Visits schema
      (schema.visitLinks (Flattener.visitor allocator memory) memory depth)
      (Follows schema memory depth) := by
  induction depth with
  | zero =>
      intro type address position before wf mirrors followed
      cases followed
  | succ depth ih =>
      intro type address position before wf mirrors followed
      obtain ⟨-, followed⟩ := followed
      rw [Schema.visitLinks]
      refine forM_confines wf fun link member middle middleWf same => ?_
      refine (visitLink_confines ih supported member middleWf
        (mirrors.of_frames_eq same) (followed link member)).imp ?_
      rintro slot rfl
      exact ⟨link, member, rfl⟩

end Walk

/-- A frame for the one structure of `size` bytes at an address, or for an
array of which this structure is an element; its copy begins at a position. -/
inductive Frame.Holds (size : Nat) : Frame → (address position : Nat) → Prop
    where
  | whole (address position : Nat) :
      Holds size (.single address size position) address position
  | element {source total target index : Nat} (inside : index < total) :
      Holds size ⟨source, size * total, size, target⟩
        (source + size * index) (target + size * index)

theorem Frame.Holds.mirrors {frame : Frame} {rest : List Frame}
    {size address position : Nat} {flattener : Flattener}
    (holds : frame.Holds size address position)
    (opened : flattener.frames = frame :: rest) :
    flattener.Mirrors address position size := by
  cases holds with
  | whole => exact mirrors_structure opened
  | element inside => exact mirrors_element opened inside

theorem Flattener.Confined.getElem?_eq {slots : Nat → Prop}
    {before after : Flattener} (confined : Confined slots before after)
    {place : Nat} (inside : place < before.position)
    (outside : ∀ slot, slots slot → Outside place slot) :
    after.buffer.bytes[place]? = before.buffer.bytes[place]? := by
  have longer := confined.longer
  have there : place < after.buffer.bytes.length :=
    Nat.lt_of_lt_of_le inside longer
  have same := confined.kept place inside outside
  rw [Memory.getElem?_ofBytes there, Memory.getElem?_ofBytes inside]
  exact congrArg some same

/-- What a walk over the structure at an address comes to, when its copy is at
a position: the same structures are open as before, bytes have been added at
the end, and of those that were there only slots of this structure have
changed; or else the buffer did not grow. -/
def Schema.Balances (schema : Schema count) (type : Fin count)
    (position : Nat) (before : Flattener) :
    EStateM.Result Fault Flattener Unit → Prop
  | .ok _ after =>
      after.frames = before.frames ∧
      before.position ≤ after.position ∧
      ∀ place < before.position,
        (∀ link ∈ (schema type).links,
          Outside place (position + link.offset)) →
        after.buffer.bytes[place]? = before.buffer.bytes[place]?
  | .error fault _ => fault.OfGrowth

theorem visitLinks_balances {schema : Schema count}
    (supported : schema.Supported) {allocator : Allocator} {first : Memory}
    {root : Option Nat} {size capacity : Nat} {opened : Run}
    (started : Run.start allocator first root size capacity = .ok opened)
    {before : Flattener} (reached : opened.Reaches before)
    {frame : Frame} {rest : List Frame}
    (frames : before.frames = frame :: rest) {type : Fin count}
    {address position : Nat}
    (holds : frame.Holds (schema type).layout.size address position)
    {memory : Memory} (valid : schema.Valid memory (type, address))
    (other : Allocator) :
    schema.Balances type position before
      (schema.visitLinks (Flattener.visitor other memory) memory
        (depthBound count) type address before) := by
  have wf := reached.wf (Run.start_sound started)
  have confines := visitLinks_confines supported other (depthBound count) wf
    (holds.mirrors frames) valid.follows
  cases ran : schema.visitLinks (Flattener.visitor other memory) memory
      (depthBound count) type address before with
  | error fault after =>
      rw [ran] at confines
      exact confines
  | ok _ after =>
      rw [ran] at confines
      refine ⟨confines.frames_eq, confines.longer, ?_⟩
      intro place inside outside
      refine confines.getElem?_eq inside ?_
      rintro slot ⟨link, member, rfl⟩
      exact outside link member

def sampleStart : Run where
  flattener := ⟨⟨sampleSource.load 16 40, 48⟩, [Frame.single 16 40 0]⟩
  ledger := Ledger.start sampleSource (some 16) 40

def samplePairs : Run :=
  sampleStart.calls [⟨fun _ => true, sampleSource, .enterArray 32 ⟨16, 8⟩ 2⟩]

theorem visitLinks_balances_sample :
    sampleSchema.Balances 1 (40 + 16 * 1) samplePairs.flattener
      (sampleSchema.visitLinks
        (Flattener.visitor (fun _ => false) sampleSource) sampleSource
        (depthBound 2) 1 (112 + 16 * 1) samplePairs.flattener) := by
  have started : Run.start (fun _ => true) sampleSource (some 16) 40 0 =
    .ok sampleStart := rfl
  have valid : sampleSchema.Valid sampleSource (1, 112 + 16 * 1) :=
    Follows.valid (by decide +kernel :
      sampleSchema.Follows sampleSource 1 (1, 112 + 16 * 1))
  exact visitLinks_balances (by decide +kernel) started ⟨_, rfl⟩
    (by decide +kernel : samplePairs.flattener.frames =
      [⟨112, 16 * 2, 16, 40⟩, Frame.single 16 40 0])
    (.element (by decide)) valid (fun _ => false)

end FlatGraph
