import FlatGraph.Proofs.Flattener
import FlatGraph.Proofs.Ledger.Basic

/-!
The ledger of a run describes its output: the pieces one after another, with
the visited slots overwritten in the order of the visits. Every block that the
ledger knows lies apart from the others, and every slot inside its block.
-/

namespace FlatGraph

/-- Bytes with the slots of some visits overwritten, the earliest first. -/
def overwrite (visits : List Visit) (bytes : Bytes) : Bytes :=
  visits.foldr (fun visit bytes =>
    Buffer.patch bytes visit.slot (encodeWord visit.offset)) bytes

@[simp] theorem overwrite_cons (visit : Visit) (visits : List Visit)
    (bytes : Bytes) :
    overwrite (visit :: visits) bytes =
      Buffer.patch (overwrite visits bytes) visit.slot
        (encodeWord visit.offset) := rfl

theorem overwrite_length {visits : List Visit} {bytes : Bytes}
    (inside : ∀ visit ∈ visits, visit.slot + wordSize ≤ bytes.length) :
    (overwrite visits bytes).length = bytes.length := by
  induction visits with
  | nil => rfl
  | cons visit visits ih =>
      have older := ih fun other member =>
        inside other (List.mem_cons_of_mem _ member)
      rw [overwrite_cons, Buffer.patch_length, older]
      rw [encodeWord_length, older]
      exact inside visit List.mem_cons_self

theorem overwrite_append {visits : List Visit} {bytes extra : Bytes}
    (inside : ∀ visit ∈ visits, visit.slot + wordSize ≤ bytes.length) :
    overwrite visits (bytes ++ extra) = overwrite visits bytes ++ extra := by
  induction visits with
  | nil => rfl
  | cons visit visits ih =>
      have rest : ∀ visit ∈ visits, visit.slot + wordSize ≤ bytes.length :=
        fun other member => inside other (List.mem_cons_of_mem _ member)
      rw [overwrite_cons, overwrite_cons, ih rest, Buffer.patch_append]
      rw [encodeWord_length, overwrite_length rest]
      exact inside visit List.mem_cons_self

def Block.frame (block : Block) : Frame :=
  ⟨block.source, block.size, block.element.getD block.size, block.start⟩

structure Block.Placed (block : Block) (length : Nat) : Prop where
  inside : block.start + block.size ≤ length
  divided : ∀ element ∈ block.element, element ∣ block.size

structure Visit.Sound (visit : Visit) (length : Nat) : Prop where
  above : visit.block.start ≤ visit.slot
  below : visit.slot + wordSize ≤ visit.block.start + visit.block.size
  placed : visit.block.Placed length
  beyond : ∀ target ∈ visit.target,
    visit.block.start + visit.block.size ≤ target ∧ target ≤ length

theorem Block.Placed.mono {block : Block} {length longer : Nat}
    (placed : block.Placed length) (more : length ≤ longer) :
    block.Placed longer :=
  ⟨Nat.le_trans placed.inside more, placed.divided⟩

theorem Visit.Sound.mono {visit : Visit} {length longer : Nat}
    (sound : visit.Sound length) (more : length ≤ longer) :
    visit.Sound longer := by
  refine ⟨sound.above, sound.below, sound.placed.mono more, ?_⟩
  intro target member
  obtain ⟨behind, inside⟩ := sound.beyond target member
  exact ⟨behind, Nat.le_trans inside more⟩

theorem Visit.Sound.inside {visit : Visit} {length : Nat}
    (sound : visit.Sound length) : visit.slot + wordSize ≤ length :=
  Nat.le_trans sound.below sound.placed.inside

theorem Frame.container_eq_sub_mod {frame : Frame} {slot : Nat}
    (above : frame.target ≤ slot) (nonzero : frame.stride ≠ 0) :
    frame.container slot = slot - (slot - frame.target) % frame.stride := by
  have division := Nat.div_add_mod (slot - frame.target) frame.stride
  unfold Frame.container
  rw [if_neg nonzero, Nat.mul_comm]
  omega

theorem Visit.Sound.container_eq {visit : Visit} {length : Nat}
    (sound : visit.Sound length) :
    visit.block.frame.container visit.slot = visit.container := by
  obtain ⟨slot, ⟨source, start, size, element⟩, target⟩ := visit
  obtain ⟨above, below, placed, -⟩ := sound
  have positive : 0 < wordSize := by decide
  simp only at above below
  cases element with
  | none =>
      refine (Frame.container_eq_sub_mod above (?_ : size ≠ 0)).trans ?_
      · omega
      · change slot - (slot - start) % size = start
        rw [Nat.mod_eq_of_lt (by omega)]
        omega
  | some stride =>
      have divided : stride ∣ size := placed.divided stride rfl
      refine (Frame.container_eq_sub_mod above (?_ : stride ≠ 0)).trans rfl
      rintro rfl
      have empty := Nat.eq_zero_of_zero_dvd divided
      omega

theorem Visit.Sound.container_le {visit : Visit} {length : Nat}
    (sound : visit.Sound length) :
    visit.block.start ≤ visit.container ∧ visit.container ≤ visit.slot := by
  obtain ⟨slot, ⟨source, start, size, element⟩, target⟩ := visit
  obtain ⟨above, -, -, -⟩ := sound
  simp only at above
  simp only [Visit.container]
  cases element with
  | none => exact ⟨Nat.le_refl _, above⟩
  | some stride =>
      have bounded := Nat.mod_le (slot - start) stride
      simp only
      omega

theorem Visit.Sound.word_eq {visit : Visit} {length : Nat}
    (sound : visit.Sound length) :
    Flattener.Slot.word ⟨visit.slot, visit.block.frame⟩ visit.target =
      visit.offset := by
  unfold Flattener.Slot.word Visit.offset
  cases visit.target with
  | none => rfl
  | some target =>
      change target - visit.block.frame.container visit.slot = _
      rw [sound.container_eq]

namespace Ledger

def output (ledger : Ledger) : Bytes :=
  overwrite ledger.visits (tile ledger.pieces)

def known (ledger : Ledger) : List Block :=
  ledger.blocks ++ ledger.visits.map Visit.block

structure Sound (ledger : Ledger) : Prop where
  placed : ∀ block ∈ ledger.known, block.Placed ledger.length
  visits : ∀ visit ∈ ledger.visits, visit.Sound ledger.length
  apart : ∀ left ∈ ledger.known, ∀ right ∈ ledger.known, left = right ∨
    left.start + left.size ≤ right.start ∨
    right.start + right.size ≤ left.start

theorem Sound.output_length {ledger : Ledger} (sound : ledger.Sound) :
    ledger.output.length = ledger.length :=
  overwrite_length fun visit member => (sound.visits visit member).inside

/-- A ledger that has grown at its end, that knows at most one more block, and
that one behind all the others. -/
theorem Sound.extend {before after : Ledger} (sound : before.Sound)
    (longer : before.length ≤ after.length) (fresh : Option Block)
    (known : ∀ block ∈ after.known,
      block ∈ before.known ∨ fresh = some block)
    (placed : ∀ block ∈ fresh,
      before.length ≤ block.start ∧ block.Placed after.length)
    (visits : ∀ visit ∈ after.visits,
      visit ∈ before.visits ∨ visit.Sound after.length) : after.Sound := by
  have behind : ∀ block ∈ before.known, ∀ other ∈ fresh,
      block.start + block.size ≤ other.start := by
    intro block member other isFresh
    exact Nat.le_trans (sound.placed block member).inside
      (placed other isFresh).1
  refine ⟨?_, ?_, ?_⟩
  · intro block member
    rcases known block member with older | newer
    · exact (sound.placed block older).mono longer
    · exact (placed block newer).2
  · intro visit member
    rcases visits visit member with older | newer
    · exact (sound.visits visit older).mono longer
    · exact newer
  · intro left leftMember right rightMember
    rcases known left leftMember with leftOlder | leftNewer
    · rcases known right rightMember with rightOlder | rightNewer
      · exact sound.apart left leftOlder right rightOlder
      · exact .inr (.inl (behind left leftOlder right rightNewer))
    · rcases known right rightMember with rightOlder | rightNewer
      · exact .inr (.inr (behind right rightOlder left leftNewer))
      · exact .inl (Option.some.inj (leftNewer.symm.trans rightNewer))

theorem mem_visit {ledger : Ledger} {field : Nat} {target : Option Nat}
    {visit : Visit} (member : visit ∈ ledger.visit field target) :
    visit ∈ ledger.visits ∨ ∃ block ∈ ledger.blocks,
      ledger.blocks.head? = some block ∧
        visit = ⟨field - block.source + block.start, block, target⟩ := by
  unfold Ledger.visit at member
  cases opened : ledger.blocks with
  | nil =>
      rw [opened] at member
      exact .inl member
  | cons block rest =>
      rw [opened] at member
      rcases List.mem_cons.mp member with same | older
      · exact .inr ⟨block, List.mem_cons_self, rfl, same⟩
      · exact .inl older

theorem mem_known_of_mem_blocks {ledger : Ledger} {block : Block}
    (member : block ∈ ledger.blocks) : block ∈ ledger.known :=
  List.mem_append_left _ member

theorem mem_known_of_mem_visits {ledger : Ledger} {visit : Visit}
    (member : visit ∈ ledger.visits) : visit.block ∈ ledger.known :=
  List.mem_append_right _ (List.mem_map_of_mem member)

theorem block_mem_known_of_mem_visit {ledger : Ledger} {field : Nat}
    {target : Option Nat} {visit : Visit}
    (member : visit ∈ ledger.visit field target) :
    visit.block ∈ ledger.known := by
  rcases mem_visit member with older | ⟨block, opened, -, rfl⟩
  · exact mem_known_of_mem_visits older
  · exact mem_known_of_mem_blocks opened

end Ledger

end FlatGraph
