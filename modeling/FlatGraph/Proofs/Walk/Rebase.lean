import FlatGraph.Proofs.Walk.Readings

/-!
What resolving does to memory: of flat bytes it rewrites the slots of the
copies and nothing else, and what it writes there moves with the base.
-/

namespace FlatGraph

variable {count : Nat}

structure Holds (memory : Memory) (base : Nat) (bytes : Bytes) : Prop where
  loaded : memory.load base bytes.length = bytes
  bounded : base + bytes.length < wordLimit

/-- A place of flat bytes that lies in none of the slots of the copies. -/
def Bare (schema : Schema count) (root : Fin count) (bytes : Bytes)
    (place : Nat) : Prop :=
  place < bytes.length ∧
    ∀ container slot, CopySlot schema root bytes container slot →
      Outside place slot

/-- What resolving leaves of a memory that holds flat bytes at a base: a slot
of a copy has the address for which its offset from the copy stood, which lies
in or right behind the bytes, unless it was null; all else is as before. -/
structure Rewritten (schema : Schema count) (root : Fin count) (bytes : Bytes)
    (base : Nat) (memory resolved : Memory) : Prop where
  null : ∀ container slot, CopySlot schema root bytes container slot →
    (Memory.ofBytes bytes).word slot = 0 → resolved.word (base + slot) = 0
  target : ∀ container slot, CopySlot schema root bytes container slot →
    (Memory.ofBytes bytes).word slot ≠ 0 →
      resolved.word (base + slot) =
          base + container + (Memory.ofBytes bytes).word slot ∧
        base < resolved.word (base + slot) ∧
        resolved.word (base + slot) ≤ base + bytes.length
  bare : ∀ place, Bare schema root bytes place →
    bytes[place]? = some (resolved.byte (base + place))
  /-- The bytes of a copy that belong to no link of it belong to no slot. -/
  plain : ∀ type position, Copy schema root bytes type position →
    ∀ index, (schema type).Plain index →
      Bare schema root bytes (position + index)
  beyond : ∀ address, address < base ∨ base + bytes.length ≤ address →
    resolved.byte address = memory.byte address

/-- The same flat bytes resolved at two bases differ by the distance of the
bases where a slot is not null, and nowhere else. -/
structure Shifted (schema : Schema count) (root : Fin count) (bytes : Bytes)
    (first second : Nat) (one other : Memory) : Prop where
  bare : ∀ place, Bare schema root bytes place →
    other.byte (second + place) = one.byte (first + place)
  null : ∀ container slot, CopySlot schema root bytes container slot →
    (other.word (second + slot) = 0 ↔ one.word (first + slot) = 0)
  target : ∀ container slot, CopySlot schema root bytes container slot →
    one.word (first + slot) ≠ 0 →
      (other.word (second + slot) : Int) - one.word (first + slot) =
        (second : Int) - first

section Rewritten

variable {schema : Schema count} {root : Fin count} {bytes : Bytes}
  {base first second container slot : Nat}
  {memory resolved one other firstMemory secondMemory : Memory}

theorem Rewritten.word_eq_zero_iff
    (rewritten : Rewritten schema root bytes base memory resolved)
    (owned : CopySlot schema root bytes container slot) :
    resolved.word (base + slot) = 0 ↔
      (Memory.ofBytes bytes).word slot = 0 := by
  constructor
  · intro zero
    by_contra nonzero
    obtain ⟨-, above, -⟩ := rewritten.target container slot owned nonzero
    omega
  · exact rewritten.null container slot owned

theorem Rewritten.shifted
    (here : Rewritten schema root bytes first firstMemory one)
    (there : Rewritten schema root bytes second secondMemory other) :
    Shifted schema root bytes first second one other := by
  refine ⟨?_, ?_, ?_⟩
  · intro place isBare
    have same := (here.bare place isBare).symm.trans (there.bare place isBare)
    exact (Option.some.inj same).symm
  · intro container slot owned
    rw [there.word_eq_zero_iff owned, here.word_eq_zero_iff owned]
  · intro container slot owned present
    have stored : (Memory.ofBytes bytes).word slot ≠ 0 :=
      (here.word_eq_zero_iff owned).not.mp present
    obtain ⟨atFirst, -⟩ := here.target container slot owned stored
    obtain ⟨atSecond, -⟩ := there.target container slot owned stored
    omega

end Rewritten

section LaidOut

variable {schema : Schema count} {source memory : Memory}
  {stable : Nat → Prop} {depth : Nat} {root type : Fin count}
  {link : Link count} {address base position place index : Nat}
  {bytes : Bytes} {sites : List Site}

theorem Laid.part_of_copy
    (whole : Laid schema source (Memory.ofBytes bytes) stable depth
      (.value root) address 0 (schema root).layout.size bytes.length sites)
    (schemaWf : schema.WellFormed) (bounded : bytes.length < wordLimit)
    (copy : Copy schema root bytes type position)
    (member : link ∈ (schema type).links)
    (leads : View.resolve bytes position link.offset = .ok (some place)) :
    ∃ level origin part stop inner,
      link.target.part? schema source origin
        (source.word (origin + link.offset)) = some part ∧
      (∀ length ∈ link.target.length?,
        length.read (Memory.ofBytes bytes) position =
          length.read source origin) ∧
      Laid schema source (Memory.ofBytes bytes) stable level part
        (source.word (origin + link.offset)) place
        (place + part.extent schema) stop inner := by
  have found := whole.of_copy schemaWf bounded copy
  obtain ⟨level, origin, first, last, inner, single, viewable, -⟩ :=
    found.link_of_mem member
  obtain ⟨part, behind, isPart, counted, laid, -⟩ :=
    single.view_part viewable member leads
  exact ⟨_, origin, part, _, behind, isPart, counted, laid⟩

theorem Laid.stable_of_plain {image : Memory} {start stop : Nat}
    (laid : Laid schema source image stable depth (.value type) address
      position start stop sites)
    (plain : (schema type).Plain index) : stable (position + index) := by
  cases laid with
  | value kept links => exact (kept index plain).1

theorem Laid.stable_of_copy
    (whole : Laid schema source (Memory.ofBytes bytes) stable depth
      (.value root) address 0 (schema root).layout.size bytes.length sites)
    (schemaWf : schema.WellFormed) (bounded : bytes.length < wordLimit)
    (copy : Copy schema root bytes type position)
    (plain : (schema type).Plain index) : stable (position + index) := by
  cases copy with
  | root => exact whole.stable_of_plain plain
  | «structure» owner member kind leads =>
      obtain ⟨level, origin, part, stop, inner, isPart, -, laid⟩ :=
        whole.part_of_copy schemaWf bounded owner member leads
      rw [kind] at isPart
      cases isPart
      exact laid.stable_of_plain plain
  | @element _ _ _ length _ _ number owner member kind leads short =>
      obtain ⟨level, origin, part, stop, inner, isPart, counted, laid⟩ :=
        whole.part_of_copy schemaWf bounded owner member leads
      rw [kind, Target.part?] at isPart
      rw [kind] at counted
      rw [counted length rfl] at short
      split at isPart
      · cases isPart
        have upTo := Nat.mul_le_mul_left (schema type).layout.size short
        rw [Nat.mul_succ] at upTo
        have inside := plain.1
        cases laid with
        | bytes kept =>
            rw [Nat.add_assoc]
            exact (kept _ (by omega)).1
      · cases isPart
        obtain ⟨_, _, _, element, -, -, -⟩ :=
          laid.element_of_lt (Nat.le_refl _) short
        exact element.stable_of_plain plain

theorem LaidOut.settled_iff
    (laidOut : LaidOut schema source depth root address bytes sites)
    (schemaWf : schema.WellFormed) :
    Settled bytes sites place ↔ Bare schema root bytes place := by
  constructor
  · rintro ⟨inside, outside⟩
    refine ⟨inside, fun container slot owned => ?_⟩
    exact outside ⟨container, slot⟩
      ((laidOut.site_mem_iff schemaWf).mpr owned)
  · rintro ⟨inside, outside⟩
    refine ⟨inside, fun site member => ?_⟩
    exact outside site.container site.slot
      ((laidOut.site_mem_iff schemaWf).mp member)

theorem LaidOut.rewritten
    (laidOut : LaidOut schema source depth root address bytes sites)
    (schemaWf : schema.WellFormed) (held : Holds memory base bytes) :
    Rewritten schema root bytes base memory
      (memory.resolveSites base sites) := by
  have relocated := (laidOut.resolve schemaWf held.loaded held.bounded).2
  refine ⟨?_, ?_, ?_, ?_, ?_⟩
  · intro container slot owned zero
    have member := (laidOut.site_mem_iff schemaWf).mpr owned
    rw [relocated.word_eq ⟨container, slot⟩ member, if_pos zero]
  · intro container slot owned nonzero
    have member := (laidOut.site_mem_iff schemaWf).mpr owned
    have reached := laidOut.laid.target_le
      (Nat.le_of_eq (Nat.zero_add _)) member
    have stored := relocated.word_eq ⟨container, slot⟩ member
    simp only at reached stored
    rw [if_neg nonzero] at stored
    rw [stored]
    omega
  · intro place bare
    have settled := (laidOut.settled_iff schemaWf).mpr bare
    rw [relocated.byte_eq place settled]
    exact Memory.getElem?_ofBytes bare.1
  · intro type position copy index plain
    exact (laidOut.settled_iff schemaWf).mp
      ((laidOut.settled schemaWf).stable_of_copy schemaWf laidOut.bounded
        copy plain)
  · intro address outside
    apply Memory.resolveSites_byte_outside
    intro site member
    have inside := laidOut.slot_inside schemaWf member
    rcases outside with before | after
    · exact .inl (by omega)
    · exact .inr (by omega)

end LaidOut

/-- Resolving flat bytes at two bases: each time it rewrites the slots of the
copies and nothing else, and the results differ by the distance of the bases
in every slot that is not null. -/
theorem flatten_resolve_shifted {schema : Schema count}
    (schemaWf : schema.WellFormed) {allocator : Allocator} {source : Memory}
    {type : Fin count} {root capacity : Nat} {buffer : Buffer}
    (flattened : schema.flatten allocator source type root capacity =
      .ok buffer)
    {first second : Nat} {here there : Memory}
    (heldHere : Holds here first buffer.bytes)
    (heldThere : Holds there second buffer.bytes) :
    ∃ one other,
      schema.resolve type first here = some one ∧
      schema.resolve type second there = some other ∧
      Rewritten schema type buffer.bytes first here one ∧
      Rewritten schema type buffer.bytes second there other ∧
      Shifted schema type buffer.bytes first second one other := by
  obtain ⟨slots, noted⟩ := exists_flattenNoting flattened
  obtain ⟨sites, -, laidOut⟩ := flattenNoting_laidOut schemaWf noted
  have atFirst := laidOut.rewritten schemaWf heldHere
  have atSecond := laidOut.rewritten schemaWf heldThere
  exact ⟨here.resolveSites first sites, there.resolveSites second sites,
    laidOut.resolve_eq schemaWf heldHere.loaded heldHere.bounded,
    laidOut.resolve_eq schemaWf heldThere.loaded heldThere.bounded,
    atFirst, atSecond, atFirst.shifted atSecond⟩

theorem flatten_resolve_shifted_sample :
    ∃ one other,
      sampleSchema.resolve 0 4096
          (Memory.blank.store 4096 sampleBuffer.bytes) = some one ∧
        sampleSchema.resolve 0 65552
          (Memory.blank.store 65552 sampleBuffer.bytes) = some other ∧
        one.word (4096 + 8) = 4096 + 83 ∧
        other.word (65552 + 8) = 65552 + 83 ∧
        other.word (65552 + 32) = 0 := by
  obtain ⟨one, other, atFirst, atSecond, here, there, -⟩ :=
    flatten_resolve_shifted (by decide +kernel) sample_flatten
      (⟨by decide +kernel, by decide +kernel⟩ : Holds
        (Memory.blank.store 4096 sampleBuffer.bytes) 4096 sampleBuffer.bytes)
      (⟨by decide +kernel, by decide +kernel⟩ : Holds
        (Memory.blank.store 65552 sampleBuffer.bytes) 65552
          sampleBuffer.bytes)
  have name : CopySlot sampleSchema 0 sampleBuffer.bytes 0 8 :=
    ⟨0, .root, ⟨8, .string⟩, by decide, rfl⟩
  have unused : CopySlot sampleSchema 0 sampleBuffer.bytes 0 32 :=
    ⟨0, .root, ⟨32, .nothing⟩, by decide, rfl⟩
  have stored : (Memory.ofBytes sampleBuffer.bytes).word 8 = 83 := by
    decide +kernel
  refine ⟨one, other, atFirst, atSecond, ?_, ?_, ?_⟩
  · rw [(here.target 0 8 name (by omega)).1, stored]
  · rw [(there.target 0 8 name (by omega)).1, stored]
  · exact there.null 0 32 unused (by decide +kernel)

end FlatGraph
