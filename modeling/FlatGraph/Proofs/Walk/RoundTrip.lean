import FlatGraph.Proofs.Walk.Flatten
import FlatGraph.Proofs.Walk.Resolve

/-!
A value that has been flattened, placed at any address and resolved there is
the same value, as an unfolded tree.
-/

namespace FlatGraph

variable {count : Nat}

/-- The copy at one address and the source at another hold the same value:
equal plain bytes, null in the same fields, and behind the others the same
texts, structures, and arrays of the same length. What a field that is not
followed holds in the copy is `cleared`. -/
inductive SameValue (schema : Schema count) (source copy : Memory)
    (cleared : Nat → Prop) : Fin count → (address place : Nat) → Prop where
  | intro {type : Fin count} {address place : Nat}
      (plain : ∀ index, (schema type).Plain index →
        copy.byte (place + index) = source.byte (address + index))
      (nothing : ∀ link ∈ (schema type).links, link.target = .nothing →
        cleared (copy.word (place + link.offset)))
      (null : ∀ link ∈ (schema type).links, link.target ≠ .nothing →
        (copy.word (place + link.offset) = 0 ↔
          source.word (address + link.offset) = 0))
      (string : ∀ link ∈ (schema type).links, link.target = .string →
        source.word (address + link.offset) ≠ 0 → ∃ text,
          source.string? (source.word (address + link.offset)) = some text ∧
          copy.string? (copy.word (place + link.offset)) = some text)
      (nested : ∀ link ∈ (schema type).links, ∀ target,
        link.target = .structure target →
        source.word (address + link.offset) ≠ 0 →
        SameValue schema source copy cleared target
          (source.word (address + link.offset))
          (copy.word (place + link.offset)))
      (length : ∀ link ∈ (schema type).links, ∀ target length,
        link.target = .array target length →
        source.word (address + link.offset) ≠ 0 →
        length.read copy place = length.read source address)
      (array : ∀ link ∈ (schema type).links, ∀ target length,
        link.target = .array target length →
        source.word (address + link.offset) ≠ 0 →
        ∀ index < length.read source address,
          SameValue schema source copy cleared target
            (source.word (address + link.offset) +
              (schema target).layout.size * index)
            (copy.word (place + link.offset) +
              (schema target).layout.size * index)) :
      SameValue schema source copy cleared type address place

structure SameLink (schema : Schema count) (source copy : Memory)
    (cleared : Nat → Prop) (link : Link count) (address place : Nat) :
    Prop where
  nothing : link.target = .nothing → cleared (copy.word (place + link.offset))
  null : link.target ≠ .nothing →
    (copy.word (place + link.offset) = 0 ↔
      source.word (address + link.offset) = 0)
  string : link.target = .string →
    source.word (address + link.offset) ≠ 0 → ∃ text,
      source.string? (source.word (address + link.offset)) = some text ∧
      copy.string? (copy.word (place + link.offset)) = some text
  nested : ∀ target, link.target = .structure target →
    source.word (address + link.offset) ≠ 0 →
    SameValue schema source copy cleared target
      (source.word (address + link.offset)) (copy.word (place + link.offset))
  length : ∀ target length, link.target = .array target length →
    source.word (address + link.offset) ≠ 0 →
    length.read copy place = length.read source address
  array : ∀ target length, link.target = .array target length →
    source.word (address + link.offset) ≠ 0 →
    ∀ index < length.read source address,
      SameValue schema source copy cleared target
        (source.word (address + link.offset) +
          (schema target).layout.size * index)
        (copy.word (place + link.offset) +
          (schema target).layout.size * index)

section Same

variable {schema : Schema count} {source copy : Memory}
  {cleared : Nat → Prop} {type : Fin count} {link : Link count}
  {address place : Nat}

theorem SameValue.of_links
    (plain : ∀ index, (schema type).Plain index →
      copy.byte (place + index) = source.byte (address + index))
    (links : ∀ link ∈ (schema type).links,
      SameLink schema source copy cleared link address place) :
    SameValue schema source copy cleared type address place :=
  .intro plain (fun link member => (links link member).nothing)
    (fun link member => (links link member).null)
    (fun link member => (links link member).string)
    (fun link member => (links link member).nested)
    (fun link member => (links link member).length)
    (fun link member => (links link member).array)

theorem SameValue.of_isPlain (isPlain : schema.isPlain type = true)
    (same : ∀ index < (schema type).layout.size,
      copy.byte (place + index) = source.byte (address + index)) :
    SameValue schema source copy cleared type address place := by
  have none := Schema.links_of_isPlain isPlain
  refine .of_links (fun index plain => same index plain.1) ?_
  intro link member
  rw [none] at member
  cases member

theorem SameLink.of_null
    (absent : link.target = .nothing ∨
      source.word (address + link.offset) = 0)
    (zero : copy.word (place + link.offset) = 0) (clear : cleared 0) :
    SameLink schema source copy cleared link address place := by
  have null : link.target ≠ .nothing →
      source.word (address + link.offset) = 0 := absent.resolve_left
  refine ⟨fun _ => zero ▸ clear, ?_, ?_, ?_, ?_, ?_⟩
  · intro followed
    exact ⟨fun _ => null followed, fun _ => zero⟩
  · intro kind present
    exact absurd (null (by simp [kind])) present
  · intro target kind present
    exact absurd (null (by simp [kind])) present
  · intro target length kind present
    exact absurd (null (by simp [kind])) present
  · intro target length kind present
    exact absurd (null (by simp [kind])) present

def Part.Same (schema : Schema count) (source copy : Memory)
    (cleared : Nat → Prop) (address place : Nat) : Part count → Prop
  | .value type => SameValue schema source copy cleared type address place
  | .links _ rest => ∀ link ∈ rest,
      SameLink schema source copy cleared link address place
  | .link _ only => SameLink schema source copy cleared only address place
  | .elements type total => ∀ index < total,
      SameValue schema source copy cleared type
        (address + (schema type).layout.size * index)
        (place + (schema type).layout.size * index)
  | .bytes length => ∀ index < length,
      copy.byte (place + index) = source.byte (address + index)

theorem SameLink.of_part {part : Part count} {found : Nat}
    (leads : link.target.part? schema source address
      (source.word (address + link.offset)) = some part)
    (present : source.word (address + link.offset) ≠ 0)
    (reached : copy.word (place + link.offset) = found) (nonzero : found ≠ 0)
    (bounded : found + part.extent schema ≤ wordLimit)
    (counted : ∀ length ∈ link.target.length?,
      length.read copy place = length.read source address)
    (same : part.Same schema source copy cleared
      (source.word (address + link.offset)) found) :
    SameLink schema source copy cleared link address place := by
  subst reached
  refine ⟨?_, fun _ => ⟨fun zero => absurd zero nonzero,
    fun null => absurd null present⟩, ?_, ?_, ?_, ?_⟩
  · intro kind
    rw [kind] at leads
    cases leads
  · intro kind _
    rw [kind, Target.part?] at leads
    obtain ⟨text, found, rfl⟩ := Option.map_eq_some_iff.mp leads
    simp only [Part.extent] at bounded
    exact ⟨text, found, Memory.string?_congr found same bounded⟩
  · intro target kind _
    rw [kind] at leads
    cases leads
    exact same
  · intro target length kind _
    rw [kind] at counted
    exact counted length rfl
  · intro target length kind _ index short
    rw [kind] at leads
    cases isPlain : schema.isPlain target with
    | true =>
        simp only [Target.part?, isPlain, if_true] at leads
        cases leads
        have whole := Nat.mul_le_mul_left (schema target).layout.size short
        rw [Nat.mul_succ] at whole
        refine .of_isPlain isPlain fun inner inside => ?_
        rw [Nat.add_assoc, Nat.add_assoc (source.word _)]
        exact same _ (by omega)
    | false =>
        simp only [Target.part?, isPlain, Bool.false_eq_true, if_false]
          at leads
        cases leads
        exact same index short

end Same

/-- Memory holds the image from a base on, with every offset in the slots of
the sites turned into the address that it stands for. -/
structure Relocated (image : Memory) (stable : Nat → Prop) (base : Nat)
    (resolved : Memory) (sites : List Site) : Prop where
  word_eq : ∀ site ∈ sites, resolved.word (base + site.slot) =
    if image.word site.slot = 0 then 0
    else base + (site.container + image.word site.slot)
  byte_eq : ∀ place, stable place →
    resolved.byte (base + place) = image.byte place

section Relocated

variable {schema : Schema count} {source image resolved memory : Memory}
  {stable : Nat → Prop} {depth : Nat} {part : Part count}
  {address position start stop base : Nat} {sites later : List Site}

theorem Relocated.left
    (relocated : Relocated image stable base resolved (sites ++ later)) :
    Relocated image stable base resolved sites :=
  ⟨fun site member => relocated.word_eq site (List.mem_append_left _ member),
    relocated.byte_eq⟩

theorem Relocated.right
    (relocated : Relocated image stable base resolved (sites ++ later)) :
    Relocated image stable base resolved later :=
  ⟨fun site member => relocated.word_eq site (List.mem_append_right _ member),
    relocated.byte_eq⟩

theorem Relocated.tail {site : Site}
    (relocated : Relocated image stable base resolved (site :: sites)) :
    Relocated image stable base resolved sites :=
  ⟨fun other member => relocated.word_eq other (List.mem_cons_of_mem _ member),
    relocated.byte_eq⟩

theorem Laid.target_le
    (laid : Laid schema source image stable depth part address position start
      stop sites)
    (behind : position + part.extent schema ≤ start) {site : Site}
    (member : site ∈ sites) :
    site.container + image.word site.slot ≤ stop := by
  induction laid with
  | value plain links ih => exact ih behind member
  | noLinks => cases member
  | consLinks first rest firstIH restIH =>
      have firstLe := first.start_le
      have restLe := rest.start_le
      simp only [Part.extent] at behind firstIH restIH
      rcases List.mem_append.mp member with here | later
      · exact Nat.le_trans (firstIH behind here) restLe
      · exact restIH (Nat.le_trans behind firstLe) later
  | null absent zero =>
      simp only [Part.extent] at behind
      cases List.mem_singleton.mp member
      simp only [zero]
      omega
  | block leads present counted behindSlot offset inner ih =>
      have innerLe := inner.start_le
      simp only [Part.extent] at behind
      rcases List.mem_cons.mp member with rfl | later
      · simp only [offset]
        omega
      · exact ih (Nat.le_refl _) later
  | noElements => cases member
  | consElements first rest firstIH restIH =>
      have firstLe := first.start_le
      have restLe := rest.start_le
      simp only [Part.extent, Nat.mul_add_one] at behind firstIH restIH
      rcases List.mem_append.mp member with here | later
      · exact Nat.le_trans (firstIH (by omega) here) restLe
      · exact restIH (by omega) later
  | bytes kept => cases member

theorem Laid.relocated
    (laid : Laid schema source image stable depth part address position start
      stop sites)
    (schemaWf : schema.WellFormed) (within : part.Within schema)
    (behind : position + part.extent schema ≤ start)
    (bounded : base + stop < wordLimit)
    (free : ∀ site ∈ sites, ∀ place, stable place → Outside place site.slot)
    (placed : Placed image stable base memory sites) :
    Relocated image stable base (memory.resolveSites base sites) sites := by
  have apart := laid.pairwise_apart schemaWf within behind
  refine ⟨?_, ?_⟩
  · intro site member
    have reached := laid.target_le behind member
    have word := placed.word_eq site member
    rw [Memory.resolveSites_word apart member]
    by_cases null : image.word site.slot = 0
    · rw [if_pos null]
      exact Memory.peek_of_null (word.trans null)
    · rw [if_neg null]
      refine Memory.peek_of_offset ?_ ?_ ?_
      · rw [word, Nat.add_sub_cancel_left]
      · omega
      · omega
  · intro place isStable
    rw [Memory.resolveSites_byte fun site member =>
      free site member place isStable]
    exact placed.byte_eq place isStable

end Relocated

section Same

variable {schema : Schema count} {source image resolved : Memory}
  {stable : Nat → Prop} {depth : Nat} {part : Part count}
  {address position start stop base : Nat} {sites : List Site}

theorem Relocated.word_null {offset : Nat}
    (relocated : Relocated image stable base resolved sites)
    (member : ⟨position, position + offset⟩ ∈ sites)
    (zero : image.word (position + offset) = 0) :
    resolved.word (base + position + offset) = 0 := by
  rw [Nat.add_assoc, relocated.word_eq _ member, if_pos zero]

theorem Relocated.word_block {offset block : Nat}
    (relocated : Relocated image stable base resolved sites)
    (member : ⟨position, position + offset⟩ ∈ sites)
    (leads : image.word (position + offset) = block - position)
    (beyond : position < block) :
    resolved.word (base + position + offset) = base + block := by
  rw [Nat.add_assoc, relocated.word_eq _ member, leads, if_neg (by omega)]
  simp only
  omega

theorem Laid.same
    (laid : Laid schema source image stable depth part address position start
      stop sites)
    (schemaWf : schema.WellFormed) (within : part.Within schema)
    (behind : position + part.extent schema ≤ start)
    (bounded : base + stop < wordLimit)
    (relocated : Relocated image stable base resolved sites) :
    part.Same schema source resolved (· = 0) address (base + position) := by
  induction laid with
  | value plain links ih =>
      exact .of_links (fun index isPlain =>
          Kept.byte_eq relocated.byte_eq (plain index isPlain))
        (ih (List.Sublist.refl _) behind bounded relocated)
  | noLinks =>
      intro link member
      cases member
  | @consLinks depth type link links address position start middle stop sites
      later first rest firstIH restIH =>
      have firstLe := first.start_le
      have restLe := rest.start_le
      have others := (List.sublist_cons_self link links).trans within
      have here := firstIH (within.subset List.mem_cons_self) behind (by omega)
        relocated.left
      have there := restIH others (Nat.le_trans behind firstLe) bounded
        relocated.right
      intro other member
      rcases List.mem_cons.mp member with rfl | later
      · exact here
      · exact there other later
  | null absent zero =>
      exact .of_null absent (relocated.word_null List.mem_cons_self zero) rfl
  | @block depth type link part address position start block stop sites leads
      present counted behindSlot offset inner ih =>
      have before := Part.before_block schemaWf within behind behindSlot
      have innerLe := inner.start_le
      exact .of_part leads present
        (relocated.word_block List.mem_cons_self offset before) (by omega)
        (by omega)
        (fun length isLength =>
          Kept.length_eq relocated.byte_eq (counted length isLength))
        (ih (Target.part?_whole leads).1 (Nat.le_refl _) bounded
          relocated.tail)
  | noElements =>
      intro index short
      cases short
  | @consElements depth elements type address position start middle stop sites
      later first rest firstIH restIH =>
      have firstLe := first.start_le
      have restLe := rest.start_le
      have whole := Nat.mul_add_one (schema type).layout.size elements
      simp only [Part.extent] at behind firstIH restIH
      have here := firstIH trivial (by omega) (by omega) relocated.left
      have there := restIH trivial (by omega) bounded relocated.right
      intro index short
      cases index with
      | zero => exact here
      | succ index =>
          have later := there index (Nat.lt_of_succ_lt_succ short)
          rw [← Nat.add_assoc base] at later
          rw [Nat.mul_succ, Nat.add_comm (_ * index), ← Nat.add_assoc,
            ← Nat.add_assoc]
          exact later
  | bytes kept =>
      intro index short
      exact Kept.byte_eq relocated.byte_eq (kept index short)

end Same

/-- A place of the bytes in none of the slots. -/
def Settled (bytes : Bytes) (sites : List Site) (place : Nat) : Prop :=
  place < bytes.length ∧ ∀ site ∈ sites, Outside place site.slot

namespace LaidOut

variable {schema : Schema count} {source memory : Memory} {depth : Nat}
  {type : Fin count} {root base : Nat} {bytes : Bytes} {sites : List Site}

theorem settled (laidOut : LaidOut schema source depth type root bytes sites)
    (schemaWf : schema.WellFormed) :
    Laid schema source (Memory.ofBytes bytes) (Settled bytes sites) depth
      (.value type) root 0 (schema type).layout.size bytes.length sites := by
  have fits := laidOut.fits
  have laid := laidOut.laid
  refine laid.restable schemaWf trivial (Nat.le_of_eq (Nat.zero_add _)) ?_
  rintro place (⟨-, below, bare⟩ | ⟨-, below, outside⟩)
  · simp only [Part.extent, Nat.zero_add] at below
    exact ⟨by omega, fun site member =>
      laid.outside_of_copy schemaWf below bare member⟩
  · exact ⟨below, outside⟩

theorem slot_inside (laidOut : LaidOut schema source depth type root bytes sites)
    (schemaWf : schema.WellFormed) {site : Site} (member : site ∈ sites) :
    site.slot + wordSize ≤ bytes.length := by
  have fits := laidOut.fits
  rcases laidOut.laid.slot_or_between schemaWf member with owned | between
  · have inside := owned.inside schemaWf trivial
    simp only [Part.extent] at inside
    omega
  · exact between.2

theorem placed (laidOut : LaidOut schema source depth type root bytes sites)
    (schemaWf : schema.WellFormed)
    (loaded : memory.load base bytes.length = bytes) :
    Placed (Memory.ofBytes bytes) (Settled bytes sites) base memory sites := by
  have same := Memory.load_eq_iff.mp loaded
  refine ⟨?_, fun place settled => same place settled.1⟩
  intro site member
  have inside := laidOut.slot_inside schemaWf member
  apply Memory.word_congr
  intro index short
  rw [Nat.add_assoc]
  exact same _ (by omega)

/-- Resolving flat bytes comes to an end. It visits the slots in the order of
the layout, and relocates the bytes. -/
theorem resolve (laidOut : LaidOut schema source depth type root bytes sites)
    (schemaWf : schema.WellFormed)
    (loaded : memory.load base bytes.length = bytes)
    (bounded : base + bytes.length < wordLimit) :
    schema.resolveLinks Memory.notingResolver depth type base [] memory =
        some (((), sites.map fun site => base + site.slot),
          memory.resolveSites base sites) ∧
      Relocated (Memory.ofBytes bytes) (Settled bytes sites) base
        (memory.resolveSites base sites) sites := by
  have placed := laidOut.placed schemaWf loaded
  have free : ∀ site ∈ sites, ∀ place, Settled bytes sites place →
      Outside place site.slot := fun site member place settled =>
    settled.2 site member
  have laid := laidOut.settled schemaWf
  have behind := Nat.le_of_eq (Nat.zero_add (schema type).layout.size)
  exact ⟨laid.resolve schemaWf trivial behind bounded free placed,
    laid.relocated schemaWf trivial behind bounded free placed⟩

theorem same (laidOut : LaidOut schema source depth type root bytes sites)
    (schemaWf : schema.WellFormed) {resolved : Memory}
    (bounded : base + bytes.length < wordLimit)
    (relocated : Relocated (Memory.ofBytes bytes) (Settled bytes sites) base
      resolved sites) :
    SameValue schema source resolved (· = 0) type root base :=
  (laidOut.settled schemaWf).same schemaWf trivial
    (Nat.le_of_eq (Nat.zero_add _)) bounded relocated

theorem resolve_eq
    (laidOut : LaidOut schema source (Schema.depthBound count) type root bytes
      sites)
    (schemaWf : schema.WellFormed)
    (loaded : memory.load base bytes.length = bytes)
    (bounded : base + bytes.length < wordLimit) :
    schema.resolve type base memory = some (memory.resolveSites base sites) := by
  rw [Schema.resolve_eq_map, Schema.resolveNoting,
    (laidOut.resolve schemaWf loaded bounded).1]
  rfl

end LaidOut

theorem exists_flattenNoting {schema : Schema count} {allocator : Allocator}
    {source : Memory} {type : Fin count} {root capacity : Nat}
    {buffer : Buffer}
    (flattened : schema.flatten allocator source type root capacity =
      .ok buffer) :
    ∃ slots, schema.flattenNoting allocator source type root capacity =
      .ok (buffer, slots) := by
  rw [Schema.flatten_eq_map] at flattened
  cases noted : schema.flattenNoting allocator source type root capacity with
  | error fault =>
      rw [noted] at flattened
      cases flattened
  | ok outcome =>
      rw [noted] at flattened
      cases flattened
      exact ⟨outcome.2, rfl⟩

/-- Whatever the schema is and whatever the value leads to: flattened, placed
at any base and resolved there, it is the same value again. -/
theorem flatten_resolve {schema : Schema count}
    (schemaWf : schema.WellFormed) {allocator : Allocator} {source : Memory}
    {type : Fin count} {root capacity : Nat} {buffer : Buffer}
    (flattened : schema.flatten allocator source type root capacity =
      .ok buffer)
    {base : Nat} (bounded : base + buffer.length < wordLimit)
    {memory : Memory}
    (loaded : memory.load base buffer.length = buffer.bytes) :
    ∃ resolved, schema.resolve type base memory = some resolved ∧
      SameValue schema source resolved (· = 0) type root base := by
  obtain ⟨slots, noted⟩ := exists_flattenNoting flattened
  obtain ⟨sites, -, laidOut⟩ := flattenNoting_laidOut schemaWf noted
  obtain ⟨ran, relocated⟩ := laidOut.resolve schemaWf loaded bounded
  refine ⟨memory.resolveSites base sites, ?_,
    laidOut.same schemaWf bounded relocated⟩
  rw [Schema.resolve_eq_map, Schema.resolveNoting, ran]
  rfl

/-- Nodes with a next node, a name, some pairs and a field that is not
followed; pairs with a name. -/
def sampleSchema : Schema 2
  | 0 => ⟨⟨40, 8⟩, [⟨0, .structure 0⟩, ⟨8, .string⟩,
      ⟨16, .array 1 ⟨24, 4, false⟩⟩, ⟨32, .nothing⟩]⟩
  | 1 => ⟨⟨16, 8⟩, [⟨0, .string⟩]⟩

def sampleSource : Memory :=
  Memory.blank.storeAll
    [(16, encodeWord 64), (24, encodeWord 160), (32, encodeWord 112),
      (40, [2]), (48, encodeWord 7), (72, encodeWord 160),
      (112, encodeWord 160), (120, [5]), (136, [6]), (160, [104, 105, 0])]

def sampleBuffer : Buffer where
  bytes :=
    encodeWord 40 ++ encodeWord 83 ++ encodeWord 88 ++ encodeWord 2 ++
      encodeWord 0 ++
    (encodeWord 0 ++ encodeWord 40 ++ List.replicate 24 0) ++
    [104, 105, 0] ++ [104, 105, 0] ++ [0, 0] ++
    (encodeWord 32 ++ encodeWord 5 ++ encodeWord 0 ++ encodeWord 6) ++
    [104, 105, 0]
  capacity := 128

theorem sample_flatten :
    sampleSchema.flatten (fun _ => true) sampleSource 0 16 0 =
      .ok sampleBuffer := by
  decide +kernel

theorem flatten_resolve_sample :
    ∃ resolved,
      sampleSchema.resolve 0 4096
          (Memory.blank.store 4096 sampleBuffer.bytes) = some resolved ∧
        SameValue sampleSchema sampleSource resolved (· = 0) 0 16 4096 :=
  flatten_resolve (by decide +kernel) sample_flatten (by decide +kernel)
    (by decide +kernel)

end FlatGraph
