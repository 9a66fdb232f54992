import FlatGraph.Proofs.Walk.Copies

/-!
Flat bytes can be read three ways: by position, by looking at single offsets
where the bytes have been placed, and by following pointers after all of them
have been resolved. Along every path the three come to the same places.
-/

namespace FlatGraph

variable {count : Nat}

/-- How a value is read: where a field leads, unless it is null, and how many
elements an array has. -/
structure Reader where
  target (container offset : Nat) : Option Nat
  length (field : LengthField) (container : Nat) : Nat

namespace Reader

def viewing (bytes : Bytes) : Reader where
  target container offset :=
    match View.resolve bytes container offset with
    | .ok found => found
    | .error _ => none
  length field container := field.read (Memory.ofBytes bytes) container

def peeking (memory : Memory) : Reader where
  target container offset :=
    let address := memory.peek container (container + offset)
    if address = 0 then none else some address
  length field container := field.read memory container

def following (memory : Memory) : Reader where
  target container offset :=
    let address := memory.word (container + offset)
    if address = 0 then none else some address
  length field container := field.read memory container

end Reader

/-- One turn of a path: a link of the structure by its number, and, if the
link leads to an array, an element of it. -/
structure Turn where
  link : Nat
  index : Nat

/-- The structure to which a path leads from a structure, if it does. -/
def Schema.follow (schema : Schema count) (reader : Reader) :
    List Turn → (type : Fin count) → (place : Nat) → Option (Fin count × Nat)
  | [], type, place => some (type, place)
  | turn :: path, type, place => do
      let link ← (schema type).links[turn.link]?
      let found ← reader.target place link.offset
      match link.target with
      | .structure target => schema.follow reader path target found
      | .array target length =>
          if turn.index < reader.length length place then
            schema.follow reader path target
              (found + (schema target).layout.size * turn.index)
          else none
      | .string => none
      | .nothing => none

/-- A link of the copy at a position, and where it leads, as it is read from
the bytes, from memory that holds them at `base`, and from memory in which
they have been resolved. -/
structure ReadAlike (schema : Schema count) (bytes : Bytes) (base : Nat)
    (memory resolved : Memory) (position : Nat) (link : Link count)
    (found : Option Nat) : Prop where
  view : View.resolve bytes position link.offset = .ok found
  peek : memory.peek (base + position) (base + position + link.offset) =
    (found.map (base + ·)).getD 0
  null : memory.peek (base + position) (base + position + link.offset) = 0 ↔
    found = none
  word : resolved.word (base + position + link.offset) =
    memory.peek (base + position) (base + position + link.offset)
  nested : ∀ place ∈ found, ∀ target, link.target = .structure target →
    place + (schema target).layout.size ≤ bytes.length
  array : ∀ place ∈ found, ∀ target length,
    link.target = .array target length →
      length.read memory (base + position) =
          length.read (Memory.ofBytes bytes) position ∧
        length.read resolved (base + position) =
          length.read (Memory.ofBytes bytes) position ∧
        place + (schema target).layout.size *
          length.read (Memory.ofBytes bytes) position ≤ bytes.length
  string : ∀ place ∈ found, link.target = .string → ∃ text,
    View.string bytes place = .ok text ∧
      memory.string? (base + place) = some (text ++ [0]) ∧
      resolved.string? (base + place) = some (text ++ [0]) ∧
      place + (text ++ [0]).length ≤ bytes.length

section Subsets

variable {image memory : Memory} {stable : Nat → Prop} {base : Nat}
  {sites inner : List Site} (within : ∀ site ∈ inner, site ∈ sites)

include within

theorem Placed.subset (placed : Placed image stable base memory sites) :
    Placed image stable base memory inner :=
  ⟨fun site member => placed.word_eq site (within site member),
    placed.byte_eq⟩

theorem Relocated.subset
    (relocated : Relocated image stable base memory sites) :
    Relocated image stable base memory inner :=
  ⟨fun site member => relocated.word_eq site (within site member),
    relocated.byte_eq⟩

end Subsets

section Laid

variable {schema : Schema count} {source memory resolved : Memory}
  {stable : Nat → Prop} {depth : Nat} {type : Fin count} {link : Link count}
  {part : Part count} {bytes : Bytes}
  {address position start stop base place : Nat} {sites : List Site}

theorem Laid.bytes_eq {length : Nat}
    (laid : Laid schema source (Memory.ofBytes bytes) stable depth
      (.bytes length) address position start stop sites)
    (same : ∀ place, stable place →
      memory.byte (base + place) = (Memory.ofBytes bytes).byte place)
    {index : Nat} (short : index < length) :
    memory.byte (base + position + index) = source.byte (address + index) := by
  cases laid with
  | bytes kept => exact Kept.byte_eq same (kept index short)

theorem Laid.string_eq {text : Bytes}
    (laid : Laid schema source (Memory.ofBytes bytes) stable depth
      (.bytes text.length) address position start stop sites)
    (found : source.string? address = some text)
    (same : ∀ place, stable place →
      memory.byte (base + place) = (Memory.ofBytes bytes).byte place)
    (bounded : base + position + text.length ≤ wordLimit) :
    memory.string? (base + position) = some text :=
  Memory.string?_congr found (fun _ short => laid.bytes_eq same short)
    bounded

section ReadAlike

variable
  (placed : Placed (Memory.ofBytes bytes) stable base memory sites)
  (relocated : Relocated (Memory.ofBytes bytes) stable base resolved sites)
  (bounded : base + bytes.length < wordLimit)

include placed relocated bounded

theorem ReadAlike.of_null
    (inside : position + link.offset + wordSize ≤ bytes.length)
    (member : ⟨position, position + link.offset⟩ ∈ sites)
    (zero : (Memory.ofBytes bytes).word (position + link.offset) = 0) :
    ReadAlike schema bytes base memory resolved position link none := by
  have peeked : memory.peek (base + position)
      (base + position + link.offset) = 0 := by
    rw [Nat.add_assoc]
    exact placed.peek_null member zero
  refine ⟨view_null inside (by omega) zero, peeked, by simp [peeked], ?_,
    ?_, ?_, ?_⟩
  · rw [peeked]
    exact relocated.word_null member zero
  · intro place isFound
    cases isFound
  · intro place isFound
    cases isFound
  · intro place isFound
    cases isFound

theorem ReadAlike.of_part {inner : List Site}
    (inside : position + link.offset + wordSize ≤ bytes.length)
    (member : ⟨position, position + link.offset⟩ ∈ sites)
    (offset : (Memory.ofBytes bytes).word (position + link.offset) =
      place - position)
    (beyond : position < place)
    (leads : link.target.part? schema source address
      (source.word (address + link.offset)) = some part)
    (counted : ∀ length ∈ link.target.length?,
      ∀ index < length.width, Kept source (Memory.ofBytes bytes) stable
        address position (length.offset + index))
    (laid : Laid schema source (Memory.ofBytes bytes) stable depth part
      (source.word (address + link.offset)) place start stop inner)
    (reached : place + part.extent schema ≤ bytes.length) :
    ReadAlike schema bytes base memory resolved position link
      (some place) := by
  have peeked : memory.peek (base + position)
      (base + position + link.offset) = base + place := by
    rw [Nat.add_assoc]
    exact placed.peek_block member offset beyond (by omega)
  refine ⟨view_block inside (by omega) offset beyond (by omega), peeked, ?_,
    ?_, ?_, ?_, ?_⟩
  · rw [peeked]
    simp only [reduceCtorEq, iff_false]
    omega
  · rw [peeked]
    exact relocated.word_block member offset beyond
  · intro found isFound target kind
    cases isFound
    rw [kind] at leads
    cases leads
    exact reached
  · intro found isFound target length kind
    cases isFound
    rw [kind] at counted leads
    have kept := counted length rfl
    rw [Kept.length_eq_image kept]
    refine ⟨Kept.length_eq placed.byte_eq kept,
      Kept.length_eq relocated.byte_eq kept, ?_⟩
    cases leads
    split at reached
    · exact reached
    · exact reached
  · intro found isFound kind
    cases isFound
    rw [kind, Target.part?] at leads
    obtain ⟨text, isText, rfl⟩ := Option.map_eq_some_iff.mp leads
    simp only [Part.extent] at reached
    have image : ∀ place, stable place → (Memory.ofBytes bytes).byte
        (0 + place) = (Memory.ofBytes bytes).byte place := by
      intro place _
      rw [Nat.zero_add]
    have viewed := laid.string_eq isText image (by omega)
    rw [Nat.zero_add] at viewed
    obtain ⟨body, rfl, view⟩ := View.string_of_memory viewed reached
    exact ⟨body, view, laid.string_eq isText placed.byte_eq (by omega),
      laid.string_eq isText relocated.byte_eq (by omega), reached⟩

theorem Laid.readAlike
    (laid : Laid schema source (Memory.ofBytes bytes) stable depth
      (.link type link) address position start stop sites)
    (viewable : Viewable schema type bytes position start stop)
    (member : link ∈ (schema type).links) :
    ∃ found,
      ReadAlike schema bytes base memory resolved position link found := by
  obtain ⟨schemaWf, behind, inside, small⟩ := viewable
  have owned := (schemaWf type).inside link member
  have longer := laid.start_le
  cases laid with
  | null absent zero =>
      exact ⟨none, .of_null placed relocated bounded (by omega)
        List.mem_cons_self zero⟩
  | block leads present counted behindSlot offset inner =>
      have before := Part.before_block schemaWf member behind behindSlot
      have innerLe := inner.start_le
      exact ⟨some _, .of_part placed relocated bounded (by omega)
        List.mem_cons_self offset before leads counted inner (by omega)⟩

end ReadAlike

end Laid

section Follow

variable {schema : Schema count} {root type owner : Fin count}
  {bytes : Bytes} {memory resolved : Memory}
  {base position place : Nat} {link : Link count} {found : Option Nat}

theorem ReadAlike.viewing
    (alike : ReadAlike schema bytes base memory resolved position link found) :
    (Reader.viewing bytes).target position link.offset = found := by
  simp only [Reader.viewing, alike.view]

theorem ReadAlike.peeking
    (alike : ReadAlike schema bytes base memory resolved position link found) :
    (Reader.peeking memory).target (base + position) link.offset =
      found.map (base + ·) := by
  simp only [Reader.peeking]
  cases found with
  | none =>
      rw [if_pos (alike.null.mpr rfl)]
      rfl
  | some place =>
      rw [if_neg fun zero => Option.some_ne_none _ (alike.null.mp zero),
        alike.peek]
      rfl

theorem ReadAlike.following
    (alike : ReadAlike schema bytes base memory resolved position link found) :
    (Reader.following resolved).target (base + position) link.offset =
      found.map (base + ·) := by
  rw [← alike.peeking]
  simp only [Reader.following, Reader.peeking, alike.word]

theorem ReadAlike.lengths {target : Fin count} {length : LengthField}
    (alike : ReadAlike schema bytes base memory resolved position link found)
    (kind : link.target = .array target length)
    (leads :
      ((Reader.viewing bytes).target position link.offset).isSome = true) :
    length.read memory (base + position) =
        length.read (Memory.ofBytes bytes) position ∧
      length.read resolved (base + position) =
        length.read (Memory.ofBytes bytes) position := by
  rw [alike.viewing] at leads
  obtain ⟨place, rfl⟩ := Option.isSome_iff_exists.mp leads
  obtain ⟨lazy, eager, -⟩ := alike.array place rfl target length kind
  exact ⟨lazy, eager⟩

theorem Reader.viewing_eq_some {container offset : Nat}
    (leads : (Reader.viewing bytes).target container offset = some place) :
    View.resolve bytes container offset = .ok (some place) := by
  simp only [Reader.viewing] at leads
  split at leads
  · rename_i arrives
    rw [arrives, leads]
  · cases leads

theorem Copy.follow {path : List Turn}
    (copy : Copy schema root bytes type position)
    (arrives : schema.follow (Reader.viewing bytes) path type position =
      some (owner, place)) : Copy schema root bytes owner place := by
  induction path generalizing type position with
  | nil =>
      cases arrives
      exact copy
  | cons turn path ih =>
      rw [Schema.follow] at arrives
      obtain ⟨link, isLink, arrives⟩ := Option.bind_eq_some_iff.mp arrives
      obtain ⟨found, leads, arrives⟩ := Option.bind_eq_some_iff.mp arrives
      have member := List.mem_of_getElem? isLink
      have resolved := Reader.viewing_eq_some leads
      cases kind : link.target with
      | «structure» target =>
          simp only [kind] at arrives
          exact ih (.structure copy member kind resolved) arrives
      | array target length =>
          simp only [kind] at arrives
          split at arrives
          · rename_i short
            exact ih (.element copy member kind resolved short) arrives
          · cases arrives
      | string =>
          simp only [kind] at arrives
          cases arrives
      | nothing =>
          simp only [kind] at arrives
          cases arrives

/-- A reader that reads every copy as a view does, but `base` further on,
takes every path to where the view takes it. -/
theorem Copy.follow_shift {reader : Reader}
    (targets : ∀ owner position, Copy schema root bytes owner position →
      ∀ link ∈ (schema owner).links,
        reader.target (base + position) link.offset =
          ((Reader.viewing bytes).target position link.offset).map
            (base + ·))
    (lengths : ∀ owner position, Copy schema root bytes owner position →
      ∀ link ∈ (schema owner).links, ∀ target length,
        link.target = .array target length →
          ((Reader.viewing bytes).target position link.offset).isSome →
            reader.length length (base + position) =
              (Reader.viewing bytes).length length position)
    (path : List Turn) (copy : Copy schema root bytes type position) :
    schema.follow reader path type (base + position) =
      (schema.follow (Reader.viewing bytes) path type position).map
        (Prod.map id (base + ·)) := by
  induction path generalizing type position with
  | nil => rfl
  | cons turn path ih =>
      rw [Schema.follow, Schema.follow]
      cases isLink : (schema type).links[turn.link]? with
      | none => rfl
      | some link =>
          have member := List.mem_of_getElem? isLink
          simp only [Option.bind_eq_bind, Option.bind_some,
            targets type position copy link member]
          cases leads :
              (Reader.viewing bytes).target position link.offset with
          | none => rfl
          | some found =>
              have resolved := Reader.viewing_eq_some leads
              simp only [Option.map_some, Option.bind_some]
              cases kind : link.target with
              | «structure» target =>
                  exact ih (.structure copy member kind resolved)
              | array target length =>
                  simp only [lengths type position copy link member target
                    length kind (by rw [leads]; rfl), Nat.add_assoc base]
                  split
                  · rename_i short
                    exact ih (.element copy member kind resolved short)
                  · rfl
              | string => rfl
              | nothing => rfl

end Follow

theorem flatten_alike {schema : Schema count}
    (schemaWf : schema.WellFormed) {allocator : Allocator} {source : Memory}
    {type : Fin count} {root capacity : Nat} {buffer : Buffer}
    (flattened : schema.flatten allocator source type root capacity =
      .ok buffer)
    {base : Nat} (bounded : base + buffer.length < wordLimit)
    {memory : Memory}
    (loaded : memory.load base buffer.length = buffer.bytes) :
    ∃ resolved, schema.resolve type base memory = some resolved ∧
      ∀ owner position, Copy schema type buffer.bytes owner position →
        ∀ link ∈ (schema owner).links, ∃ found,
          ReadAlike schema buffer.bytes base memory resolved position link
            found := by
  obtain ⟨slots, noted⟩ := exists_flattenNoting flattened
  obtain ⟨sites, -, laidOut⟩ := flattenNoting_laidOut schemaWf noted
  have relocated := (laidOut.resolve schemaWf loaded bounded).2
  have placed := laidOut.placed schemaWf loaded
  refine ⟨memory.resolveSites base sites,
    laidOut.resolve_eq schemaWf loaded bounded, ?_⟩
  intro owner position copy link member
  have laid := (laidOut.settled schemaWf).of_copy schemaWf laidOut.bounded copy
  obtain ⟨level, origin, first, last, inner, single, viewable, within⟩ :=
    laid.link_of_mem member
  exact single.readAlike (placed.subset within) (relocated.subset within)
    bounded viewable member

/-- Whatever the schema is and whatever the value leads to: every path leads
to the same place in all three ways, no link of the structure there is
misread, and what the links lead to lies inside the bytes. -/
theorem flatten_follow {schema : Schema count}
    (schemaWf : schema.WellFormed) {allocator : Allocator} {source : Memory}
    {type : Fin count} {root capacity : Nat} {buffer : Buffer}
    (flattened : schema.flatten allocator source type root capacity =
      .ok buffer)
    {base : Nat} (bounded : base + buffer.length < wordLimit)
    {memory : Memory}
    (loaded : memory.load base buffer.length = buffer.bytes) :
    ∃ resolved, schema.resolve type base memory = some resolved ∧
      ∀ path,
        schema.follow (Reader.peeking memory) path type base =
          (schema.follow (Reader.viewing buffer.bytes) path type 0).map
            (Prod.map id (base + ·)) ∧
        schema.follow (Reader.following resolved) path type base =
          (schema.follow (Reader.viewing buffer.bytes) path type 0).map
            (Prod.map id (base + ·)) ∧
        ∀ owner position,
          schema.follow (Reader.viewing buffer.bytes) path type 0 =
              some (owner, position) →
            ∀ link ∈ (schema owner).links, ∃ found,
              ReadAlike schema buffer.bytes base memory resolved position
                link found := by
  obtain ⟨resolved, resolving, alike⟩ :=
    flatten_alike schemaWf flattened bounded loaded
  refine ⟨resolved, resolving, fun path => ⟨?_, ?_, ?_⟩⟩
  · refine Copy.follow_shift ?_ ?_ path Copy.root
    · intro owner position copy link member
      obtain ⟨found, reads⟩ := alike owner position copy link member
      rw [reads.peeking, reads.viewing]
    · intro owner position copy link member target length kind leads
      obtain ⟨found, reads⟩ := alike owner position copy link member
      exact (reads.lengths kind leads).1
  · refine Copy.follow_shift ?_ ?_ path Copy.root
    · intro owner position copy link member
      obtain ⟨found, reads⟩ := alike owner position copy link member
      rw [reads.following, reads.viewing]
    · intro owner position copy link member target length kind leads
      obtain ⟨found, reads⟩ := alike owner position copy link member
      exact (reads.lengths kind leads).2
  · intro owner position arrives
    exact alike owner position (Copy.root.follow arrives)

theorem flatten_follow_sample :
    ∃ resolved,
      sampleSchema.resolve 0 4096
          (Memory.blank.store 4096 sampleBuffer.bytes) = some resolved ∧
        sampleSchema.follow (Reader.following resolved) [⟨2, 1⟩] 0 4096 =
          some (1, 4096 + 104) := by
  obtain ⟨resolved, resolving, paths⟩ :=
    flatten_follow (by decide +kernel) sample_flatten (by decide +kernel)
      (by decide +kernel : (Memory.blank.store 4096
        sampleBuffer.bytes).load 4096 sampleBuffer.length =
          sampleBuffer.bytes)
  refine ⟨resolved, resolving, ?_⟩
  rw [(paths [⟨2, 1⟩]).2.1]
  decide +kernel

end FlatGraph
