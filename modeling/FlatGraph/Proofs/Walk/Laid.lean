import FlatGraph.Proofs.Walk.Part

/-!
How a value lies in flat bytes: its copy with offsets in the slots, and behind
it, in the order of the walk, the blocks and texts that the slots lead to.
-/

namespace FlatGraph

variable {count : Nat}

/-- A byte of the source that has been copied, to a place that stays. -/
def Kept (source image : Memory) (stable : Nat → Prop)
    (address position index : Nat) : Prop :=
  stable (position + index) ∧
    image.byte (position + index) = source.byte (address + index)

section Kept

variable {source image memory : Memory} {stable : Nat → Prop}
  {address position base : Nat}
  (same : ∀ place, stable place →
    memory.byte (base + place) = image.byte place)

include same

theorem Kept.byte_eq {index : Nat}
    (kept : Kept source image stable address position index) :
    memory.byte (base + position + index) = source.byte (address + index) := by
  rw [Nat.add_assoc, same _ kept.1, kept.2]

theorem Kept.length_eq {length : LengthField}
    (counted : ∀ index < length.width,
      Kept source image stable address position (length.offset + index)) :
    length.read memory (base + position) = length.read source address := by
  apply LengthField.read_congr
  intro index short
  rw [Nat.add_assoc, Nat.add_assoc address]
  exact Kept.byte_eq same (counted index short)

end Kept

/-- A part of the source at an address lies in the image, its copy at a
position, and all that the copy leads to between `start` and `stop`. The sites
are those of its slots in the order of the walk, which is at most `depth`
structures deep. What a walk over the image reads, apart from the slots, is
`stable`. -/
inductive Laid (schema : Schema count) (source image : Memory)
    (stable : Nat → Prop) : (depth : Nat) → Part count →
      (address position start stop : Nat) → List Site → Prop where
  | value {depth : Nat} {type : Fin count}
      {address position start stop : Nat} {sites : List Site}
      (plain : ∀ index, (schema type).Plain index →
        Kept source image stable address position index)
      (links : Laid schema source image stable depth
        (.links type (schema type).links) address position start stop sites) :
      Laid schema source image stable (depth + 1) (.value type) address
        position start stop sites
  | noLinks {depth : Nat} {type : Fin count} {address position start : Nat} :
      Laid schema source image stable depth (.links type []) address position
        start start []
  | consLinks {depth : Nat} {type : Fin count} {link : Link count}
      {links : List (Link count)} {address position start middle stop : Nat}
      {sites later : List Site}
      (first : Laid schema source image stable depth (.link type link) address
        position start middle sites)
      (rest : Laid schema source image stable depth (.links type links)
        address position middle stop later) :
      Laid schema source image stable depth (.links type (link :: links))
        address position start stop (sites ++ later)
  | null {depth : Nat} {type : Fin count} {link : Link count}
      {address position start : Nat}
      (absent : link.target = .nothing ∨
        source.word (address + link.offset) = 0)
      (zero : image.word (position + link.offset) = 0) :
      Laid schema source image stable depth (.link type link) address position
        start start [⟨position, position + link.offset⟩]
  | block {depth : Nat} {type : Fin count} {link : Link count}
      {part : Part count} {address position start block stop : Nat}
      {sites : List Site}
      (leads : link.target.part? schema source address
        (source.word (address + link.offset)) = some part)
      (present : source.word (address + link.offset) ≠ 0)
      (counted : ∀ length ∈ link.target.length?,
        ∀ index < length.width,
          Kept source image stable address position (length.offset + index))
      (behind : start ≤ block)
      (offset : image.word (position + link.offset) = block - position)
      (inner : Laid schema source image stable depth part
        (source.word (address + link.offset)) block
        (block + part.extent schema) stop sites) :
      Laid schema source image stable depth (.link type link) address position
        start stop (⟨position, position + link.offset⟩ :: sites)
  | noElements {depth : Nat} {type : Fin count}
      {address position start : Nat} :
      Laid schema source image stable depth (.elements type 0) address
        position start start []
  | consElements {depth elements : Nat} {type : Fin count}
      {address position start middle stop : Nat} {sites later : List Site}
      (first : Laid schema source image stable depth (.value type) address
        position start middle sites)
      (rest : Laid schema source image stable depth (.elements type elements)
        (address + (schema type).layout.size)
        (position + (schema type).layout.size) middle stop later) :
      Laid schema source image stable depth (.elements type (elements + 1))
        address position start stop (sites ++ later)
  | bytes {depth length address position start : Nat}
      (kept : ∀ index < length,
        Kept source image stable address position index) :
      Laid schema source image stable depth (.bytes length) address position
        start start []

namespace Laid

variable {schema : Schema count} {source image : Memory}
  {stable : Nat → Prop} {depth : Nat} {part : Part count}
  {address position start stop : Nat} {sites : List Site}

theorem start_le
    (laid : Laid schema source image stable depth part address position start
      stop sites) : start ≤ stop := by
  induction laid with
  | value plain links ih => exact ih
  | noLinks => exact Nat.le_refl _
  | consLinks first rest firstIH restIH => exact Nat.le_trans firstIH restIH
  | null absent zero => exact Nat.le_refl _
  | block leads present counted behind offset inner ih => omega
  | noElements => exact Nat.le_refl _
  | consElements first rest firstIH restIH =>
      exact Nat.le_trans firstIH restIH
  | bytes kept => exact Nat.le_refl _

theorem slot_or_between
    (laid : Laid schema source image stable depth part address position start
      stop sites) (wf : schema.WellFormed) {site : Site}
    (member : site ∈ sites) :
    part.Slot schema position site.slot ∨
      start ≤ site.slot ∧ site.slot + wordSize ≤ stop := by
  induction laid with
  | value plain links ih => exact ih member
  | noLinks => cases member
  | consLinks first rest firstIH restIH =>
      have firstLe := first.start_le
      have restLe := rest.start_le
      rcases List.mem_append.mp member with here | later
      · rcases firstIH here with owned | between
        · exact .inl ⟨_, List.mem_cons_self, owned⟩
        · exact .inr ⟨between.1, by omega⟩
      · rcases restIH later with ⟨link, other, owned⟩ | between
        · exact .inl ⟨link, List.mem_cons_of_mem _ other, owned⟩
        · exact .inr ⟨by omega, between.2⟩
  | null absent zero =>
      cases List.mem_singleton.mp member
      exact .inl rfl
  | block leads present counted behind offset inner ih =>
      have innerLe := inner.start_le
      rcases List.mem_cons.mp member with rfl | later
      · exact .inl rfl
      · rcases ih later with owned | between
        · obtain ⟨above, below⟩ :=
            owned.inside wf (Target.part?_whole leads).1
          exact .inr ⟨by omega, by omega⟩
        · exact .inr ⟨by omega, by omega⟩
  | noElements => cases member
  | consElements first rest firstIH restIH =>
      have firstLe := first.start_le
      have restLe := rest.start_le
      rcases List.mem_append.mp member with here | later
      · rcases firstIH here with owned | between
        · exact .inl (Part.slot_elements_succ.mpr (.inl owned))
        · exact .inr ⟨between.1, by omega⟩
      · rcases restIH later with owned | between
        · exact .inl (Part.slot_elements_succ.mpr (.inr owned))
        · exact .inr ⟨by omega, between.2⟩
  | bytes kept => cases member

theorem between_of_inner
    (laid : Laid schema source image stable depth part address position
      (position + part.extent schema) stop sites)
    (wf : schema.WellFormed) (within : part.Within schema)
    (behind : start ≤ position) {site : Site} (member : site ∈ sites) :
    start ≤ site.slot ∧ site.slot + wordSize ≤ stop := by
  have longer := laid.start_le
  rcases laid.slot_or_between wf member with owned | between
  · obtain ⟨above, below⟩ := owned.inside wf within
    omega
  · omega

theorem pairwise_apart
    (laid : Laid schema source image stable depth part address position start
      stop sites) (wf : schema.WellFormed) (within : part.Within schema)
    (placed : position + part.extent schema ≤ start) :
    sites.Pairwise fun left right => Apart left.slot right.slot := by
  induction laid with
  | value plain links ih => exact ih (List.Sublist.refl _) placed
  | noLinks => exact List.Pairwise.nil
  | @consLinks depth type link links address position start middle stop sites
      later first rest firstIH restIH =>
      have firstLe := first.start_le
      have here := within.subset List.mem_cons_self
      have others := (List.sublist_cons_self link links).trans within
      have inside := (wf type).inside link here
      have apart := (List.pairwise_cons.mp ((wf type).apart.sublist within)).1
      simp only [Part.extent] at placed firstIH restIH
      refine List.pairwise_append.mpr
        ⟨firstIH here placed, restIH others (by omega), ?_⟩
      intro left leftMember right rightMember
      unfold Apart
      rcases first.slot_or_between wf leftMember with owned | between
      · change left.slot = position + link.offset at owned
        rcases rest.slot_or_between wf rightMember with
          ⟨other, member, same⟩ | behind
        · rcases apart other member with before | after
          · omega
          · omega
        · omega
      · rcases rest.slot_or_between wf rightMember with owned | behind
        · obtain ⟨above, below⟩ := owned.inside wf others
          simp only [Part.extent] at below
          omega
        · omega
  | null absent zero => exact List.pairwise_singleton _ _
  | @block depth type link part address position start block stop sites leads
      present counted behind offset inner ih =>
      have inside := (wf type).inside link within
      have whole := (Target.part?_whole leads).1
      simp only [Part.extent] at placed
      refine List.pairwise_cons.mpr ⟨?_, ih whole (Nat.le_refl _)⟩
      intro site member
      have between := inner.between_of_inner wf whole behind member
      exact .inl (by simp only; omega)
  | noElements => exact List.Pairwise.nil
  | @consElements depth elements type address position start middle stop sites
      later first rest firstIH restIH =>
      have firstLe := first.start_le
      simp only [Part.extent, Nat.mul_succ] at placed firstIH restIH
      refine List.pairwise_append.mpr
        ⟨firstIH trivial (by omega), restIH trivial (by omega), ?_⟩
      intro left leftMember right rightMember
      unfold Apart
      rcases rest.slot_or_between wf rightMember with owned | behind
      · obtain ⟨above, below⟩ := owned.inside wf trivial
        simp only [Part.extent] at below
        rcases first.slot_or_between wf leftMember with mine | between
        · have inside := mine.inside wf trivial
          simp only [Part.extent] at inside
          omega
        · omega
      · rcases first.slot_or_between wf leftMember with mine | between
        · have inside := mine.inside wf trivial
          simp only [Part.extent] at inside
          omega
        · omega
  | bytes kept => exact List.Pairwise.nil

/-- A byte of the copy that belongs to no slot of the structure, or a byte
behind it in none of the slots there. No walk over the part changes it. -/
def Untouched (schema : Schema count) (part : Part count)
    (position start stop : Nat) (sites : List Site) (place : Nat) : Prop :=
  (position ≤ place ∧ place < position + part.extent schema ∧
    ∀ slot, part.around.Slot schema position slot → Outside place slot) ∨
  (start ≤ place ∧ place < stop ∧ ∀ site ∈ sites, Outside place site.slot)

theorem outside_of_copy
    (laid : Laid schema source image stable depth part address position start
      stop sites) (wf : schema.WellFormed)
    {place : Nat} (before : place < start)
    (bare : ∀ slot, part.Slot schema position slot → Outside place slot)
    {site : Site} (member : site ∈ sites) : Outside place site.slot := by
  rcases laid.slot_or_between wf member with owned | between
  · exact bare site.slot owned
  · exact .inl (by omega)

theorem Untouched.behind_slot {block slot : Nat}
    {place : Nat}
    (untouched : Untouched schema part block (block + part.extent schema) stop
      sites place)
    (inner : Laid schema source image stable depth part address block
      (block + part.extent schema) stop sites)
    (wf : schema.WellFormed) (whole : part.around = part)
    (behind : start ≤ block) (before : slot + wordSize ≤ start) :
    start ≤ place ∧ place < stop ∧
      ∀ site ∈ (⟨position, slot⟩ :: sites : List Site),
        Outside place site.slot := by
  have innerLe := inner.start_le
  rcases untouched with ⟨above, below, bare⟩ | ⟨above, below, outside⟩
  · refine ⟨by omega, by omega, ?_⟩
    intro site member
    rw [whole] at bare
    rcases List.mem_cons.mp member with rfl | later
    · exact .inr (by simp only; omega)
    · exact inner.outside_of_copy wf below bare later
  · refine ⟨by omega, below, ?_⟩
    intro site member
    rcases List.mem_cons.mp member with rfl | later
    · exact .inr (by simp only; omega)
    · exact outside site later

section Links

variable {type : Fin count} {link : Link count} {links : List (Link count)}
  {middle place : Nat} {later : List Site}
  (wf : schema.WellFormed)
  (within : (link :: links).Sublist (schema type).links)
  (placed : position + (schema type).layout.size ≤ start)

include wf within placed

theorem Untouched.of_first_link
    (rest : Laid schema source image stable depth (.links type links) address
      position middle stop later)
    (untouched : Untouched schema (.link type link) position start middle
      sites place) :
    Untouched schema (.links type (link :: links)) position start stop
      (sites ++ later) place := by
  have restLe := rest.start_le
  have others := (List.sublist_cons_self link links).trans within
  rcases untouched with copy | ⟨above, below, outside⟩
  · exact .inl copy
  · refine .inr ⟨above, by omega, ?_⟩
    intro site member
    rcases List.mem_append.mp member with here | there
    · exact outside site here
    · exact rest.outside_of_copy wf below
        (fun slot owned => owned.outside wf others
          (Nat.le_trans placed above))
        there

theorem Untouched.of_rest_links
    (first : Laid schema source image stable depth (.link type link) address
      position start middle sites)
    (untouched : Untouched schema (.links type links) position middle stop
      later place) :
    Untouched schema (.links type (link :: links)) position start stop
      (sites ++ later) place := by
  have firstLe := first.start_le
  have here := within.subset List.mem_cons_self
  rcases untouched with copy | ⟨above, below, outside⟩
  · exact .inl copy
  · refine .inr ⟨by omega, below, ?_⟩
    intro site member
    rcases List.mem_append.mp member with mine | theirs
    · rcases first.slot_or_between wf mine with owned | between
      · exact owned.outside wf here
          (Nat.le_trans placed (Nat.le_trans firstLe above))
      · exact .inr (by omega)
    · exact outside site theirs

end Links

section Elements

variable {type : Fin count} {elements middle place : Nat} {later : List Site}
  (wf : schema.WellFormed)
  (placed : position + (schema type).layout.size +
    (schema type).layout.size * elements ≤ start)

include wf placed

theorem Untouched.of_first_element
    (rest : Laid schema source image stable depth (.elements type elements)
      (address + (schema type).layout.size)
      (position + (schema type).layout.size) middle stop later)
    (untouched : Untouched schema (.value type) position start middle sites
      place) :
    Untouched schema (.elements type (elements + 1)) position start stop
      (sites ++ later) place := by
  have restLe := rest.start_le
  rcases untouched with ⟨above, below, bare⟩ | ⟨above, below, outside⟩
  · refine .inl ⟨above, ?_, ?_⟩
    · simp only [Part.extent, Nat.mul_succ] at below ⊢
      omega
    · intro slot owned
      rcases Part.slot_elements_succ.mp owned with mine | theirs
      · exact bare slot mine
      · have inside := theirs.inside wf trivial
        simp only [Part.extent] at below
        exact .inl (by omega)
  · refine .inr ⟨above, by omega, ?_⟩
    intro site member
    rcases List.mem_append.mp member with here | there
    · exact outside site here
    · exact rest.outside_of_copy wf below
        (fun slot owned => owned.outside wf trivial
          (Nat.le_trans placed above))
        there

theorem Untouched.of_rest_elements
    (first : Laid schema source image stable depth (.value type) address
      position start middle sites)
    (untouched : Untouched schema (.elements type elements)
      (position + (schema type).layout.size) middle stop later place) :
    Untouched schema (.elements type (elements + 1)) position start stop
      (sites ++ later) place := by
  have firstLe := first.start_le
  rcases untouched with ⟨above, below, bare⟩ | ⟨above, below, outside⟩
  · refine .inl ⟨by omega, ?_, ?_⟩
    · simp only [Part.extent, Nat.mul_succ] at below ⊢
      omega
    · intro slot owned
      rcases Part.slot_elements_succ.mp owned with mine | theirs
      · exact mine.outside wf trivial above
      · exact bare slot theirs
  · refine .inr ⟨by omega, below, ?_⟩
    intro site member
    rcases List.mem_append.mp member with here | there
    · rcases first.slot_or_between wf here with owned | between
      · exact owned.outside wf trivial (by
          simp only [Part.extent]
          omega)
      · exact .inr (by omega)
    · exact outside site there

end Elements

/-- Whatever holds of all places that the walk leaves alone may be taken for
what stays. -/
theorem restable
    (laid : Laid schema source image stable depth part address position start
      stop sites) (wf : schema.WellFormed) (within : part.Within schema)
    (placed : position + part.extent schema ≤ start)
    {other : Nat → Prop}
    (untouched : ∀ place,
      Untouched schema part position start stop sites place → other place) :
    Laid schema source image other depth part address position start stop
      sites := by
  induction laid with
  | @value depth type address position start stop sites plain links ih =>
      refine .value ?_ (ih (List.Sublist.refl _) placed untouched)
      intro index isPlain
      exact ⟨untouched _ (.inl (isPlain.untouched position)),
        (plain index isPlain).2⟩
  | noLinks => exact .noLinks
  | @consLinks depth type link links address position start middle stop sites
      later first rest firstIH restIH =>
      have firstLe := first.start_le
      have here := within.subset List.mem_cons_self
      have others := (List.sublist_cons_self link links).trans within
      refine .consLinks (firstIH here placed ?_)
        (restIH others (Nat.le_trans placed firstLe) ?_)
      · intro place mine
        exact untouched place
          (mine.of_first_link wf within placed rest)
      · intro place theirs
        exact untouched place
          (theirs.of_rest_links wf within placed first)
  | null absent zero => exact .null absent zero
  | @block depth type link part address position start block stop sites leads
      present counted behind offset inner ih =>
      have inside := (wf type).inside link within
      obtain ⟨innerWithin, whole⟩ := Target.part?_whole leads
      simp only [Part.extent] at placed
      have before : position + link.offset + wordSize ≤ start := by omega
      refine .block leads present ?_ behind offset
        (ih innerWithin (Nat.le_refl _) fun place untouchedInner => ?_)
      · intro length isLength index short
        have plain := (wf type).lengths link within length isLength index short
        exact ⟨untouched _ (.inl (plain.untouched position)),
          (counted length isLength index short).2⟩
      · exact untouched place (.inr
          (untouchedInner.behind_slot inner wf whole behind before))
  | noElements => exact .noElements
  | @consElements depth elements type address position start middle stop sites
      later first rest firstIH restIH =>
      have firstLe := first.start_le
      simp only [Part.extent, Nat.mul_succ] at placed firstIH restIH
      refine .consElements (firstIH trivial (by omega) ?_)
        (restIH trivial (by omega) ?_)
      · intro place mine
        exact untouched place
          (mine.of_first_element wf (by omega) rest)
      · intro place theirs
        exact untouched place
          (theirs.of_rest_elements wf (by omega) first)
  | bytes kept =>
      refine .bytes fun index short => ⟨untouched _ (.inl ⟨?_, ?_, ?_⟩),
        (kept index short).2⟩
      · exact Nat.le_add_right _ _
      · exact Nat.add_lt_add_left short _
      · intro slot owned
        cases owned

end Laid

end FlatGraph
