import FlatGraph.Proofs.View
import FlatGraph.Proofs.Walk.RoundTrip

/-!
The slots of a walk are the slots of the structures in the flat bytes: of all
copies that are reached from the root by the links, and of no other place.
-/

namespace FlatGraph

variable {count : Nat}

/-- Where the copies of structures begin in flat bytes: the root's at zero,
and others wherever a link of a copy leads, one for each element of an
array. -/
inductive Copy (schema : Schema count) (root : Fin count) (bytes : Bytes) :
    Fin count → (position : Nat) → Prop where
  | root : Copy schema root bytes root 0
  | structure {type target : Fin count} {link : Link count}
      {position place : Nat} (owner : Copy schema root bytes type position)
      (member : link ∈ (schema type).links)
      (kind : link.target = .structure target)
      (leads : View.resolve bytes position link.offset = .ok (some place)) :
      Copy schema root bytes target place
  | element {type target : Fin count} {link : Link count}
      {length : LengthField} {position place index : Nat}
      (owner : Copy schema root bytes type position)
      (member : link ∈ (schema type).links)
      (kind : link.target = .array target length)
      (leads : View.resolve bytes position link.offset = .ok (some place))
      (inside : index < length.read (Memory.ofBytes bytes) position) :
      Copy schema root bytes target
        (place + (schema target).layout.size * index)

namespace Laid

variable {schema : Schema count} {source image : Memory}
  {stable : Nat → Prop} {depth : Nat} {type : Fin count} {link : Link count}
  {address position start stop : Nat} {sites : List Site}

theorem link_of_mem {links : List (Link count)}
    (laid : Laid schema source image stable depth (.links type links) address
      position start stop sites) (member : link ∈ links) :
    ∃ first last inner,
      Laid schema source image stable depth (.link type link) address position
        first last inner ∧
      start ≤ first ∧ last ≤ stop ∧ ∀ site ∈ inner, site ∈ sites := by
  induction links generalizing start sites with
  | nil => cases member
  | cons other links ih =>
      cases laid with
      | consLinks first rest =>
          have firstLe := first.start_le
          have restLe := rest.start_le
          rcases List.mem_cons.mp member with rfl | later
          · exact ⟨_, _, _, first, Nat.le_refl _, restLe,
              fun site => List.mem_append_left _⟩
          · obtain ⟨begin, last, inner, found, above, below, within⟩ :=
              ih rest later
            exact ⟨begin, last, inner, found, Nat.le_trans firstLe above,
              below, fun site member =>
                List.mem_append_right _ (within site member)⟩

theorem element_of_lt {total : Nat}
    (laid : Laid schema source image stable depth (.elements type total)
      address position start stop sites)
    (placed : position + (schema type).layout.size * total ≤ start)
    {index : Nat} (short : index < total) :
    ∃ first last inner,
      Laid schema source image stable depth (.value type)
        (address + (schema type).layout.size * index)
        (position + (schema type).layout.size * index) first last inner ∧
      position + (schema type).layout.size * index +
        (schema type).layout.size ≤ first ∧
      last ≤ stop ∧ ∀ site ∈ inner, site ∈ sites := by
  induction total generalizing address position start sites index with
  | zero => cases short
  | succ total ih =>
      rw [Nat.mul_add_one] at placed
      cases laid with
      | consElements first rest =>
          have firstLe := first.start_le
          have restLe := rest.start_le
          cases index with
          | zero =>
              refine ⟨_, _, _, first, ?_, restLe,
                fun site => List.mem_append_left _⟩
              rw [Nat.mul_zero]
              omega
          | succ index =>
              obtain ⟨begin, last, inner, found, above, below, within⟩ :=
                ih rest (by omega) (Nat.lt_of_succ_lt_succ short)
              have next : ∀ before, before + (schema type).layout.size +
                  (schema type).layout.size * index =
                    before + (schema type).layout.size * (index + 1) := by
                intro before
                rw [Nat.mul_add_one]
                omega
              rw [next, next] at found
              rw [next] at above
              exact ⟨begin, last, inner, found, above, below,
                fun site member =>
                  List.mem_append_right _ (within site member)⟩

theorem slot_mem
    (laid : Laid schema source image stable depth (.link type link) address
      position start stop sites) :
    ⟨position, position + link.offset⟩ ∈ sites := by
  cases laid with
  | null absent zero => exact List.mem_cons_self
  | block leads present counted behind offset inner => exact List.mem_cons_self

end Laid

section View

variable {schema : Schema count} {source : Memory} {stable : Nat → Prop}
  {depth : Nat} {type target root : Fin count} {link : Link count}
  {bytes : Bytes} {address position start stop place : Nat}
  {sites : List Site}

theorem view_null
    (inside : position + link.offset + wordSize ≤ bytes.length)
    (bounded : bytes.length < wordLimit)
    (zero : (Memory.ofBytes bytes).word (position + link.offset) = 0) :
    View.resolve bytes position link.offset = .ok none :=
  View.resolve_of_null inside bounded (View.offset_eq_word inside) zero

theorem view_block
    (inside : position + link.offset + wordSize ≤ bytes.length)
    (bounded : bytes.length < wordLimit)
    (offset : (Memory.ofBytes bytes).word (position + link.offset) =
      place - position)
    (beyond : position < place) (reached : place ≤ bytes.length) :
    View.resolve bytes position link.offset = .ok (some place) :=
  View.resolve_of_target inside bounded (View.offset_eq_word inside) offset
    beyond reached

structure Viewable (schema : Schema count) (type : Fin count) (bytes : Bytes)
    (position start stop : Nat) : Prop where
  schemaWf : schema.WellFormed
  behind : position + (schema type).layout.size ≤ start
  inside : stop ≤ bytes.length
  bounded : bytes.length < wordLimit

theorem Viewable.narrow {first last : Nat}
    (viewable : Viewable schema type bytes position start stop)
    (above : start ≤ first) (below : last ≤ stop) :
    Viewable schema type bytes position first last :=
  ⟨viewable.schemaWf, Nat.le_trans viewable.behind above,
    Nat.le_trans below viewable.inside, viewable.bounded⟩

theorem Kept.length_eq_image {image : Memory} {length : LengthField}
    (counted : ∀ index < length.width,
      Kept source image stable address position (length.offset + index)) :
    length.read image position = length.read source address := by
  have same : ∀ place, stable place → image.byte (0 + place) =
      image.byte place := by
    intro place _
    rw [Nat.zero_add]
  have read := Kept.length_eq same counted
  rw [Nat.zero_add] at read
  exact read

theorem Laid.view_part
    (laid : Laid schema source (Memory.ofBytes bytes) stable depth
      (.link type link) address position start stop sites)
    (viewable : Viewable schema type bytes position start stop)
    (member : link ∈ (schema type).links)
    (arrives : View.resolve bytes position link.offset = .ok (some place)) :
    ∃ part inner,
      link.target.part? schema source address
        (source.word (address + link.offset)) = some part ∧
      (∀ length ∈ link.target.length?,
        length.read (Memory.ofBytes bytes) position =
          length.read source address) ∧
      Laid schema source (Memory.ofBytes bytes) stable depth part
        (source.word (address + link.offset)) place
        (place + part.extent schema) stop inner ∧
      ∀ site ∈ inner, site ∈ sites := by
  obtain ⟨schemaWf, behind, inside, bounded⟩ := viewable
  have owned := (schemaWf type).inside link member
  have longer := laid.start_le
  cases laid with
  | null absent zero =>
      rw [view_null (by omega) bounded zero] at arrives
      cases arrives
  | block leads present counted behindSlot offset inner =>
      have before := Part.before_block schemaWf member behind behindSlot
      have innerLe := inner.start_le
      rw [view_block (by omega) bounded offset before (by omega)] at arrives
      cases arrives
      exact ⟨_, _, leads, fun length isLength =>
        Kept.length_eq_image (counted length isLength), inner,
        fun site => List.mem_cons_of_mem _⟩

def Part.Copied (schema : Schema count) (root : Fin count) (bytes : Bytes)
    (position : Nat) : Part count → Prop
  | .value type => Copy schema root bytes type position
  | .links type _ => Copy schema root bytes type position
  | .link type _ => Copy schema root bytes type position
  | .elements type total => ∀ index < total,
      Copy schema root bytes type
        (position + (schema type).layout.size * index)
  | .bytes _ => True

theorem Copy.part {part : Part count} {pointer : Nat}
    (copy : Copy schema root bytes type position)
    (member : link ∈ (schema type).links)
    (leads : link.target.part? schema source address pointer = some part)
    (counted : ∀ length ∈ link.target.length?,
      length.read (Memory.ofBytes bytes) position =
        length.read source address)
    (arrives : View.resolve bytes position link.offset = .ok (some place)) :
    part.Copied schema root bytes place := by
  cases kind : link.target with
  | «structure» target =>
      rw [kind] at leads
      cases leads
      exact .structure copy member kind arrives
  | array target length =>
      rw [kind, Target.part?] at leads
      rw [kind] at counted
      cases leads
      split
      · trivial
      · intro index short
        rw [← counted length rfl] at short
        exact .element copy member kind arrives short
  | string =>
      rw [kind, Target.part?] at leads
      obtain ⟨text, -, rfl⟩ := Option.map_eq_some_iff.mp leads
      trivial
  | nothing =>
      rw [kind] at leads
      cases leads

theorem Laid.site_of_copy {part : Part count}
    (laid : Laid schema source (Memory.ofBytes bytes) stable depth part
      address position start stop sites)
    (schemaWf : schema.WellFormed) (within : part.Within schema)
    (behind : position + part.extent schema ≤ start)
    (inside : stop ≤ bytes.length) (bounded : bytes.length < wordLimit)
    (copied : part.Copied schema root bytes position)
    {site : Site} (member : site ∈ sites) :
    ∃ type position, Copy schema root bytes type position ∧
      ∃ link ∈ (schema type).links,
        site = ⟨position, position + link.offset⟩ := by
  induction laid with
  | value plain links ih =>
      exact ih (List.Sublist.refl _) behind inside copied member
  | noLinks => cases member
  | @consLinks depth type link links address position start middle stop sites
      later first rest firstIH restIH =>
      have firstLe := first.start_le
      have restLe := rest.start_le
      rcases List.mem_append.mp member with here | later
      · exact firstIH (within.subset List.mem_cons_self) behind (by omega)
          copied here
      · exact restIH ((List.sublist_cons_self link links).trans within)
          (Nat.le_trans behind firstLe) inside copied later
  | @null depth type link address position start absent zero =>
      cases List.mem_singleton.mp member
      exact ⟨type, position, copied, link, within, rfl⟩
  | @block depth type link part address position start block stop sites leads
      present counted behindSlot offset inner ih =>
      have before := Part.before_block schemaWf within behind behindSlot
      have owned := (schemaWf type).inside link within
      have innerLe := inner.start_le
      simp only [Part.extent] at behind
      have arrives : View.resolve bytes position link.offset =
          .ok (some block) :=
        view_block (by omega) bounded offset before (by omega)
      rcases List.mem_cons.mp member with rfl | later
      · exact ⟨type, position, copied, link, within, rfl⟩
      · exact ih (Target.part?_whole leads).1 (Nat.le_refl _) inside
          (Copy.part copied within leads (fun length isLength =>
            Kept.length_eq_image (counted length isLength)) arrives) later
  | noElements => cases member
  | @consElements depth elements type address position start middle stop sites
      later first rest firstIH restIH =>
      have firstLe := first.start_le
      have restLe := rest.start_le
      have whole := Nat.mul_add_one (schema type).layout.size elements
      simp only [Part.extent] at behind firstIH restIH
      rcases List.mem_append.mp member with here | later
      · have mine := copied 0 (Nat.succ_pos _)
        rw [Nat.mul_zero] at mine
        exact firstIH trivial (by omega) (by omega) mine here
      · refine restIH trivial (by omega) inside ?_ later
        intro index short
        have mine := copied (index + 1) (Nat.succ_lt_succ short)
        rw [Nat.mul_add_one, Nat.add_comm (_ * index), ← Nat.add_assoc]
          at mine
        exact mine
  | bytes kept => cases member

end View

section LaidOut

variable {schema : Schema count} {source : Memory} {stable : Nat → Prop}
  {depth : Nat} {root type : Fin count} {link : Link count}
  {address position : Nat} {bytes : Bytes} {sites : List Site}

/-- A copy was laid out by the walk, at some of its sites; one without links
may be in an array of which the walk looked at no element. -/
inductive LaidCopy (schema : Schema count) (source : Memory) (bytes : Bytes)
    (stable : Nat → Prop) (sites : List Site) (type : Fin count)
    (position : Nat) : Prop where
  | plain (isPlain : schema.isPlain type = true)
  | walked {level origin start stop : Nat} {inner : List Site}
      (laid : Laid schema source (Memory.ofBytes bytes) stable level
        (.value type) origin position start stop inner)
      (viewable : Viewable schema type bytes position start stop)
      (within : ∀ site ∈ inner, site ∈ sites)

theorem LaidCopy.link_of_mem
    (found : LaidCopy schema source bytes stable sites type position)
    (member : link ∈ (schema type).links) :
    ∃ level origin first last inner,
      Laid schema source (Memory.ofBytes bytes) stable level (.link type link)
        origin position first last inner ∧
      Viewable schema type bytes position first last ∧
      ∀ site ∈ inner, site ∈ sites := by
  cases found with
  | plain isPlain =>
      rw [Schema.links_of_isPlain isPlain] at member
      cases member
  | walked laid viewable within =>
      cases laid with
      | value plain links =>
          obtain ⟨first, last, inner, single, above, below, some⟩ :=
            links.link_of_mem member
          exact ⟨_, _, first, last, inner, single,
            viewable.narrow above below,
            fun site member => within site (some site member)⟩

theorem Laid.of_copy
    (whole : Laid schema source (Memory.ofBytes bytes) stable depth
      (.value root) address 0 (schema root).layout.size bytes.length sites)
    (schemaWf : schema.WellFormed) (bounded : bytes.length < wordLimit)
    (copy : Copy schema root bytes type position) :
    LaidCopy schema source bytes stable sites type position := by
  induction copy with
  | root =>
      exact .walked whole
        ⟨schemaWf, Nat.le_of_eq (Nat.zero_add _), Nat.le_refl _, bounded⟩
        fun _ member => member
  | «structure» owner member kind leads ih =>
      obtain ⟨level, origin, first, last, inner, single, viewable, within⟩ :=
        ih.link_of_mem member
      obtain ⟨part, behind, isPart, -, laid, all⟩ :=
        single.view_part viewable member leads
      rw [kind] at isPart
      cases isPart
      exact .walked laid
        ⟨schemaWf, Nat.le_refl _, viewable.inside, bounded⟩
        fun site member => within site (all site member)
  | element owner member kind leads short ih =>
      obtain ⟨level, origin, first, last, inner, single, viewable, within⟩ :=
        ih.link_of_mem member
      obtain ⟨part, behind, isPart, counted, laid, all⟩ :=
        single.view_part viewable member leads
      rw [kind, Target.part?] at isPart
      rw [kind] at counted
      split at isPart
      · exact .plain ‹_›
      · cases isPart
        rw [counted _ rfl] at short
        obtain ⟨begin, ends, own, element, beyond, upTo, mine⟩ :=
          laid.element_of_lt (Nat.le_refl _) short
        exact .walked element
          ⟨schemaWf, beyond, Nat.le_trans upTo viewable.inside, bounded⟩
          fun site member => within site (all site (mine site member))

/-- A slot of a copy in flat bytes, and where the copy begins. -/
def CopySlot (schema : Schema count) (root : Fin count) (bytes : Bytes)
    (container slot : Nat) : Prop :=
  ∃ type, Copy schema root bytes type container ∧
    ∃ link ∈ (schema type).links, slot = container + link.offset

theorem LaidOut.site_mem_iff
    (laidOut : LaidOut schema source depth root address bytes sites)
    (schemaWf : schema.WellFormed) {container slot : Nat} :
    ⟨container, slot⟩ ∈ sites ↔
      CopySlot schema root bytes container slot := by
  constructor
  · intro member
    obtain ⟨type, position, copy, link, linked, same⟩ :=
      laidOut.laid.site_of_copy schemaWf trivial
        (Nat.le_of_eq (Nat.zero_add _)) (Nat.le_refl _) laidOut.bounded
        Copy.root member
    cases same
    exact ⟨type, copy, link, linked, rfl⟩
  · rintro ⟨type, copy, link, linked, rfl⟩
    have found := laidOut.laid.of_copy schemaWf laidOut.bounded copy
    obtain ⟨level, origin, first, last, inner, laid, -, within⟩ :=
      found.link_of_mem linked
    exact within _ laid.slot_mem

theorem LaidOut.nodup
    (laidOut : LaidOut schema source depth root address bytes sites)
    (schemaWf : schema.WellFormed) : (sites.map Site.slot).Nodup := by
  have apart := laidOut.laid.pairwise_apart schemaWf trivial
    (Nat.le_of_eq (Nat.zero_add _))
  have positive : 0 < wordSize := by decide
  refine List.pairwise_map.mpr (apart.imp ?_)
  intro left right different same
  rcases different with before | after
  · omega
  · omega

end LaidOut

end FlatGraph
