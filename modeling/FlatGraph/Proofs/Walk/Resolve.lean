import FlatGraph.Proofs.Walk.Laid
import FlatGraph.Proofs.Walk.Trace

/-!
Resolving a value that is laid out: the walk comes to the slots in the order
of the layout, reads each of them before anything has changed it, and
overwrites it with the address of what lies behind it.
-/

namespace FlatGraph

namespace Memory

variable {memory : Memory} {base container slot : Nat}

theorem peek_lt (memory : Memory) (container slot : Nat) :
    memory.peek container slot < wordLimit := by
  unfold peek Offset.target?
  split
  · exact Nat.two_pow_pos 64
  · exact Nat.mod_lt _ (Nat.two_pow_pos 64)

theorem peek_of_null (null : memory.word slot = 0) :
    memory.peek container slot = 0 := by
  rw [peek, null]
  rfl

theorem peek_of_offset {target : Nat}
    (offset : memory.word slot = target - container)
    (beyond : container < target) (bounded : base + target < wordLimit) :
    memory.peek (base + container) slot = base + target := by
  have nonnull : ¬ (Offset.mk (memory.word slot)).isNull = true := by
    simp only [Offset.isNull, beq_iff_eq, offset]
    omega
  unfold peek Offset.target?
  rw [if_neg nonnull, Option.getD_some]
  simp only
  rw [Nat.mod_eq_of_lt (by omega)]
  omega

theorem resolveSlot_byte {place : Nat} (outside : Outside place slot) :
    (memory.resolveSlot container slot).byte place = memory.byte place :=
  byte_storeWord_outside outside

theorem resolveSlot_word :
    (memory.resolveSlot container slot).word slot =
      memory.peek container slot :=
  word_storeWord (peek_lt memory container slot)

/-- Memory after the slots of some sites have been resolved in order, of bytes
that have been placed at `base`. -/
def resolveSites (memory : Memory) (base : Nat) (sites : List Site) : Memory :=
  sites.foldl (fun memory site =>
    memory.resolveSlot (base + site.container) (base + site.slot)) memory

@[simp] theorem resolveSites_nil :
    memory.resolveSites base [] = memory := rfl

@[simp] theorem resolveSites_cons (site : Site) (sites : List Site) :
    memory.resolveSites base (site :: sites) =
      (memory.resolveSlot (base + site.container)
        (base + site.slot)).resolveSites base sites := rfl

@[simp] theorem resolveSites_append (sites later : List Site) :
    memory.resolveSites base (sites ++ later) =
      (memory.resolveSites base sites).resolveSites base later :=
  List.foldl_append

theorem resolveSites_byte_outside {sites : List Site} {address : Nat}
    (outside : ∀ site ∈ sites, Outside address (base + site.slot)) :
    (memory.resolveSites base sites).byte address = memory.byte address := by
  induction sites generalizing memory with
  | nil => rfl
  | cons site sites ih =>
      rw [resolveSites_cons, ih fun other member =>
        outside other (List.mem_cons_of_mem _ member)]
      exact resolveSlot_byte (outside site List.mem_cons_self)

theorem resolveSites_byte {sites : List Site} {place : Nat}
    (outside : ∀ site ∈ sites, Outside place site.slot) :
    (memory.resolveSites base sites).byte (base + place) =
      memory.byte (base + place) := by
  apply resolveSites_byte_outside
  intro site member
  rcases outside site member with before | after
  · exact .inl (by omega)
  · exact .inr (by omega)

theorem resolveSites_word_apart {sites : List Site} {other : Nat}
    (apart : ∀ site ∈ sites, Apart site.slot other) :
    (memory.resolveSites base sites).word (base + other) =
      memory.word (base + other) := by
  apply word_congr
  intro index short
  rw [Nat.add_assoc]
  apply resolveSites_byte
  intro site member
  rcases apart site member with before | after
  · exact .inr (by omega)
  · exact .inl (by omega)

/-- Of slots apart from each other, every one ends up with the address that it
stood for at first. -/
theorem resolveSites_word {sites : List Site}
    (apart : sites.Pairwise fun left right => Apart left.slot right.slot)
    {site : Site} (member : site ∈ sites) :
    (memory.resolveSites base sites).word (base + site.slot) =
      memory.peek (base + site.container) (base + site.slot) := by
  induction sites generalizing memory with
  | nil => cases member
  | cons first sites ih =>
      obtain ⟨others, rest⟩ := List.pairwise_cons.mp apart
      rw [resolveSites_cons]
      rcases List.mem_cons.mp member with rfl | later
      · rw [resolveSites_word_apart fun other later =>
          (others other later).symm, resolveSlot_word]
      · have same : (memory.resolveSites base [first]).word
            (base + site.slot) = memory.word (base + site.slot) :=
          resolveSites_word_apart fun other isFirst => by
            cases List.mem_singleton.mp isFirst
            exact others site later
        rw [resolveSites_cons, resolveSites_nil] at same
        rw [ih rest later, peek, peek, same]

end Memory

namespace Noting

theorem bind_of_some {α β : Type} {action : Noting (StateT Memory Option) α}
    {next : α → Noting (StateT Memory Option) β} {notes noted : List Nat}
    {before after : Memory} {value : α}
    (ran : action notes before = some ((value, noted), after)) :
    (action >>= next) notes before = next value noted after := by
  change (action notes before).bind (fun outcome =>
    next outcome.1.1 outcome.1.2 outcome.2) = _
  rw [ran]
  rfl

end Noting

variable {count : Nat}

def Part.resolveNoting (schema : Schema count) (depth address : Nat) :
    Part count → Noting (StateT Memory Option) Unit
  | .value type =>
      schema.resolveLinks Memory.notingResolver depth type address
  | .links _ rest =>
      rest.forM (schema.resolveLink Memory.notingResolver
        (schema.resolveLinks Memory.notingResolver depth) address)
  | .link _ only =>
      schema.resolveLink Memory.notingResolver
        (schema.resolveLinks Memory.notingResolver depth) address only
  | .elements type total =>
      forElements (schema.resolveLinks Memory.notingResolver depth type)
        (schema type).layout.size total address
  | .bytes _ => pure ()

/-- The image has been placed in memory at a base, as far as the sites and
what is stable go. -/
structure Placed (image : Memory) (stable : Nat → Prop) (base : Nat)
    (memory : Memory) (sites : List Site) : Prop where
  word_eq : ∀ site ∈ sites,
    memory.word (base + site.slot) = image.word site.slot
  byte_eq : ∀ place, stable place →
    memory.byte (base + place) = image.byte place

section Placed

variable {image memory : Memory} {stable : Nat → Prop} {base : Nat}
  {sites later : List Site}

theorem Placed.left (placed : Placed image stable base memory (sites ++ later)) :
    Placed image stable base memory sites :=
  ⟨fun site member => placed.word_eq site (List.mem_append_left _ member),
    placed.byte_eq⟩

theorem Placed.resolveSites
    (placed : Placed image stable base memory (sites ++ later))
    (apart : (sites ++ later).Pairwise
      fun left right => Apart left.slot right.slot)
    (free : ∀ site ∈ sites, ∀ place, stable place →
      Outside place site.slot) :
    Placed image stable base (memory.resolveSites base sites) later := by
  obtain ⟨-, -, across⟩ := List.pairwise_append.mp apart
  refine ⟨?_, ?_⟩
  · intro site member
    rw [Memory.resolveSites_word_apart fun other first =>
      across other first site member]
    exact placed.word_eq site (List.mem_append_right _ member)
  · intro place isStable
    rw [Memory.resolveSites_byte fun site member =>
      free site member place isStable]
    exact placed.byte_eq place isStable

theorem Placed.resolve_head {site : Site}
    (placed : Placed image stable base memory (site :: sites))
    (apart : (site :: sites).Pairwise
      fun left right => Apart left.slot right.slot)
    (free : ∀ other ∈ site :: sites, ∀ place, stable place →
      Outside place other.slot) :
    Placed image stable base (memory.resolveSites base [site]) sites := by
  refine Placed.resolveSites (placed : Placed image stable base memory
    ([site] ++ sites)) apart ?_
  intro other member
  cases List.mem_singleton.mp member
  exact free site List.mem_cons_self

end Placed

section Laid

variable {schema : Schema count} {source image memory : Memory}
  {stable : Nat → Prop} {depth : Nat} {part : Part count}
  {type : Fin count} {link : Link count}
  {address position start stop base : Nat} {sites : List Site}
  {notes : List Nat}

theorem Part.before_block {block : Nat} (schemaWf : schema.WellFormed)
    (within : (Part.link type link).Within schema)
    (behind : position + (Part.link type link).extent schema ≤ start)
    (behindSlot : start ≤ block) : position < block := by
  have inside := (schemaWf type).inside link within
  have positive : 0 < wordSize := by decide
  simp only [Part.extent] at behind
  omega

theorem resolveLink_slot {offset found : Nat}
    (peeked : memory.peek (base + position) (base + (position + offset)) =
      found)
    {next : Nat → Noting (StateT Memory Option) Unit} :
    (Memory.notingResolver.resolve (base + position)
        (base + position + offset) >>= next) notes memory =
      next found (notes ++ [base + (position + offset)])
        (memory.resolveSites base [⟨position, position + offset⟩]) := by
  rw [Nat.add_assoc]
  apply Noting.bind_of_some
  rw [← peeked]
  rfl

theorem Placed.peek_null {offset : Nat}
    (placed : Placed image stable base memory sites)
    (member : ⟨position, position + offset⟩ ∈ sites)
    (zero : image.word (position + offset) = 0) :
    memory.peek (base + position) (base + (position + offset)) = 0 :=
  Memory.peek_of_null ((placed.word_eq _ member).trans zero)

theorem Placed.peek_block {offset block : Nat}
    (placed : Placed image stable base memory sites)
    (member : ⟨position, position + offset⟩ ∈ sites)
    (leads : image.word (position + offset) = block - position)
    (beyond : position < block) (bounded : base + block < wordLimit) :
    memory.peek (base + position) (base + (position + offset)) =
      base + block :=
  Memory.peek_of_offset ((placed.word_eq _ member).trans leads) beyond bounded

theorem resolveLink_of_null
    (peeked : memory.peek (base + position)
      (base + (position + link.offset)) = 0) :
    (Part.link type link).resolveNoting schema depth (base + position) notes
        memory =
      some (((), notes ++ [base + (position + link.offset)]),
        memory.resolveSites base [⟨position, position + link.offset⟩]) := by
  rw [Part.resolveNoting, Schema.resolveLink, resolveLink_slot peeked]
  cases link.target with
  | «structure» target => rfl
  | array target length => rfl
  | string => rfl
  | nothing => rfl

theorem resolveLink_of_part {found pointer : Nat}
    (peeked : memory.peek (base + position)
      (base + (position + link.offset)) = found)
    (present : found ≠ 0)
    (leads : link.target.part? schema source address pointer = some part)
    (counted : ∀ length ∈ link.target.length?,
      length.read (memory.resolveSites base
          [⟨position, position + link.offset⟩]) (base + position) =
        length.read source address) :
    (Part.link type link).resolveNoting schema depth (base + position) notes
        memory =
      part.resolveNoting schema depth found
        (notes ++ [base + (position + link.offset)])
        (memory.resolveSites base [⟨position, position + link.offset⟩]) := by
  rw [Part.resolveNoting, Schema.resolveLink, resolveLink_slot peeked]
  cases kind : link.target with
  | «structure» target =>
      rw [kind] at leads
      cases leads
      simp only
      rw [if_pos present]
      rfl
  | array target length =>
      rw [kind] at leads counted
      cases leads
      simp only
      cases isPlain : schema.isPlain target with
      | true =>
          simp only [or_true, if_true]
          rfl
      | false =>
          simp only [present, Bool.false_eq_true, or_self, if_false]
          rw [← counted length rfl]
          exact Noting.bind_of_some rfl
  | string =>
      rw [kind] at leads
      obtain ⟨text, -, rfl⟩ := Option.map_eq_some_iff.mp leads
      rfl
  | nothing =>
      rw [kind] at leads
      cases leads

theorem Laid.resolve
    (laid : Laid schema source image stable depth part address position start
      stop sites)
    (schemaWf : schema.WellFormed) (within : part.Within schema)
    (behind : position + part.extent schema ≤ start)
    (bounded : base + stop < wordLimit)
    (free : ∀ site ∈ sites, ∀ place, stable place → Outside place site.slot)
    (placed : Placed image stable base memory sites) :
    part.resolveNoting schema depth (base + position) notes memory =
      some (((), notes ++ sites.map fun site => base + site.slot),
        memory.resolveSites base sites) := by
  -- Memory changes on the way, but not what is still ahead: when the walk comes
  -- to a slot, only slots apart from it have been overwritten.
  induction laid generalizing memory notes with
  | value plain links ih =>
      exact ih (List.Sublist.refl _) behind bounded free placed
  | noLinks =>
      rw [List.map_nil, List.append_nil]
      rfl
  | @consLinks depth type link links address position start middle stop sites
      later first rest firstIH restIH =>
      have apart := (Laid.consLinks first rest).pairwise_apart schemaWf within
        behind
      have others := (List.sublist_cons_self link links).trans within
      have firstLe := first.start_le
      have restLe := rest.start_le
      have freeFirst := fun site member =>
        free site (List.mem_append_left later member)
      refine (Noting.bind_of_some (firstIH (within.subset
        List.mem_cons_self) behind (by omega) freeFirst placed.left)).trans ?_
      rw [List.map_append, ← List.append_assoc, Memory.resolveSites_append]
      exact restIH others (Nat.le_trans behind firstLe) bounded
        (fun site member => free site (List.mem_append_right _ member))
        (placed.resolveSites apart freeFirst)
  | null absent zero =>
      exact resolveLink_of_null (placed.peek_null List.mem_cons_self zero)
  | @block depth type link part address position start block stop sites leads
      present counted behindSlot offset inner ih =>
      have apart := (Laid.block leads present counted behindSlot offset
        inner).pairwise_apart schemaWf within behind
      have before := Part.before_block schemaWf within behind behindSlot
      have innerLe := inner.start_le
      have freeSlot := fun site member =>
        free site (List.mem_cons_of_mem _ member)
      have placedInner := placed.resolve_head apart free
      refine (resolveLink_of_part
        (placed.peek_block List.mem_cons_self offset before (by omega))
        (by omega) leads (fun length isLength =>
          Kept.length_eq placedInner.byte_eq (counted length isLength))).trans
        ((ih (Target.part?_whole leads).1 (Nat.le_refl _) bounded freeSlot
          placedInner).trans ?_)
      rw [List.append_assoc]
      rfl
  | noElements =>
      rw [List.map_nil, List.append_nil]
      rfl
  | @consElements depth elements type address position start middle stop sites
      later first rest firstIH restIH =>
      have apart := (Laid.consElements first rest).pairwise_apart schemaWf
        within behind
      have firstLe := first.start_le
      have restLe := rest.start_le
      have whole := Nat.mul_add_one (schema type).layout.size elements
      have freeFirst := fun site member =>
        free site (List.mem_append_left later member)
      simp only [Part.extent] at behind firstIH restIH
      refine (Noting.bind_of_some (firstIH trivial (by omega) (by omega)
        freeFirst placed.left)).trans ?_
      rw [List.map_append, ← List.append_assoc, Memory.resolveSites_append,
        Nat.add_assoc base]
      exact restIH trivial (by omega) bounded
        (fun site member => free site (List.mem_append_right _ member))
        (placed.resolveSites apart freeFirst)
  | bytes kept =>
      rw [List.map_nil, List.append_nil]
      rfl

end Laid

end FlatGraph
