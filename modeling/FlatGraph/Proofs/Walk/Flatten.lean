import FlatGraph.Proofs.Walk.Mirror
import FlatGraph.Proofs.Walk.Trace

/-!
Flattening lays a value out: a walk that succeeds leaves the frames as they
were, changes no byte before its end except in the slots that it visits, and
what it has added at the end is laid out behind the copy.
-/

namespace FlatGraph

namespace Noting

variable {α β : Type} {notes : List Nat} {before final : Flattener}

theorem bind_eq_ok_iff {action : Noting Flattener.Action α}
    {next : α → Noting Flattener.Action β} {result : β × List Nat} :
    (action >>= next) notes before = .ok result final ↔
      ∃ value noted after, action notes before = .ok (value, noted) after ∧
        next value noted after = .ok result final := by
  change (action notes >>= fun outcome => next outcome.1 outcome.2) before =
    _ ↔ _
  rw [Action.bind_eq_ok_iff]
  constructor
  · rintro ⟨⟨value, noted⟩, after, ran, finished⟩
    exact ⟨value, noted, after, ran, finished⟩
  · rintro ⟨value, noted, after, ran, finished⟩
    exact ⟨(value, noted), after, ran, finished⟩

theorem lift_eq_ok_iff {action : Flattener.Action α} {value : α}
    {noted : List Nat} :
    (StateT.lift action : Noting Flattener.Action α) notes before =
        .ok (value, noted) final ↔
      action before = .ok value final ∧ noted = notes := by
  change (action >>= fun value => pure (value, notes)) before = _ ↔ _
  rw [Action.bind_eq_ok_iff]
  constructor
  · rintro ⟨value, after, ran, finished⟩
    cases finished
    exact ⟨ran, rfl⟩
  · rintro ⟨ran, rfl⟩
    exact ⟨value, final, ran, rfl⟩

theorem note_eq_ok_iff {field : Nat} {action : Flattener.Action α}
    {value : α} {noted : List Nat} :
    Flattener.note field action notes before = .ok (value, noted) final ↔
      action before = .ok value final ∧
        noted = notes ++ before.slotPosition field := by
  rw [Flattener.note_eq]
  cases action before with
  | ok value after =>
      constructor
      · intro same
        cases same
        exact ⟨rfl, rfl⟩
      · rintro ⟨same, rfl⟩
        cases same
        rfl
  | error fault after =>
      constructor
      · intro impossible
        cases impossible
      · rintro ⟨impossible, -⟩
        cases impossible

end Noting

theorem Flattener.Mirrors.slotPosition_eq {flattener : Flattener}
    {address position size offset : Nat}
    (mirrors : flattener.Mirrors address position size)
    (inside : offset + wordSize ≤ size) :
    flattener.slotPosition (address + offset) = [position + offset] := by
  obtain ⟨frame, found, -⟩ := mirrors.slotAt_eq inside
  rw [Flattener.slotPosition, found]

variable {count : Nat}

def Part.Covers (schema : Schema count) (position place : Nat) :
    Part count → Prop
  | .value type =>
      position ≤ place ∧ place < position + (schema type).layout.size
  | .links type rest =>
      position ≤ place ∧ (schema type).Plain (place - position) ∨
        ∃ link ∈ rest, ¬ Outside place (position + link.offset)
  | .link type only =>
      position ≤ place ∧ (schema type).Plain (place - position) ∨
        ¬ Outside place (position + only.offset)
  | .elements type total =>
      position ≤ place ∧ place < position + (schema type).layout.size * total
  | .bytes length => position ≤ place ∧ place < position + length

def Part.Spans (schema : Schema count) (part : Part count)
    (position start stop place : Nat) : Prop :=
  part.Covers schema position place ∨ start ≤ place ∧ place < stop

/-- A walk over a part has come to its end. Whatever memory has the same bytes
where the part and what it leads to lie, the part is laid out in it. -/
structure Walked (schema : Schema count) (source : Memory) (depth : Nat)
    (part : Part count) (address position : Nat) (before after : Flattener)
    (sites : List Site) : Prop where
  wf : after.WellFormed
  frames_eq : after.frames = before.frames
  longer : before.position ≤ after.position
  kept : ∀ place < before.position,
    (∀ slot, part.Slot schema position slot → Outside place slot) →
      after.image.byte place = before.image.byte place
  laid : ∀ image : Memory,
    (∀ place, part.Spans schema position before.position after.position
      place → image.byte place = after.image.byte place) →
    Laid schema source image (fun _ => True) depth part address position
      before.position after.position sites

def Walks (schema : Schema count) (source : Memory) (depth : Nat)
    (visit : Fin count → Nat → Noting Flattener.Action Unit) : Prop :=
  ∀ {type : Fin count} {address position : Nat} {notes noted : List Nat}
    {before after : Flattener}, before.WellFormed →
    before.Mirrors address position (schema type).layout.size →
    (∀ index, (schema type).Plain index →
      before.image.byte (position + index) = source.byte (address + index)) →
    visit type address notes before = .ok ((), noted) after →
    ∃ sites, noted = notes ++ sites.map Site.slot ∧
      Walked schema source depth (.value type) address position before after
        sites

section Link

variable {schema : Schema count} {source : Memory} {depth : Nat}
  {type : Fin count} {link : Link count} {address position : Nat}
  {before after : Flattener}

theorem Part.Covers.inside {part : Part count} {place : Nat}
    (covered : part.Covers schema position place) (wf : schema.WellFormed)
    (within : part.Within schema) :
    position ≤ place ∧ place < position + part.extent schema := by
  cases part with
  | value type => exact covered
  | links type links =>
      rcases covered with ⟨above, plain⟩ | ⟨link, member, touched⟩
      · have short := plain.1
        simp only [extent]
        omega
      · have inside := (wf type).inside link (within.subset member)
        unfold Outside at touched
        simp only [extent]
        omega
  | link type link =>
      rcases covered with ⟨above, plain⟩ | touched
      · have short := plain.1
        simp only [extent]
        omega
      · have inside := (wf type).inside link within
        unfold Outside at touched
        simp only [extent]
        omega
  | elements type elements => exact covered
  | bytes length => exact covered

theorem Part.Spans.word_eq {image other : Memory} {start stop : Nat}
    (same : ∀ place,
      (Part.link type link).Spans schema position start stop place →
        image.byte place = other.byte place) :
    image.word (position + link.offset) =
      other.word (position + link.offset) := by
  apply Memory.word_congr
  intro index short
  refine same _ (.inl (.inr ?_))
  unfold Outside
  omega

theorem Flattener.Written.walked_null
    (written : before.Written after (position + link.offset) 0 0)
    (frames_eq : after.frames = before.frames)
    (absent : link.target = .nothing ∨
      source.word (address + link.offset) = 0) :
    Walked schema source depth (.link type link) address position before
      after [⟨position, position + link.offset⟩] := by
  have position_eq : after.position = before.position := written.position_eq
  refine ⟨written.wf, frames_eq, Nat.le_of_eq position_eq.symm, ?_, ?_⟩
  · intro place within outside
    exact written.kept place within (outside _ rfl)
  · intro image same
    rw [position_eq]
    exact .null absent ((Part.Spans.word_eq same).trans written.word_eq)

structure Closed (before after : Flattener) (slot position start size : Nat) :
    Prop where
  wf : after.WellFormed
  frames_eq : after.frames = before.frames
  behind : before.position ≤ start
  longer : start + size ≤ after.position
  kept : ∀ place < before.position, Outside place slot →
    after.image.byte place = before.image.byte place
  word_eq : after.image.word slot = start - position

theorem Flattener.Entered.leave {opened filled : Flattener}
    {target slot size stride start : Nat}
    (entered : Flattener.Entered source before opened target slot position
      size stride start)
    (fits : slot + wordSize ≤ before.position)
    (wf : filled.WellFormed) (frames_eq : filled.frames = opened.frames)
    (longer : opened.position ≤ filled.position)
    (kept : ∀ place < start,
      filled.image.byte place = opened.image.byte place)
    (left : Flattener.leave filled = .ok () after) :
    Closed before after slot position start size ∧
      after.image = filled.image ∧ after.position = filled.position := by
  have behind := entered.behind
  have afterWf := wf.leave_ok left
  obtain ⟨frame, rest, first, rfl⟩ := Flattener.leave_ok left
  refine ⟨⟨afterWf, ?_, behind, ?_, ?_, ?_⟩, rfl, rfl⟩
  · have whole := first.symm.trans (frames_eq.trans entered.frames_eq)
    cases whole
    rfl
  · rw [← entered.position_eq]
    exact longer
  · intro place within outside
    exact (kept place (by omega)).trans (entered.kept place within outside)
  · refine Eq.trans (Memory.word_congr ?_) entered.word_eq
    intro index short
    exact kept _ (by omega)

theorem Closed.walked {start size : Nat} {sites : List Site}
    (closed : Closed before after (position + link.offset) position start
      size)
    (laid : ∀ image : Memory,
      (∀ place, (Part.link type link).Spans schema position before.position
        after.position place → image.byte place = after.image.byte place) →
      image.word (position + link.offset) = start - position →
      Laid schema source image (fun _ => True) depth (.link type link)
        address position before.position after.position sites) :
    Walked schema source depth (.link type link) address position before
      after sites := by
  have behind := closed.behind
  have longer := closed.longer
  refine ⟨closed.wf, closed.frames_eq, by omega, ?_, ?_⟩
  · intro place within outside
    exact closed.kept place within (outside _ rfl)
  · intro image same
    exact laid image same ((Part.Spans.word_eq same).trans closed.word_eq)

theorem Closed.plain_eq {start size index : Nat} {image : Memory}
    (closed : Closed before after (position + link.offset) position start
      size)
    (member : link ∈ (schema type).links)
    (placed : position + (schema type).layout.size ≤ before.position)
    (plain : ∀ index, (schema type).Plain index →
      before.image.byte (position + index) = source.byte (address + index))
    (same : ∀ place, (Part.link type link).Spans schema position
      before.position after.position place →
        image.byte place = after.image.byte place)
    (isPlain : (schema type).Plain index) :
    image.byte (position + index) = source.byte (address + index) := by
  have outside := isPlain.2 link member
  have short := isPlain.1
  rw [← plain index isPlain]
  refine (same _ (.inl (.inl ⟨Nat.le_add_right _ _, ?_⟩))).trans
    (closed.kept _ (by omega) ?_)
  · rw [Nat.add_sub_cancel_left]
    exact isPlain
  · rcases outside with before | after
    · exact .inl (by omega)
    · exact .inr (by omega)

theorem Flattener.Entered.close (part : Part count)
    {opened filled : Flattener} {target slot stride start : Nat}
    {sites : List Site}
    (entered : Flattener.Entered source before opened target slot position
      (part.extent schema) stride start)
    (fits : slot + wordSize ≤ before.position)
    (schemaWf : schema.WellFormed) (within : part.Within schema)
    (walked : Walked schema source depth part target start opened filled
      sites)
    (left : Flattener.leave filled = .ok () after) :
    Closed before after slot position start (part.extent schema) ∧
      ∀ image : Memory, (∀ place, before.position ≤ place →
        place < after.position →
          image.byte place = after.image.byte place) →
      Laid schema source image (fun _ => True) depth part target start
        (start + part.extent schema) after.position sites := by
  have behind := entered.behind
  have longer := walked.longer
  have position_eq := entered.position_eq
  have kept : ∀ place < start,
      filled.image.byte place = opened.image.byte place := by
    intro place before
    refine walked.kept place (by omega) ?_
    intro slot owned
    exact .inl (Nat.lt_of_lt_of_le before (owned.inside schemaWf within).1)
  obtain ⟨closed, image_eq, ends⟩ :=
    entered.leave fits walked.wf walked.frames_eq longer kept left
  refine ⟨closed, ?_⟩
  intro image same
  rw [← position_eq, ends]
  refine walked.laid image ?_
  intro place spanned
  rw [← image_eq]
  rcases spanned with covered | between
  · have inside := covered.inside schemaWf within
    exact same place (by omega) (by omega)
  · exact same place (by omega) (by omega)

theorem Flattener.Entered.walked {part : Part count}
    {opened filled : Flattener} {stride start : Nat} {sites : List Site}
    (entered : Flattener.Entered source before opened
      (source.word (address + link.offset)) (position + link.offset) position
      (part.extent schema) stride start)
    (schemaWf : schema.WellFormed) (member : link ∈ (schema type).links)
    (placed : position + (schema type).layout.size ≤ before.position)
    (plain : ∀ index, (schema type).Plain index →
      before.image.byte (position + index) = source.byte (address + index))
    (leads : link.target.part? schema source address
      (source.word (address + link.offset)) = some part)
    (present : source.word (address + link.offset) ≠ 0)
    (walked : Walked schema source depth part
      (source.word (address + link.offset)) start opened filled sites)
    (left : Flattener.leave filled = .ok () after) :
    Walked schema source depth (.link type link) address position before
      after (⟨position, position + link.offset⟩ :: sites) := by
  have inside := (schemaWf type).inside link member
  obtain ⟨closed, laid⟩ := Flattener.Entered.close part entered (by omega)
    schemaWf (Target.part?_whole leads).1 walked left
  refine closed.walked ?_
  intro image same offset
  refine .block leads present ?_ closed.behind offset
    (laid image fun place above below => same place (.inr ⟨above, below⟩))
  intro length isLength index short
  have isPlain := (schemaWf type).lengths link member length isLength index
    short
  exact ⟨trivial, closed.plain_eq member placed plain same isPlain⟩

theorem Walked.bytes {length : Nat} (wf : before.WellFormed)
    (copied : ∀ index < length,
      before.image.byte (position + index) = source.byte (address + index)) :
    Walked schema source depth (.bytes length) address position before before
      [] := by
  refine ⟨wf, rfl, Nat.le_refl _, fun _ _ _ => rfl, ?_⟩
  intro image same
  refine .bytes fun index short => ⟨trivial, ?_⟩
  rw [same _ (.inl ⟨Nat.le_add_right _ _, Nat.add_lt_add_left short _⟩)]
  exact copied index short

variable {allocator : Allocator}
  {visit : Fin count → Nat → Noting Flattener.Action Unit}
  {notes noted : List Nat}

theorem visitLink_structure_walked (walks : Walks schema source depth visit)
    (schemaWf : schema.WellFormed) (member : link ∈ (schema type).links)
    (wf : before.WellFormed)
    (mirrors : before.Mirrors address position (schema type).layout.size)
    (plain : ∀ index, (schema type).Plain index →
      before.image.byte (position + index) = source.byte (address + index))
    {target : Fin count} (kind : link.target = .structure target)
    (ran : schema.visitLink (Flattener.notingVisitor allocator source) source
      visit address link notes before = .ok ((), noted) after) :
    ∃ sites, noted = notes ++ sites.map Site.slot ∧
      Walked schema source depth (.link type link) address position before
        after sites := by
  have inside := (schemaWf type).inside link member
  have placed := mirrors.placed wf
  rw [Schema.visitLink, kind] at ran
  obtain ⟨present, middle, opened, first, rest⟩ :=
    Noting.bind_eq_ok_iff.mp ran
  obtain ⟨entering, rfl⟩ := Noting.note_eq_ok_iff.mp first
  rw [mirrors.slotPosition_eq inside] at rest
  rcases mirrors.enterElements_ok wf inside entering with
    ⟨null, rfl, frames_eq, written⟩ | ⟨here, rfl, start, entered⟩
  · cases rest
    exact ⟨_, rfl, written.walked_null frames_eq (.inr null)⟩
  · obtain ⟨_, later, filled, visiting, leaving⟩ :=
      Noting.bind_eq_ok_iff.mp rest
    obtain ⟨left, rfl⟩ := Noting.lift_eq_ok_iff.mp leaving
    obtain ⟨sites, rfl, walked⟩ := walks entered.wf
      (Flattener.mirrors_structure entered.frames_eq)
      (fun index plain => entered.copied index plain.1) visiting
    have leads : link.target.part? schema source address
        (source.word (address + link.offset)) = some (.value target) := by
      rw [kind]
      rfl
    refine ⟨⟨position, position + link.offset⟩ :: sites, ?_,
      entered.walked schemaWf member placed plain leads here walked left⟩
    rw [List.map_cons, List.append_assoc]
    rfl

theorem visitLink_string_walked (schemaWf : schema.WellFormed)
    (member : link ∈ (schema type).links) (wf : before.WellFormed)
    (mirrors : before.Mirrors address position (schema type).layout.size)
    (kind : link.target = .string)
    (ran : schema.visitLink (Flattener.notingVisitor allocator source) source
      visit address link notes before = .ok ((), noted) after) :
    ∃ sites, noted = notes ++ sites.map Site.slot ∧
      Walked schema source depth (.link type link) address position before
        after sites := by
  have inside := (schemaWf type).inside link member
  have placed := mirrors.placed wf
  rw [Schema.visitLink, kind] at ran
  obtain ⟨adding, rfl⟩ := Noting.note_eq_ok_iff.mp ran
  rw [mirrors.slotPosition_eq inside]
  obtain ⟨frames_eq, outcome⟩ := mirrors.addString_ok wf inside adding
  refine ⟨[⟨position, position + link.offset⟩], rfl, ?_⟩
  rcases outcome with ⟨null, written⟩ | ⟨here, text, found, written, copied⟩
  · exact written.walked_null frames_eq (.inr null)
  · have position_eq := written.position_eq
    have closed : Closed before after (position + link.offset) position
        before.position text.length :=
      ⟨written.wf, frames_eq, Nat.le_refl _, Nat.le_of_eq position_eq.symm,
        written.kept, written.word_eq⟩
    have leads : link.target.part? schema source address
        (source.word (address + link.offset)) =
          some (.bytes text.length) := by
      rw [kind, Target.part?, found]
      rfl
    refine closed.walked ?_
    intro image same offset
    rw [position_eq]
    refine .block leads here ?_ (Nat.le_refl _) offset (.bytes ?_)
    · intro length isLength
      rw [kind] at isLength
      cases isLength
    · intro index short
      refine ⟨trivial, ?_⟩
      rw [same _ (.inr ⟨by omega, by omega⟩)]
      exact copied index short

theorem visitLink_nothing_walked (schemaWf : schema.WellFormed)
    (member : link ∈ (schema type).links) (wf : before.WellFormed)
    (mirrors : before.Mirrors address position (schema type).layout.size)
    (kind : link.target = .nothing)
    (ran : schema.visitLink (Flattener.notingVisitor allocator source) source
      visit address link notes before = .ok ((), noted) after) :
    ∃ sites, noted = notes ++ sites.map Site.slot ∧
      Walked schema source depth (.link type link) address position before
        after sites := by
  have inside := (schemaWf type).inside link member
  rw [Schema.visitLink, kind] at ran
  obtain ⟨clearing, rfl⟩ := Noting.note_eq_ok_iff.mp ran
  rw [mirrors.slotPosition_eq inside]
  obtain ⟨frames_eq, written⟩ := mirrors.clear_ok wf inside clearing
  exact ⟨[⟨position, position + link.offset⟩], rfl,
    written.walked_null frames_eq (.inl kind)⟩

end Link

section Elements

variable {schema : Schema count} {source : Memory} {depth : Nat}
  {type : Fin count}

theorem Walked.noElements {address position : Nat} {flattener : Flattener}
    (wf : flattener.WellFormed) :
    Walked schema source depth (.elements type 0) address position flattener
      flattener [] :=
  ⟨wf, rfl, Nat.le_refl _, fun _ _ _ => rfl, fun _ _ => .noElements⟩

theorem Walked.consElements {total address position : Nat}
    {before middle after : Flattener} {sites later : List Site}
    (schemaWf : schema.WellFormed)
    (placed : position + (schema type).layout.size * (total + 1) ≤
      before.position)
    (first : Walked schema source depth (.value type) address position before
      middle sites)
    (rest : Walked schema source depth (.elements type total)
      (address + (schema type).layout.size)
      (position + (schema type).layout.size) middle after later) :
    Walked schema source depth (.elements type (total + 1)) address position
      before after (sites ++ later) := by
  have firstLonger := first.longer
  have restLonger := rest.longer
  rw [Nat.mul_succ] at placed
  refine ⟨rest.wf, rest.frames_eq.trans first.frames_eq, by omega, ?_, ?_⟩
  · intro place within outside
    rw [rest.kept place (by omega) fun slot owned =>
      outside slot (Part.slot_elements_succ.mpr (.inr owned))]
    exact first.kept place within fun slot owned =>
      outside slot (Part.slot_elements_succ.mpr (.inl owned))
  · intro image same
    refine .consElements (first.laid image ?_) (rest.laid image ?_)
    · intro place spanned
      have unchanged : after.image.byte place = middle.image.byte place := by
        refine rest.kept place ?_ ?_
        · rcases spanned with ⟨above, below⟩ | ⟨above, below⟩
          · omega
          · exact below
        · intro slot owned
          have inside := owned.inside schemaWf trivial
          simp only [Part.extent] at inside
          unfold Outside
          rcases spanned with ⟨above, below⟩ | ⟨above, below⟩
          · omega
          · omega
      rw [← unchanged]
      refine same place ?_
      rcases spanned with ⟨above, below⟩ | ⟨above, below⟩
      · exact .inl ⟨above, by rw [Nat.mul_succ]; omega⟩
      · exact .inr ⟨above, by omega⟩
    · intro place spanned
      refine same place ?_
      rcases spanned with ⟨above, below⟩ | ⟨above, below⟩
      · exact .inl ⟨by omega, by rw [Nat.mul_succ]; omega⟩
      · exact .inr ⟨by omega, below⟩

theorem forElements_walked
    {visit : Fin count → Nat → Noting Flattener.Action Unit}
    (walks : Walks schema source depth visit) (schemaWf : schema.WellFormed)
    {total address position : Nat} {notes noted : List Nat}
    {before after : Flattener} (wf : before.WellFormed)
    (mirrors : ∀ index < total,
      before.Mirrors (address + (schema type).layout.size * index)
        (position + (schema type).layout.size * index)
        (schema type).layout.size)
    (copied : ∀ index < (schema type).layout.size * total,
      before.image.byte (position + index) = source.byte (address + index))
    (placed : position + (schema type).layout.size * total ≤ before.position)
    (ran : forElements (visit type) (schema type).layout.size total address
      notes before = .ok ((), noted) after) :
    ∃ sites, noted = notes ++ sites.map Site.slot ∧
      Walked schema source depth (.elements type total) address position
        before after sites := by
  induction total generalizing address position notes before with
  | zero =>
      cases ran
      exact ⟨[], (List.append_nil _).symm, .noElements wf⟩
  | succ total ih =>
      obtain ⟨_, between, middle, visiting, going⟩ :=
        Noting.bind_eq_ok_iff.mp ran
      have whole := Nat.mul_add_one (schema type).layout.size total
      have mirrored := mirrors 0 (Nat.succ_pos _)
      rw [Nat.mul_zero] at mirrored
      obtain ⟨sites, rfl, first⟩ := walks wf mirrored
        (fun index plain => copied index (by
          have short := plain.1
          omega)) visiting
      have longer := first.longer
      have restMirrors : ∀ index < total, middle.Mirrors
          (address + (schema type).layout.size +
            (schema type).layout.size * index)
          (position + (schema type).layout.size +
            (schema type).layout.size * index)
          (schema type).layout.size := by
        intro index short
        have next := mirrors (index + 1) (Nat.succ_lt_succ short)
        rw [Nat.mul_add_one, Nat.add_comm (_ * index), ← Nat.add_assoc,
          ← Nat.add_assoc] at next
        exact next.of_frames_eq first.frames_eq
      have restCopied : ∀ index < (schema type).layout.size * total,
          middle.image.byte
              (position + (schema type).layout.size + index) =
            source.byte (address + (schema type).layout.size + index) := by
        intro index short
        rw [Nat.add_assoc address, ← copied _ (by omega), Nat.add_assoc]
        refine first.kept _ (by omega) ?_
        intro slot owned
        have inside := owned.inside schemaWf trivial
        simp only [Part.extent] at inside
        exact .inr (by omega)
      obtain ⟨later, rfl, rest⟩ :=
        ih first.wf restMirrors restCopied (by omega) going
      refine ⟨sites ++ later, ?_, .consElements schemaWf placed first rest⟩
      rw [List.map_append, List.append_assoc]

end Elements

section Structure

variable {schema : Schema count} {source : Memory} {depth : Nat}
  {type : Fin count} {address position : Nat} {before after : Flattener}
  {allocator : Allocator}
  {visit : Fin count → Nat → Noting Flattener.Action Unit}
  {notes noted : List Nat}

theorem visitLink_array_walked {link : Link count}
    (walks : Walks schema source depth visit) (schemaWf : schema.WellFormed)
    (member : link ∈ (schema type).links) (wf : before.WellFormed)
    (mirrors : before.Mirrors address position (schema type).layout.size)
    (plain : ∀ index, (schema type).Plain index →
      before.image.byte (position + index) = source.byte (address + index))
    {target : Fin count} {length : LengthField}
    (kind : link.target = .array target length)
    (ran : schema.visitLink (Flattener.notingVisitor allocator source) source
      visit address link notes before = .ok ((), noted) after) :
    ∃ sites, noted = notes ++ sites.map Site.slot ∧
      Walked schema source depth (.link type link) address position before
        after sites := by
  have inside := (schemaWf type).inside link member
  have placed := mirrors.placed wf
  rw [Schema.visitLink, kind] at ran
  obtain ⟨present, middle, opened, first, rest⟩ :=
    Noting.bind_eq_ok_iff.mp ran
  obtain ⟨entering, rfl⟩ := Noting.note_eq_ok_iff.mp first
  rw [mirrors.slotPosition_eq inside] at rest
  rw [Flattener.enterArray_eq] at entering
  split at entering
  · rcases mirrors.enterElements_ok wf inside entering with
      ⟨null, rfl, frames_eq, written⟩ | ⟨here, rfl, start, entered⟩
    · cases rest
      exact ⟨_, rfl, written.walked_null frames_eq (.inr null)⟩
    · cases isPlain : schema.isPlain target with
      | true =>
          have leads : link.target.part? schema source address
              (source.word (address + link.offset)) =
                some (.bytes ((schema target).layout.size *
                  length.read source address)) := by
            simp only [kind, Target.part?, isPlain, if_pos]
          rw [isPlain] at rest
          obtain ⟨left, rfl⟩ := Noting.lift_eq_ok_iff.mp rest
          exact ⟨[⟨position, position + link.offset⟩], rfl,
            entered.walked schemaWf member placed plain leads here
              (.bytes entered.wf entered.copied) left⟩
      | false =>
          have leads : link.target.part? schema source address
              (source.word (address + link.offset)) =
                some (.elements target (length.read source address)) := by
            simp only [kind, Target.part?, isPlain, Bool.false_eq_true,
              if_false]
          rw [isPlain] at rest
          obtain ⟨_, later, filled, visiting, leaving⟩ :=
            Noting.bind_eq_ok_iff.mp rest
          obtain ⟨left, rfl⟩ := Noting.lift_eq_ok_iff.mp leaving
          obtain ⟨sites, rfl, walked⟩ := forElements_walked walks schemaWf
            entered.wf
            (fun index short =>
              Flattener.mirrors_element entered.frames_eq short)
            entered.copied (Nat.le_of_eq entered.position_eq.symm) visiting
          refine ⟨⟨position, position + link.offset⟩ :: sites, ?_,
            entered.walked schemaWf member placed plain leads here walked
              left⟩
          rw [List.map_cons, List.append_assoc]
          rfl
  · cases entering

theorem visitLink_walked {link : Link count}
    (walks : Walks schema source depth visit) (schemaWf : schema.WellFormed)
    (member : link ∈ (schema type).links) (wf : before.WellFormed)
    (mirrors : before.Mirrors address position (schema type).layout.size)
    (plain : ∀ index, (schema type).Plain index →
      before.image.byte (position + index) = source.byte (address + index))
    (ran : schema.visitLink (Flattener.notingVisitor allocator source) source
      visit address link notes before = .ok ((), noted) after) :
    ∃ sites, noted = notes ++ sites.map Site.slot ∧
      Walked schema source depth (.link type link) address position before
        after sites := by
  cases kind : link.target with
  | «structure» target =>
      exact visitLink_structure_walked walks schemaWf member wf mirrors plain
        kind ran
  | array target length =>
      exact visitLink_array_walked walks schemaWf member wf mirrors plain kind
        ran
  | string => exact visitLink_string_walked schemaWf member wf mirrors kind ran
  | nothing =>
      exact visitLink_nothing_walked schemaWf member wf mirrors kind ran

theorem Walked.noLinks (wf : before.WellFormed) :
    Walked schema source depth (.links type []) address position before before
      [] :=
  ⟨wf, rfl, Nat.le_refl _, fun _ _ _ => rfl, fun _ _ => .noLinks⟩

theorem Walked.consLinks {link : Link count} {links : List (Link count)}
    {middle : Flattener} {sites later : List Site}
    (schemaWf : schema.WellFormed)
    (within : (link :: links).Sublist (schema type).links)
    (placed : position + (schema type).layout.size ≤ before.position)
    (first : Walked schema source depth (.link type link) address position
      before middle sites)
    (rest : Walked schema source depth (.links type links) address position
      middle after later) :
    Walked schema source depth (.links type (link :: links)) address position
      before after (sites ++ later) := by
  have firstLonger := first.longer
  have restLonger := rest.longer
  have others := (List.sublist_cons_self link links).trans within
  have apart :=
    (List.pairwise_cons.mp ((schemaWf type).apart.sublist within)).1
  refine ⟨rest.wf, rest.frames_eq.trans first.frames_eq, by omega, ?_, ?_⟩
  · intro place inside outside
    rw [rest.kept place (by omega) ?_]
    · refine first.kept place inside fun slot owned => ?_
      exact outside slot ⟨link, List.mem_cons_self, owned⟩
    · rintro slot ⟨other, member, same⟩
      exact outside slot ⟨other, List.mem_cons_of_mem _ member, same⟩
  · intro image same
    refine .consLinks (first.laid image ?_) (rest.laid image ?_)
    · intro place spanned
      -- The links behind this one write to their own slots and to the end.
      have unchanged : after.image.byte place = middle.image.byte place := by
        have inside := (schemaWf type).inside link
          (within.subset List.mem_cons_self)
        rcases spanned with (⟨above, plain⟩ | touched) | ⟨above, below⟩
        · have short := plain.1
          refine rest.kept place (by omega) ?_
          rintro slot ⟨other, member, rfl⟩
          rcases plain.2 other (others.subset member) with before | after
          · exact .inl (by omega)
          · exact .inr (by omega)
        · unfold Outside at touched
          refine rest.kept place (by omega) ?_
          rintro slot ⟨other, member, rfl⟩
          rcases apart other member with before | after
          · exact .inl (by omega)
          · exact .inr (by omega)
        · refine rest.kept place below ?_
          intro slot owned
          exact owned.outside schemaWf others (Nat.le_trans placed above)
      rw [← unchanged]
      refine same place ?_
      rcases spanned with (plain | touched) | ⟨above, below⟩
      · exact .inl (.inl plain)
      · exact .inl (.inr ⟨link, List.mem_cons_self, touched⟩)
      · exact .inr ⟨above, by omega⟩
    · intro place spanned
      refine same place ?_
      rcases spanned with (plain | ⟨other, member, touched⟩) | ⟨above, below⟩
      · exact .inl (.inl plain)
      · exact .inl (.inr ⟨other, List.mem_cons_of_mem _ member, touched⟩)
      · exact .inr ⟨by omega, below⟩

theorem links_walked (walks : Walks schema source depth visit)
    (schemaWf : schema.WellFormed) {links : List (Link count)}
    (within : links.Sublist (schema type).links) (wf : before.WellFormed)
    (mirrors : before.Mirrors address position (schema type).layout.size)
    (plain : ∀ index, (schema type).Plain index →
      before.image.byte (position + index) = source.byte (address + index))
    (ran : links.forM (schema.visitLink
      (Flattener.notingVisitor allocator source) source visit address) notes
        before = .ok ((), noted) after) :
    ∃ sites, noted = notes ++ sites.map Site.slot ∧
      Walked schema source depth (.links type links) address position before
        after sites := by
  induction links generalizing notes before with
  | nil =>
      cases ran
      exact ⟨[], (List.append_nil _).symm, .noLinks wf⟩
  | cons link links ih =>
      have placed := mirrors.placed wf
      have others := (List.sublist_cons_self link links).trans within
      obtain ⟨_, between, middle, visiting, going⟩ :=
        Noting.bind_eq_ok_iff.mp ran
      obtain ⟨sites, rfl, first⟩ := visitLink_walked walks schemaWf
        (within.subset List.mem_cons_self) wf mirrors plain visiting
      have stillPlain : ∀ index, (schema type).Plain index →
          middle.image.byte (position + index) =
            source.byte (address + index) := by
        intro index isPlain
        have short := isPlain.1
        rw [← plain index isPlain]
        refine first.kept _ (by omega) ?_
        rintro slot rfl
        rcases isPlain.2 link (within.subset List.mem_cons_self) with
          before | after
        · exact .inl (by omega)
        · exact .inr (by omega)
      obtain ⟨later, rfl, rest⟩ := ih others first.wf
        (mirrors.of_frames_eq first.frames_eq) stillPlain going
      refine ⟨sites ++ later, ?_,
        .consLinks schemaWf within placed first rest⟩
      rw [List.map_append, List.append_assoc]

theorem Walked.value {sites : List Site} (schemaWf : schema.WellFormed)
    (placed : position + (schema type).layout.size ≤ before.position)
    (plain : ∀ index, (schema type).Plain index →
      before.image.byte (position + index) = source.byte (address + index))
    (walked : Walked schema source depth
      (.links type (schema type).links) address position before after sites) :
    Walked schema source (depth + 1) (.value type) address position before
      after sites := by
  refine ⟨walked.wf, walked.frames_eq, walked.longer, walked.kept, ?_⟩
  intro image same
  refine .value ?_ (walked.laid image ?_)
  · intro index isPlain
    have untouched := isPlain.untouched position
    have short := isPlain.1
    refine ⟨trivial, ?_⟩
    rw [same _ (.inl ⟨untouched.1, untouched.2.1⟩), ← plain index isPlain]
    exact walked.kept _ (by omega) untouched.2.2
  · intro place spanned
    rcases spanned with covered | between
    · exact same place
        (.inl (covered.inside schemaWf (List.Sublist.refl _)))
    · exact same place (.inr between)

end Structure

theorem visitLinks_walks {schema : Schema count}
    (schemaWf : schema.WellFormed) (allocator : Allocator) (source : Memory)
    (depth : Nat) :
    Walks schema source depth
      (schema.visitLinks (Flattener.notingVisitor allocator source) source
        depth) := by
  induction depth with
  | zero =>
      intro type address position notes noted before after wf mirrors plain
        ran
      cases (Noting.lift_eq_ok_iff.mp ran).1
  | succ depth ih =>
      intro type address position notes noted before after wf mirrors plain
        ran
      obtain ⟨sites, same, walked⟩ := links_walked ih schemaWf
        (List.Sublist.refl _) wf mirrors plain ran
      exact ⟨sites, same, walked.value schemaWf (mirrors.placed wf) plain⟩

/-- The bytes are the layout of the value of a type that the source has at an
address: its copy, and behind it all that it leads to. -/
structure LaidOut (schema : Schema count) (source : Memory) (depth : Nat)
    (type : Fin count) (root : Nat) (bytes : Bytes) (sites : List Site) :
    Prop where
  fits : (schema type).layout.size ≤ bytes.length
  bounded : bytes.length < wordLimit
  laid : Laid schema source (Memory.ofBytes bytes) (fun _ => True) depth
    (.value type) root 0 (schema type).layout.size bytes.length sites

theorem laidOut_of_walk {schema : Schema count}
    (schemaWf : schema.WellFormed) {allocator : Allocator} {source : Memory}
    {depth : Nat} {type : Fin count} {root capacity : Nat}
    {opened finished : Flattener} {slots : List Nat}
    (started : Flattener.start allocator source (some root)
      (schema type).layout.size capacity = .ok opened)
    (whole :
      ((schema.visitLinks (Flattener.notingVisitor allocator source) source
        depth type root >>= fun _ => StateT.lift Flattener.leave) >>=
          fun _ => StateT.lift
            (Flattener.onBuffer (Buffer.shrinkToFit allocator))) [] opened =
        .ok ((), slots) finished) :
    ∃ sites, slots = sites.map Site.slot ∧
      LaidOut schema source depth type root finished.buffer.bytes sites := by
  obtain ⟨wf, bytes_eq, frames_eq⟩ := Flattener.start_ok started
  obtain ⟨_, noted, left, walk, shrinking⟩ := Noting.bind_eq_ok_iff.mp whole
  obtain ⟨shrunk, rfl⟩ := Noting.lift_eq_ok_iff.mp shrinking
  obtain ⟨_, noted, walked, walking, leaving⟩ := Noting.bind_eq_ok_iff.mp walk
  obtain ⟨leave, rfl⟩ := Noting.lift_eq_ok_iff.mp leaving
  have length : opened.position = (schema type).layout.size :=
    (congrArg List.length bytes_eq).trans (Memory.load_length _ _ _)
  have plain : ∀ index, (schema type).Plain index →
      opened.image.byte (0 + index) = source.byte (root + index) := by
    intro index isPlain
    rw [Flattener.image, bytes_eq, Nat.zero_add]
    exact Memory.ofBytes_load_self isPlain.1
  obtain ⟨sites, rfl, done⟩ := visitLinks_walks schemaWf allocator source depth
    wf (Flattener.mirrors_structure frames_eq) plain walking
  have bounded := done.wf.valid.length_lt_wordLimit
  have longer := done.longer
  have laid := done.laid walked.image fun _ _ => rfl
  have same : finished.buffer.bytes = walked.buffer.bytes := by
    have kept := Flattener.onBuffer_shrinkToFit_ok shrunk
    obtain ⟨frame, rest, -, rfl⟩ := Flattener.leave_ok leave
    exact kept
  rw [length] at longer laid
  refine ⟨sites, rfl, ?_⟩
  rw [same]
  exact ⟨longer, bounded, laid⟩

/-- A value that has been flattened is laid out, and its slots have been
visited in the order of the layout. -/
theorem flattenNoting_laidOut {schema : Schema count}
    (schemaWf : schema.WellFormed) {allocator : Allocator} {source : Memory}
    {type : Fin count} {root capacity : Nat} {buffer : Buffer}
    {slots : List Nat}
    (ran : schema.flattenNoting allocator source type root capacity =
      .ok (buffer, slots)) :
    ∃ sites, slots = sites.map Site.slot ∧
      LaidOut schema source (Schema.depthBound count) type root buffer.bytes
        sites := by
  obtain ⟨opened, finished, started, whole, rfl⟩ :=
    Flattener.bind_outcomeNoting_eq_ok ran
  exact laidOut_of_walk schemaWf started whole

end FlatGraph
