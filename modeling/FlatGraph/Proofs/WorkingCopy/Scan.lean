import FlatGraph.WorkingCopy

/-!
How much of a scan is looked at. Items are taken one at a time, up to the first
failure or the end; whatever would come after a failure is never asked for, so
that nothing depends on it.
-/

namespace FlatGraph

namespace WorkingCopy

variable {ε : Type}

structure FailsAt (items : List (Except ε Node)) (place : Nat) (cause : ε) :
    Prop where
  failure : items[place]? = some (.error cause)
  earlier : ∀ index < place, ∃ node, items[index]? = some (.ok node)

theorem FailsAt.split {items : List (Except ε Node)} {place : Nat} {cause : ε}
    (fails : FailsAt items place cause) :
    ∃ (nodes : List Node) (later : List (Except ε Node)),
      items = nodes.map .ok ++ .error cause :: later ∧
        nodes.length = place := by
  obtain ⟨failure, earlier⟩ := fails
  induction items generalizing place with
  | nil => cases failure
  | cons item rest ih =>
      cases place with
      | zero =>
          cases failure
          exact ⟨[], rest, rfl, rfl⟩
      | succ place =>
          obtain ⟨node, first⟩ := earlier 0 (Nat.succ_pos place)
          cases first
          obtain ⟨nodes, later, rfl, rfl⟩ := ih failure fun index before =>
            earlier (index + 1) (Nat.succ_lt_succ before)
          exact ⟨node :: nodes, later, rfl, rfl⟩

theorem exists_nodes {items : List (Except ε Node)}
    (unfailing : ∀ cause, .error cause ∉ items) :
    ∃ nodes : List Node, items = nodes.map .ok := by
  induction items with
  | nil => exact ⟨[], rfl⟩
  | cons item rest ih =>
      cases item with
      | error cause => exact absurd List.mem_cons_self (unfailing cause)
      | ok node =>
          obtain ⟨nodes, rfl⟩ := ih fun cause member =>
            unfailing cause (List.mem_cons_of_mem _ member)
          exact ⟨node :: nodes, rfl⟩

theorem scan_failed (gathering : Gathering) (nodes : List Node) (cause : ε)
    (later : List (Except ε Node)) :
    scan gathering (nodes.map .ok ++ .error cause :: later) =
      (.error cause, nodes.length + 1) := by
  induction nodes generalizing gathering with
  | nil => rfl
  | cons node nodes ih =>
      rw [List.map_cons, List.cons_append, scan, ih]
      rfl

theorem scan_finished (gathering : Gathering) (nodes : List Node) :
    scan gathering (nodes.map (.ok : Node → Except ε Node)) =
      (.ok (nodes.foldl Gathering.add gathering).finish, nodes.length) := by
  induction nodes generalizing gathering with
  | nil => rfl
  | cons node nodes ih =>
      rw [List.map_cons, scan, ih]
      rfl

section Source

variable {σ : Type} [Std.Stream σ (Except ε Node)]

/-- Gathering from a source that gives an item each time it is asked: what
comes of it, and what is left of the source then. From one that neither fails
nor ends nothing comes. -/
inductive Drains : Gathering → σ → Except ε Status → σ → Prop
  | ended {gathering : Gathering} {source : σ}
      (asked : Std.Stream.next? source = none) :
      Drains gathering source (.ok gathering.finish) source
  | failed {gathering : Gathering} {source rest : σ} {cause : ε}
      (asked : Std.Stream.next? source = some (.error cause, rest)) :
      Drains gathering source (.error cause) rest
  | next {gathering : Gathering} {source middle rest : σ} {node : Node}
      {outcome : Except ε Status}
      (asked : Std.Stream.next? source = some (.ok node, middle))
      (later : Drains (gathering.add node) middle outcome rest) :
      Drains gathering source outcome rest

/-- Asked once for each of the items, a source gives them and is then at its
rest. -/
inductive Gives : σ → List (Except ε Node) → σ → Prop
  | nothing (source : σ) : Gives source [] source
  | next {source middle rest : σ} {item : Except ε Node}
      {items : List (Except ε Node)}
      (first : Std.Stream.next? source = some (item, middle))
      (later : Gives middle items rest) : Gives source (item :: items) rest

inductive Ends (gathering : Gathering) (source : σ) :
    Except ε Status → σ → Prop
  | failed {nodes : List Node} {cause : ε} {rest : σ}
      (taken : Gives source (nodes.map .ok ++ [.error cause]) rest) :
      Ends gathering source (.error cause) rest
  | finished {nodes : List Node} {rest : σ}
      (taken : Gives source (nodes.map .ok) rest)
      (ended : Std.Stream.next? rest = none) :
      Ends gathering source
        (.ok (nodes.foldl Gathering.add gathering).finish) rest

theorem Ends.next {gathering : Gathering} {source middle rest : σ}
    {node : Node} {outcome : Except ε Status}
    (first : Std.Stream.next? source = some (.ok node, middle))
    (ends : Ends (gathering.add node) middle outcome rest) :
    Ends gathering source outcome rest := by
  cases ends with
  | @failed nodes cause rest taken =>
      have whole : Gives source ((node :: nodes).map .ok ++ [.error cause])
          rest := .next first taken
      exact .failed whole
  | @finished nodes rest taken ended =>
      have whole : Gives source ((node :: nodes).map .ok) rest :=
        .next first taken
      exact .finished whole ended

theorem Drains.of_failed {gathering : Gathering} {source rest : σ}
    {nodes : List Node} {cause : ε}
    (taken : Gives source (nodes.map .ok ++ [.error cause]) rest) :
    Drains gathering source (.error cause) rest := by
  induction nodes generalizing gathering source with
  | nil =>
      cases taken with
      | next first later =>
          cases later
          exact .failed first
  | cons node nodes ih =>
      cases taken with
      | next first later => exact .next first (ih later)

theorem Drains.of_finished {gathering : Gathering} {source rest : σ}
    {nodes : List Node} (taken : Gives source (nodes.map .ok) rest)
    (ended : Std.Stream.next? rest = none) :
    Drains gathering source
      (.ok (nodes.foldl Gathering.add gathering).finish) rest := by
  induction nodes generalizing gathering source with
  | nil =>
      cases taken
      exact .ended ended
  | cons node nodes ih =>
      cases taken with
      | next first later => exact .next first (ih later)

theorem Drains.ends {gathering : Gathering} {source rest : σ}
    {outcome : Except ε Status}
    (drains : Drains gathering source outcome rest) :
    Ends gathering source outcome rest := by
  induction drains with
  | @ended gathering source asked =>
      have none : Gives source (([] : List Node).map .ok) source :=
        .nothing source
      exact .finished none asked
  | @failed gathering source rest cause asked =>
      have first : Gives source (([] : List Node).map .ok ++ [.error cause])
          rest := .next asked (.nothing rest)
      exact .failed first
  | next asked later ih => exact .next asked ih

theorem drains_iff_ends {gathering : Gathering} {source rest : σ}
    {outcome : Except ε Status} :
    Drains gathering source outcome rest ↔
      Ends gathering source outcome rest := by
  constructor
  · exact Drains.ends
  · intro ends
    cases ends with
    | failed taken => exact .of_failed taken
    | finished taken ended => exact .of_finished taken ended

theorem Drains.unique {gathering : Gathering} {source rest rest' : σ}
    {outcome outcome' : Except ε Status}
    (drains : Drains gathering source outcome rest)
    (others : Drains gathering source outcome' rest') :
    outcome' = outcome ∧ rest' = rest := by
  induction drains with
  | ended asked =>
      cases others with
      | ended also => exact ⟨rfl, rfl⟩
      | failed also | next also others => rw [asked] at also; cases also
  | failed asked =>
      cases others with
      | failed also =>
          rw [asked] at also
          cases also
          exact ⟨rfl, rfl⟩
      | ended also | next also others => rw [asked] at also; cases also
  | next asked later ih =>
      cases others with
      | ended also | failed also => rw [asked] at also; cases also
      | next also others =>
          rw [asked] at also
          cases also
          exact ih others

end Source

theorem drains_list (gathering : Gathering) (items : List (Except ε Node)) :
    Drains gathering items (scan gathering items).1
      (items.drop (scan gathering items).2) := by
  induction items generalizing gathering with
  | nil => exact .ended rfl
  | cons item rest ih =>
      cases item with
      | error cause => exact .failed rfl
      | ok node => exact .next rfl (ih (gathering.add node))

theorem drains_list_iff {gathering : Gathering}
    {items rest : List (Except ε Node)} {outcome : Except ε Status} :
    Drains gathering items outcome rest ↔
      outcome = (scan gathering items).1 ∧
        rest = items.drop (scan gathering items).2 := by
  constructor
  · exact (drains_list gathering items).unique
  · rintro ⟨rfl, rfl⟩
    exact drains_list gathering items

structure StopsAtFailure (ε : Type) (root : String)
    (trailUrl : Option String) : Prop where
  failed : ∀ (items : List (Except ε Node)) place cause,
    FailsAt items place cause →
      status root trailUrl items = (.error cause, place + 1)
  finished : ∀ items : List (Except ε Node), (∀ cause, .error cause ∉ items) →
    ∃ nodes : List Node, items = nodes.map .ok ∧
      status root trailUrl items =
        (.ok (nodes.foldl Gathering.add
            (Gathering.start root trailUrl)).finish, items.length)
  /-- What follows the first failure does not matter. -/
  agreeing : ∀ (items others : List (Except ε Node)) place cause,
    FailsAt items place cause →
      (∀ index ≤ place, others[index]? = items[index]?) →
        status root trailUrl others = status root trailUrl items
  /-- The items need not be there before they are asked for, and there may be
  no end of them. -/
  drained : ∀ (σ : Type) [Std.Stream σ (Except ε Node)] (source rest : σ)
    outcome,
    Drains (Gathering.start root trailUrl) source outcome rest ↔
      Ends (Gathering.start root trailUrl) source outcome rest
  unique : ∀ (σ : Type) [Std.Stream σ (Except ε Node)]
    (source rest rest' : σ) outcome outcome',
    Drains (Gathering.start root trailUrl) source outcome rest →
      Drains (Gathering.start root trailUrl) source outcome' rest' →
        outcome' = outcome ∧ rest' = rest
  listed : ∀ (items rest : List (Except ε Node)) outcome,
    Drains (Gathering.start root trailUrl) items outcome rest ↔
      outcome = (status root trailUrl items).1 ∧
        rest = items.drop (status root trailUrl items).2

theorem stops_at_failure (ε : Type) (root : String)
    (trailUrl : Option String) : StopsAtFailure ε root trailUrl := by
  have failed : ∀ (items : List (Except ε Node)) place cause,
      FailsAt items place cause →
        status root trailUrl items = (.error cause, place + 1) := by
    intro items place cause fails
    obtain ⟨nodes, later, rfl, rfl⟩ := fails.split
    exact scan_failed _ nodes cause later
  refine ⟨failed, ?_, ?_, fun _ _ _ _ _ => drains_iff_ends,
    fun _ _ _ _ _ _ _ drains others => drains.unique others,
    fun _ _ _ => drains_list_iff⟩
  · intro items unfailing
    obtain ⟨nodes, rfl⟩ := exists_nodes unfailing
    refine ⟨nodes, rfl, ?_⟩
    rw [List.length_map]
    exact scan_finished _ nodes
  · intro items others place cause fails same
    have also : FailsAt others place cause := by
      refine ⟨(same place (Nat.le_refl place)).trans fails.failure, ?_⟩
      intro index before
      rw [same index (Nat.le_of_lt before)]
      exact fails.earlier index before
    rw [failed others place cause also, failed items place cause fails]

end WorkingCopy

end FlatGraph
