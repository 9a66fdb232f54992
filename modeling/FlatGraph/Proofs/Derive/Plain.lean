import FlatGraph.Proofs.Derive.Clause
import FlatGraph.Proofs.Derive.Conditions
import FlatGraph.Proofs.Derive.Listing

/-!
Plain types: paths with lifetimes and types as arguments, which may begin at
a type, pointers, references, arrays, and types in parentheses. They are in
their normal order, so that they are read again as they stand, wherever a type
may end.
-/

namespace FlatGraph

namespace Derive

open Reader

/-- What may follow a type without being taken for a part of it. -/
inductive Stops : List Token → Prop
  | nothing : Stops []
  | comma (rest : List Token) : Stops (.punct ',' false :: rest)
  | closing (rest : List Token) : Stops (.punct '>' false :: rest)
  | semicolon (rest : List Token) : Stops (.punct ';' false :: rest)
  | colon (rest : List Token) : Stops (.punct ':' false :: rest)
  | view (rest : List Token) : Stops (.word "as" :: rest)

namespace Stops

variable {rest : List Token}

theorem plus (stops : Stops rest) : Ahead.mark "+" rest = false := by
  cases stops <;> rfl

theorem equals (stops : Stops rest) : Ahead.mark "=" rest = false := by
  cases stops <;> rfl

theorem colons (stops : Stops rest) : Ahead.mark "::" rest = false := by
  cases stops <;> rfl

theorem bang (stops : Stops rest) : Ahead.mark "!" rest = false := by
  cases stops <;> rfl

theorem parenthesis (stops : Stops rest) :
    Ahead.group .parenthesis rest = false := by
  cases stops <;> rfl

theorem arguments (stops : Stops rest) :
    Grammar.aheadArguments false rest = false := by
  cases stops <;> rfl

end Stops

structure PathWord (word : String) : Prop where
  path : Ahead.pathWord [.word word] = true
  object : word ≠ "dyn"

theorem PathWord.ne {word other : String} (path : PathWord word)
    (foreign : Ahead.pathWord [.word other] = false ∨ other = "dyn") :
    word ≠ other := by
  rintro rfl
  rcases foreign with foreign | same
  · cases path.path.symm.trans foreign
  · exact path.object same

theorem PathWord.untrue {word : String} (path : PathWord word) :
    word ≠ "true" ∧ word ≠ "false" :=
  ⟨path.ne (.inl (by decide)), path.ne (.inl (by decide))⟩

/-- How a plain type begins, and the word after which it goes on or ends. -/
inductive Front : List Token → Prop
  | qualified (rest : List Token) : Front (.punct '<' false :: rest)
  | pointer (rest : List Token) : Front (.punct '*' false :: rest)
  | reference (rest : List Token) : Front (.punct '&' false :: rest)
  | brackets (body rest : List Token) : Front (.group .bracket body :: rest)
  | parentheses (body rest : List Token) :
      Front (.group .parenthesis body :: rest)
  | colons (rest : List Token) :
      Front (.punct ':' true :: .punct ':' false :: rest)
  | word {word : String} {rest : List Token} (path : PathWord word)
      (apart : Ahead.mark "=" rest = false) : Front (.word word :: rest)

namespace Front

variable {tokens : List Token}

theorem ended (front : Front tokens) : Ahead.ended tokens = false := by
  cases front <;> rfl

theorem closing (front : Front tokens) : Ahead.mark ">" tokens = false := by
  cases front <;> rfl

theorem lifetime (front : Front tokens) : Ahead.lifetime tokens = false := by
  cases front <;> rfl

theorem question (front : Front tokens) : Ahead.mark "?" tokens = false := by
  cases front <;> rfl

theorem foreign {text : String} (front : Front tokens)
    (foreign : Ahead.pathWord [.word text] = false) :
    Ahead.word text tokens = false := by
  cases front with
  | word path apart => exact beq_eq_false_iff_ne.mpr (path.ne (.inl foreign))
  | qualified rest => rfl
  | pointer rest => rfl
  | reference rest => rfl
  | brackets body rest => rfl
  | parentheses body rest => rfl
  | colons rest => rfl

end Front

namespace Grammar

def Reads (grammar : Grammar) (tokens : List Token) : Prop :=
  ∀ plus rest strays, Stops rest →
    ∃ bound?, StateT.run (grammar.type plus) ⟨tokens ++ rest, strays⟩ =
      .ok (⟨tokens, bound?⟩, ⟨rest, strays⟩)

variable {grammar : Grammar} {tokens rest : List Token} {strays : Bool}

theorem run_argument_front (front : Front tokens) :
    StateT.run (argument grammar) ⟨tokens, strays⟩ =
      StateT.run (do return (false, (← grammar.type true).tokens))
        ⟨tokens, strays⟩ := by
  cases front with
  | qualified rest => rfl
  | pointer rest => rfl
  | reference rest => rfl
  | brackets body rest => rfl
  | parentheses body rest => rfl
  | colons rest => rfl
  | @word word rest path apart =>
      have unbound : (Ahead.name (.word word :: rest) &&
          Ahead.beyond 1 (Ahead.mark "=") (.word word :: rest)) = false := by
        simp [Ahead.beyond, apart]
      rw [argument, run_ahead_bind, run_ahead_bind, if_neg (by exact Bool.false_ne_true),
        run_ahead_bind, run_ahead_bind, if_neg (by simp [unbound]),
        run_bind_ok (run_aheadLiteral_word path.untrue rest strays), run_ahead_bind]
      rfl

theorem run_argument_type (reads : grammar.Reads tokens)
    (front : Front (tokens ++ rest)) (stops : Stops rest) :
    StateT.run (argument grammar) ⟨tokens ++ rest, strays⟩ =
      .ok ((false, tokens), ⟨rest, strays⟩) := by
  obtain ⟨bound?, read⟩ := reads true rest strays stops
  rw [run_argument_front front]
  exact (run_bind_ok read).trans rfl

theorem run_argument_lifetime {name : String} (stops : Stops rest) :
    StateT.run (argument grammar) ⟨.lifetime name :: rest, strays⟩ =
      .ok ((true, [.lifetime name]), ⟨rest, strays⟩) := by
  cases stops <;> rfl

/-- A word of a path with its arguments: whether each is a lifetime, its
tokens, and whether a comma follows. -/
structure Step where
  word : String
  arguments : List ((Bool × List Token) × Bool)

namespace Step

def brackets (step : Step) : List Token :=
  if step.arguments.isEmpty then []
  else .punct '<' false :: listed (·.2) step.arguments ++ [.punct '>' false]

def segment (step : Step) : Segment :=
  ⟨[.word step.word], step.brackets, step.arguments.isEmpty⟩

structure Ordered (step : Step) : Prop where
  path : PathWord step.word
  bare : Ahead.moduleWord [.word step.word] = true → step.arguments = []
  separated : Separated step.arguments
  sorted : step.arguments.filter (fun entry => entry.1.1) ++
    step.arguments.filter (fun entry => !entry.1.1) = step.arguments
  lifetimes : ∀ entry ∈ step.arguments, entry.1.1 = true →
    ∃ name, entry.1.2 = [.lifetime name]

theorem ordered_word {word : String} (path : PathWord word) :
    Ordered ⟨word, []⟩ :=
  ⟨path, fun _ => rfl, .nil, rfl, by simp⟩

def Reads (grammar : Grammar) (step : Step) : Prop :=
  ∀ entry ∈ step.arguments, entry.1.1 = false →
    grammar.Reads entry.1.2 ∧ ∀ rest, Stops rest → Front (entry.1.2 ++ rest)

variable {step : Step}

theorem stops_of_goes {tail : List Token}
    (goes : Goes (.punct '>' false :: rest) tail) : Stops tail := by
  rcases goes with rfl | ⟨more, rfl⟩
  · exact .closing rest
  · exact .comma more

theorem Ordered.readsEach (ordered : step.Ordered) (reads : step.Reads grammar) :
    ReadsEach (argument grammar) (·.2) (Ahead.mark ">")
      (.punct '>' false :: rest) step.arguments := by
  constructor
  · rintro ⟨⟨isLifetime, tokens⟩, comma⟩ member tail strays goes
    cases isLifetime with
    | true =>
        obtain ⟨name, rfl⟩ := ordered.lifetimes _ member rfl
        exact run_argument_lifetime (stops_of_goes goes)
    | false =>
        obtain ⟨read, front⟩ := reads _ member rfl
        have stops := stops_of_goes goes
        exact run_argument_type read (front tail stops) stops
  · rintro ⟨⟨isLifetime, tokens⟩, comma⟩ member tail goes
    cases isLifetime with
    | true =>
        obtain ⟨name, rfl⟩ := ordered.lifetimes _ member rfl
        rfl
    | false =>
        obtain ⟨read, front⟩ := reads _ member rfl
        exact (front tail (stops_of_goes goes)).closing

theorem Ordered.run_bracketed (ordered : step.Ordered)
    (reads : step.Reads grammar) (some : step.arguments.isEmpty = false) :
    StateT.run (bracketed grammar (.word step.word))
        ⟨step.brackets ++ rest, strays⟩ =
      .ok (step.segment, ⟨rest, strays⟩) := by
  have whole : step.brackets ++ rest = .punct '<' false ::
      (listed (·.2) step.arguments ++ .punct '>' false :: rest) := by
    simp [brackets, some]
  have arguments : StateT.run (list (Ahead.mark ">") "," (argument grammar))
      ⟨listed (·.2) step.arguments ++ .punct '>' false :: rest, strays⟩ =
        .ok (step.arguments, ⟨.punct '>' false :: rest, strays⟩) :=
    run_list_listed rfl rfl ordered.separated (ordered.readsEach reads)
  have inner := arranged_of_sorted (·.2) ordered.separated ordered.sorted
  rw [whole, bracketed]
  refine (run_bind_ok rfl).trans ((run_bind_ok rfl).trans ?_)
  refine (run_bind_ok arguments).trans ((run_bind_ok rfl).trans ?_)
  rw [run_pure, inner]
  simp [segment, brackets, some, Token.mark]
  rfl

theorem Ordered.run_afterWord {inExpression : Bool} (ordered : step.Ordered)
    (reads : step.Reads grammar)
    (apart : aheadArguments inExpression rest = false)
    (alone : inExpression = false ∨ step.arguments = []) (strays : Bool) :
    StateT.run (do
        if ← Reader.ahead (aheadArguments inExpression) then
          bracketed grammar (.word step.word)
        else return ⟨[.word step.word], [], true⟩)
        ⟨step.brackets ++ rest, strays⟩ =
      .ok (step.segment, ⟨rest, strays⟩) := by
  rw [run_ahead_bind]
  cases bare : step.arguments.isEmpty with
  | true =>
      have none : step.brackets = [] := by simp [brackets, bare]
      rw [none, List.nil_append, apart, segment, none, bare]
      rfl
  | false =>
      have inType : inExpression = false := by
        rcases alone with inType | none
        · exact inType
        · rw [none] at bare
          cases bare
      have begins : aheadArguments inExpression (step.brackets ++ rest) = true := by
        simp only [inType, brackets, bare]
        rfl
      rw [if_pos begins]
      exact ordered.run_bracketed reads bare

theorem run_name {word : String} (free : Ahead.name [.word word] = true) :
    StateT.run Reader.name ⟨.word word :: rest, strays⟩ =
      .ok (word, ⟨rest, strays⟩) := by
  rw [Reader.name, run_ahead_bind]
  change StateT.run (if Ahead.name [.word word] = true then _ else _) _ = _
  rw [if_pos free]
  rfl

theorem Ordered.run_segment {inExpression : Bool} (ordered : step.Ordered)
    (reads : step.Reads grammar)
    (apart : aheadArguments inExpression rest = false)
    (alone : inExpression = false ∨ step.arguments = []) (strays : Bool) :
    StateT.run (Grammar.segment grammar inExpression)
        ⟨.word step.word :: (step.brackets ++ rest), strays⟩ =
      .ok (step.segment, ⟨rest, strays⟩) := by
  have after := ordered.run_afterWord reads apart alone strays
  have path := ordered.path.path
  rw [Grammar.segment, run_ahead_bind]
  change StateT.run (if Ahead.moduleWord [.word step.word] = true then _ else _)
    _ = _
  cases module : Ahead.moduleWord [.word step.word] with
  | true =>
      have none : step.arguments = [] := ordered.bare module
      have bare : step.brackets = [] := by simp [brackets, none]
      rw [if_pos rfl, bare, segment, bare, none]
      rfl
  | false =>
      rw [if_neg Bool.false_ne_true, run_ahead_bind]
      change StateT.run (if Ahead.word "Self" [.word step.word] = true then _
        else _) _ = _
      cases self : Ahead.word "Self" [.word step.word] with
      | true =>
          rw [if_pos rfl]
          exact (run_bind_ok rfl).trans after
      | false =>
          rw [Ahead.pathWord, self, module, Bool.or_false, Bool.or_false] at path
          rw [if_neg Bool.false_ne_true]
          exact (run_bind_ok (run_name path)).trans after

end Step

def colonsIf (isGlobal : Bool) : List Token :=
  if isGlobal then Token.mark [':', ':'] else []

def further (steps : List Step) : List Token :=
  steps.flatMap fun step =>
    .punct ':' true :: .punct ':' false :: .word step.word :: step.brackets

/-- A path by its words, and whether double colons stand before them. -/
structure Way where
  isGlobal : Bool
  first : Step
  others : List Step

def Way.words (way : Way) : List Step :=
  way.first :: way.others

def Way.written (way : Way) : List Token :=
  colonsIf way.isGlobal ++
    .word way.first.word :: (way.first.brackets ++ further way.others)

theorem apart_of_further (stops : Stops rest) (steps : List Step) :
    aheadArguments false (further steps ++ rest) = false := by
  cases steps with
  | nil => exact stops.arguments
  | cons step steps => rfl

def Step.furtherSegment (step : Step) : Segment :=
  { step.segment with word := Token.mark [':', ':'] ++ step.segment.word }

/-- A test for further words, which what comes after the path fails. -/
structure Continues (test : List Token → Bool) (rest : List Token) : Prop where
  word : ∀ word more,
    test (.punct ':' true :: .punct ':' false :: .word word :: more) = true
  ends : test rest = false

section Words

variable {test : List Token → Bool} {first : Step} {steps : List Step}

theorem run_further {count : Nat} (ordered : ∀ step ∈ steps, step.Ordered)
    (reads : ∀ step ∈ steps, step.Reads grammar) (stops : Stops rest)
    (continues : Continues test rest) (enough : steps.length ≤ count)
    (strays : Bool) :
    StateT.run (upTo test (do
          let colons ← Reader.mark "::"
          let found ← segment grammar false
          return { found with word := colons ++ found.word }) count)
        ⟨further steps ++ rest, strays⟩ =
      .ok (steps.map Step.furtherSegment, ⟨rest, strays⟩) := by
  induction steps generalizing count with
  | nil => exact run_upTo_missed continues.ends count
  | cons step steps ih =>
      cases count with
      | zero => cases enough
      | succ count =>
          have here := (ordered step (.head _)).run_segment
            (reads step (.head _)) (apart_of_further stops steps) (.inl rfl) strays
          have later := ih (fun step member => ordered step (.tail _ member))
            (fun step member => reads step (.tail _ member))
            (Nat.le_of_succ_le_succ enough)
          have whole : further (step :: steps) ++ rest =
              .punct ':' true :: .punct ':' false :: .word step.word ::
                (step.brackets ++ (further steps ++ rest)) := by
            simp [further]
          rw [whole, upTo, run_ahead_bind, if_pos (continues.word _ _)]
          refine (run_bind_ok ?_).trans ((run_bind_ok later).trans rfl)
          exact (run_bind_ok rfl).trans ((run_bind_ok here).trans rfl)

theorem length_le_further (steps : List Step) (rest : List Token) :
    steps.length ≤ (further steps ++ rest).length := by
  induction steps with
  | nil => exact Nat.zero_le _
  | cons step steps ih =>
      simp only [further, List.flatMap_cons, List.length_append,
        List.length_cons] at ih ⊢
      omega

def segmentsOf (first : Step) (steps : List Step) : List Segment :=
  first.segment :: steps.map Step.furtherSegment

theorem segmentsOf_tokens (first : Step) (steps : List Step) :
    (PathPhrase.ofSegments (segmentsOf first steps)).tokens =
      .word first.word :: (first.brackets ++ further steps) := by
  simp [PathPhrase.ofSegments, segmentsOf, Step.furtherSegment, Step.segment,
    Segment.tokens, further, List.flatMap_map, Token.mark]

theorem run_segments (ordered : ∀ step ∈ first :: steps, step.Ordered)
    (reads : ∀ step ∈ first :: steps, step.Reads grammar) (stops : Stops rest)
    (continues : Continues test rest) (strays : Bool) :
    StateT.run (segments grammar false test)
        ⟨.word first.word :: (first.brackets ++ (further steps ++ rest)), strays⟩ =
      .ok (PathPhrase.ofSegments (segmentsOf first steps), ⟨rest, strays⟩) := by
  have one := (ordered first (.head _)).run_segment (reads first (.head _))
    (apart_of_further stops steps) (.inl rfl) strays
  have others := run_further (fun step member => ordered step (.tail _ member))
    (fun step member => reads step (.tail _ member)) stops continues
    (length_le_further steps rest) strays
  rw [segments]
  refine (run_bind_ok one).trans ((run_bind_ok ?_).trans rfl)
  exact (run_bind_ok (run_tokens _)).trans others

end Words

section Paths

variable {way : Way}

theorem run_path (ordered : ∀ step ∈ way.words, step.Ordered)
    (reads : ∀ step ∈ way.words, step.Reads grammar) (stops : Stops rest)
    (strays : Bool) :
    ∃ found : PathPhrase, found.tokens = way.written ∧
      StateT.run (path grammar false) ⟨way.written ++ rest, strays⟩ =
        .ok (found, ⟨rest, strays⟩) := by
  obtain ⟨isGlobal, first, others⟩ := way
  have whole : (Way.mk isGlobal first others).written ++ rest = colonsIf isGlobal ++
      .word first.word :: (first.brackets ++ (further others ++ rest)) := by
    simp [Way.written]
  have optional : StateT.run (Reader.option (Ahead.mark "::") (Reader.mark "::"))
      ⟨(Way.mk isGlobal first others).written ++ rest, strays⟩ =
        .ok (colonsIf isGlobal,
          ⟨.word first.word :: (first.brackets ++ (further others ++ rest)), strays⟩) := by
    rw [whole]
    cases isGlobal <;> rfl
  have continues : Continues (fun tokens => Ahead.mark "::" tokens &&
      !Ahead.beyond 2 (Ahead.group .parenthesis) tokens) rest :=
    ⟨fun word more => rfl, by rw [stops.colons, Bool.false_and]⟩
  refine ⟨(PathPhrase.ofSegments (segmentsOf first others)).after
    (colonsIf isGlobal), ?_, ?_⟩
  · simp [PathPhrase.after, segmentsOf_tokens, Way.written]
  · rw [path, run_bind_ok optional]
    exact (run_bind_ok
      (run_segments ordered reads stops continues strays)).trans rfl

theorem run_callablePath (stops : Stops rest) (found : PathPhrase)
    (strays : Bool) :
    StateT.run (callablePath grammar found) ⟨rest, strays⟩ =
      .ok (found, ⟨rest, strays⟩) := by
  rw [callablePath, run_ahead_bind]
  have missed : (Ahead.group .parenthesis rest || (Ahead.mark "::" rest &&
      Ahead.beyond 2 (Ahead.group .parenthesis) rest)) = false := by
    rw [stops.parenthesis, stops.colons]
    rfl
  simp only [missed]
  cases found.callable? <;> rfl

theorem run_boundsAfter (stops : Stops rest) (plus : Bool) (first : Bound)
    (strays : Bool) :
    StateT.run (boundsAfter grammar plus first) ⟨rest, strays⟩ =
      .ok ([(first, false)], ⟨rest, strays⟩) := by
  cases plus with
  | false => rfl
  | true =>
      exact (run_bind_ok (run_tokens _)).trans
        (run_followingUpTo_missed stops.plus _)

theorem run_pathType (ordered : ∀ step ∈ way.words, step.Ordered)
    (reads : ∀ step ∈ way.words, step.Reads grammar) (stops : Stops rest)
    (plus strays : Bool) :
    ∃ bound?, StateT.run (pathType grammar [] plus)
        ⟨way.written ++ rest, strays⟩ =
      .ok (⟨way.written, bound?⟩, ⟨rest, strays⟩) := by
  obtain ⟨found, tokens, read⟩ := run_path ordered reads stops strays
  have other : Ahead.mark "<" (way.written ++ rest) = false := by
    obtain ⟨isGlobal, first, others⟩ := way
    cases isGlobal <;> rfl
  have uncalled : (!found.hasBrackets && (Ahead.mark "!" rest &&
      !Ahead.mark "!=" rest)) = false := by
    rw [stops.bang, Bool.false_and, Bool.and_false]
  refine ⟨some way.written, ?_⟩
  rw [pathType, run_ahead_bind, if_neg (by simp [other]), run_bind_ok read,
    run_bind_ok (run_callablePath stops found strays)]
  simp only []
  rw [run_ahead_bind, if_neg (by simp [uncalled]),
    run_bind_ok (run_boundsAfter stops plus _ strays), run_pure]
  simp [boundTokens, Listed.tokens, tokens]

end Paths

section Qualified

variable {type : List Token} {view? : Option Way} {first : Step}
  {steps : List Step}

def viewIf (view? : Option Way) : List Token :=
  match view? with
  | some view => .word "as" :: view.written
  | none => []

def qualified (type : List Token) (view? : Option Way) (first : Step)
    (steps : List Step) : List Token :=
  .punct '<' false ::
    (type ++ (viewIf view? ++ .punct '>' false :: further (first :: steps)))

theorem run_view
    (ordered : ∀ view ∈ view?, ∀ step ∈ view.words, step.Ordered)
    (reads : ∀ view ∈ view?, ∀ step ∈ view.words, step.Reads grammar)
    (rest : List Token) (strays : Bool) :
    StateT.run (Reader.option (Ahead.word "as") do
        let word ← Reader.word "as"
        return word ++ (← path grammar false).tokens)
        ⟨viewIf view? ++ .punct '>' false :: rest, strays⟩ =
      .ok (viewIf view?, ⟨.punct '>' false :: rest, strays⟩) := by
  cases view? with
  | none => rfl
  | some view =>
      obtain ⟨found, tokens, read⟩ :=
        run_path (ordered view rfl) (reads view rfl) (.closing rest) strays
      rw [Reader.option, run_ahead_bind, if_pos (by rfl)]
      refine (run_bind_ok rfl).trans ((run_bind_ok read).trans ?_)
      rw [run_pure, tokens]
      rfl

theorem run_qualifiedPath (self : grammar.Reads type)
    (orderedView : ∀ view ∈ view?, ∀ step ∈ view.words, step.Ordered)
    (readsView : ∀ view ∈ view?, ∀ step ∈ view.words, step.Reads grammar)
    (ordered : ∀ step ∈ first :: steps, step.Ordered)
    (reads : ∀ step ∈ first :: steps, step.Reads grammar) (stops : Stops rest)
    (strays : Bool) :
    ∃ found : PathPhrase, found.tokens = qualified type view? first steps ∧
      StateT.run (qualifiedPath grammar false)
          ⟨qualified type view? first steps ++ rest, strays⟩ =
        .ok (found, ⟨rest, strays⟩) := by
  have whole : qualified type view? first steps ++ rest = .punct '<' false ::
      (type ++ (viewIf view? ++ .punct '>' false ::
        .punct ':' true :: .punct ':' false :: .word first.word ::
          (first.brackets ++ (further steps ++ rest)))) := by
    simp [qualified, further]
  have ends : Stops (viewIf view? ++ .punct '>' false ::
      .punct ':' true :: .punct ':' false :: .word first.word ::
        (first.brackets ++ (further steps ++ rest))) := by
    cases view? with
    | none => exact .closing _
    | some view => exact .view _
  obtain ⟨bound?, here⟩ := self true _ strays ends
  have view := run_view orderedView readsView (.punct ':' true ::
    .punct ':' false :: .word first.word ::
      (first.brackets ++ (further steps ++ rest))) strays
  have continues : Continues (Ahead.mark "::") rest :=
    ⟨fun word more => rfl, stops.colons⟩
  have words := run_segments ordered reads stops continues strays
  refine ⟨(PathPhrase.ofSegments (segmentsOf first steps)).after
    (Token.mark ['<'] ++ type ++ viewIf view? ++ Token.mark ['>'] ++
      Token.mark [':', ':']), ?_, ?_⟩
  · simp [PathPhrase.after, segmentsOf_tokens, qualified, further, Token.mark]
  · rw [whole, qualifiedPath]
    refine (run_bind_ok rfl).trans ((run_bind_ok here).trans ?_)
    refine (run_bind_ok view).trans ((run_bind_ok rfl).trans ?_)
    exact (run_bind_ok rfl).trans ((run_bind_ok words).trans rfl)

theorem typeWith_qualified (self : grammar.Reads type)
    (orderedView : ∀ view ∈ view?, ∀ step ∈ view.words, step.Ordered)
    (readsView : ∀ view ∈ view?, ∀ step ∈ view.words, step.Reads grammar)
    (ordered : ∀ step ∈ first :: steps, step.Ordered)
    (reads : ∀ step ∈ first :: steps, step.Reads grammar) (stops : Stops rest)
    (plus strays : Bool) :
    ∃ bound?, StateT.run (typeWith grammar plus)
        ⟨qualified type view? first steps ++ rest, strays⟩ =
      .ok (⟨qualified type view? first steps, bound?⟩, ⟨rest, strays⟩) := by
  obtain ⟨found, tokens, read⟩ :=
    run_qualifiedPath self orderedView readsView ordered reads stops strays
  have dispatched (more : List Token) :
      StateT.run (typeWith grammar plus) ⟨.punct '<' false :: more, strays⟩ =
        StateT.run (do
          let found ← callablePath grammar (← qualifiedPath grammar false)
          return ⟨found.tokens, none⟩) ⟨.punct '<' false :: more, strays⟩ := rfl
  refine ⟨none, (dispatched _).trans ((run_bind_ok read).trans ?_)⟩
  rw [run_bind_ok (run_callablePath stops found strays), run_pure, tokens]

end Qualified

section Forms

theorem typeWith_word {word : String} (path : PathWord word)
    (plus strays : Bool) :
    StateT.run (typeWith grammar plus) ⟨.word word :: rest, strays⟩ =
      StateT.run (pathType grammar [] plus) ⟨.word word :: rest, strays⟩ := by
  have foreign (text : String) (other : Ahead.pathWord [.word text] = false) :
      ¬Ahead.word text (.word word :: rest) = true := by
    simpa [Ahead.word] using path.ne (.inl other)
  have object : ¬Ahead.word "dyn" (.word word :: rest) = true := by
    simpa [Ahead.word] using path.object
  have noFunction : ¬beginsFunction (.word word :: rest) = true := by
    simp [beginsFunction, foreign "fn" (by decide), foreign "unsafe" (by decide),
      foreign "extern" (by decide)]
  have begins : (Ahead.pathWord (.word word :: rest) ||
      Ahead.mark "::" (.word word :: rest) ||
      Ahead.mark "<" (.word word :: rest)) = true := by
    have same : Ahead.pathWord (.word word :: rest) = true := path.path
    rw [same]
    rfl
  rw [typeWith]
  simp only []
  rw [run_ahead_bind, if_neg (foreign "for" (by decide)), run_ahead_bind,
    if_neg (by exact Bool.false_ne_true), run_ahead_bind, if_neg noFunction,
    run_ahead_bind, if_neg object, run_ahead_bind, if_pos begins]

theorem typeWith_path {way : Way} (ordered : ∀ step ∈ way.words, step.Ordered)
    (reads : ∀ step ∈ way.words, step.Reads grammar) (stops : Stops rest)
    (plus strays : Bool) :
    ∃ bound?, StateT.run (typeWith grammar plus) ⟨way.written ++ rest, strays⟩ =
      .ok (⟨way.written, bound?⟩, ⟨rest, strays⟩) := by
  obtain ⟨bound?, read⟩ := run_pathType ordered reads stops plus strays
  refine ⟨bound?, Eq.trans ?_ read⟩
  obtain ⟨isGlobal, first, others⟩ := way
  cases isGlobal with
  | true => rfl
  | false => exact typeWith_word (ordered first (.head _)).path plus strays

theorem typeWith_pointer {word : String} (kind : word = "const" ∨ word = "mut")
    (reads : grammar.Reads tokens) (stops : Stops rest) (plus strays : Bool) :
    ∃ bound?, StateT.run (typeWith grammar plus)
        ⟨.punct '*' false :: .word word :: tokens ++ rest, strays⟩ =
      .ok (⟨.punct '*' false :: .word word :: tokens, bound?⟩, ⟨rest, strays⟩) := by
  obtain ⟨bound?, read⟩ := reads false rest strays stops
  have onward : StateT.run (typeWith grammar plus)
      ⟨.punct '*' false :: .word word :: tokens ++ rest, strays⟩ =
        StateT.run (do
          let target ← grammar.type false
          return ⟨.punct '*' false :: .word word :: target.tokens, none⟩)
        ⟨tokens ++ rest, strays⟩ := by
    rcases kind with rfl | rfl
    · rfl
    · rfl
  refine ⟨none, onward.trans ((run_bind_ok read).trans rfl)⟩

def lifetimeIf (lifetime? : Option String) : List Token :=
  lifetime?.toList.map Token.lifetime

def mutIf (isMutable : Bool) : List Token :=
  if isMutable then [.word "mut"] else []

theorem typeWith_reference {lifetime? : Option String} {isMutable : Bool}
    (reads : grammar.Reads tokens) (front : Front (tokens ++ rest))
    (stops : Stops rest) (plus strays : Bool) :
    ∃ bound?, StateT.run (typeWith grammar plus)
        ⟨.punct '&' false :: (lifetimeIf lifetime? ++
          (mutIf isMutable ++ tokens)) ++ rest, strays⟩ =
      .ok (⟨.punct '&' false :: (lifetimeIf lifetime? ++
        (mutIf isMutable ++ tokens)), bound?⟩, ⟨rest, strays⟩) := by
  obtain ⟨bound?, read⟩ := reads false rest strays stops
  have named : StateT.run (Reader.option Ahead.lifetime do
        return [.lifetime (← Reader.lifetime)])
      ⟨lifetimeIf lifetime? ++ (mutIf isMutable ++ (tokens ++ rest)), strays⟩ =
        .ok (lifetimeIf lifetime?,
          ⟨mutIf isMutable ++ (tokens ++ rest), strays⟩) := by
    cases lifetime? with
    | some name => rfl
    | none =>
        cases isMutable with
        | true => rfl
        | false => exact run_option_missed front.lifetime
  have changing : StateT.run (Reader.option (Ahead.word "mut") (Reader.word "mut"))
      ⟨mutIf isMutable ++ (tokens ++ rest), strays⟩ =
        .ok (mutIf isMutable, ⟨tokens ++ rest, strays⟩) := by
    cases isMutable with
    | true => rfl
    | false => exact run_option_missed (front.foreign (by decide))
  have whole : .punct '&' false :: (lifetimeIf lifetime? ++
      (mutIf isMutable ++ tokens)) ++ rest = .punct '&' false ::
        (lifetimeIf lifetime? ++ (mutIf isMutable ++ (tokens ++ rest))) := by
    simp
  have dispatched (more : List Token) :
      StateT.run (typeWith grammar plus) ⟨.punct '&' false :: more, strays⟩ =
        StateT.run (referenceType grammar) ⟨.punct '&' false :: more, strays⟩ :=
    rfl
  refine ⟨none, ?_⟩
  rw [whole, dispatched, referenceType]
  refine (run_bind_ok rfl).trans ((run_bind_ok named).trans ?_)
  refine (run_bind_ok changing).trans ((run_bind_ok read).trans ?_)
  rw [run_pure]
  simp [Token.mark]

def lengthIf (length? : Option Token) : List Token :=
  match length? with
  | some length => [.punct ';' false, length]
  | none => []

def ReadsAlone (grammar : Grammar) (token : Token) : Prop :=
  ∀ strays, StateT.run grammar.expression ⟨[token], strays⟩ =
    .ok ([token], ⟨[], strays⟩)

theorem typeWith_array {length? : Option Token} (reads : grammar.Reads tokens)
    (alone : ∀ length ∈ length?, grammar.ReadsAlone length)
    (plus strays : Bool) :
    ∃ bound?, StateT.run (typeWith grammar plus)
        ⟨.group .bracket (tokens ++ lengthIf length?) :: rest, strays⟩ =
      .ok (⟨[.group .bracket (tokens ++ lengthIf length?)], bound?⟩,
        ⟨rest, strays⟩) := by
  have stops : Stops (lengthIf length?) := by
    cases length? with
    | none => exact .nothing
    | some length => exact .semicolon _
  obtain ⟨bound?, read⟩ := reads true _ strays stops
  have counted : StateT.run (Reader.option (Ahead.mark ";") do
        return (← Reader.mark ";") ++ (← grammar.expression))
      ⟨lengthIf length?, strays⟩ = .ok (lengthIf length?, ⟨[], strays⟩) := by
    cases length? with
    | none => rfl
    | some length =>
        rw [Reader.option, run_ahead_bind, if_pos (by rfl)]
        refine (run_bind_ok rfl).trans ?_
        exact (run_bind_ok (alone length rfl strays)).trans rfl
  have dispatched (body : List Token) :
      StateT.run (typeWith grammar plus) ⟨.group .bracket body :: rest, strays⟩ =
        StateT.run (arrayType grammar) ⟨.group .bracket body :: rest, strays⟩ :=
    rfl
  have inner : StateT.run (do
        let element ← grammar.type true
        let length ← Reader.option (Ahead.mark ";") do
          return (← Reader.mark ";") ++ (← grammar.expression)
        return element.tokens ++ length)
      ⟨tokens ++ lengthIf length?, strays⟩ =
        .ok (tokens ++ lengthIf length?, ⟨[], strays⟩) :=
    (run_bind_ok read).trans ((run_bind_ok counted).trans rfl)
  refine ⟨none, ?_⟩
  rw [dispatched, arrayType]
  refine (run_bind_ok ?_).trans rfl
  rw [run_group_met, inner]
  cases strays <;> rfl

def ReadsAll (grammar : Grammar) (elements : List (List Token × Bool)) : Prop :=
  ∀ entry ∈ elements, grammar.Reads entry.1 ∧
    ∀ rest, Stops rest → Front (entry.1 ++ rest)

theorem stops_of_goes_nil {tail : List Token} (goes : Goes [] tail) :
    Stops tail := by
  rcases goes with rfl | ⟨more, rfl⟩
  · exact .nothing
  · exact .comma more

theorem ReadsAll.each {elements : List (List Token × Bool)}
    (reads : grammar.ReadsAll elements) :
    ReadsEach (do return (← grammar.type true).tokens) id Ahead.ended []
      elements := by
  constructor
  · intro entry member tail strays goes
    obtain ⟨bound?, read⟩ :=
      (reads entry member).1 true tail strays (stops_of_goes_nil goes)
    exact (run_bind_ok read).trans rfl
  · intro entry member tail goes
    exact ((reads entry member).2 tail (stops_of_goes_nil goes)).ended

theorem run_parenthesized {elements : List (List Token × Bool)}
    (separated : Separated elements) (reads : grammar.ReadsAll elements)
    (rest : List Token) (strays : Bool) :
    ∃ content, (∀ tokens, content ≠ .bound tokens) ∧
      StateT.run (parenthesized grammar)
        ⟨.group .parenthesis (listed id elements) :: rest, strays⟩ =
      .ok ((listed id elements, content), ⟨rest, strays⟩) := by
  cases elements with
  | nil =>
      refine ⟨.whole, by simp, ?_⟩
      cases strays <;> rfl
  | cons first later =>
      obtain ⟨first, comma⟩ := first
      have goes : Goes [] (commaIf comma ++ (listed id later ++ [])) :=
        tail_of_separated separated
      obtain ⟨read, begins⟩ := reads _ (.head _)
      have front := begins _ (stops_of_goes_nil goes)
      obtain ⟨bound?, read⟩ := read true _ strays (stops_of_goes_nil goes)
      have whole : listed id ((first, comma) :: later) =
          first ++ (commaIf comma ++ (listed id later ++ [])) := by
        simp [listed]
      rw [parenthesized]
      simp only [run_group_met, whole]
      rw [run_ahead_bind, if_neg (Bool.eq_false_iff.mp front.ended),
        run_ahead_bind, if_neg (Bool.eq_false_iff.mp front.lifetime),
        run_ahead_bind, if_neg (Bool.eq_false_iff.mp front.question),
        run_bind_ok read, run_ahead_bind]
      cases comma with
      | false =>
          cases separated with
          | last =>
              refine ⟨.type bound?, by simp, ?_⟩
              cases strays <;> simp [commaIf, listed] <;> rfl
      | true =>
          have each := ReadsAll.each fun entry (member : entry ∈ later) =>
            reads entry (.tail _ member)
          refine ⟨.whole, by simp, ?_⟩
          rw [if_pos (by rfl)]
          have followed : StateT.run (Reader.following Ahead.ended ","
              (do return (← grammar.type true).tokens) first)
              ⟨commaIf true ++ (listed id later ++ []), strays⟩ =
                .ok ((first, true) :: later, ⟨[], strays⟩) :=
            (run_bind_ok (run_tokens _)).trans
              (run_followingUpTo_listed rfl rfl separated each (Nat.le_refl _))
          have completed : StateT.run (Reader.complete (Reader.following
              Ahead.ended "," (do return (← grammar.type true).tokens) first))
              ⟨commaIf true ++ (listed id later ++ []), strays⟩ =
                .ok ((first, true) :: later, ⟨[], strays⟩) :=
            (run_bind_ok followed).trans rfl
          rw [run_bind_ok completed, ← whole]
          cases strays <;> rfl

theorem typeWith_tuple {elements : List (List Token × Bool)}
    (separated : Separated elements) (reads : grammar.ReadsAll elements)
    (stops : Stops rest) (plus strays : Bool) :
    ∃ bound?, StateT.run (typeWith grammar plus)
        ⟨.group .parenthesis (listed id elements) :: rest, strays⟩ =
      .ok (⟨[.group .parenthesis (listed id elements)], bound?⟩,
        ⟨rest, strays⟩) := by
  obtain ⟨content, unbound, read⟩ :=
    run_parenthesized separated reads rest strays
  have dispatched (body : List Token) : StateT.run (typeWith grammar plus)
      ⟨.group .parenthesis body :: rest, strays⟩ =
        StateT.run (parenthesizedType grammar plus)
          ⟨.group .parenthesis body :: rest, strays⟩ := rfl
  refine ⟨none, ?_⟩
  rw [dispatched, parenthesizedType, run_bind_ok read]
  cases content with
  | whole => rfl
  | bound tokens => exact absurd rfl (unbound tokens)
  | type bound? =>
      simp only []
      rw [run_ahead_bind]
      simp [stops.plus]
      rfl

end Forms

/-- The lengths of arrays: literals, and words. -/
inductive Length : Token → Prop
  | literal {text : String} (known : Literal.isKnown text = true) :
      Length (.literal text)
  | word {word : String} (path : PathWord word) : Length (.word word)

theorem run_path_word {word : String} (path : PathWord word)
    (strays : Bool) :
    StateT.run (Grammar.path grammar true) ⟨[.word word], strays⟩ =
      .ok ((PathPhrase.ofSegments [⟨[.word word], [], true⟩]).after [],
        ⟨[], strays⟩) := by
  have reads : Step.Reads grammar ⟨word, []⟩ := by simp [Step.Reads]
  have first : StateT.run (segment grammar true) ⟨[.word word], strays⟩ =
      .ok (⟨[.word word], [], true⟩, ⟨[], strays⟩) :=
    (Step.ordered_word path).run_segment reads rfl (.inr rfl) strays
  refine (run_bind_ok (run_option_missed rfl)).trans ((run_bind_ok ?_).trans rfl)
  refine (run_bind_ok first).trans ?_
  exact (run_bind_ok (run_whileAhead_missed rfl)).trans rfl

theorem run_atom_length {token : Token} (length : Length token) (strays : Bool) :
    StateT.run (atom grammar) ⟨[token], strays⟩ =
      .ok ([token], ⟨[], strays⟩) := by
  cases length with
  | literal known =>
      rw [atom, run_bind_ok (run_aheadLiteral_known known [] strays)]
      exact run_literal_known known [] strays
  | @word word path =>
      have begins : beginsPath [.word word] = true := by
        rw [beginsPath, path.path]
        rfl
      rw [atom, run_bind_ok (run_aheadLiteral_word path.untrue [] strays),
        if_neg Bool.false_ne_true, run_ahead_bind,
        if_neg (by exact Bool.false_ne_true), run_ahead_bind,
        if_neg (by exact Bool.false_ne_true), run_ahead_bind, if_pos begins]
      exact (run_bind_ok (run_path_word path strays)).trans rfl

theorem Length.readsAlone {token : Token} (length : Length token) (depth : Nat) :
    (ofDepth (depth + 1)).ReadsAlone token := by
  intro strays
  have operand : StateT.run (operand (ofDepth depth)) ⟨[token], strays⟩ =
      .ok ([token], ⟨[], strays⟩) := by
    refine (run_bind_ok (run_whileAhead_missed ?_)).trans ?_
    · cases length <;> rfl
    · refine (run_bind_ok (run_atom_length length strays)).trans ?_
      exact (run_bind_ok (run_whileAhead_missed rfl)).trans rfl
  refine (run_bind_ok operand).trans ?_
  exact (run_bind_ok (run_whileAhead_missed rfl)).trans rfl

/-- Types in their normal order, made of paths, pointers, references, arrays
and parentheses. -/
inductive Plain : List Token → Prop
  | path {way : Way} (ordered : ∀ step ∈ way.words, step.Ordered)
      (plain : ∀ step ∈ way.words, ∀ entry ∈ step.arguments,
        entry.1.1 = false → Plain entry.1.2) :
      Plain way.written
  | qualified {type : List Token} {view? : Option Way} {first : Step}
      {steps : List Step} (self : Plain type)
      (orderedView : ∀ view ∈ view?, ∀ step ∈ view.words, step.Ordered)
      (plainView : ∀ view ∈ view?, ∀ step ∈ view.words,
        ∀ entry ∈ step.arguments, entry.1.1 = false → Plain entry.1.2)
      (ordered : ∀ step ∈ first :: steps, step.Ordered)
      (plain : ∀ step ∈ first :: steps, ∀ entry ∈ step.arguments,
        entry.1.1 = false → Plain entry.1.2) :
      Plain (qualified type view? first steps)
  | pointer {word : String} {target : List Token}
      (kind : word = "const" ∨ word = "mut") (plain : Plain target) :
      Plain (.punct '*' false :: .word word :: target)
  | reference (lifetime? : Option String) (isMutable : Bool)
      {target : List Token} (plain : Plain target) :
      Plain (.punct '&' false ::
        (lifetimeIf lifetime? ++ (mutIf isMutable ++ target)))
  | array {length? : Option Token} {element : List Token}
      (lengths : ∀ length ∈ length?, Length length) (plain : Plain element) :
      Plain [.group .bracket (element ++ lengthIf length?)]
  | tuple {elements : List (List Token × Bool)}
      (separated : Separated elements)
      (plain : ∀ entry ∈ elements, Plain entry.1) :
      Plain [.group .parenthesis (listed id elements)]

theorem Way.front {way : Way} (path : PathWord way.first.word)
    (stops : Stops rest) : Front (way.written ++ rest) := by
  obtain ⟨isGlobal, first, others⟩ := way
  cases isGlobal with
  | true => exact .colons _
  | false =>
      refine .word path ?_
      cases bare : first.arguments.isEmpty with
      | false =>
          simp only [Step.brackets, bare]
          rfl
      | true =>
          have none : first.brackets = [] := by simp [Step.brackets, bare]
          rw [none]
          cases others with
          | nil => exact stops.equals
          | cons step others => rfl

theorem Plain.front (plain : Plain tokens) (stops : Stops rest) :
    Front (tokens ++ rest) := by
  cases plain with
  | path ordered plain => exact Way.front (ordered _ (.head _)).path stops
  | qualified self orderedView plainView ordered plain => exact .qualified _
  | pointer kind plain => exact .pointer _
  | reference lifetime? isMutable plain => exact .reference _
  | array lengths plain => exact .brackets _ _
  | tuple separated plain => exact .parentheses _ _

theorem sizeAll_append (front back : List Token) :
    Token.sizeAll (front ++ back) = Token.sizeAll front + Token.sizeAll back := by
  induction front with
  | nil => simp [Token.sizeAll]
  | cons token front ih =>
      rw [List.cons_append, Token.sizeAll, Token.sizeAll, ih, Nat.add_assoc]

theorem sizeAll_listed {α : Type} (render : α → List Token)
    {entries : List (α × Bool)} {entry : α × Bool} (member : entry ∈ entries) :
    Token.sizeAll (render entry.1) ≤ Token.sizeAll (listed render entries) := by
  induction entries with
  | nil => cases member
  | cons first entries ih =>
      rw [listed, List.flatMap_cons, sizeAll_append, sizeAll_append]
      rcases List.mem_cons.mp member with rfl | member
      · omega
      · have inner := ih member
        rw [listed] at inner
        omega

section Depths

variable {way : Way} {step : Step} {steps : List Step}
  {entry : (Bool × List Token) × Bool}

theorem sizeAll_brackets (member : entry ∈ step.arguments) :
    Token.sizeAll entry.1.2 < Token.sizeAll step.brackets := by
  have inner := sizeAll_listed (fun argument : Bool × List Token => argument.2) member
  have some : step.arguments.isEmpty = false := by
    rw [List.isEmpty_eq_false_iff]
    exact List.ne_nil_of_mem member
  simp only [Step.brackets, some, Bool.false_eq_true, if_false, List.cons_append,
    Token.sizeAll, Token.size, sizeAll_append]
  omega

theorem sizeAll_further (member : step ∈ steps)
    (inside : entry ∈ step.arguments) :
    Token.sizeAll entry.1.2 < Token.sizeAll (further steps) := by
  induction steps with
  | nil => cases member
  | cons first steps ih =>
      rw [further, List.flatMap_cons, sizeAll_append]
      simp only [Token.sizeAll]
      rcases List.mem_cons.mp member with rfl | member
      · have inner := sizeAll_brackets inside
        omega
      · have inner := ih member
        rw [further] at inner
        omega

theorem sizeAll_way (member : step ∈ way.words)
    (inside : entry ∈ step.arguments) :
    Token.sizeAll entry.1.2 < Token.sizeAll way.written := by
  simp only [Way.written, sizeAll_append, Token.sizeAll, Token.size]
  rcases List.mem_cons.mp member with rfl | member
  · have inner := sizeAll_brackets inside
    omega
  · have inner := sizeAll_further member inside
    omega

theorem sizeAll_view {view? : Option Way} (view : way ∈ view?) :
    Token.sizeAll way.written < Token.sizeAll (viewIf view?) := by
  rw [Option.mem_def.mp view]
  simp only [viewIf, Token.sizeAll, Token.size]
  omega

theorem sizeAll_qualified (type : List Token) (view? : Option Way)
    (first : Step) (steps : List Step) :
    Token.sizeAll (qualified type view? first steps) =
      Token.sizeAll type + Token.sizeAll (viewIf view?) +
        Token.sizeAll (further (first :: steps)) + 2 := by
  simp only [qualified, sizeAll_append, Token.sizeAll, Token.size]
  omega

end Depths

/-- Reading leaves plain types as they stand, if the grammar is deep enough
for them. -/
theorem Plain.reads (plain : Plain tokens) {depth : Nat}
    (deep : Token.sizeAll tokens < depth) : (ofDepth depth).Reads tokens := by
  induction plain generalizing depth with
  | path ordered plain ih =>
      cases depth with
      | zero => cases deep
      | succ depth =>
          intro plus rest strays stops
          refine typeWith_path ordered (fun step member entry inside argument => ?_)
            stops plus strays
          refine ⟨ih step member entry inside argument ?_, fun rest stops =>
            (plain step member entry inside argument).front stops⟩
          have inner := sizeAll_way member inside
          omega
  | @qualified type view? first steps self orderedView plainView ordered plain
      ihSelf ihView ih =>
      rw [sizeAll_qualified] at deep
      cases depth with
      | zero => cases deep
      | succ depth =>
          intro plus rest strays stops
          refine typeWith_qualified (ihSelf (by omega)) orderedView
            (fun view taken step member entry inside argument => ?_) ordered
            (fun step member entry inside argument => ?_) stops plus strays
          · refine ⟨ihView view taken step member entry inside argument ?_,
              fun rest stops => (plainView view taken step member entry inside
                argument).front stops⟩
            have inner := sizeAll_way member inside
            have outer := sizeAll_view taken
            omega
          · refine ⟨ih step member entry inside argument ?_, fun rest stops =>
              (plain step member entry inside argument).front stops⟩
            have inner := sizeAll_further member inside
            omega
  | pointer kind plain ih =>
      cases depth with
      | zero => cases deep
      | succ depth =>
          intro plus rest strays stops
          refine typeWith_pointer kind (ih ?_) stops plus strays
          simp only [Token.sizeAll, Token.size] at deep
          omega
  | reference lifetime? isMutable plain ih =>
      cases depth with
      | zero => cases deep
      | succ depth =>
          intro plus rest strays stops
          refine typeWith_reference (ih ?_) (plain.front stops) stops plus strays
          simp only [Token.sizeAll, Token.size, sizeAll_append] at deep
          omega
  | array lengths plain ih =>
      cases depth with
      | zero => cases deep
      | succ depth =>
          intro plus rest strays stops
          simp only [Token.sizeAll, Token.size, sizeAll_append] at deep
          cases depth with
          | zero => omega
          | succ depth =>
              refine typeWith_array (ih (by omega)) (fun length same => ?_) plus
                strays
              exact (lengths length same).readsAlone depth
  | tuple separated plain ih =>
      cases depth with
      | zero => cases deep
      | succ depth =>
          intro plus rest strays stops
          refine typeWith_tuple separated (fun entry member => ⟨?_, ?_⟩) stops
            plus strays
          · refine ih entry member ?_
            have inner := sizeAll_listed id member
            simp only [Token.sizeAll, Token.size, id] at deep inner
            omega
          · exact fun rest stops => (plain entry member).front stops

end Grammar

end Derive

end FlatGraph
