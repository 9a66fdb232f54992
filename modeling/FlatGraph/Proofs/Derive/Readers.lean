import FlatGraph.Proofs.Derive.Blind

/-!
The readers from which the grammar is made do not tell names at the end of
the tokens apart.
-/

namespace FlatGraph

namespace Derive

namespace Reader

variable {α β : Type} {last : (Ordinary → α) → Prop}
  {final : (Ordinary → β) → Prop}

@[simp] theorem run_ahead (test : List Token → Bool) (progress : Progress) :
    StateT.run (ahead test) progress =
      .ok (test progress.tokens, progress) := rfl

@[simp] theorem run_tokens (progress : Progress) :
    StateT.run tokens progress = .ok (progress.tokens, progress) := rfl

@[simp] theorem run_moveTo (tokens : List Token) (progress : Progress) :
    StateT.run (moveTo tokens) progress =
      .ok ((), ⟨tokens, progress.hasStrays⟩) := rfl

theorem run_mark_met {text : String} {progress : Progress}
    (met : Ahead.mark text progress.tokens = true) :
    StateT.run (mark text) progress =
      .ok (Token.mark text.toList,
        ⟨progress.tokens.drop text.length, progress.hasStrays⟩) := by
  rw [mark, run_bind_ok (run_ahead _ _), met]
  rfl

theorem run_mark_missed {text : String} {progress : Progress}
    (missed : Ahead.mark text progress.tokens = false) :
    StateT.run (mark text) progress = .error .unexpectedToken := by
  rw [mark, run_bind_ok (run_ahead _ _), missed]
  rfl

theorem run_word_missed {text : String} {progress : Progress}
    (missed : Ahead.word text progress.tokens = false) :
    StateT.run (word text) progress = .error .unexpectedToken := by
  rw [word, run_bind_ok (run_ahead _ _), missed]
  rfl

theorem run_option_missed {test : List Token → Bool}
    {reader : Reader (List Token)} {progress : Progress}
    (missed : test progress.tokens = false) :
    StateT.run (option test reader) progress = .ok ([], progress) := by
  rw [option, run_bind_ok (run_ahead _ _), missed]
  rfl

theorem run_upTo_missed {test : List Token → Bool} {reader : Reader α}
    {progress : Progress} (missed : test progress.tokens = false)
    (count : Nat) :
    StateT.run (upTo test reader count) progress = .ok ([], progress) := by
  cases count with
  | zero => rfl
  | succ count =>
      rw [upTo, run_bind_ok (run_ahead _ _), missed]
      rfl

theorem run_whileAhead_missed {test : List Token → Bool} {reader : Reader α}
    {progress : Progress} (missed : test progress.tokens = false) :
    StateT.run (whileAhead test reader) progress = .ok ([], progress) := by
  rw [whileAhead, run_bind_ok (run_tokens _)]
  exact run_upTo_missed missed _

theorem run_followingUpTo_missed {ends : List Token → Bool}
    {separator : String} {reader : Reader α} {value : α}
    {progress : Progress}
    (missed : Ahead.mark separator progress.tokens = false) (count : Nat) :
    StateT.run (followingUpTo ends separator reader value count) progress =
      .ok ([(value, false)], progress) := by
  cases count with
  | zero => rfl
  | succ count =>
      rw [followingUpTo, run_bind_ok (run_ahead _ _), missed]
      rfl

theorem run_group_met (delimiter : Delimiter) (body rest : List Token)
    (strays : Bool) (reader : Reader α) :
    StateT.run (group delimiter reader)
        ⟨.group delimiter body :: rest, strays⟩ =
      (StateT.run reader ⟨body, strays⟩).map fun found =>
        (found.1, ⟨rest, found.2.hasStrays || !found.2.tokens.isEmpty⟩) := by
  rw [group, run_bind_ok (run_tokens _)]
  simp only [beq_self_eq_true, if_true]
  rw [run_bind_ok (run_moveTo _ _)]
  cases ran : StateT.run reader ⟨body, strays⟩ with
  | error refusal => rw [run_bind_error ran]; rfl
  | ok found => rw [run_bind_ok ran]; rfl

namespace Ended

theorem mark (text : String) (next : Ordinary → List Token → Reader β) :
    Ended final fun name => Reader.mark text >>= next name :=
  .refuses .unexpectedToken fun _ _ =>
    run_bind_error (run_mark_missed (Ahead.mark_empty text))

theorem word (text : String) (next : Ordinary → List Token → Reader β) :
    Ended final fun name => Reader.word text >>= next name :=
  .refuses .unexpectedToken fun _ _ =>
    run_bind_error (run_word_missed (Ahead.word_empty text))

theorem after {reader : Ordinary → Reader α} {value : Ordinary → α}
    {next : Ordinary → α → Reader β}
    (ran : ∀ name strays, StateT.run (reader name) ⟨[], strays⟩ =
      .ok (value name, ⟨[], strays⟩))
    (ended : Ended final fun name => next name (value name)) :
    Ended final fun name => reader name >>= next name := by
  intro strays
  have done (name : Ordinary) :
      StateT.run (reader name >>= next name) ⟨[], strays⟩ =
        StateT.run (next name (value name)) ⟨[], strays⟩ :=
    run_bind_ok (ran name strays)
  simp only [done]
  exact ended strays

theorem look {test : List Token → Bool} {next : Ordinary → Bool → Reader β}
    (missed : test [] = false) (ended : Ended final fun name => next name false) :
    Ended final fun name => ahead test >>= next name :=
  after (fun _ _ => by rw [run_ahead, missed]) ended

theorem option {test : List Token → Bool} {reader : Reader (List Token)}
    {next : Ordinary → List Token → Reader β} (missed : test [] = false)
    (ended : Ended final fun name => next name []) :
    Ended final fun name => Reader.option test reader >>= next name :=
  after (fun _ _ => run_option_missed missed) ended

end Ended

namespace Blind

theorem any : Blind (fun value => ∀ name, value name = .word name.val)
    fun _ => Reader.any := by
  intro front strays
  cases front with
  | nil => exact .after _ (fun _ => rfl) strays fun _ => rfl
  | cons token front => exact .before token front strays fun _ => rfl

theorem mark (text : String) : Blind Never fun _ => Reader.mark text := by
  intro front strays
  obtain ⟨answer, same, short⟩ := Ahead.mark_ending text front
  cases answer with
  | false =>
      refine .refused .unexpectedToken fun name => ?_
      rw [run_mark_missed (same name)]
  | true =>
      refine .before (Token.mark text.toList) (front.drop text.length) strays
        fun name => ?_
      rw [run_mark_met (same name), ending_drop (short rfl)]

theorem word (text : String)
    (known : text ∈ Token.reserved ∨ text = "dyn" := by decide) :
    Blind Never fun _ => Reader.word text := by
  intro front strays
  cases front with
  | nil =>
      refine .refused .unexpectedToken fun name => ?_
      rw [Reader.word, run_bind_ok (run_ahead _ _)]
      simp only [ending_nil, Ahead.word_ordinary known]
      rfl
  | cons token front =>
      cases token with
      | word other =>
          by_cases same : other = text
          · subst same
            refine .before [.word other] front strays fun name => ?_
            rw [Reader.word, run_bind_ok (run_ahead _ _)]
            simp only [ending_cons, Ahead.word, beq_self_eq_true, if_true]
            rfl
          · refine .refused .unexpectedToken fun name => ?_
            rw [Reader.word, run_bind_ok (run_ahead _ _)]
            simp only [ending_cons, Ahead.word, beq_eq_false_iff_ne.mpr same]
            rfl
      | lifetime name => exact .refused .unexpectedToken fun _ => rfl
      | literal text => exact .refused .unexpectedToken fun _ => rfl
      | punct char joint => exact .refused .unexpectedToken fun _ => rfl
      | group delimiter body => exact .refused .unexpectedToken fun _ => rfl

theorem anyWord :
    Blind (fun value => ∀ name, value name = name.val)
      fun _ => Reader.anyWord := by
  refine any.bind (fun token => ?_) fun value shape => ?_
  · cases token with
    | word text => exact .pure text
    | lifetime name => exact .refuse _
    | literal text => exact .refuse _
    | punct char joint => exact .refuse _
    | group delimiter body => exact .refuse _
  · refine .returns (fun _ => rfl) fun name strays => ?_
    rw [shape name]
    rfl

theorem name :
    Blind (fun value => ∀ name, value name = name.val)
      fun _ => Reader.name :=
  look .name fun _ => .ite anyWord (.refuse _)

theorem lifetime : Blind Never fun _ => Reader.lifetime := by
  refine any.bind (fun token => ?_) fun value shape => ?_
  · cases token with
    | lifetime name => exact .pure name
    | word text => exact .refuse _
    | literal text => exact .refuse _
    | punct char joint => exact .refuse _
    | group delimiter body => exact .refuse _
  · refine .refuses .unexpectedToken fun name strays => ?_
    rw [shape name]
    rfl

theorem option {test : List Token → Bool} {reader : Reader (List Token)}
    {last : (Ordinary → List Token) → Prop} (blind : Ahead.Blind test)
    (inner : Blind last fun _ => reader) :
    Blind last fun _ => Reader.option test reader :=
  look blind fun _ => .ite inner (.pure [])

theorem group (delimiter : Delimiter) (reader : Reader α) :
    Blind Never fun _ => Reader.group delimiter reader := by
  intro front strays
  cases front with
  | nil => exact .refused .unexpectedToken fun _ => rfl
  | cons token front =>
      cases token with
      | group other body =>
          by_cases same : other = delimiter
          · subst same
            cases ran : StateT.run reader ⟨body, strays⟩ with
            | error refusal =>
                refine .refused refusal fun name => ?_
                rw [ending_cons, run_group_met, ran]
                rfl
            | ok found =>
                refine .before found.1 front
                  (found.2.hasStrays || !found.2.tokens.isEmpty) fun name => ?_
                rw [ending_cons, run_group_met, ran]
                rfl
          · refine .refused .unexpectedToken fun name => ?_
            rw [ending_cons, Reader.group, run_bind_ok (run_tokens _)]
            simp only [beq_eq_false_iff_ne.mpr same]
            rfl
      | word text => exact .refused .unexpectedToken fun _ => rfl
      | lifetime name => exact .refused .unexpectedToken fun _ => rfl
      | literal text => exact .refused .unexpectedToken fun _ => rfl
      | punct char joint => exact .refused .unexpectedToken fun _ => rfl

end Blind

namespace Blind

theorem tokens {next : List Token → Reader β}
    (onward : ∀ front, Blind final fun name => next (ending front name)) :
    Blind final fun _ => Reader.tokens >>= next := by
  intro front strays
  have later := onward front front strays
  simp only [run_bind_ok (run_tokens _)]
  exact later

theorem taken (front : List Token) (make : List Token → β) :
    Blind final fun name => do
      return make ((ending front name).take
        ((ending front name).length - (← Reader.tokens).length)) := by
  intro rest strays
  refine .before (make (front.take (front.length - rest.length))) rest
    strays fun name => ?_
  rw [run_bind_ok (run_tokens _)]
  simp only [ending_length, Nat.add_sub_add_right]
  rw [ending_take (Nat.sub_le _ _)]
  rfl

end Blind

theorem Ended.taken (front : List Token) (make : List Token → β)
    (shape : final fun name => make (ending front name)) :
    Ended final fun name => do
      return make ((ending front name).take
        ((ending front name).length - (← Reader.tokens).length)) := by
  refine .returns shape fun name strays => ?_
  rw [run_bind_ok (run_tokens _)]
  simp only [List.length_nil, Nat.sub_zero, List.take_length]
  rfl

namespace Blind

theorem verbatim {reader : Reader α} (inner : Blind last fun _ => reader) :
    Blind (fun value => Trails value ∧ ∃ found, last found)
      fun _ => Reader.verbatim reader := by
  refine tokens fun front => inner.bind (fun _ => taken front id) ?_
  intro found shape
  exact .taken front id ⟨⟨front, fun _ => rfl⟩, found, shape⟩

theorem verbatim_never {reader : Reader α}
    (inner : Blind Never fun _ => reader) :
    Blind Never fun _ => Reader.verbatim reader :=
  (verbatim inner).mono fun _ found => found.2.elim fun _ => False.elim

end Blind

/-- The last of several values is the one that is made of the name. -/
def LastOf (last : (Ordinary → α) → Prop) (values : Ordinary → List α) : Prop :=
  ∃ front value, last value ∧ ∀ name, values name = front ++ [value name]

/-- A value in a list without a separator behind it. -/
def Unseparated (last : (Ordinary → α) → Prop) (entry : Ordinary → α × Bool) :
    Prop :=
  ∃ value, last value ∧ ∀ name, entry name = (value name, false)

theorem LastOf.cons {values : Ordinary → List α} (ends : LastOf last values)
    (first : α) : LastOf last fun name => first :: values name := by
  obtain ⟨front, value, shape, same⟩ := ends
  exact ⟨first :: front, value, shape, fun name =>
    congrArg (first :: ·) (same name)⟩

theorem LastOf.single {value : Ordinary → α} (shape : last value) :
    LastOf last fun name => [value name] :=
  ⟨[], value, shape, fun _ => rfl⟩

theorem LastOf.never {values : Ordinary → List α} (ends : LastOf Never values) :
    Never values := by
  obtain ⟨front, value, impossible, same⟩ := ends
  exact impossible

namespace Blind

theorem upTo {test : List Token → Bool} {reader : Reader α}
    (blind : Ahead.Blind test) (missed : test [] = false)
    (inner : Blind last fun _ => reader) (count : Nat) :
    Blind (LastOf last) fun _ => Reader.upTo test reader count := by
  induction count with
  | zero => exact .pure []
  | succ count ih =>
      -- A value that takes the name is the last one: nothing meets the test then.
      refine look blind fun _ => .ite ?_ (.pure [])
      refine inner.bind (fun value => ?_) fun value shape => ?_
      · exact ih.made _ fun _ ends => ends.cons value
      · refine .returns (.single shape) fun name strays => ?_
        rw [run_bind_ok (run_upTo_missed missed count)]
        rfl

theorem whileAhead {test : List Token → Bool} {reader : Reader α}
    (blind : Ahead.Blind test) (missed : test [] = false)
    (inner : Blind last fun _ => reader) :
    Blind (LastOf last) fun _ => Reader.whileAhead test reader := by
  refine tokens fun front => ?_
  simp only [ending_length]
  exact upTo blind missed inner _

theorem followingUpTo {ends : List Token → Bool} (separator : String)
    {reader : Reader α} (blind : Ahead.Blind ends)
    (inner : Blind last fun _ => reader) (value : α) (count : Nat) :
    Blind (LastOf (Unseparated last)) fun _ =>
      Reader.followingUpTo ends separator reader value count := by
  induction count generalizing value with
  | zero => exact .pure _
  | succ count ih =>
      refine look (.mark separator) fun _ => .ite ?_ (.pure _)
      refine (mark separator).onward fun _ => look blind fun _ => ?_
      refine .ite (.pure _) (inner.bind (fun next => ?_) fun next shape => ?_)
      · exact (ih next).made _ fun _ trailing => trailing.cons (value, true)
      · refine .returns (LastOf.cons
          (.single ⟨next, shape, fun _ => rfl⟩) (value, true)) ?_
        intro name strays
        rw [run_bind_ok (run_followingUpTo_missed
          (Ahead.mark_empty separator) count)]
        rfl

theorem following {ends : List Token → Bool} (separator : String)
    {reader : Reader α} (blind : Ahead.Blind ends)
    (inner : Blind last fun _ => reader) (value : α) :
    Blind (LastOf (Unseparated last)) fun _ =>
      Reader.following ends separator reader value := by
  refine tokens fun front => ?_
  simp only [ending_length]
  exact followingUpTo separator blind inner value _

end Blind

theorem run_following_empty {ends : List Token → Bool} {separator : String}
    {reader : Reader α} {value : α} (strays : Bool) :
    StateT.run (following ends separator reader value) ⟨[], strays⟩ =
      .ok ([(value, false)], ⟨[], strays⟩) := by
  rw [following, run_bind_ok (run_tokens _)]
  exact run_followingUpTo_missed (Ahead.mark_empty separator) _

namespace Blind

theorem list {ends : List Token → Bool} (separator : String)
    {reader : Reader α} (blind : Ahead.Blind ends)
    (inner : Blind last fun _ => reader) :
    Blind (LastOf (Unseparated last)) fun _ =>
      Reader.list ends separator reader := by
  refine look blind fun _ => .ite (.pure []) (inner.bind ?_ ?_)
  · exact fun value => following separator blind inner value
  · intro value shape
    refine .returns (.single ⟨value, shape, fun _ => rfl⟩) ?_
    exact fun name strays => run_following_empty strays

theorem list_never {ends : List Token → Bool} (separator : String)
    {reader : Reader α} (blind : Ahead.Blind ends)
    (inner : Blind Never fun _ => reader) :
    Blind Never fun _ => Reader.list ends separator reader := by
  refine (list separator blind inner).mono fun values trailing => ?_
  obtain ⟨front, entry, ⟨value, impossible, alone⟩, same⟩ := trailing
  exact impossible

end Blind

namespace Blind

theorem aheadLiteral : Blind Never fun _ => Reader.aheadLiteral := by
  refine tokens fun front => ?_
  cases front with
  | nil =>
      intro rest strays
      refine .before false rest strays fun name => ?_
      -- Truth values are reserved words.
      have unreserved := name.property.1
      have notTrue : name.val ≠ "true" := by
        rintro same
        exact unreserved (same ▸ by decide)
      have notFalse : name.val ≠ "false" := by
        rintro same
        exact unreserved (same ▸ by decide)
      simp only [ending_nil, beq_eq_false_iff_ne.mpr notTrue,
        beq_eq_false_iff_ne.mpr notFalse]
      rfl
  | cons token front =>
      cases token with
      | literal text => exact .ite (.pure true) (.refuse _)
      | word text => exact .pure _
      | punct char joint =>
          by_cases same : char = '-'
          · subst same
            cases front with
            | nil => exact .pure false
            | cons token front => cases token <;> exact .pure _
          · intro rest strays
            refine .before false rest strays fun name => ?_
            simp only [ending_cons]
            split
            · rename_i other
              cases other
            · rename_i other
              cases other
            · rename_i other
              exact absurd (Token.punct.inj (List.cons.inj other).1).1 same
            · rfl
      | lifetime name => exact .pure false
      | group delimiter body => exact .pure false

theorem aheadString : Blind Never fun _ => Reader.aheadString := by
  refine aheadLiteral.onward fun _ => .ite (tokens fun front => ?_) (.pure _)
  cases front with
  | nil => exact .pure false
  | cons token front => cases token <;> exact .pure _

theorem literal : Blind Anyhow fun _ => Reader.literal := by
  refine aheadLiteral.onward fun _ => .ite ?_ (.refuse _)
  refine any.bind (fun token => ?_) fun value shape => ?_
  · cases token with
    | punct char joint =>
        exact any.made _ fun _ _ => trivial
    | word text => exact .pure _
    | lifetime name => exact .pure _
    | literal text => exact .pure _
    | group delimiter body => exact .pure _
  · have shaped : Anyhow fun name : Ordinary => [Token.word name.val] := trivial
    refine .returns shaped fun name strays => ?_
    rw [shape name]
    rfl

end Blind

end Reader

end Derive

end FlatGraph
