import FlatGraph.Derive.Attribute
import FlatGraph.Proofs.Derive.Reading

namespace FlatGraph

namespace Derive

namespace Reader

/-- The reader never finds that an argument lacks a comma. -/
def Separates {α : Type} (reader : Reader α) : Prop :=
  ∀ before, StateT.run reader before ≠ .error .missingComma

namespace Separates

variable {α β : Type} {reader : Reader α} {test : List Token → Bool}

theorem pure (value : α) : Separates (Pure.pure value : Reader α) := by
  intro before failed
  cases failed

theorem refuse {refusal : Refusal} (other : refusal ≠ .missingComma) :
    Separates (Reader.refuse refusal : Reader α) := by
  intro before failed
  cases failed
  exact other rfl

theorem bind {next : α → Reader β} (first : Separates reader)
    (second : ∀ value, Separates (next value)) :
    Separates (reader >>= next) := by
  intro before failed
  rcases run_bind_eq_error_iff.mp failed with failed | ⟨value, middle, -, failed⟩
  · exact first before failed
  · exact second value middle failed

theorem ite {condition : Prop} [Decidable condition] {other : Reader α}
    (one : Separates reader) (two : Separates other) :
    Separates (if condition then reader else other) := by
  split
  · exact one
  · exact two

theorem ahead : Separates (Reader.ahead test) := by
  intro before failed
  cases failed

theorem tokens : Separates Reader.tokens := by
  intro before failed
  cases failed

theorem moveTo (tokens : List Token) : Separates (Reader.moveTo tokens) := by
  intro before failed
  cases failed

theorem any : Separates Reader.any := by
  refine .bind tokens fun tokens => ?_
  cases tokens with
  | nil => exact .refuse (by decide)
  | cons token rest => exact .bind (.moveTo rest) fun _ => .pure token

theorem mark (text : String) : Separates (Reader.mark text) :=
  .bind ahead fun _ => .ite
    (.bind tokens fun _ => .bind (.moveTo _) fun _ => .pure _)
    (.refuse (by decide))

theorem anyWord : Separates Reader.anyWord := by
  refine .bind any fun token => ?_
  cases token with
  | word text => exact .pure text
  | lifetime name => exact .refuse (by decide)
  | literal text => exact .refuse (by decide)
  | punct char joint => exact .refuse (by decide)
  | group delimiter body => exact .refuse (by decide)

theorem aheadLiteral : Separates Reader.aheadLiteral := by
  refine .bind tokens fun tokens => ?_
  split
  · exact .ite (.pure _) (.refuse (by simp))
  · exact .pure _
  · exact .pure _
  · exact .pure _

theorem literal : Separates Reader.literal := by
  refine .bind aheadLiteral fun _ => .ite (.bind any fun token => ?_)
    (.refuse (by decide))
  split
  · exact .bind any fun _ => .pure _
  · exact .pure _

theorem option {reader : Reader (List Token)} (inner : Separates reader) :
    Separates (Reader.option test reader) :=
  .bind ahead fun _ => .ite inner (.pure [])

theorem group {delimiter : Delimiter} (inner : Separates reader) :
    Separates (Reader.group delimiter reader) := by
  refine .bind tokens fun tokens => ?_
  split
  · refine .ite (.bind (.moveTo _) fun _ => .bind inner fun value => ?_)
      (.refuse (by decide))
    intro before failed
    cases failed
  · exact .refuse (by decide)

theorem upTo (inner : Separates reader) (count : Nat) :
    Separates (Reader.upTo test reader count) := by
  induction count with
  | zero => exact .pure []
  | succ count ih =>
      exact .bind ahead fun _ =>
        .ite (.bind inner fun _ => .bind ih fun _ => .pure _) (.pure [])

theorem whileAhead (inner : Separates reader) :
    Separates (Reader.whileAhead test reader) :=
  .bind tokens fun _ => .upTo inner _

theorem followingUpTo {separator : String} (inner : Separates reader)
    (value : α) (count : Nat) :
    Separates (Reader.followingUpTo test separator reader value count) := by
  induction count generalizing value with
  | zero => exact .pure _
  | succ count ih =>
      exact .bind ahead fun _ => .ite
        (.bind (.mark separator) fun _ => .bind ahead fun _ => .ite (.pure _)
          (.bind inner fun next => .bind (ih next) fun _ => .pure _))
        (.pure _)

theorem commas (inner : Separates reader) : Separates (Reader.commas reader) :=
  .bind (.bind ahead fun _ => .ite (.pure [])
      (.bind inner fun value => .bind tokens fun _ =>
        .followingUpTo inner value _))
    fun _ => .bind ahead fun _ => .ite (.pure _) (.refuse (by decide))

theorem run (inner : Separates reader) (tokens : List Token) :
    Reader.run reader tokens ≠ .error .missingComma := by
  intro failed
  rw [Reader.run] at failed
  split at failed
  · cases failed
  · cases failed
  · rename_i refused
    cases failed
    exact inner _ refused

end Separates

end Reader

open Reader

theorem Path.reader_separates (test : List Token → Bool) :
    Separates (Path.reader test) := by
  have word : Separates (do
      if ← Reader.ahead test then Reader.anyWord
      else Reader.refuse .unexpectedToken) :=
    .bind .ahead fun _ => .ite .anyWord (.refuse (by decide))
  exact .bind (.option (.mark "::")) fun _ => .bind word fun _ =>
    .bind (.whileAhead (.bind (.mark "::") fun _ => word)) fun _ => .pure _

namespace Clause

theorem literalText_separates : Separates literalText :=
  .bind .literal fun _ => .pure _

theorem afterPath_separates {part : Reader Clause} (inner : Separates part)
    (path : Path) : Separates (afterPath part path) :=
  .bind .ahead fun _ => .ite
    (.bind (.group (.commas inner)) fun _ => .pure _)
    (.bind .ahead fun _ => .ite
      (.bind (.mark "=") fun _ => .bind literalText_separates fun _ => .pure _)
      (.pure _))

theorem aheadLiteral_separates : Separates aheadLiteral :=
  .bind .aheadLiteral fun _ => .ite
    (.bind .ahead fun _ => .bind .ahead fun _ => .pure _) (.pure _)

theorem reader_separates (depth : Nat) : Separates (reader depth) := by
  induction depth with
  | zero => exact .refuse (by decide)
  | succ depth ih =>
      exact .bind aheadLiteral_separates fun _ => .ite
        (.bind literalText_separates fun _ => .pure _)
        (.bind (Path.reader_separates _) fun path => afterPath_separates ih path)

end Clause

theorem Attribute.clause_ne_missingComma (source : Attribute) :
    source.clause ≠ .error .missingComma :=
  (Clause.afterPath_separates (Clause.reader_separates _) source.path).run
    source.content

/-- What breaks reading an attribute down is a literal of an unknown kind. -/
theorem Attribute.unknownLiteral_of_isFatal {source : Attribute}
    {refusal : Refusal} (refused : source.clause = .error refusal)
    (fatal : refusal.isFatal = true) :
    ∃ text, refusal = .unknownLiteral text := by
  cases refusal with
  | unexpectedToken => cases fatal
  | missingName => cases fatal
  | unsupportedExpression => cases fatal
  | unknownLiteral text => exact ⟨text, rfl⟩
  | missingComma => exact absurd refused source.clause_ne_missingComma

end Derive

end FlatGraph
