import FlatGraph.Derive.Grammar.Predicate
import FlatGraph.Proofs.Derive.Readers

/-!
The grammar does not tell names at the end of the tokens apart. What a name
ends is a type, a bound or a path; in brackets and groups, which must be
closed behind it, it never stands last.
-/

namespace FlatGraph

namespace Derive

namespace Grammar

open Reader

theorem trails_append {value : Ordinary → List Token} (front : List Token)
    (trails : Trails value) : Trails fun name => front ++ value name := by
  obtain ⟨middle, same⟩ := trails
  refine ⟨front ++ middle, fun name => ?_⟩
  exact (congrArg (front ++ ·) (same name)).trans (append_ending _ _ _)

def PhraseEnds (phrase : Ordinary → Phrase) : Prop :=
  Trails fun name => (phrase name).tokens

def SegmentEnds (segment : Ordinary → Segment) : Prop :=
  Trails fun name => (segment name).tokens

def PathEnds (path : Ordinary → PathPhrase) : Prop :=
  Trails fun name => (path name).tokens

/-- A bound that ends in the name is not a lifetime. -/
def BoundEnds (bound : Ordinary → Bound) : Prop :=
  Trails (fun name => (bound name).tokens) ∧
    ∀ name, (bound name).isLifetime = false

theorem ends_lifetime_blind :
    Ahead.Blind fun tokens => Ahead.mark "," tokens || Ahead.mark ">" tokens :=
  .or (.mark ",") (.mark ">")

theorem lifetime_blind :
    Blind Never fun _ => do return [Token.lifetime (← Reader.lifetime)] :=
  Blind.lifetime.onward fun _ => .pure _

theorem boundedLifetime_blind : Blind Never fun _ => boundedLifetime := by
  refine Blind.lifetime.onward fun name => .look (.mark ":") fun _ => ?_
  refine .ite ((Blind.mark ":").onward fun _ => ?_) (.pure _)
  refine (Blind.list_never "+" ends_lifetime_blind lifetime_blind).onward ?_
  exact fun _ => .pure _

theorem attributes_blind : Blind Never fun _ => Attribute.tokens := by
  have one : Blind Never fun _ => Attribute.reader :=
    (Blind.mark "#").onward fun _ => .group _ _
  exact .verbatim_never
    ((Blind.whileAhead (.mark "#") rfl one).mono fun _ => LastOf.never)

theorem binder_blind : Blind Never fun _ => binder := by
  refine (Blind.word "for").onward fun word => ?_
  refine (Blind.mark "<").onward fun opening => ?_
  refine (Blind.list_never "," (.mark ">") ?_).onward fun lifetimes => ?_
  · refine attributes_blind.onward fun _ => ?_
    exact boundedLifetime_blind.onward fun _ => .pure _
  · exact (Blind.mark ">").onward fun _ => .pure _

theorem binder?_blind : Blind Never fun _ => binder? :=
  .option (.word "for") binder_blind

section Paths

variable {grammar : Grammar}
  (type : ∀ plus, Blind PhraseEnds fun _ => grammar.type plus)

include type

theorem type_anyhow (plus : Bool) :
    Blind Anyhow fun _ => grammar.type plus :=
  (type plus).mono fun _ _ => trivial

omit type in
theorem block_blind : Blind Never fun _ => block grammar :=
  .verbatim_never (.group _ _)

omit type in
theorem constant_blind : Blind Anyhow fun _ => constant grammar := by
  refine Blind.aheadLiteral.onward fun _ => .ite .literal ?_
  exact block_blind.onward fun _ => .pure _

theorem boundArgument_blind : Blind Anyhow fun _ => boundArgument grammar := by
  refine Blind.aheadLiteral.onward fun _ => .ite ?_ ?_
  · exact (Blind.verbatim .literal).mono fun _ _ => trivial
  · refine .look (.group _) fun _ => .ite block_blind.never ?_
    exact .anyhow Phrase.tokens (type_anyhow type true)

theorem argument_blind : Blind Anyhow fun _ => argument grammar := by
  refine .look .lifetime fun _ => .look (.beyond 1 (.mark "+")) fun _ => ?_
  refine .ite (Blind.lifetime.onward fun _ => .pure _) ?_
  refine .look .name fun _ => .look (.beyond 1 (.mark "=")) fun _ => ?_
  refine .ite (Blind.name.bind (fun name => ?_) ?_) ?_
  · refine (Blind.mark "=").onward fun equals => ?_
    exact .anyhow (fun found => (false, .word name :: equals ++ found))
      (boundArgument_blind type)
  · exact fun _ _ => .mark "=" _
  · refine Blind.aheadLiteral.onward fun _ => .look (.group _) fun _ => ?_
    refine .ite (.anyhow (false, ·) constant_blind) ?_
    exact .anyhow (fun phrase => (false, phrase.tokens)) (type_anyhow type true)

theorem bracketed_blind (word : Token) :
    Blind Never fun _ => bracketed grammar word := by
  refine (Blind.option (.mark "::") (.mark "::")).onward fun _ => ?_
  refine (Blind.mark "<").onward fun _ => ?_
  refine (Blind.list "," (.mark ">") (argument_blind type)).bind ?_ ?_
  · exact fun _ => (Blind.mark ">").onward fun _ => .pure _
  · exact fun _ _ => .mark ">" _

omit type in
theorem aheadArguments_blind (inExpression : Bool) :
    Ahead.Blind (aheadArguments inExpression) := by
  refine .or (.and (.and ?_ (.mark "<")) (.not (.mark "<="))) ?_
  · exact fun _ => ⟨!inExpression, fun _ => rfl⟩
  · exact .and (.mark "::") (.beyond 2 (.mark "<"))

omit type in
theorem aheadArguments_missed (inExpression : Bool) :
    aheadArguments inExpression [] = false := by
  cases inExpression <;> rfl

theorem segment_blind (inExpression : Bool) :
    Blind SegmentEnds fun _ => segment grammar inExpression := by
  have alone {text : Ordinary → String} (same : ∀ name, text name = name.val) :
      SegmentEnds fun name => ⟨[.word (text name)], [], true⟩ :=
    ⟨[], fun name => by simp [Segment.tokens, same name]⟩
  -- Both words that a segment may begin with are followed by the same.
  have rest {word : Reader String}
      (blind : Blind (fun text => ∀ name, text name = name.val) fun _ => word) :
      Blind SegmentEnds fun _ => word >>= fun text => do
        if ← Reader.ahead (aheadArguments inExpression) then
          bracketed grammar (.word text)
        else return ⟨[.word text], [], true⟩ := by
    refine blind.bind (fun text => ?_) fun text same => ?_
    · refine .look (aheadArguments_blind inExpression) fun _ => ?_
      exact .ite (bracketed_blind type _).never (.pure _)
    · exact .look (aheadArguments_missed inExpression) (.pure (alone same))
  refine .look .moduleWord fun _ => .ite ?_ ?_
  · exact Blind.anyWord.made _ fun _ same => alone same
  · exact .look (.word "Self") fun _ => .ite (rest .anyWord) (rest .name)

omit type in
theorem ofSegments_ends {segments : Ordinary → List Segment}
    (trailing : LastOf SegmentEnds segments) :
    PathEnds fun name => PathPhrase.ofSegments (segments name) := by
  obtain ⟨front, segment, ends, same⟩ := trailing
  have trails := trails_append (front.flatMap Segment.tokens) ends
  unfold PathEnds
  simpa [PathPhrase.ofSegments, same] using trails

theorem segments_blind (inExpression : Bool) {test : List Token → Bool}
    (blind : Ahead.Blind test) (missed : test [] = false) :
    Blind PathEnds fun _ => segments grammar inExpression test := by
  have one : Blind SegmentEnds fun _ => do
      let colons ← Reader.mark "::"
      let found ← segment grammar inExpression
      return { found with word := colons ++ found.word } := by
    refine (Blind.mark "::").onward fun colons => ?_
    refine (segment_blind type inExpression).made _ fun found ends => ?_
    have trails := trails_append colons ends
    unfold SegmentEnds
    simpa [Segment.tokens] using trails
  refine (segment_blind type inExpression).bind (fun first => ?_) ?_
  · refine (Blind.whileAhead blind missed one).made _ fun rest trailing => ?_
    exact ofSegments_ends (trailing.cons first)
  · intro first ends
    refine .after (fun _ _ => run_whileAhead_missed missed) ?_
    exact .pure (ofSegments_ends (.single ends))

theorem path_blind (inExpression : Bool) :
    Blind PathEnds fun _ => path grammar inExpression := by
  refine (Blind.option (.mark "::") (.mark "::")).onward fun colons => ?_
  refine (segments_blind type inExpression ?_ rfl).made _ ?_
  · exact .and (.mark "::") (.not (.beyond 2 (.group _)))
  · exact fun _ ends => trails_append colons ends

theorem qualifiedPath_blind (inExpression : Bool) :
    Blind PathEnds fun _ => qualifiedPath grammar inExpression := by
  have view : Blind Trails fun _ => do
      let word ← Reader.word "as"
      return word ++ (← path grammar false).tokens := by
    refine (Blind.word "as").onward fun word => ?_
    exact (path_blind type false).made _ fun _ ends => trails_append word ends
  refine (Blind.mark "<").onward fun opening => (type true).bind ?_ ?_
  · intro subject
    refine (Blind.option (.word "as") view).bind ?_ fun _ _ => .mark ">" _
    intro view
    refine (Blind.mark ">").onward fun closing => ?_
    refine (Blind.mark "::").onward fun colons => ?_
    refine (segments_blind type inExpression (.mark "::") rfl).made _ ?_
    exact fun _ ends => trails_append _ ends
  · exact fun _ _ => .option rfl (.mark ">" _)

theorem returned_blind : Blind Trails fun _ => returned grammar := by
  refine .option (.mark "->") ((Blind.mark "->").onward fun arrow => ?_)
  exact (type false).made _ fun _ ends => trails_append arrow ends

theorem callArguments_blind : Blind Trails fun _ => callArguments grammar := by
  refine (Blind.group _ _).onward fun types => ?_
  exact (returned_blind type).made _ fun _ trails => trails_append [_] trails

theorem callablePath_blind (found : PathPhrase) :
    Blind PathEnds fun _ => callablePath grammar found := by
  refine .look (.or (.group _) (.and (.mark "::") (.beyond 2 (.group _)))) ?_
  intro aheadCall
  cases found.callable? with
  | none => exact .pure found
  | some callable =>
      refine .ite ?_ (.pure found)
      refine (Blind.option (.mark "::") (.mark "::")).onward fun _ => ?_
      refine (callArguments_blind type).made _ fun _ trails => ?_
      exact trails_append callable trails

omit type in
theorem run_callablePath_ended (found : PathPhrase) (strays : Bool) :
    StateT.run (callablePath grammar found) ⟨[], strays⟩ =
      .ok (found, ⟨[], strays⟩) := by
  rw [callablePath, run_bind_ok (run_ahead _ _)]
  cases found.callable? <;> rfl

theorem called_blind {β : Type} {final : (Ordinary → β) → Prop}
    {reader : Reader PathPhrase} {next : PathPhrase → Reader β}
    (blind : Blind PathEnds fun _ => reader)
    (onward : ∀ found, Blind final fun _ => next found)
    (ended : ∀ found, PathEnds found → Ended final fun name => next (found name)) :
    Blind final fun _ => reader >>= fun found =>
      callablePath grammar found >>= next := by
  refine blind.bind (fun found => ?_) fun found ends => ?_
  · exact (callablePath_blind type found).bind onward ended
  · exact .after (fun _ _ => run_callablePath_ended _ _) (ended found ends)

end Paths

end Grammar

end Derive

end FlatGraph
