import FlatGraph.Proofs.Derive.Phrases

namespace FlatGraph

namespace Derive

namespace Grammar

open Reader

section Types

variable {grammar : Grammar}
  (type : ∀ plus, Blind PhraseEnds fun _ => grammar.type plus)

omit type in
theorem endsBounds_blind : Ahead.Blind endsBounds :=
  .not (.or (.or (.or (.or .anyWord (.mark "::")) (.mark "?")) .lifetime)
    (.group _))

omit type in
/-- Bounds of which the last one ends in the name. -/
theorem boundTokens_trails {found : Ordinary → List (Bound × Bool)}
    (trailing : LastOf (Unseparated BoundEnds) found) :
    Trails fun name => boundTokens (found name) := by
  obtain ⟨front, entry, ⟨bound, ends, alone⟩, same⟩ := trailing
  have trails := trails_append (boundTokens front) ends.1
  simpa [boundTokens, Listed.tokens, same, alone] using trails

omit type in
theorem boundTokens_bound {found : Ordinary → List (Bound × Bool)}
    (trailing : LastOf (Unseparated BoundEnds) found) (name : Ordinary) :
    (found name).all (·.1.isLifetime) = false := by
  obtain ⟨front, entry, ⟨bound, ends, alone⟩, same⟩ := trailing
  simp [same, alone, ends.2 name]

include type

theorem pathBound_blind : Blind Trails fun _ => pathBound grammar := by
  refine (Blind.option (.mark "?") (.mark "?")).onward fun optional => ?_
  refine binder?_blind.onward fun general => ?_
  refine called_blind type (path_blind type false) (fun _ => .pure _) ?_
  exact fun found ends => .pure (trails_append _ ends)

theorem bound_blind : Blind BoundEnds fun _ => bound grammar := by
  refine .look .lifetime fun _ => .ite ?_ (.look (.group _) fun _ => .ite ?_ ?_)
  · exact Blind.lifetime.onward fun _ => .pure _
  · exact (Blind.group _ _).onward fun _ => .pure _
  · exact (pathBound_blind type).made _ fun _ trails => ⟨trails, fun _ => rfl⟩

theorem boundsAfter_blind (plus : Bool) (first : Bound) :
    Blind (LastOf (Unseparated BoundEnds)) fun _ =>
      boundsAfter grammar plus first :=
  .ite (.following "+" endsBounds_blind (bound_blind type) first) (.pure _)

omit type in
theorem run_boundsAfter_ended (plus : Bool) (first : Bound) (strays : Bool) :
    StateT.run (boundsAfter grammar plus first) ⟨[], strays⟩ =
      .ok ([(first, false)], ⟨[], strays⟩) := by
  cases plus with
  | true => exact run_following_empty strays
  | false => rfl

omit type in
theorem single_ends {first : Ordinary → Bound} (ends : BoundEnds first) :
    LastOf (Unseparated BoundEnds) fun name => [(first name, false)] :=
  .single ⟨first, ends, fun _ => rfl⟩

theorem bounds_blind (plus : Bool) :
    Blind Trails fun _ => bounds grammar plus := by
  have checked (found : Ordinary → List (Bound × Bool))
      (trailing : LastOf (Unseparated BoundEnds) found) :
      Ended Trails fun name => do
        if (found name).all (·.1.isLifetime) then
          Reader.refuse .unexpectedToken
        else return boundTokens (found name) := by
    refine .returns (boundTokens_trails trailing) fun name _ => ?_
    rw [boundTokens_bound trailing name]
    rfl
  refine (bound_blind type).bind (fun first => ?_) fun first ends => ?_
  · refine (boundsAfter_blind type plus first).bind (fun found => ?_) checked
    exact .ite (.refuse _) (.pure _)
  · refine .after (fun _ _ => run_boundsAfter_ended plus _ _) ?_
    exact checked _ (single_ends ends)

def FunctionEnds (function : Ordinary → List Token × Bool) : Prop :=
  ∃ tokens hasSubject, Trails tokens ∧
    ∀ name, function name = (tokens name, hasSubject)

theorem function_blind : Blind FunctionEnds fun _ => function grammar := by
  have origin : Blind Anyhow fun _ => do
      let word ← Reader.word "extern"
      let name ← if ← Reader.aheadString then Reader.literal else pure []
      return word ++ name := by
    refine (Blind.word "extern").onward fun word => ?_
    refine Blind.aheadString.onward fun _ => .ite ?_ (.pure _)
    exact .anyhow (word ++ ·) .literal
  refine (Blind.option (.word "unsafe") (.word "unsafe")).onward fun safety => ?_
  refine (Blind.option (.word "extern") origin).bind ?_ fun _ _ => .word "fn" _
  intro origin
  refine (Blind.word "fn").onward fun word => ?_
  refine (Blind.group _ _).onward fun arguments => ?_
  refine (returned_blind type).made _ fun result trails => ?_
  refine ⟨_, arguments.2, trails_append (safety ++ origin ++ word ++
    [.group .parenthesis arguments.1]) trails, fun name => ?_⟩
  simp

theorem functionType_blind (before general : List Token) :
    Blind PhraseEnds fun name =>
      functionType grammar (ending before name) general := by
  -- Kept as it stands, the type ends in the name if all tokens were taken.
  refine (function_blind type).bind (fun found => ?_) fun found ends => ?_
  · exact .ite (.taken before (Phrase.mk · none)) (.pure _)
  · obtain ⟨tokens, hasSubject, trails, same⟩ := ends
    simp only [same]
    cases hasSubject with
    | true => exact .taken before (Phrase.mk · none) ⟨before, fun _ => rfl⟩
    | false => exact .pure (trails_append general trails)

theorem parenthesizedType_blind (plus : Bool) :
    Blind PhraseEnds fun _ => parenthesizedType grammar plus := by
  have joined (tokens : List Token) : Blind PhraseEnds fun _ => do
      let all ← Reader.following (fun _ => false) "+" (bound grammar)
        ⟨[.group .parenthesis tokens], false⟩
      return (⟨boundTokens all, if all.length == 1 then some tokens else none⟩ :
        Phrase) := by
    refine (Blind.following "+" (fun _ => ⟨false, fun _ => rfl⟩)
      (bound_blind type) _).made _ fun _ trailing => ?_
    exact boundTokens_trails trailing
  have inside : Blind Never fun _ => parenthesized grammar := .group _ _
  refine inside.onward fun found => ?_
  obtain ⟨tokens, content⟩ := found
  cases content with
  | whole => exact .pure _
  | bound tokens => exact joined tokens
  | type bound? =>
      refine .look (.mark "+") fun _ => .ite ?_ (.pure _)
      cases bound? with
      | some tokens => exact joined tokens
      | none => exact .pure _

theorem pathType_blind (general : List Token) (plus : Bool) :
    Blind PhraseEnds fun _ => pathType grammar general plus := by
  have joined (found : PathPhrase) : Blind PhraseEnds fun _ => do
      let first := general ++ found.tokens
      let all ← boundsAfter grammar plus ⟨first, false⟩
      let isAlone := all.all fun entry => !entry.2
      return ⟨boundTokens all, if isAlone then some first else none⟩ := by
    refine (boundsAfter_blind type plus _).made _ fun _ trailing => ?_
    exact boundTokens_trails trailing
  refine .look (.mark "<") fun _ => .ite ?_ ?_
  · refine called_blind type (qualifiedPath_blind type false) (fun _ => .pure _) ?_
    exact fun _ ends => .pure ends
  · refine called_blind type (path_blind type false) (fun found => ?_) ?_
    · refine .look (.and (.mark "!") (.not (.mark "!="))) fun _ => .ite ?_ ?_
      · refine (Blind.mark "!").onward fun bang => ?_
        refine Blind.any.bind (fun token => ?_) fun value same => ?_
        · cases token with
          | group delimiter body => exact .pure _
          | word text => exact .refuse _
          | lifetime name => exact .refuse _
          | literal text => exact .refuse _
          | punct char joint => exact .refuse _
        · refine .refuses .unexpectedToken fun name strays => ?_
          rw [same name]
          rfl
      · exact joined found
    · intro found ends
      refine .look rfl ?_
      simp only [Bool.and_false, Bool.false_eq_true, if_false]
      refine .after (fun _ _ => run_boundsAfter_ended plus _ _) ?_
      have first : BoundEnds fun name => ⟨general ++ (found name).tokens, false⟩ :=
        ⟨trails_append general ends, fun _ => rfl⟩
      exact .pure (boundTokens_trails (single_ends first))

theorem objectType_blind (plus : Bool) :
    Blind PhraseEnds fun _ => objectType grammar plus := by
  refine .tokens fun before => (Blind.word "dyn").onward fun word => ?_
  refine (Blind.option (.mark "*") (.mark "*")).onward fun star => ?_
  refine (bounds_blind type plus).bind (fun _ => ?_) fun found trails => ?_
  · exact .ite (.pure _) (.taken before (Phrase.mk · none))
  · split
    · exact .pure (trails_append word trails)
    · exact .taken before (Phrase.mk · none) ⟨before, fun _ => rfl⟩

theorem prefixed_blind (front : List Token) (plus : Bool) :
    Blind PhraseEnds fun _ => do
      return ⟨front ++ (← grammar.type plus).tokens, none⟩ :=
  (type plus).made _ fun _ ends => trails_append front ends

theorem pointerType_blind : Blind PhraseEnds fun _ => pointerType grammar := by
  refine (Blind.mark "*").onward fun star => .look (.word "const") fun _ => ?_
  refine .ite ?_ ?_
  · exact (Blind.word "const").onward fun _ => prefixed_blind type _ false
  · exact (Blind.word "mut").onward fun _ => prefixed_blind type _ false

theorem referenceType_blind :
    Blind PhraseEnds fun _ => referenceType grammar := by
  refine (Blind.mark "&").onward fun mark => ?_
  refine (Blind.option .lifetime lifetime_blind).onward fun lifetime => ?_
  refine (Blind.option (.word "mut") (.word "mut")).onward fun word => ?_
  exact prefixed_blind type _ false

omit type in
theorem arrayType_blind : Blind PhraseEnds fun _ => arrayType grammar :=
  (Blind.group _ _).onward fun _ => .pure _

omit type in
theorem beginsFunction_blind : Ahead.Blind beginsFunction := by
  refine .any _ fun text member => ?_
  simp only [List.mem_cons, List.not_mem_nil, or_false] at member
  rcases member with rfl | rfl | rfl
  · exact .word "fn"
  · exact .word "unsafe"
  · exact .word "extern"

theorem generalType_blind (plus : Bool) :
    Blind PhraseEnds fun _ => generalType grammar plus := by
  refine .tokens fun before => binder_blind.onward fun general => ?_
  refine .look beginsFunction_blind fun _ => .ite ?_ ?_
  · exact functionType_blind type before general
  · refine .look .pathWord fun _ => .look (.word "dyn") fun _ => .ite ?_ ?_
    · exact pathType_blind type general plus
    · exact .refuse _

theorem typeWith_blind (plus : Bool) :
    Blind PhraseEnds fun _ => typeWith grammar plus := by
  refine .look (.word "for") fun _ => .ite (generalType_blind type plus) ?_
  refine .look (.group _) fun _ => .ite (parenthesizedType_blind type plus) ?_
  refine .look beginsFunction_blind fun _ => .ite ?_ ?_
  · exact .tokens fun before => functionType_blind type before []
  refine .look (.word "dyn") fun _ => .ite (objectType_blind type plus) ?_
  refine .look (.or (.or .pathWord (.mark "::")) (.mark "<")) fun _ => ?_
  refine .ite (pathType_blind type [] plus) ?_
  refine .look (.group _) fun _ => .ite arrayType_blind ?_
  refine .look (.mark "*") fun _ => .ite (pointerType_blind type) ?_
  refine .look (.mark "&") fun _ => .ite (referenceType_blind type) ?_
  refine .look (.mark "!") fun _ => .ite ?_ ?_
  · exact (Blind.mark "!").onward fun _ => .pure _
  refine .look (.word "impl") fun _ => .ite ?_ ?_
  · refine (Blind.word "impl").onward fun word => ?_
    exact (bounds_blind type plus).made _ fun _ trails =>
      trails_append word trails
  refine .look (.word "_") fun _ => .ite ?_ ?_
  · exact (Blind.word "_").onward fun _ => .pure _
  refine .look .lifetime fun _ => .ite ?_ (.refuse _)
  exact (bounds_blind type true).made _ fun _ trails => trails

end Types

theorem ofDepth_blind (depth : Nat) :
    ∀ plus, Blind PhraseEnds fun _ => (ofDepth depth).type plus := by
  induction depth with
  | zero => exact fun _ => .refuse _
  | succ depth ih => exact typeWith_blind ih

theorem endsConditions_blind : Ahead.Blind endsConditions :=
  .or (.or (.or (.or (.or .isEmpty (.group _)) (.mark ",")) (.mark ";"))
    (.mark "=")) (.and (.mark ":") (.not (.mark "::")))

theorem predicate_blind (depth : Nat) :
    Blind Trails fun _ => predicate (ofDepth depth) := by
  have type := ofDepth_blind depth
  refine .look .lifetime fun _ => .look (.beyond 1 (.mark ":")) fun _ => ?_
  refine .ite ?_ (binder?_blind.onward fun general => (type true).bind ?_ ?_)
  · refine Blind.lifetime.onward fun name => (Blind.mark ":").onward fun colon => ?_
    refine (Blind.list_never "+" endsConditions_blind lifetime_blind).onward ?_
    exact fun _ => .pure _
  · intro subject
    refine (Blind.mark ":").onward fun colon => ?_
    refine (Blind.list "+" endsConditions_blind (bound_blind type)).made _ ?_
    exact fun _ trailing => trails_append _ (boundTokens_trails trailing)
  · exact fun _ _ => .mark ":" _

end Grammar

end Derive

end FlatGraph
