import FlatGraph.Derive.Attribute
import FlatGraph.Proofs.Derive.Reading

/-!
Clauses of an attribute, from the tokens to the clause and back: a word alone,
a word to which a literal is assigned, and a list of one clause.
-/

namespace FlatGraph

namespace Derive

open Reader

namespace Path

theorem is_iff {path : Path} {word : String} :
    path.is word = true ↔ path = ⟨false, [word]⟩ :=
  beq_iff_eq

theorem run_reader_word {word : String} {rest : List Token}
    (apart : Ahead.mark "::" rest = false) (strays : Bool) :
    StateT.run (reader Ahead.anyWord) ⟨.word word :: rest, strays⟩ =
      .ok (⟨false, [word]⟩, ⟨rest, strays⟩) := by
  have missed : StateT.run (whileAhead (Ahead.mark "::") (do
      let _ ← Reader.mark "::"
      if ← Reader.ahead Ahead.anyWord then Reader.anyWord
      else Reader.refuse .unexpectedToken)) ⟨rest, strays⟩ =
        .ok ([], ⟨rest, strays⟩) := run_whileAhead_missed apart
  rw [reader, run_bind_ok (run_option_missed rfl)]
  exact (run_bind_ok rfl).trans ((run_bind_ok missed).trans rfl)

theorem word_of_reader {word : String} {before after : Progress}
    (read : StateT.run (reader Ahead.anyWord) before =
      .ok (⟨false, [word]⟩, after)) :
    before.tokens = .word word :: after.tokens ∧
      Ahead.mark "::" after.tokens = false ∧
        after.hasStrays = before.hasStrays := by
  obtain ⟨leading, middle, optional, read⟩ := run_bind_eq_ok_iff.mp read
  obtain ⟨first, rest, begun, read⟩ := run_bind_eq_ok_iff.mp read
  obtain ⟨others, final, ended, read⟩ := run_bind_eq_ok_iff.mp read
  simp only [run_pure, Except.ok.injEq, Prod.mk.injEq, Path.mk.injEq,
    Bool.not_eq_false', List.isEmpty_iff, List.cons.injEq] at read
  obtain ⟨⟨rfl, rfl, rfl⟩, rfl⟩ := read
  obtain rfl := run_optional_eq_nil (by decide) optional
  obtain ⟨apart, rfl⟩ := run_whileAhead_eq_nil rfl ended
  rw [run_ahead_bind] at begun
  split at begun
  · obtain ⟨ahead, same⟩ := word_of_anyWord begun
    exact ⟨ahead, apart, same⟩
  · cases begun

end Path

namespace Literal

theorem known_of_string? {text value : String}
    (string : string? text = some value) : isKnown text = true := by
  unfold string? at string
  unfold isKnown
  split at string
  · rename_i rest chars
    rw [chars]
    rfl
  · rename_i c rest other chars
    rw [chars]
    split at string
    · rename_i quoted
      obtain rfl : c = Escape.quote := eq_of_beq quoted
      rfl
    · cases string
  · cases string

end Literal

theorem aheadLiteral_still {before after : Progress} {answer : Bool}
    (looked : StateT.run Reader.aheadLiteral before = .ok (answer, after)) :
    after = before := by
  rw [Reader.aheadLiteral, run_bind_ok (run_tokens before)] at looked
  split at looked
  · split at looked
    · cases looked
      rfl
    · cases looked
  · cases looked
    rfl
  · cases looked
    rfl
  · cases looked
    rfl

inductive TakesLiteral (before : Progress) : List Token → Progress → Prop
  | literal {text : String} {rest : List Token}
      (ahead : before.tokens = .literal text :: rest)
      (known : Literal.isKnown text = true) :
      TakesLiteral before [.literal text] ⟨rest, before.hasStrays⟩
  | truth {text : String} {rest : List Token}
      (ahead : before.tokens = .word text :: rest)
      (same : text = "true" ∨ text = "false") :
      TakesLiteral before [.word text] ⟨rest, before.hasStrays⟩
  | negative {joint : Bool} {text : String} {rest : List Token}
      (ahead : before.tokens = .punct '-' joint :: .literal text :: rest) :
      TakesLiteral before [.punct '-' false, .literal text]
        ⟨rest, before.hasStrays⟩

theorem takesLiteral_of_run {before after : Progress} {tokens : List Token}
    (read : StateT.run Reader.literal before = .ok (tokens, after)) :
    TakesLiteral before tokens after := by
  obtain ⟨answer, middle, looked, read⟩ := run_bind_eq_ok_iff.mp read
  obtain rfl := aheadLiteral_still looked
  cases answer with
  | false => cases read
  | true =>
      rw [if_pos rfl] at read
      rw [Reader.aheadLiteral, run_bind_ok (run_tokens middle)] at looked
      split at looked
      · rename_i ahead
        split at looked
        · rename_i known
          rw [run_bind_ok (run_any_of_tokens ahead)] at read
          cases read
          exact .literal ahead known
        · cases looked
      · rename_i text rest ahead
        have same : (text == "true" || text == "false") = true :=
          congrArg Prod.fst (Except.ok.inj looked)
        rw [Bool.or_eq_true, beq_iff_eq, beq_iff_eq] at same
        rw [run_bind_ok (run_any_of_tokens ahead)] at read
        cases read
        exact .truth ahead same
      · rename_i ahead
        rw [run_bind_ok (run_any_of_tokens ahead)] at read
        obtain ⟨token, final, next, read⟩ := run_bind_eq_ok_iff.mp read
        rw [run_any_of_tokens rfl] at next
        cases next
        cases read
        exact .negative ahead
      · cases looked

/-- What is not taken as a literal: one of an unknown kind breaks reading
down. -/
inductive LeavesLiteral (before : Progress) : Refusal → Prop
  | unknown {text : String} {rest : List Token}
      (ahead : before.tokens = .literal text :: rest)
      (unknown : Literal.isKnown text = false) :
      LeavesLiteral before (.unknownLiteral text)
  | other (none : ∀ text rest, before.tokens ≠ .literal text :: rest) :
      LeavesLiteral before .unexpectedToken

theorem leavesLiteral_of_run {before : Progress} {refusal : Refusal}
    (failed : StateT.run Reader.literal before = .error refusal) :
    LeavesLiteral before refusal := by
  rw [Reader.literal, Reader.aheadLiteral, bind_assoc,
    run_bind_ok (run_tokens before)] at failed
  split at failed
  · rename_i text rest ahead
    cases known : Literal.isKnown text with
    | true =>
        rw [known, if_pos rfl, pure_bind, if_pos rfl,
          run_bind_ok (run_any_of_tokens ahead)] at failed
        cases failed
    | false =>
        rw [known] at failed
        cases failed
        exact .unknown ahead known
  · rename_i text rest ahead
    rw [pure_bind] at failed
    split at failed
    · rw [run_bind_ok (run_any_of_tokens ahead)] at failed
      cases failed
    · cases failed
      exact .other (by simp [ahead])
  · rename_i joint text rest ahead
    rw [pure_bind] at failed
    split at failed
    · rw [run_bind_ok (run_any_of_tokens ahead)] at failed
      cases failed
    · cases failed
      exact .other (by simp [ahead])
  · rename_i other _ _
    cases failed
    exact .other other

theorem run_aheadLiteral_known {text : String}
    (known : Literal.isKnown text = true) (rest : List Token) (strays : Bool) :
    StateT.run Reader.aheadLiteral ⟨.literal text :: rest, strays⟩ =
      .ok (true, ⟨.literal text :: rest, strays⟩) := by
  rw [Reader.aheadLiteral, run_bind_ok (run_tokens _)]
  simp only [known, if_true]
  rfl

theorem run_aheadLiteral_word {word : String}
    (untrue : word ≠ "true" ∧ word ≠ "false") (rest : List Token)
    (strays : Bool) :
    StateT.run Reader.aheadLiteral ⟨.word word :: rest, strays⟩ =
      .ok (false, ⟨.word word :: rest, strays⟩) := by
  have looked : StateT.run Reader.aheadLiteral ⟨.word word :: rest, strays⟩ =
      .ok (word == "true" || word == "false", ⟨.word word :: rest, strays⟩) := rfl
  rw [looked, beq_eq_false_iff_ne.mpr untrue.1,
    beq_eq_false_iff_ne.mpr untrue.2, Bool.false_or]

theorem run_literal_known {text : String}
    (known : Literal.isKnown text = true) (rest : List Token) (strays : Bool) :
    StateT.run Reader.literal ⟨.literal text :: rest, strays⟩ =
      .ok ([.literal text], ⟨rest, strays⟩) := by
  rw [Reader.literal, run_bind_ok (run_aheadLiteral_known known rest strays)]
  rfl

namespace Clause

theorem run_literalText {text : String} (known : Literal.isKnown text = true)
    (rest : List Token) (strays : Bool) :
    StateT.run literalText ⟨.literal text :: rest, strays⟩ =
      .ok (text, ⟨rest, strays⟩) := by
  rw [literalText, run_bind_ok (run_literal_known known rest strays), run_pure]
  simp [String.join, Token.pieces]

theorem string?_negative (text : String) :
    Literal.string? (String.join ["-", text]) = none := by
  have chars : (String.join ["-", text]).toList = '-' :: text.toList := by
    simp [String.join]
  unfold Literal.string?
  rw [chars]
  rfl

theorem literal_of_literalText {before after : Progress} {text value : String}
    (read : StateT.run literalText before = .ok (text, after))
    (string : Literal.string? text = some value) :
    before.tokens = .literal text :: after.tokens ∧
      after.hasStrays = before.hasStrays := by
  obtain ⟨tokens, final, taken, read⟩ := run_bind_eq_ok_iff.mp read
  cases read
  cases takesLiteral_of_run taken with
  | literal ahead known =>
      refine ⟨?_, rfl⟩
      simpa [String.join, Token.pieces] using ahead
  | truth ahead same =>
      rcases same with rfl | rfl
      · cases string
      · cases string
  | negative ahead => cases (string?_negative _).symm.trans string

theorem aheadLiteral_still {before after : Progress} {answer : Bool}
    (looked : StateT.run aheadLiteral before = .ok (answer, after)) :
    after = before := by
  obtain ⟨literal, middle, first, looked⟩ := run_bind_eq_ok_iff.mp looked
  obtain rfl := Derive.aheadLiteral_still first
  cases literal with
  | true =>
      cases looked
      rfl
  | false =>
      cases looked
      rfl

section Clauses

variable {part : Reader Clause} {path : Path} {before after : Progress}

theorem run_afterPath_plain {rest : List Token} (closes : Closes rest)
    (strays : Bool) :
    StateT.run (afterPath part path) ⟨rest, strays⟩ =
      .ok (.path path, ⟨rest, strays⟩) := by
  cases closes with
  | nothing => rfl
  | comma joint => rfl

theorem run_afterPath_equals {joint : Bool} {rest : List Token} {strays : Bool}
    {text : String}
    (read : StateT.run literalText ⟨rest, strays⟩ = .ok (text, after)) :
    StateT.run (afterPath part path) ⟨.punct '=' joint :: rest, strays⟩ =
      .ok (.assign path text, after) := by
  rw [afterPath, run_ahead_bind, if_neg (by exact Bool.false_ne_true),
    run_ahead_bind, if_pos (Ahead.equals_iff.mpr ⟨joint, rest, rfl⟩)]
  exact (run_bind_ok rfl).trans ((run_bind_ok read).trans rfl)

theorem run_afterPath_list {body rest : List Token} {strays left : Bool}
    {entries : List (Clause × Bool)}
    (read : StateT.run (commas part) ⟨body, strays⟩ =
      .ok (entries, ⟨[], left⟩)) :
    StateT.run (afterPath part path) ⟨.group .parenthesis body :: rest, strays⟩ =
      .ok (.list path (entries.map (·.1)), ⟨rest, left⟩) := by
  have grouped : StateT.run (Reader.group .parenthesis (commas part))
      ⟨.group .parenthesis body :: rest, strays⟩ =
        .ok (entries, ⟨rest, left⟩) := by
    rw [run_group_met, read]
    cases left <;> rfl
  rw [afterPath, run_ahead_bind, if_pos (by rfl)]
  exact (run_bind_ok grouped).trans rfl

/-- How a clause goes on after its path. -/
inductive Continues (part : Reader Clause) (path : Path) (before : Progress) :
    Clause → Progress → Prop
  | path : Continues part path before (.path path) before
  | list {body rest : List Token} {entries : List (Clause × Bool)}
      {inner : Progress}
      (ahead : before.tokens = .group .parenthesis body :: rest)
      (read : StateT.run (commas part) ⟨body, before.hasStrays⟩ =
        .ok (entries, inner)) :
      Continues part path before (.list path (entries.map (·.1)))
        ⟨rest, inner.hasStrays || !inner.tokens.isEmpty⟩
  | assign {joint : Bool} {rest : List Token} {text : String} {after : Progress}
      (ahead : before.tokens = .punct '=' joint :: rest)
      (read : StateT.run literalText ⟨rest, before.hasStrays⟩ =
        .ok (text, after)) :
      Continues part path before (.assign path text) after

theorem continues_of_afterPath {clause : Clause}
    (read : StateT.run (afterPath part path) before = .ok (clause, after)) :
    Continues part path before clause after := by
  obtain ⟨tokens, strays⟩ := before
  rw [afterPath, run_ahead_bind] at read
  split at read
  · rename_i grouped
    obtain ⟨body, rest, rfl⟩ := Ahead.parenthesis_iff.mp grouped
    obtain ⟨entries, middle, listed, read⟩ := run_bind_eq_ok_iff.mp read
    cases read
    rw [run_group_met] at listed
    cases ran : StateT.run (commas part) ⟨body, strays⟩ with
    | error refusal =>
        rw [ran] at listed
        cases listed
    | ok found =>
        rw [ran] at listed
        cases listed
        exact .list rfl ran
  · rw [run_ahead_bind] at read
    split at read
    · rename_i equals
      obtain ⟨joint, rest, rfl⟩ := Ahead.equals_iff.mp equals
      rw [run_bind_ok (run_mark_met equals)] at read
      obtain ⟨text, final, literal, read⟩ := run_bind_eq_ok_iff.mp read
      cases read
      exact .assign rfl literal
    · cases read
      exact .path

theorem run_reader_word {depth : Nat} {word : String} {rest : List Token}
    (untrue : word ≠ "true" ∧ word ≠ "false")
    (apart : Ahead.mark "::" rest = false) (strays : Bool) :
    StateT.run (reader (depth + 1)) ⟨.word word :: rest, strays⟩ =
      StateT.run (afterPath (reader depth) ⟨false, [word]⟩) ⟨rest, strays⟩ := by
  have looked : StateT.run aheadLiteral ⟨.word word :: rest, strays⟩ =
      .ok (false, ⟨.word word :: rest, strays⟩) :=
    (run_bind_ok (run_aheadLiteral_word untrue rest strays)).trans rfl
  rw [reader]
  exact (run_bind_ok looked).trans
    (run_bind_ok (Path.run_reader_word apart strays))

theorem path_of_reader {depth : Nat} {clause : Clause}
    (read : StateT.run (reader (depth + 1)) before = .ok (clause, after)) :
    (∃ text, clause = .literal text) ∨
      ∃ path middle,
        StateT.run (Path.reader Ahead.anyWord) before = .ok (path, middle) ∧
          Continues (reader depth) path middle clause after := by
  rw [reader] at read
  obtain ⟨literal, middle, looked, read⟩ := run_bind_eq_ok_iff.mp read
  obtain rfl := aheadLiteral_still looked
  cases literal with
  | true =>
      obtain ⟨text, final, -, read⟩ := run_bind_eq_ok_iff.mp read
      cases read
      exact .inl ⟨text, rfl⟩
  | false =>
      obtain ⟨path, rest, begun, read⟩ := run_bind_eq_ok_iff.mp read
      exact .inr ⟨path, rest, begun, continues_of_afterPath read⟩

theorem word_of_path {depth : Nat} {word : String}
    (read : StateT.run (reader (depth + 1)) before =
      .ok (.path ⟨false, [word]⟩, after)) :
    before.tokens = .word word :: after.tokens ∧
      after.hasStrays = before.hasStrays := by
  rcases path_of_reader read with ⟨text, impossible⟩ | ⟨path, middle, begun, goesOn⟩
  · cases impossible
  · cases goesOn with
    | path =>
        obtain ⟨ahead, -, strays⟩ := Path.word_of_reader begun
        exact ⟨ahead, strays⟩

theorem assignment_of_assign {depth : Nat} {word text value : String}
    (read : StateT.run (reader (depth + 1)) before =
      .ok (.assign ⟨false, [word]⟩ text, after))
    (string : Literal.string? text = some value) :
    (∃ joint, before.tokens =
      .word word :: .punct '=' joint :: .literal text :: after.tokens) ∧
      after.hasStrays = before.hasStrays := by
  rcases path_of_reader read with ⟨text, impossible⟩ | ⟨path, middle, begun, goesOn⟩
  · cases impossible
  · cases goesOn with
    | assign equals literal =>
        obtain ⟨ahead, -, strays⟩ := Path.word_of_reader begun
        obtain ⟨rest, same⟩ := literal_of_literalText literal string
        rw [ahead, equals, ← strays, ← same]
        exact ⟨⟨_, congrArg _ (congrArg _ rest)⟩, rfl⟩

end Clauses

end Clause

namespace Reader

theorem run_eq_ok_iff {α : Type} {reader : Reader α} {tokens : List Token}
    {value : α} :
    run reader tokens = .ok value ↔
      StateT.run reader ⟨tokens, false⟩ = .ok (value, ⟨[], false⟩) := by
  rw [run]
  cases StateT.run reader ⟨tokens, false⟩ with
  | error refusal => exact ⟨nofun, nofun⟩
  | ok found =>
      obtain ⟨made, ⟨rest, strays⟩⟩ := found
      cases rest with
      | nil => cases strays <;> simp
      | cons token rest => simp

end Reader

namespace Attribute

variable {source : Attribute}

/-- An attribute with a list of one clause is a path and that clause in
parentheses. -/
theorem clause_eq_single_iff {clause : Clause} :
    (∃ path, source.clause = .ok (.list path [clause])) ↔
      ∃ body rest, source.content = [.group .parenthesis body] ∧
        StateT.run (Clause.reader (Token.sizeAll source.content + 1))
          ⟨body, false⟩ = .ok (clause, ⟨rest, false⟩) ∧
        body ≠ [] ∧ Closes rest := by
  rw [Attribute.clause]
  constructor
  · rintro ⟨path, read⟩
    have goesOn := Clause.continues_of_afterPath (run_eq_ok_iff.mp read)
    generalize same : Clause.list path [clause] = made at goesOn
    generalize finished : Progress.mk [] false = final at goesOn
    cases goesOn with
    | path => cases same
    | assign ahead read => cases same
    | @list body outer entries inner ahead listed =>
        obtain ⟨-, alone⟩ := Clause.list.inj same
        obtain ⟨⟨entry, separated⟩, rfl, rfl⟩ := List.map_eq_singleton_iff.mp alone.symm
        obtain ⟨some, rest, left, first, closes, rfl⟩ :=
          run_commas_single_iff.mp ⟨separated, listed⟩
        obtain ⟨rfl, strays⟩ := Progress.mk.inj finished
        obtain rfl : left = false := by simpa using strays.symm
        exact ⟨body, rest, ahead, first, some, closes⟩
  · rintro ⟨body, rest, whole, first, some, closes⟩
    obtain ⟨separated, listed⟩ :=
      run_commas_single_iff.mpr ⟨some, rest, false, first, closes, rfl⟩
    have read : StateT.run (Clause.afterPath
        (Clause.reader (Token.sizeAll source.content + 1)) source.path)
        ⟨[.group .parenthesis body], false⟩ =
          .ok (.list source.path [clause], ⟨[], false⟩) :=
      Clause.run_afterPath_list listed
    rw [← whole] at read
    exact ⟨source.path, run_eq_ok_iff.mpr read⟩

end Attribute

end Derive

end FlatGraph
