import FlatGraph.Proofs.Derive.Readers

namespace FlatGraph

namespace Derive

namespace Ahead

theorem joined_single_iff {c : Char} {tokens : List Token} :
    joined [c] tokens = true ↔
      ∃ joint rest, tokens = .punct c joint :: rest := by
  constructor
  · intro met
    cases tokens with
    | nil => cases met
    | cons token rest =>
        cases token with
        | punct char joint =>
            obtain rfl : c = char := eq_of_beq met
            exact ⟨joint, rest, rfl⟩
        | word text => cases met
        | lifetime name => cases met
        | literal text => cases met
        | group delimiter body => cases met
  · rintro ⟨joint, rest, rfl⟩
    exact beq_self_eq_true c

theorem equals_iff {tokens : List Token} :
    mark "=" tokens = true ↔ ∃ joint rest, tokens = .punct '=' joint :: rest :=
  joined_single_iff

theorem comma_iff {tokens : List Token} :
    mark "," tokens = true ↔ ∃ joint rest, tokens = .punct ',' joint :: rest :=
  joined_single_iff

theorem parenthesis_iff {tokens : List Token} :
    group .parenthesis tokens = true ↔
      ∃ body rest, tokens = .group .parenthesis body :: rest := by
  constructor
  · intro met
    cases tokens with
    | nil => cases met
    | cons token rest =>
        cases token with
        | group delimiter body =>
            obtain rfl : delimiter = .parenthesis := eq_of_beq met
            exact ⟨body, rest, rfl⟩
        | word text => cases met
        | lifetime name => cases met
        | literal text => cases met
        | punct char joint => cases met
  · rintro ⟨body, rest, rfl⟩
    rfl

end Ahead

namespace Reader

variable {α β : Type} {before after : Progress}

theorem run_bind_eq_ok_iff {reader : Reader α} {next : α → Reader β}
    {found : β × Progress} :
    StateT.run (reader >>= next) before = .ok found ↔
      ∃ value middle, StateT.run reader before = .ok (value, middle) ∧
        StateT.run (next value) middle = .ok found := by
  cases ran : StateT.run reader before with
  | error refusal =>
      rw [run_bind_error ran]
      constructor
      · intro impossible
        cases impossible
      · rintro ⟨_, _, impossible, -⟩
        cases impossible
  | ok made =>
      obtain ⟨value, middle⟩ := made
      rw [run_bind_ok ran]
      constructor
      · intro finished
        exact ⟨value, middle, rfl, finished⟩
      · rintro ⟨_, _, same, finished⟩
        cases same
        exact finished

theorem run_bind_eq_error_iff {reader : Reader α} {next : α → Reader β}
    {refusal : Refusal} :
    StateT.run (reader >>= next) before = .error refusal ↔
      StateT.run reader before = .error refusal ∨
        ∃ value middle, StateT.run reader before = .ok (value, middle) ∧
          StateT.run (next value) middle = .error refusal := by
  cases ran : StateT.run reader before with
  | error other =>
      rw [run_bind_error ran]
      constructor
      · intro failed
        cases failed
        exact .inl rfl
      · rintro (failed | ⟨_, _, impossible, -⟩)
        · cases failed
          rfl
        · cases impossible
  | ok made =>
      obtain ⟨value, middle⟩ := made
      rw [run_bind_ok ran]
      constructor
      · intro failed
        exact .inr ⟨value, middle, rfl, failed⟩
      · rintro (impossible | ⟨_, _, same, failed⟩)
        · cases impossible
        · cases same
          exact failed

theorem run_ahead_bind {test : List Token → Bool} {next : Bool → Reader β} :
    StateT.run (ahead test >>= next) before =
      StateT.run (next (test before.tokens)) before :=
  run_bind_ok (run_ahead test before)

theorem run_pure (value : α) :
    StateT.run (pure value : Reader α) before = .ok (value, before) := rfl

theorem run_any_of_tokens {token : Token} {rest : List Token}
    (ahead : before.tokens = token :: rest) :
    StateT.run any before = .ok (token, ⟨rest, before.hasStrays⟩) := by
  rw [any, run_bind_ok (run_tokens before), ahead]
  rfl

theorem word_of_anyWord {text : String}
    (read : StateT.run anyWord before = .ok (text, after)) :
    before.tokens = .word text :: after.tokens ∧
      after.hasStrays = before.hasStrays := by
  cases ahead : before.tokens with
  | nil =>
      rw [anyWord, any, bind_assoc, run_bind_ok (run_tokens before),
        ahead] at read
      cases read
  | cons token rest =>
      rw [anyWord, run_bind_ok (run_any_of_tokens ahead)] at read
      cases token with
      | word other =>
          cases read
          exact ⟨rfl, rfl⟩
      | lifetime name => cases read
      | literal text => cases read
      | punct char joint => cases read
      | group delimiter body => cases read

theorem run_optional_eq_nil {text : String} (some : Token.mark text.toList ≠ [])
    (none : StateT.run (option (Ahead.mark text) (mark text)) before =
      .ok ([], after)) : after = before := by
  rw [option, run_ahead_bind] at none
  cases met : Ahead.mark text before.tokens with
  | true =>
      rw [met, if_pos rfl, run_mark_met met] at none
      exact absurd (congrArg Prod.fst (Except.ok.inj none)) some
  | false =>
      rw [met] at none
      cases none
      rfl

theorem run_whileAhead_eq_nil {test : List Token → Bool} {reader : Reader α}
    (missed : test [] = false)
    (none : StateT.run (whileAhead test reader) before = .ok ([], after)) :
    test before.tokens = false ∧ after = before := by
  rw [whileAhead, run_bind_ok (run_tokens before)] at none
  cases tokens : before.tokens with
  | nil =>
      rw [tokens] at none
      cases none
      exact ⟨missed, rfl⟩
  | cons token rest =>
      rw [tokens, List.length_cons, upTo, run_ahead_bind, tokens] at none
      cases met : test (token :: rest) with
      | true =>
          rw [met, if_pos rfl, run_bind_eq_ok_iff] at none
          obtain ⟨value, middle, -, more⟩ := none
          rw [run_bind_eq_ok_iff] at more
          obtain ⟨values, final, -, impossible⟩ := more
          cases impossible
      | false =>
          rw [met] at none
          cases none
          exact ⟨rfl, rfl⟩

/-- What may follow the only value of a list. -/
inductive Closes : List Token → Prop
  | nothing : Closes []
  | comma (joint : Bool) : Closes [.punct ',' joint]

theorem followingUpTo_begins {ends : List Token → Bool} {separator : String}
    {reader : Reader α} {value : α} {count : Nat}
    {entries : List (α × Bool)}
    (ran : StateT.run (followingUpTo ends separator reader value count) before =
      .ok (entries, after)) :
    ∃ separated later, entries = (value, separated) :: later := by
  cases count with
  | zero =>
      cases ran
      exact ⟨_, _, rfl⟩
  | succ count =>
      rw [followingUpTo, run_ahead_bind] at ran
      split at ran
      · obtain ⟨_, middle, -, ran⟩ := run_bind_eq_ok_iff.mp ran
        rw [run_ahead_bind] at ran
        split at ran
        · cases ran
          exact ⟨_, _, rfl⟩
        · obtain ⟨next, _, -, ran⟩ := run_bind_eq_ok_iff.mp ran
          obtain ⟨later, _, -, ran⟩ := run_bind_eq_ok_iff.mp ran
          cases ran
          exact ⟨_, _, rfl⟩
      · cases ran
        exact ⟨_, _, rfl⟩

/-- Nothing but a comma comes after the first value if it is the only one. -/
theorem followingUpTo_single {reader : Reader α} {value other : α}
    {separated : Bool} {tokens : List Token} {strays : Bool} {count : Nat}
    (ran : StateT.run (followingUpTo Ahead.ended "," reader value count)
      ⟨tokens, strays⟩ = .ok ([(other, separated)], after)) :
    other = value ∧ ∃ rest, after = ⟨rest, strays⟩ ∧
      (rest = [] → Closes tokens) := by
  cases count with
  | zero =>
      cases ran
      exact ⟨rfl, tokens, rfl, fun none => none ▸ .nothing⟩
  | succ count =>
      rw [followingUpTo, run_ahead_bind] at ran
      cases comma : Ahead.mark "," tokens with
      | true =>
          obtain ⟨joint, rest, rfl⟩ := Ahead.comma_iff.mp comma
          rw [comma, if_pos rfl, run_bind_ok (run_mark_met comma),
            run_ahead_bind] at ran
          split at ran
          · cases ran
            refine ⟨rfl, rest, rfl, fun none => ?_⟩
            rw [none]
            exact .comma joint
          · obtain ⟨next, _, -, ran⟩ := run_bind_eq_ok_iff.mp ran
            obtain ⟨later, _, more, ran⟩ := run_bind_eq_ok_iff.mp ran
            obtain ⟨_, _, rfl⟩ := followingUpTo_begins more
            cases ran
      | false =>
          rw [comma] at ran
          cases ran
          exact ⟨rfl, tokens, rfl, fun none => none ▸ .nothing⟩

theorem run_followingUpTo_closes (reader : Reader α) (value : α)
    {rest : List Token} (closes : Closes rest) (strays : Bool) :
    ∃ separated,
      StateT.run (followingUpTo Ahead.ended "," reader value rest.length)
        ⟨rest, strays⟩ = .ok ([(value, separated)], ⟨[], strays⟩) := by
  cases closes with
  | nothing => exact ⟨false, rfl⟩
  | comma joint => exact ⟨true, rfl⟩

theorem run_commas_single_iff {reader : Reader α} {value : α}
    {tokens : List Token} {strays : Bool} :
    (∃ separated, StateT.run (commas reader) ⟨tokens, strays⟩ =
        .ok ([(value, separated)], after)) ↔
      tokens ≠ [] ∧ ∃ rest left, StateT.run reader ⟨tokens, strays⟩ =
        .ok (value, ⟨rest, left⟩) ∧ Closes rest ∧ after = ⟨[], left⟩ := by
  constructor
  · rintro ⟨separated, ran⟩
    rw [commas, complete] at ran
    obtain ⟨entries, middle, listed, ran⟩ := run_bind_eq_ok_iff.mp ran
    rw [run_ahead_bind] at ran
    split at ran
    · rename_i finished
      cases ran
      rw [list, run_ahead_bind] at listed
      cases tokens with
      | nil => cases listed
      | cons token tokens =>
          obtain ⟨first, ⟨rest, left⟩, read, listed⟩ :=
            run_bind_eq_ok_iff.mp listed
          rw [following, run_bind_ok (run_tokens _)] at listed
          obtain ⟨rfl, ahead, rfl, closes⟩ := followingUpTo_single listed
          obtain rfl : ahead = [] := List.isEmpty_iff.mp finished
          exact ⟨List.cons_ne_nil _ _, rest, left, read, closes rfl, rfl⟩
    · cases ran
  · rintro ⟨some, rest, left, read, closes, rfl⟩
    obtain ⟨separated, listed⟩ :=
      run_followingUpTo_closes reader value closes left
    refine ⟨separated, ?_⟩
    have present : Ahead.ended tokens = false := List.isEmpty_eq_false_iff.mpr some
    have whole : StateT.run (list Ahead.ended "," reader) ⟨tokens, strays⟩ =
        .ok ([(value, separated)], ⟨[], left⟩) := by
      rw [list, run_ahead_bind, present]
      exact (run_bind_ok read).trans ((run_bind_ok (run_tokens _)).trans listed)
    rw [commas, complete]
    exact (run_bind_ok whole).trans rfl

end Reader

end Derive

end FlatGraph
