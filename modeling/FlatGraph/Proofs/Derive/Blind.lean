import FlatGraph.Derive.Reader

/-!
Reading tokens that end in a name, whichever it is. A blind reader does not
tell such names apart: it refuses the tokens alike, stops alike before the
name, or takes the name as it stands, as the last thing that it takes.
-/

namespace FlatGraph

namespace Derive

/-- A name of which no part of the grammar knows. -/
abbrev Ordinary :=
  { text : String // text ∉ Token.reserved ∧ text ≠ "dyn" }

def ending (front : List Token) (name : Ordinary) : List Token :=
  front ++ [.word name.val]

@[simp] theorem ending_nil (name : Ordinary) :
    ending [] name = [.word name.val] := rfl

@[simp] theorem ending_cons (token : Token) (front : List Token)
    (name : Ordinary) :
    ending (token :: front) name = token :: ending front name := rfl

@[simp] theorem append_ending (front rest : List Token) (name : Ordinary) :
    front ++ ending rest name = ending (front ++ rest) name :=
  (List.append_assoc front rest _).symm

@[simp] theorem ending_length (front : List Token) (name : Ordinary) :
    (ending front name).length = front.length + 1 := by
  rw [ending, List.length_append, List.length_singleton]

theorem ending_drop {front : List Token} {count : Nat}
    (inside : count ≤ front.length) (name : Ordinary) :
    (ending front name).drop count = ending (front.drop count) name :=
  List.drop_append_of_le_length inside

theorem ending_take {front : List Token} {count : Nat}
    (inside : count ≤ front.length) (name : Ordinary) :
    (ending front name).take count = front.take count :=
  List.take_append_of_le_length inside

namespace Ahead

/-- A test that answers alike whichever name the tokens end in. -/
def Blind (test : List Token → Bool) : Prop :=
  ∀ front, ∃ answer, ∀ name, test (ending front name) = answer

namespace Blind

variable {test other : List Token → Bool}

theorem and (one : Blind test) (two : Blind other) :
    Blind fun tokens => test tokens && other tokens := by
  intro front
  obtain ⟨left, leftSame⟩ := one front
  obtain ⟨right, rightSame⟩ := two front
  exact ⟨left && right, fun name => by simp only [leftSame, rightSame]⟩

theorem or (one : Blind test) (two : Blind other) :
    Blind fun tokens => test tokens || other tokens := by
  intro front
  obtain ⟨left, leftSame⟩ := one front
  obtain ⟨right, rightSame⟩ := two front
  exact ⟨left || right, fun name => by simp only [leftSame, rightSame]⟩

theorem not (one : Blind test) : Blind fun tokens => !test tokens := by
  intro front
  obtain ⟨answer, same⟩ := one front
  exact ⟨!answer, fun name => by simp only [same]⟩

theorem any {α : Type} {tests : α → List Token → Bool} (values : List α)
    (each : ∀ value ∈ values, Blind (tests value)) :
    Blind fun tokens => values.any fun value => tests value tokens := by
  induction values with
  | nil => exact fun _ => ⟨false, fun _ => rfl⟩
  | cons value values ih =>
      have rest := ih fun other member =>
        each other (List.mem_cons_of_mem _ member)
      have both := (each value List.mem_cons_self).or rest
      simpa only [List.any_cons] using both

theorem beyond (count : Nat) (blind : Blind test) :
    Blind (Ahead.beyond count test) := by
  intro front
  rcases Nat.lt_or_ge front.length count with short | inside
  · refine ⟨test [], fun name => ?_⟩
    rw [Ahead.beyond, List.drop_eq_nil_of_le]
    rw [ending_length]
    exact short
  · obtain ⟨answer, same⟩ := blind (front.drop count)
    refine ⟨answer, fun name => ?_⟩
    rw [Ahead.beyond, ending_drop inside, same]

end Blind

theorem joined_ending (cs : List Char) (front : List Token) :
    ∃ answer, (∀ name, joined cs (ending front name) = answer) ∧
      (answer = true → cs.length ≤ front.length) := by
  induction cs generalizing front with
  | nil => exact ⟨false, fun _ => by simp [joined], by simp⟩
  | cons c cs ih =>
      cases front with
      | nil => exact ⟨false, fun _ => by cases cs <;> rfl, by simp⟩
      | cons token front =>
          cases token with
          | punct char joint =>
              cases cs with
              | nil =>
                  exact ⟨c == char, fun _ => rfl, fun _ => by simp⟩
              | cons d cs =>
                  cases joint with
                  | false => exact ⟨false, fun _ => rfl, by simp⟩
                  | true =>
                      obtain ⟨answer, same, short⟩ := ih front
                      refine ⟨c == char && answer, fun name => ?_, ?_⟩
                      · exact congrArg (c == char && ·) (same name)
                      · intro met
                        rw [Bool.and_eq_true] at met
                        exact Nat.succ_le_succ (short met.2)
          | word text => exact ⟨false, fun _ => by cases cs <;> rfl, by simp⟩
          | lifetime name => exact ⟨false, fun _ => by cases cs <;> rfl, by simp⟩
          | literal text => exact ⟨false, fun _ => by cases cs <;> rfl, by simp⟩
          | group delimiter body =>
              exact ⟨false, fun _ => by cases cs <;> rfl, by simp⟩

theorem mark_ending (text : String) (front : List Token) :
    ∃ answer, (∀ name, mark text (ending front name) = answer) ∧
      (answer = true → text.length ≤ front.length) :=
  joined_ending text.toList front

theorem word_ordinary {text : String}
    (known : text ∈ Token.reserved ∨ text = "dyn") (name : Ordinary) :
    word text [.word name.val] = false := by
  refine beq_eq_false_iff_ne.mpr ?_
  rintro same
  rcases known with reserved | special
  · exact name.property.1 (same ▸ reserved)
  · exact name.property.2 (same.trans special)

namespace Blind

theorem mark (text : String) : Blind (Ahead.mark text) := by
  intro front
  obtain ⟨answer, same, -⟩ := mark_ending text front
  exact ⟨answer, same⟩

theorem of_head (answer : Bool)
    (alone : ∀ name : Ordinary, test [.word name.val] = answer)
    (head : ∀ token front rest,
      test (token :: front) = test (token :: rest)) : Blind test := by
  intro front
  cases front with
  | nil => exact ⟨answer, alone⟩
  | cons token front => exact ⟨test [token], fun _ => head _ _ _⟩

theorem word (text : String)
    (known : text ∈ Token.reserved ∨ text = "dyn" := by decide) :
    Blind (Ahead.word text) :=
  of_head false (word_ordinary known) (fun token _ _ => by cases token <;> rfl)

theorem anyWord : Blind Ahead.anyWord :=
  of_head _ (fun _ => rfl) (fun token _ _ => by cases token <;> rfl)

theorem name : Blind Ahead.name := by
  refine of_head true (fun name => ?_)
    (fun token _ _ => by cases token <;> rfl)
  have unreserved := name.property.1
  simp [Ahead.name, unreserved]

theorem lifetime : Blind Ahead.lifetime :=
  of_head _ (fun _ => rfl) (fun token _ _ => by cases token <;> rfl)

theorem group (delimiter : Delimiter) : Blind (Ahead.group delimiter) :=
  of_head _ (fun _ => rfl) (fun token _ _ => by cases token <;> rfl)

theorem isEmpty : Blind List.isEmpty := by
  intro front
  exact ⟨false, fun _ => by cases front <;> rfl⟩

theorem moduleWords_reserved {text : String}
    (member : text ∈ ["super", "self", "crate"]) : text ∈ Token.reserved := by
  simp only [List.mem_cons, List.not_mem_nil, or_false] at member
  rcases member with rfl | rfl | rfl <;> decide

theorem moduleWord : Blind Ahead.moduleWord :=
  any _ fun text member => word text (.inl (moduleWords_reserved member))

theorem pathWord : Blind Ahead.pathWord :=
  (name.or (word "Self")).or moduleWord

end Blind

@[simp] theorem mark_empty (text : String) : Ahead.mark text [] = false := by
  rw [mark]
  cases text.toList with
  | nil => rfl
  | cons c cs => cases cs <;> rfl

@[simp] theorem word_empty (text : String) : word text [] = false := rfl

end Ahead

/-- How reading tokens that end in a name comes out, where `last` says what
can be made of tokens with the name as the last of them. -/
inductive Outcome {α : Type} (last : (Ordinary → α) → Prop)
    (result : Ordinary → Except Refusal (α × Progress)) : Prop
  | refused (refusal : Refusal) (same : ∀ name, result name = .error refusal)
  | before (value : α) (front : List Token) (strays : Bool)
      (same : ∀ name, result name = .ok (value, ⟨ending front name, strays⟩))
  | after (value : Ordinary → α) (shape : last value) (strays : Bool)
      (same : ∀ name, result name = .ok (value name, ⟨[], strays⟩))

def Never {α : Type} (_ : Ordinary → α) : Prop := False

def Anyhow {α : Type} (_ : Ordinary → α) : Prop := True

def Trails (value : Ordinary → List Token) : Prop :=
  ∃ front, ∀ name, value name = ending front name

namespace Reader

variable {α β : Type}

theorem run_bind_ok {reader : Reader α} {next : α → Reader β}
    {before after : Progress} {value : α}
    (ran : StateT.run reader before = .ok (value, after)) :
    StateT.run (reader >>= next) before = StateT.run (next value) after := by
  rw [StateT.run_bind, ran]
  rfl

theorem run_bind_error {reader : Reader α} {next : α → Reader β}
    {before : Progress} {refusal : Refusal}
    (failed : StateT.run reader before = .error refusal) :
    StateT.run (reader >>= next) before = .error refusal := by
  rw [StateT.run_bind, failed]
  rfl

/-- Readers, one for each name, that come out alike on tokens that end in the
name. -/
def Blind (last : (Ordinary → α) → Prop) (reader : Ordinary → Reader α) :
    Prop :=
  ∀ front strays, Outcome last fun name =>
    StateT.run (reader name) ⟨ending front name, strays⟩

/-- Readers that come out alike when the name has been taken. -/
def Ended (last : (Ordinary → α) → Prop) (reader : Ordinary → Reader α) :
    Prop :=
  ∀ strays, Outcome last fun name => StateT.run (reader name) ⟨[], strays⟩

variable {last : (Ordinary → α) → Prop} {final : (Ordinary → β) → Prop}

theorem Ended.returns {reader : Ordinary → Reader α} {value : Ordinary → α}
    (shape : last value)
    (ran : ∀ name strays, StateT.run (reader name) ⟨[], strays⟩ =
      .ok (value name, ⟨[], strays⟩)) : Ended last reader :=
  fun strays => .after value shape strays fun name => ran name strays

theorem Ended.pure {value : Ordinary → α} (shape : last value) :
    Ended last fun name => Pure.pure (value name) :=
  .returns shape fun _ _ => rfl

theorem Ended.refuses {reader : Ordinary → Reader α} (refusal : Refusal)
    (ran : ∀ name strays,
      StateT.run (reader name) ⟨[], strays⟩ = .error refusal) :
    Ended last reader :=
  fun strays => .refused refusal fun name => ran name strays

namespace Blind

theorem mono {weaker : (Ordinary → α) → Prop} {reader : Ordinary → Reader α}
    (blind : Blind last reader) (weaken : ∀ value, last value → weaker value) :
    Blind weaker reader := by
  intro front strays
  cases blind front strays with
  | refused refusal same => exact .refused refusal same
  | before value front strays same => exact .before value front strays same
  | after value shape strays same =>
      exact .after value (weaken value shape) strays same

theorem never {reader : Ordinary → Reader α} (blind : Blind Never reader) :
    Blind last reader :=
  blind.mono fun _ => False.elim

theorem pure (value : α) : Blind last fun _ => Pure.pure value :=
  fun front strays => .before value front strays fun _ => rfl

theorem refuse (refusal : Refusal) :
    Blind last fun _ => (Reader.refuse refusal : Reader α) :=
  fun _ _ => .refused refusal fun _ => rfl

theorem bind {reader : Ordinary → Reader α} {next : Ordinary → α → Reader β}
    (first : Blind last reader)
    (onward : ∀ value, Blind final fun name => next name value)
    (ended : ∀ value, last value →
      Ended final fun name => next name (value name)) :
    Blind final fun name => reader name >>= next name := by
  intro front strays
  cases first front strays with
  | refused refusal same =>
      exact .refused refusal fun name => run_bind_error (same name)
  | before value rest left same =>
      have ran (name : Ordinary) :
          StateT.run (reader name >>= next name) ⟨ending front name, strays⟩ =
            StateT.run (next name value) ⟨ending rest name, left⟩ :=
        run_bind_ok (same name)
      simp only [ran]
      exact onward value rest left
  | after value shape left same =>
      have ran (name : Ordinary) :
          StateT.run (reader name >>= next name) ⟨ending front name, strays⟩ =
            StateT.run (next name (value name)) ⟨[], left⟩ :=
        run_bind_ok (same name)
      simp only [ran]
      exact ended value shape left

theorem onward {reader : Ordinary → Reader α} {next : Ordinary → α → Reader β}
    (first : Blind Never reader)
    (onward : ∀ value, Blind final fun name => next name value) :
    Blind final fun name => reader name >>= next name :=
  first.bind onward fun _ => False.elim

theorem made {reader : Ordinary → Reader α} (make : α → β)
    (blind : Blind last reader)
    (shape : ∀ value, last value → final fun name => make (value name)) :
    Blind final fun name => do return make (← reader name) :=
  blind.bind (fun _ => pure _) fun value ends => .pure (shape value ends)

theorem anyhow {reader : Ordinary → Reader α} (make : α → β)
    (blind : Blind Anyhow reader) :
    Blind Anyhow fun name => do return make (← reader name) :=
  blind.made make fun _ _ => trivial

theorem ite {condition : Prop} [Decidable condition]
    {one two : Ordinary → Reader α} (yes : Blind last one)
    (no : Blind last two) :
    Blind last fun name => if condition then one name else two name := by
  split
  · exact yes
  · exact no

theorem ahead {test : List Token → Bool} (blind : Ahead.Blind test) :
    Blind Never fun _ => Reader.ahead test := by
  intro front strays
  obtain ⟨answer, same⟩ := blind front
  refine .before answer front strays fun name => ?_
  rw [← same name]
  rfl

theorem look {test : List Token → Bool} {next : Ordinary → Bool → Reader β}
    (blind : Ahead.Blind test)
    (onward : ∀ answer, Blind final fun name => next name answer) :
    Blind final fun name => Reader.ahead test >>= next name :=
  (ahead blind).onward onward

end Blind

end Reader

end Derive

end FlatGraph
