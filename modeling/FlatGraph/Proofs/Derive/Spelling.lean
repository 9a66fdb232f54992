import FlatGraph.Derive.Role
import FlatGraph.Proofs.Derive.Clause
import FlatGraph.Proofs.Derive.Refusals

/-!
How a role is spelled in an attribute. An attribute makes a role exactly if
its tokens spell the role; what is wrong with any other attribute decides its
fault.
-/

namespace FlatGraph

namespace Derive

open Reader

theorem DeriveFault.ofRefusal_of_survives {refusal : Refusal}
    (survives : refusal.isFatal = false) (fault : DeriveFault) :
    fault.ofRefusal refusal = fault := by
  rw [ofRefusal, survives]
  rfl

namespace Member

inductive Spelled : List Token → Member → Prop
  | name {word : String} (free : Token.reserved.contains word = false) :
      Spelled [.word word] (.named word)
  | place {digits : String} {place : Nat}
      (number : Literal.place? digits = some place) :
      Spelled [.literal digits] (.index place)

inductive Reading (tokens : List Token) : Except Refusal Member → Prop
  | member {member : Member} (spelled : Spelled tokens member) :
      Reading tokens (.ok member)
  | unknown {text : String} {rest : List Token}
      (ahead : tokens = .literal text :: rest)
      (unknown : Literal.isKnown text = false) :
      Reading tokens (.error (.unknownLiteral text))
  | refused {refusal : Refusal} (survives : refusal.isFatal = false)
      (unspelled : ∀ member, ¬Spelled tokens member)
      (known : ∀ text rest, tokens = .literal text :: rest →
        Literal.isKnown text = true) :
      Reading tokens (.error refusal)

theorem known_of_place? {digits : String} {place : Nat}
    (number : Literal.place? digits = some place) :
    Literal.isKnown digits = true := by
  have whole : Literal.integer? digits = some place :=
    (Option.filter_eq_some_iff.mp number).1
  unfold Literal.integer? at whole
  unfold Literal.isKnown
  split at whole
  · simp [*]
  · simp [*]
  · simp [*]
  · rename_i first rest _ _ _ chars
    split at whole
    · rename_i isDigit
      rw [chars]
      by_cases letter : first = 'c' ∨ first = '('
      · rcases letter with rfl | rfl
        · cases isDigit
        · cases isDigit
      · simpa using letter
    · cases whole
  · cases whole

theorem run_reader_name {word : String}
    (free : Token.reserved.contains word = false) (rest : List Token) :
    StateT.run reader ⟨.word word :: rest, false⟩ =
      .ok (.named word, ⟨rest, false⟩) := by
  have ahead : Ahead.name (.word word :: rest) = true := by
    rw [Ahead.name, free]
    rfl
  have name : StateT.run Reader.name ⟨.word word :: rest, false⟩ =
      .ok (word, ⟨rest, false⟩) := by
    rw [Reader.name, run_ahead_bind, if_pos ahead]
    rfl
  rw [reader, run_ahead_bind, if_pos ahead, run_bind_ok name]
  rfl

theorem reading_other {tokens : List Token}
    (unfree : Ahead.name tokens = false)
    (other : ∀ text rest, tokens ≠ .literal text :: rest) :
    Reading tokens (.error .unexpectedToken) := by
  refine .refused rfl (fun member spelled => ?_)
    fun text rest ahead => absurd ahead (other text rest)
  cases spelled with
  | name free =>
      rw [Ahead.name, free] at unfree
      cases unfree
  | place number => exact other _ _ rfl

theorem reading (tokens : List Token) :
    Reading tokens (Reader.run reader tokens) := by
  cases named : Ahead.name tokens with
  | true =>
      cases tokens with
      | nil => cases named
      | cons token rest =>
          cases token with
          | word word =>
              have free : Token.reserved.contains word = false := by
                simpa [Ahead.name] using named
              rw [Reader.run, run_reader_name free]
              cases rest with
              | nil => exact .member (.name free)
              | cons next rest =>
                  exact .refused rfl (fun _ spelled => by cases spelled)
                    fun _ _ ahead => by cases ahead
          | lifetime name => cases named
          | literal text => cases named
          | punct char joint => cases named
          | group delimiter body => cases named
  | false =>
      have unfree : ¬Ahead.name tokens = true := by simp [named]
      rw [Reader.run, reader, run_ahead_bind, if_neg unfree]
      cases ran : StateT.run Reader.literal ⟨tokens, false⟩ with
      | error refusal =>
          rw [run_bind_error ran]
          cases leavesLiteral_of_run ran with
          | unknown ahead unknown => exact .unknown ahead unknown
          | other none => exact reading_other named none
      | ok found =>
          obtain ⟨taken, after⟩ := found
          rw [run_bind_ok ran]
          cases takesLiteral_of_run ran with
          | @literal digits rest ahead known =>
              obtain rfl : tokens = .literal digits :: rest := ahead
              have only (text : String) (others : List Token)
                  (same : .literal digits :: rest = .literal text :: others) :
                  Literal.isKnown text = true := by
                cases same
                exact known
              cases number : Literal.place? digits with
              | none =>
                  simp only [number]
                  refine .refused rfl (fun member spelled => ?_) only
                  cases spelled with
                  | place other => cases number.symm.trans other
              | some place =>
                  simp only [number]
                  cases rest with
                  | nil => exact .member (.place number)
                  | cons next rest =>
                      exact .refused rfl (fun _ spelled => by cases spelled) only
          | truth ahead same =>
              exact reading_other named fun text rest literal => by
                cases ahead.symm.trans literal
          | negative ahead =>
              exact reading_other named fun text rest literal => by
                cases ahead.symm.trans literal

def Names (text : String) (member : Member) : Prop :=
  ∃ tokens, Token.read? text = some tokens ∧ Spelled tokens member

/-- A text with a literal of an unknown kind where a member could be. -/
def Breaks (text literal : String) : Prop :=
  ∃ rest, Token.read? text = some (.literal literal :: rest) ∧
    Literal.isKnown literal = false

inductive ReadingText (text : String) : Except DeriveFault Member → Prop
  | member {member : Member} (names : Names text member) :
      ReadingText text (.ok member)
  | breaks {literal : String} (breaks : Breaks text literal) :
      ReadingText text (.error (.refused (.unknownLiteral literal)))
  | refused (unnamed : ∀ member, ¬Names text member)
      (known : ∀ literal, ¬Breaks text literal) :
      ReadingText text (.error .lengthMember)

theorem readingText (text : String) : ReadingText text (read text) := by
  rw [read]
  cases lexed : Token.read? text with
  | none =>
      exact .refused (fun member ⟨tokens, read, _⟩ => by
          cases lexed.symm.trans read)
        fun literal ⟨rest, read, _⟩ => by cases lexed.symm.trans read
  | some tokens =>
      simp only
      generalize answer : Reader.run reader tokens = outcome
      have came := reading tokens
      rw [answer] at came
      cases came with
      | member spelled => exact .member ⟨tokens, lexed, spelled⟩
      | unknown ahead unknown =>
          exact .breaks ⟨_, ahead ▸ lexed, unknown⟩
      | @refused refusal survives unspelled known =>
          change ReadingText text
            (.error (DeriveFault.lengthMember.ofRefusal refusal))
          rw [DeriveFault.ofRefusal_of_survives survives]
          refine .refused (fun member names => ?_) fun literal breaks => ?_
          · obtain ⟨others, read, spelled⟩ := names
            obtain rfl := Option.some.inj (lexed.symm.trans read)
            exact unspelled member spelled
          · obtain ⟨rest, read, unknown⟩ := breaks
            rw [known literal rest (Option.some.inj (lexed.symm.trans read))]
              at unknown
            cases unknown

theorem spelled_unique {tokens : List Token} {one other : Member}
    (first : Spelled tokens one) (second : Spelled tokens other) :
    one = other := by
  cases first with
  | name free =>
      cases second with
      | name free => rfl
  | place number =>
      cases second with
      | place same => rw [Option.some.inj (number.symm.trans same)]

theorem not_breaks_of_names {text literal : String} {member : Member}
    (names : Names text member) : ¬Breaks text literal := by
  rintro ⟨rest, read, unknown⟩
  obtain ⟨tokens, same, spelled⟩ := names
  obtain rfl := Option.some.inj (same.symm.trans read)
  cases spelled with
  | place number => cases unknown.symm.trans (known_of_place? number)

theorem literal_unique {text one other : String} (first : Breaks text one)
    (second : Breaks text other) : one = other := by
  obtain ⟨rest, read, -⟩ := first
  obtain ⟨others, same, -⟩ := second
  cases read.symm.trans same
  rfl

section Texts

variable {text : String} {member : Member}

theorem read_of_names (names : Names text member) : read text = .ok member := by
  generalize answer : read text = outcome
  have came := readingText text
  rw [answer] at came
  cases came with
  | member found =>
      obtain ⟨tokens, read, spelled⟩ := names
      obtain ⟨others, same, respelled⟩ := found
      obtain rfl := Option.some.inj (read.symm.trans same)
      rw [spelled_unique respelled spelled]
  | breaks breaks => exact absurd breaks (not_breaks_of_names names)
  | refused unnamed known => exact absurd names (unnamed member)

theorem read_of_breaks {literal : String} (breaks : Breaks text literal) :
    read text = .error (.refused (.unknownLiteral literal)) := by
  generalize answer : read text = outcome
  have came := readingText text
  rw [answer] at came
  cases came with
  | member names => exact absurd breaks (not_breaks_of_names names)
  | breaks other => rw [literal_unique other breaks]
  | refused unnamed known => exact absurd breaks (known literal)

theorem read_of_unnamed (unnamed : ∀ member, ¬Names text member)
    (known : ∀ literal, ¬Breaks text literal) :
    read text = .error .lengthMember := by
  generalize answer : read text = outcome
  have came := readingText text
  rw [answer] at came
  cases came with
  | member names => exact absurd names (unnamed _)
  | breaks breaks => exact absurd breaks (known _)
  | refused _ _ => rfl

end Texts

end Member

/-- The tokens of a clause alone in parentheses, a comma after them allowed. -/
inductive Encloses : List Token → List Token → Prop
  | intro {clause rest : List Token} (closes : Closes rest) :
      Encloses [.group .parenthesis (clause ++ rest)] clause

theorem Ahead.not_colons {char : Char} (other : char ≠ ':') (joint : Bool)
    (rest : List Token) : mark "::" (.punct char joint :: rest) = false := by
  cases joint with
  | false => rfl
  | true =>
      have first : (':' == char) = false := beq_eq_false_iff_ne.mpr other.symm
      change (':' == char && joined [':'] rest) = false
      rw [first, Bool.false_and]

namespace Attribute

variable {source : Attribute} {word : String}

theorem clause_word_iff (untrue : word ≠ "true" ∧ word ≠ "false") :
    (∃ path, source.clause = .ok (.list path [.path ⟨false, [word]⟩])) ↔
      Encloses source.content [.word word] := by
  rw [clause_eq_single_iff]
  constructor
  · rintro ⟨body, rest, whole, read, -, closes⟩
    obtain ⟨ahead, -⟩ := Clause.word_of_path read
    obtain rfl : body = .word word :: rest := ahead
    have encloses : Encloses [.group .parenthesis ([.word word] ++ rest)]
        [.word word] := .intro closes
    rw [whole]
    exact encloses
  · generalize content : source.content = tokens
    rintro ⟨closes⟩
    rename_i rest
    refine ⟨_, rest, rfl, ?_, List.cons_ne_nil _ _, closes⟩
    have apart : Ahead.mark "::" rest = false := by
      cases closes with
      | nothing => rfl
      | comma joint => exact Ahead.not_colons (by decide) joint []
    exact (Clause.run_reader_word untrue apart false).trans
      (Clause.run_afterPath_plain closes false)

theorem clause_assign_iff {text value : String}
    (untrue : word ≠ "true" ∧ word ≠ "false")
    (string : Literal.string? text = some value) :
    (∃ path, source.clause =
        .ok (.list path [.assign ⟨false, [word]⟩ text])) ↔
      ∃ joint, Encloses source.content
        [.word word, .punct '=' joint, .literal text] := by
  rw [clause_eq_single_iff]
  constructor
  · rintro ⟨body, rest, whole, read, -, closes⟩
    obtain ⟨⟨joint, ahead⟩, -⟩ := Clause.assignment_of_assign read string
    obtain rfl : body =
        .word word :: .punct '=' joint :: .literal text :: rest := ahead
    have encloses : Encloses
        [.group .parenthesis ([.word word, .punct '=' joint, .literal text] ++ rest)]
        [.word word, .punct '=' joint, .literal text] := .intro closes
    rw [whole]
    exact ⟨joint, encloses⟩
  · generalize content : source.content = tokens
    rintro ⟨joint, ⟨closes⟩⟩
    rename_i rest
    refine ⟨_, rest, rfl, ?_, List.cons_ne_nil _ _, closes⟩
    have literal : StateT.run Clause.literalText
        ⟨.literal text :: rest, false⟩ = .ok (text, ⟨rest, false⟩) :=
      Clause.run_literalText (Literal.known_of_string? string) rest false
    have apart : Ahead.mark "::" (.punct '=' joint :: .literal text :: rest) =
        false := Ahead.not_colons (by decide) joint _
    exact (Clause.run_reader_word untrue apart false).trans
      (Clause.run_afterPath_equals literal)

end Attribute

/-- The tokens that give the text of a string literal as the length of an
array. -/
inductive GivesLength : List Token → String → Prop
  | intro {joint : Bool} {text value : String}
      (string : Literal.string? text = some value) :
      GivesLength [.word "push_slice", .punct '=' joint, .literal text] value

namespace Role

/-- The clauses that stand for roles. -/
inductive Spelled : List Token → Role → Prop
  | push : Spelled [.word "push"] .push
  | string : Spelled [.word "string"] .string
  | null : Spelled [.word "null"] .null
  | pushSlice {clause : List Token} {value : String} {length : Member}
      (gives : GivesLength clause value) (names : Member.Names value length) :
      Spelled clause (.pushSlice length)

/-- What is wrong with an attribute that spells no role. Literals of unknown
kinds are faults of their own, in the attribute as in the length. -/
inductive Misspelt (source : Attribute) : DeriveFault → Prop
  | malformed {refusal : Refusal} (refused : source.clause = .error refusal)
      (known : ∀ text, refusal ≠ .unknownLiteral text) :
      Misspelt source .malformed
  | unknownLiteral {text : String}
      (refused : source.clause = .error (.unknownLiteral text)) :
      Misspelt source (.refused (.unknownLiteral text))
  | lengthMember {clause : List Token} {value : String}
      (encloses : Encloses source.content clause)
      (gives : GivesLength clause value)
      (unnamed : ∀ length, ¬Member.Names value length)
      (known : ∀ literal, ¬Member.Breaks value literal) :
      Misspelt source .lengthMember
  | lengthLiteral {clause : List Token} {value literal : String}
      (encloses : Encloses source.content clause)
      (gives : GivesLength clause value)
      (breaks : Member.Breaks value literal) :
      Misspelt source (.refused (.unknownLiteral literal))
  | unknownForm {form : Clause} (parsed : source.clause = .ok form)
      (unspelled : ∀ clause, Encloses source.content clause →
        (∀ role, ¬Spelled clause role) ∧ ∀ value, ¬GivesLength clause value) :
      Misspelt source .unknownForm

inductive OfClause : Clause → Except DeriveFault Role → Prop
  | push : OfClause (.path ⟨false, ["push"]⟩) (.ok .push)
  | string : OfClause (.path ⟨false, ["string"]⟩) (.ok .string)
  | null : OfClause (.path ⟨false, ["null"]⟩) (.ok .null)
  | pushSlice {text value : String}
      (string : Literal.string? text = some value) :
      OfClause (.assign ⟨false, ["push_slice"]⟩ text)
        ((Member.read value).map .pushSlice)
  | other {clause : Clause}
      (word : ∀ word ∈ ["push", "string", "null"],
        clause ≠ .path ⟨false, [word]⟩)
      (length : ∀ text value, Literal.string? text = some value →
        clause ≠ .assign ⟨false, ["push_slice"]⟩ text) :
      OfClause clause (.error .unknownForm)

theorem ofClause_outcome (clause : Clause) :
    OfClause clause (ofClause clause) := by
  cases clause with
  | literal text => exact .other (by simp) (by simp)
  | list path clauses => exact .other (by simp) (by simp)
  | path path =>
      rw [ofClause]
      split
      · rename_i same
        rw [Path.is_iff.mp same]
        exact .push
      · split
        · rename_i same
          rw [Path.is_iff.mp same]
          exact .string
        · split
          · rename_i same
            rw [Path.is_iff.mp same]
            exact .null
          · rename_i push string null
            rw [Path.is_iff] at push string null
            exact .other (by simpa using ⟨push, string, null⟩) (by simp)
  | assign path text =>
      rw [ofClause]
      split
      · rename_i value string
        split
        · rename_i same
          rw [Path.is_iff.mp same]
          exact .pushSlice string
        · rename_i different
          refine .other (by simp) fun text value _ same => different ?_
          rw [(Clause.assign.inj same).1]
          exact Path.is_iff.mpr rfl
      · rename_i none
        refine .other (by simp) fun other value string same => ?_
        rw [← (Clause.assign.inj same).2, none] at string
        cases string

inductive Outcome (source : Attribute) : Except DeriveFault Role → Prop
  | spelled {clause : List Token} {role : Role}
      (encloses : Encloses source.content clause)
      (spelled : Spelled clause role) : Outcome source (.ok role)
  | misspelt {fault : DeriveFault} (misspelt : Misspelt source fault) :
      Outcome source (.error fault)

section Attributes

variable {source : Attribute} {clause : List Token}

theorem ofAttribute_of_word {word : String}
    (untrue : word ≠ "true" ∧ word ≠ "false")
    (encloses : Encloses source.content [.word word]) :
    ofAttribute source = ofClause (.path ⟨false, [word]⟩) := by
  obtain ⟨path, parsed⟩ := (Attribute.clause_word_iff untrue).mpr encloses
  rw [ofAttribute, parsed]

theorem ofAttribute_of_givesLength {value : String}
    (encloses : Encloses source.content clause)
    (gives : GivesLength clause value) :
    ofAttribute source = (Member.read value).map .pushSlice := by
  obtain ⟨string⟩ := gives
  obtain ⟨path, parsed⟩ :=
    (Attribute.clause_assign_iff (by decide) string).mpr ⟨_, encloses⟩
  rw [ofAttribute, parsed]
  simp [ofClause, string, Path.is]

theorem ofAttribute_of_spelled {role : Role}
    (encloses : Encloses source.content clause)
    (spelled : Spelled clause role) : ofAttribute source = .ok role := by
  cases spelled with
  | push => exact ofAttribute_of_word (by decide) encloses
  | string => exact ofAttribute_of_word (by decide) encloses
  | null => exact ofAttribute_of_word (by decide) encloses
  | pushSlice gives names =>
      rw [ofAttribute_of_givesLength encloses gives,
        Member.read_of_names names]
      rfl

theorem misspelt_unknownForm {form : Clause}
    (parsed : source.clause = .ok form)
    (failed : ofAttribute source = .error .unknownForm) :
    Misspelt source .unknownForm := by
  refine .unknownForm parsed fun clause encloses => ⟨?_, ?_⟩
  · intro role spelled
    rw [ofAttribute_of_spelled encloses spelled] at failed
    cases failed
  · intro value gives
    rw [ofAttribute_of_givesLength encloses gives] at failed
    generalize answer : Member.read value = read at failed
    have came := Member.readingText value
    rw [answer] at came
    cases came with
    | member names => cases failed
    | breaks breaks => cases failed
    | refused unnamed known => cases failed

theorem outcome_single {path : Path} {form : Clause}
    (parsed : source.clause = .ok (.list path [form])) :
    Outcome source (ofClause form) := by
  have whole : ofAttribute source = ofClause form := by
    rw [ofAttribute, parsed]
  generalize answer : ofClause form = made at whole
  have stands := ofClause_outcome form
  rw [answer] at stands
  cases stands with
  | push =>
      have encloses := (Attribute.clause_word_iff (by decide)).mp ⟨path, parsed⟩
      exact .spelled encloses .push
  | string =>
      have encloses := (Attribute.clause_word_iff (by decide)).mp ⟨path, parsed⟩
      exact .spelled encloses .string
  | null =>
      have encloses := (Attribute.clause_word_iff (by decide)).mp ⟨path, parsed⟩
      exact .spelled encloses .null
  | @pushSlice text value string =>
      obtain ⟨joint, encloses⟩ :=
        (Attribute.clause_assign_iff (by decide) string).mp ⟨path, parsed⟩
      have came := Member.readingText value
      generalize Member.read value = read at came
      cases came with
      | member names => exact .spelled encloses (.pushSlice ⟨string⟩ names)
      | breaks breaks =>
          exact .misspelt (.lengthLiteral encloses ⟨string⟩ breaks)
      | refused unnamed known =>
          exact .misspelt (.lengthMember encloses ⟨string⟩ unnamed known)
  | other word length => exact .misspelt (misspelt_unknownForm parsed whole)

theorem outcome (source : Attribute) : Outcome source (ofAttribute source) := by
  cases parsed : source.clause with
  | error refusal =>
      rw [ofAttribute, parsed]
      simp only [DeriveFault.ofRefusal]
      split
      · rename_i fatal
        obtain ⟨text, rfl⟩ := Attribute.unknownLiteral_of_isFatal parsed fatal
        exact .misspelt (.unknownLiteral parsed)
      · rename_i survives
        refine .misspelt (.malformed parsed fun text same => survives ?_)
        rw [same]
        rfl
  | ok form =>
      by_cases failed : ofAttribute source = .error .unknownForm
      · rw [failed]
        exact .misspelt (misspelt_unknownForm parsed failed)
      · -- Only a list of one clause is left.
        rw [ofAttribute, parsed] at failed ⊢
        cases form with
        | literal text => exact absurd rfl failed
        | path path => exact absurd rfl failed
        | assign path text => exact absurd rfl failed
        | list path clauses =>
            cases clauses with
            | nil => exact absurd rfl failed
            | cons form others =>
                cases others with
                | nil => exact outcome_single parsed
                | cons second others => exact absurd rfl failed

theorem ofAttribute_eq_ok_iff {role : Role} :
    ofAttribute source = .ok role ↔
      ∃ clause, Encloses source.content clause ∧ Spelled clause role := by
  constructor
  · intro made
    have came := outcome source
    rw [made] at came
    cases came with
    | spelled encloses spelled => exact ⟨_, encloses, spelled⟩
  · rintro ⟨clause, encloses, spelled⟩
    exact ofAttribute_of_spelled encloses spelled

theorem ofAttribute_of_misspelt {fault : DeriveFault}
    (misspelt : Misspelt source fault) :
    ofAttribute source = .error fault := by
  cases misspelt with
  | @malformed refusal refused known =>
      have survives : refusal.isFatal = false := by
        cases fatal : refusal.isFatal with
        | false => rfl
        | true =>
            obtain ⟨text, same⟩ :=
              Attribute.unknownLiteral_of_isFatal refused fatal
            exact absurd same (known text)
      rw [ofAttribute, refused]
      simp only [DeriveFault.ofRefusal_of_survives survives]
  | unknownLiteral refused =>
      rw [ofAttribute, refused]
      rfl
  | lengthMember encloses gives unnamed known =>
      rw [ofAttribute_of_givesLength encloses gives,
        Member.read_of_unnamed unnamed known]
      rfl
  | lengthLiteral encloses gives breaks =>
      rw [ofAttribute_of_givesLength encloses gives,
        Member.read_of_breaks breaks]
      rfl
  | unknownForm parsed unspelled =>
      generalize answer : ofAttribute source = made
      have came := outcome source
      rw [answer] at came
      cases came with
      | spelled encloses spelled =>
          exact absurd spelled ((unspelled _ encloses).1 _)
      | misspelt misspelt =>
          cases misspelt with
          | malformed refused known => cases parsed.symm.trans refused
          | unknownLiteral refused => cases parsed.symm.trans refused
          | lengthMember encloses gives unnamed known =>
              exact absurd gives ((unspelled _ encloses).2 _)
          | lengthLiteral encloses gives breaks =>
              exact absurd gives ((unspelled _ encloses).2 _)
          | unknownForm _ _ => rfl

theorem ofAttribute_eq_error_iff {fault : DeriveFault} :
    ofAttribute source = .error fault ↔ Misspelt source fault := by
  constructor
  · intro failed
    have came := outcome source
    rw [failed] at came
    cases came with
    | misspelt misspelt => exact misspelt
  · exact ofAttribute_of_misspelt

theorem exists_misspelt_iff :
    (∃ fault, Misspelt source fault) ↔
      ∀ clause role, Encloses source.content clause →
        ¬Spelled clause role := by
  constructor
  · rintro ⟨fault, misspelt⟩ clause role encloses spelled
    have failed := ofAttribute_eq_error_iff.mpr misspelt
    rw [ofAttribute_eq_ok_iff.mpr ⟨clause, encloses, spelled⟩] at failed
    cases failed
  · intro unspelled
    have came := outcome source
    generalize ofAttribute source = made at came
    cases came with
    | spelled encloses spelled => exact absurd spelled (unspelled _ _ encloses)
    | misspelt misspelt => exact ⟨_, misspelt⟩

end Attributes

end Role

end Derive

end FlatGraph
