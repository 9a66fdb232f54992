import Mathlib.Data.List.Basic
import FlatGraph.Proofs.Derive.Reading
import FlatGraph.Derive.Implementation

namespace FlatGraph

namespace Derive

/-- Entries of which each but the last is followed by a separator. -/
inductive Separated {α : Type} : List (α × Bool) → Prop
  | nil : Separated []
  | last (entry : α × Bool) : Separated [entry]
  | cons (value : α) {rest : List (α × Bool)} (separated : Separated rest) :
      Separated ((value, true) :: rest)

namespace Reader

variable {α : Type} {reader : Reader α} {ends : List Token → Bool}
  {separator : String} {before after : Progress} {entries : List (α × Bool)}

theorem separated_of_followingUpTo {value : α} {count : Nat}
    (ran : StateT.run (followingUpTo ends separator reader value count) before =
      .ok (entries, after)) : Separated entries := by
  induction count generalizing value before entries with
  | zero =>
      cases ran
      exact .last _
  | succ count ih =>
      rw [followingUpTo, run_ahead_bind] at ran
      split at ran
      · obtain ⟨_, middle, -, ran⟩ := run_bind_eq_ok_iff.mp ran
        rw [run_ahead_bind] at ran
        split at ran
        · cases ran
          exact .last _
        · obtain ⟨next, _, -, ran⟩ := run_bind_eq_ok_iff.mp ran
          obtain ⟨later, _, more, ran⟩ := run_bind_eq_ok_iff.mp ran
          cases ran
          exact .cons value (ih more)
      · cases ran
        exact .last _

theorem separated_of_list
    (ran : StateT.run (list ends separator reader) before =
      .ok (entries, after)) : Separated entries := by
  rw [list, run_ahead_bind] at ran
  split at ran
  · cases ran
    exact .nil
  · obtain ⟨value, middle, -, ran⟩ := run_bind_eq_ok_iff.mp ran
    rw [following, run_bind_ok (run_tokens _)] at ran
    exact separated_of_followingUpTo ran

/-- What comes after a value of a list: what ends the list, or a comma. -/
def Goes (rest tail : List Token) : Prop :=
  tail = rest ∨ ∃ more, tail = .punct ',' false :: more

structure ReadsEach (reader : Reader α) (render : α → List Token)
    (ends : List Token → Bool) (rest : List Token)
    (entries : List (α × Bool)) : Prop where
  reads : ∀ entry ∈ entries, ∀ tail strays, Goes rest tail →
    StateT.run reader ⟨render entry.1 ++ tail, strays⟩ =
      .ok (entry.1, ⟨tail, strays⟩)
  begins : ∀ entry ∈ entries, ∀ tail, Goes rest tail →
    ends (render entry.1 ++ tail) = false

def commaIf (comma : Bool) : List Token :=
  if comma then [.punct ',' false] else []

def listed (render : α → List Token) (entries : List (α × Bool)) : List Token :=
  entries.flatMap fun entry => render entry.1 ++ commaIf entry.2

section Each

variable {render : α → List Token} {rest : List Token} {strays : Bool}

theorem run_followingUpTo_comma {value : α} {count : Nat}
    {tokens : List Token} :
    StateT.run (followingUpTo ends "," reader value (count + 1))
        ⟨.punct ',' false :: tokens, strays⟩ =
      StateT.run (if ends tokens then return [(value, true)]
        else do
          let next ← reader
          return (value, true) :: (← followingUpTo ends "," reader next count))
        ⟨tokens, strays⟩ := by
  rw [followingUpTo, run_ahead_bind]
  exact (run_bind_ok rfl).trans run_ahead_bind

theorem listed_append (value : α) (comma : Bool) (later : List (α × Bool)) :
    listed render ((value, comma) :: later) ++ rest =
      render value ++ (commaIf comma ++ (listed render later ++ rest)) := by
  simp [listed]

theorem tail_of_separated {value : α} {comma : Bool} {later : List (α × Bool)}
    (separated : Separated ((value, comma) :: later)) :
    Goes rest (commaIf comma ++ (listed render later ++ rest)) := by
  cases comma with
  | true => exact .inr ⟨_, rfl⟩
  | false =>
      cases separated with
      | last => exact .inl rfl

theorem ReadsEach.tail {first : α × Bool} {later : List (α × Bool)}
    (each : ReadsEach reader render ends rest (first :: later)) :
    ReadsEach reader render ends rest later :=
  ⟨fun entry member => each.reads entry (.tail _ member),
    fun entry member => each.begins entry (.tail _ member)⟩

theorem ReadsEach.head {value : α} {comma : Bool} {later : List (α × Bool)}
    (each : ReadsEach reader render ends rest ((value, comma) :: later))
    (separated : Separated ((value, comma) :: later)) (strays : Bool) :
    StateT.run reader
        ⟨render value ++ (commaIf comma ++ (listed render later ++ rest)), strays⟩ =
      .ok (value, ⟨commaIf comma ++ (listed render later ++ rest), strays⟩) :=
  each.reads (value, comma) (.head _) _ strays (tail_of_separated separated)

theorem ReadsEach.begins_head {value : α} {comma : Bool}
    {later : List (α × Bool)}
    (each : ReadsEach reader render ends rest ((value, comma) :: later))
    (separated : Separated ((value, comma) :: later)) :
    ends (render value ++ (commaIf comma ++ (listed render later ++ rest))) =
      false :=
  each.begins (value, comma) (.head _) _ (tail_of_separated separated)

theorem run_followingUpTo_listed {value : α} {comma : Bool} {count : Nat}
    (ended : ends rest = true) (apart : Ahead.mark "," rest = false)
    (separated : Separated ((value, comma) :: entries))
    (each : ReadsEach reader render ends rest entries)
    (enough : (commaIf comma ++ (listed render entries ++ rest)).length ≤ count) :
    StateT.run (followingUpTo ends "," reader value count)
        ⟨commaIf comma ++ (listed render entries ++ rest), strays⟩ =
      .ok ((value, comma) :: entries, ⟨rest, strays⟩) := by
  induction entries generalizing value comma count with
  | nil =>
      cases comma with
      | false => exact run_followingUpTo_missed apart count
      | true =>
          cases count with
          | zero => cases enough
          | succ count =>
              refine run_followingUpTo_comma.trans ?_
              change StateT.run (if ends rest = true then _ else _)
                (Progress.mk rest strays) = _
              rw [if_pos ended]
              rfl
  | cons next later ih =>
      obtain ⟨next, more⟩ := next
      cases separated with
      | cons _ separated =>
          cases count with
          | zero => cases enough
          | succ count =>
              have begins := each.begins_head separated
              rw [listed_append] at enough ⊢
              refine run_followingUpTo_comma.trans ?_
              change StateT.run (if ends (render next ++ _) = true then _ else _)
                (Progress.mk (render next ++ _) strays) = _
              rw [if_neg (by simp [begins])]
              have fewer : (commaIf more ++ (listed render later ++ rest)).length ≤
                  count := by
                simp only [List.length_append] at enough ⊢
                simp only [commaIf, if_true, List.length_singleton] at enough ⊢
                omega
              refine (run_bind_ok (each.head separated strays)).trans ?_
              exact (run_bind_ok (ih separated each.tail fewer)).trans rfl

theorem run_list_listed (ended : ends rest = true)
    (apart : Ahead.mark "," rest = false) (separated : Separated entries)
    (each : ReadsEach reader render ends rest entries) :
    StateT.run (list ends "," reader) ⟨listed render entries ++ rest, strays⟩ =
      .ok (entries, ⟨rest, strays⟩) := by
  rw [list, run_ahead_bind]
  cases entries with
  | nil =>
      change StateT.run (if ends rest = true then _ else _)
        (Progress.mk rest strays) = _
      rw [if_pos ended]
      rfl
  | cons first later =>
      obtain ⟨value, comma⟩ := first
      have begins := each.begins_head separated
      rw [listed_append]
      change StateT.run (if ends (render value ++ _) = true then _ else _) _ = _
      rw [if_neg (by simp [begins])]
      refine (run_bind_ok (each.head separated strays)).trans ?_
      refine (run_bind_ok (run_tokens _)).trans ?_
      exact run_followingUpTo_listed ended apart separated each.tail (Nat.le_refl _)

end Each

end Reader

theorem Separated.of_append {α : Type} {front back : List (α × Bool)}
    (separated : Separated (front ++ back)) (some : back ≠ []) :
    ∀ entry ∈ front, entry.2 = true := by
  induction front with
  | nil => simp
  | cons first front ih =>
      generalize whole : first :: front ++ back = entries at separated
      cases separated with
      | nil => cases whole
      | last entry =>
          obtain ⟨-, none⟩ := List.cons.inj whole
          exact absurd (List.append_eq_nil_iff.mp none).2 some
      | cons value separated =>
          obtain ⟨rfl, rfl⟩ := List.cons.inj whole
          exact List.forall_mem_cons.mpr ⟨rfl, ih separated⟩

theorem arranged_of_sorted {α : Type} {isFirst : α → Bool}
    (render : α → List Token) {entries : List (α × Bool)}
    (separated : Separated entries)
    (sorted : entries.filter (fun entry => isFirst entry.1) ++
      entries.filter (fun entry => !isFirst entry.1) = entries) :
    Listed.arranged isFirst (Token.mark [',']) render entries =
      Reader.listed render entries := by
  rw [Listed.arranged]
  rw [← sorted] at separated
  have whole := congrArg (Reader.listed render) sorted
  generalize entries.filter (fun entry => isFirst entry.1) = front at *
  generalize entries.filter (fun entry => !isFirst entry.1) = back at *
  rw [← whole]
  have gap : (!back.isEmpty && front.getLast?.any fun entry => !entry.2) =
      false := by
    cases back with
    | nil => rfl
    | cons entry back =>
        have all := separated.of_append (List.cons_ne_nil entry back)
        cases ends : front.getLast? with
        | none => rfl
        | some last => simp [all last (List.mem_of_getLast? ends)]
  simp [gap, Reader.listed, Reader.commaIf, Token.mark]

/-- Codes with a comma between each two, and one after the last if it is
asked for. -/
def commaSeparated (codes : List Code) (trailing : Bool) : Code :=
  (codes.intersperse [","]).flatten ++ if trailing then [","] else []

def angled (codes : List Code) (trailing : Bool) : Code :=
  if codes = [] then [] else "<" :: commaSeparated codes trailing ++ [">"]

def isTrailed {α : Type} (entries : List (α × Bool)) : Bool :=
  entries.getLast?.any (·.2)

section Listed

variable {α : Type}

theorem commaSeparated_cons {first : Code} {codes : List Code} {trailing : Bool}
    (some : codes ≠ []) :
    commaSeparated (first :: codes) trailing =
      first ++ "," :: commaSeparated codes trailing := by
  cases codes with
  | nil => exact absurd rfl some
  | cons second codes => simp [commaSeparated]

theorem flatMap_of_separated (render : α → Code) {entries : List (α × Bool)}
    (separated : Separated entries) :
    (entries.flatMap fun entry =>
        render entry.1 ++ if entry.2 then [","] else []) =
      commaSeparated (entries.map fun entry => render entry.1)
        (isTrailed entries) := by
  induction separated with
  | nil => rfl
  | last entry =>
      obtain ⟨value, trailed⟩ := entry
      cases trailed <;> simp [commaSeparated, isTrailed]
  | @cons value rest separated ih =>
      cases rest with
      | nil => simp [commaSeparated, isTrailed]
      | cons second rest =>
          have some : (second :: rest).map (fun entry => render entry.1) ≠ [] :=
            List.cons_ne_nil _ _
          rw [List.flatMap_cons, ih]
          change _ = commaSeparated (render value ::
            (second :: rest).map fun entry => render entry.1) _
          rw [commaSeparated_cons some]
          simp [isTrailed]

theorem commaSeparated_append {front back : List Code} {trailing : Bool}
    (some : back ≠ []) :
    commaSeparated (front ++ back) trailing =
      commaSeparated front (!front.isEmpty) ++ commaSeparated back trailing := by
  induction front with
  | nil => rfl
  | cons first front ih =>
      rw [List.cons_append, commaSeparated_cons (by simp [some]), ih]
      cases front with
      | nil => simp [commaSeparated]
      | cons second front =>
          rw [commaSeparated_cons (List.cons_ne_nil _ _)]
          simp

theorem Separated.filter {entries : List (α × Bool)}
    (separated : Separated entries) (test : α → Bool) :
    Separated (entries.filter fun entry => test entry.1) := by
  induction separated with
  | nil => exact .nil
  | last entry =>
      rw [List.filter_singleton]
      cases test entry.1 with
      | true => exact .last entry
      | false => exact .nil
  | cons value separated ih =>
      rw [List.filter_cons]
      split
      · exact .cons value ih
      · exact ih

/-- The comma between the parts is there already if the first one ends in
one. -/
theorem commaSeparated_gap (render : α → Code) (front : List (α × Bool)) :
    commaSeparated (front.map fun entry => render entry.1) (isTrailed front) ++
        (if (front.getLast?.any fun entry => !entry.2) = true then [","] else []) =
      commaSeparated (front.map fun entry => render entry.1) (!front.isEmpty) := by
  rcases List.eq_nil_or_concat front with rfl | ⟨init, ⟨value, trailed⟩, rfl⟩
  · rfl
  · cases trailed <;> simp [commaSeparated, isTrailed]

theorem arranged_eq (render : α → Code) (isFirst : α → Bool)
    {entries : List (α × Bool)} (separated : Separated entries) :
    Listed.arranged isFirst [","] render entries =
      commaSeparated
        ((entries.filter (fun entry => isFirst entry.1) ++
          entries.filter fun entry => !isFirst entry.1).map
            fun entry => render entry.1)
        (isTrailed (entries.filter (fun entry => isFirst entry.1) ++
          entries.filter fun entry => !isFirst entry.1)) := by
  rw [Listed.arranged]
  have first := flatMap_of_separated render (separated.filter isFirst)
  have second := flatMap_of_separated render
    (separated.filter fun value => !isFirst value)
  generalize entries.filter (fun entry => isFirst entry.1) = front at first ⊢
  generalize entries.filter (fun entry => !isFirst entry.1) = back at second ⊢
  simp only [first, second]
  cases back with
  | nil =>
      rw [List.append_nil]
      exact (List.append_nil _).trans (List.append_nil _)
  | cons entry back =>
      have behind : isTrailed (front ++ entry :: back) =
          isTrailed (entry :: back) := by
        rw [isTrailed, isTrailed,
          List.getLast?_append_of_ne_nil _ (List.cons_ne_nil _ _)]
      rw [List.map_append, commaSeparated_append (by simp), behind,
        List.isEmpty_map, ← commaSeparated_gap]
      rfl

end Listed

end Derive

end FlatGraph
