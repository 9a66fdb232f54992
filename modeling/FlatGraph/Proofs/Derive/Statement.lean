import Mathlib.Data.List.Basic
import FlatGraph.Derive.Implementation

/-!
What the statements for a field do, as it is read back from their code. Only
code in front of the field's type is read, so that no type, whatever it
holds, is mistaken for the statement that it stands in.
-/

namespace FlatGraph

namespace Derive

inductive Reach where
  | nothing
  | one
  | many (length : String)
  deriving DecidableEq

def Role.reach : Role → Reach
  | .push => .one
  | .pushSlice length => .many length.text
  | .string => .nothing
  | .null => .nothing

/-- A field by its text in code, and what is gone through behind it. -/
structure Subject where
  member : String
  reach : Reach
  deriving DecidableEq

def Annotated.subject (field : Annotated) : Subject :=
  ⟨field.member.text, field.role.reach⟩

namespace Statement

def after (front : Code) (statement : Code) : Option (String × Code) :=
  match statement.dropPrefix? front with
  | some (piece :: rest) => some (piece, rest)
  | _ => none

theorem after_append (front : Code) (piece : String) (rest : Code) :
    after front (front ++ piece :: rest) = some (piece, rest) := by
  rw [after, List.dropPrefix?_append_of_beq _ (beq_self_eq_true front)]

theorem after_missed {first other : String} (differ : first ≠ other)
    (front statement : Code) :
    after (first :: front) (other :: statement) = none := by
  rw [after, List.dropPrefix?, if_neg]
  simpa using differ.symm

def manyMiddle : Code :=
  code ", len ) ? \x7b let first =" ++ runtime "PtrField" ++
    code ": : target_addr ( & self ."

def flattensMany? (statement : Code) : Option Subject :=
  (after (code "\x7b let len = self .") statement).bind fun length =>
    (after (code "as usize ; if serializer . push_slice ( & self .")
      length.2).bind fun pushed =>
        (after manyMiddle pushed.2).bind fun first =>
          if first.1 = pushed.1 then some ⟨pushed.1, .many length.1⟩ else none

/-- Reads a statement that flattens: what it is about, and the label of the
role that it gives the field. -/
def flattens? (statement : Code) : Option (Subject × String) :=
  match after ["serializer", "."] statement with
  | some (method, rest) =>
      (after ["(", "&", "self", "."] rest).bind fun found =>
        if method = "push_and_process" then some (⟨found.1, .one⟩, "push")
        else if method = "add_string" then some (⟨found.1, .nothing⟩, "string")
        else if method = "set_null" then some (⟨found.1, .nothing⟩, "null")
        else none
  | none => (flattensMany? statement).map (·, "push_slice")

def slotFront : Code :=
  runtime "resolve_in_place" ++
    code "( this , : : core : : ptr : : addr_of_mut ! ( ( * this ) ."

def slotBack : Code :=
  ")" :: code ", ) ; let addr =" ++ runtime "PtrField" ++
    code ": : target_addr ( & target ) ; if addr ! = 0 \x7b"

def reach? (rest : Code) : Option Reach :=
  match after ["let", "len", "=", "(", "*", "this", ")", "."] rest with
  | some (length, _) => some (.many length)
  | none => if rest.head? = some "<" then some .one else none

def resolves? (statement : Code) : Option Subject :=
  match after slotFront statement with
  | some (member, _) => some ⟨member, .nothing⟩
  | none =>
      (after (["\x7b", "let", "target", "="] ++ slotFront) statement).bind
        fun found =>
          ((found.2.dropPrefix? slotBack).bind reach?).map fun reach =>
            ⟨found.1, reach⟩

/-- The code in a line, by its characters: a text is easier to evaluate when
it is made of them. -/
theorem code_ofList (cs : List Char) :
    code (String.ofList cs) = (cs.splitOn ' ').map String.ofList := by
  rw [code, String.toList_ofList]

theorem flattensMany?_append (length member : String) (rest : Code) :
    flattensMany? (code "\x7b let len = self ." ++ length ::
      (code "as usize ; if serializer . push_slice ( & self ." ++
        member :: (manyMiddle ++ member :: rest))) =
      some ⟨member, .many length⟩ := by
  rw [flattensMany?, after_append, Option.bind_some, after_append,
    Option.bind_some, after_append, Option.bind_some, if_pos rfl]

theorem flattens?_serialize (field : Annotated) :
    flattens? field.serializeStatement =
      some (field.subject, field.role.label) := by
  obtain ⟨member, type, role⟩ := field
  cases role with
  | push =>
      have front : code "serializer . push_and_process ( & self ." = _ :=
        code_ofList _
      rw [Annotated.serializeStatement, front]
      rfl
  | pushSlice length =>
      have front : code "\x7b let len = self ." =
          "\x7b" :: code "let len = self ." := by
        rw [code_ofList, code_ofList]
        rfl
      have missed (rest : Code) : after ["serializer", "."]
          (code "\x7b let len = self ." ++ rest) = none := by
        rw [front]
        exact after_missed (by decide) _ _
      have read := flattensMany?_append length.text member.text
      simp only [manyMiddle, List.append_assoc] at read
      simp only [Annotated.serializeStatement, List.append_assoc,
        List.cons_append]
      rw [flattens?, missed, read]
      rfl
  | string =>
      have front : code "serializer . add_string ( & self ." = _ := code_ofList _
      rw [Annotated.serializeStatement, front]
      rfl
  | null =>
      have front : code "serializer . set_null ( & self ." = _ := code_ofList _
      rw [Annotated.serializeStatement, front]
      rfl

theorem resolveSlot_eq (field : Annotated) :
    field.resolveSlot = slotFront ++ [field.member.text, ")"] := rfl

theorem resolves?_slot (member : String) (rest : Code) :
    resolves? (slotFront ++ member :: rest) = some ⟨member, .nothing⟩ := by
  rw [resolves?, after_append]

theorem resolves?_target (field : Annotated) (rest : Code) :
    resolves? (code "\x7b let target =" ++ field.resolveSlot ++
        code ", ) ; let addr =" ++ runtime "PtrField" ++
        code ": : target_addr ( & target ) ; if addr ! = 0 \x7b" ++ rest) =
      (reach? rest).map (⟨field.member.text, ·⟩) := by
  have front : code "\x7b let target =" = ["\x7b", "let", "target", "="] :=
    (code_ofList _).trans rfl
  have whole : code "\x7b let target =" ++ field.resolveSlot ++
        code ", ) ; let addr =" ++ runtime "PtrField" ++
        code ": : target_addr ( & target ) ; if addr ! = 0 \x7b" ++ rest =
      ["\x7b", "let", "target", "="] ++ slotFront ++
        field.member.text :: (slotBack ++ rest) := by
    simp only [front, resolveSlot_eq, slotBack, List.append_assoc,
      List.cons_append, List.nil_append]
  have missed : after slotFront (["\x7b", "let", "target", "="] ++ slotFront ++
      field.member.text :: (slotBack ++ rest)) = none :=
    after_missed (by decide) _ _
  rw [whole, resolves?, missed, after_append, Option.bind_some,
    List.dropPrefix?_append_of_beq _ (beq_self_eq_true slotBack),
    Option.bind_some]

theorem resolves?_resolve (field : Annotated) :
    resolves? field.resolveStatement = some field.subject := by
  obtain ⟨member, type, role⟩ := field
  cases role with
  | push =>
      have read := resolves?_target ⟨member, type, .push⟩
      simp only [Annotated.resolveStatement, List.append_assoc] at read ⊢
      rw [read]
      rfl
  | pushSlice length =>
      have read := resolves?_target ⟨member, type, .pushSlice length⟩
      have front : code "let len = ( * this ) ." =
          ["let", "len", "=", "(", "*", "this", ")", "."] :=
        (code_ofList _).trans rfl
      simp only [Annotated.resolveStatement, List.append_assoc] at read ⊢
      rw [read, front]
      rfl
  | string =>
      simp only [Annotated.resolveStatement, resolveSlot_eq, List.append_assoc]
      exact resolves?_slot member.text _
  | null =>
      simp only [Annotated.resolveStatement, resolveSlot_eq, List.append_assoc]
      exact resolves?_slot member.text _

end Statement

end Derive

end FlatGraph
