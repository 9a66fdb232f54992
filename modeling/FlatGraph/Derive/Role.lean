import FlatGraph.Derive.Item

/-!
The role of a pointer field, as its attribute gives it: how what lies behind
the field is flattened. A field without the attribute is plain data.
-/

namespace FlatGraph

namespace Derive

inductive Member where
  | named (name : String)
  | index (place : Nat)
  deriving DecidableEq, Repr

def Member.text : Member → String
  | .named name => name
  | .index place => toString place

inductive Role where
  | push
  /-- An array whose length is in another field. -/
  | pushSlice (length : Member)
  | string
  | null
  deriving DecidableEq, Repr

inductive DeriveFault where
  | duplicate
  | malformed
  | lengthMember
  | unknownForm
  | refused (refusal : Refusal)
  deriving DecidableEq, Repr

def DeriveFault.message : DeriveFault → String
  | .duplicate => "Cannot have more than 1 `#[ser]` attribute on a field"
  | .malformed => "Malformed `ser` attr"
  | .lengthMember =>
      "`push_slice` needs a field name e.g. `#[ser(push_slice = \"len\")]`"
  | .unknownForm =>
      "`#[ser]` attr must be `#[ser(push)]`, `#[ser(push_slice = \"len\")]`, " ++
        "`#[ser(string)]` or `#[ser(null)]`"
  | .refused refusal => refusal.message

/-- The fault for tokens that were refused: a fatal refusal stays itself. -/
def DeriveFault.ofRefusal (fault : DeriveFault) (refusal : Refusal) :
    DeriveFault :=
  if refusal.isFatal then .refused refusal else fault

namespace Member

def reader : Reader Member := do
  if ← Reader.ahead Ahead.name then return .named (← Reader.name)
  else
    match ← Reader.literal with
    | [.literal digits] =>
        match Literal.place? digits with
        | some place => return .index place
        | none => Reader.refuse .unexpectedToken
    | _ => Reader.refuse .unexpectedToken

def read (text : String) : Except DeriveFault Member :=
  match Token.read? text with
  | some tokens =>
      (Reader.run reader tokens).mapError (DeriveFault.ofRefusal .lengthMember)
  | none => .error .lengthMember

end Member

namespace Role

def isPush : Role → Bool
  | .push => true
  | .pushSlice _ => true
  | .string => false
  | .null => false

def label : Role → String
  | .push => "push"
  | .pushSlice _ => "push_slice"
  | .string => "string"
  | .null => "null"

def length? : Role → Option Member
  | .pushSlice length => some length
  | _ => none

def ofClause : Clause → Except DeriveFault Role
  | .path path =>
      if path.is "push" then .ok .push
      else if path.is "string" then .ok .string
      else if path.is "null" then .ok .null
      else .error .unknownForm
  | .assign path literal =>
      match Literal.string? literal with
      | some text =>
          if path.is "push_slice" then (Member.read text).map .pushSlice
          else .error .unknownForm
      | none => .error .unknownForm
  | _ => .error .unknownForm

def ofAttribute (source : Attribute) : Except DeriveFault Role :=
  match source.clause with
  | .error refusal => .error (DeriveFault.malformed.ofRefusal refusal)
  | .ok (.list _ [clause]) => ofClause clause
  | .ok _ => .error .unknownForm

def ofField (field : Field) : Except DeriveFault (Option Role) :=
  match field.attributes.filter (·.path.is "ser") with
  | [] => .ok none
  | [source] => (ofAttribute source).map some
  | _ => .error .duplicate

end Role

structure Annotated where
  member : Member
  type : List Token
  role : Role

def Field.member (field : Field) (place : Nat) : Member :=
  match field.name with
  | some name => .named name
  | none => .index place

/-- The annotated fields in order, the first of them at the given place. The
first field with a fault decides the fault. -/
def annotatedFrom (place : Nat) :
    List Field → Except DeriveFault (List Annotated)
  | [] => .ok []
  | field :: rest =>
      (Role.ofField field).bind fun role? =>
        (annotatedFrom (place + 1) rest).map fun later =>
          match role? with
          | none => later
          | some role =>
              ⟨field.member place, field.type, role⟩ :: later

def Item.annotated (item : Item) : Except DeriveFault (List Annotated) :=
  annotatedFrom 0 item.fields

def Generics.usedBy (generics : Generics) (type : List Token) : Bool :=
  Token.mentionsAny generics.typeNames type

end Derive

end FlatGraph
