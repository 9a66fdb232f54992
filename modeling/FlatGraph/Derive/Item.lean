import FlatGraph.Derive.Grammar.Predicate
import FlatGraph.Derive.Lexer

/-!
Structure declarations: a name, generic parameters with their conditions, and
fields with attributes.
-/

namespace FlatGraph

namespace Derive

structure Field where
  attributes : List Attribute
  /-- A field without a name is known by its place among all fields. -/
  name : Option String
  type : List Token

/-- A generic parameter. Defaults are not kept: they have no place outside the
declaration itself. -/
inductive Parameter where
  | lifetime (attributes : List Token) (name : String) (bounds : List Token)
  | type (attributes : List Token) (name : String) (bounds : List Token)
  | const (attributes : List Token) (name : String) (type : List Token)

structure Generics where
  parameters : List (Parameter × Bool)
  conditions : List (List Token × Bool)

structure Item where
  name : String
  generics : Generics
  fields : List Field

/-- Passes over what says in parentheses how far `pub` reaches. Other
parentheses are left for what is read next. -/
def dropReach : Reader Unit := do
  match ← Reader.tokens with
  | .group .parenthesis body :: rest =>
      if Ahead.moduleWord body && body.length == 1 then
        Reader.moveTo rest
      else if Ahead.word "in" body then
        Reader.group .parenthesis do
          let _ ← Reader.word "in"
          let _ ← Path.reader Ahead.pathWord
  | _ => return

/-- Passes over a visibility. A path that begins with `crate` is not one. -/
def dropVisibility : Reader Unit := do
  if ← Reader.ahead (Ahead.word "pub") then
    let _ ← Reader.any
    dropReach
  else if (← Reader.ahead (Ahead.word "crate")) &&
      !(← Reader.ahead (Ahead.beyond 1 (Ahead.mark "::"))) then
    let _ ← Reader.any

namespace Field

def named (grammar : Grammar) : Reader Field := do
  let attributes ← Attribute.all
  dropVisibility
  let name ← if ← Reader.ahead (Ahead.word "_") then Reader.anyWord
    else Reader.name
  let _ ← Reader.mark ":"
  return ⟨attributes, some name, (← grammar.type true).tokens⟩

def unnamed (grammar : Grammar) : Reader Field := do
  let attributes ← Attribute.all
  dropVisibility
  return ⟨attributes, none, (← grammar.type true).tokens⟩

end Field

namespace Parameter

def typeBound (grammar : Grammar) : Reader (Grammar.Bound × Bool) := do
  let constant (tokens : List Token) : Bool :=
    Ahead.mark "~" tokens && Ahead.beyond 1 (Ahead.word "const") tokens
  if ← Reader.ahead constant then
    let _ ← Reader.mark "~"
    let _ ← Reader.word "const"
    return (← Grammar.bound grammar, true)
  else return (← Grammar.bound grammar, false)

/-- The bounds of a type parameter. All are given up if one of them holds in
constants only. -/
def typeBounds (grammar : Grammar) : Reader (List Token) := do
  let ends (tokens : List Token) : Bool :=
    Ahead.mark "," tokens || Ahead.mark ">" tokens || Ahead.mark "=" tokens
  if ← Reader.ahead (Ahead.mark ":") then
    let _ ← Reader.mark ":"
    let bounds ← Reader.list ends "+" (typeBound grammar)
    if bounds.any (·.1.2) then return []
    else
      return Grammar.boundTokens (bounds.map fun entry => (entry.1.1, entry.2))
  else return []

def dropDefault {α : Type} (reader : Reader α) : Reader Unit := do
  if ← Reader.ahead (Ahead.mark "=") then
    let _ ← Reader.mark "="
    let _ ← reader

def reader (grammar : Grammar) : Reader Parameter := do
  let attributes ← Attribute.tokens
  if ← Reader.ahead Ahead.lifetime then
    let found ← Grammar.boundedLifetime
    return .lifetime attributes found.1 found.2
  else if ← Reader.ahead (Ahead.word "const") then
    let _ ← Reader.word "const"
    let name ← Reader.name
    let _ ← Reader.mark ":"
    let type ← grammar.type true
    dropDefault (Grammar.constant grammar)
    return .const attributes name type.tokens
  else if ← Reader.ahead (Ahead.word "_") then
    return .type attributes (← Reader.anyWord) []
  else
    let name ← Reader.name
    let bounds ← typeBounds grammar
    dropDefault (grammar.type true)
    return .type attributes name bounds

def name : Parameter → String
  | .lifetime _ name _ => name
  | .type _ name _ => name
  | .const _ name _ => name

def isLifetime : Parameter → Bool
  | .lifetime _ _ _ => true
  | _ => false

def isType : Parameter → Bool
  | .type _ _ _ => true
  | _ => false

end Parameter

namespace Generics

def parameterList (grammar : Grammar) : Reader (List (Parameter × Bool)) := do
  if ← Reader.ahead (Ahead.mark "<") then
    let _ ← Reader.mark "<"
    let parameters ←
      Reader.list (Ahead.mark ">") "," (Parameter.reader grammar)
    let _ ← Reader.mark ">"
    return parameters
  else return []

def typeNames (generics : Generics) : List String :=
  ((generics.parameters.map (·.1)).filter Parameter.isType).map Parameter.name

end Generics

namespace Item

/-- The conditions and fields of a declaration. Conditions stand before the
fields in braces, and after the fields in parentheses. -/
def body (grammar : Grammar) :
    Reader (List (List Token × Bool) × List Field) := do
  if ← Reader.ahead (Ahead.group .parenthesis) then
    let fields ← Reader.group .parenthesis
      (Reader.commas (Field.unnamed grammar))
    let conditions ← Grammar.conditions grammar
    let _ ← Reader.mark ";"
    return (conditions, fields.map (·.1))
  else
    let conditions ← Grammar.conditions grammar
    if ← Reader.ahead (Ahead.group .brace) then
      let fields ← Reader.group .brace (Reader.commas (Field.named grammar))
      return (conditions, fields.map (·.1))
    else
      let _ ← Reader.mark ";"
      return (conditions, [])

def reader (grammar : Grammar) : Reader Item := do
  let _ ← Attribute.tokens
  dropVisibility
  let _ ← Reader.word "struct"
  let name ← Reader.name
  let parameters ← Generics.parameterList grammar
  let (conditions, fields) ← body grammar
  return ⟨name, ⟨parameters, conditions⟩, fields⟩

def ofTokens (tokens : List Token) : Except Refusal Item :=
  Reader.run (reader (Grammar.ofTokens tokens)) tokens

def read (text : String) : Except Refusal Item :=
  match Token.read? text with
  | some tokens => ofTokens tokens
  | none => .error .unexpectedToken

end Item

end Derive

end FlatGraph
