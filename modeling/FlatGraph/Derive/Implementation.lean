import FlatGraph.Derive.Role

/-!
The two implementations generated for a declaration: one that flattens what
its annotated fields lead to, and one that resolves them again. Code is a list
of pieces of text, one for each token.
-/

namespace FlatGraph

namespace Derive

abbrev Code := List String

def code (line : String) : Code :=
  (line.toList.splitOn ' ').map String.ofList

def Code.text (code : Code) : String := " ".intercalate code

inductive Capability where
  | serialize
  | resolve
  deriving DecidableEq, Repr

def Capability.name : Capability → String
  | .serialize => "Serialize"
  | .resolve => "Resolve"

def runtimePath (name : String) : List Token :=
  Token.mark [':', ':'] ++ .word "ser_reloc" :: Token.mark [':', ':'] ++
    [.word name]

def runtime (name : String) : Code :=
  Token.piecesAll (runtimePath name)

namespace Generics

def bounded (name : Code) (bounds : List Token) : Code :=
  if bounds.isEmpty then name else name ++ ":" :: Token.piecesAll bounds

def declaration : Parameter → Code
  | .lifetime attributes name bounds =>
      Token.piecesAll attributes ++ bounded ["'" ++ name] bounds
  | .type attributes name bounds =>
      Token.piecesAll attributes ++ bounded [name] bounds
  | .const attributes name type =>
      Token.piecesAll attributes ++ "const" :: name :: ":" ::
        Token.piecesAll type

def argument : Parameter → Code
  | .lifetime _ name _ => ["'" ++ name]
  | .type _ name _ => [name]
  | .const _ name _ => [name]

def bracketed (generics : Generics) (render : Parameter → Code) : Code :=
  if generics.parameters.isEmpty then []
  else
    "<" :: Listed.arranged Parameter.isLifetime [","] render
      generics.parameters ++ [">"]

def declarations (generics : Generics) : Code :=
  generics.bracketed declaration

def arguments (generics : Generics) : Code :=
  generics.bracketed argument

end Generics

namespace Annotated

def target (field : Annotated) : List Token :=
  Token.mark ['<'] ++ field.type ++ .word "as" :: runtimePath "PtrField" ++
    Token.mark ['>'] ++ Token.mark [':', ':'] ++ [.word "Target"]

def targetType (field : Annotated) : Code :=
  Token.piecesAll field.target

/-- The conditions that a field adds: its type is a pointer, and what it
points to has the capability too. -/
def conditions (capability : Capability) (field : Annotated) :
    List (List Token) :=
  [field.type ++ Token.mark [':'] ++ runtimePath "PtrField",
   field.target ++ Token.mark [':'] ++ runtimePath capability.name]

def serializeStatement (field : Annotated) : Code :=
  let member := field.member.text
  match field.role with
  | .push =>
      code "serializer . push_and_process ( & self ." ++ member ::
        code ", | serializer , target | \x7b" ++ runtime "Serialize" ++
        code ": : serialize_fields ( target , serializer ) \x7d ) ? ;"
  | .pushSlice length =>
      code "\x7b let len = self ." ++ length.text ::
        code "as usize ; if serializer . push_slice ( & self ." ++ member ::
        code ", len ) ? \x7b let first =" ++ runtime "PtrField" ++
        code ": : target_addr ( & self ." ++ member ::
        code ") as * const" ++ field.targetType ++
        code "; for index in 0 . . len \x7b" ++ runtime "Serialize" ++
        code ": : serialize_fields ( & * first . add ( index ) ," ++
        code "serializer ) ? ; \x7d serializer . pop ( ) ? ; \x7d \x7d"
  | .string =>
      code "serializer . add_string ( & self ." ++ member :: code ") ? ;"
  | .null =>
      code "serializer . set_null ( & self ." ++ member :: code ") ? ;"

def resolveSlot (field : Annotated) : Code :=
  runtime "resolve_in_place" ++
    code "( this , : : core : : ptr : : addr_of_mut ! ( ( * this ) ." ++
    [field.member.text, ")"]

def resolveTarget (field : Annotated) : Code :=
  "<" :: field.targetType ++ "as" :: runtime "Resolve" ++
    code "> : : resolve_fields ("

def resolveStatement (field : Annotated) : Code :=
  let found := code "\x7b let target =" ++ field.resolveSlot ++
    code ", ) ; let addr =" ++ runtime "PtrField" ++
    code ": : target_addr ( & target ) ; if addr ! = 0 \x7b"
  match field.role with
  | .push =>
      found ++ field.resolveTarget ++ code "addr as * mut" ++
        field.targetType ++ code ", ) ; \x7d \x7d"
  | .pushSlice length =>
      found ++ code "let len = ( * this ) ." ++ length.text ::
        code "as usize ; let first = addr as * mut" ++ field.targetType ++
        code "; for index in 0 . . len \x7b" ++ field.resolveTarget ++
        code "first . add ( index ) , ) ; \x7d \x7d \x7d"
  | .string => field.resolveSlot ++ code ") ;"
  | .null => field.resolveSlot ++ code ") ;"

def statement : Capability → Annotated → Code
  | .serialize => serializeStatement
  | .resolve => resolveStatement

end Annotated

structure Implementation where
  capability : Capability
  name : String
  generics : Generics
  fields : List Annotated
  added : List (List Token)

namespace Implementation

/-- The conditions that fields add: a field adds some if it is followed and
its type mentions a type parameter. -/
def required (capability : Capability) (generics : Generics)
    (fields : List Annotated) : List (List Token) :=
  (fields.filter fun field =>
    field.role.isPush && generics.usedBy field.type).flatMap
      (Annotated.conditions capability)

/-- A condition in its normal order. Not every type can stand in one: bounds
that end in a plus sign would go on after it, and a block in braces of its own
is no expression. What `for` introduces at the front belongs to the
condition, not to the type. -/
def readCondition (tokens : List Token) : Except DeriveFault (List Token) :=
  (Reader.run (Grammar.predicate (Grammar.ofTokens tokens)) tokens).mapError
    DeriveFault.refused

/-- The implementation for a declaration, if its fields are annotated well and
the added conditions can be read. -/
def derive (capability : Capability) (item : Item) :
    Except DeriveFault Implementation :=
  item.annotated.bind fun fields =>
    ((required capability item.generics fields).mapM readCondition).map
      fun added => ⟨capability, item.name, item.generics, fields, added⟩

def conditions (implementation : Implementation) : List (List Token) :=
  implementation.generics.conditions.map (·.1) ++ implementation.added

def statements (implementation : Implementation) : List Code :=
  implementation.fields.map (Annotated.statement implementation.capability)

/-- The conditions after `where`. The comma that ends the declaration's own
conditions stays last only if none are added. -/
def conditionCode (implementation : Implementation) : Code :=
  if implementation.conditions.isEmpty then []
  else
    let comma := implementation.added.isEmpty &&
      implementation.generics.conditions.getLast?.any (·.2)
    "where" ::
      ((implementation.conditions.map Token.piecesAll).intersperse
        [","]).flatten ++
      if comma then [","] else []

def signature : Capability → Code
  | .serialize =>
      code "unsafe fn serialize_fields ( & self , serializer : & mut" ++
        runtime "Serializer" ++ code ", ) - >" ++ runtime "Result" ++
        code "< ( ) >"
  | .resolve => code "unsafe fn resolve_fields ( this : * mut Self )"

def closing : Capability → Code
  | .serialize => code ": : core : : result : : Result : : Ok ( ( ) )"
  | .resolve => []

def header (implementation : Implementation) : Code :=
  code "# [ automatically_derived ] impl" ++
    implementation.generics.declarations ++
    runtime implementation.capability.name ++
    "for" :: implementation.name :: implementation.generics.arguments ++
    implementation.conditionCode

def body (implementation : Implementation) : Code :=
  implementation.statements.flatten ++ closing implementation.capability

def pieces (implementation : Implementation) : Code :=
  implementation.header ++
    code "\x7b # [ allow ( unused_variables ) ]" ++
    signature implementation.capability ++
    "\x7b" :: implementation.body ++ ["\x7d", "\x7d"]

end Implementation

end Derive

end FlatGraph
