import FlatGraph.Derive.Grammar.Path

/-!
Expressions: operands with operators and conversions between them, in the
order of the text. How the operators bind makes no difference to the tokens.
-/

namespace FlatGraph

namespace Derive

namespace Grammar

def place (digits : String) : Reader (List Token) :=
  match Literal.place? digits with
  | some place => return [.literal (toString place)]
  | none => Reader.refuse .unexpectedToken

def plainMember : Reader (List Token) := do
  if ← Reader.ahead Ahead.name then return [.word (← Reader.name)]
  else
    match ← Reader.literal with
    | [.literal text] => place text
    | _ => Reader.refuse .unexpectedToken

/-- The members after a point. The number `0.1` holds two places, and the
number `0.` a place and the next point. -/
def members : Reader (List Token) := do
  match ← Reader.tokens with
  | .literal text :: _ =>
      if Literal.isKnown text && Literal.isFractional text then
        let _ ← Reader.any
        let parts := text.splitOn "."
        let places ← (parts.filter (· != "")).mapM place
        let found := (places.intersperse (Token.mark ['.'])).flatten
        if parts.getLast? == some "" then
          return found ++ Token.mark ['.'] ++ (← plainMember)
        else return found
      else plainMember
  | _ => plainMember

def beginsSign (tokens : List Token) : Bool :=
  ["*", "!", "-"].any fun sign => Ahead.mark sign tokens

def beginsPath (tokens : List Token) : Bool :=
  Ahead.pathWord tokens || Ahead.mark "::" tokens || Ahead.mark "<" tokens

def atom (grammar : Grammar) : Reader (List Token) := do
  if ← Reader.aheadLiteral then Reader.literal
  else if ← Reader.ahead (Ahead.group .parenthesis) then
    return [.group .parenthesis
      (← Reader.group .parenthesis grammar.expression)]
  else if ← Reader.ahead (Ahead.mark "<") then
    return (← qualifiedPath grammar true).tokens
  else if ← Reader.ahead beginsPath then
    return (← path grammar true).tokens
  else Reader.refuse .unsupportedExpression

def beginsTrailer (tokens : List Token) : Bool :=
  Ahead.group .parenthesis tokens || Ahead.group .bracket tokens ||
    (Ahead.mark "." tokens && !Ahead.mark ".." tokens)

def trailer (grammar : Grammar) : Reader (List Token) := do
  if ← Reader.ahead (Ahead.group .parenthesis) then
    let arguments ← Reader.group .parenthesis
      (Reader.commas grammar.expression)
    return [.group .parenthesis (Listed.tokens "," arguments)]
  else if ← Reader.ahead (Ahead.group .bracket) then
    return [.group .bracket (← Reader.group .bracket grammar.expression)]
  else return (← Reader.mark ".") ++ (← members)

def operand (grammar : Grammar) : Reader (List Token) := do
  let signs ← Reader.whileAhead beginsSign do
    match ← Reader.any with
    | .punct char _ => return .punct char false
    | token => return token
  let first ← atom grammar
  let rest ← Reader.whileAhead beginsTrailer (trailer grammar)
  return signs ++ first ++ rest.flatten

/-- Operators between operands, the longer ones before those they begin
with. -/
def operators : List String :=
  ["&&", "||", "<<", ">>", "==", "<=", "!=", ">=", "+", "-", "*", "/", "%",
   "^", "&", "|", "<", ">"]

def operator? (tokens : List Token) : Option String :=
  operators.find? fun operator => Ahead.mark operator tokens

def continuation (grammar : Grammar) : Reader (List Token) := do
  match operator? (← Reader.tokens) with
  | some operator =>
      return (← Reader.mark operator) ++ (← operand grammar)
  | none =>
      return (← Reader.word "as") ++ (← grammar.type false).tokens

def expressionWith (grammar : Grammar) : Reader (List Token) := do
  let first ← operand grammar
  let rest ← Reader.whileAhead
    (fun tokens => (operator? tokens).isSome || Ahead.word "as" tokens)
    (continuation grammar)
  return first ++ rest.flatten

end Grammar

end Derive

end FlatGraph
