import FlatGraph.Derive.Grammar.Basic

/-!
Paths with their arguments. Among arguments in angle brackets lifetimes come
first, and a block is put into braces of its own.
-/

namespace FlatGraph

namespace Derive

namespace Grammar

structure Segment where
  word : List Token
  brackets : List Token
  isBare : Bool

def Segment.tokens (segment : Segment) : List Token :=
  segment.word ++ segment.brackets

structure PathPhrase where
  tokens : List Token
  hasBrackets : Bool
  /-- The path as it is written before arguments in parentheses: without empty
  brackets at its end. Nothing if there are arguments in them. -/
  callable? : Option (List Token)

namespace PathPhrase

def ofSegments (segments : List Segment) : PathPhrase :=
  { tokens := segments.flatMap Segment.tokens
    hasBrackets := segments.any fun segment => !segment.brackets.isEmpty
    callable? := (segments.getLast?.filter (·.isBare)).map fun last =>
      segments.dropLast.flatMap Segment.tokens ++ last.word }

def after (front : List Token) (path : PathPhrase) : PathPhrase :=
  { path with
    tokens := front ++ path.tokens
    callable? := path.callable?.map (front ++ ·) }

end PathPhrase

def block (grammar : Grammar) : Reader (List Token) :=
  Reader.verbatim (Reader.group .brace grammar.expression)

def constant (grammar : Grammar) : Reader (List Token) := do
  if ← Reader.aheadLiteral then Reader.literal
  else return [.group .brace (← block grammar)]

def boundArgument (grammar : Grammar) : Reader (List Token) := do
  if ← Reader.aheadLiteral then Reader.verbatim Reader.literal
  else if ← Reader.ahead (Ahead.group .brace) then block grammar
  else return (← grammar.type true).tokens

/-- An argument in angle brackets, with whether it is a lifetime. -/
def argument (grammar : Grammar) : Reader (Bool × List Token) := do
  if (← Reader.ahead Ahead.lifetime) &&
      !(← Reader.ahead (Ahead.beyond 1 (Ahead.mark "+"))) then
    return (true, [.lifetime (← Reader.lifetime)])
  else if (← Reader.ahead Ahead.name) &&
      (← Reader.ahead (Ahead.beyond 1 (Ahead.mark "="))) then
    let name ← Reader.name
    let equals ← Reader.mark "="
    return (false, .word name :: equals ++ (← boundArgument grammar))
  else if (← Reader.aheadLiteral) ||
      (← Reader.ahead (Ahead.group .brace)) then
    return (false, ← constant grammar)
  else return (false, (← grammar.type true).tokens)

def bracketed (grammar : Grammar) (word : Token) : Reader Segment := do
  let colons ← Reader.option (Ahead.mark "::") (Reader.mark "::")
  let opening ← Reader.mark "<"
  let arguments ← Reader.list (Ahead.mark ">") "," (argument grammar)
  let closing ← Reader.mark ">"
  let inner := Listed.arranged (·.1) (Token.mark [',']) (·.2) arguments
  return ⟨[word], colons ++ opening ++ inner ++ closing, arguments.isEmpty⟩

/-- Whether arguments in angle brackets lie ahead. In an expression they need
double colons, because an angle bracket alone compares. -/
def aheadArguments (inExpression : Bool) (tokens : List Token) : Bool :=
  (!inExpression && Ahead.mark "<" tokens && !Ahead.mark "<=" tokens) ||
    (Ahead.mark "::" tokens && Ahead.beyond 2 (Ahead.mark "<") tokens)

def segment (grammar : Grammar) (inExpression : Bool) : Reader Segment := do
  if ← Reader.ahead Ahead.moduleWord then
    return ⟨[.word (← Reader.anyWord)], [], true⟩
  else
    let text ← if ← Reader.ahead (Ahead.word "Self") then Reader.anyWord
      else Reader.name
    if ← Reader.ahead (aheadArguments inExpression) then
      bracketed grammar (.word text)
    else return ⟨[.word text], [], true⟩

def segments (grammar : Grammar) (inExpression : Bool)
    (test : List Token → Bool) : Reader PathPhrase := do
  let first ← segment grammar inExpression
  let rest ← Reader.whileAhead test do
    let colons ← Reader.mark "::"
    let found ← segment grammar inExpression
    return { found with word := colons ++ found.word }
  return PathPhrase.ofSegments (first :: rest)

def path (grammar : Grammar) (inExpression : Bool) : Reader PathPhrase := do
  let colons ← Reader.option (Ahead.mark "::") (Reader.mark "::")
  let found ← segments grammar inExpression fun tokens =>
    Ahead.mark "::" tokens && !Ahead.beyond 2 (Ahead.group .parenthesis) tokens
  return found.after colons

def qualifiedPath (grammar : Grammar) (inExpression : Bool) :
    Reader PathPhrase := do
  let opening ← Reader.mark "<"
  let type ← grammar.type true
  let view ← Reader.option (Ahead.word "as") do
    let word ← Reader.word "as"
    return word ++ (← path grammar false).tokens
  let closing ← Reader.mark ">"
  let colons ← Reader.mark "::"
  let found ← segments grammar inExpression (Ahead.mark "::")
  return found.after (opening ++ type.tokens ++ view ++ closing ++ colons)

def returned (grammar : Grammar) : Reader (List Token) :=
  Reader.option (Ahead.mark "->") do
    let arrow ← Reader.mark "->"
    return arrow ++ (← grammar.type false).tokens

def callArguments (grammar : Grammar) : Reader (List Token) := do
  let types ← Reader.group .parenthesis
    (Reader.commas do return (← grammar.type true).tokens)
  return .group .parenthesis (Listed.tokens "," types) ::
    (← returned grammar)

/-- A path that may end in arguments in parentheses. Double colons before the
parentheses are left out. -/
def callablePath (grammar : Grammar) (found : PathPhrase) :
    Reader PathPhrase := do
  let call (tokens : List Token) : Bool := Ahead.group .parenthesis tokens
  let aheadCall ← Reader.ahead fun tokens =>
    call tokens || (Ahead.mark "::" tokens && Ahead.beyond 2 call tokens)
  match found.callable? with
  | some callable =>
      if aheadCall then
        let _ ← Reader.option (Ahead.mark "::") (Reader.mark "::")
        return ⟨callable ++ (← callArguments grammar), true, none⟩
      else return found
  | none => return found

end Grammar

end Derive

end FlatGraph
