import FlatGraph.Derive.Grammar.Expression
import FlatGraph.Derive.Grammar.Type

namespace FlatGraph

namespace Derive

namespace Grammar

def ofDepth : (depth : Nat) → Grammar
  | 0 => empty
  | depth + 1 => ⟨typeWith (ofDepth depth), expressionWith (ofDepth depth)⟩

/-- A grammar deep enough for all code in the tokens, because whatever is
nested is shorter by a token than what it is nested in. -/
def ofTokens (tokens : List Token) : Grammar :=
  ofDepth (Token.sizeAll tokens + 1)

def endsConditions (tokens : List Token) : Bool :=
  tokens.isEmpty || Ahead.group .brace tokens || Ahead.mark "," tokens ||
    Ahead.mark ";" tokens || Ahead.mark "=" tokens ||
    (Ahead.mark ":" tokens && !Ahead.mark "::" tokens)

def predicate (grammar : Grammar) : Reader (List Token) := do
  if (← Reader.ahead Ahead.lifetime) &&
      (← Reader.ahead (Ahead.beyond 1 (Ahead.mark ":"))) then
    let name ← Reader.lifetime
    let colon ← Reader.mark ":"
    let bounds ← Reader.list endsConditions "+" do
      return [.lifetime (← Reader.lifetime)]
    return .lifetime name :: colon ++ Listed.tokens "+" bounds
  else
    let general ← binder?
    let type ← grammar.type true
    let colon ← Reader.mark ":"
    let bounds ← Reader.list endsConditions "+" (bound grammar)
    return general ++ type.tokens ++ colon ++ boundTokens bounds

def conditions (grammar : Grammar) : Reader (List (List Token × Bool)) := do
  if ← Reader.ahead (Ahead.word "where") then
    let _ ← Reader.word "where"
    Reader.list endsConditions "," (predicate grammar)
  else return []

end Grammar

end Derive

end FlatGraph
