import FlatGraph.Derive.Grammar.Path

namespace FlatGraph

namespace Derive

namespace Grammar

structure Bound where
  tokens : List Token
  isLifetime : Bool

/-- A path as a bound, which a question mark makes optional and `for` makes
general. -/
def pathBound (grammar : Grammar) : Reader (List Token) := do
  let optional ← Reader.option (Ahead.mark "?") (Reader.mark "?")
  let general ← binder?
  let found ← callablePath grammar (← path grammar false)
  return optional ++ general ++ found.tokens

def bound (grammar : Grammar) : Reader Bound := do
  if ← Reader.ahead Ahead.lifetime then
    return ⟨[.lifetime (← Reader.lifetime)], true⟩
  else if ← Reader.ahead (Ahead.group .parenthesis) then
    let tokens ← Reader.group .parenthesis (pathBound grammar)
    return ⟨[.group .parenthesis tokens], false⟩
  else return ⟨← pathBound grammar, false⟩

/-- Whether no bound follows a plus sign. -/
def endsBounds (tokens : List Token) : Bool :=
  !(Ahead.anyWord tokens || Ahead.mark "::" tokens || Ahead.mark "?" tokens ||
    Ahead.lifetime tokens || Ahead.group .parenthesis tokens)

def boundsAfter (grammar : Grammar) (plus : Bool) (first : Bound) :
    Reader (List (Bound × Bool)) :=
  if plus then Reader.following endsBounds "+" (bound grammar) first
  else return [(first, false)]

def boundTokens (bounds : List (Bound × Bool)) : List Token :=
  Listed.tokens "+" (bounds.map fun entry => (entry.1.tokens, entry.2))

def bounds (grammar : Grammar) (plus : Bool) : Reader (List Token) := do
  let found ← boundsAfter grammar plus (← bound grammar)
  if found.all (·.1.isLifetime) then Reader.refuse .unexpectedToken
  else return boundTokens found

end Grammar

end Derive

end FlatGraph
