import FlatGraph.Derive.Attribute

/-!
Readers for the code in a declaration. Code is kept as its tokens in their
normal order, so that what is read can be written again. Types and expressions
contain each other; a grammar holds a reader for each of the two, and every
part of the grammar is given the readers for what is nested in it.
-/

namespace FlatGraph

namespace Derive

/-- A type as its tokens. Parentheses around some types make one bound of a
list of bounds; `bound?` holds what stands between these parentheses. -/
structure Phrase where
  tokens : List Token
  bound? : Option (List Token)

structure Grammar where
  /-- A type; `plus` says whether it may be a list of bounds. -/
  type : (plus : Bool) → Reader Phrase
  expression : Reader (List Token)

namespace Grammar

def empty : Grammar :=
  ⟨fun _ => Reader.refuse .unexpectedToken, Reader.refuse .unexpectedToken⟩

def boundedLifetime : Reader (String × List Token) := do
  let name ← Reader.lifetime
  if ← Reader.ahead (Ahead.mark ":") then
    let _ ← Reader.mark ":"
    let ends (tokens : List Token) : Bool :=
      Ahead.mark "," tokens || Ahead.mark ">" tokens
    let bounds ← Reader.list ends "+" do return [.lifetime (← Reader.lifetime)]
    return (name, Listed.tokens "+" bounds)
  else return (name, [])

/-- Something with bounds after a colon. The colon goes with the bounds. -/
def bounded (subject : List Token) (bounds : List Token) : List Token :=
  if bounds.isEmpty then subject
  else subject ++ Token.mark [':'] ++ bounds

def binder : Reader (List Token) := do
  let word ← Reader.word "for"
  let opening ← Reader.mark "<"
  let lifetimes ← Reader.list (Ahead.mark ">") "," do
    let attributes ← Attribute.tokens
    let found ← boundedLifetime
    return attributes ++ bounded [.lifetime found.1] found.2
  let closing ← Reader.mark ">"
  return word ++ opening ++ Listed.tokens "," lifetimes ++ closing

def binder? : Reader (List Token) :=
  Reader.option (Ahead.word "for") binder

end Grammar

end Derive

end FlatGraph
