import FlatGraph.Derive.Reader

/-!
Attributes and what may stand inside them: a clause is a literal, a path, a
path with a list of clauses, or a path to which a literal is assigned.
-/

namespace FlatGraph

namespace Derive

/-- Words between double colons; a global path has a pair in front. -/
structure Path where
  isGlobal : Bool
  words : List String
  deriving DecidableEq, Repr

def Path.is (path : Path) (word : String) : Bool :=
  path == ⟨false, [word]⟩

def Path.reader (test : List Token → Bool) : Reader Path := do
  let word : Reader String := do
    if ← Reader.ahead test then Reader.anyWord
    else Reader.refuse .unexpectedToken
  let leading ← Reader.option (Ahead.mark "::") (Reader.mark "::")
  let first ← word
  let rest ← Reader.whileAhead (Ahead.mark "::") do
    let _ ← Reader.mark "::"
    word
  return ⟨!leading.isEmpty, first :: rest⟩

inductive Clause where
  | literal (text : String)
  | path (path : Path)
  | list (path : Path) (clauses : List Clause)
  | assign (path : Path) (literal : String)

structure Attribute where
  path : Path
  content : List Token

namespace Clause

def literalText : Reader String := do
  return String.join (Token.piecesAll (← Reader.literal))

/-- The clause that tokens after a path make with it; a list holds what the
given reader makes of its parts. -/
def afterPath (part : Reader Clause) (path : Path) : Reader Clause := do
  if ← Reader.ahead (Ahead.group .parenthesis) then
    let parts ← Reader.group .parenthesis (Reader.commas part)
    return .list path (parts.map (·.1))
  else if ← Reader.ahead (Ahead.mark "=") then
    let _ ← Reader.mark "="
    return .assign path (← literalText)
  else return .path path

/-- A truth value before an equals sign is a path. -/
def aheadLiteral : Reader Bool := do
  if ← Reader.aheadLiteral then
    return !((← Reader.ahead Ahead.anyWord) &&
      (← Reader.ahead (Ahead.beyond 1 (Ahead.mark "="))))
  else return false

/-- A clause in a list, with lists nested less deeply than `depth`. -/
def reader : (depth : Nat) → Reader Clause
  | 0 => Reader.refuse .unexpectedToken
  | depth + 1 => do
      if ← aheadLiteral then return .literal (← literalText)
      else afterPath (reader depth) (← Path.reader Ahead.anyWord)

end Clause

namespace Attribute

def clause (source : Attribute) : Except Refusal Clause :=
  Reader.run
    (Clause.afterPath (Clause.reader (Token.sizeAll source.content + 1))
      source.path)
    source.content

def reader : Reader Attribute := do
  let _ ← Reader.mark "#"
  Reader.group .bracket do
    let path ← Path.reader Ahead.pathWord
    let content ← Reader.tokens
    Reader.moveTo []
    return ⟨path, content⟩

def all : Reader (List Attribute) :=
  Reader.whileAhead (Ahead.mark "#") reader

def tokens : Reader (List Token) :=
  Reader.verbatim all

end Attribute

end Derive

end FlatGraph
