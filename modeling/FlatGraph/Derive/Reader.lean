import FlatGraph.Derive.Literal
import FlatGraph.Derive.Token

/-!
Reading tokens one after another. A reader looks at the tokens ahead, takes
some of them, or refuses them.
-/

namespace FlatGraph

namespace Derive

inductive Refusal where
  | unexpectedToken
  | missingName
  | unsupportedExpression
  | unknownLiteral (text : String)
  /-- An argument after another one that no comma ends. -/
  | missingComma
  deriving DecidableEq, Repr

namespace Refusal

def message : Refusal → String
  | .unexpectedToken => "unexpected token"
  | .missingName => "expected identifier"
  | .unsupportedExpression =>
      "unsupported expression; enable syn's features=[\"full\"]"
  | .unknownLiteral text => "Unrecognized literal: `" ++ text ++ "`"
  | .missingComma =>
      "Punctuated::push_value: cannot push value if Punctuated is missing " ++
        "trailing punctuation"

/-- Whether reading breaks down altogether, whatever the tokens are read
for. -/
def isFatal : Refusal → Bool
  | .unknownLiteral _ => true
  | .missingComma => true
  | _ => false

end Refusal

namespace Ahead

def joined : List Char → List Token → Bool
  | [c], .punct char _ :: _ => c == char
  | c :: cs, .punct char true :: rest => c == char && joined cs rest
  | _, _ => false

def mark (text : String) : List Token → Bool :=
  joined text.toList

def word (text : String) : List Token → Bool
  | .word other :: _ => other == text
  | _ => false

def anyWord : List Token → Bool
  | .word _ :: _ => true
  | _ => false

def name : List Token → Bool
  | .word text :: _ => !Token.reserved.contains text
  | _ => false

def moduleWord (tokens : List Token) : Bool :=
  ["super", "self", "crate"].any fun text => word text tokens

def pathWord (tokens : List Token) : Bool :=
  name tokens || word "Self" tokens || moduleWord tokens

def lifetime : List Token → Bool
  | .lifetime _ :: _ => true
  | _ => false

def group (delimiter : Delimiter) : List Token → Bool
  | .group other _ :: _ => other == delimiter
  | _ => false

def beyond (count : Nat) (test : List Token → Bool) (tokens : List Token) :
    Bool :=
  test (tokens.drop count)

def ended (tokens : List Token) : Bool :=
  tokens.isEmpty

end Ahead

structure Progress where
  tokens : List Token
  /-- Whether a group that is passed holds tokens that were not read. They are
  refused only when all else has been read. -/
  hasStrays : Bool

abbrev Reader (α : Type) := StateT Progress (Except Refusal) α

namespace Reader

def tokens : Reader (List Token) :=
  return (← get).tokens

def moveTo (tokens : List Token) : Reader Unit :=
  modify fun progress => { progress with tokens := tokens }

def refuse {α : Type} (refusal : Refusal) : Reader α :=
  throw refusal

def ahead (test : List Token → Bool) : Reader Bool :=
  return test (← tokens)

def any : Reader Token := do
  match ← tokens with
  | token :: rest =>
      moveTo rest
      return token
  | [] => refuse .unexpectedToken

def mark (text : String) : Reader (List Token) := do
  if ← ahead (Ahead.mark text) then
    moveTo ((← tokens).drop text.length)
    return Token.mark text.toList
  else refuse .unexpectedToken

def word (text : String) : Reader (List Token) := do
  if ← ahead (Ahead.word text) then return [← any]
  else refuse .unexpectedToken

def anyWord : Reader String := do
  match ← any with
  | .word text => return text
  | _ => refuse .missingName

def name : Reader String := do
  if ← ahead Ahead.name then anyWord else refuse .missingName

def lifetime : Reader String := do
  match ← any with
  | .lifetime name => return name
  | _ => refuse .unexpectedToken

def option (test : List Token → Bool) (reader : Reader (List Token)) :
    Reader (List Token) := do
  if ← ahead test then reader else return []

def group {α : Type} (delimiter : Delimiter) (reader : Reader α) :
    Reader α := do
  match ← tokens with
  | .group other body :: rest =>
      if other == delimiter then
        moveTo body
        let value ← reader
        modify fun inner =>
          ⟨rest, inner.hasStrays || !inner.tokens.isEmpty⟩
        return value
      else refuse .unexpectedToken
  | _ => refuse .unexpectedToken

def verbatim {α : Type} (reader : Reader α) : Reader (List Token) := do
  let before ← tokens
  let _ ← reader
  return before.take (before.length - (← tokens).length)

def upTo {α : Type} (test : List Token → Bool) (reader : Reader α) :
    (count : Nat) → Reader (List α)
  | 0 => return []
  | count + 1 => do
      if ← ahead test then
        let value ← reader
        return value :: (← upTo test reader count)
      else return []

def whileAhead {α : Type} (test : List Token → Bool) (reader : Reader α) :
    Reader (List α) := do
  upTo test reader (← tokens).length

/-- At most `count` values after a given one, each with whether the separator
follows it. The list may end after a separator. -/
def followingUpTo {α : Type} (ends : List Token → Bool) (separator : String)
    (reader : Reader α) (value : α) : (count : Nat) → Reader (List (α × Bool))
  | 0 => return [(value, false)]
  | count + 1 => do
      if ← ahead (Ahead.mark separator) then
        let _ ← mark separator
        if ← ahead ends then return [(value, true)]
        else
          let next ← reader
          return (value, true) ::
            (← followingUpTo ends separator reader next count)
      else return [(value, false)]

def following {α : Type} (ends : List Token → Bool) (separator : String)
    (reader : Reader α) (value : α) : Reader (List (α × Bool)) := do
  followingUpTo ends separator reader value (← tokens).length

def list {α : Type} (ends : List Token → Bool) (separator : String)
    (reader : Reader α) : Reader (List (α × Bool)) := do
  if ← ahead ends then return []
  else following ends separator reader (← reader)

def complete {α : Type} (reader : Reader α) : Reader α := do
  let value ← reader
  if ← ahead Ahead.ended then return value else refuse .unexpectedToken

def commas {α : Type} (reader : Reader α) : Reader (List (α × Bool)) :=
  complete (list Ahead.ended "," reader)

/-- Whether a literal of any kind lies ahead. A truth value is one, and so is a
number with a minus sign. -/
def aheadLiteral : Reader Bool := do
  match ← tokens with
  | .literal text :: _ =>
      if Literal.isKnown text then return true
      else refuse (.unknownLiteral text)
  | .word text :: _ => return text == "true" || text == "false"
  | .punct '-' _ :: .literal text :: _ => return Literal.isNumber text
  | _ => return false

def aheadString : Reader Bool := do
  if ← aheadLiteral then
    match ← tokens with
    | .literal text :: _ => return Literal.isString text
    | _ => return false
  else return false

def literal : Reader (List Token) := do
  if ← aheadLiteral then
    match ← any with
    | .punct char _ => return [.punct char false, ← any]
    | token => return [token]
  else refuse .unexpectedToken

def run {α : Type} (reader : Reader α) (tokens : List Token) :
    Except Refusal α :=
  match StateT.run reader ⟨tokens, false⟩ with
  | .ok (value, ⟨[], false⟩) => .ok value
  | .ok _ => .error .unexpectedToken
  | .error refusal => .error refusal

end Reader

namespace Listed

def tokens (separator : String) (entries : List (List Token × Bool)) :
    List Token :=
  entries.flatMap fun entry =>
    entry.1 ++ if entry.2 then Token.mark separator.toList else []

/-- Some entries before the others, each with the separator that follows it.
One is put between the two parts if the first part does not end in one. -/
def arranged {α β : Type} (isFirst : α → Bool) (separator : List β)
    (render : α → List β) (entries : List (α × Bool)) : List β :=
  let item (entry : α × Bool) : List β :=
    render entry.1 ++ if entry.2 then separator else []
  let front := entries.filter fun entry => isFirst entry.1
  let back := entries.filter fun entry => !isFirst entry.1
  let gap := if !back.isEmpty && front.getLast?.any fun entry => !entry.2 then
    separator else []
  front.flatMap item ++ gap ++ back.flatMap item

end Listed

end Derive

end FlatGraph
