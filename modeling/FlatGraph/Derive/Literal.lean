import FlatGraph.Derive.Quoted

namespace FlatGraph

namespace Derive

namespace Literal

open Escape (quote)

def length? (cs : List Char) : Option Nat :=
  Quoted.length? cs <|> Number.length? cs

/-- What stands in place of code that failed before. It is lexed as a literal
of no kind. -/
def failure : List Char := "(/*ERROR*/)".toList

/-- Whether the literal is of a known kind. Texts that a zero ends are not. -/
def isKnown (text : String) : Bool :=
  !text.toList.head?.any fun c => c == 'c' || c == '('

def isString (text : String) : Bool :=
  text.toList.head?.any fun c => c == quote || c == 'r'

def isNumber (text : String) : Bool :=
  text.toList.head?.any Char.isDigit

def isFractional (text : String) : Bool :=
  isNumber text && (Number.fractional? text.toList).isSome

def integer? (text : String) : Option Nat :=
  match text.toList with
  | '0' :: 'x' :: digits => Number.value? 16 digits
  | '0' :: 'o' :: digits => Number.value? 8 digits
  | '0' :: 'b' :: digits => Number.value? 2 digits
  | first :: digits =>
      if first.isDigit then Number.value? 10 (first :: digits) else none
  | [] => none

/-- The place of a member: a number of thirty-two bits without a suffix. -/
def place? (text : String) : Option Nat :=
  (integer? text).filter (· < 1 <<< 32)

def plain? (cs : List Char) : Option (List Char) :=
  (Quoted.quotedLength quote cs).bind fun length =>
    Quoted.decode? .characters (cs.take (length - 1))

def raw? (cs : List Char) : Option (List Char) :=
  let hashes := Number.run (· == '#') cs
  let body := cs.drop (hashes + 1)
  (Quoted.rawLength hashes body).map fun length =>
    body.take (length - (hashes + 1))

def string? (text : String) : Option String :=
  match text.toList with
  | 'r' :: rest => (raw? rest).map String.ofList
  | c :: rest => if c == quote then (plain? rest).map String.ofList else none
  | [] => none

end Literal

end Derive

end FlatGraph
