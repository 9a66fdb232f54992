import FlatGraph.Derive.Literal
import FlatGraph.Derive.Token

/-!
Reading declaration text as tokens. A scanner looks at one character and the
characters after it, and says how many of those belong to the same token.
-/

namespace FlatGraph

namespace Derive

inductive Lexeme where
  | token (token : Token)
  | opening (delimiter : Delimiter)
  | closing (delimiter : Delimiter)

namespace Lexeme

open Escape (quote apostrophe)
open Letter (beginsWord continuesWord)
open Number (run)

/-- Blanks between tokens. The two marks of writing direction are among
them. -/
def isBlank (c : Char) : Bool :=
  Letter.isSpace c || c.toNat == 0x200e || c.toNat == 0x200f

def isPunctuation (c : Char) : Bool :=
  "~!@#$%^&*-=+|;:,<.>/?".toList.contains c || c == apostrophe

def blockLength : Nat → List Char → Option Nat
  | _, [] => none
  | depth, '*' :: '/' :: rest =>
      if depth == 0 then some 2
      else (blockLength (depth - 1) rest).map (· + 2)
  | depth, '/' :: '*' :: rest => (blockLength (depth + 1) rest).map (· + 2)
  | depth, _ :: rest => (blockLength depth rest).map (· + 1)

/-- A documentation comment is an attribute that holds its text, which has no
carriage return without a new line. -/
def documentation? (inner : Bool) (text : List Char) : Option (List Lexeme) :=
  if Quoted.bareReturn text then none
  else
    let hash := Token.punct '#' false
    let body := Token.group .bracket
      [.word "doc", .punct '=' false, .literal (Escape.quoted text)]
    let tokens := if inner then [hash, .punct '!' false, body] else [hash, body]
    some (tokens.map .token)

def lineText (cs : List Char) : List Char :=
  let text := cs.takeWhile (· != '\n')
  if text.getLast? == some '\r' && text.length < cs.length then text.dropLast
  else text

def comment? : List Char → Option (List Lexeme × Nat)
  | '/' :: rest =>
      let taken (lexemes : List Lexeme) : List Lexeme × Nat :=
        (lexemes, 1 + run (· != '\n') rest)
      match rest with
      | '/' :: '/' :: _ => some (taken [])
      | '/' :: text => (documentation? false (lineText text)).map taken
      | '!' :: text => (documentation? true (lineText text)).map taken
      | _ => some (taken [])
  | '*' :: rest =>
      (blockLength 0 rest).bind fun length =>
        let taken (lexemes : List Lexeme) : List Lexeme × Nat :=
          (lexemes, length + 1)
        match rest.take (length - 2) with
        | '*' :: '*' :: _ => some (taken [])
        | ['*'] => some (taken [])
        | '*' :: text => (documentation? false text).map taken
        | '!' :: text => (documentation? true text).map taken
        | _ => some (taken [])
  | _ => none

/-- A punctuation character; it is joined to another one after it unless that
one begins a comment. -/
def punctuation (c : Char) (cs : List Char) : Lexeme :=
  let joint := match cs with
    | '/' :: '/' :: _ => false
    | '/' :: '*' :: _ => false
    | next :: _ => isPunctuation next
    | [] => false
  .token (.punct c joint)

def delimiter? : Char → Option Lexeme
  | '(' => some (.opening .parenthesis)
  | '[' => some (.opening .bracket)
  | '\x7b' => some (.opening .brace)
  | ')' => some (.closing .parenthesis)
  | ']' => some (.closing .bracket)
  | '\x7d' => some (.closing .brace)
  | _ => none

def neverRaw : List String := ["_", "super", "self", "Self", "crate"]

def isRaw (cs : List Char) : Bool :=
  "r#".toList.isPrefixOf cs

def wordLength? (cs : List Char) : Option Nat :=
  let mark := if isRaw cs then 2 else 0
  let name := (cs.drop mark).takeWhile continuesWord
  if !name.head?.any beginsWord then none
  else if isRaw cs && neverRaw.contains (String.ofList name) then none
  else some (mark + name.length)

/-- The beginnings of quoted literals that no word has. -/
def quotedMarks : List String :=
  ["r\"", "r#\"", "r##", "b\"", "b'", "br\"", "br#", "c\"", "cr\"", "cr#"]

def word? (cs : List Char) : Option (List Lexeme × Nat) :=
  if quotedMarks.any fun mark => mark.toList.isPrefixOf cs then none
  else
    (wordLength? cs).map fun length =>
      ([.token (.word (String.ofList (cs.take length)))], length)

/-- A lifetime after its apostrophe: a word that neither an apostrophe nor,
unless it is raw, a hash follows. A literal is not taken for its name. -/
def lifetime? (cs : List Char) : Option (List Lexeme × Nat) :=
  (wordLength? cs).bind fun length =>
    let next := (cs.drop length).head?
    if next == some apostrophe || (next == some '#' && !isRaw cs) then none
    else if (Literal.length? cs).isSome then
      some ([.token (.punct apostrophe true)], 0)
    else
      some ([.token (.lifetime (String.ofList (cs.take length)))], length)

def leaf? (cs : List Char) : Option (List Lexeme × Nat) :=
  match Literal.length? cs with
  | some length =>
      some ([.token (.literal (String.ofList (cs.take length)))], length)
  | none =>
      match cs with
      | [] => none
      | c :: rest =>
          if c == apostrophe then
            (lifetime? rest).map fun found => (found.1, found.2 + 1)
          else if isPunctuation c then some ([punctuation c rest], 1)
          else word? cs

def first? (c : Char) (cs : List Char) : Option (List Lexeme × Nat) :=
  if isBlank c then some ([], 0)
  else if c == '/' && (cs.head? == some '/' || cs.head? == some '*') then
    comment? cs
  else if Literal.failure.isPrefixOf (c :: cs) then
    some ([.token (.literal (String.ofList Literal.failure))],
      Literal.failure.length - 1)
  else
    match delimiter? c with
    | some lexeme => some ([lexeme], 0)
    | none => (leaf? (c :: cs)).map fun found => (found.1, found.2 - 1)

end Lexeme

def lexemes? : List Char → Option (List Lexeme)
  | [] => some []
  | c :: cs =>
      (Lexeme.first? c cs).bind fun found =>
        (lexemes? (cs.drop found.2)).map (found.1 ++ ·)
termination_by cs => cs.length
decreasing_by
  simp only [List.length_drop, List.length_cons]
  omega

/-- Puts groups together. The stack holds the groups still open, each with the
tokens before it, the last one first. -/
def nest? : List Lexeme → List (Delimiter × List Token) → List Token →
    Option (List Token)
  | [], [], current => some current.reverse
  | [], _ :: _, _ => none
  | .token token :: rest, stack, current =>
      nest? rest stack (token :: current)
  | .opening delimiter :: rest, stack, current =>
      nest? rest ((delimiter, current) :: stack) []
  | .closing _ :: _, [], _ => none
  | .closing delimiter :: rest, (opened, outer) :: stack, current =>
      if delimiter = opened then
        nest? rest stack (.group delimiter current.reverse :: outer)
      else none

/-- The tokens of a text. A byte order mark before the text is passed over. -/
def Token.read? (text : String) : Option (List Token) :=
  let cs := match text.toList with
    | '\ufeff' :: rest => rest
    | cs => cs
  (lexemes? cs).bind fun lexemes => nest? lexemes [] []

end Derive

end FlatGraph
