/-!
The tokens of a declaration: words, lifetimes, literals, single punctuation
characters, and groups between delimiters.
-/

namespace FlatGraph

namespace Derive

inductive Delimiter where
  | parenthesis
  | bracket
  | brace
  deriving DecidableEq, Repr

def Delimiter.opening : Delimiter → String
  | .parenthesis => "("
  | .bracket => "["
  | .brace => "\x7b"

def Delimiter.closing : Delimiter → String
  | .parenthesis => ")"
  | .bracket => "]"
  | .brace => "\x7d"

inductive Token where
  | word (text : String)
  /-- A lifetime, by the name after its apostrophe. -/
  | lifetime (name : String)
  | literal (text : String)
  /-- One character, and whether another one follows without a gap. -/
  | punct (char : Char) (joint : Bool)
  | group (delimiter : Delimiter) (body : List Token)

namespace Token

def mark : List Char → List Token
  | [] => []
  | [c] => [.punct c false]
  | c :: rest => .punct c true :: mark rest

mutual

def pieces : Token → List String
  | .word text => [text]
  | .lifetime name => ["'" ++ name]
  | .literal text => [text]
  | .punct char _ => [char.toString]
  | .group delimiter body =>
      delimiter.opening :: piecesAll body ++ [delimiter.closing]

def piecesAll : List Token → List String
  | [] => []
  | token :: rest => pieces token ++ piecesAll rest

end

mutual

/-- Whether one of the names stands somewhere in the token. The name of a
lifetime is a name like any other. -/
def mentions (names : List String) : Token → Bool
  | .word text => names.contains text
  | .lifetime name => names.contains name
  | .literal _ => false
  | .punct _ _ => false
  | .group _ body => mentionsAny names body

def mentionsAny (names : List String) : List Token → Bool
  | [] => false
  | token :: rest => mentions names token || mentionsAny names rest

end

mutual

def size : Token → Nat
  | .group _ body => sizeAll body + 1
  | _ => 1

def sizeAll : List Token → Nat
  | [] => 0
  | token :: rest => size token + sizeAll rest

end

@[simp] theorem piecesAll_nil : piecesAll [] = [] := by
  simp [piecesAll]

@[simp] theorem piecesAll_cons (token : Token) (rest : List Token) :
    piecesAll (token :: rest) = pieces token ++ piecesAll rest := by
  simp [piecesAll]

@[simp] theorem piecesAll_append (left right : List Token) :
    piecesAll (left ++ right) = piecesAll left ++ piecesAll right := by
  induction left with
  | nil => simp
  | cons token rest ih => simp [ih]

def reserved : List String :=
  ["_", "abstract", "as", "become", "box", "break", "const", "continue",
   "crate", "do", "else", "enum", "extern", "false", "final", "fn", "for",
   "if", "impl", "in", "let", "loop", "macro", "match", "mod", "move", "mut",
   "override", "priv", "pub", "ref", "return", "Self", "self", "static",
   "struct", "super", "trait", "true", "type", "typeof", "unsafe", "unsized",
   "use", "virtual", "where", "while", "yield"]

end Token

end Derive

end FlatGraph
