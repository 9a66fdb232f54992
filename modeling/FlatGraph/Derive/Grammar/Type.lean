import FlatGraph.Derive.Grammar.Bound

/-!
Types. Some forms are kept as they stand: functions that take themselves as an
argument, and objects behind a star.
-/

namespace FlatGraph

namespace Derive

namespace Grammar

/-- The argument of a function type; nothing if it is the function's own
subject, which `mut self` names in place of a name or of a type. -/
def functionArgument (grammar : Grammar) : Reader (Option (List Token)) := do
  let colon (tokens : List Token) : Bool :=
    Ahead.mark ":" tokens && !Ahead.mark "::" tokens
  let ownSubject (tokens : List Token) : Bool :=
    Ahead.word "mut" tokens && Ahead.beyond 1 (Ahead.word "self") tokens
  if ← Reader.ahead fun tokens =>
      ownSubject tokens && Ahead.beyond 2 colon tokens then
    let _ ← Reader.word "mut"
    let _ ← Reader.word "self"
    let _ ← Reader.mark ":"
    let _ ← grammar.type true
    return none
  else
    let isNamed (tokens : List Token) : Bool :=
      (Ahead.name tokens || Ahead.word "_" tokens ||
        Ahead.word "self" tokens) && Ahead.beyond 1 colon tokens
    let name ← Reader.option isNamed do
      let text ← Reader.anyWord
      return .word text :: (← Reader.mark ":")
    if ← Reader.ahead (Ahead.mark "...") then
      return some (name ++ (← Reader.mark "..."))
    else if ← Reader.ahead ownSubject then
      let _ ← Reader.word "mut"
      let _ ← Reader.word "self"
      return none
    else return some (name ++ (← grammar.type true).tokens)

/-- The arguments of a function type, with whether one of them is its own
subject. From that one on commas separate nothing; `separated` says whether an
argument may come next. -/
def functionArguments (grammar : Grammar) (separated hasSubject : Bool) :
    (count : Nat) → Reader (List Token × Bool)
  | 0 => return ([], hasSubject)
  | count + 1 => do
      if ← Reader.ahead Ahead.ended then return ([], hasSubject)
      let attributes ← Attribute.tokens
      if separated && (← Reader.ahead (Ahead.mark "...")) then
        return (attributes ++ (← Reader.mark "..."), hasSubject)
      match ← functionArgument grammar with
      | none =>
          if ← Reader.ahead Ahead.ended then return ([], true)
          let _ ← Reader.mark ","
          functionArguments grammar separated true count
      | some tokens =>
          if !separated then Reader.refuse .missingComma
          let argument := attributes ++ tokens
          if ← Reader.ahead Ahead.ended then return (argument, hasSubject)
          let comma ← Reader.mark ","
          let later ←
            functionArguments grammar (!hasSubject) hasSubject count
          return (argument ++ comma ++ later.1, later.2)

def function (grammar : Grammar) : Reader (List Token × Bool) := do
  let safety ← Reader.option (Ahead.word "unsafe") (Reader.word "unsafe")
  let origin ← Reader.option (Ahead.word "extern") do
    let word ← Reader.word "extern"
    let name ← if ← Reader.aheadString then Reader.literal else pure []
    return word ++ name
  let word ← Reader.word "fn"
  let arguments ← Reader.group .parenthesis do
    functionArguments grammar true false ((← Reader.tokens).length + 1)
  let result ← returned grammar
  return (safety ++ origin ++ word ++ .group .parenthesis arguments.1 :: result,
    arguments.2)

inductive Parenthesized where
  | whole
  | bound (tokens : List Token)
  /-- A type that others may follow if it is one bound. -/
  | type (bound? : Option (List Token))

def parenthesized (grammar : Grammar) : Reader (List Token × Parenthesized) :=
  Reader.group .parenthesis do
    if ← Reader.ahead Ahead.ended then return ([], .whole)
    else if ← Reader.ahead Ahead.lifetime then
      return (← bounds grammar true, .whole)
    else if ← Reader.ahead (Ahead.mark "?") then
      let tokens ← pathBound grammar
      return (tokens, .bound tokens)
    else
      let first ← grammar.type true
      if ← Reader.ahead (Ahead.mark ",") then
        let types ← Reader.complete (Reader.following Ahead.ended ","
          (do return (← grammar.type true).tokens) first.tokens)
        return (Listed.tokens "," types, .whole)
      else return (first.tokens, .type first.bound?)

/-- A type that begins with parentheses. After one bound in parentheses every
plus sign is followed by another bound. -/
def parenthesizedType (grammar : Grammar) (plus : Bool) : Reader Phrase := do
  let (tokens, content) ← parenthesized grammar
  let plain : Phrase := ⟨[.group .parenthesis tokens], none⟩
  let joined (tokens : List Token) : Reader Phrase := do
    let first : Bound := ⟨[.group .parenthesis tokens], false⟩
    let all ← Reader.following (fun _ => false) "+" (bound grammar) first
    return ⟨boundTokens all, if all.length == 1 then some tokens else none⟩
  match content with
  | .whole => return plain
  | .bound tokens => joined tokens
  | .type bound? =>
      if plus && (← Reader.ahead (Ahead.mark "+")) then
        match bound? with
        | some tokens => joined tokens
        | none => return plain
      else return plain

def pathType (grammar : Grammar) (general : List Token) (plus : Bool) :
    Reader Phrase := do
  if ← Reader.ahead (Ahead.mark "<") then
    let found ← callablePath grammar (← qualifiedPath grammar false)
    return ⟨found.tokens, none⟩
  else
    let found ← callablePath grammar (← path grammar false)
    let call (tokens : List Token) : Bool :=
      Ahead.mark "!" tokens && !Ahead.mark "!=" tokens
    if !found.hasBrackets && (← Reader.ahead call) then
      let bang ← Reader.mark "!"
      match ← Reader.any with
      | .group delimiter body =>
          return ⟨found.tokens ++ bang ++ [.group delimiter body], none⟩
      | _ => Reader.refuse .unexpectedToken
    else
      let first := general ++ found.tokens
      let all ← boundsAfter grammar plus ⟨first, false⟩
      let isAlone := all.all fun entry => !entry.2
      return ⟨boundTokens all, if isAlone then some first else none⟩

/-- Bounds after `dyn`. With a star after the word the type is kept as it
stands. -/
def objectType (grammar : Grammar) (plus : Bool) : Reader Phrase := do
  let before ← Reader.tokens
  let word ← Reader.word "dyn"
  let star ← Reader.option (Ahead.mark "*") (Reader.mark "*")
  let found ← bounds grammar plus
  if star.isEmpty then return ⟨word ++ found, none⟩
  else
    return ⟨before.take (before.length - (← Reader.tokens).length), none⟩

def pointerType (grammar : Grammar) : Reader Phrase := do
  let star ← Reader.mark "*"
  let word ← if ← Reader.ahead (Ahead.word "const") then Reader.word "const"
    else Reader.word "mut"
  return ⟨star ++ word ++ (← grammar.type false).tokens, none⟩

def referenceType (grammar : Grammar) : Reader Phrase := do
  let mark ← Reader.mark "&"
  let lifetime ← Reader.option Ahead.lifetime do
    return [.lifetime (← Reader.lifetime)]
  let word ← Reader.option (Ahead.word "mut") (Reader.word "mut")
  return ⟨mark ++ lifetime ++ word ++ (← grammar.type false).tokens, none⟩

def arrayType (grammar : Grammar) : Reader Phrase := do
  let tokens ← Reader.group .bracket do
    let element ← grammar.type true
    let length ← Reader.option (Ahead.mark ";") do
      return (← Reader.mark ";") ++ (← grammar.expression)
    return element.tokens ++ length
  return ⟨[.group .bracket tokens], none⟩

def beginsFunction (tokens : List Token) : Bool :=
  ["fn", "unsafe", "extern"].any fun text => Ahead.word text tokens

def functionType (grammar : Grammar) (before general : List Token) :
    Reader Phrase := do
  let (tokens, hasSubject) ← function grammar
  if hasSubject then
    return ⟨before.take (before.length - (← Reader.tokens).length), none⟩
  else return ⟨general ++ tokens, none⟩

def generalType (grammar : Grammar) (plus : Bool) : Reader Phrase := do
  let before ← Reader.tokens
  let general ← binder
  if ← Reader.ahead beginsFunction then functionType grammar before general
  else if (← Reader.ahead Ahead.pathWord) &&
      !(← Reader.ahead (Ahead.word "dyn")) then
    pathType grammar general plus
  else Reader.refuse .unexpectedToken

def typeWith (grammar : Grammar) (plus : Bool) : Reader Phrase := do
  let sees (test : List Token → Bool) : Reader Bool := Reader.ahead test
  if ← sees (Ahead.word "for") then generalType grammar plus
  else if ← sees (Ahead.group .parenthesis) then parenthesizedType grammar plus
  else if ← sees beginsFunction then
    functionType grammar (← Reader.tokens) []
  else if ← sees (Ahead.word "dyn") then objectType grammar plus
  else if ← sees fun tokens =>
      Ahead.pathWord tokens || Ahead.mark "::" tokens || Ahead.mark "<" tokens then
    pathType grammar [] plus
  else if ← sees (Ahead.group .bracket) then arrayType grammar
  else if ← sees (Ahead.mark "*") then pointerType grammar
  else if ← sees (Ahead.mark "&") then referenceType grammar
  else if ← sees (Ahead.mark "!") then return ⟨← Reader.mark "!", none⟩
  else if ← sees (Ahead.word "impl") then
    return ⟨(← Reader.word "impl") ++ (← bounds grammar plus), none⟩
  else if ← sees (Ahead.word "_") then return ⟨← Reader.word "_", none⟩
  else if ← sees Ahead.lifetime then return ⟨← bounds grammar true, none⟩
  else Reader.refuse .unexpectedToken

end Grammar

end Derive

end FlatGraph
