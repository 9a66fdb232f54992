import FlatGraph.Derive.Letter

namespace FlatGraph

namespace Derive

namespace Number

open Letter (beginsWord continuesWord)

def digitValue (c : Char) : Option Nat :=
  if c.isDigit then some (c.toNat - '0'.toNat)
  else if 'a' ≤ c ∧ c ≤ 'f' then some (c.toNat - 'a'.toNat + 10)
  else if 'A' ≤ c ∧ c ≤ 'F' then some (c.toNat - 'A'.toNat + 10)
  else none

def value? (base : Nat) (cs : List Char) : Option Nat :=
  let digits := cs.filter (· != '_')
  if digits.isEmpty then none
  else
    digits.foldlM (fun value c =>
      (digitValue c).bind fun digit =>
        if digit < base then some (value * base + digit) else none) 0

def run (test : Char → Bool) (cs : List Char) : Nat :=
  (cs.takeWhile test).length

def isDigitMark (c : Char) : Bool :=
  c.isDigit || c == '_'

def withSuffix (length : Nat) (cs : List Char) : Nat :=
  match cs.drop length with
  | c :: rest =>
      if beginsWord c then length + 1 + run continuesWord rest else length
  | [] => length

/-- The length of a number with its suffix. What could continue a word but not
begin a suffix may not follow. -/
def suffixed? (cs : List Char) (length : Nat) : Option Nat :=
  let total := withSuffix length cs
  if (cs.drop total).head?.any continuesWord then none else some total

/-- The length of an exponent after its letter: a sign and digits, with
underscores on both sides of the sign. -/
def exponent? (cs : List Char) : Option Nat :=
  let marks := run (· == '_') cs
  let sign := if (cs.drop marks).head?.any fun c => c == '+' || c == '-'
    then 1 else 0
  let digits := (cs.drop (marks + sign)).takeWhile isDigitMark
  if digits.any Char.isDigit then some (marks + sign + digits.length)
  else none

/-- The length of a number with a fraction or an exponent, its first digit at
the front. A point belongs to it unless another point or a name follows. -/
def fractional? (cs : List Char) : Option Nat :=
  let whole := run isDigitMark cs
  let withExponent (length : Nat) : Option Nat :=
    match cs.drop length with
    | c :: rest =>
        if c == 'e' || c == 'E' then (exponent? rest).map (length + 1 + ·)
        else none
    | [] => none
  match cs.drop whole with
  | '.' :: rest =>
      if rest.head?.any fun c => c == '.' || beginsWord c then none
      else
        let length := whole + 1 + run isDigitMark rest
        some ((withExponent length).getD length)
  | _ => withExponent whole

/-- The length of digits of a base. A decimal digit that the base does not have
spoils them; a letter ends them. -/
def digits? (base : Nat) (cs : List Char) : Option Nat :=
  let isMark (c : Char) : Bool :=
    isDigitMark c || (digitValue c).any (· < base)
  let digits := cs.takeWhile isMark
  if (value? base digits).isSome then some digits.length else none

def whole? : List Char → Option Nat
  | '0' :: 'x' :: rest => (digits? 16 rest).map (· + 2)
  | '0' :: 'o' :: rest => (digits? 8 rest).map (· + 2)
  | '0' :: 'b' :: rest => (digits? 2 rest).map (· + 2)
  | cs => digits? 10 cs

def length? (cs : List Char) : Option Nat :=
  if cs.head?.any Char.isDigit then
    ((fractional? cs).bind (suffixed? cs)) <|>
      ((whole? cs).bind (suffixed? cs))
  else none

end Number

end Derive

end FlatGraph
