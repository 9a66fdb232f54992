import FlatGraph.Derive.Escape
import FlatGraph.Derive.Number

namespace FlatGraph

namespace Derive

/-- What a quoted text holds: characters, bytes, or the characters of a text
that a zero ends. -/
inductive TextKind where
  | characters
  | bytes
  | zeroEnded
  deriving DecidableEq, Repr

namespace TextKind

def admits (kind : TextKind) (c : Char) : Bool :=
  match kind with
  | .characters => true
  | .bytes => c.toNat < 0x80
  | .zeroEnded => c.toNat != 0

def admitsCode (kind : TextKind) (code : Nat) : Bool :=
  match kind with
  | .characters => code < 0x80
  | .bytes => true
  | .zeroEnded => code != 0

end TextKind

namespace Quoted

open Escape (quote apostrophe backslash)
open Number (run value?)

/-- The length of quoted text after its opening quote, the closing one
included; a backslash protects the character after it. -/
def quotedLength (close : Char) : List Char → Option Nat
  | [] => none
  | c :: rest =>
      if c == close then some 1
      else if c == backslash then
        match rest with
        | [] => none
        | _ :: rest => (quotedLength close rest).map (· + 2)
      else (quotedLength close rest).map (· + 1)

def rawLength (hashes : Nat) : List Char → Option Nat
  | [] => none
  | c :: rest =>
      if c == quote && run (· == '#') rest ≥ hashes then some (hashes + 1)
      else (rawLength hashes rest).map (· + 1)

def bareReturn : List Char → Bool
  | [] => false
  | '\r' :: '\n' :: rest => bareReturn rest
  | '\r' :: _ => true
  | _ :: rest => bareReturn rest

def isLineBlank (c : Char) : Bool :=
  c == ' ' || c == '\t' || c == '\n' || c == '\r'

def simpleEscape? (kind : TextKind) (c : Char) : Option Char :=
  if c == 'n' then some '\n'
  else if c == 'r' then some '\r'
  else if c == 't' then some '\t'
  else if c == '0' && kind != .zeroEnded then some (Char.ofNat 0)
  else if c == backslash || c == quote || c == apostrophe then some c
  else none

def codeEscape? (kind : TextKind) (high low : Char) : Option Char :=
  (Number.digitValue high).bind fun high =>
    (Number.digitValue low).bind fun low =>
      let code := 16 * high + low
      if kind.admitsCode code then some (Char.ofNat code) else none

/-- The character that digits between braces stand for: one to six of them,
with underscores after the first. -/
def pointEscape? (kind : TextKind) (digits : List Char) : Option Char :=
  let count := (digits.filter (· != '_')).length
  if kind == .bytes || digits.head? == some '_' || count > 6 then none
  else
    (value? 16 digits).bind fun code =>
      if code.isValidChar && kind.admits (Char.ofNat code) then
        some (Char.ofNat code)
      else none

/-- What the characters between two quotes stand for. A backslash at the end
of a line takes along the blanks that follow it. -/
def decode? (kind : TextKind) : List Char → Option (List Char)
  | [] => some []
  | c :: rest =>
      if c == backslash then
        match rest with
        | 'x' :: high :: low :: rest =>
            (codeEscape? kind high low).bind fun plain =>
              (decode? kind rest).map (plain :: ·)
        | 'u' :: '\x7b' :: rest =>
            let digits := rest.takeWhile (· != '\x7d')
            if rest.contains '\x7d' then
              (pointEscape? kind digits).bind fun plain =>
                (decode? kind (rest.drop (digits.length + 1))).map (plain :: ·)
            else none
        | escaped :: rest =>
            if escaped == '\n' || escaped == '\r' then
              if bareReturn (escaped :: rest.takeWhile isLineBlank) then none
              else decode? kind (rest.dropWhile isLineBlank)
            else
              (simpleEscape? kind escaped).bind fun plain =>
                (decode? kind rest).map (plain :: ·)
        | [] => none
      else if c == '\r' then
        match rest with
        | '\n' :: rest => (decode? kind rest).map ('\n' :: ·)
        | _ => none
      else if kind.admits c then (decode? kind rest).map (c :: ·)
      else none
termination_by cs => cs.length
decreasing_by
  · simp only [List.length_cons]; omega
  · simp only [List.length_cons, List.length_drop]; omega
  · have shorter := (List.dropWhile_sublist isLineBlank (l := rest)).length_le
    simp only [List.length_cons]; omega
  · simp only [List.length_cons]; omega
  · simp only [List.length_cons]; omega
  · simp only [List.length_cons]; omega

def text? (kind : TextKind) (cs : List Char) : Option Nat :=
  (quotedLength quote cs).bind fun length =>
    (decode? kind (cs.take (length - 1))).map fun _ => length

def rawText? (kind : TextKind) (cs : List Char) : Option Nat :=
  let hashes := run (· == '#') cs
  match cs.drop hashes with
  | c :: rest =>
      if c == quote && hashes ≤ 255 then
        (rawLength hashes rest).bind fun length =>
          let body := rest.take (length - (hashes + 1))
          if body.all kind.admits && !bareReturn body then
            some (hashes + 1 + length)
          else none
      else none
  | [] => none

/-- The length of one character after its opening apostrophe: an escape, or
any character at all. -/
def character? (kind : TextKind) : List Char → Option Nat
  | c :: next :: rest =>
      if c == backslash then
        (quotedLength apostrophe (c :: next :: rest)).bind fun length =>
          let body := (c :: next :: rest).take (length - 1)
          match decode? kind body with
          | some [_] =>
              if next == '\n' || next == '\r' then none else some length
          | _ => none
      else if next == apostrophe && kind.admits c then some 2
      else none
  | _ => none

def forms : List (String × (List Char → Option Nat)) :=
  [("\"", text? .characters), ("r", rawText? .characters),
   ("b\"", text? .bytes), ("br", rawText? .bytes),
   ("c\"", text? .zeroEnded), ("cr", rawText? .zeroEnded),
   ("b'", character? .bytes), ("'", character? .characters)]

def length? (cs : List Char) : Option Nat :=
  forms.findSome? fun form =>
    let mark := form.1.toList
    if mark.isPrefixOf cs then
      (form.2 (cs.drop mark.length)).map fun length =>
        Number.withSuffix (mark.length + length) cs
    else none

end Quoted

end Derive

end FlatGraph
