import DepositLedger.Json.Number

/-! JSON text read as values. Containers may be nested 127 levels deep. A text may
hold no bare control character, and every escape in it must stand for a character:
a surrogate only in a pair. Of members with one key the last counts. -/

namespace DepositLedger.Json

open DepositLedger.Text

def isSpace (char : Char) : Bool :=
  char = ' ' || char = '\t' || char = '\n' || char = '\r'

def skipSpace (chars : List Char) : List Char := chars.dropWhile isSpace

/-- Reads the digits of an escape: a unit of sixteen bits. -/
def readUnit? : List Char → Option (Nat × List Char)
  | first :: second :: third :: fourth :: rest =>
    (digitsValue? 16 [first, second, third, fourth]).map fun unit => (unit, rest)
  | _ => none

/-- Reads the second unit of a pair whose first one carries the given high bits. -/
def readLowSurrogate? (high : Nat) : List Char → Option (Char × List Char)
  | '\\' :: 'u' :: rest =>
    (readUnit? rest).bind fun (unit, rest) =>
      if 0xDC00 ≤ unit ∧ unit < 0xE000 then
        some (Char.ofNat (0x10000 + high * 0x400 + (unit - 0xDC00)), rest)
      else none
  | _ => none

def readEscape? : List Char → Option (Char × List Char)
  | '"' :: rest => some ('"', rest)
  | '\\' :: rest => some ('\\', rest)
  | '/' :: rest => some ('/', rest)
  | 'b' :: rest => some ('\x08', rest)
  | 'f' :: rest => some ('\x0c', rest)
  | 'n' :: rest => some ('\n', rest)
  | 'r' :: rest => some ('\r', rest)
  | 't' :: rest => some ('\t', rest)
  | 'u' :: rest =>
    (readUnit? rest).bind fun (unit, rest) =>
      if 0xD800 ≤ unit ∧ unit < 0xDC00 then readLowSurrogate? (unit - 0xD800) rest
      else if 0xDC00 ≤ unit ∧ unit < 0xE000 then none
      else some (Char.ofNat unit, rest)
  | _ => none

/-- Reads a text up to its closing quote, at most `most` characters of it. The
characters read so far come latest first. -/
def readText? (most : Nat) (read : List Char) (chars : List Char) :
    Option (String × List Char) :=
  match most, chars with
  | 0, _ | _, [] => none
  | _ + 1, '"' :: rest => some (String.ofList read.reverse, rest)
  | most + 1, '\\' :: rest =>
    (readEscape? rest).bind fun (char, rest) => readText? most (char :: read) rest
  | most + 1, char :: rest =>
    if char.toNat < 0x20 then none else readText? most (char :: read) rest

def readWord? : List Char → Option (Json × List Char)
  | 'n' :: 'u' :: 'l' :: 'l' :: rest => some (null, rest)
  | 't' :: 'r' :: 'u' :: 'e' :: rest => some (flag true, rest)
  | 'f' :: 'a' :: 'l' :: 's' :: 'e' :: rest => some (flag false, rest)
  | _ => none

/-- Reads a value that is no container. -/
def readScalar? (most : Nat) : List Char → Option (Json × List Char)
  | '"' :: rest => (readText? most [] rest).map fun (value, rest) => (text value, rest)
  | chars => (readWord? chars).or (readNumber? chars)

/-- Reads the items of a list after its opening bracket and up to its closing one. -/
def readItems? (readItem? : List Char → Option (Json × List Char)) :
    (most : Nat) → List Char → Option (List Json × List Char)
  | 0, _ => none
  | most + 1, chars =>
    (readItem? chars).bind fun (item, rest) =>
      match skipSpace rest with
      | ']' :: rest => some ([item], rest)
      | ',' :: rest =>
        (readItems? readItem? most rest).map fun (items, rest) => (item :: items, rest)
      | _ => none

/-- Reads a member of an object: a key of at most so many characters, and its value. -/
def readMember? (readItem? : List Char → Option (Json × List Char)) (most : Nat)
    (chars : List Char) : Option ((String × Json) × List Char) :=
  match skipSpace chars with
  | '"' :: rest =>
    (readText? most [] rest).bind fun (key, rest) =>
      match skipSpace rest with
      | ':' :: rest => (readItem? rest).map fun (value, rest) => ((key, value), rest)
      | _ => none
  | _ => none

/-- Reads the members of an object after its opening brace and up to its closing one. -/
def readMembers?
    (readPair? : List Char → Option ((String × Json) × List Char)) :
    (most : Nat) → List Char → Option (List (String × Json) × List Char)
  | 0, _ => none
  | most + 1, chars =>
    (readPair? chars).bind fun (member, rest) =>
      match skipSpace rest with
      | '\x7d' :: rest => some ([member], rest)
      | ',' :: rest =>
        (readMembers? readPair? most rest).map fun (members, rest) => (member :: members, rest)
      | _ => none

def keepLast : List (String × Json) → List (String × Json)
  | [] => []
  | member :: rest =>
    if rest.any (·.1 == member.1) then keepLast rest else member :: keepLast rest

/-- Reads a value with at most so many levels of containers, no list, object or text
in it longer than `most`. -/
def readValue? (most : Nat) : (levels : Nat) → List Char → Option (Json × List Char)
  | 0, chars => readScalar? most (skipSpace chars)
  | levels + 1, chars =>
    match skipSpace chars with
    | '[' :: rest =>
      match skipSpace rest with
      | ']' :: rest => some (list [], rest)
      | rest =>
        (readItems? (readValue? most levels) most rest).map fun (items, rest) =>
          (list items, rest)
    | '\x7b' :: rest =>
      match skipSpace rest with
      | '\x7d' :: rest => some (object [], rest)
      | rest =>
        (readMembers? (readMember? (readValue? most levels) most) most rest).map
          fun (members, rest) => (object (keepLast members), rest)
    | chars => readScalar? most chars

/-- Reads a text that holds one value and nothing else. -/
def ofText? (text : String) : Option Json :=
  let chars := text.toList
  (readValue? chars.length 127 chars).bind fun (json, rest) =>
    if (skipSpace rest).isEmpty then some json else none

end DepositLedger.Json
