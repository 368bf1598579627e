import DepositLedger.Text.Digits

/-! Quoted texts of TOML. A text stands in double quotes, where a backslash begins an
escape, or in single quotes, where it does not. Three quotes enclose a block, which may
hold ends of lines and keeps them as they are written. -/

namespace DepositLedger.Toml

def isBlank (char : Char) : Bool := char = ' ' || char = '\t'

/-- A character that may stand bare in a text or a comment. Of control characters only
the tab may. -/
def isPlain (char : Char) : Bool :=
  char = '\t' || (0x20 ≤ char.toNat && char.toNat != 0x7F)

/-- What follows the end of a line, if it comes next. -/
def afterNewline? : List Char → Option (List Char)
  | '\n' :: rest | '\r' :: '\n' :: rest => some rest
  | _ => none

def skipBlanksAndNewlines : List Char → List Char
  | ' ' :: rest | '\t' :: rest | '\n' :: rest | '\r' :: '\n' :: rest =>
    skipBlanksAndNewlines rest
  | chars => chars

/-- Reads the character whose code is written in so many digits. -/
def readCode? (width : Nat) (chars : List Char) : Option (Char × List Char) :=
  let digits := chars.take width
  (Text.digitsValue? 16 digits).bind fun code =>
    if digits.length = width ∧ (code < 0xD800 ∨ 0xE000 ≤ code ∧ code < 0x110000) then
      some (Char.ofNat code, chars.drop width)
    else none

def readEscape? : List Char → Option (Char × List Char)
  | '"' :: rest => some ('"', rest)
  | '\\' :: rest => some ('\\', rest)
  | 'b' :: rest => some ('\x08', rest)
  | 'e' :: rest => some ('\x1b', rest)
  | 'f' :: rest => some ('\x0c', rest)
  | 'n' :: rest => some ('\n', rest)
  | 'r' :: rest => some ('\r', rest)
  | 't' :: rest => some ('\t', rest)
  | 'x' :: rest => readCode? 2 rest
  | 'u' :: rest => readCode? 4 rest
  | 'U' :: rest => readCode? 8 rest
  | _ => none

/-- What follows a backslash that ends a line: it takes all blanks and ends of lines
after it along. -/
def afterJoin? (chars : List Char) : Option (List Char) :=
  (afterNewline? (chars.dropWhile isBlank)).map skipBlanksAndNewlines

/-- Reads a text up to its closing quote, at most `most` characters of it. The characters
read so far come latest first. -/
def readLine? (quote : Char) (most : Nat) (read : List Char) (chars : List Char) :
    Option (String × List Char) :=
  match most, chars with
  | 0, _ | _, [] => none
  | most + 1, char :: rest =>
    if char = quote then some (String.ofList read.reverse, rest)
    else if char = '\\' ∧ quote = '"' then
      (readEscape? rest).bind fun (char, rest) => readLine? quote most (char :: read) rest
    else if isPlain char then readLine? quote most (char :: read) rest
    else none

/-- Reads a block up to its three closing quotes. Two more quotes before these are part
of the block. -/
def readBlock? (quote : Char) (most : Nat) (read : List Char) (chars : List Char) :
    Option (String × List Char) :=
  match most, chars with
  | 0, _ | _, [] => none
  | most + 1, char :: rest =>
    let quotes := (((char :: rest).take 5).takeWhile (· = quote)).length
    if 3 ≤ quotes then
      let read := List.replicate (quotes - 3) quote ++ read
      some (String.ofList read.reverse, rest.drop (quotes - 1))
    else if char = '\\' ∧ quote = '"' then
      match afterJoin? rest with
      | some rest => readBlock? quote most read rest
      | none =>
        (readEscape? rest).bind fun (char, rest) => readBlock? quote most (char :: read) rest
    else
      match char, rest with
      | '\r', '\n' :: rest => readBlock? quote most ('\n' :: '\r' :: read) rest
      | char, rest =>
        if char = '\n' ∨ isPlain char then readBlock? quote most (char :: read) rest else none

/-- Reads what follows a quote: the rest of a text. -/
def readQuoted? (quote : Char) (chars : List Char) : Option (String × List Char) :=
  readLine? quote chars.length [] chars

/-- Reads what follows a quote: the rest of a text or of a block. An end of line right
after the opening of a block is not part of it. -/
def readQuotedOrBlock? (quote : Char) (chars : List Char) : Option (String × List Char) :=
  match chars with
  | first :: second :: rest =>
    if first = quote ∧ second = quote then
      let rest := (afterNewline? rest).getD rest
      readBlock? quote rest.length [] rest
    else readQuoted? quote chars
  | _ => readQuoted? quote chars

end DepositLedger.Toml
