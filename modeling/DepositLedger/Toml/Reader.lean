import DepositLedger.Toml.Moment
import DepositLedger.Toml.Number
import DepositLedger.Toml.Quoted
import DepositLedger.Toml.Table

/-! Texts of TOML read as trees. Within the braces of a table, as within the brackets of a
list, a line may end wherever a blank may stand, save within a key. -/

namespace DepositLedger.Toml

/-- How deep lists and tables may be nested within a value, and how many keys with dots
between them may stand in a row. -/
def depthLimit : Nat := 80

def skipBlanks (chars : List Char) : List Char := chars.dropWhile isBlank

/-- Skips blanks, ends of lines and comments, as far as they are well formed. -/
def skipFiller (inComment : Bool) : List Char → List Char
  | '\n' :: rest | '\r' :: '\n' :: rest => skipFiller false rest
  | char :: rest =>
    if inComment then if isPlain char then skipFiller true rest else char :: rest
    else if char = '#' then skipFiller true rest
    else if isBlank char then skipFiller false rest
    else char :: rest
  | [] => []

/-- Reads the end of a line, or of the text, and a comment before it. -/
def readLineEnd? (chars : List Char) : Option (List Char) :=
  let rest :=
    match skipBlanks chars with
    | '#' :: rest => rest.dropWhile isPlain
    | rest => rest
  if rest.isEmpty then some [] else afterNewline? rest

def isKeyChar (char : Char) : Bool := char.isAlphanum || char = '_' || char = '-'

/-- Reads a key that has no dots outside of quotes. -/
def readKey? (chars : List Char) : Option (String × List Char) :=
  match chars with
  | '"' :: rest => readQuoted? '"' rest
  | '\'' :: rest => readQuoted? '\'' rest
  | _ =>
    let name := chars.takeWhile isKeyChar
    if name.isEmpty then none else some (String.ofList name, chars.dropWhile isKeyChar)

/-- Reads at most so many keys with dots between them, and the blanks around them. -/
def readPath? : (most : Nat) → List Char → Option (List String × List Char)
  | 0, _ => none
  | most + 1, chars =>
    (readKey? (skipBlanks chars)).bind fun (key, rest) =>
      match skipBlanks rest with
      | '.' :: rest => (readPath? most rest).map fun (path, rest) => (key :: path, rest)
      | rest => some ([key], rest)

/-- A character of a value that is neither quoted nor a container. -/
def isWordChar (char : Char) : Bool :=
  char.isAlphanum || char = '+' || char = '-' || char = '_' || char = '.' || char = ':'

/-- Reads the characters of such a value. Between a date and a time there may be a
blank. -/
def readWord (chars : List Char) : List Char × List Char :=
  let word := chars.takeWhile isWordChar
  match (Moment.readDate? word).map Prod.snd, chars.dropWhile isWordChar with
  | some [], ' ' :: rest =>
    let time := rest.takeWhile isWordChar
    if (Moment.readTime? time).isSome then
      (word ++ ' ' :: time, rest.dropWhile isWordChar)
    else (word, ' ' :: rest)
  | _, rest => (word, rest)

def valueOfWord? (word : List Char) : Option SettingsTree :=
  if word = ['t', 'r', 'u', 'e'] then some (.flag true)
  else if word = ['f', 'a', 'l', 's', 'e'] then some (.flag false)
  else
    match Number.ofChars? word with
    | some (.integer value) => some (.integer value)
    | some (.real value) => some (.real value)
    | none => (Moment.ofChars? word).map .text

/-- Reads a value that is no container. -/
def readScalar? : List Char → Option (SettingsTree × List Char)
  | '"' :: rest => (readQuotedOrBlock? '"' rest).map fun (text, rest) => (.text text, rest)
  | '\'' :: rest => (readQuotedOrBlock? '\'' rest).map fun (text, rest) => (.text text, rest)
  | chars =>
    let (word, rest) := readWord chars
    (valueOfWord? word).map fun value => (value, rest)

/-- Reads the items of a list after its opening bracket and up to its closing one. A
comma may follow the last item. -/
def readItems? (readItem? : List Char → Option (SettingsTree × List Char)) :
    (most : Nat) → List Char → Option (List SettingsTree × List Char)
  | 0, _ => none
  | most + 1, chars =>
    match skipFiller false chars with
    | ']' :: rest => some ([], rest)
    | chars =>
      (readItem? chars).bind fun (item, rest) =>
        match skipFiller false rest with
        | ']' :: rest => some ([item], rest)
        | ',' :: rest =>
          (readItems? readItem? most rest).map fun (items, rest) => (item :: items, rest)
        | _ => none

/-- Reads a key, the sign after it and its value, with what may be skipped around the
sign. -/
def readKeyValue? (skip : List Char → List Char)
    (readItem? : List Char → Option (SettingsTree × List Char)) (chars : List Char) :
    Option ((List String × SettingsTree) × List Char) :=
  (readPath? depthLimit chars).bind fun (path, rest) =>
    match skip rest with
    | '=' :: rest => (readItem? (skip rest)).map fun (value, rest) => ((path, value), rest)
    | _ => none

/-- Reads the entries of a table that is written as a value, after its opening brace and
up to its closing one. A comma may follow the last entry. -/
def readKeyValues? (readItem? : List Char → Option (SettingsTree × List Char)) :
    (most : Nat) → Entries → List Char → Option (Entries × List Char)
  | 0, _, _ => none
  | most + 1, entries, chars =>
    match skipFiller false chars with
    | '\x7d' :: rest => some (entries, rest)
    | chars =>
      (readKeyValue? (skipFiller false) readItem? chars).bind fun ((path, value), rest) =>
        (setKey? value path entries).bind fun entries =>
          match skipFiller false rest with
          | '\x7d' :: rest => some (entries, rest)
          | ',' :: rest => readKeyValues? readItem? most entries rest
          | _ => none

/-- Reads a value with at most so many levels of containers, none of them longer than
`most`. -/
def readValue? (most : Nat) : (levels : Nat) → List Char → Option (SettingsTree × List Char)
  | 0, chars => readScalar? chars
  | levels + 1, chars =>
    match chars with
    | '[' :: rest =>
      (readItems? (readValue? most levels) most rest).map fun (items, rest) =>
        (.list items, rest)
    | '\x7b' :: rest =>
      (readKeyValues? (readValue? most levels) most [] rest).map fun (entries, rest) =>
        (.table (trees entries), rest)
    | chars => readScalar? chars

/-- Reads the path of a header up to its closing brackets. -/
def readHeader? (closing : List Char) (chars : List Char) :
    Option (List String × List Char) :=
  (readPath? depthLimit chars).bind fun (path, rest) =>
    if closing.isPrefixOf rest then some (path, rest.drop closing.length) else none

def readStatement? (most : Nat) : List Char → Option (Statement × List Char)
  | '[' :: '[' :: rest =>
    (readHeader? [']', ']'] rest).map fun (path, rest) => (.tables path, rest)
  | '[' :: rest => (readHeader? [']'] rest).map fun (path, rest) => (.table path, rest)
  | chars =>
    (readKeyValue? skipBlanks (readValue? most depthLimit) chars).map fun ((path, value), rest) =>
      (.entry path value, rest)

/-- Reads at most so many statements, each of which ends its line. -/
def readStatements? : (most : Nat) → List Char → Option (List Statement)
  | 0, _ => none
  | most + 1, chars =>
    match skipFiller false chars with
    | [] => some []
    | chars =>
      (readStatement? chars.length chars).bind fun (statement, rest) =>
        (readLineEnd? rest).bind fun rest =>
          (readStatements? most rest).map fun statements => statement :: statements

/-- The entries of the table that a text is. It may begin with a byte order mark. -/
def read? (text : String) : Option (List (String × SettingsTree)) :=
  let chars :=
    match text.toList with
    | '\ufeff' :: rest => rest
    | chars => chars
  (readStatements? (chars.length + 1) chars).bind Document.read?

end DepositLedger.Toml
