import DepositLedger.Text.Digits

/-! Places of settings, written as paths. The first step of a path is a key. Then come
keys, each after a dot, and positions in lists, each in brackets. -/

namespace DepositLedger

inductive PathStep where
  | key (name : String)
  /-- A position in a list, counted from its end if negative. -/
  | position (index : Int)
deriving DecidableEq

abbrev SettingsPath := List PathStep

namespace SettingsPath

def isKeyChar (char : Char) : Bool := char.isAlphanum || char = '_' || char = '-'

/-- Reads a key, as far as it goes. -/
def readKey? (chars : List Char) : Option (PathStep × List Char) :=
  let name := chars.takeWhile isKeyChar
  if name.isEmpty then none
  else some (.key (String.ofList name), chars.dropWhile isKeyChar)

def isPadding (char : Char) : Bool := char = ' ' || char = '\t'

/-- Reads a position after its opening bracket and up to its closing one. It must be of
the signed 64-bit range. -/
def readPosition? (chars : List Char) : Option (PathStep × List Char) :=
  let chars := chars.dropWhile isPadding
  let (negative, rest) :=
    match chars with
    | '-' :: rest => (true, rest)
    | _ => (false, chars)
  let digits := rest.takeWhile Char.isDigit
  let size : Int := Text.decimalValue digits
  let index := if negative then -size else size
  let fits := -0x8000000000000000 ≤ index ∧ index < 0x8000000000000000
  match (rest.dropWhile Char.isDigit).dropWhile isPadding with
  | ']' :: rest => if !digits.isEmpty ∧ fits then some (.position index, rest) else none
  | _ => none

/-- Reads at most so many steps that follow the first one. -/
def readSteps? : (most : Nat) → List Char → Option SettingsPath
  | _, [] => some []
  | most + 1, '.' :: rest =>
    (readKey? rest).bind fun (step, rest) => (readSteps? most rest).map (step :: ·)
  | most + 1, '[' :: rest =>
    (readPosition? rest).bind fun (step, rest) => (readSteps? most rest).map (step :: ·)
  | _, _ => none

def ofText? (text : String) : Option SettingsPath :=
  (readKey? text.toList).bind fun (step, rest) =>
    (readSteps? rest.length rest).map (step :: ·)

/-- The place that a name stands for. A name that is not a path is a key. -/
def ofName (name : String) : SettingsPath := (ofText? name).getD [.key name]

end SettingsPath

end DepositLedger
