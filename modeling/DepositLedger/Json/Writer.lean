import DepositLedger.Decimal.Shortest
import DepositLedger.Json
import DepositLedger.Text.Digits

/-! Values written as JSON text, without blanks, and in ASCII: every other
character has an escape of one or two units of sixteen bits. -/

namespace DepositLedger.Json

open DepositLedger.Text

def unitEscape (unit : Nat) : List Char := '\\' :: 'u' :: fixedDigits 16 4 unit

def escapeChar (char : Char) : List Char :=
  if char = '"' ∨ char = '\\' then ['\\', char]
  else if 0x20 ≤ char.toNat ∧ char.toNat < 0x7F then [char]
  else if char.toNat < 0x10000 then unitEscape char.toNat
  else
    let beyond := char.toNat - 0x10000
    unitEscape (0xD800 + beyond / 0x400) ++ unitEscape (0xDC00 + beyond % 0x400)

def quoteText (text : String) : String :=
  String.ofList ('"' :: text.toList.flatMap escapeChar ++ ['"'])

/-- A double as text. A whole one has a fraction too, so that it is not read as an
integer. -/
def realText (value : Float) : String :=
  let text := (Decimal.ofFloat value).toText
  if text.toList.contains '.' then text else text ++ ".0"

mutual
/-- A value as text; members of objects in the order they have. -/
def toText : Json → String
  | null => "null"
  | flag true => "true"
  | flag false => "false"
  | integer value => toString value
  | real value => realText value
  | text value => quoteText value
  | list items => "[" ++ ",".intercalate (itemTexts items) ++ "]"
  | object members => "\x7b" ++ ",".intercalate (memberTexts members) ++ "\x7d"

def itemTexts : List Json → List String
  | [] => []
  | item :: rest => item.toText :: itemTexts rest

def memberTexts : List (String × Json) → List String
  | [] => []
  | (key, value) :: rest => (quoteText key ++ ":" ++ value.toText) :: memberTexts rest
end

end DepositLedger.Json
