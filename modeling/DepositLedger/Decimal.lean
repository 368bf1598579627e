import DepositLedger.Text.Digits

/-! Decimal numbers. They are written with all their digits in place and without an
exponent, with a fraction only where they have one. -/

namespace DepositLedger

/-- The number of `digits` units of the power of ten that `place` says. -/
structure Decimal where
  negative : Bool
  digits : Nat
  place : Int
deriving DecidableEq

namespace Decimal

def sizeText (decimal : Decimal) : String :=
  match decimal.place with
  | .ofNat zeros => toString (decimal.digits * Nat.pow 10 zeros)
  | .negSucc places =>
    let width := places + 1
    toString (decimal.digits / Nat.pow 10 width) ++ "." ++
      String.ofList (Text.fixedDigits 10 width decimal.digits)

def toText (decimal : Decimal) : String :=
  if decimal.negative then "-" ++ decimal.sizeText else decimal.sizeText

end Decimal

end DepositLedger
