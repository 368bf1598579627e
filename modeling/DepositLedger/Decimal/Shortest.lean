import DepositLedger.Decimal

/-! The decimal number that stands for a binary one: of those that are nearer to it
than to any other binary number, one with the fewest digits, and of these the nearest.
Of two that are equally near it is the greater. -/

namespace DepositLedger

/-- A finite number of the 64-bit binary format: `significand` units of the power of two
that `exponent` says. -/
structure BinaryNumber where
  negative : Bool
  significand : Nat
  exponent : Int
deriving DecidableEq

namespace BinaryNumber

/-- The number that a finite `value` is. A number of the least exponent may have any
significand, another one has a significand of 53 bits. -/
def ofFloat (value : Float) : BinaryNumber :=
  let bits := value.toBits.toNat
  let fraction := bits % 0x10000000000000
  let field := bits / 0x10000000000000 % 0x800
  let negative := bits / 0x8000000000000000 == 1
  if field = 0 then ⟨negative, fraction, -1074⟩
  else ⟨negative, 0x10000000000000 + fraction, (field : Int) - 1075⟩

/-- The size of a number, as a whole number of steps of a grid. One that lies half way
between two of them is the greater. -/
def nearestWhole (number : BinaryNumber) : Nat :=
  let steps := number.significand * Nat.pow 2 number.exponent.toNat
  let step := Nat.pow 2 (-number.exponent).toNat
  (2 * steps + step) / (2 * step)

/-- Whether a size is read as `number`, where `quarter` is the size of a quarter of its
unit. Half way to the next number it is read as the one whose significand is even. The
next number below is only half as far away where the significand is the least of 53
bits and the exponent is not the least one. -/
def reads (number : BinaryNumber) (quarter size : Nat) : Bool :=
  let middle := 4 * number.significand * quarter
  let isFirst := number.significand == 0x10000000000000 && number.exponent != -1074
  let below := if isFirst then middle - quarter else middle - 2 * quarter
  let above := middle + 2 * quarter
  if number.significand % 2 == 0 then below ≤ size && size ≤ above
  else below < size && size < above

/-- How many units of the power of ten that `place` says are read as `number`. Where the
numbers of units on both sides of it are, the answer is the nearer one. -/
def digits? (number : BinaryNumber) (place : Int) : Option Nat :=
  let quarter := Nat.pow 2 (number.exponent - 2).toNat * Nat.pow 10 (-place).toNat
  let step := Nat.pow 2 (2 - number.exponent).toNat * Nat.pow 10 place.toNat
  let middle := 4 * number.significand * quarter
  let nearest := (2 * middle + step) / (2 * step)
  let other := 2 * (middle / step) + 1 - nearest
  [nearest, other].find? fun digits => number.reads quarter (digits * step)

/-- The shortest decimal number that is read as `number`. The greatest number has 309
digits before its point, the least one 324 after it. -/
def shortest (number : BinaryNumber) : Decimal :=
  let zero : Decimal := ⟨number.negative, 0, 0⟩
  if number.significand = 0 then zero
  else
    let found? := (List.range 633).findSome? fun (index : Nat) =>
      let place : Int := 308 - index
      (number.digits? place).map fun digits => ⟨number.negative, digits, place⟩
    found?.getD zero

end BinaryNumber

/-- The shortest decimal number that is read as a finite `value`. -/
def Decimal.ofFloat (value : Float) : Decimal := (BinaryNumber.ofFloat value).shortest

end DepositLedger
