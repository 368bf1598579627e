/-! Numbers written in digits, most significant first. `fixedDigits` writes a
number in a given base and width, `digitsValue?` reads one back, and
`digitsValue?_fixedDigits` says that reading undoes writing. -/

namespace DepositLedger.Text

def digitChar (value : Nat) : Char :=
  if value < 10 then Char.ofNat (48 + value) else Char.ofNat (87 + value)

/-- The value of a decimal or hexadecimal digit of either case. -/
def digitValue? (char : Char) : Option Nat :=
  if '0' ≤ char ∧ char ≤ '9' then some (char.toNat - 48)
  else if 'a' ≤ char ∧ char ≤ 'f' then some (char.toNat - 87)
  else if 'A' ≤ char ∧ char ≤ 'F' then some (char.toNat - 55)
  else none

/-- The last `width` digits of `number`, with leading zeros where it has fewer. -/
def fixedDigits (base : Nat) : (width : Nat) → (number : Nat) → List Char
  | 0, _ => []
  | width + 1, number =>
    fixedDigits base width (number / base) ++ [digitChar (number % base)]

/-- Appends one digit to a number read so far; refuses digits the base lacks. -/
def appendDigit? (base : Nat) (number : Nat) (char : Char) : Option Nat :=
  (digitValue? char).bind fun digit =>
    if digit < base then some (number * base + digit) else none

/-- The number that digits spell; no digits spell zero. -/
def digitsValue? (base : Nat) (chars : List Char) : Option Nat :=
  chars.foldlM (appendDigit? base) 0

/-- The number that decimal digits spell, characters of other kinds read as zero. -/
def decimalValue (chars : List Char) : Nat :=
  chars.foldl (fun number char => number * 10 + (char.toNat - 48)) 0

theorem length_fixedDigits (base width number : Nat) :
    (fixedDigits base width number).length = width := by
  induction width generalizing number with
  | zero => rfl
  | succ width induction => simp [fixedDigits, induction]

theorem digitValue?_digitChar {value : Nat} (small : value < 16) :
    digitValue? (digitChar value) = some value := by
  have every : ∀ value : Fin 16, digitValue? (digitChar value) = some value.val := by decide
  exact every ⟨value, small⟩

theorem digitsValue?_fixedDigits {base width number : Nat} (positive : 0 < base)
    (small : base ≤ 16) (fits : number < Nat.pow base width) :
    digitsValue? base (fixedDigits base width number) = some number := by
  induction width generalizing number with
  | zero =>
    have zero : number = 0 := by simpa using fits
    subst zero
    rfl
  | succ width induction =>
    have rest : number / base < Nat.pow base width :=
      Nat.div_lt_of_lt_mul (Nat.mul_comm _ base ▸ fits)
    have last : number % base < base := Nat.mod_lt _ positive
    have read := induction rest
    unfold digitsValue? at read ⊢
    rw [fixedDigits, List.foldlM_append, read]
    have together : number / base * base + number % base = number := by
      rw [Nat.mul_comm]; exact Nat.div_add_mod number base
    simp [appendDigit?, digitValue?_digitChar (Nat.lt_of_lt_of_le last small), last, together]

end DepositLedger.Text
