import DepositLedger.Text.Digits
import DepositLedger.Uuid

/-! The written forms of an identifier. It is printed as 32 lower-case digits in
five groups with hyphens between them. It is read in four forms: the digits in
groups, the digits alone, the groups in braces, or the groups after `urn:uuid:`;
letters may be of either case, and nothing may stand around the form.
`ofText?_toText` says that what is printed is read back. -/

namespace DepositLedger.Uuid

open DepositLedger.Text

def groups : List Nat := [8, 4, 4, 4, 12]

/-- How many digits groups of the given lengths have together. -/
def totalSize : List Nat → Nat
  | [] => 0
  | size :: sizes => size + totalSize sizes

def joinGroups : List Nat → List Char → List Char
  | [], digits => digits
  | [_], digits => digits
  | size :: sizes, digits => digits.take size ++ '-' :: joinGroups sizes (digits.drop size)

/-- Takes out the hyphens between groups; refuses a hyphen in any other place. -/
def splitGroups? : List Nat → List Char → Option (List Char)
  | [], chars => if chars.isEmpty then some [] else none
  | [size], chars => if chars.length = size then some chars else none
  | size :: sizes, chars =>
    match chars.drop size with
    | '-' :: rest => (splitGroups? sizes rest).map (chars.take size ++ ·)
    | _ => none

def ofDigits? (digits : List Char) : Option Uuid :=
  if digits.length = 32 then
    (digitsValue? 16 digits).bind fun number =>
      if fits : number < 0x100000000000000000000000000000000 then some ⟨number, fits⟩ else none
  else none

def ofGroups? (chars : List Char) : Option Uuid :=
  (splitGroups? groups chars).bind ofDigits?

def urnMark : List Char := "urn:uuid:".toList

/-- Reads an identifier; the length of the text tells which form it is in. -/
def ofText? (text : String) : Option Uuid :=
  let chars := text.toList
  match chars.length with
  | 32 => ofDigits? chars
  | 36 => ofGroups? chars
  | 38 =>
    match chars with
    | '\x7b' :: rest =>
      if rest.getLast? = some '\x7d' then ofGroups? rest.dropLast else none
    | _ => none
  | 45 =>
    if (chars.take urnMark.length).map Char.toLower = urnMark then
      ofGroups? (chars.drop urnMark.length)
    else none
  | _ => none

def toText (uuid : Uuid) : String :=
  String.ofList (joinGroups groups (fixedDigits 16 32 uuid.number))

theorem splitGroups?_joinGroups {sizes : List Nat} {digits : List Char} (some_size : sizes ≠ [])
    (exactly : digits.length = totalSize sizes) :
    splitGroups? sizes (joinGroups sizes digits) = some digits := by
  induction sizes generalizing digits with
  | nil => exact absurd rfl some_size
  | cons size sizes induction =>
    cases sizes with
    | nil =>
      have one : digits.length = size := by simpa [totalSize] using exactly
      simp [joinGroups, splitGroups?, one]
    | cons next sizes =>
      have total : digits.length = size + totalSize (next :: sizes) := exactly
      have front : (digits.take size).length = size := by
        rw [List.length_take]; omega
      have back : (digits.drop size).length = totalSize (next :: sizes) := by
        rw [List.length_drop]; omega
      have dropped : (digits.take size ++ '-' :: joinGroups (next :: sizes) (digits.drop size)).drop
          size = '-' :: joinGroups (next :: sizes) (digits.drop size) := by
        rw [List.drop_append_of_le_length (by omega), List.drop_of_length_le (by omega)]
        simp
      have taken : (digits.take size ++ '-' :: joinGroups (next :: sizes) (digits.drop size)).take
          size = digits.take size := by
        rw [List.take_append_of_le_length (by omega), List.take_of_length_le (by omega)]
      simp [joinGroups, splitGroups?, dropped, taken, induction (by simp) back]

theorem ofDigits?_fixedDigits (uuid : Uuid) :
    ofDigits? (fixedDigits 16 32 uuid.number) = some uuid := by
  have read : digitsValue? 16 (fixedDigits 16 32 uuid.number) = some uuid.number :=
    digitsValue?_fixedDigits (by decide) (by decide)
      (by have fits := uuid.number_lt; omega)
  rw [ofDigits?, if_pos (length_fixedDigits 16 32 uuid.number), read]
  exact dif_pos uuid.number_lt

theorem length_joinGroups {sizes : List Nat} {digits : List Char} (some_size : sizes ≠ [])
    (exactly : digits.length = totalSize sizes) :
    (joinGroups sizes digits).length + 1 = digits.length + sizes.length := by
  induction sizes generalizing digits with
  | nil => exact absurd rfl some_size
  | cons size sizes induction =>
    cases sizes with
    | nil => simp [joinGroups]
    | cons next sizes =>
      have total : digits.length = size + totalSize (next :: sizes) := exactly
      have back : (digits.drop size).length = totalSize (next :: sizes) := by
        rw [List.length_drop]; omega
      have rest := induction (by simp) back
      simp only [joinGroups, List.length_append, List.length_cons, List.length_take,
        List.length_drop] at rest ⊢
      omega

theorem ofText?_toText (uuid : Uuid) : ofText? uuid.toText = some uuid := by
  have digits : (fixedDigits 16 32 uuid.number).length = totalSize groups := by
    rw [length_fixedDigits]; rfl
  have length : (joinGroups groups (fixedDigits 16 32 uuid.number)).length = 36 := by
    have counted := length_joinGroups (show groups ≠ [] by simp [groups]) digits
    rw [length_fixedDigits] at counted
    have five : groups.length = 5 := rfl
    omega
  have read : ofGroups? (joinGroups groups (fixedDigits 16 32 uuid.number)) = some uuid := by
    simp [ofGroups?, splitGroups?_joinGroups (show groups ≠ [] by simp [groups]) digits,
      ofDigits?_fixedDigits]
  simp only [ofText?, toText, String.toList_ofList, length, read]

end DepositLedger.Uuid
