/-! Amounts of money in cents. An amount is a whole number of the signed 64-bit
range. Adding and negating are checked: a result outside the range is refused,
never wrapped. -/

namespace DepositLedger

structure Cents where
  value : Int
  in_range : -0x8000000000000000 ≤ value ∧ value < 0x8000000000000000
deriving DecidableEq

namespace Cents

def zero : Cents := ⟨0, by decide⟩

/-- The amount of `value` cents, if it is in range. -/
def ofInt? (value : Int) : Option Cents :=
  if fits : -0x8000000000000000 ≤ value ∧ value < 0x8000000000000000 then some ⟨value, fits⟩
  else none

def add? (first second : Cents) : Option Cents := ofInt? (first.value + second.value)

def neg? (cents : Cents) : Option Cents := ofInt? (-cents.value)

theorem ext_value {first second : Cents} (same : first.value = second.value) :
    first = second := by
  cases first; cases second; simp_all

theorem ofInt?_eq_some_iff {value : Int} {cents : Cents} :
    ofInt? value = some cents ↔ cents.value = value := by
  unfold ofInt?
  constructor
  · intro made
    split at made
    · cases made; rfl
    · cases made
  · rintro rfl
    rw [dif_pos cents.in_range]

theorem ofInt?_eq_none_iff {value : Int} :
    ofInt? value = none ↔ ¬(-0x8000000000000000 ≤ value ∧ value < 0x8000000000000000) := by
  simp [ofInt?]

theorem ofInt?_value (cents : Cents) : ofInt? cents.value = some cents :=
  ofInt?_eq_some_iff.2 rfl

end Cents

end DepositLedger
