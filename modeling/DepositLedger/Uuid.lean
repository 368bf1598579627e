/-! Universally unique identifiers: 128-bit numbers, ordered as numbers. -/

namespace DepositLedger

structure Uuid where
  number : Nat
  number_lt : number < 0x100000000000000000000000000000000
deriving DecidableEq

namespace Uuid

/-- The identifier that stands for the absence of one. -/
def nil : Uuid := ⟨0, by decide⟩

def isNil (uuid : Uuid) : Bool := uuid == nil

/-- The identifier whose number is `number`, cut to its last 128 bits. -/
def ofNat (number : Nat) : Uuid :=
  ⟨number % 0x100000000000000000000000000000000, Nat.mod_lt _ (by decide)⟩

instance : LE Uuid := ⟨fun first second => first.number ≤ second.number⟩

instance (first second : Uuid) : Decidable (first ≤ second) :=
  inferInstanceAs (Decidable (first.number ≤ second.number))

theorem ext_number {first second : Uuid} (same : first.number = second.number) :
    first = second := by
  cases first; cases second; simp_all

end Uuid

end DepositLedger
