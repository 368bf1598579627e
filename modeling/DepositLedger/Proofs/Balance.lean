import DepositLedger.Balance
import Mathlib.Data.List.Induction

/-! Balances as whole numbers. `balance?` adds up with a check at every sum; here
it is tied to the plain sum of the signed amounts, which needs no check. -/

namespace DepositLedger

/-- The amount with the sign it has in a balance. -/
def Movement.signed (movement : Movement) : Int :=
  match movement.purpose with
  | .achDebit => -movement.amount.value
  | _ => movement.amount.value

/-- The signed amounts added up, whether or not the sum is in range. -/
def exactTotal : List Movement → Int
  | [] => 0
  | movement :: rest => movement.signed + exactTotal rest

@[simp] theorem exactTotal_nil : exactTotal [] = 0 := rfl

@[simp] theorem exactTotal_cons (movement : Movement) (rest : List Movement) :
    exactTotal (movement :: rest) = movement.signed + exactTotal rest := rfl

@[simp] theorem exactTotal_append (first second : List Movement) :
    exactTotal (first ++ second) = exactTotal first + exactTotal second := by
  induction first with
  | nil => simp
  | cons movement rest induction => simp [induction, Int.add_assoc]

theorem Movement.signed_achDebit {movement : Movement}
    (debit : movement.purpose = .achDebit) : movement.signed = -movement.amount.value := by
  rw [signed, debit]

theorem Movement.signed_of_ne_achDebit {movement : Movement}
    (other : movement.purpose ≠ .achDebit) : movement.signed = movement.amount.value := by
  rw [signed]
  split
  · contradiction
  · rfl

/-- The sign may take an amount out of range, never to another value. -/
theorem Movement.effect?_value {movement : Movement} {effect : Cents}
    (found : movement.effect? = some effect) : effect.value = movement.signed := by
  by_cases debit : movement.purpose = .achDebit
  · rw [effect?, debit] at found
    rw [Movement.signed_achDebit debit]
    exact Cents.ofInt?_eq_some_iff.mp found
  · have plain : movement.effect? = some movement.amount := by
      rw [effect?]
      split
      · contradiction
      · rfl
    rw [plain] at found
    cases found
    exact (Movement.signed_of_ne_achDebit debit).symm

/-- An amount above zero has both signs in range. -/
theorem Movement.effect?_of_pos {movement : Movement} (positive : 0 < movement.amount.value) :
    ∃ effect, movement.effect? = some effect ∧ effect.value = movement.signed := by
  cases found : movement.effect? with
  | some effect => exact ⟨effect, rfl, Movement.effect?_value found⟩
  | none =>
      have bounds := movement.amount.in_range
      rw [effect?] at found
      split at found
      · have outside := Cents.ofInt?_eq_none_iff.mp found
        omega
      · cases found

theorem balance?_nil : balance? [] = some Cents.zero := rfl

private theorem balance?_concat (movements : List Movement) (last : Movement) :
    balance? (movements ++ [last]) =
      (balance? movements).bind fun sum => last.effect?.bind sum.add? := by
  simp [balance?, List.foldlM_append]

/-- One more movement, of an amount above zero, is added if the sum stays in range. -/
theorem balance?_concat_of_pos (movements : List Movement) {last : Movement}
    (positive : 0 < last.amount.value) :
    balance? (movements ++ [last]) =
      (balance? movements).bind fun sum => Cents.ofInt? (sum.value + last.signed) := by
  rcases Movement.effect?_of_pos positive with ⟨effect, found, value⟩
  rw [balance?_concat, found]
  simp [Cents.add?, value]

/-- A balance is the exact total. -/
theorem balance?_value {movements : List Movement} {balance : Cents}
    (found : balance? movements = some balance) : balance.value = exactTotal movements := by
  induction movements using List.reverseRecOn generalizing balance with
  | nil =>
      cases found
      rfl
  | append_singleton earlier last induction =>
      rw [balance?_concat, Option.bind_eq_some_iff] at found
      rcases found with ⟨sum, earlierFound, found⟩
      rw [Option.bind_eq_some_iff] at found
      rcases found with ⟨effect, effectFound, added⟩
      have sumValue := induction earlierFound
      have effectValue := Movement.effect?_value effectFound
      have total := Cents.ofInt?_eq_some_iff.mp added
      rw [total, sumValue, effectValue]
      simp

/-- The range of amounts. -/
def Cents.InRange (value : Int) : Prop :=
  -0x8000000000000000 ≤ value ∧ value < 0x8000000000000000

instance (value : Int) : Decidable (Cents.InRange value) :=
  inferInstanceAs (Decidable (_ ∧ _))

theorem Cents.isSome_ofInt?_iff {value : Int} :
    (Cents.ofInt? value).isSome ↔ Cents.InRange value := by
  simp [Cents.ofInt?, Cents.InRange]

/-- Every sum on the way, the last one among them, is in the range of amounts. -/
def StaysInRange (movements : List Movement) : Prop :=
  ∀ part, part <+: movements → Cents.InRange (exactTotal part)

private theorem staysInRange_nil : StaysInRange [] := by
  intro part initial
  rw [List.prefix_nil.mp initial]
  decide

private theorem staysInRange_concat_iff {movements : List Movement} {last : Movement} :
    StaysInRange (movements ++ [last]) ↔
      StaysInRange movements ∧ Cents.InRange (exactTotal (movements ++ [last])) := by
  simp only [StaysInRange, List.prefix_concat_iff]
  constructor
  · intro stays
    exact ⟨fun part initial => stays part (Or.inr initial), stays _ (Or.inl rfl)⟩
  · intro stays part initial
    rcases initial with rfl | before
    · exact stays.2
    · exact stays.1 part before

/-- Movements add up to a balance exactly if each can be given its sign and every sum on the
way is in range. -/
theorem isSome_balance?_iff {movements : List Movement} :
    (balance? movements).isSome ↔
      (∀ movement ∈ movements, movement.effect?.isSome) ∧ StaysInRange movements := by
  induction movements using List.reverseRecOn with
  | nil => simp [balance?_nil, staysInRange_nil]
  | append_singleton earlier last induction =>
      rw [balance?_concat, List.forall_mem_append, List.forall_mem_singleton,
        staysInRange_concat_iff, exactTotal_append, exactTotal_cons, exactTotal_nil, Int.add_zero]
      cases computed : balance? earlier with
      | none =>
          rw [computed] at induction
          have lost := mt induction.mpr Bool.false_ne_true
          simp only [Option.bind_none, Option.isSome_none, Bool.false_eq_true, false_iff]
          exact fun holds => lost ⟨holds.1.1, holds.2.1⟩
      | some sum =>
          rw [computed] at induction
          rcases induction.mp rfl with ⟨signs, stays⟩
          cases found : last.effect? with
          | none => simp
          | some effect =>
              have value : sum.value + effect.value = exactTotal earlier + last.signed := by
                rw [balance?_value computed, Movement.effect?_value found]
              simp only [Option.bind_some, Cents.add?, Cents.isSome_ofInt?_iff, value]
              exact ⟨fun fits => ⟨⟨signs, rfl⟩, stays, fits⟩, fun holds => holds.2.2⟩

end DepositLedger
