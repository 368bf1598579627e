import DepositLedger.Relational.Tables
import Mathlib.Data.List.Nodup

/-! Rows in the order of time. Times of plain years are ordered in a column as they are in
time, and no two times have one place. A list that was in order before and is sorted by time
keeps that order among rows of one time. -/

namespace DepositLedger

section

variable {α : Type} {le other : α → α → Bool}

private theorem merge_congr {left right : List α}
    (same : ∀ first ∈ left, ∀ second ∈ right, le first second = other first second) :
    left.merge right le = left.merge right other := by
  simpa using List.map_merge (f := id) same

/-- Sorting compares a row only with rows that stand after it. -/
theorem mergeSort_congr : ∀ {rows : List α},
    rows.Pairwise (fun first second => le first second = other first second) →
      rows.mergeSort le = rows.mergeSort other
  | [], _ => by rw [List.mergeSort_nil, List.mergeSort_nil]
  | [_], _ => by rw [List.mergeSort_singleton, List.mergeSort_singleton]
  | first :: second :: rest, same => by
      have parts := same
      rw [← List.take_append_drop (((first :: second :: rest).length + 1) / 2)
        (first :: second :: rest), List.pairwise_append] at parts
      rcases parts with ⟨left, right, across⟩
      rw [List.mergeSort, List.mergeSort]
      simp only [List.MergeSort.Internal.splitInTwo_fst, List.MergeSort.Internal.splitInTwo_snd]
      rw [mergeSort_congr left, mergeSort_congr right]
      apply merge_congr
      intro earlier earlierMember later laterMember
      exact across earlier (List.mem_mergeSort.mp earlierMember) later
        (List.mem_mergeSort.mp laterMember)
termination_by rows => rows.length

end

/-- The last digit of a number, and what stands before it, are told by the number. -/
private theorem digits_eq {base high otherHigh digit otherDigit : Int}
    (same : high * base + digit = otherHigh * base + otherDigit)
    (bounds : 0 ≤ digit ∧ digit < base) (otherBounds : 0 ≤ otherDigit ∧ otherDigit < base) :
    high = otherHigh ∧ digit = otherDigit := by
  have digitEq : digit = otherDigit := by
    have remainder := congrArg (· % base) same
    simpa [Int.emod_eq_of_lt bounds.1 bounds.2,
      Int.emod_eq_of_lt otherBounds.1 otherBounds.2] using remainder
  refine ⟨?_, digitEq⟩
  have positive : base ≠ 0 := by omega
  rw [digitEq] at same
  exact Int.eq_of_mul_eq_mul_right positive (by omega)

private theorem daysInMonth_lt (year : Int) (month : Nat) : daysInMonth year month < 32 := by
  unfold daysInMonth
  repeat' split
  all_goals omega

namespace Timestamp

private theorem ordinal_injective {first second : Timestamp}
    (same : first.ordinal = second.ordinal) :
    first = second := by
  rcases first with ⟨⟨year, month, day, real⟩, hour, minute, sec, nanosecond, inDay⟩
  rcases second with ⟨⟨year', month', day', real'⟩, hour', minute', sec', nanosecond', inDay'⟩
  have days := daysInMonth_lt year month
  have days' := daysInMonth_lt year' month'
  simp only [ordinal] at same
  rcases digits_eq same (by omega) (by omega) with ⟨same, nanoseconds⟩
  rcases digits_eq same (by omega) (by omega) with ⟨same, seconds⟩
  rcases digits_eq same (by omega) (by omega) with ⟨same, minutes⟩
  rcases digits_eq same (by omega) (by omega) with ⟨same, hours⟩
  rcases digits_eq same (by omega) (by omega) with ⟨same, dayEq⟩
  rcases digits_eq same (by omega) (by omega) with ⟨rfl, monthEq⟩
  rw [Int.ofNat_inj] at nanoseconds seconds minutes hours dayEq monthEq
  subst nanoseconds seconds minutes hours dayEq monthEq
  rfl

end Timestamp

/-! ## The latest first -/

section

variable {α : Type} (time recorded : α → Timestamp)

/-- The latest first and, of those of one time, the one that was recorded last first. -/
def latestFirst (first second : α) : Bool :=
  if time first = time second then recorded second ≤ recorded first
  else time second ≤ time first

variable {time recorded}

private theorem latestFirst_iff {first second : α} :
    latestFirst time recorded first second = true ↔
      (time second).ordinal < (time first).ordinal ∨
        (time second).ordinal = (time first).ordinal ∧
          (recorded second).ordinal ≤ (recorded first).ordinal := by
  have le {first second : Timestamp} : first ≤ second ↔ first.ordinal ≤ second.ordinal := .rfl
  rw [latestFirst]
  by_cases same : time first = time second
  · simp [same, le]
  · have different : (time first).ordinal ≠ (time second).ordinal :=
      fun ordinals => same (Timestamp.ordinal_injective ordinals)
    simp only [if_neg same, decide_eq_true_iff, le]
    omega

theorem pairwise_latestFirst (rows : List α) :
    (rows.mergeSort (latestFirst time recorded)).Pairwise fun first second =>
      latestFirst time recorded first second = true := by
  apply List.pairwise_mergeSort
  · intro first second third
    simp only [latestFirst_iff]
    omega
  · intro first second
    rw [Bool.or_eq_true, latestFirst_iff, latestFirst_iff]
    omega

/-- Rows in the order they were recorded, put in the order of the latest first: it makes no
difference whether sorting compares their times alone, if those that were recorded last come
first before. -/
theorem mergeSort_eq_of_latestFirst {rows sorted : List α}
    (increasing : rows.Pairwise fun earlier later =>
      (recorded earlier).ordinal < (recorded later).ordinal)
    (perm : sorted.Perm rows)
    (latest : sorted.Pairwise fun first second => latestFirst time recorded first second = true) :
    rows.reverse.mergeSort (fun first second => time second ≤ time first) = sorted := by
  have backwards := List.pairwise_reverse.mpr increasing
  have byTime : rows.reverse.mergeSort (fun first second => time second ≤ time first) =
      rows.reverse.mergeSort (latestFirst time recorded) := by
    apply mergeSort_congr
    refine backwards.imp fun {first second} after => ?_
    rw [latestFirst]
    by_cases same : time first = time second
    · have now : time second ≤ time second := Int.le_refl _
      have before : recorded second ≤ recorded first := Int.le_of_lt after
      simp [same, before, now]
    · rw [if_neg same]
  have distinct : (rows.map fun row => (recorded row).ordinal).Nodup :=
    List.pairwise_map.mpr (increasing.imp Int.ne_of_lt)
  rw [byTime]
  refine List.Perm.eq_of_pairwise ?_ (pairwise_latestFirst _) latest ?_
  · -- Rows that come before each other were recorded at one time, so they are one row.
    intro first second firstMember secondMember firstLe secondLe
    rw [List.mem_mergeSort, List.mem_reverse] at firstMember
    rw [perm.mem_iff] at secondMember
    rw [latestFirst_iff] at firstLe secondLe
    exact List.inj_on_of_nodup_map distinct firstMember secondMember (by omega)
  · exact (List.mergeSort_perm _ _).trans ((List.reverse_perm rows).trans perm.symm)

end

/-- Times of plain years are in a column as they are in time. -/
theorem Relational.columnLe_of_plain {first second : Timestamp}
    (firstPlain : Relational.hasPlainYear first = true)
    (secondPlain : Relational.hasPlainYear second = true) :
    Relational.columnLe first second = decide (first ≤ second) := by
  rw [columnLe, firstPlain, secondPlain]
  simp

end DepositLedger
