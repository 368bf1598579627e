import DepositLedger.Timestamp.Text

/-! Timestamps are read back from their written form, whatever their year and however fine they
are. Each reader takes the part that is its own off the front of the text: digits up to the first
character that is none, a mark, a year with its sign, a fraction of a second. -/

namespace DepositLedger

namespace Text

/-! ## Digits -/

private theorem digitChar_of_lt {value : Nat} (small : value < 10) :
    (digitChar value).isDigit = true ∧ (digitChar value).toNat - 48 = value := by
  have every : ∀ value : Fin 10,
      (digitChar value).isDigit = true ∧ (digitChar value).toNat - 48 = value.val := by decide
  exact every ⟨value, small⟩

private theorem isDigit_of_mem_fixedDigits {width number : Nat} :
    ∀ char ∈ fixedDigits 10 width number, char.isDigit = true := by
  induction width generalizing number with
  | zero => exact fun _ member => nomatch member
  | succ width induction =>
      intro char member
      rw [fixedDigits, List.mem_append, List.mem_singleton] at member
      rcases member with earlier | rfl
      · exact induction char earlier
      · exact (digitChar_of_lt (Nat.mod_lt number (by decide))).1

private theorem decimalValue_concat (chars : List Char) (last : Char) :
    decimalValue (chars ++ [last]) = decimalValue chars * 10 + (last.toNat - 48) := by
  simp [decimalValue]

private theorem decimalValue_fixedDigits {width number : Nat} (fits : number < Nat.pow 10 width) :
    decimalValue (fixedDigits 10 width number) = number := by
  induction width generalizing number with
  | zero =>
      have zero : number = 0 := by simpa using fits
      subst zero
      rfl
  | succ width induction =>
      have rest : number / 10 < Nat.pow 10 width :=
        Nat.div_lt_of_lt_mul (Nat.mul_comm _ 10 ▸ fits)
      have last := (digitChar_of_lt (Nat.mod_lt number (show 0 < 10 by decide))).2
      rw [fixedDigits, decimalValue_concat, induction rest, last]
      omega

/-- Every zero that is appended moves the digits by one place. -/
private theorem decimalValue_append_zeros (chars : List Char) (count : Nat) :
    decimalValue (chars ++ List.replicate count '0') = decimalValue chars * Nat.pow 10 count := by
  induction count with
  | zero => simp
  | succ count induction =>
      rw [List.replicate_succ', ← List.append_assoc, decimalValue_concat, induction]
      change decimalValue chars * Nat.pow 10 count * 10 + 0 = _
      rw [Nat.add_zero, Nat.mul_assoc]
      rfl

private theorem isBlank_of_isDigit {char : Char} (digit : char.isDigit = true) :
    isBlank char = false := by
  have range : 48 ≤ char.toNat ∧ char.toNat ≤ 57 := by
    simpa [Char.isDigit, UInt32.le_iff_toNat_le] using digit
  rw [isBlank, List.any_eq_false]
  have apart : ∀ range ∈ blankRanges, range.2 < 48 ∨ 57 < range.1 := by decide
  intro range member
  have outside := apart range member
  simp only [Bool.and_eq_true, decide_eq_true_eq]
  omega

end Text

namespace Timestamp

open DepositLedger.Text

/-- A text that does not start with a digit, so that a number before it ends there. -/
def EndsNumber (chars : List Char) : Prop := ∀ char ∈ chars.head?, char.isDigit = false

private theorem endsNumber_cons {char : Char} {rest : List Char} (other : char.isDigit = false) :
    EndsNumber (char :: rest) := by
  intro first found
  cases found
  exact other

private theorem EndsNumber.takeWhile_append {digits rest : List Char} (ends : EndsNumber rest)
    (allDigits : ∀ char ∈ digits, char.isDigit = true) :
    (digits ++ rest).takeWhile Char.isDigit = digits := by
  rw [List.takeWhile_append_of_pos allDigits]
  cases rest with
  | nil => simp
  | cons first rest => simp [ends first rfl]

private theorem EndsNumber.dropWhile_append {digits rest : List Char} (ends : EndsNumber rest)
    (allDigits : ∀ char ∈ digits, char.isDigit = true) :
    (digits ++ rest).dropWhile Char.isDigit = rest := by
  rw [List.dropWhile_append_of_pos allDigits]
  cases rest with
  | nil => simp
  | cons first rest => simp [ends first rfl]

theorem EndsNumber.take {rest : List Char} (ends : EndsNumber rest) (count : Nat) :
    EndsNumber (rest.take count) := by
  intro first found
  cases count with
  | zero => simp at found
  | succ count =>
      cases rest with
      | nil => simp at found
      | cons other rest => exact ends first (by simpa using found)

/-- A number ends where its digits do. -/
private theorem readNumber?_fixedDigits {most width number : Nat} {rest : List Char}
    (positive : 0 < width) (allowed : width ≤ most) (fits : number < Nat.pow 10 width)
    (ends : EndsNumber rest) :
    readNumber? most (fixedDigits 10 width number ++ rest) = some (number, rest) := by
  have length := length_fixedDigits 10 width number
  have nonempty : (fixedDigits 10 width number).isEmpty = false := by
    rw [List.isEmpty_eq_false_iff, ← List.length_pos_iff]
    omega
  have digits : ((fixedDigits 10 width number ++ rest).take most).takeWhile Char.isDigit =
      fixedDigits 10 width number := by
    rw [List.take_append, List.take_of_length_le (by omega)]
    exact (ends.take _).takeWhile_append isDigit_of_mem_fixedDigits
  simp only [readNumber?, digits, nonempty, decimalValue_fixedDigits fits, List.drop_left]
  rfl

/-- Months, days, hours, minutes and seconds have two digits. -/
private theorem readNumber?_pair {number : Nat} {rest : List Char} (fits : number < 100)
    (ends : EndsNumber rest) :
    readNumber? 2 (fixedDigits 10 2 number ++ rest) = some (number, rest) :=
  readNumber?_fixedDigits (by decide) (Nat.le_refl 2) fits ends

/-! ## Marks between numbers -/

private theorem skipBlanks_of_not_blank {char : Char} {rest : List Char}
    (notBlank : isBlank char = false) :
    skipBlanks (char :: rest) = char :: rest := by
  simp [skipBlanks, notBlank]

private theorem skipBlanks_fixedDigits {width number : Nat} {rest : List Char}
    (positive : 0 < width) :
    skipBlanks (fixedDigits 10 width number ++ rest) = fixedDigits 10 width number ++ rest := by
  have length := length_fixedDigits 10 width number
  have digits : ∀ char ∈ fixedDigits 10 width number, char.isDigit = true :=
    isDigit_of_mem_fixedDigits
  cases written : fixedDigits 10 width number with
  | nil =>
      rw [written, List.length_nil] at length
      omega
  | cons first others =>
      rw [written] at digits
      exact skipBlanks_of_not_blank (isBlank_of_isDigit (digits first List.mem_cons_self))

private theorem readMark?_fixedDigits {mark : Char} {width number : Nat} {rest : List Char}
    (notBlank : isBlank mark = false) (positive : 0 < width) :
    readMark? mark (mark :: (fixedDigits 10 width number ++ rest)) =
      some (fixedDigits 10 width number ++ rest) := by
  rw [readMark?, skipBlanks_of_not_blank notBlank]
  simp [skipBlanks_fixedDigits positive]

/-! ## Years -/

/-- A year is four digits, or a sign and all its digits. -/
private theorem yearText_cases (date : Date) :
    (∃ count : Nat, date.year = count ∧ count < Nat.pow 10 4 ∧
      yearText date.year = fixedDigits 10 4 count) ∨
    ∃ (sign : Char) (count width : Nat),
      (sign = '-' ∧ date.year = -count ∨ sign = '+' ∧ date.year = count) ∧ 0 < width ∧
        count < Nat.pow 10 width ∧ yearText date.year = sign :: fixedDigits 10 width count := by
  have bounds := date.exists_in_calendar
  have fits : ∃ width, 0 < width ∧ date.year.natAbs < Nat.pow 10 width ∧
      (if date.year.natAbs < 10000 then fixedDigits 10 4 date.year.natAbs
        else if date.year.natAbs < 100000 then fixedDigits 10 5 date.year.natAbs
        else fixedDigits 10 6 date.year.natAbs) = fixedDigits 10 width date.year.natAbs := by
    split
    · exact ⟨4, by decide, by assumption, rfl⟩
    · split
      · exact ⟨5, by decide, by assumption, rfl⟩
      · refine ⟨6, by decide, ?_, rfl⟩
        change date.year.natAbs < 1000000
        omega
  rcases fits with ⟨width, positive, fits, digits⟩
  by_cases negative : date.year < 0
  · refine Or.inr ⟨'-', date.year.natAbs, width, Or.inl ⟨rfl, by omega⟩, positive, fits, ?_⟩
    simp only [yearText, digits, if_pos negative]
  · by_cases large : 9999 < date.year
    · refine Or.inr ⟨'+', date.year.natAbs, width, Or.inr ⟨rfl, by omega⟩, positive, fits, ?_⟩
      simp only [yearText, digits, if_neg negative, if_pos large]
    · have plain : date.year.natAbs < 10000 := by omega
      refine Or.inl ⟨date.year.natAbs, by omega, plain, ?_⟩
      simp only [yearText, if_neg negative, if_neg large, if_pos plain]

private theorem readYear?_of_digit {first : Char} {rest : List Char}
    (digit : first.isDigit = true) :
    readYear? (first :: rest) =
      (readNumber? 4 (first :: rest)).map fun (count, rest) => ((count : Int), rest) := by
  rw [readYear?]
  · rintro _ same
    cases same
    cases digit
  · rintro _ same
    cases same
    cases digit

private theorem readYear?_yearText (date : Date) {rest : List Char} (ends : EndsNumber rest) :
    readYear? (yearText date.year ++ rest) = some (date.year, rest) := by
  rcases yearText_cases date with ⟨count, value, fits, written⟩ |
    ⟨sign, count, width, signed, positive, fits, written⟩
  · have read : readNumber? 4 (fixedDigits 10 4 count ++ rest) = some (count, rest) :=
      readNumber?_fixedDigits (by decide) (Nat.le_refl 4) fits ends
    have digits : ∀ char ∈ fixedDigits 10 4 count, char.isDigit = true :=
      isDigit_of_mem_fixedDigits
    rw [written]
    cases listed : fixedDigits 10 4 count with
    | nil => cases listed
    | cons first others =>
        rw [listed] at read digits
        rw [List.cons_append, readYear?_of_digit (digits first List.mem_cons_self),
          ← List.cons_append, read, value]
        rfl
  · have longEnough : width ≤ (fixedDigits 10 width count ++ rest).length := by
      rw [List.length_append, length_fixedDigits]
      omega
    have read := readNumber?_fixedDigits positive longEnough fits ends
    rw [written, List.cons_append]
    rcases signed with ⟨rfl, value⟩ | ⟨rfl, value⟩
    · rw [readYear?, read, value]
      rfl
    · rw [readYear?, read, value]
      rfl

private theorem skipBlanks_yearText (date : Date) {rest : List Char} :
    skipBlanks (yearText date.year ++ rest) = yearText date.year ++ rest := by
  rcases yearText_cases date with ⟨count, _, _, written⟩ |
    ⟨sign, count, width, signed, _, _, written⟩
  · rw [written, skipBlanks_fixedDigits (by decide)]
  · rw [written, List.cons_append]
    apply skipBlanks_of_not_blank
    rcases signed with ⟨rfl, _⟩ | ⟨rfl, _⟩ <;> decide

private theorem readDate?_written (date : Date) {rest : List Char} (ends : EndsNumber rest) :
    readDate? (yearText date.year ++ '-' :: (fixedDigits 10 2 date.month ++
      '-' :: (fixedDigits 10 2 date.day ++ rest))) = some (date, rest) := by
  have bounds := date.exists_in_calendar
  have days : daysInMonth date.year date.month ≤ 31 := by
    unfold daysInMonth
    repeat' split
    all_goals omega
  have month : date.month < 100 := by omega
  have day : date.day < 100 := by omega
  have mark : isBlank '-' = false := by decide
  have markEnds (rest : List Char) : EndsNumber ('-' :: rest) := endsNumber_cons (by decide)
  simp only [readDate?, skipBlanks_yearText, readYear?_yearText date (markEnds _),
    readMark?_fixedDigits mark (show 0 < 2 by decide), readNumber?_pair month (markEnds _),
    readNumber?_pair day ends, Option.bind_eq_bind, Option.bind_some, Date.ofParts?_self,
    Option.pure_def]

/-! ## Fractions of a second -/

private theorem endsNumber_fractionText (nanosecond : Nat) {rest : List Char}
    (ends : EndsNumber rest) :
    EndsNumber (fractionText nanosecond ++ rest) := by
  rw [fractionText]
  split
  · exact ends
  · split
    · exact endsNumber_cons (by decide)
    · split <;> exact endsNumber_cons (by decide)

/-- Digits that are left out at the end of a fraction count as zeros. -/
private theorem readFraction?_fixedDigits (places : Nat) {width number : Nat} {rest : List Char}
    (positive : 0 < width) (nine : width + places = 9) (fits : number < Nat.pow 10 width)
    (ends : EndsNumber rest) :
    readFraction? ('.' :: fixedDigits 10 width number ++ rest) =
      some (number * Nat.pow 10 places, rest) := by
  have length := length_fixedDigits 10 width number
  have allDigits : ∀ char ∈ fixedDigits 10 width number, char.isDigit = true :=
    isDigit_of_mem_fixedDigits
  have nonempty : (fixedDigits 10 width number).isEmpty = false := by
    rw [List.isEmpty_eq_false_iff, ← List.length_pos_iff]
    omega
  have padded : (fixedDigits 10 width number ++ List.replicate 9 '0').take 9 =
      fixedDigits 10 width number ++ List.replicate places '0' := by
    rw [List.take_append, List.take_of_length_le (by omega), List.take_replicate]
    congr 2
    omega
  simp only [List.cons_append, readFraction?, ends.takeWhile_append allDigits,
    ends.dropWhile_append allDigits, nonempty, padded, decimalValue_append_zeros,
    decimalValue_fixedDigits fits]
  rfl

private theorem readFraction?_fractionText {nanosecond : Nat} (fits : nanosecond < 1000000000) :
    readFraction? (fractionText nanosecond ++ ['Z']) = some (nanosecond, ['Z']) := by
  have ends : EndsNumber ['Z'] := endsNumber_cons (by decide)
  rw [fractionText]
  split
  · rename_i zero
    rw [zero]
    rfl
  · split
    · rename_i thousandths
      have small : nanosecond / 1000000 < Nat.pow 10 3 := by
        change nanosecond / 1000000 < 1000
        omega
      rw [readFraction?_fixedDigits 6 (by decide) (by decide) small ends]
      exact congrArg (fun value => some (value, ['Z']))
        (Nat.div_mul_cancel (Nat.dvd_of_mod_eq_zero thousandths))
    · split
      · rename_i millionths
        have small : nanosecond / 1000 < Nat.pow 10 6 := by
          change nanosecond / 1000 < 1000000
          omega
        rw [readFraction?_fixedDigits 3 (by decide) (by decide) small ends]
        exact congrArg (fun value => some (value, ['Z']))
          (Nat.div_mul_cancel (Nat.dvd_of_mod_eq_zero millionths))
      · rw [readFraction?_fixedDigits 0 (by decide) (by decide) fits ends]
        exact congrArg (fun value => some (value, ['Z'])) (Nat.mul_one nanosecond)

/-! ## Whole timestamps -/

/-- A time in UTC is its own. -/
private theorem ofLocal?_zero (timestamp : Timestamp) :
    ofLocal? timestamp.date timestamp.hour timestamp.minute timestamp.second
      timestamp.nanosecond 0 = some timestamp := by
  have bounds := timestamp.exists_in_day
  have notBefore : ¬ ((timestamp.hour * 60 + timestamp.minute : Nat) : Int) - 0 < 0 := by omega
  have notAfter : ((timestamp.hour * 60 + timestamp.minute : Nat) : Int) - 0 < 1440 := by omega
  have minutes : (((timestamp.hour * 60 + timestamp.minute : Nat) : Int) - 0).toNat =
      timestamp.hour * 60 + timestamp.minute := by omega
  have hour : (timestamp.hour * 60 + timestamp.minute) / 60 = timestamp.hour := by omega
  have minute : (timestamp.hour * 60 + timestamp.minute) % 60 = timestamp.minute := by omega
  simp only [ofLocal?, ofParts?_self, Option.bind_eq_bind, Option.bind_some, if_neg notBefore,
    if_pos notAfter, minutes, hour, minute]

theorem ofText?_toText (timestamp : Timestamp) : ofText? timestamp.toText = some timestamp := by
  have bounds := timestamp.exists_in_day
  have hour : timestamp.hour < 100 := by omega
  have minute : timestamp.minute < 100 := by omega
  have second : timestamp.second < 100 := by omega
  have mark : isBlank ':' = false := by decide
  have markEnds (rest : List Char) : EndsNumber (':' :: rest) := endsNumber_cons (by decide)
  have dividerEnds (rest : List Char) : EndsNumber ('T' :: rest) := endsNumber_cons (by decide)
  have divider (rest : List Char) : readDivider? ('T' :: rest) = some rest := rfl
  have fractionEnds : EndsNumber (fractionText timestamp.nanosecond ++ ['Z']) :=
    endsNumber_fractionText _ (endsNumber_cons (by decide))
  have offset : readOffset? (skipBlanks ['Z']) = some (0, []) := by decide
  simp only [ofText?, toText, String.toList_ofList, ofChars?, toChars,
    readDate?_written timestamp.date (dividerEnds _), divider,
    skipBlanks_fixedDigits (show 0 < 2 by decide), readNumber?_pair hour (markEnds _),
    readMark?_fixedDigits mark (show 0 < 2 by decide), readNumber?_pair minute (markEnds _),
    readNumber?_pair second fractionEnds, readFraction?_fractionText bounds.2.2.2, offset,
    Option.bind_eq_bind, Option.bind_some, ofLocal?_zero]
  rfl

end Timestamp

end DepositLedger
