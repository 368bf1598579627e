import DepositLedger.Proofs.Rows

/-! Names of purposes, of types and of statuses of accounts. The name in JSON is the name in
storage, and a text is read as a value exactly if it is the name of the value once its letters
A to Z are made small, whichever way it is looked for. -/

namespace DepositLedger

namespace Text

private theorem lowerCase_eq {text lowered : String}
    (small : text.toList.map Char.toLower = lowered.toList) : lowerCase text = lowered := by
  rw [← String.toList_inj, lowerCase, String.toList_map, small]

/-- Comparing letter by letter is comparing what is left of the letters in lower case. -/
theorem eqIgnoringCase_iff {first second : String} :
    eqIgnoringCase first second = true ↔ lowerCase first = lowerCase second := by
  have letters (chars others : List Char) :
      (chars.length == others.length &&
        (chars.zip others).all fun pair => pair.1.toLower == pair.2.toLower) = true ↔
        chars.map Char.toLower = others.map Char.toLower := by
    induction chars generalizing others with
    | nil => cases others <;> simp
    | cons char rest induction =>
        cases others with
        | nil => simp
        | cons other others =>
            rw [List.map_cons, List.map_cons, List.cons.injEq, ← induction]
            simp [and_left_comm]
  rw [← String.toList_inj, lowerCase, lowerCase, String.toList_map, String.toList_map]
  exact letters first.toList second.toList

end Text

namespace Purpose

variable {purpose : Purpose}

theorem tag_eq_name (purpose : Purpose) : purpose.tag = purpose.name :=
  Text.lowerCase_eq (by cases purpose <;> rfl)

private theorem lowerCase_name (purpose : Purpose) : Text.lowerCase purpose.name = purpose.name :=
  Text.lowerCase_eq (by cases purpose <;> rfl)

theorem ofName?_eq_some_iff {text : String} :
    ofName? text = some purpose ↔ purpose.name = Text.lowerCase text := by
  have named : (fun purpose : Purpose => Text.eqIgnoringCase purpose.name text) =
      fun purpose => purpose.name == Text.lowerCase text := by
    funext purpose
    rw [Bool.eq_iff_iff, Text.eqIgnoringCase_iff, lowerCase_name, beq_iff_eq]
  have distinct : (all.map name).Nodup := by decide
  have listed : purpose ∈ all := by cases purpose <;> decide
  rw [ofName?, named, Memory.find?_key_eq_some_iff distinct]
  exact and_iff_right listed

theorem read_ok_iff {text : String} :
    read text = .ok purpose ↔ purpose.name = Text.lowerCase text := by
  rw [← ofName?_eq_some_iff, read]
  cases ofName? text <;> simp

theorem read_name (purpose : Purpose) : read purpose.name = .ok purpose :=
  read_ok_iff.mpr (lowerCase_name purpose).symm

end Purpose

namespace AccountStatus

variable {status : AccountStatus}

theorem tag_eq_name (status : AccountStatus) : status.tag = status.name :=
  Text.lowerCase_eq (by cases status <;> rfl)

theorem ofName?_eq_some_iff {text : String} :
    ofName? text = some status ↔ status.name = Text.lowerCase text := by
  rw [ofName?]
  generalize Text.lowerCase text = lowered
  split
  · cases status <;> simp [name]
  · cases status <;> simp [name]
  · cases status <;> simp_all [name, eq_comm]

theorem read_ok_iff {text : String} :
    read text = .ok status ↔ status.name = Text.lowerCase text := by
  rw [← ofName?_eq_some_iff, read]
  cases ofName? text <;> simp

theorem read_name (status : AccountStatus) : read status.name = .ok status :=
  read_ok_iff.mpr (Text.lowerCase_eq (by cases status <;> rfl)).symm

end AccountStatus

namespace AccountType

variable {accountType : AccountType}

theorem tag_eq_name (accountType : AccountType) : accountType.tag = accountType.name :=
  Text.lowerCase_eq (by cases accountType <;> rfl)

theorem ofName?_eq_some_iff {text : String} :
    ofName? text = some accountType ↔ accountType.name = Text.lowerCase text := by
  rw [ofName?]
  generalize Text.lowerCase text = lowered
  split
  · cases accountType <;> simp [name]
  · cases accountType <;> simp [name]
  · cases accountType <;> simp_all [name, eq_comm]

theorem read_ok_iff {text : String} :
    read text = .ok accountType ↔ accountType.name = Text.lowerCase text := by
  rw [← ofName?_eq_some_iff, read]
  cases ofName? text <;> simp

theorem read_name (accountType : AccountType) : read accountType.name = .ok accountType :=
  read_ok_iff.mpr (Text.lowerCase_eq (by cases accountType <;> rfl)).symm

theorem name_injective {first second : AccountType} (same : first.name = second.name) :
    first = second := by
  have read := read_name first
  rw [same, read_name] at read
  cases read
  rfl

end AccountType

end DepositLedger
