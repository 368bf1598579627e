import DepositLedger.Cents
import DepositLedger.Text.LetterCase

/-! Why money moves, and with which sign it counts. Only an ACH debit takes money
out of an account; a movement for any other purpose adds to it. -/

namespace DepositLedger

inductive Purpose where
  | achCredit
  | achDebit
  | fee
  | interest
  | transfer
  | wire
deriving DecidableEq

namespace Purpose

def all : List Purpose := [achCredit, achDebit, fee, interest, transfer, wire]

/-- The name in storage and in messages. -/
def name : Purpose → String
  | achCredit => "achcredit"
  | achDebit => "achdebit"
  | fee => "fee"
  | interest => "interest"
  | transfer => "transfer"
  | wire => "wire"

def declaredName : Purpose → String
  | achCredit => "AchCredit"
  | achDebit => "AchDebit"
  | fee => "Fee"
  | interest => "Interest"
  | transfer => "Transfer"
  | wire => "Wire"

/-- The name in JSON: that of the declaration in small letters. -/
def tag (purpose : Purpose) : String := Text.lowerCase purpose.declaredName

/-- The first purpose whose name is this text, in letters of either case. -/
def ofName? (text : String) : Option Purpose :=
  all.find? fun purpose => Text.eqIgnoringCase purpose.name text

/-- The purpose of the movement that undoes one: ACH credits and debits change
places, other purposes stay. -/
def opposite : Purpose → Purpose
  | achCredit => achDebit
  | achDebit => achCredit
  | purpose => purpose

end Purpose

/-- An amount and what it was moved for. -/
structure Movement where
  purpose : Purpose
  amount : Cents
deriving DecidableEq

/-- The amount with the sign it has in a balance, if that is in range. -/
def Movement.effect? (movement : Movement) : Option Cents :=
  match movement.purpose with
  | .achDebit => movement.amount.neg?
  | _ => some movement.amount

end DepositLedger
