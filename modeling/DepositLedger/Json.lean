/-! JSON values. A number is an integer or a finite double. Members of an object stand
in a list, in which no key should stand twice. -/

namespace DepositLedger

inductive Json where
  | null
  | flag (value : Bool)
  | integer (value : Int)
  | real (value : Float)
  | text (value : String)
  | list (items : List Json)
  | object (members : List (String × Json))

namespace Json

/-- The value of a member of an object; what is no object has no members. -/
def member? (name : String) : Json → Option Json
  | object members => members.lookup name
  | _ => none

/-- The value of a member, where null stands for a missing one. -/
def member (json : Json) (name : String) : Json :=
  (json.member? name).getD null

/-- Puts members in ascending order of their keys. -/
def sortMembers (members : List (String × Json)) : List (String × Json) :=
  members.mergeSort fun first second => first.1 ≤ second.1

mutual
/-- The same value with the members of every object in ascending order. -/
def sorted : Json → Json
  | list items => list (sortedItems items)
  | object members => object (sortMembers (sortedValues members))
  | json => json

def sortedItems : List Json → List Json
  | [] => []
  | item :: rest => item.sorted :: sortedItems rest

def sortedValues : List (String × Json) → List (String × Json)
  | [] => []
  | (key, value) :: rest => (key, value.sorted) :: sortedValues rest
end

mutual
/-- The same value with every text in it changed. Keys stay. -/
def mapTexts (change : String → String) : Json → Json
  | text value => text (change value)
  | list items => list (mapItems change items)
  | object members => object (mapValues change members)
  | json => json

def mapItems (change : String → String) : List Json → List Json
  | [] => []
  | item :: rest => item.mapTexts change :: mapItems change rest

def mapValues (change : String → String) : List (String × Json) → List (String × Json)
  | [] => []
  | (key, value) :: rest => (key, value.mapTexts change) :: mapValues change rest
end

end Json

end DepositLedger
