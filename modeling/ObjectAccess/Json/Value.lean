/-!
# JSON values

A number is a whole number of 64 bits, with or without sign, or a double.  The
members of an object are a list: a value that was read has them in ascending order
of their names, each name once, and a value that is written keeps whatever order
its maker gave it.
-/

namespace ObjectAccess.Json

set_option autoImplicit false

/-- A number as it is kept after reading. -/
inductive Number where
  /-- A whole number. -/
  | integer (n : Int)
  /-- Any other number. -/
  | real (x : Float)

/-- A JSON value. -/
inductive Value where
  | null
  | boolean (b : Bool)
  | number (n : Number)
  | text (s : String)
  | list (items : List Value)
  | object (members : List (String × Value))

namespace Value

/-- A list of texts. -/
def texts (items : List String) : Value := .list (items.map .text)

/-- A whole number. -/
def integer (n : Int) : Value := .number (.integer n)

/-- The member of an object with a given name. -/
def member? (name : String) : Value → Option Value
  | .object members => (members.find? fun m => m.1 = name).map (·.2)
  | _ => none

end Value

/-- Puts a member into members in ascending order; a member of the same name is replaced. -/
def insertMember (name : String) (value : Value) :
    List (String × Value) → List (String × Value)
  | [] => [(name, value)]
  | (other, held) :: rest =>
    if name < other then (name, value) :: (other, held) :: rest
    else if name = other then (name, value) :: rest
    else (other, held) :: insertMember name value rest

/-- Members in ascending order, the last one of each name. -/
def sortMembers (members : List (String × Value)) : List (String × Value) :=
  members.foldl (fun sorted m => insertMember m.1 m.2 sorted) []

end ObjectAccess.Json
