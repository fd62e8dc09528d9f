import QueryAssist.Number.Binary64
/-!
# JSON values

Values as they are written: members keep their order, and an integer is not a float.
-/

namespace QueryAssist

open Number

inductive Json
  | null
  | bool (value : Bool)
  | int (value : Int)
  | float (value : Binary64)
  | str (value : String)
  | arr (items : List Json)
  | obj (members : List (String × Json))
  deriving Repr

namespace Json

instance : Inhabited Json := ⟨null⟩

def kindName : Json → String
  | null => "NoneType"
  | bool _ => "bool"
  | int _ => "int"
  | float _ => "float"
  | str _ => "str"
  | arr _ => "list"
  | obj _ => "dict"

/-- Whether the value is none of null, false, zero and the empty text, array and object. -/
def isTruthy : Json → Bool
  | null => false
  | bool b => b
  | int n => n != 0
  | float x => !x.isZero
  | str s => !s.isEmpty
  | arr items => !items.isEmpty
  | obj members => !members.isEmpty

/-- The member of an object. Null is also what a missing member and a value without members give. -/
def member (key : String) : Json → Json
  | obj members => (members.lookup key).getD null
  | _ => null

/-- What a walk over the value meets: items, keys, or characters one by one. -/
def elements? : Json → Option (List Json)
  | str s => some (s.toList.map fun c => str (String.singleton c))
  | arr items => some items
  | obj members => some (members.map fun m => str m.1)
  | _ => none

end Json

end QueryAssist
