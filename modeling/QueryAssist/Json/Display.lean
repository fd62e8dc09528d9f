import QueryAssist.Json.Basic
import QueryAssist.Number.Shortest
import QueryAssist.Text.Quoted
/-!
# JSON values in messages

The form in which messages show a value, and the text that stands for it.
-/

namespace QueryAssist.Json

open Number

/-- Decimal exponents from -4 to 15 are written out, others with at least two digits. -/
def numberLayout : Layout := ⟨-4, 16, 2⟩

def displayFloat : Binary64 → String
  | .nan => "nan"
  | .infinite negative => if negative then "-inf" else "inf"
  | .finite negative mantissa exponent =>
      let digits :=
        if mantissa = 0 then ['0', '.', '0'] else numberLayout.decimal (shortest mantissa exponent)
      String.ofList (if negative then '-' :: digits else digits)

mutual

def display : Json → String
  | null => "None"
  | bool b => if b then "True" else "False"
  | int n => toString n
  | float x => displayFloat x
  | str s => Text.quoted s
  | arr items => "[" ++ ", ".intercalate (displayItems items) ++ "]"
  | obj members => "\x7b" ++ ", ".intercalate (displayMembers members) ++ "\x7d"

def displayItems : List Json → List String
  | [] => []
  | v :: rest => display v :: displayItems rest

def displayMembers : List (String × Json) → List String
  | [] => []
  | (key, v) :: rest => (Text.quoted key ++ ": " ++ display v) :: displayMembers rest

end

/-- A text is itself, other values are as they are displayed. -/
def text : Json → String
  | str s => s
  | v => v.display

end QueryAssist.Json
