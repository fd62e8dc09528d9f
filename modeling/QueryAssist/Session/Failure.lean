import QueryAssist.Number.Integer
import QueryAssist.Position.Basic
import QueryAssist.Workspace.Key
import QueryAssist.Workspace.MappingFile
/-!
# Failures

Everything that can go wrong in a request, with the text that the client is shown.
-/

namespace QueryAssist.Session

open Workspace

inductive CoordinateFault
  | notNumber (v : Json)
  | malformed (s : String)
  | tooLong (digits : Nat)
  | infinite
  | notANumber

/-- A long text that is no number is shown in part only. -/
def shownChars : Nat := 200

def CoordinateFault.message : CoordinateFault → String
  | notNumber v =>
      "int() argument must be a string, a bytes-like object or a real number, not '" ++
        v.kindName ++ "'"
  | malformed s =>
      "invalid literal for int() with base 10: " ++
        String.ofList ((Text.quoted s).toList.take shownChars)
  | tooLong digits => describeDigits digits
  | infinite => "cannot convert float infinity to integer"
  | notANumber => "cannot convert float NaN to integer"

/-- A line or a column may come as an integer, as a truth value, as a float, which is cut, or in
text. -/
def coordinate : Json → Except CoordinateFault Int
  | .int n => .ok n
  | .bool b => .ok (if b then 1 else 0)
  | .float .nan => .error .notANumber
  | .float x => match x.truncate? with
      | some n => .ok n
      | none => .error .infinite
  | .str s => match Number.readInteger s.toList with
      | .ok n => .ok n
      | .error .malformed => .error (.malformed s)
      | .error (.tooLong digits) => .error (.tooLong digits)
  | v => .error (.notNumber v)

inductive Failure
  | field (fault : FieldError)
  | mapping (fault : MappingFault)
  | uri (fault : UriFault)
  | uriNotText (given : Json)
  | pathNotText (given : Json)
  | noHome
  | document (message : String)
  | coordinate (fault : CoordinateFault)
  | position (fault : PositionError)

def Failure.message : Failure → String
  | field fault => fault.message
  | mapping fault => fault.message
  | uri fault => fault.message
  | uriNotText v => "'" ++ v.kindName ++ "' object has no attribute 'startswith'"
  | pathNotText v => "expected str, bytes or os.PathLike object, not " ++ v.kindName
  | noHome => "Could not determine home directory."
  | document message => message
  | coordinate fault => fault.message
  | position fault => fault.message

end QueryAssist.Session
