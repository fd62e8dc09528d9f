import QueryAssist.Field.Mapping
import QueryAssist.Json.Parser
import QueryAssist.Text.Utf8
import QueryAssist.Workspace.FileTree
/-!
# Mapping files

Reading a mapping from a file in UTF-8. The mapping of a single index is named for the file.
-/

namespace QueryAssist.Workspace

inductive MappingFault
  | file (fault : FileFault) (path : String)
  | nullCharacter
  | encoding (fault : Text.Utf8.Fault)
  | json (fault : Json.ParseError) (path : String)
  | field (fault : FieldError)

def describeEncoding (fault : Text.Utf8.Fault) : String :=
  let place :=
    if fault.length = 1 then
      "byte 0x" ++ String.ofList (Text.hexDigits 2 fault.byte.toNat) ++ " in position " ++
        toString fault.start
    else
      "bytes in position " ++ toString fault.start ++ "-" ++
        toString (fault.start + fault.length - 1)
  "'utf-8' codec can't decode " ++ place ++ ": " ++ fault.reason.message

def describeDigits (digits : Nat) : String :=
  "Exceeds the limit (4300 digits) for integer string conversion: value has " ++ toString digits ++
    " digits; use sys.set_int_max_str_digits() to increase the limit"

def describeJson (path : String) : Json.ParseError → String
  | .malformed reason offset line column =>
      "JSON inválido em " ++ path ++ ": " ++ reason.message ++ ": line " ++ toString line ++
        " column " ++ toString column ++ " (char " ++ toString offset ++ ")"
  | .longInteger digits => describeDigits digits
  | .tooDeep container =>
      "maximum recursion depth exceeded while decoding a JSON " ++ container.name ++
        " from a unicode string"

def MappingFault.message : MappingFault → String
  | file fault path => fault.message path
  | nullCharacter => "embedded null byte"
  | encoding fault => describeEncoding fault
  | json fault path => describeJson path fault
  | field fault => fault.message

/-- A carriage return is a line end, alone or before a line feed. -/
def unifyLineEnds : List Char → List Char
  | [] => []
  | '\r' :: '\n' :: rest => '\n' :: unifyLineEnds rest
  | c :: rest => (if c = '\r' then '\n' else c) :: unifyLineEnds rest

def loadMapping (files : FileTree) (room : Nat) (path : Path) : Except MappingFault Snapshot := do
  if path.text.toList.contains '\x00' then .error .nullCharacter
  let bytes ← (files.read path).mapError fun fault => .file fault path.text
  let cs ← (Text.Utf8.decode bytes).mapError .encoding
  let mapping ← (Json.parse room (unifyLineEnds cs)).mapError fun fault => .json fault path.text
  (Snapshot.ofMapping mapping path.stem).mapError .field

end QueryAssist.Workspace
