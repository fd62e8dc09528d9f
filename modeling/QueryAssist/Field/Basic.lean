import QueryAssist.Field.Type
/-!
# Fields

The fields of an index form trees. A snapshot holds those of several indices, and walking it gives
each field under its dotted path, parents before children.
-/

namespace QueryAssist

structure Field where
  name : String
  type : FieldType
  analyzer : Json
  nested : Bool
  children : List Field

/-- The path of a field below another; at the top it is the name alone. -/
def Field.join (parent name : String) : String :=
  if parent.isEmpty then name else parent ++ "." ++ name

mutual

def Field.flatten (parent : String) : Field → List (String × Field)
  | ⟨name, type, analyzer, nested, children⟩ =>
      let path := Field.join parent name
      (path, ⟨name, type, analyzer, nested, children⟩) :: Field.flattenAll path children

def Field.flattenAll (parent : String) : List Field → List (String × Field)
  | [] => []
  | field :: rest => Field.flatten parent field ++ Field.flattenAll parent rest

end

structure Snapshot where
  fields : List (String × List Field)
  indices : List Json
  aliases : List Json

namespace Snapshot

def empty : Snapshot :=
  ⟨[], [], []⟩

def allFields (s : Snapshot) : List Field :=
  s.fields.flatMap (·.2)

def fieldCount (s : Snapshot) : Nat :=
  s.allFields.length

def walk (s : Snapshot) : List (String × Field) :=
  Field.flattenAll "" s.allFields

end Snapshot

end QueryAssist
