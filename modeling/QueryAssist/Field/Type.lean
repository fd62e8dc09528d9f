import QueryAssist.Json.Display
import QueryAssist.Text.Match
/-!
# Field types

The types that a field of an index may have, and the reading of type names from elsewhere.
-/

namespace QueryAssist

inductive FieldType
  | text
  | keyword
  | long
  | integer
  | short
  | byte
  | double
  | float
  | date
  | boolean
  | binary
  | geoPoint
  | geoShape
  | ip
  | completion
  | nested
  | object
  | flattened
  deriving DecidableEq, Repr

namespace FieldType

def all : List FieldType := [
  text, keyword, long, integer, short, byte, double, float, date, boolean, binary, geoPoint,
  geoShape, ip, completion, nested, object, flattened]

def name : FieldType → String
  | text => "text"
  | keyword => "keyword"
  | long => "long"
  | integer => "integer"
  | short => "short"
  | byte => "byte"
  | double => "double"
  | float => "float"
  | date => "date"
  | boolean => "boolean"
  | binary => "binary"
  | geoPoint => "geo_point"
  | geoShape => "geo_shape"
  | ip => "ip"
  | completion => "completion"
  | nested => "nested"
  | object => "object"
  | flattened => "flattened"

def ofName? (s : String) : Option FieldType :=
  all.find? (·.name == s)

/-- Parts of type names, with the type that a name with one of them stands for. The first rule with
a part that occurs counts. -/
def rules : List (List String × FieldType) := [
  (["text", "string", "varchar"], text),
  (["keyword", "id"], keyword),
  (["long", "bigint"], long),
  (["int", "integer"], integer),
  (["float", "real"], float),
  (["double", "decimal", "numeric"], double),
  (["date", "time", "timestamp"], date),
  (["bool"], boolean),
  (["geo", "point", "location"], geoPoint),
  (["ip", "inet"], ip)]

def ruleFor? (s : String) : Option FieldType :=
  (rules.find? fun rule => rule.1.any fun part => Text.hasInfix part.toList s.toList).map (·.2)

/-- A type by its own name or by a rule, without regard to case; else a keyword. -/
def ofText (s : String) : FieldType :=
  let lowered := Text.lower s
  ((ofName? lowered).or (ruleFor? lowered)).getD keyword

/-- Values other than texts are read as they are displayed. -/
def ofJson (raw : Json) : FieldType :=
  if raw.isTruthy then ofText raw.text else keyword

end FieldType

end QueryAssist
