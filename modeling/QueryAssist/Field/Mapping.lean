import QueryAssist.Field.Basic
import QueryAssist.Field.Error
import QueryAssist.Keyed
/-!
# Index mappings

A mapping describes fields by name in blocks of properties. It comes for several indices, for one,
or as a bare block, and may have a type name above the block. Multi-fields become children.
-/

namespace QueryAssist

/-- The type that a definition states; one with properties but no type is an object. -/
def Field.statedType (definition : Json) : Json :=
  let type := definition.member "type"
  if type.isTruthy then type
  else if (definition.member "properties").isTruthy then .str "object"
  else .null

def Field.ofDefinition (name : String) (definition : Json) (children : List Field) : Field :=
  let stated := Field.statedType definition
  { name
    type := .ofJson stated
    analyzer := definition.member "analyzer"
    nested := match stated with
      | .str s => s == "nested"
      | _ => false
    children }

mutual

def Field.ofBlock : Json → Except FieldError (List Field)
  | .obj members => Field.ofDefinitions members
  | v => if v.isTruthy then .error (.withoutMembers v) else .ok []

/-- Definitions that are no objects are left out. -/
def Field.ofDefinitions : List (String × Json) → Except FieldError (List Field)
  | [] => .ok []
  | (name, .obj members) :: rest => do
      let own ← Field.ofOwn members
      let multi ← Field.ofMulti members
      let fields ← Field.ofDefinitions rest
      return Field.ofDefinition name (.obj members) (own ++ multi) :: fields
  | _ :: rest => Field.ofDefinitions rest

def Field.ofOwn : List (String × Json) → Except FieldError (List Field)
  | [] => .ok []
  | (key, v) :: rest => if key = "properties" then Field.ofBlock v else Field.ofOwn rest

/-- The fields under the key "fields", which counts only as an object. -/
def Field.ofMulti : List (String × Json) → Except FieldError (List Field)
  | [] => .ok []
  | (key, .obj members) :: rest =>
      if key = "fields" then Field.ofDefinitions members else Field.ofMulti rest
  | (key, _) :: rest => if key = "fields" then .ok [] else Field.ofMulti rest

end

namespace Snapshot

def isObject : Json → Bool
  | .obj _ => true
  | _ => false

def typedBlock : List (String × Json) → Json
  | [] => .obj []
  | (_, .obj members) :: rest =>
      match members.lookup "properties" with
      | some block => block
      | none => typedBlock rest
  | _ :: rest => typedBlock rest

/-- The block of an index, right in its mappings or below a type name. -/
def propertiesOf (definition : Json) : Json :=
  let mappings :=
    match definition with
    | .obj members => (members.lookup "mappings").getD definition
    | _ => definition
  match mappings with
  | .obj members =>
      match members.lookup "properties" with
      | some block => block
      | none => typedBlock members
  | _ => .obj []

def blocks : List (String × Json) → Except FieldError (List (String × List Field))
  | [] => .ok []
  | (index, definition) :: rest => do
      let fields ← Field.ofBlock (propertiesOf definition)
      let others ← blocks rest
      return (index, fields) :: others

def aliasNames : List (String × Json) → Except FieldError (List Json)
  | [] => .ok []
  | (_, definition) :: rest => do
      let names ← (definition.member "aliases").elements
      let others ← aliasNames rest
      return names.map (fun name => .str name.text) ++ others

/-- Reads a mapping; a single one is that of the index given. -/
def ofMapping (mapping : Json) (index : String) : Except FieldError Snapshot :=
  match mapping with
  | .obj members => do
      let single := Keyed.has "mappings" members || Keyed.has "properties" members
      let definitions :=
        if single then [(index, mapping)] else members.filter fun m => isObject m.2
      if definitions.isEmpty then .error .noIndex
      else do
        let fields ← blocks definitions
        let aliases ← aliasNames definitions
        return { fields, indices := definitions.map fun d => .str d.1, aliases }
  | _ => .error .mappingNotObject

end Snapshot

end QueryAssist
