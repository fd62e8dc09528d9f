import QueryAssist.Field.Basic
import QueryAssist.Field.Error
/-!
# Field payloads

A payload lists the fields of each index as objects with a name, and optionally a type, an analyzer,
a nested flag and properties of the same form.
-/

namespace QueryAssist

mutual

def Field.ofEntry : Json → Except FieldError Field
  | .obj members =>
      let entry := Json.obj members
      match entry.member "name" with
      | .str name =>
          if name.isEmpty then .error (.unnamedField entry)
          else do
            let children ← Field.ofProperties members
            return {
              name
              type := .ofJson (entry.member "type")
              analyzer := entry.member "analyzer"
              nested := (entry.member "nested").isTruthy
              children }
      | _ => .error (.unnamedField entry)
  | entry => .error (.invalidField entry)

def Field.ofProperties : List (String × Json) → Except FieldError (List Field)
  | [] => .ok []
  | (key, v) :: rest => if key = "properties" then Field.ofList v else Field.ofProperties rest

/-- Only an array can hold entries: elsewhere the first element met is a text. -/
def Field.ofList : Json → Except FieldError (List Field)
  | .arr entries => Field.ofEntries entries
  | v => do
      match ← v.elements with
      | [] => return []
      | element :: _ => .error (.invalidField element)

def Field.ofEntries : List Json → Except FieldError (List Field)
  | [] => .ok []
  | entry :: rest => do
      let field ← Field.ofEntry entry
      let fields ← Field.ofEntries rest
      return field :: fields

end

namespace Snapshot

def indexFields : List (String × Json) → Except FieldError (List (String × List Field))
  | [] => .ok []
  | (index, entries) :: rest => do
      let fields ← Field.ofList entries
      let others ← indexFields rest
      return (index, fields) :: others

/-- Without a list of indices these are the keys of the fields. -/
def ofPayload (payload : Json) : Except FieldError Snapshot :=
  if !payload.isTruthy then .ok empty
  else
    match payload with
    | .obj _ =>
        let raw := payload.member "fields"
        match if raw.isTruthy then raw else .obj [] with
        | .obj members => do
            let fields ← indexFields members
            let listed := payload.member "indices"
            let indices ←
              if listed.isTruthy then listed.elements else .ok (fields.map fun f => .str f.1)
            let aliases ← (payload.member "aliases").elements
            return { fields, indices, aliases }
        | _ => .error .fieldsNotObject
    | _ => .error .payloadNotObject

end Snapshot

end QueryAssist
