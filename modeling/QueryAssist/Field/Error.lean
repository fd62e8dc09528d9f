import QueryAssist.Json.Display
/-!
# Faults of field descriptions

Why a payload or a mapping gives no snapshot.
-/

namespace QueryAssist

inductive FieldError
  | payloadNotObject
  | fieldsNotObject
  | invalidField (entry : Json)
  | unnamedField (entry : Json)
  | mappingNotObject
  | noIndex
  | notIterable (value : Json)
  | withoutMembers (value : Json)

namespace FieldError

/-- Whether the description was looked at and refused. The other faults come from a value of the
wrong kind that nothing looked at. -/
def isRefusal : FieldError → Bool
  | notIterable _ | withoutMembers _ => false
  | _ => true

def message : FieldError → String
  | payloadNotObject => "Payload de campos deve ser um objeto JSON"
  | fieldsNotObject => "'fields' deve mapear índice -> lista de campos"
  | invalidField entry => "Campo inválido: " ++ entry.display
  | unnamedField entry => "Campo sem nome: " ++ entry.display
  | mappingNotObject => "Mapping deve ser um objeto JSON"
  | noIndex => "Nenhum índice encontrado no mapping"
  | notIterable value => "'" ++ value.kindName ++ "' object is not iterable"
  | withoutMembers value => "'" ++ value.kindName ++ "' object has no attribute 'items'"

end FieldError

/-- What a walk over a value meets, nothing for a value like null or zero. -/
def Json.elements (v : Json) : Except FieldError (List Json) :=
  if v.isTruthy then
    match v.elements? with
    | some items => .ok items
    | none => .error (.notIterable v)
  else .ok []

end QueryAssist
