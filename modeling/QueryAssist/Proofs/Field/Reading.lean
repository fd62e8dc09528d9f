import QueryAssist.Field.Mapping
import QueryAssist.Field.Payload
import Mathlib.Tactic.Common
/-!
# Steps of reading

The readings of payloads and mappings as equations, one for each way that they can begin.
-/

namespace QueryAssist

open Snapshot (isObject)

/-! ## Walks over values -/

variable {v : Json}

theorem elements_arr (items : List Json) : (Json.arr items).elements = .ok items := by
  cases items <;> rfl

theorem elements?_getD {items : List Json} (h : v.elements = .ok items) :
    v.elements?.getD [] = items := by
  rw [Json.elements] at h
  split at h
  · split at h
    · rename_i found hfound
      rw [hfound]
      exact Except.ok.inj h
    · cases h
  · rw [← Except.ok.inj h]
    cases v <;> simp_all [Json.isTruthy, Json.elements?]

theorem isObject_of_mem_elements? (h : ∀ items, v ≠ .arr items) :
    ∀ element ∈ v.elements?.getD [], isObject element = false := by
  cases v with
  | arr items => exact absurd rfl (h items)
  | str s => exact List.forall_mem_map.2 fun c _ => rfl
  | obj members => exact List.forall_mem_map.2 fun m _ => rfl
  | _ => exact List.forall_mem_nil _

def Field.ofElements (v : Json) : Except FieldError (List Field) := do
  match ← v.elements with
  | [] => return []
  | element :: _ => .error (.invalidField element)

/-! ## Payloads -/

namespace Snapshot

variable {payload : Json} {members : List (String × Json)}

def fieldMembers? (raw : Json) : Option (List (String × Json)) :=
  match if raw.isTruthy then raw else .obj [] with
  | .obj members => some members
  | _ => none

theorem fieldMembers?_obj (members : List (String × Json)) :
    fieldMembers? (.obj members) = some members := by
  cases members <;> rfl

def ofFields (payload : Json) (members : List (String × Json)) : Except FieldError Snapshot := do
  let fields ← indexFields members
  let listed := payload.member "indices"
  let indices ← if listed.isTruthy then listed.elements else .ok (fields.map fun f => .str f.1)
  let aliases ← (payload.member "aliases").elements
  return { fields, indices, aliases }

theorem ofPayload_of_not_isTruthy (h : payload.isTruthy = false) : ofPayload payload = .ok empty := by
  unfold ofPayload
  rw [h]
  rfl

theorem ofPayload_of_not_isObject (h : payload.isTruthy = true) (hnot : isObject payload = false) :
    ofPayload payload = .error .payloadNotObject := by
  unfold ofPayload
  rw [h]
  cases payload with
  | obj members => cases hnot
  | _ => rfl

theorem ofPayload_of_isTruthy (h : (Json.obj members).isTruthy = true) :
    ofPayload (.obj members) =
      (fieldMembers? ((Json.obj members).member "fields")).elim (.error .fieldsNotObject)
        (ofFields (.obj members)) := by
  rw [ofPayload, h, fieldMembers?]
  dsimp only
  cases if ((Json.obj members).member "fields").isTruthy then (Json.obj members).member "fields"
    else .obj [] <;> rfl

/-! ## Mappings -/

def definitionsOf (members : List (String × Json)) (index : String) : List (String × Json) :=
  if Keyed.has "mappings" members || Keyed.has "properties" members then [(index, .obj members)]
  else members.filter fun m => isObject m.2

theorem ofMapping_obj (members : List (String × Json)) (index : String) :
    ofMapping (.obj members) index =
      if (definitionsOf members index).isEmpty then .error .noIndex
      else do
        let fields ← blocks (definitionsOf members index)
        let aliases ← aliasNames (definitionsOf members index)
        return {
          fields, aliases
          indices := (definitionsOf members index).map fun d => .str d.1 } :=
  rfl

end Snapshot

end QueryAssist
