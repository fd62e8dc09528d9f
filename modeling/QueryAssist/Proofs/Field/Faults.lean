import QueryAssist.Proofs.Field.Reading
/-!
# Faults in the order of reading

All that is wrong with a description of fields, in the order in which it is read. A description without
faults gives a snapshot, any other fails with the first fault. That is no refusal where a value is
walked that has nothing to walk over: a number or true in the place of a list, or anything but an object
in the place of a block.
-/

namespace QueryAssist

open Snapshot (isObject)

/-! ## Readings and their faults -/

/-- What a fault says of the value that it names. -/
def FieldError.Holds : FieldError → Prop
  | payloadNotObject | fieldsNotObject | mappingNotObject | noIndex => True
  | invalidField entry => isObject entry = false
  | unnamedField entry =>
      isObject entry = true ∧ ∀ name, entry.member "name" = .str name → name = ""
  | notIterable v => v.isTruthy = true ∧ v.elements? = none
  | withoutMembers v => v.isTruthy = true ∧ isObject v = false

/-- A reading fails with the first of some faults, and succeeds where there is none. -/
structure Reports {α : Type} (x : Except FieldError α) (faults : List FieldError) : Prop where
  error_iff : ∀ e, x = .error e ↔ faults.head? = some e
  holds : ∀ e ∈ faults, e.Holds

namespace Reports

variable {α β : Type} {x : Except FieldError α} {f : α → Except FieldError β}
  {e : FieldError} {faults later : List FieldError}

theorem ok (a : α) : Reports (.ok a) [] :=
  ⟨by simp, List.forall_mem_nil _⟩

theorem error (he : e.Holds) (hlater : ∀ d ∈ later, d.Holds) :
    Reports (.error e : Except FieldError α) (e :: later) :=
  ⟨by simp, List.forall_mem_cons.2 ⟨he, hlater⟩⟩

theorem single (he : e.Holds) : Reports (.error e : Except FieldError α) [e] :=
  error he (List.forall_mem_nil _)

theorem ok_iff (hx : Reports x faults) : (∃ a, x = .ok a) ↔ faults = [] := by
  constructor
  · rintro ⟨a, rfl⟩
    cases faults with
    | nil => rfl
    | cons e rest => cases (hx.error_iff e).2 rfl
  · rintro rfl
    cases x with
    | error e => cases (hx.error_iff e).1 rfl
    | ok a => exact ⟨a, rfl⟩

theorem bind (hx : Reports x faults) (hlater : ∀ d ∈ later, d.Holds)
    (hf : ∀ a, x = .ok a → Reports (f a) later) : Reports (x >>= f) (faults ++ later) := by
  cases faults with
  | nil =>
      obtain ⟨a, rfl⟩ := hx.ok_iff.2 rfl
      exact hf a rfl
  | cons e rest =>
      -- Nothing more is read here, but the later faults are faults of the description all the same.
      obtain ⟨he, hrest⟩ := List.forall_mem_cons.1 hx.holds
      rw [(hx.error_iff e).2 rfl]
      exact error he (List.forall_mem_append.2 ⟨hrest, hlater⟩)

theorem map (g : α → β) (hx : Reports x faults) :
    Reports (x >>= fun a => .ok (g a)) faults := by
  have h := hx.bind (List.forall_mem_nil _) fun a _ => ok (g a)
  rwa [List.append_nil] at h

end Reports

def Json.walkFaults (v : Json) : List FieldError :=
  if v.isTruthy && v.elements?.isNone then [.notIterable v] else []

theorem reports_elements (v : Json) : Reports v.elements v.walkFaults := by
  rw [Json.elements, Json.walkFaults]
  cases htruthy : v.isTruthy with
  | false => exact .ok []
  | true =>
      cases hitems : v.elements? with
      | none => exact .single ⟨htruthy, hitems⟩
      | some items => exact .ok items

/-! ## Payloads -/

def Field.nameFaults (entry : Json) : List FieldError :=
  match entry.member "name" with
  | .str name => if name.isEmpty then [.unnamedField entry] else []
  | _ => [.unnamedField entry]

mutual

def Field.entryFaults : Json → List FieldError
  | .obj members => Field.nameFaults (.obj members) ++ Field.propertyFaults members
  | entry => [.invalidField entry]

def Field.propertyFaults : List (String × Json) → List FieldError
  | [] => []
  | (key, v) :: rest => if key = "properties" then Field.listFaults v else Field.propertyFaults rest

/-- No element of a text or of an object is an entry. -/
def Field.listFaults : Json → List FieldError
  | .arr entries => Field.entriesFaults entries
  | v => v.walkFaults ++ (v.elements?.getD []).map .invalidField

def Field.entriesFaults : List Json → List FieldError
  | [] => []
  | entry :: rest => Field.entryFaults entry ++ Field.entriesFaults rest

end

theorem reports_ofElements {v : Json} (h : ∀ items, v ≠ .arr items) :
    Reports (Field.ofElements v) (v.walkFaults ++ (v.elements?.getD []).map .invalidField) := by
  have hinvalid := isObject_of_mem_elements? h
  refine (reports_elements v).bind (List.forall_mem_map.2 hinvalid) fun items hitems => ?_
  rw [elements?_getD hitems] at hinvalid ⊢
  cases items with
  | nil => exact .ok []
  | cons element rest =>
      obtain ⟨helement, hrest⟩ := List.forall_mem_cons.1 hinvalid
      exact .error helement (List.forall_mem_map.2 hrest)

mutual

theorem reports_ofEntry : ∀ entry, Reports (Field.ofEntry entry) (Field.entryFaults entry)
  | .obj members => by
      have hproperties := reports_ofProperties members
      rw [Field.ofEntry, Field.entryFaults, Field.nameFaults]
      cases hname : (Json.obj members).member "name" with
      | str name =>
          dsimp only
          by_cases hempty : name.isEmpty = true
          · rw [if_pos hempty, if_pos hempty]
            refine .error ⟨rfl, fun found hfound => ?_⟩ hproperties.holds
            cases hname.symm.trans hfound
            exact String.isEmpty_iff.1 hempty
          · rw [if_neg hempty, if_neg hempty]
            exact hproperties.map _
      | _ =>
          refine .error ⟨rfl, fun found hfound => ?_⟩ hproperties.holds
          cases hname.symm.trans hfound
  | .null | .bool _ | .int _ | .float _ | .str _ | .arr _ => .single rfl

theorem reports_ofProperties :
    ∀ members, Reports (Field.ofProperties members) (Field.propertyFaults members)
  | [] => .ok []
  | (key, v) :: rest => by
      rw [Field.ofProperties, Field.propertyFaults]
      split
      · exact reports_ofList v
      · exact reports_ofProperties rest

theorem reports_ofList : ∀ v, Reports (Field.ofList v) (Field.listFaults v)
  | .arr entries => reports_ofEntries entries
  | .null | .bool _ | .int _ | .float _ | .str _ | .obj _ => reports_ofElements (by rintro items ⟨⟩)

theorem reports_ofEntries :
    ∀ entries, Reports (Field.ofEntries entries) (Field.entriesFaults entries)
  | [] => .ok []
  | entry :: rest => by
      have hrest := reports_ofEntries rest
      rw [Field.ofEntries, Field.entriesFaults]
      exact (reports_ofEntry entry).bind hrest.holds fun field _ => hrest.map (field :: ·)

end

namespace Snapshot

def fieldsFaults (raw : Json) : List FieldError :=
  match fieldMembers? raw with
  | some members => members.flatMap fun m => Field.listFaults m.2
  | none => [.fieldsNotObject]

def payloadFaults (payload : Json) : List FieldError :=
  if payload.isTruthy then
    match payload with
    | .obj _ =>
        fieldsFaults (payload.member "fields") ++
          ((payload.member "indices").walkFaults ++ (payload.member "aliases").walkFaults)
    | _ => [.payloadNotObject]
  else []

theorem reports_indexFields : ∀ members : List (String × Json),
    Reports (indexFields members) (members.flatMap fun m => Field.listFaults m.2)
  | [] => .ok []
  | (index, entries) :: rest => by
      have hrest := reports_indexFields rest
      rw [indexFields, List.flatMap_cons]
      exact (reports_ofList entries).bind hrest.holds fun fields _ => hrest.map ((index, fields) :: ·)

theorem reports_ofFields (payload : Json) (members : List (String × Json)) :
    Reports (ofFields payload members) ((members.flatMap fun m => Field.listFaults m.2) ++
      ((payload.member "indices").walkFaults ++ (payload.member "aliases").walkFaults)) := by
  have hindices := reports_elements (payload.member "indices")
  have haliases := reports_elements (payload.member "aliases")
  have hlater := List.forall_mem_append.2 ⟨hindices.holds, haliases.holds⟩
  refine (reports_indexFields members).bind hlater fun fields _ => ?_
  dsimp only
  split
  · exact hindices.bind haliases.holds fun indices _ => haliases.map (Snapshot.mk fields indices)
  · rename_i hfalsy
    rw [Json.walkFaults, Bool.eq_false_iff.2 hfalsy]
    exact haliases.map (Snapshot.mk fields _)

theorem reports_ofPayload (payload : Json) :
    Reports (ofPayload payload) (payloadFaults payload) := by
  unfold payloadFaults
  cases htruthy : payload.isTruthy with
  | false =>
      rw [ofPayload_of_not_isTruthy htruthy]
      exact .ok empty
  | true =>
      cases payload with
      | obj members =>
          have hfields := reports_ofFields (.obj members)
          rw [ofPayload_of_isTruthy htruthy, if_pos rfl, fieldsFaults]
          cases fieldMembers? ((Json.obj members).member "fields") with
          | none => exact .error trivial (hfields []).holds
          | some found => exact hfields found
      | _ =>
          rw [ofPayload_of_not_isObject htruthy rfl]
          exact .single trivial

end Snapshot

/-! ## Mappings -/

mutual

def Field.blockFaults : Json → List FieldError
  | .obj members => Field.definitionFaults members
  | v => if v.isTruthy then [.withoutMembers v] else []

def Field.definitionFaults : List (String × Json) → List FieldError
  | [] => []
  | (_, .obj members) :: rest =>
      Field.ownFaults members ++ (Field.multiFaults members ++ Field.definitionFaults rest)
  | _ :: rest => Field.definitionFaults rest

def Field.ownFaults : List (String × Json) → List FieldError
  | [] => []
  | (key, v) :: rest => if key = "properties" then Field.blockFaults v else Field.ownFaults rest

def Field.multiFaults : List (String × Json) → List FieldError
  | [] => []
  | (key, .obj members) :: rest =>
      if key = "fields" then Field.definitionFaults members else Field.multiFaults rest
  | (key, _) :: rest => if key = "fields" then [] else Field.multiFaults rest

end

mutual

theorem reports_ofBlock : ∀ block, Reports (Field.ofBlock block) (Field.blockFaults block)
  | .obj members => reports_ofDefinitions members
  | .null | .bool _ | .int _ | .float _ | .str _ | .arr _ => by
      simp only [Field.ofBlock, Field.blockFaults]
      split
      · rename_i htruthy
        exact .single ⟨htruthy, rfl⟩
      · exact .ok []

theorem reports_ofDefinitions : ∀ members,
    Reports (Field.ofDefinitions members) (Field.definitionFaults members)
  | [] => .ok []
  | (name, .obj members) :: rest => by
      have hmulti := reports_ofMulti members
      have hrest := reports_ofDefinitions rest
      rw [Field.ofDefinitions, Field.definitionFaults]
      exact (reports_ofOwn members).bind (List.forall_mem_append.2 ⟨hmulti.holds, hrest.holds⟩)
        fun own _ => hmulti.bind hrest.holds fun multi _ => hrest.map _
  | (_, .null) :: rest | (_, .bool _) :: rest | (_, .int _) :: rest | (_, .float _) :: rest
  | (_, .str _) :: rest | (_, .arr _) :: rest => reports_ofDefinitions rest

theorem reports_ofOwn : ∀ members, Reports (Field.ofOwn members) (Field.ownFaults members)
  | [] => .ok []
  | (key, v) :: rest => by
      rw [Field.ofOwn, Field.ownFaults]
      split
      · exact reports_ofBlock v
      · exact reports_ofOwn rest

theorem reports_ofMulti : ∀ members, Reports (Field.ofMulti members) (Field.multiFaults members)
  | [] => .ok []
  | (key, .obj members) :: rest => by
      rw [Field.ofMulti, Field.multiFaults]
      split
      · exact reports_ofDefinitions members
      · exact reports_ofMulti rest
  | (key, .null) :: rest | (key, .bool _) :: rest | (key, .int _) :: rest
  | (key, .float _) :: rest | (key, .str _) :: rest | (key, .arr _) :: rest => by
      simp only [Field.ofMulti, Field.multiFaults]
      split
      · exact .ok []
      · exact reports_ofMulti rest

end

namespace Snapshot

def mappingFaults (mapping : Json) (index : String) : List FieldError :=
  match mapping with
  | .obj members =>
      let definitions := definitionsOf members index
      if definitions.isEmpty then [.noIndex]
      else
        definitions.flatMap (fun d => Field.blockFaults (propertiesOf d.2)) ++
          definitions.flatMap fun d => (d.2.member "aliases").walkFaults
  | _ => [.mappingNotObject]

theorem reports_blocks : ∀ definitions : List (String × Json),
    Reports (blocks definitions)
      (definitions.flatMap fun d => Field.blockFaults (propertiesOf d.2))
  | [] => .ok []
  | (index, definition) :: rest => by
      have hrest := reports_blocks rest
      rw [blocks, List.flatMap_cons]
      exact (reports_ofBlock _).bind hrest.holds fun fields _ => hrest.map ((index, fields) :: ·)

theorem reports_aliasNames : ∀ definitions : List (String × Json),
    Reports (aliasNames definitions)
      (definitions.flatMap fun d => (d.2.member "aliases").walkFaults)
  | [] => .ok []
  | (index, definition) :: rest => by
      have hrest := reports_aliasNames rest
      rw [aliasNames, List.flatMap_cons]
      exact (reports_elements _).bind hrest.holds fun names _ => hrest.map _

theorem reports_ofMapping (mapping : Json) (index : String) :
    Reports (ofMapping mapping index) (mappingFaults mapping index) := by
  cases mapping with
  | obj members =>
      rw [ofMapping_obj, mappingFaults]
      split
      · exact .single trivial
      · have haliases := reports_aliasNames (definitionsOf members index)
        exact (reports_blocks _).bind haliases.holds fun fields _ => haliases.map _
  | _ => exact .single trivial

/-! ## Refusals -/

theorem isRefusal_or_of_holds {e : FieldError} (h : e.Holds) :
    e.isRefusal = true ∨ ∃ v, v.isTruthy = true ∧
      (e = .notIterable v ∧ v.elements? = none ∨ e = .withoutMembers v ∧ isObject v = false) := by
  cases e with
  | notIterable v => exact .inr ⟨v, h.1, .inl ⟨rfl, h.2⟩⟩
  | withoutMembers v => exact .inr ⟨v, h.1, .inr ⟨rfl, h.2⟩⟩
  | _ => exact .inl rfl

/-- A description without faults gives a snapshot, and any other fails with the first of its faults.
This is a refusal, or names a value with nothing to walk over that is not like null or zero. -/
theorem error_of_reading (description : Json) (index : String) :
    ((∃ s, ofPayload description = .ok s) ↔ payloadFaults description = []) ∧
      (∀ e, ofPayload description = .error e ↔ (payloadFaults description).head? = some e) ∧
      ((∃ s, ofMapping description index = .ok s) ↔ mappingFaults description index = []) ∧
      (∀ e, ofMapping description index = .error e ↔
        (mappingFaults description index).head? = some e) ∧
      ∀ e ∈ payloadFaults description ++ mappingFaults description index,
        e.Holds ∧ (e.isRefusal = true ∨ ∃ v, v.isTruthy = true ∧
          (e = .notIterable v ∧ v.elements? = none ∨ e = .withoutMembers v ∧ isObject v = false)) := by
  have hpayload := reports_ofPayload description
  have hmapping := reports_ofMapping description index
  have hholds := List.forall_mem_append.2 ⟨hpayload.holds, hmapping.holds⟩
  exact ⟨hpayload.ok_iff, hpayload.error_iff, hmapping.ok_iff, hmapping.error_iff,
    fun e he => ⟨hholds e he, isRefusal_or_of_holds (hholds e he)⟩⟩

/-- Five in the place of the fields of an index, and in that of a block of properties. -/
theorem reading_without_refusal :
    ofPayload (.obj [("fields", .obj [("i", .int 5)])]) = .error (.notIterable (.int 5)) ∧
      ofMapping (.obj [("properties", .int 5)]) "_default" = .error (.withoutMembers (.int 5)) ∧
      (FieldError.notIterable (.int 5)).isRefusal = false ∧
      (FieldError.withoutMembers (.int 5)).isRefusal = false :=
  ⟨rfl, rfl, rfl, rfl⟩

end Snapshot

end QueryAssist
