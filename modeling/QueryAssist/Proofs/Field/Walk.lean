import QueryAssist.Proofs.Field.Definitions
/-!
# Walks over mappings

The walk over the fields of a mapping comes to one field for each definition, in the order of their
addresses, under the names that lead to the definition, and with the type that the definition gives.
-/

namespace QueryAssist

variable {fields others own multi : List Field} {definitions more : List Definition}
  {members rest : List (String × Json)} {name : String} {position : Nat}

/-! ## Fields of definitions -/

/-- From whatever path on, a walk over the fields comes to one for each of the definitions. -/
def Lists (fields : List Field) (definitions : List Definition) : Prop :=
  ∀ parent, (Field.flattenAll parent fields).map (fun entry => (entry.1, entry.2.type)) =
    definitions.map fun d => (d.names.foldl Field.join parent, d.type)

theorem flattenAll_append (parent : String) (fields others : List Field) :
    Field.flattenAll parent (fields ++ others) =
      Field.flattenAll parent fields ++ Field.flattenAll parent others := by
  induction fields with
  | nil => rfl
  | cons field rest ih => rw [List.cons_append, Field.flattenAll, Field.flattenAll, ih, List.append_assoc]

theorem lists_nil : Lists [] [] :=
  fun _ => rfl

theorem Lists.append (hfields : Lists fields definitions) (hothers : Lists others more) :
    Lists (fields ++ others) (definitions ++ more) := by
  intro parent
  rw [flattenAll_append, List.map_append, List.map_append, hfields, hothers]

theorem Lists.below (h : Lists fields definitions) (parent : String) (position : Nat) (name : String)
    (branch : Branch) :
    (Field.flattenAll (Field.join parent name) fields).map (fun entry => (entry.1, entry.2.type)) =
      (definitions.map (Definition.below position name branch)).map
        fun d => (d.names.foldl Field.join parent, d.type) := by
  rw [h, List.map_map]
  rfl

theorem Lists.cons (hown : Lists own (Definition.listUnder .properties members))
    (hmulti : Lists multi (Definition.listUnder .multiFields members))
    (hrest : Lists fields (Definition.listFrom (position + 1) rest))
    (htype : FieldType.ofJson (Field.statedType (.obj members)) =
      (Definition.mk [position] [name] members).type) :
    Lists (Field.ofDefinition name (.obj members) (own ++ multi) :: fields)
      (Definition.listFrom position ((name, .obj members) :: rest)) := by
  intro parent
  rw [Field.flattenAll, Field.ofDefinition, Field.flatten, Definition.listFrom, flattenAll_append]
  simp only [List.map_append, List.map_cons, hown.below parent position name .properties,
    hmulti.below parent position name .multiFields, hrest parent, htype, List.foldl_cons,
    List.foldl_nil]

/-! ## Readings of blocks -/

theorem ofOwn_eq (members : List (String × Json)) :
    Field.ofOwn members = Field.ofBlock ((Json.obj members).member "properties") := by
  rw [Json.member]
  induction members with
  | nil => rfl
  | cons m rest ih =>
      obtain ⟨key, v⟩ := m
      rw [Field.ofOwn, Keyed.lookup_cons, ih]
      split <;> rfl

theorem ofMulti_eq (members : List (String × Json)) :
    Field.ofMulti members =
      if Snapshot.isObject ((Json.obj members).member "fields") then
        Field.ofBlock ((Json.obj members).member "fields")
      else .ok [] := by
  rw [Json.member]
  induction members with
  | nil => rfl
  | cons m rest ih =>
      obtain ⟨key, v⟩ := m
      rw [Keyed.lookup_cons]
      by_cases hkey : key = "fields"
      · rw [if_pos hkey]
        cases v <;> simp only [Field.ofMulti, if_pos hkey] <;> rfl
      · rw [if_neg hkey, ← ih]
        cases v <;> simp only [Field.ofMulti, if_neg hkey]

theorem lists_ofBlock_of_inner {v : Json}
    (h : ∀ inner, v = .obj inner →
      Yields (Field.ofDefinitions inner) (Lists · (Definition.listFrom 0 inner))) :
    Yields (Field.ofBlock v) (Lists · (Definition.ofBlock v)) := by
  cases v with
  | obj inner => exact h inner rfl
  | _ =>
      simp only [Field.ofBlock]
      split
      · exact .error _
      · exact .ok lists_nil

theorem statedType_of_ofOwn (members : List (String × Json)) (address : List Nat)
    (names : List String) :
    Yields (Field.ofOwn members) fun _ =>
      FieldType.ofJson (Field.statedType (.obj members)) =
        (Definition.mk address names members).type := by
  rw [ofOwn_eq]
  intro own hown
  simp only [Field.statedType, Definition.type]
  cases htype : ((Json.obj members).member "type").isTruthy with
  | true => rfl
  | false =>
      have hfalsy : FieldType.ofJson ((Json.obj members).member "type") = .keyword := by
        rw [FieldType.ofJson, htype]
        rfl
      cases hproperties : (Json.obj members).member "properties" with
      | obj block =>
          cases block with
          | nil => exact hfalsy.symm
          | cons m rest => exact FieldType.ofJson_name .object
      | _ =>
          simp only [hproperties, Field.ofBlock] at hown
          split at hown
          · cases hown
          · rename_i hlikeNull
            rw [if_neg hlikeNull]
            exact hfalsy.symm

theorem lists_ofOwn
    (h : Yields (Field.ofBlock ((Json.obj members).member "properties"))
      (Lists · (Definition.listUnder .properties members)))
    (address : List Nat) (names : List String) :
    Yields (Field.ofOwn members) fun own =>
      Lists own (Definition.listUnder .properties members) ∧
        FieldType.ofJson (Field.statedType (.obj members)) =
          (Definition.mk address names members).type := by
  intro own hown
  refine ⟨h own ?_, statedType_of_ofOwn members address names own hown⟩
  rw [← hown, ofOwn_eq]

theorem lists_ofMulti
    (h : Yields (Field.ofBlock ((Json.obj members).member "fields"))
      (Lists · (Definition.listUnder .multiFields members))) :
    Yields (Field.ofMulti members) (Lists · (Definition.listUnder .multiFields members)) := by
  rw [ofMulti_eq]
  split
  · exact h
  · rename_i hnot
    rw [Definition.listUnder_eq, Definition.ofBlock_of_not_isObject (Bool.not_eq_true _ ▸ hnot)]
    exact .ok lists_nil

theorem lists_ofDefinitions (block : List (String × Json)) :
    ∀ position, Yields (Field.ofDefinitions block) (Lists · (Definition.listFrom position block)) := by
  induction block using block_induction with
  | step block ih =>
      induction block with
      | nil => exact fun _ => .ok lists_nil
      | cons m rest ihRest =>
          intro position
          have hrest := ihRest (fun name members key inner hmem => ih name members key inner
            (List.mem_cons_of_mem m hmem)) (position + 1)
          obtain ⟨name, v⟩ := m
          cases v with
          | obj members =>
              have hunder (branch : Branch) : Yields (Field.ofBlock ((Json.obj members).member branch.key))
                  (Lists · (Definition.listUnder branch members)) := by
                rw [Definition.listUnder_eq]
                exact lists_ofBlock_of_inner fun inner hinner =>
                  ih name members branch.key inner List.mem_cons_self hinner 0
              have hown := lists_ofOwn (hunder .properties) [position] [name]
              have hmulti := lists_ofMulti (hunder .multiFields)
              rw [Field.ofDefinitions]
              exact hown.bind fun own hown => hmulti.bind fun multi hmulti =>
                hrest.bind fun fields hfields => .ok (hown.1.cons hmulti hfields hown.2)
          | _ => exact hrest

theorem lists_ofBlock (v : Json) : Yields (Field.ofBlock v) (Lists · (Definition.ofBlock v)) :=
  lists_ofBlock_of_inner fun inner _ => lists_ofDefinitions inner 0

/-! ## Paths -/

theorem foldl_join (names : List String) {parent : String} (h : parent ≠ "") :
    names.foldl Field.join parent = ".".intercalate (parent :: names) := by
  induction names generalizing parent with
  | nil => exact String.intercalate_singleton.symm
  | cons name rest ih =>
      have hjoin : Field.join parent name = parent ++ "." ++ name :=
        if_neg fun hempty => h (String.isEmpty_iff.1 hempty)
      have hne : parent ++ "." ++ name ≠ "" := fun hempty =>
        h (String.append_eq_empty_iff.1 (String.append_eq_empty_iff.1 hempty).1).1
      rw [List.foldl_cons, hjoin, ih hne]
      rfl

theorem foldl_join_of_named {names : List String} (h : "" ∉ names) :
    names.foldl Field.join "" = ".".intercalate names := by
  cases names with
  | nil => rfl
  | cons name rest => exact foldl_join rest fun hempty => h (hempty ▸ List.mem_cons_self)

/-! ## Mappings -/

namespace Snapshot

theorem lists_blocks (indices : List (String × Json)) : ∀ position,
    Yields (blocks indices) fun fields =>
      Lists (fields.flatMap (·.2)) ((indices.zipIdx position).flatMap Definition.listIndex) := by
  induction indices with
  | nil => exact fun _ => .ok lists_nil
  | cons own rest ih =>
      intro position
      rw [blocks, List.zipIdx_cons, List.flatMap_cons]
      refine (lists_ofBlock _).bind fun fields hfields => (ih (position + 1)).bind fun others hothers => ?_
      refine .ok (Lists.append (fun parent => ?_) hothers)
      rw [Definition.listIndex, List.map_map]
      exact hfields parent

theorem lists_ofMapping (mapping : Json) (index : String) :
    Yields (ofMapping mapping index) fun s =>
      Lists s.allFields (Definition.ofMapping mapping index) := by
  cases mapping with
  | obj members =>
      rw [ofMapping_obj]
      split
      · exact .error _
      · exact (lists_blocks _ 0).bind fun fields hfields =>
          (Yields.any (aliasNames _)).bind fun aliases _ => .ok hfields
  | _ => exact .error _

/-- Of a mapping that is read with names that are not empty the walk lists the definitions, each once and
in the order of the addresses, under its path and with its type, and nothing else. -/
theorem walk_ofMapping {mapping : Json} {index : String} {s : Snapshot}
    (hread : ofMapping mapping index = .ok s)
    (hnames : ∀ d ∈ Definition.ofMapping mapping index, "" ∉ d.names) :
    s.walk.map (fun entry => (entry.1, entry.2.type)) =
        (Definition.ofMapping mapping index).map (fun d => (d.path, d.type)) ∧
      (Definition.ofMapping mapping index).Pairwise Definition.Precedes ∧
      (∀ d, d ∈ Definition.ofMapping mapping index ↔ d.IsOf mapping index) ∧
      ∀ entry ∈ s.walk, entry.2.type ∈ FieldType.all := by
  refine ⟨?_, Definition.pairwise_ofMapping mapping index, fun _ => Definition.mem_ofMapping,
    fun entry _ => ?_⟩
  · rw [walk, lists_ofMapping mapping index s hread ""]
    refine List.map_congr_left fun d hd => ?_
    rw [foldl_join_of_named (hnames d hd)]
    rfl
  · cases entry.2.type <;> decide

/-- Two indices, with definitions below an object without a type, multi-fields, an empty type and a
definition that is no object. -/
def libraryMapping : Json := .obj [
  ("books", .obj [("mappings", .obj [("properties", .obj [
    ("title", .obj [("fields", .obj [("raw", .obj [("type", .str "keyword")])]), ("type", .str "Text")]),
    ("shelf", .str "unread"),
    ("author", .obj [
      ("fields", .obj [("any", .obj [("type", .str "varchar")])]),
      ("properties", .obj [("born", .obj [("type", .str "date")]), ("id", .obj [("type", .str "")])])])])])]),
  ("loans", .obj [("properties", .obj [("days", .obj [("type", .str "short"), ("fields", .arr [])])])])]

theorem walk_ofMapping_library :
    ∃ s, ofMapping libraryMapping "books" = .ok s ∧
      (∀ d ∈ Definition.ofMapping libraryMapping "books", "" ∉ d.names) ∧
      s.walk.map (fun entry => (entry.1, entry.2.type)) = [
        ("title", .text), ("title.raw", .keyword), ("author", .object), ("author.born", .date),
        ("author.id", .keyword), ("author.any", .text), ("days", .short)] ∧
      ∀ d, d ∈ Definition.ofMapping libraryMapping "books" ↔ d.IsOf libraryMapping "books" := by
  have hnames : ∀ d ∈ Definition.ofMapping libraryMapping "books", "" ∉ d.names := by decide +kernel
  have hread : ∃ s, ofMapping libraryMapping "books" = .ok s := ⟨_, rfl⟩
  obtain ⟨s, hread⟩ := hread
  obtain ⟨hwalk, -, hlisted, -⟩ := walk_ofMapping hread hnames
  exact ⟨s, hread, hnames, hwalk.trans (by decide +kernel), hlisted⟩

end Snapshot

end QueryAssist
