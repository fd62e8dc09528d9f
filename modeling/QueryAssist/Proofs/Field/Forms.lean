import QueryAssist.Proofs.Field.Reading
/-!
# Forms of mappings

A block of properties may stand bare, in the mappings of an index, or there below a type name, and each
of these under the name of its index or alone. Whichever form is taken, what is read is the block, and
nothing in the block has a part in finding it.
-/

namespace QueryAssist.Snapshot

variable {index given : String} {definition block : Json} {members : List (String × Json)}

/-- How what is said of an index leads to its block. -/
inductive Form
  | bare
  | untyped
  | typed (name : String)
  deriving DecidableEq

def Form.write (block : Json) : Form → Json
  | bare => .obj [("properties", block)]
  | untyped => .obj [("mappings", .obj [("properties", block)])]
  | typed name => .obj [("mappings", .obj [(name, .obj [("properties", block)])])]

def ofIndex (index : String) (block : Json) : Except FieldError Snapshot := do
  let fields ← Field.ofBlock block
  return { fields := [(index, fields)], indices := [.str index], aliases := [] }

/-! ## One index -/

theorem blocks_singleton (index : String) (definition : Json) :
    blocks [(index, definition)] =
      (do
        let fields ← Field.ofBlock (propertiesOf definition)
        return [(index, fields)]) := by
  rw [blocks, blocks]
  rfl

theorem aliasNames_singleton (h : definition.member "aliases" = .null) :
    aliasNames [(index, definition)] = .ok [] := by
  rw [aliasNames, aliasNames, h]
  rfl

theorem ofMapping_of_definitionsOf (h : definitionsOf members given = [(index, definition)])
    (haliases : definition.member "aliases" = .null) :
    ofMapping (.obj members) given = ofIndex index (propertiesOf definition) := by
  rw [ofMapping_obj, h, blocks_singleton, aliasNames_singleton haliases, ofIndex]
  cases Field.ofBlock (propertiesOf definition) <;> rfl

/-! ## Forms -/

namespace Form

variable {form : Form}

/-- A type with the name "properties" would be taken for the block. -/
theorem propertiesOf_write (h : form ≠ typed "properties") (block : Json) :
    propertiesOf (form.write block) = block := by
  cases form with
  | bare => rfl
  | untyped => rfl
  | typed name =>
      have hname : name ≠ "properties" := fun hname => h (congrArg typed hname)
      have hlookup : [(name, Json.obj [("properties", block)])].lookup "properties" = none := by
        rw [Keyed.lookup_cons, if_neg hname]
        rfl
      simp only [propertiesOf, write, List.lookup_cons_self, Option.getD_some, hlookup]
      rfl

theorem aliases_write (form : Form) (block : Json) :
    (form.write block).member "aliases" = .null := by
  cases form <;> rfl

theorem definitionsOf_alone (h : form.write block = .obj members) (index : String) :
    definitionsOf members index = [(index, .obj members)] := by
  have hsingle : (Keyed.has "mappings" members || Keyed.has "properties" members) = true := by
    cases form <;> cases h <;> rfl
  rw [definitionsOf, if_pos hsingle]

theorem definitionsOf_named (hmappings : index ≠ "mappings") (hproperties : index ≠ "properties")
    (form : Form) (block : Json) (given : String) :
    definitionsOf [(index, form.write block)] given = [(index, form.write block)] := by
  have hobject : isObject (form.write block) = true := by
    cases form <;> rfl
  have hhas (key : String) (hkey : index ≠ key) :
      Keyed.has key [(index, form.write block)] = false := by
    rw [Keyed.has, Keyed.lookup_cons, if_neg hkey]
    rfl
  rw [definitionsOf, hhas _ hmappings, hhas _ hproperties, if_neg (by decide), List.filter_cons,
    if_pos hobject, List.filter_nil]

end Form

/-- Every form of a block is read like every other: the outcome is that of the block alone. -/
theorem ofMapping_of_form {index : String} (hmappings : index ≠ "mappings")
    (hproperties : index ≠ "properties") {form : Form} (hform : form ≠ .typed "properties")
    (block : Json) :
    ofMapping (form.write block) index = ofIndex index block ∧
      ∀ given, ofMapping (.obj [(index, form.write block)]) given = ofIndex index block := by
  have haliases := form.aliases_write block
  have hblock := Form.propertiesOf_write hform block
  constructor
  · obtain ⟨members, hmembers⟩ : ∃ members, form.write block = .obj members := by
      cases form <;> exact ⟨_, rfl⟩
    rw [hmembers] at haliases hblock ⊢
    rw [ofMapping_of_definitionsOf (Form.definitionsOf_alone hmembers index) haliases, hblock]
  · intro given
    rw [ofMapping_of_definitionsOf
      (Form.definitionsOf_named hmappings hproperties form block given) haliases, hblock]

def misleadingBlock : Json := .obj [
  ("properties", .obj [("properties", .obj [("mappings", .obj [("type", .str "date")])])]),
  ("mappings", .arr [.null])]

theorem ofMapping_of_form_misleading :
    "aliases" ≠ "mappings" ∧ "aliases" ≠ "properties" ∧
      Form.typed "mappings" ≠ .typed "properties" ∧
      ofMapping ((Form.typed "mappings").write misleadingBlock) "aliases" =
        ofIndex "aliases" misleadingBlock ∧
      ∀ given, ofMapping (.obj [("aliases", (Form.typed "mappings").write misleadingBlock)]) given =
        ofIndex "aliases" misleadingBlock := by
  have hmappings : "aliases" ≠ "mappings" := by decide
  have hproperties : "aliases" ≠ "properties" := by decide
  have hform : Form.typed "mappings" ≠ .typed "properties" := by decide
  exact ⟨hmappings, hproperties, hform,
    ofMapping_of_form hmappings hproperties hform misleadingBlock⟩

end QueryAssist.Snapshot
