import QueryAssist.Proofs.Field.Reading
/-!
# Snapshots as payloads

A snapshot is written as a payload with all that its fields say. Where all fields have names, the
payload is read back as that snapshot. So reading and writing again changes nothing, from a payload or
from a mapping whose properties and multi-fields have names.
-/

namespace QueryAssist

/-! ## Writing fields -/

mutual

def Field.toEntry : Field → Json
  | ⟨name, type, analyzer, nested, children⟩ => .obj [
      ("name", .str name), ("type", .str type.name), ("analyzer", analyzer),
      ("nested", .bool nested), ("properties", .arr (Field.toEntries children))]

def Field.toEntries : List Field → List Json
  | [] => []
  | field :: rest => Field.toEntry field :: Field.toEntries rest

end

mutual

def Field.IsNamed : Field → Prop
  | ⟨name, _, _, _, children⟩ => name ≠ "" ∧ Field.AreNamed children

def Field.AreNamed : List Field → Prop
  | [] => True
  | field :: rest => Field.IsNamed field ∧ Field.AreNamed rest

end

theorem areNamed_append {fields others : List Field} (hfields : Field.AreNamed fields)
    (hothers : Field.AreNamed others) : Field.AreNamed (fields ++ others) := by
  induction fields with
  | nil => exact hothers
  | cons field rest ih => exact ⟨hfields.1, ih hfields.2⟩

theorem FieldType.ofJson_name (type : FieldType) : FieldType.ofJson (.str type.name) = type := by
  cases type <;> rfl

theorem ofEntry_of_name {members : List (String × Json)} {name : String}
    (hname : (Json.obj members).member "name" = .str name) (hne : name ≠ "") :
    Field.ofEntry (.obj members) = (do
      let children ← Field.ofProperties members
      return {
        name
        type := .ofJson ((Json.obj members).member "type")
        analyzer := (Json.obj members).member "analyzer"
        nested := ((Json.obj members).member "nested").isTruthy
        children }) := by
  rw [Field.ofEntry, hname]
  exact if_neg fun hempty => hne (String.isEmpty_iff.1 hempty)

mutual

theorem ofEntry_toEntry : ∀ field : Field, field.IsNamed → Field.ofEntry field.toEntry = .ok field
  | ⟨name, type, analyzer, nested, children⟩, ⟨hname, hchildren⟩ => by
      have hproperties : Field.ofProperties [("name", .str name), ("type", .str type.name),
          ("analyzer", analyzer), ("nested", .bool nested),
          ("properties", .arr (Field.toEntries children))] = .ok children :=
        ofEntries_toEntries children hchildren
      rw [Field.toEntry, ofEntry_of_name rfl hname, hproperties]
      exact congrArg (fun t => Except.ok (Field.mk name t analyzer nested children))
        (FieldType.ofJson_name type)

theorem ofEntries_toEntries : ∀ fields : List Field, Field.AreNamed fields →
    Field.ofEntries (Field.toEntries fields) = .ok fields
  | [], _ => rfl
  | field :: rest, ⟨hfield, hrest⟩ => by
      rw [Field.toEntries, Field.ofEntries, ofEntry_toEntry field hfield,
        ofEntries_toEntries rest hrest]
      rfl

end

/-! ## What a reading yields -/

def Yields {α : Type} (x : Except FieldError α) (P : α → Prop) : Prop :=
  ∀ a, x = .ok a → P a

namespace Yields

variable {α β : Type} {x : Except FieldError α} {f : α → Except FieldError β}
  {P : α → Prop} {Q : β → Prop}

theorem ok {a : α} (h : P a) : Yields (.ok a) P := by
  rintro b ⟨⟩
  exact h

theorem error (e : FieldError) : Yields (.error e) P := by
  rintro b ⟨⟩

theorem any (x : Except FieldError α) : Yields x fun _ => True :=
  fun _ _ => trivial

theorem bind (hx : Yields x P) (hf : ∀ a, P a → Yields (f a) Q) : Yields (x >>= f) Q := by
  cases x with
  | error e => exact error e
  | ok a => exact hf a (hx a rfl)

end Yields

theorem areNamed_ofElements (v : Json) : Yields (Field.ofElements v) Field.AreNamed := by
  refine (Yields.any v.elements).bind fun items _ => ?_
  cases items with
  | nil => exact .ok trivial
  | cons element rest => exact .error _

mutual

theorem isNamed_ofEntry : ∀ entry, Yields (Field.ofEntry entry) Field.IsNamed
  | .obj members => by
      rw [Field.ofEntry]
      split
      · split
        · exact .error _
        · rename_i hname
          exact (areNamed_ofProperties members).bind fun children hchildren =>
            .ok ⟨fun hempty => hname (String.isEmpty_iff.2 hempty), hchildren⟩
      · exact .error _
  | .null | .bool _ | .int _ | .float _ | .str _ | .arr _ => .error _

theorem areNamed_ofProperties : ∀ members, Yields (Field.ofProperties members) Field.AreNamed
  | [] => .ok trivial
  | (key, v) :: rest => by
      rw [Field.ofProperties]
      split
      · exact areNamed_ofList v
      · exact areNamed_ofProperties rest

theorem areNamed_ofList : ∀ v, Yields (Field.ofList v) Field.AreNamed
  | .arr entries => areNamed_ofEntries entries
  | .null | .bool _ | .int _ | .float _ | .str _ | .obj _ => areNamed_ofElements _

theorem areNamed_ofEntries : ∀ entries, Yields (Field.ofEntries entries) Field.AreNamed
  | [] => .ok trivial
  | entry :: rest => by
      rw [Field.ofEntries]
      exact (isNamed_ofEntry entry).bind fun field hfield =>
        (areNamed_ofEntries rest).bind fun fields hfields => .ok ⟨hfield, hfields⟩

end

/-! ## Names in mappings -/

/-- A block of properties has a property or a multi-field of this name, at whatever depth. -/
inductive Defines : Json → String → Prop
  | here {members definition : List (String × Json)} {name : String} :
      (name, .obj definition) ∈ members → Defines (.obj members) name
  | deeper {members definition : List (String × Json)} {above key name : String} {block : Json} :
      (above, .obj definition) ∈ members → key = "properties" ∨ key = "fields" →
      definition.lookup key = some block → Defines block name → Defines (.obj members) name

theorem Defines.cons {members : List (String × Json)} {name : String} (m : String × Json)
    (h : Defines (.obj members) name) : Defines (.obj (m :: members)) name := by
  cases h with
  | here hmem => exact .here (List.mem_cons_of_mem m hmem)
  | deeper hmem hkey hblock hname => exact .deeper (List.mem_cons_of_mem m hmem) hkey hblock hname

mutual

theorem areNamed_ofBlock : ∀ block, ¬Defines block "" → Yields (Field.ofBlock block) Field.AreNamed
  | .obj members, h => areNamed_ofDefinitions members h
  | .null, _ | .bool _, _ | .int _, _ | .float _, _ | .str _, _ | .arr _, _ => by
      simp only [Field.ofBlock]
      split
      · exact .error _
      · exact .ok trivial

theorem areNamed_ofDefinitions : ∀ members, ¬Defines (.obj members) "" →
    Yields (Field.ofDefinitions members) Field.AreNamed
  | [], _ => .ok trivial
  | (name, .obj definition) :: rest, h => by
      have hname : name ≠ "" := by
        rintro rfl
        exact h (.here (List.mem_cons_self ..))
      have hbelow (key : String) (hkey : key = "properties" ∨ key = "fields") (block : Json)
          (hblock : definition.lookup key = some block) : ¬Defines block "" := fun hempty =>
        h (.deeper (List.mem_cons_self ..) hkey hblock hempty)
      rw [Field.ofDefinitions]
      exact (areNamed_ofOwn definition (hbelow _ (.inl rfl))).bind fun own hown =>
        (areNamed_ofMulti definition (hbelow _ (.inr rfl))).bind fun multi hmulti =>
          (areNamed_ofDefinitions rest fun hempty => h (hempty.cons _)).bind fun fields hfields =>
            .ok ⟨⟨hname, areNamed_append hown hmulti⟩, hfields⟩
  | (_, .null) :: rest, h | (_, .bool _) :: rest, h | (_, .int _) :: rest, h
  | (_, .float _) :: rest, h | (_, .str _) :: rest, h | (_, .arr _) :: rest, h =>
      areNamed_ofDefinitions rest fun hempty => h (hempty.cons _)

theorem areNamed_ofOwn : ∀ members : List (String × Json),
    (∀ block, members.lookup "properties" = some block → ¬Defines block "") →
    Yields (Field.ofOwn members) Field.AreNamed
  | [], _ => .ok trivial
  | (key, v) :: rest, h => by
      rw [Field.ofOwn]
      simp only [Keyed.lookup_cons] at h
      split at h
      · rename_i hkey
        rw [if_pos hkey]
        exact areNamed_ofBlock v (h v rfl)
      · rename_i hkey
        rw [if_neg hkey]
        exact areNamed_ofOwn rest h

theorem areNamed_ofMulti : ∀ members : List (String × Json),
    (∀ block, members.lookup "fields" = some block → ¬Defines block "") →
    Yields (Field.ofMulti members) Field.AreNamed
  | [], _ => .ok trivial
  | (key, .obj members) :: rest, h => by
      rw [Field.ofMulti]
      simp only [Keyed.lookup_cons] at h
      split at h
      · rename_i hkey
        rw [if_pos hkey]
        exact areNamed_ofDefinitions members (h _ rfl)
      · rename_i hkey
        rw [if_neg hkey]
        exact areNamed_ofMulti rest h
  | (key, .null) :: rest, h | (key, .bool _) :: rest, h | (key, .int _) :: rest, h
  | (key, .float _) :: rest, h | (key, .str _) :: rest, h | (key, .arr _) :: rest, h => by
      simp only [Keyed.lookup_cons] at h
      simp only [Field.ofMulti]
      split at h
      · rename_i hkey
        rw [if_pos hkey]
        exact .ok trivial
      · rename_i hkey
        rw [if_neg hkey]
        exact areNamed_ofMulti rest h

end

namespace Snapshot

/-! ## Snapshots -/

def toPayload (s : Snapshot) : Json := .obj [
  ("fields", .obj (s.fields.map fun f => (f.1, .arr (Field.toEntries f.2)))),
  ("indices", .arr s.indices), ("aliases", .arr s.aliases)]

/-- All fields have names, and indices are listed wherever there are any. -/
structure IsRegular (s : Snapshot) : Prop where
  named : ∀ f ∈ s.fields, Field.AreNamed f.2
  listed : s.indices = [] → s.fields = []

theorem indexFields_toEntries : ∀ fields : List (String × List Field),
    (∀ f ∈ fields, Field.AreNamed f.2) →
    indexFields (fields.map fun f => (f.1, .arr (Field.toEntries f.2))) = .ok fields
  | [], _ => rfl
  | (index, fields) :: rest, h => by
      obtain ⟨hfields, hrest⟩ := List.forall_mem_cons.1 h
      have hlist : Field.ofList (.arr (Field.toEntries fields)) = .ok fields :=
        ofEntries_toEntries fields hfields
      rw [List.map_cons, indexFields, hlist, indexFields_toEntries rest hrest]
      rfl

theorem ofPayload_of_isRegular {s : Snapshot} (h : s.IsRegular) : ofPayload s.toPayload = .ok s := by
  obtain ⟨fields, indices, aliases⟩ := s
  obtain ⟨hnamed, hlisted⟩ := h
  let members := fields.map fun f => (f.1, Json.arr (Field.toEntries f.2))
  have hmembers : fieldMembers? (.obj members) = some members := fieldMembers?_obj members
  have hfields : indexFields members = .ok fields := indexFields_toEntries fields hnamed
  have haliases : (Json.arr aliases).elements = .ok aliases := elements_arr aliases
  calc
    ofPayload (toPayload ⟨fields, indices, aliases⟩)
    _ = (fieldMembers? (.obj members)).elim (.error .fieldsNotObject)
          (ofFields (toPayload ⟨fields, indices, aliases⟩)) := ofPayload_of_isTruthy rfl
    _ = (do
        let fields ← indexFields members
        let indices ← if (Json.arr indices).isTruthy then (Json.arr indices).elements
          else .ok (fields.map fun f => .str f.1)
        let aliases ← (Json.arr aliases).elements
        return { fields, indices, aliases }) := by
          rw [hmembers]
          rfl
    _ = .ok ⟨fields, indices, aliases⟩ := by
          rw [hfields, haliases]
          cases indices with
          | nil =>
              -- An empty list counts as none, and the indices are taken from the fields.
              cases hlisted rfl
              rfl
          | cons first rest => rfl

theorem ne_nil_of_elements {v : Json} (h : v.isTruthy = true) : Yields v.elements (· ≠ []) := by
  rw [Json.elements, if_pos h]
  cases v with
  | str s => exact .ok (by simpa [Json.isTruthy] using h)
  | arr items => exact .ok (by simpa [Json.isTruthy] using h)
  | obj members => exact .ok (by simpa [Json.isTruthy] using h)
  | _ => exact .error _

theorem named_indexFields : ∀ members : List (String × Json),
    Yields (indexFields members) fun fields => ∀ f ∈ fields, Field.AreNamed f.2
  | [] => .ok (List.forall_mem_nil _)
  | (index, entries) :: rest => by
      rw [indexFields]
      exact (areNamed_ofList entries).bind fun fields hfields =>
        (named_indexFields rest).bind fun others hothers =>
          .ok (List.forall_mem_cons.2 ⟨hfields, hothers⟩)

theorem isRegular_ofFields (payload : Json) (members : List (String × Json)) :
    Yields (ofFields payload members) IsRegular := by
  refine (named_indexFields members).bind fun fields hnamed => ?_
  have haliases (indices : List Json) (hlisted : indices = [] → fields = []) :
      Yields (do
        let aliases ← (payload.member "aliases").elements
        return { fields, indices, aliases } : Except FieldError Snapshot) IsRegular :=
    (Yields.any _).bind fun aliases _ => .ok ⟨hnamed, hlisted⟩
  dsimp only
  split
  · rename_i htruthy
    exact (ne_nil_of_elements htruthy).bind fun indices hne =>
      haliases indices fun hnone => absurd hnone hne
  · exact haliases _ List.map_eq_nil_iff.1

theorem isRegular_ofPayload (payload : Json) : Yields (ofPayload payload) IsRegular := by
  cases htruthy : payload.isTruthy with
  | false =>
      rw [ofPayload_of_not_isTruthy htruthy]
      exact .ok ⟨List.forall_mem_nil _, fun _ => rfl⟩
  | true =>
      cases payload with
      | obj members =>
          rw [ofPayload_of_isTruthy htruthy]
          cases fieldMembers? ((Json.obj members).member "fields") with
          | none => exact .error _
          | some found => exact isRegular_ofFields _ found
      | _ =>
          rw [ofPayload_of_not_isObject htruthy rfl]
          exact .error _

def NamesProperty (mapping : Json) (index name : String) : Prop :=
  ∃ members, mapping = .obj members ∧
    ∃ d ∈ definitionsOf members index, Defines (propertiesOf d.2) name

theorem areNamed_blocks : ∀ definitions : List (String × Json),
    (∀ d ∈ definitions, ¬Defines (propertiesOf d.2) "") →
    Yields (blocks definitions) fun fields => ∀ f ∈ fields, Field.AreNamed f.2
  | [], _ => .ok (List.forall_mem_nil _)
  | (index, definition) :: rest, h => by
      obtain ⟨hdefinition, hrest⟩ := List.forall_mem_cons.1 h
      rw [blocks]
      exact (areNamed_ofBlock _ hdefinition).bind fun fields hfields =>
        (areNamed_blocks rest hrest).bind fun others hothers =>
          .ok (List.forall_mem_cons.2 ⟨hfields, hothers⟩)

theorem isRegular_ofMapping {mapping : Json} {index : String}
    (h : ¬NamesProperty mapping index "") : Yields (ofMapping mapping index) IsRegular := by
  cases mapping with
  | obj members =>
      have hblocks : ∀ d ∈ definitionsOf members index, ¬Defines (propertiesOf d.2) "" :=
        fun d hd hempty => h ⟨members, rfl, d, hd, hempty⟩
      rw [ofMapping_obj]
      split
      · exact .error _
      · rename_i hsome
        refine (areNamed_blocks _ hblocks).bind fun fields hfields => ?_
        refine (Yields.any (aliasNames _)).bind fun aliases _ => ?_
        refine .ok ⟨hfields, fun hnone => ?_⟩
        exact absurd (List.isEmpty_iff.2 (List.map_eq_nil_iff.1 hnone)) hsome
  | _ => exact .error _

/-- A snapshot is what its own payload gives, whether it was read from a payload or from a mapping in
which no property and no multi-field has the empty name. -/
theorem ofPayload_toPayload :
    (∀ (payload : Json) (s : Snapshot), ofPayload payload = .ok s → ofPayload s.toPayload = .ok s) ∧
      ∀ (mapping : Json) (index : String) (s : Snapshot), ofMapping mapping index = .ok s →
        ¬NamesProperty mapping index "" → ofPayload s.toPayload = .ok s :=
  ⟨fun payload s h => ofPayload_of_isRegular (isRegular_ofPayload payload s h),
    fun _ _ s h hnames => ofPayload_of_isRegular (isRegular_ofMapping hnames s h)⟩

def authorPayload : Json := .obj [
  ("fields", .obj [("reviews", .arr [.obj [
    ("name", .str "author"), ("type", .str "VARCHAR"), ("nested", .int 1),
    ("properties", .arr [.obj [("name", .str "age"), ("type", .str "bigint")]])]])])]

def authorSnapshot : Snapshot where
  fields := [("reviews", [⟨"author", .text, .null, true, [⟨"age", .long, .null, false, []⟩]⟩])]
  indices := [.str "reviews"]
  aliases := []

def titleMapping : Json := .obj [
  ("properties", .obj [("title", .obj [
    ("type", .str "text"), ("analyzer", .str "english"),
    ("fields", .obj [("raw", .obj [("type", .str "keyword")])])])])]

def titleSnapshot : Snapshot where
  fields := [("books", [⟨"title", .text, .str "english", false, [⟨"raw", .keyword, .null, false, []⟩]⟩])]
  indices := [.str "books"]
  aliases := []

theorem not_namesProperty_titleMapping : ¬NamesProperty titleMapping "books" "" := by
  rintro ⟨members, ⟨⟩, d, hd, hname⟩
  cases List.mem_singleton.1 hd
  cases hname with
  | here hmem => simp at hmem
  | deeper hmem hkey hblock hname =>
      cases List.mem_singleton.1 hmem
      obtain rfl | rfl := hkey
      · cases hblock
      · cases hblock
        cases hname with
        | here hmem => simp at hmem
        | deeper hmem hkey hblock _ =>
            cases List.mem_singleton.1 hmem
            obtain rfl | rfl := hkey <;> cases hblock

theorem ofPayload_toPayload_title :
    ofPayload authorPayload = .ok authorSnapshot ∧
      ofPayload authorSnapshot.toPayload = .ok authorSnapshot ∧
      ofMapping titleMapping "books" = .ok titleSnapshot ∧
      ¬NamesProperty titleMapping "books" "" ∧
      ofPayload titleSnapshot.toPayload = .ok titleSnapshot := by
  have hauthor : ofPayload authorPayload = .ok authorSnapshot := by rfl
  have htitle : ofMapping titleMapping "books" = .ok titleSnapshot := by rfl
  have hnames := not_namesProperty_titleMapping
  exact ⟨hauthor, ofPayload_toPayload.1 authorPayload authorSnapshot hauthor, htitle, hnames,
    ofPayload_toPayload.2 titleMapping "books" titleSnapshot htitle hnames⟩

end Snapshot

end QueryAssist
