import QueryAssist.Catalog.Lookup
import QueryAssist.Keyed
import QueryAssist.Proofs.Text.Lower
/-!
# Names in the catalog

The catalog keeps its names in tables. No name comes twice in a table, and all are spelled with letters
of ASCII, underscores and hyphens. So none has a quote or a backslash, and quotes around one make it a
string.
-/

namespace QueryAssist.Catalog

open Text

/-! ## Characters of names -/

def IsPlain (name : String) : Prop :=
  ∀ c ∈ name.toList, c ≠ '"' ∧ c ≠ '\\'

instance (name : String) : Decidable (IsPlain name) :=
  List.decidableBAll (fun c => c ≠ '"' ∧ c ≠ '\\') name.toList

def isNameChar (c : Char) : Bool :=
  ('A' ≤ c && c ≤ 'Z') || ('a' ≤ c && c ≤ 'z') || c == '_' || c == '-'

theorem isPlain_of_isNameChar {name : String} (h : ∀ c ∈ name.toList, isNameChar c = true) :
    IsPlain name := by
  intro c hc
  have hname := h c hc
  constructor
  · rintro rfl
    exact absurd hname (by decide)
  · rintro rfl
    exact absurd hname (by decide)

theorem toNat_lt_of_isNameChar {c : Char} (h : isNameChar c = true) : c.toNat < 128 := by
  simp only [isNameChar, Bool.or_eq_true, Bool.and_eq_true, decide_eq_true_eq, beq_iff_eq] at h
  rcases h with ((⟨-, hle⟩ | ⟨-, hle⟩) | rfl) | rfl
  · exact Nat.lt_of_le_of_lt (UInt32.le_iff_toNat_le.1 hle) (by decide)
  · exact Nat.lt_of_le_of_lt (UInt32.le_iff_toNat_le.1 hle) (by decide)
  · decide
  · decide

theorem of_isNameChar {p : Char → Prop}
    (h : ∀ code < 128, isNameChar (Char.ofNat code) = true → p (Char.ofNat code)) {c : Char}
    (hc : isNameChar c = true) : p c := by
  have hp := h c.toNat (toNat_lt_of_isNameChar hc)
  rw [Char.ofNat_toNat] at hp
  exact hp hc

theorem not_isBlank_of_isNameChar {c : Char} (h : isNameChar c = true) : isBlank c = false :=
  of_isNameChar (p := fun c => isBlank c = false) (by decide) h

theorem isNameChar_toSmall {c : Char} (h : isNameChar c = true) : isNameChar (toSmall c) = true :=
  of_isNameChar (p := fun c => isNameChar (toSmall c) = true) (by decide +kernel) h

theorem isNameChar_of_mem_lowerChars {cs : List Char} (h : ∀ c ∈ cs, isNameChar c = true) :
    ∀ d ∈ lowerChars cs, isNameChar d = true := by
  intro d hd
  obtain ⟨front, c, hc, rest, hlower⟩ := exists_of_mem_lowerFrom hd
  rw [lowerAt_of_forms (by decide) (h c hc), List.mem_singleton] at hlower
  rw [hlower]
  exact isNameChar_toSmall (h c hc)

theorem of_lowerChars_prefix {word name : List Char} (hname : ∀ c ∈ name, isNameChar c = true)
    (h : lowerChars word <+: lowerChars name) {c : Char} (hc : c ∈ word) :
    c ≠ '\u03A3' ∧ isBlank c = false := by
  obtain ⟨front, rest, hsub⟩ := exists_lowerAt_subset [] hc
  have hspelled : ∀ d ∈ lowerAt front c rest, isNameChar d = true := fun d hd =>
    isNameChar_of_mem_lowerChars hname d (h.subset (hsub hd))
  constructor
  · rintro rfl
    rw [lowerAt, if_pos rfl] at hspelled
    split at hspelled
    · exact absurd (hspelled _ (List.mem_singleton_self _)) (by decide)
    · exact absurd (hspelled _ (List.mem_singleton_self _)) (by decide)
  · by_contra hblank
    rw [Bool.not_eq_false] at hblank
    rw [lowerAt_of_isBlank hblank] at hspelled
    rw [not_isBlank_of_isNameChar (hspelled c (List.mem_singleton_self c))] at hblank
    exact Bool.false_ne_true hblank

/-! ## Tables -/

def clauses : List Clause :=
  Queries.all ++ Aggregations.all

def partTables : List (List Property) :=
  [rootProperties, boolClauses, highlightOptions, sourceOptions, suggestOptions]

def Clause.keys (c : Clause) : List String :=
  c.required ++ c.optional.filter fun key => !c.required.contains key

def namesOf (properties : List Property) : List String :=
  properties.map (·.name)

def snippetLabels : List String :=
  snippets.map (·.label)

/-- The options of the clauses by their names. The empty table is that of what is no clause. -/
def optionTables : List (List String) :=
  [] :: (detailedOptions.map fun entry => namesOf entry.2) ++ clauses.map Clause.keys

/-- The values of the keys. The empty table is that of a key with any other values. -/
def valueTables : List (List String) :=
  [] :: enumerations.map (·.2)

def tables : List (List String) :=
  [queryNames, aggregationNames, snippetLabels] ++ partTables.map namesOf ++ optionTables ++
    valueTables

theorem isNameChar_of_mem_tables :
    ∀ table ∈ tables, ∀ name ∈ table, ∀ c ∈ name.toList, isNameChar c = true := by
  have hall : ∀ table ∈ tables, ∀ name ∈ table, name.toList.all isNameChar = true := by
    decide +kernel
  intro table htable name hname
  exact List.all_eq_true.1 (hall table htable name hname)

theorem nodup_of_mem_tables : ∀ table ∈ tables, table.Nodup := by
  decide +kernel

/-! ## What is looked up -/

theorem enumValues_mem (key : String) : enumValues key ∈ valueTables := by
  unfold enumValues
  cases hlookup : enumerations.lookup key with
  | none => exact List.mem_cons_self
  | some values =>
      exact List.mem_cons_of_mem _ (List.mem_map_of_mem (Keyed.mem_of_lookup_eq_some hlookup))

theorem mem_clauses_of_query? {name : String} {c : Clause} (h : query? name = some c) :
    c ∈ clauses :=
  List.mem_append_left _ (List.mem_of_find?_eq_some h)

theorem mem_clauses_of_aggregation? {name : String} {c : Clause}
    (h : aggregation? name = some c) : c ∈ clauses :=
  List.mem_append_right _ (List.mem_of_find?_eq_some h)

theorem namesOf_properties (c : Clause) (name : String) : namesOf (c.properties name) = c.keys := by
  rw [namesOf, Clause.properties, List.map_append, List.map_map, List.map_map]
  exact congrArg₂ (· ++ ·) (List.map_id _) (List.map_id _)

theorem namesOf_clauseOptions_mem (name : String) (preferAggregation : Bool) :
    namesOf (clauseOptions name preferAggregation) ∈ optionTables := by
  simp only [clauseOptions]
  cases hlisted : (if preferAggregation then none else detailedOptions.lookup name) with
  | some listed =>
      have hlookup : detailedOptions.lookup name = some listed := by
        split_ifs at hlisted
        exact hlisted
      exact List.mem_append_left _ (List.mem_cons_of_mem _
        (List.mem_map_of_mem (Keyed.mem_of_lookup_eq_some hlookup)))
  | none =>
      cases hclause : (if preferAggregation then (aggregation? name).or (query? name)
          else (query? name).or (aggregation? name)) with
      | none => exact List.mem_cons_self
      | some c =>
          have hc : c ∈ clauses := by
            split_ifs at hclause
            · rcases Option.or_eq_some_iff.1 hclause with hc | ⟨_, hc⟩
              · exact mem_clauses_of_aggregation? hc
              · exact mem_clauses_of_query? hc
            · rcases Option.or_eq_some_iff.1 hclause with hc | ⟨_, hc⟩
              · exact mem_clauses_of_query? hc
              · exact mem_clauses_of_aggregation? hc
          have hnames : namesOf (c.properties name) ∈ optionTables := by
            rw [namesOf_properties]
            exact List.mem_append_right _ (List.mem_map_of_mem hc)
          exact hnames

/-! ## Tables of the catalog -/

theorem queryNames_mem_tables : queryNames ∈ tables := by
  simp [tables]

theorem aggregationNames_mem_tables : aggregationNames ∈ tables := by
  simp [tables]

theorem snippetLabels_mem_tables : snippetLabels ∈ tables := by
  simp [tables]

theorem namesOf_mem_tables {table : List Property} (h : table ∈ partTables) :
    namesOf table ∈ tables := by
  simp only [tables, List.mem_append]
  exact .inl (.inl (.inr (List.mem_map_of_mem h)))

theorem namesOf_clauseOptions_mem_tables (name : String) (preferAggregation : Bool) :
    namesOf (clauseOptions name preferAggregation) ∈ tables := by
  simp only [tables, List.mem_append]
  exact .inl (.inr (namesOf_clauseOptions_mem name preferAggregation))

theorem enumValues_mem_tables (key : String) : enumValues key ∈ tables :=
  List.mem_append_right _ (enumValues_mem key)

end QueryAssist.Catalog
