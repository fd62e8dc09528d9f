import QueryAssist.Completion.Provide
import QueryAssist.Proofs.Catalog.Names
import QueryAssist.Proofs.Cursor.Words
/-!
# What is provided

The text that completions replace is the word before the cursor. Each candidate comes from a table
of the catalog or is the path of a field, and each table has its contexts.
-/

namespace QueryAssist.Completion

open Catalog Cursor

/-! ## The answer -/

section Answer

variable {text : String} {cursor : Int} {data : Option Snapshot} {explicit : Bool}
  {found : Completions}

theorem eq_of_provide (h : provide text cursor data explicit = some found) :
    found = ⟨wordStart (before text cursor),
      rank (candidates (contextAt text cursor) (currentWord text cursor) data explicit)⟩ := by
  have hlength : (currentWord text cursor).length = (wordEnding (before text cursor)).length :=
    String.length_ofList
  simp only [provide, provideIn] at h
  split_ifs at h
  rw [← Option.some.inj h, wordStart, ← hlength]
  rfl

theorem start_of_provide (h : provide text cursor data explicit = some found) :
    found.start = wordStart (before text cursor) :=
  congrArg Completions.start (eq_of_provide h)

theorem mem_options_of_provide (h : provide text cursor data explicit = some found)
    {c : Candidate} : c ∈ found.options ↔
      c ∈ candidates (contextAt text cursor) (currentWord text cursor) data explicit := by
  rw [congrArg Completions.options (eq_of_provide h)]
  exact List.mem_mergeSort

theorem isInString_of_provide (h : provide text cursor data false = some found) :
    isInString text cursor = false := by
  by_contra hopen
  rw [Bool.not_eq_false] at hopen
  have hctx : (contextAt text cursor).inString = true := hopen
  rw [provide, provideIn, hctx] at h
  exact Option.some_ne_none found h.symm

end Answer

/-! ## Where candidates come from -/

/-- The candidates that the catalog and a snapshot have to offer, for whatever word. -/
inductive Offered (data : Option Snapshot) : Candidate → Prop
  | query {q : Clause} (h : q ∈ Queries.all) : Offered data (ofClause .queryType "query" q)
  | aggregation {a : Clause} (h : a ∈ Aggregations.all) :
      Offered data (ofClause .aggType "aggregation" a)
  | part {kind : CandidateKind} {table : List Property} {p : Property}
      (hkind : kind ∈ [.property, .keyword]) (htable : table ∈ partTables) (h : p ∈ table) :
      Offered data (ofProperty kind p)
  | option {name : String} {preferAggregation : Bool} {p : Property}
      (h : p ∈ clauseOptions name preferAggregation) : Offered data (ofProperty .property p)
  | nestedAggs : Offered data nestedAggs
  | snippet {s : Snippet} (h : s ∈ snippets) : Offered data (ofSnippet s)
  | value {key value : String} (h : value ∈ enumValues key) : Offered data (ofValue value)
  | field {snapshot : Snapshot} {c : Candidate} (hdata : data = some snapshot)
      (h : c ∈ allFieldOffers snapshot) : Offered data c

theorem mem_firstByLabel_iff {cs : List Candidate} {c : Candidate} :
    c ∈ firstByLabel cs ↔ cs.find? (fun d => d.label = c.label) = some c := by
  induction cs with
  | nil => simp [firstByLabel]
  | cons d cs ih =>
      rw [firstByLabel, List.mem_cons, List.mem_filter, ih]
      by_cases h : d.label = c.label
      · rw [List.find?_cons_of_pos (by simpa using h), Option.some_inj]
        simp [h, eq_comm]
      · rw [List.find?_cons_of_neg (by simpa using h)]
        have hne : c ≠ d := fun hcd => h (by rw [hcd])
        simp [hne, Ne.symm h]

theorem exists_fieldOffer_of_mem_allFieldOffers {snapshot : Snapshot} {c : Candidate}
    (h : c ∈ allFieldOffers snapshot) :
    ∃ path boost detail info, c = fieldOffer path boost detail info := by
  have hmem := List.mem_of_find?_eq_some (mem_firstByLabel_iff.1 h)
  obtain ⟨entry, -, hentry⟩ := List.mem_flatMap.1 hmem
  rcases List.mem_cons.1 hentry with rfl | hkeyword
  · exact ⟨_, _, _, _, rfl⟩
  · rw [List.mem_singleton.1 (List.mem_ite_nil_right.1 hkeyword).2]
    exact ⟨_, _, _, _, rfl⟩

theorem exists_table_of_offered {data : Option Snapshot} {c : Candidate} (h : Offered data c)
    (hkind : c.kind ≠ .field) : ∃ table ∈ tables, c.label ∈ table := by
  cases h with
  | query hq => exact ⟨_, queryNames_mem_tables, List.mem_map_of_mem hq⟩
  | aggregation ha => exact ⟨_, aggregationNames_mem_tables, List.mem_map_of_mem ha⟩
  | part _ htable hp => exact ⟨_, namesOf_mem_tables htable, List.mem_map_of_mem hp⟩
  | option hp => exact ⟨_, namesOf_clauseOptions_mem_tables _ _, List.mem_map_of_mem hp⟩
  | nestedAggs =>
      exact ⟨namesOf rootProperties, namesOf_mem_tables List.mem_cons_self, by decide +kernel⟩
  | snippet hs => exact ⟨_, snippetLabels_mem_tables, List.mem_map_of_mem hs⟩
  | value hvalue => exact ⟨_, enumValues_mem_tables _, hvalue⟩
  | field _ hmem =>
      obtain ⟨path, boost, detail, info, rfl⟩ := exists_fieldOffer_of_mem_allFieldOffers hmem
      exact absurd rfl hkind

theorem isNameChar_label {data : Option Snapshot} {c : Candidate} (h : Offered data c)
    (hkind : c.kind ≠ .field) : ∀ d ∈ c.label.toList, isNameChar d = true := by
  obtain ⟨table, htable, hlabel⟩ := exists_table_of_offered h hkind
  exact isNameChar_of_mem_tables table htable c.label hlabel

def BehindSortField (ctx : Context) : Prop :=
  ctx.kind = .sort ∧ ctx.afterColon = true ∧ ∃ key, ctx.currentKey = some key ∧ key ≠ "sort"

/-- Where a candidate comes from, and what the contexts are like that it comes up in. -/
inductive Placed (ctx : Context) (data : Option Snapshot) : Candidate → Prop
  | query {q : Clause} (h : q ∈ Queries.all) (hadd : ctx.canAddQuery = true)
      (hplace : ctx.afterColon = false ∨ ctx.kind = .boolClause) :
      Placed ctx data (ofClause .queryType "query" q)
  | aggregation {a : Clause} (h : a ∈ Aggregations.all) (hadd : ctx.canAddAggregation = true)
      (hcolon : ctx.afterColon = false) : Placed ctx data (ofClause .aggType "aggregation" a)
  | keyword {p : Property} (h : p ∈ boolClauses) (hbool : ctx.kind = .bool)
      (hcolon : ctx.afterColon = false) : Placed ctx data (ofProperty .keyword p)
  | part {table : List Property} {p : Property} (htable : table ∈ partTables) (h : p ∈ table)
      (hcolon : ctx.afterColon = false) : Placed ctx data (ofProperty .property p)
  | option {name : String} {preferAggregation : Bool} {p : Property}
      (h : p ∈ clauseOptions name preferAggregation) (hcolon : ctx.afterColon = false) :
      Placed ctx data (ofProperty .property p)
  | nestedAggs (hcolon : ctx.afterColon = false) : Placed ctx data nestedAggs
  | snippet {s : Snippet} (h : s ∈ snippets) (hroot : ctx.kind = .root)
      (hcolon : ctx.afterColon = false) : Placed ctx data (ofSnippet s)
  | value {key value : String} (h : value ∈ enumValues key)
      (hplace : ctx.kind = .value ∨ BehindSortField ctx) : Placed ctx data (ofValue value)
  | field {snapshot : Snapshot} {c : Candidate} (hdata : data = some snapshot)
      (h : c ∈ allFieldOffers snapshot) : Placed ctx data c

section Tables

variable {ctx : Context} {data : Option Snapshot} {word : String} {c : Candidate}

theorem Placed.offered (h : Placed ctx data c) : Offered data c := by
  have hpart : boolClauses ∈ partTables := by simp [partTables]
  cases h with
  | query h _ _ => exact .query h
  | aggregation h _ _ => exact .aggregation h
  | keyword h _ _ => exact .part (by simp) hpart h
  | part htable h _ => exact .part (by simp) htable h
  | option h _ => exact .option h
  | nestedAggs _ => exact .nestedAggs
  | snippet h _ _ => exact .snippet h
  | value h _ => exact .value h
  | field hdata h => exact .field hdata h

theorem placed_of_mem_queryOffers (hadd : ctx.canAddQuery = true)
    (hplace : ctx.afterColon = false ∨ ctx.kind = .boolClause) (h : c ∈ queryOffers word) :
    Placed ctx data c := by
  obtain ⟨q, hq, rfl⟩ := List.mem_map.1 h
  exact .query (List.mem_filter.1 hq).1 hadd hplace

theorem placed_of_mem_aggregationOffers (hadd : ctx.canAddAggregation = true)
    (hcolon : ctx.afterColon = false) (h : c ∈ aggregationOffers word) : Placed ctx data c := by
  obtain ⟨a, ha, rfl⟩ := List.mem_map.1 h
  exact .aggregation (List.mem_filter.1 ha).1 hadd hcolon

theorem placed_of_mem_keywordOffers (hbool : ctx.kind = .bool) (hcolon : ctx.afterColon = false)
    (h : c ∈ propertyOffers .keyword boolClauses word) : Placed ctx data c := by
  obtain ⟨p, hp, rfl⟩ := List.mem_map.1 h
  exact .keyword (List.mem_filter.1 hp).1 hbool hcolon

theorem placed_of_mem_partOffers {table : List Property} (htable : table ∈ partTables)
    (hcolon : ctx.afterColon = false) (h : c ∈ propertyOffers .property table word) :
    Placed ctx data c := by
  obtain ⟨p, hp, rfl⟩ := List.mem_map.1 h
  exact .part htable (List.mem_filter.1 hp).1 hcolon

theorem placed_of_mem_optionOffers {name : String} {preferAggregation : Bool}
    (hcolon : ctx.afterColon = false)
    (h : c ∈ propertyOffers .property (clauseOptions name preferAggregation) word) :
    Placed ctx data c := by
  obtain ⟨p, hp, rfl⟩ := List.mem_map.1 h
  exact .option (List.mem_filter.1 hp).1 hcolon

theorem placed_of_mem_snippetOffers (hroot : ctx.kind = .root) (hcolon : ctx.afterColon = false)
    (h : c ∈ snippetOffers word) : Placed ctx data c := by
  obtain ⟨s, hs, rfl⟩ := List.mem_map.1 h
  exact .snippet (List.mem_filter.1 hs).1 hroot hcolon

theorem placed_of_mem_valueOffers {key : String} (hplace : ctx.kind = .value ∨ BehindSortField ctx)
    (h : c ∈ valueOffers (enumValues key) word) : Placed ctx data c := by
  obtain ⟨value, hvalue, rfl⟩ := List.mem_map.1 h
  exact .value (List.mem_filter.1 hvalue).1 hplace

theorem placed_of_mem_fieldOffers (h : c ∈ fieldOffers data word) : Placed ctx data c := by
  have hmem : c ∈ (data.map allFieldOffers).getD [] := by
    simp only [fieldOffers] at h
    split_ifs at h
    · exact List.mem_of_mem_take h
    · exact (List.mem_filter.1 h).1
  cases data with
  | none => exact absurd hmem List.not_mem_nil
  | some snapshot => exact .field rfl hmem

theorem kind_of_mem_queryOffers (h : c ∈ queryOffers word) : c.kind = .queryType := by
  obtain ⟨q, -, rfl⟩ := List.mem_map.1 h
  rfl

theorem kind_of_mem_aggregationOffers (h : c ∈ aggregationOffers word) : c.kind = .aggType := by
  obtain ⟨a, -, rfl⟩ := List.mem_map.1 h
  rfl

theorem kind_of_mem_snippetOffers (h : c ∈ snippetOffers word) : c.kind = .snippet := by
  obtain ⟨s, -, rfl⟩ := List.mem_map.1 h
  rfl

theorem kind_of_mem_propertyOffers {kind : CandidateKind} {properties : List Property}
    (h : c ∈ propertyOffers kind properties word) : c.kind = kind := by
  obtain ⟨p, -, rfl⟩ := List.mem_map.1 h
  rfl

end Tables

/-! ## The parts of a search body -/

section Parts

variable {ctx : Context} {data : Option Snapshot} {word : String} {explicit : Bool} {c : Candidate}

theorem placed_of_mem_clauseOffers (hcolon : ctx.afterColon = false) (h : c ∈ clauseOffers ctx word) :
    Placed ctx data c := by
  unfold clauseOffers at h
  split at h
  · exact placed_of_mem_optionOffers hcolon h
  · exact absurd h List.not_mem_nil

theorem placed_of_mem_aggDefOffers (hcolon : ctx.afterColon = false) (h : c ∈ aggDefOffers ctx word) :
    Placed ctx data c := by
  rcases List.mem_append.1 h with h | h
  · rw [List.mem_singleton.1 (List.mem_ite_nil_right.1 h).2]
    exact .nestedAggs hcolon
  · split at h
    · exact placed_of_mem_optionOffers hcolon (List.mem_ite_nil_right.1 h).2
    · exact absurd h List.not_mem_nil

theorem placed_of_mem_rootOffers (hroot : ctx.kind = .root) (h : c ∈ rootOffers ctx word explicit) :
    Placed ctx data c := by
  obtain ⟨hcolon, hmem⟩ := List.mem_ite_nil_left.1 h
  rw [Bool.not_eq_true] at hcolon
  rcases List.mem_append.1 hmem with h | h
  · exact placed_of_mem_partOffers (by simp [partTables]) hcolon h
  · exact placed_of_mem_snippetOffers hroot hcolon (List.mem_ite_nil_right.1 h).2

theorem placed_of_mem_queryPartOffers (hquery : ctx.kind = .query)
    (h : c ∈ queryPartOffers ctx word data) : Placed ctx data c := by
  unfold queryPartOffers at h
  split_ifs at h with hcolon
  · exact placed_of_mem_fieldOffers h
  · exact absurd h List.not_mem_nil
  · rw [Bool.not_eq_true] at hcolon
    rcases List.mem_append.1 h with h | h
    · have hadd : ctx.canAddQuery = true := by rw [Context.canAddQuery, hquery]
      exact placed_of_mem_queryOffers hadd (.inl hcolon) h
    · exact placed_of_mem_clauseOffers hcolon h

theorem placed_of_mem_boolClauseOffers (hclause : ctx.kind = .boolClause)
    (h : c ∈ boolClauseOffers ctx word) : Placed ctx data c := by
  rcases List.mem_append.1 h with h | h
  · have hadd : ctx.canAddQuery = true := by rw [Context.canAddQuery, hclause]
    exact placed_of_mem_queryOffers hadd (.inr hclause) h
  · obtain ⟨hcolon, hmem⟩ := List.mem_ite_nil_left.1 h
    exact placed_of_mem_clauseOffers (eq_false_of_ne_true hcolon) hmem

theorem placed_of_mem_aggsPartOffers (haggs : ctx.canAddAggregation = true)
    (h : c ∈ aggsPartOffers ctx word data) : Placed ctx data c := by
  unfold aggsPartOffers at h
  split_ifs at h with hcolon _ hdef
  · exact placed_of_mem_fieldOffers h
  · exact absurd h List.not_mem_nil
  · rw [Bool.not_eq_true] at hcolon
    rcases List.mem_append.1 h with h | h
    · exact placed_of_mem_aggregationOffers haggs hcolon h
    · exact placed_of_mem_aggDefOffers hcolon h
  · rw [List.append_nil] at h
    exact placed_of_mem_aggregationOffers haggs (eq_false_of_ne_true hcolon) h

theorem placed_of_mem_sortOffers (hsort : ctx.kind = .sort) (h : c ∈ sortOffers ctx word data) :
    Placed ctx data c := by
  unfold sortOffers at h
  split_ifs at h with hdirection
  · rw [Bool.and_eq_true, Option.any_eq_true] at hdirection
    obtain ⟨hcolon, current, hcurrent, hne⟩ := hdirection
    rw [bne_iff_ne] at hne
    exact placed_of_mem_valueOffers (.inr ⟨hsort, hcolon, current, hcurrent, hne⟩) h
  · exact placed_of_mem_fieldOffers h

theorem placed_of_mem_unknownOffers (h : c ∈ unknownOffers ctx word data) : Placed ctx data c := by
  by_cases hcolon : ctx.afterColon = true
  · rw [unknownOffers, if_pos hcolon] at h
    exact placed_of_mem_fieldOffers h
  · rw [unknownOffers, if_neg hcolon] at h
    rw [Bool.not_eq_true] at hcolon
    rcases List.mem_append.1 h with h | h
    · obtain ⟨hadd, hmem⟩ := List.mem_ite_nil_right.1 h
      exact placed_of_mem_queryOffers hadd (.inl hcolon) hmem
    · split at h
      · exact placed_of_mem_optionOffers hcolon h
      · exact absurd h List.not_mem_nil

theorem placed_of_mem_candidates (h : c ∈ candidates ctx word data explicit) : Placed ctx data c := by
  unfold candidates at h
  cases hkind : ctx.kind <;> simp only [hkind] at h
  case root => exact placed_of_mem_rootOffers hkind h
  case query => exact placed_of_mem_queryPartOffers hkind h
  case bool =>
    obtain ⟨hcolon, hmem⟩ := List.mem_ite_nil_left.1 h
    exact placed_of_mem_keywordOffers hkind (eq_false_of_ne_true hcolon) hmem
  case boolClause => exact placed_of_mem_boolClauseOffers hkind h
  case aggs | aggDef =>
    have haggs : ctx.canAddAggregation = true := by rw [Context.canAddAggregation, hkind]; rfl
    exact placed_of_mem_aggsPartOffers haggs h
  case sort => exact placed_of_mem_sortOffers hkind h
  case highlight | suggest =>
    obtain ⟨hcolon, hmem⟩ := List.mem_ite_nil_left.1 h
    exact placed_of_mem_partOffers (by simp [partTables]) (eq_false_of_ne_true hcolon) hmem
  case source =>
    split_ifs at h with hcolon
    · exact placed_of_mem_fieldOffers h
    · exact placed_of_mem_partOffers (by simp [partTables]) (eq_false_of_ne_true hcolon) h
  case fieldValue => exact placed_of_mem_fieldOffers h
  case value =>
    split at h
    · exact placed_of_mem_valueOffers (.inl hkind) h
    · exact absurd h List.not_mem_nil
  case unknown => exact placed_of_mem_unknownOffers h

theorem offered_of_mem_candidates (h : c ∈ candidates ctx word data explicit) : Offered data c :=
  (placed_of_mem_candidates h).offered

theorem offered_of_provide {text : String} {cursor : Int} {found : Completions}
    (h : provide text cursor data explicit = some found) (hc : c ∈ found.options) :
    Offered data c :=
  offered_of_mem_candidates ((mem_options_of_provide h).1 hc)

end Parts

end QueryAssist.Completion
