import QueryAssist.Proofs.Completion.Fields
import Mathlib.Data.List.Nodup
/-!
# Distinct options

No two options have both label and kind in common. Within a table of the catalog the names differ,
fields are offered once for each label, and tables that come up together differ in kind.
-/

namespace QueryAssist.Completion

open Catalog Cursor

/-- No two candidates have the same label and the same kind. -/
def AreDistinct (cs : List Candidate) : Prop :=
  (cs.map fun c => (c.label, c.kind)).Nodup

theorem areDistinct_nil : AreDistinct [] := List.nodup_nil

theorem areDistinct_singleton (c : Candidate) : AreDistinct [c] := List.nodup_singleton _

theorem AreDistinct.append {a b : List Candidate} (ha : AreDistinct a) (hb : AreDistinct b)
    (h : ∀ c ∈ a, ∀ d ∈ b, c.label = d.label → c.kind ≠ d.kind) : AreDistinct (a ++ b) := by
  rw [AreDistinct, List.map_append, List.nodup_append]
  refine ⟨ha, hb, ?_⟩
  intro _ hleft _ hright heq
  obtain ⟨c, hc, rfl⟩ := List.mem_map.1 hleft
  obtain ⟨d, hd, rfl⟩ := List.mem_map.1 hright
  obtain ⟨hlabel, hkind⟩ := Prod.mk.inj heq
  exact h c hc d hd hlabel hkind

theorem AreDistinct.append_of_kind {a b : List Candidate} (ha : AreDistinct a) (hb : AreDistinct b)
    (kind : CandidateKind) (hkind : ∀ c ∈ a, c.kind = kind) (hother : ∀ d ∈ b, d.kind ≠ kind) :
    AreDistinct (a ++ b) :=
  ha.append hb fun c hc d hd _ hsame => hother d hd (hsame.symm.trans (hkind c hc))

theorem AreDistinct.ite {a b : List Candidate} (p : Prop) [Decidable p] (ha : AreDistinct a)
    (hb : AreDistinct b) : AreDistinct (if p then a else b) := by
  split
  · exact ha
  · exact hb

theorem areDistinct_of_labels {cs : List Candidate} (h : (cs.map (·.label)).Nodup) :
    AreDistinct cs := by
  apply List.Nodup.of_map Prod.fst
  rwa [List.map_map]

theorem areDistinct_rank {cs : List Candidate} (h : AreDistinct cs) : AreDistinct (rank cs) :=
  ((List.mergeSort_perm cs _).map _).nodup_iff.2 h

/-! ## Fields -/

theorem nodup_map_label_firstByLabel (cs : List Candidate) :
    ((firstByLabel cs).map (·.label)).Nodup := by
  induction cs with
  | nil => exact List.nodup_nil
  | cons c cs ih =>
      rw [firstByLabel, List.map_cons, List.nodup_cons]
      refine ⟨?_, ih.sublist (List.filter_sublist.map _)⟩
      intro h
      obtain ⟨d, hd, hlabel⟩ := List.mem_map.1 h
      exact of_decide_eq_true (List.mem_filter.1 hd).2 hlabel

theorem areDistinct_fieldOffers (data : Option Snapshot) (word : String) :
    AreDistinct (fieldOffers data word) := by
  have hknown : ((knownFields data).map (·.label)).Nodup := by
    cases data with
    | none => exact List.nodup_nil
    | some snapshot => exact nodup_map_label_firstByLabel _
  apply areDistinct_of_labels
  by_cases hword : word = ""
  · rw [hword, fieldOffers_empty]
    exact hknown.sublist ((List.take_sublist _ _).map _)
  · rw [fieldOffers_eq_filter hword]
    exact hknown.sublist (List.filter_sublist.map _)

/-! ## Tables -/

section Tables

theorem areDistinct_table {α : Type} {entries : List α} {make : α → Candidate} (p : α → Bool)
    (h : (entries.map fun entry => (make entry).label).Nodup) :
    AreDistinct ((entries.filter p).map make) := by
  apply areDistinct_of_labels
  rw [List.map_map]
  exact h.sublist (List.filter_sublist.map _)

theorem areDistinct_queryOffers (word : String) : AreDistinct (queryOffers word) :=
  areDistinct_table _ (nodup_of_mem_tables _ queryNames_mem_tables)

theorem areDistinct_aggregationOffers (word : String) : AreDistinct (aggregationOffers word) :=
  areDistinct_table _ (nodup_of_mem_tables _ aggregationNames_mem_tables)

theorem areDistinct_snippetOffers (word : String) : AreDistinct (snippetOffers word) :=
  areDistinct_table _ (nodup_of_mem_tables _ snippetLabels_mem_tables)

theorem areDistinct_valueOffers (key word : String) :
    AreDistinct (valueOffers (enumValues key) word) := by
  have hvalues := nodup_of_mem_tables _ (enumValues_mem_tables key)
  apply areDistinct_table
  rwa [← List.map_id (enumValues key)] at hvalues

theorem areDistinct_propertyOffers {properties : List Property} (h : namesOf properties ∈ tables)
    (kind : CandidateKind) (word : String) : AreDistinct (propertyOffers kind properties word) :=
  areDistinct_table _ (nodup_of_mem_tables _ h)

theorem areDistinct_partOffers {table : List Property} (h : table ∈ partTables)
    (kind : CandidateKind) (word : String) : AreDistinct (propertyOffers kind table word) :=
  areDistinct_propertyOffers (namesOf_mem_tables h) kind word

theorem areDistinct_optionOffers (name : String) (preferAggregation : Bool) (word : String) :
    AreDistinct (propertyOffers .property (clauseOptions name preferAggregation) word) :=
  areDistinct_propertyOffers (namesOf_clauseOptions_mem_tables _ _) _ word

end Tables

/-! ## The parts of a search body -/

section Parts

variable (ctx : Context) (word : String)

theorem areDistinct_clauseOffers : AreDistinct (clauseOffers ctx word) := by
  unfold clauseOffers
  split
  · exact areDistinct_optionOffers _ _ word
  · exact areDistinct_nil

theorem kind_of_mem_clauseOffers {c : Candidate} (h : c ∈ clauseOffers ctx word) :
    c.kind = .property := by
  unfold clauseOffers at h
  split at h
  · exact kind_of_mem_propertyOffers h
  · exact absurd h List.not_mem_nil

theorem areDistinct_queries_append {options : List Candidate} (h : AreDistinct options)
    (hkind : ∀ c ∈ options, c.kind = .property) : AreDistinct (queryOffers word ++ options) := by
  refine (areDistinct_queryOffers word).append_of_kind h .queryType
    (fun _ => kind_of_mem_queryOffers) fun c hc => ?_
  rw [hkind c hc]
  decide

theorem areDistinct_rootOffers (explicit : Bool) : AreDistinct (rootOffers ctx word explicit) := by
  refine .ite _ areDistinct_nil ?_
  have hroot : AreDistinct (propertyOffers .property rootProperties word) :=
    areDistinct_partOffers (by simp [partTables]) _ word
  refine hroot.append_of_kind (.ite _ (areDistinct_snippetOffers word) areDistinct_nil) .property
    (fun _ => kind_of_mem_propertyOffers) fun c hc => ?_
  rw [kind_of_mem_snippetOffers (List.mem_ite_nil_right.1 hc).2]
  decide

theorem areDistinct_queryPartOffers (data : Option Snapshot) :
    AreDistinct (queryPartOffers ctx word data) :=
  .ite _ (.ite _ (areDistinct_fieldOffers data word) areDistinct_nil)
    (areDistinct_queries_append word (areDistinct_clauseOffers ctx word)
      fun _ => kind_of_mem_clauseOffers ctx word)

theorem areDistinct_boolClauseOffers : AreDistinct (boolClauseOffers ctx word) :=
  areDistinct_queries_append word (.ite _ areDistinct_nil (areDistinct_clauseOffers ctx word))
    fun _ hc => kind_of_mem_clauseOffers ctx word (List.mem_ite_nil_left.1 hc).2

theorem nestedAggs_not_mem_options : ∀ table ∈ optionTables, nestedAggs.label ∉ table := by
  decide +kernel

theorem areDistinct_aggDefOffers : AreDistinct (aggDefOffers ctx word) := by
  refine AreDistinct.append (.ite _ (areDistinct_singleton _) areDistinct_nil) ?_ ?_
  · split
    · exact .ite _ (areDistinct_optionOffers _ _ word) areDistinct_nil
    · exact areDistinct_nil
  · intro c hc d hd hlabel
    rw [List.mem_singleton.1 (List.mem_ite_nil_right.1 hc).2] at hlabel
    split at hd
    · rename_i agg _
      obtain ⟨p, hp, rfl⟩ := List.mem_map.1 (List.mem_ite_nil_right.1 hd).2
      have hname : p.name ∈ namesOf (clauseOptions agg true) :=
        List.mem_map_of_mem (List.mem_filter.1 hp).1
      have hoption : nestedAggs.label ∉ namesOf (clauseOptions agg true) :=
        nestedAggs_not_mem_options _ (namesOf_clauseOptions_mem agg true)
      exact absurd (hlabel ▸ hname) hoption
    · exact absurd hd List.not_mem_nil

theorem kind_of_mem_aggDefOffers {c : Candidate} (h : c ∈ aggDefOffers ctx word) :
    c.kind = .property := by
  rcases List.mem_append.1 h with h | h
  · rw [List.mem_singleton.1 (List.mem_ite_nil_right.1 h).2]
    rfl
  · split at h
    · exact kind_of_mem_propertyOffers (List.mem_ite_nil_right.1 h).2
    · exact absurd h List.not_mem_nil

theorem areDistinct_aggsPartOffers (data : Option Snapshot) :
    AreDistinct (aggsPartOffers ctx word data) := by
  refine .ite _ (.ite _ (areDistinct_fieldOffers data word) areDistinct_nil) ?_
  refine (areDistinct_aggregationOffers word).append_of_kind
    (.ite _ (areDistinct_aggDefOffers ctx word) areDistinct_nil) .aggType
    (fun _ => kind_of_mem_aggregationOffers) fun c hc => ?_
  rw [kind_of_mem_aggDefOffers ctx word (List.mem_ite_nil_right.1 hc).2]
  decide

theorem areDistinct_sortOffers (data : Option Snapshot) : AreDistinct (sortOffers ctx word data) :=
  .ite _ (areDistinct_valueOffers "order" word) (areDistinct_fieldOffers data word)

theorem areDistinct_unknownOffers (data : Option Snapshot) :
    AreDistinct (unknownOffers ctx word data) := by
  refine .ite _ (areDistinct_fieldOffers data word) ?_
  refine AreDistinct.append_of_kind (.ite _ (areDistinct_queryOffers word) areDistinct_nil) ?_
    .queryType (fun c hc => kind_of_mem_queryOffers (List.mem_ite_nil_right.1 hc).2) fun c hc => ?_
  · split
    · exact areDistinct_optionOffers _ _ word
    · exact areDistinct_nil
  · split at hc
    · rw [kind_of_mem_propertyOffers hc]
      decide
    · exact absurd hc List.not_mem_nil

theorem areDistinct_candidates (data : Option Snapshot) (explicit : Bool) :
    AreDistinct (candidates ctx word data explicit) := by
  have hpart : ∀ {kind table}, table ∈ partTables → AreDistinct (propertyOffers kind table word) :=
    fun h => areDistinct_partOffers h _ word
  unfold candidates
  cases ctx.kind <;> dsimp only
  case root => exact areDistinct_rootOffers ctx word explicit
  case query => exact areDistinct_queryPartOffers ctx word data
  case bool | highlight | suggest =>
    exact .ite _ areDistinct_nil (hpart (by simp [partTables]))
  case boolClause => exact areDistinct_boolClauseOffers ctx word
  case aggs | aggDef => exact areDistinct_aggsPartOffers ctx word data
  case sort => exact areDistinct_sortOffers ctx word data
  case source => exact .ite _ (areDistinct_fieldOffers data word) (hpart (by simp [partTables]))
  case fieldValue => exact areDistinct_fieldOffers data word
  case value =>
    split
    · exact areDistinct_valueOffers _ word
    · exact areDistinct_nil
  case unknown => exact areDistinct_unknownOffers ctx word data

end Parts

/-- Among the options for a cursor no label comes twice as one kind. -/
theorem areDistinct_options {text : String} {cursor : Int} {data : Option Snapshot}
    {explicit : Bool} {found : Completions} (h : provide text cursor data explicit = some found) :
    AreDistinct found.options := by
  rw [eq_of_provide h]
  exact areDistinct_rank (areDistinct_candidates _ _ _ _)

/-- Two indices have a field of one name, and one of them has a field besides under the path of the
keyword field that goes with the other. -/
def sharedFields : Snapshot :=
  ⟨[("logs", [⟨"status", .text, .null, false, []⟩, ⟨"status.keyword", .long, .null, false, []⟩]),
    ("users", [⟨"status", .keyword, .null, false, []⟩])], [], []⟩

theorem areDistinct_options_sharedFields :
    ∃ found, provide "\x7b\"sort\":[" 9 (some sharedFields) true = some found ∧
      found.options.length = 2 ∧ AreDistinct found.options := by
  obtain ⟨found, h⟩ : ∃ found, provide "\x7b\"sort\":[" 9 (some sharedFields) true = some found :=
    Option.isSome_iff_exists.1 (by decide +kernel)
  refine ⟨found, h, ?_, areDistinct_options h⟩
  rw [eq_of_provide h, rank, List.length_mergeSort]
  decide +kernel

end QueryAssist.Completion
