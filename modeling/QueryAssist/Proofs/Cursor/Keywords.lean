import QueryAssist.Proofs.Cursor.Kinds
/-!
# Keywords on a path

Where the key before a colon does not decide, the keys on the path do, and of them the innermost
keyword. Nothing around it has a part in that, and of what is inside it only whether there is anything:
right below "aggs" are the names of aggregations, and deeper the definition of one. A path without a
keyword leads to a query if a query is named on it.
-/

namespace QueryAssist.Cursor

open Catalog

variable {path inner outer : List String} {key : String} {kind : ContextKind}
  {currentKey : Option String} {afterColon : Bool}

/-! ## The innermost keyword -/

def kindAround (kind : ContextKind) (inner : List String) : ContextKind :=
  if kind = .aggs ∧ inner ≠ [] then .aggDef else kind

theorem innermostKeyword?_append (hinner : ∀ k ∈ inner, keywords.lookup k = none)
    (hkey : keywords.lookup key = some kind) :
    innermostKeyword? (inner ++ key :: outer) = some (kindAround kind inner) := by
  cases inner with
  | nil =>
      rw [List.nil_append, innermostKeyword?, hkey, kindAround, if_neg fun h => h.2 rfl]
      rfl
  | cons last rest =>
      obtain ⟨hlast, hrest⟩ := List.forall_mem_cons.1 hinner
      have houter : (rest ++ key :: outer).findSome? (fun k => keywords.lookup k) = some kind := by
        rw [List.findSome?_append, List.findSome?_eq_none_iff.2 hrest, List.findSome?_cons, hkey]
        rfl
      rw [List.cons_append, innermostKeyword?, hlast, houter, Option.none_or, Option.map_some]
      by_cases haggs : kind = .aggs
      · rw [kindAround, if_pos haggs, if_pos ⟨haggs, List.cons_ne_nil last rest⟩]
      · rw [kindAround, if_neg haggs, if_neg fun h => haggs h.1]

theorem innermostKeyword?_eq_none_iff :
    innermostKeyword? path = none ↔ ∀ k ∈ path, keywords.lookup k = none := by
  cases path with
  | nil => exact iff_of_true rfl (List.forall_mem_nil _)
  | cons last outer =>
      rw [innermostKeyword?, Option.or_eq_none_iff, Option.map_eq_none_iff,
        List.findSome?_eq_none_iff, List.forall_mem_cons]

/-! ## Paths that decide -/

/-- The key before a colon takes the name of a field or one of a few values. -/
def KeyDecides (currentKey : Option String) (afterColon : Bool) : Prop :=
  afterColon = true ∧ ∃ key ∈ fieldKeys ++ valueKeys, currentKey = some key

theorem not_keyDecides_iff : ¬KeyDecides currentKey afterColon ↔
    (afterColon && currentKey.any fieldKeys.contains) = false ∧
      (afterColon && currentKey.any valueKeys.contains) = false := by
  cases afterColon with
  | false => simp [KeyDecides]
  | true =>
      cases currentKey with
      | none => simp [KeyDecides]
      | some key => simp [KeyDecides]

theorem classify_of_not_keyDecides (hpath : path ≠ []) (hkey : ¬KeyDecides currentKey afterColon) :
    classify path currentKey afterColon =
      (innermostKeyword? path.reverse).getD
        (if path.any isClauseName then .query else .unknown) := by
  obtain ⟨hfield, hvalue⟩ := not_keyDecides_iff.1 hkey
  rw [classify, if_neg (mt List.isEmpty_iff.1 hpath), hfield, hvalue]
  rfl

theorem classify_of_keyword (hkey : ¬KeyDecides currentKey afterColon)
    (hkeyword : keywords.lookup key = some kind) (hinner : ∀ k ∈ inner, keywords.lookup k = none)
    (outer : List String) :
    classify (outer ++ key :: inner) currentKey afterColon = kindAround kind inner := by
  have hreverse : (outer ++ key :: inner).reverse = inner.reverse ++ key :: outer.reverse := by
    simp
  rw [classify_of_not_keyDecides (by simp) hkey, hreverse,
    innermostKeyword?_append (fun k hk => hinner k (List.mem_reverse.1 hk)) hkeyword,
    Option.getD_some]
  simp only [kindAround, ne_eq, List.reverse_eq_nil_iff]

theorem not_mem_boolClauseNames (h : keywords.lookup key = none) : key ∉ boolClauseNames := by
  have hkeywords : ∀ name ∈ boolClauseNames, keywords.lookup name ≠ none := by decide
  exact fun hmem => hkeywords key hmem h

theorem isClauseName_iff (h : keywords.lookup key = none) :
    isClauseName key = true ↔ key ∈ queryNames := by
  rw [isClauseName, Bool.or_eq_true, List.contains_iff_mem, List.contains_iff_mem]
  exact or_iff_left (not_mem_boolClauseNames h)

theorem classify_without_keyword (hpath : path ≠ []) (hkey : ¬KeyDecides currentKey afterColon)
    (hnone : ∀ k ∈ path, keywords.lookup k = none) :
    classify path currentKey afterColon =
      if ∃ k ∈ path, k ∈ queryNames then .query else .unknown := by
  have hany : path.any isClauseName = true ↔ ∃ k ∈ path, k ∈ queryNames := by
    rw [List.any_eq_true]
    exact exists_congr fun k => and_congr_right fun hk => isClauseName_iff (hnone k hk)
  rw [classify_of_not_keyDecides hpath hkey,
    innermostKeyword?_eq_none_iff.2 fun k hk => hnone k (List.mem_reverse.1 hk), Option.getD_none]
  exact if_congr hany rfl rfl

theorem not_known_of_unknown (h : classify path currentKey afterColon = .unknown) :
    ∀ k ∈ path, keywords.lookup k = none ∧ k ∉ queryNames ∧ k ∉ boolClauseNames := by
  have hkinds : ∀ entry ∈ keywords, entry.2 ≠ .unknown := by decide
  have hrule := decides_classify path currentKey afterColon
  rw [h] at hrule
  cases hrule with
  | keys hpath hfield hvalue _ =>
      have hkey := not_keyDecides_iff.2 ⟨hfield, hvalue⟩
      cases hkeyword : innermostKeyword? path.reverse with
      | some kind =>
          rw [classify_of_not_keyDecides hpath hkey, hkeyword, Option.getD_some] at h
          rcases mem_keywords_of_innermostKeyword? hkeyword with rfl | ⟨key, hmem⟩
          · cases h
          · exact absurd h (hkinds _ hmem)
      | none =>
          have hnone (k : String) (hk : k ∈ path) : keywords.lookup k = none :=
            innermostKeyword?_eq_none_iff.1 hkeyword k (List.mem_reverse.2 hk)
          rw [classify_without_keyword hpath hkey hnone] at h
          split at h
          · cases h
          · rename_i hnamed
            exact fun k hk => ⟨hnone k hk, fun hquery => hnamed ⟨k, hk, hquery⟩,
              not_mem_boolClauseNames (hnone k hk)⟩

/-- Below the root, where no key before a colon decides, the innermost keyword does, whatever is around
it. Without a keyword the part is a query if and only if one is named on the path, and else unknown. In
an unknown part of a text nothing on the path is known. -/
theorem classify_of_innermost_keyword :
    (∀ (path : List String) (currentKey : Option String) (afterColon : Bool),
      path ≠ [] → ¬KeyDecides currentKey afterColon →
        (∀ outer key inner kind, path = outer ++ key :: inner → keywords.lookup key = some kind →
          (∀ k ∈ inner, keywords.lookup k = none) →
            classify path currentKey afterColon = kindAround kind inner ∧
              ∀ further, classify (further ++ path) currentKey afterColon =
                classify path currentKey afterColon) ∧
          ((∀ k ∈ path, keywords.lookup k = none) →
            (classify path currentKey afterColon = .query ↔ ∃ k ∈ path, k ∈ queryNames) ∧
              (classify path currentKey afterColon = .unknown ↔ ∀ k ∈ path, k ∉ queryNames))) ∧
      ∀ (text : String) (cursor : Int), (contextAt text cursor).kind = .unknown →
        ∀ k ∈ (contextAt text cursor).path,
          keywords.lookup k = none ∧ k ∉ queryNames ∧ k ∉ boolClauseNames := by
  refine ⟨fun path currentKey afterColon hpath hkey => ⟨?_, fun hnone => ?_⟩,
    fun text cursor h => not_known_of_unknown h⟩
  · rintro outer key inner kind rfl hkeyword hinner
    have hclassify := classify_of_keyword hkey hkeyword hinner
    refine ⟨hclassify outer, fun further => ?_⟩
    rw [hclassify outer, ← List.append_assoc, hclassify]
  · rw [classify_without_keyword hpath hkey hnone]
    by_cases hnamed : ∃ k ∈ path, k ∈ queryNames
    · rw [if_pos hnamed]
      exact ⟨iff_of_true rfl hnamed, iff_of_false (by decide) fun hnot =>
        hnamed.elim fun k hk => hnot k hk.1 hk.2⟩
    · rw [if_neg hnamed]
      exact ⟨iff_of_false (by decide) hnamed, iff_of_true rfl fun k hk hquery =>
        hnamed ⟨k, hk, hquery⟩⟩

theorem classify_of_innermost_keyword_nested :
    let path := ["aggs", "query", "aggs", "filter by day"]
    let part := "\x7b\"post_filter\":\x7b"
    path ≠ [] ∧ ¬KeyDecides (some "field") false ∧
      path = ["aggs", "query"] ++ "aggs" :: ["filter by day"] ∧
      keywords.lookup "aggs" = some .aggs ∧
      (∀ k ∈ ["filter by day"], keywords.lookup k = none) ∧
      classify path (some "field") false = .aggDef ∧
      (∀ further, classify (further ++ path) (some "field") false =
        classify path (some "field") false) ∧
      ["functions", "match"] ≠ [] ∧ ¬KeyDecides (some "size") true ∧
      (∀ k ∈ ["functions", "match"], keywords.lookup k = none) ∧
      (classify ["functions", "match"] (some "size") true = .query ↔
        ∃ k ∈ ["functions", "match"], k ∈ queryNames) ∧
      (contextAt part 16).kind = .unknown ∧
      ∀ k ∈ (contextAt part 16).path,
        keywords.lookup k = none ∧ k ∉ queryNames ∧ k ∉ boolClauseNames := by
  intro path part
  have hfield : ¬KeyDecides (some "field") false := by simp [KeyDecides]
  have hsize : ¬KeyDecides (some "size") true := by simp [KeyDecides, fieldKeys, valueKeys]
  have hkeyword : keywords.lookup "aggs" = some .aggs := by decide
  have hinner : ∀ k ∈ ["filter by day"], keywords.lookup k = none := by decide
  have hnone : ∀ k ∈ ["functions", "match"], keywords.lookup k = none := by decide
  have hunknown : (contextAt part 16).kind = .unknown := by decide
  have hnested := classify_of_innermost_keyword.1 path (some "field") false (by decide) hfield
  have hplain := classify_of_innermost_keyword.1 ["functions", "match"] (some "size") true (by decide) hsize
  obtain ⟨hkind, hfurther⟩ :=
    hnested.1 ["aggs", "query"] "aggs" ["filter by day"] .aggs rfl hkeyword hinner
  have hquery := (hplain.2 hnone).1
  exact ⟨by decide, hfield, rfl, hkeyword, hinner, hkind, hfurther, by decide, hsize, hnone, hquery,
    hunknown, classify_of_innermost_keyword.2 part 16 hunknown⟩

end QueryAssist.Cursor
