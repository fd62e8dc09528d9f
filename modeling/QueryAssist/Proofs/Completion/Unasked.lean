import QueryAssist.Proofs.Completion.Filtering
/-!
# Completions without a request

A request is always answered. Without one there may be no answer, but if there is one it is that to a
request, less the snippets where these wait for two characters to be typed.
-/

namespace QueryAssist.Completion

open Catalog Cursor

/-! ## Candidates -/

section Candidates

variable (ctx : Context) (word : String) (data : Option Snapshot)

theorem rootOffers_unasked :
    rootOffers ctx word false =
      if word.length < 2 then (rootOffers ctx word true).filter (·.kind ≠ .snippet)
      else rootOffers ctx word true := by
  have hproperties : (propertyOffers .property rootProperties word).filter (·.kind ≠ .snippet) =
      propertyOffers .property rootProperties word := by
    refine List.filter_eq_self.2 fun c hc => ?_
    rw [kind_of_mem_propertyOffers hc]
    rfl
  have hsnippets : (snippetOffers word).filter (·.kind ≠ .snippet) = [] := by
    refine List.filter_eq_nil_iff.2 fun c hc => ?_
    rw [kind_of_mem_snippetOffers hc]
    decide
  simp only [rootOffers, Bool.false_or, Bool.true_or, if_true, decide_eq_true_eq]
  by_cases hcolon : ctx.afterColon = true
  · simp only [if_pos hcolon, List.filter_nil, ite_self]
  · by_cases hshort : word.length < 2
    · rw [if_neg hcolon, if_neg hcolon, if_pos hshort, if_neg (Nat.not_le.2 hshort),
        List.filter_append, hproperties, hsnippets]
    · rw [if_neg hcolon, if_neg hcolon, if_neg hshort, if_pos (Nat.not_lt.1 hshort)]

/-- It only matters at the root that candidates were asked for, and only for snippets. -/
theorem candidates_unasked :
    candidates ctx word data false =
      if ctx.kind = .root ∧ word.length < 2 then
        (candidates ctx word data true).filter (·.kind ≠ .snippet)
      else candidates ctx word data true := by
  by_cases hroot : ctx.kind = .root
  · simpa only [candidates, hroot, true_and] using rootOffers_unasked ctx word
  · rw [if_neg fun h => hroot h.1]
    unfold candidates
    cases hkind : ctx.kind
    case root => exact absurd hkind hroot
    all_goals rfl

end Candidates

/-! ## Answers -/

theorem rank_eq_nil_iff {cs : List Candidate} : rank cs = [] ↔ cs = [] := by
  rw [← List.length_eq_zero_iff, rank, List.length_mergeSort, List.length_eq_zero_iff]

theorem provide_unasked_eq (text : String) (cursor : Int) (data : Option Snapshot) :
    provide text cursor data false =
      if isInString text cursor = true ∨
          candidates (contextAt text cursor) (currentWord text cursor) data false = [] then none
      else some ⟨wordStart (before text cursor),
        rank (candidates (contextAt text cursor) (currentWord text cursor) data false)⟩ := by
  have hinString : (contextAt text cursor).inString = isInString text cursor := rfl
  have hword : (contextAt text cursor).word = currentWord text cursor := rfl
  by_cases h : isInString text cursor = true ∨
      candidates (contextAt text cursor) (currentWord text cursor) data false = []
  · rw [if_pos h]
    rcases h with hopen | hnone
    · simp [provide, provideIn, hinString, hopen]
    · simp [provide, provideIn, hword, hnone]
  · rw [if_neg h]
    obtain ⟨found, hfound⟩ : ∃ found, provide text cursor data false = some found := by
      simpa [provide, provideIn, hinString, hword] using not_or.1 h
    rw [hfound, eq_of_provide hfound]

theorem exists_mem_options_iff {text : String} {cursor : Int} {data : Option Snapshot}
    {explicit : Bool} {c : Candidate} :
    (∃ found, provide text cursor data explicit = some found ∧ c ∈ found.options) ↔
      (explicit = false → isInString text cursor = false) ∧
        c ∈ candidates (contextAt text cursor) (currentWord text cursor) data explicit := by
  constructor
  · rintro ⟨found, h, hc⟩
    refine ⟨?_, (mem_options_of_provide h).1 hc⟩
    rintro rfl
    exact isInString_of_provide h
  · rintro ⟨houtside, hc⟩
    obtain ⟨found, h⟩ : ∃ found, provide text cursor data explicit = some found := by
      cases explicit with
      | true => exact ⟨_, provide_explicit text cursor data⟩
      | false =>
          rw [provide_unasked_eq, houtside rfl, if_neg]
          · exact ⟨_, rfl⟩
          · rintro (hopen | hnone)
            · exact Bool.false_ne_true hopen
            · exact List.ne_nil_of_mem hc hnone
    exact ⟨found, h, (mem_options_of_provide h).2 hc⟩

/-- A request is always answered. Without one there is no answer in a string, nor is there an empty
one. Else the answer is that to a request, for the same word and in the same order, less the snippets
at the root before two characters are typed. -/
theorem provide_unasked (text : String) (cursor : Int) (data : Option Snapshot) :
    ∃ asked, provide text cursor data true = some asked ∧
      provide text cursor data false =
        let kept :=
          if (contextAt text cursor).kind = .root ∧ (currentWord text cursor).length < 2 then
            asked.options.filter (·.kind ≠ .snippet)
          else asked.options
        if isInString text cursor = true ∨ kept = [] then none
        else some { asked with options := kept } := by
  refine ⟨_, provide_explicit text cursor data, ?_⟩
  dsimp only
  rw [filter_rank, ← apply_ite rank, ← candidates_unasked, provide_unasked_eq]
  simp only [rank_eq_nil_iff]

end QueryAssist.Completion
