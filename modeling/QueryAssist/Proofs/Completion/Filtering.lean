import QueryAssist.Proofs.Completion.Fields
/-!
# Completions by filtering

A word narrows down what a context has to offer. What is left are the offers that fit the word, all of
them, in the order that they have without it.
-/

namespace QueryAssist.Completion

open Catalog Cursor Text

/-! ## Ranking and filtering -/

theorem exists_rank_cons (c : Candidate) (cs : List Candidate) :
    ∃ above below, rank (c :: cs) = above ++ c :: below ∧ rank cs = above ++ below ∧
      (∀ d ∈ above, c.boost < d.boost) ∧ ∀ d ∈ below, d.boost ≤ c.boost := by
  have htrans : ∀ a b d : Candidate, decide (b.boost ≤ a.boost) = true →
      decide (d.boost ≤ b.boost) = true → decide (d.boost ≤ a.boost) = true := by
    intro a b d hab hbd
    rw [decide_eq_true_iff] at *
    exact hbd.trans hab
  have htotal : ∀ a b : Candidate,
      (decide (b.boost ≤ a.boost) || decide (a.boost ≤ b.boost)) = true := by
    intro a b
    rw [Bool.or_eq_true, decide_eq_true_iff, decide_eq_true_iff]
    exact Nat.le_total _ _
  obtain ⟨above, below, hcons, hrest, habove⟩ := List.mergeSort_cons htrans htotal c cs
  have hsorted := List.pairwise_mergeSort htrans htotal (c :: cs)
  rw [hcons, List.pairwise_append, List.pairwise_cons] at hsorted
  refine ⟨above, below, hcons, hrest, fun d hd => ?_, fun d hd => ?_⟩
  · simpa using habove d hd
  · exact of_decide_eq_true (hsorted.2.1.1 d hd)

theorem append_inj_of_boost {boost : Nat} {a b above below : List Candidate}
    (h : a ++ b = above ++ below) (ha : ∀ d ∈ a, boost < d.boost) (hb : ∀ d ∈ b, d.boost ≤ boost)
    (habove : ∀ d ∈ above, boost < d.boost) (hbelow : ∀ d ∈ below, d.boost ≤ boost) :
    a = above ∧ b = below := by
  have hfirst : ∀ {x y : List Candidate}, (∀ d ∈ x, boost < d.boost) → (∀ d ∈ y, d.boost ≤ boost) →
      (x ++ y).filter (fun d => boost < d.boost) = x := by
    intro x y hx hy
    have hnone : y.filter (fun d => boost < d.boost) = [] :=
      List.filter_eq_nil_iff.2 fun d hd => by simpa using hy d hd
    rw [List.filter_append, List.filter_eq_self.2 fun d hd => decide_eq_true (hx d hd), hnone,
      List.append_nil]
  have hsame : a = above := by rw [← hfirst ha hb, h, hfirst habove hbelow]
  exact ⟨hsame, List.append_cancel_left (hsame ▸ h)⟩

/-- Candidates of one boost keep their order, so it is the same to rank first and to filter first. -/
theorem filter_rank (p : Candidate → Bool) (cs : List Candidate) :
    (rank cs).filter p = rank (cs.filter p) := by
  induction cs with
  | nil => rw [rank, List.mergeSort_nil, List.filter_nil, rank, List.mergeSort_nil]
  | cons c cs ih =>
      obtain ⟨above, below, hcons, hrest, habove, hbelow⟩ := exists_rank_cons c cs
      rw [hrest, List.filter_append] at ih
      by_cases hp : p c = true
      · obtain ⟨a, b, hcons', hrest', ha, hb⟩ := exists_rank_cons c (cs.filter p)
        obtain ⟨rfl, rfl⟩ := append_inj_of_boost (hrest'.symm.trans ih.symm) ha hb
          (fun d hd => habove d (List.mem_filter.1 hd).1)
          (fun d hd => hbelow d (List.mem_filter.1 hd).1)
        rw [hcons, List.filter_append, List.filter_cons_of_pos hp, List.filter_cons_of_pos hp, hcons']
      · rw [hcons, List.filter_append, List.filter_cons_of_neg hp, List.filter_cons_of_neg hp, ih]

/-! ## Offers that a word narrows down -/

/-- In lower case, a field has the word in it, and any other label begins with the word. -/
def Fits (word : String) (c : Candidate) : Prop :=
  if c.kind = .field then lowerChars word.toList <:+: lowerChars c.label.toList
  else lowerChars word.toList <+: lowerChars c.label.toList

instance (word : String) : DecidablePred (Fits word) := fun c =>
  inferInstanceAs (Decidable (if c.kind = .field
    then lowerChars word.toList <:+: lowerChars c.label.toList
    else lowerChars word.toList <+: lowerChars c.label.toList))

/-- The offers for a word are those for no word, less the ones that do not fit it. -/
def Narrows (offers : String → List Candidate) : Prop :=
  ∀ word, offers word = (offers "").filter (Fits word)

theorem narrows_nil : Narrows fun _ => [] := fun _ => rfl

theorem Narrows.append {a b : String → List Candidate} (ha : Narrows a) (hb : Narrows b) :
    Narrows fun word => a word ++ b word := by
  intro word
  rw [List.filter_append, ← ha word, ← hb word]

theorem Narrows.ite {a b : String → List Candidate} (p : Prop) [Decidable p] (ha : Narrows a)
    (hb : Narrows b) : Narrows fun word => if p then a word else b word := by
  intro word
  by_cases hp : p
  · simpa only [if_pos hp] using ha word
  · simpa only [if_neg hp] using hb word

theorem narrows_table {α : Type} (entries : List α) (make : α → Candidate)
    (hmake : ∀ entry ∈ entries, (make entry).kind ≠ .field) :
    Narrows fun word =>
      (entries.filter fun entry => beginsWith (make entry).label word).map make := by
  have hall : ∀ label, beginsWith label "" = true := fun _ => rfl
  intro word
  simp only [hall, List.filter_true, List.filter_map]
  refine congrArg (List.map make) (List.filter_congr fun entry hentry => ?_)
  rw [Bool.eq_iff_iff, beginsWith, List.isPrefixOf_iff_prefix, Function.comp_apply,
    decide_eq_true_iff, Fits, if_neg (hmake entry hentry)]

theorem narrows_queryOffers : Narrows queryOffers :=
  narrows_table Queries.all (ofClause .queryType "query") fun _ _ h => nomatch h

theorem narrows_aggregationOffers : Narrows aggregationOffers :=
  narrows_table Aggregations.all (ofClause .aggType "aggregation") fun _ _ h => nomatch h

theorem narrows_propertyOffers {kind : CandidateKind} (hkind : kind ≠ .field)
    (properties : List Property) : Narrows (propertyOffers kind properties) :=
  narrows_table properties (ofProperty kind) fun _ _ => hkind

theorem narrows_snippetOffers : Narrows snippetOffers :=
  narrows_table snippets ofSnippet fun _ _ h => nomatch h

theorem narrows_valueOffers (values : List String) : Narrows (valueOffers values) :=
  narrows_table values ofValue fun _ _ h => nomatch h

section Parts

variable (ctx : Context)

theorem narrows_clauseOffers : Narrows (clauseOffers ctx) := by
  unfold clauseOffers
  split
  · exact narrows_propertyOffers (by decide) _
  · exact narrows_nil

theorem narrows_rootOffers : Narrows fun word => rootOffers ctx word true := by
  simp only [rootOffers, Bool.true_or, if_true]
  exact .ite _ narrows_nil
    ((narrows_propertyOffers (by decide) rootProperties).append narrows_snippetOffers)

theorem narrows_beforeColon {fields offers : String → List Candidate}
    (h : (ctx.afterColon && ctx.expectsField) = false) (hoffers : Narrows offers) :
    Narrows fun word =>
      if ctx.afterColon then (if ctx.expectsField then fields word else []) else offers word := by
  cases hcolon : ctx.afterColon with
  | false => exact hoffers
  | true =>
      rw [hcolon, Bool.true_and] at h
      simpa only [h, if_true, Bool.false_eq_true, if_false] using narrows_nil

theorem narrows_queryPartOffers (data : Option Snapshot)
    (h : (ctx.afterColon && ctx.expectsField) = false) :
    Narrows fun word => queryPartOffers ctx word data :=
  narrows_beforeColon ctx h (narrows_queryOffers.append (narrows_clauseOffers ctx))

theorem narrows_boolClauseOffers : Narrows (boolClauseOffers ctx) :=
  narrows_queryOffers.append (.ite _ narrows_nil (narrows_clauseOffers ctx))

theorem narrows_nestedAggs :
    Narrows fun word => if beginsWith nestedAggs.label word then [nestedAggs] else [] := by
  have htable := narrows_table [()] (fun _ => nestedAggs) fun _ _ h => nomatch h
  simpa only [List.filter_cons, List.filter_nil, apply_ite (List.map _), List.map_cons,
    List.map_nil] using htable

theorem narrows_aggDefOffers : Narrows (aggDefOffers ctx) := by
  apply narrows_nestedAggs.append
  split
  · exact .ite _ (narrows_propertyOffers (by decide) _) narrows_nil
  · exact narrows_nil

theorem narrows_aggsPartOffers (data : Option Snapshot)
    (h : (ctx.afterColon && ctx.expectsField) = false) :
    Narrows fun word => aggsPartOffers ctx word data :=
  narrows_beforeColon ctx h (narrows_aggregationOffers.append
    (.ite (ctx.kind = .aggDef) (narrows_aggDefOffers ctx) narrows_nil))

theorem narrows_unknownOffers (data : Option Snapshot) (h : ctx.afterColon = false) :
    Narrows fun word => unknownOffers ctx word data := by
  simp only [unknownOffers, h, Bool.false_eq_true, if_false]
  apply Narrows.append (.ite _ narrows_queryOffers narrows_nil)
  split
  · exact narrows_propertyOffers (by decide) _
  · exact narrows_nil

theorem narrows_candidates (h : listsFields ctx = false) (data : Option Snapshot) :
    Narrows fun word => candidates ctx word data true := by
  unfold listsFields at h
  unfold candidates
  cases hkind : ctx.kind <;> simp only [hkind] at h ⊢
  case root => exact narrows_rootOffers ctx
  case query => exact narrows_queryPartOffers ctx data h
  case bool => exact .ite _ narrows_nil (narrows_propertyOffers (by decide) boolClauses)
  case boolClause => exact narrows_boolClauseOffers ctx
  case aggs | aggDef => exact narrows_aggsPartOffers ctx data h
  case sort =>
    rw [Bool.not_eq_false'] at h
    simpa only [sortOffers, if_pos h] using narrows_valueOffers (enumValues "order")
  case highlight => exact .ite _ narrows_nil (narrows_propertyOffers (by decide) highlightOptions)
  case source =>
    simpa only [h, Bool.false_eq_true, if_false] using
      narrows_propertyOffers (by decide) sourceOptions
  case suggest => exact .ite _ narrows_nil (narrows_propertyOffers (by decide) suggestOptions)
  case value =>
    split
    · exact narrows_valueOffers _
    · exact narrows_nil
  case unknown => exact narrows_unknownOffers ctx data h
  case fieldValue => exact absurd h Bool.false_ne_true.symm

end Parts

/-! ## All that is on offer -/

/-- What is offered on request without a word, with all the fields where these are only the first. -/
def everyOffer (ctx : Context) (data : Option Snapshot) : List Candidate :=
  if listsFields ctx then knownFields data else candidates ctx "" data true

theorem candidates_without_word (ctx : Context) (data : Option Snapshot) :
    candidates ctx "" data true =
      if listsFields ctx then (everyOffer ctx data).take fieldLimit else everyOffer ctx data := by
  cases h : listsFields ctx with
  | true => simp only [everyOffer, h, if_true, candidates_eq_fieldOffers h, fieldOffers_empty]
  | false => simp only [everyOffer, h, Bool.false_eq_true, if_false]

theorem candidates_eq_filter {word : String} (hword : word ≠ "") (ctx : Context)
    (data : Option Snapshot) :
    candidates ctx word data true = (everyOffer ctx data).filter (Fits word) := by
  cases h : listsFields ctx with
  | true =>
      rw [everyOffer, if_pos h, candidates_eq_fieldOffers h, fieldOffers_eq_filter hword]
      refine List.filter_congr fun c hc => ?_
      rw [Bool.eq_iff_iff, containsWord, hasInfix_iff, decide_eq_true_iff, Fits,
        if_pos (kind_of_mem_knownFields hc)]
  | false =>
      rw [everyOffer, if_neg (by rw [h]; decide)]
      exact narrows_candidates ctx h data word

theorem provide_explicit (text : String) (cursor : Int) (data : Option Snapshot) :
    provide text cursor data true = some ⟨wordStart (before text cursor),
      rank (candidates (contextAt text cursor) (currentWord text cursor) data true)⟩ := by
  obtain ⟨found, h⟩ : ∃ found, provide text cursor data true = some found := by
    simp only [provide, provideIn, Bool.not_true, Bool.and_false, Bool.false_eq_true, if_false]
    exact ⟨_, rfl⟩
  rw [h, eq_of_provide h]

/-- For a word, what comes on request is all that the context has to offer, ranked, less what does not
fit the word. Without a word, it is all of that but for the fields beyond the limit. -/
theorem provide_eq_filter {text : String} {cursor : Int} (h : currentWord text cursor ≠ "")
    (data : Option Snapshot) :
    provide text cursor data true = some ⟨wordStart (before text cursor),
        (rank (everyOffer (contextAt text cursor) data)).filter (Fits (currentWord text cursor))⟩ ∧
      candidates (contextAt text cursor) "" data true =
        if listsFields (contextAt text cursor) then
          (everyOffer (contextAt text cursor) data).take fieldLimit
        else everyOffer (contextAt text cursor) data := by
  refine ⟨?_, candidates_without_word _ data⟩
  rw [provide_explicit, candidates_eq_filter h, filter_rank]

def matchBody : String := "\x7b\"query\":\x7b\"match\":\x7b\"title\":\x7bF"

theorem provide_eq_filter_matchBody :
    currentWord matchBody 29 = "F" ∧ "F" ≠ "" ∧ (contextAt matchBody 29).kind = .query ∧
      provide matchBody 29 none true =
        some ⟨28, (rank (everyOffer (contextAt matchBody 29) none)).filter (Fits "F")⟩ ∧
      candidates (contextAt matchBody 29) "" none true = everyOffer (contextAt matchBody 29) none := by
  have hword : currentWord matchBody 29 = "F" := by decide
  have hne : "F" ≠ "" := by decide
  have hstart : wordStart (before matchBody 29) = 28 := by decide
  have hfields : listsFields (contextAt matchBody 29) = false := by decide +kernel
  have htyped : currentWord matchBody 29 ≠ "" := by rw [hword]; exact hne
  have hfilter := provide_eq_filter htyped none
  rw [hword, hstart, hfields] at hfilter
  exact ⟨hword, hne, by decide +kernel, hfilter.1, hfilter.2⟩

end QueryAssist.Completion
