import QueryAssist.Proofs.Completion.Provide
import QueryAssist.Proofs.Text.Lower
/-!
# Where fields are offered

A context offers either fields and nothing else, or no field at all, whatever fields there are.
-/

namespace QueryAssist.Completion

open Catalog Cursor

variable {ctx : Context} {word : String} {data : Option Snapshot} {explicit : Bool} {c : Candidate}

def fieldWanted : String :=
  "\x7b\"query\":\x7b\"exists\":\x7b\"field\":"

/-- Some field may come up in a context, for some word and some fields. -/
def OffersFields (ctx : Context) : Prop :=
  ∃ word data explicit, ∃ c ∈ candidates ctx word data explicit, c.kind = .field

/-- The contexts in which the offers are the fields. -/
def listsFields (ctx : Context) : Bool :=
  match ctx.kind with
  | .fieldValue => true
  | .sort => !(ctx.afterColon && ctx.currentKey.any (· != "sort"))
  | .source | .unknown => ctx.afterColon
  | .query | .aggs | .aggDef => ctx.afterColon && ctx.expectsField
  | .root | .bool | .boolClause | .highlight | .suggest | .value => false

theorem listsFields_of_not_afterColon (h : ctx.afterColon = false) :
    listsFields ctx = decide (ctx.kind = .fieldValue ∨ ctx.kind = .sort) := by
  unfold listsFields
  cases ctx.kind <;> simp [h]

theorem candidates_eq_fieldOffers (h : listsFields ctx = true) :
    candidates ctx word data explicit = fieldOffers data word := by
  unfold listsFields at h
  unfold candidates
  cases hkind : ctx.kind <;> simp only [hkind] at h ⊢
  case query =>
    rw [Bool.and_eq_true] at h
    rw [queryPartOffers, if_pos h.1, if_pos h.2]
  case aggs | aggDef =>
    rw [Bool.and_eq_true] at h
    rw [aggsPartOffers, if_pos h.1, if_pos h.2]
  case sort =>
    rw [Bool.not_eq_true'] at h
    rw [sortOffers, if_neg (by rw [h]; decide)]
  case source => rw [if_pos h]
  case unknown => rw [unknownOffers, if_pos h]
  case root | bool | boolClause | highlight | suggest | value => exact absurd h Bool.false_ne_true

theorem candidates_eq_of_not_listsFields (h : listsFields ctx = false) :
    candidates ctx word data explicit = candidates ctx word none explicit := by
  unfold listsFields at h
  unfold candidates
  cases hkind : ctx.kind <;> simp only [hkind] at h ⊢
  case query =>
    rw [queryPartOffers, queryPartOffers]
    cases hcolon : ctx.afterColon <;> simp_all
  case aggs | aggDef =>
    rw [aggsPartOffers, aggsPartOffers]
    cases hcolon : ctx.afterColon <;> simp_all
  case sort => rw [sortOffers, sortOffers, if_pos (by simpa using h), if_pos (by simpa using h)]
  case source => rw [h]; rfl
  case unknown => rw [unknownOffers, unknownOffers, h]; rfl
  case fieldValue => exact absurd h Bool.false_ne_true.symm

theorem kind_ne_field_of_offered_none (h : Offered none c) : c.kind ≠ .field := by
  cases h with
  | part hkind _ _ => rintro rfl; simp at hkind
  | field hdata _ => exact absurd hdata.symm (Option.some_ne_none _)
  | _ => exact fun h => by cases h

theorem kind_ne_field_of_mem_candidates (h : listsFields ctx = false)
    (hc : c ∈ candidates ctx word data explicit) : c.kind ≠ .field := by
  rw [candidates_eq_of_not_listsFields h] at hc
  exact kind_ne_field_of_offered_none (offered_of_mem_candidates hc)

theorem listsFields_of_mem_candidates (hc : c ∈ candidates ctx word data explicit)
    (hkind : c.kind = .field) : listsFields ctx = true := by
  by_contra h
  exact kind_ne_field_of_mem_candidates (eq_false_of_ne_true h) hc hkind

def keywordFields (names : List String) : Snapshot :=
  ⟨[("index", names.map fun name => ⟨name, .keyword, .null, false, []⟩)], [], []⟩

theorem offersFields_iff : OffersFields ctx ↔ listsFields ctx = true := by
  constructor
  · rintro ⟨word, data, explicit, c, hc, hkind⟩
    exact listsFields_of_mem_candidates hc hkind
  · intro h
    have hmem : fieldOffer "a" 85 "keyword" none ∈ fieldOffers (some (keywordFields ["a"])) "" := by
      decide
    refine ⟨"", some (keywordFields ["a"]), false, fieldOffer "a" 85 "keyword" none, ?_, rfl⟩
    rw [candidates_eq_fieldOffers h]
    exact hmem

/-! ## The fields for a word -/

def knownFields (data : Option Snapshot) : List Candidate :=
  (data.map allFieldOffers).getD []

theorem fieldOffers_empty : fieldOffers data "" = (knownFields data).take fieldLimit := rfl

theorem fieldOffers_eq_filter (hword : word ≠ "") :
    fieldOffers data word = (knownFields data).filter fun c => Text.containsWord c.label word := by
  have hempty : ¬word.isEmpty = true := by rwa [String.isEmpty_iff]
  simp only [fieldOffers, if_neg hempty, knownFields]

theorem mem_fieldOffers_iff (hword : word ≠ "") :
    c ∈ fieldOffers data word ↔ c ∈ knownFields data ∧ Text.containsWord c.label word = true := by
  rw [fieldOffers_eq_filter hword]
  exact List.mem_filter

theorem mem_knownFields_of_mem_fieldOffers (h : c ∈ fieldOffers data word) :
    c ∈ knownFields data := by
  by_cases hword : word = ""
  · rw [hword, fieldOffers_empty] at h
    exact List.mem_of_mem_take h
  · exact ((mem_fieldOffers_iff hword).1 h).1

theorem kind_of_mem_knownFields (h : c ∈ knownFields data) : c.kind = .field := by
  cases data with
  | none => exact absurd h List.not_mem_nil
  | some snapshot =>
      obtain ⟨path, boost, detail, info, rfl⟩ := exists_fieldOffer_of_mem_allFieldOffers h
      rfl

theorem kind_of_mem_fieldOffers (h : c ∈ fieldOffers data word) : c.kind = .field :=
  kind_of_mem_knownFields (mem_knownFields_of_mem_fieldOffers h)

/-- What is offered for a word is offered for its beginnings, but for the fields beyond the limit where
the beginning is empty, and for words that a sigma ends. -/
theorem mem_fieldOffers_of_append {typed : String} (h : c ∈ fieldOffers data (word ++ typed)) :
    c ∈ fieldOffers data word ∨ (word = "" ∧ c ∈ (knownFields data).drop fieldLimit) ∨
      Text.SigmaTurns word.toList typed.toList := by
  have hmem := mem_knownFields_of_mem_fieldOffers h
  by_cases hword : word = ""
  · rw [← List.take_append_drop fieldLimit (knownFields data), List.mem_append] at hmem
    rcases hmem with hmem | hmem
    · rw [hword, fieldOffers_empty]
      exact .inl hmem
    · exact .inr (.inl ⟨hword, hmem⟩)
  · by_cases hsigma : Text.SigmaTurns word.toList typed.toList
    · exact .inr (.inr hsigma)
    · have hlonger : word ++ typed ≠ "" := by simp [hword]
      have hcontains := ((mem_fieldOffers_iff hlonger).1 h).2
      exact .inl ((mem_fieldOffers_iff hword).2
        ⟨hmem, Text.containsWord_of_append hcontains hsigma⟩)

end QueryAssist.Completion
