import QueryAssist.Proofs.Completion.Accept
import QueryAssist.Proofs.Completion.Fields
import QueryAssist.Proofs.Cursor.Kinds
/-!
# Where kinds of candidates come up

Each kind of candidate has its contexts. Values come behind a colon and keys before one, but for the
queries in a bool clause. Where the key before the colon takes a field, the fields come and nothing
else, except at the root.
-/

namespace QueryAssist.Completion

open Catalog Cursor

/-! ## Kinds of candidates -/

def Admits (ctx : Context) : CandidateKind → Prop
  | .queryType => ctx.canAddQuery = true ∧ (ctx.afterColon = true → ctx.kind = .boolClause)
  | .aggType => ctx.canAddAggregation = true ∧ ctx.afterColon = false
  | .keyword => ctx.kind = .bool ∧ ctx.afterColon = false
  | .snippet => ctx.kind = .root ∧ ctx.afterColon = false
  | .property => ctx.afterColon = false
  | .value => ctx.afterColon = true ∧ (ctx.kind = .value ∨ BehindSortField ctx)
  | .field => ctx.kind = .fieldValue ∨ ctx.kind = .sort ∨
      (ctx.afterColon = true ∧ (ctx.kind = .source ∨ ctx.kind = .unknown))

section Candidates

variable {ctx : Context} {word : String} {data : Option Snapshot} {explicit : Bool} {c : Candidate}

theorem admits_field (hctx : ctx.IsClassified) (h : listsFields ctx = true) : Admits ctx .field := by
  have hpart : ctx.kind ∉ keyedKinds → (ctx.afterColon && ctx.expectsField) = true → False := by
    intro hkind hfield
    rw [hctx.not_expectsField hkind, Bool.and_false] at hfield
    exact Bool.false_ne_true hfield
  unfold listsFields at h
  cases hkind : ctx.kind <;> simp only [hkind] at h hpart
  case fieldValue => exact .inl hkind
  case sort => exact .inr (.inl hkind)
  case source => exact .inr (.inr ⟨h, .inl hkind⟩)
  case unknown => exact .inr (.inr ⟨h, .inr hkind⟩)
  case query | aggs | aggDef => exact (hpart (by decide) h).elim
  case root | bool | boolClause | highlight | suggest | value => exact absurd h Bool.false_ne_true

theorem admits_of_mem_candidates (hctx : ctx.IsClassified)
    (h : c ∈ candidates ctx word data explicit) : Admits ctx c.kind := by
  cases placed_of_mem_candidates h with
  | query _ hadd hplace =>
      refine ⟨hadd, fun hcolon => hplace.resolve_left ?_⟩
      rw [hcolon]
      decide
  | aggregation _ hadd hcolon => exact ⟨hadd, hcolon⟩
  | keyword _ hbool hcolon => exact ⟨hbool, hcolon⟩
  | part _ _ hcolon => exact hcolon
  | option _ hcolon => exact hcolon
  | nestedAggs hcolon => exact hcolon
  | snippet _ hroot hcolon => exact ⟨hroot, hcolon⟩
  | value _ hplace =>
      refine ⟨?_, hplace⟩
      rcases hplace with hvalue | ⟨-, hcolon, -⟩
      · exact hctx.afterColon_of_value hvalue
      · exact hcolon
  | field hdata hmem =>
      have hknown : c ∈ knownFields data := by
        rw [hdata]
        exact hmem
      have hkind := kind_of_mem_knownFields hknown
      have hfields := listsFields_of_mem_candidates h hkind
      rw [hkind]
      exact admits_field hctx hfields

end Candidates

/-! ## In a text -/

/-- Every option is of a kind that the context at the cursor admits, and no field is awaited in a query,
in aggregations or in the definition of one. -/
theorem admits_of_mem_options (text : String) (cursor : Int) :
    (∀ data explicit found, provide text cursor data explicit = some found →
      ∀ c ∈ found.options, Admits (contextAt text cursor) c.kind) ∧
    ((contextAt text cursor).kind ∈ [.query, .aggs, .aggDef] →
      (contextAt text cursor).expectsField = false) := by
  have hctx := Context.isClassified_contextAt text cursor
  constructor
  · intro data explicit found h c hc
    exact admits_of_mem_candidates hctx ((mem_options_of_provide h).1 hc)
  · intro hkind
    apply hctx.not_expectsField
    revert hkind
    cases (contextAt text cursor).kind <;> decide

def aggBody : String := "\x7b\"aggs\":\x7b\"a\":\x7b"

theorem admits_of_mem_options_aggBody :
    ∃ found, provide aggBody 14 none false = some found ∧ nestedAggs ∈ found.options ∧
      (∀ c ∈ found.options, Admits (contextAt aggBody 14) c.kind) ∧
      (contextAt aggBody 14).kind = .aggDef ∧ (contextAt aggBody 14).expectsField = false := by
  have hadmits := admits_of_mem_options aggBody 14
  have hkind : (contextAt aggBody 14).kind = .aggDef := by decide +kernel
  obtain ⟨found, h⟩ : ∃ found, provide aggBody 14 none false = some found :=
    Option.isSome_iff_exists.1 (by decide +kernel)
  have hnested : nestedAggs ∈ found.options := (mem_options_of_provide h).2 (by decide +kernel)
  exact ⟨found, h, hnested, hadmits.1 none false found h, hkind, hadmits.2 (by rw [hkind]; decide)⟩

/-- Where a field is awaited, all that comes up are the fields for the word, except at the root of a
search body. What comes up there are keys, and behind a colon nothing. -/
theorem candidates_of_expectsField {text : String} {cursor : Int}
    (h : (contextAt text cursor).expectsField = true) (data : Option Snapshot) (explicit : Bool) :
    ((contextAt text cursor).path ≠ [] →
      (contextAt text cursor).kind = .fieldValue ∧
        candidates (contextAt text cursor) (currentWord text cursor) data explicit =
          fieldOffers data (currentWord text cursor)) ∧
    ((contextAt text cursor).path = [] →
      (contextAt text cursor).kind = .root ∧
        candidates (contextAt text cursor) (currentWord text cursor) data explicit = []) := by
  have hctx := Context.isClassified_contextAt text cursor
  have hcolon := hctx.afterColon_of_expectsField h
  rcases hctx.kind_of_expectsField h with ⟨hpath, hkind⟩ | ⟨hpath, hkind⟩
  · refine ⟨fun hne => absurd hpath hne, fun _ => ⟨hkind, ?_⟩⟩
    simp only [candidates, hkind, rootOffers, hcolon, if_true]
  · refine ⟨fun _ => ⟨hkind, ?_⟩, fun hempty => absurd hempty hpath⟩
    simp only [candidates, hkind]

theorem candidates_of_expectsField_word :
    (contextAt (fieldWanted ++ "us") 30).expectsField = true ∧
      (contextAt (fieldWanted ++ "us") 30).path ≠ [] ∧
      candidates (contextAt (fieldWanted ++ "us") 30) "us"
        (some (keywordFields ["user", "bus", "size"])) false =
          fieldOffers (some (keywordFields ["user", "bus", "size"])) "us" := by
  have hfield : (contextAt (fieldWanted ++ "us") 30).expectsField = true := by decide +kernel
  have hpath : (contextAt (fieldWanted ++ "us") 30).path ≠ [] := by decide +kernel
  exact ⟨hfield, hpath, ((candidates_of_expectsField hfield _ false).1 hpath).2⟩

/-- At the root a key that takes fields has none on offer behind its colon. -/
theorem no_fields_at_root :
    (contextAt "\x7b\"_source\":" 11).expectsField = true ∧
      currentWord "\x7b\"_source\":" 11 = "" ∧
      candidates (contextAt "\x7b\"_source\":" 11) "" (some (keywordFields ["a"])) false = [] ∧
      fieldOffers (some (keywordFields ["a"])) "" = [fieldOffer "a" 85 "keyword" none] := by
  decide +kernel

end QueryAssist.Completion
