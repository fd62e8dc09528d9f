import QueryAssist.Completion.Offer
import QueryAssist.Cursor.Context
/-!
# Completions

What is offered in each part of a search body, in order of boost. In a string, completions come only
on request, and without a request there is no empty list.
-/

namespace QueryAssist.Completion

open Catalog Cursor

def isKeyword (key : String) : Bool :=
  (keywords.lookup key).isSome

/-- The clause with one of some names around the cursor, below the last keyword. The cursor is in
its body or in that of a field in it, so only the last two keys of the path count. -/
def enclosingClause (path names : List String) : Option String :=
  ((path.reverse.take 2).find? fun key => isKeyword key || names.contains key).filter fun key =>
    !isKeyword key

def clauseOffers (ctx : Context) (word : String) : List Candidate :=
  match enclosingClause ctx.path queryNames with
  | some clause => propertyOffers .property (clauseOptions clause false) word
  | none => []

/-- Snippets do not come up uninvited before two characters are typed. -/
def rootOffers (ctx : Context) (word : String) (explicit : Bool) : List Candidate :=
  if ctx.afterColon then []
  else
    propertyOffers .property rootProperties word ++
      if explicit || 2 ≤ word.length then snippetOffers word else []

def queryPartOffers (ctx : Context) (word : String) (data : Option Snapshot) : List Candidate :=
  if ctx.afterColon then (if ctx.expectsField then fieldOffers data word else [])
  else queryOffers word ++ clauseOffers ctx word

/-- The elements of a bool clause are queries, also right after its colon. -/
def boolClauseOffers (ctx : Context) (word : String) : List Candidate :=
  queryOffers word ++ if ctx.afterColon then [] else clauseOffers ctx word

def nestedAggs : Candidate :=
  { label := "aggs"
    kind := .property
    boost := CandidateKind.property.boost
    detail := some "Nested aggregations"
    info := none
    apply := some (keyText "aggs")
    template := none }

def aggDefOffers (ctx : Context) (word : String) : List Candidate :=
  (if Text.beginsWith nestedAggs.label word then [nestedAggs] else []) ++
    match ctx.parentAggregation with
    | some agg =>
        if ctx.path.getLast? = some agg then propertyOffers .property (clauseOptions agg true) word
        else []
    | none => []

def aggsPartOffers (ctx : Context) (word : String) (data : Option Snapshot) : List Candidate :=
  if ctx.afterColon then (if ctx.expectsField then fieldOffers data word else [])
  else aggregationOffers word ++ if ctx.kind = .aggDef then aggDefOffers ctx word else []

def sortOffers (ctx : Context) (word : String) (data : Option Snapshot) : List Candidate :=
  if ctx.afterColon && ctx.currentKey.any (· != "sort") then valueOffers (enumValues "order") word
  else fieldOffers data word

def unknownOffers (ctx : Context) (word : String) (data : Option Snapshot) : List Candidate :=
  if ctx.afterColon then fieldOffers data word
  else
    (if ctx.canAddQuery then queryOffers word else []) ++
      match ctx.parentAggregation with
      | some agg => propertyOffers .property (clauseOptions agg true) word
      | none => []

/-- The candidates for a word in a context, those of one boost in the order of the catalog. -/
def candidates (ctx : Context) (word : String) (data : Option Snapshot) (explicit : Bool) :
    List Candidate :=
  match ctx.kind with
  | .root => rootOffers ctx word explicit
  | .query => queryPartOffers ctx word data
  | .bool => if ctx.afterColon then [] else propertyOffers .keyword boolClauses word
  | .boolClause => boolClauseOffers ctx word
  | .aggs | .aggDef => aggsPartOffers ctx word data
  | .sort => sortOffers ctx word data
  | .highlight => if ctx.afterColon then [] else propertyOffers .property highlightOptions word
  | .source =>
      if ctx.afterColon then fieldOffers data word
      else propertyOffers .property sourceOptions word
  | .suggest => if ctx.afterColon then [] else propertyOffers .property suggestOptions word
  | .fieldValue => fieldOffers data word
  | .value =>
      match ctx.currentKey with
      | some key => valueOffers (enumValues key) word
      | none => []
  | .unknown => unknownOffers ctx word data

structure Completions where
  start : Nat
  options : List Candidate
  deriving DecidableEq, Repr

def rank (cs : List Candidate) : List Candidate :=
  cs.mergeSort fun a b => decide (b.boost ≤ a.boost)

def provideIn (ctx : Context) (data : Option Snapshot) (explicit : Bool) : Option Completions :=
  if ctx.inString && !explicit then none
  else
    let cs := candidates ctx ctx.word data explicit
    if cs.isEmpty && !explicit then none
    else some ⟨ctx.cursor - ctx.word.length, rank cs⟩

def provide (text : String) (cursor : Int) (data : Option Snapshot) (explicit : Bool) :
    Option Completions :=
  provideIn (contextAt text cursor) data explicit

end QueryAssist.Completion
