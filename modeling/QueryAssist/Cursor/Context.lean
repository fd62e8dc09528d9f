import QueryAssist.Catalog.Lookup
import QueryAssist.Cursor.Word
/-!
# Context of the cursor

The part of a search body that the cursor is in, and what may come there. The key of a value decides
first, then the innermost keyword on the path, then any clause on it.
-/

namespace QueryAssist.Cursor

open Catalog

inductive ContextKind
  | root
  | query
  | bool
  | boolClause
  | aggs
  | aggDef
  | sort
  | highlight
  | source
  | suggest
  | fieldValue
  | value
  | unknown
  deriving DecidableEq, Repr

def ContextKind.name : ContextKind → String
  | root => "root"
  | query => "query"
  | bool => "bool"
  | boolClause => "bool_clause"
  | aggs => "aggs"
  | aggDef => "agg_def"
  | sort => "sort"
  | highlight => "highlight"
  | source => "source"
  | suggest => "suggest"
  | fieldValue => "field_value"
  | value => "value"
  | unknown => "unknown"

/-- The keys on a path that say which part of a search body they lead to. -/
def keywords : List (String × ContextKind) := [
  ("query", .query),
  ("bool", .bool),
  ("must", .boolClause),
  ("should", .boolClause),
  ("filter", .boolClause),
  ("must_not", .boolClause),
  ("aggs", .aggs),
  ("aggregations", .aggs),
  ("sort", .sort),
  ("highlight", .highlight),
  ("_source", .source),
  ("suggest", .suggest)]

def fieldKeys : List String :=
  ["field", "path", "nested_path", "_source", "stored_fields", "docvalue_fields", "collapse"]

def valueKeys : List String :=
  ["order", "type", "operator", "zero_terms_query", "mode", "missing", "execution", "relation"]

/-- The innermost keyword decides; the path begins with its innermost key. Right below "aggs" keys
are names of aggregations, so anything deeper is the definition of one. -/
def innermostKeyword? : List String → Option ContextKind
  | [] => none
  | last :: outer =>
      (keywords.lookup last).or
        ((outer.findSome? fun key => keywords.lookup key).map fun kind =>
          if kind = .aggs then .aggDef else kind)

def isClauseName (key : String) : Bool :=
  queryNames.contains key || boolClauseNames.contains key

def classify (path : List String) (currentKey : Option String) (afterColon : Bool) : ContextKind :=
  if path.isEmpty then .root
  else if afterColon && currentKey.any fieldKeys.contains then .fieldValue
  else if afterColon && currentKey.any valueKeys.contains then .value
  else
    (innermostKeyword? path.reverse).getD (if path.any isClauseName then .query else .unknown)

def hints : ContextKind → Option (List String)
  | .bool => some ["must", "should", "filter", "must_not", "minimum_should_match", "boost"]
  | .query => some ["match", "term", "bool", "range", "exists", "prefix", "wildcard"]
  | .aggs => some ["terms", "histogram", "date_histogram", "avg", "sum", "min", "max"]
  | .sort => some ["asc", "desc", "order", "mode", "missing"]
  | _ => none

def expectedTypes (kind : ContextKind) (currentKey : Option String) : Option (List String) :=
  (currentKey.bind fun key => enumerations.lookup key).or (hints kind)

structure Context where
  kind : ContextKind
  path : List String
  currentKey : Option String
  inArray : Bool
  depth : Nat
  cursor : Nat
  word : String
  inString : Bool
  afterColon : Bool
  deriving DecidableEq, Repr

namespace Context

def after (cs : List Char) : Context :=
  let place := (Registers.run cs).place
  let afterColon := endsAfterColon cs || place.expectingValue
  { kind := classify place.path place.currentKey afterColon
    path := place.path
    currentKey := place.currentKey
    inArray := place.inArray
    depth := place.depth
    cursor := cs.length
    word := String.ofList (wordEnding cs)
    inString := endsInString cs
    afterColon := afterColon }

def parentKey (ctx : Context) : Option String :=
  ctx.path.getLast?

def expected (ctx : Context) : Option (List String) :=
  expectedTypes ctx.kind ctx.currentKey

def parentQuery (ctx : Context) : Option String :=
  ctx.path.reverse.find? queryNames.contains

def parentAggregation (ctx : Context) : Option String :=
  ctx.path.reverse.find? aggregationNames.contains

/-- In an unknown part a query may come as long as no aggregation is around it. -/
def canAddQuery (ctx : Context) : Bool :=
  match ctx.kind with
  | .query | .boolClause => true
  | .unknown => !ctx.afterColon && ctx.parentAggregation.isNone
  | .root => !ctx.afterColon
  | _ => false

def canAddAggregation (ctx : Context) : Bool :=
  ctx.kind = .aggs || ctx.kind = .aggDef

def expectsField (ctx : Context) : Bool :=
  ctx.kind = .fieldValue || (ctx.afterColon && ctx.currentKey.any fieldKeys.contains)

end Context

def contextAt (text : String) (cursor : Int) : Context :=
  .after (before text cursor)

end QueryAssist.Cursor
