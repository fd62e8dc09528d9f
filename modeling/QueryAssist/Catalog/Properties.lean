import QueryAssist.Catalog.Basic
/-!
# Properties

The keys of a search body and of the bodies in it, and the values of keys that take one of a few.
-/

namespace QueryAssist.Catalog

def rootProperties : List Property := [
  ⟨"query", "Query DSL", "Define the search query"⟩,
  ⟨"aggs", "Aggregations", "Define aggregations"⟩,
  ⟨"aggregations", "Aggregations", "Alias for aggs"⟩,
  ⟨"size", "number", "Number of hits to return"⟩,
  ⟨"from", "number", "Starting offset for results"⟩,
  ⟨"sort", "array", "Sort order for results"⟩,
  ⟨"_source", "array/object", "Control source fields returned"⟩,
  ⟨"highlight", "object", "Highlight matching text"⟩,
  ⟨"suggest", "object", "Suggester configuration"⟩,
  ⟨"track_total_hits", "boolean/number", "Track accurate hit count"⟩,
  ⟨"timeout", "string", "Search timeout (e.g., '10s')"⟩,
  ⟨"terminate_after", "number", "Max docs to collect per shard"⟩,
  ⟨"min_score", "number", "Minimum score threshold"⟩,
  ⟨"explain", "boolean", "Include score explanation"⟩,
  ⟨"version", "boolean", "Include document version"⟩,
  ⟨"seq_no_primary_term", "boolean", "Include sequence number"⟩,
  ⟨"stored_fields", "array", "Return stored fields"⟩,
  ⟨"docvalue_fields", "array", "Return doc values"⟩,
  ⟨"script_fields", "object", "Compute fields via scripts"⟩,
  ⟨"indices_boost", "array", "Boost specific indices"⟩,
  ⟨"collapse", "object", "Collapse results by field"⟩,
  ⟨"search_after", "array", "Pagination cursor"⟩,
  ⟨"pit", "object", "Point in time for deep pagination"⟩,
  ⟨"runtime_mappings", "object", "Runtime field definitions"⟩]

def boolClauses : List Property := [
  ⟨"must", "array", "All clauses must match (AND)"⟩,
  ⟨"filter", "array", "Must match, no scoring"⟩,
  ⟨"should", "array", "At least one should match (OR)"⟩,
  ⟨"must_not", "array", "Must not match (NOT)"⟩,
  ⟨"minimum_should_match", "number/string", "Minimum matching should clauses"⟩,
  ⟨"boost", "number", "Boost this query's score"⟩]

def highlightOptions : List Property := [
  ⟨"fields", "object", "Fields to highlight"⟩,
  ⟨"pre_tags", "array", "Tags inserted before highlighted text"⟩,
  ⟨"post_tags", "array", "Tags inserted after highlighted text"⟩,
  ⟨"require_field_match", "boolean", "Only highlight fields that matched"⟩,
  ⟨"type", "string", "Highlighter type (unified, plain, fvh)"⟩]

def sourceOptions : List Property := [
  ⟨"includes", "array", "Fields to include"⟩,
  ⟨"excludes", "array", "Fields to exclude"⟩]

def suggestOptions : List Property := [
  ⟨"text", "string", "Text shared by all suggesters"⟩,
  ⟨"term", "object", "Term suggester"⟩,
  ⟨"phrase", "object", "Phrase suggester"⟩,
  ⟨"completion", "object", "Completion suggester"⟩]

def boolClauseNames : List String :=
  ["must", "should", "filter", "must_not"]

/-- The options of clauses for which the required and optional keys do not say enough. -/
def detailedOptions : List (String × List Property) := [
  ("match", [
    ⟨"query", "string", "Text to search for"⟩,
    ⟨"operator", "string", "and/or for multiple terms"⟩,
    ⟨"fuzziness", "string", "Edit distance for fuzzy matching"⟩,
    ⟨"prefix_length", "number", "Characters that must match exactly"⟩,
    ⟨"max_expansions", "number", "Maximum fuzzy expansions"⟩,
    ⟨"analyzer", "string", "Analyzer to use"⟩,
    ⟨"boost", "number", "Query boost factor"⟩,
    ⟨"lenient", "boolean", "Ignore type mismatches"⟩,
    ⟨"zero_terms_query", "string", "none/all for empty query"⟩,
    ⟨"auto_generate_synonyms_phrase_query", "boolean", "Use synonyms"⟩]),
  ("range", [
    ⟨"gte", "value", "Greater than or equal"⟩,
    ⟨"gt", "value", "Greater than"⟩,
    ⟨"lte", "value", "Less than or equal"⟩,
    ⟨"lt", "value", "Less than"⟩,
    ⟨"format", "string", "Date format"⟩,
    ⟨"time_zone", "string", "Time zone for date parsing"⟩,
    ⟨"boost", "number", "Query boost factor"⟩,
    ⟨"relation", "string", "Range relation for ranges"⟩]),
  ("terms", [
    ⟨"boost", "number", "Query boost factor"⟩]),
  ("multi_match", [
    ⟨"query", "string", "Text to search for"⟩,
    ⟨"fields", "array", "Fields to search"⟩,
    ⟨"type", "string", "Match type (best_fields, most_fields, etc.)"⟩,
    ⟨"operator", "string", "and/or for multiple terms"⟩,
    ⟨"tie_breaker", "number", "Tie breaker for scoring"⟩,
    ⟨"fuzziness", "string", "Edit distance for fuzzy matching"⟩,
    ⟨"analyzer", "string", "Analyzer to use"⟩])]

def enumerations : List (String × List String) := [
  ("order", ["asc", "desc"]),
  ("type", ["best_fields", "most_fields", "cross_fields", "phrase", "phrase_prefix"]),
  ("operator", ["and", "or", "AND", "OR"]),
  ("zero_terms_query", ["none", "all"]),
  ("mode", ["min", "max", "avg", "sum", "median"]),
  ("missing", ["_first", "_last"]),
  ("execution", ["fielddata"]),
  ("relation", ["intersects", "contains", "within", "disjoint"]),
  ("score_mode", ["multiply", "sum", "avg", "first", "max", "min"]),
  ("boost_mode", ["multiply", "replace", "sum", "avg", "max", "min"]),
  ("distance_type", ["arc", "plane"]),
  ("gap_policy", ["skip", "insert_zeros"])]

end QueryAssist.Catalog
