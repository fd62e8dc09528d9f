import QueryAssist.Catalog.Basic
/-!
# Queries

The query clauses by category. Their order is the order in which they are offered.
-/

namespace QueryAssist.Catalog.Queries

def fullText : List Clause := [
  .of "match" "full_text" "Standard full-text search with analysis"
    (.object [.entry [.slot 1 "field"] (.quoted [.slot 2 "text"])])
    ["query"] ["operator", "fuzziness", "prefix_length", "analyzer", "boost"],
  .of "match_phrase" "full_text" "Match exact phrase in order"
    (.object [.entry [.slot 1 "field"] (.quoted [.slot 2 "phrase"])])
    [] ["slop", "analyzer", "boost"],
  .of "match_phrase_prefix" "full_text" "Match phrase with prefix on last term"
    (.object [.entry [.slot 1 "field"] (.quoted [.slot 2 "prefix"])])
    [] ["max_expansions", "slop", "analyzer"],
  .of "multi_match" "full_text" "Search multiple fields"
    (.objectBlock [
      .entry ["query"] (.quoted [.slot 1 "text"]),
      .entry ["fields"] (.array [.quoted [.slot 2 "field1"], .quoted [.slot 3 "field2"]])])
    ["query", "fields"] ["type", "operator", "tie_breaker", "fuzziness"],
  .of "query_string" "full_text" "Lucene query syntax"
    (.objectBlock [
      .entry ["query"] (.quoted [.slot 1 "field:value AND other"]),
      .entry ["default_field"] (.quoted [.slot 2 "content"])])
    ["query"] ["default_field", "fields", "default_operator", "analyzer"],
  .of "simple_query_string" "full_text" "Simple query syntax for users"
    (.objectBlock [
      .entry ["query"] (.quoted [.slot 1 "text"]),
      .entry ["fields"] (.array [.quoted [.slot 2 "field"]])])
    ["query"] ["fields", "default_operator", "flags"],
  .of "combined_fields" "full_text" "Search across multiple fields as one"
    (.objectBlock [
      .entry ["query"] (.quoted [.slot 1 "text"]),
      .entry ["fields"] (.array [.quoted [.slot 2 "field1"], .quoted [.slot 3 "field2"]])])
    ["query", "fields"] ["operator", "minimum_should_match"]]

def termLevel : List Clause := [
  .of "term" "term_level" "Exact value match (no analysis)"
    (.object [.entry [.slot 1 "field"] (.quoted [.slot 2 "value"])])
    [] ["boost", "case_insensitive"],
  .of "terms" "term_level" "Match any of multiple values"
    (.object [
      .entry [.slot 1 "field"] (.array [.quoted [.slot 2 "value1"], .quoted [.slot 3 "value2"]])])
    [] ["boost"],
  .of "terms_set" "term_level" "Match minimum number of terms"
    (.objectBlock [
      .entry [.slot 1 "field"] (.objectBlock [
        .entry ["terms"] (.array [.quoted [.slot 2 "val1"], .quoted [.slot 3 "val2"]]),
        .entry ["minimum_should_match_script"] (.object [
          .entry ["source"] (.quoted [.slot 4 "2"])])])])
    [] [],
  .of "range" "term_level" "Match values in a range"
    (.objectBlock [
      .entry [.slot 1 "field"] (.objectBlock [
        .entry ["gte"] (.raw [.slot 2 "0"]),
        .entry ["lte"] (.raw [.slot 3 "100"])])])
    [] ["gte", "gt", "lte", "lt", "format", "time_zone", "boost"],
  .of "exists" "term_level" "Match documents with field"
    (.object [.entry ["field"] (.quoted [.slot 1 "field"])])
    ["field"] [],
  .of "prefix" "term_level" "Match terms with prefix"
    (.object [.entry [.slot 1 "field"] (.quoted [.slot 2 "prefix"])])
    [] ["boost", "rewrite", "case_insensitive"],
  .of "wildcard" "term_level" "Wildcard pattern match"
    (.object [.entry [.slot 1 "field"] (.quoted [.slot 2 "pattern*"])])
    [] ["boost", "rewrite", "case_insensitive"],
  .of "regexp" "term_level" "Regular expression match"
    (.objectBlock [
      .entry [.slot 1 "field"] (.objectBlock [
        .entry ["value"] (.quoted [.slot 2 "pattern"]),
        .entry ["flags"] (.quoted ["ALL"])])])
    [] ["flags", "max_determinized_states", "rewrite"],
  .of "fuzzy" "term_level" "Fuzzy (typo-tolerant) match"
    (.objectBlock [
      .entry [.slot 1 "field"] (.objectBlock [
        .entry ["value"] (.quoted [.slot 2 "text"]),
        .entry ["fuzziness"] (.quoted ["AUTO"])])])
    [] ["fuzziness", "max_expansions", "prefix_length", "transpositions"],
  .of "ids" "term_level" "Match documents by ID"
    (.object [.entry ["values"] (.array [.quoted [.slot 1 "id1"], .quoted [.slot 2 "id2"]])])
    ["values"] []]

def compound : List Clause := [
  .of "bool" "compound" "Combine multiple queries"
    (.objectBlock [
      .entry ["must"] (.array [.raw [.hole 1]]),
      .entry ["filter"] (.array [.raw [.hole 2]]),
      .entry ["should"] (.array [.raw [.hole 3]]),
      .entry ["must_not"] (.array [.raw [.hole 4]])])
    [] ["must", "filter", "should", "must_not", "minimum_should_match", "boost"],
  .of "boosting" "compound" "Boost or demote results"
    (.objectBlock [
      .entry ["positive"] (.object [.raw [.hole 1]]),
      .entry ["negative"] (.object [.raw [.hole 2]]),
      .entry ["negative_boost"] (.raw [.slot 3 "0.5"])])
    ["positive", "negative", "negative_boost"] [],
  .of "constant_score" "compound" "Return constant score"
    (.objectBlock [
      .entry ["filter"] (.object [.raw [.hole 1]]),
      .entry ["boost"] (.raw [.slot 2 "1.0"])])
    ["filter"] ["boost"],
  .of "dis_max" "compound" "Best matching subquery"
    (.objectBlock [
      .entry ["queries"] (.array [.raw [.hole 1]]),
      .entry ["tie_breaker"] (.raw [.slot 2 "0.7"])])
    ["queries"] ["tie_breaker", "boost"],
  .of "function_score" "compound" "Custom scoring functions"
    (.objectBlock [
      .entry ["query"] (.object [.raw [.hole 1]]),
      .entry ["functions"] (.arrayBlock [
        .object [
          .entry ["filter"] (.object [.raw [.hole 2]]),
          .entry ["weight"] (.raw [.slot 3 "2"])]]),
      .entry ["score_mode"] (.quoted ["sum"]),
      .entry ["boost_mode"] (.quoted ["multiply"])])
    ["query"] ["functions", "score_mode", "boost_mode", "max_boost", "min_score"]]

def joining : List Clause := [
  .of "nested" "nested" "Query nested objects"
    (.objectBlock [
      .entry ["path"] (.quoted [.slot 1 "nested_field"]),
      .entry ["query"] (.object [.raw [.hole 2]])])
    ["path", "query"] ["score_mode", "inner_hits", "ignore_unmapped"],
  .of "has_child" "nested" "Match parent by child"
    (.objectBlock [
      .entry ["type"] (.quoted [.slot 1 "child_type"]),
      .entry ["query"] (.object [.raw [.hole 2]])])
    ["type", "query"] ["min_children", "max_children", "score_mode", "inner_hits"],
  .of "has_parent" "nested" "Match child by parent"
    (.objectBlock [
      .entry ["parent_type"] (.quoted [.slot 1 "parent_type"]),
      .entry ["query"] (.object [.raw [.hole 2]])])
    ["parent_type", "query"] ["score", "inner_hits", "ignore_unmapped"]]

def geo : List Clause := [
  .of "geo_distance" "geo" "Filter by distance from point"
    (.objectBlock [
      .entry ["distance"] (.quoted [.slot 1 "10km"]),
      .entry [.slot 2 "location"] (.objectBlock [
        .entry ["lat"] (.raw [.slot 3 "40.73"]),
        .entry ["lon"] (.raw [.slot 4 "-73.99"])])])
    ["distance"] [],
  .of "geo_bounding_box" "geo" "Filter by bounding box"
    (.objectBlock [
      .entry [.slot 1 "location"] (.objectBlock [
        .entry ["top_left"] (.object [
          .entry ["lat"] (.raw [.slot 2 "41.0"]),
          .entry ["lon"] (.raw [.slot 3 "-74.0"])]),
        .entry ["bottom_right"] (.object [
          .entry ["lat"] (.raw [.slot 4 "40.0"]),
          .entry ["lon"] (.raw [.slot 5 "-73.0"])])])])
    [] [],
  .of "geo_shape" "geo" "Filter by shape intersection"
    (.objectBlock [
      .entry [.slot 1 "location"] (.objectBlock [
        .entry ["shape"] (.objectBlock [
          .entry ["type"] (.quoted [.slot 2 "circle"]),
          .entry ["coordinates"] (.array [.raw [.slot 3 "-73.99"], .raw [.slot 4 "40.73"]]),
          .entry ["radius"] (.quoted [.slot 5 "5km"])])])])
    [] [],
  .of "geo_polygon" "geo" "Filter by polygon"
    (.objectBlock [
      .entry [.slot 1 "location"] (.objectBlock [
        .entry ["points"] (.arrayBlock [
          .object [.entry ["lat"] (.raw [.slot 2 "40"]), .entry ["lon"] (.raw [.slot 3 "-74"])],
          .object [.entry ["lat"] (.raw [.slot 4 "41"]), .entry ["lon"] (.raw [.slot 5 "-73"])],
          .object [
            .entry ["lat"] (.raw [.slot 6 "40"]),
            .entry ["lon"] (.raw [.slot 7 "-72"])]])])])
    [] []]

def specialized : List Clause := [
  .of "match_all" "specialized" "Match all documents"
    (.object [])
    [] ["boost"],
  .of "match_none" "specialized" "Match no documents"
    (.object [])
    [] [],
  .of "script" "specialized" "Script-based query"
    (.objectBlock [
      .entry ["script"] (.objectBlock [
        .entry ["source"] (.quoted [.slot 1 "doc['field'].value > params.value"]),
        .entry ["params"] (.object [.entry ["value"] (.raw [.slot 2 "5"])])])])
    [] [],
  .of "percolate" "specialized" "Percolator query"
    (.objectBlock [
      .entry ["field"] (.quoted [.slot 1 "query"]),
      .entry ["document"] (.object [.raw [.hole 2]])])
    ["field"] ["document", "documents", "index", "id"],
  .of "wrapper" "specialized" "Base64 encoded query"
    (.object [.entry ["query"] (.quoted [.slot 1 "base64_encoded_query"])])
    ["query"] []]

def all : List Clause :=
  fullText ++ termLevel ++ compound ++ joining ++ geo ++ specialized

end QueryAssist.Catalog.Queries
