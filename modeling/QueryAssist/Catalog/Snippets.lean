import QueryAssist.Catalog.Basic
/-!
# Snippets

Whole search bodies with places to fill in.
-/

namespace QueryAssist.Catalog

def snippets : List Snippet := [
  .of "search-basic" "Basic Search"
    (.objectBlock [
      .entry ["query"] (.objectBlock [
        .entry ["match"] (.object [.entry [.slot 1 "field"] (.quoted [.slot 2 "text"])])])])
    "Simple match query",
  .of "search-bool" "Bool Query"
    (.objectBlock [
      .entry ["query"] (.objectBlock [
        .entry ["bool"] (.objectBlock [
          .entry ["must"] (.arrayBlock [
            .object [
              .entry ["match"] (.object [.entry [.slot 1 "field"] (.quoted [.slot 2 "text"])])]]),
          .entry ["filter"] (.arrayBlock [
            .object [
              .entry ["term"] (.object [
                .entry [.slot 3 "status"] (.quoted [.slot 4 "active"])])]])])])])
    "Bool query with must and filter",
  .of "search-range" "Range Query"
    (.objectBlock [
      .entry ["query"] (.objectBlock [
        .entry ["range"] (.objectBlock [
          .entry [.slot 1 "date"] (.objectBlock [
            .entry ["gte"] (.quoted [.slot 2 "now-1d"]),
            .entry ["lte"] (.quoted [.slot 3 "now"])])])])])
    "Date/numeric range query",
  .of "search-pagination" "Paginated Search"
    (.objectBlock [
      .entry ["query"] (.object [.entry ["match_all"] (.object [])]),
      .entry ["from"] (.raw [.slot 1 "0"]),
      .entry ["size"] (.raw [.slot 2 "10"]),
      .entry ["sort"] (.array [.object [.entry [.slot 3 "date"] (.quoted ["desc"])]])])
    "Search with pagination and sorting",
  .of "aggs-terms" "Terms Aggregation"
    (.objectBlock [
      .entry ["size"] (.raw ["0"]),
      .entry ["aggs"] (.objectBlock [
        .entry [.slot 1 "by_field"] (.objectBlock [
          .entry ["terms"] (.objectBlock [
            .entry ["field"] (.quoted [.slot 2 "field", ".keyword"]),
            .entry ["size"] (.raw [.slot 3 "10"])])])])])
    "Group by field values",
  .of "aggs-date-histogram" "Date Histogram"
    (.objectBlock [
      .entry ["size"] (.raw ["0"]),
      .entry ["aggs"] (.objectBlock [
        .entry [.slot 1 "over_time"] (.objectBlock [
          .entry ["date_histogram"] (.objectBlock [
            .entry ["field"] (.quoted [.slot 2 "timestamp"]),
            .entry ["calendar_interval"] (.quoted [.slot 3 "day"])])])])])
    "Time-based bucketing",
  .of "aggs-nested" "Nested Aggregation"
    (.objectBlock [
      .entry ["size"] (.raw ["0"]),
      .entry ["aggs"] (.objectBlock [
        .entry [.slot 1 "by_category"] (.objectBlock [
          .entry ["terms"] (.object [
            .entry ["field"] (.quoted [.slot 2 "category", ".keyword"])]),
          .entry ["aggs"] (.objectBlock [
            .entry [.slot 3 "avg_price"] (.objectBlock [
              .entry ["avg"] (.object [.entry ["field"] (.quoted [.slot 4 "price"])])])])])])])
    "Bucket with sub-aggregation",
  .of "aggs-stats" "Statistics"
    (.objectBlock [
      .entry ["size"] (.raw ["0"]),
      .entry ["aggs"] (.objectBlock [
        .entry [.slot 1 "stats"] (.objectBlock [
          .entry ["stats"] (.object [.entry ["field"] (.quoted [.slot 2 "price"])])])])])
    "Get min, max, avg, sum, count",
  .of "highlight" "Highlight Matches"
    (.objectBlock [
      .entry ["query"] (.object [
        .entry ["match"] (.object [
          .entry [.slot 1 "content"] (.quoted [.slot 2 "search text"])])]),
      .entry ["highlight"] (.objectBlock [
        .entry ["fields"] (.objectBlock [.entry [.slot 1 "content"] (.object [])])])])
    "Highlight matching text",
  .of "suggest" "Suggester"
    (.objectBlock [
      .entry ["suggest"] (.objectBlock [
        .entry [.slot 1 "my-suggest"] (.objectBlock [
          .entry ["text"] (.quoted [.slot 2 "text"]),
          .entry ["term"] (.object [.entry ["field"] (.quoted [.slot 3 "title"])])])])])
    "Term/phrase suggester",
  .of "filter-exists" "Exists Filter"
    (.objectBlock [
      .entry ["query"] (.objectBlock [
        .entry ["bool"] (.objectBlock [
          .entry ["filter"] (.arrayBlock [
            .object [
              .entry ["exists"] (.object [.entry ["field"] (.quoted [.slot 1 "field"])])]])])])])
    "Filter docs with field",
  .of "search-geo" "Geo Distance"
    (.objectBlock [
      .entry ["query"] (.objectBlock [
        .entry ["geo_distance"] (.objectBlock [
          .entry ["distance"] (.quoted [.slot 1 "10km"]),
          .entry [.slot 2 "location"] (.objectBlock [
            .entry ["lat"] (.raw [.slot 3 "40.73"]),
            .entry ["lon"] (.raw [.slot 4 "-73.99"])])])])])
    "Filter by distance from point",
  .of "collapse" "Collapse Results"
    (.objectBlock [
      .entry ["query"] (.object [.entry ["match_all"] (.object [])]),
      .entry ["collapse"] (.objectBlock [
        .entry ["field"] (.quoted [.slot 1 "user_id"]),
        .entry ["inner_hits"] (.objectBlock [
          .entry ["name"] (.quoted ["latest"]),
          .entry ["size"] (.raw ["3"]),
          .entry ["sort"] (.array [.object [.entry [.slot 2 "date"] (.quoted ["desc"])]])])])])
    "Collapse by field with inner hits",
  .of "script-field" "Script Field"
    (.objectBlock [
      .entry ["query"] (.object [.entry ["match_all"] (.object [])]),
      .entry ["script_fields"] (.objectBlock [
        .entry [.slot 1 "calculated_field"] (.objectBlock [
          .entry ["script"] (.objectBlock [
            .entry ["source"]
              (.quoted ["doc['", .slot 2 "field", "'].value * ", .slot 3 "2"])])])])])
    "Computed field via script"]

end QueryAssist.Catalog
