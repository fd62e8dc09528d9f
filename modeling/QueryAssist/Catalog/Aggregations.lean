import QueryAssist.Catalog.Basic
/-!
# Aggregations

The aggregation clauses by category. Their order is the order in which they are offered.
-/

namespace QueryAssist.Catalog.Aggregations

def metric : List Clause := [
  .of "avg" "metric" "Average value"
    (.object [.entry ["field"] (.quoted [.slot 1 "field"])])
    ["field"] ["missing", "script"],
  .of "sum" "metric" "Sum of values"
    (.object [.entry ["field"] (.quoted [.slot 1 "field"])])
    ["field"] [],
  .of "min" "metric" "Minimum value"
    (.object [.entry ["field"] (.quoted [.slot 1 "field"])])
    ["field"] [],
  .of "max" "metric" "Maximum value"
    (.object [.entry ["field"] (.quoted [.slot 1 "field"])])
    ["field"] [],
  .of "stats" "metric" "Basic statistics (min, max, sum, count, avg)"
    (.object [.entry ["field"] (.quoted [.slot 1 "field"])])
    ["field"] [],
  .of "extended_stats" "metric" "Extended statistics with variance, std deviation"
    (.object [.entry ["field"] (.quoted [.slot 1 "field"])])
    ["field"] ["sigma"],
  .of "cardinality" "metric" "Approximate unique count"
    (.object [.entry ["field"] (.quoted [.slot 1 "field"])])
    ["field"] ["precision_threshold"],
  .of "value_count" "metric" "Count of values"
    (.object [.entry ["field"] (.quoted [.slot 1 "field"])])
    ["field"] [],
  .of "percentiles" "metric" "Percentile values"
    (.objectBlock [
      .entry ["field"] (.quoted [.slot 1 "field"]),
      .entry ["percents"] (.array [.raw ["50"], .raw ["90"], .raw ["95"], .raw ["99"]])])
    ["field"] ["percents", "keyed", "tdigest", "hdr"],
  .of "percentile_ranks" "metric" "Percentile rank of values"
    (.objectBlock [
      .entry ["field"] (.quoted [.slot 1 "field"]),
      .entry ["values"] (.array [.raw [.slot 2 "100"], .raw [.slot 3 "200"]])])
    ["field", "values"] [],
  .of "top_hits" "metric" "Top matching documents per bucket"
    (.objectBlock [
      .entry ["size"] (.raw [.slot 1 "3"]),
      .entry ["sort"] (.array [.object [.entry [.slot 2 "date"] (.quoted ["desc"])]]),
      .entry ["_source"] (.object [.entry ["includes"] (.array [.quoted [.slot 3 "title"]])])])
    [] ["size", "sort", "_source", "from"],
  .of "geo_bounds" "metric" "Bounding box of geo points"
    (.object [.entry ["field"] (.quoted [.slot 1 "location"])])
    ["field"] ["wrap_longitude"],
  .of "geo_centroid" "metric" "Centroid of geo points"
    (.object [.entry ["field"] (.quoted [.slot 1 "location"])])
    ["field"] []]

def bucket : List Clause := [
  .of "terms" "bucket" "Group by field values"
    (.objectBlock [
      .entry ["field"] (.quoted [.slot 1 "field", ".keyword"]),
      .entry ["size"] (.raw [.slot 2 "10"])])
    ["field"] ["size", "order", "min_doc_count", "missing", "include", "exclude"],
  .of "histogram" "bucket" "Fixed-width numeric buckets"
    (.objectBlock [
      .entry ["field"] (.quoted [.slot 1 "field"]),
      .entry ["interval"] (.raw [.slot 2 "50"])])
    ["field", "interval"] ["min_doc_count", "extended_bounds", "offset", "order"],
  .of "date_histogram" "bucket" "Date/time buckets"
    (.objectBlock [
      .entry ["field"] (.quoted [.slot 1 "date"]),
      .entry ["calendar_interval"] (.quoted [.slot 2 "month"])])
    ["field"] ["calendar_interval", "fixed_interval", "format", "time_zone", "offset",
      "min_doc_count"],
  .of "range" "bucket" "Custom numeric ranges"
    (.objectBlock [
      .entry ["field"] (.quoted [.slot 1 "field"]),
      .entry ["ranges"] (.arrayBlock [
        .object [.entry ["to"] (.raw [.slot 2 "50"])],
        .object [.entry ["from"] (.raw [.slot 3 "50"]), .entry ["to"] (.raw [.slot 4 "100"])],
        .object [.entry ["from"] (.raw [.slot 5 "100"])]])])
    ["field", "ranges"] ["keyed"],
  .of "date_range" "bucket" "Custom date ranges"
    (.objectBlock [
      .entry ["field"] (.quoted [.slot 1 "date"]),
      .entry ["format"] (.quoted ["yyyy-MM-dd"]),
      .entry ["ranges"] (.arrayBlock [
        .object [.entry ["to"] (.quoted ["now-1M/M"])],
        .object [.entry ["from"] (.quoted ["now-1M/M"]), .entry ["to"] (.quoted ["now"])]])])
    ["field", "ranges"] ["format", "time_zone", "keyed"],
  .of "filter" "bucket" "Single filter bucket"
    (.object [.raw [.hole 1]])
    [] [],
  .of "filters" "bucket" "Multiple named filter buckets"
    (.objectBlock [
      .entry ["filters"] (.objectBlock [
        .entry [.slot 1 "bucket1"] (.object [.raw [.hole 2]]),
        .entry [.slot 3 "bucket2"] (.object [.raw [.hole 4]])])])
    [] ["other_bucket", "other_bucket_key"],
  .of "nested" "bucket" "Aggregate nested objects"
    (.object [.entry ["path"] (.quoted [.slot 1 "nested_field"])])
    ["path"] [],
  .of "reverse_nested" "bucket" "Back to parent from nested"
    (.object [])
    [] ["path"],
  .of "composite" "bucket" "Paginated multi-source aggregation"
    (.objectBlock [
      .entry ["size"] (.raw [.slot 1 "100"]),
      .entry ["sources"] (.arrayBlock [
        .object [
          .entry [.slot 2 "field1"] (.object [
            .entry ["terms"] (.object [
              .entry ["field"] (.quoted [.slot 3 "field1", ".keyword"])])])]])])
    ["sources"] ["size", "after"],
  .of "auto_date_histogram" "bucket" "Automatic date interval"
    (.objectBlock [
      .entry ["field"] (.quoted [.slot 1 "date"]),
      .entry ["buckets"] (.raw [.slot 2 "10"])])
    ["field"] ["buckets", "format", "time_zone", "minimum_interval"],
  .of "significant_terms" "bucket" "Statistically significant terms"
    (.objectBlock [.entry ["field"] (.quoted [.slot 1 "field", ".keyword"])])
    ["field"] ["size", "min_doc_count", "background_filter"],
  .of "adjacency_matrix" "bucket" "Relationship between filters"
    (.objectBlock [
      .entry ["filters"] (.objectBlock [
        .entry [.slot 1 "filter1"] (.object [.raw [.hole 2]]),
        .entry [.slot 3 "filter2"] (.object [.raw [.hole 4]])])])
    ["filters"] [],
  .of "sampler" "bucket" "Sample documents"
    (.object [.entry ["shard_size"] (.raw [.slot 1 "100"])])
    [] ["shard_size"],
  .of "diversified_sampler" "bucket" "Diverse sample by field"
    (.objectBlock [
      .entry ["shard_size"] (.raw [.slot 1 "100"]),
      .entry ["field"] (.quoted [.slot 2 "field"])])
    [] ["shard_size", "field", "max_docs_per_value"],
  .of "global" "bucket" "All documents (ignore query)"
    (.object [])
    [] [],
  .of "missing" "bucket" "Documents missing field"
    (.object [.entry ["field"] (.quoted [.slot 1 "field"])])
    ["field"] [],
  .of "geo_distance" "bucket" "Distance rings from point"
    (.objectBlock [
      .entry ["field"] (.quoted [.slot 1 "location"]),
      .entry ["origin"] (.object [
        .entry ["lat"] (.raw [.slot 2 "40.73"]),
        .entry ["lon"] (.raw [.slot 3 "-73.99"])]),
      .entry ["ranges"] (.arrayBlock [
        .object [.entry ["to"] (.raw ["10"])],
        .object [.entry ["from"] (.raw ["10"]), .entry ["to"] (.raw ["50"])],
        .object [.entry ["from"] (.raw ["50"])]]),
      .entry ["unit"] (.quoted ["km"])])
    ["field", "origin", "ranges"] ["unit", "distance_type"],
  .of "geohash_grid" "bucket" "Geohash grid buckets"
    (.objectBlock [
      .entry ["field"] (.quoted [.slot 1 "location"]),
      .entry ["precision"] (.raw [.slot 2 "5"])])
    ["field"] ["precision", "size", "shard_size", "bounds"]]

def pipeline : List Clause := [
  .of "derivative" "pipeline" "Derivative of metric"
    (.object [.entry ["buckets_path"] (.quoted [.slot 1 "metric_name"])])
    ["buckets_path"] ["gap_policy", "format", "unit"],
  .of "cumulative_sum" "pipeline" "Cumulative sum"
    (.object [.entry ["buckets_path"] (.quoted [.slot 1 "metric_name"])])
    ["buckets_path"] ["format"],
  .of "moving_avg" "pipeline" "Moving average"
    (.objectBlock [
      .entry ["buckets_path"] (.quoted [.slot 1 "metric_name"]),
      .entry ["window"] (.raw [.slot 2 "5"])])
    ["buckets_path"] ["model", "window", "settings", "minimize", "predict"],
  .of "moving_fn" "pipeline" "Moving function"
    (.objectBlock [
      .entry ["buckets_path"] (.quoted [.slot 1 "metric_name"]),
      .entry ["window"] (.raw [.slot 2 "5"]),
      .entry ["script"] (.quoted ["MovingFunctions.unweightedAvg(values)"])])
    ["buckets_path", "script"] ["window", "gap_policy", "shift"],
  .of "bucket_script" "pipeline" "Custom bucket calculation"
    (.objectBlock [
      .entry ["buckets_path"] (.objectBlock [
        .entry ["var1"] (.quoted [.slot 1 "metric1"]),
        .entry ["var2"] (.quoted [.slot 2 "metric2"])]),
      .entry ["script"] (.quoted ["params.var1 / params.var2"])])
    ["buckets_path", "script"] ["format", "gap_policy"],
  .of "bucket_selector" "pipeline" "Filter buckets"
    (.objectBlock [
      .entry ["buckets_path"] (.object [.entry ["count"] (.quoted ["_count"])]),
      .entry ["script"] (.quoted ["params.count > 10"])])
    ["buckets_path", "script"] ["gap_policy"],
  .of "bucket_sort" "pipeline" "Sort and truncate buckets"
    (.objectBlock [
      .entry ["sort"] (.array [
        .object [.entry [.slot 1 "metric"] (.object [.entry ["order"] (.quoted ["desc"])])]]),
      .entry ["size"] (.raw [.slot 2 "10"])])
    [] ["sort", "from", "size", "gap_policy"],
  .of "serial_diff" "pipeline" "Serial differencing"
    (.objectBlock [
      .entry ["buckets_path"] (.quoted [.slot 1 "metric_name"]),
      .entry ["lag"] (.raw [.slot 2 "1"])])
    ["buckets_path"] ["lag", "gap_policy", "format"],
  .of "avg_bucket" "pipeline" "Average of bucket values"
    (.object [.entry ["buckets_path"] (.quoted [.slot 1 "agg_name>metric_name"])])
    ["buckets_path"] ["gap_policy", "format"],
  .of "sum_bucket" "pipeline" "Sum of bucket values"
    (.object [.entry ["buckets_path"] (.quoted [.slot 1 "agg_name>metric_name"])])
    ["buckets_path"] ["gap_policy", "format"],
  .of "min_bucket" "pipeline" "Minimum bucket value"
    (.object [.entry ["buckets_path"] (.quoted [.slot 1 "agg_name>metric_name"])])
    ["buckets_path"] ["gap_policy", "format"],
  .of "max_bucket" "pipeline" "Maximum bucket value"
    (.object [.entry ["buckets_path"] (.quoted [.slot 1 "agg_name>metric_name"])])
    ["buckets_path"] ["gap_policy", "format"],
  .of "stats_bucket" "pipeline" "Stats of bucket values"
    (.object [.entry ["buckets_path"] (.quoted [.slot 1 "agg_name>metric_name"])])
    ["buckets_path"] ["gap_policy", "format"],
  .of "percentiles_bucket" "pipeline" "Percentiles of bucket values"
    (.objectBlock [
      .entry ["buckets_path"] (.quoted [.slot 1 "agg_name>metric_name"]),
      .entry ["percents"] (.array [.raw ["50"], .raw ["90"], .raw ["99"]])])
    ["buckets_path"] ["percents", "gap_policy", "format"]]

def all : List Clause :=
  metric ++ bucket ++ pipeline

end QueryAssist.Catalog.Aggregations
