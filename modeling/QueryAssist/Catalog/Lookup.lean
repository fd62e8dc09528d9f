import QueryAssist.Catalog.Aggregations
import QueryAssist.Catalog.Properties
import QueryAssist.Catalog.Queries
import QueryAssist.Catalog.Snippets
import QueryAssist.Text.Match
/-!
# Looking things up

Clauses by name and by the beginning of a name, the options of a clause, and the values of a key.
-/

namespace QueryAssist.Catalog

def queryNames : List String :=
  Queries.all.map (·.name)

def aggregationNames : List String :=
  Aggregations.all.map (·.name)

def query? (name : String) : Option Clause :=
  Queries.all.find? (·.name == name)

def aggregation? (name : String) : Option Clause :=
  Aggregations.all.find? (·.name == name)

def searchQueries (start : String) : List Clause :=
  Queries.all.filter fun c => Text.beginsWith c.name start

def searchAggregations (start : String) : List Clause :=
  Aggregations.all.filter fun c => Text.beginsWith c.name start

def Clause.properties (c : Clause) (name : String) : List Property :=
  (c.required.map fun key => ⟨key, "required", "Required by " ++ name⟩) ++
    ((c.optional.filter fun key => !c.required.contains key).map fun key =>
      ⟨key, "optional", "Optional for " ++ name⟩)

/-- The options in the body of a clause. Of a query and an aggregation with one name, the query
counts unless aggregations are preferred. -/
def clauseOptions (name : String) (preferAggregation : Bool) : List Property :=
  let listed := if preferAggregation then none else detailedOptions.lookup name
  let clause? :=
    if preferAggregation then (aggregation? name).or (query? name)
    else (query? name).or (aggregation? name)
  listed.getD ((clause?.map (·.properties name)).getD [])

def enumKeys : List String :=
  enumerations.map (·.1)

def enumValues (key : String) : List String :=
  (enumerations.lookup key).getD []

end QueryAssist.Catalog
