import QueryAssist.Catalog.Template
/-!
# Catalog entries

Queries and aggregations are clauses: a name with a body. Properties are the keys of a body, and
snippets are whole search bodies.
-/

namespace QueryAssist.Catalog

structure Clause where
  name : String
  category : String
  description : String
  template : String
  required : List String
  optional : List String
  deriving DecidableEq, Repr

def Clause.of (name category description : String) (body : Sketch)
    (required optional : List String) : Clause :=
  ⟨name, category, description, (Sketch.entry [name] body).source, required, optional⟩

structure Property where
  name : String
  detail : String
  info : String
  deriving DecidableEq, Repr

structure Snippet where
  label : String
  detail : String
  template : String
  info : String
  deriving DecidableEq, Repr

def Snippet.of (label detail : String) (body : Sketch) (info : String) : Snippet :=
  ⟨label, detail, body.source, info⟩

end QueryAssist.Catalog
