import QueryAssist.Catalog.Lookup
import QueryAssist.Completion.Candidate
import QueryAssist.Field.Basic
/-!
# Offers

The candidates that each part of the catalog and the fields of a snapshot give for a word. Fields
match a word anywhere, all else at the beginning.
-/

namespace QueryAssist.Completion

open Catalog Text

def nonEmpty (s : String) : Option String :=
  if s.isEmpty then none else some s

def keyText (name : String) : String :=
  "\"" ++ name ++ "\": "

def valueText (name : String) : String :=
  "\"" ++ name ++ "\""

/-- The family is "query" or "aggregation". -/
def clauseDoc (c : Clause) (family : String) : String :=
  "**" ++ c.name ++ "** (" ++ c.category ++ " " ++ family ++ ")\n\n" ++ c.description ++ "\n\n" ++
    "```json\n" ++ stripPlaceholders c.template ++ "\n```"

def ofClause (kind : CandidateKind) (family : String) (c : Clause) : Candidate :=
  { label := c.name
    kind
    boost := kind.boost
    detail := some (c.category ++ " " ++ family)
    info := some (clauseDoc c family)
    apply := some (keyText c.name)
    template := none }

def queryOffers (word : String) : List Candidate :=
  (searchQueries word).map (ofClause .queryType "query")

def aggregationOffers (word : String) : List Candidate :=
  (searchAggregations word).map (ofClause .aggType "aggregation")

def ofProperty (kind : CandidateKind) (p : Property) : Candidate :=
  { label := p.name
    kind
    boost := kind.boost
    detail := some p.detail
    info := nonEmpty p.info
    apply := some (keyText p.name)
    template := none }

def propertyOffers (kind : CandidateKind) (properties : List Property) (word : String) :
    List Candidate :=
  (properties.filter fun p => beginsWith p.name word).map (ofProperty kind)

def ofSnippet (s : Snippet) : Candidate :=
  { label := s.label
    kind := .snippet
    boost := CandidateKind.snippet.boost
    detail := some s.detail
    info := nonEmpty s.info
    apply := some (stripPlaceholders s.template)
    template := some s.template }

def snippetOffers (word : String) : List Candidate :=
  (snippets.filter fun s => beginsWith s.label word).map ofSnippet

def ofValue (value : String) : Candidate :=
  { label := value
    kind := .value
    boost := CandidateKind.value.boost
    detail := none
    info := none
    apply := some (valueText value)
    template := none }

def valueOffers (values : List String) (word : String) : List Candidate :=
  (values.filter fun value => beginsWith value word).map ofValue

def fieldOffer (path : String) (boost : Nat) (detail : String) (info : Option String) : Candidate :=
  { label := path
    kind := .field
    boost
    detail := some detail
    info
    apply := some (valueText path)
    template := none }

/-- A text field has a keyword field beside it, one step of boost below. -/
def ofField (path : String) (f : Field) : List Candidate :=
  let boost := CandidateKind.field.boost
  let info := if f.analyzer.isTruthy then some ("Analyzer: " ++ f.analyzer.text) else none
  fieldOffer path boost f.type.name info ::
    if f.type = .text then
      [fieldOffer (path ++ ".keyword") (boost - 1) "keyword" (some "Exact match (not analyzed)")]
    else []

/-- Keeps the first candidate of each label. -/
def firstByLabel : List Candidate → List Candidate
  | [] => []
  | c :: rest => c :: (firstByLabel rest).filter (·.label ≠ c.label)

def allFieldOffers (s : Snapshot) : List Candidate :=
  firstByLabel (s.walk.flatMap fun entry => ofField entry.1 entry.2)

/-- How many fields are offered before a word is typed. -/
def fieldLimit : Nat := 30

def fieldOffers (s : Option Snapshot) (word : String) : List Candidate :=
  let offers := (s.map allFieldOffers).getD []
  if word.isEmpty then offers.take fieldLimit
  else offers.filter fun c => containsWord c.label word

end QueryAssist.Completion
