/-!
# Candidates

What can be offered at the cursor: a label, what it stands for, and the text that it inserts. A
higher boost comes first.
-/

namespace QueryAssist.Completion

inductive CandidateKind
  | property
  | queryType
  | aggType
  | field
  | keyword
  | value
  | snippet
  deriving DecidableEq, Repr

namespace CandidateKind

def name : CandidateKind → String
  | property => "property"
  | queryType => "query_type"
  | aggType => "agg_type"
  | field => "field"
  | keyword => "keyword"
  | value => "value"
  | snippet => "snippet"

def boost : CandidateKind → Nat
  | queryType => 100
  | aggType => 95
  | property => 90
  | field => 85
  | keyword => 80
  | snippet => 75
  | value => 70

end CandidateKind

structure Candidate where
  label : String
  kind : CandidateKind
  boost : Nat
  detail : Option String
  info : Option String
  apply : Option String
  template : Option String
  deriving DecidableEq, Repr

/-- The template if there is one, then the text to apply, then the label. -/
def Candidate.insertText (c : Candidate) : String :=
  (c.template.or c.apply).getD c.label

end QueryAssist.Completion
