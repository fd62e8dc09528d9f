import QueryAssist.Completion.Item
import QueryAssist.Hover
import QueryAssist.Session.State
/-!
# Completion and hover in open documents

Requests about a place in a document. Where a request fails there is nothing to offer or to show.
-/

namespace QueryAssist.Session

open Completion

inductive Trigger
  | invoked
  | character
  | incomplete
  deriving DecidableEq, Repr

/-- A request that does not say what set it off counts as made on purpose. -/
def isExplicit (trigger : Option Trigger) : Bool :=
  trigger.all (· = .invoked)

def completionsAt (s : Session) (e : Editor) (uri : String) (p : Position)
    (trigger : Option Trigger) : Except Failure (Option CompletionList) := do
  let text ← e.document (.str uri)
  let data ← s.dataForUri e uri
  return completionList e.unit text p data (isExplicit trigger)

/-- While completion is off the list is empty. -/
def completion (s : Session) (e : Editor) (uri : String) (p : Position)
    (trigger : Option Trigger) : Option CompletionList :=
  if !s.completionEnabled then some (.ofItems [])
  else
    match completionsAt s e uri p trigger with
    | .ok list => list
    | .error _ => none

def hoverAt (e : Editor) (uri : String) (p : Position) : Option Hover :=
  match e.document (.str uri) with
  | .ok text => Hover.ofPosition? e.unit text p
  | .error _ => none

end QueryAssist.Session
