import QueryAssist.Session.Command
/-!
# Requests

The requests that may change the state: commands, new settings, and documents that are opened or
closed. A session is a run of them.
-/

namespace QueryAssist.Session

def didOpen (e : Editor) (uri : String) : Action Unit := do
  let key ← keyForUri e uri
  modify fun s => s.track uri key

def didClose (e : Editor) (uri : String) : Action Unit := do
  let key ← keyForUri e uri
  modify fun s => s.untrack uri key

inductive Request
  | command (name : Command) (params : Json)
  | configure (settings : Json)
  | openDocument (uri : String)
  | closeDocument (uri : String)

def Request.perform (e : Editor) : Request → Action (Option Reply)
  | command name params => some <$> name.perform e params
  | configure settings => (fun _ => none) <$> Session.configure e settings
  | openDocument uri => (fun _ => none) <$> didOpen e uri
  | closeDocument uri => (fun _ => none) <$> didClose e uri

/-- The state that a request leaves, whether or not it has failed. -/
def after (s : Session) (e : Editor) (request : Request) : Session :=
  ((request.perform e).outcome s).2

def run (requests : List (Editor × Request)) : Session :=
  requests.foldl (fun s request => s.after request.1 request.2) initial

end QueryAssist.Session
