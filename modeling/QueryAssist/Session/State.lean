import QueryAssist.Session.Editor
/-!
# The server's state

Snapshots by workspace, open documents by workspace, whether completion is on, and the mapping file
that was last configured.
-/

namespace QueryAssist

open Workspace

/-- The source is the path of a mapping file, or says that the client sent the fields. -/
structure Stored where
  data : Snapshot
  source : String

def payloadSource : String := "payload"

/-- Workspaces stay in the order in which they first came. -/
structure Session where
  snapshots : List (String × Stored)
  openDocuments : List (String × List String)
  completionEnabled : Bool
  mappingFile : Option String

namespace Session

def initial : Session :=
  ⟨[], [], true, none⟩

/-! ## Snapshots -/

def put (s : Session) (key : String) (stored : Stored) : Session :=
  { s with snapshots := Keyed.put key stored s.snapshots }

def drop (s : Session) (key : String) : Session :=
  { s with snapshots := Keyed.erase key s.snapshots }

def get? (s : Session) (key : String) : Option Stored :=
  s.snapshots.lookup key

def has (s : Session) (key : String) : Bool :=
  Keyed.has key s.snapshots

theorem get?_put (s : Session) (key : String) (stored : Stored) (k : String) :
    (s.put key stored).get? k = if key = k then some stored else s.get? k :=
  Keyed.lookup_put s.snapshots

/-! ## Open documents -/

def track (s : Session) (uri key : String) : Session :=
  let uris := (s.openDocuments.lookup key).getD []
  { s with openDocuments :=
      Keyed.put key (if uris.contains uri then uris else uris ++ [uri]) s.openDocuments }

def untrack (s : Session) (uri key : String) : Session :=
  { s with openDocuments :=
      match s.openDocuments.lookup key with
      | some uris => Keyed.put key (uris.filter (· ≠ uri)) s.openDocuments
      | none => s.openDocuments }

def firstOpenKey? (s : Session) : Option String :=
  (s.openDocuments.find? fun entry => !entry.1.isEmpty && !entry.2.isEmpty).map (·.1)

/-! ## Workspaces -/

/-- The argument object of a command, which may come alone or first in an array. -/
def firstArgument : Json → Json
  | .obj members => .obj members
  | .arr (.obj members :: _) => .obj members
  | _ => .obj []

def rootKeys : List String :=
  ["workspaceRoot", "rootUri", "rootPath"]

def optionalRoot : Option String → Json
  | some root => .str root
  | none => .null

/-- The root given in the arguments, that of the document given there, that of an open document, or
the first folder. -/
def resolveRoot (s : Session) (e : Editor) (params : Json) : Except Failure Json :=
  let args := firstArgument params
  match (rootKeys.map args.member).find? Json.isTruthy with
  | some root => .ok root
  | none =>
      let uri := args.member "uri"
      if uri.isTruthy then (rootForUri e.folders uri).map optionalRoot
      else
        match s.firstOpenKey? with
        | some key => .ok (.str key)
        | none => (rootForUri e.folders .null).map optionalRoot

def keyOf (root : Json) : Except Failure String :=
  (Workspace.key root).mapError .uri

def addressedKey (s : Session) (e : Editor) (params : Json) : Except Failure String := do
  keyOf (← s.resolveRoot e params)

def keyForUri (e : Editor) (uri : String) : Except Failure String := do
  keyOf (optionalRoot (← rootForUri e.folders (.str uri)))

def dataForUri (s : Session) (e : Editor) (uri : String) : Except Failure (Option Snapshot) := do
  let key ← keyForUri e uri
  return ((s.get? key).or (s.get? globalKey)).map (·.data)

end Session

end QueryAssist
