import QueryAssist.Session.Action
/-!
# Mapping files of a workspace

A mapping file is loaded into the snapshot of a workspace. Relative paths are below its root.
-/

namespace QueryAssist.Session

open Workspace

structure Entry where
  workspace : String
  stored : Stored

def write (s : Session) (entry : Entry) : Session :=
  s.put entry.workspace entry.stored

def store (entry : Entry) : Action Unit :=
  modify fun s => s.write entry

def expandPath (e : Editor) (given : String) : Except Failure Path :=
  let path := Path.ofString given
  match path.expandHome? e.home with
  | some expanded => .ok expanded
  | none =>
      if (path.parts.headD "").toList.contains '\x00' then .error (.mapping .nullCharacter)
      else .error .noHome

def placePath (root : Json) (path : Path) : Except Failure Path :=
  if path.isAbsolute then .ok path
  else
    ((root? root).mapError .uri).map fun
      | some base => base.below path
      | none => path

def mappingEntry (e : Editor) (given : String) (root : Json) : Except Failure Entry := do
  let path ← placePath root (← expandPath e given)
  let data ← (loadMapping e.files e.maxNesting path).mapError .mapping
  let key ← keyOf root
  return ⟨key, data, path.text⟩

def loadInto (e : Editor) (given : String) (root : Json) : Action Snapshot := do
  let entry ← mappingEntry e given root
  store entry
  return entry.stored.data

/-! ## Settings -/

/-- The section that settings hold for this server, or the settings themselves. -/
def section? (settings : Json) : Json :=
  match settings with
  | .obj members => (members.lookup "esdsl").getD settings
  | _ => .null

def enabledBy (settings : Json) : Bool :=
  match (section? settings).member "completion" with
  | .obj members => ((members.lookup "enabled").map Json.isTruthy).getD true
  | _ => true

/-- The mapping file that settings ask for, if it is not the one that is configured already. -/
def configuredFile? (s : Session) (settings : Json) : Option String :=
  match (section? settings).member "mappingFile" with
  | .str file => if file.isEmpty || s.mappingFile = some file then none else some file
  | _ => none

def applySettings (e : Editor) (settings : Json) : Action Unit := do
  modify fun s => { s with completionEnabled := enabledBy settings }
  match configuredFile? (← get) settings with
  | none => return
  | some file =>
      let folder ← rootForUri e.folders .null
      let _ ← loadInto e file (optionalRoot folder)
      modify fun s => { s with mappingFile := some file }

/-- A mapping file that cannot be loaded is not told of to the client. -/
def configure (e : Editor) (settings : Json) : Action Unit :=
  tryCatch (applySettings e settings) fun _ => return

end QueryAssist.Session
