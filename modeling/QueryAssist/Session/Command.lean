import QueryAssist.Cursor.Report
import QueryAssist.Field.Payload
import QueryAssist.Json.Display
import QueryAssist.Position.Offset
import QueryAssist.Session.Mapping
/-!
# Commands

The commands by which a client stores, loads and clears the fields of a workspace, and asks for the
context of a position.
-/

namespace QueryAssist.Session

open Workspace

inductive Refusal
  | noPath
  | noUri
  | unreadable (given : String) (fault : FileFault) (path : String)
  | failed (cause : Failure)

def Refusal.message : Refusal → String
  | noPath => "Caminho do mapping não informado"
  | noUri => "URI não informada"
  | unreadable given fault path => "Não foi possível ler " ++ given ++ ": " ++ fault.message path
  | failed cause => cause.message

inductive Reply
  | stored (workspace : String) (indices : List Json) (fieldCount : Nat)
  | cleared (workspace : String) (hadFields : Bool)
  | context (ctx : Cursor.Context)
  | refused (why : Refusal)

def Reply.isSuccess : Reply → Bool
  | refused _ => false
  | _ => true

def Reply.toJson (r : Reply) : Json :=
  .obj (("success", .bool r.isSuccess) ::
    match r with
    | stored workspace indices fieldCount =>
        [("workspace", .str workspace), ("indices", .arr indices), ("field_count", .int fieldCount)]
    | cleared workspace hadFields => [("workspace", .str workspace), ("cleared", .bool hadFields)]
    | context ctx => [("context", ctx.report)]
    | refused why => [("error", .str why.message)])

/-! ## Fields -/

def Entry.reply (entry : Entry) : Reply :=
  .stored entry.workspace entry.stored.data.indices entry.stored.data.fieldCount

def payloadEntry (s : Session) (e : Editor) (params : Json) : Except Failure Entry := do
  let data ← (Snapshot.ofPayload (firstArgument params)).mapError .field
  let key ← s.addressedKey e params
  return ⟨key, data, payloadSource⟩

def storeFields (e : Editor) (params : Json) : Action Reply := do
  let entry ← payloadEntry (← get) e params
  store entry
  return entry.reply

def setFields (e : Editor) (params : Json) : Action Reply :=
  tryCatch (storeFields e params) fun cause => return .refused (.failed cause)

def pathText : Json → Except Failure String
  | .str given => .ok given
  | path => .error (.pathNotText path)

def fileArguments (s : Session) (e : Editor) (params : Json) : Except Failure (String × Json) := do
  let root ← s.resolveRoot e params
  let given ← pathText ((firstArgument params).member "path")
  return (given, root)

/-- The key for the reply is taken from the root once more, when the fields are stored already. -/
def loadFor (e : Editor) (given : String) (root : Json) : Action Reply := do
  let data ← loadInto e given root
  let key ← keyOf root
  return .stored key data.indices data.fieldCount

def loadFields (e : Editor) (params : Json) : Action Reply := do
  let (given, root) ← fileArguments (← get) e params
  loadFor e given root

/-- A file that cannot be read is reported under the path that was given. -/
def refuseLoad (path : Json) : Failure → Refusal
  | .mapping (.file fault expanded) => .unreadable path.text fault expanded
  | cause => .failed cause

def loadFile (e : Editor) (params : Json) : Action Reply :=
  let path := (firstArgument params).member "path"
  if path.isTruthy then
    tryCatch (loadFields e params) fun cause => return .refused (refuseLoad path cause)
  else return .refused .noPath

/-- The one command whose failures are not turned into replies. -/
def clearFields (e : Editor) (params : Json) : Action Reply := do
  let key ← addressedKey (← get) e params
  let hadFields := (← get).has key
  modify fun s => s.drop key
  return .cleared key hadFields

/-! ## Contexts -/

def readPosition (args : Json) : Except Failure Position := do
  let part (name : String) : Json :=
    match args with
    | .obj members => (members.lookup name).getD (.int 0)
    | _ => .int 0
  let line ← (coordinate (part "line")).mapError Failure.coordinate
  let character ← (coordinate (part "character")).mapError Failure.coordinate
  (Position.ofInts line character).mapError .position

def contextOf (e : Editor) (args : Json) : Except Failure Cursor.Context := do
  let text ← e.document (args.member "uri")
  let position ← readPosition args
  return Cursor.contextAt text (position.offsetIn e.unit text)

def getContext (e : Editor) (params : Json) : Reply :=
  let args := firstArgument params
  if !(args.member "uri").isTruthy then .refused .noUri
  else
    match contextOf e args with
    | .ok ctx => .context ctx
    | .error cause => .refused (.failed cause)

inductive Command
  | setFields
  | loadFile
  | clearFields
  | getContext
  deriving DecidableEq, Repr

def Command.perform (e : Editor) (params : Json) : Command → Action Reply
  | setFields => Session.setFields e params
  | loadFile => Session.loadFile e params
  | clearFields => Session.clearFields e params
  | getContext => return Session.getContext e params

end QueryAssist.Session
