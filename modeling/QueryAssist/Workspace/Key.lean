import QueryAssist.Json.Basic
import QueryAssist.Workspace.Path
import QueryAssist.Workspace.Uri
/-!
# Workspace keys

A workspace is known by the text of its root path. The key of no workspace is the empty text.
-/

namespace QueryAssist.Workspace

def rootOfChars (cs : List Char) : Except UriFault Path :=
  if Uri.fileScheme.isPrefixOf cs then
    (Uri.pathOf (cs.drop Uri.fileScheme.length)).map Path.ofChars
  else .ok (.ofChars cs)

/-- Only a text that is not empty names a root. -/
def root? : Json → Except UriFault (Option Path)
  | .str s => if s.isEmpty then .ok none else (rootOfChars s.toList).map some
  | _ => .ok none

def globalKey : String := ""

def key (root : Json) : Except UriFault String :=
  (root? root).map fun path => (path.map Path.text).getD globalKey

end QueryAssist.Workspace
