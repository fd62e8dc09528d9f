import QueryAssist.Session.Failure
/-!
# The editor's side

What the editor has open: its workspace folders, the texts of its documents, the units in which it
counts columns, and the files that it can name.
-/

namespace QueryAssist.Session

open Workspace

/-- Folders are known by URI. How a document is found by its URI, and how many containers may stand
inside one another in the JSON text of a file, is not decided here. -/
structure Editor where
  folders : List String
  document : Json → Except Failure String
  unit : ColumnUnit
  files : FileTree
  home : String
  maxNesting : Nat

def dropTrailingSlashes (cs : List Char) : List Char :=
  (cs.reverse.dropWhile (· == '/')).reverse

def inFolder (uri folder : String) : Bool :=
  (dropTrailingSlashes folder.toList ++ ['/']).isPrefixOf uri.toList

/-- The first of the longest texts. -/
def longest? : List String → Option String
  | [] => none
  | s :: rest =>
      match longest? rest with
      | some best => some (if s.length < best.length then best else s)
      | none => some s

/-- The longest folder that a document lies in, else the first folder. -/
def rootForUri (folders : List String) (uri : Json) : Except Failure (Option String) :=
  match folders with
  | [] => .ok none
  | first :: _ =>
      if !uri.isTruthy then .ok (some first)
      else
        match uri with
        | .str s => .ok (some ((longest? (folders.filter (inFolder s))).getD first))
        | _ => .error (.uriNotText uri)

theorem rootForUri_null (folders : List String) : rootForUri folders .null = .ok folders.head? := by
  cases folders <;> rfl

end QueryAssist.Session
