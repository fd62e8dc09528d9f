import QueryAssist.Cursor.Context
import QueryAssist.Position.Offset
import QueryAssist.Text.WordChar
/-!
# Hover

The documentation of the word under the cursor, if the word means something where it stands.
-/

namespace QueryAssist

open Catalog Cursor

structure Hover where
  value : String
  range : Range
  deriving DecidableEq, Repr

namespace Hover

/-- Names of fields hold points. -/
def isNameChar (c : Char) : Bool :=
  Text.isWordChar c || c == '.'

def wordBounds (text : List Char) (offset : Nat) : Nat × Nat :=
  let left := (text.take offset).reverse.takeWhile isNameChar
  let right := (text.drop offset).takeWhile isNameChar
  (offset - left.length, offset + right.length)

def inBackticks (s : String) : String :=
  "`" ++ s ++ "`"

def keyLine (title : String) (keys : List String) : String :=
  if keys.isEmpty then "" else title ++ ": " ++ ", ".intercalate (keys.map inBackticks) ++ "\n\n"

def clauseText (c : Clause) (family : String) : String :=
  "**" ++ c.name ++ "** (" ++ c.category ++ " " ++ family ++ ")\n\n" ++ c.description ++ "\n\n" ++
    keyLine "Required" c.required ++ keyLine "Optional" c.optional ++
    "```json\n" ++ stripPlaceholders c.template ++ "\n```"

def propertyText (p : Property) (role : String) : String :=
  "**" ++ p.name ++ "** (" ++ role ++ ")\n\nType: " ++ inBackticks p.detail ++
    if p.info.isEmpty then "" else "\n\n" ++ p.info

/-- Among aggregations the aggregation of a name counts, elsewhere the query. Bool clauses and keys
of the search body count only where they stand. -/
def textFor (word : String) (kind : ContextKind) : Option String :=
  let query := (query? word).map fun c => clauseText c "query"
  let aggregation := (aggregation? word).map fun c => clauseText c "aggregation"
  let boolClause :=
    if kind = .bool then
      (boolClauses.find? (·.name == word)).map fun p => propertyText p "bool clause"
    else none
  let rootProperty :=
    if kind = .root then
      (rootProperties.find? (·.name == word)).map fun p => propertyText p "search body"
    else none
  let preferred := if kind = .aggs ∨ kind = .aggDef then aggregation else none
  preferred.or (query.or (boolClause.or (aggregation.or rootProperty)))

/-- What is shown at a position. The context is that of the start of the word. -/
def ofPosition? (u : ColumnUnit) (text : String) (p : Position) : Option Hover :=
  let cs := text.toList
  let (start, stop) := wordBounds cs (p.offsetIn u text)
  if start = stop then none
  else
    let word := String.ofList ((cs.take stop).drop start)
    (textFor word (contextAt text start).kind).map fun value =>
      ⟨value, .ofOffsets u text start stop⟩

end Hover

end QueryAssist
