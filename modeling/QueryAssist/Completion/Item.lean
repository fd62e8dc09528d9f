import QueryAssist.Completion.Provide
import QueryAssist.Number.Shortest
import QueryAssist.Position.Offset
/-!
# Completion items

Candidates as clients take them: with a kind and a format by number, a text to sort by, and the
range that the inserted text replaces.
-/

namespace QueryAssist.Completion

inductive ItemKind
  | text
  | function
  | field
  | property
  | keyword
  | snippet
  | enumMember
  deriving DecidableEq, Repr

namespace ItemKind

def code : ItemKind → Nat
  | text => 1
  | function => 3
  | field => 5
  | property => 10
  | keyword => 14
  | snippet => 15
  | enumMember => 20

def ofName : String → ItemKind
  | "property" => property
  | "query_type" => keyword
  | "agg_type" => function
  | "field" => field
  | "keyword" => keyword
  | "value" => enumMember
  | "snippet" => snippet
  | _ => text

end ItemKind

inductive InsertFormat
  | plainText
  | snippet
  deriving DecidableEq, Repr

def InsertFormat.code : InsertFormat → Nat
  | plainText => 1
  | snippet => 2

structure Item where
  label : String
  kind : ItemKind
  detail : Option String
  documentation : Option String
  sortText : String
  filterText : String
  format : InsertFormat
  range : Range
  newText : String
  deriving DecidableEq, Repr

/-- At least five characters, with zeros after a minus sign. -/
def sortKey (index : Int) : String :=
  let digits := Nat.toDigits 10 index.natAbs
  String.ofList
    (if index < 0 then '-' :: Number.padLeft 4 '0' digits else Number.padLeft 5 '0' digits)

def Item.ofCandidate (c : Candidate) (index : Int) (range : Range) : Item :=
  { label := c.label
    kind := .ofName c.kind.name
    detail := c.detail
    documentation := c.info.bind nonEmpty
    sortText := sortKey index
    filterText := c.label
    format := if c.template.isSome then .snippet else .plainText
    range
    newText := c.insertText }

def itemsFrom (range : Range) (index : Nat) : List Candidate → List Item
  | [] => []
  | c :: rest => .ofCandidate c index range :: itemsFrom range (index + 1) rest

/-- The completions at a position of a document. All of them replace the word before the cursor. -/
def complete (u : ColumnUnit) (text : String) (p : Position) (data : Option Snapshot)
    (explicit : Bool) : Option (List Item) :=
  let offset := p.offsetIn u text
  (provide text offset data explicit).map fun found =>
    itemsFrom (.ofOffsets u text found.start offset) 0 found.options

/-- Items as clients take them. As more is typed, a client narrows down a list that is complete by
itself, and asks again for one that is not. -/
structure CompletionList where
  isIncomplete : Bool
  items : List Item
  deriving DecidableEq, Repr

/-- Lists are sent as complete, also where the fields in them are only the first ones. -/
def CompletionList.ofItems (items : List Item) : CompletionList :=
  ⟨false, items⟩

def completionList (u : ColumnUnit) (text : String) (p : Position) (data : Option Snapshot)
    (explicit : Bool) : Option CompletionList :=
  (complete u text p data explicit).map .ofItems

end QueryAssist.Completion
