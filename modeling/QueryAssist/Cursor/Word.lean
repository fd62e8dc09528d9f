import QueryAssist.Cursor.Scan
import QueryAssist.Text.Blank
/-!
# The word at the cursor

What can be told from the characters before the cursor alone: the word that is being typed, whether
a string is open, and whether a colon comes right before.
-/

namespace QueryAssist.Cursor

def isDelimiter (c : Char) : Bool :=
  [' ', '\t', '\r', '\n', '\x0C', '\x0B', '\x7b', '\x7d', '[', ']', ':', ',', '"'].contains c

/-- The longest end of the text without a delimiter. -/
def wordEnding (cs : List Char) : List Char :=
  (cs.reverse.takeWhile fun c => !isDelimiter c).reverse

structure QuoteState where
  inside : Bool
  escaped : Bool
  deriving DecidableEq, Repr

def QuoteState.step (q : QuoteState) (c : Char) : QuoteState :=
  if q.inside && q.escaped then { q with escaped := false }
  else if q.inside && c == '\\' then { q with escaped := true }
  else if c = '"' then { q with inside := !q.inside }
  else q

def endsInString (cs : List Char) : Bool :=
  (cs.foldl QuoteState.step ⟨false, false⟩).inside

/-- Looks back over blanks and quotes for a colon; the list begins with the last character. -/
def meetsColon : List Char → Bool
  | [] => false
  | c :: rest =>
      if c = ':' then true
      else if c = ',' ∨ c = '\x7b' ∨ c = '[' then false
      else if Text.isBlank c ∨ c = '"' then meetsColon rest
      else false

def endsAfterColon (cs : List Char) : Bool :=
  meetsColon cs.reverse

def currentWord (text : String) (cursor : Int) : String :=
  String.ofList (wordEnding (before text cursor))

def isInString (text : String) (cursor : Int) : Bool :=
  endsInString (before text cursor)

def isAfterColon (text : String) (cursor : Int) : Bool :=
  endsAfterColon (before text cursor)

end QueryAssist.Cursor
