import QueryAssist.Position.Basic
/-!
# Positions and offsets

An offset counts the characters before a place in a document. Positions past the end of a line stand
for its end, before a carriage return that ends it, and lines past the last one for the end of the
document.
-/

namespace QueryAssist

def lengthWithFeeds : List (List Char) → Nat
  | [] => 0
  | line :: rest => line.length + 1 + lengthWithFeeds rest

def dropReturn (line : List Char) : List Char :=
  if line.getLast? = some '\r' then line.dropLast else line

namespace ColumnUnit

/-- The number of characters that make up the given columns, or those of the whole line. A column
inside a character lies behind it. -/
def charsUpTo (u : ColumnUnit) : Nat → List Char → Nat
  | _, [] => 0
  | 0, _ :: _ => 0
  | columns + 1, c :: rest => u.charsUpTo (columns + 1 - u.width c) rest + 1

end ColumnUnit

namespace Position

def offsetInChars (p : Position) (u : ColumnUnit) (text : List Char) : Nat :=
  let lines := text.splitOn '\n'
  match lines[p.line]? with
  | none => text.length
  | some line =>
      lengthWithFeeds (lines.take p.line) + u.charsUpTo p.character (dropReturn line)

def offsetIn (p : Position) (u : ColumnUnit) (text : String) : Nat :=
  p.offsetInChars u text.toList

def afterChars (u : ColumnUnit) (before : List Char) : Position :=
  ⟨before.count '\n', u.measure (before.reverse.takeWhile (· != '\n')).reverse⟩

/-- The position of an offset, which is moved into the document if it lies outside. -/
def ofOffset (u : ColumnUnit) (text : String) (offset : Int) : Position :=
  afterChars u (text.toList.take offset.toNat)

end Position

def Range.ofOffsets (u : ColumnUnit) (text : String) (start stop : Int) : Range :=
  ⟨.ofOffset u text start, .ofOffset u text stop⟩

end QueryAssist
