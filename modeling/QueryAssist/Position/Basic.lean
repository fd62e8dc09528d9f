/-!
# Positions

A place in a document as a line and a column, both from zero, and the units in which a client counts
columns.
-/

namespace QueryAssist

structure Position where
  line : Nat
  character : Nat
  deriving DecidableEq, Repr

structure Range where
  start : Position
  stop : Position
  deriving DecidableEq, Repr

inductive PositionError
  | line (given : Int)
  | character (given : Int)
  deriving DecidableEq, Repr

namespace Position

def bound : Int := 2147483647

def inBounds (n : Int) : Bool :=
  decide (0 ≤ n ∧ n ≤ bound)

/-- The line is looked at first. -/
def ofInts (line character : Int) : Except PositionError Position :=
  if !inBounds line then .error (.line line)
  else if !inBounds character then .error (.character character)
  else .ok ⟨line.toNat, character.toNat⟩

end Position

def PositionError.message : PositionError → String
  | line given =>
      "Position.line should be in range [0:2147483647], but was " ++ toString given ++ "."
  | character given =>
      "Position.character should be in range [0:2147483647], but was " ++ toString given ++ "."

inductive ColumnUnit
  | codePoint
  | utf16
  | utf8
  deriving DecidableEq, Repr

namespace ColumnUnit

/-- Clients that state no encoding count code points, and unknown encodings count as UTF-16. -/
def ofEncoding : Option String → ColumnUnit
  | none => codePoint
  | some "utf-32" => codePoint
  | some "utf-8" => utf8
  | some _ => utf16

/-- What a character above U+FFFF counts more than the others, which all count one. Under UTF-8,
too, the number of bytes is not what counts. -/
def astralExtra : ColumnUnit → Nat
  | codePoint => 0
  | utf16 => 1
  | utf8 => 2

def width (u : ColumnUnit) (c : Char) : Nat :=
  if 0xFFFF < c.toNat then 1 + u.astralExtra else 1

def measure (u : ColumnUnit) : List Char → Nat
  | [] => 0
  | c :: rest => u.width c + u.measure rest

end ColumnUnit

end QueryAssist
