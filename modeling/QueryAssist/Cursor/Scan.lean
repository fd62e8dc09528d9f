/-!
# Structure before the cursor

One pass over the characters before the cursor finds the containers that are open there, the keys
that lead to them, and whether a value or the rest of a string comes next. The text need not be
JSON: closers without an opener are passed over, and a closer closes the innermost container
whatever its shape.
-/

namespace QueryAssist.Cursor

inductive Opener
  | brace
  | bracket
  deriving DecidableEq, Repr

def Opener.char : Opener → Char
  | brace => '\x7b'
  | bracket => '['

/-- An open container, and whether a key went on the path with it. -/
structure Frame where
  opener : Opener
  keyed : Bool
  deriving DecidableEq, Repr

/-- A string without its closing quote: the offset of the opening one, the characters after it in
reverse, and whether the last of them escapes the next. -/
structure OpenString where
  start : Nat
  body : List Char
  escaped : Bool
  deriving DecidableEq, Repr

/-- What the pass keeps, with the innermost entry of each list first. A key is pending from the end
of its string to the container or the comma after it, and current from its colon on. -/
structure Registers where
  offset : Nat
  path : List String
  frames : List Frame
  arrayDepths : List Nat
  depth : Nat
  currentKey : Option String
  pendingKey : Option String
  expectingValue : Bool
  string : Option OpenString
  deriving DecidableEq, Repr

namespace Registers

def initial : Registers :=
  ⟨0, [], [], [], 0, none, none, false, none⟩

/-- A string becomes the pending key unless it is a value or a key is pending already. -/
def closeString (r : Registers) (s : OpenString) : Registers :=
  let key := String.ofList s.body.reverse
  { r with
    string := none
    pendingKey := if r.expectingValue then r.pendingKey else r.pendingKey.or (some key) }

def readInString (r : Registers) (s : OpenString) (c : Char) : Registers :=
  if s.escaped then { r with string := some { s with body := c :: s.body, escaped := false } }
  else if c = '\\' then { r with string := some { s with body := c :: s.body, escaped := true } }
  else if c = '"' then r.closeString s
  else { r with string := some { s with body := c :: s.body } }

/-- An opening bracket leaves it open whether a value is expected. -/
def enter (r : Registers) (opener : Opener) : Registers :=
  { r with
    path := r.pendingKey.toList ++ r.path
    frames := ⟨opener, r.pendingKey.isSome⟩ :: r.frames
    arrayDepths := if opener = .bracket then r.depth :: r.arrayDepths else r.arrayDepths
    depth := r.depth + 1
    pendingKey := none
    expectingValue := if opener = .brace then false else r.expectingValue }

def pop (r : Registers) : Registers :=
  match r.frames with
  | [] => r
  | frame :: outer =>
      { r with
        path := if frame.keyed then r.path.tail else r.path
        frames := outer
        arrayDepths := if frame.opener = .bracket then r.arrayDepths.tail else r.arrayDepths
        depth := r.depth - 1 }

def leave (r : Registers) : Registers :=
  { r.pop with expectingValue := false, pendingKey := none }

def colon (r : Registers) : Registers :=
  { r with expectingValue := true, currentKey := r.pendingKey.or r.currentKey }

def comma (r : Registers) : Registers :=
  { r with expectingValue := false, pendingKey := none, currentKey := none }

def readOutside (r : Registers) (c : Char) : Registers :=
  if c = '"' then { r with string := some ⟨r.offset, [], false⟩ }
  else if c = '\x7b' then r.enter .brace
  else if c = '[' then r.enter .bracket
  else if c = '\x7d' ∨ c = ']' then r.leave
  else if c = ':' then r.colon
  else if c = ',' then r.comma
  else r

def step (r : Registers) (c : Char) : Registers :=
  let next :=
    match r.string with
    | some s => r.readInString s c
    | none => r.readOutside c
  { next with offset := r.offset + 1 }

def run (cs : List Char) : Registers :=
  cs.foldl step initial

end Registers

/-- The place of the cursor, with the outermost entry of each list first. -/
structure Place where
  path : List String
  depth : Nat
  arrayDepths : List Nat
  currentKey : Option String
  expectingValue : Bool
  stringStart : Option Nat
  openers : List Opener
  deriving DecidableEq, Repr

namespace Place

def inArray (p : Place) : Bool :=
  !p.arrayDepths.isEmpty

def inString (p : Place) : Bool :=
  p.stringStart.isSome

def parentKey (p : Place) : Option String :=
  p.path.getLast?

end Place

def Registers.place (r : Registers) : Place :=
  { path := r.path.reverse
    depth := r.depth
    arrayDepths := r.arrayDepths.reverse
    currentKey := r.currentKey
    expectingValue := r.expectingValue
    stringStart := r.string.map (·.start)
    openers := (r.frames.map (·.opener)).reverse }

/-- The characters before the cursor, which is moved into the text if it lies outside. -/
def before (text : String) (cursor : Int) : List Char :=
  text.toList.take cursor.toNat

def scan (text : String) (cursor : Int) : Place :=
  (Registers.run (before text cursor)).place

end QueryAssist.Cursor
