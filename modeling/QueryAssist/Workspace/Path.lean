/-!
# Paths

Paths are read into their parts without looking at any file: empty parts and single points drop out,
double points stay, and exactly two slashes at the start are kept apart from one.
-/

namespace QueryAssist.Workspace

inductive Anchor
  | relative
  | slash
  | doubleSlash
  deriving DecidableEq, Repr

structure Path where
  anchor : Anchor
  parts : List String
  deriving DecidableEq, Repr

def Anchor.text : Anchor → String
  | relative => ""
  | slash => "/"
  | doubleSlash => "//"

def Anchor.ofSlashes : Nat → Anchor
  | 0 => relative
  | 2 => doubleSlash
  | _ => slash

namespace Path

def isPart (part : List Char) : Bool :=
  part != [] && part != ['.']

def ofChars (cs : List Char) : Path :=
  let slashes := cs.takeWhile (· == '/')
  ⟨.ofSlashes slashes.length,
    (((cs.drop slashes.length).splitOn '/').filter isPart).map String.ofList⟩

def ofString (s : String) : Path :=
  ofChars s.toList

/-- A path without parts is the root or the current directory. -/
def text (p : Path) : String :=
  if p.anchor = .relative ∧ p.parts = [] then "." else p.anchor.text ++ "/".intercalate p.parts

def isAbsolute (p : Path) : Bool :=
  p.anchor != .relative

def below (base p : Path) : Path :=
  { base with parts := base.parts ++ p.parts }

/-- The last part without its last suffix. A point at the start or the end begins no suffix. -/
def stem (p : Path) : String :=
  let name := ((p.parts.getLast?).getD "").toList
  let suffix := name.reverse.takeWhile (· != '.')
  let stemLength := name.length - suffix.length - 1
  if suffix.length < name.length ∧ 0 < stemLength ∧ suffix ≠ [] then
    String.ofList (name.take stemLength)
  else String.ofList name

/-- A tilde as first part of a relative path stands for the home directory. Those of other users are
not known. -/
def expandHome? (p : Path) (home : String) : Option Path :=
  match p.anchor, p.parts with
  | .relative, first :: rest =>
      if first = "~" then some ((ofString home).below ⟨.relative, rest⟩)
      else if first.toList.head? = some '~' then none
      else some p
  | _, _ => some p

end Path

end QueryAssist.Workspace
