import QueryAssist.Text.Percent
import QueryAssist.Workspace.Host
/-!
# File URIs

The path that a file URI stands for. An authority becomes the start of a path with two slashes, and
a drive letter loses the slash before it.
-/

namespace QueryAssist.Workspace

inductive UriFault
  | misplacedBrackets
  | host (fault : HostFault)
  | confusable (authority : String)
  deriving DecidableEq, Repr

def UriFault.message : UriFault → String
  | misplacedBrackets => "Invalid IPv6 URL"
  | host fault => fault.message
  | confusable authority =>
      "netloc '" ++ authority ++ "' contains invalid characters under NFKC normalization"

namespace Uri

def fileScheme : List Char :=
  ['f', 'i', 'l', 'e', ':', '/', '/']

def isDropped (c : Char) : Bool :=
  c == '\t' || c == '\r' || c == '\n'

def endsAuthority (c : Char) : Bool :=
  c == '/' || c == '?' || c == '#'

def endsPath (c : Char) : Bool :=
  c == '?' || c == '#'

/-- Characters whose compatibility form holds one that delimits the parts of a URI. -/
def confusables : List Nat := [
  0x2047, 0x2048, 0x2049, 0x2100, 0x2101, 0x2105, 0x2106, 0x2A74, 0xFE13, 0xFE16, 0xFE55, 0xFE56,
  0xFE5F, 0xFE6B, 0xFF03, 0xFF0F, 0xFF1A, 0xFF1F, 0xFF20]

/-- What follows the user, who ends with the last at sign. -/
def hostAndPort (authority : List Char) : List Char :=
  (authority.reverse.takeWhile (· != '@')).reverse

/-- The host without its port. A bracketed one starts at the first character, and only a colon may
follow it. -/
def hostOf? (cs : List Char) : Option (List Char) :=
  match cs with
  | '[' :: inner =>
      let host := inner.takeWhile (· != ']')
      match inner.drop (host.length + 1) with
      | [] | ':' :: _ => some host
      | _ => none
  | _ => if cs.contains '[' then none else some (cs.takeWhile (· != ':'))

/-- An opening bracket calls for a closing one and the other way round. Where there are any, also in
the name of a user, the host has to be one that may stand in brackets. -/
def bracketFault? (authority : List Char) : Option UriFault :=
  if authority.contains '[' != authority.contains ']' then some .misplacedBrackets
  else if authority.contains '[' then
    match hostOf? (hostAndPort authority) with
    | some host => (Host.fault? host).map .host
    | none => some .misplacedBrackets
  else none

def confusableFault? (authority : List Char) : Option UriFault :=
  if authority.any fun c => confusables.contains c.toNat then
    some (.confusable (String.ofList authority))
  else none

def authorityFault? (authority : List Char) : Option UriFault :=
  (bracketFault? authority).or (confusableFault? authority)

def dropDriveSlash : List Char → List Char
  | '/' :: letter :: ':' :: rest => letter :: ':' :: rest
  | cs => cs

def pathOf (cs : List Char) : Except UriFault (List Char) :=
  let cs := cs.filter fun c => !isDropped c
  let authority := cs.takeWhile fun c => !endsAuthority c
  let path := (cs.drop authority.length).takeWhile fun c => !endsPath c
  match authorityFault? authority with
  | some fault => .error fault
  | none =>
      .ok (dropDriveSlash
        ((if authority.isEmpty then [] else '/' :: '/' :: authority) ++ Text.unescape path))

end Uri

end QueryAssist.Workspace
