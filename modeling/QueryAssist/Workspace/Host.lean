import QueryAssist.Text.Percent
import QueryAssist.Text.Quoted
/-!
# Bracketed hosts

In the authority of a URI, brackets hold an IPv6 address, or the address of a later version after
the letter v.
-/

namespace QueryAssist.Workspace

inductive HostFault
  | malformedFuture
  | bracketedIPv4
  | noAddress (host : String)
  deriving DecidableEq, Repr

def HostFault.message : HostFault → String
  | malformedFuture => "IPvFuture address is invalid"
  | bracketedIPv4 => "An IPv4 address cannot be in brackets"
  | noAddress host => Text.quoted host ++ " does not appear to be an IPv4 or IPv6 address"

namespace Host

def isHex (c : Char) : Bool :=
  (Text.hexValue? c).isSome

def isOctet (cs : List Char) : Bool :=
  !cs.isEmpty && cs.all Char.isDigit && cs.length ≤ 3 && (cs == ['0'] || cs.head? != some '0') &&
    cs.foldl (fun n c => n * 10 + (c.toNat - 0x30)) 0 ≤ 255

def isIPv4 (cs : List Char) : Bool :=
  let octets := cs.splitOn '.'
  octets.length == 4 && octets.all isOctet

def isGroup (cs : List Char) : Bool :=
  !cs.isEmpty && cs.length ≤ 4 && cs.all isHex

/-- The parts between colons, with an IPv4 ending written as the two groups that it stands for. -/
def groups? (cs : List Char) : Option (List (List Char)) :=
  let parts := cs.splitOn ':'
  match parts.getLast? with
  | some last =>
      if last.contains '.' then
        if isIPv4 last then some (parts.dropLast ++ [['0'], ['0']]) else none
      else some parts
  | none => none

/-- Eight groups, or fewer with one gap between two colons, which may be at either end. -/
def isGrouped (parts : List (List Char)) : Bool :=
  let inner := (parts.drop 1).dropLast
  match inner.count [] with
  | 0 => parts.length == 8 && parts.all isGroup
  | 1 =>
      let high := parts.take (inner.takeWhile (· != []) |>.length |> (· + 1))
      let low := parts.drop (high.length + 1)
      let filled := fun (side : List (List Char)) => if side == [[]] then [] else side
      (filled high).all isGroup && (filled low).all isGroup &&
        (filled high).length + (filled low).length < 8
  | _ => false

/-- A zone may follow after one percent sign. -/
def isIPv6 (cs : List Char) : Bool :=
  match cs.splitOn '%' with
  | [address] => check address
  | [address, zone] => !zone.isEmpty && check address
  | _ => false
where
  check (address : List Char) : Bool :=
    3 ≤ (address.splitOn ':').length &&
      match groups? address with
      | some parts => parts.length ≤ 9 && isGrouped parts
      | none => false

/-- The letter v, a hexadecimal version, a point, and at least one more character. -/
def isFuture (cs : List Char) : Bool :=
  let version := (cs.drop 1).takeWhile isHex
  !version.isEmpty &&
    match cs.drop (version.length + 1) with
    | '.' :: rest => !rest.isEmpty
    | _ => false

def fault? (cs : List Char) : Option HostFault :=
  if cs.head? = some 'v' then (if isFuture cs then none else some .malformedFuture)
  else if isIPv4 cs then some .bracketedIPv4
  else if isIPv6 cs then none
  else some (.noAddress (String.ofList cs))

end Host

end QueryAssist.Workspace
