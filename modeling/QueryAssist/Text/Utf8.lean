/-!
# Reading UTF-8

Well-formed sequences are those of the standard: shortest form, no surrogates, nothing above
U+10FFFF. A fault is found at the first byte that rules a sequence out, and covers the bytes of the
sequence before it. `decode` refuses a text at its first fault, `decodeLossy` writes U+FFFD for
each.
-/

namespace QueryAssist.Text.Utf8

inductive Reason
  | badStart
  | badContinuation
  | truncated
  deriving DecidableEq, Repr

def Reason.message : Reason → String
  | .badStart => "invalid start byte"
  | .badContinuation => "invalid continuation byte"
  | .truncated => "unexpected end of data"

/-- What the first byte of a sequence carries, and the bounds of each byte that has to follow. -/
def lead? (byte : Nat) : Option (Nat × List (Nat × Nat)) :=
  let any := (0x80, 0xBF)
  if byte < 0x80 then some (byte, [])
  else if byte < 0xC2 then none
  else if byte < 0xE0 then some (byte - 0xC0, [any])
  else if byte = 0xE0 then some (byte - 0xE0, [(0xA0, 0xBF), any])
  else if byte = 0xED then some (byte - 0xE0, [(0x80, 0x9F), any])
  else if byte < 0xF0 then some (byte - 0xE0, [any, any])
  else if byte = 0xF0 then some (byte - 0xF0, [(0x90, 0xBF), any, any])
  else if byte < 0xF4 then some (byte - 0xF0, [any, any, any])
  else if byte = 0xF4 then some (byte - 0xF0, [(0x80, 0x8F), any, any])
  else none

structure Malformed where
  reason : Reason
  length : Nat
  deriving DecidableEq, Repr

/-- Reads the bytes that follow the first one; `length` counts the bytes read so far. -/
def follow (value length : Nat) : List (Nat × Nat) → List UInt8 → Except Malformed (Char × Nat)
  | [], _ => .ok (Char.ofNat value, length)
  | _ :: _, [] => .error ⟨.truncated, length⟩
  | (low, high) :: bounds, byte :: rest =>
      if low ≤ byte.toNat ∧ byte.toNat ≤ high then
        follow (value * 64 + (byte.toNat - 0x80)) (length + 1) bounds rest
      else .error ⟨.badContinuation, length⟩

def first (byte : UInt8) (rest : List UInt8) : Except Malformed (Char × Nat) :=
  match lead? byte.toNat with
  | none => .error ⟨.badStart, 1⟩
  | some (value, bounds) => follow value 1 bounds rest

structure Fault where
  reason : Reason
  start : Nat
  length : Nat
  byte : UInt8
  deriving DecidableEq, Repr

def decodeFrom (start : Nat) : List UInt8 → Except Fault (List Char)
  | [] => .ok []
  | byte :: rest =>
      match first byte rest with
      | .error fault => .error ⟨fault.reason, start, fault.length, byte⟩
      | .ok (c, length) => do
          let cs ← decodeFrom (start + length) (rest.drop (length - 1))
          return c :: cs
termination_by bytes => bytes.length
decreasing_by
  simp only [List.length_drop, List.length_cons]
  omega

def decode (bytes : List UInt8) : Except Fault (List Char) :=
  decodeFrom 0 bytes

def decodeLossy : List UInt8 → List Char
  | [] => []
  | byte :: rest =>
      match first byte rest with
      | .error fault => '\uFFFD' :: decodeLossy (rest.drop (fault.length - 1))
      | .ok (c, length) => c :: decodeLossy (rest.drop (length - 1))
termination_by bytes => bytes.length
decreasing_by
  all_goals
    simp only [List.length_drop, List.length_cons]
    omega

end QueryAssist.Text.Utf8
