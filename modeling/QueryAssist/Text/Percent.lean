import QueryAssist.Text.Utf8
/-!
# Percent escapes

Each run of escapes is the UTF-8 form of a piece of text. Bytes that are no UTF-8 become U+FFFD, and
a percent sign without two hexadecimal digits stands for itself.
-/

namespace QueryAssist.Text

def hexValue? (c : Char) : Option Nat :=
  if '0' ≤ c ∧ c ≤ '9' then some (c.toNat - 0x30)
  else if 'a' ≤ c ∧ c ≤ 'f' then some (c.toNat - 0x57)
  else if 'A' ≤ c ∧ c ≤ 'F' then some (c.toNat - 0x37)
  else none

def escapedByte? (c : Char) (rest : List Char) : Option UInt8 :=
  match c, rest with
  | '%', high :: low :: _ => do
      let h ← hexValue? high
      let l ← hexValue? low
      return UInt8.ofNat (16 * h + l)
  | _, _ => none

/-- The bytes of the escapes just read are in `run`, the last one first. -/
def unescapeFrom (run : List UInt8) : List Char → List Char
  | [] => Utf8.decodeLossy run.reverse
  | c :: rest =>
      match escapedByte? c rest with
      | some byte => unescapeFrom (byte :: run) (rest.drop 2)
      | none => Utf8.decodeLossy run.reverse ++ c :: unescapeFrom [] rest
termination_by cs => cs.length
decreasing_by all_goals (simp; try omega)

def unescape (cs : List Char) : List Char :=
  unescapeFrom [] cs

end QueryAssist.Text
