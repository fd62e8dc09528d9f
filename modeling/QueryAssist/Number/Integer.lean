import QueryAssist.Text.Blank
import QueryAssist.Text.Digit
/-!
# Integers in text

An integer may have blanks around it and a sign, digits of any script, and single underscores
between digits. Integers of more than 4300 digits are refused.
-/

namespace QueryAssist.Number

open QueryAssist.Text

/-- Of the control characters only those from tab to carriage return count as blanks here. -/
def isMargin (c : Char) : Bool :=
  isBlank c && !(0x1C ≤ c.toNat && c.toNat ≤ 0x1F)

def maxDigits : Nat := 4300

inductive IntegerFault
  | malformed
  | tooLong (digits : Nat)
  deriving DecidableEq, Repr

/-- Reads digits; an underscore has to stand between two of them. -/
def digitsFrom (value : Nat) (afterDigit : Bool) : List Char → Option Nat
  | [] => if afterDigit then some value else none
  | c :: rest =>
      match digitValue? c with
      | some d => digitsFrom (value * 10 + d) true rest
      | none => if c = '_' && afterDigit then digitsFrom value false rest else none

def readInteger (cs : List Char) : Except IntegerFault Int :=
  let (negative, body) :=
    match cs.dropWhile isMargin with
    | '-' :: rest => (true, rest)
    | '+' :: rest => (false, rest)
    | rest => (false, rest)
  let run := body.takeWhile fun c => isDigit c || c == '_'
  match digitsFrom 0 false run with
  | none => .error .malformed
  | some value =>
      let count := (run.filter isDigit).length
      if maxDigits < count then .error (.tooLong count)
      else if (body.drop run.length).all isMargin then
        .ok (if negative then -(value : Int) else value)
      else .error .malformed

end QueryAssist.Number
