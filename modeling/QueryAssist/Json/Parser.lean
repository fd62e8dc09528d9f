import QueryAssist.Json.Basic
import QueryAssist.Keyed
import QueryAssist.Number.Integer
import QueryAssist.Text.Percent
/-!
# Reading JSON

A reader of whole JSON texts. It also takes NaN, Infinity and -Infinity as numbers. Inside, a reader
gives what it read with the text after it, and a fault carries the text from where it was found;
`parse` turns that into an offset.
-/

namespace QueryAssist.Json

open Number

inductive Reason
  | byteOrderMark
  | value
  | propertyName
  | colon
  | comma
  | unterminated
  | control
  | escape
  | unicodeEscape
  | extraData
  deriving DecidableEq, Repr

def Reason.message : Reason → String
  | byteOrderMark => "Unexpected UTF-8 BOM (decode using utf-8-sig)"
  | value => "Expecting value"
  | propertyName => "Expecting property name enclosed in double quotes"
  | colon => "Expecting ':' delimiter"
  | comma => "Expecting ',' delimiter"
  | unterminated => "Unterminated string starting at"
  | control => "Invalid control character at"
  | escape => "Invalid \\escape"
  | unicodeEscape => "Invalid \\uXXXX escape"
  | extraData => "Extra data"

inductive Container
  | array
  | object
  deriving DecidableEq, Repr

def Container.name : Container → String
  | array => "array"
  | object => "object"

inductive Fault
  | found (reason : Reason) (rest : List Char)
  | longInteger (digits : Nat)
  | tooDeep (container : Container)

def isSpacing (c : Char) : Bool :=
  c == ' ' || c == '\t' || c == '\n' || c == '\r'

def skipSpacing (cs : List Char) : List Char :=
  cs.dropWhile isSpacing

/-- Reads four hexadecimal digits that do not end the text. -/
def unicodeEscape? : List Char → Option Nat
  | a :: b :: c :: d :: _ :: _ => do
      let h₃ ← Text.hexValue? a
      let h₂ ← Text.hexValue? b
      let h₁ ← Text.hexValue? c
      let h₀ ← Text.hexValue? d
      return ((h₃ * 16 + h₂) * 16 + h₁) * 16 + h₀
  | _ => none

def shortEscape? : Char → Option Char
  | '"' => some '"'
  | '\\' => some '\\'
  | '/' => some '/'
  | 'b' => some '\x08'
  | 'f' => some '\x0C'
  | 'n' => some '\n'
  | 'r' => some '\r'
  | 't' => some '\t'
  | _ => none

/-- The code points of a string body up to its closing quote, those of `read` first, in reverse. The
text from the opening quote on is `opening`. -/
def readBody (opening : List Char) (read : List Nat) :
    List Char → Except Fault (List Nat × List Char)
  | [] => .error (.found .unterminated opening)
  | c :: rest =>
      if c = '"' then .ok (read.reverse, rest)
      else if c = '\\' then
        match rest with
        | [] => .error (.found .unterminated opening)
        | e :: more =>
            if e = 'u' then
              match more with
              | a :: b :: c :: d :: after =>
                  match unicodeEscape? (a :: b :: c :: d :: after) with
                  | some code => readBody opening (code :: read) after
                  | none => .error (.found .unicodeEscape rest)
              | _ => .error (.found .unicodeEscape rest)
            else
              match shortEscape? e with
              | some d => readBody opening (d.toNat :: read) more
              | none => .error (.found .escape (c :: rest))
      else if c.toNat < 0x20 then .error (.found .control (c :: rest))
      else readBody opening (c.toNat :: read) rest

def isHighSurrogate (code : Nat) : Bool :=
  0xD800 ≤ code && code ≤ 0xDBFF

def isLowSurrogate (code : Nat) : Bool :=
  0xDC00 ≤ code && code ≤ 0xDFFF

/-- A surrogate alone is no character. A private character stands for it, one for each, so that texts
in which others stand alone stay different. -/
def loneSurrogate (code : Nat) : Char :=
  Char.ofNat (0x10F800 + (code - 0xD800))

def charOfCode (code : Nat) : Char :=
  if isHighSurrogate code || isLowSurrogate code then loneSurrogate code else Char.ofNat code

/-- A high surrogate joins the low one after it. -/
def joinSurrogates : List Nat → List Char
  | [] => []
  | high :: low :: rest =>
      if isHighSurrogate high && isLowSurrogate low then
        Char.ofNat (0x10000 + (high - 0xD800) * 0x400 + (low - 0xDC00)) :: joinSurrogates rest
      else charOfCode high :: joinSurrogates (low :: rest)
  | [code] => [charOfCode code]

/-- Reads a string whose opening quote is the first character of `'"' :: rest`. -/
def readString (rest : List Char) : Except Fault (String × List Char) := do
  let (codes, after) ← readBody ('"' :: rest) [] rest
  return (String.ofList (joinSurrogates codes), after)

def isAsciiDigit (c : Char) : Bool :=
  '0' ≤ c && c ≤ '9'

def naturalOf (digits : List Char) : Nat :=
  digits.foldl (fun n c => n * 10 + (c.toNat - 0x30)) 0

def wholeDigits? : List Char → Option (List Char × List Char)
  | '0' :: rest => some (['0'], rest)
  | cs => if (cs.takeWhile isAsciiDigit).isEmpty then none else some (cs.span isAsciiDigit)

/-- A point and digits after it; a point without digits is not read. -/
def fractionDigits : List Char → List Char × List Char
  | '.' :: rest =>
      match rest.span isAsciiDigit with
      | ([], _) => ([], '.' :: rest)
      | (digits, after) => (digits, after)
  | cs => ([], cs)

/-- An exponent mark with digits after it; a mark without digits is not read. -/
def exponent? (cs : List Char) : Option (Int × List Char) :=
  match cs with
  | [] => none
  | mark :: rest =>
      if mark = 'e' || mark = 'E' then
        let (negative, body) :=
          match rest with
          | '-' :: more => (true, more)
          | '+' :: more => (false, more)
          | _ => (false, rest)
        match body.span isAsciiDigit with
        | ([], _) => none
        | (digits, after) =>
            let n : Int := naturalOf digits
            some (if negative then -n else n, after)
      else none

/-- A number without fraction and exponent is an integer. -/
def readNumber (cs : List Char) : Except Fault (Json × List Char) :=
  let (negative, body) :=
    match cs with
    | '-' :: rest => (true, rest)
    | _ => (false, cs)
  match wholeDigits? body with
  | none => .error (.found .value cs)
  | some (whole, afterWhole) =>
      let (fraction, afterFraction) := fractionDigits afterWhole
      let exponent := exponent? afterFraction
      if fraction.isEmpty && exponent.isNone then
        if maxDigits < whole.length then .error (.longInteger whole.length)
        else
          let n : Int := naturalOf whole
          .ok (int (if negative then -n else n), afterWhole)
      else
        let (scale, after) := exponent.getD (0, afterFraction)
        .ok (float (Binary64.ofDecimal negative (naturalOf (whole ++ fraction))
          (scale - fraction.length)), after)

def words : List (String × Json) :=
  [("null", null), ("true", bool true), ("false", bool false), ("NaN", float .nan),
    ("Infinity", float (.infinite false)), ("-Infinity", float (.infinite true))]

def readWord? (cs : List Char) : Option (Json × List Char) :=
  (words.find? fun entry => entry.1.toList.isPrefixOf cs).map fun entry =>
    (entry.2, cs.drop entry.1.length)

mutual

/-- Each call takes one unit of `fuel`, and every second one at least a character. Below the value
there is `room` for that many containers inside one another. -/
def readValue (room : Nat) : Nat → List Char → Except Fault (Json × List Char)
  | 0, cs => .error (.found .value cs)
  | fuel + 1, cs =>
      match cs with
      | '"' :: rest => do
          let (s, after) ← readString rest
          return (str s, after)
      | '\x7b' :: rest =>
          if room = 0 then .error (.tooDeep .object)
          else
            match skipSpacing rest with
            | '\x7d' :: after => .ok (obj [], after)
            | body => readMembers (room - 1) fuel [] body
      | '[' :: rest =>
          if room = 0 then .error (.tooDeep .array)
          else
            match skipSpacing rest with
            | ']' :: after => .ok (arr [], after)
            | body => readItems (room - 1) fuel [] body
      | _ =>
          match readWord? cs with
          | some (v, after) => .ok (v, after)
          | none => readNumber cs

/-- Of members with one name the last value counts, at the place of the first. -/
def readMembers (room : Nat) :
    Nat → List (String × Json) → List Char → Except Fault (Json × List Char)
  | 0, _, cs => .error (.found .value cs)
  | fuel + 1, members, cs =>
      match cs with
      | '"' :: rest => do
          let (key, afterKey) ← readString rest
          match skipSpacing afterKey with
          | ':' :: more => do
              let (v, afterValue) ← readValue room fuel (skipSpacing more)
              let members := Keyed.put key v members
              match skipSpacing afterValue with
              | '\x7d' :: after => .ok (obj members, after)
              | ',' :: after => readMembers room fuel members (skipSpacing after)
              | found => .error (.found .comma found)
          | found => .error (.found .colon found)
      | _ => .error (.found .propertyName cs)

/-- The items read so far are in reverse order. -/
def readItems (room : Nat) : Nat → List Json → List Char → Except Fault (Json × List Char)
  | 0, _, cs => .error (.found .value cs)
  | fuel + 1, items, cs => do
      let (v, afterValue) ← readValue room fuel cs
      let items := v :: items
      match skipSpacing afterValue with
      | ']' :: after => .ok (arr items.reverse, after)
      | ',' :: after => readItems room fuel items (skipSpacing after)
      | found => .error (.found .comma found)

end

def readText (room : Nat) (cs : List Char) : Except Fault Json :=
  match cs with
  | '\uFEFF' :: _ => .error (.found .byteOrderMark cs)
  | _ => do
      let (v, after) ← readValue room (2 * cs.length + 2) (skipSpacing cs)
      match skipSpacing after with
      | [] => return v
      | rest => .error (.found .extraData rest)

inductive ParseError
  | malformed (reason : Reason) (offset line column : Nat)
  | longInteger (digits : Nat)
  | tooDeep (container : Container)
  deriving DecidableEq, Repr

def ParseError.at (reason : Reason) (before : List Char) : ParseError :=
  .malformed reason before.length (before.count '\n' + 1)
    ((before.reverse.takeWhile (· ≠ '\n')).length + 1)

def Fault.locate (cs : List Char) : Fault → ParseError
  | .found reason rest => .at reason (cs.take (cs.length - rest.length))
  | .longInteger digits => .longInteger digits
  | .tooDeep container => .tooDeep container

/-- How many containers may stand inside one another is up to the reader's caller. -/
def parse (room : Nat) (cs : List Char) : Except ParseError Json :=
  (readText room cs).mapError (Fault.locate cs)

end QueryAssist.Json
