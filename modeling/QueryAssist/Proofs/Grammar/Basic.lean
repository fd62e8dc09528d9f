import QueryAssist.Cursor.Scan
import QueryAssist.Json.Parser
/-!
# JSON texts

The texts of the JSON grammar, as trees that keep how they are written: the blanks between tokens,
the characters of strings with their escapes, and those of numbers. The texts of the trees are the
well-formed ones, all of them and no others.
-/

namespace QueryAssist.Grammar

open Cursor Json

/-! ## Tokens -/

inductive IsStringBody : List Char → Prop
  | nil : IsStringBody []
  | plain {c : Char} {rest : List Char} (hquote : c ≠ '"') (hescape : c ≠ '\\')
      (hcontrol : 0x20 ≤ c.toNat) (h : IsStringBody rest) : IsStringBody (c :: rest)
  | short {e : Char} {rest : List Char} (he : (shortEscape? e).isSome)
      (h : IsStringBody rest) : IsStringBody ('\\' :: e :: rest)
  | unicode {a b c d : Char} {rest : List Char}
      (hdigits : ∀ x ∈ [a, b, c, d], (Text.hexValue? x).isSome)
      (h : IsStringBody rest) : IsStringBody ('\\' :: 'u' :: a :: b :: c :: d :: rest)

def AreDigits (cs : List Char) : Prop :=
  cs ≠ [] ∧ ∀ c ∈ cs, isAsciiDigit c = true

inductive IsWhole : List Char → Prop
  | zero : IsWhole ['0']
  | positive {first : Char} {rest : List Char} (hfirst : first ≠ '0')
      (hdigits : AreDigits (first :: rest)) : IsWhole (first :: rest)

inductive IsFraction : List Char → Prop
  | absent : IsFraction []
  | present {digits : List Char} (h : AreDigits digits) : IsFraction ('.' :: digits)

inductive IsExponent : List Char → Prop
  | absent : IsExponent []
  | present {mark : Char} {sign digits : List Char} (hmark : mark ∈ ['e', 'E'])
      (hsign : sign ∈ [[], ['+'], ['-']]) (h : AreDigits digits) :
      IsExponent (mark :: (sign ++ digits))

/-- The words `null`, `true` and `false`, and the numbers. -/
inductive IsScalar : List Char → Prop
  | null : IsScalar ['n', 'u', 'l', 'l']
  | true : IsScalar ['t', 'r', 'u', 'e']
  | false : IsScalar ['f', 'a', 'l', 's', 'e']
  | number {sign whole fraction exponent : List Char} (hsign : sign ∈ [[], ['-']])
      (hwhole : IsWhole whole) (hfraction : IsFraction fraction)
      (hexponent : IsExponent exponent) : IsScalar (sign ++ whole ++ fraction ++ exponent)

structure Spacing where
  text : List Char
  blank : ∀ c ∈ text, isSpacing c = true

structure Scalar where
  text : List Char
  wellFormed : IsScalar text

structure StringToken where
  body : List Char
  wellFormed : IsStringBody body

def StringToken.text (s : StringToken) : List Char :=
  '"' :: s.body ++ ['"']

/-! ## Trees -/

def closer : Opener → Char
  | .brace => '\x7d'
  | .bracket => ']'

/-- What comes before a value in a container: a name and a colon in an object, nothing in an
array. -/
inductive Label : Opener → Type
  | element : Label .bracket
  | member (lead : Spacing) (name : StringToken) (gap : Spacing) : Label .brace

mutual

inductive Value : Type
  | scalar (s : Scalar)
  | string (s : StringToken)
  | empty (opener : Opener) (gap : Spacing)
  | group (opener : Opener) (items : Items opener)

inductive Item : Opener → Type
  | of {opener : Opener} (label : Label opener) (lead : Spacing) (value : Value)
      (trail : Spacing) : Item opener

inductive Items : Opener → Type
  | last {opener : Opener} (item : Item opener) : Items opener
  | more {opener : Opener} (item : Item opener) (rest : Items opener) : Items opener

end

structure Document where
  lead : Spacing
  value : Value
  trail : Spacing

/-! ## Texts -/

def Label.text {opener : Opener} : Label opener → List Char
  | element => []
  | member lead name gap => lead.text ++ name.text ++ gap.text ++ [':']

mutual

def Value.text : Value → List Char
  | .scalar s => s.text
  | .string s => s.text
  | .empty opener gap => opener.char :: gap.text ++ [closer opener]
  | .group opener items => opener.char :: items.text ++ [closer opener]

def Item.text {opener : Opener} : Item opener → List Char
  | .of label lead value trail => label.text ++ lead.text ++ value.text ++ trail.text

def Items.text {opener : Opener} : Items opener → List Char
  | .last item => item.text
  | .more item rest => item.text ++ ',' :: rest.text

end

def Document.text (d : Document) : List Char :=
  d.lead.text ++ d.value.text ++ d.trail.text

def Document.source (d : Document) : String :=
  String.ofList d.text

end QueryAssist.Grammar
