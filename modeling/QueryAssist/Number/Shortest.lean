import QueryAssist.Number.Binary64
/-!
# Shortest decimals

The decimal with the fewest digits that rounds to a given number, and of those the nearest one.
-/

namespace QueryAssist.Number

/-- A finite positive number `value = mantissa * 2 ^ exponent` and the bounds of what rounds to it,
all as numerators over one denominator. -/
structure Rounding where
  low : Nat
  value : Nat
  high : Nat
  den : Nat
  closed : Bool

/-- Half the distance to the next number on either side. Below a power of two numbers are twice as
close. The bounds themselves round to the number exactly when its mantissa is even. -/
def Rounding.of (mantissa : Nat) (exponent : Int) : Rounding :=
  let up := Nat.pow 2 exponent.toNat
  let den := 4 * Nat.pow 2 (-exponent).toNat
  let below :=
    if 2 * mantissa = Binary64.mantissaBound ∧ Binary64.minExponent < exponent then 1 else 2
  ⟨(4 * mantissa - below) * up, 4 * mantissa * up, (4 * mantissa + 2) * up, den,
    mantissa % 2 == 0⟩

def Rounding.holds (r : Rounding) (num den : Nat) : Bool :=
  let n := num * r.den
  if r.closed then decide (r.low * den ≤ n ∧ n ≤ r.high * den)
  else decide (r.low * den < n ∧ n < r.high * den)

def leadingExponent (num den : Nat) : Int :=
  if den ≤ num then Binary64.digitCount (num / den) - 1
  else
    let d := Binary64.digitCount (den / num)
    if den ≤ num * Nat.pow 10 (d - 1) then -((d : Int) - 1) else -(d : Int)

structure Decimal where
  digits : Nat
  exponent : Int
  deriving DecidableEq, Repr

def Decimal.ratio (d : Decimal) : Nat × Nat :=
  (d.digits * Nat.pow 10 d.exponent.toNat, Nat.pow 10 (-d.exponent).toNat)

/-- The neighbours of the number among the multiples of `10 ^ exponent`, the lower one first. -/
def Rounding.neighbours (r : Rounding) (exponent : Int) : Decimal × Decimal :=
  let digits := r.value * Nat.pow 10 (-exponent).toNat / (r.den * Nat.pow 10 exponent.toNat)
  (⟨digits, exponent⟩, ⟨digits + 1, exponent⟩)

/-- The neighbour that rounds to the number; if both do, the nearer one, and of two equally near
ones that with an even last digit. -/
def Rounding.hit? (r : Rounding) (exponent : Int) : Option Decimal :=
  let (below, above) := r.neighbours exponent
  let (n₀, d₀) := below.ratio
  let (n₁, d₁) := above.ratio
  match r.holds n₀ d₀, r.holds n₁ d₁ with
  | false, false => none
  | true, false => some below
  | false, true => some above
  | true, true =>
      let twice := 2 * r.value * d₀
      let middle := (n₀ + n₁) * r.den
      if twice < middle ∨ (twice = middle ∧ below.digits % 2 = 0) then some below else some above

/-- Tries ever finer grids; seventeen digits always suffice. -/
def Rounding.firstHit (r : Rounding) (exponent : Int) : Nat → Decimal
  | 0 => (r.neighbours exponent).1
  | finer + 1 => (r.hit? exponent).getD (r.firstHit (exponent - 1) finer)

def Decimal.trim (exponent : Int) : Nat → Nat → Decimal
  | 0, digits => ⟨digits, exponent⟩
  | steps + 1, digits =>
      if digits ≠ 0 ∧ digits % 10 = 0 then trim (exponent + 1) steps (digits / 10)
      else ⟨digits, exponent⟩

def shortest (mantissa : Nat) (exponent : Int) : Decimal :=
  let r := Rounding.of mantissa exponent
  let found := r.firstHit (leadingExponent r.value r.den) 17
  Decimal.trim found.exponent 20 found.digits

/-- How a number is laid out. The point stands `p` digits after the start of the digits; where `p`
is outside the two bounds the number is written with an exponent. -/
structure Layout where
  pointAfter : Int
  pointUpTo : Int
  exponentDigits : Nat

def padLeft (width : Nat) (mark : Char) (cs : List Char) : List Char :=
  List.replicate (width - cs.length) mark ++ cs

def Layout.positional (digits : List Char) (point : Int) : List Char :=
  if point ≤ 0 then '0' :: '.' :: List.replicate (-point).toNat '0' ++ digits
  else
    let whole := point.toNat
    if digits.length ≤ whole then
      digits ++ List.replicate (whole - digits.length) '0' ++ ['.', '0']
    else digits.take whole ++ '.' :: digits.drop whole

def Layout.scientific (l : Layout) (digits : List Char) (point : Int) : List Char :=
  let exponent := point - 1
  let fraction := digits.drop 1
  digits.take 1 ++ (if fraction.isEmpty then [] else '.' :: fraction) ++
    'e' :: (if exponent < 0 then '-' else '+') ::
      padLeft l.exponentDigits '0' (Nat.toDigits 10 exponent.natAbs)

def Layout.decimal (l : Layout) (d : Decimal) : List Char :=
  let digits := Nat.toDigits 10 d.digits
  let point := d.exponent + digits.length
  if l.pointAfter < point ∧ point ≤ l.pointUpTo then Layout.positional digits point
  else l.scientific digits point

end QueryAssist.Number
