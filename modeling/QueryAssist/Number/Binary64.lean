/-!
# Binary64 numbers

Finite numbers are a natural number times a power of two. Decimal text is rounded to the nearest
one in exact arithmetic, a half to the even neighbour.
-/

namespace QueryAssist.Number

inductive Binary64
  | finite (negative : Bool) (mantissa : Nat) (exponent : Int)
  | infinite (negative : Bool)
  | nan
  deriving DecidableEq, Repr

namespace Binary64

def minExponent : Int := -1074

def maxExponent : Int := 971

/-- Full mantissas have 53 bits. -/
def mantissaBound : Nat := Nat.pow 2 53

def roundQuotient (num den : Nat) : Nat :=
  let quotient := num / den
  let twice := 2 * (num % den)
  if twice < den ∨ (twice = den ∧ quotient % 2 = 0) then quotient else quotient + 1

/-- The quotient `num / den` with `2 ^ exponent` taken out of it. -/
def unscale (num den : Nat) (exponent : Int) : Nat × Nat :=
  if exponent < 0 then (num * Nat.pow 2 (-exponent).toNat, den)
  else (num, den * Nat.pow 2 exponent.toNat)

/-- The exponent at which `num / den` has a full mantissa, if it is not too small for one. -/
def exponentOf (num den : Nat) : Int :=
  let guess := (num.log2 : Int) - den.log2 - 53
  let (n, d) := unscale num den guess
  max minExponent (if mantissaBound ≤ n / d then guess + 1 else guess)

def ofRatio (negative : Bool) (num den : Nat) : Binary64 :=
  if num = 0 then finite negative 0 minExponent
  else
    let exponent := exponentOf num den
    let (n, d) := unscale num den exponent
    let rounded := roundQuotient n d
    let (mantissa, exponent) :=
      if rounded = mantissaBound then (rounded / 2, exponent + 1) else (rounded, exponent)
    if maxExponent < exponent then infinite negative else finite negative mantissa exponent

def digitCount (n : Nat) : Nat :=
  (Nat.toDigits 10 n).length

/-- The number nearest to `digits * 10 ^ exponent`. Powers far out of range are not computed. -/
def ofDecimal (negative : Bool) (digits : Nat) (exponent : Int) : Binary64 :=
  let magnitude := exponent + digitCount digits
  if digits = 0 ∨ magnitude < -400 then finite negative 0 minExponent
  else if 400 < magnitude then infinite negative
  else if exponent < 0 then ofRatio negative digits (Nat.pow 10 (-exponent).toNat)
  else ofRatio negative (digits * Nat.pow 10 exponent.toNat) 1

def isZero : Binary64 → Bool
  | finite _ mantissa _ => mantissa == 0
  | _ => false

def truncate? : Binary64 → Option Int
  | finite negative mantissa exponent =>
      let whole :=
        if exponent < 0 then mantissa / Nat.pow 2 (-exponent).toNat
        else mantissa * Nat.pow 2 exponent.toNat
      some (if negative then -(whole : Int) else whole)
  | _ => none

end Binary64

end QueryAssist.Number
