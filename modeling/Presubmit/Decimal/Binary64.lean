/-! Binary floating point with 53 bits of precision. A value is a mantissa times a power of two, and
every operation rounds its exact result to nearest, ties to even. -/
namespace Presubmit.Decimal

structure Binary64 where
  mantissa : Nat
  exponent : Int
deriving DecidableEq, Repr

/-- Nearest integer to a quotient, ties to even. -/
def roundDiv (num den : Nat) : Nat :=
  let q := num / den
  let r := num % den
  if 2 * r < den then q
  else if den < 2 * r then q + 1
  else if q % 2 = 0 then q
  else q + 1

def pow2 (n : Nat) : Nat := Nat.pow 2 n

def pow10 (n : Nat) : Nat := Nat.pow 10 n

/-- The fraction divided by a power of two, as numerator and denominator. -/
def divPow2 (num den : Nat) (e : Int) : Nat × Nat :=
  if 0 ≤ e then (num, den * pow2 e.toNat) else (num * pow2 (-e).toNat, den)

namespace Binary64

def minExponent : Int := -1074

def maxExponent : Int := 971

def zero : Binary64 := ⟨0, minExponent⟩

/-- The nearest value to a quotient, unless it is beyond the largest one. -/
def ofFraction? (num den : Nat) : Option Binary64 :=
  if num = 0 then
    some zero
  else
    let guess : Int := (num.log2 : Int) - den.log2 - 52
    let scaled := divPow2 num den guess
    let fitted := if scaled.1 < scaled.2 * pow2 52 then guess - 1 else guess
    let e := max minExponent fitted
    let target := divPow2 num den e
    let m := roundDiv target.1 target.2
    let x : Binary64 := if m = pow2 53 then ⟨pow2 52, e + 1⟩ else ⟨m, e⟩
    if x.exponent ≤ maxExponent then some x else none

/-- Numerator and denominator of the exact value. -/
def fraction (x : Binary64) : Nat × Nat :=
  divPow2 x.mantissa 1 (-x.exponent)

def mul? (x y : Binary64) : Option Binary64 :=
  ofFraction? (x.fraction.1 * y.fraction.1) (x.fraction.2 * y.fraction.2)

def div? (x y : Binary64) : Option Binary64 :=
  ofFraction? (x.fraction.1 * y.fraction.2) (x.fraction.2 * y.fraction.1)

def ofPow10? (n : Nat) : Option Binary64 :=
  ofFraction? (pow10 n) 1

/-- The value times a power of ten up to the 308th, rounded once. -/
def shift10? (x : Binary64) (e : Int) : Option Binary64 := do
  let p ← ofPow10? e.natAbs
  if 0 ≤ e then x.mul? p else x.div? p

/-- Significand times a power of ten. The significand is rounded first; a power below the range of
the format is divided out in steps, and two steps leave nothing. -/
def ofScientific? (significand : Nat) (e : Int) : Option Binary64 := do
  let x ← ofFraction? significand 1
  if x.mantissa = 0 then
    some zero
  else if 308 < e then
    none
  else if -308 ≤ e then
    x.shift10? e
  else
    let y ← x.shift10? (-308)
    if -616 ≤ e then y.shift10? (e + 308) else some zero

end Binary64

end Presubmit.Decimal
