import Presubmit.Decimal.Binary64

/-! Shortest decimal text of a binary floating-point value: the fewest digits that read back as the
value, and of those the nearest. -/
namespace Presubmit.Decimal

/-- Whether a fraction rounds to the value. The ends of the interval belong to an even mantissa. -/
def readsBack (x : Binary64) (num den : Nat) : Bool :=
  let below := if x.mantissa = pow2 52 ∧ Binary64.minExponent < x.exponent then 1 else 2
  let lo := divPow2 (4 * x.mantissa - below) 1 (2 - x.exponent)
  let hi := divPow2 (4 * x.mantissa + 2) 1 (2 - x.exponent)
  let even := x.mantissa % 2 = 0
  (lo.1 * den < num * lo.2 || (even && lo.1 * den == num * lo.2)) &&
    (num * hi.2 < hi.1 * den || (even && num * hi.2 == hi.1 * den))

/-- A count of a power of ten as a fraction. -/
def gridPoint (c : Nat) (k : Int) : Nat × Nat :=
  if 0 ≤ k then (c * pow10 k.toNat, 1) else (c, pow10 (-k).toNat)

/-- A neighbour of the value on a decimal grid that reads back, the nearer one if both do. -/
def onGrid? (x : Binary64) (k : Int) : Option Nat :=
  let v := x.fraction
  let unit := gridPoint 1 k
  let c := v.1 * unit.2 / (v.2 * unit.1)
  let reads := fun n => readsBack x (gridPoint n k).1 (gridPoint n k).2
  let nearest := roundDiv (v.1 * unit.2) (v.2 * unit.1)
  if reads nearest then some nearest
  else if reads c then some c
  else if reads (c + 1) then some (c + 1)
  else none

/-- The power of ten of the first digit. -/
def leadingExponent (x : Binary64) : Int :=
  let v := x.fraction
  ((Nat.toDigits 10 (v.1 * pow10 400 / v.2)).length : Int) - 401

/-- A count and the power of ten that it counts. -/
def shortest (x : Binary64) : Nat × Int :=
  let lead := leadingExponent x
  let grids := (List.range 17).map fun (n : Nat) => lead - (n : Int)
  (grids.findSome? fun k => (onGrid? x k).map fun c => (c, k)).getD (0, 0)

private def dropZeros (digits : List Char) : List Char :=
  (digits.reverse.dropWhile (· == '0')).reverse

/-- A sign is always written, and no leading zero. -/
def exponentText (e : Int) : List Char :=
  'e' :: (if e < 0 then '-' else '+') :: Nat.toDigits 10 e.natAbs

/-- Positional from the fifth decimal place up to sixteen digits before the point, and with an
exponent outside. -/
def layout (digits : List Char) (lead : Int) : List Char :=
  if -5 ≤ lead ∧ lead ≤ 15 then
    if lead < 0 then
      '0' :: '.' :: List.replicate (-lead - 1).toNat '0' ++ digits
    else
      let whole := lead.toNat + 1
      if digits.length ≤ whole then
        digits ++ List.replicate (whole - digits.length) '0' ++ ['.', '0']
      else
        digits.take whole ++ '.' :: digits.drop whole
  else
    match digits with
    | [] => []
    | [d] => d :: exponentText lead
    | d :: ds => d :: '.' :: ds ++ exponentText lead

def text (negative : Bool) (x : Binary64) : List Char :=
  let body :=
    if x.mantissa = 0 then
      ['0', '.', '0']
    else
      let (c, k) := shortest x
      let digits := Nat.toDigits 10 c
      layout (dropZeros digits) (k + digits.length - 1)
  if negative then '-' :: body else body

end Presubmit.Decimal
