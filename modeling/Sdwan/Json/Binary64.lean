/-
Double precision numbers as bit patterns, with the two conversions JSON
needs: the nearest double to a decimal literal as the reader evaluates
it, and the shortest decimal that reads back to a double.

All arithmetic is exact, on `Nat`. A finite magnitude is `m · 2 ^ q`; the
reals nearest to it form an interval around it, and the shortest decimal
is the first point of a coarser and coarser decimal grid in it.
-/
import Sdwan.Text.Numeral

namespace Sdwan.Json.Binary64

-- ============================================== rounding

/-- The bits of positive infinity: every finite magnitude is below. -/
def infinity : Nat := 0x7FF * Nat.pow 2 52

/-- `2 ^ 52`, the least significand of a normal number. -/
def hidden : Nat := Nat.pow 2 52

/-- Divides and rounds to the nearest integer, a half to the even one. -/
def roundHalfEven (num den : Nat) : Nat :=
  let n := num / den
  let r := num % den
  if 2 * r < den then n
  else if den < 2 * r then n + 1
  else if n % 2 == 0 then n else n + 1

/-- `num / den / 2 ^ q` rounded, for an exponent of either sign. -/
def scaled (num den : Nat) (q : Int) : Nat :=
  if 0 ≤ q then roundHalfEven num (den * Nat.pow 2 q.toNat)
  else roundHalfEven (num * Nat.pow 2 (-q).toNat) den

/-- Whether `num / den < 2 ^ (53 + q)`. -/
def fitsAt (num den : Nat) (q : Int) : Bool :=
  if 0 ≤ q then num < den * Nat.pow 2 (53 + q.toNat)
  else num * Nat.pow 2 (-q).toNat < den * Nat.pow 2 53

/-- The least binary exponent, not below that of the subnormals, at which
the ratio has a significand below `2 ^ 53`. The estimate from the
logarithms is at most one too small. -/
def exponentFor (num den : Nat) : Int :=
  let guess : Int := (Nat.log2 num : Int) - Nat.log2 den - 53
  let q := if fitsAt num den guess then guess
    else if fitsAt num den (guess + 1) then guess + 1
    else guess + 2
  max q (-1074)

/-- The bits of the double nearest to `num / den`; `none` when that is not
finite. The significand of a carry runs into the exponent by itself. -/
def ofRatio (num den : Nat) : Option Nat :=
  if num == 0 then some 0
  else
    let q := exponentFor num den
    let bits := scaled num den q + (q + 1074).toNat * hidden
    if bits < infinity then some bits else none

/-- Significand and binary exponent of a finite magnitude. -/
def parts (bits : Nat) : Nat × Int :=
  let e := bits / hidden
  let f := bits % hidden
  if e == 0 then (f, -1074) else (f + hidden, (e : Int) - 1075)

/-- A finite magnitude as a ratio. -/
def toRatio (bits : Nat) : Nat × Nat :=
  let (m, q) := parts bits
  if 0 ≤ q then (m * Nat.pow 2 q.toNat, 1) else (m, Nat.pow 2 (-q).toNat)

/-- The double nearest to the product of a magnitude and `num / den`. -/
def times (bits num den : Nat) : Option Nat :=
  let (n, d) := toRatio bits
  ofRatio (n * num) (d * den)

-- ============================================== decimal literals

/-- The double nearest to `10 ^ n`, as a ratio; only `n ≤ 308` is asked for. -/
def powerOfTen (n : Nat) : Nat × Nat :=
  toRatio ((ofRatio (Nat.pow 10 n) 1).getD 0)

/-- Divides by `10 ^ 308` until the remaining exponent is that of a power
in range, then by that power; each division rounds. -/
def shrink (bits : Nat) (exponent : Nat) : (steps : Nat) → Nat
  | 0 => bits
  | steps + 1 =>
    if exponent ≤ 308 then
      let (n, d) := powerOfTen exponent
      (times bits d n).getD 0
    else if bits == 0 then 0
    else
      let (n, d) := powerOfTen 308
      shrink ((times bits d n).getD 0) (exponent - 308) steps

/-- The magnitude of `significand · 10 ^ exponent` as the reader computes
it: the significand is rounded, then multiplied or divided by the rounded
power of ten. `none` when the number is too large. -/
def ofDecimal (significand : Nat) (exponent : Int) : Option Nat :=
  (ofRatio significand 1).bind fun bits =>
    if 0 ≤ exponent then
      if 308 < exponent then (if bits == 0 then some 0 else none)
      else
        let (n, d) := powerOfTen exponent.toNat
        times bits n d
    else some (shrink bits (-exponent).toNat 5)

-- ============================================== shortest decimals

/-- `a / b < c / d` for positive denominators. -/
def ratioLt (x y : Nat × Nat) : Bool := x.1 * y.2 < y.1 * x.2

/-- A decimal `d · 10 ^ k` as a ratio. -/
def decimalRatio (d : Nat) (k : Int) : Nat × Nat :=
  if 0 ≤ k then (d * Nat.pow 10 k.toNat, 1) else (d, Nat.pow 10 (-k).toNat)

/-- The ratio multiplied by `2 ^ q`. -/
def scaleRatio (m : Nat) (q : Int) : Nat × Nat :=
  if 0 ≤ q then (m * Nat.pow 2 q.toNat, 1) else (m, Nat.pow 2 (-q).toNat)

/-- Whether a decimal rounds to the magnitude: it lies between the
midpoints to the neighbours, which belong iff the significand is even.
Below a power of two the lower midpoint is half as far away. -/
def roundsTo (bits : Nat) (d : Nat) (k : Int) : Bool :=
  let (m, q) := parts bits
  let x := decimalRatio d k
  let low := if m == hidden && -1074 < q then scaleRatio (4 * m - 1) (q - 2)
    else scaleRatio (2 * m - 1) (q - 1)
  let high := scaleRatio (2 * m + 1) (q - 1)
  if m % 2 == 0 then !ratioLt x low && !ratioLt high x
  else ratioLt low x && ratioLt x high

/-- `⌊v / 10 ^ k⌋` for a ratio `v`. -/
def floorAt (v : Nat × Nat) (k : Int) : Nat :=
  if 0 ≤ k then v.1 / (v.2 * Nat.pow 10 k.toNat) else v.1 * Nat.pow 10 (-k).toNat / v.2

/-- The position of the first digit of a positive ratio: `10 ^ e ≤ v <
10 ^ (e + 1)`. The estimate from the binary logarithm is corrected by one
in either direction. -/
def leadingExponent (v : Nat × Nat) : Int :=
  let guess : Int := ((Nat.log2 v.1 : Int) - Nat.log2 v.2) * 30103 / 100000
  if floorAt v guess == 0 then guess - 1
  else if 10 ≤ floorAt v guess then guess + 1
  else guess

/-- The nearer of two decimals on one grid, of equally near ones the even. -/
def nearer (v : Nat × Nat) (a b : Nat) (k : Int) : Nat :=
  let twice := (2 * v.1, v.2)
  let middle := decimalRatio (a + b) k
  if ratioLt twice middle then a
  else if ratioLt middle twice then b
  else if a % 2 == 0 then a else b

/-- Tries grids of `digits`, `digits + 1`, … digits; on each only the two
neighbours of the value can round to it. -/
def shortestFrom (bits : Nat) (v : Nat × Nat) (e : Int) :
    (fuel digits : Nat) → Nat × Int
  | 0, digits => (floorAt v (e + 1 - digits), e + 1 - digits)
  | fuel + 1, digits =>
    let k := e + 1 - digits
    let a := floorAt v k
    match roundsTo bits a k, roundsTo bits (a + 1) k with
    | true, true => (nearer v a (a + 1) k, k)
    | true, false => (a, k)
    | false, true => (a + 1, k)
    | false, false => shortestFrom bits v e fuel (digits + 1)

/-- The digits and exponent of the shortest decimal that rounds to a
positive finite magnitude; 17 digits are always enough. A value just
below a power of ten rounds up to it, which is one digit, not two. -/
def shortest (bits : Nat) : Nat × Int :=
  let v := toRatio bits
  match shortestFrom bits v (leadingExponent v) 17 1 with
  | (10, k) => (1, k + 1)
  | found => found

-- ============================================== layout

/-- How a magnitude is laid out: exponents of the first digit from
`lowest` to `highest` are written positionally, the others after an `e`
with a sign. A whole number keeps one zero behind the point. -/
structure Layout where
  lowest : Int
  highest : Int
  plusSign : Bool

/-- Positional from `1e-5` and below `1e16`; `1e+16` and `1e-7` beyond. -/
def layout : Layout := ⟨-5, 15, true⟩

/-- The digits of `d · 10 ^ k` in the given layout. -/
def Layout.render (l : Layout) (d : Nat) (k : Int) : List Char :=
  let ds := Nat.toDigits 10 d
  let e : Int := k + ds.length - 1
  if l.lowest ≤ e ∧ e ≤ l.highest then
    if 0 ≤ k then ds ++ List.replicate k.toNat '0' ++ ['.', '0']
    else if 0 ≤ e then ds.take (e.toNat + 1) ++ '.' :: ds.drop (e.toNat + 1)
    else '0' :: '.' :: List.replicate (-e - 1).toNat '0' ++ ds
  else
    let mantissa := match ds with
      | [] => []
      | [x] => [x]
      | x :: xs => x :: '.' :: xs
    let sign := if e < 0 then ['-'] else if l.plusSign then ['+'] else []
    mantissa ++ 'e' :: sign ++ Nat.toDigits 10 e.natAbs

/-- Splits off the sign bit. -/
def magnitude (bits : UInt64) : Bool × Nat :=
  (Nat.pow 2 63 ≤ bits.toNat, bits.toNat % Nat.pow 2 63)

/-- The text of a finite double. -/
def render (bits : UInt64) : List Char :=
  let (negative, mag) := magnitude bits
  let digits := if mag == 0 then ['0', '.', '0']
    else let (d, k) := shortest mag; layout.render d k
  if negative then '-' :: digits else digits

/-- Puts a sign before a magnitude. -/
def withSign (negative : Bool) (mag : Nat) : UInt64 :=
  UInt64.ofNat (if negative then mag + Nat.pow 2 63 else mag)

end Sdwan.Json.Binary64
