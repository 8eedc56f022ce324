/-
  Binary floating point with 53 bits, in exact integers.

  A finite number is a sign, a mantissa and an exponent, with the value ± mantissa · 2 ^ exponent; a
  non-zero mantissa has 53 bits unless the exponent is the least one.  Every operation goes through
  exact ratios of natural numbers and rounds ONCE, to nearest and ties to even (`ofRatio`), so there
  is no machine arithmetic to trust and every statement about a number is one about `Nat`.

  Numbers come in from a document of YAML, from JSON and from texts in log fields, and go out into
  messages and lines of JSON.  In between they are compared, with each other and with whole numbers, by
  their exact values: `1`, `1.0` and `true` are one key of a mapping (`compare?`, `compareInt?`).
-/

namespace SecureStartup

/-- A double-precision number.  All not-a-numbers are one. -/
inductive Binary64 where
  | nan
  | infinite (negative : Bool)
  | finite (negative : Bool) (mantissa : Nat) (exponent : Int)
  deriving DecidableEq, Inhabited, Repr

namespace Binary64

/-- The least exponent: steps between the smallest numbers are `2 ^ (-1074)`. -/
def minExponent : Int := -1074

/-- The largest exponent of a 53-bit mantissa. -/
def maxExponent : Int := 971

/-- Zero, with the given sign. -/
def zero (negative : Bool) : Binary64 := .finite negative 0 minExponent

/-! ## Rounding a ratio -/

/-- `num / den` in units of `2 ^ e`, as a ratio again. -/
def inUnits (num den : Nat) (e : Int) : Nat × Nat :=
  if 0 ≤ e then (num, den * Nat.pow 2 e.toNat) else (num * Nat.pow 2 (-e).toNat, den)

/-- A ratio rounded to the nearest whole number, ties to even. -/
def roundRatio (num den : Nat) : Nat :=
  let q := num / den
  let r := num % den
  if den < 2 * r || (2 * r == den && q % 2 == 1) then q + 1 else q

/-- The exponent whose unit leaves 53 bits of `num / den` in front of the point, or the least one. -/
def fittingExponent (num den : Nat) : Int :=
  let d : Int := (Nat.log2 num : Int) - Nat.log2 den
  let (n, m) := inUnits num den (d - 52)
  let e := if n / m < Nat.pow 2 52 then d - 53 else d - 52
  max e minExponent

/-- The double nearest to `num / den` (`den` is positive); beyond the largest one, infinity. -/
def ofRatio (negative : Bool) (num den : Nat) : Binary64 :=
  if num == 0 then zero negative
  else
    let e := fittingExponent num den
    let (n, m) := inUnits num den e
    let q := roundRatio n m
    let (q, e) := if q == Nat.pow 2 53 then (Nat.pow 2 52, e + 1) else (q, e)
    if maxExponent < e then .infinite negative else .finite negative q e

/-- The double nearest to `digits · 10 ^ exponent`. -/
def ofDecimal (negative : Bool) (digits : Nat) (exponent : Int) : Binary64 :=
  let size : Int := (Nat.toDigits 10 digits).length + exponent
  if digits == 0 then zero negative
  else if 400 < size then .infinite negative
  else if size < -400 then zero negative
  else if 0 ≤ exponent then ofRatio negative (digits * Nat.pow 10 exponent.toNat) 1
  else ofRatio negative digits (Nat.pow 10 (-exponent).toNat)

/-- The double nearest to a whole number, or none when it is beyond all doubles. -/
def ofInt? (i : Int) : Option Binary64 :=
  match ofRatio (i < 0) i.natAbs 1 with
  | .infinite _ => none
  | x => some x

/-! ## The exact value -/

/-- The exact value of a finite number as numerator and positive denominator. -/
def ratio? : Binary64 → Option (Int × Nat)
  | .finite negative m e =>
    let (n, d) := if 0 ≤ e then (m * Nat.pow 2 e.toNat, 1) else (m, Nat.pow 2 (-e).toNat)
    some (if negative then -(n : Int) else n, d)
  | _ => none

/-- Whether a number has a minus sign; not-a-number has none. -/
def isNegative : Binary64 → Bool
  | .nan => false
  | .infinite s => s
  | .finite s _ _ => s

/-- Positive or negative zero. -/
def isZero : Binary64 → Bool
  | .finite _ m _ => m == 0
  | _ => false

/-- The sum, rounded once.  A sum of zero is positive unless both parts are negative zeros; opposite
    infinities have no sum. -/
def add (a b : Binary64) : Binary64 :=
  match a, b with
  | .nan, _ | _, .nan => .nan
  | .infinite s, .infinite t => if s == t then .infinite s else .nan
  | .infinite s, _ | _, .infinite s => .infinite s
  | .finite _ _ _, .finite _ _ _ =>
    match a.ratio?, b.ratio? with
    | some (n, d), some (n', d') =>
      let sum := n * d' + n' * d
      let negative := if a.isZero && b.isZero then a.isNegative && b.isNegative else sum < 0
      ofRatio negative sum.natAbs (d * d')
    | _, _ => .nan

/-- The product, rounded once.  Its sign is negative when the signs differ; zero times infinity has
    no value. -/
def mul (a b : Binary64) : Binary64 :=
  let negative := a.isNegative != b.isNegative
  match a, b with
  | .nan, _ | _, .nan => .nan
  | .infinite _, x | x, .infinite _ => if x.isZero then .nan else .infinite negative
  | .finite _ _ _, .finite _ _ _ =>
    match a.ratio?, b.ratio? with
    | some (n, d), some (n', d') => ofRatio negative (n * n').natAbs (d * d')
    | _, _ => .nan

/-- The number with the other sign. -/
def negate : Binary64 → Binary64
  | .nan => .nan
  | .infinite s => .infinite (!s)
  | .finite s m e => .finite (!s) m e

/-- The whole part, towards zero, of a finite number. -/
def truncate? (x : Binary64) : Option Int :=
  x.ratio?.map fun (n, d) => Int.tdiv n d

/-! ## Order -/

/-- A whole number compared with a double, by exact value; none for not-a-number. -/
def compareInt? (i : Int) : Binary64 → Option Ordering
  | .nan => none
  | .infinite negative => some (if negative then .gt else .lt)
  | x@(.finite _ _ _) =>
    x.ratio?.map fun (n, d) => compare (i * d) n

/-- Two doubles compared by value: the zeros are equal, not-a-number is comparable with nothing. -/
def compare? : Binary64 → Binary64 → Option Ordering
  | .nan, _ => none
  | _, .nan => none
  | .infinite a, .infinite b => some (if a == b then .eq else if a then .lt else .gt)
  | .infinite a, _ => some (if a then .lt else .gt)
  | _, .infinite b => some (if b then .gt else .lt)
  | x, y =>
    match x.ratio?, y.ratio? with
    | some (n, d), some (n', d') => some (compare (n * d') (n' * d))
    | _, _ => none

/-- Equality by value. -/
def same (x y : Binary64) : Bool := compare? x y == some .eq

end Binary64

end SecureStartup
