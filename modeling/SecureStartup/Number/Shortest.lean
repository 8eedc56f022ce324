import SecureStartup.Number.Binary64

/-!
  The shortest decimal that reads back.

  The reals that round to a double form an interval around it; its ends belong to it exactly when
  the mantissa is even.  For one digit, two digits, and so on up to seventeen, the two neighbours
  of the double on that decimal grid are tested in exact arithmetic; the first grid with a hit wins,
  and of two hits the nearer one.

  `text` is how a number is written everywhere in the library: positional between `1e-04` and
  `1e+16`, with `.0` on whole numbers, and with a signed exponent of at least two digits outside.

  That seventeen digits are always enough, and that what is found reads back, is proved where lines of
  JSON are read again; the definition here does not rely on it and has an answer in any case.
-/

namespace SecureStartup.Binary64

/-- A decimal: `digits · 10 ^ exponent`. -/
structure Decimal where
  digits : Nat
  exponent : Int
  deriving DecidableEq, Repr

/-- Everything about one positive double that the search for digits needs, in quarter steps of its
    last place: the interval `[low, high]` and the double itself, as numerators over `unit`. -/
structure Interval where
  low : Nat
  value : Nat
  high : Nat
  closed : Bool
  /-- The size of a quarter step, as numerator and denominator. -/
  unit : Nat × Nat

/-- The interval of reals that round to `m · 2 ^ e`. -/
def Interval.of (m : Nat) (e : Int) : Interval :=
  let low := if m == Nat.pow 2 52 && e != minExponent then 4 * m - 1 else 4 * m - 2
  let q := e - 2
  ⟨low, 4 * m, 4 * m + 2, m % 2 == 0,
    if 0 ≤ q then (Nat.pow 2 q.toNat, 1) else (1, Nat.pow 2 (-q).toNat)⟩

/-- The power of ten just above a positive ratio: `10 ^ (k - 1) ≤ num / den < 10 ^ k`. -/
def magnitude (num den : Nat) : Int :=
  if den ≤ num then (Nat.toDigits 10 (num / den)).length
  else 1 - ((Nat.toDigits 10 (den / num)).length : Int)

/-- The best decimal of `n` digits inside the interval, if there is one: of the neighbours below
    and above the nearer one, the even one when they are equally near. -/
def Interval.decimal? (v : Interval) (k : Int) (n : Nat) : Option Decimal :=
  let j := k - n
  let up := v.unit.1 * Nat.pow 10 (-j).toNat
  let grid := v.unit.2 * Nat.pow 10 j.toNat
  let (lo, x, hi) := (v.low * up, v.value * up, v.high * up)
  let inside := fun c =>
    (lo < c * grid || (v.closed && lo == c * grid)) && (c * grid < hi || (v.closed && c * grid == hi))
  let d := x / grid
  let below := x - d * grid
  let above := (d + 1) * grid - x
  match d != 0 && inside d, inside (d + 1) with
  | true, true =>
    some ⟨if below < above || (below == above && d % 2 == 0) then d else d + 1, j⟩
  | true, false => some ⟨d, j⟩
  | false, true => some ⟨d + 1, j⟩
  | false, false => none

/-- Trailing zeros of the digits moved into the exponent; `fuel` bounds how many. -/
def Decimal.trimmed : Nat → Decimal → Decimal
  | 0, d => d
  | n + 1, d =>
    if d.digits != 0 && d.digits % 10 == 0 then trimmed n ⟨d.digits / 10, d.exponent + 1⟩ else d

/-- The shortest decimal that rounds to the positive double `m · 2 ^ e`. -/
def shortest (m : Nat) (e : Int) : Decimal :=
  let v := Interval.of m e
  let k := magnitude (v.value * v.unit.1) v.unit.2
  let tries := (List.range 17).map (· + 1)
  ((tries.findSome? (v.decimal? k)).getD ⟨m, 0⟩).trimmed 20

/-- The layout of a positive decimal: positional for a magnitude in `-3 .. 16`, else scientific. -/
def Decimal.text (d : Decimal) : List Char :=
  let ds := Nat.toDigits 10 d.digits
  let n : Int := ds.length
  let point := n + d.exponent
  if -4 < point && point ≤ 16 then
    if point ≤ 0 then '0' :: '.' :: (List.replicate (-point).toNat '0' ++ ds)
    else if n ≤ point then ds ++ List.replicate (point - n).toNat '0' ++ ['.', '0']
    else ds.take point.toNat ++ '.' :: ds.drop point.toNat
  else
    let e := point - 1
    let es := Nat.toDigits 10 e.natAbs
    let head := match ds with
      | [] => []
      | [c] => [c]
      | c :: r => c :: '.' :: r
    head ++ ['e', if e < 0 then '-' else '+'] ++ List.replicate (2 - es.length) '0' ++ es

/-- How a double is written.  The words for what is not finite are the caller's. -/
def textWith (nanWord infinityWord : String) : Binary64 → String
  | .nan => nanWord
  | .infinite negative => (if negative then "-" else "") ++ infinityWord
  | .finite negative m e =>
    let body := if m == 0 then ['0', '.', '0'] else (shortest m e).text
    String.ofList (if negative then '-' :: body else body)

/-- How a double is written inside messages: `nan`, `inf`, `0.1`, `1e+16`. -/
def text (x : Binary64) : String := textWith "nan" "inf" x

end SecureStartup.Binary64
